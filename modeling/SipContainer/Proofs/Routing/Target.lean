import Mathlib.Logic.Relation
import SipContainer.Proofs.Message.Derivation
import SipContainer.Proofs.Routing.Recovery
/-!
A request without a routing identity is ours when its target is, and of the target only three things
count: the transport and the port that it comes to, and the host in any letter case. So nothing is
decided by what else the address says, nor by writing out what holds anyway.
-/

namespace SipContainer

open Text

/-- The transport of an address: the one that its first `transport` parameter names, in any letter case,
or else the one on which the request arrived. -/
inductive Uri.EffectiveTransport (uri : Uri) (arrival : Transport) : Transport → Prop
  | named {value : String} {transport : Transport} (first : uri.First "transport" (some value))
      (token : lower value = transport.token) : EffectiveTransport uri arrival transport
  | arrival (unnamed : ∀ value, uri.First "transport" (some value) →
      ∀ transport : Transport, lower value ≠ transport.token) :
      EffectiveTransport uri arrival arrival

inductive Uri.EffectivePort (uri : Uri) (transport : Transport) : UInt16 → Prop
  | explicit {port : UInt16} (given : uri.port = some port) : EffectivePort uri transport port
  | secure (absent : uri.port = none) (scheme : lower uri.scheme = "sips") :
      EffectivePort uri transport 5061
  | usual (absent : uri.port = none) (scheme : lower uri.scheme ≠ "sips") :
      EffectivePort uri transport transport.defaultPort

theorem Transport.ofToken?_eq_some_iff {text : String} {transport : Transport} :
    ofToken? text = some transport ↔ lower text = transport.token := by
  constructor
  · intro found
    have listed : all.find? (fun known => known.token == lower text) = some transport := found
    have same := List.find?_some listed
    exact (beq_iff_eq.mp same).symm
  · intro same
    rw [ofToken?, same]
    cases transport <;> rfl

namespace Uri

variable {uri : Uri} {arrival transport : Transport}

theorem transport?_eq_some_iff : uri.transport? = some transport ↔
    ∃ value, uri.First "transport" (some value) ∧ lower value = transport.token := by
  simp only [transport?, Option.bind_eq_some_iff, param?_eq_some_iff, Transport.ofToken?_eq_some_iff]

theorem effectiveTransport_iff :
    uri.EffectiveTransport arrival transport ↔ uri.transport?.getD arrival = transport := by
  constructor
  · intro effective
    cases effective with
    | named first token => rw [transport?_eq_some_iff.mpr ⟨_, first, token⟩, Option.getD_some]
    | arrival unnamed =>
        cases named : uri.transport? with
        | none => rfl
        | some other =>
            obtain ⟨value, first, token⟩ := transport?_eq_some_iff.mp named
            exact absurd token (unnamed value first other)
  · intro same
    subst same
    cases named : uri.transport? with
    | none =>
        refine .arrival fun value first other token => ?_
        rw [transport?_eq_some_iff.mpr ⟨value, first, token⟩] at named
        cases named
    | some other =>
        obtain ⟨value, first, token⟩ := transport?_eq_some_iff.mp named
        exact .named first token

theorem isSecure_iff : uri.isSecure = true ↔ lower uri.scheme = "sips" :=
  beq_iff_eq

theorem effectivePort_iff {port : UInt16} :
    uri.EffectivePort transport port ↔ uri.effectivePort transport = port := by
  unfold effectivePort
  constructor
  · intro effective
    cases effective with
    | explicit given => rw [given]
    | secure absent scheme =>
        rw [absent]
        exact if_pos (isSecure_iff.mpr scheme)
    | usual absent scheme =>
        rw [absent]
        exact if_neg (mt isSecure_iff.mp scheme)
  · intro same
    subst same
    cases given : uri.port with
    | some port => exact .explicit given
    | none =>
        by_cases secure : uri.isSecure = true
        · simp only [if_pos secure]
          exact .secure given (isSecure_iff.mp secure)
        · simp only [if_neg secure]
          exact .usual given (mt isSecure_iff.mpr secure)

def effectiveTarget (uri : Uri) (arrival : Transport) : Transport × UInt16 × String :=
  let transport := uri.transport?.getD arrival
  (transport, uri.effectivePort transport, lower uri.host)

theorem effectiveTarget_eq {port : UInt16} (reached : uri.EffectiveTransport arrival transport)
    (arrives : uri.EffectivePort transport port) :
    uri.effectiveTarget arrival = (transport, port, lower uri.host) := by
  have through := effectiveTransport_iff.mp reached
  have on := effectivePort_iff.mp arrives
  subst through on
  rfl

theorem bareHost_of_plain {host : String} (plain : ∀ char ∈ host.toList, char ≠ '[' ∧ char ≠ ']') :
    Listener.bareHost host = host := by
  have opening : host.toList.dropWhile (· == '[') = host.toList :=
    dropWhile_of_head fun first present =>
      beq_eq_false_iff_ne.mpr (plain first (List.mem_of_head? present)).1
  have closing : dropEndWhile (· == ']') host.toList = host.toList :=
    dropEndWhile_of_last fun last present =>
      beq_eq_false_iff_ne.mpr (plain last (List.mem_of_getLast? present)).2
  rw [Listener.bareHost, opening, closing, String.ofList_toList]

theorem bareHost_of_parse {text : String} (parsed : parse text = .ok uri) :
    Listener.bareHost uri.host = uri.host := by
  obtain ⟨spelling, spelled, named⟩ := parse_eq_ok_iff_spelled.mp parsed
  subst named
  apply bareHost_of_plain
  intro char member
  have admitted := spelled.grammatical.host.2 char member
  have refused :
      (if spelling.bracketed then isAddressCharacter else isHostNameCharacter) '[' ≠ true ∧
        (if spelling.bracketed then isAddressCharacter else isHostNameCharacter) ']' ≠ true := by
    cases spelling.bracketed with
    | false => decide
    | true => decide
  constructor
  · intro opening
    subst opening
    exact refused.1 admitted
  · intro closing
    subst closing
    exact refused.2 admitted

/-! ### Addresses that differ in what does not count -/

def namesTransport (param : UriParam) : Bool :=
  lower param.1 == "transport"

/-- What may be different between two spellings without a different target for a request that arrives
on this transport. -/
inductive Change (arrival : Transport) : Spelling → Spelling → Prop
  | scheme {spelling : Spelling} {letters : String} (same : lower letters = lower spelling.scheme) :
      Change arrival spelling { spelling with scheme := letters }
  | user {spelling : Spelling} (user : Option String) :
      Change arrival spelling { spelling with user }
  | host {spelling : Spelling} {host : String} (same : lower host = lower spelling.host) :
      Change arrival spelling { spelling with host }
  | others {spelling : Spelling} {params : List UriParam}
      (kept : params.filter namesTransport = spelling.params.filter namesTransport) :
      Change arrival spelling { spelling with params }
  | token {spelling : Spelling} {before after : List UriParam} {name value letters : String}
      (parts : spelling.params = before ++ (name, some value) :: after)
      (named : lower name = "transport") (same : lower letters = lower value) :
      Change arrival spelling { spelling with params := before ++ (name, some letters) :: after }
  | port {spelling : Spelling} {digits : String} {transport : Transport} {port : UInt16}
      (absent : spelling.port = none)
      (effective : spelling.uri.EffectiveTransport arrival transport)
      (usual : spelling.uri.EffectivePort transport port)
      (same : Spelling.number digits = port.toNat) :
      Change arrival spelling { spelling with port := some digits }
  | transport {spelling : Spelling} {before after : List UriParam} {name value : String}
      (parts : spelling.params = before ++ after)
      (effective : spelling.uri.EffectiveTransport arrival arrival)
      (named : lower name = "transport") (token : lower value = arrival.token) :
      Change arrival spelling { spelling with params := before ++ (name, some value) :: after }

theorem transport?_eq (uri : Uri) : uri.transport? =
    ((uri.params.filter namesTransport).head?.bind Prod.snd).bind Transport.ofToken? := by
  rw [List.head?_filter]
  rfl

theorem effectiveTarget_congr {uri other : Uri} {arrival : Transport}
    (transport : uri.transport?.getD arrival = other.transport?.getD arrival)
    (scheme : uri.scheme = other.scheme) (port : uri.port = other.port)
    (host : lower uri.host = lower other.host) :
    uri.effectiveTarget arrival = other.effectiveTarget arrival := by
  unfold effectiveTarget effectivePort isSecure
  rw [transport, scheme, port, host]

theorem transport?_letters (uri : Uri) {before after : List UriParam} {name value letters : String}
    (parts : uri.params = before ++ (name, some value) :: after)
    (named : lower name = "transport") (same : lower letters = lower value) :
    uri.transport? =
      Uri.transport? { uri with params := before ++ (name, some letters) :: after } := by
  have counts (value : Option String) : namesTransport (name, value) = true := beq_iff_eq.mpr named
  rw [transport?_eq, transport?_eq, parts, List.filter_append, List.filter_append,
    List.filter_cons_of_pos (counts _), List.filter_cons_of_pos (counts _)]
  cases before.filter namesTransport with
  | nil =>
      change Transport.ofToken? value = Transport.ofToken? letters
      rw [Transport.ofToken?, Transport.ofToken?, same]
  | cons first others => rfl

/-- A parameter that names the transport which is used anyway goes unnoticed wherever it stands. -/
theorem transport?_inserted (uri : Uri) {before after : List UriParam} {name value : String}
    (parts : uri.params = before ++ after) (anyway : uri.transport?.getD arrival = arrival)
    (named : lower name = "transport") (token : lower value = arrival.token) :
    (Uri.transport? { uri with params := before ++ (name, some value) :: after }).getD arrival =
      arrival := by
  have counts : namesTransport (name, some value) = true := beq_iff_eq.mpr named
  rw [transport?_eq, parts, List.filter_append] at anyway
  rw [transport?_eq, List.filter_append, List.filter_cons_of_pos counts]
  cases earlier : before.filter namesTransport with
  | nil =>
      change (Transport.ofToken? value).getD arrival = arrival
      rw [Transport.ofToken?_eq_some_iff.mpr token, Option.getD_some]
  | cons first others =>
      rw [earlier] at anyway
      exact anyway

theorem Change.effectiveTarget {arrival : Transport} {spelling other : Spelling}
    (change : Change arrival spelling other) :
    spelling.uri.effectiveTarget arrival = other.uri.effectiveTarget arrival := by
  cases change with
  | scheme same => exact effectiveTarget_congr rfl same.symm rfl rfl
  | user user => rfl
  | host same => exact effectiveTarget_congr rfl rfl rfl same.symm
  | others kept =>
      refine effectiveTarget_congr ?_ rfl rfl rfl
      rw [transport?_eq, transport?_eq]
      simp only [Spelling.uri, kept]
  | token parts named same =>
      have letters := transport?_letters spelling.uri parts named same
      exact effectiveTarget_congr (congrArg (fun found => found.getD arrival) letters) rfl rfl rfl
  | @port digits transport port absent effective usual same =>
      have written : Spelling.uri { spelling with port := some digits } =
          { spelling.uri with port := some port } := by
        simp only [Spelling.uri, Option.map_some, same, UInt16.ofNat_toNat]
      have through := effectiveTransport_iff.mp effective
      have reached : Uri.EffectiveTransport { spelling.uri with port := some port } arrival transport :=
        effectiveTransport_iff.mpr through
      rw [written, effectiveTarget_eq effective usual, effectiveTarget_eq reached (.explicit rfl)]
  | transport parts effective named token =>
      have anyway := effectiveTransport_iff.mp effective
      have again := transport?_inserted spelling.uri parts anyway named token
      exact effectiveTarget_congr (anyway.trans again.symm) rfl rfl rfl

theorem effectiveTarget_of_changes {arrival : Transport} {spelling other : Spelling}
    (changes : Relation.EqvGen (Change arrival) spelling other) :
    spelling.uri.effectiveTarget arrival = other.uri.effectiveTarget arrival := by
  induction changes with
  | rel _ _ change => exact change.effectiveTarget
  | refl _ => rfl
  | symm _ _ _ ih => exact ih.symm
  | trans _ _ _ _ _ first second => exact first.trans second

end Uri

namespace RouteDecision

variable {table : NameTable} {listeners : List Listener} {request other : Request}

/-! ### Whose target it is -/

structure Unidentified (request : Request) (text : String) : Prop where
  bare : Bare request
  unmarked : Unmarked request
  parsed : Uri.parse text = .ok request.target

def Ours (listeners : List Listener) (request : Request) : Prop :=
  ∃ transport port, request.target.EffectiveTransport request.transport transport ∧
    request.target.EffectivePort transport port ∧
    ∃ listener ∈ listeners, listener.transport = transport ∧ listener.port = port ∧
      lower (Listener.bareHost listener.host) = lower request.target.host

theorem ours_iff : Ours listeners request ↔
    ∃ listener ∈ listeners,
      (listener.transport, listener.port, lower (Listener.bareHost listener.host)) =
        request.target.effectiveTarget request.transport := by
  unfold Ours Uri.effectiveTarget
  simp only [Uri.effectiveTransport_iff, Uri.effectivePort_iff, Prod.mk.injEq]
  constructor
  · intro ours
    obtain ⟨transport, port, reached, arrives, listener, member, through, on, host⟩ := ours
    subst reached arrives
    exact ⟨listener, member, through, on, host⟩
  · intro target
    obtain ⟨listener, member, through, on, host⟩ := target
    exact ⟨_, _, rfl, rfl, listener, member, through, on, host⟩

theorem owned_iff_ours {text : String} (parsed : Uri.parse text = .ok request.target) :
    Owned listeners request ↔ Ours listeners request := by
  rw [ours_iff]
  apply exists_congr
  intro listener
  apply and_congr_right
  intro _
  unfold Uri.effectiveTarget
  simp only [Prod.mk.injEq]
  constructor
  · intro owns
    refine ⟨owns.transport, owns.port, ?_⟩
    rw [owns.host, Uri.bareHost_of_parse parsed]
  · intro same
    obtain ⟨through, on, host⟩ := same
    refine ⟨on, through, ?_⟩
    rw [host, Uri.bareHost_of_parse parsed]

def SameTarget (request other : Request) : Prop :=
  ∃ transport port, request.target.EffectiveTransport request.transport transport ∧
    other.target.EffectiveTransport other.transport transport ∧
    request.target.EffectivePort transport port ∧ other.target.EffectivePort transport port ∧
    lower request.target.host = lower other.target.host

theorem SameTarget.effectiveTarget (same : SameTarget request other) :
    other.target.effectiveTarget other.transport =
      request.target.effectiveTarget request.transport := by
  obtain ⟨transport, port, reached, alsoReached, arrives, alsoArrives, host⟩ := same
  rw [Uri.effectiveTarget_eq reached arrives, Uri.effectiveTarget_eq alsoReached alsoArrives, host]

/-- Both are relayed, or dropped, or refused for want of an application, each with its own words. -/
inductive SameDecision (table : NameTable) (listeners : List Listener) (request other : Request) :
    Prop
  | relayed (first : decide table listeners request = .ok relay)
      (second : decide table listeners other = .ok relay)
  | dropped (first : decide table listeners request = .ok drop)
      (second : decide table listeners other = .ok drop)
  | refused (first : decide table listeners request = .error (notFound request))
      (second : decide table listeners other = .error (notFound other))

theorem decide_of_ours {text : String} (unidentified : Unidentified request text)
    (ours : Ours listeners request) :
    decide table listeners request =
      if request.method = .ack then .ok drop else .error (notFound request) :=
  decide_of_owned unidentified.bare unidentified.unmarked
    ((owned_iff_ours unidentified.parsed).mpr ours)

theorem decide_of_not_ours {text : String} (unidentified : Unidentified request text)
    (foreign : ¬ Ours listeners request) : decide table listeners request = .ok relay :=
  decide_of_foreign unidentified.bare unidentified.unmarked
    (mt (owned_iff_ours unidentified.parsed).mp foreign)

theorem sameDecision_of_effectiveTarget {text otherText : String}
    (unidentified : Unidentified request text) (otherwise : Unidentified other otherText)
    (method : other.method = request.method)
    (target : other.target.effectiveTarget other.transport =
      request.target.effectiveTarget request.transport) :
    SameDecision table listeners request other := by
  have alike : Ours listeners other ↔ Ours listeners request := by
    rw [ours_iff, ours_iff, target]
  by_cases ours : Ours listeners request
  · have first : decide table listeners request = _ := decide_of_ours unidentified ours
    have second : decide table listeners other = _ := decide_of_ours otherwise (alike.mpr ours)
    rw [method] at second
    by_cases ack : request.method = .ack
    · rw [if_pos ack] at first second
      exact .dropped first second
    · rw [if_neg ack] at first second
      exact .refused first second
  · exact .relayed (decide_of_not_ours unidentified ours)
      (decide_of_not_ours otherwise (mt alike.mp ours))

/-- The target of a request without a routing identity decides what becomes of it. -/
structure DecidedByTarget (table : NameTable) (listeners : List Listener) (request : Request)
    (text : String) : Prop where
  own : Ours listeners request → decide table listeners request =
    if request.method = .ack then .ok drop else .error (notFound request)
  foreign : ¬ Ours listeners request → decide table listeners request = .ok relay
  alike : ∀ {other : Request} {otherText : String}, Unidentified other otherText →
    other.method = request.method → SameTarget request other →
    SameDecision table listeners request other
  changed : ∀ {other : Request} {otherText : String} {spelling otherSpelling : Uri.Spelling},
    Unidentified other otherText → other.method = request.method →
    other.transport = request.transport → Uri.SpelledAs text spelling →
    Uri.SpelledAs otherText otherSpelling →
    Relation.EqvGen (Uri.Change request.transport) spelling otherSpelling →
    SameDecision table listeners request other

theorem target_of_spelled {text : String} {spelling : Uri.Spelling}
    (parsed : Uri.parse text = .ok request.target) (spelled : Uri.SpelledAs text spelling) :
    request.target = spelling.uri := by
  rw [Uri.parse_eq_ok_iff_spelled.mpr ⟨spelling, spelled, rfl⟩] at parsed
  exact (Except.ok.inj parsed).symm

theorem decidedByTarget (table : NameTable) (listeners : List Listener) {request : Request}
    {text : String} (unidentified : Unidentified request text) :
    DecidedByTarget table listeners request text where
  own := decide_of_ours unidentified
  foreign := decide_of_not_ours unidentified
  alike := by
    intro other otherText otherwise method same
    exact sameDecision_of_effectiveTarget unidentified otherwise method same.effectiveTarget
  changed := by
    intro other otherText spelling otherSpelling otherwise method arrival spelled respelled changes
    apply sameDecision_of_effectiveTarget unidentified otherwise method
    rw [target_of_spelled unidentified.parsed spelled, target_of_spelled otherwise.parsed respelled,
      arrival]
    exact (Uri.effectiveTarget_of_changes changes).symm

end RouteDecision

namespace Sample

def terse : Uri.Spelling where
  enclosed := false
  scheme := "sips"
  user := some "alice"
  bracketed := false
  host := "example.org"
  port := none
  params := [("transport", some "TCP")]

def wordy : Uri.Spelling where
  enclosed := false
  scheme := "SIPS"
  user := none
  bracketed := false
  host := "Example.ORG"
  port := some "5061"
  params := [("lr", none), ("transport", some "tcp")]

theorem terse_changes : Relation.EqvGen (Uri.Change .udp) terse wordy := by
  have reached : terse.uri.EffectiveTransport .udp .tcp :=
    Uri.effectiveTransport_iff.mpr (by decide)
  have arrives : terse.uri.EffectivePort .tcp 5061 := .secure rfl (by decide)
  have token : Uri.Change .udp { wordy with params := terse.params }
      { wordy with params := [] ++ [("transport", some "tcp")] } :=
    .token (List.nil_append _).symm (by decide) (by decide)
  refine .trans _ { terse with port := some "5061" } _
    (.rel _ _ (.port rfl reached arrives (by decide))) ?_
  refine .trans _ { wordy with user := terse.user, host := terse.host, params := terse.params } _
    (.rel _ _ (.scheme (by decide))) ?_
  refine .trans _ { wordy with host := terse.host, params := terse.params } _
    (.rel _ _ (.user none)) ?_
  refine .trans _ { wordy with params := terse.params } _ (.rel _ _ (.host (by decide))) ?_
  refine .trans _ _ _ (.rel _ _ token) ?_
  exact .rel _ _ (.others (by decide))

def call (target : Uri) : Request where
  method := .invite
  target
  sender := { uri := { host := "a" }, tag := some "x" }
  recipient := { uri := target, tag := none }
  callId := "c"
  sequence := 1
  transport := .udp
  route := none
  role := none
  subscription := none
  event := none
  transaction := .generated 0

theorem call_unidentified {text : String} {spelling : Uri.Spelling}
    (spelled : Uri.SpelledAs text spelling) : RouteDecision.Unidentified (call spelling.uri) text where
  bare := by
    intro hash id carried
    obtain ⟨route, popped, _⟩ := carried.first
    cases popped
  unmarked := nofun
  parsed := Uri.parse_eq_ok_iff_spelled.mpr ⟨spelling, spelled, rfl⟩

theorem terse_spelled : Uri.SpelledAs "sips:alice@example.org;transport=TCP" terse := by
  have grammatical : terse.Grammatical := by decide
  have text : terse.text = "sips:alice@example.org;transport=TCP" := by decide
  rw [← text]
  exact grammatical.spelledAs_text

theorem wordy_spelled : Uri.SpelledAs "SIPS:Example.ORG:5061;lr;transport=tcp" wordy := by
  have grammatical : wordy.Grammatical := by decide
  have text : wordy.text = "SIPS:Example.ORG:5061;lr;transport=tcp" := by decide
  rw [← text]
  exact grammatical.spelledAs_text

end Sample

theorem RouteDecision.decidedByTarget_wordy :
    let listeners : List Listener := [{ host := "[EXAMPLE.org]", port := 5061, transport := .tcp }]
    let terse := Sample.call Sample.terse.uri
    let wordy := Sample.call Sample.wordy.uri
    Unidentified terse "sips:alice@example.org;transport=TCP" ∧
      Unidentified wordy "SIPS:Example.ORG:5061;lr;transport=tcp" ∧
      decide {} listeners terse = .error (notFound terse) ∧
      SameDecision {} listeners terse wordy ∧ decide {} [] terse = .ok relay := by
  intro listeners terse wordy
  have unidentified := Sample.call_unidentified Sample.terse_spelled
  have otherwise := Sample.call_unidentified Sample.wordy_spelled
  have here := decidedByTarget {} listeners unidentified
  have elsewhere := decidedByTarget {} [] unidentified
  have ours : Ours listeners terse := ours_iff.mpr ⟨_, List.mem_singleton_self _, by decide⟩
  have foreign : ¬ Ours [] terse := by
    intro owned
    obtain ⟨listener, member, _⟩ := ours_iff.mp owned
    cases member
  refine ⟨unidentified, otherwise, here.own ours, ?_, elsewhere.foreign foreign⟩
  exact here.changed otherwise rfl rfl Sample.terse_spelled Sample.wordy_spelled Sample.terse_changes

end SipContainer
