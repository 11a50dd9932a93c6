import SipContainer.Proofs.Routing.Tag
import SipContainer.Routing.Decision
/-!
The identity of a request is recovered from one place. A popped route with both parts of an identity
settles the matter, even when its hash stands for no application any more. Any other route counts for
nothing, and the tag in the To header says what becomes of the request: it is refused, it has an
identity, or it has none and its target decides.
-/

namespace SipContainer

/-- The first parameter of this name, in any letter case, and what stands behind it. -/
def Uri.First (uri : Uri) (name : String) (value : Option String) : Prop :=
  ∃ before param after, uri.params = before ++ param :: after ∧
    Text.sameFolded param.1 name = true ∧ param.2 = value ∧
    ∀ other ∈ before, Text.sameFolded other.1 name = false

theorem Uri.first_iff {uri : Uri} {name : String} {value : Option String} :
    uri.First name value ↔
      (uri.params.find? (fun param => Text.sameFolded param.1 name)).map Prod.snd = some value := by
  unfold Uri.First
  simp only [Option.map_eq_some_iff, List.find?_eq_some_iff_append, Bool.not_eq_true']
  constructor
  · rintro ⟨before, param, after, parts, named, holds, fresh⟩
    exact ⟨param, ⟨named, before, after, parts, fresh⟩, holds⟩
  · rintro ⟨param, ⟨named, before, after, parts, fresh⟩, holds⟩
    exact ⟨before, param, after, parts, named, holds, fresh⟩

theorem Uri.param?_eq_some_iff {uri : Uri} {name value : String} :
    uri.param? name = some value ↔ uri.First name (some value) := by
  rw [Uri.first_iff, Uri.param?]
  cases uri.params.find? (fun param => Text.sameFolded param.1 name) with
  | none => simp
  | some param => simp

namespace RouteDecision

variable {table : NameTable} {listeners : List Listener} {request : Request}

structure Carried (request : Request) (hash id : String) : Prop where
  first : ∃ route ∈ request.route, route.First RouteIdentity.nameParam (some hash)
  second : ∃ route ∈ request.route, route.First RouteIdentity.idParam (some id)
  hashFilled : hash ≠ ""
  idFilled : id ≠ ""

def Bare (request : Request) : Prop :=
  ∀ hash id, ¬ Carried request hash id

theorem carried_of_not_bare (identified : ¬ Bare request) : ∃ hash id, Carried request hash id := by
  simpa [Bare] using identified

theorem filledParam?_eq_some_iff {route : Uri} {name value : String} :
    filledParam? route name = some value ↔ route.First name (some value) ∧ value ≠ "" := by
  simp [filledParam?, Option.filter_eq_some_iff, Uri.param?_eq_some_iff]

theorem ofRoute_of_carried {hash id : String} (carried : Carried request hash id) :
    ofRoute table request.route = (table.name? hash, some id) := by
  obtain ⟨⟨route, popped, named⟩, ⟨other, again, numbered⟩, hashFilled, idFilled⟩ := carried
  obtain rfl : route = other := Option.mem_unique popped again
  have first := filledParam?_eq_some_iff.mpr ⟨named, hashFilled⟩
  have second := filledParam?_eq_some_iff.mpr ⟨numbered, idFilled⟩
  rw [Option.mem_def.mp popped]
  simp only [ofRoute, first, second]

theorem ofRoute_of_bare (bare : Bare request) : (ofRoute table request.route).2 = none := by
  unfold ofRoute
  split
  · rfl
  · rename_i route popped
    split
    · rfl
    · rename_i hash first
      cases second : filledParam? route RouteIdentity.idParam with
      | none => rfl
      | some id =>
          obtain ⟨named, hashFilled⟩ := filledParam?_eq_some_iff.mp first
          obtain ⟨numbered, idFilled⟩ := filledParam?_eq_some_iff.mp second
          exact absurd ⟨⟨route, popped, named⟩, ⟨route, popped, numbered⟩, hashFilled, idFilled⟩
            (bare hash id)

theorem decide_of_carried {hash id : String} (carried : Carried request hash id) :
    decide table listeners request =
      match table.name? hash with
      | some applicationName => .ok (.resolved { applicationName, applicationId := id })
      | none => .error (notFound request) := by
  have route : ofRoute table request.route = (table.name? hash, some id) :=
    ofRoute_of_carried carried
  unfold decide recover
  rw [route]
  cases table.name? hash <;> rfl

def targetTransport (request : Request) : Transport :=
  request.target.transport?.getD request.transport

/-- A listener is bound to the target: to its port and transport, and to its host in any letter case,
brackets aside. -/
structure Owns (listener : Listener) (request : Request) : Prop where
  port : listener.port = request.target.effectivePort (targetTransport request)
  transport : listener.transport = targetTransport request
  host : Text.lower (Listener.bareHost listener.host) =
    Text.lower (Listener.bareHost request.target.host)

def Owned (listeners : List Listener) (request : Request) : Prop :=
  ∃ listener ∈ listeners, Owns listener request

theorem isExternal_eq_false_iff : isExternal listeners request = false ↔ Owned listeners request := by
  unfold isExternal isLocal Owned
  rw [Bool.not_eq_false', List.any_eq_true]
  apply exists_congr
  intro listener
  apply and_congr_right
  intro _
  simp only [Listener.serves, Bool.and_eq_true, beq_iff_eq, Text.sameFolded]
  constructor
  · rintro ⟨⟨port, transport⟩, host⟩
    exact ⟨port, transport, host⟩
  · rintro ⟨port, transport, host⟩
    exact ⟨⟨port, transport⟩, host⟩

def unclaimed (listeners : List Listener) (request : Request) : Except DispatchError RouteDecision :=
  if isExternal listeners request then .ok relay
  else if request.isAck then .ok drop
  else .error (notFound request)

theorem unclaimed_cases (listeners : List Listener) (request : Request) :
    ¬ Owned listeners request ∧ unclaimed listeners request = .ok relay ∨
      Owned listeners request ∧ request.method = .ack ∧ unclaimed listeners request = .ok drop ∨
      Owned listeners request ∧ request.method ≠ .ack ∧
        unclaimed listeners request = .error (notFound request) := by
  rw [← isExternal_eq_false_iff]
  unfold unclaimed
  cases isExternal listeners request with
  | true => exact Or.inl ⟨Bool.noConfusion, rfl⟩
  | false =>
      by_cases ack : request.method = .ack
      · have acknowledges : request.isAck = true := by simp [Request.isAck, ack]
        exact Or.inr (Or.inl ⟨rfl, ack, by simp [acknowledges]⟩)
      · have other : request.isAck = false := by simp [Request.isAck, ack]
        exact Or.inr (Or.inr ⟨rfl, ack, by simp [other]⟩)

theorem decide_of_bare (bare : Bare request) :
    decide table listeners request =
      match RouteIdentity.decodeTag table request.recipient.tag with
      | .error fault => .error fault
      | .ok (some identity) => .ok (.resolved identity)
      | .ok none => unclaimed listeners request := by
  have route : (ofRoute table request.route).2 = none := ofRoute_of_bare bare
  unfold decide recover
  simp only [route]
  cases RouteIdentity.decodeTag table request.recipient.tag with
  | error fault => rfl
  | ok decoded =>
      cases decoded with
      | none => rfl
      | some identity => rfl

open RouteIdentity (Marked Tagged)

/-- No tag, or one that was made by someone else. -/
def Unmarked (request : Request) : Prop :=
  ∀ tag ∈ request.recipient.tag, ¬ Marked tag

/-- What the tag and the target of a request without a route identity come to. -/
inductive Basis (table : NameTable) (listeners : List Listener) (request : Request) :
    Except DispatchError RouteDecision → Prop
  | malformed {tag message : String} (present : tag ∈ request.recipient.tag) (marked : Marked tag)
      (untagged : ∀ identity, ¬ Tagged table tag identity) :
      Basis table listeners request (.error (.malformedIdentity message))
  | resolved {tag : String} {identity : RouteIdentity} (present : tag ∈ request.recipient.tag)
      (tagged : Tagged table tag identity) :
      Basis table listeners request (.ok (.resolved identity))
  | relayed (unmarked : Unmarked request) (foreign : ¬ Owned listeners request) :
      Basis table listeners request (.ok relay)
  | dropped (unmarked : Unmarked request) (owned : Owned listeners request)
      (ack : request.method = .ack) : Basis table listeners request (.ok drop)
  | refused (unmarked : Unmarked request) (owned : Owned listeners request)
      (other : request.method ≠ .ack) :
      Basis table listeners request (.error (notFound request))

theorem decide_of_tagged (bare : Bare request) {tag : String} {identity : RouteIdentity}
    (present : tag ∈ request.recipient.tag) (tagged : Tagged table tag identity) :
    decide table listeners request = .ok (.resolved identity) := by
  rw [decide_of_bare bare, Option.mem_def.mp present, RouteIdentity.decodeTag_of_tagged tagged]

theorem decide_of_untagged (bare : Bare request) {tag : String}
    (present : tag ∈ request.recipient.tag) (marked : Marked tag)
    (untagged : ∀ identity, ¬ Tagged table tag identity) :
    ∃ message, decide table listeners request = .error (.malformedIdentity message) := by
  obtain ⟨message, refused⟩ := RouteIdentity.decodeTag_of_untagged marked untagged
  refine ⟨message, ?_⟩
  rw [decide_of_bare bare, Option.mem_def.mp present, refused]

theorem decide_of_unmarked (bare : Bare request) (unmarked : Unmarked request) :
    decide table listeners request = unclaimed listeners request := by
  rw [decide_of_bare bare, RouteIdentity.decodeTag_of_unmarked unmarked]

theorem basis_of_bare (bare : Bare request) :
    Basis table listeners request (decide table listeners request) := by
  by_cases unmarked : Unmarked request
  · rw [decide_of_unmarked bare unmarked]
    rcases unclaimed_cases listeners request with
      ⟨foreign, outcome⟩ | ⟨owned, ack, outcome⟩ | ⟨owned, other, outcome⟩
    · rw [outcome]
      exact .relayed unmarked foreign
    · rw [outcome]
      exact .dropped unmarked owned ack
    · rw [outcome]
      exact .refused unmarked owned other
  · obtain ⟨tag, present, marked⟩ : ∃ tag ∈ request.recipient.tag, Marked tag := by
      simpa [Unmarked] using unmarked
    by_cases tagged : ∃ identity, Tagged table tag identity
    · obtain ⟨identity, tagged⟩ := tagged
      rw [decide_of_tagged bare present tagged]
      exact .resolved present tagged
    · have untagged := not_exists.mp tagged
      obtain ⟨message, outcome⟩ : ∃ message, decide table listeners request =
          .error (.malformedIdentity message) := decide_of_untagged bare present marked untagged
      rw [outcome]
      exact .malformed present marked untagged

theorem basis_of_eq (bare : Bare request) {outcome : Except DispatchError RouteDecision}
    (decided : decide table listeners request = outcome) :
    Basis table listeners request outcome := by
  rw [← decided]
  exact basis_of_bare bare

theorem name?_of_resolved {identity : RouteIdentity}
    (decided : decide table listeners request = .ok (.resolved identity)) :
    ∃ hash, table.name? hash = some identity.applicationName := by
  by_cases bare : Bare request
  · cases basis_of_eq bare decided with
    | resolved present tagged =>
        obtain ⟨random, hash, _, _, _, _, known⟩ := tagged
        exact ⟨hash, known⟩
  · obtain ⟨hash, id, carried⟩ := carried_of_not_bare bare
    rw [decide_of_carried carried] at decided
    cases known : table.name? hash with
    | none => simp [known] at decided
    | some name =>
        simp only [known] at decided
        cases decided
        exact ⟨hash, known⟩

theorem decide_of_foreign (bare : Bare request) (unmarked : Unmarked request)
    (foreign : ¬ Owned listeners request) : decide table listeners request = .ok relay := by
  rw [decide_of_unmarked bare unmarked]
  rcases unclaimed_cases listeners request with ⟨_, outcome⟩ | ⟨owned, _⟩ | ⟨owned, _⟩
  · exact outcome
  · exact absurd owned foreign
  · exact absurd owned foreign

theorem decide_of_owned (bare : Bare request) (unmarked : Unmarked request)
    (owned : Owned listeners request) :
    decide table listeners request =
      if request.method = .ack then .ok drop else .error (notFound request) := by
  rw [decide_of_unmarked bare unmarked]
  rcases unclaimed_cases listeners request with
    ⟨foreign, _⟩ | ⟨_, ack, outcome⟩ | ⟨_, other, outcome⟩
  · exact absurd owned foreign
  · rw [if_pos ack, outcome]
  · rw [if_neg other, outcome]

/-- A route without both parts of an identity leaves no trace but in the words of a refusal. -/
theorem decide_unrouted (bare : Bare request) :
    decide table listeners request = decide table listeners { request with route := none } ∨
      decide table listeners request = .error (notFound request) ∧
        decide table listeners { request with route := none } =
          .error (notFound { request with route := none }) := by
  have unrouted : Bare { request with route := none } := by
    rintro hash id ⟨⟨route, popped, _⟩, _⟩
    cases popped
  rw [decide_of_bare bare, decide_of_bare unrouted]
  cases RouteIdentity.decodeTag table request.recipient.tag with
  | error fault => exact Or.inl rfl
  | ok decoded =>
      cases decoded with
      | some identity => exact Or.inl rfl
      | none =>
          have external : isExternal listeners { request with route := none } =
              isExternal listeners request := rfl
          have acknowledges : Request.isAck { request with route := none } = request.isAck := rfl
          simp only [unclaimed, external, acknowledges]
          cases isExternal listeners request with
          | true => exact Or.inl rfl
          | false =>
              cases request.isAck with
              | true => exact Or.inl rfl
              | false => exact Or.inr ⟨rfl, rfl⟩

/-- What the decision about a request rests on. -/
structure Recovery (table : NameTable) (listeners : List Listener) (request : Request) : Prop where
  carried : ∀ {hash id}, Carried request hash id → decide table listeners request =
    match table.name? hash with
    | some applicationName => .ok (.resolved { applicationName, applicationId := id })
    | none => .error (notFound request)
  malformed : Bare request →
    ((∃ message, decide table listeners request = .error (.malformedIdentity message)) ↔
      ∃ tag ∈ request.recipient.tag, Marked tag ∧ ∀ identity, ¬ Tagged table tag identity)
  resolved : Bare request → ∀ identity,
    (decide table listeners request = .ok (.resolved identity) ↔
      ∃ tag ∈ request.recipient.tag, Tagged table tag identity)
  relayed : Bare request →
    (decide table listeners request = .ok relay ↔
      Unmarked request ∧ ¬ Owned listeners request)
  dropped : Bare request →
    (decide table listeners request = .ok drop ↔
      Unmarked request ∧ Owned listeners request ∧ request.method = .ack)
  refused : Bare request →
    (decide table listeners request = .error (notFound request) ↔
      Unmarked request ∧ Owned listeners request ∧ request.method ≠ .ack)
  kept : ((∃ hash id, Carried request hash id) ∨ ¬ Unmarked request) →
    decide table listeners request ≠ .ok relay ∧ decide table listeners request ≠ .ok drop
  unrouted : Bare request →
    decide table listeners request = decide table listeners { request with route := none } ∨
      decide table listeners request = .error (notFound request) ∧
        decide table listeners { request with route := none } =
          .error (notFound { request with route := none })

theorem kept_of_carried {hash id : String} (carried : Carried request hash id) :
    decide table listeners request ≠ .ok relay ∧ decide table listeners request ≠ .ok drop := by
  rw [decide_of_carried carried]
  cases table.name? hash with
  | none => exact ⟨nofun, nofun⟩
  | some applicationName => exact ⟨nofun, nofun⟩

/-- Where the identity of a request is looked for, and what becomes of one that has none. -/
theorem recovery (table : NameTable) (listeners : List Listener) (request : Request) :
    Recovery table listeners request where
  carried := decide_of_carried
  malformed := by
    intro bare
    constructor
    · rintro ⟨message, outcome⟩
      cases basis_of_eq bare outcome with
      | malformed present marked untagged => exact ⟨_, present, marked, untagged⟩
    · rintro ⟨tag, present, marked, untagged⟩
      exact decide_of_untagged bare present marked untagged
  resolved := by
    intro bare identity
    constructor
    · intro outcome
      cases basis_of_eq bare outcome with
      | resolved present tagged => exact ⟨_, present, tagged⟩
    · rintro ⟨tag, present, tagged⟩
      exact decide_of_tagged bare present tagged
  relayed := by
    intro bare
    constructor
    · intro outcome
      cases basis_of_eq bare outcome with
      | relayed unmarked foreign => exact ⟨unmarked, foreign⟩
    · rintro ⟨unmarked, foreign⟩
      exact decide_of_foreign bare unmarked foreign
  dropped := by
    intro bare
    constructor
    · intro outcome
      cases basis_of_eq bare outcome with
      | dropped unmarked owned ack => exact ⟨unmarked, owned, ack⟩
    · rintro ⟨unmarked, owned, ack⟩
      rw [decide_of_owned bare unmarked owned, if_pos ack]
  refused := by
    intro bare
    constructor
    · intro outcome
      cases basis_of_eq bare outcome with
      | refused unmarked owned other => exact ⟨unmarked, owned, other⟩
    · rintro ⟨unmarked, owned, other⟩
      rw [decide_of_owned bare unmarked owned, if_neg other]
  kept := by
    rintro (⟨hash, id, carried⟩ | marked)
    · exact kept_of_carried carried
    · by_cases bare : Bare request
      · constructor
        · intro outcome
          cases basis_of_eq bare outcome with
          | relayed unmarked foreign => exact marked unmarked
        · intro outcome
          cases basis_of_eq bare outcome with
          | dropped unmarked owned ack => exact marked unmarked
      · obtain ⟨hash, id, carried⟩ := carried_of_not_bare bare
        exact kept_of_carried carried
  unrouted := decide_unrouted

end RouteDecision

end SipContainer
