import SipContainer.Proofs.Message.RoundTrip
import SipContainer.Proofs.Routing.Polarity
import SipContainer.Proofs.Routing.RecordRoute
import SipContainer.Proofs.Session.History
/-!
The key of a dialog session holds the addresses of both ends in print. An address that was read from a
header is the only one with its print, so nothing is lost by this: requests that were built from
headers have one key exactly when they agree on the application session, the call, the tag of the local
end and both addresses part by part. As long as a store lasts it answers with a session for one key
only. So requests that differ in any of these never come to one session.
-/

namespace SipContainer

namespace Catalog

variable {K : Type}

def Query.key : Query K → K
  | find key | obtain key | remove key => key

variable {key : K} {serial : Nat} {call : Call K} {record earlier : List (Call K)}

theorem Founded.asked (founded : Founded key serial record) :
    ∃ call ∈ record, call.query.key = key ∧ call.answer = some serial := by
  induction founded with
  | made => exact ⟨_, List.mem_cons_self, rfl, rfl⟩
  | kept _ _ ih =>
      obtain ⟨call, member, about, answered⟩ := ih
      exact ⟨call, List.mem_cons_of_mem _ member, about, answered⟩

theorem Proper.unseen_or_founded (proper : Proper earlier call)
    (answered : call.answer = some serial) :
    Unseen serial earlier ∨ Founded call.query.key serial earlier := by
  cases proper with
  | found founded | reused founded | removed founded =>
      obtain rfl := Option.some.inj answered
      exact Or.inr founded
  | made _ unseen =>
      obtain rfl := Option.some.inj answered
      exact Or.inl unseen
  | missed | idle => cases answered

/-- Calls that are answered with one object are about one key, whatever is removed and made in
between. -/
theorem Faithful.key_eq (faithful : Faithful record) :
    ∀ call ∈ record, ∀ another ∈ record, call.answer = some serial → another.answer = some serial →
      call.query.key = another.query.key := by
  induction faithful with
  | empty => nofun
  | @call latest earlier _ proper ih =>
      have before : ∀ another ∈ earlier, latest.answer = some serial →
          another.answer = some serial → latest.query.key = another.query.key := by
        intro another member answered same
        -- The object has just been made, or it stands under the key by an earlier call.
        rcases proper.unseen_or_founded answered with unseen | founded
        · exact absurd same (unseen another member)
        · obtain ⟨call, present, about, given⟩ := founded.asked
          rw [← about]
          exact ih call present another member given same
      intro call member another present answered same
      rcases List.mem_cons.mp member with rfl | early
      · rcases List.mem_cons.mp present with rfl | old
        · rfl
        · exact before another old answered same
      · rcases List.mem_cons.mp present with rfl | old
        · exact (before call early same answered).symm
        · exact ih call early another old answered same

end Catalog

namespace RequestDraft

theorem bind_eq_ok_iff {α β : Type} {first : Except BuildError α} {next : α → Except BuildError β}
    {result : β} :
    first >>= next = .ok result ↔ ∃ value, first = .ok value ∧ next value = .ok result := by
  cases first with
  | error fault => simp [bind, Except.bind]
  | ok value => simp [bind, Except.bind]

theorem wellFormed_of_readUri {text : String} {uri : Uri} (read : readUri text = .ok uri) :
    uri.WellFormed := by
  unfold readUri at read
  split at read
  · rename_i parsed
    obtain rfl := Except.ok.inj read
    exact Uri.wellFormed_of_parse parsed
  · cases read

theorem wellFormed_of_build {draft : RequestDraft} {serial : Nat} {request : Request}
    (built : draft.build serial = .ok request) :
    request.sender.uri.WellFormed ∧ request.recipient.uri.WellFormed := by
  unfold build at built
  obtain ⟨_, -, built⟩ := bind_eq_ok_iff.mp built
  obtain ⟨_, -, built⟩ := bind_eq_ok_iff.mp built
  obtain ⟨_, -, built⟩ := bind_eq_ok_iff.mp built
  obtain ⟨_, -, built⟩ := bind_eq_ok_iff.mp built
  obtain ⟨_, -, built⟩ := bind_eq_ok_iff.mp built
  obtain ⟨sender, first, built⟩ := bind_eq_ok_iff.mp built
  obtain ⟨recipient, second, built⟩ := bind_eq_ok_iff.mp built
  obtain rfl := Except.ok.inj built
  exact ⟨wellFormed_of_readUri first, wellFormed_of_readUri second⟩

end RequestDraft

/-! ### Requests seen from one end -/

theorem Address.eq_iff {address other : Address} :
    address = other ↔ address.uri = other.uri ∧ address.tag = other.tag := by
  obtain ⟨uri, tag⟩ := address
  rw [Address.mk.injEq]

/-- A request of an application session, seen from one of its ends. -/
structure Viewpoint where
  sessionId : String
  applicationName : String
  request : Request
  side : Polarity

namespace Viewpoint

def key (view : Viewpoint) : Except KeyError DialogKey :=
  DialogKey.ofRequest view.sessionId view.applicationName view.request view.side

def localEnd (view : Viewpoint) : Address :=
  match view.side with
  | .normal => view.request.sender
  | .inverted => view.request.recipient

def remoteEnd (view : Viewpoint) : Address :=
  match view.side with
  | .normal => view.request.recipient
  | .inverted => view.request.sender

def turned (view : Viewpoint) : Viewpoint :=
  { view with side := view.side.opposite }

structure Proper (view : Viewpoint) : Prop where
  named : view.applicationName ≠ ""
  built : ∃ draft serial, RequestDraft.build draft serial = .ok view.request

structure SameDialog (view other : Viewpoint) : Prop where
  applicationName : view.applicationName = other.applicationName
  sessionId : view.sessionId = other.sessionId
  callId : view.request.callId = other.request.callId
  localTag : view.localEnd.tag = other.localEnd.tag
  localUri : view.localEnd.uri = other.localEnd.uri
  remoteUri : view.remoteEnd.uri = other.remoteEnd.uri

variable {view other : Viewpoint}

theorem key_eq (named : view.applicationName ≠ "") :
    view.key = .ok {
      localAddress := view.localEnd.uri.render
      localTag := view.localEnd.tag
      remoteAddress := view.remoteEnd.uri.render
      callId := view.request.callId
      applicationName := view.applicationName
      applicationSessionId := view.sessionId } := by
  unfold key DialogKey.ofRequest localEnd remoteEnd
  rw [if_neg (by simpa using named)]
  cases view.side <;> rfl

theorem Proper.wellFormed (proper : view.Proper) :
    view.localEnd.uri.WellFormed ∧ view.remoteEnd.uri.WellFormed := by
  obtain ⟨draft, serial, built⟩ := proper.built
  have formed := RequestDraft.wellFormed_of_build built
  unfold localEnd remoteEnd
  cases view.side with
  | normal => exact formed
  | inverted => exact formed.symm

theorem Proper.of_side (proper : view.Proper) (side : Polarity) : { view with side }.Proper :=
  ⟨proper.named, proper.built⟩

theorem key_eq_key_iff (proper : view.Proper) (otherProper : other.Proper) :
    view.key = other.key ↔ view.SameDialog other := by
  rw [key_eq proper.named, key_eq otherProper.named]
  constructor
  · intro same
    -- Both prints are those of addresses that were read, so that they stand for one address each.
    obtain ⟨near, tag, far, callId, name, id⟩ := DialogKey.mk.inj (Except.ok.inj same)
    exact ⟨name, id, callId, tag,
      Uri.render_injOn proper.wellFormed.1 otherProper.wellFormed.1 near,
      Uri.render_injOn proper.wellFormed.2 otherProper.wellFormed.2 far⟩
  · rintro ⟨name, id, callId, tag, near, far⟩
    rw [near, far, name, id, callId, tag]

theorem sameDialog_turned_iff :
    view.SameDialog view.turned ↔ view.request.sender = view.request.recipient := by
  obtain ⟨sessionId, applicationName, request, side⟩ := view
  rw [Address.eq_iff]
  cases side with
  | normal =>
      constructor
      · rintro ⟨-, -, -, tag, uri, -⟩
        exact ⟨uri, tag⟩
      · rintro ⟨uri, tag⟩
        exact ⟨rfl, rfl, rfl, tag, uri, uri.symm⟩
  | inverted =>
      constructor
      · rintro ⟨-, -, -, tag, uri, -⟩
        exact ⟨uri.symm, tag.symm⟩
      · rintro ⟨uri, tag⟩
        exact ⟨rfl, rfl, rfl, tag.symm, uri.symm, uri⟩

/-- By a time in the record, the request seen from this end has come to the session. -/
def Meets (view : Viewpoint) (serial : Nat) (record : List StoreCall) : Prop :=
  ∃ call ∈ StoreCall.dialogs record, view.key = .ok call.query.key ∧ call.answer = some serial

variable {store : SessionStore} {record : List StoreCall} {serial : Nat}

theorem Meets.append (meets : view.Meets serial record) (later : List StoreCall) :
    view.Meets serial (later ++ record) := by
  obtain ⟨call, member, keyed, answered⟩ := meets
  refine ⟨call, ?_, keyed, answered⟩
  rw [StoreCall.dialogs, List.filterMap_append]
  exact List.mem_append_right _ member

theorem meets_of_resolved (history : store.History record) (named : view.applicationName ≠ "")
    {key : DialogKey} {side : Polarity}
    (resolved : store.resolveDialog view.sessionId view.applicationName view.request =
      .ok (serial, key, side)) : { view with side }.Meets serial record := by
  have kept := (store.twoSided view.sessionId named view.request).answer _ _ _ resolved
  have founded := (history.dialogs.founded key serial).mp kept.found
  obtain ⟨call, member, rfl, answered⟩ := founded.asked
  exact ⟨call, member, kept.keyed, answered⟩

theorem Meets.sameDialog (meets : view.Meets serial record) (proper : view.Proper)
    (again : other.Meets serial record) (otherProper : other.Proper)
    (history : store.History record) : view.SameDialog other := by
  obtain ⟨call, member, keyed, answered⟩ := meets
  obtain ⟨another, present, otherKeyed, same⟩ := again
  rw [← key_eq_key_iff proper otherProper, keyed, otherKeyed,
    history.dialogs.faithful.key_eq call member another present answered same]

/-- What the keys of two requests tell of them. -/
structure Identified (view other : Viewpoint) : Prop where
  keyed : ∃ key another, view.key = .ok key ∧ other.key = .ok another
  same : view.key = other.key ↔ view.SameDialog other
  apart : ∀ store record, SessionStore.History store record → ∀ serial,
    view.Meets serial record → other.Meets serial record → view.SameDialog other
  sought : ∀ before earlier after later, SessionStore.History before earlier →
    SessionStore.History after (later ++ earlier) → ∀ serial key another side turn,
    before.resolveDialog view.sessionId view.applicationName view.request =
      .ok (serial, key, side) →
    after.resolveDialog other.sessionId other.applicationName other.request =
      .ok (serial, another, turn) →
    { view with side }.SameDialog { other with side := turn }
  turned : view.key = view.turned.key ↔ view.request.sender = view.request.recipient

/-- The keys of requests that were built from headers identify their dialogs. -/
theorem identified (proper : view.Proper) (otherProper : other.Proper) :
    view.Identified other where
  keyed := ⟨_, _, key_eq proper.named, key_eq otherProper.named⟩
  same := key_eq_key_iff proper otherProper
  apart store record history serial meets again :=
    meets.sameDialog proper again otherProper history
  sought before earlier after later history laterHistory serial key another side turn first
      second := by
    have meets := (meets_of_resolved history proper.named first).append later
    have again := meets_of_resolved laterHistory otherProper.named second
    exact meets.sameDialog (proper.of_side side) again (otherProper.of_side turn) laterHistory
  turned := by
    rw [← sameDialog_turned_iff]
    exact key_eq_key_iff proper (proper.of_side _)

end Viewpoint

namespace Sample

def questionDraft : RequestDraft :=
  { draft with sender := some (annex.render, some "alice-tag"), route := none }

def question : Request :=
  { drafted with sender := { uri := annex, tag := some "alice-tag" } }

/-- What the room sends back. It writes its own address between angle brackets. -/
def responseDraft : RequestDraft where
  method := .bye
  target := gateway.render
  sender := some ("<" ++ gateway.render ++ ">", some "bob-tag")
  recipient := some (annex.render, some "alice-tag")
  callId := some "call-7"
  role := some .client

def response : Request :=
  { question with
    method := .bye
    sender := question.recipient
    recipient := question.sender
    role := some .client }

theorem questionDraft_built : questionDraft.build 0 = .ok question := by
  have near := RequestDraft.readUri_of_ok (Uri.parse_render annex_wellFormed)
  have far := RequestDraft.readUri_of_ok (Uri.parse_render gateway_wellFormed)
  simp only [questionDraft, draft, RequestDraft.build, RequestDraft.require, bind, Except.bind,
    near, far]
  rfl

theorem responseDraft_built : responseDraft.build 0 = .ok response := by
  have near := RequestDraft.readUri_of_ok (Uri.parse_render annex_wellFormed)
  have far := RequestDraft.readUri_of_ok (Uri.parse_render gateway_wellFormed)
  have enclosed := RequestDraft.readUri_of_ok (Uri.parse_enclosed gateway_wellFormed)
  simp only [responseDraft, RequestDraft.build, RequestDraft.require, bind, Except.bind, near, far,
    enclosed]
  rfl

def asking : Viewpoint where
  sessionId := "1"
  applicationName := "conference"
  request := question
  side := .normal

def answering : Viewpoint :=
  { asking with request := response, side := .inverted }

theorem asking_proper : asking.Proper :=
  ⟨by decide, _, _, questionDraft_built⟩

theorem answering_proper : answering.Proper :=
  ⟨by decide, _, _, responseDraft_built⟩

end Sample

theorem Viewpoint.identified_question :
    Sample.asking.Proper ∧ Sample.answering.Proper ∧ Sample.asking.Identified Sample.answering ∧
      Sample.asking.key = Sample.answering.key ∧ Sample.asking.key ≠ Sample.asking.turned.key := by
  have identified := identified Sample.asking_proper Sample.answering_proper
  refine ⟨Sample.asking_proper, Sample.answering_proper, identified, ?_, ?_⟩
  · exact identified.same.mpr ⟨rfl, rfl, rfl, rfl, rfl, rfl⟩
  · rw [ne_eq, identified.turned]
    decide

end SipContainer
