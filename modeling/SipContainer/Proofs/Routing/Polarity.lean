import SipContainer.Proofs.Session.Ownership
/-!
A dialog has two ends, and a request says from which of them it is seen. The search for a dialog
session begins on the side that the role implies and goes on to the other one, so that the role never
decides whether there is a session, only which of two is taken. A request that travels the other way
leads to the same session, seen from the other side.
-/

namespace SipContainer

theorem Polarity.opposite_opposite (polarity : Polarity) : polarity.opposite.opposite = polarity := by
  cases polarity <;> rfl

theorem Polarity.eq_or_eq_opposite (polarity side : Polarity) :
    side = polarity ∨ side = polarity.opposite := by
  cases polarity <;> cases side <;> decide

/-- A request of the same call from the other end: the ends are exchanged, and exactly one of the two
requests comes to a client. -/
structure Request.Mirrors (request mirror : Request) : Prop where
  sender : mirror.sender = request.recipient
  recipient : mirror.recipient = request.sender
  callId : mirror.callId = request.callId
  role : mirror.role = some .client ↔ request.role ≠ some .client

variable {request mirror : Request}

theorem Polarity.ofRole_eq_inverted_iff {role : Option Role} :
    ofRole role = inverted ↔ role = some .client := by
  rcases role with _ | _ | _ <;> decide

theorem Request.Mirrors.ofRole (mirrors : request.Mirrors mirror) :
    Polarity.ofRole mirror.role = (Polarity.ofRole request.role).opposite := by
  have exchanged : Polarity.ofRole mirror.role = .inverted ↔
      Polarity.ofRole request.role ≠ .inverted := by
    rw [ne_eq, Polarity.ofRole_eq_inverted_iff, Polarity.ofRole_eq_inverted_iff]
    exact mirrors.role
  cases near : Polarity.ofRole request.role with
  | normal => exact exchanged.mpr (by rw [near]; nofun)
  | inverted =>
      rcases Polarity.eq_or_eq_opposite .normal (Polarity.ofRole mirror.role) with plain | turned
      · exact plain
      · exact absurd near (exchanged.mp turned)

theorem DialogKey.localEnd_mirror (mirrors : request.Mirrors mirror) (polarity : Polarity) :
    localEnd mirror polarity.opposite = localEnd request polarity := by
  cases polarity with
  | normal => exact mirrors.recipient
  | inverted => exact mirrors.sender

theorem DialogKey.ofRequest_mirror (mirrors : request.Mirrors mirror)
    (sessionId applicationName : String) (polarity : Polarity) :
    ofRequest sessionId applicationName mirror polarity.opposite =
      ofRequest sessionId applicationName request polarity := by
  unfold ofRequest
  rw [localEnd_mirror mirrors, localEnd_mirror mirrors, mirrors.callId]

theorem DialogKey.ofRequest_of_filled {applicationName : String} (filled : applicationName ≠ "")
    (sessionId : String) (request : Request) (polarity : Polarity) :
    ∃ key, ofRequest sessionId applicationName request polarity = .ok key := by
  unfold ofRequest
  rw [if_neg (by simpa using filled)]
  exact ⟨_, rfl⟩

namespace SessionStore

variable {store : SessionStore} {sessionId applicationName : String}

/-! ### The search, side by side -/

structure KeptOn (store : SessionStore) (sessionId applicationName : String) (request : Request)
    (side : Polarity) (serial : Nat) (key : DialogKey) : Prop where
  keyed : DialogKey.ofRequest sessionId applicationName request side = .ok key
  found : store.dialogs.find? key = some serial

def Bare (store : SessionStore) (sessionId applicationName : String) (request : Request)
    (side : Polarity) : Prop :=
  ∀ serial key, ¬ store.KeptOn sessionId applicationName request side serial key

/-- How a search can end, the side that the role implies being the first one. -/
inductive Search (store : SessionStore) (sessionId applicationName : String) (request : Request) :
    Except DispatchError (Nat × DialogKey × Polarity) → Prop
  | near {serial : Nat} {key : DialogKey}
      (kept : store.KeptOn sessionId applicationName request (Polarity.ofRole request.role) serial
        key) :
      Search store sessionId applicationName request
        (.ok (serial, key, Polarity.ofRole request.role))
  | far {serial : Nat} {key : DialogKey}
      (bare : store.Bare sessionId applicationName request (Polarity.ofRole request.role))
      (kept : store.KeptOn sessionId applicationName request
        (Polarity.ofRole request.role).opposite serial key) :
      Search store sessionId applicationName request
        (.ok (serial, key, (Polarity.ofRole request.role).opposite))
  | missing (text : String)
      (bare : ∀ side, store.Bare sessionId applicationName request side) :
      Search store sessionId applicationName request (.error (.sessionNotFound text))

theorem bare_of_free {request : Request} {side : Polarity} {key : DialogKey}
    (keyed : DialogKey.ofRequest sessionId applicationName request side = .ok key)
    (free : store.dialogs.find? key = none) :
    store.Bare sessionId applicationName request side := by
  intro serial other kept
  obtain rfl := Except.ok.inj (keyed.symm.trans kept.keyed)
  cases free.symm.trans kept.found

theorem search (store : SessionStore) (filled : applicationName ≠ "") (sessionId : String)
    (request : Request) :
    store.Search sessionId applicationName request
      (store.resolveDialog sessionId applicationName request) := by
  obtain ⟨first, nearKeyed⟩ :=
    DialogKey.ofRequest_of_filled filled sessionId request (Polarity.ofRole request.role)
  obtain ⟨second, farKeyed⟩ :=
    DialogKey.ofRequest_of_filled filled sessionId request (Polarity.ofRole request.role).opposite
  unfold resolveDialog Polarity.attempts resolveDialogFrom
  rw [nearKeyed]
  dsimp only
  cases near : store.dialogs.find? first with
  | some serial => exact .near ⟨nearKeyed, near⟩
  | none =>
      have nearBare := bare_of_free nearKeyed near
      dsimp only
      unfold resolveDialogFrom
      rw [farKeyed]
      dsimp only
      cases far : store.dialogs.find? second with
      | some serial => exact .far nearBare ⟨farKeyed, far⟩
      | none =>
          refine .missing _ fun side => ?_
          rcases Polarity.eq_or_eq_opposite (Polarity.ofRole request.role) side with rfl | rfl
          · exact nearBare
          · exact bare_of_free farKeyed far

theorem KeptOn.unique {request : Request} {side : Polarity} {serial other : Nat}
    {key another : DialogKey} (kept : store.KeptOn sessionId applicationName request side serial key)
    (again : store.KeptOn sessionId applicationName request side other another) :
    serial = other ∧ key = another := by
  obtain rfl := Except.ok.inj (kept.keyed.symm.trans again.keyed)
  exact ⟨Option.some.inj (kept.found.symm.trans again.found), rfl⟩

theorem Search.eq_of_found {request : Request}
    {outcome : Except DispatchError (Nat × DialogKey × Polarity)} {found : Nat × DialogKey × Polarity}
    (search : store.Search sessionId applicationName request outcome)
    (again : store.Search sessionId applicationName request (.ok found)) : outcome = .ok found := by
  cases again with
  | near kept =>
      cases search with
      | near same =>
          obtain ⟨rfl, rfl⟩ := same.unique kept
          rfl
      | far bare => exact absurd kept (bare _ _)
      | missing _ bare => exact absurd kept (bare _ _ _)
  | far bare kept =>
      cases search with
      | near near => exact absurd near (bare _ _)
      | far _ same =>
          obtain ⟨rfl, rfl⟩ := same.unique kept
          rfl
      | missing _ nowhere => exact absurd kept (nowhere _ _ _)

theorem resolveDialog_of_near (filled : applicationName ≠ "") {request : Request} {serial : Nat}
    {key : DialogKey} (kept : store.KeptOn sessionId applicationName request
      (Polarity.ofRole request.role) serial key) :
    store.resolveDialog sessionId applicationName request =
      .ok (serial, key, Polarity.ofRole request.role) :=
  (store.search filled sessionId request).eq_of_found (.near kept)

theorem resolveDialog_of_far (filled : applicationName ≠ "") {request : Request} {serial : Nat}
    {key : DialogKey}
    (bare : store.Bare sessionId applicationName request (Polarity.ofRole request.role))
    (kept : store.KeptOn sessionId applicationName request
      (Polarity.ofRole request.role).opposite serial key) :
    store.resolveDialog sessionId applicationName request =
      .ok (serial, key, (Polarity.ofRole request.role).opposite) :=
  (store.search filled sessionId request).eq_of_found (.far bare kept)

theorem resolveDialog_of_bare (filled : applicationName ≠ "") {request : Request}
    (bare : ∀ side, store.Bare sessionId applicationName request side) :
    ∃ text, store.resolveDialog sessionId applicationName request =
      .error (.sessionNotFound text) := by
  have search := store.search filled sessionId request
  generalize store.resolveDialog sessionId applicationName request = outcome at search ⊢
  cases search with
  | near kept | far _ kept => exact absurd kept (bare _ _ _)
  | missing text => exact ⟨text, rfl⟩

theorem resolveDialog_of_only (filled : applicationName ≠ "") {request : Request} {side : Polarity}
    {serial : Nat} {key : DialogKey}
    (kept : store.KeptOn sessionId applicationName request side serial key)
    (only : store.Bare sessionId applicationName request side.opposite) :
    store.resolveDialog sessionId applicationName request = .ok (serial, key, side) := by
  rcases Polarity.eq_or_eq_opposite (Polarity.ofRole request.role) side with rfl | rfl
  · exact resolveDialog_of_near filled kept
  · rw [Polarity.opposite_opposite] at only
    exact resolveDialog_of_far filled only kept

theorem keptOn_mirror (mirrors : request.Mirrors mirror) {side : Polarity} {serial : Nat}
    {key : DialogKey} :
    store.KeptOn sessionId applicationName mirror side.opposite serial key ↔
      store.KeptOn sessionId applicationName request side serial key := by
  have same := DialogKey.ofRequest_mirror mirrors sessionId applicationName side
  constructor
  · rintro ⟨keyed, found⟩
    exact ⟨same.symm.trans keyed, found⟩
  · rintro ⟨keyed, found⟩
    exact ⟨same.trans keyed, found⟩

theorem bare_mirror (mirrors : request.Mirrors mirror) {side : Polarity}
    (bare : store.Bare sessionId applicationName request side) :
    store.Bare sessionId applicationName mirror side.opposite :=
  fun serial key kept => bare serial key ((keptOn_mirror mirrors).mp kept)

inductive Opposed : Except DispatchError (Nat × DialogKey × Polarity) →
    Except DispatchError (Nat × DialogKey × Polarity) → Prop
  | found (serial : Nat) (key : DialogKey) (side : Polarity) :
      Opposed (.ok (serial, key, side)) (.ok (serial, key, side.opposite))
  | missing (text other : String) :
      Opposed (.error (.sessionNotFound text)) (.error (.sessionNotFound other))

theorem opposed_of_mirrors (filled : applicationName ≠ "") (mirrors : request.Mirrors mirror) :
    Opposed (store.resolveDialog sessionId applicationName request)
      (store.resolveDialog sessionId applicationName mirror) := by
  have search := store.search filled sessionId request
  have turned := mirrors.ofRole
  generalize store.resolveDialog sessionId applicationName request = outcome at search ⊢
  cases search with
  | near kept =>
      have away := (keptOn_mirror mirrors).mpr kept
      rw [← turned] at away
      rw [resolveDialog_of_near filled away, turned]
      exact .found _ _ _
  | far bare kept =>
      have nearBare := bare_mirror mirrors bare
      have away := (keptOn_mirror mirrors).mpr kept
      rw [← turned] at nearBare away
      rw [resolveDialog_of_far filled nearBare away, turned]
      exact .found _ _ _
  | missing text bare =>
      have nowhere (side : Polarity) : store.Bare sessionId applicationName mirror side := by
        rw [← side.opposite_opposite]
        exact bare_mirror mirrors (bare side.opposite)
      obtain ⟨other, missed⟩ := resolveDialog_of_bare filled nowhere
      rw [missed]
      exact .missing text other

/-- The search for the dialog session of a request, and the part that the sides play in it. -/
structure TwoSided (store : SessionStore) (sessionId applicationName : String) (request : Request) :
    Prop where
  succeeds : (∃ found, store.resolveDialog sessionId applicationName request = .ok found) ↔
    ∃ side serial key, store.KeptOn sessionId applicationName request side serial key
  answer : ∀ serial key side,
    store.resolveDialog sessionId applicationName request = .ok (serial, key, side) →
      store.KeptOn sessionId applicationName request side serial key
  preferred : (∀ side, ∃ serial key,
      store.KeptOn sessionId applicationName request side serial key) →
    ∃ serial key, store.resolveDialog sessionId applicationName request =
      .ok (serial, key, Polarity.ofRole request.role)
  only : ∀ side serial key, store.KeptOn sessionId applicationName request side serial key →
    store.Bare sessionId applicationName request side.opposite →
    ∀ role, store.resolveDialog sessionId applicationName { request with role } =
      .ok (serial, key, side)
  missing : (∀ side, store.Bare sessionId applicationName request side) →
    ∃ text, store.resolveDialog sessionId applicationName request = .error (.sessionNotFound text)
  mirrored : ∀ mirror, request.Mirrors mirror →
    Opposed (store.resolveDialog sessionId applicationName request)
      (store.resolveDialog sessionId applicationName mirror)

/-- In every store, and for every application session, a request leads to the dialog session of
either side. -/
theorem twoSided (store : SessionStore) (sessionId : String) (filled : applicationName ≠ "")
    (request : Request) : store.TwoSided sessionId applicationName request where
  succeeds := by
    have search := store.search filled sessionId request
    constructor
    · rintro ⟨found, done⟩
      rw [done] at search
      cases search with
      | near kept | far _ kept => exact ⟨_, _, _, kept⟩
    · rintro ⟨side, serial, key, kept⟩
      generalize store.resolveDialog sessionId applicationName request = outcome at search ⊢
      cases search with
      | near | far => exact ⟨_, rfl⟩
      | missing _ bare => exact absurd kept (bare side serial key)
  answer serial key side done := by
    have search := store.search filled sessionId request
    rw [done] at search
    cases search with
    | near kept => exact kept
    | far _ kept => exact kept
  preferred both := by
    obtain ⟨serial, key, kept⟩ := both (Polarity.ofRole request.role)
    exact ⟨serial, key, resolveDialog_of_near filled kept⟩
  only side serial key kept bare role := by
    have keptThere : store.KeptOn sessionId applicationName { request with role } side serial key :=
      ⟨kept.keyed, kept.found⟩
    have bareThere : store.Bare sessionId applicationName { request with role } side.opposite :=
      fun other another there => bare other another ⟨there.keyed, there.found⟩
    exact resolveDialog_of_only filled keptThere bareThere
  missing := resolveDialog_of_bare filled
  mirrored _ mirrors := opposed_of_mirrors filled mirrors

end SessionStore

namespace Sample

def reply : Request :=
  { enquiry with
    sender := enquiry.recipient
    recipient := enquiry.sender
    role := some .client }

theorem reply_mirrors : enquiry.Mirrors reply where
  sender := rfl
  recipient := rfl
  callId := rfl
  role := by decide

end Sample

namespace SessionStore

theorem twoSided_enquiry :
    let search (request : Request) := Sample.rooms.resolveDialog "1" "conference" request
    "conference" ≠ "" ∧ Sample.rooms.TwoSided "1" "conference" Sample.enquiry ∧
      (∀ role, search { Sample.enquiry with role } = .ok (0, Sample.roomDialog, .normal)) ∧
      Opposed (search Sample.enquiry) (search Sample.reply) ∧
      search Sample.reply = .ok (0, Sample.roomDialog, .inverted) := by
  intro search
  have filled : "conference" ≠ "" := by decide
  have sided := twoSided Sample.rooms "1" filled Sample.enquiry
  have kept : Sample.rooms.KeptOn "1" "conference" Sample.enquiry .normal 0 Sample.roomDialog :=
    ⟨rfl, rfl⟩
  have bare : Sample.rooms.Bare "1" "conference" Sample.enquiry .inverted :=
    bare_of_free rfl rfl
  exact ⟨filled, sided, sided.only _ _ _ kept bare, sided.mirrored _ Sample.reply_mirrors, rfl⟩

end SessionStore

end SipContainer
