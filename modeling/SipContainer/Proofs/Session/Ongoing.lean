import Mathlib.Data.List.Induction
import SipContainer.Session.Operation
/-!
The transactions under way in a dialog, over any operations on it. Listed are those whose latest
operation is an addition, in the order of the additions that count: a transaction that is added again keeps
its place, and one that has been removed in between goes to the end. What becomes of a transaction has no
bearing on the others.
-/

namespace SipContainer

namespace Dialog

variable {dialog before after : Dialog} {id other : TransactionId}

theorem addTransaction_of_mem (present : id ∈ dialog.transactions) :
    dialog.addTransaction id = dialog :=
  if_pos (List.contains_iff_mem.mpr present)

theorem addTransaction_of_not_mem (absent : id ∉ dialog.transactions) :
    dialog.addTransaction id = { dialog with transactions := dialog.transactions ++ [id] } :=
  if_neg (fun present => absent (List.contains_iff_mem.mp present))

theorem addTransaction_eq_self_iff :
    dialog.addTransaction id = dialog ↔ id ∈ dialog.transactions := by
  refine ⟨fun same => ?_, addTransaction_of_mem⟩
  by_contra absent
  rw [addTransaction_of_not_mem absent] at same
  simpa using congrArg Dialog.transactions same

theorem filter_bne_eq_self_iff {α : Type} [DecidableEq α] {item : α} {items : List α} :
    items.filter (· != item) = items ↔ item ∉ items := by
  rw [List.filter_eq_self]
  simp only [bne_iff_ne]
  exact List.forall_mem_ne'

theorem length_removeTransaction_eq_iff :
    (dialog.removeTransaction id).transactions.length = dialog.transactions.length ↔
      id ∉ dialog.transactions := by
  rw [← filter_bne_eq_self_iff]
  unfold removeTransaction
  rw [List.length_filter_eq_length_iff, List.filter_eq_self]

theorem removeTransaction_eq_self_iff :
    dialog.removeTransaction id = dialog ↔ id ∉ dialog.transactions := by
  rw [← filter_bne_eq_self_iff]
  constructor
  · intro same
    exact congrArg Dialog.transactions same
  · intro same
    unfold removeTransaction
    rw [same]

theorem addSubscription_eq_self_iff {subscription : Subscription} :
    dialog.addSubscription subscription = dialog ↔ subscription ∈ dialog.subscriptions := by
  unfold addSubscription
  split
  · rename_i present
    exact iff_of_true rfl (List.contains_iff_mem.mp present)
  · rename_i absent
    refine iff_of_false (fun same => ?_) (fun present => absent (List.contains_iff_mem.mpr present))
    simpa using congrArg Dialog.subscriptions same

theorem removeSubscription_eq_self_iff {subscription : Subscription} :
    dialog.removeSubscription subscription = dialog ↔ subscription ∉ dialog.subscriptions := by
  rw [← filter_bne_eq_self_iff]
  constructor
  · intro same
    exact congrArg Dialog.subscriptions same
  · intro same
    unfold removeSubscription
    rw [same]

theorem transactions_subscribe (dialog : Dialog) (request : Request) :
    (dialog.subscribe request).transactions = dialog.transactions := by
  unfold subscribe addSubscription
  split
  · split <;> rfl
  · rfl

theorem transactions_unsubscribe (dialog : Dialog) (request : Request) :
    (dialog.unsubscribe request).transactions = dialog.transactions := by
  unfold unsubscribe
  split <;> rfl

/-! ### A dialog without one of its transactions -/

theorem mem_removeTransaction_iff (different : other ≠ id) :
    other ∈ (dialog.removeTransaction id).transactions ↔ other ∈ dialog.transactions := by
  simp [removeTransaction, different]

theorem addTransaction_removeTransaction (different : other ≠ id) :
    (dialog.removeTransaction id).addTransaction other =
      (dialog.addTransaction other).removeTransaction id := by
  by_cases present : other ∈ dialog.transactions
  · rw [addTransaction_of_mem present,
      addTransaction_of_mem ((mem_removeTransaction_iff different).mpr present)]
  · rw [addTransaction_of_not_mem present,
      addTransaction_of_not_mem (mt (mem_removeTransaction_iff different).mp present)]
    simp [removeTransaction, different]

theorem removeTransaction_comm (dialog : Dialog) (id other : TransactionId) :
    (dialog.removeTransaction id).removeTransaction other =
      (dialog.removeTransaction other).removeTransaction id := by
  simp only [removeTransaction, List.filter_filter, Bool.and_comm]

theorem subscribe_removeTransaction (dialog : Dialog) (id : TransactionId) (request : Request) :
    (dialog.removeTransaction id).subscribe request =
      (dialog.subscribe request).removeTransaction id := by
  unfold subscribe addSubscription
  split
  · rw [apply_ite (fun behind : Dialog => behind.removeTransaction id)]
    rfl
  · rfl

theorem unsubscribe_removeTransaction (dialog : Dialog) (id : TransactionId) (request : Request) :
    (dialog.removeTransaction id).unsubscribe request =
      (dialog.unsubscribe request).removeTransaction id := by
  unfold unsubscribe
  split <;> rfl

end Dialog

namespace DialogOperation

def transaction? : DialogOperation → Option TransactionId
  | addTransaction id | removeTransaction id => some id
  | _ => none

def concerns (id : TransactionId) (operation : DialogOperation) : Bool :=
  operation.transaction? = some id

def latest? (operations : List DialogOperation) (id : TransactionId) : Option DialogOperation :=
  (operations.filter (concerns id)).getLast?

def listed (dialog : Dialog) (operations : List DialogOperation) : List TransactionId :=
  (run dialog operations).1.transactions

def exchanges (dialog : Dialog) (operations : List DialogOperation) :
    List (DialogOperation × DialogAnswer) :=
  operations.zip (run dialog operations).2

/-- The place among some operations from which a transaction has been under way: the earliest that adds
it since it was last removed. -/
structure Since (operations : List DialogOperation) (id : TransactionId) (place : Nat) : Prop where
  added : operations[place]? = some (.addTransaction id)
  kept : ∀ later, place < later → operations[later]? ≠ some (.removeTransaction id)
  earliest : ∀ earlier, earlier < place → operations[earlier]? = some (.addTransaction id) →
    ∃ between, earlier < between ∧ between < place ∧
      operations[between]? = some (.removeTransaction id)

open Dialog

inductive Listing : List TransactionId → DialogOperation → List TransactionId → Prop
  | keep {listed : List TransactionId} {id : TransactionId} (present : id ∈ listed) :
      Listing listed (.addTransaction id) listed
  | append {listed : List TransactionId} {id : TransactionId} (absent : id ∉ listed) :
      Listing listed (.addTransaction id) (listed ++ [id])
  | drop (listed : List TransactionId) (id : TransactionId) :
      Listing listed (.removeTransaction id) (listed.filter (· != id))
  | other {operation : DialogOperation} (free : operation.transaction? = none)
      (listed : List TransactionId) : Listing listed operation listed

variable {dialog : Dialog} {operations : List DialogOperation} {operation : DialogOperation}
  {id other : TransactionId} {place : Nat}

theorem listing (dialog : Dialog) (operation : DialogOperation) :
    Listing dialog.transactions operation (apply dialog operation).1.transactions := by
  cases operation with
  | addTransaction id =>
      change Listing _ _ (dialog.addTransaction id).transactions
      by_cases present : id ∈ dialog.transactions
      · rw [addTransaction_of_mem present]
        exact .keep present
      · rw [addTransaction_of_not_mem present]
        exact .append present
  | removeTransaction id => exact .drop _ id
  | subscribe request =>
      change Listing _ _ (dialog.subscribe request).transactions
      rw [transactions_subscribe]
      exact .other rfl _
  | unsubscribe request =>
      change Listing _ _ (dialog.unsubscribe request).transactions
      rw [transactions_unsubscribe]
      exact .other rfl _
  | _ => exact .other rfl _

theorem Listing.mem_iff {before after : List TransactionId} (listing : Listing before operation after) :
    other ∈ after ↔ if concerns other operation then operation = .addTransaction other
      else other ∈ before := by
  cases listing with
  | keep present | append absent | drop =>
      rename_i id
      by_cases same : id = other
      · subst same
        simp [concerns, transaction?, *]
      · simp [concerns, transaction?, same, Ne.symm same]
  | other free => simp [concerns, free]

theorem apply_addTransaction (dialog : Dialog) (id : TransactionId) :
    (apply dialog (.addTransaction id)).2 = .verdict (id ∉ dialog.transactions) := by
  simp [apply]

theorem apply_removeTransaction (dialog : Dialog) (id : TransactionId) :
    (apply dialog (.removeTransaction id)).2 = .verdict (id ∈ dialog.transactions) := by
  change DialogAnswer.verdict (_ != _) = _
  rw [DialogAnswer.verdict.injEq, Bool.eq_iff_iff, bne_iff_ne, decide_eq_true_iff, ne_eq,
    length_removeTransaction_eq_iff, not_not]

def records : DialogOperation → Bool
  | addTransaction _ | removeTransaction _ | subscribe _ | unsubscribe _ => true
  | _ => false

/-- An operation on one of the two lists of a dialog says whether it has changed the dialog. -/
theorem answer_of_records (dialog : Dialog) (records : operation.records = true) :
    (apply dialog operation).2 = .verdict ((apply dialog operation).1 ≠ dialog) := by
  cases operation with
  | addTransaction id =>
      rw [apply_addTransaction]
      change _ = DialogAnswer.verdict (dialog.addTransaction id ≠ dialog)
      simp only [ne_eq, addTransaction_eq_self_iff]
  | removeTransaction id =>
      rw [apply_removeTransaction]
      change _ = DialogAnswer.verdict (dialog.removeTransaction id ≠ dialog)
      simp only [ne_eq, removeTransaction_eq_self_iff, not_not]
  | subscribe request =>
      change DialogAnswer.verdict _ = .verdict (dialog.subscribe request ≠ dialog)
      unfold Dialog.subscribe
      cases Subscription.ofRequest? request <;> simp [addSubscription_eq_self_iff]
  | unsubscribe request =>
      change DialogAnswer.verdict _ = .verdict (dialog.unsubscribe request ≠ dialog)
      unfold Dialog.unsubscribe
      cases Subscription.ofRequest? request <;> simp [removeSubscription_eq_self_iff]
  | _ => cases records

theorem run_append (dialog : Dialog) (early late : List DialogOperation) :
    run dialog (early ++ late) =
      ((run (run dialog early).1 late).1,
        (run dialog early).2 ++ (run (run dialog early).1 late).2) := by
  induction early generalizing dialog with
  | nil => rfl
  | cons operation rest ih =>
      simp only [List.cons_append, run, ih]

theorem length_answers (dialog : Dialog) (operations : List DialogOperation) :
    (run dialog operations).2.length = operations.length := by
  induction operations generalizing dialog with
  | nil => rfl
  | cons operation rest ih => simp only [run, List.length_cons, ih]

theorem answer_of_split (dialog : Dialog) (before after : List DialogOperation)
    (operation : DialogOperation) :
    (run dialog (before ++ operation :: after)).2[before.length]? =
      some (apply (run dialog before).1 operation).2 := by
  rw [run_append, ← length_answers dialog before, List.getElem?_append_right (Nat.le_refl _),
    Nat.sub_self]
  rfl

theorem listing_concat (dialog : Dialog) (operations : List DialogOperation)
    (operation : DialogOperation) :
    Listing (listed dialog operations) operation (listed dialog (operations ++ [operation])) := by
  unfold listed
  rw [run_append]
  exact listing _ operation

theorem latest?_concat (operations : List DialogOperation) (operation : DialogOperation)
    (id : TransactionId) :
    latest? (operations ++ [operation]) id =
      if concerns id operation then some operation else latest? operations id := by
  unfold latest?
  rw [List.filter_append]
  cases concerned : concerns id operation <;> simp [concerned]

theorem mem_listed_iff (fresh : dialog.transactions = []) :
    id ∈ listed dialog operations ↔ latest? operations id = some (.addTransaction id) := by
  induction operations using List.reverseRecOn with
  | nil =>
      have none : listed dialog [] = [] := fresh
      rw [none]
      exact iff_of_false List.not_mem_nil nofun
  | append_singleton operations operation ih =>
      rw [(listing_concat dialog operations operation).mem_iff, latest?_concat, ih]
      split <;> simp

/-! ### Since when a transaction is under way -/

theorem at_concat_iff {asked : DialogOperation} :
    (operations ++ [operation])[place]? = some asked ↔
      operations[place]? = some asked ∨ place = operations.length ∧ operation = asked := by
  rcases Nat.lt_trichotomy place operations.length with early | last | beyond
  · rw [List.getElem?_append_left early]
    simp [Nat.ne_of_lt early]
  · rw [last, List.getElem?_concat_length]
    simp
  · rw [List.getElem?_eq_none (by simp; omega), List.getElem?_eq_none (Nat.le_of_lt beyond)]
    simp [Nat.ne_of_gt beyond]

theorem lt_of_at {asked : DialogOperation} (present : operations[place]? = some asked) :
    place < operations.length :=
  (List.getElem?_eq_some_iff.mp present).1

namespace Since

theorem unique {first second : Nat} (one : Since operations id first)
    (another : Since operations id second) : first = second := by
  rcases Nat.lt_trichotomy first second with before | same | after
  · obtain ⟨between, behind, -, removed⟩ := another.earliest first before one.added
    exact absurd removed (one.kept between behind)
  · exact same
  · obtain ⟨between, behind, -, removed⟩ := one.earliest second after another.added
    exact absurd removed (another.kept between behind)

theorem concat (since : Since operations id place) (stays : operation ≠ .removeTransaction id) :
    Since (operations ++ [operation]) id place where
  added := at_concat_iff.mpr (Or.inl since.added)
  kept := by
    intro later behind removed
    rcases at_concat_iff.mp removed with early | ⟨-, same⟩
    · exact since.kept later behind early
    · exact stays same
  earliest := by
    intro earlier before added
    rcases at_concat_iff.mp added with early | ⟨last, -⟩
    · obtain ⟨between, behind, ahead, removed⟩ := since.earliest earlier before early
      exact ⟨between, behind, ahead, at_concat_iff.mpr (Or.inl removed)⟩
    · have within := lt_of_at since.added
      omega

end Since

/-- Each addition of a transaction has been followed by its removal. -/
def Closed (operations : List DialogOperation) (id : TransactionId) : Prop :=
  ∀ earlier : Nat, operations[earlier]? = some (.addTransaction id) →
    ∃ later, earlier < later ∧ operations[later]? = some (.removeTransaction id)

theorem Closed.concat (closed : Closed operations id) (other : operation ≠ .addTransaction id) :
    Closed (operations ++ [operation]) id := by
  intro earlier added
  rcases at_concat_iff.mp added with early | ⟨-, same⟩
  · obtain ⟨later, behind, removed⟩ := closed earlier early
    exact ⟨later, behind, at_concat_iff.mpr (Or.inl removed)⟩
  · exact absurd same other

theorem closed_of_removed (operations : List DialogOperation) (id : TransactionId) :
    Closed (operations ++ [.removeTransaction id]) id := by
  intro earlier added
  rcases at_concat_iff.mp added with early | ⟨-, same⟩
  · exact ⟨operations.length, lt_of_at early, at_concat_iff.mpr (Or.inr ⟨rfl, rfl⟩)⟩
  · cases same

theorem Closed.since (closed : Closed operations id) :
    Since (operations ++ [.addTransaction id]) id operations.length where
  added := at_concat_iff.mpr (Or.inr ⟨rfl, rfl⟩)
  kept := by
    intro later behind removed
    rcases at_concat_iff.mp removed with early | ⟨-, same⟩
    · exact absurd (lt_of_at early) (Nat.lt_asymm behind)
    · cases same
  earliest := by
    intro earlier before added
    rcases at_concat_iff.mp added with early | ⟨last, -⟩
    · obtain ⟨between, behind, removed⟩ := closed earlier early
      exact ⟨between, behind, lt_of_at removed, at_concat_iff.mpr (Or.inl removed)⟩
    · exact absurd before (last ▸ Nat.lt_irrefl _)

def Before (operations : List DialogOperation) (first second : TransactionId) : Prop :=
  ∀ {place later}, Since operations first place → Since operations second later → place < later

structure Placed (operations : List DialogOperation) (listed : List TransactionId) : Prop where
  since : ∀ {id}, id ∈ listed → ∃ place, Since operations id place
  closed : ∀ {id}, id ∉ listed → Closed operations id
  ordered : listed.Pairwise (Before operations)

namespace Placed

variable {before after : List TransactionId}

theorem ordered_concat (placed : Placed operations before) (sub : after.Sublist before)
    (stays : ∀ id ∈ after, operation ≠ .removeTransaction id) :
    after.Pairwise (Before (operations ++ [operation])) := by
  refine (placed.ordered.sublist sub).imp_of_mem ?_
  intro first second firstMember secondMember below place later sinceFirst sinceSecond
  obtain ⟨firstPlace, firstOld⟩ := placed.since (sub.subset firstMember)
  obtain ⟨secondPlace, secondOld⟩ := placed.since (sub.subset secondMember)
  rw [sinceFirst.unique (firstOld.concat (stays first firstMember)),
    sinceSecond.unique (secondOld.concat (stays second secondMember))]
  exact below firstOld secondOld

theorem concat_idle (placed : Placed operations before)
    (stays : ∀ id ∈ before, operation ≠ .removeTransaction id)
    (known : ∀ id, operation = .addTransaction id → id ∈ before) :
    Placed (operations ++ [operation]) before where
  since := by
    intro id member
    obtain ⟨place, since⟩ := placed.since member
    exact ⟨place, since.concat (stays id member)⟩
  closed := fun absent => (placed.closed absent).concat fun same => absent (known _ same)
  ordered := placed.ordered_concat (List.Sublist.refl _) stays

theorem concat_append (placed : Placed operations before) (absent : id ∉ before) :
    Placed (operations ++ [.addTransaction id]) (before ++ [id]) := by
  have begun := (placed.closed absent).since
  refine ⟨fun member => ?_, fun missing => ?_, List.pairwise_append.mpr
    ⟨placed.ordered_concat (List.Sublist.refl _) fun _ _ => nofun, List.pairwise_singleton _ _, ?_⟩⟩
  · rcases List.mem_append.mp member with old | new
    · obtain ⟨place, since⟩ := placed.since old
      exact ⟨place, since.concat nofun⟩
    · rw [List.mem_singleton.mp new]
      exact ⟨_, begun⟩
  · rw [List.mem_append, List.mem_singleton, not_or] at missing
    exact (placed.closed missing.1).concat fun same => missing.2 (addTransaction.inj same).symm
  · intro first member second new place later sinceFirst sinceSecond
    obtain ⟨firstPlace, firstOld⟩ := placed.since member
    rw [List.mem_singleton.mp new] at sinceSecond
    rw [sinceSecond.unique begun, sinceFirst.unique (firstOld.concat nofun)]
    exact lt_of_at firstOld.added

theorem concat_drop (placed : Placed operations before) (id : TransactionId) :
    Placed (operations ++ [.removeTransaction id]) (before.filter (· != id)) := by
  have stays : ∀ other ∈ before.filter (· != id),
      removeTransaction id ≠ .removeTransaction other := by
    intro other member same
    rw [removeTransaction.inj same] at member
    simp at member
  refine ⟨fun {other} member => ?_, fun {other} missing => ?_,
    placed.ordered_concat List.filter_sublist stays⟩
  · obtain ⟨place, since⟩ := placed.since (List.mem_filter.mp member).1
    exact ⟨place, since.concat (stays other member)⟩
  · by_cases same : other = id
    · rw [same]
      exact closed_of_removed operations id
    · refine (placed.closed fun member => missing ?_).concat nofun
      exact List.mem_filter.mpr ⟨member, bne_iff_ne.mpr same⟩

theorem concat (placed : Placed operations before) (listing : Listing before operation after) :
    Placed (operations ++ [operation]) after := by
  cases listing with
  | keep present =>
      refine placed.concat_idle (fun _ _ => nofun) fun other same => ?_
      rwa [← addTransaction.inj same]
  | append absent => exact placed.concat_append absent
  | drop _ id => exact placed.concat_drop id
  | other free =>
      refine placed.concat_idle ?_ ?_
      · rintro id - rfl
        cases free
      · rintro id rfl
        cases free

end Placed

theorem placed_listed (fresh : dialog.transactions = []) (operations : List DialogOperation) :
    Placed operations (listed dialog operations) := by
  induction operations using List.reverseRecOn with
  | nil =>
      have none : listed dialog [] = [] := fresh
      rw [none]
      exact ⟨fun member => (List.not_mem_nil member).elim, fun _ => nofun, List.Pairwise.nil⟩
  | append_singleton operations operation ih => exact ih.concat (listing_concat dialog _ operation)

/-! ### Without the operations on one transaction -/

theorem apply_removed (dialog : Dialog) (apart : concerns id operation = false) :
    apply (dialog.removeTransaction id) operation =
      ((apply dialog operation).1.removeTransaction id, (apply dialog operation).2) := by
  cases operation with
  | addTransaction other =>
      have different : other ≠ id := by simpa [concerns, transaction?] using apart
      refine Prod.ext (addTransaction_removeTransaction different) ?_
      simp only [apply_addTransaction, mem_removeTransaction_iff different]
  | removeTransaction other =>
      have different : other ≠ id := by simpa [concerns, transaction?] using apart
      refine Prod.ext (removeTransaction_comm dialog id other) ?_
      simp only [apply_removeTransaction, mem_removeTransaction_iff different]
  | subscribe request => exact Prod.ext (subscribe_removeTransaction dialog id request) rfl
  | unsubscribe request => exact Prod.ext (unsubscribe_removeTransaction dialog id request) rfl
  | _ => rfl

theorem removed_apply (dialog : Dialog) (about : concerns id operation = true) :
    (apply dialog operation).1.removeTransaction id = dialog.removeTransaction id := by
  cases operation with
  | addTransaction other =>
      obtain rfl : other = id := by simpa [concerns, transaction?] using about
      change (dialog.addTransaction other).removeTransaction other = _
      by_cases present : other ∈ dialog.transactions
      · rw [addTransaction_of_mem present]
      · simp [addTransaction_of_not_mem present, Dialog.removeTransaction]
  | removeTransaction other =>
      obtain rfl : other = id := by simpa [concerns, transaction?] using about
      change (dialog.removeTransaction other).removeTransaction other = _
      simp [Dialog.removeTransaction, List.filter_filter]
  | _ => cases about

/-- Without the operations on a transaction the dialog is the same but for it, and all other operations
are answered as before. -/
theorem run_apart (dialog : Dialog) (operations : List DialogOperation) (id : TransactionId) :
    (run (dialog.removeTransaction id) (operations.filter (!concerns id ·))).1 =
        (run dialog operations).1.removeTransaction id ∧
      exchanges (dialog.removeTransaction id) (operations.filter (!concerns id ·)) =
        (exchanges dialog operations).filter (!concerns id ·.1) := by
  induction operations generalizing dialog with
  | nil => exact ⟨rfl, rfl⟩
  | cons operation rest ih =>
      obtain ⟨last, answers⟩ := ih (apply dialog operation).1
      unfold exchanges at answers
      cases about : concerns id operation with
      | true =>
          rw [removed_apply dialog about] at last answers
          have skipped : (operation :: rest).filter (!concerns id ·) =
              rest.filter (!concerns id ·) := List.filter_cons_of_neg (by simp [about])
          rw [skipped]
          refine ⟨last, answers.trans ?_⟩
          exact (List.filter_cons_of_neg (by simp [about])).symm
      | false =>
          have stays : (operation :: rest).filter (!concerns id ·) =
              operation :: rest.filter (!concerns id ·) := List.filter_cons_of_pos (by simp [about])
          rw [stays]
          simp only [exchanges, run, apply_removed dialog about, List.zip_cons_cons]
          refine ⟨last, (congrArg _ answers).trans ?_⟩
          exact (List.filter_cons_of_pos (by simp [about])).symm

theorem Placed.nodup {listed : List TransactionId} (placed : Placed operations listed) :
    listed.Nodup := by
  refine placed.ordered.imp_of_mem ?_
  rintro first second member - below rfl
  obtain ⟨place, since⟩ := placed.since member
  exact Nat.lt_irrefl place (below since since)

theorem changed_iff (dialog : Dialog) (operations : List DialogOperation) (id : TransactionId) :
    listed dialog (operations ++ [.addTransaction id]) ≠ listed dialog operations ↔
      id ∉ listed dialog operations := by
  have step := listing_concat dialog operations (.addTransaction id)
  generalize listed dialog (operations ++ [.addTransaction id]) = after at step
  generalize listed dialog operations = before at step
  cases step with
  | keep present => simp [present]
  | append absent => simp [absent]
  | other free => cases free

end DialogOperation

open DialogOperation

/-- The transactions under way in a dialog behind some operations, and how these are answered. -/
structure InArrivalOrder (dialog : Dialog) (operations : List DialogOperation) : Prop where
  unique : (listed dialog operations).Nodup
  current : ∀ id, id ∈ listed dialog operations ↔
    latest? operations id = some (.addTransaction id)
  placed : ∀ id ∈ listed dialog operations, ∃! place, Since operations id place
  ordered : (listed dialog operations).Pairwise (Before operations)
  added : ∀ {before id after}, operations = before ++ .addTransaction id :: after →
    (run dialog operations).2[before.length]? =
        some (.verdict (listed dialog (before ++ [.addTransaction id]) ≠ listed dialog before)) ∧
      (listed dialog (before ++ [.addTransaction id]) ≠ listed dialog before ↔
        id ∉ listed dialog before)
  removed : ∀ {before id after}, operations = before ++ .removeTransaction id :: after →
    (run dialog operations).2[before.length]? = some (.verdict (id ∈ listed dialog before))
  alone : ∀ id, listed dialog (operations.filter (!concerns id ·)) =
      (listed dialog operations).filter (· != id) ∧
    exchanges dialog (operations.filter (!concerns id ·)) =
      (exchanges dialog operations).filter (!concerns id ·.1)

/-- Whatever is done to a dialog, its transactions are listed once each and in the order in which they
have come under way. -/
theorem Dialog.inArrivalOrder {dialog : Dialog} (fresh : dialog.transactions = [])
    (operations : List DialogOperation) : InArrivalOrder dialog operations := by
  have placed := placed_listed fresh operations
  refine ⟨placed.nodup, fun id => mem_listed_iff fresh, ?_, placed.ordered, ?_, ?_, ?_⟩
  · intro id member
    obtain ⟨place, since⟩ := placed.since member
    exact ⟨place, since, fun other another => another.unique since⟩
  · rintro before id after rfl
    have changes := changed_iff dialog before id
    refine ⟨?_, changes⟩
    rw [answer_of_split, apply_addTransaction]
    simp only [changes]
    rfl
  · rintro before id after rfl
    rw [answer_of_split, apply_removeTransaction]
    rfl
  · intro id
    have nothing : dialog.removeTransaction id = dialog := by
      rw [Dialog.removeTransaction_eq_self_iff, fresh]
      exact List.not_mem_nil
    have apart := run_apart dialog operations id
    rw [nothing] at apart
    exact ⟨congrArg Dialog.transactions apart.1, apart.2⟩

namespace Sample

/-- The first transaction is added again in vain, and once more after its removal. -/
def retransmissions : List DialogOperation :=
  let invite : TransactionId := .given "t-1"
  let update : TransactionId := .given "t-2"
  [.addTransaction invite, .addTransaction update, .addTransaction invite, .setState .early,
    .removeTransaction invite, .addTransaction invite, .removeTransaction (.generated 0)]

end Sample

theorem Dialog.inArrivalOrder_retransmissions :
    ({} : Dialog).transactions = [] ∧ InArrivalOrder {} Sample.retransmissions ∧
      listed {} Sample.retransmissions = [.given "t-2", .given "t-1"] ∧
      (run {} Sample.retransmissions).2 = [.verdict true, .verdict true, .verdict false, .done,
        .verdict true, .verdict true, .verdict false] :=
  ⟨rfl, Dialog.inArrivalOrder rfl Sample.retransmissions, by decide, by decide⟩

end SipContainer
