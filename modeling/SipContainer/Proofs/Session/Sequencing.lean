import SipContainer.Session.Operation
/-!
The sequence numbers of a dialog over any number of checks. The number seen last is a high-water mark:
it is the largest of the number at the start and those taken down since, so that a request with a number
of its own passes exactly when it is above all of them, whatever came in between. Requests that are
refused and those that repeat the number of another leave no trace.
-/

namespace SipContainer

/-- The check of a request: the number seen last when it came, and whether it passed. -/
structure Check where
  request : Request
  last : Option Nat
  passed : Bool

namespace Check

def counts (check : Check) : Bool :=
  check.passed && !check.request.method.reusesSequenceNumber

def taken? (check : Check) : Option Nat :=
  if check.counts then some check.request.sequence else none

end Check

/-- A number seen before is still seen, or a larger one. -/
def NotAbove (before after : Option Nat) : Prop :=
  ∀ seen ∈ before, ∃ number ∈ after, seen ≤ number

namespace NotAbove

variable {first second third : Option Nat}

theorem refl (last : Option Nat) : NotAbove last last :=
  fun seen present => ⟨seen, present, Nat.le_refl seen⟩

theorem trans (early : NotAbove first second) (late : NotAbove second third) :
    NotAbove first third := by
  intro seen present
  obtain ⟨middle, between, below⟩ := early seen present
  obtain ⟨number, after, above⟩ := late middle between
  exact ⟨number, after, Nat.le_trans below above⟩

end NotAbove

namespace Dialog

def check (dialog : Dialog) (request : Request) : Check where
  request
  last := dialog.sequence
  passed := inSequence dialog.sequence request

def checks (dialog : Dialog) : List Request → List Check
  | [] => []
  | request :: rest => dialog.check request :: (dialog.noteSequence request).checks rest

def noteAll (dialog : Dialog) (requests : List Request) : Dialog :=
  requests.foldl noteSequence dialog

/-- The number at the start, if there is one, and the numbers taken down in some checks. -/
def known (dialog : Dialog) (checks : List Check) : List Nat :=
  dialog.sequence.toList ++ checks.filterMap Check.taken?

variable {dialog : Dialog} {request : Request} {requests : List Request}

theorem nextSequence_eq (last : Option Nat) (request : Request) :
    nextSequence last request =
      if inSequence last request && !request.method.reusesSequenceNumber then
        some request.sequence
      else last := by
  cases reuses : request.method.reusesSequenceNumber <;> simp [nextSequence, reuses]

theorem noteSequence_of_counts (counts : (dialog.check request).counts = true) :
    dialog.noteSequence request = { dialog with sequence := some request.sequence } := by
  have passed : (inSequence dialog.sequence request &&
      !request.method.reusesSequenceNumber) = true := counts
  rw [noteSequence, nextSequence_eq, if_pos passed]

theorem noteSequence_of_not_counts (idle : (dialog.check request).counts = false) :
    dialog.noteSequence request = dialog := by
  have passedOver : (inSequence dialog.sequence request &&
      !request.method.reusesSequenceNumber) = false := idle
  rw [noteSequence, nextSequence_eq, passedOver, if_neg Bool.noConfusion]

theorem lt_of_counts (counts : (dialog.check request).counts = true) :
    ∀ seen ∈ dialog.sequence, seen < request.sequence := by
  obtain ⟨passed, own⟩ := Bool.and_eq_true_iff.mp counts
  rw [Bool.not_eq_true'] at own
  exact (inSequence_iff_of_own own).mp passed

theorem notAbove_noteSequence (dialog : Dialog) (request : Request) :
    NotAbove dialog.sequence (dialog.noteSequence request).sequence := by
  cases counts : (dialog.check request).counts with
  | true =>
      rw [noteSequence_of_counts counts]
      intro seen present
      exact ⟨request.sequence, rfl, Nat.le_of_lt (lt_of_counts counts seen present)⟩
  | false =>
      rw [noteSequence_of_not_counts counts]
      exact .refl _

theorem run_checkSequence (dialog : Dialog) (requests : List Request) :
    DialogOperation.run dialog (requests.map .checkSequence) =
      (dialog.noteAll requests,
        (dialog.checks requests).map (fun check => .verdict check.passed)) := by
  induction requests generalizing dialog with
  | nil => rfl
  | cons request rest ih =>
      have later := ih (dialog.noteSequence request)
      simp only [List.map_cons, DialogOperation.run, DialogOperation.apply, later]
      rfl

theorem checks_append (dialog : Dialog) (first second : List Request) :
    dialog.checks (first ++ second) = dialog.checks first ++ (dialog.noteAll first).checks second := by
  induction first generalizing dialog with
  | nil => rfl
  | cons request rest ih =>
      rw [List.cons_append, checks, ih]
      rfl

theorem map_request_checks (dialog : Dialog) (requests : List Request) :
    (dialog.checks requests).map Check.request = requests := by
  induction requests generalizing dialog with
  | nil => rfl
  | cons request rest ih =>
      rw [checks, List.map_cons, ih]
      rfl

theorem check_eq {before after : List Check} {check : Check}
    (split : dialog.checks requests = before ++ check :: after) :
    dialog.checks (before.map Check.request) = before ∧
      check = (dialog.noteAll (before.map Check.request)).check check.request := by
  have whole := dialog.map_request_checks requests
  rw [split, List.map_append, List.map_cons] at whole
  rw [← whole, checks_append] at split
  have length : (dialog.checks (before.map Check.request)).length = before.length := by
    rw [← List.length_map (f := Check.request), map_request_checks, List.length_map]
  obtain ⟨same, rest⟩ := List.append_inj split length
  exact ⟨same, (List.cons.inj rest).1.symm⟩

theorem max?_of_exceeded {last : Option Nat} {number : Nat} (exceeded : ∀ seen ∈ last, seen < number)
    (others : List Nat) :
    (last.toList ++ number :: others).max? = (number :: others).max? := by
  cases last with
  | none => rfl
  | some seen =>
      have larger : max seen number = number := Nat.max_eq_right (Nat.le_of_lt (exceeded seen rfl))
      rw [Option.toList_some, List.singleton_append, List.max?_cons', List.max?_cons',
        List.foldl_cons, larger]

theorem max?_known_noteSequence (dialog : Dialog) (request : Request) (later : List Check) :
    ((dialog.noteSequence request).known later).max? =
      (dialog.known (dialog.check request :: later)).max? := by
  unfold known
  cases counts : (dialog.check request).counts with
  | true =>
      have taken : (dialog.check request).taken? = some request.sequence := if_pos counts
      rw [noteSequence_of_counts counts, List.filterMap_cons_some taken,
        max?_of_exceeded (lt_of_counts counts)]
      rfl
  | false =>
      have taken : (dialog.check request).taken? = none := if_neg (by simp [counts])
      rw [noteSequence_of_not_counts counts, List.filterMap_cons_none taken]

/-- Only the number seen last changes, and it is the largest that is known. -/
theorem noteAll_eq (dialog : Dialog) (requests : List Request) :
    dialog.noteAll requests =
      { dialog with sequence := (dialog.known (dialog.checks requests)).max? } := by
  induction requests generalizing dialog with
  | nil =>
      have start : (dialog.known []).max? = dialog.sequence := by
        unfold known
        cases dialog.sequence <;> rfl
      rw [checks, start]
      rfl
  | cons request rest ih =>
      rw [checks, ← max?_known_noteSequence, noteAll, List.foldl_cons]
      exact ih (dialog.noteSequence request)

theorem rising_checks (dialog : Dialog) (requests : List Request) :
    ((dialog.checks requests).map Check.last ++ [(dialog.noteAll requests).sequence]).Pairwise
        NotAbove ∧
      ∀ later ∈ (dialog.checks requests).map Check.last ++ [(dialog.noteAll requests).sequence],
        NotAbove dialog.sequence later := by
  induction requests generalizing dialog with
  | nil =>
      refine ⟨List.pairwise_singleton _ _, ?_⟩
      intro later member
      rw [List.mem_singleton.mp member]
      exact .refl _
  | cons request rest ih =>
      obtain ⟨pairs, above⟩ := ih (dialog.noteSequence request)
      have onwards := fun later member =>
        (dialog.notAbove_noteSequence request).trans (above later member)
      refine ⟨List.Pairwise.cons onwards pairs, ?_⟩
      intro later member
      rcases List.mem_cons.mp member with rfl | behind
      · exact .refl _
      · exact onwards later behind

theorem checks_filter_counts (dialog : Dialog) (requests : List Request) :
    dialog.checks (((dialog.checks requests).filter Check.counts).map Check.request) =
        (dialog.checks requests).filter Check.counts ∧
      dialog.noteAll (((dialog.checks requests).filter Check.counts).map Check.request) =
        dialog.noteAll requests := by
  induction requests generalizing dialog with
  | nil => exact ⟨rfl, rfl⟩
  | cons request rest ih =>
      obtain ⟨same, last⟩ := ih (dialog.noteSequence request)
      rw [checks]
      cases counts : (dialog.check request).counts with
      | true =>
          rw [List.filter_cons_of_pos counts, List.map_cons]
          exact ⟨congrArg (dialog.check request :: ·) same, last⟩
      | false =>
          have skipped := noteSequence_of_not_counts counts
          rw [List.filter_cons_of_neg (by simp [counts])]
          rw [skipped] at same last ⊢
          refine ⟨same, last.trans ?_⟩
          rw [noteAll, noteAll, List.foldl_cons, skipped]

/-- What a check goes by, `before` being the checks that came before it. -/
structure Judged (dialog : Dialog) (before : List Check) (check : Check) : Prop where
  last : check.last = (dialog.known before).max?
  own : check.request.method.reusesSequenceNumber = false →
    (check.passed = true ↔ ∀ number ∈ dialog.known before, number < check.request.sequence)
  shared : check.request.method.reusesSequenceNumber = true →
    (check.passed = true ↔ ∀ seen ∈ check.last, check.request.sequence ≤ seen)

structure Sequenced (dialog : Dialog) (requests : List Request) : Prop where
  answers : DialogOperation.run dialog (requests.map .checkSequence) =
    (dialog.noteAll requests, (dialog.checks requests).map (fun check => .verdict check.passed))
  largest : dialog.noteAll requests =
    { dialog with sequence := (dialog.known (dialog.checks requests)).max? }
  rising : ((dialog.checks requests).map Check.last ++
    [(dialog.noteAll requests).sequence]).Pairwise NotAbove
  judged : ∀ {before check after}, dialog.checks requests = before ++ check :: after →
    Judged dialog before check
  alone : dialog.checks (((dialog.checks requests).filter Check.counts).map Check.request) =
    (dialog.checks requests).filter Check.counts
  aloneLast : dialog.noteAll (((dialog.checks requests).filter Check.counts).map Check.request) =
    dialog.noteAll requests

theorem judged_of_split {before after : List Check} {check : Check}
    (split : dialog.checks requests = before ++ check :: after) : Judged dialog before check := by
  obtain ⟨same, checked⟩ := check_eq split
  have counter := dialog.noteAll_eq (before.map Check.request)
  rw [same] at counter
  have last : check.last = (dialog.known before).max? := by
    rw [checked]
    exact congrArg Dialog.sequence counter
  have passed : check.passed = inSequence check.last check.request := by
    rw [checked]
    rfl
  refine ⟨last, ?_, ?_⟩
  · intro own
    rw [passed, inSequence_iff_of_own own, last]
    constructor
    · intro exceeds number known
      obtain ⟨largest, present⟩ := Option.isSome_iff_exists.mp
        (List.isSome_max?_of_mem known)
      have bound := (List.max?_eq_some_iff.mp present).2 number known
      exact Nat.lt_of_le_of_lt bound (exceeds largest present)
    · intro exceeds seen present
      exact exceeds seen (List.max?_mem present)
  · intro shared
    rw [passed, inSequence_iff_of_shared shared]

/-- The number seen last is a high-water mark over any requests: checks go by it, and it goes by the
requests that count. -/
theorem highWaterMark (dialog : Dialog) (requests : List Request) :
    dialog.Sequenced requests where
  answers := dialog.run_checkSequence requests
  largest := dialog.noteAll_eq requests
  rising := (dialog.rising_checks requests).1
  judged := judged_of_split
  alone := (dialog.checks_filter_counts requests).1
  aloneLast := (dialog.checks_filter_counts requests).2

end Dialog

end SipContainer
