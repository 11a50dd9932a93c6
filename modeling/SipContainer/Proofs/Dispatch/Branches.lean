import SipContainer.Application
import SipContainer.Proxy
/-!
The branches of a proxy that wait for a PRACK, and what happens to one that is handed to them in turn.
A branch that has passed it on waits no longer and is passed over if it comes again, so that looking for
the next branch that waits goes through those that waited at first, each of them once. The first branch
that fails is the last one that is asked.
-/

namespace SipContainer

namespace Proxy

def awaitingAmong (proxy : Proxy) (branches : List Nat) : List Nat :=
  (branches.filter proxy.awaits).eraseDups

def awaiting (proxy : Proxy) : List Nat :=
  proxy.awaitingAmong proxy.order

/-- A proxy after some branches have stopped waiting, and nothing else. -/
structure Relieved (proxy : Proxy) (branches : List Nat) (now : Proxy) : Prop where
  waiting : ∀ branch, now.branch? branch =
    if branch ∈ branches then
      (proxy.branch? branch).map (fun found => { found with awaitsPrack := false })
    else proxy.branch? branch
  order : now.order = proxy.order
  final : now.final = proxy.final
  ackReceived : now.ackReceived = proxy.ackReceived
  lastRequest : now.lastRequest = proxy.lastRequest

variable {proxy now : Proxy} {branch : Nat} {branches others : List Nat}

theorem branch?_setAwaits (proxy : Proxy) (branch other : Nat) (awaits : Bool) :
    (proxy.setAwaits branch awaits).branch? other =
      if branch = other then
        (proxy.branch? other).map (fun found => { found with awaitsPrack := awaits })
      else proxy.branch? other := by
  unfold branch? setAwaits
  rw [List.getElem?_modify]
  split <;> simp

theorem Relieved.refl (proxy : Proxy) : proxy.Relieved [] proxy where
  waiting branch := by simp
  order := rfl
  final := rfl
  ackReceived := rfl
  lastRequest := rfl

theorem Relieved.append (relieved : proxy.Relieved branches now) (branch : Nat) :
    proxy.Relieved (branches ++ [branch]) (now.setAwaits branch false) where
  waiting other := by
    rw [branch?_setAwaits, relieved.waiting]
    by_cases old : other ∈ branches
    · by_cases same : branch = other <;> simp [old, same, Function.comp_def]
    · by_cases same : branch = other
      · simp [old, same]
      · simp [old, same, Ne.symm same]
  order := relieved.order
  final := relieved.final
  ackReceived := relieved.ackReceived
  lastRequest := relieved.lastRequest

theorem Relieved.awaits_eq (relieved : proxy.Relieved branches now) (branch : Nat) :
    now.awaits branch = (proxy.awaits branch && decide (branch ∉ branches)) := by
  unfold awaits
  rw [relieved.waiting]
  by_cases passed : branch ∈ branches
  · cases proxy.branch? branch <;> simp [passed]
  · simp [passed]

/-- The next branch that waits comes first among those that wait, and those that wait behind it come
after it, unless they are the same. -/
theorem awaitingAmong_of_next (found : proxy.nextAwaiting? branches = some (branch, others)) :
    proxy.awaitingAmong branches =
      branch :: (proxy.setAwaits branch false).awaitingAmong others := by
  induction branches with
  | nil => cases found
  | cons first rest ih =>
      unfold nextAwaiting? at found
      split at found
      · rename_i waits
        obtain ⟨rfl, rfl⟩ := Prod.mk.inj (Option.some.inj found)
        rw [awaitingAmong, List.filter_cons_of_pos waits, List.eraseDups_cons, List.filter_filter,
          awaitingAmong]
        congr 3
        -- Another entry of the same branch is passed over, as it has stopped waiting by then.
        funext other
        have relieved := (Relieved.refl proxy).append first
        rw [relieved.awaits_eq, Bool.and_comm, List.nil_append, Bool.beq_eq_decide_eq]
        simp
      · rename_i waits
        rw [awaitingAmong, List.filter_cons_of_neg waits]
        exact ih found

theorem awaitingAmong_of_none (exhausted : proxy.nextAwaiting? branches = none) :
    proxy.awaitingAmong branches = [] := by
  induction branches with
  | nil => rfl
  | cons first rest ih =>
      unfold nextAwaiting? at exhausted
      split at exhausted
      · cases exhausted
      · rename_i waits
        rw [awaitingAmong, List.filter_cons_of_neg waits]
        exact ih exhausted

theorem awaits_of_mem_awaiting (member : branch ∈ proxy.awaiting) : proxy.awaits branch = true :=
  (List.mem_filter.mp (List.mem_eraseDups.mp member)).2

end Proxy

/-- What the application makes of a request, and what each branch makes of it. -/
structure Reactions where
  application : Conduct
  branch : Nat → Conduct

namespace Reactions

/-- Of branches that are asked in turn after the application, those before the first one that
fails. -/
def passing (reactions : Reactions) (branches : List Nat) : List Nat :=
  if reactions.application = .success then
    branches.takeWhile (fun branch => decide (reactions.branch branch = .success))
  else []

/-- Of branches that are asked in turn after the application, those up to and including the first one
that fails. -/
def asked (reactions : Reactions) (branches : List Nat) : List Nat :=
  if reactions.application = .success then
    branches.take ((reactions.passing branches).length + 1)
  else []

variable {reactions : Reactions} {done rest : List Nat} {branch : Nat}

theorem passing_nil (reactions : Reactions) : reactions.passing [] = [] := by
  unfold passing
  split <;> rfl

theorem asked_nil (reactions : Reactions) : reactions.asked [] = [] := by
  unfold asked
  split <;> rfl

theorem passing_of_failure (fails : reactions.application ≠ .success) (branches : List Nat) :
    reactions.passing branches = [] :=
  if_neg fails

theorem asked_of_failure (fails : reactions.application ≠ .success) (branches : List Nat) :
    reactions.asked branches = [] :=
  if_neg fails

theorem passing_append (succeeds : reactions.application = .success)
    (passed : ∀ other ∈ done, reactions.branch other = .success) (rest : List Nat) :
    reactions.passing (done ++ rest) = done ++ reactions.passing rest := by
  have all : ∀ other ∈ done, decide (reactions.branch other = .success) = true :=
    fun other member => decide_eq_true (passed other member)
  unfold passing
  rw [if_pos succeeds, if_pos succeeds, List.takeWhile_append_of_pos all]

theorem asked_append (succeeds : reactions.application = .success)
    (passed : ∀ other ∈ done, reactions.branch other = .success) (rest : List Nat) :
    reactions.asked (done ++ rest) = done ++ reactions.asked rest := by
  unfold asked
  rw [if_pos succeeds, if_pos succeeds, passing_append succeeds passed, List.length_append,
    Nat.add_assoc, List.take_length_add_append]

theorem asked_cons (succeeds : reactions.application = .success) (branch : Nat) (rest : List Nat) :
    reactions.asked (branch :: rest) =
      branch :: rest.take (reactions.passing (branch :: rest)).length := by
  unfold asked
  rw [if_pos succeeds, List.take_succ_cons]

theorem passing_cons_of_failure (fails : reactions.branch branch ≠ .success) (rest : List Nat) :
    reactions.passing (branch :: rest) = [] := by
  unfold passing
  split
  · exact List.takeWhile_cons_of_neg (by simpa using fails)
  · rfl

theorem asked_cons_of_failure (succeeds : reactions.application = .success)
    (fails : reactions.branch branch ≠ .success) (rest : List Nat) :
    reactions.asked (branch :: rest) = [branch] := by
  rw [asked_cons succeeds, passing_cons_of_failure fails]
  rfl

theorem passing_eq_self (succeeds : reactions.application = .success)
    (passed : ∀ other ∈ done, reactions.branch other = .success) :
    reactions.passing done = done := by
  have whole := passing_append succeeds passed []
  rwa [passing_nil, List.append_nil] at whole

theorem asked_eq_self (succeeds : reactions.application = .success)
    (passed : ∀ other ∈ done, reactions.branch other = .success) : reactions.asked done = done := by
  have whole := asked_append succeeds passed []
  rwa [asked_nil, List.append_nil] at whole

theorem mem_of_mem_passing {branches : List Nat} (member : branch ∈ reactions.passing branches) :
    branch ∈ branches := by
  unfold passing at member
  split at member
  · exact (List.takeWhile_prefix _).subset member
  · cases member

theorem mem_of_mem_asked {branches : List Nat} (member : branch ∈ reactions.asked branches) :
    branch ∈ branches := by
  unfold asked at member
  split at member
  · exact List.mem_of_mem_take member
  · cases member

end Reactions

end SipContainer
