import SipContainer.Proofs.Dispatch.Run
/-!
The lines of the gates. A task stands in the line of its gate exactly as long as it waits or is
inside, it stands there once, and whoever is inside stands first. Since a line has one first place,
no two tasks are ever inside the same gate.
-/

namespace SipContainer

theorem Party.task_ne_outsider (number outsider : Nat) :
    Party.task number ≠ .outsider outsider := by
  intro same
  cases same

/-- Tasks and gates agree on who stands where. -/
structure Orderly (tasks : List Task) (gates : GateBoard) : Prop where
  listed : ∀ {number : Nat} {task : Task} {gate : GateId}, tasks[number]? = some task →
    task.gate = some gate → task.stage.isInLine = true → .task number ∈ (gates.gate gate).line
  known : ∀ {number : Nat} {gate : GateId}, .task number ∈ (gates.gate gate).line →
    ∃ task, tasks[number]? = some task ∧ task.gate = some gate ∧ task.stage.isInLine = true
  once : ∀ (number : Nat) (gate : GateId), (gates.gate gate).line.count (.task number) ≤ 1
  first : ∀ {number : Nat} {task : Task} {gate : GateId}, tasks[number]? = some task →
    task.gate = some gate → task.stage.isInside = true →
    (gates.gate gate).holder? = some (.task number)

namespace Orderly

variable {tasks : List Task} {gates : GateBoard}

theorem inside_unique (orderly : Orderly tasks gates) {first second : Nat} {left right : Task}
    {gate : GateId} (foundLeft : tasks[first]? = some left)
    (foundRight : tasks[second]? = some right) (gateLeft : left.gate = some gate)
    (gateRight : right.gate = some gate) (insideLeft : left.stage.isInside = true)
    (insideRight : right.stage.isInside = true) : first = second := by
  have holdsLeft := orderly.first foundLeft gateLeft insideLeft
  have holdsRight := orderly.first foundRight gateRight insideRight
  rw [holdsLeft] at holdsRight
  exact Party.task.inj (Option.some.inj holdsRight)

theorem not_mem_of_out (orderly : Orderly tasks gates) {number : Nat} {task : Task}
    (found : tasks[number]? = some task) (out : task.stage.isInLine = false) (gate : GateId) :
    .task number ∉ (gates.gate gate).line := by
  intro present
  obtain ⟨same, foundAgain, _, inLine⟩ := orderly.known present
  obtain rfl := Option.some.inj (found.symm.trans foundAgain)
  rw [out] at inLine
  cases inLine

theorem empty : Orderly [] {} where
  listed found := by cases found
  known present := by cases present
  once number gate := by simp [GateBoard.gate]
  first found := by cases found

theorem append (orderly : Orderly tasks gates) {made : List Task}
    (out : ∀ task ∈ made, task.stage.isInLine = false) : Orderly (tasks ++ made) gates := by
  have old {number : Nat} {task : Task} (found : (tasks ++ made)[number]? = some task)
      (inLine : task.stage.isInLine = true) : tasks[number]? = some task := by
    rcases Nat.lt_or_ge number tasks.length with early | late
    · rwa [List.getElem?_append_left early] at found
    · rw [List.getElem?_append_right late] at found
      rw [out task (List.mem_of_getElem? found)] at inLine
      cases inLine
  exact {
    listed := fun found gated inLine => orderly.listed (old found inLine) gated inLine
    known := by
      intro number gate present
      obtain ⟨task, found, gated, inLine⟩ := orderly.known present
      refine ⟨task, ?_, gated, inLine⟩
      rw [List.getElem?_append_left (List.getElem?_eq_some_iff.mp found).1]
      exact found
    once := orderly.once
    first := fun found gated inside =>
      orderly.first (old found (Stage.isInLine_of_isInside inside)) gated inside }

theorem outsider (orderly : Orderly tasks gates) (gate : GateId) (outsider : Nat)
    (move : LineMove) : Orderly tasks (gates.move (some gate) (.outsider outsider) move) := by
  have other (number : Nat) := Party.task_ne_outsider number outsider
  exact {
    listed := by
      intro number task at' found gated inLine
      rw [GateBoard.gate_move]
      split
      · exact (Gate.mem_move_of_ne _ move (other number)).mpr (orderly.listed found gated inLine)
      · exact orderly.listed found gated inLine
    known := by
      intro number at' present
      rw [GateBoard.gate_move] at present
      split at present
      · exact orderly.known ((Gate.mem_move_of_ne _ move (other number)).mp present)
      · exact orderly.known present
    once := by
      intro number at'
      rw [GateBoard.gate_move]
      split
      · rw [Gate.count_move_of_ne _ move (other number)]
        exact orderly.once number at'
      · exact orderly.once number at'
    first := by
      intro number task at' found gated inside
      rw [GateBoard.gate_move]
      split
      · exact Gate.holder?_move_of_ne _ move (other number) (orderly.first found gated inside)
      · exact orderly.first found gated inside }

private structure Placed (gate : Gate Party) (party : Party) (inLine : Bool) : Prop where
  listed : inLine = true → party ∈ gate.line
  out : inLine = false → party ∉ gate.line
  once : gate.line.count party ≤ 1

private theorem Placed.cross {gate : Gate Party} {number : Nat} {admitted : Bool}
    {before after : Stage} {move : LineMove} {passage : Option Passage}
    (placed : Placed gate (.task number) before.isInLine)
    (crossing : Crossing number admitted before after move passage) :
    Placed (gate.move (.task number) move) (.task number) after.isInLine := by
  have quits : Placed (gate.leave (.task number)) (.task number) false := by
    have erased := List.count_erase_self (a := Party.task number) (l := gate.line)
    have once := placed.once
    refine ⟨nofun, fun _ present => ?_, ?_⟩
    · have positive := List.count_pos_iff.mpr present
      simp only [Gate.line_leave] at positive
      omega
    · simp only [Gate.line_leave]
      omega
  cases crossing with
  | comes =>
      have absent : Party.task number ∉ gate.line := placed.out rfl
      refine ⟨fun _ => List.mem_append_right _ (List.mem_singleton_self _), nofun, ?_⟩
      simp [Gate.move, List.count_append, List.count_eq_zero.mpr absent]
  | enters first inside =>
      rw [Stage.isInLine_of_isInside inside]
      exact placed
  | goes out =>
      rw [out]
      exact quits
  | stays past present same =>
      have inLine : after.isInLine = before.isInLine := by
        rw [Bool.eq_iff_iff, Stage.isInLine_iff, Stage.isInLine_iff, same]
        simp [past, present]
      rw [inLine]
      exact placed
  | leaves past out =>
      rw [out]
      exact quits

private theorem placed (orderly : Orderly tasks gates) {number : Nat} {task : Task} {gate : GateId}
    (found : tasks[number]? = some task) (gated : task.gate = some gate) :
    Placed (gates.gate gate) (.task number) task.stage.isInLine where
  listed := orderly.listed found gated
  out out := orderly.not_mem_of_out found out gate
  once := orderly.once number gate

theorem cross (orderly : Orderly tasks gates) {number : Nat} {task : Task} {admitted : Bool}
    {move : LineMove} {passage : Option Passage} {changed : List Task}
    (found : tasks[number]? = some task) (later : Task) (sameGate : later.gate = task.gate)
    (crossing : Crossing number admitted task.stage later.stage move passage)
    (admission : admitted = true → ∀ gate, task.gate = some gate →
      (gates.gate gate).holder? = some (.task number))
    (change : ∀ other, changed[other]? = if other = number then some later else tasks[other]?) :
    Orderly changed (gates.move task.gate (.task number) move) := by
  have apart {other : Nat} (different : other ≠ number) : Party.task other ≠ .task number :=
    fun equal => different (Party.task.inj equal)
  -- At its own gate the task is placed as before or moved; all others keep their places.
  have own {gate : GateId} (gated : task.gate = some gate) :
      Placed ((gates.gate gate).move (.task number) move) (.task number) later.stage.isInLine :=
    (orderly.placed found gated).cross crossing
  have foreign {gate : GateId} (elsewhere : task.gate ≠ some gate) :
      .task number ∉ (gates.gate gate).line := by
    intro present
    obtain ⟨same, foundAgain, gated, _⟩ := orderly.known present
    obtain rfl := Option.some.inj (found.symm.trans foundAgain)
    exact elsewhere gated
  refine ⟨?_, ?_, ?_, ?_⟩
  · intro other present gate foundLater gated inLine
    rw [change] at foundLater
    rw [GateBoard.gate_move]
    by_cases self : other = number
    · subst self
      rw [if_pos rfl] at foundLater
      obtain rfl := Option.some.inj foundLater
      rw [sameGate] at gated
      rw [if_pos gated]
      exact (own gated).listed inLine
    · rw [if_neg self] at foundLater
      have listed := orderly.listed foundLater gated inLine
      split
      · exact (Gate.mem_move_of_ne _ move (apart self)).mpr listed
      · exact listed
  · intro other gate present
    rw [GateBoard.gate_move] at present
    rw [change]
    by_cases self : other = number
    · subst self
      rw [if_pos rfl]
      by_cases gated : task.gate = some gate
      · rw [if_pos gated] at present
        refine ⟨later, rfl, sameGate.trans gated, ?_⟩
        cases inLine : later.stage.isInLine with
        | true => rfl
        | false => exact absurd present ((own gated).out inLine)
      · rw [if_neg gated] at present
        exact absurd present (foreign gated)
    · rw [if_neg self]
      split at present
      · exact orderly.known ((Gate.mem_move_of_ne _ move (apart self)).mp present)
      · exact orderly.known present
  · intro other gate
    rw [GateBoard.gate_move]
    by_cases gated : task.gate = some gate
    · rw [if_pos gated]
      by_cases self : other = number
      · subst self
        exact (own gated).once
      · rw [Gate.count_move_of_ne _ move (apart self)]
        exact orderly.once other gate
    · rw [if_neg gated]
      exact orderly.once other gate
  · intro other present gate foundLater gated inside
    rw [change] at foundLater
    rw [GateBoard.gate_move]
    by_cases self : other = number
    · subst self
      rw [if_pos rfl] at foundLater
      obtain rfl := Option.some.inj foundLater
      rw [sameGate] at gated
      rw [if_pos gated]
      obtain ⟨rfl, admitted | before⟩ := crossing.stay_of_isInside inside
      · exact admission admitted gate gated
      · exact orderly.first found gated before
    · rw [if_neg self] at foundLater
      have first := orderly.first foundLater gated inside
      split
      · exact Gate.holder?_move_of_ne _ move (apart self) first
      · exact first

end Orderly

end SipContainer
