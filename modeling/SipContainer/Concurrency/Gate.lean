/-!
A gate lets one party through at a time, in the order in which they came. Its line holds everyone
who is inside or waits: the first is inside, the others wait behind it. A party inside leaves, and
one that waits may give up; either way it goes out of the line and the others keep their order.
-/

namespace SipContainer

inductive LineMove
  | stay | join | quit
deriving DecidableEq, Repr

structure Gate (P : Type) where
  line : List P := []
deriving DecidableEq, Repr

namespace Gate

variable {P : Type}

def holder? (gate : Gate P) : Option P :=
  gate.line.head?

def waiting (gate : Gate P) : List P :=
  gate.line.tail

def isHeld (gate : Gate P) : Bool :=
  !gate.line.isEmpty

def enter (gate : Gate P) (party : P) : Gate P :=
  ⟨gate.line ++ [party]⟩

@[simp] theorem line_enter (gate : Gate P) (party : P) :
    (gate.enter party).line = gate.line ++ [party] := rfl

theorem holder?_enter (gate : Gate P) (party inside : P) (held : gate.holder? = some inside) :
    (gate.enter party).holder? = some inside := by
  unfold holder? at held ⊢
  simp [List.head?_append, held]

variable [DecidableEq P]

def leave (gate : Gate P) (party : P) : Gate P :=
  ⟨gate.line.erase party⟩

def admits (gate : Gate P) (party : P) : Bool :=
  gate.holder? = some party

def successor? (gate : Gate P) (party : P) : Option P :=
  if gate.admits party then gate.waiting.head? else none

@[simp] theorem line_leave (gate : Gate P) (party : P) :
    (gate.leave party).line = gate.line.erase party := rfl

def move (gate : Gate P) (party : P) : LineMove → Gate P
  | .stay => gate
  | .join => gate.enter party
  | .quit => gate.leave party

theorem admits_iff (gate : Gate P) (party : P) :
    gate.admits party = true ↔ gate.holder? = some party :=
  decide_eq_true_iff

theorem mem_move_of_ne (gate : Gate P) {party other : P} (move : LineMove)
    (different : other ≠ party) : other ∈ (gate.move party move).line ↔ other ∈ gate.line := by
  cases move with
  | stay => rfl
  | join => simp [Gate.move, different]
  | quit => exact List.mem_erase_of_ne different

theorem count_move_of_ne (gate : Gate P) {party other : P} (move : LineMove)
    (different : other ≠ party) :
    (gate.move party move).line.count other = gate.line.count other := by
  cases move with
  | stay => rfl
  | join => simp [Gate.move, different.symm]
  | quit => exact List.count_erase_of_ne different

theorem holder?_move_of_ne (gate : Gate P) {party inside : P} (move : LineMove)
    (different : inside ≠ party) (held : gate.holder? = some inside) :
    (gate.move party move).holder? = some inside := by
  cases move with
  | stay => exact held
  | join => exact gate.holder?_enter party inside held
  | quit =>
      obtain ⟨rest, line⟩ := List.head?_eq_some_iff.mp held
      change (gate.line.erase party).head? = some inside
      rw [line, List.erase_cons_tail (fun equal => different (eq_of_beq equal))]
      rfl

theorem holder?_leave_of_ne (gate : Gate P) {party : P} (behind : gate.holder? ≠ some party) :
    (gate.leave party).holder? = gate.holder? := by
  obtain ⟨line⟩ := gate
  cases line with
  | nil => rfl
  | cons first rest =>
      have different : first ≠ party := fun equal => behind (congrArg some equal)
      change ((first :: rest).erase party).head? = some first
      rw [List.erase_cons_tail (fun equal => different (eq_of_beq equal))]
      rfl

theorem leave_of_not_mem (gate : Gate P) {party : P} (absent : party ∉ gate.line) :
    gate.leave party = gate := by
  obtain ⟨line⟩ := gate
  exact congrArg Gate.mk (List.erase_of_not_mem absent)

theorem leave_enter (gate : Gate P) {party : P} (absent : party ∉ gate.line) :
    (gate.enter party).leave party = gate := by
  obtain ⟨line⟩ := gate
  change Gate.mk ((line ++ [party]).erase party) = Gate.mk line
  rw [List.erase_append_right _ absent, List.erase_cons_head, List.append_nil]

theorem move_leave_comm (gate : Gate P) {party other : P} (move : LineMove)
    (different : other ≠ party) :
    (gate.leave party).move other move = (gate.move other move).leave party := by
  obtain ⟨line⟩ := gate
  cases move with
  | stay => rfl
  | join =>
      change Gate.mk (line.erase party ++ [other]) = Gate.mk ((line ++ [other]).erase party)
      rw [List.erase_append]
      split
      · rfl
      · rename_i absent
        rw [List.erase_of_not_mem absent, List.erase_of_not_mem (by simp [different.symm])]
  | quit =>
      change Gate.mk ((line.erase party).erase other) = Gate.mk ((line.erase other).erase party)
      rw [List.erase_comm]

end Gate

end SipContainer
