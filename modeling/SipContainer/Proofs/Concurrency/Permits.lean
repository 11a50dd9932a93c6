import Mathlib.Data.List.Nodup
import SipContainer.Concurrency.Pool
/-!
The books of a pool. Permits that are free and permits that are held always add up to all there are,
nobody is listed twice, and nobody stands in line while a permit is free. The roll of a pool is
everyone who holds a permit or waits for one: asking for a permit puts a task on it, and giving up
takes it off.
-/

namespace SipContainer

namespace Pool

def roll (pool : Pool) : List Nat :=
  pool.holders ++ pool.line

structure Balanced (pool : Pool) : Prop where
  positive : 0 < pool.capacity
  total : pool.free + pool.holders.length = pool.capacity
  eager : pool.line ≠ [] → pool.free = 0
  distinct : pool.roll.Nodup

/-- A pool that no task has been handed to. It may have any watchers. -/
def Unused (pool : Pool) : Prop :=
  ∃ size watchers, pool = { ofSize size with watchers }

variable {pool : Pool} {task other : Nat}

theorem balanced_ofSize (size : Nat) : (ofSize size).Balanced where
  positive := Nat.lt_of_lt_of_le Nat.zero_lt_one (Nat.le_max_left 1 size)
  total := rfl
  eager := nofun
  distinct := List.nodup_nil

theorem Balanced.congr {later : Pool} (balanced : pool.Balanced)
    (capacity : later.capacity = pool.capacity) (free : later.free = pool.free)
    (holders : later.holders = pool.holders) (line : later.line = pool.line) :
    later.Balanced where
  positive := capacity ▸ balanced.positive
  total := by rw [free, holders, capacity]; exact balanced.total
  eager waits := by rw [free]; exact balanced.eager (line ▸ waits)
  distinct := by unfold roll; rw [holders, line]; exact balanced.distinct

theorem Unused.balanced (unused : pool.Unused) : pool.Balanced := by
  obtain ⟨size, watchers, rfl⟩ := unused
  exact (balanced_ofSize size).congr rfl rfl rfl rfl

theorem Unused.roll_eq_nil (unused : pool.Unused) : pool.roll = [] := by
  obtain ⟨size, watchers, rfl⟩ := unused
  rfl

theorem Balanced.submit (balanced : pool.Balanced) : pool.submit.Balanced :=
  balanced.congr rfl rfl rfl rfl

theorem holds_iff : pool.holds task = true ↔ task ∈ pool.holders :=
  List.contains_iff_mem

theorem mem_roll_request :
    other ∈ (pool.request task).roll ↔ other ∈ pool.roll ∨ other = task := by
  unfold request roll
  split
  · simp only [List.mem_append, List.mem_singleton]
    tauto
  · simp only [List.mem_append, List.mem_singleton]
    tauto

theorem mem_holders_request (held : other ∈ pool.holders) :
    other ∈ (pool.request task).holders := by
  unfold request
  split
  · exact List.mem_append_left _ held
  · exact held

theorem Balanced.request (balanced : pool.Balanced) (absent : task ∉ pool.roll) :
    (pool.request task).Balanced := by
  have total := balanced.total
  have roll := balanced.distinct
  unfold Pool.request
  split
  · rename_i free
    refine ⟨balanced.positive, ?_, ?_, ?_⟩
    · simp only [List.length_append, List.length_singleton]
      omega
    · intro waits
      have none := balanced.eager waits
      omega
    · change ((pool.holders ++ [task]) ++ pool.line).Nodup
      rw [List.append_assoc, List.singleton_append]
      exact List.nodup_middle.mpr (List.nodup_cons.mpr ⟨absent, roll⟩)
  · rename_i full
    refine ⟨balanced.positive, total, ?_, ?_⟩
    · intro _
      exact Nat.eq_zero_of_not_pos full
    · change (pool.holders ++ (pool.line ++ [task])).Nodup
      rw [← List.append_assoc]
      exact List.nodup_append.mpr ⟨roll, List.nodup_singleton task, by
        intro one member same single
        rw [List.mem_singleton.mp single]
        exact ne_of_mem_of_not_mem member absent⟩

theorem roll_passOn : pool.passOn.roll = pool.roll := by
  unfold passOn roll
  split
  · rename_i next rest line
    simp [line]
  · rfl

theorem roll_giveBack : (pool.giveBack task).roll = pool.roll.erase task := by
  unfold giveBack
  split
  · rename_i held
    rw [roll_passOn]
    exact (List.erase_append_left _ (holds_iff.mp held)).symm
  · rename_i waits
    have absent : task ∉ pool.holders := fun member => waits (holds_iff.mpr member)
    exact (List.erase_append_right _ absent).symm

theorem countDown_eq : pool.countDown =
    { pool with active := pool.countDown.active, watchers := pool.countDown.watchers } := by
  unfold countDown
  split <;> rfl

theorem roll_finish : (pool.finish task).roll = pool.roll.erase task := by
  unfold finish
  rw [countDown_eq]
  exact roll_giveBack

theorem Balanced.mem_roll_finish (balanced : pool.Balanced) :
    other ∈ (pool.finish task).roll ↔ other ≠ task ∧ other ∈ pool.roll := by
  rw [roll_finish]
  exact balanced.distinct.mem_erase_iff

theorem mem_holders_giveBack (held : other ∈ pool.holders) (different : other ≠ task) :
    other ∈ (pool.giveBack task).holders := by
  unfold giveBack
  split
  · have kept : other ∈ pool.holders.erase task := (List.mem_erase_of_ne different).mpr held
    unfold passOn
    split
    · exact List.mem_append_left _ kept
    · exact kept
  · exact held

theorem mem_holders_finish (held : other ∈ pool.holders) (different : other ≠ task) :
    other ∈ (pool.finish task).holders := by
  unfold finish
  rw [countDown_eq]
  exact mem_holders_giveBack held different

theorem Balanced.giveBack (balanced : pool.Balanced) (task : Nat) :
    (pool.giveBack task).Balanced := by
  have distinct : (pool.giveBack task).roll.Nodup := by
    rw [roll_giveBack]
    exact balanced.distinct.erase task
  have total := balanced.total
  unfold Pool.giveBack at distinct ⊢
  split at distinct
  · rename_i held
    rw [if_pos held]
    have fewer := List.length_erase_of_mem (holds_iff.mp held)
    have some := List.length_pos_of_mem (holds_iff.mp held)
    unfold passOn at distinct ⊢
    split at distinct
    · rename_i next rest line
      have full := balanced.eager (by rw [show pool.line = _ from line]; exact nofun)
      refine ⟨balanced.positive, ?_, fun _ => full, distinct⟩
      simp only [List.length_append, List.length_singleton, fewer]
      omega
    · rename_i line
      refine ⟨balanced.positive, ?_, ?_, distinct⟩
      · simp only [fewer]
        omega
      · intro waits
        exact absurd line waits
  · rename_i waits
    rw [if_neg waits]
    refine ⟨balanced.positive, total, ?_, distinct⟩
    intro others
    apply balanced.eager
    intro none
    apply others
    change pool.line.erase task = []
    rw [none]
    rfl

theorem Balanced.finish (balanced : pool.Balanced) (task : Nat) :
    (pool.finish task).Balanced := by
  unfold Pool.finish
  rw [countDown_eq]
  exact (balanced.giveBack task).congr rfl rfl rfl rfl

theorem Balanced.full (balanced : pool.Balanced) (waits : pool.line ≠ []) :
    pool.free = 0 ∧ pool.holders.length = pool.capacity ∧ pool.holders ≠ [] := by
  have none := balanced.eager waits
  have total := balanced.total
  have positive := balanced.positive
  refine ⟨none, by omega, ?_⟩
  intro empty
  rw [empty, List.length_nil] at total
  omega

end Pool

end SipContainer
