import SipContainer.Proofs.Concurrency.Ledger
/-!
A pool in the course of whole events. A task comes to its end in one go, and who begins to wait gets on
the list and looks at the count in one go; these are the operations of the pool itself, where its events
are their strokes. Between two whole events nothing is left half done, so that nobody is on the list of
watchers while the count is zero, and whoever has looked in vain stays on it until told.
-/

namespace SipContainer

open Simulation (WorkEnd)

namespace Workshop

variable {shop next : Workshop} {record strokes : List Event} {size task : Nat}

def Event.isWhole : Event → Bool
  | submit | ask _ | start _ | withdraw _ => true
  | leave .. | finish _ | tell | enlist _ | look .. => false

/-- A whole event, with the strokes that make it up, the latest first. -/
inductive Act (shop : Workshop) : List Event → Workshop → Prop
  | single {event : Event} {next : Workshop} (whole : event.isWhole = true)
      (step : shop.Step event next) : Act shop [event] next
  | conclude {task : Nat} {how : WorkEnd} {progress : Progress}
      (stands : shop.tasks[task]? = some progress) (may : progress.MayEnd how) :
      Act shop
        (if shop.pool.active = 1 then [.tell, .finish task, .leave task how]
          else [.finish task, .leave task how])
        { shop.move task (.ended how) with pool := shop.pool.finish task }
  | await {caller : Nat} (unlisted : caller ∉ shop.pool.watchers) :
      Act shop [.look caller shop.pool.isIdle, .enlist caller]
        { shop with pool := shop.pool.watch caller }

inductive Course (size : Nat) : Workshop → List Event → Prop
  | opened : Course size { pool := .ofSize size } []
  | act {shop next : Workshop} {record strokes : List Event} (course : Course size shop record)
      (act : shop.Act strokes next) : Course size next (strokes ++ record)

structure Settled (shop : Workshop) : Prop where
  told : shop.heralds = 0
  looked : shop.lookers = []

theorem Run.conclude {how : WorkEnd} {progress : Progress} (run : Run size shop record)
    (stands : shop.tasks[task]? = some progress) (may : progress.MayEnd how) :
    Run size { shop.move task (.ended how) with pool := shop.pool.finish task }
      ((if shop.pool.active = 1 then [.tell, .finish task, .leave task how]
        else [.finish task, .leave task how]) ++ record) := by
  have left := run.step (.leave stands may)
  have finished := left.step (.finish (getElem?_move_self stands))
  have moved : (shop.tasks.set task (.leaving how)).set task (.ended how) =
      shop.tasks.set task (.ended how) := List.set_set _
  unfold Pool.finish
  rw [Pool.countDown_eq_lower, Pool.active_giveBack]
  simp only [move, moved, Pool.active_giveBack] at finished ⊢
  by_cases last : shop.pool.active = 1
  · rw [if_pos last] at finished
    rw [if_pos last, if_pos last]
    exact finished.step (.tell (Nat.succ_pos _))
  · rw [if_neg last] at finished
    rw [if_neg last, if_neg last]
    exact finished

theorem Run.await {caller : Nat} (run : Run size shop record) (settled : shop.Settled)
    (unlisted : caller ∉ shop.pool.watchers) :
    Run size { shop with pool := shop.pool.watch caller }
      (.look caller shop.pool.isIdle :: .enlist caller :: record) := by
  obtain ⟨pool, tasks, heralds, lookers⟩ := shop
  obtain rfl : lookers = [] := settled.looked
  have enlisted : Run size { pool := pool.enlist caller, tasks, heralds, lookers := [caller] }
      (.enlist caller :: record) := run.step (.enlist unlisted List.not_mem_nil)
  have looked := enlisted.step (.look (List.mem_singleton_self caller) rfl)
  change Run size
    { pool := if pool.isIdle then (pool.enlist caller).unwatch caller else pool.enlist caller
      tasks, heralds, lookers := [caller].erase caller } _ at looked
  rw [List.erase_cons_head] at looked
  rw [Pool.watch_eq_enlist]
  by_cases idle : pool.active = 0
  · have restored : (pool.enlist caller).unwatch caller = pool := by
      unfold Pool.enlist Pool.unwatch
      rw [List.erase_append_right _ unlisted, List.erase_cons_head, List.append_nil]
    have done : pool.isIdle = true := decide_eq_true idle
    rw [if_pos done, restored] at looked
    rw [if_pos idle]
    exact looked
  · have busy : pool.isIdle = false := decide_eq_false idle
    rw [if_neg (busy ▸ Bool.false_ne_true)] at looked
    rw [if_neg idle]
    exact looked

theorem Act.settled (act : shop.Act strokes next) (settled : shop.Settled) : next.Settled := by
  cases act with
  | conclude | await => exact ⟨settled.told, settled.looked⟩
  | single whole step =>
      cases step with
      | submit | ask | start | withdraw => exact ⟨settled.told, settled.looked⟩
      | leave | finish | tell | enlist | look => cases whole

theorem Act.run (act : shop.Act strokes next) (settled : shop.Settled)
    (run : Run size shop record) : Run size next (strokes ++ record) := by
  cases act with
  | single _ step => exact run.step step
  | conclude stands may => exact run.conclude stands may
  | await unlisted => exact run.await settled unlisted

namespace Course

theorem settled (course : Course size shop record) : shop.Settled := by
  induction course with
  | opened => exact ⟨rfl, rfl⟩
  | act _ act earlier => exact act.settled earlier

theorem run (course : Course size shop record) : Run size shop record := by
  induction course with
  | opened => exact .opened
  | act earlier act run => exact act.run earlier.settled run

theorem enlisted_of_vain (course : Course size shop record) (caller : Nat) :
    Since (.look caller false) (Event.frees caller) record →
      Since (.enlist caller) (Event.frees caller) record := by
  induction course with
  | opened => exact fun vain => absurd vain not_since_nil
  | @act shop _ _ _ _ act earlier =>
      cases act with
      | single whole _ =>
          refine since_cons_imp ?_ earlier
          rintro rfl
          cases whole
      | @conclude task how _ _ _ =>
          have gone : Since (.look caller false) _ (.finish task :: .leave task how :: _) → _ :=
            since_cons_imp nofun (since_cons_imp nofun earlier)
          split
          · exact since_cons_imp nofun gone
          · exact gone
      | @await other _ =>
          have enlisted : Since (.look caller false) _ (.enlist other :: _) → _ :=
            since_cons_imp nofun earlier
          intro vain
          rcases since_cons.mp vain with same | ⟨harmless, vain⟩
          · obtain ⟨rfl, busy⟩ := Event.look.inj same
            rw [busy]
            exact since_cons.mpr (Or.inr ⟨Bool.and_false _, since_cons.mpr (Or.inl rfl)⟩)
          · exact since_cons.mpr (Or.inr ⟨harmless, enlisted vain⟩)

end Course

end Workshop

end SipContainer
