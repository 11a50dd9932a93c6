/-!
A pool of workers runs tasks with a bounded number of permits. A task is submitted, asks for a
permit when its turn comes, and then holds one or waits in line for it; a permit that comes free
goes straight to the first in line. A task that ends, in whatever way, gives its permit back.
There is no pool with more permits than can be kept count of.

The pool counts the tasks submitted and not yet ended. Whoever waits for the pool to be idle is
told when that count falls to zero.
-/

namespace SipContainer

/-- The most permits that a pool can keep count of. -/
def Pool.maxCapacity : Nat := 2305843009213693951

inductive PoolError
  | tooManyPermits
deriving DecidableEq, Repr

def PoolError.message : PoolError → String
  | tooManyPermits => "a semaphore may not have more than MAX_PERMITS permits (" ++
      toString Pool.maxCapacity ++ ")"

structure Pool where
  capacity : Nat
  free : Nat
  holders : List Nat := []
  line : List Nat := []
  active : Nat := 0
  /-- Those who wait for the pool to be idle and have not been told. -/
  watchers : List Nat := []
deriving DecidableEq, Repr

namespace Pool

def ofSize (size : Nat) : Pool :=
  { capacity := max 1 size, free := max 1 size }

def create (size : Nat) : Except PoolError Pool :=
  if size ≤ maxCapacity then .ok (ofSize size) else .error .tooManyPermits

theorem create_eq_ok_iff (size : Nat) (pool : Pool) :
    create size = .ok pool ↔ size ≤ maxCapacity ∧ pool = ofSize size := by
  unfold create
  split
  · rename_i small
    constructor
    · intro made
      exact ⟨small, (Except.ok.inj made).symm⟩
    · rintro ⟨_, rfl⟩
      rfl
  · rename_i large
    constructor
    · intro made
      cases made
    · rintro ⟨small, _⟩
      exact absurd small large

def submit (pool : Pool) : Pool :=
  { pool with active := pool.active + 1 }

def request (pool : Pool) (task : Nat) : Pool :=
  if 0 < pool.free then
    { pool with free := pool.free - 1, holders := pool.holders ++ [task] }
  else { pool with line := pool.line ++ [task] }

def holds (pool : Pool) (task : Nat) : Bool :=
  pool.holders.contains task

/-- A permit comes back and goes to the first in line, if there is one. -/
def passOn (pool : Pool) : Pool :=
  match pool.line with
  | next :: rest => { pool with line := rest, holders := pool.holders ++ [next] }
  | [] => { pool with free := pool.free + 1 }

def giveBack (pool : Pool) (task : Nat) : Pool :=
  if pool.holds task then { pool with holders := pool.holders.erase task }.passOn
  else { pool with line := pool.line.erase task }

/-- One task less is under way. At zero every watcher is told. -/
def countDown (pool : Pool) : Pool :=
  if pool.active = 1 then { pool with active := 0, watchers := [] }
  else { pool with active := pool.active - 1 }

def finish (pool : Pool) (task : Nat) : Pool :=
  (pool.giveBack task).countDown

def successor? (pool : Pool) (task : Nat) : Option Nat :=
  if pool.holds task then pool.line.head? else none

def watch (pool : Pool) (watcher : Nat) : Pool :=
  if pool.active = 0 then pool else { pool with watchers := pool.watchers ++ [watcher] }

def unwatch (pool : Pool) (watcher : Nat) : Pool :=
  { pool with watchers := pool.watchers.erase watcher }

def isIdle (pool : Pool) : Bool :=
  pool.active = 0

end Pool

end SipContainer
