/-!
Virtual time. Jobs that can go on run one after the other in the order in which they became able
to; only when none is left does the clock move, and then straight to the next alarm.

A simulation follows one main line that takes a step, lets every job run, and then takes the next.
When the main line has to wait, it tries again whenever no job can run, and whenever the clock has
moved. Trying is harmless as long as nothing has changed.
-/

namespace SipContainer.Simulation

structure Agenda (J : Type) where
  clock : Nat := 0
  ready : List J := []
  alarms : List (Nat × J) := []

namespace Agenda

variable {J : Type}

def wake (agenda : Agenda J) (job : J) : Agenda J :=
  { agenda with ready := agenda.ready ++ [job] }

def setAlarm (agenda : Agenda J) (delay : Nat) (job : J) : Agenda J :=
  { agenda with alarms := agenda.alarms ++ [(agenda.clock + delay, job)] }

def nextDue? (agenda : Agenda J) : Option Nat :=
  (agenda.alarms.map Prod.fst).min?

def moveTo (agenda : Agenda J) (time : Nat) : Agenda J :=
  { clock := time
    ready := agenda.ready ++ (agenda.alarms.filter (fun alarm => alarm.1 ≤ time)).map Prod.snd
    alarms := agenda.alarms.filter (fun alarm => time < alarm.1) }

end Agenda

class World (W : Type) (J : outParam Type) where
  agenda : W → Agenda J
  setAgenda : W → Agenda J → W
  resume : J → W → W
  /-- More than the number of times that jobs can still go on and alarms can still ring. -/
  bound : W → Nat

section

variable {W J : Type} [World W J]

def clock (world : W) : Nat :=
  (World.agenda world : Agenda J).clock

def resumeNext? (world : W) : Option W :=
  let agenda : Agenda J := World.agenda world
  match agenda.ready with
  | [] => none
  | job :: rest => some (World.resume job (World.setAgenda world { agenda with ready := rest }))

def drainWithin : Nat → W → W
  | 0, world => world
  | count + 1, world =>
    match resumeNext? world with
    | none => world
    | some next => drainWithin count next

def drain (world : W) : W :=
  drainWithin (World.bound world) world

def moveTo (time : Nat) (world : W) : W :=
  World.setAgenda world ((World.agenda world : Agenda J).moveTo time)

/-- The main line waits until trying succeeds or is still in vain when the time `limit` has come;
`due` tells that the clock has just moved. -/
def waitWithin (attempt : W → W × Option α) (limit : Nat) : Nat → Bool → W → W × Option α
  | 0, _, world => (world, none)
  | count + 1, due, world =>
    let idle := (World.agenda world : Agenda J).ready.isEmpty
    match if due || idle then attempt world else (world, none) with
    | (world, some answer) => (world, some answer)
    | (world, none) =>
      if limit ≤ clock world then (world, none)
      else
        match resumeNext? world, (World.agenda world : Agenda J).nextDue? with
        | some next, _ => waitWithin attempt limit count false next
        | none, some time =>
          if time ≤ limit then waitWithin attempt limit count true (moveTo time world)
          else (moveTo limit world, none)
        | none, none => (moveTo limit world, none)

def await (attempt : W → W × Option α) (time : Nat) (world : W) : W × Option α :=
  let limit := clock world + time
  match attempt world with
  | (world, some answer) => (world, some answer)
  | (world, none) => waitWithin attempt limit (World.bound world) false world

def sleep (time : Nat) (world : W) : W :=
  if time = 0 then world
  else (await (fun world => (world, (none : Option Unit))) time world).1

end

def patience : Nat := 3600000

end SipContainer.Simulation
