import SipContainer.Config.Listener
import SipContainer.Config.Logging
/-!
The settings of the container. They are checked as a whole before use: first the size of worker
pools, then the gate timeout, the listeners in order, and the logging section.
-/

namespace SipContainer

structure Settings where
  bypassPools : Bool := false
  gateTimeoutMs : Option UInt64 := none
  listeners : List Listener := []
  poolSize : Nat := 64
  logging : Logging := {}
deriving DecidableEq, Repr

namespace Settings

/-- Settings with a gate timeout, kept in whole milliseconds of 64 bits. -/
def withGateTimeout (settings : Settings) (timeout : Duration) : Settings :=
  { settings with gateTimeoutMs := some timeout.milliseconds.toUInt64 }

def gateTimeout (settings : Settings) : Option Duration :=
  settings.gateTimeoutMs.map (fun count => Duration.ofMilliseconds count.toNat)

def fault? (settings : Settings) (reader : LogReader := .plain) : Option String :=
  if settings.poolSize = 0 then some "default_pool_size must be at least 1"
  else if settings.gateTimeoutMs = some 0 then some "gate_timeout_ms must be positive when set"
  else (settings.listeners.findSome? Listener.fault?).or
    ((settings.logging.fault? reader).map DispatchError.message)

def check (settings : Settings) (reader : LogReader := .plain) :
    Except DispatchError Settings :=
  match settings.fault? reader with
  | none => .ok settings
  | some fault => .error (.configuration fault)

end Settings

end SipContainer
