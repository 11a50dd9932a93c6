import SipContainer.Config.Settings
import SipContainer.Config.Toml.Grammar
/-!
Settings from a configuration file. Keys that the file leaves out keep their defaults and keys
without a meaning are passed over, but a value of the wrong kind spoils the whole file. A section
may also be written as an array of its values in order.
-/

namespace SipContainer

namespace Datum

def boolean? : Datum → Option Bool
  | boolean value => some value
  | _ => none

def bounded? (bound : Nat) : Datum → Option Nat
  | integer value => if 0 ≤ value ∧ value < bound then some value.toNat else none
  | _ => none

def items? : Datum → Option (List Datum)
  | list items => some items
  | _ => none

def orDefault (given : Option Datum) (default : α) (decode : Datum → Option α) : Option α :=
  match given with
  | none => some default
  | some datum => decode datum

/-- The values of a section under the given keys: from a record by name, from a list by
position. -/
def select (datum : Datum) (keys : List String) : Option (List (Option Datum)) :=
  match datum with
  | record _ => some (keys.map datum.field?)
  | list items => some ((List.range keys.length).map (fun index => items[index]?))
  | _ => none

end Datum

def Transport.ofDatum? : Datum → Option Transport
  | .text token => ofExactToken? token
  | .record [(token, .record [])] => ofExactToken? token
  | .record [(token, .list [])] => ofExactToken? token
  | _ => none

def Listener.ofDatum? (datum : Datum) : Option Listener := do
  match ← datum.select ["host", "port", "transport"] with
  | [some host, some port, some transport] =>
    return {
      host := ← host.text?
      port := (← port.bounded? UInt16.size).toUInt16
      transport := ← Transport.ofDatum? transport }
  | _ => none

def Listener.toDatum (listener : Listener) : Datum :=
  .record [("host", .text listener.host), ("port", .integer listener.port.toNat),
    ("transport", .text listener.transport.token)]

def Logging.ofDatum? (datum : Datum) : Option Logging := do
  let base : Logging := {}
  match ← datum.select ["level", "directives", "json", "file_info"] with
  | [level, directives, json, fileInfo] =>
    return {
      level := ← Datum.orDefault level base.level Datum.text?
      directives := ← Datum.orDefault directives base.directives
        (fun list => do (← list.items?).mapM Datum.text?)
      json := ← Datum.orDefault json base.json Datum.boolean?
      fileInfo := ← Datum.orDefault fileInfo base.fileInfo Datum.boolean? }
  | _ => none

def Logging.toDatum (logging : Logging) : Datum :=
  .record [("level", .text logging.level), ("directives", .list (logging.directives.map .text)),
    ("json", .boolean logging.json), ("file_info", .boolean logging.fileInfo)]

namespace Settings

def ofDatum? (datum : Datum) : Option Settings := do
  let base : Settings := {}
  return {
    bypassPools := ← Datum.orDefault (datum.field? "bypass_request_executor") base.bypassPools
      Datum.boolean?
    gateTimeoutMs := ← Datum.orDefault (datum.field? "gate_timeout_ms") base.gateTimeoutMs
      (fun value => (value.bounded? UInt64.size).map (fun count => some count.toUInt64))
    listeners := ← Datum.orDefault (datum.field? "listeners") base.listeners
      (fun list => do (← list.items?).mapM Listener.ofDatum?)
    poolSize := ← Datum.orDefault (datum.field? "default_pool_size") base.poolSize
      (Datum.bounded? UInt64.size)
    logging := ← Datum.orDefault (datum.field? "logging") base.logging Logging.ofDatum? }

def load (text : String) : Except DispatchError Settings :=
  match (Toml.parse? text).bind ofDatum? with
  | some settings => settings.check
  | none => .error (.configuration "invalid dispatcher configuration")

end Settings

end SipContainer
