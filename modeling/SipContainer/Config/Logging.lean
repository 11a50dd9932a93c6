import SipContainer.Error
import SipContainer.Text.Alphanumeric
import SipContainer.Text.Blank
import SipContainer.Text.Case
import SipContainer.Text.Number
/-!
The logging section of the configuration: the level of the container's own messages, and further
directives that set the level of other targets. A section is checked before it is put to use, and
what fails the check is what would fail there.
-/

namespace SipContainer

inductive LogLevel
  | error | warn | info | debug | trace
deriving DecidableEq, Repr

namespace LogLevel

def all : List LogLevel := [error, warn, info, debug, trace]

def word : LogLevel → String
  | error => "error"
  | warn => "warn"
  | info => "info"
  | debug => "debug"
  | trace => "trace"

def name (level : LogLevel) : String :=
  Text.upper level.word

def ofWord? (text : String) : Option LogLevel :=
  all.find? (fun level => level.word == Text.lower text)

def numberBound : Nat := UInt64.size

def parse? (text : String) : Option LogLevel :=
  ((Text.unsigned? numberBound text).bind
    (fun number => if number = 0 then none else all[number - 1]?)).or (ofWord? text)

end LogLevel

abbrev LogThreshold : Type := Option LogLevel

namespace LogThreshold

def word : LogThreshold → String
  | some level => level.word
  | none => "off"

def unreadable : String :=
  "error parsing level filter: expected one of \"off\", \"error\", \"warn\", \"info\", " ++
    "\"debug\", \"trace\", or a number 0-5"

def parse? (text : String) : Option LogThreshold :=
  if Text.unsigned? LogLevel.numberBound text = some 0 ∨ Text.lower text = "off" then some none
  else (LogLevel.parse? text).map some

end LogThreshold

structure LogDirective where
  target : Option String
  threshold : LogThreshold
deriving DecidableEq, Repr

namespace LogDirective

def render (directive : LogDirective) : String :=
  match directive.target with
  | some target => target ++ "=" ++ LogThreshold.word directive.threshold
  | none => LogThreshold.word directive.threshold

def startsTarget (char : Char) : Bool :=
  Text.isAlphanumeric char || char == '-' || char == ':' || char == '_'

/-- What ends a target. A bracket would open a span. -/
def endsTarget (char : Char) : Bool :=
  char == '=' || char == ',' || char == '['

/-- A text without an equals sign: a threshold for all targets, or a target with everything
logged. -/
def ofBare (text : String) : LogDirective :=
  match LogThreshold.parse? text with
  | some threshold => { target := none, threshold }
  | none => { target := some text, threshold := some .trace }

def malformed : String := "invalid filter directive"

/-- The threshold behind an equals sign. Nothing at all stands for everything, and a comma may
follow. -/
def readThreshold (chars : List Char) : Except String LogThreshold := do
  let spelled := chars.takeWhile (· != ',')
  let threshold ←
    if spelled.isEmpty then .ok (some .trace)
    else (LogThreshold.parse? (String.ofList spelled)).elim (.error LogThreshold.unreadable) .ok
  if (chars.dropWhile (· != ',')).length > 1 then .error malformed else .ok threshold

def parse (text : String) : Except String LogDirective :=
  let chars := text.toList
  if (chars.head?.map startsTarget).getD false then
    let target := String.ofList (chars.takeWhile (fun char => !endsTarget char))
    match chars.dropWhile (fun char => !endsTarget char) with
    | '=' :: spelled => do return { target := some target, threshold := ← readThreshold spelled }
    | [] => .ok (ofBare target)
    | [','] => .ok (ofBare (String.ofList chars))
    | _ => .error malformed
  else .error malformed

def insert (directives : List LogDirective) (directive : LogDirective) : List LogDirective :=
  directives.filter (fun other => other.target != directive.target) ++ [directive]

end LogDirective

/-- How one level and one directive are read, without blanks around them. A directive that is refused
comes with a reason. -/
structure LogReader where
  level? : String → Option LogLevel
  directive : String → Except String LogDirective

namespace LogReader

/-- The reader of plain directives: a target, a threshold, or both, but no span. -/
def plain : LogReader where
  level? := LogLevel.parse?
  directive := LogDirective.parse

def require (reader : LogReader) (text : String) : Except DispatchError LogDirective :=
  match reader.directive (Text.trim text) with
  | .ok directive => .ok directive
  | .error reason =>
    .error (.configuration ("invalid logging directive '" ++ text ++ "': " ++ reason))

def add (reader : LogReader) (directives : List LogDirective) (text : String) :
    Except DispatchError (List LogDirective) := do
  return LogDirective.insert directives (← reader.require text)

end LogReader

/-- The logging section. Levels and directives are kept as they are written. -/
structure Logging where
  level : String := "info"
  directives : List String := []
  json : Bool := false
  fileInfo : Bool := false
deriving DecidableEq, Repr

namespace Logging

def ownTarget : String := "rvoip_dispatch_core"

def ownDirective (level : LogLevel) : String :=
  ownTarget ++ "=" ++ level.word

def baseDirective : LogDirective := { target := none, threshold := some .warn }

def ofLevel (level : LogLevel) : Logging :=
  { level := level.word }

def requireLevel (logging : Logging) (reader : LogReader := .plain) :
    Except DispatchError LogLevel :=
  match reader.level? (Text.trim logging.level) with
  | some level => .ok level
  | none => .error (.configuration ("invalid logging level '" ++ logging.level ++ "'"))

def filter (logging : Logging) (reader : LogReader := .plain) :
    Except DispatchError (List LogDirective) := do
  let own ← reader.require (ownDirective (← logging.requireLevel reader))
  logging.directives.foldlM reader.add (LogDirective.insert [baseDirective] own)

def directiveFault? (reader : LogReader) : List String → Option DispatchError
  | [] => none
  | text :: rest =>
    match reader.require text with
    | .ok _ => directiveFault? reader rest
    | .error fault => some fault

def fault? (logging : Logging) (reader : LogReader := .plain) : Option DispatchError :=
  match logging.requireLevel reader with
  | .ok _ => directiveFault? reader logging.directives
  | .error fault => some fault

/-- Putting a section to use where messages are already being logged: a second logger is never
installed, so the outcome is always a fault. -/
def install (logging : Logging) (reader : LogReader := .plain) : DispatchError :=
  match logging.filter reader with
  | .ok _ => .configuration "cannot install the logger"
  | .error fault => fault

end Logging

end SipContainer
