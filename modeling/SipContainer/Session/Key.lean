import SipContainer.Datum
import SipContainer.Error
import SipContainer.Message.Request
import SipContainer.Text.Split
/-!
The keys under which sessions are stored. An application session is known by its identifier, which
is the Call-ID of the request that began it, and the name of the application. A dialog session is
known by its two ends, the Call-ID and its application session; which end is the local one depends
on the side from which a request is seen.
-/

namespace SipContainer

structure ApplicationKey where
  callId : String
  applicationName : String
deriving DecidableEq, Repr

namespace ApplicationKey

def create (applicationName callId : String) : Except KeyError ApplicationKey :=
  if applicationName.isEmpty then
    .error (.invalidArgument
      "the application name cannot be empty for application session key creation")
  else if callId.isEmpty then
    .error (.invalidArgument "the call id cannot be empty for application session key creation")
  else .ok { callId, applicationName }

def id (key : ApplicationKey) : String := key.callId

def render (key : ApplicationKey) : String :=
  "(" ++ key.callId ++ "," ++ key.applicationName ++ ")"

/-- The key that a text holds somewhere: the first left parenthesis opens it, the first comma
behind that ends the identifier, and the last right parenthesis behind that closes it. -/
def parse (text : String) : Except KeyError ApplicationKey :=
  match Text.splitFirst? '(' text.toList with
  | none => .error (.unreadable text "the left parenthesis could not be found")
  | some (_, inner) =>
    match Text.splitFirst? ',' inner with
    | none => .error (.unreadable text "the comma could not be found")
    | some (callId, rest) =>
      match Text.beforeLast? ')' rest with
      | none => .error (.unreadable text "the right parenthesis could not be found")
      | some name => create (String.ofList name) (String.ofList callId)

def toDatum (key : ApplicationKey) : Datum :=
  .record [("call_id", .text key.callId), ("application_name", .text key.applicationName)]

/-- The key that stored data holds: a record that names each part once, or a list of just the two,
the identifier first. The parts are taken as they are. -/
def ofDatum? : Datum → Option ApplicationKey
  | .list [.text callId, .text applicationName] => some { callId, applicationName }
  | .record fields => do
    let callId ← (Datum.record fields).sole? "call_id" >>= Datum.text?
    let applicationName ← (Datum.record fields).sole? "application_name" >>= Datum.text?
    return { callId, applicationName }
  | _ => none

end ApplicationKey

inductive Polarity
  | normal
  | inverted
deriving DecidableEq, Repr

namespace Polarity

def all : List Polarity := [normal, inverted]

def word : Polarity → String
  | normal => "normal"
  | inverted => "inverted"

def ofRole : Option Role → Polarity
  | some .client => inverted
  | some .server | none => normal

def opposite : Polarity → Polarity
  | normal => inverted
  | inverted => normal

def attempts (polarity : Polarity) : List Polarity :=
  [polarity, polarity.opposite]

end Polarity

structure DialogKey where
  localAddress : String
  localTag : Option String
  remoteAddress : String
  callId : String
  applicationName : String
  applicationSessionId : String
deriving DecidableEq, Repr

namespace DialogKey

def localEnd (request : Request) : Polarity → Address
  | .normal => request.sender
  | .inverted => request.recipient

def ofRequest (applicationSessionId applicationName : String) (request : Request)
    (polarity : Polarity) : Except KeyError DialogKey :=
  if applicationName.isEmpty then
    .error (.invalidArgument "the application name cannot be empty for session key creation")
  else .ok {
    localAddress := (localEnd request polarity).uri.render
    localTag := (localEnd request polarity).tag
    remoteAddress := (localEnd request polarity.opposite).uri.render
    callId := request.callId
    applicationName
    applicationSessionId }

/-- A key in writing. The identifier of the application session is left out. -/
def render (key : DialogKey) : String :=
  "(" ++ String.intercalate ","
    [key.localAddress, key.localTag.getD "", key.remoteAddress, key.callId,
      key.applicationName] ++ ")"

def toDatum (key : DialogKey) : Datum :=
  .record
    [("local_address", .text key.localAddress),
      ("local_tag", match key.localTag with
        | some tag => .text tag
        | none => .null),
      ("remote_address", .text key.remoteAddress),
      ("call_id", .text key.callId),
      ("application_name", .text key.applicationName),
      ("application_session_id", .text key.applicationSessionId)]

def tagOfDatum? : Datum → Option (Option String)
  | .null => some none
  | .text tag => some (some tag)
  | _ => none

def ofDatum? : Datum → Option DialogKey
  | .list [.text localAddress, tag, .text remoteAddress, .text callId, .text applicationName,
      .text applicationSessionId] => do
    return {
      localAddress, localTag := ← tagOfDatum? tag, remoteAddress, callId, applicationName
      applicationSessionId }
  | .record fields => do
    let datum := Datum.record fields
    return {
      localAddress := ← (← datum.sole? "local_address").text?
      localTag := ← match datum.named "local_tag" with
        | [] => some none
        | [tag] => tagOfDatum? tag
        | _ => none
      remoteAddress := ← (← datum.sole? "remote_address").text?
      callId := ← (← datum.sole? "call_id").text?
      applicationName := ← (← datum.sole? "application_name").text?
      applicationSessionId := ← (← datum.sole? "application_session_id").text? }
  | _ => none

end DialogKey

end SipContainer
