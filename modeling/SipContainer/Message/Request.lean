import SipContainer.Message.Event
import SipContainer.Message.Method
/-!
Requests inside a dialog, with every header that routing reads already taken apart, and the
building of a request from header texts. From, To and Call-ID are mandatory. A missing header is
reported before an address that cannot be read; an Event or Subscription-State that cannot be read
is left out.
-/

namespace SipContainer

structure Address where
  uri : Uri
  tag : Option String
deriving DecidableEq, Repr

inductive Role
  | client
  | server
deriving DecidableEq, Repr

namespace Role

def all : List Role := [client, server]

def word : Role → String
  | client => "client"
  | server => "server"

end Role

/-- The identity of the transaction that carries a request: one given by the caller, or one made up
on arrival, told apart from all others by its number. -/
inductive TransactionId
  | given (text : String)
  | generated (serial : Nat)
deriving DecidableEq, Repr

structure Request where
  method : Method
  target : Uri
  sender : Address
  recipient : Address
  callId : String
  sequence : Nat
  transport : Transport
  /-- The route entry that named this container, taken off before routing. -/
  route : Option Uri
  role : Option Role
  subscription : Option SubscriptionState
  event : Option Event
  transaction : TransactionId
deriving DecidableEq, Repr

namespace Request

def isAck (request : Request) : Bool :=
  request.method == .ack

def isNotify (request : Request) : Bool :=
  request.method == .notify

def render (request : Request) : String :=
  request.method.name ++ " " ++ request.target.render ++ " (Call-ID: " ++ request.callId ++
    ", CSeq: " ++ toString request.sequence ++ " " ++ request.method.name ++ ")"

def renderRoute (route : Uri) : String :=
  "<" ++ route.render ++ ">"

end Request

inductive MandatoryHeader
  | sender | recipient | callId
deriving DecidableEq, Repr

def MandatoryHeader.name : MandatoryHeader → String
  | sender => "From"
  | recipient => "To"
  | callId => "Call-ID"

inductive BuildError
  | uri (fault : InvalidUri)
  | missing (header : MandatoryHeader)
deriving DecidableEq, Repr

def BuildError.message : BuildError → String
  | uri fault => fault.message
  | missing header => "Missing mandatory header: " ++ header.name

structure RequestDraft where
  method : Method
  target : String
  sender : Option (String × Option String) := none
  recipient : Option (String × Option String) := none
  callId : Option String := none
  sequence : Nat := 1
  transport : Transport := .udp
  route : Option String := none
  role : Option Role := none
  subscription : Option String := none
  event : Option String := none
  transaction : Option String := none

namespace RequestDraft

def require (header : MandatoryHeader) : Option α → Except BuildError α
  | some value => .ok value
  | none => .error (.missing header)

def readUri (text : String) : Except BuildError Uri :=
  match Uri.parse text with
  | .ok uri => .ok uri
  | .error fault => .error (.uri fault)

def build (draft : RequestDraft) (serial : Nat) : Except BuildError Request := do
  let (senderText, senderTag) ← require .sender draft.sender
  let (recipientText, recipientTag) ← require .recipient draft.recipient
  let callId ← require .callId draft.callId
  let route ← draft.route.mapM readUri
  let target ← readUri draft.target
  let sender ← readUri senderText
  let recipient ← readUri recipientText
  return {
    method := draft.method
    target
    sender := { uri := sender, tag := senderTag }
    recipient := { uri := recipient, tag := recipientTag }
    callId
    sequence := draft.sequence
    transport := draft.transport
    route
    role := draft.role
    subscription := draft.subscription.bind (fun text => (SubscriptionState.parse text).toOption)
    event := draft.event.bind (fun text => (Event.parse text).toOption)
    transaction := match draft.transaction with
      | some text => .given text
      | none => .generated serial }

end RequestDraft

end SipContainer
