import SipContainer.Time.Duration
/-!
Why the container refuses a request or a key, and what application code reports when it fails.
Every refusal has one line of text, a chain of causes behind it, and the status with which a
request is answered.
-/

namespace SipContainer

/-- What application code, a forwarder or a responder reports when it does not succeed: a line of
text and the causes behind it, the nearest first. -/
structure Failure where
  message : String
  causes : List String := []
deriving DecidableEq, Repr

inductive KeyError
  | invalidArgument (message : String)
  | unreadable (input : String) (message : String)
deriving DecidableEq, Repr

def KeyError.message : KeyError → String
  | invalidArgument message => "Invalid argument: " ++ message
  | unreadable input message =>
    "Cannot parse application session key '" ++ input ++ "': " ++ message

inductive TransportError
  | inputOutput (reason : String)
  | sendFailed (reason : String)
deriving DecidableEq, Repr

namespace TransportError

def message : TransportError → String
  | inputOutput reason => "I/O error while sending: " ++ reason
  | sendFailed reason => "Send failed: " ++ reason

def chain (fault : TransportError) : List String :=
  match fault with
  | inputOutput reason => [fault.message, reason]
  | sendFailed _ => [fault.message]

end TransportError

inductive DispatchError
  | applicationNotFound (message : String)
  | sessionNotFound (message : String)
  | malformedIdentity (message : String)
  | applicationFailure (message : String) (cause : Failure)
  | gateTimeout (session : String) (timeout : Duration)
  | transport (message : String) (cause : TransportError)
  | key (fault : KeyError)
  | configuration (message : String)
deriving DecidableEq, Repr

namespace DispatchError

def message : DispatchError → String
  | applicationNotFound message => "Application not found: " ++ message
  | sessionNotFound message => "Session not found: " ++ message
  | malformedIdentity message => "Malformed routing identity: " ++ message
  | applicationFailure message _ => "Application failure: " ++ message
  | gateTimeout session timeout =>
    "Timed out after " ++ timeout.render ++ " waiting for the concurrency gate of " ++ session
  | transport message _ => "Transport error: " ++ message
  | key fault => fault.message
  | configuration message => "Configuration error: " ++ message

def causes : DispatchError → List String
  | applicationFailure _ cause => cause.message :: cause.causes
  | transport _ cause => cause.chain
  | _ => []

def status (_ : DispatchError) : Nat := 500

def isNotFound : DispatchError → Bool
  | sessionNotFound _ => true
  | _ => false

end DispatchError

end SipContainer
