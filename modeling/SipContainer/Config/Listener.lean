import SipContainer.Message.Transport
import SipContainer.Text.Blank
/-!
Where the container listens, and which targets are therefore its own.
-/

namespace SipContainer

structure Listener where
  host : String
  port : UInt16
  transport : Transport
deriving DecidableEq, Repr

namespace Listener

def fault? (listener : Listener) : Option String :=
  if (Text.trim listener.host).isEmpty then some "listener host cannot be empty"
  else if listener.port = 0 then
    some ("listener " ++ listener.host ++ " must have a non-zero port")
  else none

/-- A host without opening brackets in front and closing brackets behind. -/
def bareHost (host : String) : String :=
  String.ofList (Text.dropEndWhile (· == ']') (host.toList.dropWhile (· == '[')))

def serves (listener : Listener) (host : String) (port : UInt16) (transport : Transport) : Bool :=
  listener.port == port && listener.transport == transport &&
    Text.sameFolded (bareHost listener.host) (bareHost host)

end Listener

def isLocal (listeners : List Listener) (host : String) (port : UInt16) (transport : Transport) :
    Bool :=
  listeners.any (fun listener => listener.serves host port transport)

end SipContainer
