import SipContainer.Text.Case
/-!
The transports a request can arrive on and a listener can be bound to: their tokens, their printed
names and their default ports.
-/

namespace SipContainer

inductive Transport
  | udp | tcp | tls | sctp | ws | wss
deriving DecidableEq, Repr

namespace Transport

def all : List Transport := [udp, tcp, tls, sctp, ws, wss]

def token : Transport → String
  | udp => "udp"
  | tcp => "tcp"
  | tls => "tls"
  | sctp => "sctp"
  | ws => "ws"
  | wss => "wss"

def name (transport : Transport) : String :=
  Text.upper transport.token

def ofExactToken? (text : String) : Option Transport :=
  all.find? (fun transport => transport.token == text)

def ofToken? (text : String) : Option Transport :=
  ofExactToken? (Text.lower text)

def defaultPort : Transport → UInt16
  | tls | wss => 5061
  | udp | tcp | sctp | ws => 5060

end Transport

end SipContainer
