import SipContainer.Message.Transport
/-!
SIP addresses without headers: host, port, user and the ordered list of parameters in which the
container hides its routing identity. Parameter names are looked up without regard to letter
case, and the first parameter of a name counts.
-/

namespace SipContainer

abbrev UriParam : Type := String × Option String

/-- A `sip` or `sips` address. An IPv6 host is kept without its brackets. -/
structure Uri where
  scheme : String := "sip"
  user : Option String := none
  host : String
  port : Option UInt16 := none
  params : List UriParam := []
deriving DecidableEq, Repr

namespace Uri

def isSecure (uri : Uri) : Bool :=
  Text.sameFolded uri.scheme "sips"

def withParam (uri : Uri) (name : String) (value : Option String) : Uri :=
  { uri with params := uri.params ++ [(name, value)] }

/-- The value of the first parameter of this name. A first parameter without a value hides later
ones. -/
def param? (uri : Uri) (name : String) : Option String :=
  (uri.params.find? (fun param => Text.sameFolded param.1 name)).bind Prod.snd

def transport? (uri : Uri) : Option Transport :=
  (uri.param? "transport").bind Transport.ofToken?

def effectivePort (uri : Uri) (transport : Transport) : UInt16 :=
  match uri.port with
  | some port => port
  | none => if uri.isSecure then Transport.tls.defaultPort else transport.defaultPort

/-- A host in writing: one with a colon stands in brackets, unless it opens with one. -/
def renderHost (host : String) : String :=
  if host.toList.contains ':' && host.toList.head? != some '[' then "[" ++ host ++ "]" else host

def renderParam : UriParam → String
  | (name, some value) => ";" ++ name ++ "=" ++ value
  | (name, none) => ";" ++ name

def render (uri : Uri) : String :=
  let user := match uri.user with
    | some user => user ++ "@"
    | none => ""
  let port := match uri.port with
    | some port => ":" ++ toString port.toNat
    | none => ""
  uri.scheme ++ ":" ++ user ++ renderHost uri.host ++ port ++
    String.join (uri.params.map renderParam)

end Uri

end SipContainer
