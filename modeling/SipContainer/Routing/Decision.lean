import SipContainer.Config.Listener
import SipContainer.Message.Request
import SipContainer.Routing.Identity
/-!
What becomes of a request, before any session is looked for: it belongs to an application session,
it is relayed because it is meant for someone else, or it is dropped. The popped route counts
first, provided it carries both parts of the identity; otherwise the tag in the To header does.
-/

namespace SipContainer

inductive RouteDecision
  | resolved (identity : RouteIdentity)
  | relay
  | drop
deriving DecidableEq, Repr

namespace RouteDecision

/-- What is recovered of an identity: the name unless its hash is unknown, and the identifier. -/
abbrev Recovered : Type := Option String × Option String

def filledParam? (route : Uri) (name : String) : Option String :=
  (route.param? name).filter (fun value => !value.isEmpty)

/-- What a popped route carries. The identifier counts only beside a hash. -/
def ofRoute (table : NameTable) (route : Option Uri) : Recovered :=
  match route with
  | none => (none, none)
  | some uri =>
    match filledParam? uri RouteIdentity.nameParam with
    | none => (none, none)
    | some hash => (table.name? hash, filledParam? uri RouteIdentity.idParam)

/-- What route and tag of a request carry. The tag is not looked at where the route has an
identifier, and where it has none its name is forgotten. -/
def recover (table : NameTable) (request : Request) : Except DispatchError Recovered := do
  let fromRoute := ofRoute table request.route
  match fromRoute.2 with
  | some _ => return fromRoute
  | none =>
    let decoded ← RouteIdentity.decodeTag table request.recipient.tag
    return (decoded.map RouteIdentity.applicationName, decoded.map RouteIdentity.applicationId)

def routeClause (request : Request) : String :=
  match request.route with
  | some route => " with popped route header " ++ Request.renderRoute route
  | none => ""

def notFound (request : Request) : DispatchError :=
  .applicationNotFound
    ("cannot find the application to handle " ++ request.render ++ routeClause request)

def isExternal (listeners : List Listener) (request : Request) : Bool :=
  let transport := request.target.transport?.getD request.transport
  !isLocal listeners request.target.host (request.target.effectivePort transport) transport

def decide (table : NameTable) (listeners : List Listener) (request : Request) :
    Except DispatchError RouteDecision := do
  match ← recover table request with
  | (some applicationName, some applicationId) =>
    return resolved { applicationName, applicationId }
  | (none, some _) => throw (notFound request)
  | (_, none) =>
    if isExternal listeners request then return relay
    else if request.isAck then return drop
    else throw (notFound request)

end RouteDecision

end SipContainer
