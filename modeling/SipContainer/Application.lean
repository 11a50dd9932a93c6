import SipContainer.Concurrency.Pool
import SipContainer.Routing.NameTable
import SipContainer.Session.Catalog
import SipContainer.Session.Key
/-!
Applications as the container knows them: how their requests are kept apart, how they answer
questions about related sessions, and the pool of workers that runs their code. Deploying an
application also registers the hash of its name, undeploying it takes both away.
-/

namespace SipContainer

/-- What of an application is never run twice at a time. -/
inductive ConcurrencyMode
  | none
  | session
  | applicationSession
  | transaction
deriving DecidableEq, Repr

namespace ConcurrencyMode

def all : List ConcurrencyMode := [none, session, applicationSession, transaction]

def word : ConcurrencyMode → String
  | none => "none"
  | session => "session"
  | applicationSession => "application_session"
  | transaction => "transaction"

end ConcurrencyMode

inductive Correlation
  | join | replaces
deriving DecidableEq, Repr

namespace Correlation

def name : Correlation → String
  | join => "Join"
  | replaces => "Replaces"

def all : List Correlation := [join, replaces]

end Correlation

inductive Conduct
  | success
  | failure (cause : Failure)
  | panic (message : Option String)
deriving DecidableEq, Repr

namespace Conduct

def panicText (message : Option String) : String :=
  message.getD "unknown panic"

def failure? (conduct : Conduct) (party : String) : Option Failure :=
  match conduct with
  | success => none
  | failure cause => some cause
  | panic message => some { message := party ++ " panicked: " ++ panicText message }

end Conduct

structure Application where
  name : String
  mode : ConcurrencyMode
  pool : Pool
  correlate : ApplicationKey → Correlation → Option ApplicationKey

namespace Application

def create (name : String) (mode : ConcurrencyMode) (poolSize : Nat)
    (correlate : ApplicationKey → Correlation → Option ApplicationKey) :
    Except PoolError Application :=
  (Pool.create poolSize).map (fun pool => { name, mode, pool, correlate })

def poolName (application : Application) : String :=
  application.name ++ "-executor"

end Application

inductive Execution
  | direct
  | pooled
deriving DecidableEq, Repr

namespace Execution

def word : Execution → String
  | direct => "inline"
  | pooled => "pooled"

/-- Where the code of an application in the given mode runs. -/
def choose (bypassPools : Bool) (mode : ConcurrencyMode) : Execution :=
  if bypassPools || mode = .transaction then direct else pooled

end Execution

structure Registry where
  applications : Catalog String Application := {}
  names : NameTable := {}

namespace Registry

def find? (registry : Registry) (name : String) : Option Nat :=
  registry.applications.find? name

def get? (registry : Registry) (number : Nat) : Option Application :=
  registry.applications.get? number

def deploy (registry : Registry) (application : Application) : Registry :=
  { applications :=
      ((registry.applications.erase application.name).insert application.name application).1
    names := registry.names.register application.name }

def undeploy (registry : Registry) (name : String) : Registry :=
  { applications := registry.applications.erase name, names := registry.names.unregister name }

def listed (registry : Registry) : List String :=
  registry.applications.keys.mergeSort Datum.nameLe

def modifyPool (registry : Registry) (number : Nat) (change : Pool → Pool) : Registry :=
  let changed (application : Application) := { application with pool := change application.pool }
  { registry with applications := registry.applications.modify number changed }

@[simp] theorem modifyPool_id (registry : Registry) (number : Nat) :
    registry.modifyPool number id = registry := by
  have same : registry.applications.made.modify number id = registry.applications.made :=
    List.modify_id _ _
  change { registry with
    applications := { registry.applications with
      made := registry.applications.made.modify number id } } = registry
  rw [same]

end Registry

end SipContainer
