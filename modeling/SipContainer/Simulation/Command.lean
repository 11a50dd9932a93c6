import SipContainer.Simulation.ContainerTrial
/-!
What can be done to a container on trial, and what it answers: applications are deployed, sessions
are set up and looked at, requests are dispatched and waited for, and tasks made by hand are taken
through their stages.
-/

namespace SipContainer.Simulation

inductive DispatchMode
  | await
  | detach
  | spawn
deriving DecidableEq

structure Deployment where
  name : String
  mode : ConcurrencyMode := .session
  handler : Handler := {}
  join : Option (String × String) := none
  replaces : Option (String × String) := none
  poolSize : Option Nat := none

structure Establishment where
  label : String
  name : String
  id : String
  request : Request
  polarity : Polarity
  state : Option DialogState := none
  sequence : Option Nat := none

structure Handmade where
  label : String
  request : Request
  session : String
  application : String
  timeout : Option Nat := none

structure BranchSetup where
  target : Uri
  waiting : Bool
  conduct : Conduct

inductive Command
  | pause
  | deploy (deployment : Deployment)
  | undeploy (name : String)
  | askApplication (name : String)
  | listApplications
  | registerName (name : String)
  | unregisterName (name : String)
  | lookUp (hash : String)
  | setSender (conduct : SendConduct)
  | setResponder (conduct : Conduct)
  | establish (wish : Establishment)
  | obtainSession (name id : String)
  | removeSession (name id : String)
  | removeDialog (label : String)
  | setValidity (label : String) (validity : Validity)
  | operate (label : String) (operation : DialogOperation)
  | setProxy (label : String) (branches : List BranchSetup) (final : Option Nat)
  | clearProxy (label : String)
  | setFinal (label : String) (final : Option Nat)
  | setWaiting (label : String) (branch : Nat) (waiting : Bool)
  | hold (guard label : String) (application : Bool)
  | release (guard : String)
  | settle (time : Nat)
  | decide (request : Request)
  | resolve (application : String) (identity : RouteIdentity) (request : Request)
  | dispatch (request : Request) (mode : DispatchMode) (name : Option String)
  | join (name : String)
  | waitIdle (name : String)
  | makeTask (wish : Handmade)
  | enterTask (name : String)
  | runTask (name : String) (answers : Bool)
  | dropTask (name : String)

inductive Completion
  | unasked
  | completed
  | broken
  | blocked
deriving DecidableEq

inductive Entrance
  | entered
  | refused (fault : DispatchError)
  | blocked

structure ApplicationView where
  application : Application
  execution : Execution

inductive Answer
  | done
  | flag (value : Bool)
  | word (value : Option String)
  | words (values : List String)
  | deployed (application : Application)
  | application (view : Option ApplicationView)
  | established (label : String) (key : DialogKey) (applicationKey : ApplicationKey)
  | session (key : ApplicationKey)
  | dialog (answer : DialogAnswer)
  | entered (label : String)
  | decided (decision : Except DispatchError RouteDecision)
  | resolved (applicationKey : ApplicationKey) (label : Option String) (key : DialogKey)
      (polarity : Polarity)
  | called (result : CallResult) (completion : Completion)
  | entrance (how : Entrance) (task : Task)
  | created (task : Task)
  | finished
  | idle
  | blocked
  | nothingToJoin
  | noSuchApplication
  | refused (fault : DispatchError)
  | keyRefused (fault : KeyError)
  | poolRefused (fault : PoolError)
  | panicked (message : Option String)

end SipContainer.Simulation
