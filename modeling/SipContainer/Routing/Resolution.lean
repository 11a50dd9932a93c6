import SipContainer.Application
import SipContainer.Routing.Identity
import SipContainer.Session.Store
/-!
The sessions of a request whose identity is known. The application session is the one the identity
names or else one that the application relates to it; the dialog session is looked for from both
sides of the dialog, the side implied by the role first. Neither search changes the store.
-/

namespace SipContainer

structure Resolution where
  applicationSession : Nat
  dialogSession : Nat
  key : DialogKey
  polarity : Polarity
deriving DecidableEq, Repr

/-- What an application was asked in a search, in order, and what came of the search. All questions
were about the key that the identity names. -/
structure Inquiry (α : Type) where
  asked : List Correlation
  answer : Except DispatchError α

namespace SessionStore

def applicationMissing (key : ApplicationKey) : DispatchError :=
  .sessionNotFound ("cannot find the corresponding application session to this subsequent " ++
    "request " ++ key.render ++ ", it may already have expired or been invalidated")

def correlated (store : SessionStore) (application : Application) (key : ApplicationKey) :
    List Correlation → Inquiry Nat
  | [] => { asked := [], answer := .error (applicationMissing key) }
  | kind :: rest =>
    match (application.correlate key kind).bind store.applications.find? with
    | some serial => { asked := [kind], answer := .ok serial }
    | none =>
      let later := store.correlated application key rest
      { later with asked := kind :: later.asked }

def resolveApplication (store : SessionStore) (application : Application)
    (identity : RouteIdentity) : Inquiry Nat :=
  match ApplicationKey.create identity.applicationName identity.applicationId with
  | .error fault => { asked := [], answer := .error (.key fault) }
  | .ok key =>
    match store.applications.find? key with
    | some serial => { asked := [], answer := .ok serial }
    | none => store.correlated application key Correlation.all

def dialogMissing (last : String) (request : Request) : DispatchError :=
  .sessionNotFound ("dialog session " ++ last ++ " not found for subsequent request " ++
    request.render ++ ", it may already have expired or been invalidated")

def resolveDialogFrom (store : SessionStore) (sessionId applicationName : String)
    (request : Request) (last : String) :
    List Polarity → Except DispatchError (Nat × DialogKey × Polarity)
  | [] => .error (dialogMissing last request)
  | polarity :: rest =>
    match DialogKey.ofRequest sessionId applicationName request polarity with
    | .error fault => .error (.key fault)
    | .ok key =>
      match store.dialogs.find? key with
      | some serial => .ok (serial, key, polarity)
      | none => store.resolveDialogFrom sessionId applicationName request key.render rest

def resolveDialog (store : SessionStore) (sessionId applicationName : String)
    (request : Request) : Except DispatchError (Nat × DialogKey × Polarity) :=
  store.resolveDialogFrom sessionId applicationName request ""
    (Polarity.ofRole request.role).attempts

def applicationId (store : SessionStore) (serial : Nat) : String :=
  ((store.applications.get? serial).map (fun session => session.key.id)).getD ""

def resolve (store : SessionStore) (application : Application) (identity : RouteIdentity)
    (request : Request) : Inquiry Resolution :=
  let search := store.resolveApplication application identity
  { asked := search.asked
    answer := do
      let applicationSession ← search.answer
      let (dialogSession, key, polarity) ← store.resolveDialog
        (store.applicationId applicationSession) identity.applicationName request
      return { applicationSession, dialogSession, key, polarity } }

end SessionStore

end SipContainer
