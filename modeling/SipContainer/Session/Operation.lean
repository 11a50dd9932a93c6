import SipContainer.Session.Store
/-!
The operations on a dialog and on the session store, as data, so that histories can be spoken of;
and the order in which subscriptions and keys are listed.
-/

namespace SipContainer

inductive DialogOperation
  | setState (state : DialogState)
  | advance (request : Request)
  | recordSequence (number : Nat)
  | checkSequence (request : Request)
  | addTransaction (id : TransactionId)
  | removeTransaction (id : TransactionId)
  | subscribe (request : Request)
  | unsubscribe (request : Request)
  | hasSubscription (subscription : Subscription)
  | subscriptionOf (request : Request)

inductive DialogAnswer
  | done
  | verdict (value : Bool)
  | subscription (value : Option Subscription)
deriving DecidableEq, Repr

namespace DialogOperation

def apply (dialog : Dialog) : DialogOperation → Dialog × DialogAnswer
  | setState state => ({ dialog with state }, .done)
  | advance request => (dialog.advance request, .done)
  | recordSequence number => ({ dialog with sequence := some number }, .done)
  | checkSequence request =>
    (dialog.noteSequence request, .verdict (Dialog.inSequence dialog.sequence request))
  | addTransaction id =>
    (dialog.addTransaction id, .verdict (!dialog.transactions.contains id))
  | removeTransaction id =>
    let after := dialog.removeTransaction id
    (after, .verdict (after.transactions.length != dialog.transactions.length))
  | subscribe request =>
    (dialog.subscribe request, .verdict
      ((Subscription.ofRequest? request).any (!dialog.subscriptions.contains ·)))
  | unsubscribe request =>
    (dialog.unsubscribe request, .verdict
      ((Subscription.ofRequest? request).any dialog.subscriptions.contains))
  | hasSubscription subscription =>
    (dialog, .verdict (dialog.subscriptions.contains subscription))
  | subscriptionOf request => (dialog, .subscription (Subscription.ofRequest? request))

def run (dialog : Dialog) : List DialogOperation → Dialog × List DialogAnswer
  | [] => (dialog, [])
  | operation :: rest =>
    let (changed, answer) := apply dialog operation
    let (last, answers) := run changed rest
    (last, answer :: answers)

end DialogOperation

inductive StoreOperation
  | findApplication (key : ApplicationKey)
  | obtainApplication (key : ApplicationKey)
  | removeApplication (key : ApplicationKey)
  | findDialog (key : DialogKey)
  | obtainDialog (application : Nat) (key : DialogKey)
  | removeDialog (key : DialogKey)

def StoreOperation.apply (store : SessionStore) : StoreOperation → SessionStore × Option Nat
  | findApplication key => (store, store.applications.find? key)
  | obtainApplication key =>
    let (store, serial) := store.obtainApplication key
    (store, some serial)
  | removeApplication key => (store.removeApplication key, store.applications.find? key)
  | findDialog key => (store, store.dialogs.find? key)
  | obtainDialog application key => store.obtainDialog application key
  | removeDialog key => (store.removeDialog key, store.dialogs.find? key)

/-- The order of subscriptions: by package, then without an identifier first, then by it. -/
def Subscription.le (left right : Subscription) : Bool :=
  if left.package = right.package then
    match left.id, right.id with
    | none, _ => true
    | some _, none => false
    | some left, some right => Datum.nameLe left right
  else Datum.nameLe left.package right.package

def Dialog.listedSubscriptions (dialog : Dialog) : List Subscription :=
  dialog.subscriptions.mergeSort Subscription.le

def DialogKey.listed (keys : List DialogKey) : List DialogKey :=
  keys.mergeSort (fun left right => Datum.nameLe left.toDatum.render right.toDatum.render)

end SipContainer
