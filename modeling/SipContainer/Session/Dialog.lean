import SipContainer.Message.Request
/-!
What the container remembers of a dialog: its state, the last sequence number of the other side,
the transactions under way in the order in which they came, and the subscriptions. A request is
out of sequence unless its number is above all numbers before it; ACK and CANCEL repeat the number
of another request, so they only must not run ahead.
-/

namespace SipContainer

inductive DialogState
  | initial | early | confirmed | terminated
deriving DecidableEq, Repr

namespace DialogState

def all : List DialogState := [initial, early, confirmed, terminated]

def word : DialogState → String
  | initial => "initial"
  | early => "early"
  | confirmed => "confirmed"
  | terminated => "terminated"

end DialogState

structure Subscription where
  package : String
  id : Option String
deriving DecidableEq, Repr

def Subscription.ofRequest? (request : Request) : Option Subscription :=
  request.event.map (fun event => { package := event.package, id := event.id })

/-- A dialog. No transaction and no subscription is listed twice. -/
structure Dialog where
  state : DialogState := .initial
  sequence : Option Nat := none
  transactions : List TransactionId := []
  subscriptions : List Subscription := []
deriving DecidableEq, Repr

namespace Dialog

def nextState (state : DialogState) (method : Method) : DialogState :=
  match state, method with
  | _, .bye => .terminated
  | .initial, .cancel | .early, .cancel => .terminated
  | state, _ => state

def advance (dialog : Dialog) (request : Request) : Dialog :=
  { dialog with state := nextState dialog.state request.method }

def inSequence (last : Option Nat) (request : Request) : Bool :=
  match last with
  | none => true
  | some last =>
    if request.method.reusesSequenceNumber then request.sequence ≤ last
    else last < request.sequence

def nextSequence (last : Option Nat) (request : Request) : Option Nat :=
  if request.method.reusesSequenceNumber then last
  else if inSequence last request then some request.sequence
  else last

def noteSequence (dialog : Dialog) (request : Request) : Dialog :=
  { dialog with sequence := nextSequence dialog.sequence request }

/-- A dialog with a transaction under way. One that is listed keeps its place. -/
def addTransaction (dialog : Dialog) (id : TransactionId) : Dialog :=
  if dialog.transactions.contains id then dialog
  else { dialog with transactions := dialog.transactions ++ [id] }

def removeTransaction (dialog : Dialog) (id : TransactionId) : Dialog :=
  { dialog with transactions := dialog.transactions.filter (· != id) }

def addSubscription (dialog : Dialog) (subscription : Subscription) : Dialog :=
  if dialog.subscriptions.contains subscription then dialog
  else { dialog with subscriptions := dialog.subscriptions ++ [subscription] }

def removeSubscription (dialog : Dialog) (subscription : Subscription) : Dialog :=
  { dialog with subscriptions := dialog.subscriptions.filter (· != subscription) }

def subscribe (dialog : Dialog) (request : Request) : Dialog :=
  match Subscription.ofRequest? request with
  | some subscription => dialog.addSubscription subscription
  | none => dialog

def unsubscribe (dialog : Dialog) (request : Request) : Dialog :=
  match Subscription.ofRequest? request with
  | some subscription => dialog.removeSubscription subscription
  | none => dialog

theorem inSequence_iff_of_own {last : Option Nat} {request : Request}
    (own : request.method.reusesSequenceNumber = false) :
    inSequence last request = true ↔ ∀ seen ∈ last, seen < request.sequence := by
  cases last <;> simp [inSequence, own]

theorem inSequence_iff_of_shared {last : Option Nat} {request : Request}
    (shared : request.method.reusesSequenceNumber = true) :
    inSequence last request = true ↔ ∀ seen ∈ last, request.sequence ≤ seen := by
  cases last <;> simp [inSequence, shared]

@[simp] theorem sequence_addTransaction (dialog : Dialog) (id : TransactionId) :
    (dialog.addTransaction id).sequence = dialog.sequence := by
  unfold addTransaction
  split <;> rfl

@[simp] theorem sequence_advance (dialog : Dialog) (request : Request) :
    (dialog.advance request).sequence = dialog.sequence := rfl

@[simp] theorem sequence_addSubscription (dialog : Dialog) (subscription : Subscription) :
    (dialog.addSubscription subscription).sequence = dialog.sequence := by
  unfold addSubscription
  split <;> rfl

@[simp] theorem sequence_subscribe (dialog : Dialog) (request : Request) :
    (dialog.subscribe request).sequence = dialog.sequence := by
  unfold subscribe
  split
  · exact dialog.sequence_addSubscription _
  · rfl

@[simp] theorem sequence_unsubscribe (dialog : Dialog) (request : Request) :
    (dialog.unsubscribe request).sequence = dialog.sequence := by
  unfold unsubscribe
  split <;> rfl

end Dialog

end SipContainer
