import SipContainer.Message.Header
/-!
Event notification headers: the event package with its optional `id`, and the state of a
subscription. Package names are kept in small letters. The first `id` parameter decides, even
when it has no value.
-/

namespace SipContainer

open Text

structure Event where
  package : String
  id : Option String
deriving DecidableEq, Repr

namespace Event

def ofParts (package : String) (params : List Header.Param) : Event where
  package := lower package
  id := (params.find? (fun param => sameFolded param.1 "id")).bind Prod.snd

def read : Reader Event := do
  let package ← Header.readToken
  let params ← Reader.many Header.readParam
  return ofParts package params

def parse (text : String) : Except InvalidHeader Event :=
  Header.parse "Event" read text

end Event

inductive SubscriptionState
  | active
  | pending
  | terminated
  | extension (token : String)
deriving DecidableEq, Repr

namespace SubscriptionState

def isActiveOrPending : SubscriptionState → Bool
  | active | pending => true
  | terminated | extension _ => false

def ofToken (token : String) : SubscriptionState :=
  if sameFolded token "active" then active
  else if sameFolded token "pending" then pending
  else if sameFolded token "terminated" then terminated
  else extension token

/-- The value of a Subscription-State header; its parameters are read and dropped. -/
def read : Reader SubscriptionState := do
  let token ← Header.readToken
  let _ ← Reader.many Header.readParam
  return ofToken token

def parse (text : String) : Except InvalidHeader SubscriptionState :=
  Header.parse "Subscription-State" read text

end SubscriptionState

end SipContainer
