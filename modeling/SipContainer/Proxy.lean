import SipContainer.Message.Request
/-!
The proxy of a dialog that was forked to several targets. Once one branch has won, later requests
go through it; until then a PRACK goes to every branch that waits for one.
-/

namespace SipContainer

structure Branch where
  target : Uri
  awaitsPrack : Bool := false
deriving DecidableEq, Repr

structure Proxy where
  branches : List Branch := []
  /-- The branches in the order in which they were added; one may be added again. -/
  order : List Nat := []
  final : Option Nat := none
  ackReceived : Bool := false
  lastRequest : Option Request := none
deriving DecidableEq, Repr

namespace Proxy

def branch? (proxy : Proxy) (number : Nat) : Option Branch :=
  proxy.branches[number]?

def awaits (proxy : Proxy) (number : Nat) : Bool :=
  ((proxy.branch? number).map Branch.awaitsPrack).getD false

def setAwaits (proxy : Proxy) (number : Nat) (awaits : Bool) : Proxy :=
  let set (branch : Branch) : Branch := { branch with awaitsPrack := awaits }
  { proxy with branches := proxy.branches.modify number set }

def targetText (proxy : Proxy) (number : Nat) : String :=
  ((proxy.branch? number).map (fun branch => branch.target.render)).getD ""

def noteFinal (proxy : Proxy) (request : Request) : Proxy :=
  { proxy with ackReceived := request.isAck, lastRequest := some request }

def nextAwaiting? (proxy : Proxy) : List Nat → Option (Nat × List Nat)
  | [] => none
  | number :: rest =>
    if proxy.awaits number then some (number, rest) else proxy.nextAwaiting? rest

end Proxy

end SipContainer
