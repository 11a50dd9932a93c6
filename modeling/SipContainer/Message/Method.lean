import SipContainer.Message.Header
/-!
Request methods. The names of the known methods are read in any letter case; every other token is
an extension method and keeps its letters.
-/

namespace SipContainer

open Text

inductive Method
  | invite | ack | bye | cancel | prack | notify | subscribe | info | update | refer
  | message | options | publish | register
  | extension (name : String)
deriving DecidableEq, Repr

namespace Method

def name : Method → String
  | invite => "INVITE"
  | ack => "ACK"
  | bye => "BYE"
  | cancel => "CANCEL"
  | prack => "PRACK"
  | notify => "NOTIFY"
  | subscribe => "SUBSCRIBE"
  | info => "INFO"
  | update => "UPDATE"
  | refer => "REFER"
  | message => "MESSAGE"
  | options => "OPTIONS"
  | publish => "PUBLISH"
  | register => "REGISTER"
  | extension name => name

def isExtension : Method → Bool
  | extension _ => true
  | _ => false

def named? : String → Option Method
  | "INVITE" => some invite
  | "ACK" => some ack
  | "BYE" => some bye
  | "CANCEL" => some cancel
  | "PRACK" => some prack
  | "NOTIFY" => some notify
  | "SUBSCRIBE" => some subscribe
  | "INFO" => some info
  | "UPDATE" => some update
  | "REFER" => some refer
  | "MESSAGE" => some message
  | "OPTIONS" => some options
  | "PUBLISH" => some publish
  | "REGISTER" => some register
  | _ => none

def ofName (name : String) : Method :=
  (named? (upper name)).getD (extension name)

def read : Reader Method :=
  ofName <$> Header.readToken

def parse (text : String) : Except InvalidHeader Method :=
  Header.parse "method" read text

def reusesSequenceNumber (method : Method) : Bool :=
  method == ack || method == cancel

end Method

end SipContainer
