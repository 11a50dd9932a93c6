import SipContainer.Message.Uri
import SipContainer.Text.Number
import SipContainer.Text.Reader
/-!
The written form of addresses, read from octets: bare, or between angle brackets as in a Route
header. The scheme is read in any letter case and kept in small letters, and escapes stay as they
are written. A port number above 65535 is no port, so reading stops in front of its colon.
-/

namespace SipContainer

open Text

def isAlphanumericOctet (octet : UInt8) : Bool :=
  (0x30 ≤ octet && octet ≤ 0x39) || (0x41 ≤ octet && octet ≤ 0x5A) ||
    (0x61 ≤ octet && octet ≤ 0x7A)

def isHexOctet (octet : UInt8) : Bool :=
  (0x30 ≤ octet && octet ≤ 0x39) || (0x41 ≤ octet && octet ≤ 0x46) ||
    (0x61 ≤ octet && octet ≤ 0x66)

def isDigitOctet (octet : UInt8) : Bool :=
  0x30 ≤ octet && octet ≤ 0x39

namespace Uri

def isUnreserved (octet : UInt8) : Bool :=
  isAlphanumericOctet octet || (bytes "-_.!~*'()").contains octet

def isUserOctet (octet : UInt8) : Bool :=
  isUnreserved octet || (bytes "%&=+$,?/").contains octet

def isHostNameOctet (octet : UInt8) : Bool :=
  isAlphanumericOctet octet || (bytes "-.").contains octet

def isIpv6Octet (octet : UInt8) : Bool :=
  isHexOctet octet || (bytes ":.").contains octet

def isParamOctet (octet : UInt8) : Bool :=
  isUnreserved octet || (bytes "%[]/:&+$").contains octet

def readScheme : Reader String :=
  .orElse (do Reader.keyword "sips"; return "sips") (do Reader.keyword "sip"; return "sip")

def readUser : Reader String := do
  let user ← Reader.word isUserOctet
  Reader.char '@'
  return user

def readHost : Reader String :=
  .orElse
    (do
      Reader.char '['
      let host ← Reader.word isIpv6Octet
      Reader.char ']'
      return host)
    (Reader.word isHostNameOctet)

def readPortNumber : Reader UInt16 :=
  fun input =>
    match Reader.word isDigitOctet input with
    | .ok (digits, rest) =>
      match (decimal? digits.toList).filter (· < 65536) with
      | some port => .ok (port.toUInt16, rest)
      | none => .error input
    | .error stopped => .error stopped

def readPort : Reader UInt16 := do
  Reader.char ':'
  readPortNumber

def readParam : Reader UriParam := do
  Reader.char ';'
  let name ← Reader.word isParamOctet
  let value ← Reader.optional (do Reader.char '='; Reader.word isParamOctet)
  return (name, value)

def read : Reader Uri := do
  let scheme ← readScheme
  Reader.char ':'
  let user ← Reader.optional readUser
  let host ← readHost
  let port ← Reader.optional readPort
  let params ← Reader.many readParam
  return { scheme, user, host, port, params }

def readRoute : Reader Uri :=
  .orElse
    (do
      Reader.char '<'
      let uri ← read
      Reader.char '>'
      return uri)
    read

end Uri

structure InvalidUri where
  input : String
  offset : Nat
deriving DecidableEq, Repr

namespace InvalidUri

def reason (fault : InvalidUri) : String :=
  "unexpected input at offset " ++ toString fault.offset

def message (fault : InvalidUri) : String :=
  "Invalid SIP URI '" ++ fault.input ++ "': " ++ fault.reason

end InvalidUri

namespace Uri

def parse (text : String) : Except InvalidUri Uri :=
  match readRoute.wholeText text with
  | .ok uri => .ok uri
  | .error offset => .error { input := text, offset }

end Uri

end SipContainer
