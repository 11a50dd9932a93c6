import SipContainer.Message.Uri.Grammar
/-!
The parts that header values share: tokens, quoted strings and parameters of the form
`;name` or `;name=value` with spaces and tabs around the separators. Escapes in quoted strings are
kept as written, as routing never looks inside them.
-/

namespace SipContainer

open Text

structure InvalidHeader where
  header : String
  input : String
  offset : Nat
deriving DecidableEq, Repr

def InvalidHeader.message (fault : InvalidHeader) : String :=
  "Invalid " ++ fault.header ++ " value '" ++ fault.input ++ "': unexpected input at offset " ++
    toString fault.offset

namespace Header

def isTokenOctet (octet : UInt8) : Bool :=
  isAlphanumericOctet octet || (bytes "-.!%*_+`'~").contains octet

def readToken : Reader String :=
  Reader.word isTokenOctet

def readGap : Reader Unit := do
  let _ ← Reader.run (fun octet => octet == 0x20 || octet == 0x09)
  return ()

def readSeparator (separator : Char) : Reader Unit := do
  readGap
  Reader.char separator
  readGap

def readQuoted : Reader String := do
  Reader.char '"'
  let content ← Reader.run (fun octet => octet != 0x22)
  Reader.char '"'
  return ofBytes content

abbrev Param : Type := String × Option String

def readParam : Reader Param := do
  readSeparator ';'
  let name ← readToken
  let value ← Reader.optional (do readSeparator '='; Reader.orElse readToken readQuoted)
  return (name, value)

def parse (header : String) (reader : Reader α) (text : String) : Except InvalidHeader α :=
  match reader.wholeText text with
  | .ok value => .ok value
  | .error offset => .error { header, input := text, offset }

end Header

end SipContainer
