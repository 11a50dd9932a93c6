import SipContainer.Config.Toml.Tree
import SipContainer.Message.Uri.Grammar
/-!
The written form of configuration files: comments, keys, strings, numbers, arrays and inline
tables, and the lines that give a key its value or open a section. Dates and times are not taken.
Values nest less than eighty deep, and a dotted key has less than eighty parts.
-/

namespace SipContainer.Toml

open Text

def depthLimit : Nat := 79

def isSpaceOctet (octet : UInt8) : Bool :=
  octet == 0x20 || octet == 0x09

def isLineOctet (octet : UInt8) : Bool :=
  octet == 0x09 || (0x20 ≤ octet && octet != 0x7F)

def isBasicOctet (octet : UInt8) : Bool :=
  isLineOctet octet && octet != 0x22 && octet != 0x5C

def isLiteralOctet (octet : UInt8) : Bool :=
  isLineOctet octet && octet != 0x27

def isBareKeyOctet (octet : UInt8) : Bool :=
  isAlphanumericOctet octet || octet == 0x2D || octet == 0x5F

def refuse : Reader α :=
  fun input => .error input

def demand : Option α → Reader α
  | some value => return value
  | none => refuse

def readSpaces : Reader Unit := do
  let _ ← Reader.run isSpaceOctet
  return ()

def readNewline : Reader Unit :=
  .orElse (Reader.char '\n') (do Reader.char '\r'; Reader.char '\n')

def readComment : Reader Unit := do
  Reader.char '#'
  let _ ← Reader.run isLineOctet
  return ()

def readBreaks : Reader Unit := do
  let _ ← Reader.many (.orElse
    (do let _ ← Reader.someRun isSpaceOctet; return ())
    (do let _ ← Reader.optional readComment; readNewline))
  return ()

def readHexDigits : Nat → Nat → Reader Nat
  | 0, value => return value
  | count + 1, value => fun input =>
    match input with
    | octet :: rest =>
      if isHexOctet octet then
        readHexDigits count (value * 16 + hexValue octet) rest
      else .error input
    | [] => .error input
where
  hexValue (octet : UInt8) : Nat :=
    if octet ≤ 0x39 then octet.toNat - 0x30
    else if octet ≤ 0x46 then octet.toNat - 0x37
    else octet.toNat - 0x57

def readScalar (digits : Nat) : Reader (List UInt8) := do
  let value ← readHexDigits digits 0
  if value.isValidChar then return String.utf8EncodeChar (Char.ofNat value) else refuse

def shortEscapes : List (Char × UInt8) :=
  [('b', 0x08), ('t', 0x09), ('n', 0x0A), ('f', 0x0C), ('r', 0x0D), ('"', 0x22), ('\\', 0x5C)]

def readEscape : Reader (List UInt8) := do
  Reader.char '\\'
  shortEscapes.foldr
    (fun entry other => .orElse (do Reader.char entry.1; return [entry.2]) other)
    (.orElse (do Reader.char 'u'; readScalar 4) (do Reader.char 'U'; readScalar 8))

def readJoined (part : Reader (List UInt8)) : Reader (List UInt8) :=
  List.flatten <$> Reader.many part

def readBasic : Reader String := do
  Reader.char '"'
  let content ← readJoined (.orElse (Reader.someRun isBasicOctet) readEscape)
  Reader.char '"'
  return ofBytes content

def readLiteral : Reader String := do
  Reader.char '\''
  let content ← Reader.run isLiteralOctet
  Reader.char '\''
  return ofBytes content

def readQuotes (quote : UInt8) (least most : Nat) : Reader Nat := do
  let quotes ← Reader.run (· == quote)
  if least ≤ quotes.length ∧ quotes.length ≤ most then return quotes.length else refuse

def readInnerNewline : Reader (List UInt8) := do
  readNewline
  return [0x0A]

/-- A backslash at the end of a line, which takes all space up to the next text with it. -/
def readContinuation : Reader (List UInt8) := do
  Reader.char '\\'
  readSpaces
  readNewline
  let _ ← Reader.many (.orElse (do let _ ← Reader.someRun isSpaceOctet; return ()) readNewline)
  return []

def readInnerQuotes (quote : UInt8) : Reader (List UInt8) := do
  let count ← readQuotes quote 1 2
  return List.replicate count quote

/-- A string over several lines, its parts being given. A line end right behind the opening quotes
does not count, and up to two quotes may stand in front of the closing ones. -/
def readLines (quote : UInt8) (part : Reader (List UInt8)) : Reader String := do
  Reader.octet quote
  Reader.octet quote
  Reader.octet quote
  let _ ← Reader.optional readNewline
  let content ← readJoined (.orElse part (.orElse readInnerNewline (readInnerQuotes quote)))
  let count ← readQuotes quote 3 5
  return ofBytes (content ++ List.replicate (count - 3) quote)

def readString : Reader String :=
  .orElse
    (readLines 0x22 (.orElse (Reader.someRun isBasicOctet) (.orElse readContinuation readEscape)))
    (.orElse readBasic (.orElse (readLines 0x27 (Reader.someRun isLiteralOctet)) readLiteral))

def readDigits (admits : UInt8 → Bool) : Reader (List UInt8) := do
  let first ← Reader.someRun admits
  let more ← Reader.many (do Reader.char '_'; Reader.someRun admits)
  return first ++ more.flatten

def readSign : Reader Bool := do
  let sign ← Reader.optional (.orElse (do Reader.char '+'; return false)
    (do Reader.char '-'; return true))
  return sign.getD false

def readWhole : Reader (List UInt8) :=
  .orElse (do Reader.char '0'; return [0x30]) (readDigits isDigitOctet)

def valueOf (base : Nat) (digits : List UInt8) : Nat :=
  digits.foldl (fun value octet => value * base + readHexDigits.hexValue octet) 0

def bounded? (value : Int) : Option Datum :=
  if Int64.minValue.toInt ≤ value ∧ value ≤ Int64.maxValue.toInt then some (.integer value)
  else none

def readBased (letter : Char) (base : Nat) (admits : UInt8 → Bool) : Reader Datum := do
  Reader.char '0'
  Reader.char letter
  let digits ← readDigits admits
  demand (bounded? (valueOf base digits))

def readInteger : Reader Datum :=
  .orElse (readBased 'x' 16 isHexOctet) <|
  .orElse (readBased 'o' 8 (fun octet => 0x30 ≤ octet && octet ≤ 0x37)) <|
  .orElse (readBased 'b' 2 (fun octet => octet == 0x30 || octet == 0x31)) <| do
    let negative ← readSign
    let digits ← readWhole
    let value : Int := valueOf 10 digits
    demand (bounded? (if negative then -value else value))

def readExponent : Reader Int := do
  .orElse (Reader.char 'e') (Reader.char 'E')
  let negative ← readSign
  let value : Int := valueOf 10 (← readDigits isDigitOctet)
  return if negative then -value else value

/-- The number `mantissa * 10 ^ exponent` rounds to one beyond the largest double. -/
def exceedsDouble (mantissa : Nat) (exponent : Int) : Bool :=
  let magnitude := (toString mantissa).length + exponent
  if mantissa = 0 ∨ magnitude < 308 then false
  else if magnitude > 310 then true
  else
    decide (Nat.pow 2 1024 - Nat.pow 2 970 ≤
      mantissa * Nat.pow 10 exponent.toNat / Nat.pow 10 (-exponent).toNat)

def readReal : Reader Datum := do
  let negative ← readSign
  let whole ← readWhole
  let decimals ← Reader.optional (do Reader.char '.'; readDigits isDigitOctet)
  let exponent ← match decimals with
    | some _ => Reader.optional readExponent
    | none => some <$> readExponent
  let places := (decimals.getD []).length
  let mantissa := valueOf 10 (whole ++ decimals.getD [])
  let scale := exponent.getD 0 - places
  if !negative && exceedsDouble mantissa scale then refuse
  else
    let sign := if negative then "-" else ""
    return .real (sign ++ toString mantissa ++ "e" ++ toString scale)

def readExact : List Char → Reader Unit
  | [] => return ()
  | char :: rest => do
    Reader.char char
    readExact rest

def readSpecial : Reader Datum := do
  let negative ← readSign
  let sign := if negative then "-" else ""
  .orElse (do readExact ['i', 'n', 'f']; return .real (sign ++ "inf"))
    (do readExact ['n', 'a', 'n']; return .real "nan")

def readBoolean : Reader Datum :=
  .orElse (do readExact ['t', 'r', 'u', 'e']; return .boolean true)
    (do readExact ['f', 'a', 'l', 's', 'e']; return .boolean false)

def readKeyPart : Reader String := do
  readSpaces
  let part ← .orElse (Reader.word isBareKeyOctet) (.orElse readBasic readLiteral)
  readSpaces
  return part

def readKey : Reader (List String × String) := do
  let first ← readKeyPart
  let more ← Reader.many (do Reader.char '.'; readKeyPart)
  if more.length < depthLimit then
    return ((first :: more).dropLast, more.getLast?.getD first)
  else refuse

def readAssignment (value : Reader Datum) : Reader Assignment := do
  let (path, key) ← readKey
  Reader.char '='
  readSpaces
  return { path, key, value := ← value }

def readItems (item : Reader α) (gap : Reader Unit) (trailing : Bool) : Reader (List α) := do
  gap
  match ← Reader.optional item with
  | none => return []
  | some first =>
    gap
    let more ← Reader.many (do Reader.char ','; gap; let next ← item; gap; return next)
    if trailing then
      let _ ← Reader.optional (Reader.char ',')
      gap
    return first :: more

def readValue : Nat → Reader Datum
  | 0 => readPlain
  | depth + 1 =>
    .orElse readPlain (.orElse
      (do
        Reader.char '['
        let items ← readItems (readValue depth) readBreaks true
        Reader.char ']'
        return .list items)
      (do
        Reader.char '\x7b'
        let items ← readItems (readAssignment (readValue depth)) readSpaces false
        Reader.char '\x7d'
        .record <$> fieldData <$> demand (assignAll? [] items)))
where
  readPlain : Reader Datum :=
    .orElse (Datum.text <$> readString) <|
    .orElse readBoolean <|
    .orElse readReal <|
    .orElse readSpecial readInteger

inductive Statement
  | header (kind : HeaderKind) (path : List String) (key : String)
  | assignment (item : Assignment)

def readStatement : Reader Statement :=
  .orElse
    (do
      Reader.char '['
      Reader.char '['
      let (path, key) ← readKey
      Reader.char ']'
      Reader.char ']'
      return .header .element path key) <|
  .orElse
    (do
      Reader.char '['
      let (path, key) ← readKey
      Reader.char ']'
      return .header .table path key)
    (Statement.assignment <$> readAssignment (readValue depthLimit))

def readLine : Reader (Option Statement) := do
  readSpaces
  let statement ← Reader.optional readStatement
  readSpaces
  let _ ← Reader.optional readComment
  return statement

def readStatements : Reader (List Statement) := do
  let _ ← Reader.optional (do Reader.octet 0xEF; Reader.octet 0xBB; Reader.octet 0xBF)
  let first ← readLine
  let more ← Reader.many (do readNewline; readLine)
  return (first :: more).filterMap id

def partition : List Statement → List Assignment × List Part
  | [] => ([], [])
  | .assignment item :: rest => (item :: (partition rest).1, (partition rest).2)
  | .header kind path key :: rest =>
    ([], { kind, path, key, assignments := (partition rest).1 } :: (partition rest).2)

def parse? (text : String) : Option Datum :=
  match readStatements.whole (bytes text) with
  | .ok statements =>
    assemble? (partition statements).1 (partition statements).2
  | .error _ => none

end SipContainer.Toml
