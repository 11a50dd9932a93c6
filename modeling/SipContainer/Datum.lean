import SipContainer.Text.Number
/-!
Structured data, as configuration files and stored keys hold it, and its compact written form: no
space, the fields of a record in the order of their names, and only quotes, backslashes and control
characters escaped.
-/

namespace SipContainer

inductive Datum
  | null
  | boolean (value : Bool)
  | integer (value : Int)
  /-- A number with a fraction or an exponent, by its spelling. -/
  | real (spelling : String)
  | text (value : String)
  | list (items : List Datum)
  | record (fields : List (String × Datum))
deriving Repr, Inhabited

namespace Datum

def text? : Datum → Option String
  | text value => some value
  | _ => none

def field? (datum : Datum) (name : String) : Option Datum :=
  match datum with
  | record fields => (fields.find? (fun field => field.1 == name)).map Prod.snd
  | _ => none

def named (datum : Datum) (name : String) : List Datum :=
  match datum with
  | record fields => (fields.filter (fun field => field.1 == name)).map Prod.snd
  | _ => []

def sole? (datum : Datum) (name : String) : Option Datum :=
  match datum.named name with
  | [value] => some value
  | _ => none

def quoteChar (char : Char) : List Char :=
  match char with
  | '"' => ['\\', '"']
  | '\\' => ['\\', '\\']
  | '\n' => ['\\', 'n']
  | '\r' => ['\\', 'r']
  | '\t' => ['\\', 't']
  | '\x08' => ['\\', 'b']
  | '\x0c' => ['\\', 'f']
  | char =>
    if char.toNat < 0x20 then ['\\', 'u', '0', '0'] ++ Text.hexOctet char.toNat.toUInt8 else [char]

def quote (text : String) : String :=
  "\"" ++ String.ofList (text.toList.flatMap quoteChar) ++ "\""

def nameLe (left right : String) : Bool :=
  !(right < left)

mutual

def render : Datum → String
  | null => "null"
  | boolean true => "true"
  | boolean false => "false"
  | integer value => toString value
  | real spelling => spelling
  | text value => quote value
  | list items => "[" ++ String.intercalate "," (renderItems items) ++ "]"
  | record fields =>
    let parts := (renderFields fields).mergeSort (fun left right => nameLe left.1 right.1)
    "\x7b" ++ String.intercalate "," (parts.map Prod.snd) ++ "\x7d"

def renderItems : List Datum → List String
  | [] => []
  | item :: rest => render item :: renderItems rest

def renderFields : List (String × Datum) → List (String × String)
  | [] => []
  | (name, value) :: rest => (name, quote name ++ ":" ++ render value) :: renderFields rest

end

end Datum

end SipContainer
