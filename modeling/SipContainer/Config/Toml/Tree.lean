import SipContainer.Datum
/-!
The tree of tables that a configuration file describes. A table comes into being in one of three
ways, and each allows different additions later: a table with a header of its own is never headed
again, a table implied by the header of a table below it can still be headed, and a table made by
a dotted key grows by further dotted keys of the same section only.
-/

namespace SipContainer.Toml

inductive TableKind
  | headed
  | implied
  | dotted
deriving DecidableEq

/-- What a key stands for. An array of tables holds the fields of each; all of them are headed. -/
inductive Node
  | value (datum : Datum)
  | table (kind : TableKind) (fields : List (String × Node))
  | tables (items : List (List (String × Node)))

abbrev Fields : Type := List (String × Node)

namespace Fields

def find? (fields : Fields) (key : String) : Option Node :=
  (List.find? (fun field => field.1 == key) fields).map Prod.snd

def put (fields : Fields) (key : String) (node : Node) : Fields :=
  List.filter (fun field => field.1 != key) fields ++ [(key, node)]

def putNew? (fields : Fields) (key : String) (value : Datum) : Option Fields :=
  match fields.find? key with
  | none => some (fields.put key (.value value))
  | some _ => none

/-- A value at the end of a dotted path of two or more keys. The last table on the way has to be a
dotted one, and no table on the way may have a header. -/
def assignBelow? (fields : Fields) (first : String) : List String → String → Datum → Option Fields
  | path, key, value =>
    let finish (kind : TableKind) (inner : Fields) : Option Fields :=
      match path with
      | [] => if kind = .dotted then inner.putNew? key value else none
      | next :: rest => assignBelow? inner next rest key value
    match fields.find? first with
    | none => (finish .dotted []).map (fun inner => fields.put first (.table .dotted inner))
    | some (.table .headed _) => none
    | some (.table kind inner) =>
      (finish kind inner).map (fun inner => fields.put first (.table kind inner))
    | some (.tables items) =>
      match items.getLast? with
      | some inner =>
        (finish .headed inner).map (fun inner =>
          fields.put first (.tables (items.dropLast ++ [inner])))
      | none => none
    | some (.value _) => none

def assign? (fields : Fields) (path : List String) (key : String) (value : Datum) :
    Option Fields :=
  match path with
  | [] => fields.putNew? key value
  | first :: rest => fields.assignBelow? first rest key value

/-- Changes what stands at the end of the path of a header. Tables missing on the way are implied,
and an array of tables is entered at its last one. -/
def change? (fields : Fields) (path : List String) (key : String)
    (change : Option Node → Option Node) : Option Fields :=
  match path with
  | [] => (change (fields.find? key)).map (fields.put key)
  | first :: rest =>
    match fields.find? first with
    | none =>
      (change? [] rest key change).map (fun inner => fields.put first (.table .implied inner))
    | some (.table kind inner) =>
      (change? inner rest key change).map (fun inner => fields.put first (.table kind inner))
    | some (.tables items) =>
      match items.getLast? with
      | some inner =>
        (change? inner rest key change).map (fun inner =>
          fields.put first (.tables (items.dropLast ++ [inner])))
      | none => none
    | some (.value _) => none

end Fields

mutual

def Node.toDatum : Node → Datum
  | .value datum => datum
  | .table _ fields => .record (fieldData fields)
  | .tables items => .list (tableData items)

def fieldData : List (String × Node) → List (String × Datum)
  | [] => []
  | (key, node) :: rest => (key, node.toDatum) :: fieldData rest

def tableData : List (List (String × Node)) → List Datum
  | [] => []
  | fields :: rest => .record (fieldData fields) :: tableData rest

end

structure Assignment where
  path : List String
  key : String
  value : Datum

def assignAll? (fields : Fields) (assignments : List Assignment) : Option Fields :=
  assignments.foldlM (fun fields item => fields.assign? item.path item.key item.value) fields

inductive HeaderKind
  | table
  | element
deriving DecidableEq

structure Part where
  kind : HeaderKind
  path : List String
  key : String
  assignments : List Assignment

def Part.node? (part : Part) (before : Option Node) : Option Node :=
  match part.kind, before with
  | .table, none => (assignAll? [] part.assignments).map (.table .headed)
  | .table, some (.table .implied fields) =>
    (assignAll? fields part.assignments).map (.table .headed)
  | .element, none => (assignAll? [] part.assignments).map (fun fields => .tables [fields])
  | .element, some (.tables items) =>
    (assignAll? [] part.assignments).map (fun fields => .tables (items ++ [fields]))
  | _, _ => none

def assemble? (top : List Assignment) (parts : List Part) : Option Datum := do
  let fields ← assignAll? [] top
  let all ← parts.foldlM (fun fields part => Fields.change? fields part.path part.key part.node?)
    fields
  return .record (fieldData all)

end SipContainer.Toml
