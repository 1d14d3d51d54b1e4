import UsageMeter.Json.Value

/-!
The tables of a TOML text while it is read. A table is known by how it came to
be: a header names each table once, dotted keys may add only to tables that
they or the headers of tables below have made, and a value is never added to.
-/
namespace UsageMeter.Toml
open UsageMeter.Json (Value)

/-- How a table came to be. -/
inductive Origin where
  /-- By the header of a table below it. -/
  | implied
  /-- By a dotted key. -/
  | dotted
  /-- By a header of its own. -/
  | header
deriving DecidableEq, Repr

/-- What a key stands for. -/
inductive Node where
  | value (v : Value)
  | table (origin : Origin) (entries : List (String × Node))
  /-- Tables under one key; the last one is added to. -/
  | tables (items : List (List (String × Node)))

/-- Keys and what they stand for. -/
abbrev Entries := List (String × Node)

/-- What a key stands for. -/
def find? (key : String) (es : Entries) : Option Node :=
  (es.find? fun e => e.1 == key).map Prod.snd

/-- The entries with a key set. -/
def set (key : String) (node : Node) : Entries → Entries
  | [] => [(key, node)]
  | (k, old) :: rest => if k = key then (key, node) :: rest else (k, old) :: set key node rest

/-- Changes the last of several tables. -/
def changeLast (change : Entries → Option Entries) : List Entries → Option (List Entries)
  | [] => none
  | [last] => (change last).map fun e => [e]
  | e :: rest => (changeLast change rest).map (e :: ·)

/-- Changes the table under a path of headers, which is made where it is missing. -/
def changeTable (change : Entries → Option Entries) : List String → Entries → Option Entries
  | [], es => change es
  | key :: path, es =>
    match find? key es with
    | none => (changeTable change path []).map fun sub => set key (.table .implied sub) es
    | some (.table origin sub) =>
      (changeTable change path sub).map fun sub => set key (.table origin sub) es
    | some (.tables items) =>
      (changeLast (changeTable change path) items).map fun items => set key (.tables items) es
    | some (.value _) => none

/-- Adds a value under dotted keys. -/
def addValue (v : Value) : List String → Entries → Option Entries
  | [], _ => none
  | [key], es => if (find? key es).isSome then none else some (set key (.value v) es)
  | key :: path, es =>
    match find? key es with
    | none => (addValue v path []).map fun sub => set key (.table .dotted sub) es
    | some (.table .header _) => none
    | some (.table origin sub) =>
      (addValue v path sub).map fun sub => set key (.table origin sub) es
    | some (.tables items) =>
      (changeLast (addValue v path) items).map fun items => set key (.tables items) es
    | some (.value _) => none

/-- Makes the table of a header, by its last key. -/
def openTable (key : String) (es : Entries) : Option Entries :=
  match find? key es with
  | none => some (set key (.table .header []) es)
  | some (.table .implied sub) => some (set key (.table .header sub) es)
  | _ => none

/-- Makes a further table under a key that stands for several. -/
def openItem (key : String) (es : Entries) : Option Entries :=
  match find? key es with
  | none => some (set key (.tables [[]]) es)
  | some (.tables items) => some (set key (.tables (items ++ [[]])) es)
  | _ => none

mutual

/-- What a key stands for, as a value. -/
def nodeValue : Node → Value
  | .value v => v
  | .table _ es => .object (entryValues es)
  | .tables items => .array (itemValues items)

/-- The values of entries. -/
def entryValues : List (String × Node) → List (String × Value)
  | [] => []
  | (key, node) :: rest => (key, nodeValue node) :: entryValues rest

/-- The values of several tables. -/
def itemValues : List (List (String × Node)) → List Value
  | [] => []
  | es :: rest => .object (entryValues es) :: itemValues rest

end

end UsageMeter.Toml
