import UsageMeter.Ron.Scalar

/-!
Reading a RON text into a value. Structures, whose names do not count, are
objects if their parts have names and arrays if not; an option is what it holds,
or null. Keys of a map are texts, and of equal keys the last counts.
-/
namespace UsageMeter.Ron
open UsageMeter.Json (Value)
open UsageMeter.Text (listing mark? after?)

/-- Reads a field of a structure by the reader of its value. -/
def field (read : List Char → Option (Value × List Char)) (s : List Char) : Option ((String × Value) × List Char) := do
  let (key, rest) ← identifier s
  let (v, rest) ← read (← skipGaps (← mark? skipGaps ':' rest))
  some ((key, v), rest)

/-- Reads an entry of a map by the reader of its parts. -/
def entry (read : List Char → Option (Value × List Char)) (s : List Char) : Option ((String × Value) × List Char) := do
  let (key, rest) ← read s
  match key with
  | .string key =>
    let (v, rest) ← read (← skipGaps (← mark? skipGaps ':' rest))
    some ((key, v), rest)
  | _ => none

/-- Whether the parts of a structure have names. -/
def hasNames (s : List Char) : Bool :=
  match identifier s with
  | some (_, rest) => (mark? skipGaps ':' rest).isSome
  | none => false

/-- Reads the parts of a structure, if it has any, by the reader of their values. -/
def structureParts (read : List Char → Option (Value × List Char)) (s : List Char) : Option (Value × List Char) :=
  match s with
  | '(' :: r => do
    let r ← skipGaps r
    if hasNames r then
      (listing skipGaps ')' (field read) (r.length + 1) r).map fun (fs, rest) => (.object fs, rest)
    else
      (listing skipGaps ')' read (r.length + 1) r).map fun (vs, rest) => (.array vs, rest)
  | s => some (.null, s)

/-- Reads the value of an option by the reader of values. -/
def optionPart (read : List Char → Option (Value × List Char)) (s : List Char) : Option (Value × List Char) := do
  let r ← mark? skipGaps '(' s
  let (v, rest) ← read (← skipGaps r)
  match ← skipGaps rest with
  | ',' :: r => (mark? skipGaps ')' r).map fun rest => (v, rest)
  | r => (mark? skipGaps ')' r).map fun rest => (v, rest)

/-- The words that are values. -/
def word? (s : List Char) : Option (Value × List Char) :=
  match s with
  | '(' :: ')' :: r => some (.null, r)
  | s =>
    let word (ident : String) (v : Value) : Option (Value × List Char) :=
      (afterIdent? ident s).map fun rest => (v, rest)
    (word "true" (.bool true)).orElse fun _ =>
      (word "false" (.bool false)).orElse fun _ =>
        (word "None" .null).orElse fun _ =>
          (word "inf" (.float (Float.ofBits 0x7ff0000000000000))).orElse fun _ =>
            word "NaN" (.float Decimal.notANumber)

/-- Reads a value that nests at most so deep. -/
def value : Nat → List Char → Option (Value × List Char)
  | 0, _ => none
  | depth + 1, s =>
    let read := value depth
    match word? s, afterIdent? "Some" s, identifier s with
    | some found, _, _ => some found
    | none, some r, _ => optionPart read r
    | none, none, some (_, r) => (skipGaps r).bind (structureParts read)
    | none, none, none =>
      match s with
      | '(' :: _ => structureParts read s
      | '[' :: r =>
        (listing skipGaps ']' read (r.length + 1) r).map fun (vs, rest) => (.array vs, rest)
      | '\x7b' :: r =>
        (listing skipGaps '\x7d' (entry read) (r.length + 1) r).map fun (es, rest) =>
          (.object es, rest)
      | '"' :: r =>
        (stringBody (r.length + 1) r).map fun (t, rest) => (.string (String.ofList t), rest)
      | 'r' :: r => (rawString r).map fun (t, rest) => (.string (String.ofList t), rest)
      | '\'' :: r =>
        (character r).map fun (c, rest) => (.string (String.ofList [c]), rest)
      | s => number s

/-- The extensions that a text may ask for. -/
def extensions : List String :=
  ["unwrap_newtypes", "implicit_some", "unwrap_variant_newtypes"]

/-- Reads the name of an extension. -/
def extension (s : List Char) : Option (String × List Char) := do
  let (name, rest) ← identifier s
  if name ∈ extensions then some (name, rest) else none

/-- Passes over the requests for extensions that a text begins with, by steps. -/
def skipRequests : Nat → List Char → Option (List Char)
  | 0, _ => none
  | n + 1, s => do
    let s ← skipGaps s
    match s with
    | '#' :: r =>
      let r ← mark? skipGaps '[' (← mark? skipGaps '!' r)
      let r ← after? "enable".toList (← skipGaps r)
      let (_, rest) ← listing skipGaps ')' extension (r.length + 1) (← mark? skipGaps '(' r)
      skipRequests n (← mark? skipGaps ']' rest)
    | s => some s

/-- Reads a text, which holds one value. -/
def parse (s : List Char) : Option Value := do
  let (v, rest) ← value (s.length + 1) (← skipRequests (s.length + 1) s)
  if (← skipGaps rest).isEmpty then some v else none

end UsageMeter.Ron
