import UsageMeter.Json.Record
import UsageMeter.Json5.Scalar

/-!
Reading a JSON5 text into a value. Of equal names in an object the last counts.
-/
namespace UsageMeter.Json5
open UsageMeter.Json (Value insertField)
open UsageMeter.Text (listing mark?)

/-- Reads a field of an object by the reader of its value. -/
def field (read : List Char → Option (Value × List Char)) (s : List Char) : Option ((String × Value) × List Char) := do
  let (key, rest) ← name s
  let (v, rest) ← read (← mark? skipGaps ':' rest)
  some ((key, v), rest)

/-- Reads a value that nests at most so deep. -/
def value : Nat → List Char → Option (Value × List Char)
  | 0, _ => none
  | depth + 1, s => do
    match ← skipGaps s with
    | '[' :: r =>
      (listing skipGaps ']' (value depth) (r.length + 1) r).map fun (vs, rest) => (.array vs, rest)
    | '\x7b' :: r =>
      (listing skipGaps '\x7d' (field (value depth)) (r.length + 1) r).map fun (fs, rest) =>
        (.object (fs.foldl (fun known f => insertField f.1 f.2 known) []), rest)
    | s => scalar s

/-- Reads a text, which holds one value. -/
def parse (s : List Char) : Option Value := do
  let (v, rest) ← value (s.length + 1) s
  if (← skipGaps rest).isEmpty then some v else none

end UsageMeter.Json5
