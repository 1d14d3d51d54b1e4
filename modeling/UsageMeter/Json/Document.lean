import UsageMeter.Json.Record
import UsageMeter.Json.Value

/-!
Reading a JSON text of any shape into a `Value`. Arrays and objects may nest
to a bounded depth; of equal keys in an object the last counts.
-/
namespace UsageMeter.Json
open UsageMeter.Text (digit?)

/-- How deep arrays and objects may nest. -/
def depthLimit : Nat := 127

/-- A number as a value. -/
def Number.toValue : Number → Value
  | .natural n => .integer n
  | .negative n => .integer n
  | .double x => .float x

mutual

/-- Reads a value that nests at most `depth` deep. -/
def readValue (fuel depth : Nat) (s : List Char) : Read Value :=
  match fuel with
  | 0 => .error .malformed
  | fuel + 1 =>
    match skipGaps s with
    | [] => .error .unfinished
    | 'n' :: r => (word "ull".toList r).map (.null, ·)
    | 't' :: r => (word "rue".toList r).map (.bool true, ·)
    | 'f' :: r => (word "alse".toList r).map (.bool false, ·)
    | '-' :: r => (number true r).map fun (n, rest) => (n.toValue, rest)
    | '"' :: r => (stringBody r).map fun (t, rest) => (.string (String.ofList t), rest)
    | '[' :: r =>
      if depth = 0 then .error .malformed
      else (arrayElements fuel (depth - 1) true r).map fun (vs, rest) => (.array vs, rest)
    | '\x7b' :: r =>
      if depth = 0 then .error .malformed
      else (objectFields fuel (depth - 1) true [] r).map fun (fs, rest) => (.object fs, rest)
    | c :: r =>
      if (digit? c).isSome then (number false (c :: r)).map fun (n, rest) => (n.toValue, rest)
      else .error .malformed

/-- Reads the elements of an array up to its end. -/
def arrayElements (fuel depth : Nat) (first : Bool) (s : List Char) :
    Except Fault (List Value × List Char) :=
  match fuel with
  | 0 => .error .malformed
  | fuel + 1 =>
    match nextElement first s with
    | .error e => .error e
    | .ok (false, rest) => .ok ([], rest.drop 1)
    | .ok (true, rest) => do
      let (v, rest) ← readValue fuel depth rest
      let (vs, rest) ← arrayElements fuel depth false rest
      .ok (v :: vs, rest)

/-- Reads the fields of an object up to its end, onto fields read before. -/
def objectFields (fuel depth : Nat) (first : Bool) (fields : List (String × Value))
    (s : List Char) : Except Fault (List (String × Value) × List Char) :=
  match fuel with
  | 0 => .error .malformed
  | fuel + 1 =>
    match nextKey first s with
    | .error e => .error e
    | .ok (none, rest) => .ok (fields, rest)
    | .ok (some key, rest) => do
      let (v, rest) ← readValue fuel depth (← colon rest)
      objectFields fuel depth false (insertField key v fields) rest

end

/-- Reads a text that holds one value. -/
def Value.parse (text : String) : Except Fault Value :=
  readAll (fun s => readValue (2 * s.length + 2) depthLimit s) text

end UsageMeter.Json
