import UsageMeter.Decimal.Reading
import UsageMeter.Json.Value
import UsageMeter.Text.Case
import UsageMeter.Text.Numeral

/-!
Where settings come from. A `Layer` gives values to names; names are compared
in lower case, and a name with dots or subscripts sets a part of what its first
word names. Variables of the environment make a layer, and so does the table of
a file.
-/
namespace UsageMeter.Settings
open UsageMeter.Json (Value)

/-- Values by names, in the order in which they are set. -/
abbrev Layer := List (String × Value)

/-! ## Names -/

/-- The characters of the words of a name. -/
def isWordChar (c : Char) : Bool :=
  c.isAlphanum || c == '_' || c == '-' || c == ' '

/-- Whether a text is a sequence of parts: `.word` or `[number]`. -/
def isParts : Nat → List Char → Bool
  | _, [] => true
  | 0, _ => false
  | n + 1, '.' :: r =>
    !(r.takeWhile isWordChar).isEmpty && isParts n (r.dropWhile isWordChar)
  | n + 1, '[' :: r =>
    let digits :=
      match r with
      | '-' :: t => t
      | t => t
    match digits.dropWhile Char.isDigit with
    | ']' :: rest => !(digits.takeWhile Char.isDigit).isEmpty && isParts n rest
    | _ => false
  | _, _ => false

/-- The name that a name with parts belongs to; a name without parts has none. -/
def owner? (name : String) : Option String :=
  let word := name.toList.takeWhile isWordChar
  let parts := name.toList.dropWhile isWordChar
  if word.isEmpty || parts.isEmpty || !isParts parts.length parts then none
  else some (String.ofList word)

/-- A value under a name, in lower case. A part makes a collection of its owner. -/
def entry (name : String) (v : Value) : String × Value :=
  let name := Text.lower name
  match owner? name with
  | some owner => (owner, .object [])
  | none => (name, v)

/-- The value of a name by the layers, of which later ones count more. -/
def lookup (layer : Layer) (name : String) : Option Value :=
  layer.foldl (fun found e => if e.1 = name then some e.2 else found) none

/-! ## The environment -/

/-- What the names of variables begin with. -/
def variableStart : String := "usage_"

/-- The value of a variable: a truth value, an integer or a double if it reads as
one, else a text. -/
def variableValue (s : String) : Value :=
  let word := Text.lower s
  if word = "true" then .bool true
  else if word = "false" then .bool false
  else
    match Text.int64? s.toList with
    | .ok n => .integer n
    | .error _ =>
      match Decimal.float? s.toList with
      | some x => .float x
      | none => .string s

/-- The entry of a variable that is a setting. -/
def variableEntry? (name value : String) : Option (String × Value) :=
  let name := Text.lower name
  if name.startsWith variableStart then
    some (entry (String.ofList (name.toList.drop variableStart.length)) (variableValue value))
  else none

/-- The layer of an environment. -/
def Layer.ofEnvironment (environment : List (String × String)) : Layer :=
  environment.filterMap fun (name, value) => variableEntry? name value

end UsageMeter.Settings
