import UsageMeter.Decimal.Style

/-!
JSON values and their text. Strings are escaped where the format demands it
and not elsewhere; numbers that are not finite become `null`. A value is
written on one line by `Value.compact` and with an indent of two blanks for
each level by `Value.pretty`.
-/
namespace UsageMeter.Json
open UsageMeter.Decimal

/-- A JSON value. The fields of an object keep their order. -/
inductive Value where
  | null
  | bool (b : Bool)
  | integer (n : Int)
  | float (x : Float)
  | string (s : String)
  | array (elements : List Value)
  | object (fields : List (String × Value))

/-- Numbers have a fraction or an exponent, are positional from `1e-5` to below
`1e16`, and a tie of two shortest decimals goes to the even one. -/
def numberStyle : Style where
  tie := .toEven
  positional e := -5 ≤ e && e ≤ 15
  wholeFraction := true
  notANumber := "null"
  infinity _ := "null"

/-- A hexadecimal digit. -/
def hexDigit (n : Nat) : Char :=
  if n < 10 then Char.ofNat (48 + n) else Char.ofNat (87 + n)

/-- A character inside quotes. -/
def escapeChar (c : Char) : List Char :=
  if c = '"' then ['\\', '"']
  else if c = '\\' then ['\\', '\\']
  else if c = '\n' then ['\\', 'n']
  else if c = '\r' then ['\\', 'r']
  else if c = '\t' then ['\\', 't']
  else if c = '\x08' then ['\\', 'b']
  else if c = '\x0c' then ['\\', 'f']
  else if c.toNat < 32 then
    ['\\', 'u', '0', '0', hexDigit (c.toNat / 16), hexDigit (c.toNat % 16)]
  else [c]

/-- A text in quotes. -/
def quoted (s : String) : List Char :=
  '"' :: (s.toList.flatMap escapeChar ++ ['"'])

/-- The text of an integer. -/
def integerText : Int → List Char
  | .ofNat n => natDigits n
  | .negSucc n => '-' :: natDigits (n + 1)

mutual

/-- The text of a value on one line. -/
def compactText : Value → List Char
  | .null => "null".toList
  | .bool b => (if b then "true" else "false").toList
  | .integer n => integerText n
  | .float x => (numberStyle.render x).toList
  | .string s => quoted s
  | .array elements => '[' :: (compactElements elements ++ [']'])
  | .object fields => '\x7b' :: (compactFields fields ++ ['\x7d'])

/-- Elements with commas between them. -/
def compactElements : List Value → List Char
  | [] => []
  | [v] => compactText v
  | v :: rest => compactText v ++ ',' :: compactElements rest

/-- Fields with commas between them. -/
def compactFields : List (String × Value) → List Char
  | [] => []
  | [(key, v)] => quoted key ++ ':' :: compactText v
  | (key, v) :: rest => quoted key ++ ':' :: (compactText v ++ ',' :: compactFields rest)

end

/-- A line feed and the indent of a level. -/
def indent (level : Nat) : List Char :=
  '\n' :: List.replicate (2 * level) ' '

mutual

/-- The text of a value at a level of indent. -/
def prettyText (level : Nat) : Value → List Char
  | .array [] => ['[', ']']
  | .array elements => '[' :: (prettyElements (level + 1) elements ++ indent level ++ [']'])
  | .object [] => ['\x7b', '\x7d']
  | .object fields => '\x7b' :: (prettyFields (level + 1) fields ++ indent level ++ ['\x7d'])
  | .null => "null".toList
  | .bool b => (if b then "true" else "false").toList
  | .integer n => integerText n
  | .float x => (numberStyle.render x).toList
  | .string s => quoted s

/-- Elements on lines of their own. -/
def prettyElements (level : Nat) : List Value → List Char
  | [] => []
  | [v] => indent level ++ prettyText level v
  | v :: rest => indent level ++ prettyText level v ++ ',' :: prettyElements level rest

/-- Fields on lines of their own. -/
def prettyFields (level : Nat) : List (String × Value) → List Char
  | [] => []
  | [(key, v)] => indent level ++ quoted key ++ ':' :: ' ' :: prettyText level v
  | (key, v) :: rest =>
    indent level ++ quoted key ++ ':' :: ' ' :: (prettyText level v ++ ',' ::
      prettyFields level rest)

end

namespace Value

/-- The text of a value on one line. -/
def compact (v : Value) : String := String.ofList (compactText v)

/-- The text of a value on indented lines. -/
def pretty (v : Value) : String := String.ofList (prettyText 0 v)

/-- A text, or null where there is none. -/
def ofText? : Option String → Value
  | none => .null
  | some s => .string s

/-- A field that is left out where it has no value. -/
def optional (key : String) : Option Value → List (String × Value)
  | none => []
  | some v => [(key, v)]

end Value
end UsageMeter.Json
