import UsageMeter.Toml.Scalar
import UsageMeter.Toml.Table

/-!
Reading a TOML text into a value. The text is a sequence of headers and of keys
with values, each on lines of its own; a key belongs to the table of the header
before it.
-/
namespace UsageMeter.Toml
open UsageMeter.Json (Value)

mutual

/-- Reads a value. -/
def value (fuel : Nat) (s : List Char) : Option (Value × List Char) :=
  match fuel with
  | 0 => none
  | fuel + 1 =>
    match string? s with
    | some read => read.map fun (t, rest) => (.string (String.ofList t), rest)
    | none =>
      match s with
      | '[' :: r => (elements fuel r).map fun (vs, rest) => (.array vs, rest)
      | '\x7b' :: r =>
        (inlineEntries fuel true [] r).map fun (es, rest) => (.object (entryValues es), rest)
      | s => (wordValue? (cutWord s).1).map fun v => (v, (cutWord s).2)

/-- Reads the elements of an array up to its end. -/
def elements (fuel : Nat) (s : List Char) : Option (List Value × List Char) :=
  match fuel with
  | 0 => none
  | fuel + 1 =>
    match skipGaps false s with
    | none => none
    | some (']' :: r) => some ([], r)
    | some s => do
      let (v, rest) ← value fuel s
      match ← skipGaps false rest with
      | ',' :: r => (elements fuel r).map fun (vs, rest) => (v :: vs, rest)
      | ']' :: r => some ([v], r)
      | _ => none

/-- Reads the entries of a table on one line, up to its end. -/
def inlineEntries (fuel : Nat) (first : Bool) (es : Entries) (s : List Char) : Option (Entries × List Char) :=
  match fuel with
  | 0 => none
  | fuel + 1 =>
    match first, skipBlanks s with
    | true, '\x7d' :: r => some (es, r)
    | _, s => do
      let (keys, rest) ← dottedKey s.length s
      let (v, rest) ← value fuel (skipBlanks (← mark? '=' (skipBlanks rest)))
      let es ← addValue v keys es
      match skipBlanks rest with
      | ',' :: r => inlineEntries fuel false es r
      | '\x7d' :: r => some (es, r)
      | _ => none

end

/-- A text that is being read: its tables, and the path of the header that counts. -/
structure Progress where
  entries : Entries
  path : List String

/-- Reads the header of a table after its bracket. -/
def readHeader (p : Progress) (s : List Char) : Option (Progress × List Char) := do
  let (keys, rest) ← dottedKey s.length (skipBlanks s)
  let rest ← mark? ']' (skipBlanks rest)
  let entries ← changeTable (openTable (keys.getLastD "")) keys.dropLast p.entries
  some (⟨entries, keys⟩, rest)

/-- Reads the header of one of several tables after its brackets. -/
def readItemHeader (p : Progress) (s : List Char) : Option (Progress × List Char) := do
  let (keys, rest) ← dottedKey s.length (skipBlanks s)
  let rest ← mark? ']' (← mark? ']' (skipBlanks rest))
  let entries ← changeTable (openItem (keys.getLastD "")) keys.dropLast p.entries
  some (⟨entries, keys⟩, rest)

/-- Reads a key and its value. -/
def readEntry (p : Progress) (s : List Char) : Option (Progress × List Char) := do
  let (keys, rest) ← dottedKey s.length s
  let rest := skipBlanks (← mark? '=' (skipBlanks rest))
  let (v, rest) ← value (2 * rest.length + 2) rest
  let entries ← changeTable (addValue v keys) p.path p.entries
  some (⟨entries, p.path⟩, rest)

/-- Reads statements, at most so many, to the end of the text. -/
def statements : Nat → Progress → List Char → Option Entries
  | 0, _, _ => none
  | n + 1, p, s =>
    match skipGaps false s with
    | none => none
    | some [] => some p.entries
    | some s => do
      let (p, rest) ←
        match s with
        | '[' :: '[' :: r => readItemHeader p r
        | '[' :: r => readHeader p r
        | s => readEntry p s
      statements n p (← endLine rest)

/-- Reads a text. -/
def parse (s : List Char) : Option Value :=
  (statements (s.length + 1) ⟨[], []⟩ s).map fun es => .object (entryValues es)

end UsageMeter.Toml
