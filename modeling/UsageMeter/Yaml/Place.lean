import UsageMeter.Yaml.Scalar

/-!
Places in a YAML text: what stands there and at which column, and the steps
from one token to the next.
-/
namespace UsageMeter.Yaml

/-- A place in a text. -/
structure Place where
  column : Nat
  rest : List Char

/-- Goes on over blanks, comments and line ends; the flag tells whether a comment
has begun. -/
def toToken : Bool → Nat → List Char → Place
  | _, column, [] => ⟨column, []⟩
  | _, _, '\r' :: '\n' :: r => toToken false 0 r
  | _, _, '\n' :: r => toToken false 0 r
  | true, column, _ :: r => toToken true (column + 1) r
  | false, column, c :: r =>
    if c = ' ' then toToken false (column + 1) r
    else if c = '#' then toToken true (column + 1) r
    else ⟨column, c :: r⟩

namespace Place

/-- Goes on over blanks within a line. -/
def skipBlanks (p : Place) : Place :=
  ⟨p.column + (p.rest.takeWhile isBlank).length, p.rest.dropWhile isBlank⟩

/-- Goes on over spaces, but not over tabs. -/
def skipSpaces (p : Place) : Place :=
  ⟨p.column + (p.rest.takeWhile (· == ' ')).length, p.rest.dropWhile (· == ' ')⟩

/-- The place of a later part of the line. -/
def goTo (p : Place) (rest : List Char) : Place :=
  ⟨p.column + (p.rest.length - rest.length), rest⟩

/-- Whether nothing but a comment follows in the line. -/
def lineEnds (p : Place) : Bool :=
  match p.rest with
  | [] => true
  | c :: _ => isBreak c || c == '#'

/-- Whether a document ends here. -/
def ended (p : Place) : Bool :=
  p.rest.isEmpty || (p.column == 0 && isDocumentMark p.rest)

/-- Whether an entry of a sequence begins here. -/
def atDash (p : Place) : Bool :=
  match p.rest with
  | '-' :: r => endsWord r
  | _ => false

/-- Whether a key begins here that may be any node. -/
def atKeyMark (p : Place) : Bool :=
  match p.rest with
  | '?' :: r => endsWord r
  | _ => false

/-- Whether the value of an entry begins here. -/
def atColon (p : Place) : Bool :=
  match p.rest with
  | ':' :: r => endsWord r
  | _ => false

end Place

/-- The next token after a value, which must be in a later line. -/
def endLine (rest : List Char) : Option Place :=
  let p := Place.skipBlanks ⟨1, rest⟩
  if p.lineEnds then some (toToken false p.column p.rest) else none

end UsageMeter.Yaml
