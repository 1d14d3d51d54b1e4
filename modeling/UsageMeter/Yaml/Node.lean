import UsageMeter.Json.Record
import UsageMeter.Yaml.Scalar

/-!
The nodes of a YAML text. A node may have a name, under which later nodes refer
to its value, and a tag, which says what its plain scalar stands for. Names are
looked up by `Node.resolve`, in the order of the text.
-/
namespace UsageMeter.Yaml
open UsageMeter.Json (Value insertField)

/-- What a tag says about a plain scalar. -/
inductive Tag where
  | bool
  | int
  | float
  | null
  /-- It is a text. -/
  | text
deriving DecidableEq, Repr

/-- The value of a plain scalar under a tag; one that does not suit the tag is
null. -/
def Tag.value? (t : Tag) (s : List Char) : Option Value :=
  match t with
  | .bool => some (((boolean? s).map Value.bool).getD .null)
  | .int => some ((((UsageMeter.Text.int64? s).toOption).map Value.integer).getD .null)
  | .float => if isSpecialWord s then none else some (((Decimal.float? s).map Value.float).getD .null)
  | .null => some .null
  | .text => some (.string (String.ofList s))

/-- The name and the tag of a node. -/
structure Properties where
  name : Option String
  tag : Option Tag
deriving DecidableEq, Repr

/-- A node. -/
inductive Node where
  | value (v : Value)
  | sequence (items : List Node)
  | mapping (entries : List (Node × Node))
  /-- A node with a name. -/
  | named (name : String) (node : Node)
  /-- The value of the node of that name. -/
  | reference (name : String)

/-- A node with its name, if it has one. -/
def Properties.attach (p : Properties) (n : Node) : Node :=
  match p.name with
  | some name => .named name n
  | none => n

/-- The value of a plain scalar with these properties. -/
def Properties.plain? (p : Properties) (s : List Char) : Option Node :=
  (match p.tag with
    | some t => t.value? s
    | none => plainValue? s).map fun v => p.attach (.value v)

/-- The node that stands where nothing is written: null without properties, else
an empty scalar. -/
def Properties.empty (p : Properties) : Node :=
  match p with
  | ⟨none, none⟩ => .value .null
  | p => (p.plain? []).getD (.value .null)

/-! ## Values -/

/-- The text of a scalar as a key. -/
def keyOfValue? : Value → Option String
  | .string s => some s
  | .integer n => some (String.ofList (Json.integerText n))
  | .bool b => some (if b then "true" else "false")
  | .float x => some (Json.numberStyle.render x)
  | _ => none

/-- The values of names, the latest first. -/
abbrev Named := List (String × Value)

mutual

/-- The value of a node where names have values, with the names that it adds. A
node that refers to itself finds null there. -/
def Node.resolve (known : Named) : Node → Option (Value × Named)
  | .value v => some (v, known)
  | .sequence items => (resolveItems known items).map fun (vs, known) => (.array vs, known)
  | .mapping entries =>
    (resolveEntries known [] entries).map fun (es, known) => (.object es, known)
  | .named name n => (n.resolve ((name, .null) :: known)).map fun (v, known) => (v, (name, v) :: known)
  | .reference name => (known.find? fun e => e.1 == name).map fun e => (e.2, known)

/-- The values of the nodes of a sequence. -/
def resolveItems (known : Named) : List Node → Option (List Value × Named)
  | [] => some ([], known)
  | n :: rest => do
    let (v, known) ← n.resolve known
    let (vs, known) ← resolveItems known rest
    some (v :: vs, known)

/-- The entries of a mapping onto entries before them; of equal keys the last
counts. -/
def resolveEntries (known : Named) (entries : List (String × Value)) :
    List (Node × Node) → Option (List (String × Value) × Named)
  | [] => some (entries, known)
  | (k, n) :: rest => do
    let (key, known) ← k.resolve known
    let (v, known) ← n.resolve known
    resolveEntries known (insertField (← keyOfValue? key) v entries) rest

end

/-! ## Reading properties -/

/-- The characters of names. -/
def isNameChar (c : Char) : Bool :=
  c.isAlphanum || c == '_' || c == '-'

/-- Reads a name after its mark; what follows has to end it. -/
def name? (s : List Char) : Option (String × List Char) :=
  let name := s.takeWhile isNameChar
  let rest := s.dropWhile isNameChar
  let ended :=
    match rest with
    | [] => true
    | c :: _ => isBlank c || isBreak c || c ∈ ['?', ':', ',', ']', '\x7d', '%', '@', Char.ofNat 96]
  if name.isEmpty || !ended then none else some (String.ofList name, rest)

/-- The tag of the text behind the mark of a tag. -/
def tagOf (s : List Char) : Tag :=
  match String.ofList s with
  | "!bool" => .bool
  | "!int" => .int
  | "!float" => .float
  | "!null" => .null
  | _ => .text

/-- Whether a character may stand in a tag. -/
def isTagChar (c : Char) : Bool :=
  c.isAlphanum || c ∈ "-_;/?:@&=+$.!~*'()[]%,<>#".toList

/-- Reads a tag after its mark, up to the blank or line end behind it. -/
def tag? (s : List Char) : Option (Tag × List Char) :=
  let t := s.takeWhile isTagChar
  let rest := s.dropWhile isTagChar
  if endsWord rest then some (tagOf t, rest) else none

/-- Reads the properties in front of a node, in any order and each at most once;
blanks after them are passed over. -/
def properties? : Nat → Properties → List Char → Option (Properties × List Char)
  | 0, p, s => some (p, s)
  | n + 1, p, s =>
    match s with
    | '&' :: r =>
      if p.name.isSome then none
      else do
        let (name, rest) ← name? r
        properties? n { p with name := some name } (rest.dropWhile isBlank)
    | '!' :: r =>
      if p.tag.isSome then none
      else do
        let (tag, rest) ← tag? r
        properties? n { p with tag := some tag } (rest.dropWhile isBlank)
    | s => some (p, s)

/-- The properties in front of a node, with the rest of the text. -/
def takeProperties (s : List Char) : Option (Properties × List Char) :=
  properties? 3 ⟨none, none⟩ s

end UsageMeter.Yaml
