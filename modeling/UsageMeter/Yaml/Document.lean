import UsageMeter.Yaml.Block
import UsageMeter.Yaml.Flow

/-!
Reading a YAML text into a value. Mappings and sequences are told by the column
their entries begin at, or stand in brackets. A text without content is an
empty mapping.
-/
namespace UsageMeter.Yaml
open UsageMeter.Json (Value)

/-- Reads a key with its colon, if one stands here in one line; the place is
behind the colon. -/
def key? (p : Place) : Option (Node × Place) :=
  let after (k : Node) (rest : List Char) : Option (Node × Place) :=
    let next := rest.dropWhile isBlank
    if (p.goTo next).atColon then some (k, p.goTo (next.drop 1)) else none
  match p.rest with
  | '*' :: r => (name? r).bind fun (name, rest) => after (.reference name) rest
  | s => do
    let (props, s) ← takeProperties s
    match quoted? s with
    | some none => none
    | some (some (t, rest)) =>
      if (s.take (s.length - rest.length)).any isBreak then none
      else after (props.attach (.value (.string (String.ofList t)))) rest
    | none =>
      if (s.head?).any (fun c => c == '[' || c == '\x7b') then
        let (n, rest) ← flow props s
        if (s.take (s.length - rest.length)).any isBreak then none else after n rest
      else if beginsPlain s then
        let (t, rest) := plainLine false false s
        after (← props.plain? (trimEnd t)) rest
      else if (p.goTo s).atColon then after props.empty s
      else none

/-- Reads a scalar, a node in brackets or a reference, from behind its properties;
lines that continue a plain scalar are indented by at least `least`. -/
def inlineNode (least : Nat) (props : Properties) (s : List Char) : Option (Node × Place) :=
  match s with
  | '|' :: r => do
    let (t, rest) ← linesScalar false least r
    some (props.attach (.value (.string (String.ofList t))), toToken false 0 rest)
  | '>' :: r => do
    let (t, rest) ← linesScalar true least r
    some (props.attach (.value (.string (String.ofList t))), toToken false 0 rest)
  | '*' :: r => do
    let (name, rest) ← name? r
    if props = ⟨none, none⟩ then some (.reference name, ← endLine rest) else none
  | s =>
    if (s.head?).any isBracket then do
      let (n, rest) ← flow props s
      some (n, ← endLine rest)
    else
      match quoted? s with
      | some read => do
        let (t, rest) ← read
        some (props.attach (.value (.string (String.ofList t))), ← endLine rest)
      | none =>
        if beginsPlain s then do
          let (t, rest) := plainLines false least (s.length + 1) s
          some (← props.plain? t, ← endLine rest)
        else none

mutual

/-- Reads the node that begins at a place, behind properties of its own line. -/
def blockNode (fuel least : Nat) (props : Properties) (p : Place) : Option (Node × Place) :=
  match fuel with
  | 0 => none
  | fuel + 1 =>
    if p.atDash then
      (sequence fuel p.column p).map fun (ns, next) => (props.attach (.sequence ns), next)
    else if p.atKeyMark || (key? p).isSome then
      (mapping fuel p.column p).map fun (es, next) => (props.attach (.mapping es), next)
    else if props = ⟨none, none⟩ then entryNode fuel least false p
    else inlineNode least props p.rest

/-- Reads the node that stands behind a mark, or below it at a column of at least
`least`; `inMapping` tells whether the mark is that of a mapping, behind which no
further entry may begin in the line, while a sequence below may begin one column
before. -/
def entryNode (fuel least : Nat) (inMapping : Bool) (p : Place) : Option (Node × Place) :=
  match fuel with
  | 0 => none
  | fuel + 1 =>
    let p := if inMapping then p.skipBlanks else p.skipSpaces
    if !inMapping && (p.atDash || p.atKeyMark || (key? p).isSome) then
      blockNode fuel least ⟨none, none⟩ p
    else
      match takeProperties p.rest with
      | none => none
      | some (props, s) =>
        let p := p.goTo s
        if p.lineEnds then
          let next := toToken false p.column p.rest
          if next.ended then some (props.empty, next)
          else if least ≤ next.column then blockNode fuel least props next
          else if inMapping && next.column + 1 == least && next.atDash then
            (sequence fuel next.column next).map fun (ns, next) =>
              (props.attach (.sequence ns), next)
          else some (props.empty, next)
        else if p.atDash then none
        else inlineNode least props p.rest

/-- Reads the entries of a mapping at a column. -/
def mapping (fuel column : Nat) (p : Place) : Option (List (Node × Node) × Place) :=
  match fuel with
  | 0 => none
  | fuel + 1 =>
    match mappingEntry fuel column p with
    | none => none
    | some (entry, next) =>
      if next.ended || next.column < column then some ([entry], next)
      else if next.column == column then
        (mapping fuel column next).map fun (es, next) => (entry :: es, next)
      else none

/-- Reads an entry of a mapping at a column. -/
def mappingEntry (fuel column : Nat) (p : Place) : Option ((Node × Node) × Place) :=
  match fuel with
  | 0 => none
  | fuel + 1 =>
    if p.atKeyMark then
      match entryNode fuel (column + 1) false ⟨p.column + 1, p.rest.drop 1⟩ with
      | none => none
      | some (k, next) =>
        if next.column == column && next.atColon then
          (entryNode fuel (column + 1) false ⟨next.column + 1, next.rest.drop 1⟩).map
            fun (n, next) => ((k, n), next)
        else some ((k, .value .null), next)
    else
      match key? p with
      | none => none
      | some (k, behind) =>
        (entryNode fuel (column + 1) true behind).map fun (n, next) => ((k, n), next)

/-- Reads the entries of a sequence at a column. -/
def sequence (fuel column : Nat) (p : Place) : Option (List Node × Place) :=
  match fuel with
  | 0 => none
  | fuel + 1 =>
    match entryNode fuel (column + 1) false ⟨p.column + 1, p.rest.drop 1⟩ with
    | none => none
    | some (n, next) =>
      if next.ended || next.column < column then some ([n], next)
      else if next.column == column then
        if next.atDash then (sequence fuel column next).map fun (ns, next) => (n :: ns, next)
        else some ([n], next)
      else none

end

/-- Reads the value of a document; nothing else may follow. A document that begins
behind its mark is a single node in that line. -/
def document (behindMark : Bool) (p : Place) : Option Value :=
  match entryNode (6 * p.rest.length + 6) 0 behindMark p with
  | none => none
  | some (n, next) =>
    let value := (n.resolve []).map Prod.fst
    match next.rest with
    | [] => value
    | '.' :: r => if (toToken false 1 (r.drop 2)).rest.isEmpty then value else none
    | _ => none

/-- Goes on over the lines of directives, by steps, and tells whether there are any. -/
def skipDirectives : Nat → Bool → Place → Bool × Place
  | 0, found, p => (found, p)
  | n + 1, found, p =>
    if p.column = 0 ∧ p.rest.head? = some '%' then skipDirectives n true (toToken true 0 p.rest)
    else (found, p)

/-- Reads a text. Directives have to be followed by the mark of a document. -/
def parse (s : List Char) : Option Value :=
  let (directed, p) := skipDirectives s.length false (toToken false 0 s)
  if p.column = 0 ∧ isDocumentMark p.rest ∧ p.rest.head? = some '-' then
    document true ⟨3, p.rest.drop 3⟩
  else if directed then none
  else if p.rest.isEmpty then some (.object [])
  else document false p

end UsageMeter.Yaml
