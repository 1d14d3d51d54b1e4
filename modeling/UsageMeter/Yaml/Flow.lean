import UsageMeter.Yaml.Node
import UsageMeter.Yaml.Place

/-!
Sequences and mappings in brackets. Inside them the columns do not count, and
lines may end between any two tokens.
-/
namespace UsageMeter.Yaml

/-- The next token. -/
def nextToken (s : List Char) : List Char :=
  (toToken false 0 s).rest

/-- Whether no node begins here, but a mark behind one. -/
def endsFlowNode (s : List Char) : Bool :=
  match s with
  | [] => true
  | ':' :: r => endsKey true r
  | c :: _ => c == ',' || c == ']' || c == '\x7d'

mutual

/-- Reads a node in brackets or among them. -/
def flowNode (fuel : Nat) (s : List Char) : Option (Node × List Char) :=
  match fuel with
  | 0 => none
  | fuel + 1 =>
    match nextToken s with
    | '*' :: r => (name? r).map fun (name, rest) => (.reference name, rest)
    | s =>
      match takeProperties s with
      | none => none
      | some (p, rest) => flowContent fuel p (nextToken rest)

/-- Reads what stands behind the properties of a node. -/
def flowContent (fuel : Nat) (p : Properties) (s : List Char) : Option (Node × List Char) :=
  match fuel with
  | 0 => none
  | fuel + 1 =>
    if endsFlowNode s then some (p.empty, s)
    else
      match s with
      | '[' :: r => (flowItems fuel r).map fun (ns, rest) => (p.attach (.sequence ns), rest)
      | '\x7b' :: r => (flowEntries fuel r).map fun (es, rest) => (p.attach (.mapping es), rest)
      | s =>
        match quoted? s with
        | some read =>
          read.map fun (t, rest) => (p.attach (.value (.string (String.ofList t))), rest)
        | none =>
          if beginsPlain s then
            let (t, rest) := plainLines true 0 (s.length + 1) s
            (p.plain? t).map fun n => (n, rest)
          else none

/-- Reads an entry of a mapping, of which the key alone may stand there; the flag
tells whether there is a colon. -/
def flowEntry (fuel : Nat) (s : List Char) : Option (Node × Option Node × List Char) :=
  match fuel with
  | 0 => none
  | fuel + 1 =>
    let s :=
      match nextToken s with
      | '?' :: r => if endsWord r then r else '?' :: r
      | s => s
    match flowNode fuel s with
    | none => none
    | some (k, rest) =>
      match nextToken rest with
      | ':' :: r => (flowNode fuel r).map fun (n, rest) => (k, some n, rest)
      | rest => some (k, none, rest)

/-- Reads the nodes of a sequence in brackets up to its end. -/
def flowItems (fuel : Nat) (s : List Char) : Option (List Node × List Char) :=
  match fuel with
  | 0 => none
  | fuel + 1 =>
    match nextToken s with
    | ']' :: r => some ([], r)
    | ',' :: _ => none
    | s =>
      match flowEntry fuel s with
      | none => none
      | some (k, found, rest) =>
        let item : Node :=
          match found with
          | some n => .mapping [(k, n)]
          | none => k
        match nextToken rest with
        | ',' :: r => (flowItems fuel r).map fun (ns, rest) => (item :: ns, rest)
        | ']' :: r => some ([item], r)
        | _ => none

/-- Reads the entries of a mapping in brackets up to its end. -/
def flowEntries (fuel : Nat) (s : List Char) : Option (List (Node × Node) × List Char) :=
  match fuel with
  | 0 => none
  | fuel + 1 =>
    match nextToken s with
    | '\x7d' :: r => some ([], r)
    | ',' :: _ => none
    | s =>
      match flowEntry fuel s with
      | none => none
      | some (k, found, rest) =>
        let item := (k, found.getD (.value .null))
        match nextToken rest with
        | ',' :: r => (flowEntries fuel r).map fun (es, rest) => (item :: es, rest)
        | '\x7d' :: r => some ([item], r)
        | _ => none

end

/-- Reads a sequence or a mapping in brackets. -/
def flow (p : Properties) (s : List Char) : Option (Node × List Char) :=
  flowContent (4 * s.length + 4) p s

end UsageMeter.Yaml
