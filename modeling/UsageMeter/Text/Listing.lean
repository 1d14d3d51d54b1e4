/-!
Items with commas between them, as they stand in brackets. A comma may follow
the last item too.
-/
namespace UsageMeter.Text

/-- Reads items up to the mark `close`, by steps; `skip` passes over what may stand
between any two parts. -/
def listing {α : Type} (skip : List Char → Option (List Char)) (close : Char)
    (read : List Char → Option (α × List Char)) : Nat → List Char → Option (List α × List Char)
  | 0, _ => none
  | n + 1, s => do
    let s ← skip s
    if s.head? = some close then some ([], s.drop 1)
    else
      let (x, rest) ← read s
      match ← skip rest with
      | [] => none
      | c :: r =>
        if c = ',' then (listing skip close read n r).map fun (xs, rest) => (x :: xs, rest)
        else if c = close then some ([x], r)
        else none

/-- Reads a mark that may follow gaps. -/
def mark? (skip : List Char → Option (List Char)) (c : Char) (s : List Char) :
    Option (List Char) := do
  match ← skip s with
  | [] => none
  | d :: r => if d = c then some r else none

/-- What follows a word that a text begins with. -/
def after? (word s : List Char) : Option (List Char) :=
  if word.isPrefixOf s then some (s.drop word.length) else none

end UsageMeter.Text
