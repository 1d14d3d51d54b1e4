import UsageMeter.Json.Scan

/-!
Reading values of known shapes from a JSON text. A reader takes the rest of a
text; a value of another kind than the wanted one is a fault of its own, found
after as much of the value as tells its kind. Records are read from objects,
whose unknown fields are passed over, or from arrays of all fields in order.
-/
namespace UsageMeter.Json
open UsageMeter.Text (digit?)

/-- The fault of a text that begins with a value of an unwanted kind. -/
def wrongKind {α : Type} (s : List Char) : Except Fault α :=
  let after {β : Type} (r : Except Fault β) : Except Fault α :=
    match r with
    | .ok _ => .error .unfit
    | .error e => .error e
  match s with
  | [] => .error .unfinished
  | 'n' :: r => after (word "ull".toList r)
  | 't' :: r => after (word "rue".toList r)
  | 'f' :: r => after (word "alse".toList r)
  | '-' :: r => after (number true r)
  | '"' :: r => after (stringBody r)
  | '[' :: _ => .error .unfit
  | '\x7b' :: _ => .error .unfit
  | c :: r => if (digit? c).isSome then after (number false (c :: r)) else .error .malformed

/-! ## Single values -/

/-- Reads a number of any kind. -/
def anyNumber (s : List Char) : Read Number :=
  match skipGaps s with
  | [] => .error .unfinished
  | '-' :: r => number true r
  | c :: r => if (digit? c).isSome then number false (c :: r) else wrongKind (c :: r)

/-- Reads a double; integers are converted. -/
def readFloat (s : List Char) : Read Float :=
  (anyNumber s).map fun (n, rest) =>
    match n with
    | .natural n => (Float.ofNat n, rest)
    | .negative n => (-(Float.ofNat n.natAbs), rest)
    | .double x => (x, rest)

/-- Reads a natural that is at most `limit`. -/
def readNatural (limit : Nat) (s : List Char) : Read Nat :=
  match anyNumber s with
  | .error e => .error e
  | .ok (.natural n, rest) => if n ≤ limit then .ok (n, rest) else .error .unfit
  | .ok _ => .error .unfit

/-- Reads a signed integer of 64 bits. -/
def readInteger (s : List Char) : Read Int :=
  match anyNumber s with
  | .error e => .error e
  | .ok (.natural n, rest) => if n ≤ maxInt64 then .ok ((n : Int), rest) else .error .unfit
  | .ok (.negative n, rest) => .ok (n, rest)
  | .ok (.double _, _) => .error .unfit

/-- Reads a truth value. -/
def readBool (s : List Char) : Read Bool :=
  match skipGaps s with
  | [] => .error .unfinished
  | 't' :: r => (word "rue".toList r).map (true, ·)
  | 'f' :: r => (word "alse".toList r).map (false, ·)
  | r => wrongKind r

/-- Reads a text. -/
def readText (s : List Char) : Read String :=
  match skipGaps s with
  | [] => .error .unfinished
  | '"' :: r => (stringBody r).map fun (t, rest) => (String.ofList t, rest)
  | r => wrongKind r

/-- Reads nothing but `null`. -/
def readNull (s : List Char) : Except Fault (List Char) :=
  match skipGaps s with
  | [] => .error .unfinished
  | 'n' :: r => word "ull".toList r
  | r => wrongKind r

/-- Reads `null` as no value. -/
def readOptional {α : Type} (read : List Char → Read α) (s : List Char) : Read (Option α) :=
  match skipGaps s with
  | 'n' :: r => (word "ull".toList r).map (none, ·)
  | r => (read r).map fun (x, rest) => (some x, rest)

/-- Reads a text that stands for a value. -/
def readParsed {α : Type} (parse : String → Option α) (s : List Char) : Read α :=
  match readText s with
  | .error e => .error e
  | .ok (t, rest) =>
    match parse t with
    | some x => .ok (x, rest)
    | none => .error .unfit

/-- Reads a colon. -/
def colon (s : List Char) : Except Fault (List Char) :=
  match skipGaps s with
  | [] => .error .unfinished
  | ':' :: r => .ok r
  | _ => .error .malformed

/-- Reads a value given by its name: the name alone, or an object with the name
as its only key and `null` as the value. -/
def readNamed {α : Type} (ofName? : String → Option α) (s : List Char) :
    Except Fault (α × List Char) :=
  match skipGaps s with
  | [] => .error .unfinished
  | '"' :: r => readParsed ofName? ('"' :: r)
  | '\x7b' :: r => do
    let (x, r) ← readParsed ofName? r
    let r ← readNull (← colon r)
    match skipGaps r with
    | [] => .error .unfinished
    | '\x7d' :: r => .ok (x, r)
    | _ => .error .malformed
  | _ => .error .malformed

/-! ## Objects and arrays -/

/-- Goes to the next key of an object and reads it, or stays at the end. -/
def nextKey (first : Bool) (s : List Char) : Except Fault (Option String × List Char) :=
  let key (r : List Char) : Except Fault (Option String × List Char) :=
    (stringBody r).map fun (t, rest) => (some (String.ofList t), rest)
  match skipGaps s with
  | [] => .error .unfinished
  | '\x7d' :: r => .ok (none, r)
  | c :: r =>
    if first then
      if c = '"' then key r else .error .malformed
    else if c = ',' then
      match skipGaps r with
      | [] => .error .unfinished
      | '"' :: r => key r
      | _ => .error .malformed
    else .error .malformed

/-- Goes to the next element of an array, or to its end. -/
def nextElement (first : Bool) (s : List Char) : Except Fault (Bool × List Char) :=
  match skipGaps s with
  | [] => .error .unfinished
  | ']' :: r => .ok (false, ']' :: r)
  | c :: r =>
    if first then .ok (true, c :: r)
    else if c = ',' then
      match skipGaps r with
      | [] => .error .unfinished
      | ']' :: _ => .error .malformed
      | r => .ok (true, r)
    else .error .malformed

/-- Reads the end of an array. -/
def closeArray (s : List Char) : Except Fault (List Char) :=
  match skipGaps s with
  | [] => .error .unfinished
  | ']' :: r => .ok r
  | _ => .error .malformed

/-- A field of a record that is being read. -/
structure RecordField (σ : Type) where
  name : String
  /-- Whether the field has been read. -/
  present : σ → Bool
  /-- Reads the value of the field. -/
  read : σ → List Char → Read σ

/-- Reads the fields of an object, each at most once. -/
def readFields {σ : Type} (fields : List (RecordField σ)) :
    Nat → Bool → σ → List Char → Except Fault (σ × List Char)
  | 0, _, _, _ => .error .malformed
  | fuel + 1, first, state, s =>
    match nextKey first s with
    | .error e => .error e
    | .ok (none, rest) => .ok (state, rest)
    | .ok (some key, rest) =>
      match fields.find? fun f => f.name == key with
      | some f =>
        if f.present state then .error .unfit
        else do
          let (state, rest) ← f.read state (← colon rest)
          readFields fields fuel false state rest
      | none => do
        let rest ← skip (← colon rest)
        readFields fields fuel false state rest

/-- Reads the fields of a record from the elements of an array. -/
def readElements {σ : Type} :
    List (RecordField σ) → Bool → σ → List Char → Except Fault (σ × List Char)
  | [], _, state, s => .ok (state, s)
  | f :: fs, first, state, s => do
    let (more, rest) ← nextElement first s
    if more then do
      let (state, rest) ← f.read state rest
      readElements fs false state rest
    else .error .unfit

/-- Reads a record; `finish` says what is made of its fields, if they suffice. -/
def readRecord {σ α : Type} (fields : List (RecordField σ)) (start : σ) (finish : σ → Option α)
    (s : List Char) : Except Fault (α × List Char) :=
  let made (state : σ) : Except Fault α :=
    match finish state with
    | some x => .ok x
    | none => .error .unfit
  match skipGaps s with
  | [] => .error .unfinished
  | '[' :: r => do
    let (state, rest) ← readElements fields true start r
    let x ← made state
    let rest ← closeArray rest
    .ok (x, rest)
  | '\x7b' :: r => do
    let (state, rest) ← readFields fields (r.length + 1) true start r
    let x ← made state
    .ok (x, rest)
  | r => wrongKind r

/-- A value under a key: in the place of an earlier one, or after all others. -/
def insertField {α : Type} (key : String) (x : α) : List (String × α) → List (String × α)
  | [] => [(key, x)]
  | (k, y) :: rest => if k = key then (key, x) :: rest else (k, y) :: insertField key x rest

/-- Reads the entries of an object whose keys are free. -/
def readEntries {α : Type} (read : List Char → Read α) :
    Nat → Bool → List (String × α) → List Char →
      Except Fault (List (String × α) × List Char)
  | 0, _, _, _ => .error .malformed
  | fuel + 1, first, entries, s =>
    match nextKey first s with
    | .error e => .error e
    | .ok (none, rest) => .ok (entries, rest)
    | .ok (some key, rest) => do
      let (x, rest) ← read (← colon rest)
      readEntries read fuel false (insertField key x entries) rest

/-- Reads an object whose keys are free; of equal keys the last counts. -/
def readMap {α : Type} (read : List Char → Read α) (s : List Char) : Read (List (String × α)) :=
  match skipGaps s with
  | [] => .error .unfinished
  | '\x7b' :: r => readEntries read (r.length + 1) true [] r
  | r => wrongKind r

/-- Reads a text that holds one value and nothing else. -/
def readAll {α : Type} (read : List Char → Read α) (text : String) : Except Fault α :=
  match read text.toList with
  | .error e => .error e
  | .ok (x, rest) =>
    match skipGaps rest with
    | [] => .ok x
    | _ :: _ => .error .malformed

end UsageMeter.Json
