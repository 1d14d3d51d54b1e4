/-!
Bytes read as UTF-8. A character is a first byte and as many further ones as it
calls for, each within bounds; `Pending` is a character of which some bytes are
still owed. Bytes that begin no character are replaced, as many at a time as
could have begun one.
-/
namespace UsageMeter.Text

/-- The character that stands for bytes that are no text. -/
def replacement : Char := '\ufffd'

/-- A character that has begun. -/
structure Pending where
  /-- The bits read so far. -/
  bits : Nat
  /-- The number of bytes still owed. -/
  owed : Nat
  /-- The least byte that may come next. -/
  low : Nat
  /-- The greatest byte that may come next. -/
  high : Nat
deriving DecidableEq, Repr

/-- What a first byte of 128 or more begins. -/
def Pending.ofFirst? (b : Nat) : Option Pending :=
  if 0xC2 ≤ b ∧ b ≤ 0xDF then some ⟨b - 0xC0, 1, 0x80, 0xBF⟩
  else if b = 0xE0 then some ⟨0, 2, 0xA0, 0xBF⟩
  else if b = 0xED then some ⟨0xD, 2, 0x80, 0x9F⟩
  else if 0xE1 ≤ b ∧ b ≤ 0xEF then some ⟨b - 0xE0, 2, 0x80, 0xBF⟩
  else if b = 0xF0 then some ⟨0, 3, 0x90, 0xBF⟩
  else if 0xF1 ≤ b ∧ b ≤ 0xF3 then some ⟨b - 0xF0, 3, 0x80, 0xBF⟩
  else if b = 0xF4 then some ⟨4, 3, 0x80, 0x8F⟩
  else none

/-- Reads a byte where no character has begun. -/
def beginChar (b : Nat) : List Char × Option Pending :=
  if b < 0x80 then ([Char.ofNat b], none)
  else
    match Pending.ofFirst? b with
    | some p => ([], some p)
    | none => ([replacement], none)

/-- Reads a byte: the characters that end with it, and the one that is left open. -/
def readByte (pending : Option Pending) (b : Nat) : List Char × Option Pending :=
  match pending with
  | none => beginChar b
  | some p =>
    if p.low ≤ b ∧ b ≤ p.high then
      let bits := p.bits * 64 + (b - 0x80)
      if p.owed ≤ 1 then ([Char.ofNat bits], none)
      else ([], some ⟨bits, p.owed - 1, 0x80, 0xBF⟩)
    else
      let (cs, next) := beginChar b
      (replacement :: cs, next)

/-- The characters of bytes that come after a character has begun. -/
def decodeAfter : Option Pending → List UInt8 → List Char
  | none, [] => []
  | some _, [] => [replacement]
  | pending, b :: rest =>
    let (cs, next) := readByte pending b.toNat
    cs ++ decodeAfter next rest

/-- The characters of bytes, with bytes that are no text replaced. -/
def decode (bytes : List UInt8) : List Char :=
  decodeAfter none bytes

/-- The bytes without the mark that may stand at the start of a text. -/
def withoutMark : List UInt8 → List UInt8
  | 0xEF :: 0xBB :: 0xBF :: rest => rest
  | bytes => bytes

end UsageMeter.Text
