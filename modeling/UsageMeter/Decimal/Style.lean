import UsageMeter.Decimal.Shortest

/-!
Writing doubles. A `Style` holds the decisions a format makes about numbers:
which way a tie of two shortest decimals goes, which decimal exponents are
written out positionally, whether a whole number keeps a fraction, and the
words for what is no number. `Style.render` writes a double by its shortest
digits, and `fixed` writes it with a given number of places.
-/
namespace UsageMeter.Decimal

/-- The decisions of a number format. -/
structure Style where
  /-- Which of two equally near shortest decimals is taken. -/
  tie : Tie
  /-- Whether a number whose first digit stands at this power of ten is written
  without an exponent. -/
  positional : Int → Bool
  /-- Whether a whole number is written with the fraction `.0`. -/
  wholeFraction : Bool
  /-- The word for what is no number. -/
  notANumber : String
  /-- The word for an infinity of the given sign. -/
  infinity : Bool → String

/-- The characters of a natural in decimal. -/
def natDigits (n : Nat) : List Char :=
  Nat.toDigits 10 n

/-- Digits written out with a point after the first `point` of them. -/
def positionalText (wholeFraction : Bool) (digits : List Char) (point : Int) : List Char :=
  if point ≤ 0 then
    '0' :: '.' :: (List.replicate (-point).toNat '0' ++ digits)
  else if (digits.length : Int) ≤ point then
    digits ++ List.replicate (point.toNat - digits.length) '0' ++
      (if wholeFraction then ['.', '0'] else [])
  else
    digits.take point.toNat ++ '.' :: digits.drop point.toNat

/-- Digits written with a point after the first of them and the power of ten
`exponent` with its sign. -/
def exponentText (digits : List Char) (exponent : Int) : List Char :=
  let fraction := if digits.length ≤ 1 then [] else '.' :: digits.drop 1
  let sign := if exponent < 0 then '-' else '+'
  digits.take 1 ++ fraction ++ 'e' :: sign :: natDigits exponent.natAbs

namespace Style

/-- The text of a magnitude given by its digits. -/
def magnitudeText (style : Style) (d : Digits) : List Char :=
  let digits := natDigits d.coefficient
  let point := d.exponent + digits.length
  if style.positional (point - 1) then positionalText style.wholeFraction digits point
  else exponentText digits (point - 1)

/-- The text of a double. -/
def render (style : Style) (x : Float) : String :=
  match Binary64.ofFloat x with
  | .notANumber => style.notANumber
  | .infinite negative => style.infinity negative
  | .finite negative mantissa exponent =>
    let magnitude :=
      if mantissa = 0 then style.magnitudeText ⟨0, 0⟩
      else style.magnitudeText (shortest style.tie mantissa exponent)
    String.ofList (if negative then '-' :: magnitude else magnitude)

end Style

/-- Plain numbers: never an exponent, no fraction on a whole number, and of two
equally near decimals the one further from zero. -/
def plain : Style where
  tie := .away
  positional _ := true
  wholeFraction := false
  notANumber := "NaN"
  infinity negative := if negative then "-inf" else "inf"

/-- A double with exactly `places` digits after the point, a half going to the
even neighbour. -/
def fixed (places : Nat) (x : Float) : String :=
  match Binary64.ofFloat x with
  | .notANumber => plain.notANumber
  | .infinite negative => plain.infinity negative
  | .finite negative mantissa exponent =>
    let scaled :=
      roundDiv .toEven (mantissa * tenTo places * twoTo exponent.toNat) (twoTo (-exponent).toNat)
    let whole := natDigits (scaled / tenTo places)
    let part := natDigits (scaled % tenTo places)
    let text :=
      if places = 0 then whole
      else whole ++ '.' :: (List.replicate (places - part.length) '0' ++ part)
    String.ofList (if negative then '-' :: text else text)

end UsageMeter.Decimal
