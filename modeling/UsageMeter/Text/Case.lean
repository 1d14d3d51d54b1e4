/-!
Words compared without regard to case. Letters are brought to lower case where
that is an ASCII letter, which suffices for comparing with ASCII words.
-/
namespace UsageMeter.Text

/-- The lower case of a letter, if that is ASCII. The Kelvin sign is a `k`. -/
def lowerChar (c : Char) : Char :=
  if c = '\u212a' then 'k' else c.toLower

/-- A text in lower case. -/
def lower (s : String) : String :=
  String.ofList (s.toList.map lowerChar)

end UsageMeter.Text
