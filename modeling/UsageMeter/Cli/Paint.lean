/-!
Colours on a terminal. A painted text stands between the code that begins its
style and the code that ends every style. Where such an end stands inside the
text, the style begins anew after it.
-/
namespace UsageMeter.Cli

/-- A style of text. -/
inductive Paint where
  | red
  | green
  | yellow
  | cyan
  | bold
  | boldGreen
  | boldYellow
deriving DecidableEq, Repr

namespace Paint

/-- The numbers of a style. -/
def code : Paint → String
  | .red => "31"
  | .green => "32"
  | .yellow => "33"
  | .cyan => "36"
  | .bold => "1"
  | .boldGreen => "1;32"
  | .boldYellow => "1;33"

/-- The code that begins a style. -/
def start (p : Paint) : List Char :=
  "\x1b[".toList ++ p.code.toList ++ ['m']

/-- The code that ends every style. -/
def stop : List Char :=
  "\x1b[0m".toList

/-- A text that begins a style anew wherever it is ended. -/
def resume (start : List Char) : List Char → List Char
  | [] => []
  | '\x1b' :: '[' :: '0' :: 'm' :: r => stop ++ start ++ resume start r
  | c :: r => c :: resume start r

/-- A text in a style, if there is colour. -/
def apply (p : Paint) (colour : Bool) (s : String) : String :=
  if colour then String.ofList (p.start ++ resume p.start s.toList ++ stop) else s

end Paint
end UsageMeter.Cli
