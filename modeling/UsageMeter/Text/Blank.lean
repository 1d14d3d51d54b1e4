/-!
Blanks, words and lines of a text. A blank is a character with the Unicode
property White_Space. `words` cuts a text at its blanks, `lines` at its line
ends, and `trim` drops the blanks at both ends. All three work on the list of
characters, by recursion on it.
-/
namespace UsageMeter.Text

/-- The characters with the Unicode property White_Space. -/
def isBlank (c : Char) : Bool :=
  let n := c.toNat
  (0x9 ≤ n && n ≤ 0xD) || n == 0x20 || n == 0x85 || n == 0xA0 || n == 0x1680 ||
    (0x2000 ≤ n && n ≤ 0x200A) || n == 0x2028 || n == 0x2029 || n == 0x202F ||
    n == 0x205F || n == 0x3000

/-- A word put in front of later words; the empty word is no word. -/
def consWord (w : List Char) (ws : List (List Char)) : List (List Char) :=
  if w.isEmpty then ws else w :: ws

/-- The run of characters before the first blank, and the words after it. -/
def cutWord : List Char → List Char × List (List Char)
  | [] => ([], [])
  | c :: r =>
    let (w, ws) := cutWord r
    if isBlank c then ([], consWord w ws) else (c :: w, ws)

/-- The longest runs of characters that are not blank, in order. -/
def words (s : List Char) : List (List Char) :=
  consWord (cutWord s).1 (cutWord s).2

/-- The lines of a text. A line ends at a line feed, which is dropped together
with one carriage return in front of it; the last line may lack its end. -/
def lines : List Char → List (List Char)
  | [] => []
  | '\r' :: '\n' :: r => [] :: lines r
  | '\n' :: r => [] :: lines r
  | c :: r =>
    match lines r with
    | [] => [[c]]
    | l :: ls => (c :: l) :: ls

/-- The text without the blanks it starts with. -/
def trimStart (s : List Char) : List Char :=
  s.dropWhile isBlank

/-- The text without the blanks it starts and ends with. -/
def trim (s : List Char) : List Char :=
  (trimStart (trimStart s).reverse).reverse

@[simp] theorem words_nil : words [] = [] := rfl

@[simp] theorem lines_nil : lines [] = [] := rfl

theorem words_cons_blank {c : Char} (h : isBlank c = true) (r : List Char) :
    words (c :: r) = words r := by
  simp [words, cutWord, h, consWord]

end UsageMeter.Text
