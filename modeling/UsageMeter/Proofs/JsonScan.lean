import UsageMeter.Json.Record
import UsageMeter.Json.Value
import UsageMeter.Proofs.Numerals

/-!
# Parts of a JSON text, read back

Strings, integers and truth values are read as they were written, whatever comes behind
them, if only that does not carry a number on. `ReadsAs` says so of a reader and a
value; it is what readers of larger values are composed of.
-/

namespace UsageMeter.Json
open UsageMeter.Decimal UsageMeter.Text

/-! ## Gaps and words -/

theorem skipGaps_cons {c : Char} (solid : isGap c = false) (r : List Char) :
    skipGaps (c :: r) = c :: r :=
  List.dropWhile_cons_of_neg (by rw [solid]; exact Bool.false_ne_true)

theorem word_append (w r : List Char) : word w (w ++ r) = .ok r := by
  induction w with
  | nil => rfl
  | cons c w ih => rw [List.cons_append, word, if_pos rfl, ih]

/-! ## Strings -/

theorem hexValue?_hexDigit : ∀ n < 16, hexValue? (hexDigit n) = some n := by decide

theorem fourHex_hexDigit {n : Nat} (small : n < 32) (r : List Char) :
    fourHex ('0' :: '0' :: hexDigit (n / 16) :: hexDigit (n % 16) :: r) = .ok (n, r) := by
  have zero : hexValue? '0' = some 0 := by decide
  have value : ((0 * 16 + 0) * 16 + n / 16) * 16 + n % 16 = n := by omega
  simp only [fourHex, zero, hexValue?_hexDigit _ (show n / 16 < 16 by omega),
    hexValue?_hexDigit _ (show n % 16 < 16 by omega), value]

/-- A control character is read from its code. -/
theorem escaped_hexDigit {c : Char} (control : c.toNat < 32) (r : List Char) :
    escaped ('u' :: '0' :: '0' :: hexDigit (c.toNat / 16) :: hexDigit (c.toNat % 16) :: r) =
      .ok (c, r) := by
  have low : ¬ (0xDC00 ≤ c.toNat ∧ c.toNat ≤ 0xDFFF) := by omega
  have high : ¬ (0xD800 ≤ c.toNat ∧ c.toNat ≤ 0xDBFF) := by omega
  simp only [escaped, fourHex_hexDigit control, if_neg low, if_neg high, Char.ofNat_toNat]

theorem stringBody_escaped {c : Char} {s r : List Char} (read : escaped s = .ok (c, r)) :
    stringBody ('\\' :: s) = (stringBody r).map fun (t, after) => (c :: t, after) := by
  rw [stringBody, if_neg (by decide), if_pos rfl]
  split
  · rename_i wrong
    rw [read] at wrong
    cases wrong
  · rename_i right
    rw [read] at right
    cases right
    rfl

/-- Whatever its escape is, a character is read as itself. -/
theorem stringBody_escapeChar (c : Char) (r : List Char) :
    stringBody (escapeChar c ++ r) =
      (stringBody r).map fun (t, after) => (c :: t, after) := by
  fun_cases escapeChar c
  case case8 control =>
    exact stringBody_escaped (escaped_hexDigit control r)
  case case9 quote backslash _ _ _ _ _ shown =>
    -- what needs no escape stands for itself
    rw [List.singleton_append, stringBody, if_neg quote, if_neg backslash, if_neg shown]
  all_goals
    subst c
    exact stringBody_escaped rfl

theorem stringBody_quoted (t r : List Char) :
    stringBody (t.flatMap escapeChar ++ '"' :: r) = .ok (t, r) := by
  induction t with
  | nil => rw [List.flatMap_nil, List.nil_append, stringBody, if_pos rfl]
  | cons c t ih => rw [List.flatMap_cons, List.append_assoc, stringBody_escapeChar, ih]; rfl

/-- A quoted text begins with its quote. -/
theorem quoted_append (s : String) (r : List Char) :
    quoted s ++ r = '"' :: (s.toList.flatMap escapeChar ++ '"' :: r) := by
  simp [quoted]

/-! ## Integers -/

/-- What may come behind a value in an object, on a line, or at the end of a text. -/
def EndsValue (rest : List Char) : Prop := ∀ c ∈ rest.head?, c = ',' ∨ c = '\x7d' ∨ c = '\n'

theorem endsValue_nil : EndsValue [] := nofun

theorem endsValue_comma (r : List Char) : EndsValue (',' :: r) :=
  fun _ h => .inl (Option.mem_some.mp h).symm

theorem endsValue_brace (r : List Char) : EndsValue ('\x7d' :: r) :=
  fun _ h => .inr (.inl (Option.mem_some.mp h).symm)

theorem endsValue_newline (r : List Char) : EndsValue ('\n' :: r) :=
  fun _ h => .inr (.inr (Option.mem_some.mp h).symm)

/-- Digits whose value fits a word are all taken. -/
theorem takeSignificand_append {ds rest : List Char} (digits : ∀ c ∈ ds, c.isDigit = true)
    (ends : EndsValue rest) (acc : Nat) (fits : Nat.ofDigitChars 10 ds acc ≤ maxWord64) :
    takeSignificand acc (ds ++ rest) = (Nat.ofDigitChars 10 ds acc, ds.length, 0, rest) := by
  induction ds generalizing acc with
  | nil =>
      cases rest with
      | nil => rfl
      | cons c rest => rcases ends c rfl with rfl | rfl | rfl <;> rfl
  | cons c ds ih =>
      rw [List.forall_mem_cons] at digits
      have value : digit? c = some (c.toNat - 48) := digit?_eq_some_iff.mpr ⟨digits.1, rfl⟩
      rw [Nat.ofDigitChars_cons] at fits ⊢
      have room := Nat.le_trans (le_ofDigitChars ds _) fits
      rw [List.cons_append, takeSignificand]
      simp only [value, onto_digit, if_pos room, ih digits.2 _ fits, List.length_cons]

/-- A number that is written out is read as an integer, with its sign. -/
theorem number_natDigits (negative : Bool) {n : Nat} {rest : List Char} (fits : n ≤ maxWord64)
    (ends : EndsValue rest) :
    number negative (natDigits n ++ rest) =
      if !negative then .ok (.natural n, rest)
      else if n = 0 ∨ maxInt64 + 1 < n then .ok (.double (-(Float.ofNat n)), rest)
      else .ok (.negative (-(n : Int)), rest) := by
  have taken : takeSignificand 0 (natDigits n ++ rest) = (n, (natDigits n).length, 0, rest) := by
    have all := takeSignificand_append (digitRun_toDigits n).digits ends 0
    rw [Nat.ofDigitChars_ten_toDigits] at all
    exact all fits
  obtain ⟨c, ds, cut⟩ := List.exists_cons_of_ne_nil (digitRun_toDigits n).nonempty
  have digit : c.isDigit = true := (digitRun_toDigits n).digits c (cut ▸ List.mem_cons_self)
  have value : digit? c = some (c.toNat - 48) := digit?_eq_some_iff.mpr ⟨digit, rfl⟩
  rw [natDigits, cut, List.cons_append] at taken ⊢
  unfold number
  simp only [value, taken]
  rw [if_neg]
  · rcases rest with _ | ⟨e, rest⟩
    · rfl
    · rcases ends e rfl with rfl | rfl | rfl <;> rfl
  · -- a zero in front is alone, and no digit comes behind it
    rintro ⟨zero, more⟩
    have first : c = '0' := by
      have range : 48 ≤ c.toNat ∧ c.toNat ≤ 57 := Char.isDigit_iff_toNat.mp digit
      exact Char.toNat_inj.mp (show c.toNat = 48 by omega)
    obtain ⟨-, rfl⟩ := toDigits_eq_zero_cons (first ▸ cut)
    rcases rest with _ | ⟨e, rest⟩
    · cases more
    · rcases ends e rfl with rfl | rfl | rfl <;> cases more

/-! ## Readers of values -/

/-- A reader reads the text of a value as `x`, whatever comes behind it. -/
def ReadsAs {α : Type} (read : List Char → Read α) (v : Value) (x : α) : Prop :=
  ∀ rest, EndsValue rest → read (compactText v ++ rest) = .ok (x, rest)

/-- What is made of a value is read where the value is. -/
theorem ReadsAs.into {α β : Type} {read : List Char → Read α} {v : Value} {x : α}
    (reads : ReadsAs read v x) (f : α → β) :
    ReadsAs (fun s => (read s).map fun (y, r) => (f y, r)) v (f x) :=
  fun rest ends => congrArg (Except.map fun (y, r) => (f y, r)) (reads rest ends)

/-- A value that is all of a text is read from it. -/
theorem ReadsAs.readAll {α : Type} {read : List Char → Read α} {v : Value} {x : α}
    (reads : ReadsAs read v x) : readAll read v.compact = .ok x := by
  have text := reads [] endsValue_nil
  rw [List.append_nil] at text
  rw [Json.readAll, Value.compact, String.toList_ofList, text]
  rfl

theorem readsAs_text (s : String) : ReadsAs readText (.string s) s := by
  intro rest _
  rw [compactText, quoted_append, readText, skipGaps_cons rfl]
  simp only [stringBody_quoted, Except.map, String.ofList_toList]

theorem readsAs_bool (b : Bool) : ReadsAs readBool (.bool b) b := by
  intro rest _
  cases b with
  | true => exact congrArg (Except.map (true, ·)) (word_append "rue".toList rest)
  | false => exact congrArg (Except.map (false, ·)) (word_append "alse".toList rest)

theorem isGap_of_isDigit {c : Char} (digit : c.isDigit = true) : isGap c = false := by
  simp only [isGap, Bool.or_eq_false_iff, beq_eq_false_iff_ne]
  refine ⟨⟨⟨?_, ?_⟩, ?_⟩, ?_⟩ <;> rintro rfl <;> cases digit

theorem anyNumber_natDigits {n : Nat} {rest : List Char} (fits : n ≤ maxWord64)
    (ends : EndsValue rest) : anyNumber (natDigits n ++ rest) = .ok (.natural n, rest) := by
  have read := number_natDigits false fits ends
  obtain ⟨c, ds, cut⟩ := List.exists_cons_of_ne_nil (digitRun_toDigits n).nonempty
  have digit : c.isDigit = true := (digitRun_toDigits n).digits c (cut ▸ List.mem_cons_self)
  rw [natDigits, cut, List.cons_append] at read ⊢
  rw [anyNumber, skipGaps_cons (isGap_of_isDigit digit)]
  split
  · rename_i missing
    cases missing
  · rename_i sign
    cases sign
    cases digit
  · rename_i same
    cases same
    rw [if_pos (by simp [digit?_eq_some_iff.mpr ⟨digit, rfl⟩]), read]
    rfl

theorem anyNumber_minus {n : Nat} {rest : List Char} (positive : 0 < n) (fits : n ≤ maxInt64 + 1)
    (ends : EndsValue rest) :
    anyNumber ('-' :: (natDigits n ++ rest)) = .ok (.negative (-(n : Int)), rest) := by
  have word : n ≤ maxWord64 := by unfold maxInt64 at fits; unfold maxWord64; omega
  have inside : ¬ (n = 0 ∨ maxInt64 + 1 < n) := by omega
  rw [anyNumber, skipGaps_cons rfl]
  simp only [number_natDigits true word ends, if_neg inside]
  rfl

theorem readsAs_integer {n : Int} (lower : -(maxInt64 + 1 : Int) ≤ n) (upper : n ≤ maxInt64) :
    ReadsAs readInteger (.integer n) n := by
  intro rest ends
  rw [compactText]
  cases n with
  | ofNat n =>
      have inside : n ≤ maxInt64 := Int.ofNat_le.mp upper
      have word : n ≤ maxWord64 := by unfold maxInt64 at inside; unfold maxWord64; omega
      rw [integerText, readInteger, anyNumber_natDigits word ends]
      exact if_pos inside
  | negSucc n =>
      have inside : n + 1 ≤ maxInt64 + 1 := by omega
      rw [integerText, List.cons_append, readInteger,
        anyNumber_minus (Nat.succ_pos n) inside ends]
      rfl

/-- A value that is known by its name is read from it. -/
theorem readsAs_named {α : Type} {ofName? : String → Option α} {name : String} {x : α}
    (known : ofName? name = some x) : ReadsAs (readNamed ofName?) (.string name) x := by
  intro rest ends
  have text := readsAs_text name rest ends
  rw [compactText, quoted_append] at text ⊢
  rw [readNamed, skipGaps_cons rfl]
  simp only [readParsed, text, known]

/-- A text that may be missing is there. -/
theorem readsAs_optionalText (s : String) :
    ReadsAs (readOptional readText) (.string s) (some s) := by
  intro rest ends
  have text := readsAs_text s rest ends
  rw [compactText, quoted_append] at text ⊢
  rw [readOptional, skipGaps_cons rfl]
  show Except.map _ (readText _) = _
  rw [text]
  rfl

end UsageMeter.Json
