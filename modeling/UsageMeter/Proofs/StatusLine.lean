import Mathlib.Logic.ExistsUnique
import UsageMeter.Kernel.ProcessStat
import UsageMeter.Proofs.Numerals
import UsageMeter.Proofs.Words

/-!
# Status lines

The name of a command is whatever its owner chose, and it stands in the status
line before the counters. It cannot pass for them: a line that is read can be cut
at parentheses around the name in one way only, and the counters are read from
what is behind. Cutting never goes out of the range of a text, whatever it is.
-/

namespace UsageMeter.Kernel
open UsageMeter.Text

/-! ## Cutting at a character -/

section
variable {c : Char} {s before after : List Char}

theorem cutFirst_eq_none_iff : cutFirst c s = none ↔ c ∉ s := by
  induction s with
  | nil => simp [cutFirst]
  | cons d s ih =>
      by_cases here : d = c
      · simp [cutFirst, here]
      · simp [cutFirst, here, ih, Ne.symm here]

theorem cutFirst_append (unopened : c ∉ before) :
    cutFirst c (before ++ c :: after) = some (before, after) := by
  induction before with
  | nil => exact if_pos rfl
  | cons d before ih =>
      rw [List.mem_cons, not_or] at unopened
      simp [cutFirst, Ne.symm unopened.1, ih unopened.2]

/-- A text is cut at the first occurrence of a character. -/
theorem cutFirst_eq_some_iff :
    cutFirst c s = some (before, after) ↔ s = before ++ c :: after ∧ c ∉ before := by
  constructor
  · intro cut
    by_cases found : c ∈ s
    · obtain ⟨front, back, rfl, unopened⟩ := List.eq_append_cons_of_mem found
      rw [cutFirst_append unopened] at cut
      cases cut
      exact ⟨rfl, unopened⟩
    · rw [cutFirst_eq_none_iff.mpr found] at cut
      cases cut
  · rintro ⟨rfl, unopened⟩
    exact cutFirst_append unopened

theorem cutLast_eq_none_iff : cutLast c s = none ↔ c ∉ s := by
  induction s with
  | nil => simp [cutLast]
  | cons d s ih =>
      rw [List.mem_cons, not_or, ← ih, cutLast]
      cases cutLast c s with
      | none => simp [eq_comm]
      | some cut => simp

theorem cutLast_append (unclosed : c ∉ after) :
    cutLast c (before ++ c :: after) = some (before, after) := by
  induction before with
  | nil => simp [cutLast, cutLast_eq_none_iff.mpr unclosed]
  | cons d before ih => simp [cutLast, ih]

/-- A text is cut at the last occurrence of a character. -/
theorem cutLast_eq_some_iff :
    cutLast c s = some (before, after) ↔ s = before ++ c :: after ∧ c ∉ after := by
  constructor
  · intro cut
    induction s generalizing before with
    | nil => cases cut
    | cons d s ih =>
        rw [cutLast] at cut
        split at cut
        · rename_i front back later
          cases cut
          obtain ⟨rfl, unclosed⟩ := ih later
          exact ⟨rfl, unclosed⟩
        · rename_i none_later
          split at cut
          · rename_i here
            cases cut
            exact ⟨by rw [here]; rfl, cutLast_eq_none_iff.mp none_later⟩
          · cases cut
  · rintro ⟨rfl, unclosed⟩
    exact cutLast_append unclosed

end

/-! ## Cutting out the name of the command -/

/-- A text cut at an opening parenthesis that is its first and a closing one that
is its last. The name between them may be anything. -/
@[ext]
structure CommandCut where
  before : List Char
  command : List Char
  after : List Char
  unopened : '(' ∉ before
  unclosed : ')' ∉ after

namespace CommandCut

/-- The text that was cut. -/
def text (cut : CommandCut) : List Char :=
  cut.before ++ '(' :: (cut.command ++ ')' :: cut.after)

/-- What a cut text tells: the name, and as ticks the twelfth and the thirteenth
word behind it. -/
structure Tells (cut : CommandCut) (stat : ProcessStat) : Prop where
  command : stat.command = String.ofList cut.command
  ticks : ∃ front user system later, Spaced cut.after (front ++ user :: system :: later) ∧
    front.length = 11 ∧ WritesNat user stat.userTicks.toNat ∧
    WritesNat system stat.systemTicks.toNat

/-- A text can be cut in one way only. -/
theorem text_injective {cut cut' : CommandCut} (h : cut.text = cut'.text) : cut = cut' := by
  have first : cutFirst '(' cut.text = cutFirst '(' cut'.text := congrArg _ h
  rw [text, text, cutFirst_append cut.unopened, cutFirst_append cut'.unopened, Option.some_inj,
    Prod.mk.injEq] at first
  have last := congrArg (cutLast ')') first.2
  rw [cutLast_append cut.unclosed, cutLast_append cut'.unclosed, Option.some_inj,
    Prod.mk.injEq] at last
  exact CommandCut.ext first.1 last.1 last.2

end CommandCut

/-! ## Reading the fields -/

theorem statField?_eq_ok_iff {tokens : List (List Char)} {field : Nat} {n : UInt64} :
    statField? tokens field = .ok n ↔
      ∃ token, tokens[field - 3]? = some token ∧ WritesNat token n.toNat := by
  unfold statField?
  cases tokens[field - 3]? with
  | none => simp
  | some token =>
      simp only [Option.some_inj, exists_eq_left', ← word64?_eq_ok_iff]
      cases word64? token <;> simp

/-- Two neighbours in a list, by what stands before and behind them. -/
theorem exists_split_iff {α : Type} {xs : List α} {n : Nat} {a b : α} :
    (∃ front later, xs = front ++ a :: b :: later ∧ front.length = n) ↔
      xs[n]? = some a ∧ xs[n + 1]? = some b := by
  constructor
  · rintro ⟨front, later, rfl, rfl⟩
    simp
  · rintro ⟨first, second⟩
    obtain ⟨inside, rfl⟩ := List.getElem?_eq_some_iff.mp first
    obtain ⟨inside', rfl⟩ := List.getElem?_eq_some_iff.mp second
    refine ⟨xs.take n, xs.drop (n + 2), ?_, by rw [List.length_take]; omega⟩
    rw [← List.drop_eq_getElem_cons inside', ← List.drop_eq_getElem_cons inside,
      List.take_append_drop]

/-- The reading of a status line whose name has been cut out. -/
def CommandCut.read? (cut : CommandCut) : Except ProcessStatError ProcessStat := do
  let userTicks ← statField? (words cut.after) 14
  let systemTicks ← statField? (words cut.after) 15
  .ok ⟨String.ofList cut.command, userTicks, systemTicks⟩

theorem CommandCut.read?_eq_ok_iff {cut : CommandCut} {stat : ProcessStat} :
    cut.read? = .ok stat ↔ cut.Tells stat := by
  simp only [CommandCut.read?, bind_eq_ok_iff, statField?_eq_ok_iff]
  constructor
  · rintro ⟨userTicks, ⟨user, atUser, writesUser⟩, systemTicks,
      ⟨system, atSystem, writesSystem⟩, told⟩
    cases told
    obtain ⟨front, later, shape, front_length⟩ := exists_split_iff.mpr ⟨atUser, atSystem⟩
    exact ⟨rfl, front, user, system, later, words_eq_iff.mp shape, front_length, writesUser,
      writesSystem⟩
  · rintro ⟨command, front, user, system, later, spaced, front_length, writesUser, writesSystem⟩
    obtain ⟨atUser, atSystem⟩ :=
      exists_split_iff.mp ⟨front, later, words_eq_iff.mpr spaced, front_length⟩
    refine ⟨stat.userTicks, ⟨user, atUser, writesUser⟩, stat.systemTicks,
      ⟨system, atSystem, writesSystem⟩, ?_⟩
    rw [← command]

/-- What the status line of a process tells: what it tells as it can be cut. -/
def StatusFile (content : String) (stat : ProcessStat) : Prop :=
  ∃ cut : CommandCut, cut.text = content.toList ∧ cut.Tells stat

namespace ProcessStat

theorem read?_text (cut : CommandCut) : read? (String.ofList cut.text) = cut.read? := by
  rw [read?, String.toList_ofList, CommandCut.text, cutFirst_append cut.unopened]
  simp only [cutLast_append cut.unclosed]
  rfl

/-- A text that is read has been cut. -/
theorem exists_cut_of_read? {content : String} {stat : ProcessStat}
    (h : read? content = .ok stat) : ∃ cut : CommandCut, cut.text = content.toList := by
  unfold read? at h
  split at h
  · cases h
  · rename_i before rest opened
    split at h
    · cases h
    · rename_i command after closed
      obtain ⟨front, unopened⟩ := cutFirst_eq_some_iff.mp opened
      obtain ⟨back, unclosed⟩ := cutLast_eq_some_iff.mp closed
      exact ⟨⟨before, command, after, unopened, unclosed⟩, by rw [front, back]; rfl⟩

theorem read?_eq_ok_iff {content : String} {stat : ProcessStat} :
    read? content = .ok stat ↔ StatusFile content stat := by
  constructor
  · intro h
    obtain ⟨cut, text⟩ := exists_cut_of_read? h
    refine ⟨cut, text, CommandCut.read?_eq_ok_iff.mp ?_⟩
    rw [← read?_text, text, String.ofList_toList, h]
  · rintro ⟨cut, text, tells⟩
    have told := CommandCut.read?_eq_ok_iff.mpr tells
    rwa [← read?_text, text, String.ofList_toList] at told

end ProcessStat

/-! ## Offsets into the bytes -/

/-- The number of bytes that a text takes. -/
def byteLength : List Char → Nat
  | [] => 0
  | c :: r => c.utf8Size + byteLength r

/-- The offset of the first occurrence of a character. -/
def firstOffset? (c : Char) : List Char → Option Nat
  | [] => none
  | d :: r => if d = c then some 0 else (firstOffset? c r).map (d.utf8Size + ·)

/-- The offset of the last occurrence of a character. -/
def lastOffset? (c : Char) : List Char → Option Nat
  | [] => none
  | d :: r =>
    match lastOffset? c r with
    | some n => some (d.utf8Size + n)
    | none => if d = c then some 0 else none

/-- The text before an offset and the text after it. There is none if the offset is
out of range or inside a character. -/
def cutAt? : Nat → List Char → Option (List Char × List Char)
  | 0, s => some ([], s)
  | _ + 1, [] => none
  | n + 1, c :: r =>
    if c.utf8Size ≤ n + 1 then
      (cutAt? (n + 1 - c.utf8Size) r).map fun (before, after) => (c :: before, after)
    else none

/-- The text between two offsets, if they are in range and in order. -/
def slice? (s : List Char) (start stop : Nat) : Option (List Char) :=
  if start ≤ stop then do
    let (front, _) ← cutAt? stop s
    let (_, middle) ← cutAt? start front
    some middle
  else none

/-- Reads a status line by offsets into its bytes. There is nothing if one of them is
out of range. -/
def ProcessStat.readAt? (content : String) : Option (Except ProcessStatError ProcessStat) :=
  let s := content.toList
  match firstOffset? '(' s, lastOffset? ')' s with
  | none, _ => some (.error .openMissing)
  | some _, none => some (.error .closeMissing)
  | some start, some stop =>
    if stop < start then some (.error .unbalanced)
    else do
      let command ← slice? s (start + 1) stop
      let (_, after) ← cutAt? (stop + 1) s
      let tokens := words after
      some do
        let userTicks ← statField? tokens 14
        let systemTicks ← statField? tokens 15
        .ok ⟨String.ofList command, userTicks, systemTicks⟩

theorem byteLength_append (s t : List Char) :
    byteLength (s ++ t) = byteLength s + byteLength t := by
  induction s with
  | nil => simp [byteLength]
  | cons c s ih => simp [byteLength, ih, Nat.add_assoc]

theorem firstOffset?_eq (c : Char) (s : List Char) :
    firstOffset? c s = (cutFirst c s).map fun cut => byteLength cut.1 := by
  induction s with
  | nil => rfl
  | cons d s ih =>
      by_cases here : d = c
      · simp [firstOffset?, cutFirst, here, byteLength]
      · simp [firstOffset?, cutFirst, here, ih, Function.comp_def, byteLength]

theorem lastOffset?_eq (c : Char) (s : List Char) :
    lastOffset? c s = (cutLast c s).map fun cut => byteLength cut.1 := by
  induction s with
  | nil => rfl
  | cons d s ih =>
      rw [lastOffset?, cutLast, ih]
      cases cutLast c s with
      | some cut => simp [byteLength]
      | none => by_cases here : d = c <;> simp [here, byteLength]

/-- Where a part of a text ends, the text can be cut. -/
theorem cutAt?_append (before after : List Char) :
    cutAt? (byteLength before) (before ++ after) = some (before, after) := by
  induction before with
  | nil => rw [byteLength, cutAt?]; rfl
  | cons c before ih =>
      have positive : 0 < c.utf8Size := c.utf8Size_pos
      obtain ⟨n, size⟩ : ∃ n, byteLength (c :: before) = n + 1 :=
        ⟨c.utf8Size - 1 + byteLength before, by rw [byteLength]; omega⟩
      have enough : c.utf8Size ≤ n + 1 := by rw [← size, byteLength]; omega
      have left : n + 1 - c.utf8Size = byteLength before := by rw [← size, byteLength]; omega
      rw [size, List.cons_append, cutAt?, if_pos enough, left, ih]
      rfl

theorem slice?_append (front middle back : List Char) :
    slice? (front ++ middle ++ back) (byteLength front) (byteLength (front ++ middle)) =
      some middle := by
  have ordered : byteLength front ≤ byteLength (front ++ middle) := by
    rw [byteLength_append]; omega
  rw [slice?, if_pos ordered, cutAt?_append]
  simp [cutAt?_append]

namespace ProcessStat

theorem readAt?_text (cut : CommandCut) : readAt? (String.ofList cut.text) = some cut.read? := by
  obtain ⟨before, command, after, unopened, unclosed⟩ := cut
  -- the text as each of the four cuts sees it
  have opening : before ++ '(' :: (command ++ ')' :: after) =
      (before ++ ['(']) ++ command ++ (')' :: after) := by simp
  have closing : before ++ '(' :: (command ++ ')' :: after) =
      (before ++ ['('] ++ command) ++ ')' :: after := by simp
  have behind : before ++ '(' :: (command ++ ')' :: after) =
      (before ++ ['('] ++ command ++ [')']) ++ after := by simp
  have start : firstOffset? '(' (before ++ '(' :: (command ++ ')' :: after)) =
      some (byteLength before) := by
    rw [firstOffset?_eq, cutFirst_append unopened]
    rfl
  have stop : lastOffset? ')' (before ++ '(' :: (command ++ ')' :: after)) =
      some (byteLength (before ++ ['('] ++ command)) := by
    rw [closing, lastOffset?_eq, cutLast_append unclosed]
    rfl
  have past_start : byteLength before + 1 = byteLength (before ++ ['(']) := by
    rw [byteLength_append]
    rfl
  have past_stop : byteLength (before ++ ['('] ++ command) + 1 =
      byteLength (before ++ ['('] ++ command ++ [')']) := by
    rw [byteLength_append _ [')']]
    rfl
  have ordered : ¬ byteLength (before ++ ['('] ++ command) < byteLength before := by
    rw [byteLength_append, byteLength_append]
    omega
  have sliced : slice? (before ++ '(' :: (command ++ ')' :: after)) (byteLength before + 1)
      (byteLength (before ++ ['('] ++ command)) = some command := by
    rw [opening, past_start, slice?_append]
  have rest : cutAt? (byteLength (before ++ ['('] ++ command) + 1)
      (before ++ '(' :: (command ++ ')' :: after)) =
        some (before ++ ['('] ++ command ++ [')'], after) := by
    rw [past_stop, behind, cutAt?_append]
  rw [readAt?, String.toList_ofList, CommandCut.text]
  simp only [start, stop, if_neg ordered, sliced, rest]
  rfl

/-- Where no closing parenthesis follows, it is missing or comes too early. -/
theorem readAt?_of_unclosed {before rest : List Char} (unopened : '(' ∉ before)
    (unclosed : ')' ∉ rest) :
    readAt? (String.ofList (before ++ '(' :: rest)) =
      some (.error (if ')' ∈ before then .unbalanced else .closeMissing)) := by
  have behind : ')' ∉ '(' :: rest := by simpa using unclosed
  rw [readAt?, String.toList_ofList]
  simp only [firstOffset?_eq, lastOffset?_eq, cutFirst_append unopened]
  cases early : cutLast ')' before with
  | none =>
      have absent : ')' ∉ before := cutLast_eq_none_iff.mp early
      have missing : cutLast ')' (before ++ '(' :: rest) = none := by
        rw [cutLast_eq_none_iff, List.mem_append, not_or]
        exact ⟨absent, behind⟩
      simp [missing, absent]
  | some cut =>
      obtain ⟨left, right⟩ := cut
      obtain ⟨shape, later⟩ := cutLast_eq_some_iff.mp early
      have last : cutLast ')' (before ++ '(' :: rest) = some (left, right ++ '(' :: rest) := by
        rw [shape, List.append_assoc, List.cons_append]
        refine cutLast_append ?_
        rw [List.mem_append, not_or]
        exact ⟨later, behind⟩
      have too_early : byteLength left < byteLength before := by
        have size := Char.utf8Size_pos ')'
        rw [shape, byteLength_append, byteLength]
        omega
      have found : ')' ∈ before := by simp [shape]
      simp [last, too_early, found]

/-- **Offsets stay in range**: reading by them gives what reading gives, whatever
the text is. -/
theorem readAt?_eq (content : String) : readAt? content = some (read? content) := by
  cases opened : cutFirst '(' content.toList with
  | none => simp [readAt?, read?, firstOffset?_eq, opened]
  | some cut =>
      obtain ⟨before, rest⟩ := cut
      obtain ⟨front, unopened⟩ := cutFirst_eq_some_iff.mp opened
      cases closed : cutLast ')' rest with
      | none =>
          have told : read? content =
              .error (if ')' ∈ before then .unbalanced else .closeMissing) := by
            simp [read?, opened, closed]
          rw [told, ← String.ofList_toList (s := content), front]
          exact readAt?_of_unclosed unopened (cutLast_eq_none_iff.mp closed)
      | some cut =>
          obtain ⟨command, after⟩ := cut
          obtain ⟨back, unclosed⟩ := cutLast_eq_some_iff.mp closed
          let cut : CommandCut := ⟨before, command, after, unopened, unclosed⟩
          have text : cut.text = content.toList := by rw [front, back]; rfl
          rw [← String.ofList_toList (s := content), ← text, readAt?_text, read?_text]

/-- **A name cannot pass for counters.** Whatever the name of the command is, the
line reads as that name and as the numerals that are the twelfth and the thirteenth
word behind it, and it fails if they are not there. Whatever is read can be cut so,
and in one way only. Nothing makes reading go out of the range of the text. -/
theorem reads_around_any_name :
    (∀ (cut : CommandCut) (stat : ProcessStat), read? (String.ofList cut.text) = .ok stat ↔
        stat.command = String.ofList cut.command ∧
          ∃ front user system later, Spaced cut.after (front ++ user :: system :: later) ∧
            front.length = 11 ∧ WritesNat user stat.userTicks.toNat ∧
            WritesNat system stat.systemTicks.toNat) ∧
      (∀ content stat, read? content = .ok stat →
        ∃! cut : CommandCut, cut.text = content.toList) ∧
      ∀ content, readAt? content = some (read? content) := by
  refine ⟨?_, ?_, readAt?_eq⟩
  · intro cut stat
    rw [read?_text, CommandCut.read?_eq_ok_iff]
    exact ⟨fun h => ⟨h.command, h.ticks⟩, fun h => ⟨h.1, h.2⟩⟩
  · intro content stat h
    obtain ⟨cut, text⟩ := exists_cut_of_read? h
    exact ⟨cut, text, fun cut' text' => CommandCut.text_injective (text'.trans text.symm)⟩

end ProcessStat
end UsageMeter.Kernel
