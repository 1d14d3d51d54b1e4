import Mathlib.Data.List.Forall2
import UsageMeter.Kernel.CpuMax
import UsageMeter.Kernel.CpuStat
import UsageMeter.Kernel.CpuTicks
import UsageMeter.Kernel.SingleValue
import UsageMeter.Proofs.Numerals
import UsageMeter.Proofs.Words

/-!
# Counter files

What the files of counters tell, said of their words and lines alone, and that
each is read exactly if it tells something: of the host's ticks only the first
line counts, of the group statistics only the first line with the key of the CPU
time, and a bandwidth or a single value is all that its file may hold.
-/

namespace UsageMeter.Kernel
open UsageMeter.Text

/-! ## Clock ticks of the host -/

/-- Tokens write words of 64 bits, one each. -/
def WriteWords : List (List Char) → List UInt64 → Prop :=
  List.Forall₂ fun token n => WritesNat token n.toNat

/-- The counters in the order of their line. -/
def CpuTicks.counters (t : CpuTicks) : List UInt64 :=
  [t.user, t.nice, t.system, t.idle, t.iowait, t.irq, t.softirq, t.steal]

/-- What a line of ticks tells: behind the word `cpu` stand seven counters and
nothing else, and no time was stolen, or eight counters and anything. -/
inductive TicksLine (line : List Char) (t : CpuTicks) : Prop where
  | seven {tokens : List (List Char)} (spaced : Spaced line ("cpu".toList :: tokens))
      (counts : WriteWords tokens (t.counters.take 7)) (unstolen : t.steal = 0)
  | eight {tokens later : List (List Char)}
      (spaced : Spaced line ("cpu".toList :: (tokens ++ later)))
      (counts : WriteWords tokens t.counters)

theorem counts?_eq_ok_iff {tokens : List (List Char)} {ns : List UInt64} :
    counts? tokens = .ok ns ↔ WriteWords tokens ns := by
  induction tokens generalizing ns with
  | nil => simp [counts?, WriteWords, eq_comm]
  | cons token rest ih =>
      cases value : word64? token with
      | error e =>
          simp [counts?, value, WriteWords, List.forall₂_cons_left_iff, ← word64?_eq_ok_iff]
      | ok n =>
          simp only [counts?, value, map_eq_ok_iff, ih, WriteWords, List.forall₂_cons_left_iff,
            ← word64?_eq_ok_iff, Except.ok.injEq]
          grind

theorem CpuTicks.ofCounts?_eq_ok_iff {ns : List UInt64} {t : CpuTicks} :
    CpuTicks.ofCounts? ns = .ok t ↔
      (ns = t.counters.take 7 ∧ t.steal = 0) ∨ ∃ later, ns = t.counters ++ later := by
  constructor
  · intro told
    unfold CpuTicks.ofCounts? at told
    split at told
    · cases told
      exact .inl ⟨rfl, rfl⟩
    · cases told
      exact .inr ⟨_, rfl⟩
    · cases told
  · rintro (⟨rfl, unstolen⟩ | ⟨later, rfl⟩)
    · obtain ⟨user, nice, system, idle, iowait, irq, softirq, steal⟩ := t
      subst unstolen
      rfl
    · rfl

/-- The ticks of the first eight tokens: those are all seven or more than eight. -/
theorem CpuTicks.ofTokens_eq_ok_iff {tokens : List (List Char)} {t : CpuTicks} :
    counts? (tokens.take 8) >>= CpuTicks.ofCounts? = .ok t ↔
      (WriteWords tokens (t.counters.take 7) ∧ t.steal = 0) ∨
        ∃ first later, tokens = first ++ later ∧ WriteWords first t.counters := by
  simp only [bind_eq_ok_iff, counts?_eq_ok_iff, CpuTicks.ofCounts?_eq_ok_iff]
  have eight : t.counters.length = 8 := rfl
  constructor
  · rintro ⟨ns, counts, told⟩
    have read := List.Forall₂.length_eq counts
    rw [List.length_take] at read
    rcases told with ⟨rfl, unstolen⟩ | ⟨later, rfl⟩
    · -- fewer than eight were read, so these are all tokens
      rw [List.length_take, eight] at read
      rw [List.take_of_length_le (by omega)] at counts
      exact .inl ⟨counts, unstolen⟩
    · have none_later : later = [] := by
        rw [← List.length_eq_zero_iff]
        rw [List.length_append, eight] at read
        omega
      rw [none_later, List.append_nil] at counts
      exact .inr ⟨_, _, (List.take_append_drop 8 tokens).symm, counts⟩
  · rintro (⟨counts, unstolen⟩ | ⟨first, later, rfl, counts⟩)
    · have read := List.Forall₂.length_eq counts
      rw [List.length_take, eight] at read
      rw [List.take_of_length_le (by omega)]
      exact ⟨_, counts, .inl ⟨rfl, unstolen⟩⟩
    · rw [List.take_left' ((List.Forall₂.length_eq counts).trans eight)]
      exact ⟨_, counts, .inr ⟨[], (List.append_nil _).symm⟩⟩

theorem CpuTicks.ofLine?_eq_ok_iff {line : List Char} {t : CpuTicks} :
    CpuTicks.ofLine? line = .ok t ↔ TicksLine line t := by
  constructor
  · intro h
    unfold CpuTicks.ofLine? at h
    split at h
    · cases h
    · rename_i key tokens cut
      split at h
      · rename_i isCpu
        subst isCpu
        have spaced := words_eq_iff.mp cut
        rcases CpuTicks.ofTokens_eq_ok_iff.mp h with
          ⟨counts, unstolen⟩ | ⟨first, later, rfl, counts⟩
        · exact .seven spaced counts unstolen
        · exact .eight spaced counts
      · cases h
  · intro tells
    cases tells with
    | seven spaced counts unstolen =>
        rw [CpuTicks.ofLine?, words_eq_iff.mpr spaced]
        exact CpuTicks.ofTokens_eq_ok_iff.mpr (.inl ⟨counts, unstolen⟩)
    | eight spaced counts =>
        rw [CpuTicks.ofLine?, words_eq_iff.mpr spaced]
        exact CpuTicks.ofTokens_eq_ok_iff.mpr (.inr ⟨_, _, rfl, counts⟩)

/-- What the statistics of the host tell: the ticks of their first line. -/
def TicksFile (content : String) (t : CpuTicks) : Prop :=
  ∃ line later, Lined content.toList (line :: later) ∧ TicksLine line t

theorem CpuTicks.read?_eq_ok_iff {content : String} {t : CpuTicks} :
    CpuTicks.read? content = .ok t ↔ TicksFile content t := by
  simp only [TicksFile, ← lines_eq_iff]
  unfold CpuTicks.read?
  cases lines content.toList with
  | nil => simp
  | cons line later => simp [CpuTicks.ofLine?_eq_ok_iff]

/-! ## CPU time of a group -/

/-- The first word of a line is the key of the CPU time. -/
def UsageLine (line : List Char) : Prop := ∃ values, Spaced line (usageKey :: values)

/-- What the statistics of a group tell: the value in the first line with the key
of the CPU time. -/
def UsageFile (content : String) (micros : UInt64) : Prop :=
  ∃ before line after, Lined content.toList (before ++ line :: after) ∧
    (∀ l ∈ before, ¬ UsageLine l) ∧
    ∃ value later, Spaced line (usageKey :: value :: later) ∧ WritesNat value micros.toNat

/-- Whether the first word of a line is the key of the CPU time. -/
def isUsageLine (line : List Char) : Bool := (words line).head? == some usageKey

/-- The lines with the key of the CPU time, in order. -/
def usageLines (content : String) : List (List Char) :=
  (lines content.toList).filter isUsageLine

theorem isUsageLine_iff {line : List Char} : isUsageLine line = true ↔ UsageLine line := by
  simp [isUsageLine, UsageLine, ← words_eq_iff, List.head?_eq_some_iff]

/-- Only the first line with the key decides. -/
theorem usageOfLines_eq (ls : List (List Char)) :
    usageOfLines (ls.map words) =
      match ls.find? isUsageLine with
      | none => .error .keyMissing
      | some line => usageValue (words line).tail := by
  induction ls with
  | nil => rfl
  | cons line ls ih =>
      rw [List.map_cons, List.find?_cons, isUsageLine]
      cases cut : words line with
      | nil => exact ih
      | cons key values =>
          by_cases isKey : key = usageKey
          · simp [usageOfLines, isKey, cut]
          · have miss : (some key == some usageKey) = false := by simpa using isKey
            simpa [usageOfLines, isKey, miss] using ih

theorem usageValue_eq_ok_iff {values : List (List Char)} {micros : UInt64} :
    usageValue values = .ok micros ↔
      ∃ value later, values = value :: later ∧ WritesNat value micros.toNat := by
  cases values with
  | nil => simp [usageValue]
  | cons value later =>
      simp only [usageValue, ← word64?_eq_ok_iff]
      cases read : word64? value <;> simp [read]

theorem cpuStatUsage_eq (content : String) :
    cpuStatUsage content =
      match (usageLines content).head? with
      | none => .error .keyMissing
      | some line => usageValue (words line).tail := by
  rw [cpuStatUsage, usageOfLines_eq, usageLines, List.head?_filter]

theorem cpuStatUsage_eq_ok_iff {content : String} {micros : UInt64} :
    cpuStatUsage content = .ok micros ↔ UsageFile content micros := by
  rw [cpuStatUsage, usageOfLines_eq]
  constructor
  · intro h
    split at h
    · cases h
    · rename_i line found
      obtain ⟨isUsage, before, after, shape, earlier⟩ := List.find?_eq_some_iff_append.mp found
      obtain ⟨value, later, values, writes⟩ := usageValue_eq_ok_iff.mp h
      obtain ⟨values', spaced⟩ := isUsageLine_iff.mp isUsage
      rw [words_eq_iff.mpr spaced, List.tail_cons] at values
      refine ⟨before, line, after, lines_eq_iff.mp shape, ?_, value, later, values ▸ spaced, writes⟩
      intro l mem
      rw [← isUsageLine_iff]
      simpa using earlier l mem
  · rintro ⟨before, line, after, lined, earlier, value, later, spaced, writes⟩
    have found : (lines content.toList).find? isUsageLine = some line := by
      rw [lines_eq_iff.mpr lined, List.find?_eq_some_iff_append]
      refine ⟨isUsageLine_iff.mpr ⟨_, spaced⟩, before, after, rfl, ?_⟩
      intro l mem
      have other := earlier l mem
      rw [← isUsageLine_iff] at other
      simpa using other
    rw [found]
    exact usageValue_eq_ok_iff.mpr ⟨value, later, by rw [words_eq_iff.mpr spaced]; rfl, writes⟩

/-! ## Bandwidth of a group -/

/-- What the word of a quota writes. -/
inductive WritesQuota (token : List Char) : Option Int → Prop where
  | unlimited (max : token = "max".toList) : WritesQuota token none
  | limited {q : Int} (writes : WritesInt token q) (lower : -(maxInt64 + 1 : Int) ≤ q)
      (upper : q ≤ maxInt64) : WritesQuota token (some q)

/-- What a bandwidth file tells: it holds a quota, or a quota and a period, and no
other word. -/
inductive BandwidthFile (content : String) : Bandwidth → Prop where
  | quota {token : List Char} {q : Option Int} (spaced : Spaced content.toList [token])
      (quota : WritesQuota token q) : BandwidthFile content ⟨q, none⟩
  | both {token token' : List Char} {q : Option Int} {p : UInt64}
      (spaced : Spaced content.toList [token, token']) (quota : WritesQuota token q)
      (period : WritesNat token' p.toNat) : BandwidthFile content ⟨q, some p⟩

theorem quota?_eq_ok_iff {token : List Char} {q : Option Int} :
    quota? token = .ok q ↔ WritesQuota token q := by
  by_cases isMax : token = "max".toList
  · rw [quota?, if_pos isMax]
    constructor
    · rintro ⟨⟩
      exact .unlimited isMax
    · intro writes
      cases writes with
      | unlimited max => rfl
      | limited writes lower upper =>
          have word : int64? "max".toList = .error .badDigit := by decide
          rw [← isMax, int64?_eq_ok_iff.mpr ⟨writes, lower, upper⟩] at word
          cases word
  · rw [quota?, if_neg isMax]
    constructor
    · intro h
      split at h
      · rename_i n read
        cases h
        obtain ⟨writes, lower, upper⟩ := int64?_eq_ok_iff.mp read
        exact .limited writes lower upper
      · cases h
    · intro writes
      cases writes with
      | unlimited max => exact absurd max isMax
      | limited writes lower upper => rw [int64?_eq_ok_iff.mpr ⟨writes, lower, upper⟩]

theorem period?_eq_ok_iff {token : List Char} {p : UInt64} :
    period? token = .ok p ↔ WritesNat token p.toNat := by
  rw [period?, ← word64?_eq_ok_iff]
  cases word64? token <;> simp

theorem cpuMax_eq_ok_iff {content : String} {limit : Bandwidth} :
    cpuMax content = .ok limit ↔ BandwidthFile content limit := by
  constructor
  · intro h
    unfold cpuMax at h
    split at h
    · rename_i token cut
      obtain ⟨q, quota, rfl⟩ := map_eq_ok_iff.mp h
      exact .quota (words_eq_iff.mp cut) (quota?_eq_ok_iff.mp quota)
    · rename_i token token' cut
      obtain ⟨q, quota, h⟩ := bind_eq_ok_iff.mp h
      obtain ⟨p, period, h⟩ := bind_eq_ok_iff.mp h
      cases h
      exact .both (words_eq_iff.mp cut) (quota?_eq_ok_iff.mp quota) (period?_eq_ok_iff.mp period)
    · cases h
  · intro tells
    cases tells with
    | quota spaced quota =>
        rw [cpuMax, words_eq_iff.mpr spaced]
        exact map_eq_ok_iff.mpr ⟨_, quota?_eq_ok_iff.mpr quota, rfl⟩
    | both spaced quota period =>
        rw [cpuMax, words_eq_iff.mpr spaced]
        exact bind_eq_ok_iff.mpr ⟨_, quota?_eq_ok_iff.mpr quota,
          bind_eq_ok_iff.mpr ⟨_, period?_eq_ok_iff.mpr period, rfl⟩⟩

/-! ## Single values -/

/-- What a file of a single value tells: it holds one word, which writes a word of 64
bits. -/
def WordFile (content : String) (n : UInt64) : Prop :=
  ∃ token, Spaced content.toList [token] ∧ WritesNat token n.toNat

/-- A file holds one word, which writes an integer of 64 bits. -/
def IntFile (content : String) (i : Int) : Prop :=
  ∃ token, Spaced content.toList [token] ∧ WritesInt token i ∧
    -(maxInt64 + 1 : Int) ≤ i ∧ i ≤ maxInt64

theorem unbroken_of_digitRun {ds : List Char} (run : DigitRun ds) : Unbroken ds :=
  fun c h => isBlank_of_isDigit (run.digits c h)

/-- What writes an integer is a word. -/
theorem word_of_writesInt {token : List Char} {i : Int} (writes : WritesInt token i) :
    token ≠ [] ∧ Unbroken token := by
  cases writes with
  | natural writes =>
      cases writes with
      | digits run => exact ⟨run.nonempty, unbroken_of_digitRun run⟩
      | plus run =>
          exact ⟨nofun, List.forall_mem_cons.mpr ⟨by decide, unbroken_of_digitRun run⟩⟩
  | minus run => exact ⟨nofun, List.forall_mem_cons.mpr ⟨by decide, unbroken_of_digitRun run⟩⟩

/-- Reading a single value is reading the only word, where only words are read. -/
theorem singleValue_eq_ok_iff {α : Type} {read : List Char → Except NumeralError α}
    {content : String} {x : α}
    (word : ∀ {token}, read token = .ok x → token ≠ [] ∧ Unbroken token) :
    singleValue read content = .ok x ↔
      ∃ token, Spaced content.toList [token] ∧ read token = .ok x := by
  have trimmed : singleValue read content = .ok x ↔ read (trim content.toList) = .ok x := by
    unfold singleValue
    cases value : read (trim content.toList) <;> simp [value]
  rw [trimmed]
  constructor
  · intro h
    obtain ⟨nonempty, unbroken⟩ := word h
    exact ⟨trim content.toList, (trim_eq_iff nonempty unbroken).mp rfl, h⟩
  · rintro ⟨token, spaced, h⟩
    obtain ⟨nonempty, unbroken⟩ := word h
    rwa [(trim_eq_iff nonempty unbroken).mpr spaced]

theorem singleWord_eq_ok_iff {content : String} {n : UInt64} :
    singleWord content = .ok n ↔ WordFile content n := by
  have word : ∀ {token}, word64? token = .ok n → token ≠ [] ∧ Unbroken token :=
    fun h => word_of_writesInt (.natural (word64?_eq_ok_iff.mp h))
  rw [singleWord, singleValue_eq_ok_iff word]
  simp only [word64?_eq_ok_iff, WordFile]

theorem singleInt_eq_ok_iff {content : String} {i : Int} :
    singleInt content = .ok i ↔ IntFile content i := by
  have word : ∀ {token}, int64? token = .ok i → token ≠ [] ∧ Unbroken token :=
    fun h => word_of_writesInt (int64?_eq_ok_iff.mp h).1
  rw [singleInt, singleValue_eq_ok_iff word]
  simp only [int64?_eq_ok_iff, IntFile]

/-! ## What is read -/

end UsageMeter.Kernel
