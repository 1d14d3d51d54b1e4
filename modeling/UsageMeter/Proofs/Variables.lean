import UsageMeter.Proofs.Doubles
import UsageMeter.Proofs.TakenTexts
import UsageMeter.Settings.Agent

/-!
# Variables

What the agent makes of one variable of its environment. A setting that is a text is taken
as the text that is written out for what the variable reads as. A setting that is a natural
is exact for every integer of 64 bits; beyond those it is exact as far as a double is, and
below them it is zero.
-/

namespace UsageMeter
open UsageMeter.Decimal UsageMeter.Settings

/-! ## Naturals -/

/-- A natural beyond the integers of 64 bits as a word: it loses its last eleven binary
digits, and what a word has no room for. -/
def roundedWord (n : Nat) : Nat := min maxWord64 (roundDiv .toEven n 2048 * 2048)

/-- The natural that an integer is taken as, if any. What is no integer of 64 bits is read
as a double; of one below zero nothing is left. -/
def takenNatural (z : Int) : Option Nat :=
  if z < -(maxInt64 + 1 : Int) then some 0
  else if z < 0 then none
  else if z ≤ maxInt64 then some z.toNat
  else some (roundedWord z.toNat)

/-- The natural up to a limit that an integer is taken as, if any. -/
def takenUpTo (limit : Nat) (z : Int) : Option Nat :=
  (takenNatural z).bind fun n => if n ≤ limit then some n else none

/-- What a setting that is a natural up to `limit` is taken as, for a numeral. -/
theorem natural?_numeral {s : String} {z : Int} (writes : Text.WritesInt s.toList z) (limit : Nat) :
    Settings.natural? limit (variableValue s) = takenUpTo limit z := by
  unfold takenUpTo takenNatural
  by_cases small : IsInt64 z
  · have least := small.1
    rw [variableValue_integer writes small, if_neg (by omega)]
    unfold Settings.natural?
    rw [exact, if_pos small.2]
    by_cases negative : z < 0
    · rw [if_pos negative]
      simp [negative]
    · have natural : 0 ≤ z := by omega
      rw [if_neg negative, if_pos small.2]
      simp [natural]
  · -- the numeral is read as a double, of either sign
    have noInteger : ∀ y, Text.WritesInt s.toList y → ¬ IsInt64 y := fun y other => by
      rwa [other.unique writes]
    obtain ⟨negative, reads, below, above⟩ := float?_numeral writes
    rw [variableValue_double (not_isWord_of_writesInt writes) noInteger reads]
    unfold Settings.natural?
    simp only [exact]
    unfold IsInt64 at small
    have bound : (maxInt64 : Int) = 9223372036854775807 := rfl
    cases negative with
    | true =>
        have le := below rfl
        rw [nearestNatural_toFloat_negative (by omega), if_pos (by omega)]
    | false =>
        have le := above rfl
        have same : z.natAbs = z.toNat := by omega
        rw [same, nearestNatural_toFloat (by omega), if_neg (by omega), if_neg (by omega),
          if_neg (by omega), roundedWord]

theorem takenNatural_cases (z : Int) :
    (z < -(maxInt64 + 1 : Int) ∧ takenNatural z = some 0) ∨
      (-(maxInt64 + 1 : Int) ≤ z ∧ z < 0 ∧ takenNatural z = none) ∨
      (0 ≤ z ∧ z ≤ maxInt64 ∧ takenNatural z = some z.toNat) ∨
      ((maxInt64 : Int) < z ∧ takenNatural z = some (roundedWord z.toNat)) := by
  unfold takenNatural
  split
  · exact .inl ⟨‹_›, rfl⟩
  split
  · exact .inr (.inl ⟨by omega, ‹_›, rfl⟩)
  split
  · exact .inr (.inr (.inl ⟨by omega, ‹_›, rfl⟩))
  · exact .inr (.inr (.inr ⟨by omega, rfl⟩))

theorem takenUpTo_eq_some_iff {limit n : Nat} {z : Int} :
    takenUpTo limit z = some n ↔ takenNatural z = some n ∧ n ≤ limit := by
  rw [takenUpTo]
  cases takenNatural z with
  | none => simp
  | some m =>
      simp only [Option.bind_some, Option.some.injEq]
      split <;> grind

theorem maxInt64_lt_roundedWord {n : Nat} (large : maxInt64 < n) : maxInt64 < roundedWord n := by
  have word : maxWord64 = 18446744073709551615 := rfl
  have half : maxInt64 = 9223372036854775807 := rfl
  rw [half] at large
  rw [roundedWord, half, word]
  rcases roundDiv_cases .toEven n 2048 with down | up
  · rw [down]
    omega
  · rw [up]
    omega

/-- A word with a sign has room for every natural up to a lower limit. -/
theorem takenUpTo_exact_iff {limit : Nat} (small : limit ≤ maxInt64) {z : Int} :
    (∀ n, takenUpTo limit z = some n → (n : Int) = z) ↔ -(maxInt64 + 1 : Int) ≤ z := by
  simp only [takenUpTo_eq_some_iff]
  rcases takenNatural_cases z with ⟨below, taken⟩ | ⟨least, -, taken⟩ | ⟨natural, -, taken⟩ |
    ⟨large, taken⟩
  · rw [taken]
    refine iff_of_false (fun kept => ?_) (by omega)
    have zero := kept 0 ⟨rfl, Nat.zero_le _⟩
    omega
  · rw [taken]
    exact iff_of_true nofun least
  · rw [taken]
    refine iff_of_true (fun n ⟨same, _⟩ => ?_) (by omega)
    rw [← Option.some.inj same]
    omega
  · rw [taken]
    refine iff_of_true (fun n ⟨same, le⟩ => ?_) (by omega)
    have far := maxInt64_lt_roundedWord (n := z.toNat) (by omega)
    rw [Option.some.inj same] at far
    omega

theorem roundDiv_mul_of_dvd {tie : Tie} {n den : Nat} (positive : 0 < den) (whole : den ∣ n) :
    roundDiv tie n den * den = n := by
  have rest : n % den = 0 := Nat.mod_eq_zero_of_dvd whole
  unfold roundDiv
  simp only [rest, Nat.mul_zero, if_pos positive]
  exact Nat.div_mul_cancel whole

/-- Apart from the greatest word, a natural is kept if its last eleven binary digits are zero
and a word has room for it. -/
theorem roundedWord_eq_iff {n : Nat} :
    roundedWord n = n ↔ n = maxWord64 ∨ 2048 ∣ n ∧ n ≤ maxWord64 := by
  rw [roundedWord]
  constructor
  · intro kept
    rcases Nat.le_total maxWord64 (roundDiv .toEven n 2048 * 2048) with full | room
    · rw [Nat.min_eq_left full] at kept
      exact .inl kept.symm
    · rw [Nat.min_eq_right room] at kept
      rw [kept] at room
      exact .inr ⟨⟨_, (Nat.mul_comm 2048 _).symm ▸ kept.symm⟩, room⟩
  · rintro (rfl | ⟨whole, room⟩)
    · decide
    · rw [roundDiv_mul_of_dvd (by decide) whole, Nat.min_eq_right room]

/-- Of the words that a sign leaves no room for, some are kept. -/
theorem takenUpTo_word_exact_iff {z : Int} :
    (∀ n, takenUpTo maxWord64 z = some n → n ≠ 0 → (n : Int) = z) ↔
      z ≤ maxInt64 ∨ z = maxWord64 ∨ (2048 : Int) ∣ z ∧ z ≤ maxWord64 := by
  simp only [takenUpTo_eq_some_iff]
  rcases takenNatural_cases z with ⟨below, taken⟩ | ⟨least, negative, taken⟩ |
    ⟨natural, small, taken⟩ | ⟨large, taken⟩
  · rw [taken]
    refine iff_of_true (fun n ⟨same, _⟩ nonzero => ?_) (.inl (by omega))
    exact absurd (Option.some.inj same).symm nonzero
  · rw [taken]
    exact iff_of_true nofun (.inl (by omega))
  · rw [taken]
    refine iff_of_true (fun n ⟨same, _⟩ _ => ?_) (.inl small)
    rw [← Option.some.inj same]
    omega
  · obtain ⟨n, rfl⟩ := Int.eq_ofNat_of_zero_le (show 0 ≤ z by omega)
    have far := maxInt64_lt_roundedWord (n := n) (by omega)
    have word : roundedWord n ≤ maxWord64 := Nat.min_le_left _ _
    have kept : (∀ m, takenNatural n = some m ∧ m ≤ maxWord64 → m ≠ 0 → (m : Int) = n) ↔
        roundedWord n = n := by
      rw [taken, Int.toNat_natCast]
      constructor
      · intro all
        exact Int.ofNat_inj.mp (all _ ⟨rfl, word⟩ (by omega))
      · rintro same m ⟨found, -⟩ -
        rw [← Option.some.inj found, same]
    rw [kept, roundedWord_eq_iff]
    have known : ¬ ((n : Int) ≤ maxInt64) := by omega
    simp only [known, false_or, Int.ofNat_inj, Int.ofNat_le]
    omega

/-! ## The settings of one variable -/

/-- A variable that names a setting. -/
structure Names (key name : String) : Prop where
  starts : (Text.lower key).startsWith variableStart = true
  named : Text.lower (String.ofList ((Text.lower key).toList.drop variableStart.length)) = name
  whole : owner? name = none

theorem layer_of_names {key name : String} (names : Names key name) (s : String) :
    Layer.ofEnvironment [(key, s)] = [(name, variableValue s)] := by
  have found : variableEntry? key s = some (name, variableValue s) := by
    unfold variableEntry?
    simp only [names.starts, if_true, entry, names.named, names.whole]
  simp only [Layer.ofEnvironment, List.filterMap_cons, List.filterMap_nil, found]

namespace AgentSettings

theorem setting_single {α : Type} (given name : String) (v : Json.Value) (default : α)
    (convert : Json.Value → Option α) :
    setting [(given, v)] name default convert =
      if given = name then convert v else some default := by
  by_cases same : given = name
  · simp [setting, lookup, same]
  · simp [setting, lookup, same]

/-- A variable sets one setting, to what its value converts to. -/
def Sets {α : Type} (key : String) (convert : Json.Value → Option α) (set : α → AgentSettings) :
    Prop :=
  ∃ name, Names key name ∧ ∀ v, ofLayer? [(name, v)] = (convert v).map set

section
variable {α : Type} {key : String} {convert : Json.Value → Option α} {set : α → AgentSettings}
  (sets : Sets key convert set) {s : String}
include sets

theorem load_of_none (fails : convert (variableValue s) = none) :
    load none [(key, s)] = .error .unconvertible := by
  obtain ⟨name, names, only⟩ := sets
  have layer : ofLayer? ([] ++ Layer.ofEnvironment [(key, s)]) = none := by
    rw [List.nil_append, layer_of_names names, only, fails, Option.map_none]
  simp only [load, fileLayer, bind, Except.bind, layer]

theorem load_of_some {x : α} (converts : convert (variableValue s) = some x) :
    load none [(key, s)] = (set x).validate.map fun _ => set x := by
  obtain ⟨name, names, only⟩ := sets
  have layer : ofLayer? ([] ++ Layer.ofEnvironment [(key, s)]) = some (set x) := by
    rw [List.nil_append, layer_of_names names, only, converts, Option.map_some]
  simp only [load, fileLayer, bind, Except.bind, layer]
  rfl

theorem load_of_valid {x : α} (converts : convert (variableValue s) = some x)
    (long : (set x).refreshSeconds ≠ 0) (named : ¬ Text.Blanks (set x).serviceName.toList) :
    load none [(key, s)] = .ok (set x) := by
  have valid : (set x).validate = .ok () := by
    rw [validate, if_neg long, if_neg]
    rwa [trim_isEmpty_iff]
  rw [load_of_some sets converts, valid]
  rfl

end

theorem default_long : default.refreshSeconds ≠ 0 := by decide

theorem not_blanks_default : ¬ Text.Blanks default.serviceName.toList :=
  not_blanks_iff.mpr ⟨'u', by decide, rfl⟩

theorem sets_name :
    Sets "USAGE_SERVICE_NAME" text? fun t => { default with serviceName := t } := by
  refine ⟨"service_name", ⟨by decide +kernel, by decide +kernel, by decide +kernel⟩, fun v => ?_⟩
  cases read : text? v <;> simp [ofLayer?, setting_single, read]

theorem sets_cgroupRoot :
    Sets "USAGE_CGROUP_ROOT" text? fun t => { default with cgroupRoot := t } := by
  refine ⟨"cgroup_root", ⟨by decide +kernel, by decide +kernel, by decide +kernel⟩, fun v => ?_⟩
  cases read : text? v <;> simp [ofLayer?, setting_single, read]

theorem sets_procRoot : Sets "USAGE_PROC_ROOT" text? fun t => { default with procRoot := t } := by
  refine ⟨"proc_root", ⟨by decide +kernel, by decide +kernel, by decide +kernel⟩, fun v => ?_⟩
  cases read : text? v <;> simp [ofLayer?, setting_single, read]

theorem sets_port :
    Sets "USAGE_API_PORT" (natural? maxWord16) fun n => { default with port := .ofNat n } := by
  refine ⟨"api_port", ⟨by decide +kernel, by decide +kernel, by decide +kernel⟩, fun v => ?_⟩
  cases read : natural? maxWord16 v <;> simp [ofLayer?, setting_single, read]

theorem sets_refreshSeconds : Sets "USAGE_REFRESH_INTERVAL_SECS" (natural? maxWord64)
    fun n => { default with refreshSeconds := .ofNat n } := by
  refine ⟨"refresh_interval_secs", ⟨by decide +kernel, by decide +kernel, by decide +kernel⟩,
    fun v => ?_⟩
  cases read : natural? maxWord64 v <;> simp [ofLayer?, setting_single, read]

theorem sets_pid : Sets "USAGE_PID" pid? fun p => { default with pid := p } := by
  refine ⟨"pid", ⟨by decide +kernel, by decide +kernel, by decide +kernel⟩, fun v => ?_⟩
  cases read : pid? v <;> simp [ofLayer?, setting_single, read]

/-- A variable is never nothing. -/
theorem pid?_variableValue (s : String) : pid? (variableValue s) =
    (natural? maxWord32 (variableValue s)).map fun n => some (.ofNat n) := by
  rw [variableValue]
  split
  · rfl
  split
  · rfl
  split
  · rfl
  · split <;> rfl

/-! ## Texts -/

/-- What becomes of a text that is given for a setting that is one. -/
structure TextTaken (s t : String) : Prop where
  taken : TakenAs s t
  kept_iff : t = s ↔ Canonical s
  name : ¬ Text.Blanks s.toList →
    load none [("USAGE_SERVICE_NAME", s)] = .ok { default with serviceName := t }
  blankName : Text.Blanks s.toList → load none [("USAGE_SERVICE_NAME", s)] = .error .blankName
  cgroupRoot : load none [("USAGE_CGROUP_ROOT", s)] = .ok { default with cgroupRoot := t }
  procRoot : load none [("USAGE_PROC_ROOT", s)] = .ok { default with procRoot := t }

theorem exists_textTaken (s : String) : ∃ t, TextTaken s t := by
  obtain ⟨t, taken, read⟩ := exists_takenAs s
  refine ⟨t, taken, taken.eq_iff, fun solid => ?_, fun blanks => ?_, ?_, ?_⟩
  · exact load_of_valid sets_name read default_long fun blanks => solid (taken.blanks_iff.mp blanks)
  · have refused : ({ default with serviceName := t } : AgentSettings).validate =
        .error .blankName := by
      rw [validate, if_neg default_long, if_pos]
      exact trim_isEmpty_iff.mpr (taken.blanks_iff.mpr blanks)
    rw [load_of_some sets_name read, refused]
    rfl
  · exact load_of_valid sets_cgroupRoot read default_long not_blanks_default
  · exact load_of_valid sets_procRoot read default_long not_blanks_default

/-! ## Numerals -/

/-- The settings that a natural gives, if there is one. -/
def givenBy (found : Option Nat) (given : Nat → Except SettingsError AgentSettings) :
    Except SettingsError AgentSettings :=
  match found with
  | none => .error .unconvertible
  | some n => given n

/-- What becomes of a numeral that is given for a setting that is a natural. -/
structure NumeralTaken (s : String) (z : Int) : Prop where
  port : load none [("USAGE_API_PORT", s)] =
    givenBy (takenUpTo maxWord16 z) fun n => .ok { default with port := .ofNat n }
  pid : load none [("USAGE_PID", s)] =
    givenBy (takenUpTo maxWord32 z) fun n => .ok { default with pid := some (.ofNat n) }
  refreshSeconds : load none [("USAGE_REFRESH_INTERVAL_SECS", s)] =
    givenBy (takenUpTo maxWord64 z) fun n =>
      if n = 0 then .error (.shortInterval 0) else .ok { default with refreshSeconds := .ofNat n }
  port_exact_iff : (∀ t, load none [("USAGE_API_PORT", s)] = .ok t → (t.port.toNat : Int) = z) ↔
    -(maxInt64 + 1 : Int) ≤ z
  pid_exact_iff : (∀ t, load none [("USAGE_PID", s)] = .ok t →
      t.pid.map (fun p => (p.toNat : Int)) = some z) ↔
    -(maxInt64 + 1 : Int) ≤ z
  refreshSeconds_exact_iff : (∀ t, load none [("USAGE_REFRESH_INTERVAL_SECS", s)] = .ok t →
      (t.refreshSeconds.toNat : Int) = z) ↔
    z ≤ maxInt64 ∨ z = maxWord64 ∨ (2048 : Int) ∣ z ∧ z ≤ maxWord64

theorem forall_givenBy_iff {found : Option Nat}
    {given : Nat → Except SettingsError AgentSettings} {p : AgentSettings → Prop} :
    (∀ t, givenBy found given = .ok t → p t) ↔
      ∀ n, found = some n → ∀ t, given n = .ok t → p t := by
  cases found <;> simp [givenBy]

section
variable {s : String} {z : Int} (writes : Text.WritesInt s.toList z)
include writes

theorem load_port : load none [("USAGE_API_PORT", s)] =
    givenBy (takenUpTo maxWord16 z) fun n => .ok { default with port := .ofNat n } := by
  have read := natural?_numeral writes maxWord16
  cases found : takenUpTo maxWord16 z with
  | none => exact load_of_none sets_port (read.trans found)
  | some n => exact load_of_valid sets_port (read.trans found) default_long not_blanks_default

theorem load_pid : load none [("USAGE_PID", s)] =
    givenBy (takenUpTo maxWord32 z) fun n => .ok { default with pid := some (.ofNat n) } := by
  have read := pid?_variableValue s
  rw [natural?_numeral writes maxWord32] at read
  cases found : takenUpTo maxWord32 z with
  | none =>
      rw [found] at read
      exact load_of_none sets_pid read
  | some n =>
      rw [found] at read
      exact load_of_valid sets_pid read default_long not_blanks_default

theorem load_refreshSeconds : load none [("USAGE_REFRESH_INTERVAL_SECS", s)] =
    givenBy (takenUpTo maxWord64 z) fun n =>
      if n = 0 then .error (.shortInterval 0)
      else .ok { default with refreshSeconds := .ofNat n } := by
  have read := natural?_numeral writes maxWord64
  cases found : takenUpTo maxWord64 z with
  | none => exact load_of_none sets_refreshSeconds (read.trans found)
  | some n =>
      by_cases zero : n = 0
      · subst zero
        rw [load_of_some sets_refreshSeconds (read.trans found)]
        rfl
      · have word : (UInt64.ofNat n).toNat = n :=
          UInt64.toNat_ofNat_of_lt' (Nat.lt_succ_of_le (takenUpTo_eq_some_iff.mp found).2)
        have long : UInt64.ofNat n ≠ 0 := fun same => by
          rw [same] at word
          exact zero word.symm
        simp only [givenBy, zero, if_false]
        exact load_of_valid sets_refreshSeconds (read.trans found) long not_blanks_default

theorem port_exact_iff :
    (∀ t, load none [("USAGE_API_PORT", s)] = .ok t → (t.port.toNat : Int) = z) ↔
      -(maxInt64 + 1 : Int) ≤ z := by
  have room : maxWord16 ≤ maxInt64 := by decide
  rw [load_port writes, forall_givenBy_iff, ← takenUpTo_exact_iff room]
  refine forall_congr' fun n => forall_congr' fun found => ?_
  have word : (UInt16.ofNat n).toNat = n :=
    UInt16.toNat_ofNat_of_lt' (Nat.lt_succ_of_le (takenUpTo_eq_some_iff.mp found).2)
  simp [word]

theorem pid_exact_iff :
    (∀ t, load none [("USAGE_PID", s)] = .ok t → t.pid.map (fun p => (p.toNat : Int)) = some z) ↔
      -(maxInt64 + 1 : Int) ≤ z := by
  have room : maxWord32 ≤ maxInt64 := by decide
  rw [load_pid writes, forall_givenBy_iff, ← takenUpTo_exact_iff room]
  refine forall_congr' fun n => forall_congr' fun found => ?_
  have word : (UInt32.ofNat n).toNat = n :=
    UInt32.toNat_ofNat_of_lt' (Nat.lt_succ_of_le (takenUpTo_eq_some_iff.mp found).2)
  simp [word]

theorem refreshSeconds_exact_iff :
    (∀ t, load none [("USAGE_REFRESH_INTERVAL_SECS", s)] = .ok t →
        (t.refreshSeconds.toNat : Int) = z) ↔
      z ≤ maxInt64 ∨ z = maxWord64 ∨ (2048 : Int) ∣ z ∧ z ≤ maxWord64 := by
  rw [load_refreshSeconds writes, forall_givenBy_iff, ← takenUpTo_word_exact_iff]
  refine forall_congr' fun n => forall_congr' fun found => ?_
  have word : (UInt64.ofNat n).toNat = n :=
    UInt64.toNat_ofNat_of_lt' (Nat.lt_succ_of_le (takenUpTo_eq_some_iff.mp found).2)
  by_cases zero : n = 0
  · simp [zero]
  · simp [zero, word]

theorem numeralTaken : NumeralTaken s z where
  port := load_port writes
  pid := load_pid writes
  refreshSeconds := load_refreshSeconds writes
  port_exact_iff := port_exact_iff writes
  pid_exact_iff := pid_exact_iff writes
  refreshSeconds_exact_iff := refreshSeconds_exact_iff writes

end

/-- **Where variables are kept.** A text is given as it is if it is canonical, else as the
text of what it reads as; only a name is refused, if it is blank. A numeral for a port or a
process is given exactly or refused if it is at least the least integer of 64 bits, and taken
for zero below that. One for the seconds between refreshes is given exactly or refused up to
the greatest integer of 64 bits, and beyond that only if rounding leaves it as it is. -/
theorem variables_kept_where_canonical (s : String) :
    (∃ t, TextTaken s t) ∧ ∀ z, Text.WritesInt s.toList z → NumeralTaken s z :=
  ⟨exists_textTaken s, fun _ => numeralTaken⟩

theorem variables_kept_where_canonical_below_words :
    Text.WritesInt "-9223372036854775809".toList (-9223372036854775809) ∧
      NumeralTaken "-9223372036854775809" (-9223372036854775809) := by
  have run : Text.DigitRun "9223372036854775809".toList :=
    ⟨by decide, List.all_eq_true.mp (by decide)⟩
  exact ⟨.minus run, (variables_kept_where_canonical _).2 _ (.minus run)⟩

/-- Names and roots come out as other texts, a port and a process below every word are zero,
and seconds are rounded. -/
theorem variables_given_otherwise :
    load none [("USAGE_SERVICE_NAME", "007")] = .ok { default with serviceName := "7" } ∧
    load none [("USAGE_CGROUP_ROOT", "1e3")] = .ok { default with cgroupRoot := "1000" } ∧
    load none [("USAGE_PROC_ROOT", "TRUE")] = .ok { default with procRoot := "true" } ∧
    load none [("USAGE_API_PORT", "-9223372036854775809")] = .ok { default with port := 0 } ∧
    load none [("USAGE_PID", "-9223372036854775809")] = .ok { default with pid := some 0 } ∧
    load none [("USAGE_REFRESH_INTERVAL_SECS", "9223372036854775809")] =
      .ok { default with refreshSeconds := 9223372036854775808 } := by
  decide +kernel

end AgentSettings
end UsageMeter
