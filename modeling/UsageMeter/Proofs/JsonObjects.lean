import UsageMeter.Proofs.JsonScan

/-!
# Objects of a JSON text, read back

An object is read field by field. What is written of a record is read as the record if
each field that is there is one of its fields, is there once and is read back, and a map
is read back if its keys are distinct. Conversely what a reader of objects gives is made
by the readers of its fields alone, so it has what all of them agree on.
-/

namespace UsageMeter.Json

/-! ## Between the fields -/

/-- The fields behind the first one, each after its comma. -/
def laterFields (fields : List (String × Value)) : List Char :=
  fields.flatMap fun f => ',' :: (quoted f.1 ++ ':' :: compactText f.2)

theorem compactFields_cons (key : String) (v : Value) (later : List (String × Value)) :
    compactFields ((key, v) :: later) =
      quoted key ++ ':' :: (compactText v ++ laterFields later) := by
  induction later generalizing key v with
  | nil => simp [compactFields, laterFields]
  | cons f later ih => simp [compactFields, laterFields, ih]

theorem laterFields_cons_append (key : String) (v : Value) (later : List (String × Value))
    (r : List Char) : laterFields ((key, v) :: later) ++ r =
      ',' :: (quoted key ++ ':' :: (compactText v ++ (laterFields later ++ r))) := by
  simp [laterFields]

/-- Every field takes a character at least, so the steps that readers of objects are
given suffice. -/
theorem length_lt_compactFields_append (fields : List (String × Value)) (r : List Char) :
    fields.length < (compactFields fields ++ r).length + 1 := by
  have later (fields : List (String × Value)) : fields.length ≤ (laterFields fields).length := by
    induction fields with
    | nil => exact Nat.le_refl 0
    | cons f fields ih =>
        simp only [laterFields, List.flatMap_cons, List.length_append, List.length_cons] at ih ⊢
        omega
  cases fields with
  | nil => exact Nat.succ_pos _
  | cons f fields =>
      obtain ⟨key, v⟩ := f
      have := later fields
      simp only [compactFields_cons, List.length_append, List.length_cons]
      omega

/-- What stands in the braces of an object. -/
theorem object_append (fields : List (String × Value)) (rest : List Char) :
    compactText (.object fields) ++ rest = '\x7b' :: (compactFields fields ++ '\x7d' :: rest) := by
  simp [compactText]

theorem endsValue_laterFields (fields : List (String × Value)) (rest : List Char) :
    EndsValue (laterFields fields ++ '\x7d' :: rest) := by
  cases fields with
  | nil => exact endsValue_brace rest
  | cons f fields => exact endsValue_comma _

theorem nextKey_first (key : String) (r : List Char) :
    nextKey true (quoted key ++ r) = .ok (some key, r) := by
  rw [quoted_append, nextKey, skipGaps_cons rfl]
  simp [stringBody_quoted, Except.map]

theorem nextKey_later (key : String) (r : List Char) :
    nextKey false (',' :: (quoted key ++ r)) = .ok (some key, r) := by
  rw [quoted_append, nextKey, skipGaps_cons rfl]
  simp [skipGaps_cons, isGap, stringBody_quoted, Except.map]

theorem nextKey_end (first : Bool) (r : List Char) :
    nextKey first ('\x7d' :: r) = .ok (none, r) := by
  rw [nextKey, skipGaps_cons rfl]
  rfl

theorem colon_cons (r : List Char) : colon (':' :: r) = .ok r := by
  rw [colon, skipGaps_cons rfl]
  rfl

/-! ## Records -/

section
variable {σ α : Type} {fields : List (RecordField σ)}

/-- Fields that are written are read one after another, each into the state that those
before it left: it is one of the fields of the record, and it was not there yet. -/
inductive FieldsRead (fields : List (RecordField σ)) : σ → List (String × Value) → σ → Prop where
  | nil {state : σ} : FieldsRead fields state [] state
  | cons {state next last : σ} {key : String} {v : Value} {later : List (String × Value)}
      {f : RecordField σ} (found : fields.find? (fun f => f.name == key) = some f)
      (absent : f.present state = false) (reads : ReadsAs (f.read state) v next)
      (more : FieldsRead fields next later last) :
      FieldsRead fields state ((key, v) :: later) last

/-- Reading one field leads on to those behind it. -/
theorem readFields_field {first : Bool} {state next : σ} {key : String} {v : Value}
    {f : RecordField σ} {s rest : List Char} {fuel : Nat}
    (here : nextKey first s = .ok (some key, ':' :: (compactText v ++ rest)))
    (found : fields.find? (fun f => f.name == key) = some f) (absent : f.present state = false)
    (reads : ReadsAs (f.read state) v next) (ends : EndsValue rest) :
    readFields fields (fuel + 1) first state s = readFields fields fuel false next rest := by
  rw [readFields]
  simp only [here, found, absent, colon_cons, bind, Except.bind, reads rest ends]
  rfl

theorem readFields_laterFields {state last : σ} {entries : List (String × Value)}
    (run : FieldsRead fields state entries last) (rest : List Char) {fuel : Nat}
    (enough : entries.length < fuel) :
    readFields fields fuel false state (laterFields entries ++ '\x7d' :: rest) =
      .ok (last, rest) := by
  induction run generalizing fuel with
  | nil =>
      obtain ⟨fuel, rfl⟩ := Nat.exists_eq_add_of_lt enough
      simp [laterFields, readFields, nextKey_end]
  | @cons state next last key v later f found absent reads more ih =>
      obtain ⟨fuel, rfl⟩ : ∃ n, fuel = n + 1 := ⟨fuel - 1, by omega⟩
      rw [laterFields_cons_append, readFields_field (nextKey_later key _) found absent reads
        (endsValue_laterFields later rest)]
      exact ih (Nat.lt_of_succ_lt_succ enough)

theorem readFields_compactFields {state last : σ} {entries : List (String × Value)}
    (run : FieldsRead fields state entries last) (rest : List Char) {fuel : Nat}
    (enough : entries.length < fuel) :
    readFields fields fuel true state (compactFields entries ++ '\x7d' :: rest) =
      .ok (last, rest) := by
  obtain ⟨fuel, rfl⟩ : ∃ n, fuel = n + 1 := ⟨fuel - 1, by omega⟩
  cases run with
  | nil => simp [compactFields, readFields, nextKey_end]
  | @cons _ next _ key v later f found absent reads more =>
      rw [compactFields_cons, List.append_assoc, List.cons_append, List.append_assoc,
        readFields_field (nextKey_first key _) found absent reads
          (endsValue_laterFields later rest)]
      exact readFields_laterFields more rest (Nat.lt_of_succ_lt_succ enough)

/-- **A record is read back** if its fields are and make it up. -/
theorem readsAs_record {start last : σ} {finish : σ → Option α} {x : α}
    {entries : List (String × Value)} (run : FieldsRead fields start entries last)
    (made : finish last = some x) :
    ReadsAs (readRecord fields start finish) (.object entries) x := by
  intro rest _
  rw [object_append, readRecord, skipGaps_cons rfl]
  have enough := length_lt_compactFields_append entries ('\x7d' :: rest)
  have read := readFields_compactFields run rest enough
  simp only [bind, Except.bind, read, made]

end

/-! ## Maps -/

theorem insertField_of_notMem {α : Type} {key : String} {x : α} {entries : List (String × α)}
    (new : key ∉ entries.map Prod.fst) : insertField key x entries = entries ++ [(key, x)] := by
  induction entries with
  | nil => rfl
  | cons e entries ih =>
      obtain ⟨k, y⟩ := e
      simp only [List.map_cons, List.mem_cons, not_or] at new
      rw [insertField, if_neg (Ne.symm new.1), ih new.2, List.cons_append]

section
variable {α : Type} {read : List Char → Read α} {toJson : α → Value}

/-- The entries of a map with their keys. -/
def mapFields (toJson : α → Value) (entries : List (String × α)) : List (String × Value) :=
  entries.map fun e => (e.1, toJson e.2)

theorem readEntries_entry {first : Bool} {before : List (String × α)} {key : String} {x : α}
    {s rest : List Char} {fuel : Nat}
    (here : nextKey first s = .ok (some key, ':' :: (compactText (toJson x) ++ rest)))
    (reads : ReadsAs read (toJson x) x) (ends : EndsValue rest) :
    readEntries read (fuel + 1) first before s =
      readEntries read fuel false (insertField key x before) rest := by
  rw [readEntries]
  simp only [here, colon_cons, bind, Except.bind, reads rest ends]

theorem readEntries_laterFields (before : List (String × α)) {entries : List (String × α)}
    (reads : ∀ e ∈ entries, ReadsAs read (toJson e.2) e.2)
    (distinct : ((before ++ entries).map Prod.fst).Nodup) (rest : List Char) {fuel : Nat}
    (enough : entries.length < fuel) :
    readEntries read fuel false before
        (laterFields (mapFields toJson entries) ++ '\x7d' :: rest) =
      .ok (before ++ entries, rest) := by
  induction entries generalizing before fuel with
  | nil =>
      obtain ⟨fuel, rfl⟩ : ∃ n, fuel = n + 1 := ⟨fuel - 1, by simp at enough; omega⟩
      simp [mapFields, laterFields, readEntries, nextKey_end]
  | cons e entries ih =>
      obtain ⟨fuel, rfl⟩ : ∃ n, fuel = n + 1 := ⟨fuel - 1, by simp at enough; omega⟩
      obtain ⟨key, x⟩ := e
      rw [List.forall_mem_cons] at reads
      have new : key ∉ before.map Prod.fst := by
        rw [List.map_append, List.nodup_append] at distinct
        intro old
        exact distinct.2.2 key old key List.mem_cons_self rfl
      rw [mapFields, List.map_cons, laterFields_cons_append,
        readEntries_entry (nextKey_later key _) reads.1 (endsValue_laterFields _ rest),
        insertField_of_notMem new]
      have next := ih (before ++ [(key, x)]) reads.2
        (by rwa [List.append_assoc]) (Nat.lt_of_succ_lt_succ enough)
      rwa [List.append_assoc] at next

theorem readEntries_compactFields {entries : List (String × α)}
    (reads : ∀ e ∈ entries, ReadsAs read (toJson e.2) e.2)
    (distinct : (entries.map Prod.fst).Nodup) (rest : List Char) {fuel : Nat}
    (enough : entries.length < fuel) :
    readEntries read fuel true [] (compactFields (mapFields toJson entries) ++ '\x7d' :: rest) =
      .ok (entries, rest) := by
  obtain ⟨fuel, rfl⟩ : ∃ n, fuel = n + 1 := ⟨fuel - 1, by omega⟩
  cases entries with
  | nil => simp [mapFields, compactFields, readEntries, nextKey_end]
  | cons e entries =>
      obtain ⟨key, x⟩ := e
      rw [List.forall_mem_cons] at reads
      rw [mapFields, List.map_cons, compactFields_cons, List.append_assoc, List.cons_append,
        List.append_assoc, readEntries_entry (nextKey_first key _) reads.1
          (endsValue_laterFields _ rest)]
      exact readEntries_laterFields [(key, x)] reads.2 distinct rest
        (Nat.lt_of_succ_lt_succ enough)

/-- **A map is read back** if its values are and its keys are distinct. -/
theorem readsAs_map (toJson : α → Value) {entries : List (String × α)}
    (reads : ∀ e ∈ entries, ReadsAs read (toJson e.2) e.2)
    (distinct : (entries.map Prod.fst).Nodup) :
    ReadsAs (readMap read) (.object (mapFields toJson entries)) entries := by
  intro rest _
  have enough := length_lt_compactFields_append (mapFields toJson entries) ('\x7d' :: rest)
  rw [mapFields, List.length_map] at enough
  rw [object_append, readMap, skipGaps_cons rfl]
  exact readEntries_compactFields reads distinct rest enough

end

/-! ## What readers give -/

/-- Whatever a reader gives has a property. -/
def Yields {α : Type} (read : List Char → Read α) (p : α → Prop) : Prop :=
  ∀ s x rest, read s = .ok (x, rest) → p x

theorem yields_any {α : Type} (read : List Char → Read α) : Yields read fun _ => True :=
  fun _ _ _ _ => trivial

/-- What is made of what a reader gives. -/
theorem Yields.into {α β : Type} {read : List Char → Read α} {q : α → Prop} {p : β → Prop}
    (yields : Yields read q) (f : α → β) (makes : ∀ x, q x → p (f x)) :
    Yields (fun s => (read s).map fun (y, r) => (f y, r)) p := by
  intro s x rest h
  obtain ⟨⟨y, r⟩, told, made⟩ := map_eq_ok_iff.mp h
  cases made
  exact makes y (yields _ _ _ told)

theorem Yields.readAll {α : Type} {read : List Char → Read α} {p : α → Prop}
    (yields : Yields read p) {text : String} {x : α} (told : readAll read text = .ok x) : p x := by
  rw [Json.readAll] at told
  split at told
  · cases told
  · rename_i read
    split at told
    · cases told
      exact yields _ _ _ read
    · cases told

theorem wrongKind_ne_ok {α : Type} (s : List Char) (x : α) : wrongKind s ≠ .ok x := by
  unfold wrongKind
  simp only
  split
  · nofun
  · split <;> nofun
  · split <;> nofun
  · split <;> nofun
  · split <;> nofun
  · split <;> nofun
  · nofun
  · nofun
  · split
    · split <;> nofun
    · nofun

theorem eq_ok_of_unless {α : Type} {c : Prop} [Decidable c] {e : Fault} {read : Except Fault α}
    {x : α} (h : (if c then .error e else read) = .ok x) : read = .ok x := by
  split at h
  · cases h
  · exact h

/-- A number with a fraction or an exponent is no negative integer. -/
theorem map_double_ne_negative {β : Type} {read : Except Fault β} {f : β → Float}
    {g : β → List Char} {n : Int} {rest : List Char} :
    (read.map fun y => (Number.double (f y), g y)) ≠ .ok (.negative n, rest) := by
  cases read <;> nofun

theorem number_negative {negative : Bool} {s rest : List Char} {n : Int}
    (h : number negative s = .ok (.negative n, rest)) :
    -(maxInt64 + 1 : Int) ≤ n ∧ n ≤ maxInt64 := by
  unfold number at h
  split at h
  · cases h
  split at h
  · cases h
  simp only at h
  replace h := eq_ok_of_unless h
  split at h
  · exact absurd h map_double_ne_negative
  · exact absurd h map_double_ne_negative
  · exact absurd h map_double_ne_negative
  split at h
  · exact absurd h map_double_ne_negative
  split at h
  · cases h
  split at h
  · cases h
  · cases h
    omega

theorem yields_integer :
    Yields readInteger fun n => -(maxInt64 + 1 : Int) ≤ n ∧ n ≤ maxInt64 := by
  intro s n rest h
  unfold readInteger at h
  split at h
  · cases h
  · rename_i m _ _
    split at h
    · cases h
      omega
    · cases h
  · rename_i told
    cases h
    unfold anyNumber at told
    split at told
    · cases told
    · exact number_negative told
    · split at told
      · exact number_negative told
      · exact absurd told (wrongKind_ne_ok _ _)
  · cases h

section
variable {σ α : Type} {fields : List (RecordField σ)} (inv : σ → Prop) {p : α → Prop}

theorem readFields_keeps (keeps : ∀ f ∈ fields, ∀ state, inv state → Yields (f.read state) inv)
    {fuel : Nat} {first : Bool} {state last : σ} {s rest : List Char} (before : inv state)
    (h : readFields fields fuel first state s = .ok (last, rest)) : inv last := by
  induction fuel generalizing first state s with
  | zero => cases h
  | succ fuel ih =>
      rw [readFields] at h
      split at h
      · cases h
      · cases h
        exact before
      · rename_i key after _
        split at h
        · rename_i f found
          split at h
          · cases h
          · obtain ⟨value, -, h⟩ := bind_eq_ok_iff.mp h
            obtain ⟨⟨next, behind⟩, read, h⟩ := bind_eq_ok_iff.mp h
            exact ih (keeps f (List.mem_of_find?_eq_some found) state before _ _ _ read) h
        · obtain ⟨value, -, h⟩ := bind_eq_ok_iff.mp h
          obtain ⟨behind, -, h⟩ := bind_eq_ok_iff.mp h
          exact ih before h

theorem readElements_keeps
    (keeps : ∀ f ∈ fields, ∀ state, inv state → Yields (f.read state) inv)
    {first : Bool} {state last : σ} {s rest : List Char} (before : inv state)
    (h : readElements fields first state s = .ok (last, rest)) : inv last := by
  induction fields generalizing first state s with
  | nil =>
      cases h
      exact before
  | cons f fields ih =>
      rw [List.forall_mem_cons] at keeps
      rw [readElements] at h
      obtain ⟨⟨more, after⟩, -, h⟩ := bind_eq_ok_iff.mp h
      cases more with
      | false => cases h
      | true =>
          obtain ⟨⟨next, behind⟩, read, h⟩ := bind_eq_ok_iff.mp h
          exact ih keeps.2 (keeps.1 state before _ _ _ read) h

/-- What holds at the start of a record and is kept by each field tells of the record. -/
theorem yields_record {start : σ} {finish : σ → Option α} (begins : inv start)
    (keeps : ∀ f ∈ fields, ∀ state, inv state → Yields (f.read state) inv)
    (makes : ∀ state x, inv state → finish state = some x → p x) :
    Yields (readRecord fields start finish) p := by
  intro s x rest h
  unfold readRecord at h
  simp only at h
  split at h
  · cases h
  · obtain ⟨⟨last, after⟩, read, h⟩ := bind_eq_ok_iff.mp h
    obtain ⟨y, told, h⟩ := bind_eq_ok_iff.mp h
    obtain ⟨behind, -, h⟩ := bind_eq_ok_iff.mp h
    cases h
    split at told
    · cases told
      exact makes _ _ (readElements_keeps inv keeps begins read) ‹_›
    · cases told
  · obtain ⟨⟨last, after⟩, read, h⟩ := bind_eq_ok_iff.mp h
    obtain ⟨y, told, h⟩ := bind_eq_ok_iff.mp h
    cases h
    split at told
    · cases told
      exact makes _ _ (readFields_keeps inv keeps begins read) ‹_›
    · cases told
  · exact absurd h (wrongKind_ne_ok _ _)

end

section
variable {α : Type} {read : List Char → Read α} {p : α → Prop}

theorem map_fst_insertField (key : String) (x : α) (entries : List (String × α)) :
    (insertField key x entries).map Prod.fst =
      if key ∈ entries.map Prod.fst then entries.map Prod.fst
      else entries.map Prod.fst ++ [key] := by
  induction entries with
  | nil => rfl
  | cons e entries ih =>
      obtain ⟨k, y⟩ := e
      rw [insertField]
      by_cases same : k = key
      · simp [same]
      · rw [if_neg same, List.map_cons, ih]
        simp only [List.map_cons, List.mem_cons, Ne.symm same, false_or]
        split <;> rfl

theorem mem_insertField {key : String} {x : α} {entries : List (String × α)} {e : String × α}
    (h : e ∈ insertField key x entries) : e = (key, x) ∨ e ∈ entries := by
  induction entries with
  | nil => exact .inl (List.mem_singleton.mp h)
  | cons f entries ih =>
      rw [insertField] at h
      split at h
      · exact (List.mem_cons.mp h).imp_right (List.mem_cons_of_mem f)
      · rcases List.mem_cons.mp h with rfl | later
        · exact .inr List.mem_cons_self
        · exact (ih later).imp_right (List.mem_cons_of_mem f)

/-- The entries of a map: their keys are distinct, and their values have a property. -/
structure MapOf (p : α → Prop) (entries : List (String × α)) : Prop where
  distinct : (entries.map Prod.fst).Nodup
  values : ∀ e ∈ entries, p e.2

theorem MapOf.nil : MapOf p [] := ⟨List.nodup_nil, nofun⟩

theorem MapOf.insertField {key : String} {x : α} {entries : List (String × α)}
    (h : MapOf p entries) (value : p x) : MapOf p (insertField key x entries) where
  distinct := by
    rw [map_fst_insertField]
    split
    · exact h.distinct
    · rename_i new
      exact List.nodup_append.mpr ⟨h.distinct, by simp,
        fun _ old _ same eq => new (List.mem_singleton.mp same ▸ eq ▸ old)⟩
  values e mem := by
    rcases mem_insertField mem with rfl | old
    · exact value
    · exact h.values e old

theorem yields_map (values : Yields read p) : Yields (readMap read) (MapOf p) := by
  have entries {fuel : Nat} {first : Bool} {before last : List (String × α)}
      {s rest : List Char} (begins : MapOf p before)
      (h : readEntries read fuel first before s = .ok (last, rest)) : MapOf p last := by
    induction fuel generalizing first before s with
    | zero => cases h
    | succ fuel ih =>
        rw [readEntries] at h
        split at h
        · cases h
        · cases h
          exact begins
        · obtain ⟨value, -, h⟩ := bind_eq_ok_iff.mp h
          obtain ⟨⟨x, behind⟩, told, h⟩ := bind_eq_ok_iff.mp h
          exact ih (begins.insertField (values _ _ _ told)) h
  intro s last rest h
  rw [readMap] at h
  split at h
  · cases h
  · exact entries .nil h
  · exact absurd h (wrongKind_ne_ok _ _)

end
end UsageMeter.Json
