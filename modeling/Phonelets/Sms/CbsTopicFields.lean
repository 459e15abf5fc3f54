import Phonelets.Sms.CbsTopicSets

/-! # Strings of topic ranges

A string of fields, each a numeral or two of them joined by `-`. `next_range` collects a
numeral in an `int` and `cbs_extract_topic_ranges` compares what has become of it with 999.
-/

namespace Phonelets.Sms

open List

/-! ## The two passes -/

/-- The pass of `cbs_extract_topic_ranges` that checks the ranges: what is left where
`next_range` finds no range. -/
def checkPass : ℕ → List Char → Option (List Char)
  | 0, _ => none
  | fuel + 1, str =>
    match nextRange str with
    | none => some str
    | some (min, max, rest) =>
      if min < 0 ∨ min > 999 then none
      else if max < 0 ∨ max > 999 then none
      else if max < min then none
      else checkPass fuel rest

/-- The pass that collects the ranges, the last one first. -/
def collectPass : ℕ → List Char → List CbsTopicRange → List CbsTopicRange
  | 0, _, ret => ret
  | fuel + 1, str, ret =>
    match nextRange str with
    | none => ret
    | some (min, max, rest) =>
      collectPass fuel rest (⟨(min % 2 ^ 16).toNat, (max % 2 ^ 16).toNat⟩ :: ret)

/-- `cbs_extract_topic_ranges` with its two passes; `NULL` is the empty list. -/
def cbsExtractTopicRangesPasses (ranges : List Char) : List CbsTopicRange :=
  match checkPass (ranges.length + 1) ranges with
  | none => []
  | some rest =>
    if rest ≠ [] then []
    else cbsOptimizeRangesBitmap (collectPass (ranges.length + 1) ranges [])

lemma extractLoop_passes (fuel : ℕ) (str : List Char) (ret : List CbsTopicRange) :
    (∀ ranges, extractLoop fuel str = some ranges → checkPass fuel str = some [] ∧
    collectPass fuel str ret = ranges.reverse ++ ret ∧ ∀ r ∈ ranges, r.Valid) ∧
    (extractLoop fuel str = none → ∀ rest, checkPass fuel str = some rest → rest ≠ []) := by
  induction fuel generalizing str ret with
  | zero =>
    constructor
    · intro ranges h
      cases h
    · intro _ rest h
      cases h
  | succ fuel ih =>
    rw [extractLoop, checkPass, collectPass]
    cases hnext : nextRange str with
    | none =>
      dsimp only
      constructor
      · intro ranges h
        split at h
        · rename_i hempty
          cases h
          exact ⟨congrArg some hempty, rfl, fun r hr => absurd hr not_mem_nil⟩
        · cases h
      · intro h rest hrest
        cases hrest
        split at h
        · cases h
        · assumption
    | some r =>
      obtain ⟨min, max, rest⟩ := r
      dsimp only
      by_cases hbad : min < 0 ∨ 999 < min ∨ max < 0 ∨ 999 < max ∨ max < min
      · rw [if_pos hbad]
        constructor
        · intro ranges h
          cases h
        · intro _ left h
          split_ifs at h
          omega
      · rw [if_neg hbad, if_neg (by omega), if_neg (by omega), if_neg (by omega)]
        have hmin : (min % 2 ^ 16).toNat = min.toNat := by omega
        have hmax : (max % 2 ^ 16).toNat = max.toNat := by omega
        rw [hmin, hmax]
        obtain ⟨hsome, hnone⟩ := ih rest (⟨min.toNat, max.toNat⟩ :: ret)
        constructor
        · intro ranges h
          obtain ⟨tail, htail, rfl⟩ := Option.map_eq_some_iff.mp h
          obtain ⟨hcheck, hcollect, hvalid⟩ := hsome tail htail
          refine ⟨hcheck, ?_, ?_⟩
          · rw [hcollect, reverse_cons, append_assoc]
            rfl
          · intro s hs
            rcases mem_cons.mp hs with rfl | hs
            · exact ⟨by dsimp only; omega, by dsimp only; omega⟩
            · exact hvalid s hs
        · intro h
          exact hnone (Option.map_eq_none_iff.mp h)

lemma cbsExtractTopicRangesPasses_eq (str : List Char) :
    cbsExtractTopicRangesPasses str = cbsExtractTopicRanges str := by
  obtain ⟨hsome, hnone⟩ := extractLoop_passes (str.length + 1) str []
  unfold cbsExtractTopicRangesPasses cbsExtractTopicRanges
  cases hloop : extractLoop (str.length + 1) str with
  | none =>
    cases hcheck : checkPass (str.length + 1) str with
    | none => rfl
    | some rest =>
      dsimp only
      rw [if_pos (hnone hloop rest hcheck)]
  | some ranges =>
    obtain ⟨hcheck, hcollect, hvalid⟩ := hsome ranges hloop
    rw [hcheck, hcollect]
    dsimp only
    rw [if_neg (not_not_intro rfl), append_nil, cbsOptimizeRangesBitmap_eq, optimize_reverse]
    intro r hr
    exact hvalid r (mem_reverse.mp hr)

/-! ## Fields -/

/-- A decimal numeral of any length. -/
structure Numeral where
  digits : List Char
  nonempty : digits ≠ []
  decimal : ∀ c ∈ digits, c.isDigit = true

/-- The number of a numeral. -/
def Numeral.value (n : Numeral) : ℕ := Nat.ofDigitChars 10 n.digits 0

inductive TopicField where
  | single (topic : Numeral)
  | range (low high : Numeral)

namespace TopicField

def low : TopicField → Numeral
  | single topic => topic
  | range low _ => low

def high : TopicField → Numeral
  | single topic => topic
  | range _ high => high

def chars : TopicField → List Char
  | single topic => topic.digits
  | range low high => low.digits ++ '-' :: high.digits

/-- Both numbers are at most 999 and they are in order. -/
def InRange (f : TopicField) : Prop :=
  f.low.value ≤ 999 ∧ f.high.value ≤ 999 ∧ f.low.value ≤ f.high.value

/-- The same of what is left of the numbers in 32 bits. -/
def WrappedInRange (f : TopicField) : Prop :=
  f.low.value % 2 ^ 32 ≤ 999 ∧ f.high.value % 2 ^ 32 ≤ 999 ∧
    f.low.value % 2 ^ 32 ≤ f.high.value % 2 ^ 32

instance (f : TopicField) : Decidable f.WrappedInRange := inferInstanceAs (Decidable (_ ∧ _))

/-- The range of what is left in 32 bits. -/
def wrapped (f : TopicField) : CbsTopicRange := ⟨f.low.value % 2 ^ 32, f.high.value % 2 ^ 32⟩

end TopicField

/-- Commas and spaces between two fields. -/
structure Separator where
  chars : List Char
  nonempty : chars ≠ []
  separating : ∀ c ∈ chars, c = ',' ∨ c = ' '

/-- No comma but the first character. -/
def Separator.Plain (sep : Separator) : Prop := ∀ c ∈ sep.chars.tail, c = ' '

instance (sep : Separator) : Decidable sep.Plain := inferInstanceAs (Decidable (∀ c ∈ _, _))

/-- The string of a field and of those behind it, each after its separator. -/
def fieldString (first : TopicField) : List (Separator × TopicField) → List Char
  | [] => first.chars
  | (sep, field) :: rest => first.chars ++ (sep.chars ++ fieldString field rest)

def fieldsOf (first : TopicField) (rest : List (Separator × TopicField)) : List TopicField :=
  first :: rest.map Prod.snd

/-! ## Numerals -/

lemma bmod_next (k m d : ℕ) : ((m : ℤ).bmod k * 10 + d).bmod k = ((10 * m + d : ℕ) : ℤ).bmod k := by
  rw [← Int.bmod_add_bmod, Int.bmod_mul_bmod, Int.bmod_add_bmod]
  push_cast
  rw [mul_comm]

lemma numeral_eq_bmod (n : Numeral) : numeral n.digits = (n.value : ℤ).bmod (2 ^ 32) := by
  have hfold : ∀ (l : List Char) (m : ℕ), (∀ c ∈ l, c.isDigit = true) →
      l.foldl (fun (k : ℤ) c => (k * 10 + (c.toNat - '0'.toNat)).bmod (2 ^ 32))
        ((m : ℤ).bmod (2 ^ 32)) = ((Nat.ofDigitChars 10 l m : ℕ) : ℤ).bmod (2 ^ 32) := by
    intro l
    induction l with
    | nil =>
      intro m _
      rw [foldl_nil, Nat.ofDigitChars_nil]
    | cons c l ih =>
      intro m hl
      have hdigit := hl c mem_cons_self
      have hlow : '0'.toNat ≤ c.toNat := by
        simp only [Char.isDigit, Bool.and_eq_true, decide_eq_true_iff] at hdigit
        exact hdigit.1
      rw [foldl_cons, Nat.ofDigitChars_cons, ← Int.ofNat_sub hlow, bmod_next]
      exact ih _ fun d hd => hl d (mem_cons_of_mem c hd)
  exact hfold n.digits 0 n.decimal

lemma bmod_le_iff (n : ℕ) : (0 ≤ (n : ℤ).bmod (2 ^ 32) ∧ (n : ℤ).bmod (2 ^ 32) ≤ 999 ↔
    n % 2 ^ 32 ≤ 999) ∧ (n % 2 ^ 32 ≤ 999 → (n : ℤ).bmod (2 ^ 32) = ((n % 2 ^ 32 : ℕ) : ℤ)) := by
  rw [Int.bmod_def]
  constructor
  · split <;> omega
  · intro h
    split <;> omega

/-! ## Reading a field -/

/-- A string that goes on with no digit. -/
def NoDigit (str : List Char) : Prop := ∀ c ∈ str.head?, c.isDigit = false

variable {rest : List Char}

lemma span_numeral (n : Numeral) (h : NoDigit rest) : (n.digits ++ rest).takeWhile Char.isDigit =
    n.digits ∧ (n.digits ++ rest).dropWhile Char.isDigit = rest := by
  rw [takeWhile_append_of_pos n.decimal, dropWhile_append_of_pos n.decimal]
  cases rest with
  | nil => simp
  | cons c rest =>
    have hc : ¬ c.isDigit = true := by simp [h c rfl]
    rw [takeWhile_cons_of_neg hc, dropWhile_cons_of_neg hc, append_nil]
    exact ⟨rfl, rfl⟩

lemma dropSpaces_numeral (n : Numeral) (rest : List Char) :
    (n.digits ++ rest).dropWhile (· = ' ') = n.digits ++ rest := by
  obtain ⟨c, tail, hdigits⟩ := exists_cons_of_ne_nil n.nonempty
  have hdigit := n.decimal c (by rw [hdigits]; exact mem_cons_self)
  have hspace : c ≠ ' ' := by
    rintro rfl
    cases hdigit
  simp [hdigits, hspace]

lemma nextRange_field (f : TopicField) (h : ∀ c ∈ rest.head?, c = ',' ∨ c = ' ') :
    nextRange (f.chars ++ rest) =
      some (numeral f.low.digits, numeral f.high.digits, skipToNextField rest) := by
  have hend : NoDigit rest := by
    intro c hc
    rcases h c hc with rfl | rfl <;> rfl
  -- the string does not go on with a second numeral
  have hdash : ∀ tail : List Char, rest = '-' :: tail → False := by
    rintro tail rfl
    rcases h '-' rfl with h | h <;> cases h
  cases f with
  | single topic =>
    obtain ⟨htake, hdrop⟩ := span_numeral topic hend
    unfold nextRange TopicField.chars TopicField.low TopicField.high
    simp only [dropSpaces_numeral, htake, hdrop, if_neg topic.nonempty]
  | range low high =>
    have hlow : NoDigit ('-' :: (high.digits ++ rest)) := by
      intro c hc
      cases hc
      rfl
    obtain ⟨htake, hdrop⟩ := span_numeral low hlow
    obtain ⟨htake', hdrop'⟩ := span_numeral high hend
    unfold nextRange TopicField.chars TopicField.low TopicField.high
    simp only [append_assoc, cons_append, dropSpaces_numeral, htake, hdrop,
      if_neg low.nonempty, htake', hdrop', if_neg high.nonempty]

lemma dropSpaces_fieldString (first : TopicField) (rest : List (Separator × TopicField)) :
    (fieldString first rest).dropWhile (· = ' ') = fieldString first rest := by
  have hfield : ∀ tail, (first.chars ++ tail).dropWhile (· = ' ') = first.chars ++ tail := by
    intro tail
    cases first with
    | single topic => exact dropSpaces_numeral topic tail
    | range low high =>
      unfold TopicField.chars
      rw [append_assoc]
      exact dropSpaces_numeral low _
  cases rest with
  | nil =>
    have hnil := hfield []
    rwa [append_nil] at hnil
  | cons r rest => exact hfield _

lemma skipToNextField_separator (sep : Separator) (rest : List Char) :
    skipToNextField (sep.chars ++ rest) = (sep.chars.tail ++ rest).dropWhile (· = ' ') := by
  obtain ⟨chars, nonempty, separating⟩ := sep
  dsimp only
  cases chars with
  | nil => exact absurd rfl nonempty
  | cons c tail => rcases separating c mem_cons_self with rfl | rfl <;> rfl

lemma skipToNextField_plain {sep : Separator} (hsep : sep.Plain)
    (h : rest.dropWhile (· = ' ') = rest) : skipToNextField (sep.chars ++ rest) = rest := by
  rw [skipToNextField_separator, dropWhile_append_of_pos, h]
  intro d hd
  simpa using hsep d hd

lemma skipToNextField_comma {sep : Separator} (hsep : ¬ sep.Plain) (rest : List Char) :
    ∃ tail, skipToNextField (sep.chars ++ rest) = ',' :: tail := by
  have hleft : ∀ tail : List Char, (∀ d ∈ tail, d = ',' ∨ d = ' ') → (¬ ∀ d ∈ tail, d = ' ') →
      ∃ left, (tail ++ rest).dropWhile (· = ' ') = ',' :: left := by
    intro tail htail hcomma
    induction tail with
    | nil => exact absurd (fun d hd => absurd hd not_mem_nil) hcomma
    | cons d tail ih =>
      rcases htail d mem_cons_self with rfl | rfl
      · exact ⟨tail ++ rest, rfl⟩
      · apply ih (fun e he => htail e (mem_cons_of_mem _ he))
        intro hall
        apply hcomma
        intro e he
        rcases mem_cons.mp he with rfl | he
        · rfl
        · exact hall e he
  rw [skipToNextField_separator]
  exact hleft _ (fun d hd => sep.separating d (mem_of_mem_tail hd)) hsep

/-! ## Reading all fields -/

lemma wrappedInRange_iff (f : TopicField) : (¬ (numeral f.low.digits < 0 ∨ 999 < numeral
    f.low.digits ∨ numeral f.high.digits < 0 ∨ 999 < numeral f.high.digits ∨ numeral f.high.digits <
    numeral f.low.digits) ↔ f.WrappedInRange) ∧ (f.WrappedInRange → (⟨(numeral f.low.digits).toNat,
    (numeral f.high.digits).toNat⟩ : CbsTopicRange) = f.wrapped) := by
  rw [numeral_eq_bmod, numeral_eq_bmod]
  obtain ⟨hlow, hlow'⟩ := bmod_le_iff f.low.value
  obtain ⟨hhigh, hhigh'⟩ := bmod_le_iff f.high.value
  unfold TopicField.WrappedInRange TopicField.wrapped
  generalize f.low.value % 2 ^ 32 = low at *
  generalize f.high.value % 2 ^ 32 = high at *
  constructor
  · constructor
    · intro h
      have hl := hlow.mp (by omega)
      have hh := hhigh.mp (by omega)
      have hl' := hlow' hl
      have hh' := hhigh' hh
      omega
    · rintro ⟨hl, hh, hle⟩
      rw [hlow' hl, hhigh' hh]
      omega
  · rintro ⟨hl, hh, -⟩
    rw [hlow' hl, hhigh' hh]
    rfl

/-- Every field and every separator passes. -/
def Accepted (first : TopicField) (rest : List (Separator × TopicField)) : Prop :=
  (∀ f ∈ fieldsOf first rest, f.WrappedInRange) ∧ ∀ p ∈ rest, p.1.Plain

lemma accepted_cons (first : TopicField) (p : Separator × TopicField)
    (rest : List (Separator × TopicField)) :
    Accepted first (p :: rest) ↔ first.WrappedInRange ∧ p.1.Plain ∧ Accepted p.2 rest := by
  unfold Accepted fieldsOf
  simp only [map_cons, forall_mem_cons]
  tauto

lemma extractLoop_comma (fuel : ℕ) (tail : List Char) : extractLoop fuel (',' :: tail) = none := by
  cases fuel <;> rfl

lemma extractLoop_fieldString (first : TopicField) (rest : List (Separator × TopicField)) {fuel : ℕ}
    (hfuel : rest.length + 2 ≤ fuel) : (Accepted first rest → extractLoop fuel
    (fieldString first rest) = some ((fieldsOf first rest).map TopicField.wrapped)) ∧
    (¬ Accepted first rest → extractLoop fuel (fieldString first rest) = none) := by
  induction rest generalizing first fuel with
  | nil =>
    obtain ⟨fuel, rfl⟩ : ∃ n, fuel = n + 2 := ⟨fuel - 2, by rw [length_nil] at hfuel; omega⟩
    have hlast : ∀ c ∈ ([] : List Char).head?, c = ',' ∨ c = ' ' := fun c hc =>
      absurd hc (Option.not_mem_none c)
    have hnext := nextRange_field first hlast
    rw [append_nil] at hnext
    have haccepted : Accepted first [] ↔ first.WrappedInRange := by
      simp [Accepted, fieldsOf]
    obtain ⟨hcheck, hrange⟩ := wrappedInRange_iff first
    rw [haccepted, fieldString, extractLoop, hnext]
    dsimp only
    constructor
    · intro h
      rw [if_neg (hcheck.mpr h), hrange h]
      rfl
    · intro h
      rw [if_pos (not_not.mp fun hno => h (hcheck.mp hno))]
  | cons p rest ih =>
    obtain ⟨sep, field⟩ := p
    obtain ⟨fuel, rfl⟩ : ∃ n, fuel = n + 1 := ⟨fuel - 1, by omega⟩
    have hsep : ∀ c ∈ (sep.chars ++ fieldString field rest).head?, c = ',' ∨ c = ' ' := by
      intro c hc
      obtain ⟨d, tail, hchars⟩ := exists_cons_of_ne_nil sep.nonempty
      rw [hchars] at hc
      cases hc
      exact sep.separating c (by rw [hchars]; exact mem_cons_self)
    have hnext := nextRange_field first hsep
    obtain ⟨hcheck, hrange⟩ := wrappedInRange_iff first
    have hturns : rest.length + 2 ≤ fuel := by
      rw [length_cons] at hfuel
      omega
    obtain ⟨hall, hnone⟩ := ih field hturns
    have hspaces := dropSpaces_fieldString field rest
    rw [accepted_cons, fieldString, extractLoop, hnext]
    dsimp only
    constructor
    · rintro ⟨h, hplain, hrest⟩
      rw [if_neg (hcheck.mpr h), skipToNextField_plain hplain hspaces, hall hrest, hrange h]
      rfl
    · intro h
      by_cases hfirst : first.WrappedInRange
      · rw [if_neg (hcheck.mpr hfirst)]
        by_cases hplain : sep.Plain
        · rw [skipToNextField_plain hplain hspaces, hnone fun hrest => h ⟨hfirst, hplain, hrest⟩]
          rfl
        · obtain ⟨tail, htail⟩ := skipToNextField_comma hplain (fieldString field rest)
          rw [htail, extractLoop_comma]
          rfl
      · rw [if_pos (not_not.mp fun hno => hfirst (hcheck.mp hno))]

lemma length_fieldString (first : TopicField) (rest : List (Separator × TopicField)) :
    rest.length + 1 ≤ (fieldString first rest).length := by
  have hfield : ∀ f : TopicField, 1 ≤ f.chars.length := by
    intro f
    cases f with
    | single topic => exact length_pos_iff.mpr topic.nonempty
    | range low high =>
      rw [TopicField.chars, length_append, length_cons]
      omega
  induction rest generalizing first with
  | nil => exact hfield first
  | cons p rest ih =>
    have hfirst := hfield first
    have hrest := ih p.2
    rw [fieldString, length_append, length_append, length_cons]
    omega

lemma cbsExtract_fieldString (first : TopicField) (rest : List (Separator × TopicField)) :
    (Accepted first rest → cbsExtractTopicRanges (fieldString first rest) =
      cbsOptimizeRanges ((fieldsOf first rest).map TopicField.wrapped)) ∧
    (¬ Accepted first rest → cbsExtractTopicRanges (fieldString first rest) = []) := by
  have hlength := length_fieldString first rest
  have hfuel : rest.length + 2 ≤ (fieldString first rest).length + 1 := by omega
  obtain ⟨hall, hnone⟩ := extractLoop_fieldString first rest hfuel
  unfold cbsExtractTopicRanges
  constructor
  · intro h
    rw [hall h]
  · intro h
    rw [hnone h]

/-! ## Which strings are read as they are meant -/

lemma TopicField.valid_wrapped {f : TopicField} (h : f.WrappedInRange) : f.wrapped.Valid :=
  ⟨h.2.2, h.2.1⟩

lemma cbsExtract_ne_nil_iff (first : TopicField) (rest : List (Separator × TopicField)) :
    cbsExtractTopicRangesPasses (fieldString first rest) ≠ [] ↔ Accepted first rest := by
  obtain ⟨hall, hnone⟩ := cbsExtract_fieldString first rest
  rw [cbsExtractTopicRangesPasses_eq]
  by_cases h : Accepted first rest
  · refine ⟨fun _ => h, fun _ => ?_⟩
    rw [hall h]
    apply optimize_ne_nil
    · intro r hr
      obtain ⟨f, hf, rfl⟩ := mem_map.mp hr
      exact TopicField.valid_wrapped (h.1 f hf)
    · exact cons_ne_nil _ _
  · exact ⟨fun hne => absurd (hnone h) hne, fun hacc => absurd hacc h⟩

lemma TopicField.InRange.wrapped {f : TopicField} (h : f.InRange) :
    f.WrappedInRange ∧ f.wrapped = ⟨f.low.value, f.high.value⟩ := by
  obtain ⟨hlow, hhigh, hle⟩ := h
  have hl : f.low.value % 2 ^ 32 = f.low.value := Nat.mod_eq_of_lt (by omega)
  have hh : f.high.value % 2 ^ 32 = f.high.value := Nat.mod_eq_of_lt (by omega)
  unfold TopicField.WrappedInRange TopicField.wrapped
  rw [hl, hh]
  exact ⟨⟨hlow, hhigh, hle⟩, rfl⟩

/-- The string is read as it is meant: there is a list exactly if every numeral is at most 999
and no range is reversed, and then it has the topics of the fields. -/
def ReadAsMeant (first : TopicField) (rest : List (Separator × TopicField)) : Prop :=
  (cbsExtractTopicRangesPasses (fieldString first rest) ≠ [] ↔
    ∀ f ∈ fieldsOf first rest, f.InRange) ∧
  ((∀ f ∈ fieldsOf first rest, f.InRange) →
    ∀ t, HasTopic (cbsExtractTopicRangesPasses (fieldString first rest)) t ↔
      ∃ f ∈ fieldsOf first rest, f.low.value ≤ t ∧ t ≤ f.high.value)

lemma hasTopic_extract {first : TopicField} {rest : List (Separator × TopicField)}
    (haccepted : Accepted first rest) (hrange : ∀ f ∈ fieldsOf first rest, f.InRange) (t : ℕ) :
    HasTopic (cbsExtractTopicRangesPasses (fieldString first rest)) t ↔
      ∃ f ∈ fieldsOf first rest, f.low.value ≤ t ∧ t ≤ f.high.value := by
  have hvalid : ∀ r ∈ (fieldsOf first rest).map TopicField.wrapped, r.Valid := by
    intro r hr
    obtain ⟨f, hf, rfl⟩ := mem_map.mp hr
    exact TopicField.valid_wrapped (haccepted.1 f hf)
  rw [cbsExtractTopicRangesPasses_eq, (cbsExtract_fieldString first rest).1 haccepted,
    hasTopic_optimize hvalid]
  constructor
  · rintro ⟨r, hr, hin⟩
    obtain ⟨f, hf, rfl⟩ := mem_map.mp hr
    rw [(hrange f hf).wrapped.2] at hin
    exact ⟨f, hf, hin⟩
  · rintro ⟨f, hf, hin⟩
    refine ⟨f.wrapped, mem_map_of_mem hf, ?_⟩
    rw [(hrange f hf).wrapped.2]
    exact hin

/-- A string of fields is read as it is meant exactly if all its numbers are in range and its
separators are plain, or some number is not in range in 32 bits either or some separator is not
plain. -/
theorem cbsExtractTopicRanges_meant_iff (first : TopicField) (rest : List (Separator × TopicField))
    : ReadAsMeant first rest ↔ ((∀ f ∈ fieldsOf first rest, f.InRange) ∧ ∀ p ∈ rest, p.1.Plain) ∨
    ((∃ f ∈ fieldsOf first rest, ¬ f.InRange) ∧
    ((∃ f ∈ fieldsOf first rest, ¬ f.WrappedInRange) ∨ ∃ p ∈ rest, ¬ p.1.Plain)) := by
  have hnull := cbsExtract_ne_nil_iff first rest
  unfold ReadAsMeant
  by_cases hrange : ∀ f ∈ fieldsOf first rest, f.InRange
  · have hwrapped : ∀ f ∈ fieldsOf first rest, f.WrappedInRange := fun f hf =>
      (hrange f hf).wrapped.1
    have hsome : ¬ ∃ f ∈ fieldsOf first rest, ¬ f.InRange := by
      rintro ⟨f, hf, hout⟩
      exact hout (hrange f hf)
    simp only [iff_true_intro hrange, iff_true, true_and, hsome, false_and, or_false, forall_const]
    constructor
    · rintro ⟨hne, -⟩
      exact (hnull.mp hne).2
    · intro hplain
      exact ⟨hnull.mpr ⟨hwrapped, hplain⟩, hasTopic_extract ⟨hwrapped, hplain⟩ hrange⟩
  · have hsome : ∃ f ∈ fieldsOf first rest, ¬ f.InRange := by
      push Not at hrange
      exact hrange
    simp only [iff_false_intro hrange, iff_false, false_and, false_or, hsome, true_and,
      IsEmpty.forall_iff, and_true, not_not]
    rw [← not_not (a := _ = []), ← ne_eq, hnull, Accepted, not_and_or]
    push Not
    rfl

/-- `4294967297` is read as the topic 1. -/
theorem cbsExtractTopicRanges_wraps :
    ¬ ∀ (first : TopicField) (rest : List (Separator × TopicField)), ReadAsMeant first rest := by
  intro h
  have hmeant := h (.single ⟨['4', '2', '9', '4', '9', '6', '7', '2', '9', '7'], by simp, by simp⟩) []
  have hone : Nat.ofDigitChars 10 ['4', '2', '9', '4', '9', '6', '7', '2', '9', '7'] 0 =
      4294967297 := rfl
  have hrange := hmeant.1.mp ((cbsExtract_ne_nil_iff _ _).mpr ⟨by
    simp [fieldsOf, TopicField.WrappedInRange, TopicField.low, TopicField.high, Numeral.value, hone],
    fun p hp => absurd hp not_mem_nil⟩)
  have hle := (hrange _ mem_cons_self).1
  rw [TopicField.low, Numeral.value, hone] at hle
  omega

end Phonelets.Sms
