import Phonelets.Lib.Decoder
import Phonelets.Sms.CbsTopicFields

/-! # Lists of topic ranges as strings

`cbs_topic_ranges_to_string` adds up the lengths of the ranges, allocates so many octets and
one more for each range, and prints one range after the other to them.
-/

namespace Phonelets.Sms

open List

/-! ## Printing to the octets of the string -/

def elementLength (element : ℕ) : ℕ :=
  if element ≤ 9 then 1
  else if element ≤ 99 then 2
  else if element ≤ 999 then 3
  else if element ≤ 9999 then 4
  else 5

def rangeLength (range : CbsTopicRange) : ℕ :=
  if range.min = range.max then elementLength range.min
  else elementLength range.min + elementLength range.max + 1

def nulChar : Char := Char.ofNat 0

/-- Characters stored to allocated octets, of which some may not have been written yet. -/
def storeChars (cells : List (Option Char)) (pos : ℕ) (chars : List Char) :
    Outcome (List (Option Char)) :=
  if pos + chars.length ≤ cells.length then
    .ok (cells.take pos ++ (chars.map some ++ cells.drop (pos + chars.length)))
  else .fault

/-- The loop that prints, from `ret + len` on; `sprintf` puts a NUL behind what it prints. -/
def printLoop : List CbsTopicRange → ℕ → List (Option Char) → Outcome (List (Option Char))
  | [], _, cells => .ok cells
  | range :: rest, len, cells => do
      let cells ← storeChars cells len (range.toChars ++ [nulChar])
      let len := len + range.toChars.length
      if rest ≠ [] then
        let cells ← storeChars cells len [',']
        printLoop rest (len + 1) cells
      else printLoop rest len cells

/-- `cbs_topic_ranges_to_string` with its octets: those that were allocated, and what has been
written to each. -/
def cbsTopicRangesToStringCells (ranges : List CbsTopicRange) : Outcome (List (Option Char)) :=
  if ranges = [] then .ok [some nulChar]
  else
    let len := (ranges.map rangeLength).sum
    let nelem := ranges.length
    printLoop ranges 0 (List.replicate (len + nelem) none)

/-! ## Lengths -/

/-- The numbers of a range are those of an `unsigned short`. -/
def CbsTopicRange.Short (range : CbsTopicRange) : Prop :=
  range.min < 2 ^ 16 ∧ range.max < 2 ^ 16

variable {range : CbsTopicRange}

lemma CbsTopicRange.Valid.short (h : range.Valid) : range.Short := by
  have hordered := h.ordered
  have hbound := h.bound
  exact ⟨by omega, by omega⟩

lemma length_toDigits {n : ℕ} (h : n < 2 ^ 16) : (Nat.toDigits 10 n).length = elementLength n := by
  have hle : ∀ k, 0 < k → ((Nat.toDigits 10 n).length ≤ k ↔ n < 10 ^ k) := fun k hk =>
    Nat.length_toDigits_le_iff (by omega) hk
  have hpos : 0 < (Nat.toDigits 10 n).length := Nat.length_toDigits_pos
  have h₁ := hle 1 (by omega)
  have h₂ := hle 2 (by omega)
  have h₃ := hle 3 (by omega)
  have h₄ := hle 4 (by omega)
  have h₅ := hle 5 (by omega)
  unfold elementLength
  split_ifs <;> omega

lemma length_toChars (h : range.Short) : range.toChars.length = rangeLength range := by
  unfold CbsTopicRange.toChars rangeLength
  by_cases heq : range.min = range.max
  · rw [if_neg (not_not_intro heq), if_pos heq, length_toDigits h.1]
  · rw [if_pos heq, if_neg heq, length_append, length_cons, length_toDigits h.1,
      length_toDigits h.2]
    omega

/-! ## The loop -/

lemma cbsTopicRangesToString_single (r : CbsTopicRange) :
    cbsTopicRangesToString [r] = r.toChars := by
  simp [cbsTopicRangesToString]

lemma cbsTopicRangesToString_cons (r s : CbsTopicRange) (ranges : List CbsTopicRange) :
    cbsTopicRangesToString (r :: s :: ranges) =
      r.toChars ++ ([','] ++ cbsTopicRangesToString (s :: ranges)) := by
  simp [cbsTopicRangesToString, List.intercalate]

lemma storeChars_behind (done chars : List Char) {old : List (Option Char)}
    (h : chars.length ≤ old.length) : storeChars (done.map some ++ old) done.length chars =
    .ok ((done ++ chars).map some ++ old.drop chars.length) := by
  have hdone : (done.map some).length = done.length := length_map _
  unfold storeChars
  rw [if_pos (by rw [length_append, hdone]; omega), ← drop_drop, ← hdone, take_left,
    drop_left, map_append, append_assoc]

variable {ranges : List CbsTopicRange}

lemma printLoop_ok (hne : ranges ≠ []) (hshort : ∀ r ∈ ranges, r.Short) (done : List Char)
    {old : List (Option Char)} (hold : old.length = (ranges.map rangeLength).sum + ranges.length) :
    printLoop ranges done.length (done.map some ++ old) =
    .ok ((done ++ (cbsTopicRangesToString ranges ++ [nulChar])).map some) := by
  induction ranges generalizing done old with
  | nil => exact absurd rfl hne
  | cons r ranges ih =>
    have hlength := length_toChars (hshort r mem_cons_self)
    rw [map_cons, sum_cons, length_cons] at hold
    rw [printLoop, storeChars_behind done (r.toChars ++ [nulChar]) (by
      rw [length_append, length_singleton]
      omega), Outcome.ok_bind]
    dsimp only
    cases ranges with
    | nil =>
      rw [if_neg (not_not_intro rfl), printLoop, drop_eq_nil_of_le, append_nil,
        cbsTopicRangesToString_single]
      · rw [length_append, length_singleton]
        simp only [map_nil, sum_nil, length_nil] at hold
        omega
    | cons s ranges =>
      rw [if_pos (cons_ne_nil _ _)]
      -- the comma takes the place of the NUL
      have hcells : ((done ++ (r.toChars ++ [nulChar])).map some ++
          old.drop (r.toChars ++ [nulChar]).length : List (Option Char)) =
          (done ++ r.toChars).map some ++
            (some nulChar :: old.drop (r.toChars ++ [nulChar]).length) := by
        simp
      have hpos : done.length + r.toChars.length = (done ++ r.toChars).length := by
        rw [length_append]
      rw [hcells, hpos, storeChars_behind (done ++ r.toChars) [','] (by simp), Outcome.ok_bind]
      have hnext : (done ++ r.toChars).length + 1 = (done ++ r.toChars ++ [',']).length := by
        simp
        omega
      rw [hnext, ih (cons_ne_nil _ _) (fun q hq => hshort q (mem_cons_of_mem r hq))]
      · rw [cbsTopicRangesToString_cons]
        simp only [append_assoc]
      · rw [length_drop, length_cons, length_drop, length_append,
          length_singleton, length_singleton]
        omega

lemma cbsTopicRangesToStringCells_ok (hshort : ∀ r ∈ ranges, r.Short) : cbsTopicRangesToStringCells
    ranges = .ok ((cbsTopicRangesToString ranges ++ [nulChar]).map some) := by
  unfold cbsTopicRangesToStringCells
  split
  · rename_i hempty
    rw [hempty]
    rfl
  · rename_i hne
    exact printLoop_ok hne hshort [] length_replicate

/-! ## Reading what is printed -/

def numeralOf (n : ℕ) : Numeral where
  digits := Nat.toDigits 10 n
  nonempty := Nat.toDigits_ne_nil
  decimal _ hc := Nat.isDigit_of_mem_toDigits (by omega) (by omega) hc

lemma value_numeralOf (n : ℕ) : (numeralOf n).value = n := Nat.ofDigitChars_ten_toDigits

def fieldOf (range : CbsTopicRange) : TopicField :=
  if range.min = range.max then .single (numeralOf range.min)
  else .range (numeralOf range.min) (numeralOf range.max)

lemma chars_fieldOf (range : CbsTopicRange) : (fieldOf range).chars = range.toChars := by
  unfold fieldOf CbsTopicRange.toChars
  by_cases h : range.min = range.max
  · rw [if_pos h, if_neg (not_not_intro h)]
    rfl
  · rw [if_neg h, if_pos h]
    rfl

lemma values_fieldOf (range : CbsTopicRange) :
    (fieldOf range).low.value = range.min ∧ (fieldOf range).high.value = range.max := by
  unfold fieldOf
  split
  · rename_i h
    exact ⟨value_numeralOf _, h ▸ value_numeralOf _⟩
  · exact ⟨value_numeralOf _, value_numeralOf _⟩

/-- The comma that is printed between two ranges. -/
def comma : Separator where
  chars := [',']
  nonempty := List.cons_ne_nil _ _
  separating _ hc := .inl (List.mem_singleton.mp hc)

def fieldsBehind (ranges : List CbsTopicRange) : List (Separator × TopicField) :=
  ranges.map fun r => (comma, fieldOf r)

lemma fieldString_fieldOf (r : CbsTopicRange) (ranges : List CbsTopicRange) :
    fieldString (fieldOf r) (fieldsBehind ranges) = cbsTopicRangesToString (r :: ranges) := by
  induction ranges generalizing r with
  | nil => rw [cbsTopicRangesToString_single, ← chars_fieldOf, fieldsBehind, map_nil, fieldString]
  | cons s ranges ih =>
    rw [cbsTopicRangesToString_cons, ← ih s, ← chars_fieldOf, fieldsBehind, map_cons, fieldString]
    rfl

lemma inRange_fieldOf (h : range.Valid) : (fieldOf range).InRange := by
  have hordered := h.ordered
  have hbound := h.bound
  unfold TopicField.InRange
  rw [(values_fieldOf range).1, (values_fieldOf range).2]
  exact ⟨by omega, hbound, hordered⟩

lemma wrapped_fieldOf (h : range.Valid) : (fieldOf range).wrapped = range := by
  rw [(inRange_fieldOf h).wrapped.2, (values_fieldOf range).1, (values_fieldOf range).2]

lemma extract_toString (h : ∀ r ∈ ranges, r.Valid) :
    cbsExtractTopicRangesPasses (cbsTopicRangesToString ranges) = cbsOptimizeRanges ranges := by
  rw [cbsExtractTopicRangesPasses_eq]
  cases ranges with
  | nil => rfl
  | cons r ranges =>
    have hfields : fieldsOf (fieldOf r) (fieldsBehind ranges) = (r :: ranges).map fieldOf := by
      unfold fieldsOf fieldsBehind
      rw [map_map]
      rfl
    have haccepted : Accepted (fieldOf r) (fieldsBehind ranges) := by
      constructor
      · intro f hf
        rw [hfields] at hf
        obtain ⟨s, hs, rfl⟩ := mem_map.mp hf
        exact (inRange_fieldOf (h s hs)).wrapped.1
      · intro p hp
        obtain ⟨s, -, rfl⟩ := mem_map.mp hp
        intro c hc
        cases hc
    have hwrapped : ((r :: ranges).map fieldOf).map TopicField.wrapped = r :: ranges := by
      rw [map_map]
      exact (map_congr_left fun s hs => wrapped_fieldOf (h s hs)).trans (map_id _)
    rw [← fieldString_fieldOf, (cbsExtract_fieldString _ _).1 haccepted, hfields, hwrapped]

/-- The canonical form of a list of ranges up to 999 has the same topics, its string takes the
octets that are allocated for it, and from the string it comes back. -/
theorem cbsOptimizeRanges_roundtrip {ranges : List CbsTopicRange} (h : ∀ r ∈ ranges, r.Valid) :
    CanonicalTopics (cbsOptimizeRangesBitmap ranges) ∧
    (∀ t, HasTopic (cbsOptimizeRangesBitmap ranges) t ↔ HasTopic ranges t) ∧ (∀ topic : UInt32,
    cbsTopicInRange topic (cbsOptimizeRangesBitmap ranges) = cbsTopicInRange topic ranges) ∧
    ∀ l ∈ [ranges, cbsOptimizeRangesBitmap ranges],
    cbsTopicRangesToStringCells l = .ok ((cbsTopicRangesToString l ++ [nulChar]).map some) ∧
    cbsExtractTopicRangesPasses (cbsTopicRangesToString l) = cbsOptimizeRangesBitmap ranges := by
  rw [cbsOptimizeRangesBitmap_eq h]
  have hvalid := valid_optimize h
  refine ⟨canonicalTopics_optimize ranges, hasTopic_optimize h, ?_, ?_⟩
  · intro topic
    rw [Bool.eq_iff_iff, cbsTopicInRange_iff, cbsTopicInRange_iff]
    exact hasTopic_optimize h _
  · rw [forall_mem_cons, forall_mem_singleton]
    refine ⟨⟨?_, extract_toString h⟩, ?_, ?_⟩
    · exact cbsTopicRangesToStringCells_ok fun r hr => (h r hr).short
    · exact cbsTopicRangesToStringCells_ok fun r hr => (hvalid r hr).short
    · rw [extract_toString hvalid]
      exact optimize_canonical hvalid (canonicalTopics_optimize ranges)

/-- Three ranges that overlap and touch. -/
theorem cbsOptimizeRanges_roundtrip_three : (∀ r ∈ [(⟨5, 9⟩ : CbsTopicRange), ⟨1, 3⟩, ⟨4, 7⟩],
    r.Valid) ∧ cbsExtractTopicRangesPasses (cbsTopicRangesToString (cbsOptimizeRangesBitmap [⟨5, 9⟩,
    ⟨1, 3⟩, ⟨4, 7⟩])) = cbsOptimizeRangesBitmap [⟨5, 9⟩, ⟨1, 3⟩, ⟨4, 7⟩] := by
  have hvalid : ∀ r ∈ [(⟨5, 9⟩ : CbsTopicRange), ⟨1, 3⟩, ⟨4, 7⟩], r.Valid := by
    intro r hr
    simp only [mem_cons, not_mem_nil, or_false] at hr
    rcases hr with rfl | rfl | rfl <;> exact ⟨by decide, by decide⟩
  exact ⟨hvalid, ((cbsOptimizeRanges_roundtrip hvalid).2.2.2 _ (by simp)).2⟩

end Phonelets.Sms
