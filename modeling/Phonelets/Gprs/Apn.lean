import Mathlib.Data.List.Basic

/-! # Access point names

`is_valid_apn` walks over the characters and keeps the position of the last period. The position
starts at 0, where there is no period, and it is not looked at once the name has ended: the first
label and the end of the name are treated otherwise than what is in between.
-/

namespace Phonelets.Gprs

open List

/-! ## The check -/

def gAsciiIsalnum (c : Char) : Bool := c.isAlphanum

/-- The loop of `is_valid_apn` from position `i` on. -/
def isValidApnLoop : List Char → ℕ → ℕ → Bool
  | [], _, _ => true
  | c :: rest, i, lastPeriod =>
    if gAsciiIsalnum c then isValidApnLoop rest (i + 1) lastPeriod
    else if c = '-' then isValidApnLoop rest (i + 1) lastPeriod
    else if c = '.' ∧ i - lastPeriod > 1 then isValidApnLoop rest (i + 1) i
    else false

def isValidApn (apn : List Char) : Bool :=
  if apn.head? = some '.' ∨ apn = [] then false else isValidApnLoop apn 0 0

/-! ## Names -/

/-- What a label is made of. -/
def LabelChar (c : Char) : Prop := gAsciiIsalnum c = true ∨ c = '-'

/-- A label that is not empty. -/
def Label (l : List Char) : Prop := l ≠ [] ∧ ∀ c ∈ l, LabelChar c

/-- Labels that are each preceded by a period. -/
def moreLabels (labels : List (List Char)) : List Char := labels.flatMap ('.' :: ·)

/-- A first label and further ones, separated by single periods. -/
def ApnOf (first : List Char) (labels : List (List Char)) (apn : List Char) : Prop :=
  Label first ∧ (∀ l ∈ labels, Label l) ∧ apn = first ++ moreLabels labels

/-- A sequence of labels that is not empty. -/
def ValidApn (apn : List Char) : Prop := ∃ first labels, ApnOf first labels apn

/-- A name of two labels or more, the first of which is one character long. -/
def ShortFirstLabel (apn : List Char) : Prop :=
  ∃ first labels, ApnOf first labels apn ∧ first.length = 1 ∧ labels ≠ []

/-- A name with a period behind it, the first label of which has two characters at least. -/
def TrailingPeriod (apn : List Char) : Prop :=
  ∃ first labels name, ApnOf first labels name ∧ 2 ≤ first.length ∧ apn = name ++ ['.']

/-- `is_valid_apn` tells the valid names from the others. -/
def ChecksApn (apn : List Char) : Prop := isValidApn apn = true ↔ ValidApn apn

/-! ## What the loop takes -/

/-- What may follow the first character of a label; the flag says whether a period ends it. -/
inductive Remainder : Bool → List Char → Prop where
  | done : Remainder false []
  | trailing : Remainder true ['.']
  | char {b : Bool} {c : Char} {l : List Char} (hc : LabelChar c) (hl : Remainder b l) :
      Remainder b (c :: l)
  | label {b : Bool} {c : Char} {l : List Char} (hc : LabelChar c) (hl : Remainder b l) :
      Remainder b ('.' :: c :: l)

variable {b : Bool} {c : Char} {l apn : List Char} {i lastPeriod : ℕ}

lemma not_labelChar_period : ¬ LabelChar '.' := by
  rintro (h | h)
  · exact absurd h (by decide)
  · exact absurd h (by decide)

lemma remainder_cons (hc : LabelChar c) : Remainder b (c :: l) ↔ Remainder b l := by
  constructor
  · intro h
    cases h with
    | trailing => exact absurd hc not_labelChar_period
    | char _ hl => exact hl
    | label => exact absurd hc not_labelChar_period
  · exact .char hc

lemma remainder_period : Remainder b ('.' :: l) ↔
    (b = true ∧ l = []) ∨ ∃ d m, l = d :: m ∧ LabelChar d ∧ Remainder b m := by
  constructor
  · intro h
    cases h with
    | trailing => exact .inl ⟨rfl, rfl⟩
    | char hc => exact absurd hc not_labelChar_period
    | label hc hl => exact .inr ⟨_, _, rfl, hc, hl⟩
  · rintro (⟨rfl, rfl⟩ | ⟨d, m, rfl, hd, hm⟩)
    · exact .trailing
    · exact .label hd hm

lemma not_remainder_cons (hc : ¬ LabelChar c) (hperiod : c ≠ '.') : ¬ Remainder b (c :: l) := by
  intro h
  cases h with
  | trailing => exact hperiod rfl
  | char h => exact hc h
  | label => exact hperiod rfl

lemma loop_labelChar (hc : LabelChar c) :
    isValidApnLoop (c :: l) i lastPeriod = isValidApnLoop l (i + 1) lastPeriod := by
  rcases hc with hc | rfl
  · rw [isValidApnLoop, if_pos hc]
  · rfl

lemma loop_period : isValidApnLoop ('.' :: l) i lastPeriod =
    (decide (i - lastPeriod > 1) && isValidApnLoop l (i + 1) i) := by
  have halnum : ¬ gAsciiIsalnum '.' = true := by decide
  rw [isValidApnLoop, if_neg halnum, if_neg (by decide)]
  by_cases h : i - lastPeriod > 1
  · rw [if_pos ⟨rfl, h⟩, decide_eq_true h, Bool.true_and]
  · rw [if_neg fun hp => h hp.2, decide_eq_false h, Bool.false_and]

lemma loop_other (hc : ¬ LabelChar c) (hperiod : c ≠ '.') :
    isValidApnLoop (c :: l) i lastPeriod = false := by
  unfold LabelChar at hc
  rw [isValidApnLoop, if_neg fun h => hc (.inl h), if_neg fun h => hc (.inr h),
    if_neg fun h => hperiod h.1]

/-- One position behind the last one that was kept a period is refused, further on it is not. -/
lemma loop_eq_true (l : List Char) (i lastPeriod : ℕ) : (1 < i - lastPeriod → (isValidApnLoop l i
    lastPeriod = true ↔ ∃ b, Remainder b l)) ∧ (i - lastPeriod = 1 → (isValidApnLoop l i
    lastPeriod = true ↔ l = [] ∨ ∃ b d m, l = d :: m ∧ LabelChar d ∧ Remainder b m)) := by
  induction l generalizing i lastPeriod with
  | nil => exact ⟨fun _ => iff_of_true rfl ⟨_, .done⟩, fun _ => iff_of_true rfl (.inl rfl)⟩
  | cons c l ih =>
    constructor
    · intro hfar
      by_cases hc : LabelChar c
      · simp only [loop_labelChar hc, remainder_cons hc]
        exact (ih _ _).1 (by omega)
      · by_cases hperiod : c = '.'
        · subst hperiod
          rw [loop_period, decide_eq_true hfar, Bool.true_and, (ih _ _).2 (by omega)]
          simp only [remainder_period]
          constructor
          · rintro (rfl | ⟨b, h⟩)
            · exact ⟨true, .inl ⟨rfl, rfl⟩⟩
            · exact ⟨b, .inr h⟩
          · rintro ⟨b, ⟨-, h⟩ | h⟩
            · exact .inl h
            · exact .inr ⟨b, h⟩
        · rw [loop_other hc hperiod]
          exact iff_of_false Bool.false_ne_true fun ⟨b, h⟩ => not_remainder_cons hc hperiod h
    · intro hnear
      by_cases hc : LabelChar c
      · rw [loop_labelChar hc, (ih _ _).1 (by omega)]
        constructor
        · rintro ⟨b, h⟩
          exact .inr ⟨b, c, l, rfl, hc, h⟩
        · rintro (h | ⟨b, d, m, h, -, hm⟩)
          · cases h
          · cases h
            exact ⟨b, hm⟩
      · have hloop : isValidApnLoop (c :: l) i lastPeriod = false := by
          by_cases hperiod : c = '.'
          · subst hperiod
            rw [loop_period, decide_eq_false (by omega), Bool.false_and]
          · exact loop_other hc hperiod
        rw [hloop]
        refine iff_of_false Bool.false_ne_true ?_
        rintro (h | ⟨b, d, m, h, hd, -⟩)
        · cases h
        · cases h
          exact hc hd

lemma isValidApn_eq_true (apn : List Char) : isValidApn apn = true ↔ (∃ c, apn = [c] ∧
    LabelChar c) ∨ ∃ b c d m, apn = c :: d :: m ∧ LabelChar c ∧ LabelChar d ∧ Remainder b m := by
  unfold isValidApn
  cases apn with
  | nil => simp
  | cons c l =>
    by_cases hc : LabelChar c
    · have hne : ¬ ((c :: l).head? = some '.' ∨ c :: l = []) := by
        rintro (h | h)
        · cases h
          exact not_labelChar_period hc
        · cases h
      rw [if_neg hne, loop_labelChar hc, (loop_eq_true _ _ _).2 (by omega)]
      constructor
      · rintro (rfl | ⟨b, d, m, rfl, hd, hm⟩)
        · exact .inl ⟨c, rfl, hc⟩
        · exact .inr ⟨b, c, d, m, rfl, hc, hd, hm⟩
      · rintro (⟨_, h, -⟩ | ⟨b, _, d, m, h, -, hd, hm⟩)
        · cases h
          exact .inl rfl
        · cases h
          exact .inr ⟨b, d, m, rfl, hd, hm⟩
    · have hloop : (if (c :: l).head? = some '.' ∨ c :: l = [] then false
          else isValidApnLoop (c :: l) 0 0) = false := by
        by_cases hperiod : c = '.'
        · rw [if_pos (.inl (congrArg some hperiod))]
        · rw [loop_other hc hperiod, ite_self]
      rw [hloop]
      refine iff_of_false Bool.false_ne_true ?_
      rintro (⟨_, h, hlabel⟩ | ⟨_, _, _, _, h, hlabel, -⟩)
      · cases h
        exact hc hlabel
      · cases h
        exact hc hlabel

/-! ## The names of either kind -/

/-- What may follow the first character, as the rest of its label and further labels. -/
lemma remainder_iff : Remainder b l ↔ ∃ rest labels, (∀ c ∈ rest, LabelChar c) ∧
    (∀ l ∈ labels, Label l) ∧ l = rest ++ moreLabels labels ++ if b then ['.'] else [] := by
  constructor
  · intro h
    induction h with
    | done => exact ⟨[], [], forall_mem_nil _, forall_mem_nil _, rfl⟩
    | trailing => exact ⟨[], [], forall_mem_nil _, forall_mem_nil _, rfl⟩
    | char hc _ ih =>
      obtain ⟨rest, labels, hrest, hlabels, rfl⟩ := ih
      exact ⟨_ :: rest, labels, forall_mem_cons.mpr ⟨hc, hrest⟩, hlabels, rfl⟩
    | @label b c l hc _ ih =>
      obtain ⟨rest, labels, hrest, hlabels, rfl⟩ := ih
      have hlabel : Label (c :: rest) :=
        ⟨cons_ne_nil _ _, forall_mem_cons.mpr ⟨hc, hrest⟩⟩
      refine ⟨[], (c :: rest) :: labels, forall_mem_nil _,
        forall_mem_cons.mpr ⟨hlabel, hlabels⟩, ?_⟩
      simp [moreLabels]
  · rintro ⟨rest, labels, hrest, hlabels, rfl⟩
    have hmore : ∀ (label : List Char) {l : List Char}, (∀ c ∈ label, LabelChar c) →
        Remainder b l → Remainder b (label ++ l) := by
      intro label l hlabel hl
      induction label with
      | nil => exact hl
      | cons c label ih =>
        obtain ⟨hc, hlabel⟩ := forall_mem_cons.mp hlabel
        exact .char hc (ih hlabel)
    rw [append_assoc]
    apply hmore rest hrest
    induction labels with
    | nil =>
      cases b with
      | false => exact .done
      | true => exact .trailing
    | cons label labels ih =>
      obtain ⟨hlabel, hothers⟩ := forall_mem_cons.mp hlabels
      obtain ⟨c, label, rfl⟩ := exists_cons_of_ne_nil hlabel.1
      obtain ⟨hc, hlabel⟩ := forall_mem_cons.mp hlabel.2
      have hrest := hmore label hlabel (ih hothers)
      rw [← append_assoc] at hrest
      exact .label hc hrest

lemma validApn_iff : ValidApn apn ↔ ∃ c l, apn = c :: l ∧ LabelChar c ∧ Remainder false l := by
  simp only [remainder_iff]
  constructor
  · rintro ⟨first, labels, ⟨hne, hfirst⟩, hlabels, rfl⟩
    obtain ⟨c, rest, rfl⟩ := exists_cons_of_ne_nil hne
    obtain ⟨hc, hrest⟩ := forall_mem_cons.mp hfirst
    exact ⟨c, _, rfl, hc, rest, labels, hrest, hlabels, (append_nil _).symm⟩
  · rintro ⟨c, l, rfl, hc, rest, labels, hrest, hlabels, rfl⟩
    exact ⟨c :: rest, labels, ⟨cons_ne_nil _ _, forall_mem_cons.mpr ⟨hc, hrest⟩⟩,
      hlabels, congrArg (c :: ·) (append_nil _)⟩

lemma shortFirstLabel_iff : ShortFirstLabel apn ↔
    ∃ c d m, apn = c :: '.' :: d :: m ∧ LabelChar c ∧ LabelChar d ∧ Remainder false m := by
  simp only [remainder_iff]
  constructor
  · rintro ⟨first, labels, ⟨⟨-, hfirst⟩, hlabels, rfl⟩, hone, hlabelsNe⟩
    obtain ⟨c, rfl⟩ := length_eq_one_iff.mp hone
    obtain ⟨label, labels, rfl⟩ := exists_cons_of_ne_nil hlabelsNe
    obtain ⟨hlabel, hothers⟩ := forall_mem_cons.mp hlabels
    obtain ⟨d, rest, rfl⟩ := exists_cons_of_ne_nil hlabel.1
    obtain ⟨hd, hrest⟩ := forall_mem_cons.mp hlabel.2
    exact ⟨c, d, _, rfl, hfirst c mem_cons_self, hd, rest, labels, hrest, hothers,
      (append_nil _).symm⟩
  · rintro ⟨c, d, m, rfl, hc, hd, rest, labels, hrest, hlabels, rfl⟩
    have hlabel : Label (d :: rest) :=
      ⟨cons_ne_nil _ _, forall_mem_cons.mpr ⟨hd, hrest⟩⟩
    refine ⟨[c], (d :: rest) :: labels, ⟨⟨cons_ne_nil _ _, ?_⟩,
      forall_mem_cons.mpr ⟨hlabel, hlabels⟩, ?_⟩, rfl, cons_ne_nil _ _⟩
    · exact forall_mem_singleton.mpr hc
    · simp [moreLabels]

lemma trailingPeriod_iff : TrailingPeriod apn ↔
    ∃ c d m, apn = c :: d :: m ∧ LabelChar c ∧ LabelChar d ∧ Remainder true m := by
  simp only [remainder_iff]
  constructor
  · rintro ⟨first, labels, name, ⟨⟨-, hfirst⟩, hlabels, rfl⟩, htwo, rfl⟩
    obtain ⟨c, first, rfl⟩ := exists_cons_of_length_pos (by omega : 0 < first.length)
    obtain ⟨hc, hfirst⟩ := forall_mem_cons.mp hfirst
    rw [length_cons] at htwo
    obtain ⟨d, rest, rfl⟩ := exists_cons_of_length_pos (by omega : 0 < first.length)
    obtain ⟨hd, hrest⟩ := forall_mem_cons.mp hfirst
    exact ⟨c, d, _, rfl, hc, hd, rest, labels, hrest, hlabels, rfl⟩
  · rintro ⟨c, d, m, rfl, hc, hd, rest, labels, hrest, hlabels, rfl⟩
    refine ⟨c :: d :: rest, labels, _, ⟨⟨cons_ne_nil _ _, ?_⟩, hlabels, rfl⟩, ?_, rfl⟩
    · exact forall_mem_cons.mpr ⟨hc, forall_mem_cons.mpr ⟨hd, hrest⟩⟩
    · rw [length_cons, length_cons]
      omega

lemma not_remainder_both (h : Remainder true l) : ¬ Remainder false l := by
  intro h'
  generalize hb : true = b at h
  induction h with
  | done => cases hb
  | trailing =>
    cases h' with
    | char hc => exact not_labelChar_period hc
  | char hc _ ih => exact ih ((remainder_cons hc).mp h') hb
  | label hc _ ih =>
    rcases remainder_period.mp h' with ⟨hf, -⟩ | ⟨d, m, h, -, hm⟩
    · cases hf
    · cases h
      exact ih hm hb

/-- The check is right but for a first label of one character in front of others, and for a period
at the end. -/
theorem isValidApn_iff (apn : List Char) :
    ChecksApn apn ↔ ¬ ShortFirstLabel apn ∧ ¬ TrailingPeriod apn := by
  unfold ChecksApn
  rw [isValidApn_eq_true, validApn_iff, shortFirstLabel_iff, trailingPeriod_iff]
  constructor
  · intro h
    constructor
    · rintro ⟨c, d, m, rfl, hc, hd, hm⟩
      rcases h.mpr ⟨c, _, rfl, hc, .label hd hm⟩ with ⟨_, h, -⟩ | ⟨_, _, _, _, h, -, hperiod, -⟩
      · cases h
      · cases h
        exact not_labelChar_period hperiod
    · rintro ⟨c, d, m, rfl, hc, hd, hm⟩
      obtain ⟨_, _, h, -, hl⟩ := h.mp (.inr ⟨true, c, d, m, rfl, hc, hd, hm⟩)
      cases h
      exact not_remainder_both (.char hd hm) hl
  · rintro ⟨hshort, htrailing⟩
    constructor
    · rintro (⟨c, rfl, hc⟩ | ⟨b, c, d, m, rfl, hc, hd, hm⟩)
      · exact ⟨c, [], rfl, hc, .done⟩
      · cases b with
        | false => exact ⟨c, _, rfl, hc, .char hd hm⟩
        | true => exact absurd ⟨c, d, m, rfl, hc, hd, hm⟩ htrailing
    · rintro ⟨c, l, rfl, hc, hl⟩
      cases hl with
      | done => exact .inl ⟨c, rfl, hc⟩
      | char hd hm => exact .inr ⟨false, c, _, _, rfl, hc, hd, hm⟩
      | label hd hm => exact absurd ⟨c, _, _, rfl, hc, hd, hm⟩ hshort

/-- `x.y` is refused. -/
theorem isValidApn_short_label : ¬ ∀ apn, isValidApn apn = true ↔ ValidApn apn := by
  intro h
  have hvalid : ValidApn ['x', '.', 'y'] :=
    validApn_iff.mpr ⟨'x', ['.', 'y'], rfl, .inl rfl, .label (.inl rfl) .done⟩
  exact absurd ((h _).mpr hvalid) (by decide)

end Phonelets.Gprs
