import Phonelets.Sim.SimString

/-! # Texts with a base as a syntax

The characters behind the header of the forms `0x81` and `0x82`: offsets to the base, GSM
characters, and GSM characters behind an escape. A text that is accepted is such a sequence, as
long in octets as its header says, and padding.
-/

namespace Phonelets.Sim

open List
open Gsm (gsmLockingShiftLookup gsmSingleShiftLookup gsmSingleShiftLookup_ne_zero gUnicharToUtf8
  gund)

/-- A character as it is coded. -/
inductive PageChar where
  | page (b : UInt8)
  | septet (k : UInt8)
  | pair (k : UInt8)
  deriving DecidableEq

namespace PageChar

def octets : PageChar → List UInt8
  | page b => [b]
  | septet k => [k]
  | pair k => [0x1b, k]

/-- The code that is looked up or computed. -/
def code (ucs2Offset : ℕ) : PageChar → ℕ
  | page b => halfPageChar ucs2Offset b
  | septet k => gsmLockingShiftLookup .default k.toNat
  | pair k => gsmSingleShiftLookup .default k.toNat

/-- The octets are taken for this character, and it is not half of a surrogate pair. -/
def Valid (ucs2Offset : ℕ) : PageChar → Prop
  | page b => b &&& 0x80 ≠ 0 ∧
      ¬ (0xd800 ≤ halfPageChar ucs2Offset b ∧ halfPageChar ucs2Offset b < 0xe000)
  | septet k => k &&& 0x80 = 0 ∧ k ≠ 0x1b
  | pair _ => True

/-- The octets of a text. -/
def encode (us : List PageChar) : List UInt8 := us.flatMap octets

def toUtf8 (ucs2Offset : ℕ) (us : List PageChar) : List UInt8 :=
  us.flatMap fun u => gUnicharToUtf8 (u.code ucs2Offset)

variable {numChars ucs2Offset : ℕ} {us : List PageChar}

lemma encode_cons (u : PageChar) (us : List PageChar) : encode (u :: us) = u.octets ++ encode us :=
  rfl

lemma encode_append (us vs : List PageChar) : encode (us ++ vs) = encode us ++ encode vs :=
  flatMap_append

lemma toUtf8_cons (u : PageChar) (us : List PageChar) :
    toUtf8 ucs2Offset (u :: us) = gUnicharToUtf8 (u.code ucs2Offset) ++ toUtf8 ucs2Offset us :=
  rfl

lemma octets_pos (u : PageChar) : 0 < u.octets.length := by
  cases u <;> exact Nat.succ_pos _

variable {u : PageChar}

lemma Valid.bmp (h : u.Valid ucs2Offset) : Bmp (u.code ucs2Offset) := by
  cases u with
  | page b =>
    have hlt := halfPageChar_lt ucs2Offset b
    have hsurrogate := h.2
    show Bmp (halfPageChar ucs2Offset b)
    unfold Bmp
    omega
  | septet k => exact gsmLockingShiftLookup_bmp k.toNat
  | pair k => exact gsmSingleShiftLookup_bmp k.toNat

/-! ## The two loops -/

lemma measureChars_octets (h : u.Valid ucs2Offset) {j : ℕ} (resLen : ℕ) (rest : List UInt8)
    (hj : j < numChars) :
    measureChars numChars ucs2Offset j resLen (u.octets ++ rest) = measureChars numChars ucs2Offset
    (j + u.octets.length) (resLen + (gUnicharToUtf8 (u.code ucs2Offset)).length) rest := by
  rw [length_gUnicharToUtf8 h.bmp]
  cases u with
  | page b =>
    rw [octets, singleton_append, measureChars.eq_def]
    dsimp only
    rw [if_pos hj, if_pos h.1, if_neg h.2]
    rfl
  | septet k =>
    rw [octets, singleton_append, measureChars.eq_def]
    dsimp only
    rw [if_pos hj, if_neg (not_not.mpr h.1), if_neg h.2]
    rfl
  | pair k =>
    rw [octets, cons_append, measureChars.eq_def]
    dsimp only
    rw [if_pos hj, if_neg (by decide), if_pos rfl]
    simp only [cons_append, nil_append]
    rw [if_neg (gsmSingleShiftLookup_ne_zero _)]
    rfl

lemma measureChars_encode (h : ∀ u ∈ us, u.Valid ucs2Offset) {j resLen : ℕ} (rest : List UInt8)
    (hj : j + (encode us).length ≤ numChars) :
    measureChars numChars ucs2Offset j resLen (encode us ++ rest) = measureChars numChars ucs2Offset
    (j + (encode us).length) (resLen + (toUtf8 ucs2Offset us).length) rest := by
  induction us generalizing j resLen with
  | nil => rfl
  | cons u us ih =>
    have hpos := u.octets_pos
    rw [encode_cons, length_append] at hj ⊢
    rw [append_assoc, measureChars_octets (h u (by simp)) _ _ (by omega),
      ih (fun v hv => h v (by simp [hv])) (by omega), toUtf8_cons, length_append,
      Nat.add_assoc, Nat.add_assoc]

/-- The octets between `j` and `j'` are characters, with `padding` behind them. -/
def Between (ucs2Offset j j' : ℕ) (l padding : List UInt8) : Prop :=
  ∃ us, (∀ u ∈ us, u.Valid ucs2Offset) ∧ l = encode us ++ padding ∧ j' = j + (encode us).length

lemma Between.cons {u : PageChar} (hu : u.Valid ucs2Offset) {j j' : ℕ}
    {l padding : List UInt8} (h : Between ucs2Offset (j + u.octets.length) j' l padding) :
    Between ucs2Offset j j' (u.octets ++ l) padding := by
  obtain ⟨us, hus, rfl, rfl⟩ := h
  refine ⟨u :: us, ?_, ?_, ?_⟩
  · intro v hv
    rcases mem_cons.mp hv with rfl | hv
    · exact hu
    · exact hus v hv
  · rw [encode_cons, append_assoc]
  · rw [encode_cons, length_append, Nat.add_assoc]

lemma between_of_measureChars {j resLen j' total : ℕ} {l padding : List UInt8}
    (h : measureChars numChars ucs2Offset j resLen l = some (j', total, padding)) :
    Between ucs2Offset j j' l padding := by
  fun_induction measureChars numChars ucs2Offset j resLen l with
  | case1 j resLen =>
    cases h
    exact ⟨[], by simp, rfl, rfl⟩
  | case2 => cases h
  | case3 j resLen b rest hj hbit c hsurrogate ih =>
    exact @Between.cons _ (.page b) ⟨hbit, hsurrogate⟩ _ _ _ _ (ih h)
  | case4 => cases h
  | case5 => cases h
  | case6 j resLen hj k rest c hzero hbit ih => exact @Between.cons _ (.pair k) trivial _ _ _ _ (ih h)
  | case7 j resLen b rest hj hbit hesc c ih =>
    exact @Between.cons _ (.septet b) ⟨not_not.mp hbit, hesc⟩ _ _ _ _ (ih h)
  | case8 j resLen b rest hj =>
    cases h
    exact ⟨[], by simp, rfl, rfl⟩

lemma writeChars_octets (h : u.Valid ucs2Offset) {resLen : ℕ} {out : List UInt8} (rest : List UInt8)
    (hout : out.length < resLen) : writeChars ucs2Offset resLen out (u.octets ++ rest) =
    writeChars ucs2Offset resLen (out ++ gUnicharToUtf8 (u.code ucs2Offset)) rest := by
  cases u with
  | page b =>
    rw [octets, singleton_append, writeChars.eq_def]
    dsimp only
    rw [if_pos hout, if_pos h.1]
    rfl
  | septet k =>
    rw [octets, singleton_append, writeChars.eq_def]
    dsimp only
    rw [if_pos hout, if_neg (not_not.mpr h.1), if_neg h.2]
    rfl
  | pair k =>
    rw [octets, cons_append, writeChars.eq_def]
    dsimp only
    rw [if_pos hout, if_neg (by decide), if_pos rfl]
    rfl

lemma writeChars_encode (h : ∀ u ∈ us, u.Valid ucs2Offset) (out rest : List UInt8) :
    writeChars ucs2Offset (out.length + (toUtf8 ucs2Offset us).length) out (encode us ++ rest) =
      .ok (out ++ toUtf8 ucs2Offset us) := by
  induction us generalizing out with
  | nil =>
    have hdone : writeChars ucs2Offset (out.length + 0) out rest = .ok out := by
      rw [writeChars.eq_def]
      cases rest with
      | nil => simp
      | cons b rest => simp
    rw [show toUtf8 ucs2Offset [] = [] from rfl, append_nil]
    exact hdone
  | cons u us ih =>
    have hpos : 0 < (gUnicharToUtf8 (u.code ucs2Offset)).length := by
      rw [length_gUnicharToUtf8 (h u (by simp)).bmp]
      exact utf8Length_pos _
    have hrest := ih (fun v hv => h v (by simp [hv])) (out ++ gUnicharToUtf8 (u.code ucs2Offset))
    rw [encode_cons, append_assoc, toUtf8_cons, writeChars_octets (h u (by simp)),
      length_append, ← append_assoc, ← hrest, length_append, Nat.add_assoc]
    rw [length_append]
    omega

/-! ## What is accepted -/

/-- The octets are characters, as many octets of them as the header says, and padding. -/
structure Reads (numChars ucs2Offset : ℕ) (chars : List UInt8) (us : List PageChar)
    (padding : List UInt8) : Prop where
  valid : ∀ u ∈ us, u.Valid ucs2Offset
  split : chars = encode us ++ padding
  count : (encode us).length = numChars
  padded : ∀ b ∈ padding, b = 0xff

lemma Reads.eq_ok {chars padding : List UInt8} (h : Reads numChars ucs2Offset chars us padding) :
    halfPageToUtf8 numChars ucs2Offset chars = .ok (toUtf8 ucs2Offset us) := by
  have hmeasure := @measureChars_encode numChars ucs2Offset us h.valid 0 0 padding
    (show 0 + (encode us).length ≤ numChars by rw [h.count, Nat.zero_add])
  have hstop : ∀ resLen, measureChars numChars ucs2Offset numChars resLen padding =
      some (numChars, resLen, padding) := by
    intro resLen
    rw [measureChars.eq_def]
    cases padding <;> simp
  have hpadding : padding.any (· ≠ 0xff) = false := by
    rw [any_eq_false]
    intro b hb
    simp [h.padded b hb]
  have hwrite := writeChars_encode h.valid [] padding
  rw [← h.split, h.count, Nat.zero_add, Nat.zero_add, hstop] at hmeasure
  rw [← h.split, length_nil, Nat.zero_add, nil_append] at hwrite
  unfold halfPageToUtf8
  rw [hmeasure]
  simp only [ne_eq, not_true_eq_false, if_false, hpadding, Bool.false_eq_true]
  exact hwrite

lemma halfPageToUtf8_eq_ok_iff {chars out : List UInt8} :
    halfPageToUtf8 numChars ucs2Offset chars = .ok out ↔
      ∃ us padding, Reads numChars ucs2Offset chars us padding ∧ out = toUtf8 ucs2Offset us := by
  constructor
  · intro h
    have haccept : ∃ us padding, Reads numChars ucs2Offset chars us padding := by
      unfold halfPageToUtf8 at h
      split at h
      · cases h
      · rename_i j resLen padding hmeasure
        obtain ⟨us, hvalid, hsplit, hcount⟩ := between_of_measureChars hmeasure
        split at h
        · cases h
        · rename_i hj
          split at h
          · cases h
          · rename_i hpadding
            refine ⟨us, padding, hvalid, hsplit, ?_, ?_⟩
            · rw [← not_not.mp hj, hcount, Nat.zero_add]
            · intro b hb
              by_contra hne
              exact hpadding (any_eq_true.mpr ⟨b, hb, by simpa using hne⟩)
    obtain ⟨us, padding, hreads⟩ := haccept
    rw [hreads.eq_ok] at h
    exact ⟨us, padding, hreads, (Outcome.ok.inj h).symm⟩
  · rintro ⟨us, padding, hreads, rfl⟩
    exact hreads.eq_ok

lemma eq_of_octets {u v : PageChar} (hu : u.Valid ucs2Offset) (hv : v.Valid ucs2Offset)
    {l m : List UInt8} (h : u.octets ++ l = v.octets ++ m) : u = v := by
  have hescape : (0x1b : UInt8) &&& 0x80 = 0 := by decide
  cases u with
  | page b =>
    cases v with
    | page b' => rw [(List.cons.inj h).1]
    | septet k =>
      have hb : b = k := (List.cons.inj h).1
      exact absurd (hb ▸ hv.1) hu.1
    | pair k =>
      have hb : b = 0x1b := (List.cons.inj h).1
      exact absurd (hb ▸ hescape) hu.1
  | septet k =>
    cases v with
    | page b =>
      have hk : k = b := (List.cons.inj h).1
      exact absurd (hk ▸ hu.1) hv.1
    | septet k' => rw [(List.cons.inj h).1]
    | pair k' => exact absurd (List.cons.inj h).1 hu.2
  | pair k =>
    cases v with
    | page b =>
      have hb : 0x1b = b := (List.cons.inj h).1
      exact absurd (hb ▸ hescape) hv.1
    | septet k' => exact absurd (List.cons.inj h).1.symm hv.2
    | pair k' => rw [(List.cons.inj (List.cons.inj h).2).1]

/-- Of two texts at the front of the same octets the shorter one is the beginning of the other. -/
lemma encode_prefix {vs : List PageChar} (hus : ∀ u ∈ us, u.Valid ucs2Offset)
    (hvs : ∀ v ∈ vs, v.Valid ucs2Offset) {l m : List UInt8} (h : encode us ++ l = encode vs ++ m)
    (hle : (encode us).length ≤ (encode vs).length) : ∃ ws, vs = us ++ ws := by
  induction us generalizing vs with
  | nil => exact ⟨vs, rfl⟩
  | cons u us ih =>
    cases vs with
    | nil =>
      have hpos := u.octets_pos
      rw [encode_cons, length_append] at hle
      change _ ≤ 0 at hle
      omega
    | cons v vs =>
      rw [encode_cons, encode_cons, append_assoc, append_assoc] at h
      obtain rfl := eq_of_octets (hus u (by simp)) (hvs v (by simp)) h
      rw [encode_cons, encode_cons, length_append, length_append] at hle
      obtain ⟨ws, rfl⟩ := ih (fun w hw => hus w (by simp [hw]))
        (fun w hw => hvs w (by simp [hw])) (append_cancel_left h) (by omega)
      exact ⟨ws, rfl⟩

end PageChar

end Phonelets.Sim
