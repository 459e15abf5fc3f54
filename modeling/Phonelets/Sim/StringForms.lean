import Phonelets.Sim.StringPasses
import Phonelets.Sms.TextRoundTrip

/-! # One text in three forms

The septets of a GSM text stand in all three forms, alone or behind a header with a base they do
not use. The forms with a base have a loop of their own, which does not fall back to the locking
shift table for a pair that the single shift table does not have.
-/

namespace Phonelets.Sim

open List Option Outcome
open Phonelets.Sms (GConvert ucs2Codec)
open Gsm (gsmLockingShiftLookup gsmSingleShiftLookup gUnicharToUtf8 gund gsmChars gsmChars_septet
  utf8 CharCode blank)
open PageChar (encode toUtf8)
open Outcome (orReject)

/-- The characters of septets, if they do not end within an escape pair. -/
def septetChars : List UInt8 → Option (List PageChar)
  | [] => some []
  | k :: l =>
    if k = 0x1b then
      match l with
      | [] => none
      | k :: l => (septetChars l).map (PageChar.pair k :: ·)
    else (septetChars l).map (PageChar.septet k :: ·)

/-- Every escape pair of the septets is in the single shift table. -/
def PairsDefined (l : List UInt8) : Prop :=
  ∀ us, septetChars l = some us → ∀ k, PageChar.pair k ∈ us →
    gsmSingleShiftLookup .default k.toNat ≠ gund

/-- The septets alone, padded. -/
def plainOctets (l : List UInt8) (padding : ℕ) : List UInt8 := l ++ List.replicate padding 0xff

/-- Characters behind the header `0x81`, padded. -/
def form81 (base : UInt8) (chars : List UInt8) (padding : ℕ) : List UInt8 :=
  0x81 :: UInt8.ofNat chars.length :: base :: (chars ++ List.replicate padding 0xff)

/-- Characters behind the header `0x82`, padded. -/
def form82 (hi lo : UInt8) (chars : List UInt8) (padding : ℕ) : List UInt8 :=
  0x82 :: UInt8.ofNat chars.length :: hi :: lo :: (chars ++ List.replicate padding 0xff)

/-! ## Septets -/

variable {l : List UInt8} {us : List PageChar} {ucs2Offset : ℕ}

lemma septetChars_pair (k : UInt8) (l : List UInt8) :
    septetChars (0x1b :: k :: l) = (septetChars l).map (PageChar.pair k :: ·) := rfl

lemma septetChars_septet {k : UInt8} (hesc : k ≠ 0x1b) (l : List UInt8) :
    septetChars (k :: l) = (septetChars l).map (PageChar.septet k :: ·) := by
  rw [septetChars.eq_def]
  simp only [if_neg hesc]

/-- The code of a character alone. -/
def plainCode : PageChar → ℕ
  | .pair k => escapedChar .default .default k
  | u => u.code 0

lemma septet_bounds : ∀ k : UInt8, k < 0x80 → k &&& 0x80 = 0 ∧ ¬ k > 0x7f :=
  Phonelets.Sms.octet_forall (by decide)

lemma septetChars_spec (hl : ∀ k ∈ l, k < 0x80) (h : septetChars l = some us) : encode us = l ∧
    ∀ u ∈ us, u.Valid ucs2Offset ∧ u.code ucs2Offset = u.code 0 ∧ ∀ b, u ≠ .page b := by
  induction l using septetChars.induct generalizing us with
  | case1 =>
    cases h
    exact ⟨rfl, by simp⟩
  | case2 => cases h
  | case3 k l ih =>
    obtain ⟨vs, hvs, rfl⟩ := map_eq_some_iff.mp h
    obtain ⟨hencode, hvalid⟩ := ih (fun k hk => hl k (by simp [hk])) hvs
    constructor
    · rw [PageChar.encode_cons, hencode]
      rfl
    · intro u hu
      rcases mem_cons.mp hu with rfl | hu
      · exact ⟨trivial, rfl, nofun⟩
      · exact hvalid u hu
  | case4 k l hesc ih =>
    rw [septetChars_septet hesc] at h
    obtain ⟨vs, hvs, rfl⟩ := map_eq_some_iff.mp h
    obtain ⟨hencode, hvalid⟩ := ih (fun k hk => hl k (by simp [hk])) hvs
    constructor
    · rw [PageChar.encode_cons, hencode]
      rfl
    · intro u hu
      rcases mem_cons.mp hu with rfl | hu
      · exact ⟨⟨(septet_bounds k (hl k (by simp))).1, hesc⟩, rfl, nofun⟩
      · exact hvalid u hu

lemma gsmChars_eq_septetChars (hl : ∀ k ∈ l, k < 0x80) :
    gsmChars .default .default l = (septetChars l).map (·.map plainCode) := by
  induction l using septetChars.induct with
  | case1 => rfl
  | case2 => rfl
  | case3 k l ih =>
    rw [gsmChars_escape, ih fun k hk => hl k (by simp [hk]), septetChars_pair, Option.map_map,
      Option.map_map]
    rfl
  | case4 k l hesc ih =>
    have hle := (septet_bounds k (hl k (by simp))).2
    rw [gsmChars_septet hle hesc, ih fun k hk => hl k (by simp [hk]), septetChars_septet hesc,
      Option.map_map, Option.map_map]
    rfl

lemma septetChars_encode (hl : ∀ k ∈ encode us, k < 0x80)
    (h : ∀ u ∈ us, u.Valid ucs2Offset) : septetChars (encode us) = some us := by
  induction us with
  | nil => rfl
  | cons u us ih =>
    have hrest := ih (fun k hk => hl k (by simp [PageChar.encode_cons, hk]))
      fun v hv => h v (by simp [hv])
    have hu := h u (by simp)
    rw [PageChar.encode_cons]
    cases u with
    | page b =>
      have hlt := hl b (by simp [PageChar.encode_cons, PageChar.octets])
      exact absurd (septet_bounds b hlt).1 hu.1
    | septet k =>
      rw [PageChar.octets, singleton_append, septetChars_septet hu.2, hrest, map_some]
    | pair k =>
      rw [PageChar.octets, cons_append, singleton_append, septetChars_pair, hrest, map_some]

lemma wideEscape_eq_false (hl : ∀ k ∈ l, k < 0x80) : wideEscape l = false := by
  induction l using septetChars.induct with
  | case1 => rfl
  | case2 => rfl
  | case3 k l ih =>
    rw [wideEscape.eq_def]
    simp [(septet_bounds k (hl k (by simp))).2, ih fun k hk => hl k (by simp [hk])]
  | case4 k l hesc ih =>
    rw [wideEscape.eq_def]
    simp [(septet_bounds k (hl k (by simp))).2, hesc, ih fun k hk => hl k (by simp [hk])]

/-! ## The three forms -/

lemma simStringPasses_septets (g : GConvert) (hl : ∀ k ∈ l, k < 0x80) (hne : l ≠ []) (padding : ℕ) :
    simStringPasses g (plainOctets l padding) = orReject (Gsm.convertGsmToUtf8 l) := by
  cases l with
  | nil => exact absurd rfl hne
  | cons k l =>
    have htake : (plainOctets (k :: l) padding).takeWhile (· ≠ 0xff) = k :: l := by
      have hall : ∀ k' ∈ k :: l, decide (k' ≠ 0xff) = true := by
        intro k' hk'
        rw [decide_eq_true_iff]
        rintro rfl
        exact absurd (hl _ hk') (by decide)
      unfold plainOctets
      rw [takeWhile_append_of_pos hall]
      cases padding with
      | zero => simp
      | succ n => simp [replicate_succ]
    have hk := hl k (by simp)
    show (if k < 0x80 then convertGsmPasses _ _ ((plainOctets (k :: l) padding).takeWhile _) else _) = _
    rw [if_pos hk, htake, convertGsmPasses_eq, wideEscape_eq_false hl, if_neg (by decide)]
    rfl

lemma simStringPasses_plain (g : GConvert) (hl : ∀ k ∈ l, k < 0x80) {padding : ℕ}
    (hpresent : l ≠ [] ∨ 0 < padding) : simStringPasses g (plainOctets l padding) =
    orReject ((septetChars l).map fun us => us.flatMap fun u => gUnicharToUtf8 (plainCode u)) := by
  by_cases hne : l = []
  · -- padding alone is the empty text
    subst hne
    obtain ⟨n, rfl⟩ : ∃ n, padding = n + 1 := Nat.exists_eq_add_one.mpr (by simpa using hpresent)
    have hreads : PageChar.Reads 0 0 (0xff :: List.replicate n 0xff) []
        (List.replicate (n + 1) 0xff) := by
      refine ⟨by simp, rfl, rfl, ?_⟩
      intro b hb
      exact eq_of_mem_replicate hb
    show halfPagePasses 0 0 (0xff :: List.replicate n 0xff) = .ok []
    rw [halfPagePasses_eq, hreads.eq_ok]
    rfl
  · rw [simStringPasses_septets g hl hne, Gsm.convertGsmToUtf8, Gsm.convertGsmToUtf8WithLang,
      gsmChars_eq_septetChars hl, Option.map_map]
    congr 2
    funext us
    simp [flatMap_map]

lemma halfPageToUtf8_septets (hl : ∀ k ∈ l, k < 0x80) (ucs2Offset padding : ℕ) :
    halfPageToUtf8 l.length ucs2Offset (l ++ List.replicate padding 0xff) =
      orReject ((septetChars l).map (toUtf8 0)) := by
  cases hchars : septetChars l with
  | some us =>
    obtain ⟨hencode, hvalid⟩ := @septetChars_spec _ _ ucs2Offset hl hchars
    have hreads : PageChar.Reads l.length ucs2Offset (l ++ List.replicate padding 0xff) us
        (List.replicate padding 0xff) := by
      refine ⟨fun u hu => (hvalid u hu).1, by rw [hencode], by rw [hencode], ?_⟩
      intro b hb
      exact eq_of_mem_replicate hb
    rw [hreads.eq_ok, map_some, orReject_some]
    congr 1
    exact flatMap_congr fun u hu => by rw [(hvalid u hu).2.1]
  | none =>
    rw [map_none, orReject_none]
    cases hresult : halfPageToUtf8 l.length ucs2Offset (l ++ List.replicate padding 0xff) with
    | reject => rfl
    | fault => exact absurd hresult (halfPageToUtf8_ne_fault _ _ _)
    | ok out =>
      obtain ⟨us, rest, hreads, -⟩ := PageChar.halfPageToUtf8_eq_ok_iff.mp hresult
      have hencode : encode us = l := (append_inj_left hreads.split hreads.count.symm).symm
      rw [← hencode, septetChars_encode (hencode ▸ hl) hreads.valid] at hchars
      cases hchars

lemma simStringPasses_form81 (g : GConvert) {chars : List UInt8} (hlen : chars.length ≤ 255)
    (base : UInt8) (padding : ℕ) : simStringPasses g (form81 base chars padding) =
    halfPageToUtf8 chars.length (base.toNat <<< 7) (chars ++ List.replicate padding 0xff) := by
  have hcount : (UInt8.ofNat chars.length).toNat = chars.length := by
    rw [UInt8.toNat_ofNat']
    exact Nat.mod_eq_of_lt (by omega)
  show (if _ > _ then _ else halfPagePasses (UInt8.ofNat chars.length).toNat _ _) = _
  rw [hcount, if_neg (by simp), halfPagePasses_eq]

lemma simStringPasses_form82 (g : GConvert) {chars : List UInt8} (hlen : chars.length ≤ 255)
    (hi lo : UInt8) (padding : ℕ) : simStringPasses g (form82 hi lo chars padding) = halfPageToUtf8
    chars.length (hi.toNat <<< 8 ||| lo.toNat) (chars ++ List.replicate padding 0xff) := by
  have hcount : (UInt8.ofNat chars.length).toNat = chars.length := by
    rw [UInt8.toNat_ofNat']
    exact Nat.mod_eq_of_lt (by omega)
  show (if _ > _ then _ else halfPagePasses (UInt8.ofNat chars.length).toNat _ _) = _
  rw [hcount, if_neg (by simp), halfPagePasses_eq]

/-- The three forms of the septets are read as the same text, or none of them is. -/
def SameText (g : GConvert) (l : List UInt8) (base hi lo : UInt8) (p p₁ p₂ : ℕ) : Prop :=
  simStringPasses g (form81 base l p₁) = simStringPasses g (plainOctets l p) ∧
    simStringPasses g (form82 hi lo l p₂) = simStringPasses g (plainOctets l p)

lemma toNat_ofNat_of_bmp {c : ℕ} (hc : Bmp c) : (Char.ofNat c).toNat = c := by
  have hvalid : c.isValidChar := by
    rcases hc with h | ⟨h, h'⟩
    · exact .inl h
    · exact .inr ⟨by omega, by omega⟩
  rw [Char.ofNat, dif_pos hvalid]
  rfl

lemma flatMap_gUnicharToUtf8_inj {f f' : PageChar → ℕ} (h : ∀ u ∈ us, Bmp (f u) ∧ Bmp (f' u)) :
    us.flatMap (fun u => gUnicharToUtf8 (f u)) = us.flatMap (fun u => gUnicharToUtf8 (f' u)) ↔
      ∀ u ∈ us, f u = f' u := by
  constructor
  · intro heq
    have hutf8 : ∀ f : PageChar → ℕ, us.flatMap (fun u => gUnicharToUtf8 (f u)) =
        utf8 (us.map fun u => Char.ofNat (f u)) := by
      intro f
      rw [utf8, flatMap_map]
      rfl
    rw [hutf8, hutf8] at heq
    intro u hu
    have hchar := map_inj_left.mp (Gsm.utf8_injective heq) u hu
    rw [← toNat_ofNat_of_bmp (h u hu).1, hchar, toNat_ofNat_of_bmp (h u hu).2]
  · intro heq
    exact flatMap_congr fun u hu => by rw [heq u hu]

/-- The codes of a character alone and behind a header differ where its pair is undefined. -/
lemma code_eq_plainCode_iff {u : PageChar} (hpage : ∀ b, u ≠ .page b)
    (hseptets : ∀ k, u = .pair k → k.toNat < 128) :
    u.code 0 = plainCode u ↔ ∀ k, u = .pair k → gsmSingleShiftLookup .default k.toNat ≠ gund := by
  have hlocking : ∀ c ∈ Gsm.lockingG .default, c ≠ gund := by decide +kernel
  cases u with
  | page b => exact absurd rfl (hpage b)
  | septet k => simp [plainCode]
  | pair k =>
    have hlt : k.toNat < (Gsm.lockingG .default).length := hseptets k rfl
    simp only [PageChar.pair.injEq, forall_eq']
    show gsmSingleShiftLookup .default k.toNat =
      (if gsmSingleShiftLookup .default k.toNat = gund then _ else _) ↔ _
    by_cases hundefined : gsmSingleShiftLookup .default k.toNat = gund
    · rw [if_pos hundefined, hundefined]
      have hdefined : gsmLockingShiftLookup .default k.toNat ≠ gund := by
        unfold gsmLockingShiftLookup
        rw [getD_eq_getElem?_getD, getElem?_eq_getElem hlt, getD_some]
        exact hlocking _ (getElem_mem hlt)
      simp [hdefined.symm]
    · rw [if_neg hundefined]
      simp [hundefined]

lemma sameText_iff (g : GConvert) (hl : ∀ k ∈ l, k < 0x80) (hlen : l.length ≤ 255) (base hi lo :
    UInt8) (p p₁ p₂ : ℕ) : SameText g l base hi lo p p₁ p₂ ↔ (l ≠ [] ∨ 0 < p) ∧ PairsDefined l := by
  unfold SameText
  rw [simStringPasses_form81 g hlen, simStringPasses_form82 g hlen, halfPageToUtf8_septets hl,
    halfPageToUtf8_septets hl, and_self]
  by_cases hpresent : l ≠ [] ∨ 0 < p
  · rw [simStringPasses_plain g hl hpresent]
    simp only [hpresent, true_and]
    unfold PairsDefined
    cases hchars : septetChars l with
    | none => simp
    | some us =>
      obtain ⟨hencode, hvalid⟩ := @septetChars_spec _ _ 0 hl hchars
      have hseptets : ∀ u ∈ us, ∀ k, u = .pair k → k.toNat < 128 := by
        rintro u hu k rfl
        have hmem : k ∈ l := by
          rw [← hencode]
          exact mem_flatMap.mpr ⟨_, hu, by simp [PageChar.octets]⟩
        exact UInt8.lt_iff_toNat_lt.mp (hl k hmem)
      have hbmp : ∀ u ∈ us, Bmp (u.code 0) ∧ Bmp (plainCode u) := by
        intro u hu
        refine ⟨(hvalid u hu).1.bmp, ?_⟩
        cases u with
        | page b => exact (hvalid _ hu).1.bmp
        | septet k => exact (hvalid _ hu).1.bmp
        | pair k => exact escapedChar_bmp (hseptets _ hu k rfl)
      simp only [map_some, orReject_some, Outcome.ok.injEq, Option.some.injEq, forall_eq']
      refine (flatMap_gUnicharToUtf8_inj hbmp).trans ?_
      constructor
      · intro hsame k hk
        exact (code_eq_plainCode_iff (hvalid _ hk).2.2 (hseptets _ hk)).mp (hsame _ hk) k rfl
      · intro hdefined u hu
        refine (code_eq_plainCode_iff (hvalid u hu).2.2 (hseptets u hu)).mpr ?_
        rintro k rfl
        exact hdefined k hu
  · -- nothing at all
    obtain ⟨rfl, rfl⟩ : l = [] ∧ p = 0 := by simpa using hpresent
    simp only [hpresent, false_and, iff_false]
    intro h
    have hread : (Outcome.ok [] : Outcome (List UInt8)) = .reject := h
    cases hread

/-! ## Texts with a base -/

/-- The ways to write a character: as an offset to the base, or as in the GSM alphabet. -/
inductive CodedAs (ucs2Offset : ℕ) (c : Char) : PageChar → Prop where
  | page {b : UInt8} (top : 0x80 ≤ b) (basic : c.toNat < 0x10000) (present : c.toNat ≠ 0)
      (offset : c.toNat = ucs2Offset + (b.toNat - 0x80)) : CodedAs ucs2Offset c (.page b)
  | septet {k : UInt8} (code : CharCode .default .default c [k]) (same : blank c = c) :
      CodedAs ucs2Offset c (.septet k)
  | pair {k : UInt8} (code : CharCode .default .default c [0x1b, k]) (same : blank c = c) :
      CodedAs ucs2Offset c (.pair k)

lemma CodedAs.spec {c : Char} {u : PageChar} (h : CodedAs ucs2Offset c u) :
    u.Valid ucs2Offset ∧ u.code ucs2Offset = c.toNat := by
  cases h with
  | @page b top basic present offset =>
    have htop : ∀ b : UInt8, 0x80 ≤ b → b &&& 0x80 ≠ 0 ∧ (b &&& 0x7f).toNat = b.toNat - 0x80 :=
      Phonelets.Sms.octet_forall (by decide)
    have hcode : halfPageChar ucs2Offset b = c.toNat := by
      unfold halfPageChar
      rw [(htop b top).2, Nat.add_comm, ← offset]
      exact Nat.mod_eq_of_lt basic
    have hvalid : c.toNat < 0xd800 ∨ 0xdfff < c.toNat ∧ c.toNat < 0x110000 := c.valid
    refine ⟨⟨(htop b top).1, ?_⟩, hcode⟩
    rw [hcode]
    omega
  | @septet k code same =>
    cases code with
    | locking hk hesc hread =>
      rw [same] at hread
      exact ⟨⟨(septet_bounds k hk).1, hesc⟩, hread⟩
  | @pair k code same =>
    cases code with
    | single hk hesc hgund hread =>
      rw [same] at hread
      exact ⟨trivial, hread⟩

lemma halfPageToUtf8_coded {s : List Char} (h : List.Forall₂ (CodedAs ucs2Offset) s us)
    (padding : ℕ) : halfPageToUtf8 (encode us).length ucs2Offset
    (encode us ++ List.replicate padding 0xff) = .ok (utf8 s) := by
  have hvalid : ∀ u ∈ us, u.Valid ucs2Offset := by
    clear padding
    induction h with
    | nil => simp
    | cons hc _ ih =>
      intro u hu
      rcases mem_cons.mp hu with rfl | hu
      · exact hc.spec.1
      · exact ih u hu
  have htext : toUtf8 ucs2Offset us = utf8 s := by
    clear padding hvalid
    induction h with
    | nil => rfl
    | cons hc _ ih =>
      rw [PageChar.toUtf8_cons, ih, hc.spec.2, Gsm.utf8_cons, gUnicharToUtf8, Char.ofNat_toNat]
  have hreads : PageChar.Reads (encode us).length ucs2Offset
      (encode us ++ List.replicate padding 0xff) us (List.replicate padding 0xff) := by
    refine ⟨hvalid, rfl, rfl, ?_⟩
    intro b hb
    exact eq_of_mem_replicate hb
  rw [hreads.eq_ok, htext]

/-- Septets are the same text in the three forms exactly if there are any octets in the form
without a header and the single shift table has every escape pair of theirs; and a text with a
base is read as it was written. -/
theorem simStringPasses_forms (g : GConvert) : (∀ (l : List UInt8) (base hi lo : UInt8) (p p₁ p₂ :
    ℕ), (∀ k ∈ l, k < 0x80) → l.length ≤ 255 → (SameText g l base hi lo p p₁ p₂ ↔ (l ≠ [] ∨ 0 < p) ∧
    PairsDefined l)) ∧ (∀ (base : UInt8) (s : List Char) (us : List PageChar) (padding : ℕ),
    List.Forall₂ (CodedAs (base.toNat <<< 7)) s us → (encode us).length ≤ 255 → simStringPasses g
    (form81 base (encode us) padding) = .ok (utf8 s)) ∧ ∀ (hi lo : UInt8) (s : List Char) (us : List
    PageChar) (padding : ℕ), List.Forall₂ (CodedAs (hi.toNat <<< 8 ||| lo.toNat)) s us → (encode
    us).length ≤ 255 → simStringPasses g (form82 hi lo (encode us) padding) = .ok (utf8 s) := by
  refine ⟨?_, ?_, ?_⟩
  · intro l base hi lo p p₁ p₂ hl hlen
    exact sameText_iff g hl hlen base hi lo p p₁ p₂
  · intro base s us padding h hlen
    rw [simStringPasses_form81 g hlen]
    exact halfPageToUtf8_coded h padding
  · intro hi lo s us padding h hlen
    rw [simStringPasses_form82 g hlen]
    exact halfPageToUtf8_coded h padding

/-- The euro sign behind an escape, in the three forms. -/
theorem simStringPasses_forms_euro : SameText ucs2Codec [0x1b, 0x65] 0x08 0x04 0x10 2 0 1 := by
  refine ((simStringPasses_forms ucs2Codec).1 _ _ _ _ _ _ _ (by simp) (by simp)).mpr ?_
  refine ⟨Or.inl (by decide), ?_⟩
  intro us hus k hk
  obtain rfl : [PageChar.pair 0x65] = us := Option.some.inj hus
  obtain rfl : k = 0x65 := by simpa using hk
  decide

/-- Alone the pair `1B 41` is a letter, behind a header it is not. -/
theorem simStringPasses_forms_undefined :
    ¬ ∀ (g : GConvert) (l : List UInt8) (base hi lo : UInt8) (p p₁ p₂ : ℕ), (∀ k ∈ l, k < 0x80) →
      l ≠ [] → l.length ≤ 255 → SameText g l base hi lo p p₁ p₂ := by
  intro h
  have hsame := (h ucs2Codec [0x1b, 0x41] 0 0 0 0 0 0 (by simp) (by simp) (by simp)).1
  have hplain : simStringPasses ucs2Codec (plainOctets [0x1b, 0x41] 0) = .ok [0x41] := by
    decide
  have hform : simStringPasses ucs2Codec (form81 0 [0x1b, 0x41] 0) = .ok [0xef, 0xbf, 0xbf] := by
    decide
  rw [hplain, hform] at hsame
  exact absurd hsame (by decide)

end Phonelets.Sim
