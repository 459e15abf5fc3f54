import Phonelets.Lib.Bsearch
import Phonelets.Util.Gsm

/-! # Round trips in the dialects

What is written in a dialect is read back in it, up to the no-break space, which every
dialect writes as a space.
-/

namespace Phonelets.Gsm

open List Option

def utf8 (s : List Char) : List UInt8 := s.flatMap String.utf8EncodeChar

/-- A character as it comes back from the GSM alphabet. -/
def blank (c : Char) : Char := if c.toNat = 0xA0 then ' ' else c

/-! ## The characters of a text one by one -/

section Characters

variable {locking single : GsmDialect} {k : UInt8} {l : List UInt8}

lemma gsmChars_wide (hk : k > 0x7f) : gsmChars locking single (k :: l) = none := by
  rw [gsmChars.eq_def]
  simp only [if_pos hk]

lemma gsmChars_escape : gsmChars locking single (0x1b :: k :: l) = (gsmChars locking single l).map
    fun cs => (if gsmSingleShiftLookup single k.toNat = gund then gsmLockingShiftLookup locking
    k.toNat else gsmSingleShiftLookup single k.toNat) :: cs := by
  rw [gsmChars.eq_def]
  rfl

lemma gsmChars_septet (hk : ¬ k > 0x7f) (hesc : k ≠ 0x1b) : gsmChars locking single (k :: l) =
    (gsmChars locking single l).map fun cs => gsmLockingShiftLookup locking k.toNat :: cs := by
  rw [gsmChars.eq_def]
  simp only [if_neg hk, if_neg hesc]

end Characters

/-! ## The tables -/

/-- A code of the locking shift table is a septet other than the escape and is read
back as its character. -/
lemma lockingU_entry (locking : GsmDialect) : ∀ e ∈ lockingU locking, e.2 < 128 ∧ e.2 ≠ 0x1b ∧
    gsmLockingShiftLookup locking e.2 = if e.1 = 0xA0 then 0x20 else e.1 := by
  cases locking <;> decide +kernel

/-- A code of the single shift table is an escape pair whose second half is read back as
its character. -/
lemma singleU_entry (single : GsmDialect) :
    ∀ e ∈ singleU single, e.2 / 256 = 0x1b ∧ e.2 % 256 < 128 ∧ e.2 % 256 ≠ 0x1b ∧
      gsmSingleShiftLookup single (e.2 % 256) = e.1 ∧ e.1 ≠ 0xA0 ∧ e.1 ≠ gund := by
  cases single <;> decide

lemma lockingU_sorted (locking : GsmDialect) : Bsearch.Sorted Prod.fst (lockingU locking) := by
  apply Bsearch.sorted_of_isChain
  cases locking <;> decide +kernel

lemma singleU_sorted (single : GsmDialect) : Bsearch.Sorted Prod.fst (singleU single) := by
  apply Bsearch.sorted_of_isChain
  cases single <;> decide

lemma singleG_sorted (single : GsmDialect) : Bsearch.Sorted Prod.fst (singleG single) := by
  apply Bsearch.sorted_of_isChain
  cases single <;> decide

lemma codepointLookup_eq_bsearch {key : ℕ} {table : List (ℕ × ℕ)}
    (h : Bsearch.Sorted Prod.fst table) :
    codepointLookup key table = (Bsearch.bsearch Prod.fst table key).elim gund Prod.snd := by
  rw [Bsearch.bsearch_eq_find? h]
  change _ = (table.find? fun e => e.1 == key).elim gund Prod.snd
  unfold codepointLookup
  cases table.find? fun e => e.1 == key <;> rfl

/-- In all tables of the dialects the lookup is the binary search of the source: the entries stand in
the order of their codes. -/
theorem shiftLookups_eq_bsearch (dialect : GsmDialect) (key : ℕ) :
    unicodeLockingShiftLookup dialect key =
      (Bsearch.bsearch Prod.fst (lockingU dialect) key).elim gund Prod.snd ∧
    unicodeSingleShiftLookup dialect key =
      (Bsearch.bsearch Prod.fst (singleU dialect) key).elim gund Prod.snd ∧
    gsmSingleShiftLookup dialect key =
      (Bsearch.bsearch Prod.fst (singleG dialect) key).elim gund Prod.snd :=
  ⟨codepointLookup_eq_bsearch (lockingU_sorted dialect), codepointLookup_eq_bsearch (singleU_sorted dialect),
    codepointLookup_eq_bsearch (singleG_sorted dialect)⟩

lemma codepointLookup_mem {key : ℕ} {table : List (ℕ × ℕ)} (h : codepointLookup key table ≠ gund) :
    (key, codepointLookup key table) ∈ table := by
  unfold codepointLookup at h ⊢
  cases hfind : table.find? fun e => e.1 == key with
  | none => simp [hfind] at h
  | some e =>
    have hkey : e.1 = key := by simpa using find?_some hfind
    have hmem : e ∈ table := mem_of_find?_eq_some hfind
    simpa [← hkey] using hmem

/-! ## A character -/

/-- The octets of a character in the dialects, nothing for one that they do not have. -/
def charOctets (locking single : GsmDialect) (c : Char) : List UInt8 :=
  (unicodeToGsm locking single c).elim [] writeCode

/-- The septets that stand for a character: one of the locking shift table, or the
escape and one of the single shift table. -/
inductive CharCode (locking single : GsmDialect) (c : Char) : List UInt8 → Prop where
  | locking {k : UInt8} (hk : k < 128) (hesc : k ≠ 0x1b)
      (hread : gsmLockingShiftLookup locking k.toNat = (blank c).toNat) : CharCode locking single c [k]
  | single {k : UInt8} (hk : k < 128) (hesc : k ≠ 0x1b) (hgund : (blank c).toNat ≠ gund)
      (hread : gsmSingleShiftLookup single k.toNat = (blank c).toNat) :
      CharCode locking single c [0x1b, k]

lemma blank_toNat (c : Char) : (blank c).toNat = if c.toNat = 0xA0 then 0x20 else c.toNat := by
  unfold blank
  split <;> rfl

lemma ofNat_septet {n : ℕ} (hn : n < 128) :
    (UInt8.ofNat n).toNat = n ∧ UInt8.ofNat n < 128 ∧ (n ≠ 0x1b → UInt8.ofNat n ≠ 0x1b) := by
  have hto : (UInt8.ofNat n).toNat = n := UInt8.toNat_ofNat_of_lt' (by unfold UInt8.size; omega)
  refine ⟨hto, UInt8.lt_iff_toNat_lt.mpr (by simpa [hto] using hn), ?_⟩
  intro hne heq
  exact hne (by rw [← hto, heq]; rfl)

variable {locking single : GsmDialect} {c : Char} {code : ℕ}

lemma unicodeToGsm_mem (h : unicodeToGsm locking single c = some code) :
    (c.toNat, code) ∈ lockingU locking ∨ (c.toNat, code) ∈ singleU single := by
  unfold unicodeToGsm at h
  split at h
  · simp at h
  · by_cases hlock : unicodeLockingShiftLookup locking c.toNat = gund
    · simp only [hlock, if_true] at h
      split at h
      · simp at h
      · rename_i hsingle
        obtain rfl : unicodeSingleShiftLookup single c.toNat = code := by simpa using h
        exact Or.inr (codepointLookup_mem hsingle)
    · simp only [hlock, if_false] at h
      obtain rfl : unicodeLockingShiftLookup locking c.toNat = code := by simpa using h
      exact Or.inl (codepointLookup_mem hlock)

/-- The zero that codes are compared with is no character of the default tables. -/
lemma gsmLockingShiftLookup_ne_zero (k : ℕ) : gsmLockingShiftLookup .default k ≠ 0 := by
  have hall : ∀ c ∈ gund :: lockingG .default, c ≠ 0 := by decide +kernel
  apply hall
  unfold gsmLockingShiftLookup
  rw [getD_eq_getElem?_getD]
  rcases hget : (lockingG .default)[k]? with _ | c
  · exact mem_cons_self
  · exact mem_cons_of_mem _ (mem_of_getElem? hget)

lemma gsmSingleShiftLookup_ne_zero (k : ℕ) : gsmSingleShiftLookup .default k ≠ 0 := by
  have hall : ∀ e ∈ singleG .default, e.2 ≠ 0 := by decide
  by_cases hfound : gsmSingleShiftLookup .default k = gund
  · rw [hfound]
    decide
  · exact hall _ (codepointLookup_mem hfound)

lemma writeCode_charCode (h : unicodeToGsm locking single c = some code) :
    CharCode locking single c (writeCode code) := by
  rcases unicodeToGsm_mem h with hmem | hmem
  · rcases lockingU_entry locking _ hmem with ⟨hlt, hesc, hread⟩
    rcases ofNat_septet hlt with ⟨hto, hlt', hesc'⟩
    -- no bit of 0x1b00 in a septet
    have hand : code &&& 0x1b00 = 0 := by
      have hmod : code % 2 ^ 7 = code := Nat.mod_eq_of_lt hlt
      rw [← hmod, ← Nat.and_two_pow_sub_one_eq_mod, Nat.and_assoc]
      simp
    have hwrite : writeCode code = [UInt8.ofNat code] := by simp [writeCode, hand]
    rw [hwrite]
    refine CharCode.locking hlt' (hesc' hesc) ?_
    rw [hto, hread, blank_toNat]
  · rcases singleU_entry single _ hmem with ⟨hhi, hlo, hesc, hread, hnbsp, hgund⟩
    rcases ofNat_septet hlo with ⟨hto, hlt', hesc'⟩
    have hcode : code = 0x1b00 + code % 256 := by
      have := Nat.div_add_mod code 256
      omega
    have hand : code &&& 0x1b00 ≠ 0 := by
      have hbit : code.testBit 12 = true := by
        have hdiv : code / 4096 = 1 := by omega
        simp [Nat.testBit, Nat.shiftRight_eq_div_pow, hdiv]
      have hmask : Nat.testBit 0x1b00 12 = true := by decide
      intro hzero
      have hclear := congrArg (fun n => n.testBit 12) hzero
      simp [Nat.testBit_and, hbit, hmask] at hclear
    have hwrite : writeCode code = [0x1b, UInt8.ofNat (code % 256)] := by
      have : UInt8.ofNat code = UInt8.ofNat (code % 256) := by
        apply UInt8.toNat_inj.mp
        simp
      simp [writeCode, hand, this]
    rw [hwrite]
    refine CharCode.single hlt' (hesc' hesc) ?_ ?_
    · rwa [blank_toNat, if_neg hnbsp]
    · rw [hto, hread, blank_toNat, if_neg hnbsp]

lemma gsmChars_append {w : List UInt8} (h : CharCode locking single c w) (l : List UInt8) : gsmChars
    locking single (w ++ l) = (gsmChars locking single l).map fun cs => (blank c).toNat :: cs := by
  cases h with
  | @locking k hk hesc hread =>
    have hle : ¬ k > 0x7f := by
      simpa [UInt8.lt_iff_toNat_lt] using Nat.lt_succ_iff.mp (UInt8.lt_iff_toNat_lt.mp hk)
    rw [singleton_append, gsmChars_septet hle hesc, hread]
  | @single k hk hesc hgund hread =>
    rw [cons_append, singleton_append, gsmChars_escape, hread, if_neg hgund]

/-! ## A text -/

lemma utf8_cons (c : Char) (s : List Char) : utf8 (c :: s) = String.utf8EncodeChar c ++ utf8 s := by
  simp [utf8]

lemma utf8_append (s t : List Char) : utf8 (s ++ t) = utf8 s ++ utf8 t := by
  simp [utf8]

lemma gUtf8GetCharValidated_utf8 (c : Char) (s : List Char) :
    gUtf8GetCharValidated (utf8 (c :: s)) = some c := by
  rw [utf8_cons]
  unfold gUtf8GetCharValidated
  rw [toByteArray_append]
  exact ByteArray.utf8DecodeChar?_utf8EncodeChar_append

lemma utf8Chars_utf8 (s : List Char) (n : ℕ) (hn : s.length ≤ n) :
    utf8Chars n (utf8 s) = some s := by
  induction s generalizing n with
  | nil => cases n <;> rfl
  | cons c s ih =>
    rcases n with _ | n
    · simp at hn
    · have hne : utf8 (c :: s) ≠ [] := by
        rw [utf8_cons]
        simp [String.utf8EncodeChar_ne_nil]
      rcases exists_cons_of_ne_nil hne with ⟨b, l, hbl⟩
      have hdrop : (utf8 (c :: s)).drop c.utf8Size = utf8 s := by
        rw [utf8_cons, ← String.length_utf8EncodeChar, drop_left]
      rw [hbl, utf8Chars, ← hbl, gUtf8GetCharValidated_utf8]
      simp [hdrop, ih n (by simpa using hn)]

lemma length_le_utf8 (s : List Char) : s.length ≤ (utf8 s).length := by
  induction s with
  | nil => simp
  | cons c s ih =>
    have hpos : 0 < c.utf8Size := Char.utf8Size_pos c
    rw [utf8_cons, length_append, String.length_utf8EncodeChar, length_cons]
    omega

variable {s : List Char}

lemma utf8_injective {s' : List Char} (h : utf8 s = utf8 s') : s = s' := by
  have hs := utf8Chars_utf8 s (max s.length s'.length) (Nat.le_max_left _ _)
  have hs' := utf8Chars_utf8 s' (max s.length s'.length) (Nat.le_max_right _ _)
  rw [h, hs'] at hs
  exact (Option.some.inj hs).symm

lemma eq_of_gUtf8GetCharValidated {l : List UInt8} (h : gUtf8GetCharValidated l = some c) :
    l = String.utf8EncodeChar c ++ l.drop c.utf8Size := by
  obtain ⟨r, hr⟩ := ByteArray.exists_of_utf8DecodeChar?_eq_some h
  have hlist : l = String.utf8EncodeChar c ++ r.data.toList := by
    have hdata := congrArg (fun b => b.data.toList) hr
    simpa using hdata
  rw [← String.length_utf8EncodeChar]
  nth_rewrite 2 [hlist]
  rw [drop_left]
  exact hlist

lemma utf8Chars_eq_some {n : ℕ} {l : List UInt8} (h : utf8Chars n l = some s) : l = utf8 s := by
  induction n generalizing l s with
  | zero =>
    cases l with
    | nil =>
      cases h
      rfl
    | cons b l => cases h
  | succ n ih =>
    cases l with
    | nil =>
      cases h
      rfl
    | cons b l =>
      rw [utf8Chars] at h
      simp only [bind_eq_bind, bind_eq_some_iff, Option.pure_def, Option.some.injEq] at h
      obtain ⟨c, hc, cs, hcs, rfl⟩ := h
      rw [utf8_cons, ← ih hcs]
      exact eq_of_gUtf8GetCharValidated hc

variable {gs : List UInt8}

lemma exists_utf8_of_convert {text : List UInt8}
    (h : convertUtf8ToGsmWithLang text locking single = some gs) : ∃ s, text = utf8 s := by
  unfold convertUtf8ToGsmWithLang at h
  obtain ⟨s, hs, -⟩ := bind_eq_some_iff.mp h
  exact ⟨s, utf8Chars_eq_some hs⟩

lemma length_utf8_blank_le (s : List Char) : (utf8 (s.map blank)).length ≤ (utf8 s).length := by
  induction s with
  | nil => exact Nat.le_refl _
  | cons c s ih =>
    have hc : (blank c).utf8Size ≤ c.utf8Size := by
      unfold blank
      split
      · exact c.utf8Size_pos
      · exact Nat.le_refl _
    rw [map_cons, utf8_cons, utf8_cons, length_append, length_append,
      String.length_utf8EncodeChar, String.length_utf8EncodeChar]
    exact Nat.add_le_add hc ih

lemma nul_not_mem_utf8_blank (h : 0 ∉ utf8 s) : 0 ∉ utf8 (s.map blank) := by
  intro hmem
  obtain ⟨c', hc', hzero⟩ := mem_flatMap.mp hmem
  obtain ⟨c, hc, rfl⟩ := mem_map.mp hc'
  unfold blank at hzero
  split at hzero
  · revert hzero
    decide
  · exact h (mem_flatMap.mpr ⟨c, hc, hzero⟩)

/-- Every character of the text has a code in the dialects. -/
def InDialects (locking single : GsmDialect) (s : List Char) : Prop :=
  ∀ c ∈ s, CharCode locking single c (charOctets locking single c)

/-- The text in the dialects. -/
def gsmOctets (locking single : GsmDialect) (s : List Char) : List UInt8 :=
  s.flatMap (charOctets locking single)

variable {locking single : GsmDialect} {s : List Char}

lemma gsmOctets_cons (c : Char) (s : List Char) :
    gsmOctets locking single (c :: s) = charOctets locking single c ++ gsmOctets locking single s := by
  simp [gsmOctets]

lemma mapM_unicodeToGsm {codes : List ℕ} (h : s.mapM (unicodeToGsm locking single) = some codes) :
    InDialects locking single s ∧ codes.flatMap writeCode = gsmOctets locking single s := by
  induction s generalizing codes with
  | nil =>
    obtain rfl : [] = codes := by simpa using h
    exact ⟨fun c hc => by simp at hc, rfl⟩
  | cons c s ih =>
    rw [mapM_cons] at h
    simp only [bind_eq_bind, bind_eq_some_iff, Option.pure_def, Option.some.injEq] at h
    rcases h with ⟨code, hcode, codes, hcodes, rfl⟩
    rcases ih hcodes with ⟨hin, heq⟩
    have hoct : charOctets locking single c = writeCode code := by simp [charOctets, hcode]
    constructor
    · intro c' hc'
      rcases mem_cons.mp hc' with rfl | hmem
      · rw [hoct]
        exact writeCode_charCode hcode
      · exact hin c' hmem
    · rw [gsmOctets_cons, hoct, flatMap_cons, heq]

/-- The conversion succeeds on the texts of the dialects other than the empty one. -/
lemma convertUtf8ToGsmWithLang_eq_some (h : convertUtf8ToGsmWithLang (utf8 s) locking single =
    some gs) : InDialects locking single s ∧ gs = gsmOctets locking single s ∧ gs ≠ [] := by
  unfold convertUtf8ToGsmWithLang at h
  rw [utf8Chars_utf8 s _ (length_le_utf8 s)] at h
  cases hcodes : s.mapM (unicodeToGsm locking single) with
  | none => simp [hcodes] at h
  | some codes =>
    simp only [hcodes, bind_eq_bind, bind_some, Option.pure_def] at h
    split at h
    · simp at h
    · rename_i hne
      obtain rfl : codes.flatMap writeCode = gs := by simpa using h
      rcases mapM_unicodeToGsm hcodes with ⟨hin, heq⟩
      exact ⟨hin, heq, by simpa using hne⟩

lemma convertUtf8ToGsmBestLang_eq_some {hint : GsmDialect}
    (h : convertUtf8ToGsmBestLang (utf8 s) hint = some (gs, locking, single)) :
    convertUtf8ToGsmWithLang (utf8 s) locking single = some gs := by
  unfold convertUtf8ToGsmBestLang at h
  split at h
  · rename_i encoded hencoded
    obtain ⟨rfl, rfl, rfl⟩ : encoded = gs ∧ .default = locking ∧ .default = single := by simpa using h
    exact hencoded
  · split at h
    · simp at h
    · split at h
      · rename_i encoded hencoded
        obtain ⟨rfl, rfl, rfl⟩ : encoded = gs ∧ .default = locking ∧ hint = single := by simpa using h
        exact hencoded
      · split at h
        · simp at h
        · rcases map_eq_some_iff.mp h with ⟨encoded, hencoded, heq⟩
          obtain ⟨rfl, rfl, rfl⟩ : encoded = gs ∧ hint = locking ∧ hint = single := by simpa using heq
          exact hencoded

lemma InDialects.of_cons (h : InDialects locking single (c :: s)) :
    CharCode locking single c (charOctets locking single c) ∧ InDialects locking single s :=
  ⟨h c mem_cons_self, fun c' hc' => h c' (mem_cons_of_mem c hc')⟩

lemma convertGsmToUtf8WithLang_gsmOctets (h : InDialects locking single s) :
    convertGsmToUtf8WithLang (gsmOctets locking single s) locking single =
      some (utf8 (s.map blank)) := by
  have hchars : gsmChars locking single (gsmOctets locking single s) =
      some (s.map fun c => (blank c).toNat) := by
    induction s with
    | nil => rfl
    | cons c s ih =>
      rcases h.of_cons with ⟨hc, hs⟩
      rw [gsmOctets_cons, gsmChars_append hc, ih hs]
      rfl
  simp [convertGsmToUtf8WithLang, hchars, utf8, flatMap_map, gUnicharToUtf8, Char.ofNat_toNat]

lemma gsmOctets_lt (h : InDialects locking single s) : ∀ k ∈ gsmOctets locking single s, k < 128 := by
  intro k hk
  rcases mem_flatMap.mp hk with ⟨c, hc, hkc⟩
  have hcode := h c hc
  generalize charOctets locking single c = w at hcode hkc
  cases hcode with
  | locking hk' =>
    obtain rfl := mem_singleton.mp hkc
    exact hk'
  | single hk' =>
    rcases mem_cons.mp hkc with rfl | hmem
    · decide
    · obtain rfl := mem_singleton.mp hmem
      exact hk'

lemma gsmOctets_escape (h : InDialects locking single s) {k : ℕ} (hk : (gsmOctets locking single
    s)[k]? = some 0x1b) : ∃ x, (gsmOctets locking single s)[k + 1]? = some x ∧ x ≠ 0x1b := by
  induction s generalizing k with
  | nil => simp [gsmOctets] at hk
  | cons c s ih =>
    rcases h.of_cons with ⟨hc, hs⟩
    rw [gsmOctets_cons] at hk ⊢
    generalize charOctets locking single c = w at hc hk
    cases hc with
    | locking _ hesc =>
      cases k with
      | zero => exact absurd (by simpa using hk) hesc
      | succ k => simpa using ih hs (by simpa using hk)
    | single _ hesc =>
      match k, hk with
      | 0, _ => exact ⟨_, rfl, hesc⟩
      | 1, hk => exact absurd (by simpa using hk) hesc
      | k + 2, hk => simpa using ih hs (by simpa using hk)

lemma eq_nil_of_gsmOctets (h : InDialects locking single s) (hnil : gsmOctets locking single s = []) :
    s = [] := by
  cases s with
  | nil => rfl
  | cons c s =>
    have hc := h.of_cons.1
    rw [gsmOctets_cons] at hnil
    generalize charOctets locking single c = w at hc hnil
    cases hc <;> simp at hnil

/-- A cut that leaves no escape at the end of the first part falls between two
characters. -/
lemma gsmOctets_split (h : InDialects locking single s) {k : ℕ} (hk : k ≤ (gsmOctets locking single
    s).length) (hcut : ((gsmOctets locking single s).take k).getLast? ≠ some 0x1b) :
    ∃ s₁ s₂, s = s₁ ++ s₂ ∧ (gsmOctets locking single s).take k = gsmOctets locking single s₁ ∧
    (gsmOctets locking single s).drop k = gsmOctets locking single s₂ := by
  induction s generalizing k with
  | nil => exact ⟨[], [], by simp [gsmOctets]⟩
  | cons c s ih =>
    rcases h.of_cons with ⟨hc, hs⟩
    by_cases hzero : k = 0
    · exact ⟨[], c :: s, rfl, by simp [hzero, gsmOctets], by simp [hzero]⟩
    · -- the cut is behind the whole code of `c`
      have hlen : (charOctets locking single c).length ≤ k := by
        rw [gsmOctets_cons] at hcut
        generalize charOctets locking single c = w at hc hcut
        cases hc with
        | locking => exact Nat.one_le_iff_ne_zero.mpr hzero
        | single =>
          have hone : k ≠ 1 := by
            rintro rfl
            simp at hcut
          simp only [length_cons, length_nil]
          omega
      obtain ⟨j, rfl⟩ := Nat.exists_eq_add_of_le hlen
      rw [gsmOctets_cons, length_append] at hk
      rw [gsmOctets_cons, take_length_add_append] at hcut
      have hcut' : ((gsmOctets locking single s).take j).getLast? ≠ some 0x1b := by
        intro hlast
        rw [getLast?_append, hlast] at hcut
        simp at hcut
      rcases ih hs (by omega) hcut' with ⟨s₁, s₂, rfl, htake, hdrop⟩
      refine ⟨c :: s₁, s₂, rfl, ?_, ?_⟩
      · rw [gsmOctets_cons, take_length_add_append, htake, gsmOctets_cons]
      · rw [gsmOctets_cons, drop_length_add_append, hdrop]

lemma getLast?_gsmOctets (h : InDialects locking single s) :
    (gsmOctets locking single s).getLast? ≠ some 0x1b := by
  induction s with
  | nil => simp [gsmOctets]
  | cons c s ih =>
    rcases h.of_cons with ⟨hc, hs⟩
    have hlast : (charOctets locking single c).getLast? ≠ some 0x1b := by
      generalize charOctets locking single c = w at hc
      cases hc with
      | locking _ hesc => simpa using hesc
      | single _ hesc => simpa using hesc
    rw [gsmOctets_cons, getLast?_append]
    cases hrest : (gsmOctets locking single s).getLast? with
    | none => simpa using hlast
    | some k => simpa [hrest] using ih hs

/-! ## The two passes -/

lemma lookup_of_unicodeToGsm (h : unicodeToGsm locking single c = some code) :
    (if unicodeLockingShiftLookup locking c.toNat = gund then unicodeSingleShiftLookup single
    c.toNat else unicodeLockingShiftLookup locking c.toNat) = code := by
  unfold unicodeToGsm at h
  by_cases hbig : c.toNat > 0xffff
  · simp [hbig] at h
  · by_cases hlocking : unicodeLockingShiftLookup locking c.toNat = gund
    · by_cases hsingle : unicodeSingleShiftLookup single c.toNat = gund
      · simp [hbig, hlocking, hsingle] at h
      · simpa [hbig, hlocking, hsingle] using h
    · simpa [hbig, hlocking] using h

/-- The first pass fails just on the texts that a dialect does not have; else it counts the
characters, and the octets that the second pass writes. -/
lemma passes_spec (locking single : GsmDialect) (s : List Char) (n : ℕ) (hn : s.length ≤ n) :
    (firstPass locking single n (utf8 s) = (s.mapM (unicodeToGsm locking single)).map fun codes =>
    (s.length, (codes.flatMap writeCode).length)) ∧ ∀ codes, s.mapM (unicodeToGsm locking single) =
    some codes → secondPass locking single s.length (utf8 s) = codes.flatMap writeCode := by
  induction s generalizing n with
  | nil =>
    constructor
    · cases n <;> rfl
    · intro codes hcodes
      obtain rfl : [] = codes := by simpa using hcodes
      rfl
  | cons c s ih =>
    rcases n with _ | n
    · simp at hn
    · rcases ih n (by simpa using hn) with ⟨hfirst, hsecond⟩
      have hne : utf8 (c :: s) ≠ [] := by
        rw [utf8_cons]
        simp [String.utf8EncodeChar_ne_nil]
      rcases exists_cons_of_ne_nil hne with ⟨b, l, hbl⟩
      -- a character takes its own octets off the front
      have hdrop : (utf8 (c :: s)).drop c.utf8Size = utf8 s := by
        rw [utf8_cons, ← String.length_utf8EncodeChar, drop_left]
      constructor
      · rw [hbl, firstPass, ← hbl, gUtf8GetCharValidated_utf8]
        simp only [bind_eq_bind, bind_some, Option.pure_def]
        rw [hdrop, hfirst, mapM_cons]
        cases hcode : unicodeToGsm locking single c with
        | none => simp
        | some code =>
          cases hrest : s.mapM (unicodeToGsm locking single) with
          | none => simp
          | some codes =>
            have hlen : (writeCode code).length = if code &&& 0x1b00 ≠ 0 then 2 else 1 := by
              unfold writeCode
              split <;> rfl
            simp [hlen, Nat.add_comm]
      · intro codes hcodes
        rw [mapM_cons] at hcodes
        simp only [bind_eq_bind, bind_eq_some_iff, Option.pure_def, Option.some.injEq] at hcodes
        rcases hcodes with ⟨code, hcode, codes, hrest, rfl⟩
        rw [length_cons, secondPass, gUtf8GetCharValidated_utf8]
        dsimp only
        rw [lookup_of_unicodeToGsm hcode, hdrop, hsecond codes hrest, flatMap_cons]

/-- The conversion is its two passes, and the second one fills what the first one has asked
for; nothing is asked for only by the empty text. -/
lemma convertUtf8ToGsmWithLang_passes (h : convertUtf8ToGsmWithLang (utf8 s) locking single = some
    gs) : firstPass locking single (utf8 s).length (utf8 s) = some (s.length, gs.length) ∧
    secondPass locking single s.length (utf8 s) = gs := by
  rcases passes_spec locking single s _ (length_le_utf8 s) with ⟨hfirst, hsecond⟩
  unfold convertUtf8ToGsmWithLang at h
  rw [utf8Chars_utf8 s _ (length_le_utf8 s)] at h
  cases hcodes : s.mapM (unicodeToGsm locking single) with
  | none => simp [hcodes] at h
  | some codes =>
    simp only [hcodes, bind_eq_bind, bind_some, Option.pure_def] at h
    split at h
    · simp at h
    · obtain rfl : codes.flatMap writeCode = gs := by simpa using h
      rw [hfirst, hcodes]
      exact ⟨rfl, hsecond codes hcodes⟩

/-! ## Round trips -/

/-- The dialect pairs that are tried for a hint. -/
def dialectPairs (hint : GsmDialect) : List (GsmDialect × GsmDialect) :=
  if hint = .default then [(.default, .default)]
  else if hint = .spanish then [(.default, .default), (.default, hint)]
  else [(.default, .default), (.default, hint), (hint, hint)]

/-- Every character of the text has a code under the pair. -/
def Encodable (locking single : GsmDialect) (s : List Char) : Prop :=
  ∀ c ∈ s, (unicodeToGsm locking single c).isSome

/-- The conversion fails only on texts that it cannot encode, and on the empty one. -/
lemma not_encodable_of_none (hs : s ≠ [])
    (h : convertUtf8ToGsmWithLang (utf8 s) locking single = none) : ¬ Encodable locking single s := by
  intro hall
  obtain ⟨codes, hcodes⟩ : ∃ codes, s.mapM (unicodeToGsm locking single) = some codes := by
    clear h hs
    induction s with
    | nil => exact ⟨[], rfl⟩
    | cons c s ih =>
      rcases isSome_iff_exists.mp (hall c mem_cons_self) with ⟨code, hcode⟩
      rcases ih fun c hc => hall c (mem_cons_of_mem _ hc) with ⟨codes, hcodes⟩
      exact ⟨code :: codes, by simp [mapM_cons, hcode, hcodes]⟩
  unfold convertUtf8ToGsmWithLang at h
  rw [utf8Chars_utf8 s _ (length_le_utf8 s)] at h
  simp only [hcodes, bind_eq_bind, bind_some, Option.pure_def] at h
  split at h
  · -- an encoded text has octets
    rename_i hempty
    rcases mapM_unicodeToGsm hcodes with ⟨hin, heq⟩
    exact hs (eq_nil_of_gsmOctets hin (heq ▸ List.isEmpty_iff.mp hempty))
  · simp at h

lemma convertUtf8ToGsmBestLang_cases (text : List UInt8) (hint : GsmDialect) :
    match convertUtf8ToGsmBestLang text hint with
    | some (gs, l, t) => (l, t) ∈ dialectPairs hint ∧ convertUtf8ToGsmWithLang text l t = some gs
    | none => ∀ p ∈ dialectPairs hint, convertUtf8ToGsmWithLang text p.1 p.2 = none := by
  unfold convertUtf8ToGsmBestLang dialectPairs
  cases hdefault : convertUtf8ToGsmWithLang text .default .default with
  | some gs =>
    dsimp only
    refine ⟨?_, hdefault⟩
    cases hint <;> decide
  | none =>
    dsimp only
    by_cases hhint : hint = .default
    · simp [hhint, hdefault]
    · simp only [hhint, if_false]
      cases hsingle : convertUtf8ToGsmWithLang text .default hint with
      | some gs =>
        dsimp only
        refine ⟨?_, hsingle⟩
        split <;> simp
      | none =>
        dsimp only
        by_cases hspanish : hint = .spanish
        · simp only [hspanish, if_true]
          intro p hp
          rcases mem_pair.mp hp with rfl | rfl
          · exact hdefault
          · exact hspanish ▸ hsingle
        · simp only [hspanish, if_false]
          cases hboth : convertUtf8ToGsmWithLang text hint hint with
          | some gs => simp [hboth]
          | none =>
            simp [hdefault, hsingle, hboth]

/-- A text that is converted comes back, in as many septets as the first pass has counted,
and the best conversion of it is one under the dialects that it reports. -/
theorem convert_utf8_gsm_round_trip {gs : List UInt8}
    (h : convertUtf8ToGsmWithLang (utf8 s) locking single = some gs) :
    (∀ k ∈ gs, k < 0x80) ∧
      convertGsmToUtf8WithLang gs locking single = some (utf8 (s.map blank)) ∧
      (firstPass locking single (utf8 s).length (utf8 s) = some (s.length, gs.length) ∧
        secondPass locking single s.length (utf8 s) = gs) ∧
      ∀ hint, match convertUtf8ToGsmBestLang (utf8 s) hint with
        | some (gs', l, t) =>
          (l, t) ∈ dialectPairs hint ∧ convertUtf8ToGsmWithLang (utf8 s) l t = some gs'
        | none => ∀ p ∈ dialectPairs hint, ¬ Encodable p.1 p.2 s := by
  rcases convertUtf8ToGsmWithLang_eq_some h with ⟨hin, heq, hne⟩
  have hs : s ≠ [] := by
    rintro rfl
    exact hne heq
  refine ⟨?_, ?_, convertUtf8ToGsmWithLang_passes h, ?_⟩
  · rw [heq]
    exact gsmOctets_lt hin
  · rw [heq]
    exact convertGsmToUtf8WithLang_gsmOctets hin
  · intro hint
    have hcases := convertUtf8ToGsmBestLang_cases (utf8 s) hint
    split at hcases
    · exact hcases
    · intro p hp
      exact not_encodable_of_none hs (hcases p hp)

/-- The euro sign under the Turkish tables. -/
theorem convert_utf8_gsm_round_trip_euro :
    convertGsmToUtf8WithLang [0x04] .turkish .turkish = some (utf8 ['€']) := by
  have hconvert : convertUtf8ToGsmWithLang (utf8 ['€']) .turkish .turkish = some [0x04] := by
    decide
  exact (convert_utf8_gsm_round_trip hconvert).2.1

end Phonelets.Gsm
