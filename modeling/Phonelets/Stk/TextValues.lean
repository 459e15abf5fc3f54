import Phonelets.Sim.StringWriter
import Phonelets.Sms.Ussd
import Phonelets.Stk.ValueRoundTrip

/-! # Texts read back

A text comes back from UCS2, and from the octets of the GSM alphabet unless one of its
characters is read as a blank. In packed septets it comes back only if it has as many octets
as septets: the builder counts the one and packs as many of the other.
-/

namespace Phonelets.Stk

open List Option Outcome
open Phonelets.Sim (simStringToUtf8 utf8ToSimString evenUcs2 evenUcs2_ucs2be Bmp
  gsmLockingShiftLookup_bmp gsmSingleShiftLookup_bmp)
open Phonelets.Sms (GConvert Basic readOctets ucs2be length_ucs2be untilNul_utf8 blank_ne_nul)
open Gsm (utf8 blank gsmOctets gsmChars InDialects charOctets gUnicharToUtf8)
open Septets (pack7bitOwnBuf unpack7bitOwnBuf)

/-- A text in UTF-8 without a NUL. -/
structure Text where
  chars : List Char
  no_nul : '\x00' ∉ chars

/-- The text as it is on the heap. -/
def Text.string (t : Text) : HeapString := by
  refine ⟨utf8 t.chars, fun hzero => ?_⟩
  rcases List.mem_flatMap.mp hzero with ⟨c, hc, hmem⟩
  exact t.no_nul (Sms.eq_nul_of_mem_utf8EncodeChar hmem ▸ hc)

/-- Every character is read back as itself. -/
def NoBlank (s : List Char) : Prop := ∀ c ∈ s, c.toNat ≠ 0xA0

variable {s s₁ : List Char}

lemma utf8_inj {t : List Char} : utf8 s = utf8 t ↔ s = t := by
  constructor
  · exact Gsm.utf8_injective
  · rintro rfl
    rfl

lemma map_blank_eq : s.map blank = s ↔ NoBlank s := by
  induction s with
  | nil => simp [NoBlank]
  | cons c s ih =>
    have hc : blank c = c ↔ c.toNat ≠ 0xA0 := by
      unfold blank
      split_ifs with hblank
      · constructor
        · rintro rfl
          exact absurd hblank (by decide)
        · intro hne
          exact absurd hblank hne
      · exact ⟨fun _ => hblank, fun _ => rfl⟩
    unfold NoBlank at ih ⊢
    rw [map_cons, cons_eq_cons, forall_mem_cons, hc, ih]

/-! ## Octets of the GSM alphabet -/

lemma gsmChars_gsmOctets (h : InDialects .default .default s) (t : List UInt8) :
    gsmChars .default .default (gsmOctets .default .default s ++ t) =
      (gsmChars .default .default t).map fun cs => s.map (fun c => (blank c).toNat) ++ cs := by
  induction s with
  | nil => simp [gsmOctets]
  | cons c s ih =>
    rcases h.of_cons with ⟨hc, hs⟩
    rw [Gsm.gsmOctets_cons, append_assoc, Gsm.gsmChars_append hc, ih hs, Option.map_map]
    rfl

/-- A code that stands for a character other than the NUL. -/
def Readable (c : ℕ) : Prop := Bmp c ∧ c ≠ 0

lemma gsmChars_readable {t : List UInt8} {cs : List ℕ} (h : gsmChars .default .default t = some cs) :
    (∀ c ∈ cs, Readable c) ∧ (t ≠ [] → cs ≠ []) := by
  have hlocking : ∀ k, Readable (Gsm.gsmLockingShiftLookup .default k) :=
    fun k => ⟨gsmLockingShiftLookup_bmp k, Gsm.gsmLockingShiftLookup_ne_zero k⟩
  have hsingle : ∀ k, Readable (Gsm.gsmSingleShiftLookup .default k) :=
    fun k => ⟨gsmSingleShiftLookup_bmp k, Gsm.gsmSingleShiftLookup_ne_zero k⟩
  fun_induction gsmChars .default .default t generalizing cs with
  | case1 =>
    cases h
    simp
  | case2 => cases h
  | case3 => cases h
  | case4 k l c code hle =>
    rename_i ih
    rcases map_eq_some_iff.mp h with ⟨cs', hcs', rfl⟩
    refine ⟨forall_mem_cons.mpr ⟨?_, (ih hcs').1⟩, fun _ => cons_ne_nil _ _⟩
    show Readable (if c = Gsm.gund then Gsm.gsmLockingShiftLookup .default k.toNat else c)
    split_ifs
    · exact hlocking _
    · exact hsingle _
  | case5 k l hle hesc ih =>
    rcases map_eq_some_iff.mp h with ⟨cs', hcs', rfl⟩
    exact ⟨forall_mem_cons.mpr ⟨hlocking _, (ih hcs').1⟩, fun _ => cons_ne_nil _ _⟩

lemma ofNat_ne_nul {c : ℕ} (h : Readable c) : Char.ofNat c ≠ '\x00' := by
  rcases h with ⟨hbmp, hne⟩
  have hvalid : c.isValidChar := by
    rcases hbmp with hlow | ⟨hhigh, hlt⟩
    · exact .inl hlow
    · exact .inr ⟨by omega, by omega⟩
  intro heq
  have hto : (Char.ofNat c).toNat = c := by
    unfold Char.ofNat
    rw [dif_pos hvalid]
    rfl
  rw [heq] at hto
  exact hne hto.symm

/-- A text in front of other octets is read as some text only if that is a character for
a character the same, and the rest is read as what is behind. -/
lemma read_behind (h : InDialects .default .default s₁) (hnul : '\x00' ∉ s₁) (t : List UInt8) :
    (Gsm.convertGsmToUtf8 (gsmOctets .default .default s₁ ++ t)).map CString.untilNul = some (utf8 s) ↔
      ∃ cs, gsmChars .default .default t = some cs ∧ s₁.map blank ++ cs.map Char.ofNat = s := by
  unfold Gsm.convertGsmToUtf8 Gsm.convertGsmToUtf8WithLang
  rw [gsmChars_gsmOctets h]
  rcases hchars : gsmChars .default .default t with _ | cs
  · simp
  · have hread := (gsmChars_readable hchars).1
    have hall : '\x00' ∉ s₁.map blank ++ cs.map Char.ofNat := by
      intro hmem
      rcases mem_append.mp hmem with hmem | hmem
      · rcases mem_map.mp hmem with ⟨c, hc, heq⟩
        exact blank_ne_nul (fun hzero => hnul (hzero ▸ hc)) heq
      · rcases mem_map.mp hmem with ⟨c, hc, heq⟩
        exact ofNat_ne_nul (hread c hc) heq
    have hutf8 : (s₁.map (fun c => (blank c).toNat) ++ cs).flatMap gUnicharToUtf8 =
        utf8 (s₁.map blank ++ cs.map Char.ofNat) := by
      rw [flatMap_append, Gsm.utf8_append]
      unfold utf8 gUnicharToUtf8
      rw [flatMap_map, flatMap_map, flatMap_map]
      simp only [Char.ofNat_toNat]
    simp only [map_some, Option.some.injEq, hutf8, untilNul_utf8 hall, utf8_inj]
    constructor
    · intro heq
      exact ⟨cs, rfl, heq⟩
    · rintro ⟨_, rfl, heq⟩
      exact heq

lemma read_whole (h : InDialects .default .default s) (hnul : '\x00' ∉ s) : (Gsm.convertGsmToUtf8
    (gsmOctets .default .default s)).map CString.untilNul = some (utf8 s) ↔ NoBlank s := by
  have hread := read_behind (s := s) h hnul []
  rw [append_nil] at hread
  rw [hread, ← map_blank_eq]
  constructor
  · rintro ⟨cs, hcs, heq⟩
    obtain rfl : [] = cs := Option.some.inj hcs
    simpa using heq
  · intro heq
    exact ⟨[], rfl, by simpa using heq⟩

lemma read_longer (h : InDialects .default .default s) (hnul : '\x00' ∉ s) {t : List UInt8} (ht : t ≠ []) :
    (Gsm.convertGsmToUtf8 (gsmOctets .default .default s ++ t)).map CString.untilNul ≠ some (utf8 s) := by
  rw [Ne, read_behind h hnul]
  rintro ⟨cs, hcs, heq⟩
  have hne := (gsmChars_readable hcs).2 ht
  have hlen := congrArg List.length heq
  rw [length_append, length_map, length_map] at hlen
  exact hne (eq_nil_of_length_eq_zero (by omega))

variable {n : ℕ}

/-- A place to cut: between two characters or behind the escape of the next one. -/
lemma gsmOctets_cut (h : InDialects .default .default s) (hn : n < (gsmOctets .default .default
    s).length) : ∃ s₁ s₂, s = s₁ ++ s₂ ∧ s₂ ≠ [] ∧ ((gsmOctets .default .default s).take n =
    gsmOctets .default .default s₁ ∧ (gsmOctets .default .default s).drop n =
    gsmOctets .default .default s₂ ∨ (gsmOctets .default .default s).take n = gsmOctets .default
    .default s₁ ++ [0x1b] ∧ (gsmOctets .default .default s₂).head? = some 0x1b) := by
  by_cases hcut : ((gsmOctets .default .default s).take n).getLast? = some 0x1b
  · rcases n with _ | n
    · simp at hcut
    · have hget : (gsmOctets .default .default s)[n]? = some 0x1b := by
        rw [getLast?_eq_getElem?, length_take, Nat.min_eq_left hn.le, Nat.add_sub_cancel,
          getElem?_take_of_lt (Nat.lt_succ_self n)] at hcut
        exact hcut
      have hbefore : ((gsmOctets .default .default s).take n).getLast? ≠ some 0x1b := by
        intro hlast
        rcases n with _ | n
        · simp at hlast
        · rw [getLast?_eq_getElem?, length_take, Nat.min_eq_left (by omega), Nat.add_sub_cancel,
            getElem?_take_of_lt (Nat.lt_succ_self n)] at hlast
          rcases Gsm.gsmOctets_escape h hlast with ⟨x, hx, hne⟩
          rw [hget] at hx
          exact hne (Option.some.inj hx).symm
      rcases Gsm.gsmOctets_split h (by omega) hbefore with ⟨s₁, s₂, rfl, htake, hdrop⟩
      have hhead : (gsmOctets .default .default s₂).head? = some 0x1b := by
        rw [← hdrop, head?_drop, hget]
      refine ⟨s₁, s₂, rfl, ?_, .inr ⟨?_, hhead⟩⟩
      · rintro rfl
        cases hhead
      · rw [take_add_one, htake, hget]
        rfl
  · rcases Gsm.gsmOctets_split h hn.le hcut with ⟨s₁, s₂, rfl, htake, hdrop⟩
    refine ⟨s₁, s₂, rfl, ?_, .inl ⟨htake, hdrop⟩⟩
    rintro rfl
    have hlen := congrArg List.length hdrop
    rw [length_drop] at hlen
    have hnone : (gsmOctets .default .default ([] : List Char)).length = 0 := rfl
    omega

lemma read_cut (h : InDialects .default .default s) (hnul : '\x00' ∉ s)
    (hn : n < (gsmOctets .default .default s).length) :
    (Gsm.convertGsmToUtf8 ((gsmOctets .default .default s).take n)).map CString.untilNul ≠ some (utf8 s) := by
  rcases gsmOctets_cut h hn with ⟨s₁, s₂, rfl, hne, ⟨htake, -⟩ | ⟨htake, -⟩⟩
  · have hs₁ : InDialects .default .default s₁ := fun c hc => h c (mem_append_left _ hc)
    have hread := read_behind (s := s₁ ++ s₂) hs₁ (fun hc => hnul (mem_append_left _ hc)) []
    rw [append_nil] at hread
    rw [htake, Ne, hread]
    rintro ⟨cs, hcs, heq⟩
    obtain rfl : [] = cs := Option.some.inj hcs
    have hlen := congrArg List.length heq
    simp only [map_nil, append_nil, length_map, length_append] at hlen
    exact hne (eq_nil_of_length_eq_zero (by omega))
  · have hs₁ : InDialects .default .default s₁ := fun c hc => h c (mem_append_left _ hc)
    rw [htake, Ne, read_behind hs₁ fun hc => hnul (mem_append_left _ hc)]
    rintro ⟨cs, hcs, -⟩
    cases hcs

/-- A septet of zeros behind a cut is the last character if that is an `@`. -/
lemma read_cut_zero (h : InDialects .default .default s) (hnul : '\x00' ∉ s)
    (hn : n < (gsmOctets .default .default s).length) : (Gsm.convertGsmToUtf8
    ((gsmOctets .default .default s).take n ++ [0])).map CString.untilNul = some (utf8 s) ↔
    NoBlank s ∧ n + 1 = (gsmOctets .default .default s).length ∧ s.getLast? = some '@' := by
  have hat : gsmOctets .default .default ['@'] = [0] := by decide
  have hzero : gsmChars .default .default [0] = some [0x40] := by decide
  constructor
  · intro hread
    rcases gsmOctets_cut h hn with ⟨s₁, s₂, rfl, hne, ⟨htake, hdrop⟩ | ⟨htake, hhead⟩⟩
    · have hs₁ : InDialects .default .default s₁ := fun c hc => h c (mem_append_left _ hc)
      rw [htake, read_behind hs₁ fun hc => hnul (mem_append_left _ hc), hzero] at hread
      rcases hread with ⟨cs, hcs, heq⟩
      obtain rfl : [0x40] = cs := Option.some.inj hcs
      rcases append_inj heq (length_map _) with ⟨hblank, hlast⟩
      obtain rfl : ['@'] = s₂ := hlast
      rw [hat] at hdrop
      have hlen := congrArg List.length hdrop
      rw [length_drop, length_singleton] at hlen
      refine ⟨?_, by omega, getLast?_append_of_ne_nil _ hne⟩
      intro c hc
      rcases mem_append.mp hc with hc | hc
      · exact map_blank_eq.mp hblank c hc
      · rw [mem_singleton.mp hc]
        decide
    · have hs₁ : InDialects .default .default s₁ := fun c hc => h c (mem_append_left _ hc)
      have hescape : gsmChars .default .default ([0x1b] ++ [0]) = some [0x40] := by decide
      rw [htake, append_assoc, read_behind hs₁ fun hc => hnul (mem_append_left _ hc),
        hescape] at hread
      rcases hread with ⟨cs, hcs, heq⟩
      obtain rfl : [0x40] = cs := Option.some.inj hcs
      obtain rfl : ['@'] = s₂ := (append_inj heq (length_map _)).2
      rw [hat] at hhead
      cases hhead
  · rintro ⟨hblank, hlen, hlast⟩
    rcases eq_nil_or_concat s with rfl | ⟨s', c, rfl⟩
    · cases hlast
    · have hsplit : gsmOctets .default .default (s'.concat c) =
          gsmOctets .default .default s' ++ gsmOctets .default .default [c] := by
        simp [gsmOctets]
      rw [concat_eq_append, getLast?_concat, Option.some.injEq] at hlast
      subst hlast
      have htake : (gsmOctets .default .default (s'.concat '@')).take n = gsmOctets .default .default s' := by
        rw [hsplit, hat]
        refine take_left' ?_
        rw [hsplit, hat, length_append, length_singleton] at hlen
        omega
      rw [htake, ← hat, ← hsplit]
      exact (read_whole h hnul).mpr hblank

/-! ## Packed septets -/

/-- The text has as many octets in UTF-8 as septets, or one less in place of an `@` that the
bits at the end are read as. -/
def PackedBack (s : List Char) : Prop :=
  (utf8 s).length = (gsmOctets .default .default s).length ∨
    (utf8 s).length + 1 = (gsmOctets .default .default s).length ∧ (utf8 s).length % 8 = 7 ∧
      s.getLast? = some '@'

instance (s : List Char) : Decidable (PackedBack s) := inferInstanceAs (Decidable (_ ∨ _))

instance (s : List Char) : Decidable (NoBlank s) := inferInstanceAs (Decidable (∀ _ ∈ _, _))

variable {env : StkEnv}

lemma readPast_short {block : List UInt8} (h : n ≤ block.length) :
    env.readPast block n = block.take n := by
  unfold StkEnv.readPast
  rw [take_append_of_le_length h]

lemma readPast_long {env : StkEnv} {block : List UInt8} {n : ℕ} (h : block.length < n) :
    ∃ m, m ≠ [] ∧ env.readPast block n = block ++ m ∧ (block ++ m).length = n := by
  refine ⟨((List.range n).map env.heap).take (n - block.length), ?_, ?_, ?_⟩
  · intro hnil
    have hlen := congrArg List.length hnil
    rw [length_take, length_map, length_range, length_nil] at hlen
    omega
  · unfold StkEnv.readPast
    rw [take_append, take_of_length_le h.le]
  · rw [length_append, length_take, length_map, length_range]
    omega

/-- The septets in as many octets as are packed for `n`. -/
lemma septets_of_packed (h : n % 8 ≠ 7) : (7 * n + 7) / 8 * 8 / 7 = n := by
  rcases (by omega : n % 8 = 0 ∨ n % 8 = 1 ∨ n % 8 = 2 ∨ n % 8 = 3 ∨ n % 8 = 4 ∨ n % 8 = 5 ∨ n % 8 = 6) with
    hr | hr | hr | hr | hr | hr | hr
  all_goals omega

/-- What is read from packed octets that are those of the builder as far as the container
goes. -/
lemma decodeText_packed (g : GConvert) (h : InDialects .default .default s) (hne : gsmOctets
    .default .default s ≠ []) (hnul : '\x00' ∉ s) (hmod : (gsmOctets .default .default s).length %
    8 ≠ 7) (hfits : (7 * (gsmOctets .default .default s).length + 7) / 8 ≤ 254) {packed value : List
    UInt8} (hpack : pack7bitOwnBuf (env.readPast (gsmOctets .default .default s) (utf8 s).length) 0
    false = some packed) (hlen : value.length = packed.length) (htake : value.take 254 =
    packed.take 254) : decodeText g 0x00 value = some (utf8 s) ↔ NoBlank s ∧ PackedBack s := by
  have hlt := Gsm.gsmOctets_lt h
  have hoctets : 0 < (utf8 s).length := by
    refine Nat.lt_of_lt_of_le ?_ (Gsm.length_le_utf8 s)
    refine length_pos_iff.mpr ?_
    rintro rfl
    exact hne rfl
  have hdecode : decodeText g 0x00 value =
      ((unpack7bitOwnBuf value 0 false (value.length * 8 / 7)).bind Gsm.convertGsmToUtf8).map
        CString.untilNul := rfl
  rw [hdecode]
  generalize hgsm : gsmOctets .default .default s = gsm at *
  unfold PackedBack
  rw [hgsm]
  rcases Nat.lt_or_ge gsm.length (utf8 s).length with hlong | hshort
  · -- behind the septets there are others
    rcases @readPast_long env _ _ hlong with ⟨m, hm, hread, hm'⟩
    rcases Septets.pack7bitOwnBuf_prefix hlt hm with ⟨out, hout, hval, houtLen⟩
    rw [hread, hout, Option.some.injEq] at hpack
    subst hpack
    rw [hm'] at houtLen
    have hlow : Septets.value 256 value % 2 ^ (7 * gsm.length) = Septets.value 128 gsm := by
      rw [← hval]
      exact Septets.value_mod_take (by omega) htake
    rcases Septets.unpack7bitOwnBuf_prefix hlt hlow (m := value.length * 8 / 7) (by omega) (by omega)
      (by omega) with ⟨rest, hunpack, hrest⟩
    have hrestNe : rest ≠ [] := by
      intro hnil
      rw [hnil, length_nil] at hrest
      omega
    rw [hunpack, bind_some, ← hgsm]
    constructor
    · intro hback
      exact absurd hback (read_longer h hnul hrestNe)
    · rintro ⟨-, heq | ⟨heq, -⟩⟩
      · rw [hgsm] at heq
        omega
      · rw [hgsm] at heq
        omega
  · -- some of the septets are packed
    rw [readPast_short hshort] at hpack
    have htakeLen : (gsm.take (utf8 s).length).length = (utf8 s).length := by
      rw [length_take]
      omega
    have htakeLt : ∀ c ∈ gsm.take (utf8 s).length, c < 128 := fun c hc => hlt c (mem_of_mem_take hc)
    have htakeNe : gsm.take (utf8 s).length ≠ [] := by
      intro hnil
      rw [hnil, length_nil] at htakeLen
      omega
    rcases Septets.pack7bitOwnBuf_value htakeLt htakeNe 0 with ⟨out, hout, hval, houtLen⟩
    rw [hpack, Option.some.injEq] at hout
    subst hout
    rw [htakeLen, show Septets.fillBits 0 = 0 from rfl, Nat.zero_add] at houtLen
    rw [show Septets.fillBits 0 = 0 from rfl, Nat.pow_zero, Nat.one_mul] at hval
    rw [take_of_length_le (by omega), take_of_length_le (by omega)] at htake
    subst htake
    by_cases hseven : (utf8 s).length % 8 = 7
    · have hunpack : unpack7bitOwnBuf value 0 false (value.length * 8 / 7) =
          some (gsm.take (utf8 s).length ++ [0]) := by
        rw [show value.length * 8 / 7 = (gsm.take (utf8 s).length).length + 1 by omega]
        exact (Septets.unpack7bitOwnBuf_zero htakeLt htakeNe hval).2 (by omega)
      rw [hunpack, bind_some, ← hgsm, read_cut_zero h hnul (by rw [hgsm]; omega), hgsm]
      refine and_congr_right fun _ => ?_
      constructor
      · rintro ⟨heq, hlast⟩
        exact .inr ⟨heq, hseven, hlast⟩
      · rintro (heq | ⟨heq, -, hlast⟩)
        · omega
        · exact ⟨heq, hlast⟩
    · have hunpack : unpack7bitOwnBuf value 0 false (value.length * 8 / 7) =
          some (gsm.take (utf8 s).length) := by
        have hall := (Septets.unpack7bitOwnBuf_zero htakeLt htakeNe hval).1 (by omega)
        rw [htakeLen] at hall
        rw [houtLen, septets_of_packed hseven, hall]
      rw [hunpack, bind_some]
      rcases Nat.eq_or_lt_of_le hshort with heq | hcut
      · rw [heq, take_length, ← hgsm, read_whole h hnul]
        exact ⟨fun hblank => ⟨hblank, .inl rfl⟩, fun hand => hand.1⟩
      · constructor
        · intro hback
          rw [← hgsm] at hback hcut
          exact absurd hback (read_cut h hnul hcut)
        · rintro ⟨-, heq | ⟨-, hmod', -⟩⟩
          · omega
          · exact absurd hmod' hseven

/-! ## Texts as they are appended -/

/-- The coding scheme and the octets that a text is appended with. -/
def textOctets (s : List Char) : List UInt8 :=
  match Gsm.convertUtf8ToGsm (utf8 s) with
  | some gsm => 0x04 :: gsm
  | none => if s = [] then [0x04] else 0x08 :: ucs2be s

/-- A text that is not empty is in UCS2 only if it can be. -/
def Ucs2IfNotGsm (s : List Char) : Prop := Gsm.convertUtf8ToGsm (utf8 s) = none → Basic s

lemma utf8_ne_nil (hne : s ≠ []) : 0 < (utf8 s).length :=
  Nat.lt_of_lt_of_le (length_pos_iff.mpr hne) (Gsm.length_le_utf8 s)

lemma length_gsmOctets_le (h : InDialects .default .default s) :
    (gsmOctets .default .default s).length ≤ 2 * s.length := by
  induction s with
  | nil => simp [gsmOctets]
  | cons c s ih =>
    rcases h.of_cons with ⟨hc, hs⟩
    have hrest := ih hs
    have hle : (charOctets .default .default c).length ≤ 2 := by
      generalize charOctets .default .default c = w at hc
      cases hc <;> simp
    rw [Gsm.gsmOctets_cons, length_append, length_cons]
    omega

section Appended

open StkTlvBuilder (appendUcs2 appendGsmUnpacked)

variable {env : StkEnv} {b b' : StkTlvBuilder}

lemma appendUcs2_eq_ok (hexact : env.Exact) (h : b.appendUcs2 env (utf8 s) = .ok b') :
    b.copy (0x08 :: ucs2be s) = .ok b' ∧ b.len + 2 * s.length < b.maxLen ∧ Basic s := by
  unfold appendUcs2 at h
  rcases hto : env.toUcs2 (utf8 s) with _ | out
  · rw [hto] at h
    cases h
  · rcases hexact.toUcs2 s out hto with ⟨hbasic, rfl⟩
    rw [hto] at h
    simp only [length_ucs2be] at h
    split_ifs at h with hfull
    exact ⟨h, by omega, hbasic⟩

/-- Septets in octets, or UCS2 if the text has no septets or no room for them. -/
lemma appendText_cases {text : List UInt8} (h : b.appendText env text = .ok b') :
    (¬ (Gsm.convertUtf8ToGsm text = none ∧ text.length > 0) ∧ b.copy (0x04 :: (Gsm.convertUtf8ToGsm
    text).getD []) = .ok b' ∧ b.len + ((Gsm.convertUtf8ToGsm text).getD []).length < b.maxLen) ∨
    ((Gsm.convertUtf8ToGsm text = none ∧ text.length > 0 ∨ b.len +
    ((Gsm.convertUtf8ToGsm text).getD []).length ≥ b.maxLen) ∧ b.appendUcs2 env text = .ok b') := by
  unfold StkTlvBuilder.appendText appendGsmUnpacked at h
  simp only at h
  by_cases hnone : Gsm.convertUtf8ToGsm text = none ∧ text.length > 0
  · rw [if_pos hnone] at h
    exact .inr ⟨.inl hnone, h⟩
  · rw [if_neg hnone] at h
    by_cases hfull : b.len + ((Gsm.convertUtf8ToGsm text).getD []).length ≥ b.maxLen
    · rw [if_pos hfull] at h
      exact .inr ⟨.inr hfull, h⟩
    · rw [if_neg hfull] at h
      refine .inl ⟨hnone, ?_, by omega⟩
      unfold StkTlvBuilder.copy at h ⊢
      split_ifs at h ⊢ with hroom
      exact h

/-- A text that does not fit in septets does not fit in UCS2, so that one of the two is what
is appended. -/
lemma appendText_eq_ok (hexact : env.Exact) (h : b.appendText env (utf8 s) = .ok b') :
    b.copy (textOctets s) = .ok b' ∧ b.len + (textOctets s).length ≤ b.maxLen ∧ Ucs2IfNotGsm s := by
  unfold textOctets Ucs2IfNotGsm
  rcases appendText_cases h with ⟨hgsm, hcopy, hroom⟩ | ⟨hnot, hucs2⟩
  · rcases hconvert : Gsm.convertUtf8ToGsm (utf8 s) with _ | gsm
    · have hempty : s = [] := by
        by_contra hne
        exact hgsm ⟨hconvert, utf8_ne_nil hne⟩
      rw [hconvert] at hcopy hroom
      simp only [if_pos hempty]
      refine ⟨hcopy, by rw [length_singleton]; exact hroom, fun _ c hc => ?_⟩
      rw [hempty] at hc
      exact absurd hc not_mem_nil
    · rw [hconvert] at hcopy hroom
      refine ⟨hcopy, by rw [length_cons]; exact hroom, fun hnone => nomatch hnone⟩
  · rcases appendUcs2_eq_ok hexact hucs2 with ⟨hcopy, hroom, hbasic⟩
    rcases hconvert : Gsm.convertUtf8ToGsm (utf8 s) with _ | gsm
    · have hne : s ≠ [] := by
        rintro rfl
        rw [hconvert] at hnot
        rcases hnot with ⟨-, hpos⟩ | hfull
        · exact absurd hpos (by decide)
        · simp only [getD_none, length_nil] at hfull hroom
          omega
      simp only [if_neg hne, length_cons, length_ucs2be]
      exact ⟨hcopy, by omega, fun _ => hbasic⟩
    · exfalso
      rcases Gsm.convertUtf8ToGsmWithLang_eq_some hconvert with ⟨hin, rfl, -⟩
      have hle := length_gsmOctets_le hin
      rw [hconvert] at hnot
      rcases hnot with ⟨hnone, -⟩ | hfull
      · cases hnone
      · rw [getD_some] at hfull
        omega

/-- The octets that a text is packed in. -/
def packedOctets (env : StkEnv) (s : List Char) : List UInt8 :=
  0x00 :: (pack7bitOwnBuf (env.readPast ((Gsm.convertUtf8ToGsm (utf8 s)).getD []) (utf8 s).length) 0 false).getD []

/-- The text is empty, or one of the alphabet that is not too long. -/
structure PackedFits (s : List Char) : Prop where
  convert : s ≠ [] → Gsm.convertUtf8ToGsm (utf8 s) ≠ none
  fits : (((Gsm.convertUtf8ToGsm (utf8 s)).getD []).length * 7 + 7) / 8 ≤ 254

lemma appendGsmPacked_eq_ok (h : b.appendGsmPacked env (utf8 s) = .ok b') :
    b.copy (packedOctets env s) = .ok b' ∧ (b.maxLen ≤ 255 → PackedFits s) := by
  unfold StkTlvBuilder.appendGsmPacked at h
  simp only at h
  split_ifs at h with hnone hfull hshort
  refine ⟨h, fun hmax => ⟨fun hne hconvert => ?_, by omega⟩⟩
  exact hnone ⟨hconvert, utf8_ne_nil hne⟩

end Appended

variable {g : GConvert}

lemma decodeText_ucs2 (hg : g.Exact) (hnul : '\x00' ∉ s) (hbasic : Basic s) :
    decodeText g 0x08 (ucs2be s) = some (utf8 s) := by
  show (g.ucs2ToUtf8 (ucs2be s)).map CString.untilNul = _
  rw [hg.toUtf8 s hbasic, map_some, untilNul_utf8 hnul]

lemma decodeText_gsm (g : GConvert) (h : InDialects .default .default s) (hnul : '\x00' ∉ s) :
    decodeText g 0x04 (gsmOctets .default .default s) = some (utf8 s) ↔ NoBlank s :=
  read_whole h hnul

/-- The text of a data object comes back unless its septets are read with a blank. -/
lemma parseDataobjText_octets (hg : g.Exact) (hnul : '\x00' ∉ s) (hucs2 : Ucs2IfNotGsm s) :
    parseDataobjText g (textOctets s) = .ok (utf8 s) ↔
      (Gsm.convertUtf8ToGsm (utf8 s) = none ∨ NoBlank s) := by
  unfold textOctets
  rcases hconvert : Gsm.convertUtf8ToGsm (utf8 s) with _ | gsm
  · by_cases hempty : s = []
    · subst hempty
      simp only [if_true, true_or, iff_true]
      rfl
    · simp only [if_neg hempty, true_or, iff_true]
      have hlen : 0 < s.length := length_pos_iff.mpr hempty
      have hoctets := length_ucs2be s
      unfold parseDataobjText
      rw [if_neg (by rw [length_cons]; omega)]
      simp only [dataAt_zero, ok_bind, length_cons, Nat.add_sub_cancel, readOctets_tail,
        decodeText_ucs2 hg hnul (hucs2 hconvert), orReject_some]
  · rcases Gsm.convertUtf8ToGsmWithLang_eq_some hconvert with ⟨hin, rfl, hne⟩
    have hpos := length_pos_iff.mpr hne
    unfold parseDataobjText
    rw [if_neg (by rw [length_cons]; omega)]
    simp only [dataAt_zero, ok_bind, length_cons, Nat.add_sub_cancel, readOctets_tail]
    rw [orReject_eq_ok, decodeText_gsm g hin hnul]
    simp

lemma parseDataobjText_packed (g : GConvert) (hnul : '\x00' ∉ s) (hfits : PackedFits s)
    (hmod : (gsmOctets .default .default s).length % 8 ≠ 7) {value : List UInt8}
    (hlen : value.length = (packedOctets env s).length) (htake : value.take 255 = (packedOctets env
    s).take 255) : parseDataobjText g value = .ok (utf8 s) ↔ NoBlank s ∧ PackedBack s := by
  rcases value with _ | ⟨dcs, value⟩
  · unfold packedOctets at hlen
    simp at hlen
  · unfold packedOctets at hlen htake
    rw [take_succ_cons, take_succ_cons, cons_eq_cons] at htake
    rcases htake with ⟨rfl, htake⟩
    rw [length_cons, length_cons, Nat.add_right_cancel_iff] at hlen
    by_cases hempty : s = []
    · subst hempty
      have hvalue : value = [] := eq_nil_of_length_eq_zero hlen
      subst hvalue
      constructor
      · intro _
        exact ⟨by simp [NoBlank], Or.inl rfl⟩
      · intro _
        rfl
    · obtain ⟨gsm, hconvert⟩ := ne_none_iff_exists'.mp (hfits.convert hempty)
      have hlimit := hfits.fits
      rw [hconvert, getD_some] at hlen htake hlimit
      rcases Gsm.convertUtf8ToGsmWithLang_eq_some hconvert with ⟨hin, rfl, hne⟩
      have hoctets := utf8_ne_nil hempty
      have hread : env.readPast (gsmOctets .default .default s) (utf8 s).length ≠ [] := by
        intro hnil
        have hzero := congrArg List.length hnil
        unfold StkEnv.readPast at hzero
        rw [length_take, length_append, length_map, length_range, length_nil] at hzero
        omega
      rw [Septets.pack7bitOwnBuf_closed hread, getD_some] at hlen htake
      have hback := decodeText_packed g hin hne hnul hmod (by omega) (Septets.pack7bitOwnBuf_closed hread)
        hlen htake
      have hsome : 0 < value.length := by
        rw [hlen]
        exact Septets.closed_pos hread
      rw [← hback]
      unfold parseDataobjText
      rw [if_neg (by rw [length_cons]; omega)]
      simp only [dataAt_zero, ok_bind, length_cons, Nat.add_sub_cancel, readOctets_tail]
      rw [orReject_eq_ok]

/-! ## Other texts -/

/-- An identifier is written in UCS2: one of the GSM alphabet has no length that is allowed. -/
lemma utf8ToSimString_eq_ok (hg : g.Exact) {out : List UInt8} {len : ℤ} (h : utf8ToSimString g
    (utf8 s) (-1) = .ok (out, len)) : Basic s ∧ out.take len.toNat = 0x80 :: ucs2be s := by
  unfold utf8ToSimString at h
  rcases hconvert : Gsm.convertUtf8ToGsm (utf8 s) with _ | gsm
  · rw [hconvert] at h
    rcases hto : g.utf8ToUcs2 (utf8 s) with _ | ucs2
    · rw [hto] at h
      cases h
    · rcases hg.toUcs2 s ucs2 hto with ⟨hbasic, rfl⟩
      rw [hto] at h
      simp only at h
      rw [if_neg (by simp), Outcome.ok.injEq, Prod.mk.injEq] at h
      rcases h with ⟨rfl, rfl⟩
      refine ⟨hbasic, take_of_length_le ?_⟩
      rw [length_cons]
      omega
  · rw [hconvert] at h
    simp only at h
    rw [if_pos (by omega), if_pos (by decide)] at h
    cases h

/-- An identifier comes back unless it has a character that looks like padding. -/
lemma parseDataobjAlphaId_ucs2 (hg : g.Exact) (hnul : '\x00' ∉ s) (hbasic : Basic s) :
    parseDataobjAlphaId g (0x80 :: ucs2be s) = .ok (some (utf8 s)) ↔ '\uffff' ∉ s := by
  have hsub : ∀ c ∈ s.takeWhile (· ≠ '\uffff'), c ∈ s := fun c hc => takeWhile_subset _ hc
  have hread : simStringToUtf8 g (0x80 :: ucs2be s) = .ok (utf8 (s.takeWhile (· ≠ '\uffff'))) := by
    show (do let ucs2 ← evenUcs2 (ucs2be s); Outcome.orReject (g.ucs2ToUtf8 ucs2)) = _
    rw [evenUcs2_ucs2be hbasic, ok_bind, hg.toUtf8 _ fun c hc => hbasic c (hsub c hc)]
    rfl
  have hstop : '\x00' ∉ s.takeWhile (· ≠ '\uffff') := fun hmem => hnul (hsub _ hmem)
  unfold parseDataobjAlphaId
  rw [if_neg (by simp), hread, ok_bind, pure_eq_ok, Outcome.ok.injEq, Option.some.injEq,
    untilNul_utf8 hstop, utf8_inj, takeWhile_eq_self_iff]
  constructor
  · intro hall hmem
    simpa using hall _ hmem
  · intro hnot c hc
    have hne : c ≠ '\uffff' := fun heq => hnot (heq ▸ hc)
    simpa using hne

/-- The coding scheme and the octets of a name. -/
def nameOctets (s : List Char) : UInt8 × List UInt8 :=
  match Gsm.convertUtf8ToGsm (utf8 s) with
  | some gsm => (0x04, gsm)
  | none => (0x08, ucs2be s)

lemma encodeName_eq_ok (hexact : env.Exact) {t : Text} {r : UInt8 × List UInt8}
    (h : encodeName env t.string = .ok r) : r = nameOctets t.chars ∧ Ucs2IfNotGsm t.chars := by
  unfold encodeName at h
  unfold nameOctets Ucs2IfNotGsm
  change (match Gsm.convertUtf8ToGsm (utf8 t.chars) with
    | some gsm => .ok (0x04, gsm)
    | none => do
        let ucs2 ← Outcome.orReject (env.toUcs2 (utf8 t.chars))
        return (0x08, ucs2)) = Outcome.ok r at h
  rcases hconvert : Gsm.convertUtf8ToGsm (utf8 t.chars) with _ | gsm
  · rw [hconvert] at h
    rcases Outcome.bind_eq_ok.mp h with ⟨ucs2, hucs2, hr⟩
    rcases hexact.toUcs2 _ _ (orReject_eq_ok.mp hucs2) with ⟨hbasic, rfl⟩
    exact ⟨(Outcome.ok.inj hr).symm, fun _ => hbasic⟩
  · rw [hconvert] at h
    exact ⟨(Outcome.ok.inj h).symm, fun hnone => nomatch hnone⟩

lemma nameOctets_eq_nil : (nameOctets s).2 = [] ↔ s = [] := by
  unfold nameOctets
  rcases hconvert : Gsm.convertUtf8ToGsm (utf8 s) with _ | gsm
  · have hlen := length_ucs2be s
    constructor
    · intro hnil
      simp only at hnil
      rw [hnil, length_nil] at hlen
      exact eq_nil_of_length_eq_zero (by omega)
    · rintro rfl
      rfl
  · rcases Gsm.convertUtf8ToGsmWithLang_eq_some hconvert with ⟨-, -, hne⟩
    constructor
    · intro hnil
      exact absurd hnil hne
    · rintro rfl
      cases hconvert

lemma decodeText_name (hg : g.Exact) (hnul : '\x00' ∉ s) (hucs2 : Ucs2IfNotGsm s) :
    decodeText g (nameOctets s).1 (nameOctets s).2 = some (utf8 s) ↔
      (Gsm.convertUtf8ToGsm (utf8 s) = none ∨ NoBlank s) := by
  unfold nameOctets
  rcases hconvert : Gsm.convertUtf8ToGsm (utf8 s) with _ | gsm
  · simp [decodeText_ucs2 hg hnul (hucs2 hconvert)]
  · rcases Gsm.convertUtf8ToGsmWithLang_eq_some hconvert with ⟨hin, rfl, -⟩
    simp [decodeText_gsm g hin hnul]

/-- A name comes back if it is not empty, unless its septets are read with a blank. -/
lemma parseDataobjRegistryApplicationData_octets (hg : g.Exact) (hnul : '\x00' ∉ s)
    (hucs2 : Ucs2IfNotGsm s) (port : UInt16) (type : UInt8) : parseDataobjRegistryApplicationData g
    (shortOctets port ++ (nameOctets s).1 :: type :: (nameOctets s).2) = .ok ⟨port, type, utf8 s⟩ ↔
    s ≠ [] ∧ (Gsm.convertUtf8ToGsm (utf8 s) = none ∨ NoBlank s) := by
  rw [← decodeText_name hg hnul hucs2, Ne, ← nameOctets_eq_nil]
  generalize (nameOctets s).1 = dcs
  generalize (nameOctets s).2 = octets
  unfold parseDataobjRegistryApplicationData
  rcases octets with _ | ⟨o, octets⟩
  · rw [if_pos (by simp)]
    simp
  · have hread : readOctets (shortOctets port ++ dcs :: type :: o :: octets) 4
        ((shortOctets port ++ dcs :: type :: o :: octets).length - 4) = .ok (o :: octets) :=
      readOctets_append (shortOctets port ++ [dcs, type]) (o :: octets)
    have hdcs : dataAt (shortOctets port ++ dcs :: type :: o :: octets) 2 = .ok dcs := rfl
    have htype : dataAt (shortOctets port ++ dcs :: type :: o :: octets) 3 = .ok type := rfl
    rw [if_neg (by simp; omega), hread, hdcs, htype, shortAt_octets]
    simp only [ok_bind, pure_eq_ok]
    constructor
    · intro h
      rcases Outcome.bind_eq_ok.mp h with ⟨name, hname, heq⟩
      rw [orReject_eq_ok] at hname
      rw [Outcome.ok.injEq, StkRegistryApplicationData.mk.injEq] at heq
      rw [hname, heq.2.2]
      exact ⟨cons_ne_nil _ _, rfl⟩
    · rintro ⟨-, hname⟩
      rw [hname]
      rfl

end Phonelets.Stk
