import Phonelets.Sim.StringForms

/-! # Texts for the files of a SIM

`utf8_to_sim_string` writes a text in the GSM alphabet if it can and else in UCS2, in either
case the longest beginning that fits. Only the second one knows that a length of -1 is none.
-/

namespace Phonelets.Sim

open List Option Outcome
open Phonelets.Sms (GConvert Basic ucs2be length_ucs2be ucs2be_append ucs2Codec ucs2Codec_exact)
open Gsm (utf8 blank gsmOctets InDialects charOctets)
open Outcome (orReject)

/-- The text is in the GSM alphabet. -/
def inGsm (s : List Char) : Bool := (Gsm.convertUtf8ToGsm (utf8 s)).isSome

/-- A beginning of the text as it is written. -/
def simOctets (s p : List Char) : List UInt8 :=
  if inGsm s then gsmOctets .default .default p else 0x80 :: ucs2be p

/-- A beginning of the text as it is read. -/
def simText (s p : List Char) : List Char := if inGsm s then p.map blank else p

/-- The octets are those of the longest beginning that fits, and they are read as it. -/
structure LongestWritten (g : GConvert) (s : List Char) (maxLength : ℤ) (octets : List UInt8)
    (len : ℤ) (p : List Char) : Prop where
  written : utf8ToSimString g (utf8 s) maxLength = .ok (octets, len)
  bounds : 0 ≤ len ∧ len ≤ maxLength ∧ len ≤ octets.length
  start : p <+: s
  coded : octets.take len.toNat = simOctets s p
  read : simStringPasses g (octets.take len.toNat) = .ok (utf8 (simText s p))
  longest : ∀ p', p' <+: s → (simOctets s p').length ≤ maxLength → p'.length ≤ p.length

/-- All of the text is written. -/
structure WholeWritten (g : GConvert) (s : List Char) (octets : List UInt8) (len : ℤ) : Prop where
  written : utf8ToSimString g (utf8 s) (-1) = .ok (octets, len)
  bounds : 0 ≤ len ∧ len ≤ octets.length
  coded : octets.take len.toNat = simOctets s s

/-- The length leaves a character of a text in the GSM alphabet, and no character that looks like
padding of any other one. -/
def LengthSuits (s : List Char) (maxLength : ℤ) : Prop :=
  if inGsm s then ¬ (maxLength = 1 ∧ (gsmOctets .default .default (s.take 1)).length = 2)
  else '\uffff' ∉ s.take ((maxLength.toNat - 1) / 2)

/-! ## In the GSM alphabet -/

lemma cutEscapes_spec (result : List UInt8) (n : ℕ) :
    cutEscapes result n ≤ n ∧ (∀ i, cutEscapes result n ≤ i → i < n → result[i]? = some 0x1b) ∧
      (0 < cutEscapes result n → result[cutEscapes result n - 1]? ≠ some 0x1b) := by
  induction n with
  | zero => exact ⟨Nat.le_refl 0, by omega, by simp [cutEscapes]⟩
  | succ n ih =>
    rw [cutEscapes]
    split
    · rename_i hescape
      obtain ⟨hle, hescapes, hlast⟩ := ih
      refine ⟨by omega, ?_, hlast⟩
      intro i hi hlt
      by_cases heq : i = n
      · rw [heq]
        exact hescape
      · exact hescapes i hi (by omega)
    · rename_i hother
      exact ⟨Nat.le_refl _, by omega, fun _ => hother⟩

variable {g : GConvert} {s : List Char}

lemma InDialects.of_prefix {p : List Char} (h : InDialects .default .default s) (hp : p <+: s) :
    InDialects .default .default p :=
  fun c hc => h c (hp.subset hc)

lemma gsmOctets_cutEscapes (h : InDialects .default .default s) {m : ℕ}
    (hm : m ≤ (gsmOctets .default .default s).length) : ∃ p, p <+: s ∧ (gsmOctets .default .default
    s).take (cutEscapes (gsmOctets .default .default s) m) = gsmOctets .default .default p ∧
    ∀ p', p' <+: s → (gsmOctets .default .default p').length ≤ m → p'.length ≤ p.length := by
  obtain ⟨hle, hescapes, hlast⟩ := cutEscapes_spec (gsmOctets .default .default s) m
  have hcut : ((gsmOctets .default .default s).take
      (cutEscapes (gsmOctets .default .default s) m)).getLast? ≠ some 0x1b := by
    by_cases hzero : cutEscapes (gsmOctets .default .default s) m = 0
    · rw [hzero]
      simp
    · rw [Phonelets.Sms.getLast?_take_of_pos (by omega) (by omega)]
      exact hlast (by omega)
  obtain ⟨p, rest, hsplit, htake, -⟩ := Gsm.gsmOctets_split h (by omega) hcut
  refine ⟨p, ⟨rest, hsplit.symm⟩, htake, ?_⟩
  intro p' hp' hfits
  by_contra hlonger
  -- the octet in front of the end of a longer beginning would be an escape
  have hp : p <+: p' :=
    prefix_of_prefix_length_le ⟨rest, hsplit.symm⟩ hp' (by omega)
  obtain ⟨q, rfl⟩ := hp
  have hq : q ≠ [] := by
    rintro rfl
    simp at hlonger
  have hin := InDialects.of_prefix h hp'
  have hqoctets : gsmOctets .default .default q ≠ [] :=
    fun hnil => hq (Gsm.eq_nil_of_gsmOctets (fun c hc => hin c (by simp [hc])) hnil)
  have hpos := length_pos_iff.mpr hqoctets
  have hlen : (gsmOctets .default .default p).length =
      cutEscapes (gsmOctets .default .default s) m := by
    rw [← htake, length_take]
    omega
  have happend : gsmOctets .default .default (p ++ q) =
      gsmOctets .default .default p ++ gsmOctets .default .default q := flatMap_append
  rw [happend, length_append] at hfits
  obtain ⟨behind, hbehind⟩ := hp'
  have hwhole : (gsmOctets .default .default s).take
      (gsmOctets .default .default (p ++ q)).length = gsmOctets .default .default (p ++ q) := by
    rw [← hbehind]
    show (List.flatMap _ (p ++ q ++ behind)).take _ = _
    rw [flatMap_append]
    exact take_left
  have hend := Gsm.getLast?_gsmOctets hin
  rw [← hwhole, Phonelets.Sms.getLast?_take_of_pos (by rw [happend, length_append]; omega)
    (by rw [happend, length_append]; omega)] at hend
  refine hend (hescapes _ ?_ ?_)
  · rw [happend, length_append]
    omega
  · rw [happend, length_append]
    omega

lemma gsmOctets_escape_iff (h : InDialects .default .default s) (hs : s ≠ []) : (gsmOctets
    .default .default s)[0]? = some 0x1b ↔ (gsmOctets .default .default (s.take 1)).length = 2 := by
  cases s with
  | nil => exact absurd rfl hs
  | cons c s =>
    have hc := h c (by simp)
    rw [take_succ_cons, take_zero, Gsm.gsmOctets_cons, Gsm.gsmOctets_cons]
    generalize charOctets .default .default c = w at hc
    cases hc with
    | locking hk hesc hread => simp [gsmOctets, hesc]
    | single hk hesc hgund hread => simp [gsmOctets]

lemma cutEscapes_eq_zero_iff (h : InDialects .default .default s) (hs : s ≠ []) {m : ℕ} (hm : 0 <
    m) : cutEscapes (gsmOctets .default .default s) (min (gsmOctets .default .default s).length m) =
    0 ↔ m = 1 ∧ (gsmOctets .default .default (s.take 1)).length = 2 := by
  have hpos : 0 < (gsmOctets .default .default s).length :=
    length_pos_iff.mpr fun hnil => hs (Gsm.eq_nil_of_gsmOctets h hnil)
  obtain ⟨-, hescapes, -⟩ := cutEscapes_spec (gsmOctets .default .default s)
    (min (gsmOctets .default .default s).length m)
  rw [← gsmOctets_escape_iff h hs]
  constructor
  · intro hzero
    have hfirst := hescapes 0 (by omega) (by omega)
    refine ⟨?_, hfirst⟩
    obtain ⟨x, hx, hne⟩ := Gsm.gsmOctets_escape h hfirst
    rw [Nat.zero_add] at hx
    have htwo : 1 < (gsmOctets .default .default s).length := (List.getElem?_eq_some_iff.mp hx).1
    by_contra hone
    have hsecond := hescapes 1 (by omega) (by omega)
    rw [hx] at hsecond
    exact hne (Option.some.inj hsecond)
  · rintro ⟨rfl, hfirst⟩
    rw [Nat.min_eq_right hpos, cutEscapes, if_pos hfirst]
    rfl

lemma utf8ToSimString_gsm
    (hconvert : Gsm.convertUtf8ToGsm (utf8 s) = some (gsmOctets .default .default s))
    (hin : InDialects .default .default s) (hs : s ≠ []) {maxLength : ℤ} (hmax : 1 ≤ maxLength) :
    utf8ToSimString g (utf8 s) maxLength = .ok (gsmOctets .default .default s, cutEscapes (gsmOctets
    .default .default s) (min (gsmOctets .default .default s).length maxLength.toNat)) := by
  unfold utf8ToSimString
  rw [hconvert]
  dsimp only
  by_cases hfits : maxLength < (gsmOctets .default .default s).length
  · rw [if_pos hfits, if_neg (by omega), Nat.min_eq_right (by omega)]
  · -- a text does not end with an escape
    have hend := Gsm.getLast?_gsmOctets hin
    have hpos : 0 < (gsmOctets .default .default s).length :=
      length_pos_iff.mpr fun hnil => hs (Gsm.eq_nil_of_gsmOctets hin hnil)
    have hlen : cutEscapes (gsmOctets .default .default s)
        (gsmOctets .default .default s).length = (gsmOctets .default .default s).length := by
      rw [getLast?_eq_getElem?] at hend
      obtain ⟨n, hn⟩ := Nat.exists_eq_add_one.mpr hpos
      rw [hn, Nat.add_sub_cancel] at hend
      rw [hn, cutEscapes, if_neg hend]
    rw [if_neg hfits, Nat.min_eq_left (by omega), hlen]

lemma longestWritten_gsm
    (hconvert : Gsm.convertUtf8ToGsm (utf8 s) = some (gsmOctets .default .default s))
    (hin : InDialects .default .default s) (hs : s ≠ []) {maxLength : ℤ} (hmax : 1 ≤ maxLength) :
    (∃ octets len p, LongestWritten g s maxLength octets len p) ↔ LengthSuits s maxLength := by
  have hgsm : inGsm s = true := by rw [inGsm, hconvert, isSome_some]
  have hzero := @cutEscapes_eq_zero_iff s hin hs maxLength.toNat (by omega)
  have hwritten := @utf8ToSimString_gsm g s hconvert hin hs maxLength hmax
  rw [LengthSuits, if_pos hgsm]
  constructor
  · rintro ⟨octets, len, p, hp⟩ ⟨hone, hpair⟩
    -- nothing is left, which is not read as a text
    obtain ⟨rfl, rfl⟩ : gsmOctets .default .default s = octets ∧ (0 : ℤ) = len := by
      have heq := hp.written
      rw [hwritten, hzero.mpr ⟨by omega, hpair⟩] at heq
      simpa using Outcome.ok.inj heq
    have hread := hp.read
    cases hread
  · intro hsuits
    obtain ⟨p, hprefix, htake, hlongest⟩ := gsmOctets_cutEscapes hin
      (Nat.min_le_left (gsmOctets .default .default s).length maxLength.toNat)
    obtain ⟨hle, -, -⟩ := cutEscapes_spec (gsmOctets .default .default s)
      (min (gsmOctets .default .default s).length maxLength.toNat)
    have hsome : cutEscapes (gsmOctets .default .default s)
        (min (gsmOctets .default .default s).length maxLength.toNat) ≠ 0 := by
      intro hnone
      obtain ⟨hone, hpair⟩ := hzero.mp hnone
      exact hsuits ⟨by omega, hpair⟩
    have hpin := InDialects.of_prefix hin hprefix
    have hpne : gsmOctets .default .default p ≠ [] := by
      rw [← htake]
      intro hnil
      have hlen := congrArg List.length hnil
      rw [length_take, length_nil] at hlen
      omega
    refine ⟨_, _, p, hwritten, ?_, hprefix, ?_, ?_, ?_⟩
    · omega
    · rw [Int.toNat_natCast, htake, simOctets, if_pos hgsm]
    · have hread := simStringPasses_septets g (Gsm.gsmOctets_lt hpin) hpne 0
      rw [plainOctets, replicate_zero, append_nil] at hread
      rw [Int.toNat_natCast, htake, hread, Gsm.convertGsmToUtf8,
        Gsm.convertGsmToUtf8WithLang_gsmOctets hpin, orReject_some, simText, if_pos hgsm]
    · intro p' hp' hfits
      rw [simOctets, if_pos hgsm] at hfits
      have hall : (gsmOctets .default .default p').length ≤ (gsmOctets .default .default s).length := by
        obtain ⟨rest, rfl⟩ := hp'
        rw [gsmOctets, gsmOctets, flatMap_append, length_append]
        omega
      exact hlongest p' hp' (by omega)

/-! ## In UCS2 -/

/-- The characters in front of the padding are those in front of the first one that looks
like it. -/
lemma ucs2BeforePadding_ucs2be (h : Basic s) :
    ucs2BeforePadding (ucs2be s) = .ok (ucs2be (s.takeWhile (· ≠ '\uffff'))) := by
  induction s with
  | nil => rfl
  | cons c s ih =>
    have hc : c.toNat < 0x10000 := h c mem_cons_self
    have hpad : UInt8.ofNat (c.toNat / 256) = 0xff ∧ UInt8.ofNat c.toNat = 0xff ↔ c = '\uffff' := by
      rw [← Char.toNat_inj, ← UInt8.toNat_inj, ← UInt8.toNat_inj, UInt8.toNat_ofNat', UInt8.toNat_ofNat']
      show c.toNat / 256 % 256 = 255 ∧ c.toNat % 256 = 255 ↔ c.toNat = 65535
      omega
    show ucs2BeforePadding (UInt8.ofNat (c.toNat / 256) :: UInt8.ofNat c.toNat :: ucs2be s) = _
    rw [ucs2BeforePadding, ih fun c hc => h c (mem_cons_of_mem _ hc)]
    by_cases hff : c = '\uffff'
    · rw [if_pos (hpad.mpr hff), takeWhile_cons_of_neg (by simp [hff])]
      rfl
    · rw [if_neg (mt hpad.mp hff), takeWhile_cons_of_pos (by simp [hff])]
      rfl

lemma evenUcs2_ucs2be (h : Basic s) :
    evenUcs2 (ucs2be s) = .ok (ucs2be (s.takeWhile (· ≠ '\uffff'))) := by
  unfold evenUcs2
  rw [if_neg (by rw [length_ucs2be]; omega), ucs2BeforePadding_ucs2be h]

lemma simStringPasses_ucs2 (hg : g.Exact) (h : Basic s) :
    simStringPasses g (0x80 :: ucs2be s) = .ok (utf8 (s.takeWhile (· ≠ '\uffff'))) := by
  have hsub : Basic (s.takeWhile (· ≠ '\uffff')) := fun c hc => h c (takeWhile_subset _ hc)
  show (do let ucs2 ← evenUcs2 (ucs2be s); orReject (g.ucs2ToUtf8 ucs2)) = _
  rw [evenUcs2_ucs2be h, ok_bind, hg.toUtf8 _ hsub, orReject_some]

lemma take_ucs2be (s : List Char) (k : ℕ) : (ucs2be s).take (2 * k) = ucs2be (s.take k) := by
  by_cases hk : k ≤ s.length
  · have hsplit : ucs2be s = ucs2be (s.take k) ++ ucs2be (s.drop k) := by
      rw [← ucs2be_append, take_append_drop]
    have hlen : (ucs2be (s.take k)).length = 2 * k := by
      rw [length_ucs2be, length_take, Nat.min_eq_left hk]
    rw [hsplit, ← hlen, take_left]
  · rw [take_of_length_le (by rw [length_ucs2be]; omega), take_of_length_le (by omega)]

lemma utf8ToSimString_ucs2 (hnone : Gsm.convertUtf8ToGsm (utf8 s) = none) (hto : g.utf8ToUcs2 (utf8
    s) = some (ucs2be s)) {maxLength : ℤ} (hmax : 1 ≤ maxLength) : ∃ octets len, utf8ToSimString g
    (utf8 s) maxLength = .ok (octets, len) ∧ (0 ≤ len ∧ len ≤ maxLength ∧ len ≤ octets.length) ∧
    octets.take len.toNat = 0x80 :: ucs2be (s.take ((maxLength.toNat - 1) / 2)) := by
  have hlen := length_ucs2be s
  unfold utf8ToSimString
  rw [hnone, hto]
  dsimp only
  by_cases hcut : maxLength ≠ -1 ∧ maxLength < ((ucs2be s).length : ℤ) + 1
  · rw [if_pos hcut, if_neg (by omega)]
    refine ⟨_, _, rfl, ⟨by omega, by omega, ?_⟩, ?_⟩
    · rw [length_cons, length_take]
      omega
    · rw [show (((maxLength.toNat - 1) / 2 * 2 : ℕ) + 1 : ℤ).toNat = (maxLength.toNat - 1) / 2 * 2 + 1 by
        omega, take_succ_cons, take_take, Nat.min_self, Nat.mul_comm, take_ucs2be]
  · rw [if_neg hcut]
    refine ⟨_, _, rfl, ⟨by omega, by omega, ?_⟩, ?_⟩
    · rw [length_cons]
      omega
    · rw [show (((ucs2be s).length : ℤ) + 1).toNat = (ucs2be s).length + 1 by omega,
        take_succ_cons, take_length, take_of_length_le (by omega)]

lemma not_inGsm (hnone : Gsm.convertUtf8ToGsm (utf8 s) = none) : ¬ inGsm s = true := by
  rw [inGsm, hnone]
  exact Bool.false_ne_true

lemma longestWritten_ucs2 (hg : g.Exact) (hbasic : Basic s) (hnone : Gsm.convertUtf8ToGsm (utf8 s) =
    none) (hto : g.utf8ToUcs2 (utf8 s) = some (ucs2be s)) {maxLength : ℤ} (hmax : 1 ≤ maxLength) :
    (∃ octets len p, LongestWritten g s maxLength octets len p) ↔ LengthSuits s maxLength := by
  have hgsm := not_inGsm hnone
  obtain ⟨octets, len, hwritten, hbounds, htake⟩ := utf8ToSimString_ucs2 hnone hto hmax
  have hbasic' : Basic (s.take ((maxLength.toNat - 1) / 2)) :=
    fun c hc => hbasic c (mem_of_mem_take hc)
  have hread := simStringPasses_ucs2 hg hbasic'
  rw [LengthSuits, if_neg hgsm]
  constructor
  · rintro ⟨octets', len', p, hp⟩ hpadding
    obtain ⟨rfl, rfl⟩ : octets = octets' ∧ len = len' := by
      simpa using Outcome.ok.inj (hwritten.symm.trans hp.written)
    have hcoded := hp.coded
    have hback := hp.read
    rw [htake, simOctets, if_neg hgsm, List.cons.injEq] at hcoded
    rw [htake, hread, simText, if_neg hgsm] at hback
    have hlen : p.length = (s.take ((maxLength.toNat - 1) / 2)).length := by
      have hlengths := congrArg List.length hcoded.2
      rw [length_ucs2be, length_ucs2be] at hlengths
      omega
    have hsame : p = s.take ((maxLength.toNat - 1) / 2) := by
      rw [prefix_iff_eq_take.mp hp.start, hlen, length_take, take_eq_take_iff]
      omega
    rw [hsame] at hback
    have hwhole := Gsm.utf8_injective (Outcome.ok.inj hback)
    have hall := takeWhile_eq_self_iff.mp hwhole _ hpadding
    simp at hall
  · intro hpadding
    refine ⟨octets, len, s.take ((maxLength.toNat - 1) / 2), hwritten, hbounds,
      List.take_prefix _ s, ?_, ?_, ?_⟩
    · rw [htake, simOctets, if_neg hgsm]
    · rw [htake, hread, simText, if_neg hgsm, takeWhile_eq_self_iff.mpr]
      intro c hc
      have hne : c ≠ '\uffff' := fun heq => hpadding (heq ▸ hc)
      simpa using hne
    · intro p' hp' hfits
      rw [simOctets, if_neg hgsm, length_cons, length_ucs2be] at hfits
      have hle := hp'.length_le
      rw [length_take]
      omega

/-! ## Both -/

/-- With a length the longest beginning that fits is written and read back, unless the length is
1 and the text begins with an escape pair, or the beginning has a character that looks like padding.
Without one the whole text is written if it is not in the GSM alphabet. -/
theorem utf8ToSimString_iff (hg : g.Exact) (htotal : ∀ s, Basic s → g.utf8ToUcs2 (utf8 s) ≠ none)
    (hs : s ≠ []) (hbasic : Basic s) : (∀ maxLength : ℤ, 1 ≤ maxLength →
    ((∃ octets len p, LongestWritten g s maxLength octets len p) ↔ LengthSuits s maxLength)) ∧
    ((∃ octets len, WholeWritten g s octets len) ↔ inGsm s = false) := by
  cases hconvert : Gsm.convertUtf8ToGsm (utf8 s) with
  | some gs =>
    obtain ⟨hin, rfl, hne⟩ := Gsm.convertUtf8ToGsmWithLang_eq_some hconvert
    refine ⟨fun maxLength hmax => longestWritten_gsm hconvert hin hs hmax, ?_⟩
    have hgsm : inGsm s = true := by rw [inGsm, hconvert, isSome_some]
    rw [hgsm]
    constructor
    · rintro ⟨octets, len, hwhole⟩
      have hwritten := hwhole.written
      unfold utf8ToSimString at hwritten
      rw [hconvert] at hwritten
      dsimp only at hwritten
      rw [if_pos (by omega), if_pos (by decide)] at hwritten
      cases hwritten
    · intro h
      cases h
  | none =>
    have hgsm := not_inGsm hconvert
    obtain ⟨ucs2, hucs2⟩ := ne_none_iff_exists'.mp (htotal s hbasic)
    obtain ⟨-, rfl⟩ := hg.toUcs2 s ucs2 hucs2
    refine ⟨fun maxLength hmax => longestWritten_ucs2 hg hbasic hconvert hucs2 hmax, ?_⟩
    refine ⟨fun _ => Bool.eq_false_iff.mpr hgsm, fun _ => ?_⟩
    refine ⟨0x80 :: ucs2be s, (ucs2be s).length + 1, ?_, ?_, ?_⟩
    · unfold utf8ToSimString
      rw [hconvert, hucs2]
      dsimp only
      rw [if_neg (by simp)]
    · rw [length_cons]
      omega
    · rw [simOctets, if_neg hgsm]
      exact take_of_length_le (by rw [length_cons]; omega)

lemma ucs2Codec_total (s : List Char) (h : Basic s) : ucs2Codec.utf8ToUcs2 (utf8 s) ≠ none := by
  have hall : (s.all fun c => c.toNat < 0x10000) = true := by simpa [Basic] using h
  simp only [ucs2Codec, Gsm.utf8Chars_utf8 s _ (Gsm.length_le_utf8 s), bind_some]
  rw [if_pos hall]
  exact some_ne_none _

/-- A Cyrillic letter into three octets. -/
theorem utf8ToSimString_iff_cyrillic :
    ∃ octets len p, LongestWritten ucs2Codec ['ж'] 3 octets len p := by
  have hsuits : LengthSuits ['ж'] 3 := by
    have hnone : inGsm ['ж'] = false := by decide
    rw [LengthSuits, if_neg (by rw [hnone]; decide)]
    decide
  exact ((utf8ToSimString_iff ucs2Codec_exact ucs2Codec_total (by decide) (by
    intro c hc
    obtain rfl := mem_singleton.mp hc
    decide)).1 3 (by decide)).mpr hsuits

/-- Without a length a letter of the GSM alphabet is looked for in front of the octets. -/
theorem utf8ToSimString_unlimited :
    ¬ ∀ (g : GConvert) (s : List Char), g.Exact → (∀ s, Basic s → g.utf8ToUcs2 (utf8 s) ≠ none) →
      s ≠ [] → Basic s → ∃ octets len, WholeWritten g s octets len := by
  intro h
  obtain ⟨octets, len, hwhole⟩ := h ucs2Codec ['a'] ucs2Codec_exact ucs2Codec_total (by decide) (by
    intro c hc
    obtain rfl := mem_singleton.mp hc
    decide)
  have hfault : utf8ToSimString ucs2Codec (utf8 ['a']) (-1) = .fault := by decide
  have hwritten := hwhole.written
  rw [hfault] at hwritten
  cases hwritten

end Phonelets.Sim
