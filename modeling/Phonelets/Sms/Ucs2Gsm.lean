import Phonelets.Sms.TextRoundTrip

/-! # From UCS-2 to the GSM alphabet

The converter for UCS-2 has its two passes over pairs of octets, where the one for UTF-8 goes from character to
character. On a text that has both forms they come to the same.
-/

namespace Phonelets.Gsm

open List Option
open Phonelets.Sms (Basic ucs2be length_ucs2be untilNul_utf8)

/-- The code of `gunichar c = (in[i] << 8) | in[i + 1]`. -/
def ucs2Lookup (locking single : GsmDialect) (hi lo : UInt8) : ℕ :=
  let c := hi.toNat <<< 8 ||| lo.toNat
  let converted := unicodeLockingShiftLookup locking c
  if converted = gund then unicodeSingleShiftLookup single c else converted

/-- The first pass of `convert_ucs2_to_gsm_with_lang`: `res_len`. -/
def ucs2FirstPass (locking single : GsmDialect) : List UInt8 → Option ℕ
  | hi :: lo :: text => do
    if hi.toNat <<< 8 ||| lo.toNat > 0xffff then none
    else
      let converted := ucs2Lookup locking single hi lo
      if converted = gund then none
      else
        let resLen ← ucs2FirstPass locking single text
        return (if converted &&& 0x1b00 ≠ 0 then 2 else 1) + resLen
  | _ => some 0

def ucs2SecondPass (locking single : GsmDialect) : List UInt8 → List UInt8
  | hi :: lo :: text => writeCode (ucs2Lookup locking single hi lo) ++ ucs2SecondPass locking single text
  | _ => []

/-- `convert_ucs2_to_gsm_with_lang` without a terminator: what is allocated, the octets, and `items_written`. -/
def convertUcs2ToGsmWithLang (text : List UInt8) (locking single : GsmDialect) : Option (ℕ × List UInt8 × ℕ) :=
  if text.length < 1 ∨ text.length % 2 ≠ 0 then none
  else do
    let resLen ← ucs2FirstPass locking single text
    let out := ucs2SecondPass locking single text
    return (resLen, out, out.length)

variable {s : List Char} {locking single : GsmDialect}

lemma pair_toNat {c : ℕ} (hc : c < 0x10000) :
    (UInt8.ofNat (c / 256)).toNat <<< 8 ||| (UInt8.ofNat c).toNat = c := by
  have hhi : (UInt8.ofNat (c / 256)).toNat = c / 256 := by
    rw [UInt8.toNat_ofNat']
    exact Nat.mod_eq_of_lt (by omega)
  have hlo : (UInt8.ofNat c).toNat = c % 2 ^ 8 := UInt8.toNat_ofNat' ..
  rw [hhi, hlo, ← Nat.shiftLeft_add_eq_or_of_lt (Nat.mod_lt _ (by decide)), Nat.shiftLeft_eq]
  omega

lemma unicodeToGsm_pair {c : Char} (hc : c.toNat < 0x10000) (locking single : GsmDialect) :
    unicodeToGsm locking single c =
      (let converted := ucs2Lookup locking single (UInt8.ofNat (c.toNat / 256)) (UInt8.ofNat c.toNat)
      if converted = gund then none else some converted) := by
  unfold unicodeToGsm ucs2Lookup
  rw [pair_toNat hc, if_neg (by omega)]

lemma length_writeCode (converted : ℕ) :
    (writeCode converted).length = if converted &&& 0x1b00 ≠ 0 then 2 else 1 := by
  unfold writeCode
  split_ifs <;> rfl

lemma ucs2Passes_spec (hs : Basic s) (locking single : GsmDialect) :
    ucs2FirstPass locking single (ucs2be s) =
        (s.mapM (unicodeToGsm locking single)).map (fun codes => (codes.flatMap writeCode).length) ∧
      ∀ codes, s.mapM (unicodeToGsm locking single) = some codes →
        ucs2SecondPass locking single (ucs2be s) = codes.flatMap writeCode := by
  induction s with
  | nil =>
    refine ⟨rfl, fun codes hcodes => ?_⟩
    obtain rfl : [] = codes := some_inj.mp hcodes
    rfl
  | cons c s ih =>
    obtain ⟨hc, hrest⟩ := forall_mem_cons.mp hs
    obtain ⟨hfirst, hsecond⟩ := ih hrest
    have hcode := unicodeToGsm_pair hc locking single
    have hpair : ucs2be (c :: s) = UInt8.ofNat (c.toNat / 256) :: UInt8.ofNat c.toNat :: ucs2be s := rfl
    rw [hpair, ucs2FirstPass, ucs2SecondPass, pair_toNat hc, if_neg (by omega), mapM_cons, hfirst, hcode]
    dsimp only
    by_cases hgund : ucs2Lookup locking single (UInt8.ofNat (c.toNat / 256)) (UInt8.ofNat c.toNat) = gund
    · rw [if_pos hgund, if_pos hgund]
      exact ⟨rfl, fun codes hcodes => by cases hcodes⟩
    · rw [if_neg hgund, if_neg hgund]
      cases hmapM : s.mapM (unicodeToGsm locking single) with
      | none => exact ⟨rfl, fun codes hcodes => by cases hcodes⟩
      | some codes =>
        refine ⟨?_, fun codes' hcodes => ?_⟩
        · change some _ = some (List.flatMap writeCode (_ :: codes)).length
          rw [flatMap_cons, length_append, length_writeCode]
        · obtain rfl : _ :: codes = codes' := some_inj.mp hcodes
          rw [hsecond codes hmapM, flatMap_cons]

/-- On a text of characters with 16 bits that is not empty, the converters fail together, or write the same octets
and as many; the one for UCS-2 has allocated them. -/
theorem convertUcs2ToGsm_eq (s : List Char) (locking single : GsmDialect) (hne : s ≠ []) (hs : Basic s)
    (hnul : '\x00' ∉ s) :
    convertUcs2ToGsmWithLang (ucs2be s) locking single =
      (convertUtf8ToGsmWithLang (CString.untilNul (utf8 s)) locking single).map
        fun res => (res.length, res, res.length) := by
  obtain ⟨hfirst, hsecond⟩ := ucs2Passes_spec hs locking single
  have hpos := length_pos_iff.mpr hne
  have hlen : ¬ ((ucs2be s).length < 1 ∨ (ucs2be s).length % 2 ≠ 0) := by
    rw [length_ucs2be]
    omega
  rw [untilNul_utf8 hnul, convertUcs2ToGsmWithLang, if_neg hlen, hfirst, convertUtf8ToGsmWithLang,
    utf8Chars_utf8 s _ (length_le_utf8 s)]
  simp only [bind_eq_bind, bind_some, Option.pure_def]
  cases hcodes : s.mapM (unicodeToGsm locking single) with
  | none => rfl
  | some codes =>
    have hsome : (codes.flatMap writeCode).isEmpty = false := by
      obtain ⟨c, s', rfl⟩ := exists_cons_of_ne_nil hne
      rw [mapM_cons] at hcodes
      simp only [bind_eq_bind, bind_eq_some_iff, Option.pure_def, Option.some.injEq] at hcodes
      obtain ⟨code, -, codes', -, rfl⟩ := hcodes
      rw [flatMap_cons, writeCode]
      split_ifs <;> rfl
    rw [map_some, bind_some, bind_some, hsecond codes hcodes, hsome]
    rfl

theorem convertUcs2ToGsm_eq_euro : ['€'] ≠ [] ∧ Basic ['€'] ∧ '\x00' ∉ ['€'] ∧
    convertUcs2ToGsmWithLang (ucs2be ['€']) .default .default =
      (convertUtf8ToGsmWithLang (CString.untilNul (utf8 ['€'])) .default .default).map
        fun res => (res.length, res, res.length) :=
  have hbasic : Basic ['€'] := forall_mem_singleton.mpr (by decide)
  ⟨by decide, hbasic, by decide, convertUcs2ToGsm_eq ['€'] .default .default (by decide) hbasic (by decide)⟩

end Phonelets.Gsm
