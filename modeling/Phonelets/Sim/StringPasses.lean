import Phonelets.Sim.HalfPage

/-! # Two passes over a text with the bounds of the tables

`convert_gsm_to_utf8_with_lang` and `sim_string_to_utf8` measure a text and walk it again to
write it. The tables of the locking shift have 128 entries and are indexed with an octet of the
text; of an octet behind an escape it is not looked whether it is a septet.
-/

namespace Phonelets.Sim

open List Option Outcome
open Phonelets.Sms (GConvert)
open Gsm (GsmDialect gsmLockingShiftLookup gsmSingleShiftLookup gUnicharToUtf8 gund gsmChars
  gsmChars_wide gsmChars_septet convertGsmToUtf8WithLang)
open Outcome (orReject orFault)

/-- `t->locking_g[k]` -/
def lockingEntry (locking : GsmDialect) (k : UInt8) : Outcome ℕ :=
  orFault (Gsm.lockingG locking)[k.toNat]?

/-- The character behind an escape: where the single shift table has none, that of the
locking shift table. -/
def escapedEntry (locking single : GsmDialect) (k : UInt8) : Outcome ℕ :=
  let c := gsmSingleShiftLookup single k.toNat
  if c = gund then lockingEntry locking k else .ok c

/-- The first loop of `convert_gsm_to_utf8_with_lang`: `res_length`. -/
def measureGsm (locking single : GsmDialect) : List UInt8 → Outcome ℕ
  | [] => .ok 0
  | k :: l =>
    if k > 0x7f then .reject
    else if k = 0x1b then
      match l with
      | [] => .reject
      | k :: l => do
          let c ← escapedEntry locking single k
          let n ← measureGsm locking single l
          return utf8Length c + n
    else do
      let c ← lockingEntry locking k
      let n ← measureGsm locking single l
      return utf8Length c + n

/-- The second loop, which writes to the `res_length + 1` octets it has and ends with the
terminator. -/
def writeGsm (locking single : GsmDialect) (resLength : ℕ) :
    List UInt8 → List UInt8 → Outcome (List UInt8)
  | out, [] => if out.length = resLength then .ok out else .fault
  | out, k :: l =>
    if out.length < resLength then
      if k = 0x1b then
        match l with
        | [] => .fault
        | k :: l => do
            let c ← escapedEntry locking single k
            writeGsm locking single resLength (out ++ gUnicharToUtf8 c) l
      else do
        let c ← lockingEntry locking k
        writeGsm locking single resLength (out ++ gUnicharToUtf8 c) l
    else if out.length = resLength then .ok out
    else .fault

/-- Both loops over the octets in front of the length. -/
def convertGsmPasses (locking single : GsmDialect) (text : List UInt8) : Outcome (List UInt8) := do
  let resLength ← measureGsm locking single text
  writeGsm locking single resLength [] text

/-- The octets in front of `len`; if it is negative those in front of the terminator, if there
can be one. -/
def octetsBefore (text : List UInt8) (len : ℤ) (terminator : UInt8) : Option (List UInt8) :=
  if len < 0 then
    if terminator = 0 then none else some (text.takeWhile (· ≠ terminator))
  else some (text.take len.toNat)

/-- `convert_gsm_to_utf8_with_lang` of a text that goes up to `len` or has the terminator. -/
def convertGsmToUtf8WithLangPasses (locking single : GsmDialect) (text : List UInt8) (len : ℤ)
    (terminator : UInt8) : Outcome (List UInt8) := do
  let octets ← orReject (octetsBefore text len terminator)
  convertGsmPasses locking single octets

/-- The loop of `sim_string_to_utf8` that measures. -/
def measurePage (numChars ucs2Offset : ℕ) :
    ℕ → ℕ → List UInt8 → Outcome (ℕ × ℕ × List UInt8)
  | j, resLen, [] => .ok (j, resLen, [])
  | j, resLen, b :: rest =>
    if j < numChars then
      if b &&& 0x80 ≠ 0 then
        let c := halfPageChar ucs2Offset b
        if 0xd800 ≤ c ∧ c < 0xe000 then .reject
        else measurePage numChars ucs2Offset (j + 1) (resLen + utf8Length c) rest
      else if b = 0x1b then
        match rest with
        | [] => .reject
        | k :: rest =>
          let c := gsmSingleShiftLookup .default k.toNat
          if c = 0 then .reject
          else measurePage numChars ucs2Offset (j + 2) (resLen + utf8Length c) rest
      else do
        let c ← lockingEntry .default b
        measurePage numChars ucs2Offset (j + 1) (resLen + utf8Length c) rest
    else .ok (j, resLen, b :: rest)

/-- The loop of `sim_string_to_utf8` that writes, and the terminator. -/
def writePage (ucs2Offset resLen : ℕ) : List UInt8 → List UInt8 → Outcome (List UInt8)
  | out, [] => if out.length = resLen then .ok out else .fault
  | out, b :: rest =>
    if out.length < resLen then
      if b &&& 0x80 ≠ 0 then
        writePage ucs2Offset resLen (out ++ gUnicharToUtf8 (halfPageChar ucs2Offset b)) rest
      else if b = 0x1b then
        match rest with
        | [] => .fault
        | k :: rest =>
          writePage ucs2Offset resLen
            (out ++ gUnicharToUtf8 (gsmSingleShiftLookup .default k.toNat)) rest
      else do
        let c ← lockingEntry .default b
        writePage ucs2Offset resLen (out ++ gUnicharToUtf8 c) rest
    else if out.length = resLen then .ok out
    else .fault

/-- The forms with a base, from `offset` on. -/
def halfPagePasses (numChars ucs2Offset : ℕ) (chars : List UInt8) : Outcome (List UInt8) := do
  let (j, resLen, padding) ← measurePage numChars ucs2Offset 0 0 chars
  if j ≠ numChars then .reject
  else if padding.any (· ≠ 0xff) then .reject
  else writePage ucs2Offset resLen [] chars

/-- `sim_string_to_utf8`. -/
def simStringPasses (g : GConvert) : List UInt8 → Outcome (List UInt8)
  | [] => .reject
  | b :: rest =>
    if b < 0x80 then
      convertGsmPasses .default .default ((b :: rest).takeWhile (· ≠ 0xff))
    else
      match b.toNat with
      | 0x80 => do
          let ucs2 ← evenUcs2 rest
          orReject (g.ucs2ToUtf8 ucs2)
      | 0x81 =>
        match rest with
        | count :: base :: chars =>
          if count.toNat > chars.length then .reject
          else halfPagePasses count.toNat (base.toNat <<< 7) chars
        | _ => .reject
      | 0x82 =>
        match rest with
        | count :: hi :: lo :: chars =>
          if count.toNat > chars.length then .reject
          else halfPagePasses count.toNat (hi.toNat <<< 8 ||| lo.toNat) chars
        | _ => .reject
      | 0xff => halfPagePasses 0 0 (b :: rest)
      | _ => .reject

/-! ## The tables -/

variable {locking single : GsmDialect}

lemma length_lockingG (locking : GsmDialect) : (Gsm.lockingG locking).length = 128 := by
  cases locking <;> rfl

variable {k : UInt8}

lemma lockingEntry_of_lt (h : k.toNat < 128) :
    lockingEntry locking k = .ok (gsmLockingShiftLookup locking k.toNat) := by
  have hlt : k.toNat < (Gsm.lockingG locking).length := by
    rw [length_lockingG]
    exact h
  unfold lockingEntry gsmLockingShiftLookup
  rw [getD_eq_getElem?_getD, getElem?_eq_getElem hlt, orFault_some, getD_some]

lemma lockingEntry_of_ge (h : 128 ≤ k.toNat) : lockingEntry locking k = .fault := by
  unfold lockingEntry
  rw [getElem?_eq_none (by rw [length_lockingG]; exact h), orFault_none]

lemma singleG_septet (single : GsmDialect) : ∀ e ∈ Gsm.singleG single, e.1 < 128 := by
  cases single <;> decide

/-- What an escape and the octet behind it stand for. -/
def escapedChar (locking single : GsmDialect) (k : UInt8) : ℕ :=
  if gsmSingleShiftLookup single k.toNat = gund then gsmLockingShiftLookup locking k.toNat
  else gsmSingleShiftLookup single k.toNat

lemma escapedEntry_of_lt (h : k.toNat < 128) :
    escapedEntry locking single k = .ok (escapedChar locking single k) := by
  unfold escapedEntry escapedChar
  dsimp only
  split
  · exact lockingEntry_of_lt h
  · rfl

lemma escapedEntry_of_ge (h : 128 ≤ k.toNat) : escapedEntry locking single k = .fault := by
  have hundefined : gsmSingleShiftLookup single k.toNat = gund := by
    by_contra hdefined
    have hkey := singleG_septet single _ (Gsm.codepointLookup_mem hdefined)
    dsimp only at hkey
    omega
  unfold escapedEntry
  dsimp only
  rw [if_pos hundefined]
  exact lockingEntry_of_ge h

lemma lockingG_bmp (locking : GsmDialect) : ∀ c ∈ Gsm.lockingG locking, Bmp c := by
  cases locking <;> decide +kernel

lemma singleG_bmp (single : GsmDialect) : ∀ e ∈ Gsm.singleG single, Bmp e.2 := by
  cases single <;> decide

lemma lockingChar_bmp {k : UInt8} (h : k.toNat < 128) :
    Bmp (gsmLockingShiftLookup locking k.toNat) := by
  have hlt : k.toNat < (Gsm.lockingG locking).length := by
    rw [length_lockingG]
    exact h
  unfold gsmLockingShiftLookup
  rw [getD_eq_getElem?_getD, getElem?_eq_getElem hlt, getD_some]
  exact lockingG_bmp locking _ (getElem_mem hlt)

lemma escapedChar_bmp {k : UInt8} (h : k.toNat < 128) : Bmp (escapedChar locking single k) := by
  unfold escapedChar
  split
  · exact lockingChar_bmp h
  · rename_i hdefined
    exact singleG_bmp single _ (Gsm.codepointLookup_mem hdefined)

/-! ## A text in the GSM alphabet -/

/-- The walk comes to an escape with an octet behind it that is no septet. -/
def wideEscape : List UInt8 → Bool
  | [] => false
  | k :: l =>
    if k > 0x7f then false
    else if k = 0x1b then
      match l with
      | [] => false
      | k :: l => k > 0x7f || wideEscape l
    else wideEscape l

lemma lt_of_not_gt (h : ¬ k > 0x7f) : k.toNat < 128 := by
  have hle := UInt8.le_iff_toNat_le.mp (UInt8.not_lt.mp h)
  change k.toNat ≤ 127 at hle
  omega

lemma ge_of_gt (h : k > 0x7f) : 128 ≤ k.toNat := by
  have hlt := UInt8.lt_iff_toNat_lt.mp h
  change 127 < k.toNat at hlt
  omega

lemma gsmChars_escape {l : List UInt8} : gsmChars locking single (0x1b :: k :: l) =
      (gsmChars locking single l).map fun cs => escapedChar locking single k :: cs :=
  Gsm.gsmChars_escape

/-- The first loop reads behind the table exactly if it comes to such an escape, else it measures
the characters of the text. -/
lemma measureGsm_eq (text : List UInt8) : measureGsm locking single text =
    if wideEscape text then .fault else (orReject (gsmChars locking single text)).bind fun cs =>
    .ok (cs.flatMap gUnicharToUtf8).length := by
  induction text using Gsm.gsmChars.induct locking single with
  | case1 => rfl
  | case2 k l hk =>
    rw [measureGsm.eq_def, wideEscape.eq_def, gsmChars_wide hk]
    simp only [if_pos hk]
    rfl
  | case3 hk => rfl
  | case4 k l hk ih =>
    rw [measureGsm.eq_def, wideEscape.eq_def, gsmChars_escape]
    simp only [if_neg hk, if_true]
    by_cases hwide : k > 0x7f
    · rw [escapedEntry_of_ge (ge_of_gt hwide)]
      simp [hwide]
    · rw [escapedEntry_of_lt (lt_of_not_gt hwide), ih]
      simp only [hwide, decide_false, Bool.false_or]
      cases wideEscape l with
      | true => rfl
      | false =>
        cases gsmChars locking single l with
        | none => rfl
        | some cs =>
          have hlen := length_gUnicharToUtf8
            (@escapedChar_bmp locking single k (lt_of_not_gt hwide))
          show Outcome.ok (_ + _) = Outcome.ok (List.flatMap _ (_ :: cs)).length
          rw [flatMap_cons, length_append, hlen]
  | case5 k l hk hesc ih =>
    rw [measureGsm.eq_def, wideEscape.eq_def, gsmChars_septet hk hesc]
    simp only [if_neg hk, if_neg hesc]
    rw [lockingEntry_of_lt (lt_of_not_gt hk), ih]
    cases wideEscape l with
    | true => rfl
    | false =>
      cases gsmChars locking single l with
      | none => rfl
      | some cs =>
        have hlen := length_gUnicharToUtf8 (@lockingChar_bmp locking k (lt_of_not_gt hk))
        show Outcome.ok (_ + _) = Outcome.ok (List.flatMap _ (_ :: cs)).length
        rw [flatMap_cons, length_append, hlen]

lemma length_char_pos {c : ℕ} (hc : Bmp c) : 0 < (gUnicharToUtf8 c).length := by
  rw [length_gUnicharToUtf8 hc]
  exact utf8Length_pos c

lemma writeGsm_eq {text : List UInt8} (hwide : wideEscape text = false) {cs : List ℕ} (h : gsmChars
    locking single text = some cs) (out : List UInt8) : writeGsm locking single (out.length +
    (cs.flatMap gUnicharToUtf8).length) out text = .ok (out ++ cs.flatMap gUnicharToUtf8) := by
  have hstep : ∀ (c : ℕ) (cs : List ℕ) (out : List UInt8),
      out.length + ((c :: cs).flatMap gUnicharToUtf8).length =
        (out ++ gUnicharToUtf8 c).length + (cs.flatMap gUnicharToUtf8).length := by
    intro c cs out
    rw [flatMap_cons, length_append, length_append, Nat.add_assoc]
  have hout : ∀ (c : ℕ) (cs : List ℕ) (out : List UInt8), Bmp c →
      out.length < out.length + ((c :: cs).flatMap gUnicharToUtf8).length := by
    intro c cs out hc
    have hpos := length_char_pos hc
    rw [flatMap_cons, length_append]
    omega
  induction text using Gsm.gsmChars.induct locking single generalizing cs out with
  | case1 =>
    cases h
    simp [writeGsm]
  | case2 k l hk =>
    rw [gsmChars_wide hk] at h
    cases h
  | case3 => cases h
  | case4 k l hk ih =>
    rw [wideEscape.eq_def] at hwide
    simp only [if_neg hk, if_true, Bool.or_eq_false_iff, decide_eq_false_iff_not] at hwide
    rw [gsmChars_escape] at h
    obtain ⟨cs, hcs, rfl⟩ := map_eq_some_iff.mp h
    have hlt := lt_of_not_gt hwide.1
    have hbmp := @escapedChar_bmp locking single k hlt
    rw [writeGsm.eq_def]
    dsimp only
    rw [if_pos (hout _ cs out hbmp), if_pos rfl, escapedEntry_of_lt hlt, ok_bind, hstep,
      ih hwide.2 hcs, flatMap_cons, append_assoc]
  | case5 k l hk hesc ih =>
    rw [wideEscape.eq_def] at hwide
    simp only [if_neg hk, if_neg hesc] at hwide
    rw [gsmChars_septet hk hesc] at h
    obtain ⟨cs, hcs, rfl⟩ := map_eq_some_iff.mp h
    have hlt := lt_of_not_gt hk
    have hbmp := @lockingChar_bmp locking k hlt
    rw [writeGsm.eq_def]
    dsimp only
    rw [if_pos (hout _ cs out hbmp), if_neg hesc, lockingEntry_of_lt hlt, ok_bind, hstep,
      ih hwide hcs, flatMap_cons, append_assoc]

/-- The two passes leave the table exactly at such an escape; else they convert the text. -/
lemma convertGsmPasses_eq (locking single : GsmDialect) (text : List UInt8) :
    convertGsmPasses locking single text =
      if wideEscape text then .fault else orReject (convertGsmToUtf8WithLang text locking single) := by
  unfold convertGsmPasses
  rw [measureGsm_eq]
  cases hwide : wideEscape text with
  | true => rfl
  | false =>
    unfold convertGsmToUtf8WithLang
    cases hchars : gsmChars locking single text with
    | none => rfl
    | some cs =>
      have hwrite := writeGsm_eq hwide hchars []
      rw [length_nil, Nat.zero_add, nil_append] at hwrite
      exact hwrite

lemma gsmChars_eq_none {text : List UInt8} (hwide : wideEscape text = false)
    (h : ∃ k ∈ text, k > 0x7f) : gsmChars locking single text = none := by
  induction text using Gsm.gsmChars.induct locking single with
  | case1 => simp at h
  | case2 k l hk => exact gsmChars_wide hk
  | case3 => rfl
  | case4 k l hk ih =>
    rw [wideEscape.eq_def] at hwide
    simp only [if_neg hk, if_true, Bool.or_eq_false_iff, decide_eq_false_iff_not] at hwide
    obtain ⟨k', hk', hgt⟩ := h
    rw [gsmChars_escape, ih hwide.2, map_none]
    rcases mem_cons.mp hk' with rfl | hk'
    · exact absurd hgt hk
    · rcases mem_cons.mp hk' with rfl | hk'
      · exact absurd hgt hwide.1
      · exact ⟨k', hk', hgt⟩
  | case5 k l hk hesc ih =>
    rw [wideEscape.eq_def] at hwide
    simp only [if_neg hk, if_neg hesc] at hwide
    obtain ⟨k', hk', hgt⟩ := h
    rw [gsmChars_septet hk hesc, ih hwide, map_none]
    rcases mem_cons.mp hk' with rfl | hk'
    · exact absurd hgt hk
    · exact ⟨k', hk', hgt⟩

/-! ## A text with a base -/

lemma toNat_lt_of_and {b : UInt8} (h : b &&& 0x80 = 0) : b.toNat < 128 := by
  have hall : ∀ b : UInt8, b &&& 0x80 = 0 → b.toNat < 128 :=
    Phonelets.Sms.octet_forall (by decide)
  exact hall b h

lemma measurePage_eq (numChars ucs2Offset j resLen : ℕ) (l : List UInt8) : measurePage numChars
    ucs2Offset j resLen l = orReject (measureChars numChars ucs2Offset j resLen l) := by
  fun_induction measureChars numChars ucs2Offset j resLen l with
  | case1 j resLen => rfl
  | case2 j resLen b rest hj hbit c hsurrogate =>
    rw [measurePage.eq_def]
    dsimp only
    rw [if_pos hj, if_pos hbit, if_pos hsurrogate, orReject_none]
  | case3 j resLen b rest hj hbit c hsurrogate ih =>
    rw [measurePage.eq_def]
    dsimp only
    rw [if_pos hj, if_pos hbit, if_neg hsurrogate]
    exact ih
  | case4 j resLen hj hbit =>
    rw [measurePage.eq_def]
    dsimp only
    rw [if_pos hj, if_neg hbit, if_pos rfl, orReject_none]
  | case5 j resLen hj k rest c hzero hbit =>
    rw [measurePage.eq_def]
    dsimp only
    rw [if_pos hj, if_neg hbit, if_pos rfl]
    exact if_pos hzero
  | case6 j resLen hj k rest c hzero hbit ih =>
    rw [measurePage.eq_def]
    dsimp only
    rw [if_pos hj, if_neg hbit, if_pos rfl]
    exact (if_neg hzero).trans ih
  | case7 j resLen b rest hj hbit hesc c ih =>
    rw [measurePage.eq_def]
    dsimp only
    rw [if_pos hj, if_neg hbit, if_neg hesc, lockingEntry_of_lt (toNat_lt_of_and (not_not.mp hbit))]
    exact ih
  | case8 j resLen b rest hj =>
    rw [measurePage.eq_def]
    dsimp only
    rw [if_neg hj, orReject_some]

lemma writePage_eq (ucs2Offset resLen : ℕ) (out l : List UInt8) :
    writePage ucs2Offset resLen out l = writeChars ucs2Offset resLen out l := by
  fun_induction writeChars ucs2Offset resLen out l with
  | case1 out h => rw [writePage, if_pos h]
  | case2 out h => rw [writePage, if_neg h]
  | case3 out b rest hout hbit ih =>
    rw [writePage.eq_def]
    dsimp only
    rw [if_pos hout, if_pos hbit]
    exact ih
  | case4 out hout hbit =>
    rw [writePage.eq_def]
    dsimp only
    rw [if_pos hout, if_neg hbit, if_pos rfl]
  | case5 out hout k rest hbit ih =>
    rw [writePage.eq_def]
    dsimp only
    rw [if_pos hout, if_neg hbit, if_pos rfl]
    exact ih
  | case6 out b rest hout hbit hesc ih =>
    rw [writePage.eq_def]
    dsimp only
    rw [if_pos hout, if_neg hbit, if_neg hesc,
      lockingEntry_of_lt (toNat_lt_of_and (not_not.mp hbit))]
    exact ih
  | case7 out b rest hout h =>
    rw [writePage.eq_def]
    dsimp only
    rw [if_neg hout, if_pos h]
  | case8 out b rest hout h =>
    rw [writePage.eq_def]
    dsimp only
    rw [if_neg hout, if_neg h]

lemma halfPagePasses_eq (numChars ucs2Offset : ℕ) (chars : List UInt8) :
    halfPagePasses numChars ucs2Offset chars = halfPageToUtf8 numChars ucs2Offset chars := by
  unfold halfPagePasses halfPageToUtf8
  rw [measurePage_eq]
  cases measureChars numChars ucs2Offset 0 0 chars with
  | none => rfl
  | some r =>
    rw [orReject_some, ok_bind]
    dsimp only
    rw [writePage_eq]

/-- The text is in the GSM alphabet. -/
def plainForm (buffer : List UInt8) : Bool := buffer.head?.any (· < 0x80)

/-- The form that starts with a septet is the only one that can leave the table. -/
lemma simStringPasses_eq (g : GConvert) (buffer : List UInt8) :
    simStringPasses g buffer = if plainForm buffer &&
    wideEscape (buffer.takeWhile (· ≠ 0xff)) then .fault else simStringToUtf8 g buffer := by
  cases buffer with
  | nil => rfl
  | cons b rest =>
    unfold simStringPasses simStringToUtf8 plainForm
    dsimp only
    by_cases hb : b < 0x80
    · rw [if_pos hb, if_pos hb, convertGsmPasses_eq]
      simp only [head?_cons, any_some, hb, decide_true, Bool.true_and, Gsm.convertGsmToUtf8]
    · rw [if_neg hb, if_neg hb]
      simp only [head?_cons, any_some, hb, decide_false, Bool.false_and,
        Bool.false_eq_true, if_false, halfPagePasses_eq] <;> rfl

/-! ## Octets that are no septets -/

/-- The count, the base and the characters of a text with a base. -/
def pageForm : List UInt8 → Option (ℕ × ℕ × List UInt8)
  | 0x81 :: count :: base :: chars =>
    if count.toNat > chars.length then none else some (count.toNat, base.toNat <<< 7, chars)
  | 0x82 :: count :: hi :: lo :: chars =>
    if count.toNat > chars.length then none
    else some (count.toNat, hi.toNat <<< 8 ||| lo.toNat, chars)
  | _ => none

/-- Where a septet is expected, maybe behind an escape, there is an octet above `0x7F`. -/
def WideOctet (buffer : List UInt8) : Prop :=
  (plainForm buffer = true ∧ ∃ k ∈ buffer.takeWhile (· ≠ 0xff), k > 0x7f) ∨
    ∃ numChars ucs2Offset chars, pageForm buffer = some (numChars, ucs2Offset, chars) ∧
      ∃ us k rest, (∀ u ∈ us, u.Valid ucs2Offset) ∧
        chars = PageChar.encode us ++ 0x1b :: k :: rest ∧
        (PageChar.encode us).length < numChars ∧ k > 0x7f

/-- A text that is nothing but characters and padding has an octet above `0x7F` behind an escape,
or, in the GSM alphabet, begins like one. -/
def WidePair (buffer : List UInt8) : Prop :=
  (plainForm buffer = true ∧ wideEscape (buffer.takeWhile (· ≠ 0xff)) = true) ∨
    ∃ numChars ucs2Offset chars, pageForm buffer = some (numChars, ucs2Offset, chars) ∧
      ∃ us padding, PageChar.Reads numChars ucs2Offset chars us padding ∧
        ∃ k, PageChar.pair k ∈ us ∧ k > 0x7f

lemma pageForm_eq_some {buffer chars : List UInt8} {numChars ucs2Offset : ℕ}
    (h : pageForm buffer = some (numChars, ucs2Offset, chars)) (g : GConvert) : plainForm buffer =
    false ∧ simStringToUtf8 g buffer = halfPageToUtf8 numChars ucs2Offset chars := by
  unfold pageForm at h
  split at h
  · split at h
    · cases h
    · rename_i hfits
      cases h
      refine ⟨rfl, ?_⟩
      show (if _ then _ else _) = _
      rw [if_neg hfits]
  · split at h
    · cases h
    · rename_i hfits
      cases h
      refine ⟨rfl, ?_⟩
      show (if _ then _ else _) = _
      rw [if_neg hfits]
  · cases h

lemma pair_mem_of_reads {numChars ucs2Offset : ℕ} {chars padding rest : List UInt8}
    {us vs : List PageChar} (hus : ∀ u ∈ us, u.Valid ucs2Offset) (hsplit : chars =
    PageChar.encode us ++ 0x1b :: k :: rest) (hlt : (PageChar.encode us).length < numChars)
    (h : PageChar.Reads numChars ucs2Offset chars vs padding) : PageChar.pair k ∈ vs := by
  have hsame := hsplit.symm.trans h.split
  obtain ⟨ws, rfl⟩ := PageChar.encode_prefix hus h.valid hsame (by rw [h.count]; omega)
  have hrest : 0x1b :: k :: rest = PageChar.encode ws ++ padding := by
    rw [PageChar.encode_append, append_assoc] at hsame
    exact append_cancel_left hsame
  cases ws with
  | nil =>
    have hcount := h.count
    rw [append_nil] at hcount
    omega
  | cons w ws =>
    rw [PageChar.encode_cons, append_assoc] at hrest
    have hw : PageChar.pair k = w :=
      @PageChar.eq_of_octets ucs2Offset (.pair k) w trivial (h.valid w (by simp)) rest _ hrest
    rw [hw]
    simp

/-- A conversion reads behind a table or takes an octet above `0x7F` for a septet exactly if the
walk comes to an escape with such an octet behind it. -/
lemma convertGsmToUtf8WithLangPasses_iff (locking single : GsmDialect) (text : List UInt8) (len : ℤ)
    (terminator : UInt8) : (convertGsmToUtf8WithLangPasses locking single text len terminator ≠
    .fault ∧ ((∃ k ∈ (octetsBefore text len terminator).getD [], k > 0x7f) →
    convertGsmToUtf8WithLangPasses locking single text len terminator = .reject)) ↔
    wideEscape ((octetsBefore text len terminator).getD []) = false := by
  unfold convertGsmToUtf8WithLangPasses
  cases octetsBefore text len terminator with
  | none => exact ⟨fun _ => rfl, fun _ => ⟨by simp, fun _ => rfl⟩⟩
  | some octets =>
    rw [orReject_some, ok_bind, getD_some, convertGsmPasses_eq]
    cases hwide : wideEscape octets with
    | true =>
      constructor
      · intro h
        exact absurd rfl h.1
      · intro h
        cases h
    | false =>
      refine ⟨fun _ => rfl, fun _ => ⟨orReject_ne_fault _, ?_⟩⟩
      intro hk
      rw [convertGsmToUtf8WithLang, gsmChars_eq_none hwide hk]
      rfl

lemma simStringPasses_iff (g : GConvert) (buffer : List UInt8) : (simStringPasses g buffer ≠
    .fault ∧ (WideOctet buffer → simStringPasses g buffer = .reject)) ↔ ¬ WidePair buffer := by
  rw [simStringPasses_eq]
  cases hplain : plainForm buffer with
  | true =>
    -- no base in this form
    have hpage : pageForm buffer = none := by
      cases hform : pageForm buffer with
      | none => rfl
      | some r =>
        rw [(pageForm_eq_some hform g).1] at hplain
        cases hplain
    simp only [WideOctet, WidePair, hplain, hpage, reduceCtorEq, false_and, exists_const, or_false,
      true_and, Bool.true_and]
    cases hwide : wideEscape (buffer.takeWhile (· ≠ 0xff)) with
    | true =>
      simp
    | false =>
      refine ⟨fun _ => by simp, fun _ => ⟨simStringToUtf8_ne_fault g buffer, ?_⟩⟩
      intro hk
      cases buffer with
      | nil => cases hplain
      | cons b rest =>
        have hb : b < 0x80 := by simpa [plainForm] using hplain
        show (if b < 0x80 then _ else _) = _
        rw [if_pos hb, Gsm.convertGsmToUtf8, convertGsmToUtf8WithLang, gsmChars_eq_none hwide hk]
        rfl
  | false =>
    simp only [WideOctet, WidePair, hplain, Bool.false_and, Bool.false_eq_true, if_false,
      false_and, false_or]
    constructor
    · rintro ⟨-, hreject⟩ ⟨numChars, ucs2Offset, chars, hform, us, padding, hreads, k, hk, hgt⟩
      obtain ⟨front, back, rfl⟩ := append_of_mem hk
      have hchars : chars = PageChar.encode front ++ 0x1b :: k ::
          (PageChar.encode back ++ padding) := by
        rw [hreads.split, PageChar.encode_append, PageChar.encode_cons, append_assoc]
        rfl
      have hlt : (PageChar.encode front).length < numChars := by
        rw [← hreads.count, PageChar.encode_append, PageChar.encode_cons, length_append,
          length_append]
        have hpos := (PageChar.pair k).octets_pos
        omega
      have hrejected := hreject ⟨numChars, ucs2Offset, chars, hform, front, k, _,
        fun u hu => hreads.valid u (by simp [hu]), hchars, hlt, hgt⟩
      rw [(pageForm_eq_some hform g).2, hreads.eq_ok] at hrejected
      cases hrejected
    · intro hnone
      refine ⟨simStringToUtf8_ne_fault g buffer, ?_⟩
      rintro ⟨numChars, ucs2Offset, chars, hform, us, k, rest, hus, hsplit, hlt, hgt⟩
      rw [(pageForm_eq_some hform g).2]
      cases hresult : halfPageToUtf8 numChars ucs2Offset chars with
      | reject => rfl
      | fault => exact absurd hresult (halfPageToUtf8_ne_fault numChars ucs2Offset chars)
      | ok out =>
        obtain ⟨vs, padding, hreads, -⟩ := PageChar.halfPageToUtf8_eq_ok_iff.mp hresult
        exact absurd ⟨numChars, ucs2Offset, chars, hform, vs, padding, hreads, k,
          pair_mem_of_reads hus hsplit hlt hreads, hgt⟩ hnone

/-- Tables and texts are read within their bounds, the passes agree, and no octet above `0x7F`
is taken for a septet: in the conversion of a GSM text exactly if the walk comes to no escape with
such an octet behind it, in the text of a SIM exactly if it has no such escape or is rejected for
another reason. -/
theorem passes_checked_iff (g : GConvert) :
    (∀ (locking single : GsmDialect) (text : List UInt8) (len : ℤ) (terminator : UInt8),
      (convertGsmToUtf8WithLangPasses locking single text len terminator ≠ .fault ∧
        ((∃ k ∈ (octetsBefore text len terminator).getD [], k > 0x7f) →
          convertGsmToUtf8WithLangPasses locking single text len terminator = .reject)) ↔
        wideEscape ((octetsBefore text len terminator).getD []) = false) ∧
    ∀ buffer : List UInt8,
      (simStringPasses g buffer ≠ .fault ∧
        (WideOctet buffer → simStringPasses g buffer = .reject)) ↔ ¬ WidePair buffer :=
  ⟨convertGsmToUtf8WithLangPasses_iff, simStringPasses_iff g⟩

/-- An escape and the octet `0x80`. -/
theorem passes_unchecked :
    ¬ ((∀ (locking single : GsmDialect) (text : List UInt8) (len : ℤ) (terminator : UInt8),
      convertGsmToUtf8WithLangPasses locking single text len terminator ≠ .fault ∧
        ((∃ k ∈ (octetsBefore text len terminator).getD [], k > 0x7f) →
          convertGsmToUtf8WithLangPasses locking single text len terminator = .reject)) ∧
      ∀ (g : GConvert) (buffer : List UInt8),
        simStringPasses g buffer ≠ .fault ∧
          (WideOctet buffer → simStringPasses g buffer = .reject)) := by
  intro h
  have hfault : convertGsmToUtf8WithLangPasses .default .default [0x1b, 0x80] 2 0 = .fault := by
    decide
  exact (h.1 .default .default [0x1b, 0x80] 2 0).1 hfault

end Phonelets.Sim
