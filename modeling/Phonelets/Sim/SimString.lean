import Phonelets.Sms.Text
import Phonelets.Util.Dialects

/-! # Texts in the files of a SIM

`sim_string_to_utf8` and `utf8_to_sim_string`: a text in the GSM alphabet, or one of three
forms of UCS2 that start with `0x80`, `0x81` and `0x82`. In the last two an octet below
`0x80` is a GSM character and any other one an offset to a base.
-/

namespace Phonelets.Sim

open Phonelets.Sms (GConvert)
open Gsm (gsmLockingShiftLookup gsmSingleShiftLookup gUnicharToUtf8 gund)
open Outcome (orReject)

def utf8Length (c : ℕ) : ℕ := if c < 0x80 then 1 else if c < 0x800 then 2 else 3

/-- The octets of whole UCS2 characters up to the padding. -/
def ucs2BeforePadding : List UInt8 → Outcome (List UInt8)
  | [] => .ok []
  | [_] => .fault
  | hi :: lo :: rest =>
    if hi = 0xff ∧ lo = 0xff then .ok []
    else do
      let chars ← ucs2BeforePadding rest
      return hi :: lo :: chars

/-- The code of an octet with its top bit set. -/
def halfPageChar (ucs2Offset : ℕ) (b : UInt8) : ℕ := ((b &&& 0x7f).toNat + ucs2Offset) % 2 ^ 16

/-- The loop that measures: `j`, `res_len` and the octets from `i` on when it ends. -/
def measureChars (numChars ucs2Offset : ℕ) :
    ℕ → ℕ → List UInt8 → Option (ℕ × ℕ × List UInt8)
  | j, resLen, [] => some (j, resLen, [])
  | j, resLen, b :: rest =>
    if j < numChars then
      if b &&& 0x80 ≠ 0 then
        let c := halfPageChar ucs2Offset b
        if 0xd800 ≤ c ∧ c < 0xe000 then none
        else measureChars numChars ucs2Offset (j + 1) (resLen + utf8Length c) rest
      else if b = 0x1b then
        match rest with
        | [] => none
        | k :: rest =>
          let c := gsmSingleShiftLookup .default k.toNat
          if c = 0 then none
          else measureChars numChars ucs2Offset (j + 2) (resLen + utf8Length c) rest
      else
        let c := gsmLockingShiftLookup .default b.toNat
        measureChars numChars ucs2Offset (j + 1) (resLen + utf8Length c) rest
    else some (j, resLen, b :: rest)

/-- The loop that writes to the `res_len + 1` octets it has, and the terminator. -/
def writeChars (ucs2Offset resLen : ℕ) : List UInt8 → List UInt8 → Outcome (List UInt8)
  | out, [] => if out.length = resLen then .ok out else .fault
  | out, b :: rest =>
    if out.length < resLen then
      if b &&& 0x80 ≠ 0 then
        writeChars ucs2Offset resLen (out ++ gUnicharToUtf8 (halfPageChar ucs2Offset b)) rest
      else if b = 0x1b then
        match rest with
        | [] => .fault
        | k :: rest =>
          writeChars ucs2Offset resLen
            (out ++ gUnicharToUtf8 (gsmSingleShiftLookup .default k.toNat)) rest
      else
        writeChars ucs2Offset resLen
          (out ++ gUnicharToUtf8 (gsmLockingShiftLookup .default b.toNat)) rest
    else if out.length = resLen then .ok out
    else .fault

/-- The forms with a base, from `offset` on. -/
def halfPageToUtf8 (numChars ucs2Offset : ℕ) (chars : List UInt8) : Outcome (List UInt8) :=
  match measureChars numChars ucs2Offset 0 0 chars with
  | none => .reject
  | some (j, resLen, padding) =>
    if j ≠ numChars then .reject
    else if padding.any (· ≠ 0xff) then .reject
    else writeChars ucs2Offset resLen [] chars

/-- The octets of the form `0x80` that are converted, without a last octet of padding. -/
def evenUcs2 (body : List UInt8) : Outcome (List UInt8) :=
  if body.length % 2 = 1 then
    if body.getLast? = some 0xff then ucs2BeforePadding body.dropLast else .reject
  else ucs2BeforePadding body

def simStringToUtf8 (g : GConvert) : List UInt8 → Outcome (List UInt8)
  | [] => .reject
  | b :: rest =>
    if b < 0x80 then
      -- alpha fields are padded with 0xff
      orReject (Gsm.convertGsmToUtf8 ((b :: rest).takeWhile (· ≠ 0xff)))
    else
      match b.toNat with
      | 0x80 => do
          let ucs2 ← evenUcs2 rest
          orReject (g.ucs2ToUtf8 ucs2)
      | 0x81 =>
        match rest with
        | count :: base :: chars =>
          if count.toNat > chars.length then .reject
          else halfPageToUtf8 count.toNat (base.toNat <<< 7) chars
        | _ => .reject
      | 0x82 =>
        match rest with
        | count :: hi :: lo :: chars =>
          if count.toNat > chars.length then .reject
          else halfPageToUtf8 count.toNat (hi.toNat <<< 8 ||| lo.toNat) chars
        | _ => .reject
      | 0xff => halfPageToUtf8 0 0 (b :: rest)
      | _ => .reject

/-- The loop over `gsm_bytes`, which must not leave an escape at the end. -/
def cutEscapes (result : List UInt8) : ℕ → ℕ
  | 0 => 0
  | n + 1 => if result[n]? = some 0x1b then cutEscapes result n else n + 1

/-- `utf8_to_sim_string`: the octets that are allocated and `out_length`. With
`max_length` negative the loop over `gsm_bytes` starts in front of the octets. -/
def utf8ToSimString (g : GConvert) (utf : List UInt8) (maxLength : ℤ) :
    Outcome (List UInt8 × ℤ) :=
  match Gsm.convertUtf8ToGsm utf with
  | some result =>
    if maxLength < result.length then
      if maxLength < 0 then .fault
      else .ok (result, cutEscapes result maxLength.toNat)
    else .ok (result, result.length)
  | none =>
    match g.utf8ToUcs2 utf with
    | none => .reject
    | some ucs2 =>
      if maxLength ≠ -1 ∧ maxLength < (ucs2.length : ℤ) + 1 then
        -- as a size, what is below 1 cannot be allocated
        if maxLength < 1 then .reject
        else
          let converted := (maxLength.toNat - 1) / 2 * 2
          .ok (0x80 :: ucs2.take converted, converted + 1)
      else .ok (0x80 :: ucs2, ucs2.length + 1)

/-! ## Where it reads and writes -/

lemma ucs2BeforePadding_ne_fault {l : List UInt8} (heven : l.length % 2 = 0) :
    ucs2BeforePadding l ≠ .fault := by
  fun_induction ucs2BeforePadding l with
  | case1 => simp
  | case2 b => simp at heven
  | case3 => simp
  | case4 hi lo rest hpad ih =>
    have hrest : rest.length % 2 = 0 := by
      simp only [List.length_cons] at heven
      omega
    have hne := ih hrest
    rw [Ne, Outcome.bind_eq_fault]
    rintro (hf | ⟨chars, -, hf⟩)
    · exact hne hf
    · simp at hf

lemma evenUcs2_ne_fault (body : List UInt8) : evenUcs2 body ≠ .fault := by
  unfold evenUcs2
  split
  · rename_i hodd
    split
    · apply ucs2BeforePadding_ne_fault
      rw [List.length_dropLast]
      omega
    · simp
  · apply ucs2BeforePadding_ne_fault
    omega

/-- A character of the basic plane, not half of a surrogate pair. -/
def Bmp (c : ℕ) : Prop := c < 0xd800 ∨ 0xe000 ≤ c ∧ c < 0x10000

instance (c : ℕ) : Decidable (Bmp c) := inferInstanceAs (Decidable (_ ∨ _ ∧ _))

lemma length_gUnicharToUtf8 {c : ℕ} (hc : Bmp c) : (gUnicharToUtf8 c).length = utf8Length c := by
  have hvalid : c.isValidChar := by
    rcases hc with h | ⟨h, h'⟩
    · exact .inl h
    · exact .inr ⟨by omega, by omega⟩
  have hval : (Char.ofNat c).val.toNat = c := by
    unfold Char.ofNat
    rw [dif_pos hvalid]
    rfl
  have hmax : c < 0x10000 := by
    unfold Bmp at hc
    omega
  unfold gUnicharToUtf8 utf8Length
  rw [String.length_utf8EncodeChar]
  simp only [Char.utf8Size, UInt32.le_iff_toNat_le, hval, UInt32.toNat_ofNatLT]
  grind

lemma gsmLockingShiftLookup_bmp (k : ℕ) : Bmp (gsmLockingShiftLookup .default k) := by
  have hall : ∀ c ∈ gund :: Gsm.lockingG .default, Bmp c := by decide +kernel
  apply hall
  unfold gsmLockingShiftLookup
  rw [List.getD_eq_getElem?_getD]
  cases hget : (Gsm.lockingG .default)[k]? with
  | none => exact List.mem_cons_self
  | some c => exact List.mem_cons_of_mem _ (List.mem_of_getElem? hget)

lemma gsmSingleShiftLookup_bmp (k : ℕ) : Bmp (gsmSingleShiftLookup .default k) := by
  have hall : ∀ e ∈ Gsm.singleG .default, Bmp e.2 := by decide
  by_cases hfound : gsmSingleShiftLookup .default k = gund
  · rw [hfound]
    exact .inr ⟨by decide, by decide⟩
  · exact hall _ (Gsm.codepointLookup_mem hfound)

lemma halfPageChar_lt (ucs2Offset : ℕ) (b : UInt8) : halfPageChar ucs2Offset b < 0x10000 :=
  Nat.mod_lt _ (by decide)

lemma utf8Length_pos (c : ℕ) : 0 < utf8Length c := by
  unfold utf8Length
  split <;> [skip; split] <;> decide

lemma length_append_char (out : List UInt8) {c : ℕ} (hc : Bmp c) :
    (out ++ gUnicharToUtf8 c).length = out.length + utf8Length c := by
  rw [List.length_append, length_gUnicharToUtf8 hc]

/-- The second loop takes the path of the first one: what it has written at a character is
what the first one had counted there. -/
lemma writeChars_ne_fault {numChars ucs2Offset : ℕ} {l : List UInt8} {j resLen : ℕ} {j' total : ℕ}
    {padding : List UInt8} {out : List UInt8}
    (h : measureChars numChars ucs2Offset j resLen l = some (j', total, padding))
    (hout : out.length = resLen) : resLen ≤ total ∧ writeChars ucs2Offset total out l ≠ .fault := by
  fun_induction measureChars numChars ucs2Offset j resLen l generalizing out with
  | case1 j resLen =>
    cases h
    simp [writeChars, hout]
  | case2 => cases h
  | case3 j resLen b rest hj hbit c hsur =>
    rename_i ih
    have hlt := halfPageChar_lt ucs2Offset b
    have hbmp : Bmp (halfPageChar ucs2Offset b) := by
      unfold Bmp
      omega
    have hpos := utf8Length_pos c
    rcases ih h (by rw [length_append_char out hbmp, hout]) with ⟨hle, hne⟩
    refine ⟨by omega, ?_⟩
    rw [writeChars.eq_def]
    dsimp only
    rw [if_pos (by omega), if_pos hbit]
    exact hne
  | case4 => cases h
  | case5 => cases h
  | case6 j resLen hj k rest c hzero hbit =>
    rename_i ih
    have hbmp := gsmSingleShiftLookup_bmp k.toNat
    have hpos := utf8Length_pos c
    rcases ih h (by rw [length_append_char out hbmp, hout]) with ⟨hle, hne⟩
    refine ⟨by omega, ?_⟩
    rw [writeChars, if_pos (by omega), if_neg hbit, if_pos rfl]
    exact hne
  | case7 j resLen b rest hj hbit hesc c =>
    rename_i ih
    have hbmp := gsmLockingShiftLookup_bmp b.toNat
    have hpos := utf8Length_pos c
    rcases ih h (by rw [length_append_char out hbmp, hout]) with ⟨hle, hne⟩
    refine ⟨by omega, ?_⟩
    rw [writeChars.eq_def]
    dsimp only
    rw [if_pos (by omega), if_neg hbit, if_neg hesc]
    exact hne
  | case8 j resLen b rest hj =>
    cases h
    rw [writeChars.eq_def]
    dsimp only
    rw [if_neg (by omega), if_pos hout]
    simp

lemma halfPageToUtf8_ne_fault (numChars ucs2Offset : ℕ) (chars : List UInt8) :
    halfPageToUtf8 numChars ucs2Offset chars ≠ .fault := by
  unfold halfPageToUtf8
  split
  · simp
  · rename_i j resLen padding hmeasure
    split
    · simp
    · split
      · simp
      · exact (writeChars_ne_fault hmeasure rfl).2

lemma orReject_ne_fault {α : Type} (a : Option α) : orReject a ≠ .fault := by
  cases a <;> simp

/-- Whatever the octets, nothing outside of them is read, and no more is written than was
measured. -/
lemma simStringToUtf8_ne_fault (g : GConvert) (buffer : List UInt8) :
    simStringToUtf8 g buffer ≠ .fault := by
  unfold simStringToUtf8
  split
  · simp
  · rename_i b rest
    split
    · exact orReject_ne_fault _
    · split
      · rw [Ne, Outcome.bind_eq_fault]
        rintro (hf | ⟨ucs2, -, hf⟩)
        · exact evenUcs2_ne_fault rest hf
        · exact orReject_ne_fault _ hf
      · split
        · split
          · simp
          · exact halfPageToUtf8_ne_fault _ _ _
        · simp
      · split
        · split
          · simp
          · exact halfPageToUtf8_ne_fault _ _ _
        · simp
      · exact halfPageToUtf8_ne_fault _ _ _
      · simp

end Phonelets.Sim
