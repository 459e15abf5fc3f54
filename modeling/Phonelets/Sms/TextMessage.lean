import Phonelets.Sms.Text
import Phonelets.Util.Dialects

/-! # The messages of a text

What a submit of a text carries: information elements at the head of its user data, and
a part of the text behind them. `sms_decode_text` finds the elements and the part.
-/

namespace Phonelets.Sms

open Gsm (GsmDialect)
open Tlv (Element)

/-! ## Carrying a part of a text -/

/-- The head of the user data. -/
def header : List Element → List UInt8
  | [] => []
  | e :: es => udhOctets (e :: es)

/-- The octets that stand for a part of a text, `offset` octets behind the start of the
user data. -/
def payload (gsm : Bool) (offset : ℕ) (chunk : List UInt8) : List UInt8 :=
  if gsm then (Septets.pack7bitOwnBuf chunk offset false).getD [] else chunk

/-- The user data length: in septets, with the header rounded up, or in octets. -/
def userDataLength (gsm : Bool) (offset : ℕ) (chunk : List UInt8) : ℕ :=
  if gsm then chunk.length + (offset * 8 + 6) / 7 else chunk.length + offset

/-- The part can go behind a header of `offset` octets. -/
structure Fits (gsm : Bool) (offset : ℕ) (chunk : List UInt8) : Prop where
  septets : gsm = true → chunk ≠ [] ∧ ∀ k ∈ chunk, k < 128
  length : userDataLength gsm offset chunk ≤ if gsm then 160 else 140

/-- The submit carries the elements and the part. -/
structure Carries (gsm : Bool) (submit : SmsSubmit) (es : List Element) (chunk : List UInt8) : Prop where
  udhi : submit.udhi = !es.isEmpty
  dcs : submit.dcs = if gsm then 0 else 8
  udl : submit.udl.toNat = userDataLength gsm (header es).length chunk
  ud : ∃ junk, submit.ud.octets = header es ++ (payload gsm (header es).length chunk ++ junk)

variable {gsm : Bool} {offset : ℕ} {chunk : List UInt8} {submit : SmsSubmit} {es : List Element}

/-- The header and the part fill the octets that the length stands for, 140 at most. -/
lemma Fits.octets (h : Fits gsm offset chunk) {udl : UInt8} (hudl : udl.toNat =
    userDataLength gsm offset chunk) : smsUdlInBytes udl (if gsm then 0 else 8) = offset +
    (payload gsm offset chunk).length ∧ offset + (payload gsm offset chunk).length ≤ 140 := by
  have hlength := h.length
  cases gsm with
  | false =>
    have h8 : smsUdlInBytes udl 8 = udl.toNat := by simp [smsUdlInBytes]
    simp only [userDataLength, payload, Bool.false_eq_true, if_false] at hlength hudl ⊢
    rw [h8, hudl]
    omega
  | true =>
    rcases h.septets rfl with ⟨hne, hlt⟩
    rcases Septets.pack7bitOwnBuf_value hlt hne offset with ⟨out, hout, -, hlen⟩
    have h0 : smsUdlInBytes udl 0 = (udl.toNat + 1) * 7 / 8 := by simp [smsUdlInBytes]
    have hpayload : (payload true offset chunk).length =
        (Septets.fillBits offset + 7 * chunk.length + 7) / 8 := by
      simp [payload, hout, hlen]
    simp only [userDataLength, if_true, Septets.fillBits] at hlength hudl hpayload ⊢
    rw [h0, hudl, hpayload]
    omega

/-! ## What is found in a message -/

variable {scAddr : SmsAddress}

lemma charsetOf_gsm : charsetOf 0 = some .sevenBit := by decide

lemma charsetOf_ucs2 : charsetOf 8 = some .ucs2 := by decide

lemma Carries.elements (h : Carries gsm submit es chunk) (scAddr : SmsAddress)
    (hfits : Fits gsm (header es).length chunk) : informationElements ⟨scAddr, .submit submit⟩ =
    es ∧ takenByHeader ⟨scAddr, .submit submit⟩ = (header es).length := by
  cases es with
  | nil =>
    have hnone : smsUdhIterInit ⟨scAddr, .submit submit⟩ = none := by
      simp [smsUdhIterInit, smsExtractCommon, h.udhi]
    constructor
    · simp [informationElements, hnone]
    · simp [takenByHeader, hnone, header]
  | cons e es =>
    rcases h.ud with ⟨junk, hjunk⟩
    rcases hfits.octets h.udl with ⟨hbytes, hle⟩
    rw [← h.dcs] at hbytes
    have hheader : (header (e :: es)).length = (Tlv.encode (e :: es)).length + 1 := rfl
    have hinit := @smsUdhIterInit_header ⟨scAddr, .submit submit⟩ (e :: es)
      (payload gsm (header (e :: es)).length chunk ++ junk) h.udhi (by simp) hjunk
      (by
        show _ ≤ smsUdlInBytes submit.udl submit.dcs
        rw [hbytes]
        exact Nat.le_add_right _ _)
      (by
        show smsUdlInBytes submit.udl submit.dcs ≤ submit.ud.octets.length
        rw [hbytes, submit.ud.length_eq]
        exact hle)
      (by omega)
    rcases hinit with ⟨iter, hiter, hlen, helems⟩
    constructor
    · simp [informationElements, hiter, helems]
    · simp [takenByHeader, hiter, hlen, hheader]

lemma Carries.field (h : Carries gsm submit es chunk) (hfits : Fits gsm (header es).length chunk) :
    smsUdlInBytes submit.udl submit.dcs = (header es).length +
    (payload gsm (header es).length chunk).length ∧ readOctets submit.ud.octets (header es).length
    (payload gsm (header es).length chunk).length = .ok (payload gsm (header es).length chunk) := by
  rcases h.ud with ⟨junk, hjunk⟩
  rcases hfits.octets h.udl with ⟨hbytes, hle⟩
  refine ⟨by rw [h.dcs, hbytes], ?_⟩
  rw [readOctets, if_pos (by rw [submit.ud.length_eq]; exact hle), hjunk, List.drop_left, List.take_left]

lemma Carries.decode_septets {g : GConvert} (h : Carries true submit es chunk) (hfits : Fits true
    (header es).length chunk) (hlast : chunk.getLast? ≠ some 0x1b) {locking single : UInt8} (hshift
    : es.foldl languageVariantIe (0, 0) = (locking, single)) : decodeFragment g ⟨scAddr, .submit
    submit⟩ = .ok (Gsm.convertGsmToUtf8WithLang chunk (dialectOf locking) (dialectOf single)) := by
  rcases hfits.septets rfl with ⟨hne, hlt⟩
  rcases Septets.unpack_pack hlt hne (header es).length with ⟨out, hout, hlen, hunpack⟩
  have hpayload : payload true (header es).length chunk = out := by simp [payload, hout]
  rcases h.field hfits with ⟨hbytes, hread⟩
  rcases h.elements scAddr hfits with ⟨helems, htaken⟩
  rw [hpayload] at hbytes hread
  have hdcs : submit.dcs = 0 := h.dcs
  have hpos : out.length ≠ 0 := by
    have := List.length_pos_iff.mpr hne
    omega
  have hlength := hfits.length
  simp only [userDataLength, if_true] at hlength
  -- the capacity that the decoder computes from the length field is the number of septets
  have hcapacity : (smsTextCapacityGsm submit.udl.toNat (header es).length).toNat = chunk.length := by
    rw [h.udl]
    simp only [smsTextCapacityGsm, userDataLength, if_true]
    omega
  have hseptets : decodeSeptets ⟨scAddr, .submit submit⟩ submit.udl (header es).length out =
      .ok (Gsm.convertGsmToUtf8WithLang chunk (dialectOf locking) (dialectOf single)) := by
    unfold decodeSeptets
    dsimp only
    rw [hcapacity, hunpack]
    dsimp only
    rw [if_neg (by omega)]
    cases hend : chunk.getLast? with
    | none => exact absurd (List.getLast?_eq_none_iff.mp hend) hne
    | some last =>
      -- the decoder would drop an escape at the end
      have hescape : last ≠ 0x1b := fun heq => hlast (by rw [hend, heq])
      simp only [if_neg hescape, smsExtractLanguageVariant_eq, helems, hshift]
  unfold decodeFragment
  simp only [smsExtractCommon, htaken]
  rw [hdcs] at hbytes ⊢
  rw [hbytes]
  simp [charsetOf_gsm, hpos, hread, hseptets]

lemma Carries.decode_ucs2 {g : GConvert} (h : Carries false submit es chunk)
    (hfits : Fits false (header es).length chunk) (heven : chunk.length % 2 = 0) : decodeFragment g
    ⟨scAddr, .submit submit⟩ = .ok (if chunk = [] then none else g.ucs2ToUtf8 chunk) := by
  rcases h.field hfits with ⟨hbytes, hread⟩
  rcases h.elements scAddr hfits with ⟨helems, htaken⟩
  have hpayload : payload false (header es).length chunk = chunk := rfl
  rw [hpayload] at hbytes hread
  have hdcs : submit.dcs = 8 := h.dcs
  have hall : chunk.length / 2 * 2 = chunk.length := by omega
  unfold decodeFragment
  simp only [smsExtractCommon, htaken]
  rw [hdcs] at hbytes ⊢
  rw [hbytes]
  by_cases hnil : chunk = []
  · simp [charsetOf_ucs2, hnil]
  · simp [charsetOf_ucs2, hnil, hread, hall]

end Phonelets.Sms
