import Phonelets.Lib.Tlv
import Phonelets.Sms.Fields

/-! # User data headers

The iterator of `smsutil.c` over the information elements at the head of the user
data, and the two extractions that use it. A header counts as one only if its elements
fill it exactly; then the iterator stays inside of it.
-/

namespace Phonelets.Sms

open List
open Tlv (Element)

/-! ## The iterator -/

/-- What `sms_extract_common` finds; `*out_max` is the length of the array. -/
structure UserData where
  udhi : Bool
  dcs : UInt8
  udl : UInt8
  ud : List UInt8

def smsExtractCommon (sms : Sms) : UserData :=
  match sms.message with
  | .deliver m => ⟨m.udhi, m.dcs, m.udl, m.ud.octets⟩
  | .deliverReportAck m => ⟨m.udhi, m.dcs, m.udl, m.ud.octets⟩
  | .deliverReportError m => ⟨m.udhi, m.dcs, m.udl, m.ud.octets⟩
  | .statusReport m => ⟨m.udhi, m.dcs, m.udl, m.ud.octets⟩
  | .submit m => ⟨m.udhi, m.dcs, m.udl, m.ud.octets⟩
  | .submitReportAck m => ⟨m.udhi, m.dcs, m.udl, m.ud.octets⟩
  | .submitReportError m => ⟨m.udhi, m.dcs, m.udl, m.ud.octets⟩
  | .command m => ⟨m.udhi, 0, m.cdl, m.cd.octets⟩

/-- The loop of `verify_udh` and the test after it. -/
def verifyUdhLoop (hdr : List UInt8) (maxOffset offset : ℕ) : Bool :=
  if offset + 2 > maxOffset then false
  else
    let next := offset + 2 + (hdr.getD (offset + 1) 0).toNat
    if next > maxOffset then false
    else if next < maxOffset then verifyUdhLoop hdr maxOffset next
    else next == maxOffset
  termination_by maxOffset - offset

def verifyUdh (hdr : List UInt8) (maxLen : ℕ) : Bool :=
  let len := (hdr.getD 0 0).toNat
  if len < 2 then false
  else if len ≥ maxLen then false
  else verifyUdhLoop hdr (len + 1) 1

/-- `struct sms_udh_iter`. -/
structure UdhIter where
  data : List UInt8
  offset : ℕ

def smsUdhIterInit (sms : Sms) : Option UdhIter :=
  let c := smsExtractCommon sms
  if !c.udhi then none
  else
    let maxLen :=
      match sms.message with
      | .command _ => c.udl.toNat
      | _ => smsUdlInBytes c.udl c.dcs
    if maxLen < 3 then none
    else if maxLen > c.ud.length then none
    else if !verifyUdh c.ud maxLen then none
    else some ⟨c.ud, 1⟩

namespace UdhIter

/-- `sms_udh_iter_get_udh_length` -/
def getUdhLength (iter : UdhIter) : ℕ := (iter.data.getD 0 0).toNat

/-- `sms_udh_iter_get_ie_type`, nothing for `SMS_IEI_INVALID`. -/
def getIeType (iter : UdhIter) : Option UInt8 :=
  if iter.offset > iter.getUdhLength then none else some (iter.data.getD iter.offset 0)

/-- `sms_udh_iter_get_ie_length` -/
def getIeLength (iter : UdhIter) : UInt8 := iter.data.getD (iter.offset + 1) 0

/-- `sms_udh_iter_get_ie_data` -/
def getIeData (iter : UdhIter) : List UInt8 :=
  (iter.data.drop (iter.offset + 2)).take iter.getIeLength.toNat

lemma length_getIeData (iter : UdhIter) : iter.getIeData.length < 256 := by
  have hlt := iter.getIeLength.toNat_lt
  rw [getIeData, length_take]
  omega

/-- `sms_udh_iter_next`, without the result that the loops do not look at. -/
def next (iter : UdhIter) : UdhIter :=
  if iter.offset > iter.getUdhLength then iter
  else { iter with offset := iter.offset + 2 + iter.getIeLength.toNat }

lemma getIeType_eq_some {iter : UdhIter} {iei : UInt8} (h : iter.getIeType = some iei) :
    iter.offset ≤ iter.getUdhLength ∧ iter.data.getD iter.offset 0 = iei := by
  unfold getIeType at h
  split at h
  · simp at h
  · rename_i hle
    exact ⟨Nat.not_lt.mp hle, Option.some.inj h⟩

lemma next_eq {iter : UdhIter} (h : iter.offset ≤ iter.getUdhLength) :
    iter.next = ⟨iter.data, iter.offset + 2 + iter.getIeLength.toNat⟩ := by
  rw [next, if_neg (Nat.not_lt.mpr h)]

/-- The elements that the body of a loop
`while ((iei = sms_udh_iter_get_ie_type(&iter)) != SMS_IEI_INVALID)` sees. -/
def elements (iter : UdhIter) : List Element :=
  match _h : iter.getIeType with
  | none => []
  | some iei => ⟨iei, iter.getIeData, iter.length_getIeData⟩ :: elements iter.next
  termination_by iter.getUdhLength + 1 - iter.offset
  decreasing_by
    have hle := (getIeType_eq_some _h).1
    rw [next_eq hle]
    unfold getUdhLength at *
    dsimp only
    omega

end UdhIter

/-! ## Extractions -/

/-- `sms_extract_concatenation`: the last element that is usable, as reference, maximum
and sequence number. -/
def concatenationIe (acc : Option (UInt16 × UInt8 × UInt8)) (e : Element) :
    Option (UInt16 × UInt8 × UInt8) :=
  match e.tag, e.value with
  | 0x00, [rn, max, seq] =>
    if max = 0 then acc else if seq = 0 ∨ seq > max then acc else some (rn.toUInt16, max, seq)
  | 0x08, [hi, lo, max, seq] =>
    if max = 0 then acc
    else if seq = 0 ∨ seq > max then acc
    else some (hi.toUInt16 <<< 8 ||| lo.toUInt16, max, seq)
  | _, _ => acc

def smsExtractConcatenation (sms : Sms) : Option (UInt16 × UInt8 × UInt8) :=
  match smsUdhIterInit sms with
  | none => none
  | some iter => iter.elements.foldl concatenationIe none

/-- What an element does to `*locking` and `*single`. -/
def languageVariantIe (acc : UInt8 × UInt8) (e : Element) : UInt8 × UInt8 :=
  match e.tag, e.value with
  | 0x24, [variant] => (acc.1, variant)
  | 0x25, [variant] => (variant, acc.2)
  | _, _ => acc

/-- `sms_extract_language_variant`, on what `*locking` and `*single` are before. -/
def smsExtractLanguageVariant (sms : Sms) (locking single : UInt8) : UInt8 × UInt8 :=
  match smsUdhIterInit sms with
  | none => (locking, single)
  | some iter => iter.elements.foldl languageVariantIe (locking, single)

/-- The elements of a message, none if it has no header. -/
def informationElements (sms : Sms) : List Element :=
  match smsUdhIterInit sms with
  | none => []
  | some iter => iter.elements

lemma smsExtractConcatenation_eq (sms : Sms) :
    smsExtractConcatenation sms = (informationElements sms).foldl concatenationIe none := by
  unfold smsExtractConcatenation informationElements
  split <;> rfl

lemma smsExtractLanguageVariant_eq (sms : Sms) (locking single : UInt8) : smsExtractLanguageVariant
    sms locking single = (informationElements sms).foldl languageVariantIe (locking, single) := by
  unfold smsExtractLanguageVariant informationElements
  split <;> rfl

/-! ## Well-formed headers -/

/-- The octets of a header: its length and its elements. -/
def udhOctets (es : List Element) : List UInt8 :=
  UInt8.ofNat (Tlv.encode es).length :: Tlv.encode es

lemma verifyUdhLoop_iff {hdr : List UInt8} {maxOffset offset : ℕ} (hmax : maxOffset ≤ hdr.length) :
    verifyUdhLoop hdr maxOffset offset = true ↔
      ∃ e es, Tlv.Spans hdr offset maxOffset (e :: es) := by
  have huncons : ∀ {offset e es}, Tlv.Spans hdr offset maxOffset (e :: es) →
      (hdr.getD (offset + 1) 0).toNat = e.value.length ∧ offset + 2 + e.value.length ≤ maxOffset ∧
        Tlv.Spans hdr (offset + 2 + e.value.length) maxOffset es := by
    intro offset e es h
    rcases h.uncons with ⟨-, hlen, -, hrest⟩
    have hstop := hrest.bounds.1
    exact ⟨by rw [hlen, e.length_octet], by omega, hrest⟩
  fun_induction verifyUdhLoop hdr maxOffset offset with
  | case1 offset hend =>
    -- no room for a tag and a length, which the first element has
    refine ⟨fun h => by simp at h, ?_⟩
    rintro ⟨e, es, hspans⟩
    have := (huncons hspans).2.1
    omega
  | case2 offset hend next hgt =>
    -- the element would end behind the header
    refine ⟨fun h => by simp at h, ?_⟩
    rintro ⟨e, es, hspans⟩
    rcases huncons hspans with ⟨hlen, hle, -⟩
    simp only [next, hlen] at hgt
    omega
  | case3 offset hend next hgt hlt ih =>
    -- the loop goes on behind the element, where there must be another one
    refine Iff.trans ih ?_
    constructor
    · rintro ⟨e', es, hspans⟩
      rcases hspans.cons rfl with ⟨e, -, -, hspans'⟩
      exact ⟨e, e' :: es, hspans'⟩
    · rintro ⟨e, es, hspans⟩
      rcases huncons hspans with ⟨hlen, -, hrest⟩
      rw [← hlen] at hrest
      cases es with
      | nil =>
        have := hrest.stop_of_nil
        omega
      | cons e' es => exact ⟨e', es, hrest⟩
  | case4 offset hend next hgt hlt =>
    have hnext : next = maxOffset := by omega
    -- the element ends with the header
    refine ⟨fun _ => ?_, fun _ => by simpa using hnext⟩
    have hnil : Tlv.Spans hdr next maxOffset [] := by
      rw [hnext]
      exact Tlv.spans_nil hmax
    rcases hnil.cons rfl with ⟨e, -, -, hspans⟩
    exact ⟨e, [], hspans⟩

lemma UdhIter.elements_eq {data : List UInt8} {offset : ℕ} {es : List Element} (h : Tlv.Spans data
    offset ((data.getD 0 0).toNat + 1) es) : (UdhIter.mk data offset).elements = es := by
  induction es generalizing offset with
  | nil =>
    have hstop := h.stop_of_nil
    -- at the end of the header the iterator has no type any more
    have htype : (UdhIter.mk data offset).getIeType = none := by
      rw [getIeType, if_pos]
      simp only [getUdhLength]
      omega
    rw [elements]
    split
    · rfl
    · simp_all
  | cons e es ih =>
    rcases h.uncons with ⟨htag, hlen, hvalue, hrest⟩
    have hstop := hrest.bounds.1
    -- what the iterator reads here is `e`, and `next` goes behind it
    have hle : ¬ offset > (UdhIter.mk data offset).getUdhLength := by
      simp only [getUdhLength]
      omega
    have hlength : (UdhIter.mk data offset).getIeLength.toNat = e.value.length := by
      simp only [getIeLength, hlen, e.length_octet]
    have htype : (UdhIter.mk data offset).getIeType = some e.tag := by
      rw [getIeType, if_neg (show ¬ offset > _ from hle)]
      exact congrArg some htag
    have hdata : (UdhIter.mk data offset).getIeData = e.value := by
      rw [getIeData, hlength, hvalue]
    rw [elements]
    split
    · simp_all
    · rename_i iei hiei
      obtain rfl : e.tag = iei := Option.some.inj (htype.symm.trans hiei)
      rw [next_eq (Nat.not_lt.mp hle), hlength, ih hrest]
      congr 1
      exact Tlv.Element.ext rfl hdata

/-- The octets that the header has to be in. -/
def headerRoom (sms : Sms) : ℕ :=
  match sms.message with
  | .command _ => (smsExtractCommon sms).udl.toNat
  | _ => smsUdlInBytes (smsExtractCommon sms).udl (smsExtractCommon sms).dcs

/-- A header is accepted just if its elements, at least one, fill it and it is in the room. -/
lemma verifyUdh_iff {hdr : List UInt8} {maxLen : ℕ} (hmax : maxLen ≤ hdr.length) :
    verifyUdh hdr maxLen = true ↔ ∃ es, es ≠ [] ∧ (∃ tail, hdr = udhOctets es ++ tail) ∧
      (Tlv.encode es).length < 256 ∧ (udhOctets es).length ≤ maxLen := by
  unfold verifyUdh
  dsimp only
  constructor
  · intro h
    split_ifs at h with htwo hin
    rcases (verifyUdhLoop_iff (by omega)).mp h with ⟨e, es, pre, tail, hhdr, hpre, hstop⟩
    rcases length_eq_one_iff.mp hpre with ⟨len, rfl⟩
    -- the first octet is the length of what stands behind it
    have hlen : len.toNat = (Tlv.encode (e :: es)).length := by
      rw [hhdr] at hstop
      exact Nat.succ_injective (hstop.trans (Nat.add_comm _ _))
    refine ⟨e :: es, cons_ne_nil _ _, ⟨tail, ?_⟩, hlen ▸ len.toNat_lt, ?_⟩
    · rw [hhdr, udhOctets, ← hlen, UInt8.ofNat_toNat]
      rfl
    · rw [hhdr] at hin
      rw [udhOctets, length_cons, ← hlen]
      exact Nat.not_le.mp hin
  · rintro ⟨es, hes, ⟨tail, rfl⟩, hfits, hroom⟩
    rcases exists_cons_of_ne_nil hes with ⟨e, es', rfl⟩
    have hlen : ((udhOctets (e :: es') ++ tail).getD 0 0).toNat = (Tlv.encode (e :: es')).length :=
      UInt8.toNat_ofNat_of_lt' hfits
    have htwo : 2 ≤ (Tlv.encode (e :: es')).length := by
      rw [Tlv.encode_cons, length_append, Tlv.Element.length_encode]
      omega
    have hroom' : (Tlv.encode (e :: es')).length + 1 ≤ maxLen := hroom
    rw [hlen, if_neg (by omega), if_neg (by omega)]
    refine (verifyUdhLoop_iff (by omega)).mpr ⟨e, es', ?_⟩
    rw [Nat.add_comm]
    exact Tlv.spans_append [UInt8.ofNat (Tlv.encode (e :: es')).length] (e :: es') tail

lemma smsUdhIterInit_eq (sms : Sms) : smsUdhIterInit sms = if !(smsExtractCommon sms).udhi then none
    else if headerRoom sms < 3 then none else if headerRoom sms > (smsExtractCommon sms).ud.length
    then none else if !verifyUdh (smsExtractCommon sms).ud (headerRoom sms) then none else some
    ⟨(smsExtractCommon sms).ud, 1⟩ := by
  unfold smsUdhIterInit headerRoom
  dsimp only

lemma spans_udhOctets {es : List Element} (tail : List UInt8) (hfits : (Tlv.encode es).length < 256) :
    Tlv.Spans (udhOctets es ++ tail) 1 (((udhOctets es ++ tail).getD 0 0).toNat + 1) es := by
  have hlen : ((udhOctets es ++ tail).getD 0 0).toNat = (Tlv.encode es).length :=
    UInt8.toNat_ofNat_of_lt' hfits
  rw [hlen, Nat.add_comm]
  exact Tlv.spans_append [UInt8.ofNat (Tlv.encode es).length] es tail

/-- A header of at least one element at the head of the user data is accepted, and its elements are what the
iterator comes to. -/
lemma smsUdhIterInit_header {sms : Sms} {es : List Element} {tail : List UInt8}
    (hudhi : (smsExtractCommon sms).udhi = true) (hes : es ≠ [])
    (hud : (smsExtractCommon sms).ud = udhOctets es ++ tail)
    (hlo : (udhOctets es).length ≤ headerRoom sms) (hhi : headerRoom sms ≤ (smsExtractCommon sms).ud.length)
    (hfits : (Tlv.encode es).length < 256) :
    ∃ iter, smsUdhIterInit sms = some iter ∧ iter.getUdhLength = (Tlv.encode es).length ∧
      iter.elements = es := by
  have hverify := (verifyUdh_iff hhi).mpr ⟨es, hes, ⟨tail, hud⟩, hfits, hlo⟩
  have hthree : 3 ≤ (udhOctets es).length := by
    rcases exists_cons_of_ne_nil hes with ⟨e, es', rfl⟩
    rw [udhOctets, length_cons, Tlv.encode_cons, length_append, Tlv.Element.length_encode]
    omega
  refine ⟨⟨(smsExtractCommon sms).ud, 1⟩, ?_, ?_, UdhIter.elements_eq ?_⟩
  · rw [smsUdhIterInit_eq, hudhi, hverify, if_neg (by decide), if_neg (by omega), if_neg (by omega)]
    rfl
  · rw [hud]
    exact UInt8.toNat_ofNat_of_lt' hfits
  · rw [hud]
    exact spans_udhOctets tail hfits

end Phonelets.Sms
