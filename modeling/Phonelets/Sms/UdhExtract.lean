import Phonelets.Sms.Datagram
import Mathlib.Data.List.Induction

/-! # What is extracted from a header

Each of the extractions goes over all elements and keeps the last one that it can use. So it is the last of the
usable elements that counts, whatever stands around it.
-/

namespace Phonelets.Sms

open List
open Tlv (Element)

/-- A header of the elements at the head of the user data, in the room that it has there. -/
structure HasHeader (sms : Sms) (es : List Element) : Prop where
  udhi : (smsExtractCommon sms).udhi = true
  octets : ∃ tail, (smsExtractCommon sms).ud = udhOctets es ++ tail
  fits : (Tlv.encode es).length < 256
  inside : (udhOctets es).length ≤ headerRoom sms
  room : headerRoom sms ≤ (smsExtractCommon sms).ud.length

/-- The result of `sms_extract_language_variant`, which no flag is kept for. -/
def smsExtractsLanguageVariant (sms : Sms) : Bool := (smsUdhIterInit sms).isSome

/-! ## Usable elements -/

/-- A reference with one or two octets, and a sequence number from 1 to the maximum. -/
def usableConcatenation (e : Element) : Option (UInt16 × UInt8 × UInt8) :=
  match e.tag, e.value with
  | 0x00, [rn, max, seq] => if 1 ≤ seq ∧ seq ≤ max then some (rn.toUInt16, max, seq) else none
  | 0x08, [hi, lo, max, seq] =>
    if 1 ≤ seq ∧ seq ≤ max then some (hi.toUInt16 <<< 8 ||| lo.toUInt16, max, seq) else none
  | _, _ => none

/-- Two ports from 240, or two of two octets up to 49151. -/
def usablePorts (e : Element) : Option AppPort :=
  match e.tag, e.value with
  | 0x04, [dst, src] => if 240 ≤ dst ∧ 240 ≤ src then some ⟨dst.toNat, src.toNat, true⟩ else none
  | 0x05, [dstHi, dstLo, srcHi, srcLo] =>
    let dst := dstHi.toNat <<< 8 ||| dstLo.toNat
    let src := srcHi.toNat <<< 8 ||| srcLo.toNat
    if dst ≤ 49151 ∧ src ≤ 49151 then some ⟨dst, src, false⟩ else none
  | _, _ => none

/-- The variant in an element with the tag, of one octet. -/
def usableVariant (tag : UInt8) (e : Element) : Option UInt8 :=
  if e.tag = tag ∧ e.value.length = 1 then e.value.head? else none

def nationalLanguageSingleShift : UInt8 := 0x24
def nationalLanguageLockingShift : UInt8 := 0x25

/-- The last of the elements that something can be got from. -/
def lastUsable {α : Type} (usable : Element → Option α) (es : List Element) : Option α :=
  (es.filterMap usable).getLast?

/-! ## The loops -/

lemma foldl_usable {α : Type} {usable : Element → Option α} {step : Option α → Element → Option α}
    (hstep : ∀ acc e, step acc e = (usable e).or acc) (es : List Element) (acc : Option α) :
    es.foldl step acc = (lastUsable usable es).or acc := by
  induction es using List.reverseRecOn with
  | nil => rfl
  | append_singleton es e ih =>
    rw [foldl_append, foldl_cons, foldl_nil, hstep, ih]
    unfold lastUsable
    rw [filterMap_append]
    cases husable : usable e with
    | none => simp [husable]
    | some a => simp [husable]

lemma ite_tests {α : Type} {p q r : Prop} [Decidable p] [Decidable q] [Decidable r] (h : r ↔ ¬ p ∧ ¬ q)
    (acc : Option α) (found : α) :
    (if p then acc else if q then acc else some found) = (if r then some found else none).or acc := by
  by_cases hr : r
  · rw [if_pos hr, if_neg (h.mp hr).1, if_neg (h.mp hr).2]
    rfl
  · rw [if_neg hr]
    split_ifs with hp hq
    · rfl
    · rfl
    · exact absurd (h.mpr ⟨hp, hq⟩) hr

lemma inRange_iff (max seq : UInt8) :
    1 ≤ seq ∧ seq ≤ max ↔ ¬ max = 0 ∧ ¬ (seq = 0 ∨ seq > max) := by
  have hone : 1 ≤ seq ↔ 1 ≤ seq.toNat := UInt8.le_iff_toNat_le
  have hle : seq ≤ max ↔ seq.toNat ≤ max.toNat := UInt8.le_iff_toNat_le
  have hgt : seq > max ↔ max.toNat < seq.toNat := UInt8.lt_iff_toNat_lt
  have hzero (a : UInt8) : a = 0 ↔ a.toNat = 0 := UInt8.toNat_inj.symm
  rw [hone, hle, hgt, hzero, hzero]
  omega

lemma concatenationIe_eq (acc : Option (UInt16 × UInt8 × UInt8)) (e : Element) :
    concatenationIe acc e = (usableConcatenation e).or acc := by
  unfold concatenationIe
  split
  · next rn max seq htag hvalue =>
    rw [usableConcatenation, htag, hvalue]
    exact ite_tests (inRange_iff max seq) acc _
  · next hi lo max seq htag hvalue =>
    rw [usableConcatenation, htag, hvalue]
    exact ite_tests (inRange_iff max seq) acc _
  · next hshort hlong =>
    unfold usableConcatenation
    split
    · next htag hvalue => exact (hshort _ _ _ htag hvalue).elim
    · next htag hvalue => exact (hlong _ _ _ _ htag hvalue).elim
    · rfl

lemma appPortIe_eq (acc : Option AppPort) (e : Element) : appPortIe acc e = (usablePorts e).or acc := by
  unfold appPortIe
  split
  · next dst src htag hvalue =>
    rw [usablePorts, htag, hvalue]
    exact ite_tests (and_congr UInt8.not_lt.symm UInt8.not_lt.symm) acc _
  · next dstHi dstLo srcHi srcLo htag hvalue =>
    rw [usablePorts, htag, hvalue]
    exact ite_tests (and_congr Nat.not_lt.symm Nat.not_lt.symm) acc _
  · next hshort hlong =>
    unfold usablePorts
    split
    · next htag hvalue => exact (hshort _ _ htag hvalue).elim
    · next htag hvalue => exact (hlong _ _ _ _ htag hvalue).elim
    · rfl

lemma languageVariantIe_eq (acc : UInt8 × UInt8) (e : Element) :
    languageVariantIe acc e = ((usableVariant nationalLanguageLockingShift e).getD acc.1,
      (usableVariant nationalLanguageSingleShift e).getD acc.2) := by
  unfold languageVariantIe usableVariant
  split
  · next variant htag hvalue =>
    rw [htag, hvalue]
    rfl
  · next variant htag hvalue =>
    rw [htag, hvalue]
    rfl
  · next hsingle hlocking =>
    have hnone (tag : UInt8) (hother : ∀ variant, e.tag = tag → e.value = [variant] → False) :
        ¬ (e.tag = tag ∧ e.value.length = 1) := by
      rintro ⟨htag, hlen⟩
      obtain ⟨variant, hvalue⟩ := length_eq_one_iff.mp hlen
      exact hother variant htag hvalue
    rw [if_neg (hnone nationalLanguageLockingShift hlocking), if_neg (hnone nationalLanguageSingleShift hsingle)]
    rfl

lemma foldl_languageVariantIe_eq (es : List Element) (locking single : UInt8) : es.foldl
    languageVariantIe (locking, single) = ((lastUsable (usableVariant nationalLanguageLockingShift)
    es).getD locking, (lastUsable (usableVariant nationalLanguageSingleShift) es).getD single) := by
  induction es using List.reverseRecOn with
  | nil => rfl
  | append_singleton es e ih =>
    rw [foldl_append, foldl_cons, foldl_nil, ih, languageVariantIe_eq]
    unfold lastUsable
    rw [filterMap_append, filterMap_append]
    refine Prod.ext ?_ ?_
    · cases husable : usableVariant nationalLanguageLockingShift e <;> simp [husable]
    · cases husable : usableVariant nationalLanguageSingleShift e <;> simp [husable]

lemma HasHeader.iterInit {sms : Sms} {es : List Element} (h : HasHeader sms es) :
    informationElements sms = es ∧ (smsExtractsLanguageVariant sms = true ↔ es ≠ []) := by
  obtain ⟨tail, htail⟩ := h.octets
  unfold informationElements smsExtractsLanguageVariant
  by_cases hes : es = []
  · subst hes
    have hshort : verifyUdh (smsExtractCommon sms).ud (headerRoom sms) = false := by
      rw [htail]
      rfl
    have hnone : smsUdhIterInit sms = none := by
      unfold smsUdhIterInit
      unfold headerRoom at hshort
      dsimp only
      split_ifs with _ _ _ hverify
      · rfl
      · rfl
      · rfl
      · rfl
      · rw [hshort] at hverify
        exact absurd rfl hverify
    rw [hnone]
    exact ⟨rfl, iff_of_false Bool.false_ne_true (not_not.mpr rfl)⟩
  · obtain ⟨iter, hiter, -, helements⟩ := smsUdhIterInit_header h.udhi hes htail h.inside h.room h.fits
    rw [hiter]
    exact ⟨helements, iff_of_true rfl hes⟩

/-- From a header the last usable elements are extracted, whatever else it has; the result for the language is
true of any header that has an element. -/
theorem extractions_last_usable (sms : Sms) (es : List Element) (h : HasHeader sms es) :
    smsExtractConcatenation sms = lastUsable usableConcatenation es ∧ smsExtractAppPort sms =
    lastUsable usablePorts es ∧ (∀ locking single, smsExtractLanguageVariant sms locking single =
    ((lastUsable (usableVariant nationalLanguageLockingShift) es).getD locking,
    (lastUsable (usableVariant nationalLanguageSingleShift) es).getD single)) ∧
    (smsExtractsLanguageVariant sms = true ↔ es ≠ []) := by
  obtain ⟨helements, hresult⟩ := h.iterInit
  have hports : smsExtractAppPort sms = (informationElements sms).foldl appPortIe none := by
    unfold smsExtractAppPort informationElements
    cases smsUdhIterInit sms <;> rfl
  refine ⟨?_, ?_, fun locking single => ?_, hresult⟩
  · rw [smsExtractConcatenation_eq, helements, foldl_usable concatenationIe_eq, Option.or_none]
  · rw [hports, helements, foldl_usable appPortIe_eq, Option.or_none]
  · rw [smsExtractLanguageVariant_eq, helements, foldl_languageVariantIe_eq]

/-- An element that none of the extractions knows. -/
def unknownElement : Element := ⟨0x70, [], by decide⟩

/-- The user data with it alone in the header. -/
def unknownUd : Buf 140 := ⟨[2, 0x70, 0] ++ List.replicate 137 0, rfl⟩

def unknownMessage : Sms :=
  messageOf
    { rd := false, rp := false, udhi := true, srr := false, mr := 0, daddr := SmsAddress.zero, pid := 0, dcs := 0x04,
      vp := .absent, udl := 3, ud := unknownUd }

lemma unknownMessage_room : headerRoom unknownMessage = 3 := by
  change smsUdlInBytes 3 0x04 = 3
  decide

lemma unknownMessage_header : HasHeader unknownMessage [unknownElement] where
  udhi := rfl
  octets := ⟨List.replicate 137 0, rfl⟩
  fits := show 2 < 256 by decide
  inside := by
    rw [unknownMessage_room]
    exact Nat.le_refl 3
  room := by
    rw [unknownMessage_room, show (smsExtractCommon unknownMessage).ud.length = 140 from unknownUd.length_eq]
    decide

theorem extractions_last_usable_unknown : HasHeader unknownMessage [unknownElement] ∧
    smsExtractConcatenation unknownMessage = none ∧ smsExtractsLanguageVariant unknownMessage = true :=
  have h := extractions_last_usable unknownMessage [unknownElement] unknownMessage_header
  ⟨unknownMessage_header, h.1.trans rfl, h.2.2.2.mpr (cons_ne_nil _ _)⟩

theorem language_without_variant : ¬ ∀ (sms : Sms) (es : List Element), HasHeader sms es →
    (smsExtractsLanguageVariant sms = true ↔ lastUsable (usableVariant nationalLanguageLockingShift)
    es ≠ none ∨ lastUsable (usableVariant nationalLanguageSingleShift) es ≠ none) := by
  intro h
  have hresult := unknownMessage_header.iterInit.2.mpr (cons_ne_nil _ _)
  rcases (h _ _ unknownMessage_header).mp hresult with hlocking | hsingle
  · exact hlocking rfl
  · exact hsingle rfl

end Phonelets.Sms
