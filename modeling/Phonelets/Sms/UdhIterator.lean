import Phonelets.Sms.CbsText
import Phonelets.Sms.UdhExtract

/-! # The iterator over a header

`sms_udh_iter_init` and `sms_udh_iter_init_from_cbs` accept the headers that their elements fill, and
`sms_udh_iter_next` goes from one element to the next in them.
-/

namespace Phonelets.Sms

open Tlv (Element)

/-- A header of the elements at the head of a page, inside of its 82 octets. -/
structure CbsHasHeader (cbs : Cbs) (es : List Element) : Prop where
  udhi : ((cbsDcsDecode cbs.dcs).map CbsDcsInfo.udhi).getD false = true
  octets : ∃ tail, cbs.ud = udhOctets es ++ tail
  fits : (Tlv.encode es).length < 256
  inside : (udhOctets es).length ≤ 82

/-- The result of `sms_udh_iter_next`. -/
def UdhIter.hasMore (iter : UdhIter) : Bool :=
  if iter.offset > iter.getUdhLength then false
  else if iter.next.offset > iter.getUdhLength then false else true

/-- The iterator comes to each of the elements, one after the other, reads inside of the header and is
at the end behind the last one. -/
def UdhIter.Visits (iter : UdhIter) : List Element → Prop
  | [] => iter.getIeType = none ∧ iter.hasMore = false
  | e :: es =>
    iter.getIeType = some e.tag ∧ iter.getIeLength.toNat = e.value.length ∧ iter.getIeData = e.value ∧
      iter.offset + 2 + e.value.length ≤ iter.getUdhLength + 1 ∧
      iter.getUdhLength + 1 ≤ iter.data.length ∧ iter.hasMore = !es.isEmpty ∧ iter.next.Visits es

lemma UdhIter.visits {data : List UInt8} {offset : ℕ} {es : List Element}
    (h : Tlv.Spans data offset ((data.getD 0 0).toNat + 1) es) : (UdhIter.mk data offset).Visits es := by
  induction es generalizing offset with
  | nil =>
    have hstop := h.stop_of_nil
    have hend : (UdhIter.mk data offset).offset > (UdhIter.mk data offset).getUdhLength := by
      show offset > (data.getD 0 0).toNat
      omega
    exact ⟨if_pos hend, if_pos hend⟩
  | cons e es ih =>
    rcases h.uncons with ⟨htag, hlen, hvalue, hrest⟩
    have hstop := hrest.bounds
    have hheader : (UdhIter.mk data offset).getUdhLength = (data.getD 0 0).toNat := rfl
    have hhere : ¬ (UdhIter.mk data offset).offset > (UdhIter.mk data offset).getUdhLength := by
      show ¬ offset > (data.getD 0 0).toNat
      omega
    have hlength : (UdhIter.mk data offset).getIeLength.toNat = e.value.length := by
      rw [getIeLength, hlen, e.length_octet]
    have hnext : (UdhIter.mk data offset).next = ⟨data, offset + 2 + e.value.length⟩ := by
      rw [next_eq (Nat.not_lt.mp hhere), hlength]
    refine ⟨?_, hlength, ?_, ?_, ?_, ?_, ?_⟩
    · rw [getIeType, if_neg hhere]
      exact congrArg some htag
    · rw [getIeData, hlength]
      exact hvalue
    · rw [hheader]
      show offset + 2 + e.value.length ≤ _
      omega
    · exact hstop.2
    · -- there is more just if something stands between the element and the end of the header
      rw [hasMore, if_neg hhere, hnext, hheader]
      dsimp only
      cases es with
      | nil =>
        have hend := hrest.stop_of_nil
        exact if_pos (by omega)
      | cons e' es =>
        rw [Tlv.encode_cons, List.length_append, Tlv.Element.length_encode] at hstop
        exact if_neg (by omega)
    · rw [hnext]
      exact ih hrest

lemma isSome_smsUdhIterInit (sms : Sms) :
    (smsUdhIterInit sms).isSome ↔ ∃ es, es ≠ [] ∧ HasHeader sms es := by
  constructor
  · intro h
    rw [smsUdhIterInit_eq] at h
    split_ifs at h with hudhi hthree hroom hverify
    · exact absurd h Bool.false_ne_true
    · exact absurd h Bool.false_ne_true
    · exact absurd h Bool.false_ne_true
    · exact absurd h Bool.false_ne_true
    · rw [Bool.not_eq_true', Bool.not_eq_false] at hudhi hverify
      obtain ⟨es, hes, hoctets, hfits, hinside⟩ := (verifyUdh_iff (Nat.not_lt.mp hroom)).mp hverify
      exact ⟨es, hes, hudhi, hoctets, hfits, hinside, Nat.not_lt.mp hroom⟩
  · rintro ⟨es, hes, h⟩
    exact h.iterInit.2.mpr hes

lemma isSome_smsUdhIterInitFromCbs {cbs : Cbs} (hud : cbs.ud.length = 82) :
    (smsUdhIterInitFromCbs cbs).isSome ↔ ∃ es, es ≠ [] ∧ CbsHasHeader cbs es := by
  have hverify := verifyUdh_iff hud.ge
  unfold smsUdhIterInitFromCbs
  dsimp only
  constructor
  · intro h
    split_ifs at h with hudhi htwo hin haccepted
    · exact absurd h Bool.false_ne_true
    · exact absurd h Bool.false_ne_true
    · exact absurd h Bool.false_ne_true
    · exact absurd h Bool.false_ne_true
    · rw [Bool.not_eq_true', Bool.not_eq_false] at hudhi haccepted
      obtain ⟨es, hes, hoctets, hfits, hinside⟩ := hverify.mp haccepted
      exact ⟨es, hes, hudhi, hoctets, hfits, hinside⟩
  · rintro ⟨es, hes, h⟩
    have haccepted := hverify.mpr ⟨es, hes, h.octets, h.fits, h.inside⟩
    -- `verify_udh` makes the two tests again
    have hlen : ¬ (cbs.ud.getD 0 0).toNat < 2 ∧ ¬ (cbs.ud.getD 0 0).toNat ≥ 82 := by
      unfold verifyUdh at haccepted
      dsimp only at haccepted
      split_ifs at haccepted with htwo hin
      exact ⟨htwo, hin⟩
    rw [h.udhi, haccepted, if_neg (by decide), if_neg hlen.1, if_neg hlen.2]
    rfl

/-- A header is accepted just if its elements, at least one, fill it and it fits the user data, and the
iterator visits these elements. -/
theorem udhIter_visits_header (sms : Sms) {cbs : Cbs} (hud : cbs.ud.length = 82) :
    ((smsUdhIterInit sms).isSome ↔ ∃ es, es ≠ [] ∧ HasHeader sms es) ∧
      (∀ iter es, smsUdhIterInit sms = some iter → HasHeader sms es → iter.Visits es) ∧
      ((smsUdhIterInitFromCbs cbs).isSome ↔ ∃ es, es ≠ [] ∧ CbsHasHeader cbs es) ∧
      ∀ iter es, smsUdhIterInitFromCbs cbs = some iter → CbsHasHeader cbs es → iter.Visits es := by
  refine ⟨isSome_smsUdhIterInit sms, ?_, isSome_smsUdhIterInitFromCbs hud, ?_⟩
  · intro iter es hiter h
    obtain ⟨tail, htail⟩ := h.octets
    rw [smsUdhIterInit_eq] at hiter
    split_ifs at hiter
    cases hiter
    rw [htail]
    exact UdhIter.visits (spans_udhOctets tail h.fits)
  · intro iter es hiter h
    obtain ⟨tail, htail⟩ := h.octets
    unfold smsUdhIterInitFromCbs at hiter
    dsimp only at hiter
    split_ifs at hiter
    cases hiter
    rw [htail]
    exact UdhIter.visits (spans_udhOctets tail h.fits)

/-- A page that says it has a header, of one element without a value. -/
def headerPage : Cbs where
  gs := .plmn
  messageCode := 0
  updateNumber := 0
  messageIdentifier := 0
  dcs := 0x90
  maxPages := 1
  page := 1
  ud := [2, 0x70, 0] ++ List.replicate 79 0

theorem udhIter_visits_header_page : headerPage.ud.length = 82 ∧
    ((smsUdhIterInit unknownMessage).isSome ↔ ∃ es, es ≠ [] ∧ HasHeader unknownMessage es) ∧
      (∀ iter es, smsUdhIterInit unknownMessage = some iter → HasHeader unknownMessage es → iter.Visits es) ∧
      ((smsUdhIterInitFromCbs headerPage).isSome ↔ ∃ es, es ≠ [] ∧ CbsHasHeader headerPage es) ∧
      ∀ iter es, smsUdhIterInitFromCbs headerPage = some iter → CbsHasHeader headerPage es →
        iter.Visits es :=
  ⟨rfl, udhIter_visits_header unknownMessage rfl⟩

end Phonelets.Sms
