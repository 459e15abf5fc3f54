import Phonelets.Sim.BerTlv

/-! # Looking up a BER-TLV by its tag -/

namespace Phonelets.Sim

open Option

/-- `ber_tlv_iter_get_short_tag`: the octet of a tag number up to 30, otherwise 0. -/
def BerTlv.shortTag (t : BerTlv) : ℕ :=
  if t.tag > 30 then 0 else t.tag ||| t.encoding.code <<< 5 ||| t.dataType.code <<< 6

/-- The loop of `ber_tlv_find_by_tag`, each turn of which takes at least one octet. -/
def berTlvFindLoop (inTag : ℕ) : ℕ → List UInt8 → Option (List UInt8)
  | 0, _ => none
  | turns + 1, os =>
    (berTlvIterNext os).bind fun (tlv, rest) =>
      if tlv.shortTag ≠ inTag then berTlvFindLoop inTag turns rest else some tlv.value

/-- `ber_tlv_find_by_tag`: the value, and with it its length. -/
def berTlvFindByTag (pdu : List UInt8) (inTag : ℕ) : Option (List UInt8) :=
  berTlvFindLoop inTag pdu.length pdu

/-- The TLVs that the iterator stands on, one after the other. -/
def berTlvsLoop : ℕ → List UInt8 → List BerTlv
  | 0, _ => []
  | turns + 1, os => ((berTlvIterNext os).map fun (tlv, rest) => tlv :: berTlvsLoop turns rest).getD []

def berTlvs (os : List UInt8) : List BerTlv := berTlvsLoop os.length os

/-- The value of the first TLV with that tag. -/
def firstValue (tag : ℕ) (ts : List BerTlv) : Option (List UInt8) :=
  (ts.find? fun t => t.shortTag = tag).map BerTlv.value

/-! ## One turn -/

variable {os rest : List UInt8}

lemma readTag_split {tag t : ℕ} (h : readTag tag os = some (t, rest)) :
    ∃ field, os = field ++ rest := by
  induction os generalizing tag with
  | nil => cases h
  | cons b os ih =>
    rw [readTag] at h
    split at h
    · obtain ⟨field, hfield⟩ := ih h
      exact ⟨b :: field, congrArg (b :: ·) hfield⟩
    · cases h
      exact ⟨[b], rfl⟩

lemma readTagNumber_split {b : UInt8} {t : ℕ} (h : readTagNumber b os = some (t, rest)) :
    ∃ field, os = field ++ rest := by
  unfold readTagNumber at h
  split at h
  · split at h
    · cases h
    · split at h
      · cases h
      · exact readTag_split h
  · cases h
    exact ⟨[], rfl⟩

lemma berTlvIterNext_framed {t : BerTlv} (h : berTlvIterNext os = some (t, rest)) :
    Framed os t.value rest := by
  unfold berTlvIterNext at h
  split at h
  · cases h
  · next b tail hdrop =>
      simp only [bind_eq_some_iff, Prod.exists] at h
      obtain ⟨tag, afterTag, htag, len, afterLen, hlen, h⟩ := h
      split at h
      · cases h
      · obtain ⟨tagField, rfl⟩ := readTagNumber_split htag
        obtain ⟨lengthField, hne, rfl⟩ := readLength_split hlen
        cases h
        refine ⟨os.takeWhile isStuffing, b :: tagField, lengthField, List.cons_ne_nil _ _, hne, ?_⟩
        rw [List.take_append_drop, List.cons_append, ← hdrop, List.takeWhile_append_dropWhile]

lemma berTlvFindLoop_eq (inTag turns : ℕ) (os : List UInt8) :
    berTlvFindLoop inTag turns os = firstValue inTag (berTlvsLoop turns os) := by
  induction turns generalizing os with
  | zero => rfl
  | succ turns ih =>
    rw [berTlvFindLoop, berTlvsLoop]
    cases berTlvIterNext os with
    | none => rfl
    | some r =>
      obtain ⟨tlv, rest⟩ := r
      simp only [bind_some, map_some, getD_some, firstValue, List.find?_cons]
      by_cases htag : tlv.shortTag = inTag
      · simp [htag]
      · simp [htag, ih, firstValue]

/-- `ber_tlv_find_by_tag` finds the first of all TLVs that has the tag. -/
lemma berTlvFindByTag_eq (os : List UInt8) (inTag : ℕ) :
    berTlvFindByTag os inTag = firstValue inTag (berTlvs os) :=
  berTlvFindLoop_eq inTag os.length os

end Phonelets.Sim
