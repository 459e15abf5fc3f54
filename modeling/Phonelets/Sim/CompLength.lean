import Phonelets.Sim.CompTlv

/-! # The length of a comprehension TLV

`comprehension_tlv_iter_next` takes a length field of one to four octets and collects its number
in an `unsigned short`: of three octets after the first one the highest is lost. What it then
takes for the value, and what for the next element, is decided by the other two.
-/

namespace Phonelets.Sim

open List Option
open Phonelets.Sms (bitField)

/-! ## Fields -/

/-- The number of the octets, most significant first. -/
def bigEndianValue (os : List UInt8) : ℕ := os.foldl (fun n b => n * 256 + b.toNat) 0

/-- The octets of a tag: one, or three if the first one says so. -/
inductive TagField : List UInt8 → Prop where
  | short (b : UInt8) (one : bitField b 0 7 ≠ 0x7f) : TagField [b]
  | long (b hi lo : UInt8) (three : bitField b 0 7 = 0x7f) : TagField [b, hi, lo]

/-- A length field of one to four octets, and its number. -/
inductive LengthField : List UInt8 → ℕ → Prop where
  | short (b : UInt8) (low : b.toNat < 0x80) : LengthField [b] b.toNat
  | extended (b : UInt8) (octets : List UInt8) (count : b.toNat = 0x80 + octets.length)
      (pos : 1 ≤ octets.length) (three : octets.length ≤ 3) :
      LengthField (b :: octets) (bigEndianValue octets)

/-- A tag that the iterator goes on after: no stuffing and no `0x80`, and not the number 0. -/
inductive ReadableTag : List UInt8 → Prop where
  | short (b : UInt8) (one : bitField b 0 7 ≠ 0x7f) (stuffing : b ≠ 0x00) (reserved : b ≠ 0x80) :
      ReadableTag [b]
  | long (hi lo : UInt8) (number : (hi.toNat &&& 0x7f) <<< 8 ||| lo.toNat ≠ 0) :
      ReadableTag [0x7f, hi, lo]

variable {tagField : List UInt8}

lemma ReadableTag.field (h : ReadableTag tagField) : TagField tagField := by
  cases h with
  | short b one => exact .short b one
  | long hi lo => exact .long 0x7f hi lo (by decide)

lemma TagField.unique {a b x y : List UInt8} (ha : TagField a) (hb : TagField b)
    (h : a ++ x = b ++ y) : a = b ∧ x = y := by
  apply append_inj h
  cases ha with
  | short c one =>
    cases hb with
    | short d => rfl
    | long d hi lo three =>
      obtain rfl : c = d := (List.cons.inj h).1
      exact absurd three one
  | long c hi lo three =>
    cases hb with
    | short d one =>
      obtain rfl : c = d := (List.cons.inj h).1
      exact absurd three one
    | long d => rfl

lemma LengthField.unique {a b x y : List UInt8} {m n : ℕ} (ha : LengthField a m)
    (hb : LengthField b n) (h : a ++ x = b ++ y) : m = n ∧ x = y := by
  cases ha with
  | short c low =>
    cases hb with
    | short d =>
      obtain ⟨rfl, hrest⟩ := List.cons.inj h
      exact ⟨rfl, hrest⟩
    | extended d octets count =>
      obtain ⟨rfl, -⟩ := List.cons.inj h
      omega
  | extended c octets count =>
    cases hb with
    | short d low =>
      obtain ⟨rfl, -⟩ := List.cons.inj h
      omega
    | extended d octets' count' =>
      obtain ⟨rfl, hrest⟩ := List.cons.inj h
      obtain ⟨rfl, hxy⟩ := append_inj hrest (by omega)
      exact ⟨rfl, hxy⟩

/-! ## The number that is collected -/

lemma shiftLeft_or (n : ℕ) (b : UInt8) : n <<< 8 ||| b.toNat = n * 256 + b.toNat := by
  have h := Nat.two_pow_add_eq_or_of_lt b.toNat_lt n
  rw [Nat.shiftLeft_eq, Nat.mul_comm n (2 ^ 8), ← h, Nat.mul_comm]

lemma collect_eq (width : ℕ) (os : List UInt8) : collect width os = bigEndianValue os % 2 ^ width := by
  have hfold : ∀ (os : List UInt8) (n : ℕ),
      os.foldl (fun len b => (len <<< 8 ||| b.toNat) % 2 ^ width) (n % 2 ^ width) =
        os.foldl (fun n b => n * 256 + b.toNat) n % 2 ^ width := by
    intro os
    induction os with
    | nil => exact fun n => rfl
    | cons b os ih =>
      intro n
      rw [foldl_cons, foldl_cons, ← ih, shiftLeft_or, Nat.add_mod, Nat.mul_mod,
        Nat.mod_mod, ← Nat.mul_mod, ← Nat.add_mod]
  have h := hfold os 0
  rwa [Nat.zero_mod] at h

lemma bigEndianValue_lt_two {octets : List UInt8} (h : octets.length ≤ 2) :
    bigEndianValue octets < 2 ^ 16 := by
  match octets with
  | [] => decide
  | [b] =>
    have hb : b.toNat < 256 := b.toNat_lt
    show 0 * 256 + b.toNat < 65536
    omega
  | [b, c] =>
    have hb : b.toNat < 256 := b.toNat_lt
    have hc : c.toNat < 256 := c.toNat_lt
    show (0 * 256 + b.toNat) * 256 + c.toNat < 65536
    omega
  | _ :: _ :: _ :: _ => simp at h

lemma bigEndianValue_three (hi mid lo : UInt8) :
    bigEndianValue [hi, mid, lo] = hi.toNat * 2 ^ 16 + bigEndianValue [mid, lo] := by
  show ((0 * 256 + hi.toNat) * 256 + mid.toNat) * 256 + lo.toNat =
    hi.toNat * 65536 + ((0 * 256 + mid.toNat) * 256 + lo.toNat)
  omega

/-! ## What is read -/

variable {os rest : List UInt8}

lemma readLength_field {width len : ℕ} (hwidth : 7 ≤ width)
    (h : readLength 3 width os = some (len, rest)) : ∃ field n, LengthField field n ∧
    field.tail.head? ≠ some 0 ∧ os = field ++ rest ∧ len = n % 2 ^ width := by
  cases os with
  | nil => cases h
  | cons b tail =>
    unfold readLength at h
    dsimp only at h
    split_ifs at h with hext hcount hroom hhead
    · obtain ⟨rfl, rfl⟩ := Prod.mk.inj (Option.some.inj h)
      have hlen : (tail.take (b.toNat - 0x80)).length = b.toNat - 0x80 := by
        rw [length_take]
        omega
      refine ⟨b :: tail.take (b.toNat - 0x80), _, .extended b _ ?_ ?_ ?_, ?_, ?_, collect_eq width _⟩
      · omega
      · omega
      · omega
      · rw [tail_cons, head?_take, if_neg (by omega)]
        exact hhead
      · rw [cons_append, take_append_drop]
    · obtain ⟨rfl, rfl⟩ := Prod.mk.inj (Option.some.inj h)
      have hpow : 2 ^ 7 ≤ 2 ^ width := Nat.pow_le_pow_right (by decide) hwidth
      refine ⟨[b], _, .short b (by omega), nofun, rfl, (Nat.mod_eq_of_lt ?_).symm⟩
      omega

/-- After a tag that can be read the iterator takes a length and as many octets. -/
lemma comprehensionTlvIterNext_tag (h : ReadableTag tagField) (rest : List UInt8) : ∃ cr tag,
    comprehensionTlvIterNext (tagField ++ rest) = (readLength 3 16 rest).bind fun (len, rest) => if
    rest.length < len then none else some (⟨cr, tag, rest.take len⟩, rest.drop len) := by
  cases h with
  | short b one stuffing reserved =>
    have hff : b ≠ 0xff := by
      rintro rfl
      exact one (by decide)
    refine ⟨bitField b 7 1 = 1, bitField b 0 7, ?_⟩
    rw [singleton_append, comprehensionTlvIterNext, readCompTag.eq_def, if_neg (by tauto),
      if_neg one]
    rfl
  | long hi lo number =>
    have hbound : (hi.toNat &&& 0x7f) <<< 8 ||| lo.toNat ≤ 0x7fff := by
      rw [shiftLeft_or]
      have hhi : hi.toNat &&& 0x7f ≤ 0x7f := Nat.and_le_right
      have hlo : lo.toNat < 256 := lo.toNat_lt
      omega
    refine ⟨bitField hi 7 1 = 1, (hi.toNat &&& 0x7f) <<< 8 ||| lo.toNat, ?_⟩
    rw [cons_append, cons_append, singleton_append, comprehensionTlvIterNext,
      readCompTag.eq_def, if_neg (by decide), if_pos (by decide)]
    dsimp only
    rw [if_neg (by omega)]
    rfl

variable {tlv : CompTlv}

lemma comprehensionTlvIterNext_readable (h : comprehensionTlvIterNext os = some (tlv, rest)) :
    ∃ tagField after, ReadableTag tagField ∧ os = tagField ++ after := by
  cases os with
  | nil => cases h
  | cons b tail =>
    unfold comprehensionTlvIterNext at h
    dsimp only at h
    split_ifs at h with hrefused
    push Not at hrefused
    obtain ⟨hstuffing, hff, hreserved⟩ := hrefused
    obtain ⟨⟨cr, tag, after⟩, htag, -⟩ := bind_eq_some_iff.mp h
    unfold readCompTag at htag
    split_ifs at htag with hlong
    · have hb : b = 0x7f := by
        have hall : ∀ b : UInt8, bitField b 0 7 = 0x7f → b ≠ 0xff → b = 0x7f :=
          Phonelets.Sms.octet_forall (by decide)
        exact hall b hlong hff
      subst hb
      split at htag
      · next hi lo rest =>
          dsimp only at htag
          split_ifs at htag with hnumber
          exact ⟨[0x7f, hi, lo], rest, .long hi lo (by omega), rfl⟩
      · cases htag
    · exact ⟨[b], tail, .short b hlong hstuffing hreserved, rfl⟩

/-- What is accepted is a tag, a length field, the value and the rest; the value is as long as the
low 16 bits of the number say. -/
lemma comprehensionTlvIterNext_fields (h : comprehensionTlvIterNext os = some (tlv, rest)) :
    ∃ tagField lengthField n, ReadableTag tagField ∧ LengthField lengthField n ∧
      lengthField.tail.head? ≠ some 0 ∧ os = tagField ++ (lengthField ++ (tlv.value ++ rest)) ∧
      tlv.value.length = n % 2 ^ 16 := by
  obtain ⟨tagField, after, htag, rfl⟩ := comprehensionTlvIterNext_readable h
  obtain ⟨cr, tag, hnext⟩ := comprehensionTlvIterNext_tag htag after
  rw [hnext] at h
  obtain ⟨⟨len, behind⟩, hlen, hvalue⟩ := bind_eq_some_iff.mp h
  obtain ⟨lengthField, n, hfield, hhead, rfl, hn⟩ := readLength_field (by decide) hlen
  dsimp only at hvalue
  split_ifs at hvalue with hroom
  obtain ⟨rfl, rfl⟩ := Prod.mk.inj (Option.some.inj hvalue)
  refine ⟨tagField, lengthField, n, htag, hfield, hhead, ?_, ?_⟩
  · rw [take_append_drop]
  · show (behind.take len).length = _
    rw [length_take, ← hn]
    omega

/-! ## When the length is right -/

/-- An element that is accepted has the length that its length field says, and an element with
too few octets for it is rejected. -/
structure LengthExact (os : List UInt8) : Prop where
  accepted : ∀ tlv rest, comprehensionTlvIterNext os = some (tlv, rest) →
    ∃ tagField lengthField, TagField tagField ∧ LengthField lengthField tlv.value.length ∧
      os = tagField ++ (lengthField ++ (tlv.value ++ rest))
  rejected : ∀ tagField lengthField len left, TagField tagField → LengthField lengthField len →
    os = tagField ++ (lengthField ++ left) → left.length < len → comprehensionTlvIterNext os = none

/-- The length field has three octets after the first one, of which the first is not zero, and
the number of the other two does not exceed what is left. -/
def Cut (os : List UInt8) : Prop :=
  ∃ tagField hi mid lo left, ReadableTag tagField ∧ hi ≠ 0 ∧
    bigEndianValue [mid, lo] ≤ left.length ∧ os = tagField ++ 0x83 :: hi :: mid :: lo :: left

lemma comprehensionTlvIterNext_cut {hi mid lo : UInt8} {left : List UInt8}
    (htag : ReadableTag tagField) (hhi : hi ≠ 0) (hroom : bigEndianValue [mid, lo] ≤ left.length) :
    ∃ tlv rest, comprehensionTlvIterNext (tagField ++ 0x83 :: hi :: mid :: lo :: left) =
      some (tlv, rest) ∧ tlv.value.length = bigEndianValue [mid, lo] := by
  obtain ⟨cr, tag, hnext⟩ := comprehensionTlvIterNext_tag htag (0x83 :: hi :: mid :: lo :: left)
  have hlen : readLength 3 16 (0x83 :: hi :: mid :: lo :: left) =
      some (bigEndianValue [mid, lo], left) := by
    have hhead : (hi :: mid :: lo :: left).head? ≠ some 0 := by
      rw [head?_cons, ne_eq, Option.some.injEq]
      exact hhi
    have hcollect : collect 16 [hi, mid, lo] = bigEndianValue [mid, lo] := by
      rw [collect_eq, bigEndianValue_three, Nat.mul_add_mod_self_right]
      exact Nat.mod_eq_of_lt (bigEndianValue_lt_two (Nat.le_refl 2))
    rw [← hcollect, readLength, if_pos (by decide), if_neg (by decide),
      if_neg (by simp), if_neg hhead]
    rfl
  refine ⟨⟨cr, tag, left.take (bigEndianValue [mid, lo])⟩, left.drop (bigEndianValue [mid, lo]), ?_, ?_⟩
  · rw [hnext, hlen, bind_some]
    dsimp only
    rw [if_neg (Nat.not_lt.mpr hroom)]
  · exact length_take_of_le hroom

/-- Of an element that is accepted and not cut the whole number has been taken. -/
lemma length_of_not_cut (hcut : ¬ Cut os) (h : comprehensionTlvIterNext os = some (tlv, rest)) :
    ∃ tagField lengthField, TagField tagField ∧ LengthField lengthField tlv.value.length ∧
      os = tagField ++ (lengthField ++ (tlv.value ++ rest)) := by
  obtain ⟨tagField, lengthField, n, htag, hfield, hhead, rfl, hlen⟩ := comprehensionTlvIterNext_fields h
  refine ⟨tagField, lengthField, htag.field, ?_, rfl⟩
  suffices hn : n < 2 ^ 16 by
    rw [hlen, Nat.mod_eq_of_lt hn]
    exact hfield
  cases hfield with
  | short b low => omega
  | extended b octets count pos three =>
    by_cases htwo : octets.length ≤ 2
    · exact bigEndianValue_lt_two htwo
    -- three octets: the iterator has seen that the first one is not zero
    obtain ⟨hi, mid, lo, rfl⟩ := length_eq_three.mp (show octets.length = 3 by omega)
    obtain rfl : b = 0x83 := UInt8.toNat_inj.mp count
    refine absurd ⟨tagField, hi, mid, lo, tlv.value ++ rest, htag, ?_, ?_, rfl⟩ hcut
    · rintro rfl
      exact hhead rfl
    · rw [bigEndianValue_three, Nat.mul_add_mod_self_right,
        Nat.mod_eq_of_lt (@bigEndianValue_lt_two [mid, lo] (Nat.le_refl 2))] at hlen
      rw [length_append, hlen]
      exact Nat.le_add_right _ _

/-- The length is right, and too few octets are noticed, exactly if no length is cut. -/
theorem comprehension_tlv_length_iff (os : List UInt8) : LengthExact os ↔ ¬ Cut os := by
  constructor
  · rintro h ⟨tagField, hi, mid, lo, left, htag, hhi, hroom, rfl⟩
    obtain ⟨tlv, rest, hnext, hlen⟩ := comprehensionTlvIterNext_cut htag hhi hroom
    obtain ⟨tagField', lengthField, htag', hfield, heq⟩ := h.accepted tlv rest hnext
    -- the three octets are a length field of their own
    have hthree : LengthField [0x83, hi, mid, lo] (bigEndianValue [hi, mid, lo]) :=
      .extended 0x83 [hi, mid, lo] rfl (by simp) (by simp)
    have hrest := (htag.field.unique htag' heq).2
    have hsame := (hthree.unique hfield hrest).1
    have hpos : 0 < hi.toNat := by
      rw [Nat.pos_iff_ne_zero]
      intro hzero
      exact hhi (UInt8.toNat_inj.mp hzero)
    have hlt := @bigEndianValue_lt_two [mid, lo] (Nat.le_refl 2)
    rw [bigEndianValue_three] at hsame
    omega
  · intro hcut
    refine ⟨fun tlv rest h => length_of_not_cut hcut h, ?_⟩
    rintro tagField lengthField len left htag hfield rfl hshort
    by_contra haccepted
    obtain ⟨⟨tlv, rest⟩, hnext⟩ := ne_none_iff_exists'.mp haccepted
    obtain ⟨tagField', lengthField', htag', hfield', heq⟩ := length_of_not_cut hcut hnext
    obtain ⟨rfl, rfl⟩ := hfield.unique hfield' (htag.unique htag' heq).2
    rw [length_append] at hshort
    omega

/-- A length of 65536 is taken for 0. -/
theorem comprehension_tlv_length_cut : ¬ LengthExact [0x01, 0x83, 0x01, 0x00, 0x00] := by
  rw [comprehension_tlv_length_iff, not_not]
  exact ⟨[0x01], 0x01, 0x00, 0x00, [], .short 0x01 (by decide) (by decide) (by decide), by decide,
    by decide, rfl⟩

end Phonelets.Sim
