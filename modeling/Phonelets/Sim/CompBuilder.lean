import Phonelets.Sim.BerForest
import Phonelets.Sim.CompTlv

/-! # What a comprehension TLV builder holds

`Stands s es`: the octets used are the elements `es`. `Holds s es e`: the builder is on `e`
behind them. Each builder function has its lemma, and a run of calls is judged by them.
-/

namespace Phonelets.Sim

open List

namespace CompState

/-- The builder as one that may stand inside others. -/
def frame (s : CompState) : BerTlvBuilder :=
  ⟨s.builder.max, s.builder.pos, s.builder.pdu, 0, .universal, .primitive, 0⟩

/-- The octets used are the elements. -/
structure Stands (s : CompState) (es : List CompTlv) : Prop where
  nested : Nested s.frame s.parents
  used_eq : s.used = (es.flatMap CompTlv.encode).length
  fits : s.used ≤ s.builder.max
  octets : s.mem.At s.builder.pdu (es.flatMap CompTlv.encode)

/-- The builder is on an element behind others. -/
structure Holds (s : CompState) (es : List CompTlv) (e : CompTlv) : Prop where
  nested : Nested s.frame s.parents
  tag_pos : 0 < e.tag
  pos_eq : s.builder.pos = (es.flatMap CompTlv.encode).length
  len_eq : s.builder.len = e.value.length
  before : s.mem.At s.builder.pdu (es.flatMap CompTlv.encode)
  here : s.mem.At s.tlv e.encode
  fits : s.builder.pos + e.encode.length ≤ s.builder.max

variable {s : CompState} {es : List CompTlv} {e : CompTlv}

lemma length_encode (e : CompTlv) : e.encode.length = (compTagOctets e.cr e.tag).length +
    lenFieldSizeNeeded e.value.length + e.value.length := by
  rw [CompTlv.encode, CompTlv.header, length_append, length_append, length_lengthOctets]

variable {cr : Bool} {tag : ℕ}

lemma tagSize_of_at (htag : 0 < tag) (h : s.mem.At s.tlv (compTagOctets cr tag)) :
    s.tagSize = (compTagOctets cr tag).length := by
  rcases compTagOctets_head cr htag with ⟨b, os, hoctets, -, hsize⟩
  rw [← hsize, tagSize]
  rw [hoctets, Memory.at_cons] at h
  rw [h.1]

lemma lenSize_of_at {len : ℕ} (hlen : len < 2 ^ 32)
    (h : s.mem.At (s.tlv + s.tagSize) (lengthOctets len)) : s.lenSize = lenFieldSizeNeeded len := by
  rcases lengthOctets_head hlen with ⟨b, os, hoctets, hsize⟩
  rw [← hsize, lenSize]
  rw [hoctets, Memory.at_cons] at h
  rw [h.1]

namespace Holds

lemma max_lt (h : Holds s es e) : s.builder.max < 2 ^ 32 := h.nested.max_lt

lemma len_lt (h : Holds s es e) : e.value.length < 2 ^ 32 := by
  have hmax := h.max_lt
  have hfits := h.fits
  rw [length_encode] at hfits
  omega

lemma tag_at (h : Holds s es e) : s.mem.At s.tlv (compTagOctets e.cr e.tag) := by
  have hhere := h.here
  rw [CompTlv.encode, CompTlv.header, append_assoc, Memory.at_append] at hhere
  exact hhere.1

lemma tagSize_eq (h : Holds s es e) : s.tagSize = (compTagOctets e.cr e.tag).length :=
  tagSize_of_at h.tag_pos h.tag_at

lemma first_ne_zero (h : Holds s es e) : s.mem s.tlv ≠ 0 := by
  rcases compTagOctets_head e.cr h.tag_pos with ⟨b, os, hoctets, hstuff, -⟩
  have htag := h.tag_at
  rw [hoctets, Memory.at_cons] at htag
  rw [htag.1]
  exact hstuff.1

lemma lenSize_eq (h : Holds s es e) : s.lenSize = lenFieldSizeNeeded e.value.length := by
  have hhere := h.here
  rw [CompTlv.encode, CompTlv.header, append_assoc, Memory.at_append, Memory.at_append,
    ← h.tagSize_eq] at hhere
  exact lenSize_of_at h.len_lt hhere.2.1

lemma value_at (h : Holds s es e) : s.mem.At s.getData e.value := by
  have hhere := h.here
  rw [CompTlv.encode, Memory.at_append, CompTlv.header, length_append, length_lengthOctets,
    ← h.tagSize_eq, ← h.lenSize_eq, ← Nat.add_assoc] at hhere
  exact hhere.2

lemma value_eq (h : Holds s es e) : s.value = e.value := by
  rw [value, h.len_eq]
  exact h.value_at.slice_eq

lemma getData_add (h : Holds s es e) :
    s.getData + s.builder.len = s.builder.pdu + (s.builder.pos + e.encode.length) := by
  rw [length_encode, getData, h.tagSize_eq, h.lenSize_eq, h.len_eq, tlv]
  omega

lemma prevSize_eq (h : Holds s es e) : s.prevSize = e.encode.length := by
  have hmax := h.max_lt
  have hfits := h.fits
  rw [length_encode] at hfits ⊢
  rw [prevSize, if_pos h.first_ne_zero, h.len_eq, h.tagSize_eq, h.lenSize_eq, Nat.mod_eq_of_lt (by omega)]
  omega

lemma used_eq (h : Holds s es e) : s.used = s.builder.pos + e.encode.length := by
  rw [used, h.prevSize_eq]

lemma stands (h : Holds s es e) : Stands s (es ++ [e]) := by
  have hall : (es ++ [e]).flatMap CompTlv.encode = es.flatMap CompTlv.encode ++ e.encode := by simp
  refine ⟨h.nested, ?_, ?_, ?_⟩
  · rw [h.used_eq, h.pos_eq, hall, length_append]
  · rw [h.used_eq]
    exact h.fits
  · rw [hall, Memory.at_append, ← h.pos_eq]
    exact ⟨h.before, h.here⟩

end Holds

/-! ## The builder functions -/

lemma next_false (h : (s.next cr tag).1 = false) : (s.next cr tag).2 = s := by
  unfold next at h ⊢
  split_ifs at h ⊢
  rfl

lemma next_true (h : (s.next cr tag).1 = true) : (s.next cr tag).2 = s.advance cr tag := by
  unfold next at h ⊢
  split_ifs at h ⊢
  rfl

variable {n : ℕ}

lemma setLength_false (h : (s.setLength n).1 = false) : (s.setLength n).2 = s := by
  unfold setLength at h ⊢
  split_ifs at h ⊢
  rfl

lemma setLength_true (h : (s.setLength n).1 = true) : (s.setLength n).2 = s.resize n := by
  unfold setLength at h ⊢
  split_ifs at h ⊢
  rfl

lemma encode_empty (cr : Bool) (tag : ℕ) :
    CompTlv.encode ⟨cr, tag, []⟩ = compTagOctets cr tag ++ [0] := by
  rw [CompTlv.encode, CompTlv.header, append_nil]
  rfl

lemma newSize_eq (cr : Bool) (tag : ℕ) : newSize tag = (compTagOctets cr tag).length + 1 := by
  rw [newSize, length_compTagOctets]

lemma Stands.used_lt (h : Stands s es) : s.used < 2 ^ 32 := by
  have hmax : s.builder.max < 2 ^ 32 := h.nested.max_lt
  have hfits := h.fits
  omega

lemma Stands.advance (h : Stands s es) (cr : Bool) {tag : ℕ} (htag : 0 < tag)
    (hroom : s.used + newSize tag ≤ s.builder.max) : Holds (s.advance cr tag) es ⟨cr, tag, []⟩ := by
  have hpos : (s.builder.pos + s.prevSize) % 2 ^ 32 = s.used := Nat.mod_eq_of_lt h.used_lt
  have hlen := newSize_eq cr tag
  have hend : s.builder.pdu + s.used + newSize tag - 1 =
      s.builder.pdu + s.used + (compTagOctets cr tag).length := by omega
  have hused := h.used_eq
  unfold CompState.advance
  simp only [hpos, hend]
  refine ⟨h.nested.congr rfl rfl, htag, hused, rfl, ?_, ?_, ?_⟩
  · exact (h.octets.write (by omega)).write (by omega)
  · rw [encode_empty, Memory.at_append]
    exact ⟨(Memory.at_write _ _ _).write (Or.inl (Nat.le_refl _)), Memory.at_write _ _ _⟩
  · rw [length_encode]
    show s.used + ((compTagOctets cr tag).length + 1 + 0) ≤ s.builder.max
    omega

/-- The memory after the `memmove`: what stands before the length field, and the octets of
the value that both lengths have, at their new place. -/
lemma moved_octets (h : Holds s es e) (n : ℕ) : ∃ m : Memory, (if min s.builder.len n > 0 ∧
    lenFieldSizeNeeded n ≠ s.lenSize then s.mem.move (s.tlv + s.tagSize + lenFieldSizeNeeded n)
    (s.tlv + s.tagSize + s.lenSize) (min s.builder.len n) else s.mem) = m ∧ m.At s.builder.pdu
    (es.flatMap CompTlv.encode) ∧ m.At s.tlv (compTagOctets e.cr e.tag) ∧ m.slice (s.tlv + s.tagSize
    + lenFieldSizeNeeded n) (min e.value.length n) = e.value.take (min e.value.length n) := by
  have hsize := h.tagSize_eq
  have hpos := h.pos_eq
  have htlv : s.tlv = s.builder.pdu + s.builder.pos := rfl
  have hsame : s.mem.slice (s.tlv + s.tagSize + s.lenSize) (min e.value.length n) =
      e.value.take (min e.value.length n) := by
    have hvalue := h.value_at.slice_eq
    calc s.mem.slice s.getData (min e.value.length n)
        = (s.mem.slice s.getData e.value.length).take (min e.value.length n) :=
          (Memory.take_slice _ _ (Nat.min_le_left _ _)).symm
      _ = e.value.take (min e.value.length n) := by rw [hvalue]
  rw [h.len_eq]
  split_ifs with hmove
  · refine ⟨_, rfl, h.before.write (Or.inl (by omega)), h.tag_at.write (Or.inl (by omega)), ?_⟩
    have hat := (Memory.at_write s.mem (s.tlv + s.tagSize + lenFieldSizeNeeded n)
      (s.mem.slice (s.tlv + s.tagSize + s.lenSize) (min e.value.length n))).slice_eq
    rw [Memory.length_slice] at hat
    rw [Memory.move, hat, hsame]
  · refine ⟨_, rfl, h.before, h.tag_at, ?_⟩
    rcases Nat.eq_zero_or_pos (min e.value.length n) with hzero | hsome
    · rw [hzero]
      rfl
    · have heq : lenFieldSizeNeeded n = s.lenSize := by
        by_contra hne
        exact hmove ⟨hsome, hne⟩
      rw [heq, hsame]

lemma Holds.resize (h : Holds s es e)
    (hroom : s.builder.pos + (s.tagSize + lenFieldSizeNeeded n + n) ≤ s.builder.max) : ∃ v, Holds
    (s.resize n) es ⟨e.cr, e.tag, v⟩ ∧ v.length = n ∧ v.take (min e.value.length n) = e.value.take
    (min e.value.length n) ∧ (s.resize n).parents = resizeParents (s.resize n).used s.parents := by
  have hmax := h.max_lt
  have hlen : s.newCtlvLen n = s.tagSize + lenFieldSizeNeeded n + n := Nat.mod_eq_of_lt (by omega)
  have hpos : (s.builder.pos + (s.tagSize + lenFieldSizeNeeded n + n)) % 2 ^ 32 =
      s.builder.pos + (s.tagSize + lenFieldSizeNeeded n + n) := Nat.mod_eq_of_lt (by omega)
  rcases moved_octets h n with ⟨m, hm, hbefore, htag, hvalue⟩
  have hresize : s.resize n = ⟨{ s.builder with len := n },
      resizeParents (s.builder.pos + (s.tagSize + lenFieldSizeNeeded n + n)) s.parents,
      m.write (s.tlv + s.tagSize) (lengthOctets n)⟩ := by
    rw [CompState.resize, hlen, hpos, hm]
  have hsize := h.tagSize_eq
  have hvlen : (m.slice (s.tlv + s.tagSize + lenFieldSizeNeeded n) n).length = n :=
    Memory.length_slice _ _ _
  have hholds : Holds (s.resize n) es
      ⟨e.cr, e.tag, m.slice (s.tlv + s.tagSize + lenFieldSizeNeeded n) n⟩ := by
    rw [hresize]
    refine ⟨(h.nested.resize hroom).congr rfl rfl, h.tag_pos, h.pos_eq, hvlen.symm, ?_, ?_, ?_⟩
    · refine hbefore.write (Or.inl ?_)
      have hpos' := h.pos_eq
      show s.builder.pdu + _ ≤ s.builder.pdu + s.builder.pos + s.tagSize
      omega
    · rw [CompTlv.encode, CompTlv.header, append_assoc, Memory.at_append, Memory.at_append, hvlen,
        length_lengthOctets, ← hsize]
      exact ⟨htag.write (Or.inl (Nat.le_of_eq (by rw [hsize]))), Memory.at_write _ _ _,
        (Memory.at_slice _ _ _).write (Or.inr (Nat.le_of_eq (by rw [length_lengthOctets]; rfl)))⟩
    · rw [length_encode, hvlen, ← hsize]
      exact hroom
  refine ⟨_, hholds, hvlen, ?_, ?_⟩
  · rw [Memory.take_slice _ _ (Nat.min_le_right _ _)]
    exact hvalue
  · rw [hholds.used_eq, length_encode, hvlen, ← hsize, hresize]

lemma advance_getData (h : s.used < 2 ^ 32) {cr : Bool} {tag : ℕ} (htag : 0 < tag) :
    (s.advance cr tag).getData = s.builder.pdu + (s.used + newSize tag) := by
  have hpos : (s.builder.pos + s.prevSize) % 2 ^ 32 = s.used := Nat.mod_eq_of_lt h
  have hsize := newSize_eq cr tag
  have hend : s.builder.pdu + s.used + newSize tag - 1 =
      s.builder.pdu + s.used + (compTagOctets cr tag).length := by omega
  have hat : (s.advance cr tag).mem.At (s.advance cr tag).tlv (compTagOctets cr tag) ∧
      (s.advance cr tag).mem.At ((s.advance cr tag).tlv + (compTagOctets cr tag).length)
        (lengthOctets 0) := by
    unfold CompState.advance tlv
    simp only [hpos, hend]
    exact ⟨(Memory.at_write _ _ _).write (Or.inl (Nat.le_refl _)), Memory.at_write _ _ _⟩
  have htlv : (s.advance cr tag).tlv = s.builder.pdu + s.used := by
    unfold CompState.advance tlv
    simp only [hpos]
  have htagSize := tagSize_of_at htag hat.1
  have hlenSize := lenSize_of_at (by omega) (htagSize ▸ hat.2)
  rw [getData, htagSize, hlenSize, htlv, hsize]
  rw [show lenFieldSizeNeeded 0 = 1 from rfl]
  omega

lemma Holds.resize_getData (h : Holds s es e) (hn : n < 2 ^ 32) :
    (s.resize n).getData = s.tlv + (s.tagSize + lenFieldSizeNeeded n) := by
  rcases moved_octets h n with ⟨m, hm, -, htag, -⟩
  have hmem : (s.resize n).mem = m.write (s.tlv + s.tagSize) (lengthOctets n) := by
    rw [CompState.resize, hm]
  have htag' : (s.resize n).mem.At (s.resize n).tlv (compTagOctets e.cr e.tag) := by
    rw [hmem]
    exact htag.write (Or.inl (Nat.le_of_eq (congrArg (s.tlv + ·) h.tagSize_eq.symm)))
  have htagSize : (s.resize n).tagSize = s.tagSize := by
    rw [tagSize_of_at h.tag_pos htag', h.tagSize_eq]
  have hlenSize : (s.resize n).lenSize = lenFieldSizeNeeded n := by
    refine lenSize_of_at hn ?_
    rw [htagSize, hmem]
    exact Memory.at_write _ _ _
  rw [getData, htagSize, hlenSize, Nat.add_assoc]
  rfl

/-- A write from the value on: the fields stay, and of what was there before it and the
octets written, the value has as much as it is long. -/
lemma Holds.put (h : Holds s es e) (offset : ℕ) (bytes : List UInt8) :
    ∃ v, Holds (s.fill offset bytes) es ⟨e.cr, e.tag, v⟩ ∧ v.length = e.value.length ∧
      ∀ w : List UInt8, w.length = offset → e.value.take offset = w.take e.value.length →
        v.take (offset + bytes.length) = (w ++ bytes).take e.value.length := by
  have hlen := h.len_eq
  have hget : s.getData = s.tlv + ((compTagOctets e.cr e.tag).length + lenFieldSizeNeeded e.value.length) := by
    rw [getData, h.tagSize_eq, h.lenSize_eq, Nat.add_assoc]
  have hfields : s.mem.At s.tlv e.header := by
    have hhere := h.here
    rw [CompTlv.encode, Memory.at_append] at hhere
    exact hhere.1
  have hheader : e.header.length = (compTagOctets e.cr e.tag).length + lenFieldSizeNeeded e.value.length := by
    rw [CompTlv.header, length_append, length_lengthOctets]
  have hvlen : ((s.fill offset bytes).mem.slice s.getData e.value.length).length = e.value.length :=
    Memory.length_slice _ _ _
  have hpos := h.pos_eq
  have htlv : s.tlv = s.builder.pdu + s.builder.pos := rfl
  refine ⟨(s.fill offset bytes).mem.slice s.getData e.value.length,
    ⟨h.nested.congr rfl rfl, h.tag_pos, hpos, hlen.trans hvlen.symm, ?_, ?_, ?_⟩, hvlen, ?_⟩
  · exact h.before.write (Or.inl (by omega))
  · have hnew : CompTlv.header ⟨e.cr, e.tag, (s.fill offset bytes).mem.slice s.getData e.value.length⟩ =
        e.header := by
      rw [CompTlv.header, hvlen, CompTlv.header]
    rw [CompTlv.encode, hnew, Memory.at_append, hheader]
    refine ⟨hfields.write (Or.inl (by omega)), ?_⟩
    show (s.fill offset bytes).mem.At (s.tlv + _) _
    rw [← hget]
    exact Memory.at_slice _ _ _
  · have hfits := h.fits
    rw [length_encode] at hfits ⊢
    rw [hvlen]
    exact hfits
  · intro w hw hsame
    refine ext_getElem (by simp only [length_take, hvlen, length_append, hw]; omega) ?_
    intro i h₁ h₂
    simp only [length_take, length_append] at h₂
    rw [getElem_take, getElem_take, Memory.slice_getElem]
    rcases Nat.lt_or_ge i offset with hlow | hhigh
    · rw [getElem_append_left (by omega)]
      show s.mem.write (s.getData + offset) bytes (s.getData + i) = _
      rw [Memory.write_outside _ (Or.inl (by omega)), Memory.at_iff.mp h.value_at i (by omega)]
      have hi : i < (e.value.take offset).length := by
        rw [length_take]
        omega
      have heq := getElem_of_eq hsame hi
      rwa [getElem_take, getElem_take] at heq
    · rw [getElem_append_right (by omega)]
      show s.mem.write (s.getData + offset) bytes (s.getData + i) = _
      have hin := @Memory.write_inside (s.getData + offset) (i - offset) bytes s.mem
        (show i - offset < bytes.length by omega)
      rw [show s.getData + offset + (i - offset) = s.getData + i by omega] at hin
      simp only [hw]
      exact hin

lemma Holds.fill (h : Holds s es e) (offset : ℕ) (bytes : List UInt8) :
    ∃ v, Holds (s.fill offset bytes) es ⟨e.cr, e.tag, v⟩ ∧ v.length = e.value.length := by
  rcases h.put offset bytes with ⟨v, hholds, hlen, -⟩
  exact ⟨v, hholds, hlen⟩

end CompState

end Phonelets.Sim
