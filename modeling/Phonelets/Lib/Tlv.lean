import Mathlib.Data.List.Basic

/-! # Tag, length, value

A sequence of elements, each a tag, an octet with the length of its value, and the
value. `Spans` says where in a buffer a sequence stands, which is how a reader that
moves an offset sees it.
-/

namespace Phonelets.Tlv

open List

/-- A tag and a value whose length fits its octet. -/
structure Element where
  tag : UInt8
  value : List UInt8
  fits : value.length < 256

namespace Element

@[ext] lemma ext {a b : Element} (htag : a.tag = b.tag) (hvalue : a.value = b.value) : a = b := by
  cases a
  cases b
  simp_all

def encode (e : Element) : List UInt8 := e.tag :: UInt8.ofNat e.value.length :: e.value

lemma length_encode (e : Element) : e.encode.length = e.value.length + 2 := rfl

lemma length_octet (e : Element) : (UInt8.ofNat e.value.length).toNat = e.value.length :=
  UInt8.toNat_ofNat_of_lt' e.fits

end Element

def encode (es : List Element) : List UInt8 := es.flatMap Element.encode

@[simp] lemma encode_nil : encode [] = [] := rfl

lemma encode_cons (e : Element) (es : List Element) : encode (e :: es) = e.encode ++ encode es := by
  simp [encode]

lemma encode_append (es fs : List Element) : encode (es ++ fs) = encode es ++ encode fs := by
  simp [encode]

/-! ## In a buffer -/

/-- The elements stand in the buffer from `offset` up to `stop`. -/
def Spans (data : List UInt8) (offset stop : ℕ) (es : List Element) : Prop :=
  ∃ pre rest, data = pre ++ (encode es ++ rest) ∧ pre.length = offset ∧
    stop = offset + (encode es).length

variable {data : List UInt8} {offset stop : ℕ} {e : Element} {es : List Element}

lemma spans_nil (h : offset ≤ data.length) : Spans data offset offset [] :=
  ⟨data.take offset, data.drop offset, by simp, by simp [h], by simp⟩

lemma Spans.stop_of_nil (h : Spans data offset stop []) : stop = offset := by
  rcases h with ⟨pre, rest, -, -, hstop⟩
  simpa using hstop

lemma spans_append (pre : List UInt8) (es : List Element) (rest : List UInt8) :
    Spans (pre ++ (encode es ++ rest)) pre.length (pre.length + (encode es).length) es :=
  ⟨pre, rest, rfl, rfl, rfl⟩

lemma Spans.bounds (h : Spans data offset stop es) :
    stop = offset + (encode es).length ∧ stop ≤ data.length := by
  rcases h with ⟨pre, rest, rfl, rfl, rfl⟩
  refine ⟨rfl, ?_⟩
  simp only [length_append]
  omega

/-- What a reader finds at the offset, and where the others stand. -/
lemma Spans.uncons (h : Spans data offset stop (e :: es)) : data.getD offset 0 = e.tag ∧ data.getD
    (offset + 1) 0 = UInt8.ofNat e.value.length ∧ (data.drop (offset + 2)).take e.value.length =
    e.value ∧ Spans data (offset + 2 + e.value.length) stop es := by
  rcases h with ⟨pre, rest, rfl, rfl, rfl⟩
  rw [encode_cons]
  refine ⟨?_, ?_, ?_, pre ++ e.encode, rest, ?_, ?_, ?_⟩
  · simp [Element.encode]
  · simp [Element.encode]
  · rw [← drop_drop, drop_left]
    simp [Element.encode]
  · simp
  · simp [Element.encode]
    omega
  · simp [Element.encode]
    omega

/-- A reader that finds the others behind an element finds it in front of them. -/
lemma Spans.cons {n : ℕ} (hn : (data.getD (offset + 1) 0).toNat = n)
    (h : Spans data (offset + 2 + n) stop es) : ∃ e, e.tag = data.getD offset 0 ∧
    e.value = (data.drop (offset + 2)).take n ∧ Spans data offset stop (e :: es) := by
  rcases h with ⟨pre, rest, rfl, hpre, rfl⟩
  obtain ⟨a, b, v, hsplit⟩ : ∃ a b v, pre.drop offset = a :: b :: v := by
    have hlen : (pre.drop offset).length = n + 2 := by
      rw [length_drop]
      omega
    match hd : pre.drop offset, hlen with
    | a :: b :: v, _ => exact ⟨a, b, v, rfl⟩
  have hpre' : pre = pre.take offset ++ a :: b :: v := by
    rw [← hsplit, take_append_drop]
  have htake : (pre.take offset).length = offset := by
    rw [length_take]
    omega
  generalize pre.take offset = p at hpre' htake
  subst hpre' htake
  have hv : v.length = n := by
    simp only [length_append, length_cons] at hpre
    omega
  have hb : b.toNat = n := by simpa using hn
  have hofNat : UInt8.ofNat v.length = b := by
    apply UInt8.toNat_inj.mp
    rw [hv, ← hb]
    simp
  refine ⟨⟨a, v, by rw [hv, ← hb]; exact b.toNat_lt⟩, by simp, ?_, p, rest, ?_, rfl, ?_⟩
  · rw [append_assoc, ← drop_drop, drop_left]
    simp [hv]
  · simp [encode_cons, Element.encode, hofNat]
  · simp only [encode_cons, length_append, Element.length_encode, hv]
    omega

/-- The elements stand in any buffer with the same octets up to their end. -/
lemma Spans.of_take {data' : List UInt8} {n : ℕ} (h : Spans data offset stop es)
    (htake : data.take n = data'.take n) (hn : stop ≤ n) : Spans data' offset stop es := by
  rcases h with ⟨pre, rest, rfl, rfl, rfl⟩
  refine ⟨pre, rest.take (n - (pre.length + (encode es).length)) ++ data'.drop n, ?_, rfl, rfl⟩
  rw [← append_assoc, ← append_assoc]
  have hsplit : (pre ++ (encode es ++ rest)).take n =
      pre ++ encode es ++ rest.take (n - (pre.length + (encode es).length)) := by
    rw [← append_assoc, take_append, length_append,
      take_of_length_le (by rw [length_append]; omega)]
  rw [← hsplit, htake, take_append_drop]

end Phonelets.Tlv
