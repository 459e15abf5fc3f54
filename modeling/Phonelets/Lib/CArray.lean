import Mathlib.Data.List.TakeWhile
import Mathlib.Tactic.Common

/-! # Fixed-size C arrays

An array of octets of a fixed size, one that is filled up to a count, and a C string in a
`char` array of a fixed size: its octets up to the terminating NUL. All carry their bounds,
so a write past the end has no result.
-/

namespace Phonelets

open List

/-- `unsigned char buf[n]`. -/
structure Buf (n : ℕ) where
  octets : List UInt8
  length_eq : octets.length = n
  deriving DecidableEq

namespace Buf

variable {n : ℕ}

@[ext] lemma ext {a b : Buf n} (h : a.octets = b.octets) : a = b := by
  cases a
  cases b
  simpa using h

/-- The array after `memset(buf, 0, n)`. -/
def zero (n : ℕ) : Buf n := ⟨List.replicate n 0, List.length_replicate⟩

/-- `memcpy(buf + offset, src, len)`, nothing if it runs past the end. -/
def write (b : Buf n) (offset : ℕ) (src : List UInt8) : Option (Buf n) :=
  if h : offset + src.length ≤ n then
    some ⟨b.octets.take offset ++ (src ++ b.octets.drop (offset + src.length)), by
      have hlen := b.length_eq
      simp only [List.length_append, List.length_take, List.length_drop]
      omega⟩
  else none

/-- `buf[i]`; callers stay inside the array. -/
def get (b : Buf n) (i : ℕ) : UInt8 := b.octets.getD i 0

lemma write_eq_some {b : Buf n} {offset : ℕ} {src : List UInt8} (h : offset + src.length ≤ n) :
    ∃ b', b.write offset src = some b' ∧
      b'.octets = b.octets.take offset ++ (src ++ b.octets.drop (offset + src.length)) := by
  unfold write
  rw [dif_pos h]
  exact ⟨_, rfl, rfl⟩

/-- A write replaces what was at its place. -/
lemma write_append {b : Buf n} {pre old post : List UInt8} (h : b.octets = pre ++ (old ++ post))
    (src : List UInt8) (hlen : src.length = old.length) :
    ∃ b', b.write pre.length src = some b' ∧ b'.octets = pre ++ (src ++ post) := by
  have hn := b.length_eq
  rw [h, length_append, length_append] at hn
  rcases write_eq_some (show pre.length + src.length ≤ n by omega) with ⟨b', hb', hoct⟩
  refine ⟨b', hb', ?_⟩
  rw [hoct, h, hlen, take_left, ← drop_drop, drop_left, drop_left]

lemma write_eq_none {b : Buf n} {offset : ℕ} {src : List UInt8} (h : ¬ offset + src.length ≤ n) :
    b.write offset src = none := by
  unfold write
  rw [dif_neg h]

end Buf

/-- What an `unsigned char a[size]` holds that comes with a count of what is in it. -/
structure Filled (size : ℕ) where
  octets : List UInt8
  fits : octets.length ≤ size

namespace Filled

variable {size : ℕ}

@[ext] lemma ext {a b : Filled size} (h : a.octets = b.octets) : a = b := by
  cases a
  cases b
  simpa using h

/-- The array with a count of 0. -/
def empty (size : ℕ) : Filled size := ⟨[], Nat.zero_le _⟩

/-- `memcpy(a, src, len)`, nothing if it runs past the end. -/
def store (size : ℕ) (src : List UInt8) : Option (Filled size) :=
  if h : src.length ≤ size then some ⟨src, h⟩ else none

lemma store_octets (a : Filled size) : store size a.octets = some a := by
  unfold store
  rw [dif_pos a.fits]

lemma store_eq_some {src : List UInt8} (h : src.length ≤ size) :
    store size src = some ⟨src, h⟩ := by
  unfold store
  rw [dif_pos h]

lemma store_eq_none {src : List UInt8} (h : size < src.length) : store size src = none := by
  unfold store
  rw [dif_neg (by omega)]

end Filled

/-- The string in a `char s[size]`: the octets before the NUL, which has its place. -/
structure CString (size : ℕ) where
  bytes : List UInt8
  fits : bytes.length < size
  no_nul : 0 ∉ bytes
  deriving DecidableEq

/-- A C string on the heap: the octets before the NUL. -/
structure HeapString where
  bytes : List UInt8
  no_nul : 0 ∉ bytes

namespace CString

variable {size : ℕ}

@[ext] lemma ext {s t : CString size} (h : s.bytes = t.bytes) : s = t := by
  cases s
  cases t
  simpa using h

/-- `s[0] = '\0'`. -/
def empty (h : 0 < size) : CString size := ⟨[], h, List.not_mem_nil⟩

/-- The string that ends at the first NUL of the octets. -/
def untilNul (l : List UInt8) : List UInt8 := l.takeWhile (· ≠ 0)

lemma not_mem_untilNul (l : List UInt8) : 0 ∉ untilNul l := by
  intro h
  have hne := mem_takeWhile_imp h
  simp at hne

lemma length_untilNul_le (l : List UInt8) : (untilNul l).length ≤ l.length :=
  (List.takeWhile_prefix _).length_le

variable {l : List UInt8}

lemma untilNul_of_no_nul (h : 0 ∉ l) : untilNul l = l := by
  apply takeWhile_eq_self_iff.mpr
  intro b hb
  have hne : b ≠ 0 := by
    rintro rfl
    exact h hb
  simpa using hne

lemma untilNul_cons (a : UInt8) (l : List UInt8) :
    untilNul (a :: l) = if a = 0 then [] else a :: untilNul l := by
  unfold untilNul
  rw [takeWhile_cons]
  by_cases h : a = 0 <;> simp [h]

/-- A terminator at the end is not needed. -/
lemma untilNul_snoc (l : List UInt8) : untilNul (l ++ [0]) = untilNul l := by
  induction l with
  | nil => rfl
  | cons a l ih => rw [cons_append, untilNul_cons, untilNul_cons, ih]

lemma untilNul_append_nul (h : 0 ∉ l) (r : List UInt8) : untilNul (l ++ 0 :: r) = l := by
  unfold untilNul
  rw [takeWhile_append_of_pos]
  · simp
  · intro b hb
    have hne : b ≠ 0 := by
      rintro rfl
      exact h hb
    simpa using hne

/-- What is in the array after the octets and a NUL have been written to it, nothing
if they do not fit. -/
def store (size : ℕ) (l : List UInt8) : Option (CString size) :=
  if h : l.length < size then
    some ⟨untilNul l, Nat.lt_of_le_of_lt (length_untilNul_le l) h, not_mem_untilNul l⟩
  else none

lemma store_bytes (s : CString size) : store size s.bytes = some s := by
  unfold store
  rw [dif_pos s.fits]
  congr 1
  exact ext (untilNul_of_no_nul s.no_nul)

lemma store_eq_some (h : l.length < size) : ∃ s, store size l = some s ∧ s.bytes = untilNul l := by
  unfold store
  rw [dif_pos h]
  exact ⟨_, rfl, rfl⟩

lemma subset_of_store {s : CString size} (h : store size l = some s) : s.bytes ⊆ l := by
  unfold store at h
  split at h
  · cases h
    exact (takeWhile_sublist _).subset
  · cases h

lemma store_eq_none (h : ¬ l.length < size) : store size l = none := by
  unfold store
  rw [dif_neg h]

end CString

end Phonelets
