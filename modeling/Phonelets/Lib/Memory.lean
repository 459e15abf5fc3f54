import Mathlib.Data.List.GetD
import Mathlib.Tactic.Common

/-! # Octets by address

Memory that is written through pointers. `Memory.At m p bs` says that the octets `bs`
stand at `p`: a write creates such a window, and a write next to it leaves it alone.
-/

namespace Phonelets

open List

abbrev Memory : Type := ℕ → UInt8

namespace Memory

variable {m m' : Memory} {p q i j k : ℕ} {as bs cs : List UInt8}

/-- The `k` octets from `p` on. -/
def slice (m : Memory) : ℕ → ℕ → List UInt8
  | _, 0 => []
  | p, k + 1 => m p :: slice m (p + 1) k

/-- `memcpy(p, bs, bs.length)`. -/
def write (m : Memory) (p : ℕ) (bs : List UInt8) : Memory := fun i =>
  if p ≤ i ∧ i < p + bs.length then bs.getD (i - p) 0 else m i

/-- `memmove(dst, src, k)`. -/
def move (m : Memory) (dst src k : ℕ) : Memory := m.write dst (m.slice src k)

@[simp] lemma slice_zero (m : Memory) (p : ℕ) : m.slice p 0 = [] := rfl

lemma slice_succ (m : Memory) (p k : ℕ) : m.slice p (k + 1) = m p :: m.slice (p + 1) k := rfl

@[simp] lemma length_slice (m : Memory) (p k : ℕ) : (m.slice p k).length = k := by
  induction k generalizing p with
  | zero => rfl
  | succ k ih => rw [slice_succ, length_cons, ih]

lemma slice_add (m : Memory) (p j k : ℕ) :
    m.slice p (j + k) = m.slice p j ++ m.slice (p + j) k := by
  induction j generalizing p with
  | zero => simp
  | succ j ih =>
    rw [show j + 1 + k = (j + k) + 1 by omega, slice_succ, slice_succ, ih, cons_append,
      show p + 1 + j = p + (j + 1) by omega]

lemma slice_congr (h : ∀ i, p ≤ i → i < p + k → m i = m' i) : m.slice p k = m'.slice p k := by
  induction k generalizing p with
  | zero => rfl
  | succ k ih =>
    rw [slice_succ, slice_succ, h p (Nat.le_refl p) (by omega),
      ih fun i hp hi => h i (by omega) (by omega)]

lemma take_slice (m : Memory) (p : ℕ) (h : j ≤ k) : (m.slice p k).take j = m.slice p j := by
  rw [show k = j + (k - j) by omega, slice_add, take_left' (length_slice m p j)]

lemma drop_slice (m : Memory) (p : ℕ) (h : j ≤ k) :
    (m.slice p k).drop j = m.slice (p + j) (k - j) := by
  rw [show k = j + (k - j) by omega, slice_add, drop_left' (length_slice m p j),
    show j + (k - j) - j = k - j by omega]

lemma slice_getElem (m : Memory) (p : ℕ) (h : i < (m.slice p k).length) :
    (m.slice p k)[i] = m (p + i) := by
  induction k generalizing p i with
  | zero => simp at h
  | succ k ih =>
    cases i with
    | zero => rfl
    | succ i =>
      have hi : i < (m.slice (p + 1) k).length := by
        rw [length_slice] at h ⊢
        omega
      exact (ih (p + 1) hi).trans (by rw [Nat.add_assoc, Nat.add_comm 1 i])

/-! ## Writes -/

lemma write_outside (m : Memory) (h : i < p ∨ p + bs.length ≤ i) : m.write p bs i = m i :=
  if_neg (by omega)

lemma write_inside (m : Memory) (h : i < bs.length) : m.write p bs (p + i) = bs[i] := by
  unfold write
  rw [if_pos ⟨by omega, by omega⟩, Nat.add_sub_cancel_left]
  exact (getElem_eq_getD 0).symm

@[simp] lemma write_nil (m : Memory) (p : ℕ) : m.write p [] = m := by
  funext i
  exact write_outside m (by simp; omega)

/-- A write right behind another one. -/
lemma write_write (m : Memory) (p : ℕ) (as bs : List UInt8) :
    (m.write p as).write (p + as.length) bs = m.write p (as ++ bs) := by
  funext i
  unfold write
  rw [length_append]
  by_cases hlow : p ≤ i ∧ i < p + as.length
  · rw [if_neg (by omega), if_pos hlow, if_pos (by omega)]
    exact (getD_append as bs 0 _ (by omega)).symm
  · by_cases hhigh : p + as.length ≤ i ∧ i < p + as.length + bs.length
    · rw [if_pos hhigh, if_pos (by omega), getD_append_right _ _ _ _ (by omega),
        Nat.sub_sub]
    · rw [if_neg hhigh, if_neg hlow, if_neg (by omega)]

/-! ## Windows -/

/-- The octets stand at the address. -/
def At (m : Memory) (p : ℕ) (bs : List UInt8) : Prop := m.slice p bs.length = bs

lemma at_nil (m : Memory) (p : ℕ) : m.At p [] := rfl

lemma at_slice (m : Memory) (p k : ℕ) : m.At p (m.slice p k) := by
  unfold At
  rw [length_slice]

lemma at_append : m.At p (as ++ bs) ↔ m.At p as ∧ m.At (p + as.length) bs := by
  unfold At
  rw [length_append, slice_add]
  constructor
  · intro h
    exact append_inj h (length_slice m p _)
  · rintro ⟨ha, hb⟩
    rw [ha, hb]

lemma at_cons {b : UInt8} : m.At p (b :: bs) ↔ m p = b ∧ m.At (p + 1) bs := by
  unfold At
  rw [length_cons, slice_succ, cons_eq_cons]

lemma at_iff : m.At p bs ↔ ∀ i, (h : i < bs.length) → m (p + i) = bs[i] := by
  constructor
  · intro h i hi
    have hlt : i < (m.slice p bs.length).length := by rwa [length_slice]
    rw [← slice_getElem m p hlt]
    exact getElem_of_eq h hlt
  · intro h
    refine ext_getElem (length_slice m p _) fun i h₁ h₂ => ?_
    rw [slice_getElem, h i h₂]

lemma At.slice_eq (h : m.At p bs) : m.slice p bs.length = bs := h

lemma At.congr (h : m.At p bs) (hm : ∀ i, p ≤ i → i < p + bs.length → m' i = m i) : m'.At p bs :=
  (slice_congr hm).trans h

lemma at_write (m : Memory) (p : ℕ) (bs : List UInt8) : (m.write p bs).At p bs :=
  at_iff.mpr fun _ hi => write_inside m hi

/-- What does not overlap the octets written stays. -/
lemma At.write (h : m.At p bs) (hdis : p + bs.length ≤ q ∨ q + cs.length ≤ p) :
    (m.write q cs).At p bs :=
  h.congr fun i hp hi => write_outside m (by omega)

lemma slice_write (m : Memory) (hdis : p + k ≤ q ∨ q + cs.length ≤ p) :
    (m.write q cs).slice p k = m.slice p k :=
  slice_congr fun i hp hi => write_outside m (by omega)

end Memory

end Phonelets
