import Mathlib.Data.List.Range

/-! # Numbered parts

The parts `1..m` of a thing come one at a time and in any order; `received` has the copy
of each that has come. `copies` puts these in order. A copy goes into that list at the
position that the number of those before it tells, and the list is as long as the whole
when, and only when, no part is missing.
-/

namespace Phonelets.Numbered

open List

variable {α : Type}

/-- The copies of the parts `1..m` in order, those that are there. -/
def copies (m : ℕ) (received : ℕ → Option α) : List α := (List.range' 1 m).filterMap received

/-- All parts `1..m` are there. -/
def Complete (m : ℕ) (received : ℕ → Option α) : Prop := ∀ s ∈ List.range' 1 m, (received s).isSome

instance (m : ℕ) (received : ℕ → Option α) : Decidable (Complete m received) :=
  inferInstanceAs (Decidable (∀ s ∈ List.range' 1 m, (received s).isSome))

variable {m : ℕ} {received : ℕ → Option α}

lemma length_copies (m : ℕ) (received : ℕ → Option α) :
    (copies m received).length = (List.range' 1 m).countP fun s => (received s).isSome := by
  unfold copies
  rw [length_filterMap_eq_countP]

lemma length_copies_le (m : ℕ) (received : ℕ → Option α) : (copies m received).length ≤ m := by
  have hle := countP_le_length (p := fun s => (received s).isSome) (l := List.range' 1 m)
  rw [length_range'] at hle
  rw [length_copies]
  exact hle

/-- Nothing is missing when there are as many copies as parts. -/
lemma complete_iff (m : ℕ) (received : ℕ → Option α) :
    Complete m received ↔ (copies m received).length = m := by
  have hlen : (List.range' 1 m).length = m := length_range'
  rw [length_copies]
  constructor
  · intro h
    rw [countP_eq_length.mpr h, hlen]
  · intro h
    exact countP_eq_length.mp (h.trans hlen.symm)

variable {s : ℕ}

/-- The numbers before, at and after one of them. -/
lemma range'_split (hpos : 1 ≤ s) (hle : s ≤ m) :
    List.range' 1 m = List.range' 1 (s - 1) ++ s :: List.range' (s + 1) (m - s) := by
  have hsum : m = (s - 1) + ((m - s) + 1) := by omega
  have hs : 1 + 1 * (s - 1) = s := by omega
  conv_lhs => rw [hsum]
  rw [← range'_append, hs, range'_succ]

lemma filterMap_update {l : List ℕ} (h : ∀ t ∈ l, t ≠ s) (x : α) :
    l.filterMap (Function.update received s (some x)) = l.filterMap received := by
  apply filterMap_congr
  intro t ht
  exact Function.update_of_ne (h t ht) _ _

/-- A new copy goes behind those of the parts before it. -/
lemma copies_update (hpos : 1 ≤ s) (hle : s ≤ m) (hnone : received s = none) (x : α) :
    copies m (Function.update received s (some x)) = (copies m received).take (copies (s - 1)
    received).length ++ x :: (copies m received).drop (copies (s - 1) received).length := by
  have hbefore : ∀ t ∈ List.range' 1 (s - 1), t ≠ s := by
    intro t ht
    have hlt := (mem_range'_1.mp ht).2
    omega
  have hafter : ∀ t ∈ List.range' (s + 1) (m - s), t ≠ s := by
    intro t ht
    have hlt := (mem_range'_1.mp ht).1
    omega
  unfold copies
  rw [range'_split hpos hle, filterMap_append, filterMap_append, filterMap_cons_none hnone,
    take_left, drop_left, filterMap_cons_some (Function.update_self s (some x) received),
    filterMap_update hbefore, filterMap_update hafter]

lemma length_copies_update (hpos : 1 ≤ s) (hle : s ≤ m) (hnone : received s = none) (x : α) :
    (copies m (Function.update received s (some x))).length = (copies m received).length + 1 := by
  rw [copies_update hpos hle hnone x, length_append, length_cons, length_take, length_drop]
  omega

/-- When nothing is missing, the copies are those of all the parts. -/
lemma map_some_copies (h : Complete m received) :
    (copies m received).map some = (List.range' 1 m).map received := by
  unfold Complete at h
  unfold copies
  revert h
  generalize List.range' 1 m = l
  intro h
  induction l with
  | nil => rfl
  | cons s l ih =>
    rcases Option.isSome_iff_exists.mp (h s (by simp)) with ⟨x, hx⟩
    rw [filterMap_cons_some hx, map_cons, map_cons, hx]
    rw [ih fun t ht => h t (by simp [ht])]

lemma mem_copies {x : α} : x ∈ copies m received ↔ ∃ s, 1 ≤ s ∧ s ≤ m ∧ received s = some x := by
  unfold copies
  simp only [mem_filterMap, mem_range'_1]
  constructor
  · rintro ⟨s, ⟨hpos, hlt⟩, hx⟩
    exact ⟨s, hpos, by omega, hx⟩
  · rintro ⟨s, hpos, hle, hx⟩
    exact ⟨s, ⟨hpos, by omega⟩, hx⟩

/-- The numbers of the copies, when every copy bears its own and none is missing. -/
lemma map_copies {number : α → ℕ} (hnumber : ∀ s x, received s = some x → number x = s)
    (h : Complete m received) : (copies m received).map number = List.range' 1 m := by
  unfold copies
  rw [map_filterMap]
  have hcongr : (List.range' 1 m).filterMap (fun s => (received s).map number) =
      (List.range' 1 m).filterMap some := by
    apply filterMap_congr
    intro s hs
    rcases Option.isSome_iff_exists.mp (h s hs) with ⟨x, hx⟩
    rw [hx, Option.map_some, hnumber s x hx]
  rw [hcongr, filterMap_some]

end Phonelets.Numbered
