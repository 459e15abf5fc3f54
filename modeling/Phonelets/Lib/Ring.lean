import Mathlib.Data.List.GetD
import Mathlib.Data.Nat.ModEq

/-! # Rings

A memory whose positions go round, and what stands in it from a position on.
-/

namespace Phonelets.Ring

open List

variable {α : Type*} {memory : List α} {l : List α} {p q start k j : ℕ} {a : α}

/-! ## Storing -/

lemma succ_mod {x n : ℕ} (h : x % n + 1 < n) : (x + 1) % n = x % n + 1 := by
  rw [← Nat.mod_add_mod, Nat.mod_eq_of_lt h]

/-- The octets put in the cells from a position on. -/
def store (memory : List α) (position : ℕ) : List α → List α
  | [] => memory
  | a :: l => store (memory.set (position % memory.length) a) (position + 1) l

/-- A copy into the memory from a place on, if all of it is there. -/
def copy (memory : List α) (place : ℕ) : List α → Option (List α)
  | [] => some memory
  | a :: l => if place < memory.length then copy (memory.set place a) (place + 1) l else none

@[simp] lemma length_store (memory : List α) (position : ℕ) (l : List α) :
    (store memory position l).length = memory.length := by
  induction l generalizing memory position with
  | nil => rfl
  | cons a l ih => rw [store, ih, length_set]

lemma store_append (memory : List α) (position : ℕ) (l m : List α) :
    store memory position (l ++ m) = store (store memory position l) (position + l.length) m := by
  induction l generalizing memory position with
  | nil => rfl
  | cons a l ih =>
    rw [cons_append, store, ih, store, length_cons, Nat.add_assoc, Nat.add_comm 1]

/-- A copy that does not reach the end goes where the positions go. -/
lemma copy_eq_store (h : p % memory.length + l.length ≤ memory.length) :
    copy memory (p % memory.length) l = some (store memory p l) := by
  induction l generalizing memory p with
  | nil => rfl
  | cons a l ih =>
    rw [length_cons] at h
    rw [copy, if_pos (by omega), store]
    have hlen : (memory.set (p % memory.length) a).length = memory.length := length_set
    cases l with
    | nil => rfl
    | cons b l =>
      rw [length_cons] at h
      have hnext := (@succ_mod p memory.length (by omega)).symm
      have hrest := @ih (memory.set (p % memory.length) a) (p + 1)
        (by rw [hlen, ← hnext, length_cons]; omega)
      rw [hlen, ← hnext] at hrest
      exact hrest

/-! ## What stands in a ring -/

variable [Inhabited α]

/-- The cell of a position. -/
def cell (memory : List α) (position : ℕ) : α := memory.getD (position % memory.length) default

/-- `k` cells from a position on. -/
def window (memory : List α) (start k : ℕ) : List α :=
  (List.range k).map fun i => cell memory (start + i)

@[simp] lemma length_window (memory : List α) (start k : ℕ) : (window memory start k).length = k := by
  rw [window, length_map, length_range]

lemma window_succ (memory : List α) (start k : ℕ) :
    window memory start (k + 1) = window memory start k ++ [cell memory (start + k)] := by
  rw [window, range_succ, map_append]
  rfl

/-- A cell that is set, and one that is not: positions less than a round apart have cells of their
own. -/
lemma cell_set_self (h : 0 < memory.length) (position : ℕ) (a : α) :
    cell (memory.set (position % memory.length) a) position = a := by
  rw [cell, length_set, getD_eq_getElem?_getD,
    getElem?_set_self (Nat.mod_lt position h), Option.getD_some]

lemma cell_set_other {p q : ℕ} (hpq : p < q) (hround : q < p + memory.length) (a : α) :
    cell (memory.set (q % memory.length) a) p = cell memory p := by
  have hne : q % memory.length ≠ p % memory.length := by
    intro heq
    have hdvd : memory.length ∣ q - p := (Nat.modEq_iff_dvd' hpq.le).mp heq.symm
    have hle := Nat.le_of_dvd (by omega) hdvd
    omega
  rw [cell, cell, length_set, getD_eq_getElem?_getD, getElem?_set_ne hne, getD_eq_getElem?_getD]

/-- The cell behind a window is set: the window gets longer. -/
lemma window_set (h : k < memory.length) (start : ℕ) (a : α) :
    window (memory.set ((start + k) % memory.length) a) start (k + 1) = window memory start k ++ [a] := by
  rw [window_succ, cell_set_self (by omega)]
  refine congrArg (· ++ [a]) (map_congr_left fun i hi => ?_)
  rw [mem_range] at hi
  exact cell_set_other (by omega) (by omega) a

lemma take_window (h : j ≤ k) (memory : List α) (start : ℕ) :
    (window memory start k).take j = window memory start j := by
  rw [window, window, ← map_take, take_range, Nat.min_eq_left h]

/-- A copy of `k` cells from a place on, if all of them are there. -/
def fetch (memory : List α) (place : ℕ) : ℕ → Option (List α)
  | 0 => some []
  | k + 1 => memory[place]?.bind fun a => (fetch memory (place + 1) k).map (a :: ·)

/-- What is put behind a window, as far as there is room, stands behind it. -/
lemma window_store (h : k + l.length ≤ memory.length) :
    window (store memory (start + k) l) start (k + l.length) = window memory start k ++ l := by
  induction l generalizing memory k with
  | nil => exact (append_nil _).symm
  | cons a l ih =>
    rw [length_cons] at h ⊢
    have hrest := @ih (memory.set ((start + k) % memory.length) a) (k + 1)
      (by rw [length_set]; omega)
    rw [window_set (by omega), append_assoc] at hrest
    rw [store, Nat.add_assoc start, Nat.add_comm l.length 1, ← Nat.add_assoc k]
    exact hrest

lemma window_cons (memory : List α) (p k : ℕ) :
    window memory p (k + 1) = cell memory p :: window memory (p + 1) k := by
  rw [window, range_succ_eq_map, map_cons, map_map]
  refine congrArg (_ :: ·) (map_congr_left fun i _ => ?_)
  show cell memory (p + (i + 1)) = cell memory (p + 1 + i)
  rw [Nat.add_assoc, Nat.add_comm 1]

lemma window_add (memory : List α) (p j k : ℕ) :
    window memory p (j + k) = window memory p j ++ window memory (p + j) k := by
  induction j generalizing p with
  | zero => rw [Nat.zero_add]; rfl
  | succ j ih =>
    rw [Nat.add_right_comm, window_cons, ih, window_cons, cons_append, Nat.add_right_comm,
      Nat.add_assoc p]

/-- Positions that are the same cell have the same windows. -/
lemma window_congr (h : p % memory.length = q % memory.length) (k : ℕ) :
    window memory p k = window memory q k := by
  refine map_congr_left fun i _ => ?_
  rw [cell, cell, Nat.add_mod, h, ← Nat.add_mod]

lemma fetch_eq_window (h : p % memory.length + k ≤ memory.length) :
    fetch memory (p % memory.length) k = some (window memory p k) := by
  induction k generalizing p with
  | zero => rfl
  | succ k ih =>
    have hcell : memory[p % memory.length]? = some (cell memory p) := by
      rw [cell, getD_eq_getElem?_getD, getElem?_eq_getElem (by omega), Option.getD_some]
    rw [fetch, hcell, Option.bind_some, window_cons]
    cases k with
    | zero => rfl
    | succ k =>
      have hnext := (@succ_mod p memory.length (by omega)).symm
      rw [hnext, ih (by rw [← hnext]; omega)]
      rfl

end Phonelets.Ring
