import Mathlib.Data.List.Basic
import Mathlib.Order.Lattice

/-! # Binary search in a sorted table

`bsearch` of the C library: the half of the table that may hold the key, again and again.
In a table with strictly rising keys it finds just what a search from the front finds.
-/

namespace Phonelets.Bsearch

open List

variable {α κ : Type} [LinearOrder κ] {keyOf : α → κ} {table : List α} {key : κ}

/-- The loop of `bsearch` over the entries from `l` up to `u`. -/
def bsearchLoop (keyOf : α → κ) (table : List α) (key : κ) (l u : ℕ) : Option α :=
  if l < u then
    let idx := (l + u) / 2
    match table[idx]? with
    | none => none
    | some e =>
      if key < keyOf e then bsearchLoop keyOf table key l idx
      else if keyOf e < key then bsearchLoop keyOf table key (idx + 1) u
      else some e
  else none
  termination_by u - l

def bsearch (keyOf : α → κ) (table : List α) (key : κ) : Option α :=
  bsearchLoop keyOf table key 0 table.length

/-- The keys rise. -/
def Sorted (keyOf : α → κ) (table : List α) : Prop :=
  table.Pairwise fun a b => keyOf a < keyOf b

instance [DecidableRel fun a b : α => keyOf a < keyOf b] : Decidable (Sorted keyOf table) :=
  inferInstanceAs (Decidable (table.Pairwise fun a b => keyOf a < keyOf b))

/-- It is enough to compare neighbours. -/
lemma sorted_of_isChain (h : table.IsChain fun a b => keyOf a < keyOf b) : Sorted keyOf table := by
  have : Trans (fun a b : α => keyOf a < keyOf b) (fun a b => keyOf a < keyOf b)
    (fun a b => keyOf a < keyOf b) := ⟨lt_trans⟩
  exact isChain_iff_pairwise.mp h

lemma Sorted.lt_of_lt (h : Sorted keyOf table) {i j : ℕ} {a b : α} (hi : table[i]? = some a)
    (hj : table[j]? = some b) (hij : i < j) : keyOf a < keyOf b := by
  obtain ⟨hi', rfl⟩ := List.getElem?_eq_some_iff.mp hi
  obtain ⟨hj', rfl⟩ := List.getElem?_eq_some_iff.mp hj
  exact pairwise_iff_getElem.mp h i j hi' hj' hij

/-- A key stands at one place. -/
lemma Sorted.eq_of_key (h : Sorted keyOf table) {i j : ℕ} {a b : α} (hi : table[i]? = some a)
    (hj : table[j]? = some b) (hkey : keyOf a = keyOf b) : i = j := by
  rcases Nat.lt_trichotomy i j with hlt | heq | hgt
  · exact absurd hkey (ne_of_lt (h.lt_of_lt hi hj hlt))
  · exact heq
  · exact absurd hkey.symm (ne_of_lt (h.lt_of_lt hj hi hgt))

/-- The loop decides whether an entry from `l` up to `u` has the key. -/
lemma bsearchLoop_spec (key : κ) (h : Sorted keyOf table) (l u : ℕ) (hu : u ≤ table.length) :
    (∀ e, bsearchLoop keyOf table key l u = some e → e ∈ table ∧ keyOf e = key) ∧ (bsearchLoop keyOf
    table key l u = none → ∀ i e, l ≤ i → i < u → table[i]? = some e → keyOf e ≠ key) := by
  fun_induction bsearchLoop keyOf table key l u with
  | case1 l u hlt idx hnone =>
    -- `idx` is inside of the table
    have hlen : table.length ≤ idx := List.getElem?_eq_none_iff.mp hnone
    simp only [idx] at hlen
    omega
  | case2 l u hlt idx e he hkey ih =>
    rcases ih (by simp only [idx]; omega) with ⟨hsome, hnone⟩
    refine ⟨hsome, ?_⟩
    intro hres i e' hli hiu hi
    by_cases hidx : i < idx
    · exact hnone hres i e' hli hidx hi
    · -- behind the middle the keys are larger
      intro heq
      rcases Nat.eq_or_lt_of_le (Nat.not_lt.mp hidx) with rfl | hgt
      · obtain rfl : e = e' := Option.some.inj (he.symm.trans hi)
        exact absurd heq (ne_of_gt hkey)
      · have hlt' := h.lt_of_lt he hi hgt
        rw [heq] at hlt'
        exact absurd hkey (not_lt_of_gt hlt')
  | case3 l u hlt idx e he hkey hkey' ih =>
    rcases ih hu with ⟨hsome, hnone⟩
    refine ⟨hsome, ?_⟩
    intro hres i e' hli hiu hi
    by_cases hidx : idx < i
    · exact hnone hres i e' hidx hiu hi
    · -- in front of the middle the keys are smaller
      intro heq
      rcases Nat.eq_or_lt_of_le (Nat.not_lt.mp hidx) with rfl | hgt
      · obtain rfl : e = e' := Option.some.inj (he.symm.trans hi)
        exact absurd heq (ne_of_lt hkey')
      · have hlt' := h.lt_of_lt hi he hgt
        rw [heq] at hlt'
        exact absurd hkey' (not_lt_of_gt hlt')
  | case4 l u hlt idx e he hkey hkey' =>
    -- neither smaller nor larger: the middle entry has the key
    refine ⟨?_, fun hres => by simp at hres⟩
    intro e' heq
    obtain rfl : e = e' := Option.some.inj heq
    exact ⟨mem_of_getElem? he, le_antisymm (not_lt.mp hkey) (not_lt.mp hkey')⟩
  | case5 l u hlt =>
    refine ⟨fun e heq => by simp at heq, ?_⟩
    intro _ i e hli hiu
    omega

/-- Over rising keys the search finds what a search from the front finds. -/
lemma bsearch_eq_find? [DecidableEq κ] (h : Sorted keyOf table) :
    bsearch keyOf table key = table.find? fun e => keyOf e = key := by
  rcases bsearchLoop_spec key h 0 table.length (Nat.le_refl _) with ⟨hsome, hnone⟩
  unfold bsearch
  cases hres : bsearchLoop keyOf table key 0 table.length with
  | none =>
    symm
    apply find?_eq_none.mpr
    intro e he
    rcases mem_iff_getElem?.mp he with ⟨i, hi⟩
    have hlt : i < table.length := (List.getElem?_eq_some_iff.mp hi).1
    simpa using hnone hres i e (Nat.zero_le i) hlt hi
  | some e =>
    rcases hsome e hres with ⟨hmem, hkey⟩
    symm
    cases hfind : table.find? fun e => decide (keyOf e = key) with
    | none => exact absurd hkey (by simpa using find?_eq_none.mp hfind e hmem)
    | some e' =>
      have hkey' : keyOf e' = key := by simpa using find?_some hfind
      rcases mem_iff_getElem?.mp hmem with ⟨i, hi⟩
      -- both entries have the key, so they stand at the same place
      rcases mem_iff_getElem?.mp (mem_of_find?_eq_some hfind) with ⟨j, hj⟩
      obtain rfl := h.eq_of_key hi hj (hkey.trans hkey'.symm)
      rw [hi] at hj
      exact hj.symm

end Phonelets.Bsearch
