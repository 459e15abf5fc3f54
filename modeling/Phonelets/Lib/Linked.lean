import Mathlib.Tactic.Common

/-! # Linked lists

A loop that looks through a list for its first element with a property, and keeps the
link before it so that it can put something else in the place of that element or take
it out.
-/

namespace Phonelets.Linked

variable {α : Type} {p : α → Bool} {l before after : List α} {x : α}

/-- The first element with the property, between those before it and those after it. -/
def splitFind (p : α → Bool) : List α → Option (List α × α × List α)
  | [] => none
  | x :: l => if p x then some ([], x, l) else (splitFind p l).map fun r => (x :: r.1, r.2)

lemma splitFind_eq_some (h : splitFind p l = some (before, x, after)) :
    l = before ++ x :: after ∧ p x = true ∧ ∀ y ∈ before, p y = false := by
  induction l generalizing before with
  | nil => simp [splitFind] at h
  | cons y l ih =>
    unfold splitFind at h
    by_cases hy : p y = true
    · rw [if_pos hy] at h
      obtain ⟨rfl, rfl, rfl⟩ : [] = before ∧ y = x ∧ l = after := by simpa using h
      exact ⟨rfl, hy, by simp⟩
    · rw [if_neg hy] at h
      rcases Option.map_eq_some_iff.mp h with ⟨⟨b, z, c⟩, hfind, heq⟩
      obtain ⟨rfl, rfl, rfl⟩ : y :: b = before ∧ z = x ∧ c = after := by simpa using heq
      rcases ih hfind with ⟨hl, hx, hbefore⟩
      refine ⟨by rw [hl, List.cons_append], hx, ?_⟩
      intro z hz
      rcases List.mem_cons.mp hz with rfl | hz
      · simpa using hy
      · exact hbefore z hz

lemma splitFind_eq_none (h : splitFind p l = none) : ∀ x ∈ l, p x = false := by
  induction l with
  | nil => simp
  | cons y l ih =>
    unfold splitFind at h
    by_cases hy : p y = true
    · rw [if_pos hy] at h
      simp at h
    · rw [if_neg hy] at h
      intro x hx
      rcases List.mem_cons.mp hx with rfl | hx
      · simpa using hy
      · exact ih (Option.map_eq_none_iff.mp h) x hx

/-- What it finds is what a search without the links finds. -/
lemma splitFind_find? (p : α → Bool) (l : List α) :
    (splitFind p l).map (fun r => r.2.1) = l.find? p := by
  induction l with
  | nil => rfl
  | cons y l ih =>
    unfold splitFind
    by_cases hy : p y = true
    · simp [hy]
    · simp [hy, ← ih, Function.comp_def]

end Phonelets.Linked
