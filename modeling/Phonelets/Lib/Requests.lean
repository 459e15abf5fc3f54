import Mathlib.Data.List.Count
import Mathlib.Data.List.Perm.Basic

/-! # Requests

Requests are numbered as they are received. `Accounted` says that each of them has been answered
once or is still waiting; the rules below move a request from one place to the next.
-/

namespace Phonelets.Requests

open List

lemma perm_append_middle (xs ys zs : List ℕ) : (xs ++ ys ++ zs).Perm (xs ++ zs ++ ys) := by
  rw [append_assoc, append_assoc]
  exact perm_append_comm.append_left xs

/-- An element at a place of a list, and the others. -/
lemma perm_eraseIdx {α : Type*} {xs : List α} {i : ℕ} {x : α} (h : xs[i]? = some x) :
    (x :: xs.eraseIdx i).Perm xs := by
  rcases List.getElem?_eq_some_iff.mp h with ⟨hi, rfl⟩
  exact getElem_cons_eraseIdx_perm hi

/-- Every request up to `received` is exactly once among those answered or waiting, and no
other number is. -/
def Accounted (answered waiting : List ℕ) (received : ℕ) : Prop :=
  ∀ id, answered.count id + waiting.count id = if id < received then 1 else 0

lemma accounted_nil : Accounted [] [] 0 := by
  intro id
  exact (if_neg (Nat.not_lt_zero id)).symm

namespace Accounted

variable {answered waiting : List ℕ} {received id : ℕ}

/-- A waiting request has been received. -/
lemma lt_of_waiting (h : Accounted answered waiting received) (hid : id ∈ waiting) :
    id < received := by
  by_contra hge
  have hcount := h id
  rw [if_neg hge] at hcount
  have hpos := count_pos_iff.mpr hid
  omega

/-- A waiting request has not been answered. -/
lemma not_answered (h : Accounted answered waiting received) (hid : id ∈ waiting) :
    id ∉ answered := by
  intro hanswered
  have hcount := h id
  rw [if_pos (h.lt_of_waiting hid)] at hcount
  have hwaits := count_pos_iff.mpr hid
  have hdone := count_pos_iff.mpr hanswered
  omega

/-- A new request waits. -/
lemma receive (h : Accounted answered waiting received) :
    Accounted answered (received :: waiting) (received + 1) := by
  intro id
  have hcount := h id
  rw [count_cons, ← Nat.add_assoc, hcount]
  by_cases heq : received = id
  · rw [heq, if_neg (Nat.lt_irrefl id), if_pos (beq_self_eq_true id), if_pos (Nat.lt_succ_self id)]
  · rw [if_neg (fun hbeq => heq (beq_iff_eq.mp hbeq)), Nat.add_zero]
    congr 1
    apply propext
    omega

/-- The order in which requests wait does not matter. -/
lemma perm {waiting' : List ℕ} (h : Accounted answered waiting received)
    (hperm : waiting.Perm waiting') : Accounted answered waiting' received := by
  intro id
  rw [← hperm.count_eq]
  exact h id

/-- Nor does the order in which they were answered. -/
lemma reorder {answered' : List ℕ} (h : Accounted answered waiting received)
    (hperm : answered.Perm answered') : Accounted answered' waiting received := by
  intro id
  rw [← hperm.count_eq]
  exact h id

/-- Waiting requests are answered. -/
lemma answerAll {ids : List ℕ} (h : Accounted answered (ids ++ waiting) received) :
    Accounted (answered ++ ids) waiting received := by
  intro id
  have hcount := h id
  rw [count_append] at hcount ⊢
  omega

/-- A waiting request is answered. -/
lemma answer (h : Accounted answered (id :: waiting) received) :
    Accounted (answered ++ [id]) waiting received :=
  @answerAll _ _ _ [id] h

/-- A new request is answered at once. -/
lemma answerNew (h : Accounted answered waiting received) :
    Accounted (answered ++ [received]) waiting (received + 1) := h.receive.answer

end Accounted

end Phonelets.Requests
