import Mathlib.Data.List.TakeWhile
import Mathlib.Tactic.Common

/-! # Fields

A text of fields with separators between them, in which quotes and nested lists hide the separators.
`passed` counts the open lists; a parser that calls itself for a list is compared with it by
`passed_list`.
-/

namespace Phonelets.Fields

/-- The characters that open and close a list, and the one around a quoted text. -/
structure Marks (α : Type*) where
  opening : α
  closing : α
  quote : α

variable {α : Type*} [DecidableEq α] {m : Marks α} {stop stop' : α → Bool}

/-- How much is passed until a character stops that stands in no list and in no quotes; `depth` lists
are open, and where none is a closing character is like any other. -/
@[grind] def passed (m : Marks α) (stop : α → Bool) : ℕ → Bool → List α → ℕ
  | _, _, [] => 0
  | depth, true, c :: cs => passed m stop depth (decide (c ≠ m.quote)) cs + 1
  | 0, false, c :: cs =>
    if stop c then 0
    else if c = m.quote then passed m stop 0 true cs + 1
    else if c = m.opening then passed m stop 1 false cs + 1
    else passed m stop 0 false cs + 1
  | depth + 1, false, c :: cs =>
    if c = m.closing then passed m stop depth false cs + 1
    else if c = m.quote then passed m stop (depth + 1) true cs + 1
    else if c = m.opening then passed m stop (depth + 2) false cs + 1
    else passed m stop (depth + 1) false cs + 1

/-- What is left behind a character that has been found, if it has been found. -/
def behind (f : List α → ℕ) (l : List α) (k : ℕ) : ℕ := if k < l.length then f (l.drop (k + 1)) + 1 else 0

omit [DecidableEq α] in
lemma behind_cons (f : List α → ℕ) (c : α) (l : List α) (k : ℕ) :
    behind f (c :: l) (k + 1) = behind f l k := by
  rw [behind, behind, List.length_cons, List.drop_succ_cons]
  exact if_congr (Nat.succ_lt_succ_iff) rfl rfl

lemma passed_nil (m : Marks α) (stop : α → Bool) (depth : ℕ) (quoted : Bool) :
    passed m stop depth quoted [] = 0 := by
  rw [passed]

lemma passed_le (m : Marks α) (stop : α → Bool) (depth : ℕ) (quoted : Bool) (l : List α) :
    passed m stop depth quoted l ≤ l.length := by
  fun_induction passed m stop depth quoted l with
  | case1 => exact Nat.le_refl _
  | case3 => exact Nat.zero_le _
  | _ => rw [List.length_cons]; omega

/-- A quoted text is passed up to its end and then the rest. -/
lemma passed_quoted (m : Marks α) (stop : α → Bool) (depth : ℕ) (l : List α) :
    passed m stop depth true l = (l.takeWhile (· ≠ m.quote)).length +
      behind (passed m stop depth false) l (l.takeWhile (· ≠ m.quote)).length := by
  induction l with
  | nil => rw [passed_nil]; rfl
  | cons c cs ih =>
    rw [passed]
    by_cases hquote : c = m.quote
    · rw [decide_eq_false (not_not_intro hquote), List.takeWhile_cons_of_neg (by simpa using hquote)]
      exact (Nat.zero_add _).symm
    · rw [decide_eq_true hquote, List.takeWhile_cons_of_pos (by simpa using hquote), List.length_cons,
        behind_cons, ih]
      omega

/-- The lists that are open inside of one are closed before it is. -/
lemma passed_inside (m : Marks α) (stop : α → Bool) (depth inner : ℕ) (quoted : Bool) (l : List α) :
    passed m stop (depth + 1 + inner) quoted l = passed m (· = m.closing) inner quoted l +
      behind (passed m stop depth false) l (passed m (· = m.closing) inner quoted l) := by
  induction l generalizing inner quoted with
  | nil =>
    rw [passed_nil, passed_nil]
    rfl
  | cons c cs ih =>
    have hstep (inner : ℕ) (quoted : Bool) :
        passed m stop (depth + 1 + inner) quoted cs + 1 =
          passed m (· = m.closing) inner quoted cs + 1 + behind (passed m stop depth false) (c :: cs)
            (passed m (· = m.closing) inner quoted cs + 1) := by
      rw [ih, behind_cons]
      omega
    cases quoted with
    | true =>
      rw [passed, passed]
      exact hstep inner _
    | false =>
      cases inner with
      | zero =>
        rw [passed, passed]
        by_cases hclosing : c = m.closing
        · -- the list that was open first ends here
          rw [if_pos hclosing, if_pos (decide_eq_true hclosing)]
          exact (Nat.zero_add _).symm
        · have hstop : ¬ decide (c = m.closing) = true := by simpa using hclosing
          rw [if_neg hclosing, if_neg hstop]
          split_ifs
          · exact hstep 0 true
          · exact hstep 1 false
          · exact hstep 0 false
      | succ inner =>
        rw [← Nat.add_assoc, passed, passed]
        split_ifs
        · exact hstep inner false
        · exact hstep (inner + 1) true
        · exact hstep (inner + 2) false
        · exact hstep (inner + 1) false

/-- A list is passed up to its end and then the rest. -/
lemma passed_list (m : Marks α) (stop : α → Bool) (depth : ℕ) (l : List α) :
    passed m stop (depth + 1) false l = passed m (· = m.closing) 0 false l +
      behind (passed m stop depth false) l (passed m (· = m.closing) 0 false l) :=
  passed_inside m stop depth 0 false l

/-- Nothing is passed where the first character stops, or there is none. -/
lemma stop_of_passed_eq_zero {c : α} {cs : List α} (h : passed m stop 0 false (c :: cs) = 0) :
    stop c = true := by
  by_contra hstop
  rw [passed, if_neg hstop] at h
  split_ifs at h

/-- Where more characters stop, the same is passed if it is one of the others that has stopped. -/
lemma passed_congr (hmore : ∀ c, stop c → stop' c) (depth : ℕ) (quoted : Bool) (l : List α)
    (h : ∀ c, l[passed m stop' depth quoted l]? = some c → stop' c → stop c) :
    passed m stop depth quoted l = passed m stop' depth quoted l := by
  induction l generalizing depth quoted with
  | nil => rw [passed_nil, passed_nil]
  | cons c cs ih =>
    have hstep (depth : ℕ) (quoted : Bool)
        (h : ∀ d, (c :: cs)[passed m stop' depth quoted cs + 1]? = some d → stop' d → stop d) :
        passed m stop depth quoted cs + 1 = passed m stop' depth quoted cs + 1 :=
      congrArg (· + 1) (ih depth quoted h)
    cases quoted with
    | true =>
      rw [passed] at h
      rw [passed, passed]
      exact hstep depth _ h
    | false =>
      cases depth with
      | zero =>
        rw [passed] at h
        rw [passed, passed]
        by_cases hstop : stop c
        · rw [if_pos hstop, if_pos (hmore c hstop)]
        · have hstop' : ¬ stop' c := by
            intro hc
            rw [if_pos hc] at h
            exact hstop (h c rfl hc)
          rw [if_neg hstop'] at h
          rw [if_neg hstop, if_neg hstop']
          split_ifs at h ⊢
          · exact hstep 0 true h
          · exact hstep 1 false h
          · exact hstep 0 false h
      | succ depth =>
        rw [passed] at h
        rw [passed, passed]
        split_ifs at h ⊢
        · exact hstep depth false h
        · exact hstep (depth + 1) true h
        · exact hstep (depth + 2) false h
        · exact hstep (depth + 1) false h

end Phonelets.Fields
