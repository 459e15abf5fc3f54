import Mathlib.Data.List.Basic

/-! # Streams with flags

A stream of symbols in which flags end frames: what stands between the flags, and what has come since
the last of them.
-/

namespace Phonelets.Framing

variable {α : Type*} (isFlag : α → Bool)

/-- One more symbol: the frames that are complete, and the one that has begun. -/
def next (s : List (List α) × List α) (a : α) : List (List α) × List α :=
  if isFlag a then (s.1 ++ [s.2], []) else (s.1, s.2 ++ [a])

def split (w : List α) : List (List α) × List α := w.foldl (next isFlag) ([], [])

variable {isFlag}

lemma split_snoc (w : List α) (a : α) : split isFlag (w ++ [a]) = next isFlag (split isFlag w) a :=
  List.foldl_append

lemma split_snoc_flag {a : α} (h : isFlag a = true) (w : List α) :
    split isFlag (w ++ [a]) = ((split isFlag w).1 ++ [(split isFlag w).2], []) := by
  rw [split_snoc, next, if_pos h]

lemma split_snoc_other {a : α} (h : isFlag a ≠ true) (w : List α) :
    split isFlag (w ++ [a]) = ((split isFlag w).1, (split isFlag w).2 ++ [a]) := by
  rw [split_snoc, next, if_neg h]

end Phonelets.Framing
