import Mathlib.Algebra.Order.Ring.Nat

/-! # Sets of numbers in words of bits

A bitmap of `n` words of `w` bits holds a set of numbers below `n * w`: number `i` is
bit `i % w` of word `i / w`. `rank` counts the members below a number the way a
loop over the words does it; `rank_eq` says that this is the plain count.
-/

namespace Phonelets

/-- `n` words of `w` bits. -/
abbrev Bitmap (w n : ℕ) := Vector (BitVec w) n

namespace Bitmap

variable {w n : ℕ}

/-- `word & (1 << k)`, as a condition. -/
def hasBit (word : BitVec w) (k : ℕ) : Bool := word &&& (1#w <<< k) != 0#w

/-- The word with the given index; there are none but zeros outside. -/
def word (b : Bitmap w n) (i : ℕ) : BitVec w := b[i]?.getD 0#w

/-- The number is in the set. -/
def test (b : Bitmap w n) (i : ℕ) : Bool := hasBit (b.word (i / w)) (i % w)

/-- `bitmap[offset] |= bit`. -/
def mark (b : Bitmap w n) (i : ℕ) : Bitmap w n :=
  b.setIfInBounds (i / w) (b.word (i / w) ||| 1#w <<< (i % w))

/-- `bitmap[offset] ^= bit`. -/
def toggle (b : Bitmap w n) (i : ℕ) : Bitmap w n :=
  b.setIfInBounds (i / w) (b.word (i / w) ^^^ 1#w <<< (i % w))

/-- `bitmap[offset] &= ~bit`. -/
def clear (b : Bitmap w n) (i : ℕ) : Bitmap w n :=
  b.setIfInBounds (i / w) (b.word (i / w) &&& ~~~(1#w <<< (i % w)))

/-- The first number from `lo` on that is not in the set, or `hi` if there is none below. -/
structure FirstClear (b : Bitmap w n) (lo hi r : ℕ) : Prop where
  lo_le : lo ≤ r
  le_hi : r ≤ hi
  before : ∀ j, lo ≤ j → j < r → b.test j = true
  clear : r < hi → b.test r = false

/-- Some word is not zero. -/
def pending (b : Bitmap w n) : Bool := b.toList.any (· != 0#w)

def empty : Bitmap w n := Vector.replicate n 0#w

/-- The members below `i`: all bits of the words before its own, then the bits of
its own word before its own. -/
def rank (b : Bitmap w n) (i : ℕ) : ℕ :=
  ((List.range (i / w)).map fun q => (List.range w).countP fun k => hasBit (b.word q) k).sum +
    (List.range (i % w)).countP fun k => hasBit (b.word (i / w)) k

lemma hasBit_eq (word : BitVec w) {k : ℕ} (hk : k < w) : hasBit word k = word.getLsbD k := by
  have hmask : ∀ i, (word &&& (1#w <<< k)).getLsbD i = (word.getLsbD i && decide (i = k)) := by
    intro i
    have hshift : (1#w <<< k).getLsbD i = decide (i = k) := by
      rw [← BitVec.twoPow_eq, BitVec.getLsbD_twoPow]
      by_cases hik : i = k
      · simp [hik, hk]
      · simp [hik, Ne.symm hik]
    rw [BitVec.getLsbD_and, hshift]
  unfold hasBit
  cases hbit : word.getLsbD k with
  | true =>
    rw [bne_iff_ne]
    intro hzero
    have hk' := hmask k
    rw [hzero, hbit] at hk'
    simp at hk'
  | false =>
    have hzero : word &&& (1#w <<< k) = 0#w := by
      apply BitVec.eq_of_getLsbD_eq
      intro i _
      rw [hmask i]
      by_cases hik : i = k
      · simp [hik, hbit]
      · simp [hik]
    simp [hzero]

@[simp] lemma test_empty (i : ℕ) : (empty : Bitmap w n).test i = false := by
  have hword : (empty : Bitmap w n).word (i / w) = 0#w := by
    unfold empty word
    rw [Vector.getElem?_replicate]
    split <;> rfl
  simp [test, hword, hasBit]

open List

variable {i : ℕ}

lemma word_mark_self (b : Bitmap w n) (h : i / w < n) :
    (b.mark i).word (i / w) = b.word (i / w) ||| 1#w <<< (i % w) := by
  simp [mark, word, h]

lemma word_mark_of_ne (b : Bitmap w n) {q : ℕ} (h : i / w ≠ q) : (b.mark i).word q = b.word q := by
  simp [mark, word, h]

variable {i : ℕ}

lemma pos_of_lt (hi : i < n * w) : 0 < w := by
  rcases Nat.eq_zero_or_pos w with h | h
  · simp [h] at hi
  · exact h

lemma div_lt_of_lt (hi : i < n * w) : i / w < n :=
  Nat.div_lt_of_lt_mul (by rwa [Nat.mul_comm] at hi)

/-- Two numbers with the same word differ in their bits. -/
lemma mod_ne_of_ne {j : ℕ} (hq : i / w = j / w) (hji : j ≠ i) : i % w ≠ j % w := by
  intro hmod
  apply hji
  rw [← Nat.div_add_mod j w, ← Nat.div_add_mod i w, hq, hmod]

/-- `mark` adds one number and no other. -/
lemma test_mark (b : Bitmap w n) (hi : i < n * w) (j : ℕ) :
    (b.mark i).test j = (decide (j = i) || b.test j) := by
  have hw := pos_of_lt hi
  have hmod : j % w < w := Nat.mod_lt j hw
  unfold test
  by_cases hq : i / w = j / w
  · rw [← hq, word_mark_self b (div_lt_of_lt hi), hasBit_eq _ hmod, hasBit_eq _ hmod,
      BitVec.getLsbD_or, ← BitVec.twoPow_eq, BitVec.getLsbD_twoPow]
    by_cases hji : j = i
    · simp [hji, Nat.mod_lt i hw]
    · simp [hji, mod_ne_of_ne hq hji]
  · have hji : j ≠ i := by
      rintro rfl
      exact hq rfl
    rw [word_mark_of_ne b hq]
    simp [hji]

/-- `clear` takes one number out and no other. -/
lemma test_clear (b : Bitmap w n) (hi : i < n * w) (j : ℕ) :
    (b.clear i).test j = (!decide (j = i) && b.test j) := by
  have hw := pos_of_lt hi
  have hdiv := div_lt_of_lt hi
  have hmod : j % w < w := Nat.mod_lt j hw
  unfold test
  by_cases hq : i / w = j / w
  · have hword : (b.clear i).word (i / w) = b.word (i / w) &&& ~~~(1#w <<< (i % w)) := by
      simp [clear, word, hdiv]
    rw [← hq, hword, hasBit_eq _ hmod, hasBit_eq _ hmod, BitVec.getLsbD_and, BitVec.getLsbD_not,
      ← BitVec.twoPow_eq, BitVec.getLsbD_twoPow]
    by_cases hji : j = i
    · simp [hji, Nat.mod_lt i hw]
    · simp [hji, mod_ne_of_ne hq hji, hmod]
  · have hji : j ≠ i := by
      rintro rfl
      exact hq rfl
    have hword : (b.clear i).word (j / w) = b.word (j / w) := by
      simp [clear, word, hq]
    rw [hword]
    simp [hji]

/-- `toggle` takes a member out and adds a number that is none. -/
lemma test_toggle (b : Bitmap w n) (hi : i < n * w) (j : ℕ) :
    (b.toggle i).test j = (decide (j = i) ^^ b.test j) := by
  have hw := pos_of_lt hi
  have hdiv := div_lt_of_lt hi
  have hmod : j % w < w := Nat.mod_lt j hw
  unfold test
  by_cases hq : i / w = j / w
  · have hword : (b.toggle i).word (i / w) = b.word (i / w) ^^^ 1#w <<< (i % w) := by
      simp [toggle, word, hdiv]
    rw [← hq, hword, hasBit_eq _ hmod, hasBit_eq _ hmod, BitVec.getLsbD_xor, ← BitVec.twoPow_eq,
      BitVec.getLsbD_twoPow]
    by_cases hji : j = i
    · simp [hji, Nat.mod_lt i hw]
    · simp [hji, mod_ne_of_ne hq hji]
  · have hji : j ≠ i := by
      rintro rfl
      exact hq rfl
    have hword : (b.toggle i).word (j / w) = b.word (j / w) := by
      simp [toggle, word, hq]
    rw [hword]
    simp [hji]

/-- Some word is not zero when the set has a member. -/
lemma pending_iff (b : Bitmap w n) : b.pending = true ↔ ∃ i, i < n * w ∧ b.test i = true := by
  unfold pending
  rw [any_eq_true]
  constructor
  · rintro ⟨x, hx, hne⟩
    rcases getElem_of_mem hx with ⟨q, hq, rfl⟩
    have hqn : q < n := by simpa using hq
    have hbit : ∃ k, k < w ∧ (b.toList[q]).getLsbD k = true := by
      by_contra hall
      push Not at hall
      apply bne_iff_ne.mp hne
      apply BitVec.eq_of_getLsbD_eq
      intro k hk
      simpa using hall k hk
    rcases hbit with ⟨k, hk, hset⟩
    refine ⟨q * w + k, ?_, ?_⟩
    · calc q * w + k < q * w + w := by omega
        _ = (q + 1) * w := (Nat.succ_mul q w).symm
        _ ≤ n * w := Nat.mul_le_mul_right w hqn
    · have hdivq : (q * w + k) / w = q := by
        rw [Nat.mul_comm, Nat.mul_add_div (by omega), Nat.div_eq_of_lt hk, Nat.add_zero]
      have hmodk : (q * w + k) % w = k := by
        rw [Nat.mul_comm, Nat.mul_add_mod, Nat.mod_eq_of_lt hk]
      unfold test
      rw [hdivq, hmodk, hasBit_eq _ hk]
      simpa [word, hqn] using hset
  · rintro ⟨i, hi, htest⟩
    have hdiv := div_lt_of_lt hi
    refine ⟨b.word (i / w), ?_, ?_⟩
    · simp [word, hdiv]
    · rw [bne_iff_ne]
      intro hzero
      unfold test at htest
      rw [hzero] at htest
      simp [hasBit] at htest

/-- Counting the bits word by word is counting the members. -/
lemma countP_test_mul (b : Bitmap w n) (q : ℕ) : (List.range (q * w)).countP b.test =
    ((List.range q).map fun q => (List.range w).countP fun k => hasBit (b.word q) k).sum := by
  induction q with
  | zero => simp
  | succ q ih =>
    have hword : ∀ k ∈ List.range w, b.test (q * w + k) = hasBit (b.word q) k := by
      intro k hk
      have hlt := mem_range.mp hk
      unfold test
      rw [Nat.mul_comm, Nat.mul_add_div (by omega), Nat.div_eq_of_lt hlt, Nat.mul_add_mod,
        Nat.mod_eq_of_lt hlt, Nat.add_zero]
    rw [Nat.succ_mul, range_add, countP_append, ih, countP_map, range_succ, map_append, sum_append]
    congr 1
    simp only [map_cons, map_nil, sum_cons, sum_nil, Nat.add_zero]
    apply countP_congr
    intro k hk
    rw [Function.comp_apply, hword k hk]

lemma rank_eq (b : Bitmap w n) (i : ℕ) : b.rank i = (List.range i).countP b.test := by
  have hsplit : i = i / w * w + i % w := by
    rw [Nat.mul_comm]
    exact (Nat.div_add_mod i w).symm
  have hrest : ∀ k ∈ List.range (i % w), b.test (i / w * w + k) = hasBit (b.word (i / w)) k := by
    intro k hk
    have hki := mem_range.mp hk
    rcases Nat.eq_zero_or_pos w with hw | hw
    · subst hw
      simp [test]
    · have hlt : k < w := Nat.lt_trans hki (Nat.mod_lt i hw)
      unfold test
      rw [Nat.mul_comm, Nat.mul_add_div hw, Nat.div_eq_of_lt hlt, Nat.mul_add_mod,
        Nat.mod_eq_of_lt hlt, Nat.add_zero]
  conv_rhs => rw [hsplit]
  rw [range_add, countP_append, countP_test_mul, countP_map]
  unfold rank
  congr 1
  apply countP_congr
  intro k hk
  rw [Function.comp_apply, hrest k hk]

end Bitmap

end Phonelets
