import Mathlib.Tactic.Ring

/-! # Bit fields over octets

A string of octets as a string of bits, the most significant bit of each octet first. A field
is some consecutive bits as a number, and need not begin or end at an octet.
-/

namespace Phonelets.BitFields

open Option

/-- Bit `q`. -/
def bitAt (l : List UInt8) (q : ℕ) : Option ℕ := l[q / 8]?.map fun o => o.toNat >>> (7 - q % 8) &&& 1

/-- The number in the `n` bits from `q` on. -/
def field (l : List UInt8) : ℕ → ℕ → Option ℕ
  | _, 0 => some 0
  | q, n + 1 => do
      let b ← bitAt l q
      let low ← field l (q + 1) n
      return b * 2 ^ n + low

variable {l : List UInt8} {q n b v : ℕ}

lemma bitAt_lt (h : bitAt l q = some b) : b < 2 := by
  obtain ⟨o, -, rfl⟩ := map_eq_some_iff.mp h
  have hmod : ∀ x, x &&& 1 = x % 2 := fun x => Nat.and_two_pow_sub_one_eq_mod x 1
  rw [hmod]
  exact Nat.mod_lt _ Nat.two_pos

lemma bitAt_isSome_iff : (bitAt l q).isSome ↔ q < 8 * l.length := by
  rw [bitAt, isSome_map, isSome_iff_ne_none, ne_eq, List.getElem?_eq_none_iff]
  omega

@[simp] lemma field_zero : field l q 0 = some 0 := rfl

lemma field_succ : field l q (n + 1) =
    (bitAt l q).bind fun b => (field l (q + 1) n).map fun low => b * 2 ^ n + low := by
  rw [field]
  cases bitAt l q with
  | none => rfl
  | some b => cases field l (q + 1) n <;> rfl

/-- There is a field where all its bits are. -/
lemma field_isSome_iff (hn : 0 < n) : (field l q n).isSome ↔ q + n ≤ 8 * l.length := by
  induction n generalizing q with
  | zero => exact absurd hn (lt_irrefl 0)
  | succ n ih =>
    rw [field_succ]
    rcases Nat.eq_zero_or_pos n with rfl | hpos
    · simp only [field_zero, map_some, isSome_bind, isSome_some, any_true, bitAt_isSome_iff]
      omega
    · have hrest := ih (q := q + 1) hpos
      simp only [isSome_bind, isSome_map]
      have hbit := bitAt_isSome_iff (l := l) (q := q)
      cases hb : bitAt l q with
      | none =>
        simp only [hb, isSome_none, Bool.false_eq_true, false_iff] at hbit
        simp only [any_none, Bool.false_eq_true, false_iff]
        omega
      | some b =>
        simp only [any_some, hrest]
        omega

end Phonelets.BitFields
