import Mathlib.Data.List.Basic
import Mathlib.Tactic.IntervalCases
import Mathlib.Tactic.Ring

/-! # Length fields

BER and comprehension TLVs write the length of a value in one octet up to 127, and
otherwise in an octet that counts the octets that follow, most significant first. The
two readers differ in how many octets they take and in the width of the variable they
collect them in.
-/

namespace Phonelets.Sim

open List

/-- The `k` low octets of a number, most significant first. -/
def bigEndian : ℕ → ℕ → List UInt8
  | 0, _ => []
  | k + 1, n => UInt8.ofNat (n >>> (8 * k)) :: bigEndian k n

/-- The loop `len = (len << 8) | *pdu++` in a variable of `width` bits. -/
def collect (width : ℕ) (os : List UInt8) : ℕ :=
  os.foldl (fun len b => (len <<< 8 ||| b.toNat) % 2 ^ width) 0

/-- `BTLV_LEN_FIELD_SIZE_NEEDED`. -/
def lenFieldSizeNeeded (a : ℕ) : ℕ :=
  if a ≤ 0x7f then 1 else if a ≤ 0xff then 2 else if a ≤ 0xffff then 3
  else if a ≤ 0xffffff then 4 else 5

/-- The octets of a length field as both builders write it. -/
def lengthOctets (len : ℕ) : List UInt8 :=
  if lenFieldSizeNeeded len > 1 then
    UInt8.ofNat (0x80 + lenFieldSizeNeeded len - 1) :: bigEndian (lenFieldSizeNeeded len - 1) len
  else [UInt8.ofNat len]

/-- The length field as both iterators read it, with what follows it. -/
def readLength (maxExtended width : ℕ) : List UInt8 → Option (ℕ × List UInt8)
  | [] => none
  | b :: rest =>
    if b.toNat ≥ 0x80 then
      let extendedBytes := b.toNat - 0x80
      if extendedBytes = 0 ∨ extendedBytes > maxExtended then none
      else if rest.length < extendedBytes then none
      else if rest.head? = some 0 then none
      else some (collect width (rest.take extendedBytes), rest.drop extendedBytes)
    else some (b.toNat, rest)

variable {width len : ℕ}

lemma readLength_split {maxExtended : ℕ} {os rest : List UInt8} (h : readLength maxExtended width
    os = some (len, rest)) : ∃ field, field ≠ [] ∧ os = field ++ rest := by
  unfold readLength at h
  split at h
  · cases h
  · rename_i b tail
    dsimp only at h
    split at h
    · split at h
      · cases h
      · split at h
        · cases h
        · split at h
          · cases h
          · simp only [Option.some.injEq, Prod.mk.injEq] at h
            refine ⟨b :: tail.take (b.toNat - 0x80), cons_ne_nil _ _, ?_⟩
            rw [← h.2, cons_append, take_append_drop]
    · simp only [Option.some.injEq, Prod.mk.injEq] at h
      exact ⟨[b], cons_ne_nil _ _, by rw [← h.2, singleton_append]⟩

/-- A TLV in front of what is left: padding, the fields of its tag and its length, and the value. -/
def Framed (os value rest : List UInt8) : Prop :=
  ∃ padding tagField lengthField, tagField ≠ [] ∧ lengthField ≠ [] ∧
    os = padding ++ (tagField ++ (lengthField ++ (value ++ rest)))

lemma Framed.shorter {os value rest : List UInt8} (h : Framed os value rest) :
    rest.length < os.length := by
  obtain ⟨padding, tagField, lengthField, htag, -, rfl⟩ := h
  have hpos := length_pos_iff.mpr htag
  simp only [length_append]
  omega

/-! ## What is written is read -/

@[simp] lemma length_bigEndian (k n : ℕ) : (bigEndian k n).length = k := by
  induction k with
  | zero => rfl
  | succ k ih => rw [bigEndian, length_cons, ih]

lemma lenFieldSizeNeeded_pos (a : ℕ) : 1 ≤ lenFieldSizeNeeded a := by
  unfold lenFieldSizeNeeded
  split_ifs <;> omega

lemma lenFieldSizeNeeded_le (a : ℕ) : lenFieldSizeNeeded a ≤ 5 := by
  unfold lenFieldSizeNeeded
  split_ifs <;> omega

@[simp] lemma length_lengthOctets (len : ℕ) : (lengthOctets len).length = lenFieldSizeNeeded len := by
  have hpos := lenFieldSizeNeeded_pos len
  unfold lengthOctets
  split_ifs with h
  · rw [length_cons, length_bigEndian]
    omega
  · rw [length_singleton]
    omega

lemma lengthOctets_short (h : len ≤ 0x7f) : lengthOctets len = [UInt8.ofNat len] := by
  have hsize : lenFieldSizeNeeded len = 1 := if_pos h
  rw [lengthOctets, hsize]
  rfl

lemma lenFieldSizeNeeded_long (h : 0x7f < len) (hlt : len < 2 ^ 32) : ∃ k,
    lenFieldSizeNeeded len = k + 2 ∧ k < 4 ∧ len < 256 ^ (k + 1) ∧ (0 < k → 256 ^ k ≤ len) := by
  unfold lenFieldSizeNeeded
  rw [if_neg (by omega)]
  split_ifs with h₁ h₂ h₃
  · exact ⟨0, rfl, by omega, by omega, by omega⟩
  · exact ⟨1, rfl, by omega, by omega, by omega⟩
  · exact ⟨2, rfl, by omega, by omega, by omega⟩
  · exact ⟨3, rfl, by omega, by omega, by omega⟩

lemma lengthOctets_long {k : ℕ} (h : lenFieldSizeNeeded len = k + 2) :
    lengthOctets len = UInt8.ofNat (0x80 + (k + 1)) :: bigEndian (k + 1) len := by
  rw [lengthOctets, h, if_pos (by omega)]
  congr 1

lemma collect_append (width : ℕ) (os : List UInt8) (b : UInt8) :
    collect width (os ++ [b]) = (collect width os <<< 8 ||| b.toNat) % 2 ^ width := by
  rw [collect, foldl_append]
  rfl

lemma bigEndian_succ_append (k n : ℕ) :
    bigEndian (k + 1) n = bigEndian k (n / 256) ++ [UInt8.ofNat n] := by
  induction k with
  | zero => simp [bigEndian]
  | succ k ih =>
    rw [bigEndian, ih, bigEndian, cons_append]
    congr 2
    rw [Nat.shiftRight_eq_div_pow, Nat.shiftRight_eq_div_pow, Nat.div_div_eq_div_mul]
    congr 1
    rw [show 8 * (k + 1) = 8 + 8 * k by ring, Nat.pow_add]

lemma shift_or (n : ℕ) (b : UInt8) : n <<< 8 ||| b.toNat = n * 256 + b.toNat := by
  rw [← Nat.shiftLeft_add_eq_or_of_lt b.toNat_lt, Nat.shiftLeft_eq]

lemma collect_bigEndian {k n : ℕ} (hn : n < 256 ^ k) (hw : n < 2 ^ width) :
    collect width (bigEndian k n) = n := by
  induction k generalizing n with
  | zero =>
    have hzero : n = 0 := by omega
    rw [hzero]
    rfl
  | succ k ih =>
    rw [Nat.pow_succ] at hn
    have hdiv : n / 256 < 256 ^ k := Nat.div_lt_of_lt_mul (by omega)
    rw [bigEndian_succ_append, collect_append, ih hdiv (by omega), shift_or, UInt8.toNat_ofNat',
      show n / 256 * 256 + n % 2 ^ 8 = n by omega, Nat.mod_eq_of_lt hw]

/-- A reader gets back the length that was written if its variable and the number of
octets it takes are large enough. -/
lemma readLength_lengthOctets {maxExtended : ℕ} (hlt : len < 2 ^ 32)
    (hext : lenFieldSizeNeeded len ≤ maxExtended + 1) (hw : len < 2 ^ width) (rest : List UInt8) :
    readLength maxExtended width (lengthOctets len ++ rest) = some (len, rest) := by
  rcases Nat.lt_or_ge 0x7f len with hlong | hshort
  · rcases lenFieldSizeNeeded_long hlong hlt with ⟨k, hsize, hk, hbound, hleast⟩
    have htoNat : (UInt8.ofNat (0x80 + (k + 1))).toNat = 0x80 + (k + 1) := by
      rw [UInt8.toNat_ofNat']
      omega
    -- the first of the octets that follow is not zero, since no octet is spared
    have hhead : UInt8.ofNat (len >>> (8 * k)) ≠ 0 := by
      intro hzero
      have hval := congrArg UInt8.toNat hzero
      rw [UInt8.toNat_ofNat', Nat.shiftRight_eq_div_pow] at hval
      have hk' : k = 0 ∨ k = 1 ∨ k = 2 ∨ k = 3 := by omega
      rcases hk' with rfl | rfl | rfl | rfl
      · norm_num at hval hbound
        omega
      · have hl := hleast (by omega)
        norm_num at hval hbound hl
        omega
      · have hl := hleast (by omega)
        norm_num at hval hbound hl
        omega
      · have hl := hleast (by omega)
        norm_num at hval hbound hl
        omega
    rw [lengthOctets_long hsize, cons_append, readLength, htoNat, if_pos (by omega)]
    simp only [show 0x80 + (k + 1) - 0x80 = k + 1 by omega]
    rw [if_neg (by omega), if_neg (by rw [length_append, length_bigEndian]; omega), if_neg]
    · rw [take_left' (length_bigEndian _ _), drop_left' (length_bigEndian _ _),
        collect_bigEndian hbound hw]
    · rw [bigEndian, cons_append, head?_cons]
      simpa using hhead
  · have htoNat : (UInt8.ofNat len).toNat = len := by
      rw [UInt8.toNat_ofNat']
      omega
    rw [lengthOctets_short hshort, singleton_append, readLength, htoNat, if_neg (by omega)]

end Phonelets.Sim
