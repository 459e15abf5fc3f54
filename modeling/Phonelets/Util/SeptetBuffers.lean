import Phonelets.Util.Septets

/-! # The buffers of packed septets

`pack_7bit` and `unpack_7bit` allocate a buffer for the functions that work on one. Where these
store an octet is kept beside what they store.
-/

namespace Phonelets.Septets

open List

/-- The size of the buffer that `pack_7bit` allocates. -/
def pack7bitSize (input : List UInt8) (byteOffset : ℕ) (ussd : Bool) : ℕ :=
  let bits := 7 - byteOffset % 7
  let totalBits := input.length * 7 + if bits ≠ 7 then bits else 0
  if ussd && totalBits % 8 == 0 && input.getLast? == some 0x0d then (totalBits + 14) / 8
  else (totalBits + 7) / 8

/-- The size of the buffer that `unpack_7bit` allocates for `len` octets. -/
def unpack7bitSize (len : ℕ) (terminator : UInt8) : ℕ :=
  len * 8 / 7 + if terminator ≠ 0 then 1 else 0

/-- Where the loop of `pack_7bit_own_buf` stores, with `out` at `pos`. -/
def packLoopStores (pos bits : ℕ) : List UInt8 → List ℕ
  | [] => []
  | _ :: l =>
    let next := if bits ≠ 7 then pos + 1 else pos
    (if bits ≠ 7 then [pos] else []) ++ (if bits ≠ 0 then [next] else []) ++
      packLoopStores next (if bits = 0 then 7 else bits - 1) l

/-- Where `pack_7bit_own_buf` stores without `ussd`. -/
def packStores (input : List UInt8) (byteOffset : ℕ) : List ℕ :=
  let bits := 7 - byteOffset % 7
  (if bits ≠ 7 then [0] else []) ++ packLoopStores 0 (if bits ≠ 7 then bits - 1 else bits) input

/-- Where the loop of `unpack_7bit_own_buf` stores for `len` more octets, with `out` at `pos`. -/
def unpackLoopStores (maxToUnpack : ℕ) : Bool → ℕ → ℕ → ℕ → List ℕ
  | _, _, _, 0 => []
  | first, bits, pos, len + 1 =>
    if pos < maxToUnpack then
      let next := if !first || bits == 7 then pos + 1 else pos
      if next = maxToUnpack then [pos]
      else if bits = 1 then pos :: next :: unpackLoopStores maxToUnpack false 7 (next + 1) len
      else pos :: unpackLoopStores maxToUnpack false (bits - 1) next len
    else []

/-- Where `unpack_7bit_own_buf` stores without `ussd`; the terminator comes behind what is
unpacked. -/
def unpackStores (input : List UInt8) (byteOffset maxToUnpack : ℕ) (terminator : UInt8) : List ℕ :=
  unpackLoopStores maxToUnpack true (7 - byteOffset % 7) 0 input.length ++
    if terminator ≠ 0 then
      [(unpack7bitLoop maxToUnpack true (7 - byteOffset % 7) 0 [] input).length]
    else []

/-- Every store is in an octet that holds a bit of the septets or of the fill. -/
lemma packLoopStores_lt (l : List UInt8) : ∀ {pos bits size : ℕ}, bits ≤ 7 → 8 * pos + usedBits
    bits + 7 * l.length ≤ 8 * size → ∀ i ∈ packLoopStores pos bits l, i < size := by
  induction l with
  | nil =>
    intro pos bits size _ _ i hi
    cases hi
  | cons c l ih =>
    intro pos bits size hbits hsize i hi
    rw [length_cons] at hsize
    unfold usedBits at hsize
    rw [packLoopStores, mem_append, mem_append] at hi
    rcases hi with (hi | hi) | hi
    · split_ifs at hi hsize <;> simp at hi
      omega
    · split_ifs at hi hsize <;> simp at hi <;> omega
    · refine ih ?_ ?_ i hi
      · split_ifs <;> omega
      · unfold usedBits
        split_ifs at hsize ⊢ <;> omega

lemma unpackLoopStores_lt (maxToUnpack : ℕ) (len : ℕ) : ∀ {first : Bool} {bits pos : ℕ}, ∀ i ∈
    unpackLoopStores maxToUnpack first bits pos len, i < maxToUnpack := by
  induction len with
  | zero =>
    intro first bits pos i hi
    rw [unpackLoopStores] at hi
    cases hi
  | succ len ih =>
    intro first bits pos i hi
    rw [unpackLoopStores] at hi
    dsimp only at hi
    by_cases hpos : pos < maxToUnpack
    · rw [if_pos hpos] at hi
      have hnext : (if !first || bits == 7 then pos + 1 else pos) ≤ maxToUnpack := by
        split <;> omega
      generalize (if !first || bits == 7 then pos + 1 else pos) = next at hi hnext
      split_ifs at hi with hlast hone
      · rw [mem_singleton.mp hi]
        exact hpos
      · rcases mem_cons.mp hi with rfl | hi
        · exact hpos
        · rcases mem_cons.mp hi with rfl | hi
          · omega
          · exact ih i hi
      · rcases mem_cons.mp hi with rfl | hi
        · exact hpos
        · exact ih i hi
    · rw [if_neg hpos] at hi
      cases hi

/-- Septets that are packed come back, and both functions store in the buffers allocated for them
only. -/
theorem pack_unpack_in_buffers {l : List UInt8} (hl : ∀ c ∈ l, c < 128) (hne : l ≠ []) (byteOffset :
    ℕ) (terminator : UInt8) : ∃ out, pack7bitOwnBuf l byteOffset false = some out ∧ out.length =
    (7 * l.length + fillBits byteOffset + 7) / 8 ∧ unpack7bitOwnBuf out byteOffset false l.length =
    some l ∧ (∀ i ∈ packStores l byteOffset, i < pack7bitSize l byteOffset false) ∧ ∀ i ∈
    unpackStores out byteOffset l.length terminator, i < unpack7bitSize out.length terminator := by
  rcases unpack_pack hl hne byteOffset with ⟨out, hout, hlen, hback⟩
  have hpos := length_pos_iff.mpr hne
  refine ⟨out, hout, by rw [hlen]; omega, hback, ?_, ?_⟩
  · -- the fill bits are the low bits of the first octet
    have hsize : pack7bitSize l byteOffset false =
        (l.length * 7 + (if 7 - byteOffset % 7 ≠ 7 then 7 - byteOffset % 7 else 0) + 7) / 8 := rfl
    intro i hi
    rw [packStores, mem_append] at hi
    rw [hsize]
    rcases hi with hi | hi
    · split_ifs at hi ⊢ <;> simp at hi
      omega
    · refine packLoopStores_lt l ?_ ?_ i hi
      · split_ifs <;> omega
      · unfold usedBits
        split_ifs <;> omega
  · have hroom : l.length ≤ out.length * 8 / 7 := by
      rw [hlen]
      omega
    have hitems : (unpack7bitLoop l.length true (7 - byteOffset % 7) 0 [] out).length = l.length := by
      unfold unpack7bitOwnBuf at hback
      split at hback
      · cases hback
      · exact congrArg List.length (Option.some.inj hback)
    intro i hi
    rw [unpackStores, mem_append, hitems] at hi
    unfold unpack7bitSize
    rcases hi with hi | hi
    · have hlt := unpackLoopStores_lt l.length out.length i hi
      omega
    · split_ifs at hi ⊢ <;> simp at hi
      omega

/-- Three septets behind two octets: the fill and 21 bits are in four octets. -/
theorem pack_unpack_in_buffers_three : (∀ c ∈ ([0x41, 0x42, 0x0d] : List UInt8), c < 128) ∧
    ∃ out, pack7bitOwnBuf [0x41, 0x42, 0x0d] 2 false = some out ∧ out.length =
    (7 * 3 + fillBits 2 + 7) / 8 ∧ unpack7bitOwnBuf out 2 false 3 = some [0x41, 0x42, 0x0d] ∧
    (∀ i ∈ packStores [0x41, 0x42, 0x0d] 2, i < pack7bitSize [0x41, 0x42, 0x0d] 2 false) ∧
    ∀ i ∈ unpackStores out 2 3 0, i < unpack7bitSize out.length 0 :=
  ⟨by simp, pack_unpack_in_buffers (by simp) (by simp) 2 0⟩

end Phonelets.Septets
