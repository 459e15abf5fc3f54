import Mathlib.Tactic.Common

/-! # Hexadecimal strings

`encode_hex_own_buf` and `decode_hex_own_buf` of `util.c`.
-/

namespace Phonelets.Hex

def hexDigit (c : ℕ) : UInt8 := if c ≤ 9 then UInt8.ofNat (0x30 + c) else UInt8.ofNat (0x41 + c - 10)

/-- `encode_hex_own_buf`, without the terminating NUL. -/
def encodeHexOwnBuf (input : List UInt8) : List UInt8 :=
  input.flatMap fun b => [hexDigit (b.toNat >>> 4 &&& 0xf), hexDigit (b.toNat &&& 0xf)]

def toUpper (c : UInt8) : UInt8 := if 0x61 ≤ c ∧ c ≤ 0x7a then c - 0x20 else c

def hexValue (c : UInt8) : Option ℕ :=
  let c := toUpper c
  if 0x30 ≤ c ∧ c ≤ 0x39 then some (c.toNat - 0x30)
  else if 0x41 ≤ c ∧ c ≤ 0x46 then some (10 + c.toNat - 0x41)
  else none

/-- `decode_hex_own_buf` of a string; a last odd character is passed over. -/
def decodeHexOwnBuf : List UInt8 → Option (List UInt8)
  | a :: b :: l => do
      let high ← hexValue a
      let low ← hexValue b
      let r ← decodeHexOwnBuf l
      return UInt8.ofNat (high * 16 + low) :: r
  | _ => some []

lemma hexValue_hexDigit : ∀ c < 16, hexValue (hexDigit c) = some c := by
  decide

lemma nibbles (b : UInt8) : b.toNat >>> 4 &&& 0xf < 16 ∧ b.toNat &&& 0xf < 16 ∧
    UInt8.ofNat ((b.toNat >>> 4 &&& 0xf) * 16 + (b.toNat &&& 0xf)) = b := by
  have hb := b.toNat_lt
  have hlow : b.toNat &&& 0xf = b.toNat % 16 := Nat.and_two_pow_sub_one_eq_mod b.toNat 4
  have hhigh : b.toNat >>> 4 &&& 0xf = b.toNat / 16 % 16 := by
    rw [Nat.and_two_pow_sub_one_eq_mod (b.toNat >>> 4) 4, Nat.shiftRight_eq_div_pow]
  rw [hlow, hhigh]
  refine ⟨by omega, by omega, ?_⟩
  have hsum : b.toNat / 16 % 16 * 16 + b.toNat % 16 = b.toNat := by omega
  rw [hsum, UInt8.ofNat_toNat]

lemma encodeHexOwnBuf_length (l : List UInt8) : (encodeHexOwnBuf l).length = 2 * l.length := by
  induction l with
  | nil => rfl
  | cons b l ih =>
    simp only [encodeHexOwnBuf, List.flatMap_cons, List.length_append, List.length_cons,
      List.length_nil] at ih ⊢
    omega

lemma decodeHexOwnBuf_encodeHexOwnBuf (l : List UInt8) :
    decodeHexOwnBuf (encodeHexOwnBuf l) = some l := by
  induction l with
  | nil => rfl
  | cons b l ih =>
    rcases nibbles b with ⟨hhigh, hlow, hb⟩
    have hcons : encodeHexOwnBuf (b :: l) = hexDigit (b.toNat >>> 4 &&& 0xf) ::
        hexDigit (b.toNat &&& 0xf) :: encodeHexOwnBuf l := rfl
    rw [hcons, decodeHexOwnBuf, hexValue_hexDigit _ hhigh, hexValue_hexDigit _ hlow, ih]
    show some (UInt8.ofNat ((b.toNat >>> 4 &&& 0xf) * 16 + (b.toNat &&& 0xf)) :: l) = some (b :: l)
    rw [hb]

end Phonelets.Hex
