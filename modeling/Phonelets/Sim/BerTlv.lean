import Phonelets.Lib.Memory
import Phonelets.Sim.Tlv
import Phonelets.Sms.Address

/-! # BER-TLVs: builder and iterator

The builder reserves eight octets for every header and writes the header right-aligned
into them when the next element begins, with 0xff octets in front, which the iterator
skips. An element that is built inside another resizes it.
-/

namespace Phonelets.Sim

open List
open Phonelets.Sms (bitField)

/-! ## Data model -/

/-- `enum ber_tlv_data_type`. -/
inductive DataType
  | universal | application | contextSpecific | priv
  deriving DecidableEq

/-- `enum ber_tlv_data_encoding_type`. -/
inductive EncodingType
  | primitive | constructed
  deriving DecidableEq

def DataType.code : DataType → ℕ
  | .universal => 0
  | .application => 1
  | .contextSpecific => 2
  | .priv => 3

def DataType.ofBits : ℕ → DataType
  | 0 => .universal
  | 1 => .application
  | 2 => .contextSpecific
  | _ => .priv

def EncodingType.code : EncodingType → ℕ
  | .primitive => 0
  | .constructed => 1

def EncodingType.ofBits : ℕ → EncodingType
  | 0 => .primitive
  | _ => .constructed

/-- What an iterator holds about the TLV it stands on. -/
structure BerTlv where
  dataType : DataType
  encoding : EncodingType
  tag : ℕ
  value : List UInt8

/-- `struct ber_tlv_builder`; `pdu` is an address, and the parents stand in the state. -/
structure BerTlvBuilder where
  max : ℕ
  pos : ℕ
  pdu : ℕ
  tag : ℕ
  dataType : DataType
  encoding : EncodingType
  len : ℕ

/-! ## Iterator -/

/-- The octets of a tag above 30 that follow the first one. -/
def readTag (tag : ℕ) : List UInt8 → Option (ℕ × List UInt8)
  | [] => none
  | b :: rest =>
    if b.toNat &&& 0x80 ≠ 0 then readTag ((tag <<< 7 ||| b.toNat &&& 0x7f) % 2 ^ 32) rest
    else some ((tag <<< 7 ||| b.toNat) % 2 ^ 32, rest)

/-- The stuffing that `ber_tlv_iter_next` skips. -/
def isStuffing (b : UInt8) : Bool := b = 0x00 ∨ b = 0xff

/-- The tag number: in the first octet up to 30, otherwise in those that follow. -/
def readTagNumber (b : UInt8) (rest : List UInt8) : Option (ℕ × List UInt8) :=
  if bitField b 0 5 = 0x1f then
    match rest with
    | [] => none
    | c :: _ => if c.toNat &&& 0x7f = 0 then none else readTag 0 rest
  else some (bitField b 0 5, rest)

/-- `ber_tlv_iter_next` on the octets that are left, with those left after it. -/
def berTlvIterNext (os : List UInt8) : Option (BerTlv × List UInt8) :=
  match os.dropWhile isStuffing with
  | [] => none
  | b :: rest =>
    (readTagNumber b rest).bind fun (tag, rest) =>
      (readLength 4 32 rest).bind fun (len, rest) =>
        if rest.length < len then none
        else some (⟨DataType.ofBits (bitField b 6 2), EncodingType.ofBits (bitField b 5 1), tag,
          rest.take len⟩, rest.drop len)

/-! ## Builder -/

def maxBerTlvHeader : ℕ := 8

/-- `BTLV_TAG_FIELD_SIZE_NEEDED`. -/
def tagFieldSizeNeeded (a : ℕ) : ℕ := if a ≤ 0x1e then 1 else if a ≤ 0x7f then 2 else 3

/-- A builder with the builders it was created inside of, the innermost first, and the
memory that all of them write. -/
structure BerState where
  builder : BerTlvBuilder
  parents : List BerTlvBuilder
  mem : Memory

/-- `ber_tlv_builder_init` on a builder with any contents. -/
def berTlvBuilderInit (builder : BerTlvBuilder) (pdu size : ℕ) : Option BerTlvBuilder :=
  if size < maxBerTlvHeader then none
  else some { builder with pdu := pdu, pos := 0, max := size, tag := 0xff, len := 0 }

/-- The first octet of the tag field. -/
def firstTagOctet (dataType : DataType) (encoding : EncodingType) (tag : ℕ) : UInt8 :=
  UInt8.ofNat (dataType.code <<< 6 ||| encoding.code <<< 5 |||
    if tagFieldSizeNeeded tag = 1 then tag else 0x1f)

/-- The octets that `ber_tlv_builder_write_header` writes one behind the other. -/
def headerOctets (dataType : DataType) (encoding : EncodingType) (tag len : ℕ) : List UInt8 :=
  let tagSize := tagFieldSizeNeeded tag
  let lenSize := lenFieldSizeNeeded len
  List.replicate (maxBerTlvHeader - tagSize - lenSize) (0xff : UInt8) ++
    (firstTagOctet dataType encoding tag ::
      ((if tagSize = 3 then [UInt8.ofNat (0x80 ||| tag >>> 7)] else []) ++
        ((if tagSize > 2 then [UInt8.ofNat (tag &&& 0x7f)] else []) ++ lengthOctets len)))

def BerTlvBuilder.writeHeader (b : BerTlvBuilder) (mem : Memory) : Memory :=
  mem.write (b.pdu + b.pos) (headerOctets b.dataType b.encoding b.tag b.len)

/-- `ber_tlv_builder_set_length` as it calls itself on the parents; the result of such a
call is not looked at. -/
def resizeParents (newLen : ℕ) : List BerTlvBuilder → List BerTlvBuilder
  | [] => []
  | b :: parents =>
    let newPos := (b.pos + maxBerTlvHeader + newLen) % 2 ^ 32
    if newPos > b.max then b :: parents
    else { b with len := newLen } :: resizeParents newPos parents

namespace BerState

/-- `ber_tlv_builder_set_length`, nothing if it returns `FALSE`. -/
def setLength (newLen : ℕ) (s : BerState) : Option BerState :=
  let newPos := (s.builder.pos + maxBerTlvHeader + newLen) % 2 ^ 32
  if newPos > s.builder.max then none
  else some { s with
    builder := { s.builder with len := newLen }
    parents := resizeParents newPos s.parents }

/-- The element before is finished: its header is written and the position moves on. -/
def settle (s : BerState) : BerState :=
  if s.builder.tag ≠ 0xff then
    { s with
      mem := s.builder.writeHeader s.mem
      builder := { s.builder with
        pos := (s.builder.pos + (maxBerTlvHeader + s.builder.len)) % 2 ^ 32 } }
  else s

/-- `ber_tlv_builder_next`, nothing if it returns `FALSE`. -/
def next (dataType : DataType) (encoding : EncodingType) (newTag : ℕ) (s : BerState) :
    Option BerState :=
  (s.settle.setLength 0).map fun s =>
    { s with builder := { s.builder with dataType := dataType, encoding := encoding, tag := newTag } }

/-- `ber_tlv_builder_get_data`: an address. -/
def getData (s : BerState) : ℕ := s.builder.pdu + s.builder.pos + maxBerTlvHeader

/-- What the caller copies to `ber_tlv_builder_get_data`. -/
def fill (value : List UInt8) (s : BerState) : BerState :=
  { s with mem := s.mem.write s.getData value }

/-- `ber_tlv_builder_recurse` with a builder of any contents: it is the builder from now
on, inside the one before. -/
def recurse (uninit : BerTlvBuilder) (s : BerState) : Option BerState :=
  (berTlvBuilderInit uninit s.getData (s.builder.pdu + s.builder.max - s.getData)).map fun b =>
    ⟨b, s.builder :: s.parents, s.mem⟩

/-- The loop of `ber_tlv_builder_optimize` over the stuffing in front: the address and the
number of octets it leaves. Every header ends its stuffing inside its eight octets. -/
def skipStuffing (mem : Memory) : ℕ → ℕ → ℕ × ℕ
  | pdu, 0 => (pdu, 0)
  | pdu, len + 1 => if mem pdu = 0xff then skipStuffing mem (pdu + 1) len else (pdu, len + 1)

/-- `ber_tlv_builder_optimize`: the memory, `*out_pdu` and `*out_len`. -/
def optimize (s : BerState) : Memory × ℕ × ℕ :=
  let mem := s.builder.writeHeader s.mem
  (mem, skipStuffing mem s.builder.pdu (s.builder.pos + maxBerTlvHeader + s.builder.len))

/-- A nested builder is finished with `ber_tlv_builder_optimize` and its parent goes on. -/
def ascend (s : BerState) : Option BerState :=
  match s.parents with
  | [] => none
  | b :: parents => some ⟨b, parents, s.optimize.1⟩

end BerState

/-! ## Headers -/

lemma length_headerOctets (c : DataType) (e : EncodingType) (t len : ℕ) :
    (headerOctets c e t len).length = if 31 ≤ t ∧ t ≤ 127 then 7 else 8 := by
  have hpos := lenFieldSizeNeeded_pos len
  have hle := lenFieldSizeNeeded_le len
  rcases Nat.lt_or_ge 0x1e t with h₁ | h₁
  · rcases Nat.lt_or_ge 0x7f t with h₂ | h₂
    · rw [if_neg (by omega)]
      simp [headerOctets, tagFieldSizeNeeded, maxBerTlvHeader, Nat.not_le.mpr h₁, Nat.not_le.mpr h₂]
      omega
    · rw [if_pos (by omega)]
      simp [headerOctets, tagFieldSizeNeeded, maxBerTlvHeader, Nat.not_le.mpr h₁, h₂]
      omega
  · rw [if_neg (by omega)]
    simp [headerOctets, tagFieldSizeNeeded, maxBerTlvHeader, h₁]
    omega

lemma fields_of_bits (c : DataType) (e : EncodingType) {low : ℕ} (h : low < 32) :
    DataType.ofBits (bitField (UInt8.ofNat (c.code <<< 6 ||| e.code <<< 5 ||| low)) 6 2) = c ∧
      EncodingType.ofBits (bitField (UInt8.ofNat (c.code <<< 6 ||| e.code <<< 5 ||| low)) 5 1) = e ∧
      bitField (UInt8.ofNat (c.code <<< 6 ||| e.code <<< 5 ||| low)) 0 5 = low := by
  have hall : ∀ low : Fin 32,
      DataType.ofBits (bitField (UInt8.ofNat (c.code <<< 6 ||| e.code <<< 5 ||| low.val)) 6 2) = c ∧
      EncodingType.ofBits (bitField (UInt8.ofNat (c.code <<< 6 ||| e.code <<< 5 ||| low.val)) 5 1) = e ∧
      bitField (UInt8.ofNat (c.code <<< 6 ||| e.code <<< 5 ||| low.val)) 0 5 = low.val := by
    cases c <;> cases e <;> decide
  exact hall ⟨low, h⟩

/-- The tag number a first octet holds: its own up to 30, 31 where octets follow. -/
lemma firstTagOctet_fields (c : DataType) (e : EncodingType) (t : ℕ) : DataType.ofBits (bitField
    (firstTagOctet c e t) 6 2) = c ∧ EncodingType.ofBits (bitField (firstTagOctet c e t) 5 1) = e ∧
    bitField (firstTagOctet c e t) 0 5 = if t ≤ 30 then t else 31 := by
  unfold firstTagOctet tagFieldSizeNeeded
  rcases Nat.lt_or_ge 30 t with h | h
  · rw [if_neg (show ¬ t ≤ 30 by omega), if_neg (show ¬ t ≤ 30 by omega), if_neg (by split_ifs <;> omega)]
    exact fields_of_bits c e (by omega)
  · rw [if_pos h, if_pos h, if_pos rfl]
    exact fields_of_bits c e (by omega)

lemma dropWhile_stuffing (k : ℕ) {b : UInt8} (hb : isStuffing b = false) (os : List UInt8) :
    (List.replicate k (0xff : UInt8) ++ b :: os).dropWhile isStuffing = b :: os := by
  induction k with
  | zero => simp [hb]
  | succ k ih => simpa [replicate_succ, show isStuffing 0xff = true from rfl] using ih

lemma seven_bits (n : ℕ) (h : n < 128) :
    (UInt8.ofNat (0x80 ||| n)).toNat &&& 0x80 ≠ 0 ∧ (UInt8.ofNat (0x80 ||| n)).toNat &&& 0x7f = n ∧
      (UInt8.ofNat n).toNat &&& 0x80 = 0 ∧ (UInt8.ofNat n).toNat = n := by
  have hall : ∀ n : Fin 128, (UInt8.ofNat (0x80 ||| n.val)).toNat &&& 0x80 ≠ 0 ∧
      (UInt8.ofNat (0x80 ||| n.val)).toNat &&& 0x7f = n.val ∧
      (UInt8.ofNat n.val).toNat &&& 0x80 = 0 ∧ (UInt8.ofNat n.val).toNat = n.val := by
    decide
  exact hall ⟨n, h⟩

variable {t : ℕ}

lemma readTag_two (h : 127 < t) (ht : t ≤ 16383) (after : List UInt8) :
    (UInt8.ofNat (0x80 ||| t >>> 7)).toNat &&& 0x7f ≠ 0 ∧ readTag 0
    (UInt8.ofNat (0x80 ||| t >>> 7) :: UInt8.ofNat (t &&& 0x7f) :: after) = some (t, after) := by
  have hhigh : t >>> 7 = t / 128 := by rw [Nat.shiftRight_eq_div_pow]
  have hlow : t &&& 0x7f = t % 128 := Nat.and_two_pow_sub_one_eq_mod t 7
  rcases seven_bits (t >>> 7) (by omega) with ⟨hmore, hval, -, -⟩
  rcases seven_bits (t &&& 0x7f) (by omega) with ⟨-, -, hlast, hval'⟩
  refine ⟨by omega, ?_⟩
  rw [readTag, if_pos hmore, hval, readTag, if_neg (by rw [hlast]; simp), hval', Nat.zero_shiftLeft,
    Nat.zero_or, Nat.mod_eq_of_lt (by omega : t >>> 7 < 2 ^ 32),
    ← Nat.shiftLeft_add_eq_or_of_lt (by omega : t &&& 0x7f < 2 ^ 7), Nat.shiftLeft_eq, hhigh, hlow,
    show t / 128 * 2 ^ 7 + t % 128 = t by omega, Nat.mod_eq_of_lt (by omega)]

lemma berTlvIterNext_header {c : DataType} {e : EncodingType} {t : ℕ} (ht : t ≤ 16383)
    (hshort : ¬ (31 ≤ t ∧ t ≤ 127)) (hfirst : isStuffing (firstTagOctet c e t) = false)
    {value : List UInt8} (hlen : value.length < 2 ^ 32) (rest : List UInt8) : berTlvIterNext
    (headerOctets c e t value.length ++ (value ++ rest)) = some (⟨c, e, t, value⟩, rest) := by
  rcases firstTagOctet_fields c e t with ⟨hc, he, hlow⟩
  have hlength : readLength 4 32 (lengthOctets value.length ++ (value ++ rest)) =
      some (value.length, value ++ rest) :=
    readLength_lengthOctets hlen (lenFieldSizeNeeded_le _) hlen _
  have htag : ∀ after, readTagNumber (firstTagOctet c e t)
      ((if tagFieldSizeNeeded t = 3 then [UInt8.ofNat (0x80 ||| t >>> 7)] else []) ++
        ((if tagFieldSizeNeeded t > 2 then [UInt8.ofNat (t &&& 0x7f)] else []) ++ after)) =
      some (t, after) := by
    intro after
    unfold readTagNumber
    rw [hlow]
    rcases Nat.lt_or_ge 30 t with h | h
    · have hsize : tagFieldSizeNeeded t = 3 := by
        unfold tagFieldSizeNeeded
        rw [if_neg (by omega), if_neg (by omega)]
      rcases readTag_two (show 127 < t by omega) ht after with ⟨hne, hread⟩
      rw [if_neg (show ¬ t ≤ 30 by omega), if_pos rfl, hsize]
      simp only [if_true, show (3 : ℕ) > 2 by omega, singleton_append]
      rw [if_neg hne, hread]
    · have hsize : tagFieldSizeNeeded t = 1 := if_pos h
      rw [if_pos h, if_neg (by omega), hsize]
      rfl
  unfold berTlvIterNext headerOctets
  simp only [append_assoc, cons_append]
  rw [dropWhile_stuffing _ hfirst]
  simp only [htag, hlength, Option.bind_some, hc, he]
  rw [if_neg (by simp), take_left, drop_left]

/-! ## The header of a tag from 31 to 127

The tag number itself is never written, and the octet behind the length stays what it
was. -/

lemma headerOctets_middle (h : 31 ≤ t ∧ t ≤ 127) (c : DataType) (e : EncodingType) (len : ℕ) :
    headerOctets c e t len = List.replicate (6 - lenFieldSizeNeeded len) (0xff : UInt8) ++
      (firstTagOctet c e t :: lengthOctets len) := by
  have hsize : tagFieldSizeNeeded t = 2 := by
    unfold tagFieldSizeNeeded
    rw [if_neg (by omega), if_pos h.2]
  simp [headerOctets, hsize, maxBerTlvHeader]

lemma high_bit (b : UInt8) : b.toNat &&& 0x80 = 0 ↔ b.toNat < 2 ^ 7 := by
  have hall : ∀ n : Fin 256, n.val &&& 0x80 = 0 ↔ n.val < 2 ^ 7 := by
    decide +kernel
  exact hall ⟨b.toNat, b.toNat_lt⟩

lemma seven_more {tag : ℕ} (h : (tag + 1) * 128 ≤ 2 ^ 32) (b : UInt8) :
    (tag <<< 7 ||| b.toNat &&& 0x7f) % 2 ^ 32 = tag * 128 + b.toNat % 128 := by
  rw [Nat.and_two_pow_sub_one_eq_mod b.toNat 7,
    ← Nat.shiftLeft_add_eq_or_of_lt (by omega : b.toNat % 2 ^ 7 < 2 ^ 7), Nat.shiftLeft_eq,
    Nat.mod_eq_of_lt (by omega)]
  norm_num

lemma readTag_to_zero {os tail after : List UInt8} {tag tag' : ℕ} (htag : 2 ≤ tag)
    (hbound : (tag + 1) * 128 ^ os.length ≤ 2 ^ 32)
    (h : readTag tag (os ++ 0 :: tail) = some (tag', after)) : 256 ≤ tag' ∨ tag' % 128 = 0 := by
  induction os generalizing tag with
  | nil =>
    rw [nil_append, readTag, if_neg (by decide)] at h
    simp only [Option.some.injEq, Prod.mk.injEq] at h
    right
    rw [← h.1, UInt8.toNat_zero, Nat.or_zero, Nat.shiftLeft_eq]
    omega
  | cons b os ih =>
    rw [length_cons, Nat.pow_succ] at hbound
    have hone : 1 ≤ 128 ^ os.length := Nat.one_le_pow _ _ (by omega)
    have hmul : (tag + 1) * 128 ≤ (tag + 1) * (128 ^ os.length * 128) :=
      Nat.mul_le_mul_left _ (by omega)
    rw [cons_append, readTag, seven_more (by omega)] at h
    split_ifs at h with hb
    · refine ih (by omega) ?_ h
      calc (tag * 128 + b.toNat % 128 + 1) * 128 ^ os.length
          ≤ ((tag + 1) * 128) * 128 ^ os.length := Nat.mul_le_mul_right _ (by omega)
        _ = (tag + 1) * (128 ^ os.length * 128) := by ring
        _ ≤ 2 ^ 32 := hbound
    · simp only [Option.some.injEq, Prod.mk.injEq] at h
      left
      have hlt : b.toNat < 2 ^ 7 := (high_bit b).mp (by simpa using hb)
      rw [← h.1, ← Nat.shiftLeft_add_eq_or_of_lt hlt, Nat.shiftLeft_eq, Nat.mod_eq_of_lt (by omega)]
      omega

/-- Such a header with a stale zero behind it reads as another tag or without its value. -/
lemma berTlvIterNext_middle {c : DataType} {e : EncodingType} {len : ℕ} (ht : 31 ≤ t ∧ t ≤ 127)
    (hfirst : isStuffing (firstTagOctet c e t) = false) (hlen : len < 2 ^ 32)
    {tail after : List UInt8} {tlv : BerTlv} (h : berTlvIterNext (headerOctets c e t len ++ 0 ::
    tail) = some (tlv, after)) : tlv.tag ≠ 255 ∧ (tlv.tag = t → tlv.value = [] ∧ len ≠ 0) := by
  rcases firstTagOctet_fields c e t with ⟨-, -, hlow⟩
  rw [if_neg (by omega)] at hlow
  rw [headerOctets_middle ht, append_assoc, cons_append] at h
  unfold berTlvIterNext at h
  rw [dropWhile_stuffing _ hfirst] at h
  simp only [Option.bind_eq_some_iff, Prod.exists] at h
  rcases h with ⟨tag, rest, htag, len', rest', hlen', h⟩
  split_ifs at h with hroom
  simp only [Option.some.injEq, Prod.mk.injEq] at h
  rw [← h.1]
  unfold readTagNumber at htag
  rw [if_pos hlow] at htag
  rcases Nat.lt_or_ge 0x7f len with hlong | hshort
  · rcases lenFieldSizeNeeded_long hlong hlen with ⟨k, hsize, hk, hbound, hleast⟩
    rw [lengthOctets_long hsize, cons_append] at htag
    have hcount : (UInt8.ofNat (0x80 + (k + 1))).toNat = 0x80 + (k + 1) := by
      rw [UInt8.toNat_ofNat']
      omega
    have htags : 256 ≤ tag ∨ tag % 128 = 0 := by
      simp only at htag
      split_ifs at htag with hzero
      have hmore : (UInt8.ofNat (0x80 + (k + 1))).toNat &&& 0x80 ≠ 0 := by
        rw [Ne, high_bit, hcount]
        omega
      have hval : (0 <<< 7 ||| (UInt8.ofNat (0x80 + (k + 1))).toNat &&& 0x7f) % 2 ^ 32 = k + 1 := by
        rw [hcount, Nat.and_two_pow_sub_one_eq_mod _ 7, Nat.zero_shiftLeft, Nat.zero_or]
        omega
      rw [readTag, if_pos hmore, hval] at htag
      cases k with
      | zero =>
        -- the only octet of the length has its high bit set
        have hoctet : (UInt8.ofNat (len >>> (8 * 0))).toNat = len := by
          rw [UInt8.toNat_ofNat', Nat.mul_zero, Nat.shiftRight_zero]
          omega
        have hbit : (UInt8.ofNat (len >>> (8 * 0))).toNat &&& 0x80 ≠ 0 := by
          rw [Ne, high_bit, hoctet]
          omega
        rw [bigEndian, cons_append, readTag, if_pos hbit] at htag
        rw [seven_more (by omega)] at htag
        exact readTag_to_zero (by omega) (by rw [length_bigEndian]; omega) htag
      | succ k =>
        refine readTag_to_zero (by omega) ?_ htag
        rw [length_bigEndian]
        have hk' : k = 0 ∨ k = 1 ∨ k = 2 := by omega
        rcases hk' with rfl | rfl | rfl <;> norm_num
    exact ⟨by show tag ≠ 255; omega, fun heq => absurd heq (by show tag ≠ t; omega)⟩
  · rw [lengthOctets_short hshort, singleton_append] at htag
    have hoctet : (UInt8.ofNat len).toNat = len := by
      rw [UInt8.toNat_ofNat']
      omega
    simp only [hoctet] at htag
    split_ifs at htag with hzero
    have hbit : ¬ (UInt8.ofNat len).toNat &&& 0x80 ≠ 0 := by
      rw [not_not, high_bit, hoctet]
      omega
    rw [readTag, if_neg hbit, hoctet, Nat.zero_shiftLeft, Nat.zero_or] at htag
    simp only [Option.some.injEq, Prod.mk.injEq] at htag
    -- the tag is the length, and the length is the stale zero
    rw [← htag.2, readLength, UInt8.toNat_zero, if_neg (by omega)] at hlen'
    simp only [Option.some.injEq, Prod.mk.injEq] at hlen'
    have hpos : len ≠ 0 := by
      rintro rfl
      exact hzero rfl
    refine ⟨by show tag ≠ 255; omega, fun _ => ⟨?_, hpos⟩⟩
    rw [← hlen'.1]
    rfl

end Phonelets.Sim
