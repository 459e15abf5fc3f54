import Phonelets.Sim.BerTlv

/-! # Comprehension TLVs: builder and iterator

A tag below 127 takes one octet with the CR flag, any other three. The builder writes an
element in place: a new length may need a length field of another size, and then the
value is moved.
-/

namespace Phonelets.Sim

open List
open Phonelets.Sms (bitField)

/-! ## Iterator -/

/-- What an iterator holds about the TLV it stands on. -/
structure CompTlv where
  cr : Bool
  tag : ℕ
  value : List UInt8
  deriving DecidableEq

/-- The CR flag and the tag, with what follows them. -/
def readCompTag (b : UInt8) (rest : List UInt8) : Option (Bool × ℕ × List UInt8) :=
  if bitField b 0 7 = 0x7f then
    match rest with
    | hi :: lo :: rest =>
      let tag := (hi.toNat &&& 0x7f) <<< 8 ||| lo.toNat
      if tag < 0x0001 ∨ tag > 0x7fff then none else some (bitField hi 7 1 = 1, tag, rest)
    | _ => none
  else some (bitField b 7 1 = 1, bitField b 0 7, rest)

/-- `comprehension_tlv_iter_next` on the octets that are left, with those left after it. -/
def comprehensionTlvIterNext : List UInt8 → Option (CompTlv × List UInt8)
  | [] => none
  | b :: rest =>
    if b = 0x00 ∨ b = 0xff ∨ b = 0x80 then none
    else (readCompTag b rest).bind fun (cr, tag, rest) =>
      (readLength 3 16 rest).bind fun (len, rest) =>
        if rest.length < len then none else some (⟨cr, tag, rest.take len⟩, rest.drop len)

variable {rest : List UInt8}

variable {tag : ℕ}

lemma readCompTag_split {b : UInt8} {after : List UInt8} {cr : Bool}
    (h : readCompTag b rest = some (cr, tag, after)) : ∃ field, rest = field ++ after := by
  unfold readCompTag at h
  split at h
  · split at h
    · rename_i hi lo rest
      dsimp only at h
      split at h
      · cases h
      · cases h
        exact ⟨[hi, lo], rfl⟩
    · cases h
  · cases h
    exact ⟨[], rfl⟩

variable {os : List UInt8}

lemma comprehensionTlvIterNext_framed {tlv : CompTlv}
    (h : comprehensionTlvIterNext os = some (tlv, rest)) : Framed os tlv.value rest := by
  unfold comprehensionTlvIterNext at h
  split at h
  · cases h
  · rename_i b tail
    split at h
    · cases h
    · rcases Option.bind_eq_some_iff.mp h with ⟨⟨cr, tag, afterTag⟩, htag, hbind⟩
      rcases Option.bind_eq_some_iff.mp hbind with ⟨⟨len, afterLen⟩, hlen, hvalue⟩
      rcases readCompTag_split htag with ⟨tagField, rfl⟩
      rcases readLength_split hlen with ⟨lenField, hne, rfl⟩
      dsimp only at hvalue
      split at hvalue
      · cases hvalue
      · cases hvalue
        refine ⟨[], b :: tagField, lenField, cons_ne_nil _ _, hne, ?_⟩
        rw [take_append_drop]
        rfl

lemma comprehensionTlvIterNext_split {tlv : CompTlv} (h : comprehensionTlvIterNext os =
    some (tlv, rest)) : ∃ header, header ≠ [] ∧ os = header ++ (tlv.value ++ rest) := by
  rcases comprehensionTlvIterNext_framed h with ⟨padding, tagField, lengthField, htag, -, rfl⟩
  refine ⟨padding ++ (tagField ++ lengthField), ?_, ?_⟩
  · simp [htag]
  · rw [append_assoc, append_assoc]

lemma comprehensionTlvIterNext_length {tlv : CompTlv}
    (h : comprehensionTlvIterNext os = some (tlv, rest)) : rest.length < os.length :=
  (comprehensionTlvIterNext_framed h).shorter

/-- The TLVs on which an iterator over the octets stands, with the octets behind each. -/
inductive Delivered (os : List UInt8) : CompTlv → List UInt8 → Prop where
  | first {tlv : CompTlv} {rest : List UInt8}
      (h : comprehensionTlvIterNext os = some (tlv, rest)) : Delivered os tlv rest
  | next {tlv tlv' : CompTlv} {rest rest' : List UInt8} (before : Delivered os tlv rest)
      (h : comprehensionTlvIterNext rest = some (tlv', rest')) : Delivered os tlv' rest'

lemma Delivered.split {tlv : CompTlv} (h : Delivered os tlv rest) :
    ∃ before, os = before ++ (tlv.value ++ rest) := by
  induction h with
  | first h =>
    rcases comprehensionTlvIterNext_split h with ⟨header, -, rfl⟩
    exact ⟨header, rfl⟩
  | @next tlv _ _ _ _ h ih =>
    rcases ih with ⟨before, rfl⟩
    rcases comprehensionTlvIterNext_split h with ⟨header, -, rfl⟩
    exact ⟨before ++ (tlv.value ++ header), by simp only [append_assoc]⟩

/-- The iterator delivers the TLVs in order and all octets are consumed. -/
def CompReads : List UInt8 → List CompTlv → Prop
  | os, [] => os = []
  | os, e :: es => ∃ after, comprehensionTlvIterNext os = some (e, after) ∧ CompReads after es

/-! ## Builder -/

/-- `struct comprehension_tlv_builder`; `pdu` is an address, and the parents stand in the
state. -/
structure CompTlvBuilder where
  max : ℕ
  pos : ℕ
  pdu : ℕ
  len : ℕ

/-- A builder with the BER builders it was created inside of, the innermost first, and the
memory that all of them write. -/
structure CompState where
  builder : CompTlvBuilder
  parents : List BerTlvBuilder
  mem : Memory

def comprehensionTlvBuilderInit (pdu size : ℕ) (mem : Memory) : Option CompState :=
  if size < 2 then none else some ⟨⟨size, 0, pdu, 0⟩, [], mem.write pdu [0]⟩

/-- `ber_tlv_builder_recurse_comprehension`. -/
def BerState.recurseComprehension (s : BerState) : Option CompState :=
  (comprehensionTlvBuilderInit s.getData (s.builder.pdu + s.builder.max - s.getData) s.mem).map
    fun c => { c with parents := s.builder :: s.parents }

def ctlvTagFieldSize (b : UInt8) : ℕ := if bitField b 0 7 = 0x7f then 3 else 1

def ctlvLenFieldSize (b : UInt8) : ℕ := if b.toNat ≥ 0x80 then b.toNat - 0x7f else 1

/-- The tag field as `comprehension_tlv_builder_next` writes it. -/
def compTagOctets (cr : Bool) (tag : ℕ) : List UInt8 :=
  if tag ≥ 0x7f then
    [0x7f, UInt8.ofNat ((if cr then 0x80 else 0) ||| tag >>> 8), UInt8.ofNat (tag &&& 0xff)]
  else [UInt8.ofNat ((if cr then 0x80 else 0) ||| tag)]

namespace CompState

/-- The address of the TLV the builder stands on. -/
def tlv (s : CompState) : ℕ := s.builder.pdu + s.builder.pos

/-- The size of its tag field, from its octets. -/
def tagSize (s : CompState) : ℕ := ctlvTagFieldSize (s.mem s.tlv)

/-- The size of its length field, from its octets. -/
def lenSize (s : CompState) : ℕ := ctlvLenFieldSize (s.mem (s.tlv + s.tagSize))

/-- The octets the TLV takes; none on a fresh builder, whose first octet is 0. -/
def prevSize (s : CompState) : ℕ :=
  if s.mem s.tlv ≠ 0 then (s.builder.len + s.tagSize + s.lenSize) % 2 ^ 32 else 0

/-- The octets of a new TLV without a value. -/
def newSize (tag : ℕ) : ℕ := (if tag < 0x7f then 1 else 3) + 1

/-- `comprehension_tlv_builder_next` once there is space. -/
def advance (cr : Bool) (tag : ℕ) (s : CompState) : CompState :=
  let pos := (s.builder.pos + s.prevSize) % 2 ^ 32
  { s with
    builder := { s.builder with pos := pos, len := 0 }
    mem := (s.mem.write (s.builder.pdu + pos) (compTagOctets cr tag)).write
      (s.builder.pdu + pos + newSize tag - 1) [0] }

/-- `comprehension_tlv_builder_next`: its return value and the state it leaves. -/
def next (cr : Bool) (tag : ℕ) (s : CompState) : Bool × CompState :=
  if (s.builder.pos + s.prevSize + newSize tag) % 2 ^ 32 > s.builder.max then (false, s)
  else (true, s.advance cr tag)

/-- The octets of the TLV with a value of another length. -/
def newCtlvLen (newLen : ℕ) (s : CompState) : ℕ :=
  (s.tagSize + lenFieldSizeNeeded newLen + newLen) % 2 ^ 32

/-- `comprehension_tlv_builder_set_length` once there is space. -/
def resize (newLen : ℕ) (s : CompState) : CompState :=
  let len := min s.builder.len newLen
  let moved :=
    if len > 0 ∧ lenFieldSizeNeeded newLen ≠ s.lenSize then
      s.mem.move (s.tlv + s.tagSize + lenFieldSizeNeeded newLen) (s.tlv + s.tagSize + s.lenSize) len
    else s.mem
  { builder := { s.builder with len := newLen }
    parents := resizeParents ((s.builder.pos + s.newCtlvLen newLen) % 2 ^ 32) s.parents
    mem := moved.write (s.tlv + s.tagSize) (lengthOctets newLen) }

/-- `comprehension_tlv_builder_set_length`: its return value and the state it leaves. -/
def setLength (newLen : ℕ) (s : CompState) : Bool × CompState :=
  if (s.builder.pos + s.newCtlvLen newLen) % 2 ^ 32 > s.builder.max then (false, s)
  else (true, s.resize newLen)

/-- `comprehension_tlv_builder_get_data`: an address. -/
def getData (s : CompState) : ℕ := s.tlv + s.tagSize + s.lenSize

/-- What the caller copies into the value, at an offset. -/
def fill (offset : ℕ) (bytes : List UInt8) (s : CompState) : CompState :=
  { s with mem := s.mem.write (s.getData + offset) bytes }

/-- The octets from `comprehension_tlv_builder_get_data` on. -/
def value (s : CompState) : List UInt8 := s.mem.slice s.getData s.builder.len

/-- The octets of the buffer that are used. -/
def used (s : CompState) : ℕ := s.builder.pos + s.prevSize

end CompState

/-! ## Encoded elements -/

namespace CompTlv

/-- An element that can be written and read. -/
structure Valid (e : CompTlv) : Prop where
  tag_pos : 0 < e.tag
  tag_le : e.tag ≤ 0x7fff
  short : e.value.length ≤ 0xffff

/-- The tag and length fields. -/
def header (e : CompTlv) : List UInt8 := compTagOctets e.cr e.tag ++ lengthOctets e.value.length

def encode (e : CompTlv) : List UInt8 := e.header ++ e.value

end CompTlv

lemma length_compTagOctets (cr : Bool) (tag : ℕ) :
    (compTagOctets cr tag).length = if tag < 0x7f then 1 else 3 := by
  unfold compTagOctets
  rcases Nat.lt_or_ge tag 0x7f with h | h
  · rw [if_neg (by omega), if_pos h]
    rfl
  · rw [if_pos h, if_neg (show ¬ tag < 0x7f by omega)]
    rfl

lemma short_tag (cr : Bool) (hpos : 0 < tag) (h : tag < 0x7f) :
    UInt8.ofNat ((if cr then 0x80 else 0) ||| tag) ≠ 0x00 ∧
      UInt8.ofNat ((if cr then 0x80 else 0) ||| tag) ≠ 0xff ∧
      UInt8.ofNat ((if cr then 0x80 else 0) ||| tag) ≠ 0x80 ∧
      bitField (UInt8.ofNat ((if cr then 0x80 else 0) ||| tag)) 0 7 = tag ∧
      (decide (bitField (UInt8.ofNat ((if cr then 0x80 else 0) ||| tag)) 7 1 = 1)) = cr := by
  have hall : ∀ tag : Fin 0x7f, 0 < tag.val →
      UInt8.ofNat ((if cr then 0x80 else 0) ||| tag.val) ≠ 0x00 ∧
      UInt8.ofNat ((if cr then 0x80 else 0) ||| tag.val) ≠ 0xff ∧
      UInt8.ofNat ((if cr then 0x80 else 0) ||| tag.val) ≠ 0x80 ∧
      bitField (UInt8.ofNat ((if cr then 0x80 else 0) ||| tag.val)) 0 7 = tag.val ∧
      (decide (bitField (UInt8.ofNat ((if cr then 0x80 else 0) ||| tag.val)) 7 1 = 1)) = cr := by
    cases cr <;> decide
  exact hall ⟨tag, h⟩ hpos

lemma long_tag (cr : Bool) {n : ℕ} (h : n < 0x80) :
    (UInt8.ofNat ((if cr then 0x80 else 0) ||| n)).toNat &&& 0x7f = n ∧
      (decide (bitField (UInt8.ofNat ((if cr then 0x80 else 0) ||| n)) 7 1 = 1)) = cr := by
  have hall : ∀ n : Fin 0x80, (UInt8.ofNat ((if cr then 0x80 else 0) ||| n.val)).toNat &&& 0x7f = n.val ∧
      (decide (bitField (UInt8.ofNat ((if cr then 0x80 else 0) ||| n.val)) 7 1 = 1)) = cr := by
    cases cr <;> decide
  exact hall ⟨n, h⟩

lemma compTagOctets_head (cr : Bool) (hpos : 0 < tag) : ∃ b os, compTagOctets cr tag = b :: os ∧
    (b ≠ 0x00 ∧ b ≠ 0xff ∧ b ≠ 0x80) ∧ ctlvTagFieldSize b = (compTagOctets cr tag).length := by
  unfold compTagOctets ctlvTagFieldSize
  rcases Nat.lt_or_ge tag 0x7f with h | h
  · rcases short_tag cr hpos h with ⟨h₀, h₁, h₂, hlow, -⟩
    rw [if_neg (by omega)]
    exact ⟨_, _, rfl, ⟨h₀, h₁, h₂⟩, by rw [hlow, if_neg (by omega)]; rfl⟩
  · rw [if_pos h]
    exact ⟨_, _, rfl, by decide, rfl⟩

lemma lengthOctets_head {len : ℕ} (h : len < 2 ^ 32) :
    ∃ b os, lengthOctets len = b :: os ∧ ctlvLenFieldSize b = lenFieldSizeNeeded len := by
  unfold ctlvLenFieldSize
  rcases Nat.lt_or_ge 0x7f len with hlong | hshort
  · rcases lenFieldSizeNeeded_long hlong h with ⟨k, hsize, hk, -, -⟩
    refine ⟨_, _, lengthOctets_long hsize, ?_⟩
    rw [UInt8.toNat_ofNat', Nat.mod_eq_of_lt (by omega), if_pos (by omega), hsize]
    omega
  · refine ⟨_, _, lengthOctets_short hshort, ?_⟩
    rw [UInt8.toNat_ofNat', Nat.mod_eq_of_lt (by omega), if_neg (by omega), lenFieldSizeNeeded,
      if_pos hshort]

lemma readCompTag_compTagOctets (cr : Bool) (hpos : 0 < tag) (hle : tag ≤ 0x7fff)
    {b : UInt8} {os : List UInt8} (h : compTagOctets cr tag = b :: os) (rest : List UInt8) :
    readCompTag b (os ++ rest) = some (cr, tag, rest) := by
  unfold compTagOctets at h
  rcases Nat.lt_or_ge tag 0x7f with hlt | hge
  · rw [if_neg (by omega)] at h
    cases h
    rcases short_tag cr hpos hlt with ⟨-, -, -, hlow, hcr⟩
    unfold readCompTag
    rw [hlow, if_neg (by omega), hcr]
    rfl
  · rw [if_pos hge] at h
    cases h
    have hhigh : tag >>> 8 = tag / 256 := by rw [Nat.shiftRight_eq_div_pow]
    have hlow : tag &&& 0xff = tag % 256 := Nat.and_two_pow_sub_one_eq_mod tag 8
    rcases long_tag cr (show tag >>> 8 < 0x80 by omega) with ⟨hval, hcr⟩
    have hoctet : (UInt8.ofNat (tag &&& 0xff)).toNat = tag % 256 := by
      rw [hlow, UInt8.toNat_ofNat']
      omega
    have htag : (tag >>> 8) <<< 8 ||| tag % 256 = tag := by
      rw [← Nat.shiftLeft_add_eq_or_of_lt (by omega : tag % 256 < 2 ^ 8), Nat.shiftLeft_eq, hhigh]
      omega
    unfold readCompTag
    rw [if_pos (by decide)]
    simp only [cons_append, nil_append, hval, hoctet, htag, hcr]
    rw [if_neg (by omega)]

lemma comprehensionTlvIterNext_encode {e : CompTlv} (h : e.Valid) (rest : List UInt8) :
    comprehensionTlvIterNext (e.encode ++ rest) = some (e, rest) := by
  rcases h with ⟨hpos, hle, hshort⟩
  rcases compTagOctets_head e.cr hpos with ⟨b, os, hoctets, hstuff, -⟩
  have hlen : lenFieldSizeNeeded e.value.length ≤ 3 := by
    unfold lenFieldSizeNeeded
    split_ifs <;> omega
  have htag := readCompTag_compTagOctets e.cr hpos hle hoctets
    (lengthOctets e.value.length ++ (e.value ++ rest))
  have hlength : readLength 3 16 (lengthOctets e.value.length ++ (e.value ++ rest)) =
      some (e.value.length, e.value ++ rest) :=
    readLength_lengthOctets (by omega) (by omega) (by omega) _
  rw [CompTlv.encode, CompTlv.header, hoctets, append_assoc, append_assoc, cons_append,
    comprehensionTlvIterNext, if_neg (by simpa [not_or] using hstuff), htag]
  simp only [Option.bind_some, hlength]
  rw [if_neg (by simp), take_left, drop_left]

lemma compReads_encode {es : List CompTlv} (h : ∀ e ∈ es, e.Valid) :
    CompReads (es.flatMap CompTlv.encode) es := by
  induction es with
  | nil => rfl
  | cons e es ih =>
    exact ⟨_, by
      rw [flatMap_cons]
      exact comprehensionTlvIterNext_encode (h e (by simp)) _, ih fun e he => h e (by simp [he])⟩

end Phonelets.Sim
