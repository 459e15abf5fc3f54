import Mathlib.Data.List.Forall2
import Phonelets.Sim.CompRuns
import Phonelets.Sms.TextRoundTrip
import Phonelets.Stk.Types

/-! # The builder of data objects

`struct stk_tlv_builder`: a container is opened with the longest value it may have, filled
through a pointer, and given the length that was used when it is closed. `Closed` and
`Open` say what stands in the buffer between the calls.
-/

namespace Phonelets.Stk

open List
open Phonelets.Sim
open Phonelets.Sms (GConvert Basic ucs2be)
open Gsm (utf8)

/-- What the builders call or read that is not theirs: `g_convert`, to the two directions of
`GConvert` one more to `"UCS-2BE"` from `"UTF-8//TRANSLIT"`, and the octets behind a block of
the heap. -/
structure StkEnv where
  conv : GConvert
  toUcs2 : List UInt8 → Option (List UInt8)
  heap : ℕ → UInt8

/-- `g_convert` is an exact codec on the texts that it accepts. -/
structure StkEnv.Exact (env : StkEnv) : Prop where
  conv : env.conv.Exact
  toUcs2 : ∀ s out, env.toUcs2 (utf8 s) = some out → Basic s ∧ out = ucs2be s

/-- `n` octets from the start of a block. -/
def StkEnv.readPast (env : StkEnv) (block : List UInt8) (n : ℕ) : List UInt8 :=
  (block ++ (List.range n).map env.heap).take n

/-- A container that was opened: its flag and tag, the octets appended, and the longest
value it may have. -/
structure Container extends CompTlv where
  maxLen : ℕ

/-- `struct stk_tlv_builder`, `value` an address. Nothing reads `opened`: the containers
opened so far, the last one first. -/
structure StkTlvBuilder where
  ctlv : CompState
  value : ℕ
  len : ℕ
  maxLen : ℕ
  opened : List Container

namespace StkTlvBuilder

/-! ## Functions -/

/-- `stk_tlv_builder_init` -/
def init (pdu size : ℕ) (mem : Memory) : Option StkTlvBuilder :=
  (comprehensionTlvBuilderInit pdu size mem).map fun ctlv => ⟨ctlv, 0, 0, 0, []⟩

/-- `stk_tlv_builder_recurse` -/
def recurse (btlv : BerState) (tag : UInt8) : Option StkTlvBuilder := do
  let btlv ← btlv.next (.ofBits (tag >>> 6).toNat) (.ofBits ((tag >>> 5) &&& 1).toNat) (tag &&& 0x1f).toNat
  let ctlv ← btlv.recurseComprehension
  return ⟨ctlv, 0, 0, 0, []⟩

/-- `stk_tlv_builder_open_container` -/
def openContainer (cr : Bool) (shorttag : ℕ) (relocatable : Bool) (b : StkTlvBuilder) :
    Outcome StkTlvBuilder :=
  let maxLen := if relocatable then 0xff else 0x7f
  let begun := b.ctlv.next cr shorttag
  if begun.1 then
    let sized := begun.2.setLength maxLen
    if sized.1 then
      .ok ⟨sized.2, sized.2.getData, 0, maxLen, ⟨⟨cr, shorttag, []⟩, maxLen⟩ :: b.opened⟩
    else .reject
  else .reject

/-- `stk_tlv_builder_close_container` -/
def closeContainer (b : StkTlvBuilder) : Outcome StkTlvBuilder :=
  let sized := b.ctlv.setLength b.len
  if sized.1 then .ok { b with ctlv := sized.2 } else .reject

/-- `stk_tlv_builder_get_length` -/
def getLength (b : StkTlvBuilder) : ℕ := b.ctlv.getData - b.ctlv.builder.pdu + b.len

/-- Octets are appended to the container opened last. -/
def grow (os : List UInt8) : List Container → List Container
  | [] => []
  | c :: cs => { c with value := c.value ++ os } :: cs

/-- The octets in the value and `len` moved behind them. -/
def written (os : List UInt8) (b : StkTlvBuilder) : StkTlvBuilder :=
  { b with
    ctlv := { b.ctlv with mem := b.ctlv.mem.write (b.value + b.len) os }
    len := b.len + os.length
    opened := grow os b.opened }

/-- A `memcpy` to the value, which must not leave the buffer. -/
def copy (os : List UInt8) (b : StkTlvBuilder) : Outcome StkTlvBuilder :=
  if b.value + b.len + os.length ≤ b.ctlv.builder.pdu + b.ctlv.builder.max then .ok (b.written os)
  else .fault

/-- `stk_tlv_builder_append_byte` -/
def appendByte (num : UInt8) (b : StkTlvBuilder) : Outcome StkTlvBuilder :=
  if b.len ≥ b.maxLen then .reject else b.copy [num]

/-- `stk_tlv_builder_append_short` -/
def appendShort (num : UInt16) (b : StkTlvBuilder) : Outcome StkTlvBuilder :=
  if b.len + 2 > b.maxLen then .reject else b.copy [(num >>> 8).toUInt8, num.toUInt8]

/-- `stk_tlv_builder_append_gsm_packed` of a text that is not `NULL`. -/
def appendGsmPacked (env : StkEnv) (text : List UInt8) (b : StkTlvBuilder) : Outcome StkTlvBuilder :=
  let gsm := Gsm.convertUtf8ToGsm text
  if gsm = none ∧ text.length > 0 then .reject
  else
    let octets := gsm.getD []
    if b.len + (octets.length * 7 + 7) / 8 ≥ b.maxLen then .reject
    else
      -- the septets are counted by the length of the text
      let packed := (Septets.pack7bitOwnBuf (env.readPast octets text.length) 0 false).getD []
      if packed.length < 1 ∧ text.length > 0 then .reject else b.copy (0x00 :: packed)

/-- `stk_tlv_builder_append_gsm_unpacked` of a text that is not `NULL`. -/
def appendGsmUnpacked (text : List UInt8) (b : StkTlvBuilder) : Outcome StkTlvBuilder :=
  let gsm := Gsm.convertUtf8ToGsm text
  if gsm = none ∧ text.length > 0 then .reject
  else
    let octets := gsm.getD []
    if b.len + octets.length ≥ b.maxLen then .reject else b.copy (0x04 :: octets)

/-- `stk_tlv_builder_append_ucs2` -/
def appendUcs2 (env : StkEnv) (text : List UInt8) (b : StkTlvBuilder) : Outcome StkTlvBuilder :=
  match env.toUcs2 text with
  | none => .reject
  | some ucs2 => if b.len + ucs2.length ≥ b.maxLen then .reject else b.copy (0x08 :: ucs2)

/-- `stk_tlv_builder_append_text` with a `dcs` of -1. -/
def appendText (env : StkEnv) (text : List UInt8) (b : StkTlvBuilder) : Outcome StkTlvBuilder :=
  match b.appendGsmUnpacked text with
  | .reject => b.appendUcs2 env text
  | r => r

/-- `stk_tlv_builder_append_bytes`, with the sum in an `unsigned int`. -/
def appendBytes (data : List UInt8) (b : StkTlvBuilder) : Outcome StkTlvBuilder :=
  if (b.len + data.length) % 2 ^ 32 > b.maxLen then .reject else b.copy data

/-- A container is opened, filled and closed. -/
def container (cr : Bool) (type : DataObjectType) (relocatable : Bool)
    (body : StkTlvBuilder → Outcome StkTlvBuilder) (b : StkTlvBuilder) : Outcome StkTlvBuilder := do
  let b ← b.openContainer cr type.code relocatable
  let b ← body b
  b.closeContainer

/-! ## What is appended -/

/-- What is in the value so far is in the buffer. -/
def Inside (b : StkTlvBuilder) : Prop := b.value + b.len ≤ b.ctlv.builder.pdu + b.ctlv.builder.max

/-- Where the body succeeds it has copied the octets. -/
def Puts (body : StkTlvBuilder → Outcome StkTlvBuilder) (os : List UInt8) : Prop :=
  ∀ b b', b.Inside → body b = .ok b' → b.copy os = .ok b'

/-- The value is in a small buffer and not longer than it may be. -/
structure Roomy (b : StkTlvBuilder) : Prop where
  len_le : b.len ≤ b.maxLen
  from_pdu : b.ctlv.builder.pdu ≤ b.value
  small : b.ctlv.builder.max ≤ 0xffff

/-- The body appends the octets as long as there is room for them. -/
structure Appends (body : StkTlvBuilder → Outcome StkTlvBuilder) (os : List UInt8) : Prop where
  puts : Puts body os
  roomy : ∀ b b', b.Roomy → body b = .ok b' → b'.Roomy

variable {b b' : StkTlvBuilder} {as os : List UInt8} {f g : StkTlvBuilder → Outcome StkTlvBuilder}

lemma grow_append (as os : List UInt8) (cs : List Container) :
    grow os (grow as cs) = grow (as ++ os) cs := by
  cases cs with
  | nil => rfl
  | cons c cs => simp [grow, append_assoc]

lemma grow_nil (cs : List Container) : grow [] cs = cs := by
  cases cs with
  | nil => rfl
  | cons c cs => simp [grow]

lemma written_append (b : StkTlvBuilder) (as os : List UInt8) :
    (b.written as).written os = b.written (as ++ os) := by
  unfold written
  simp only [grow_append, length_append, ← Nat.add_assoc, Memory.write_write]

lemma copy_eq_ok (h : b.copy os = .ok b') :
    b' = b.written os ∧ b.value + b.len + os.length ≤ b.ctlv.builder.pdu + b.ctlv.builder.max := by
  unfold copy at h
  split_ifs at h with hroom
  cases h
  exact ⟨rfl, hroom⟩

lemma inside_of_copy (h : b.copy os = .ok b') : b'.Inside := by
  rcases copy_eq_ok h with ⟨rfl, hroom⟩
  unfold Inside
  show b.value + (b.len + os.length) ≤ _
  rw [← Nat.add_assoc]
  exact hroom

lemma copy_copy (h : b.copy as = .ok b') : b'.copy os = b.copy (as ++ os) := by
  rcases copy_eq_ok h with ⟨rfl, -⟩
  unfold copy
  rw [written_append]
  simp only [written, length_append, ← Nat.add_assoc]

lemma Roomy.copy (h : b.Roomy) (hok : b.copy os = .ok b') (hlen : b.len + os.length ≤ b.maxLen) :
    b'.Roomy := by
  rcases copy_eq_ok hok with ⟨rfl, -⟩
  exact ⟨hlen, h.from_pdu, h.small⟩

lemma Puts.kleisli (hf : Puts f as) (hg : Puts g os) : Puts (f >=> g) (as ++ os) := by
  intro b b' hb h
  rcases Outcome.bind_eq_ok.mp h with ⟨b₁, h₁, h₂⟩
  have hcopy := hf b b₁ hb h₁
  rw [← copy_copy hcopy]
  exact hg b₁ b' (inside_of_copy hcopy) h₂

lemma Appends.kleisli (hf : Appends f as) (hg : Appends g os) : Appends (f >=> g) (as ++ os) := by
  refine ⟨hf.puts.kleisli hg.puts, ?_⟩
  intro b b' hb h
  rcases Outcome.bind_eq_ok.mp h with ⟨b₁, h₁, h₂⟩
  exact hg.roomy b₁ b' (hf.roomy b b₁ hb h₁) h₂

lemma appends_byte (num : UInt8) : Appends (appendByte num) [num] := by
  constructor
  · intro b b' _ h
    unfold appendByte at h
    split_ifs at h
    exact h
  · intro b b' hb h
    unfold appendByte at h
    split_ifs at h with hlen
    exact hb.copy h (by rw [length_singleton]; omega)

lemma appends_short (num : UInt16) :
    Appends (appendShort num) [(num >>> 8).toUInt8, num.toUInt8] := by
  constructor
  · intro b b' _ h
    unfold appendShort at h
    split_ifs at h
    exact h
  · intro b b' hb h
    unfold appendShort at h
    split_ifs at h with hlen
    exact hb.copy h (by show b.len + 2 ≤ b.maxLen; omega)

lemma appends_bytes (data : List UInt8) : Appends (appendBytes data) data := by
  constructor
  · intro b b' _ h
    unfold appendBytes at h
    split_ifs at h
    exact h
  · intro b b' hb h
    unfold appendBytes at h
    split_ifs at h with hlen
    -- the sum cannot wrap around inside the buffer
    have hinside := (copy_eq_ok h).2
    have hpdu := hb.from_pdu
    have hsmall := hb.small
    rw [Nat.mod_eq_of_lt (by omega)] at hlen
    exact hb.copy h (by omega)

lemma appends_nothing : Appends .ok [] := by
  constructor
  · intro b b' hb h
    cases h
    have hroom : b.value + b.len + ([] : List UInt8).length ≤ b.ctlv.builder.pdu + b.ctlv.builder.max := hb
    unfold copy
    rw [if_pos hroom]
    unfold written
    simp only [grow_nil, length_nil, Nat.add_zero, Memory.write_nil]
  · intro b b' hb h
    cases h
    exact hb

/-! ## What stands in the buffer -/

/-- A TLV has the flag, the tag and the length of a container, and its octets as far as the
container was meant to go. -/
structure Agrees (e : CompTlv) (c : Container) : Prop where
  cr : e.cr = c.cr
  tag : e.tag = c.tag
  length : e.value.length = c.value.length
  octets : e.value.take c.maxLen = c.value.take c.maxLen

variable {e : CompTlv}

lemma Agrees.eq {c : Container} (h : Agrees e c) (hfits : c.value.length ≤ c.maxLen) :
    e = c.toCompTlv := by
  have hvalue := h.octets
  rw [take_of_length_le (h.length ▸ hfits), take_of_length_le hfits] at hvalue
  rcases e with ⟨cr, tag, value⟩
  exact CompTlv.mk.injEq .. ▸ ⟨h.cr, h.tag, hvalue⟩

/-- No container is open: the octets used are TLVs that agree with those opened. -/
structure Closed (b : StkTlvBuilder) (es : List CompTlv) : Prop where
  stands : b.ctlv.Stands es
  agrees : List.Forall₂ Agrees es b.opened.reverse
  tags : ∀ e ∈ es, 0 < e.tag ∧ e.tag ≤ 0x7fff
  small : b.ctlv.builder.max ≤ 0xffff
  parent : b.ctlv.ParentKept
  length : b.opened ≠ [] → b.getLength = b.ctlv.used

/-- The container opened last is being filled. -/
structure Open (b : StkTlvBuilder) (es : List CompTlv) (c : Container) : Prop where
  holds : ∃ v, b.ctlv.Holds es ⟨c.cr, c.tag, v⟩ ∧ v.length = c.maxLen ∧
    v.take c.value.length = c.value.take c.maxLen
  agrees : ∃ cs, b.opened = c :: cs ∧ List.Forall₂ Agrees es cs.reverse
  tags : ∀ e ∈ es, 0 < e.tag ∧ e.tag ≤ 0x7fff
  tag_le : c.tag ≤ 0x7fff
  small : b.ctlv.builder.max ≤ 0xffff
  value : b.value = b.ctlv.getData
  len : b.len = c.value.length
  maxLen : b.maxLen = c.maxLen
  inside : b.Inside

/-- Where the buffer lies and what it lies inside of. -/
def place (b : StkTlvBuilder) : ℕ × ℕ × List BerTlvBuilder :=
  (b.ctlv.builder.pdu, b.ctlv.builder.max, b.ctlv.parents.map fun p => { p with len := 0 })

/-- There is one element more, and the container of it. -/
structure Added (b b' : StkTlvBuilder) (es : List CompTlv) (e : CompTlv) (c : Container) : Prop where
  closed : Closed b' (es ++ [e])
  opened : b'.opened = c :: b.opened
  place : b'.place = b.place

variable {es : List CompTlv} {c : Container}

lemma map_resizeParents (n : ℕ) (ps : List BerTlvBuilder) :
    (resizeParents n ps).map (fun p => { p with len := 0 }) = ps.map fun p => { p with len := 0 } := by
  induction ps generalizing n with
  | nil => rfl
  | cons p ps ih =>
    unfold resizeParents
    dsimp only
    split_ifs
    · rfl
    · rw [map_cons, map_cons, ih]

variable {cr relocatable : Bool} {shorttag : ℕ}

lemma place_openContainer
    (hok : b.openContainer cr shorttag relocatable = .ok b') : b'.place = b.place := by
  unfold StkTlvBuilder.openContainer at hok
  generalize (if relocatable then 0xff else 0x7f) = maxLen at hok
  dsimp only at hok
  split_ifs at hok with hnext hset
  cases hok
  rw [CompState.next_true hnext] at hset ⊢
  rw [CompState.setLength_true hset]
  unfold place
  simp only [CompState.resize, CompState.advance, map_resizeParents]

lemma place_copy (hok : b.copy os = .ok b') : b'.place = b.place := by
  rw [(copy_eq_ok hok).1]
  rfl

lemma place_closeContainer (hok : b.closeContainer = .ok b') : b'.place = b.place := by
  unfold closeContainer at hok
  dsimp only at hok
  split_ifs at hok with hset
  cases hok
  rw [CompState.setLength_true hset]
  unfold place
  simp only [CompState.resize, map_resizeParents]

lemma Closed.valid (h : Closed b es) : ∀ e ∈ es, e.Valid := by
  intro e he
  rcases h.tags e he with ⟨hpos, hle⟩
  refine ⟨hpos, hle, ?_⟩
  have hused := h.stands.used_eq
  have hfits := h.stands.fits
  have hsmall := h.small
  rcases append_of_mem he with ⟨before, after, rfl⟩
  rw [flatMap_append, flatMap_cons, length_append, length_append, CompState.length_encode] at hused
  omega

lemma closed_created {ctlv : CompState} (h : CompState.Created ctlv) (hempty : ctlv.parentEmpty = true)
    (hsmall : ctlv.builder.max ≤ 0xffff) : Closed ⟨ctlv, 0, 0, 0, []⟩ [] := by
  have hstands : ctlv.Stands [] := h.follows.stands
  refine ⟨hstands, .nil, fun e he => absurd he not_mem_nil, hsmall, h.follows.parent.mp hempty, ?_⟩
  intro hne
  exact absurd rfl hne

lemma closed_init {pdu size : ℕ} {mem : Memory} (h : init pdu size mem = some b) (hsize : size ≤ 0xffff) :
    Closed b [] ∧ b.opened = [] := by
  rcases Option.map_eq_some_iff.mp h with ⟨ctlv, hctlv, rfl⟩
  refine ⟨closed_created (.alone (by omega) hctlv) ?_ ?_, rfl⟩
  · rw [(CompState.init_eq hctlv).2]
    rfl
  · rw [(CompState.init_eq hctlv).2]
    exact hsize

lemma Closed.reads (h : Closed b es) :
    CompReads (b.ctlv.mem.slice b.ctlv.builder.pdu b.ctlv.used) es := by
  have hslice := h.stands.octets.slice_eq
  rw [← h.stands.used_eq] at hslice
  rw [hslice]
  exact compReads_encode h.valid

/-- The end of a `set_length` that does not wrap around. -/
lemma newCtlvLen_of_inside {s : CompState} (h : s.Holds es e) {n : ℕ} (hsmall : s.builder.max ≤
    0xffff) (hn : n ≤ 0xffff) : s.builder.pos + s.newCtlvLen n = s.builder.pos +
    (s.tagSize + lenFieldSizeNeeded n + n) ∧ s.builder.pos + s.newCtlvLen n < 2 ^ 32 := by
  have hpos : s.builder.pos ≤ s.builder.max := by
    have hfits := h.fits
    omega
  have htag : s.tagSize ≤ 3 := by
    rw [h.tagSize_eq, length_compTagOctets]
    split_ifs <;> omega
  have hlen : lenFieldSizeNeeded n ≤ 5 := by
    unfold lenFieldSizeNeeded
    split_ifs <;> omega
  unfold CompState.newCtlvLen
  rw [Nat.mod_eq_of_lt (by omega)]
  exact ⟨rfl, by omega⟩

lemma setLength_room {s : CompState} (h : s.Holds es e) {n : ℕ}
    (hsmall : s.builder.max ≤ 0xffff) (hn : n ≤ 0xffff) (hok : (s.setLength n).1 = true) :
    s.builder.pos + (s.tagSize + lenFieldSizeNeeded n + n) ≤ s.builder.max := by
  rcases newCtlvLen_of_inside h hsmall hn with ⟨heq, hlt⟩
  unfold CompState.setLength at hok
  split_ifs at hok with hroom
  rw [Nat.mod_eq_of_lt hlt, heq] at hroom
  omega

lemma Closed.begun (h : Closed b es) (hpos : 0 < shorttag) {maxLen : ℕ} (hmax : (if relocatable then 0xff else 0x7f) = maxLen)
    (hok : b.openContainer cr shorttag relocatable = .ok b') :
    (b.ctlv.advance cr shorttag).Holds es ⟨cr, shorttag, []⟩ ∧
      (b.ctlv.advance cr shorttag).builder.pos +
        ((b.ctlv.advance cr shorttag).tagSize + lenFieldSizeNeeded maxLen + maxLen) ≤ b.ctlv.builder.max ∧
      b' = ⟨(b.ctlv.advance cr shorttag).resize maxLen, ((b.ctlv.advance cr shorttag).resize maxLen).getData,
        0, maxLen, ⟨⟨cr, shorttag, []⟩, maxLen⟩ :: b.opened⟩ := by
  have hsmall := h.small
  have hfits := h.stands.fits
  unfold StkTlvBuilder.openContainer at hok
  rw [hmax] at hok
  have hmaxLe : maxLen ≤ 0xff := by
    rw [← hmax]
    split_ifs <;> omega
  simp only at hok
  split_ifs at hok with hnext hset
  cases hok
  have hroom : b.ctlv.used + CompState.newSize shorttag ≤ b.ctlv.builder.max := by
    have hsize : CompState.newSize shorttag ≤ 4 := by
      unfold CompState.newSize
      split_ifs <;> omega
    unfold CompState.next at hnext
    split_ifs at hnext with hover
    unfold CompState.used at hfits ⊢
    rw [Nat.mod_eq_of_lt (by omega)] at hover
    omega
  rw [CompState.next_true hnext] at hset ⊢
  have hholds := h.stands.advance cr hpos hroom
  rw [CompState.setLength_true hset]
  exact ⟨hholds, setLength_room hholds hsmall (by omega) hset, rfl⟩

lemma Closed.openContainer (h : Closed b es) (hpos : 0 < shorttag) (hle : shorttag ≤ 0x7fff)
    (hok : b.openContainer cr shorttag relocatable = .ok b') :
    Open b' es ⟨⟨cr, shorttag, []⟩, if relocatable then 0xff else 0x7f⟩ ∧
      b'.opened = ⟨⟨cr, shorttag, []⟩, if relocatable then 0xff else 0x7f⟩ :: b.opened := by
  rcases h.begun hpos rfl hok with ⟨hholds, hroom, rfl⟩
  rcases hholds.resize hroom with ⟨v, hv, hlen, -, -⟩
  refine ⟨⟨⟨v, hv, hlen, ?_⟩, ⟨_, rfl, h.agrees⟩, h.tags, hle, h.small, rfl, rfl, rfl, ?_⟩, rfl⟩
  · rw [length_nil, take_zero, take_nil]
  · have hend := hv.getData_add
    have hin := hv.fits
    unfold Inside
    refine Nat.le_trans (Nat.add_le_add_left (Nat.zero_le _) _) (hend.trans_le ?_)
    exact Nat.add_le_add_left hin _

lemma Open.copy (h : Open b es c) (hok : b.copy os = .ok b') :
    Open b' es { c with value := c.value ++ os } := by
  rcases copy_eq_ok hok with ⟨rfl, -⟩
  rcases h.holds with ⟨v, hv, hlen, hsame⟩
  rcases h.agrees with ⟨cs, hopened, hagrees⟩
  rcases hv.put b.len os with ⟨v', hv', hlen', htake⟩
  have hmem : b.ctlv.fill b.len os = (b.written os).ctlv := by
    unfold CompState.fill written
    rw [h.value]
  rw [hmem] at hv'
  refine ⟨⟨v', hv', hlen'.trans hlen, ?_⟩, ⟨cs, ?_, hagrees⟩, h.tags, h.tag_le, h.small, ?_, ?_,
    h.maxLen, inside_of_copy hok⟩
  · have hnew := htake c.value h.len.symm (by
      rw [h.len, hsame]
      exact congrArg (c.value.take ·) hlen.symm)
    rw [h.len] at hnew
    rw [length_append]
    exact hnew.trans (congrArg ((c.value ++ os).take ·) hlen)
  · unfold written
    rw [hopened]
    rfl
  · rw [← hmem]
    show b.value = _
    rw [h.value, CompState.getData, CompState.getData, hv.tagSize_eq, hv.lenSize_eq]
    rw [hmem, hv'.tagSize_eq, hv'.lenSize_eq, hlen']
    rfl
  · show b.len + os.length = (c.value ++ os).length
    rw [h.len, length_append]

lemma Open.close (h : Open b es c) (hok : b.closeContainer = .ok b') :
    (∃ e, Agrees e c ∧ Closed b' (es ++ [e])) ∧ b'.opened = b.opened := by
  rcases h.holds with ⟨v, hv, hlen, hsame⟩
  rcases h.agrees with ⟨cs, hopened, hagrees⟩
  have hinside : b.value + b.len ≤ b.ctlv.builder.pdu + b.ctlv.builder.max := h.inside
  have hget : b.ctlv.builder.pdu ≤ b.ctlv.getData := by
    unfold CompState.getData CompState.tlv
    omega
  have hn : b.len ≤ 0xffff := by
    have hsmall := h.small
    have hvalue := h.value
    omega
  unfold closeContainer at hok
  simp only at hok
  split_ifs at hok with hset
  cases hok
  rw [CompState.setLength_true hset]
  rcases hv.resize (setLength_room hv h.small hn hset) with ⟨v', hv', hlen', htake, hparents⟩
  have hagree : Agrees ⟨c.cr, c.tag, v'⟩ c := by
    refine ⟨rfl, rfl, hlen'.trans h.len, ?_⟩
    rw [h.len] at hlen' htake
    show v'.take c.maxLen = _
    simp only [hlen] at htake
    rcases Nat.le_total c.value.length c.maxLen with hshort | hlong
    · rw [Nat.min_eq_right hshort, hsame] at htake
      rw [take_of_length_le (by omega), ← htake, take_of_length_le (by omega)]
    · rw [Nat.min_eq_left hlong] at htake
      rw [htake, ← hsame, take_of_length_le (by omega), take_of_length_le (by omega)]
  refine ⟨⟨_, hagree, hv'.stands, ?_, ?_, h.small, hv.parentKept_resize hv' hparents, ?_⟩, rfl⟩
  · show List.Forall₂ Agrees _ b.opened.reverse
    rw [hopened, reverse_cons]
    exact rel_append hagrees (.cons hagree .nil)
  · intro e he
    rcases mem_append.mp he with he | he
    · exact h.tags e he
    · rw [mem_singleton.mp he]
      exact ⟨hv.tag_pos, h.tag_le⟩
  · intro _
    have hend := hv'.getData_add
    have hused := hv'.used_eq
    have hlast : (b.ctlv.resize b.len).builder.len = b.len := rfl
    have hbegin : (b.ctlv.resize b.len).builder.pdu ≤ (b.ctlv.resize b.len).getData := by
      unfold CompState.getData CompState.tlv
      omega
    show (b.ctlv.resize b.len).getData - (b.ctlv.resize b.len).builder.pdu + b.len =
      (b.ctlv.resize b.len).used
    rw [hlast] at hend
    omega

variable {type : DataObjectType} {body : StkTlvBuilder → Outcome StkTlvBuilder}

/-- The builder that a body of a container has succeeded on, and the one it has left. -/
lemma Closed.container_ok (h : Closed b es) (hok : b.container cr type relocatable body = .ok b') :
    ∃ b₁ b₂, Open b₁ es ⟨⟨cr, type.code, []⟩, if relocatable then 0xff else 0x7f⟩ ∧
      b.openContainer cr type.code relocatable = .ok b₁ ∧ body b₁ = .ok b₂ ∧ b₂.closeContainer = .ok b' := by
  unfold StkTlvBuilder.container at hok
  rcases Outcome.bind_eq_ok.mp hok with ⟨b₁, hopen, hrest⟩
  rcases Outcome.bind_eq_ok.mp hrest with ⟨b₂, hfill, hclose⟩
  exact ⟨b₁, b₂, (h.openContainer type.code_pos type.code_le hopen).1, hopen, hfill, hclose⟩

lemma Closed.filled (h : Closed b es) {b₁ b₂ : StkTlvBuilder} (hopen : b.openContainer cr type.code
    relocatable = .ok b₁) (hcopy : b₁.copy os = .ok b₂) (hclose : b₂.closeContainer = .ok b') :
    ∃ e, Agrees e ⟨⟨cr, type.code, os⟩, if relocatable then 0xff else 0x7f⟩ ∧
    Added b b' es e ⟨⟨cr, type.code, os⟩, if relocatable then 0xff else 0x7f⟩ := by
  rcases h.openContainer type.code_pos type.code_le hopen with ⟨hopen₁, hopened₁⟩
  rcases (hopen₁.copy hcopy).close hclose with ⟨⟨e, hagree, hclosed⟩, hsame⟩
  refine ⟨e, hagree, hclosed, ?_, ?_⟩
  · rw [hsame, (copy_eq_ok hcopy).1]
    unfold written
    rw [hopened₁]
    rfl
  · rw [place_closeContainer hclose, place_copy hcopy, place_openContainer hopen]

lemma Closed.container_copy (h : Closed b es) {Q : List UInt8 → Prop} (hbody : ∀ b₁ b₂,
    Open b₁ es ⟨⟨cr, type.code, []⟩, if relocatable then 0xff else 0x7f⟩ → body b₁ = .ok b₂ →
    ∃ os, Q os ∧ b₁.copy os = .ok b₂) (hok : b.container cr type relocatable body = .ok b') :
    ∃ e os, Q os ∧ Agrees e ⟨⟨cr, type.code, os⟩, if relocatable then 0xff else 0x7f⟩ ∧
    Added b b' es e ⟨⟨cr, type.code, os⟩, if relocatable then 0xff else 0x7f⟩ := by
  rcases h.container_ok hok with ⟨b₁, b₂, hopen₁, hopens, hfill, hclose⟩
  rcases hbody b₁ b₂ hopen₁ hfill with ⟨os, hos, hcopy⟩
  rcases h.filled hopens hcopy hclose with ⟨e, hagree, hadded⟩
  exact ⟨e, os, hos, hagree, hadded⟩

lemma Open.roomy (h : Open b es c) (hlen : c.value.length ≤ c.maxLen) : b.Roomy := by
  refine ⟨by rw [h.len, h.maxLen]; exact hlen, ?_, h.small⟩
  rw [h.value]
  unfold CompState.getData CompState.tlv
  omega

/-- The body appends octets of a kind, which depend on the room there is. -/
def AppendsSome (body : StkTlvBuilder → Outcome StkTlvBuilder) (Q : List UInt8 → Prop) : Prop :=
  ∀ b b', b.Inside → b.Roomy → body b = .ok b' →
    ∃ os, Q os ∧ b.copy os = .ok b' ∧ b.len + os.length ≤ b.maxLen

lemma Appends.some (h : Appends body os) : AppendsSome body (· = os) := by
  intro b b' hinside hroomy hok
  have hcopy := h.puts b b' hinside hok
  have hlen := (h.roomy b b' hroomy hok).len_le
  rcases copy_eq_ok hcopy with ⟨rfl, -⟩
  exact ⟨os, rfl, hcopy, hlen⟩

lemma Closed.container_appends (h : Closed b es) {Q : List UInt8 → Prop} (hbody : AppendsSome body
    Q) (hok : b.container cr type relocatable body = .ok b') : ∃ os maxLen, Q os ∧ os.length ≤
    maxLen ∧ maxLen ≤ 0xff ∧ Added b b' es ⟨cr, type.code, os⟩ ⟨⟨cr, type.code, os⟩, maxLen⟩ := by
  have hsome : ∀ b₁ b₂, Open b₁ es ⟨⟨cr, type.code, []⟩, if relocatable then 0xff else 0x7f⟩ →
      body b₁ = .ok b₂ →
      ∃ os, (Q os ∧ os.length ≤ if relocatable then 0xff else 0x7f) ∧ b₁.copy os = .ok b₂ := by
    intro b₁ b₂ hopen hfill
    rcases hbody b₁ b₂ hopen.inside (hopen.roomy (Nat.zero_le _)) hfill with ⟨os, hos, hcopy, hlen⟩
    rw [hopen.len, hopen.maxLen, length_nil, Nat.zero_add] at hlen
    exact ⟨os, ⟨hos, hlen⟩, hcopy⟩
  rcases h.container_copy hsome hok with ⟨e, os, ⟨hos, hlen⟩, hagree, hadded⟩
  rw [hagree.eq hlen] at hadded
  exact ⟨os, _, hos, hlen, by split <;> decide, hadded⟩

/-! ## What is read -/

/-- The octets that a builder has taken more than another one. -/
def newOctets (b b' : StkTlvBuilder) : List UInt8 :=
  b'.ctlv.mem.slice (b'.ctlv.builder.pdu + b.ctlv.used) (b'.ctlv.used - b.ctlv.used)

lemma Closed.next_new (h : Closed b es) (h' : Closed b' (es ++ [e])) :
    comprehensionTlvIterNext (newOctets b b') = some (e, []) ∧ b.ctlv.used < b'.ctlv.used := by
  have hused := h.stands.used_eq
  have hused' := h'.stands.used_eq
  have hat := h'.stands.octets
  rw [flatMap_append, flatMap_singleton] at hused' hat
  rw [length_append, ← hused] at hused'
  rw [Memory.at_append, ← hused] at hat
  have hread := comprehensionTlvIterNext_encode (h'.valid e (by simp)) []
  have hpos : 0 < e.encode.length := by
    rw [CompState.length_encode, length_compTagOctets]
    split_ifs <;> omega
  refine ⟨?_, by omega⟩
  unfold newOctets
  rw [hused', Nat.add_sub_cancel_left, hat.2.slice_eq]
  rwa [append_nil] at hread

end StkTlvBuilder

end Phonelets.Stk
