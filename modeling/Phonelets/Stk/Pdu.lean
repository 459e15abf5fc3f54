import Mathlib
import Phonelets.Stk.BuilderRoundTrip
import Phonelets.Stk.PduObjects

/-! # PDUs of responses and envelopes

`ResponseDelivered` and `EnvelopeDelivered` say what a reader may expect of a PDU: the
containers that were opened, each with the octets appended to it. A packed text that is
longer than its container loses an octet when the container is closed (the length field
grows, and only the octets of the container are moved), and one that was in the buffer
before comes in at its end.
-/

namespace Phonelets.Stk

open List Option Outcome
open Phonelets.Sim
open Outcome (orReject orFault)

namespace StkTlvBuilder

/-! ## The memory behind a container -/

variable {s : CompState} {b b' : StkTlvBuilder} {es : List CompTlv} {e : CompTlv} {c : Container}
  {os : List UInt8} {i : ℕ}

lemma mem_resize {n : ℕ} (hi : s.tlv + s.tagSize + lenFieldSizeNeeded n + min s.builder.len n ≤ i) :
    (s.resize n).mem i = s.mem i := by
  have hlen := length_lengthOctets n
  unfold CompState.resize
  dsimp only
  rw [Memory.write_outside _ (Or.inr (by omega))]
  split_ifs
  · exact Memory.write_outside _ (Or.inr (by rw [Memory.length_slice]; exact hi))
  · rfl

variable {cr : Bool}

lemma mem_advance (h : s.used < 2 ^ 32) {tag : ℕ}
    (hi : s.builder.pdu + s.used + CompState.newSize tag ≤ i) : (s.advance cr tag).mem i = s.mem i := by
  have hpos : (s.builder.pos + s.prevSize) % 2 ^ 32 = s.used := Nat.mod_eq_of_lt h
  have hsize := CompState.newSize_eq cr tag
  unfold CompState.advance
  dsimp only
  rw [hpos, Memory.write_outside _ (Or.inr (by rw [length_singleton]; omega)),
    Memory.write_outside _ (Or.inr (by omega))]

lemma Open.value_eq (h : Open b es c) : b.value = b.ctlv.tlv + b.ctlv.tagSize + lenFieldSizeNeeded
    c.maxLen ∧ b.ctlv.tlv = b.ctlv.builder.pdu + (es.flatMap CompTlv.encode).length ∧
    b.ctlv.tagSize = (compTagOctets c.cr c.tag).length ∧ b.ctlv.builder.len = c.maxLen := by
  rcases h.holds with ⟨v, hv, hlen, -⟩
  refine ⟨?_, ?_, hv.tagSize_eq, hv.len_eq.trans hlen⟩
  · rw [h.value, CompState.getData, hv.lenSize_eq, hlen]
  · rw [CompState.tlv, hv.pos_eq]

variable {type : DataObjectType}

lemma mem_openContainer (h : Closed b es) {relocatable : Bool} (hok : b.openContainer cr type.code
    relocatable = .ok b') (hi : b'.value ≤ i) : b'.ctlv.mem i = b.ctlv.mem i := by
  rcases (h.openContainer type.code_pos type.code_le hok).1.value_eq with ⟨hvalue, htlv, htag, -⟩
  rcases h.begun type.code_pos rfl hok with ⟨hholds, -, rfl⟩
  dsimp only at hi hvalue htlv htag ⊢
  generalize (if relocatable then 0xff else 0x7f) = maxLen at *
  have hsize := CompState.newSize_eq cr type.code
  have hneeded := lenFieldSizeNeeded_pos maxLen
  have hused := h.stands.used_eq
  have hend : b.ctlv.builder.pdu + b.ctlv.used + (compTagOctets cr type.code).length +
      lenFieldSizeNeeded maxLen ≤ i := by
    rw [hvalue, htlv, htag, ← hused] at hi
    exact hi
  have htlv' : (b.ctlv.advance cr type.code).tlv = b.ctlv.builder.pdu + b.ctlv.used := by
    rw [hused]
    exact htlv
  have htag' : (b.ctlv.advance cr type.code).tagSize = (compTagOctets cr type.code).length :=
    hholds.tagSize_eq
  rw [mem_resize, mem_advance h.stands.used_lt]
  · omega
  · rw [htlv', htag', show (b.ctlv.advance cr type.code).builder.len = 0 from rfl, Nat.zero_min]
    exact hend

lemma mem_copy (hok : b.copy os = .ok b') (hi : b.value + b.len + os.length ≤ i) :
    b'.ctlv.mem i = b.ctlv.mem i := by
  rw [(copy_eq_ok hok).1]
  exact Memory.write_outside _ (Or.inr hi)

lemma mem_closeContainer (hok : b.closeContainer = .ok b')
    (hi : b.ctlv.tlv + b.ctlv.tagSize + lenFieldSizeNeeded b.len + min b.ctlv.builder.len b.len ≤ i) :
    b'.ctlv.mem i = b.ctlv.mem i := by
  unfold closeContainer at hok
  dsimp only at hok
  split_ifs at hok with hset
  cases hok
  rw [CompState.setLength_true hset]
  exact mem_resize hi

lemma Closed.used_append (h : Closed b (es ++ [e])) :
    b.ctlv.used = (es.flatMap CompTlv.encode).length + e.encode.length := by
  rw [h.stands.used_eq, flatMap_append, length_append, flatMap_singleton]

lemma Closed.last_value (h : Closed b (es ++ [e])) :
    b.ctlv.mem.At (b.ctlv.builder.pdu + (es.flatMap CompTlv.encode).length + e.header.length) e.value := by
  have hat := h.stands.octets
  rw [flatMap_append, flatMap_singleton, Memory.at_append, CompTlv.encode, Memory.at_append] at hat
  exact hat.2.2

/-- A container with a length field of one octet leaves alone what is behind its TLV. -/
lemma Closed.container_mem (h : Closed b es) {body : StkTlvBuilder → Outcome StkTlvBuilder}
    {Q : List UInt8 → Prop} (hbody : AppendsSome body Q) (hok : b.container cr type false body =
    .ok b') : ∃ os, Q os ∧ Added b b' es ⟨cr, type.code, os⟩ ⟨⟨cr, type.code, os⟩, 0x7f⟩ ∧
    b'.ctlv.used = b.ctlv.used + ((compTagOctets cr type.code).length + 1 + os.length) ∧
    ∀ i, b'.ctlv.builder.pdu + b'.ctlv.used ≤ i → b'.ctlv.mem i = b.ctlv.mem i := by
  rcases h.container_ok hok with ⟨b₁, b₂, hopen₁, hopens, hfill, hclose⟩
  rcases hbody b₁ b₂ hopen₁.inside (hopen₁.roomy (Nat.zero_le _)) hfill with ⟨os, hos, hcopy, hlen⟩
  rw [hopen₁.len, hopen₁.maxLen, length_nil, Nat.zero_add] at hlen
  have hshort : os.length ≤ 0x7f := hlen
  rcases h.filled hopens hcopy hclose with ⟨e, hagree, hadded⟩
  obtain rfl : e = ⟨cr, type.code, os⟩ := hagree.eq hlen
  have hopen₂ := hopen₁.copy hcopy
  rcases hopen₁.value_eq with ⟨hvalue, htlv, htag, -⟩
  rcases hopen₂.value_eq with ⟨hvalue₂, htlv₂, htag₂, hlen₂⟩
  have hpdu : b'.ctlv.builder.pdu = b₁.ctlv.builder.pdu :=
    (congrArg Prod.fst (hadded.place.trans (place_openContainer hopens).symm))
  have hpdu₂ : b₂.ctlv.builder.pdu = b₁.ctlv.builder.pdu := congrArg Prod.fst (place_copy hcopy)
  have hused := hadded.closed.used_append
  have hone : lenFieldSizeNeeded os.length = 1 := if_pos hshort
  have hmax : lenFieldSizeNeeded 0x7f = 1 := rfl
  have hnone : b₁.len = 0 := hopen₁.len
  have hfull : b₂.len = os.length := hopen₂.len
  rw [CompState.length_encode] at hused
  simp only [hone, hmax, if_neg (show ¬ (false = true) by decide)] at hused hvalue hvalue₂ htag htag₂
  refine ⟨os, hos, hadded, by rw [hused, h.stands.used_eq], fun i hi => ?_⟩
  rw [mem_closeContainer hclose (by rw [hfull, hone]; omega), mem_copy hcopy (by omega),
    mem_openContainer h hopens (by omega)]

/-- A text that outgrows its container: the octet behind those of the container is lost. -/
lemma Closed.outgrown (h : Closed b es) (hshort : type.code < 0x7f) {b₁ b₂ : StkTlvBuilder}
    (hopen : b.openContainer cr type.code true = .ok b₁) (hcopy : b₁.copy os = .ok b₂)
    (hclose : b₂.closeContainer = .ok b') (hlong : 0xff < os.length) : ∃ e, e.cr = cr ∧
    e.tag = type.code ∧ Added b b' es e ⟨⟨cr, type.code, os⟩, 0xff⟩ ∧ e.value = os.take 0xff ++
    (os.drop 0x100 ++ [b.ctlv.mem (b.ctlv.builder.pdu + b.ctlv.used + 3 + os.length)]) := by
  rcases h.filled hopen hcopy hclose with ⟨e, hagree, hadded⟩
  refine ⟨e, hagree.cr, hagree.tag, hadded, ?_⟩
  have hopen₁ := (h.openContainer type.code_pos type.code_le hopen).1
  have hopen₂ := hopen₁.copy hcopy
  rcases hopen₁.value_eq with ⟨hvalue, htlv, htag, -⟩
  rcases hopen₂.value_eq with ⟨hvalue₂, htlv₂, htag₂, hlen₂⟩
  have hpdu : b.ctlv.builder.pdu = b₁.ctlv.builder.pdu := congrArg Prod.fst (place_openContainer hopen).symm
  have hpdu' : b'.ctlv.builder.pdu = b₁.ctlv.builder.pdu := (congrArg Prod.fst hadded.place).trans hpdu
  have hpdu₂ : b₂.ctlv.builder.pdu = b₁.ctlv.builder.pdu := congrArg Prod.fst (place_copy hcopy)
  have hnone : b₁.len = 0 := hopen₁.len
  have hfull : b₂.len = os.length := hopen₂.len
  have hone : (compTagOctets cr type.code).length = 1 := by
    rw [length_compTagOctets, if_pos hshort]
  have hmax : lenFieldSizeNeeded 0xff = 2 := rfl
  have hroom := (copy_eq_ok hcopy).2
  have hsmall := hopen₁.small
  have hthree : lenFieldSizeNeeded os.length = 3 := by
    unfold lenFieldSizeNeeded
    split_ifs <;> omega
  have hlen : e.value.length = os.length := hagree.length
  have hheader : e.header.length = 4 := by
    rw [CompTlv.header, length_append, length_lengthOctets, hlen, hthree, hagree.cr, hagree.tag, hone]
  have hused := h.stands.used_eq
  have hoctets := hagree.octets
  simp only [hmax, if_pos] at hvalue hvalue₂ htag htag₂ hlen₂ hoctets
  -- the octets from 0xff on are what stood one octet further on
  have hmoved : ∀ i, b₁.value + 0x100 ≤ i → b'.ctlv.mem i = b₂.ctlv.mem i := by
    intro i hi
    exact mem_closeContainer hclose (by rw [hfull, hthree]; omega)
  have htail : e.value.drop 0xff = b₂.ctlv.mem.slice (b₁.value + 0x100) (os.length - 0xff) := by
    have hat := hadded.closed.last_value.slice_eq
    rw [← hat, Memory.drop_slice _ _ (by omega), hlen]
    rw [show b'.ctlv.builder.pdu + (es.flatMap CompTlv.encode).length + e.header.length + 0xff =
      b₁.value + 0x100 by omega]
    exact Memory.slice_congr fun i hi _ => hmoved i hi
  have hwritten : b₂.ctlv.mem.slice (b₁.value + 0x100) (os.length - 0x100) = os.drop 0x100 := by
    rw [(copy_eq_ok hcopy).1]
    show (b₁.ctlv.mem.write (b₁.value + b₁.len) os).slice _ _ = _
    rw [hnone, Nat.add_zero, ← Memory.drop_slice _ _ (by omega : 0x100 ≤ os.length),
      (Memory.at_write b₁.ctlv.mem b₁.value os).slice_eq]
  have hstale : b₂.ctlv.mem (b₁.value + os.length) =
      b.ctlv.mem (b.ctlv.builder.pdu + b.ctlv.used + 3 + os.length) := by
    rw [mem_copy hcopy (by omega), mem_openContainer h hopen (by omega),
      show b₁.value + os.length = b.ctlv.builder.pdu + b.ctlv.used + 3 + os.length by omega]
  calc e.value = e.value.take 0xff ++ e.value.drop 0xff := (take_append_drop _ _).symm
    _ = os.take 0xff ++ b₂.ctlv.mem.slice (b₁.value + 0x100) (os.length - 0x100 + 1) := by
        rw [hoctets, htail, show os.length - 0xff = os.length - 0x100 + 1 by omega]
    _ = _ := by
        rw [Memory.slice_add, hwritten, Memory.slice_succ, Memory.slice_zero,
          show b₁.value + 0x100 + (os.length - 0x100) = b₁.value + os.length by omega, hstale]

end StkTlvBuilder

open StkTlvBuilder (Closed Open Added AppendsSome container place appendByte appends_byte)

lemma compReads_unique {os : List UInt8} {es es' : List CompTlv} (h : CompReads os es)
    (h' : CompReads os es') : es = es' := by
  induction es generalizing os es' with
  | nil =>
    cases es' with
    | nil => rfl
    | cons e' es' =>
      rcases h' with ⟨after, hnext, -⟩
      rw [show os = [] from h] at hnext
      cases hnext
  | cons e es ih =>
    rcases h with ⟨after, hnext, hrest⟩
    cases es' with
    | nil =>
      rw [show os = [] from h'] at hnext
      cases hnext
    | cons e' es' =>
      rcases h' with ⟨after', hnext', hrest'⟩
      rw [hnext] at hnext'
      cases hnext'
      rw [ih hrest hrest']

/-- The TLVs of the containers that were opened, in order. -/
def StkTlvBuilder.objects (b : StkTlvBuilder) : List CompTlv := b.opened.reverse.map Container.toCompTlv

/-! ## Terminal responses -/

section Response

variable {env : StkEnv} {pdu : ℕ} {mem : Memory} {response : StkResponse} {b b' : StkTlvBuilder}
  {es : List CompTlv}

/-- The command details, the device identities and the result. -/
def responseHead (response : StkResponse) : List CompTlv :=
  [⟨true, DataObjectType.commandDetails.code, [response.number, response.type, response.qualifier]⟩,
    ⟨true, DataObjectType.deviceIdentities.code, [response.src, response.dst]⟩,
    ⟨true, DataObjectType.result.code, response.result.type :: response.result.additional⟩]

/-- What is read from the PDU of a response: its three first objects and all others that
were opened, and nothing else. -/
structure ResponseDelivered (pdu : ℕ) (response : StkResponse) (b : StkTlvBuilder) : Prop where
  length : b.getLength ≤ 512
  head : responseHead response <+: b.objects
  reads : CompReads (b.ctlv.mem.slice pdu b.getLength) b.objects

/-- The text that is packed fits its container of 255 octets, or the octet that comes in at
its end is as good as the one that is lost. -/
def Unharmed (env : StkEnv) (pdu : ℕ) (mem : Memory) (response : StkResponse) : Prop :=
  ∀ s, response.packedText = some s →
    let os := packedString env s.bytes
    os.length ≤ 0xff ∨
      os.drop 0xff = os.drop 0x100 ++ [mem (pdu + 15 + response.result.additional.length + os.length)]

/-- The memory behind the octets used is what it was at first. -/
def Behind (pdu : ℕ) (mem : Memory) (b : StkTlvBuilder) : Prop :=
  b.ctlv.builder.pdu = pdu ∧ ∀ i, pdu + b.ctlv.used < i → b.ctlv.mem i = mem i

lemma headObject (h : Closed b es) (hbehind : Behind pdu mem b) {type : DataObjectType}
    (hshort : type.code < 0x7f) {body : StkTlvBuilder → Outcome StkTlvBuilder} {os : List UInt8}
    (hbody : StkTlvBuilder.Appends body os) (hok : container true type false body b = .ok b') :
    Added b b' es ⟨true, type.code, os⟩ ⟨⟨true, type.code, os⟩, 0x7f⟩ ∧
      b'.ctlv.used = b.ctlv.used + (2 + os.length) ∧ Behind pdu mem b' := by
  rcases h.container_mem hbody.some hok with ⟨_, rfl, hadded, hused, hmem⟩
  rw [length_compTagOctets, if_pos hshort] at hused
  have hpdu : b'.ctlv.builder.pdu = pdu := (congrArg Prod.fst hadded.place).trans hbehind.1
  rw [hpdu] at hmem
  refine ⟨hadded, hused, hpdu, fun i hi => ?_⟩
  rw [hmem i (by omega), hbehind.2 i (by omega)]

/-- The builder behind the first three objects. -/
structure HeadBuilt (pdu : ℕ) (mem : Memory) (response : StkResponse) (b : StkTlvBuilder) : Prop where
  closed : Closed b (responseHead response)
  objects : b.objects = responseHead response
  place : b.place = (pdu, 512, [])
  used : b.ctlv.used = 12 + response.result.additional.length
  behind : Behind pdu mem b

lemma headBuilt (h : stkPduFromResponse env pdu mem response = .ok b') :
    ∃ b, HeadBuilt pdu mem response b ∧ buildResponseData env response b = .ok b' := by
  rcases Outcome.bind_eq_ok.mp h with ⟨b₀, hinit, hrest⟩
  rcases Outcome.bind_eq_ok.mp hrest with ⟨b₃, hhead, hdata⟩
  rcases Outcome.bind_eq_ok.mp hhead with ⟨b₁, hdetails, hhead⟩
  rcases Outcome.bind_eq_ok.mp hhead with ⟨b₂, hids, hresult⟩
  rcases StkTlvBuilder.closed_init (orFault_eq_ok.mp hinit) (by decide) with ⟨hclosed₀, hopened₀⟩
  have hused₀ : b₀.ctlv.used = 0 := hclosed₀.stands.used_eq
  rcases map_eq_some_iff.mp (orFault_eq_ok.mp hinit) with ⟨ctlv, hctlv, rfl⟩
  rcases CompState.init_eq hctlv with ⟨-, rfl⟩
  have hbehind₀ : Behind pdu mem ⟨⟨⟨512, 0, pdu, 0⟩, [], mem.write pdu [0]⟩, 0, 0, 0, []⟩ := by
    refine ⟨rfl, fun i hi => Memory.write_outside mem (Or.inr ?_)⟩
    rw [length_singleton]
    exact Nat.lt_of_le_of_lt (Nat.le_add_right _ _) hi
  rcases headObject hclosed₀ hbehind₀ (by decide)
    ((appends_byte response.number).kleisli ((appends_byte response.type).kleisli
      (appends_byte response.qualifier))) hdetails with ⟨hadded₁, hused₁, hbehind₁⟩
  rcases headObject hadded₁.closed hbehind₁ (by decide)
    ((appends_byte response.src).kleisli (appends_byte response.dst)) hids with ⟨hadded₂, hused₂, hbehind₂⟩
  rcases headObject hadded₂.closed hbehind₂ (by decide)
    ((appends_byte response.result.type).kleisli (appends_unlessEmpty response.result.additional))
    hresult with ⟨hadded₃, hused₃, hbehind₃⟩
  refine ⟨b₃, ⟨hadded₃.closed, ?_, ?_, ?_, hbehind₃⟩, hdata⟩
  · unfold StkTlvBuilder.objects
    rw [hadded₃.opened, hadded₂.opened, hadded₁.opened]
    rfl
  · rw [hadded₃.place, hadded₂.place, hadded₁.place]
    rfl
  · rw [hused₃, hused₂, hused₁, hused₀]
    simp only [length_append, length_cons, length_nil]
    omega

lemma responseData_eq_text {s : HeapString} (h : response.packedText = some s) :
    ∃ text rest, text.packedText = some s ∧ Keeps rest ∧
      buildResponseData env response = (buildDataobjText env text true >=> rest) := by
  unfold StkResponse.packedText at h
  unfold buildResponseData
  split at h
  · rename_i htype
    rw [htype]
    exact ⟨_, _, h, ((writes_duration response.getInkey.duration).keeps false).alone, rfl⟩
  · rename_i htype
    rw [htype]
    exact ⟨_, _, h, keeps_nothing, rfl⟩
  · cases h

lemma text_outgrown (h : Closed b es) {text : StkAnswerText} {s : HeapString}
    (hpacked : text.packedText = some s) (hlong : 0xff < (packedString env s.bytes).length) (hok :
    buildDataobjText env text true b = .ok b') : ∃ e, e.cr = true ∧ e.tag = DataObjectType.text.code
    ∧ Added b b' es e ⟨⟨true, DataObjectType.text.code, packedString env s.bytes⟩, 0xff⟩ ∧
    e.value = (packedString env s.bytes).take 0xff ++ ((packedString env s.bytes).drop 0x100 ++
    [b.ctlv.mem (b.ctlv.builder.pdu + b.ctlv.used + 3 + (packedString env s.bytes).length)]) := by
  rcases text.packedText_eq_some hpacked with ⟨htext, hpack, hyesno⟩
  unfold buildDataobjText appendAnswer at hok
  rw [if_neg (by rw [htext]; simp), hyesno, if_neg (by decide), htext, hpack] at hok
  simp only [if_pos] at hok
  rcases h.container_ok hok with ⟨b₁, b₂, -, hopens, hfill, hclose⟩
  exact h.outgrown (by decide) hopens (copy_of_appendGsmPacked hfill) hclose hlong

lemma objects_ne_nil (h : b.objects ≠ []) : b.opened ≠ [] := by
  intro hopened
  refine h ?_
  unfold StkTlvBuilder.objects
  rw [hopened]
  rfl

lemma delivered_iff {objects : List CompTlv} (hclosed : Closed b (responseHead response ++ es))
    (hplace : b.place = (pdu, 512, [])) (hobjects : b.objects = responseHead response ++ objects) :
    ResponseDelivered pdu response b ↔ es = objects := by
  have hpdu : b.ctlv.builder.pdu = pdu := congrArg Prod.fst hplace
  have hmax : b.ctlv.builder.max = 512 := congrArg (·.2.1) hplace
  have hlength : b.getLength = b.ctlv.used :=
    hclosed.length (objects_ne_nil (by rw [hobjects]; exact cons_ne_nil _ _))
  have hreads := hclosed.reads
  rw [hpdu, ← hlength] at hreads
  constructor
  · intro hdelivered
    have hsame := compReads_unique hreads hdelivered.reads
    rw [hobjects] at hsame
    exact append_cancel_left hsame
  · rintro rfl
    refine ⟨?_, hobjects ▸ prefix_append _ _, hobjects ▸ hreads⟩
    rw [hlength, ← hmax]
    exact hclosed.stands.fits

lemma objects_append {cs : List Container} (h : b'.opened = cs ++ b.opened) :
    b'.objects = b.objects ++ cs.reverse.map Container.toCompTlv := by
  unfold StkTlvBuilder.objects
  rw [h, reverse_append, map_append]

/-- A PDU of a response is as it should be unless a text that is packed loses an octet. -/
lemma responseDelivered_iff (h : stkPduFromResponse env pdu mem response = .ok b') :
    ResponseDelivered pdu response b' ↔ Unharmed env pdu mem response := by
  rcases headBuilt h with ⟨b, hbuilt, hdata⟩
  by_cases hfits : ∀ s, response.packedText = some s → (packedString env s.bytes).length ≤ 0xff
  · rcases keeps_responseData hfits b b' _ hbuilt.closed hdata with ⟨cs, hext⟩
    have hobjects := objects_append hext.opened
    rw [hbuilt.objects] at hobjects
    exact iff_of_true ((delivered_iff hext.closed (hext.place.trans hbuilt.place) hobjects).mpr rfl)
      fun s hs => .inl (hfits s hs)
  · push Not at hfits
    rcases hfits with ⟨s, hpacked, hlong⟩
    rcases @responseData_eq_text env response s hpacked with ⟨text, rest, htext, hrest, hdata'⟩
    rw [hdata'] at hdata
    rcases Outcome.bind_eq_ok.mp hdata with ⟨b₁, hwrite, hothers⟩
    rcases text_outgrown hbuilt.closed htext hlong hwrite with ⟨e, hcr, htag, hadded, hvalue⟩
    rcases hrest b₁ b' _ hadded.closed hothers with ⟨cs, hext⟩
    have hclosed := hext.closed
    have hobjects := objects_append hext.opened
    rw [@objects_append _ _ [_] hadded.opened, hbuilt.objects, append_assoc] at hobjects
    rw [append_assoc] at hclosed
    rw [delivered_iff hclosed (hext.place.trans (hadded.place.trans hbuilt.place)) hobjects,
      append_left_inj]
    have hstale : b.ctlv.mem (b.ctlv.builder.pdu + b.ctlv.used + 3 + (packedString env s.bytes).length) =
        mem (pdu + 15 + response.result.additional.length + (packedString env s.bytes).length) := by
      rw [hbuilt.behind.1, hbuilt.used, hbuilt.behind.2 _ (by rw [hbuilt.used]; omega)]
      congr 1
      omega
    rw [hstale] at hvalue
    have hunharmed : Unharmed env pdu mem response ↔ e.value = packedString env s.bytes := by
      rw [hvalue]
      constructor
      · intro h
        rcases h s hpacked with hshort | hsame
        · omega
        · rw [← hsame, take_append_drop]
      · intro h s' hs'
        rw [hpacked] at hs'
        cases hs'
        refine .inr ?_
        have hdrop := congrArg (List.drop 0xff) h
        rw [drop_left' (by rw [length_take]; omega)] at hdrop
        exact hdrop.symm
    rw [hunharmed]
    constructor
    · intro h
      rw [singleton_inj.mp h]
    · intro h
      show [e] = [⟨true, DataObjectType.text.code, packedString env s.bytes⟩]
      rw [← hcr, ← htag, ← h]

end Response

/-! ## Envelopes -/

section Envelope

variable {env : StkEnv} {uninit : BerTlvBuilder} {buffer : ℕ} {mem : Memory} {envelope : StkEnvelope}
  {b : StkTlvBuilder} {os : List UInt8}

/-- What is read from the PDU of an envelope: one BER-TLV of its tag, and in that the objects
that were opened. -/
def EnvelopeDelivered (envelope : StkEnvelope) (b : StkTlvBuilder) (os : List UInt8) : Prop :=
  ∃ value, berTlvIterNext os = some (⟨.ofBits (envelope.type >>> 6).toNat,
      .ofBits ((envelope.type >>> 5) &&& 1).toNat, (envelope.type &&& 0x1f).toNat, value⟩, []) ∧
    CompReads value b.objects

lemma envelope_type {b₀ : StkTlvBuilder} (h : buildEnvelopeData env envelope b₀ = .ok b) :
    0xd1 ≤ envelope.type.toNat ∧ envelope.type.toNat ≤ 0xdc := by
  generalize hbuild : buildEnvelopeData env envelope = build at h
  unfold buildEnvelopeData at hbuild
  split at hbuild
  case h_12 =>
    rw [← hbuild] at h
    cases h
  all_goals omega

lemma envelope_tag {type : UInt8} (h : 0xd1 ≤ type.toNat ∧ type.toNat ≤ 0xdc) :
    (type &&& 0x1f).toNat ≤ 30 ∧ isStuffing (firstTagOctet (.ofBits (type >>> 6).toNat)
    (.ofBits ((type >>> 5) &&& 1).toNat) (type &&& 0x1f).toNat) = false := by
  have hall : ∀ type : UInt8, 0xd1 ≤ type.toNat ∧ type.toNat ≤ 0xdc → (type &&& 0x1f).toNat ≤ 30 ∧
      isStuffing (firstTagOctet (.ofBits (type >>> 6).toNat) (.ofBits ((type >>> 5) &&& 1).toNat)
        (type &&& 0x1f).toNat) = false := Phonelets.Sms.octet_forall (by decide)
  exact hall type h

lemma recurse_ok {btlv : BerTlvBuilder} {tag : UInt8} {b₀ : StkTlvBuilder} (hinit :
    berTlvBuilderInit uninit buffer 512 = some btlv) (h : StkTlvBuilder.recurse ⟨btlv, [], mem⟩
    tag = some b₀) : Closed b₀ [] ∧ b₀.opened = [] ∧ b₀.place = (buffer + 8, 504, [⟨512, 0, buffer,
    (tag &&& 0x1f).toNat, .ofBits (tag >>> 6).toNat, .ofBits ((tag >>> 5) &&& 1).toNat, 0⟩]) := by
  obtain rfl : ({ uninit with pdu := buffer, pos := 0, max := 512, tag := 0xff, len := 0 } : BerTlvBuilder) =
      btlv := Option.some.inj hinit
  unfold StkTlvBuilder.recurse at h
  rcases bind_eq_some_iff.mp h with ⟨s, hnext, hrest⟩
  rcases bind_eq_some_iff.mp hrest with ⟨ctlv, hctlv, hb⟩
  cases hb
  have hready : BerState.Ready
      ⟨{ uninit with pdu := buffer, pos := 0, max := 512, tag := 0xff, len := 0 }, [], mem⟩ :=
    ⟨show 512 < 2 ^ 32 by decide, show 0 + (8 + 0) ≤ 512 by decide⟩
  have hroom : BerState.start
      ⟨{ uninit with pdu := buffer, pos := 0, max := 512, tag := 0xff, len := 0 }, [], mem⟩ +
        (maxBerTlvHeader + 0) ≤ 512 := show 0 + 8 ≤ 512 by decide
  rw [BerState.next_eq hready hroom] at hnext
  cases hnext
  have hcreated := CompState.Created.inside (hready.opened hroom _ _ _) hctlv
  unfold BerState.recurseComprehension at hctlv
  rcases map_eq_some_iff.mp hctlv with ⟨c, hinit', rfl⟩
  rcases CompState.init_eq hinit' with ⟨-, rfl⟩
  refine ⟨StkTlvBuilder.closed_created hcreated rfl ?_, rfl, ?_⟩
  · show buffer + 512 - (buffer + 0 + 8) ≤ 0xffff
    omega
  · show (buffer + 0 + 8, buffer + 512 - (buffer + 0 + 8), _) = _
    rw [Nat.add_zero, show buffer + 512 - (buffer + 8) = 504 by omega]
    rfl

lemma envelopeDelivered (h : stkPduFromEnvelope env uninit buffer mem envelope = .ok (b, os)) :
    EnvelopeDelivered envelope b os := by
  rcases Outcome.bind_eq_ok.mp h with ⟨btlv, hinit, hrest⟩
  rcases Outcome.bind_eq_ok.mp hrest with ⟨b₀, hrecurse, hrest⟩
  rcases Outcome.bind_eq_ok.mp hrest with ⟨b₁, hdata, hrest⟩
  rcases Outcome.bind_eq_ok.mp hrest with ⟨outer, houter, hresult⟩
  cases hresult
  rcases recurse_ok (orReject_eq_ok.mp hinit) (orReject_eq_ok.mp hrecurse) with
    ⟨hclosed₀, hopened₀, hplace₀⟩
  rcases envelope_tag (envelope_type hdata) with ⟨htag, hstuffing⟩
  rcases keeps_envelopeData env envelope b₀ b [] hclosed₀ hdata with ⟨cs, hext⟩
  have hclosed := hext.closed
  have hobjects : b.objects = cs.reverse.map Container.toCompTlv := by
    unfold StkTlvBuilder.objects
    rw [hext.opened, hopened₀, append_nil]
  have hplace := hext.place.trans hplace₀
  rw [nil_append, ← hobjects] at hclosed
  have hpdu : b.ctlv.builder.pdu = buffer + 8 := congrArg Prod.fst hplace
  have hparents := congrArg (·.2.2) hplace
  -- the one parent knows how many octets are used
  rcases hps : b.ctlv.parents with _ | ⟨p, _ | ⟨q, qs⟩⟩
  · simp [StkTlvBuilder.place, hps] at hparents
  · have hlen : p.len = b.ctlv.used := by
      have hparent := hclosed.parent
      unfold CompState.ParentKept at hparent
      rw [hps] at hparent
      exact hparent
    have hp : p = ⟨512, 0, buffer, (envelope.type &&& 0x1f).toNat, .ofBits (envelope.type >>> 6).toNat,
        .ofBits ((envelope.type >>> 5) &&& 1).toNat, b.ctlv.used⟩ := by
      rcases p with ⟨max, pos, pdu, tag, dataType, encoding, len⟩
      simp only [StkTlvBuilder.place, hps, map_cons, map_nil, List.cons.injEq, and_true,
        BerTlvBuilder.mk.injEq] at hparents
      simp only [BerTlvBuilder.mk.injEq]
      tauto
    have hheader := length_headerOctets p.dataType p.encoding p.tag p.len
    rw [if_neg (by rw [hp]; dsimp only; omega)] at hheader
    unfold StkTlvBuilder.outer at houter
    rw [hps] at houter
    cases houter
    refine ⟨b.ctlv.mem.slice (buffer + 8) b.ctlv.used, ?_, hpdu ▸ hclosed.reads⟩
    show berTlvIterNext ((p.writeHeader b.ctlv.mem).slice _ _) = _
    rw [Forest.slice_skipStuffing, Forest.berTlvIterNext_dropWhile]
    have hoctets : (p.writeHeader b.ctlv.mem).slice p.pdu (p.pos + maxBerTlvHeader + p.len) =
        headerOctets p.dataType p.encoding p.tag p.len ++ (b.ctlv.mem.slice (buffer + 8) b.ctlv.used ++ []) := by
      have hat := Memory.at_write b.ctlv.mem (p.pdu + p.pos) (headerOctets p.dataType p.encoding p.tag p.len)
      have hstart : p.pdu = buffer ∧ p.pos = 0 := by
        rw [hp]
        exact ⟨rfl, rfl⟩
      rw [hstart.1, hstart.2, Nat.add_zero] at hat
      unfold BerTlvBuilder.writeHeader
      rw [hstart.1, hstart.2, Nat.add_zero, hlen, Nat.zero_add, Memory.slice_add, append_nil]
      congr 1
      · rw [← hlen, show maxBerTlvHeader = (headerOctets p.dataType p.encoding p.tag p.len).length from
          hheader.symm]
        exact hat.slice_eq
      · exact Memory.slice_write _ (Or.inr (by rw [← hlen, hheader]; exact Nat.le_refl _))
    have hread := @berTlvIterNext_header (.ofBits (envelope.type >>> 6).toNat)
      (.ofBits ((envelope.type >>> 5) &&& 1).toNat) (envelope.type &&& 0x1f).toNat (by omega) (by omega)
      hstuffing (b.ctlv.mem.slice (buffer + 8) b.ctlv.used)
      (by rw [Memory.length_slice]; exact hclosed.stands.used_lt) []
    rw [hoctets, hp]
    rw [Memory.length_slice] at hread
    exact hread
  · simp [StkTlvBuilder.place, hps] at hparents

end Envelope

/-! ## All PDUs -/

/-- Every PDU of an envelope carries the objects that were opened, and one of a response does
if and only if the text that it packs, if any, comes through its container unharmed. -/
theorem pdus_delivered (env : StkEnv) : (∀ pdu mem response b, stkPduFromResponse env pdu mem
    response = .ok b → (ResponseDelivered pdu response b ↔ Unharmed env pdu mem response)) ∧
    ∀ uninit buffer mem envelope b os, stkPduFromEnvelope env uninit buffer mem envelope =
    .ok (b, os) → EnvelopeDelivered envelope b os :=
  ⟨fun _ _ _ _ h => responseDelivered_iff h, fun _ _ _ _ _ _ h => envelopeDelivered h⟩

section Zero

def zeroLocation : StkLocationInfo :=
  ⟨.empty (by decide), .empty (by decide), 0, false, 0, false, 0, false, 0⟩

def zeroMeasurements : StkNetworkMeasurementResults := ⟨[], ⟨false, [], by decide⟩⟩

def zeroBearer : StkBearerDescription := ⟨0, 0, 0, 0, 0, 0, 0⟩

/-- `struct stk_response` after a `memset`, but for the type of the command. -/
def zeroResponse (type : UInt8) : StkResponse where
  number := 0
  type := type
  qualifier := 0
  src := 0
  dst := 0
  result := ⟨0, []⟩
  getInkey := ⟨⟨none, false, false⟩, ⟨.minutes, 0⟩⟩
  getInput := ⟨none, false, false⟩
  pollInterval := ⟨.minutes, 0⟩
  selectItem := 0
  setUpCall := ⟨none, false, ⟨0, []⟩⟩
  provideLocalInfo := ⟨zeroLocation, none, zeroMeasurements, ⟨0, 0, 0, 0, 0, 0, false, 0⟩, none, 0, 0,
    ⟨false, 0, 0⟩, 0, none, 0, none, ⟨0, .empty _⟩, [], [], [], [], []⟩
  timerMgmt := ⟨0, ⟨false, 0, 0, 0⟩⟩
  runAtCommand := none
  sendUssd := ⟨false, [], 0⟩
  openChannel := ⟨⟨0, .packetDataServiceNotActivated⟩, zeroBearer, 0⟩
  receiveData := ⟨[], 0⟩
  sendData := 0
  channelStatus := ⟨0, .packetDataServiceNotActivated⟩

/-- `struct stk_envelope` after a `memset`, but for its type. -/
def zeroEnvelope (type : UInt8) : StkEnvelope where
  type := type
  src := 0
  dst := 0
  smsPpAddress := ⟨0, none⟩
  smsPpMessage := ⟨false, false, false, false, .zero, 0, 0, ⟨0, 0, 0, 0, 0, 0, false, 0⟩, 0, .zero _⟩
  cbsPage := ⟨.cellImmediate, 0, 0, 0, 0, 0, 0, []⟩
  itemId := 0
  helpRequest := false
  callControl := ⟨.callSetup, ⟨0, none⟩, ⟨0, none⟩, ⟨0, .empty _⟩, [], [], .empty _, ⟨false, .empty _⟩,
    zeroLocation, .empty _, none, ⟨false, 0⟩⟩
  scAddress := ⟨0, none⟩
  destAddress := ⟨0, none⟩
  smsMoLocation := zeroLocation
  eventDownload := ⟨0, 0, ⟨0, none⟩, ⟨false, .empty _⟩, .empty _, ⟨false, .empty _⟩, 0, zeroLocation,
    ⟨0, false, false, false, false, false⟩, .empty (by decide), 0, ⟨0, .packetDataServiceNotActivated⟩, 0,
    zeroBearer, none, 0, ⟨0, 0, 0⟩, ⟨0, 0, []⟩, none, ⟨0, 0⟩, none, 0, [], ⟨0, [], by decide, 0⟩, 0,
    zeroLocation, ⟨.empty (by decide), .empty (by decide), 0, 0⟩, ⟨.empty (by decide), .empty (by decide), 0⟩,
    0, 0, 0⟩
  timerId := 0
  timerValue := ⟨false, 0, 0, 0⟩
  ussdString := ⟨0, .empty _⟩
  transferFile := .empty _
  mmsId := .empty _
  transferStatus := .empty _
  mmsMsg := []
  mmsLast := false
  terminalApps := ⟨[], false⟩

end Zero

/-- A response without a text, and an envelope with two device identities and an item. -/
theorem pdus_delivered_zero :
    (∃ b, stkPduFromResponse exactEnv 0 (fun _ => 0) (zeroResponse 0x21) = .ok b ∧
      (ResponseDelivered 0 (zeroResponse 0x21) b ↔
        Unharmed exactEnv 0 (fun _ => 0) (zeroResponse 0x21))) ∧
    ∃ r, stkPduFromEnvelope exactEnv ⟨0, 0, 0, 0, .universal, .primitive, 0⟩ 0 (fun _ => 0)
        { zeroEnvelope 0xd3 with itemId := 5 } = .ok r ∧
      EnvelopeDelivered { zeroEnvelope 0xd3 with itemId := 5 } r.1 r.2 := by
  constructor
  · rcases isOk_iff.mp (show (stkPduFromResponse exactEnv 0 (fun _ => 0)
      (zeroResponse 0x21)).isOk = true by decide) with ⟨b, hb⟩
    exact ⟨b, hb, (pdus_delivered exactEnv).1 _ _ _ b hb⟩
  · rcases isOk_iff.mp (show (stkPduFromEnvelope exactEnv ⟨0, 0, 0, 0, .universal, .primitive, 0⟩ 0
      (fun _ => 0) { zeroEnvelope 0xd3 with itemId := 5 }).isOk = true by decide) with ⟨r, hr⟩
    exact ⟨r, hr, (pdus_delivered exactEnv).2 _ _ _ _ _ _ hr⟩

/-- 146 times the letter delta, of two octets each. -/
def deltas : HeapString := ⟨(List.replicate 146 [0xce, 0x94]).flatten, by decide⟩

/-- An answer in packed septets. -/
def deltaResponse : StkResponse := { zeroResponse 0x23 with getInput := ⟨some deltas, true, false⟩ }

lemma convertUtf8ToGsm_deltas : Gsm.convertUtf8ToGsm deltas.bytes = some (List.replicate 146 0x10) := by
  have htext : deltas.bytes = Gsm.utf8 (List.replicate 146 'Δ') := by
    rw [Gsm.utf8, flatMap_replicate]
    rfl
  have hdelta : Gsm.unicodeToGsm .default .default 'Δ' = some 0x10 := by decide
  have hcodes (n : ℕ) : (List.replicate n 'Δ').mapM (Gsm.unicodeToGsm .default .default) =
      some (List.replicate n 0x10) := by
    induction n with
    | zero => rfl
    | succ n ih =>
      rw [replicate_succ, mapM_cons, hdelta, ih]
      rfl
  have hoctets (n : ℕ) : (List.replicate n 0x10).flatMap Gsm.writeCode = List.replicate n 0x10 := by
    induction n with
    | zero => rfl
    | succ n ih =>
      rw [replicate_succ, flatMap_cons, ih]
      rfl
  rw [Gsm.convertUtf8ToGsm, Gsm.convertUtf8ToGsmWithLang, htext, Gsm.utf8Chars_utf8 _ _ (Gsm.length_le_utf8 _),
    bind_eq_bind, bind_some, hcodes, bind_eq_bind, bind_some, hoctets]
  rfl

/-- Of the answer 292 octets are packed to 257, one of which is lost. -/
theorem packed_text_loses_octet : ∃ b, stkPduFromResponse exactEnv 0 (fun _ => 1) deltaResponse =
    .ok b ∧ ¬ ResponseDelivered 0 deltaResponse b := by
  have hanswer : appendAnswer exactEnv deltaResponse.getInput = fun b =>
      if b.len + 128 ≥ b.maxLen then .reject else b.copy (0x00 :: (Septets.pack7bitOwnBuf
        (exactEnv.readPast (List.replicate 146 0x10) 292) 0 false).getD []) := by
    funext b
    have hinput : deltaResponse.getInput = ⟨some deltas, true, false⟩ := rfl
    rw [hinput, appendAnswer, if_neg Bool.false_ne_true]
    dsimp only
    rw [if_pos rfl]
    have hpacked : ¬ (((Septets.pack7bitOwnBuf (exactEnv.readPast (List.replicate 146 0x10) 292) 0
        false).getD []).length < 1 ∧ 292 > 0) := by decide +kernel
    have hlength : deltas.bytes.length = 292 := by decide +kernel
    rw [StkTlvBuilder.appendGsmPacked, convertUtf8ToGsm_deltas, hlength]
    dsimp only
    rw [if_neg (by intro h; cases h.1), getD_some, length_replicate,
      if_neg hpacked]
  have hok : (stkPduFromResponse exactEnv 0 (fun _ => 1) deltaResponse).isOk = true := by
    rw [stkPduFromResponse]
    have hdata : buildResponseData exactEnv deltaResponse = buildDataobj
        [StkTlvBuilder.container true .text true (appendAnswer exactEnv deltaResponse.getInput)] := rfl
    rw [hdata, hanswer]
    decide +kernel
  rcases isOk_iff.mp hok with ⟨b, hb⟩
  refine ⟨b, hb, fun hdelivered => ?_⟩
  have hunharmed := (responseDelivered_iff hb).mp hdelivered deltas rfl
  rw [packedString, convertUtf8ToGsm_deltas] at hunharmed
  revert hunharmed
  decide +kernel

end Phonelets.Stk
