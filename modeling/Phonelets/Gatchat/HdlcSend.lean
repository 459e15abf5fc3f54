import Mathlib.Data.List.Forall2
import Phonelets.Gatchat.HdlcReceive
import Phonelets.Gatchat.RingBuffer

/-! # Sending HDLC frames

`g_at_hdlc_send` writes a frame behind what is in the last buffer of the queue, octet by octet, and
makes it part of the buffer when all of it has been written. What has been changed before is not
undone when it has no room.
-/

namespace Phonelets.Gatchat

open List Outcome

/-! ## The sender -/

/-- What `struct _GAtHDLC` has for sending. -/
structure HdlcSender where
  writeQueue : List RingBuffer
  xmitAccm : List UInt32
  wakeupSent : Bool
  startFrameMarker : Bool
  writeHandler : Bool

def maxBuffers : ℕ := 64
def hdlcOverhead : ℕ := 256

/-- Where the next octet of a frame goes: `buf` is a place in the buffer, or behind it. -/
structure HdlcWriter where
  ring : RingBuffer
  buf : ℕ
  pos : ℕ

namespace HdlcWriter

/-- `*buf++ = b; pos++;` -/
def store (w : HdlcWriter) (b : UInt8) : Phonelets.Outcome HdlcWriter :=
  if w.buf < w.ring.buffer.length then
    .ok ⟨{ w.ring with buffer := w.ring.buffer.set w.buf b }, w.buf + 1, w.pos + 1⟩
  else .fault

/-- `if (pos == wrap) buf = ring_buffer_write_ptr(write_buffer, pos);` -/
def turn (wrap : ℕ) (w : HdlcWriter) : HdlcWriter :=
  if w.pos = wrap then { w with buf := w.ring.writePtr (UInt32.ofNat w.pos) } else w

/-- The loops of `g_at_hdlc_send` write one octet after the other, as long as there is room. The
result has whether all have been written. -/
def storeAll (avail wrap : ℕ) (w : HdlcWriter) : List UInt8 → Phonelets.Outcome (Bool × HdlcWriter)
  | [] => .ok (true, w)
  | b :: bs =>
    if w.pos < avail then do
      let w ← w.store b
      storeAll avail wrap (w.turn wrap) bs
    else .ok (false, w)

end HdlcWriter

def needEscape (xmitAccm : List UInt32) (c : UInt8) : Bool :=
  xmitAccm.getD (c >>> 5).toNat 0 &&& (1 <<< (c &&& 0x1f).toUInt32) ≠ 0

/-- Octets as they are written: escaped where that is needed. -/
def stuffed (xmitAccm : List UInt32) (data : List UInt8) : List UInt8 :=
  data.flatMap fun c => if needEscape xmitAccm c then [hdlcEscape, c ^^^ hdlcTrans] else [c]

/-- `tail`, the check sequence with its low octet first. -/
def fcsTail (data : List UInt8) : List UInt8 :=
  let fcs := hdlcFcs data ^^^ hdlcInitfcs
  [(fcs &&& 0xff).toUInt8, (fcs >>> 8).toUInt8]

/-- What follows the flag at the start, once `write_buffer` has been chosen. -/
def sendFrame (xmitAccm : List UInt32) (avail wrap : ℕ) (w : HdlcWriter) (data : List UInt8) :
    Phonelets.Outcome (Bool × HdlcWriter) := do
  let (done, w) ← w.storeAll avail wrap (stuffed xmitAccm data)
  if done then do
    let (done, w) ← w.storeAll avail wrap (stuffed xmitAccm (fcsTail data))
    if done then
      if w.pos + 1 > avail then .ok (false, w)
      else do
        let w ← w.store hdlcFlag
        .ok (true, w)
    else .ok (false, w)
  else .ok (false, w)

namespace HdlcSender

/-- `write_buffer` is the last one of the queue. -/
def putBack (hdlc : HdlcSender) (before : List RingBuffer) (ring : RingBuffer) : HdlcSender :=
  { hdlc with writeQueue := before ++ [ring] }

/-- `g_at_hdlc_new_from_io`, when there is memory. -/
def new : HdlcSender where
  writeQueue := [RingBuffer.new (UInt32.ofNat hdlcBufferSize)]
  xmitAccm := [0xffffffff, 0, 0, 0x60000000, 0, 0, 0, 0]
  wakeupSent := false
  startFrameMarker := false
  writeHandler := false

/-- `g_at_hdlc_send` from the flag at the start on; `before` are the other buffers of the queue. -/
def sendIn (hdlc : HdlcSender) (before : List RingBuffer) (ring : RingBuffer) (data : List UInt8) :
    Phonelets.Outcome (Bool × HdlcSender) :=
  let avail := ring.avail.toNat
  let wrap := ring.availNoWrap.toNat
  let w : HdlcWriter := ⟨ring, ring.writePtr 0, 0⟩
  let finish (hdlc : HdlcSender) (w : HdlcWriter) : Phonelets.Outcome (Bool × HdlcSender) := do
    let (done, w) ← sendFrame hdlc.xmitAccm avail wrap w data
    if done then
      .ok (true, { hdlc.putBack before (w.ring.writeAdvance (UInt32.ofNat w.pos)) with
        writeHandler := true })
    else .ok (false, hdlc.putBack before w.ring)
  if hdlc.startFrameMarker then
    if 1 > avail then .ok (false, hdlc.putBack before ring)
    else do
      let w ← w.store hdlcFlag
      finish hdlc (w.turn wrap)
  else if hdlc.wakeupSent = false then do
    let w ← w.store hdlcFlag
    finish { hdlc with wakeupSent := true } w
  else finish hdlc w

/-- `g_at_hdlc_send`; the queue is never empty. -/
def gAtHdlcSend (hdlc : HdlcSender) (data : List UInt8) : Phonelets.Outcome (Bool × HdlcSender) :=
  match hdlc.writeQueue.getLast? with
  | none => .fault
  | some ring =>
    if ring.avail.toNat < data.length + hdlcOverhead then
      if hdlc.writeQueue.length > maxBuffers then .ok (false, hdlc)
      else hdlc.sendIn hdlc.writeQueue (RingBuffer.new (UInt32.ofNat hdlcBufferSize)) data
    else hdlc.sendIn hdlc.writeQueue.dropLast ring data

/-- `can_write_data`, when `written` octets of the first buffer have gone out; the handler stays when
there is more. -/
def canWriteData (hdlc : HdlcSender) (written : UInt32) : HdlcSender :=
  match hdlc.writeQueue with
  | [] => hdlc
  | first :: rest =>
    let first := first.drain (min written first.lenNoWrap)
    if first.len > 0 then { hdlc with writeQueue := first :: rest, writeHandler := true }
    else
      match rest with
      | [] => { hdlc with writeQueue := [first], writeHandler := false }
      | next :: more =>
        { hdlc with writeQueue := next :: more, writeHandler := decide (next.len > 0) }

end HdlcSender

/-! ## What is asked of a send -/

/-- The buffers have the same counters, and the same octets to be sent. -/
def SameBuffer (a b : RingBuffer) : Prop :=
  a.size = b.size ∧ a.mask = b.mask ∧ a.«in» = b.«in» ∧ a.out = b.out ∧ a.pending = b.pending

/-- The queue, its buffers and `wakeup_sent` are as before. -/
def Unchanged (hdlc hdlc' : HdlcSender) : Prop :=
  List.Forall₂ SameBuffer hdlc.writeQueue hdlc'.writeQueue ∧ hdlc'.wakeupSent = hdlc.wakeupSent

/-- The flag that is written in front. -/
def startFlag (hdlc : HdlcSender) : List UInt8 :=
  if hdlc.startFrameMarker = true ∨ hdlc.wakeupSent = false then [hdlcFlag] else []

/-- The frame as it is written, with its flags. -/
def frameOctets (hdlc : HdlcSender) (data : List UInt8) : List UInt8 :=
  startFlag hdlc ++ stuffed hdlc.xmitAccm data ++ stuffed hdlc.xmitAccm (fcsTail data) ++ [hdlcFlag]

/-! ## Writing into a buffer -/

variable {ring : RingBuffer} {w : HdlcWriter} {written bs : List UInt8} {b : UInt8} {avail wrap : ℕ}

/-- Octets have been written behind what is in the buffer. -/
structure Wrote (ring : RingBuffer) (written : List UInt8) (w : HdlcWriter) : Prop where
  pos : w.pos = written.length
  same : w.ring = { ring with buffer := w.ring.buffer }
  length : w.ring.buffer.length = ring.buffer.length
  octets : Ring.window w.ring.buffer ring.out.toNat (ring.len.toNat + written.length) =
    ring.pending ++ written

/-- The place of the next octet is in the buffer. -/
structure Writing (ring : RingBuffer) (written : List UInt8) (w : HdlcWriter) : Prop
    extends Wrote ring written w where
  place : w.buf = (ring.out.toNat + ring.len.toNat + written.length) % ring.buffer.length

lemma RingBuffer.Valid.start (h : ring.Valid) : Writing ring [] ⟨ring, ring.writePtr 0, 0⟩ where
  pos := rfl
  same := rfl
  length := rfl
  octets := (append_nil _).symm
  place := h.writePtr_eq 0

lemma Writing.store (hvalid : ring.Valid) (h : Writing ring written w)
    (hroom : ring.len.toNat + written.length < ring.buffer.length) (b : UInt8) :
    ∃ w', w.store b = .ok w' ∧ Wrote ring (written ++ [b]) w' ∧ w'.buf = w.buf + 1 := by
  have hbuf : w.buf < w.ring.buffer.length := by
    rw [h.place, h.length]
    exact Nat.mod_lt _ hvalid.pos
  refine ⟨_, if_pos hbuf, ⟨?_, ?_, ?_, ?_⟩, rfl⟩
  · rw [length_append, h.pos]
    rfl
  · dsimp only
    rw [h.same]
  · dsimp only
    rw [length_set, h.length]
  · dsimp only
    rw [h.place, ← h.length, length_append, length_singleton, ← Nat.add_assoc,
      Nat.add_assoc ring.out.toNat, Ring.window_set (by rwa [h.length]), h.octets, append_assoc]

lemma pos_of_end {x p n : ℕ} (hp : p < n) (hend : (x + p) % n + 1 = n) : p + 1 = n - x % n := by
  have hx := Nat.mod_lt x (show 0 < n by omega)
  rw [← Nat.mod_add_mod] at hend
  by_cases hlow : x % n + p < n
  · rw [Nat.mod_eq_of_lt hlow] at hend
    omega
  · rw [Nat.mod_eq_sub_mod (Nat.not_lt.mp hlow), Nat.mod_eq_of_lt (by omega)] at hend
    omega

lemma Wrote.turn (hvalid : ring.Valid) (h : Wrote ring (written ++ [b]) w)
    (hbuf : w.buf = (ring.out.toNat + ring.len.toNat + written.length) % ring.buffer.length + 1)
    (hroom : ring.len.toNat + written.length < ring.buffer.length) :
    Writing ring (written ++ [b]) (w.turn ring.availNoWrap.toNat) := by
  have hlen : (written ++ [b]).length = written.length + 1 := length_append
  have hlt := hvalid.length_lt
  unfold HdlcWriter.turn
  by_cases hwrap : w.pos = ring.availNoWrap.toNat
  · rw [if_pos hwrap]
    refine ⟨⟨h.pos, h.same, h.length, h.octets⟩, ?_⟩
    have hsame : w.ring.writePtr (UInt32.ofNat w.pos) = ring.writePtr (UInt32.ofNat w.pos) := by
      rw [h.same]
      rfl
    have hpos : w.pos < 2 ^ 32 := by
      rw [h.pos, hlen]
      omega
    dsimp only
    rw [hsame, hvalid.writePtr_eq, UInt32.toNat_ofNat_of_lt' hpos, h.pos]
  · rw [if_neg hwrap]
    refine ⟨h, ?_⟩
    rw [hvalid.availNoWrap_eq, h.pos, hlen] at hwrap
    have hnotEnd : (ring.out.toNat + ring.len.toNat + written.length) % ring.buffer.length + 1 ≠
        ring.buffer.length := by
      intro hend
      have := pos_of_end (by omega) hend
      omega
    have hplace := Nat.mod_lt (ring.out.toNat + ring.len.toNat + written.length) hvalid.pos
    rw [hbuf, hlen, ← Nat.add_assoc, Ring.succ_mod (by omega)]

lemma Writing.storeAll (hvalid : ring.Valid) (h : Writing ring written w) (hfits : written.length ≤
    ring.avail.toNat) (bs : List UInt8) : ∃ w', w.storeAll ring.avail.toNat ring.availNoWrap.toNat
    bs = .ok (decide (written.length + bs.length ≤ ring.avail.toNat), w') ∧
    Writing ring (written ++ bs.take (ring.avail.toNat - written.length)) w' := by
  have havail := hvalid.avail_eq
  induction bs generalizing w written with
  | nil =>
    refine ⟨w, ?_, ?_⟩
    · rw [HdlcWriter.storeAll, length_nil, Nat.add_zero, decide_eq_true hfits]
    · rwa [take_nil, append_nil]
  | cons b bs ih =>
    rw [HdlcWriter.storeAll, h.pos]
    by_cases hroom : written.length < ring.avail.toNat
    · obtain ⟨w₁, hstore, hwrote, hbuf⟩ := h.store hvalid (by omega) b
      rw [h.place] at hbuf
      have hnext := hwrote.turn hvalid hbuf (by omega)
      have hlen : (written ++ [b]).length = written.length + 1 := length_append
      obtain ⟨w₂, hall, hwriting⟩ := ih hnext (by omega)
      have htake : ring.avail.toNat - written.length = ring.avail.toNat - (written ++ [b]).length + 1 := by
        omega
      refine ⟨w₂, ?_, ?_⟩
      · rw [if_pos hroom, hstore, ok_bind, hall, hlen, length_cons, Nat.add_assoc, Nat.add_comm 1]
      · rw [htake, take_succ_cons]
        rwa [append_assoc, singleton_append] at hwriting
    · have hfull : ¬ written.length + (b :: bs).length ≤ ring.avail.toNat := by
        rw [length_cons]
        omega
      have htake : ring.avail.toNat - written.length = 0 := by omega
      refine ⟨w, ?_, ?_⟩
      · rw [if_neg hroom, decide_eq_false hfull]
      · rwa [htake, take_zero, append_nil]

lemma Writing.sendFrame (hvalid : ring.Valid) (h : Writing ring written w)
    (hfits : written.length ≤ ring.avail.toNat) (xmitAccm : List UInt32) (data : List UInt8) :
    ∃ w' sent, sendFrame xmitAccm ring.avail.toNat ring.availNoWrap.toNat w data = .ok (decide
    ((written ++ stuffed xmitAccm data ++ stuffed xmitAccm (fcsTail data) ++ [hdlcFlag]).length ≤
    ring.avail.toNat), w') ∧ Wrote ring sent w' ∧ ((written ++ stuffed xmitAccm data ++
    stuffed xmitAccm (fcsTail data) ++ [hdlcFlag]).length ≤ ring.avail.toNat →
    sent = written ++ stuffed xmitAccm data ++ stuffed xmitAccm (fcsTail data) ++ [hdlcFlag]) := by
  have havail := hvalid.avail_eq
  have htotal : (written ++ stuffed xmitAccm data ++ stuffed xmitAccm (fcsTail data) ++
      [hdlcFlag]).length = written.length + (stuffed xmitAccm data).length +
        (stuffed xmitAccm (fcsTail data)).length + 1 := by
    simp only [length_append, length_singleton]
  rw [htotal]
  obtain ⟨w₁, hdata, hwriting₁⟩ := h.storeAll hvalid hfits (stuffed xmitAccm data)
  rw [Gatchat.sendFrame, hdata, ok_bind]
  dsimp only
  by_cases hroom₁ : written.length + (stuffed xmitAccm data).length ≤ ring.avail.toNat
  · rw [take_of_length_le (by omega)] at hwriting₁
    rw [if_pos (decide_eq_true hroom₁)]
    obtain ⟨w₂, htail, hwriting₂⟩ :=
      hwriting₁.storeAll hvalid (by rwa [length_append]) (stuffed xmitAccm (fcsTail data))
    rw [htail, ok_bind]
    dsimp only
    rw [length_append] at hwriting₂ ⊢
    by_cases hroom₂ : written.length + (stuffed xmitAccm data).length +
        (stuffed xmitAccm (fcsTail data)).length ≤ ring.avail.toNat
    · rw [take_of_length_le (by omega)] at hwriting₂
      have hpos : w₂.pos = written.length + (stuffed xmitAccm data).length +
          (stuffed xmitAccm (fcsTail data)).length := by
        rw [hwriting₂.pos, length_append, length_append]
      rw [if_pos (decide_eq_true hroom₂), hpos]
      by_cases hroom₃ : written.length + (stuffed xmitAccm data).length +
          (stuffed xmitAccm (fcsTail data)).length + 1 > ring.avail.toNat
      · refine ⟨w₂, _, ?_, hwriting₂.toWrote, fun h => absurd h (by omega)⟩
        rw [if_pos hroom₃, decide_eq_false (by omega)]
      · obtain ⟨w₃, hstore, hwrote, -⟩ := hwriting₂.store hvalid (by
          rw [length_append, length_append]
          omega) hdlcFlag
        refine ⟨w₃, _, ?_, hwrote, fun _ => rfl⟩
        rw [if_neg hroom₃, hstore, ok_bind, decide_eq_true (by omega)]
    · refine ⟨w₂, _, ?_, hwriting₂.toWrote, fun h => absurd h (by omega)⟩
      rw [if_neg (by simpa using hroom₂), decide_eq_false (by omega)]
  · refine ⟨w₁, _, ?_, hwriting₁.toWrote, fun h => absurd h (by omega)⟩
    rw [if_neg (by simpa using hroom₁), decide_eq_false (by omega)]

/-! ## What a call leaves -/

/-- What was in the buffer before is as it was: what has been written behind it is not part of it
yet. -/
lemma Wrote.sameBuffer (h : Wrote ring written w) : SameBuffer ring w.ring := by
  have hout : w.ring.out = ring.out := by rw [h.same]
  have hin : w.ring.«in» = ring.«in» := by rw [h.same]
  have hlen : w.ring.len = ring.len := by rw [RingBuffer.len, RingBuffer.len, hin, hout]
  have hpending : ring.pending.length = ring.len.toNat := Ring.length_window _ _ _
  refine ⟨?_, ?_, hin.symm, hout.symm, ?_⟩
  · rw [h.same]
  · rw [h.same]
  · rw [RingBuffer.pending.eq_def w.ring, hout, hlen,
      ← Ring.take_window (Nat.le_add_right _ written.length), h.octets, ← hpending, take_left]

structure IsHdlcBuffer (ring : RingBuffer) : Prop extends RingBuffer.Valid ring where
  whole : ring.buffer.length = hdlcBufferSize

lemma Wrote.isHdlcBuffer (hring : IsHdlcBuffer ring) (h : Wrote ring written w) :
    IsHdlcBuffer w.ring where
  power := by rw [h.length]; exact hring.power
  size := by rw [h.length, h.same]; exact hring.size
  mask := by rw [h.same]; exact hring.mask
  fits := by rw [h.length, h.same]; exact hring.fits
  whole := by rw [h.length, hring.whole]

lemma Wrote.writeAdvance (hring : ring.Valid) (h : Wrote ring written w)
    (hfits : written.length ≤ ring.avail.toNat) : (w.ring.writeAdvance (UInt32.ofNat w.pos)).Valid ∧
    (w.ring.writeAdvance (UInt32.ofNat w.pos)).pending = ring.pending ++ written := by
  have havail := hring.avail_eq
  have hlt := hring.length_lt
  have hpos : (UInt32.ofNat w.pos).toNat = written.length := by
    rw [UInt32.toNat_ofNat_of_lt' (show w.pos < 2 ^ 32 by rw [h.pos]; omega), h.pos]
  have hmin : min (UInt32.ofNat w.pos) ring.avail = UInt32.ofNat w.pos :=
    if_pos (UInt32.le_iff_toNat_le.mpr (by rwa [hpos]))
  have heq : w.ring.writeAdvance (UInt32.ofNat w.pos) =
      { ring with buffer := w.ring.buffer, «in» := ring.«in» + UInt32.ofNat w.pos } := by
    rw [h.same]
    exact congrArg (fun n => { ring with buffer := w.ring.buffer, «in» := ring.«in» + n }) hmin
  obtain ⟨hvalid, hlen⟩ := hring.advance (by rwa [hpos]) h.length
  rw [heq]
  refine ⟨hvalid, ?_⟩
  rw [RingBuffer.pending, hlen, hpos]
  exact h.octets

/-- What has become of the last buffer of the queue: the frame is behind what it held, or it holds
what it held. -/
structure Left (hdlc : HdlcSender) (data : List UInt8) (ring ring' : RingBuffer) : Prop where
  isBuffer : IsHdlcBuffer ring'
  sent : (frameOctets hdlc data).length ≤ ring.avail.toNat →
    ring'.pending = ring.pending ++ frameOctets hdlc data
  refused : ring.avail.toNat < (frameOctets hdlc data).length → SameBuffer ring ring'

/-- The sender after a call that chose `ring` as its buffer. -/
def HdlcSender.after (hdlc : HdlcSender) (before : List RingBuffer) (ring' : RingBuffer)
    (sent : Bool) : HdlcSender :=
  { hdlc with
    writeQueue := before ++ [ring']
    wakeupSent := hdlc.wakeupSent || !hdlc.startFrameMarker
    writeHandler := sent || hdlc.writeHandler }

variable {hdlc : HdlcSender} {before : List RingBuffer} {data : List UInt8}

lemma Writing.finish (hring : IsHdlcBuffer ring) (h : Writing ring (startFlag hdlc) w)
    (hfits : (startFlag hdlc).length ≤ ring.avail.toNat) (before : List RingBuffer)
    (data : List UInt8) (sender : HdlcSender)
    (hsender : sender = { hdlc with wakeupSent := hdlc.wakeupSent || !hdlc.startFrameMarker }) :
    ∃ ring', (do
        let (done, w) ←
          Gatchat.sendFrame sender.xmitAccm ring.avail.toNat ring.availNoWrap.toNat w data
        if done then
          .ok (true, { sender.putBack before (w.ring.writeAdvance (UInt32.ofNat w.pos)) with
            writeHandler := true })
        else .ok (false, sender.putBack before w.ring) : Phonelets.Outcome (Bool × HdlcSender)) =
      .ok (decide ((frameOctets hdlc data).length ≤ ring.avail.toNat),
        hdlc.after before ring' (decide ((frameOctets hdlc data).length ≤ ring.avail.toNat))) ∧
      Left hdlc data ring ring' := by
  subst hsender
  obtain ⟨w', sent, hframe, hwrote, hsent⟩ :=
    h.sendFrame hring.toValid hfits hdlc.xmitAccm data
  rw [← frameOctets] at hframe hsent
  by_cases hroom : (frameOctets hdlc data).length ≤ ring.avail.toNat
  · obtain rfl := hsent hroom
    rw [decide_eq_true hroom] at hframe ⊢
    refine ⟨w'.ring.writeAdvance (UInt32.ofNat w'.pos), ?_, ?_, ?_, ?_⟩
    · rw [hframe, ok_bind]
      rfl
    · exact ⟨(hwrote.writeAdvance hring.toValid hroom).1, hwrote.length.trans hring.whole⟩
    · exact fun _ => (hwrote.writeAdvance hring.toValid hroom).2
    · exact fun hno => absurd hroom (by omega)
  · rw [decide_eq_false hroom] at hframe ⊢
    refine ⟨w'.ring, ?_, ?_, ?_, ?_⟩
    · rw [hframe, ok_bind]
      rfl
    · exact hwrote.isHdlcBuffer hring
    · exact fun hyes => absurd hyes hroom
    · exact fun _ => hwrote.sameBuffer

lemma HdlcSender.awake_of (hdlc : HdlcSender) {wakeup : Bool} (h : wakeup = hdlc.wakeupSent) :
    hdlc = { hdlc with wakeupSent := wakeup } := by
  rw [h]

/-- No flag has been asked for, and none has been sent. -/
def HdlcSender.Wakes (hdlc : HdlcSender) : Prop :=
  hdlc.startFrameMarker = false ∧ hdlc.wakeupSent = false

instance (hdlc : HdlcSender) : Decidable hdlc.Wakes :=
  inferInstanceAs (Decidable (_ ∧ _))

/-- The flag that wakes the other side up is written without the check for the end of the buffer:
behind it there must be no end. -/
lemma sendIn_spec (hdlc : HdlcSender) (hring : IsHdlcBuffer ring) (hroom : 0 < ring.avail.toNat)
    (hend : hdlc.Wakes → ring.availNoWrap.toNat ≠ 1) (before : List RingBuffer)
    (data : List UInt8) : ∃ ring', hdlc.sendIn before ring data =
    .ok (decide ((frameOctets hdlc data).length ≤ ring.avail.toNat), hdlc.after before ring'
    (decide ((frameOctets hdlc data).length ≤ ring.avail.toNat))) ∧ Left hdlc data ring ring' := by
  have havail := hring.avail_eq
  have hstart := hring.toValid.start
  obtain ⟨w₁, hstore, hwrote, hbuf⟩ := hstart.store hring.toValid (by
    rw [length_nil]
    omega) hdlcFlag
  rw [hstart.place] at hbuf
  have hturn := hwrote.turn hring.toValid hbuf (by
    rw [length_nil]
    omega)
  rw [nil_append] at hturn hwrote
  have hone : [hdlcFlag].length ≤ ring.avail.toNat := hroom
  rw [HdlcSender.sendIn]
  dsimp only
  by_cases hmarker : hdlc.startFrameMarker = true
  · have hflag : startFlag hdlc = [hdlcFlag] := if_pos (.inl hmarker)
    rw [if_pos hmarker, if_neg (Nat.not_lt.mpr hroom), hstore, ok_bind]
    rw [← hflag] at hturn hone
    exact hturn.finish hring hone before data hdlc (hdlc.awake_of (by
      rw [hmarker, Bool.not_true, Bool.or_false]))
  · rw [if_neg hmarker]
    rw [Bool.not_eq_true] at hmarker
    by_cases hwakeup : hdlc.wakeupSent = false
    · -- no check here: that the octet behind is in the buffer is what `hend` says
      have hflag : startFlag hdlc = [hdlcFlag] := if_pos (.inr hwakeup)
      have hstay : w₁.turn ring.availNoWrap.toNat = w₁ := by
        rw [HdlcWriter.turn, hwrote.pos]
        exact if_neg (hend ⟨hmarker, hwakeup⟩).symm
      rw [if_pos hwakeup, hstore, ok_bind]
      rw [← hflag] at hturn hone
      rw [hstay] at hturn
      exact hturn.finish hring hone before data { hdlc with wakeupSent := true } (by
        rw [hmarker, Bool.not_false, Bool.or_true, ← hmarker])
    · have hflag : startFlag hdlc = [] := by
        refine if_neg ?_
        rw [hmarker]
        simpa using hwakeup
      rw [if_neg hwakeup]
      rw [← hflag] at hstart
      exact hstart.finish hring (by rw [hflag]; exact Nat.zero_le _) before data hdlc
        (hdlc.awake_of (by
          rw [Bool.not_eq_false] at hwakeup
          rw [hwakeup, Bool.true_or]))

/-- Where there is an end behind that flag, the next octet goes out of the buffer. -/
lemma sendFrame_outside (hbuf : w.ring.buffer.length ≤ w.buf) (hpos : w.pos < avail) (xmitAccm :
    List UInt32) (data : List UInt8) : sendFrame xmitAccm avail wrap w data = .fault := by
  have hfault (b : UInt8) (bs : List UInt8) : w.storeAll avail wrap (b :: bs) = .fault := by
    rw [HdlcWriter.storeAll, if_pos hpos, HdlcWriter.store, if_neg (Nat.not_lt.mpr hbuf)]
    rfl
  have htail : w.storeAll avail wrap (stuffed xmitAccm (fcsTail data)) = .fault := by
    rw [fcsTail, stuffed, flatMap_cons]
    split
    · exact hfault _ _
    · exact hfault _ _
  rw [sendFrame]
  cases hdata : stuffed xmitAccm data with
  | nil =>
    rw [HdlcWriter.storeAll, ok_bind]
    dsimp only
    rw [if_pos rfl, htail]
    rfl
  | cons b bs =>
    rw [hfault]
    rfl

lemma sendIn_fault (hring : IsHdlcBuffer ring) (hroom : hdlcOverhead ≤ ring.avail.toNat)
    (hwakes : hdlc.Wakes) (hend : ring.availNoWrap.toNat = 1) (before : List RingBuffer)
    (data : List UInt8) : hdlc.sendIn before ring data = .fault := by
  have havail := hring.avail_eq
  have hplace := hring.availNoWrap_eq
  have hstart := hring.toValid.start
  unfold hdlcOverhead at hroom
  obtain ⟨w₁, hstore, hwrote, hbuf⟩ := hstart.store hring.toValid (by
    rw [length_nil]
    omega) hdlcFlag
  have hpos : w₁.pos = 1 := hwrote.pos
  have houtside : w₁.ring.buffer.length ≤ w₁.buf := by
    have hbehind : w₁.buf = (ring.out.toNat + ring.len.toNat) % ring.buffer.length + 1 := by
      rw [hbuf, hstart.place]
      rfl
    rw [hwrote.length, hbehind]
    omega
  rw [HdlcSender.sendIn]
  dsimp only
  rw [if_neg (by rw [hwakes.1]; exact Bool.false_ne_true), if_pos hwakes.2, hstore, ok_bind,
    sendFrame_outside houtside (by omega)]
  rfl

/-! ## The queue -/

lemma realSize_hdlc : RingBuffer.realSize (UInt32.ofNat hdlcBufferSize) 18 1 = 4096 := by decide

lemma isHdlcBuffer_new : IsHdlcBuffer (RingBuffer.new (UInt32.ofNat hdlcBufferSize)) := by
  have hlen : (RingBuffer.new (UInt32.ofNat hdlcBufferSize)).buffer.length = hdlcBufferSize := by
    rw [RingBuffer.new, realSize_hdlc]
    exact length_replicate
  refine ⟨⟨⟨12, by omega, hlen⟩, ?_, rfl, ?_⟩, hlen⟩
  · rw [hlen, RingBuffer.new, realSize_hdlc]
    rfl
  · exact Nat.zero_le _

lemma avail_new : (RingBuffer.new (UInt32.ofNat hdlcBufferSize)).avail.toNat = hdlcBufferSize := by
  rw [isHdlcBuffer_new.avail_eq, isHdlcBuffer_new.whole]
  rfl

lemma availNoWrap_new :
    (RingBuffer.new (UInt32.ofNat hdlcBufferSize)).availNoWrap.toNat = hdlcBufferSize := by
  rw [isHdlcBuffer_new.availNoWrap_eq, isHdlcBuffer_new.whole]
  rfl

/-- A sender as `g_at_hdlc_new` and the calls on it leave it: there is a buffer in the queue, and
the buffers are of one size. -/
structure HdlcSender.Valid (hdlc : HdlcSender) : Prop where
  queue : hdlc.writeQueue ≠ []
  buffers : ∀ ring ∈ hdlc.writeQueue, IsHdlcBuffer ring
  accm : hdlc.xmitAccm.length = 8

/-- What a call has to meet: what it refuses is as it was, and it refuses what fits only for want of
a buffer. -/
def SendMeets (hdlc : HdlcSender) (data : List UInt8) : Phonelets.Outcome (Bool × HdlcSender) → Prop
  | .ok (true, _) => True
  | .ok (false, hdlc') => Unchanged hdlc hdlc' ∧
      ((frameOctets hdlc data).length ≤ hdlcBufferSize → maxBuffers < hdlc.writeQueue.length)
  | _ => False

/-- When it does. A new buffer must hold the frame; in the last one the flag that wakes the other
side up must have an octet behind it and the frame must fit, and any other frame must fit, or be too
long, or find the queue full. -/
def SendOk (hdlc : HdlcSender) (data : List UInt8) : Prop :=
  ∃ ring, hdlc.writeQueue.getLast? = some ring ∧
    if ring.avail.toNat < data.length + hdlcOverhead then
      maxBuffers < hdlc.writeQueue.length ∨ (frameOctets hdlc data).length ≤ hdlcBufferSize
    else if hdlc.Wakes then
      ring.availNoWrap.toNat ≠ 1 ∧ (frameOctets hdlc data).length ≤ ring.avail.toNat
    else (frameOctets hdlc data).length ≤ ring.avail.toNat ∨
      hdlcBufferSize < (frameOctets hdlc data).length ∨ maxBuffers < hdlc.writeQueue.length

lemma SameBuffer.refl (ring : RingBuffer) : SameBuffer ring ring := ⟨rfl, rfl, rfl, rfl, rfl⟩

lemma forall₂_same (rings : List RingBuffer) : List.Forall₂ SameBuffer rings rings :=
  List.forall₂_same.mpr fun ring _ => SameBuffer.refl ring

lemma not_unchanged_new {hdlc' : HdlcSender} (ring : RingBuffer)
    (h : hdlc'.writeQueue = hdlc.writeQueue ++ [ring]) : ¬ Unchanged hdlc hdlc' := by
  intro hsame
  have hlen := hsame.1.length_eq
  rw [h, length_append, length_singleton] at hlen
  omega

/-- The queue is full, or a new buffer is put into it, or the last one is taken. -/
lemma gAtHdlcSend_full (hlast : hdlc.writeQueue.getLast? = some ring)
    (hnew : ring.avail.toNat < data.length + hdlcOverhead)
    (hfull : maxBuffers < hdlc.writeQueue.length) : hdlc.gAtHdlcSend data = .ok (false, hdlc) := by
  rw [HdlcSender.gAtHdlcSend, hlast]
  dsimp only
  rw [if_pos hnew, if_pos hfull]

lemma gAtHdlcSend_new (hlast : hdlc.writeQueue.getLast? = some ring) (hnew : ring.avail.toNat <
    data.length + hdlcOverhead) (hroom : ¬ maxBuffers < hdlc.writeQueue.length) : ∃ ring',
    hdlc.gAtHdlcSend data = .ok (decide ((frameOctets hdlc data).length ≤ hdlcBufferSize),
    hdlc.after hdlc.writeQueue ring' (decide ((frameOctets hdlc data).length ≤ hdlcBufferSize))) ∧
    Left hdlc data (RingBuffer.new (UInt32.ofNat hdlcBufferSize)) ring' := by
  rw [HdlcSender.gAtHdlcSend, hlast]
  dsimp only
  rw [if_pos hnew, if_neg hroom]
  have hsend := sendIn_spec hdlc isHdlcBuffer_new (by rw [avail_new]; decide)
    (fun _ => by rw [availNoWrap_new]; decide) hdlc.writeQueue data
  rwa [avail_new] at hsend

lemma gAtHdlcSend_last (hlast : hdlc.writeQueue.getLast? = some ring)
    (hold : ¬ ring.avail.toNat < data.length + hdlcOverhead) :
    hdlc.gAtHdlcSend data = hdlc.sendIn hdlc.writeQueue.dropLast ring data := by
  rw [HdlcSender.gAtHdlcSend, hlast]
  dsimp only
  rw [if_neg hold]

/-- The sender after a call that has taken the last buffer, and refused the frame. -/
lemma unchanged_after_iff (hlast : hdlc.writeQueue.getLast? = some ring) {ring' : RingBuffer}
    (hring : SameBuffer ring ring') :
    Unchanged hdlc (hdlc.after hdlc.writeQueue.dropLast ring' false) ↔ ¬ hdlc.Wakes := by
  have hqueue : hdlc.writeQueue = hdlc.writeQueue.dropLast ++ [ring] :=
    (dropLast_append_getLast? ring hlast).symm
  have hrings : List.Forall₂ SameBuffer hdlc.writeQueue (hdlc.writeQueue.dropLast ++ [ring']) := by
    conv_lhs => rw [hqueue]
    exact rel_append (forall₂_same _) (.cons hring .nil)
  refine (and_iff_right hrings).trans ?_
  change (hdlc.wakeupSent || !hdlc.startFrameMarker) = hdlc.wakeupSent ↔ _
  rw [HdlcSender.Wakes]
  cases hdlc.wakeupSent <;> cases hdlc.startFrameMarker <;> decide

theorem gAtHdlcSend_refuses_iff (hvalid : hdlc.Valid) (data : List UInt8) :
    SendMeets hdlc data (hdlc.gAtHdlcSend data) ↔ SendOk hdlc data := by
  obtain ⟨ring, hlast⟩ := Option.isSome_iff_exists.mp (getLast?_isSome.mpr hvalid.queue)
  have hring := hvalid.buffers ring (mem_of_getLast? hlast)
  have hok : SendOk hdlc data ↔ if ring.avail.toNat < data.length + hdlcOverhead then
      maxBuffers < hdlc.writeQueue.length ∨ (frameOctets hdlc data).length ≤ hdlcBufferSize
    else if hdlc.Wakes then
      ring.availNoWrap.toNat ≠ 1 ∧ (frameOctets hdlc data).length ≤ ring.avail.toNat
    else (frameOctets hdlc data).length ≤ ring.avail.toNat ∨
      hdlcBufferSize < (frameOctets hdlc data).length ∨ maxBuffers < hdlc.writeQueue.length := by
    rw [SendOk, hlast]
    simp only [Option.some.injEq, exists_eq_left']
  rw [hok]
  by_cases hnew : ring.avail.toNat < data.length + hdlcOverhead
  · rw [if_pos hnew]
    by_cases hfull : maxBuffers < hdlc.writeQueue.length
    · rw [gAtHdlcSend_full hlast hnew hfull]
      exact iff_of_true ⟨⟨forall₂_same _, rfl⟩, fun _ => hfull⟩ (.inl hfull)
    · obtain ⟨ring', hsend, -⟩ := gAtHdlcSend_new hlast hnew hfull
      rw [hsend]
      by_cases hlong : (frameOctets hdlc data).length ≤ hdlcBufferSize
      · rw [decide_eq_true hlong]
        exact iff_of_true trivial (.inr hlong)
      · rw [decide_eq_false hlong]
        exact iff_of_false (fun h => not_unchanged_new ring' rfl h.1) (not_or.mpr ⟨hfull, hlong⟩)
  · rw [if_neg hnew, gAtHdlcSend_last hlast hnew]
    have hroom : hdlcOverhead ≤ ring.avail.toNat := by omega
    by_cases hend : hdlc.Wakes ∧ ring.availNoWrap.toNat = 1
    · rw [sendIn_fault hring hroom hend.1 hend.2, if_pos hend.1]
      exact iff_of_false id fun h => h.1 hend.2
    · obtain ⟨ring', hsend, hleft⟩ := sendIn_spec hdlc hring (Nat.lt_of_lt_of_le (by decide) hroom)
        (fun hwakes hwrap => hend ⟨hwakes, hwrap⟩) hdlc.writeQueue.dropLast data
      rw [hsend]
      by_cases hfits : (frameOctets hdlc data).length ≤ ring.avail.toNat
      · rw [decide_eq_true hfits]
        split
        next hwakes => exact iff_of_true trivial ⟨fun hwrap => hend ⟨hwakes, hwrap⟩, hfits⟩
        next => exact iff_of_true trivial (.inl hfits)
      · rw [decide_eq_false hfits]
        change _ ∧ _ ↔ _
        rw [unchanged_after_iff hlast (hleft.refused (Nat.lt_of_not_le hfits))]
        split
        next hwakes => exact iff_of_false (fun h => h.1 hwakes) fun h => hfits h.2
        next hwakes =>
          rw [and_iff_right hwakes, or_iff_right hfits, imp_iff_not_or, Nat.not_le]

lemma new_valid : HdlcSender.new.Valid where
  queue := cons_ne_nil _ _
  buffers := forall_mem_singleton.mpr isHdlcBuffer_new
  accm := rfl

theorem gAtHdlcSend_refuses_new :
    SendMeets HdlcSender.new [] (HdlcSender.new.gAtHdlcSend []) ↔ SendOk HdlcSender.new [] :=
  gAtHdlcSend_refuses_iff new_valid []

lemma length_stuffed_replicate {xmitAccm : List UInt32} {c : UInt8} (h : needEscape xmitAccm c =
    true) (n : ℕ) : (stuffed xmitAccm (List.replicate n c)).length = 2 * n := by
  induction n with
  | zero => rfl
  | succ n ih =>
    rw [replicate_succ, stuffed, flatMap_cons, if_pos h, ← stuffed, length_append,
      ih, length_cons, length_singleton]
    omega

/-- Of 2100 flags each is escaped, which the estimate does not know: the first frame of a new sender
is refused, and no other will have the flag in front that wakes the other side up. -/
theorem gAtHdlcSend_wakeup_lost : ¬ SendMeets HdlcSender.new (List.replicate 2100 hdlcFlag)
    (HdlcSender.new.gAtHdlcSend (List.replicate 2100 hdlcFlag)) := by
  have hlast : HdlcSender.new.writeQueue.getLast? =
      some (RingBuffer.new (UInt32.ofNat hdlcBufferSize)) := rfl
  have hlong : ¬ (frameOctets HdlcSender.new (List.replicate 2100 hdlcFlag)).length ≤
      (RingBuffer.new (UInt32.ofNat hdlcBufferSize)).avail.toNat := by
    rw [avail_new, frameOctets, length_append, length_append, length_append,
      length_stuffed_replicate (by decide), hdlcBufferSize]
    omega
  obtain ⟨ring', hsend, hleft⟩ := sendIn_spec HdlcSender.new isHdlcBuffer_new
    (by rw [avail_new]; decide) (fun _ => by rw [availNoWrap_new]; decide)
    HdlcSender.new.writeQueue.dropLast (List.replicate 2100 hdlcFlag)
  rw [gAtHdlcSend_last hlast (by rw [avail_new, length_replicate]; decide), hsend,
    decide_eq_false hlong]
  intro hmeets
  have hnot := (unchanged_after_iff hlast (hleft.refused (Nat.lt_of_not_le hlong))).mp hmeets.1
  exact hnot ⟨rfl, rfl⟩

/-! ## The calls keep the queue -/

lemma Left.valid {ring' : RingBuffer} (hleft : Left hdlc data ring ring') (hvalid : hdlc.Valid)
    (hbefore : ∀ r ∈ before, r ∈ hdlc.writeQueue) (sent : Bool) :
    (hdlc.after before ring' sent).Valid where
  queue := concat_ne_nil _ _
  buffers := forall_mem_append.mpr
    ⟨fun r hr => hvalid.buffers r (hbefore r hr), forall_mem_singleton.mpr hleft.isBuffer⟩
  accm := hvalid.accm

lemma HdlcSender.Valid.send (hvalid : hdlc.Valid) (data : List UInt8) {sent : Bool}
    {hdlc' : HdlcSender} (hsend : hdlc.gAtHdlcSend data = .ok (sent, hdlc')) : hdlc'.Valid := by
  obtain ⟨ring, hlast⟩ := Option.isSome_iff_exists.mp (getLast?_isSome.mpr hvalid.queue)
  have hring := hvalid.buffers ring (mem_of_getLast? hlast)
  by_cases hnew : ring.avail.toNat < data.length + hdlcOverhead
  · by_cases hfull : maxBuffers < hdlc.writeQueue.length
    · rw [gAtHdlcSend_full hlast hnew hfull] at hsend
      cases hsend
      exact hvalid
    · obtain ⟨ring', hspec, hleft⟩ := gAtHdlcSend_new hlast hnew hfull
      rw [hspec] at hsend
      cases hsend
      exact hleft.valid hvalid (fun r hr => hr) _
  · rw [gAtHdlcSend_last hlast hnew] at hsend
    have hroom : hdlcOverhead ≤ ring.avail.toNat := by omega
    by_cases hend : hdlc.Wakes ∧ ring.availNoWrap.toNat = 1
    · rw [sendIn_fault hring hroom hend.1 hend.2] at hsend
      cases hsend
    · obtain ⟨ring', hspec, hleft⟩ := sendIn_spec hdlc hring (Nat.lt_of_lt_of_le (by decide) hroom)
        (fun hwakes hwrap => hend ⟨hwakes, hwrap⟩) hdlc.writeQueue.dropLast data
      rw [hspec] at hsend
      cases hsend
      exact hleft.valid hvalid (fun r hr => dropLast_subset _ hr) _

lemma IsHdlcBuffer.drain (hring : IsHdlcBuffer ring) (n : UInt32) :
    IsHdlcBuffer (ring.drain n) := by
  refine ⟨(hring.toValid.drain n).1, ?_⟩
  rw [RingBuffer.buffer_drain]
  exact hring.whole

lemma HdlcSender.Valid.canWrite (hvalid : hdlc.Valid) (written : UInt32) :
    (hdlc.canWriteData written).Valid := by
  cases hqueue : hdlc.writeQueue with
  | nil => exact absurd hqueue hvalid.queue
  | cons first rest =>
    have hbuffers := hvalid.buffers
    rw [hqueue, forall_mem_cons] at hbuffers
    have hdrained := hbuffers.1.drain (min written first.lenNoWrap)
    rw [HdlcSender.canWriteData, hqueue]
    dsimp only
    split
    · exact ⟨cons_ne_nil _ _, forall_mem_cons.mpr ⟨hdrained, hbuffers.2⟩, hvalid.accm⟩
    · cases rest with
      | nil => exact ⟨cons_ne_nil _ _, forall_mem_singleton.mpr hdrained, hvalid.accm⟩
      | cons next more => exact ⟨cons_ne_nil _ _, hbuffers.2, hvalid.accm⟩

end Phonelets.Gatchat
