import Mathlib.Data.List.Induction
import Phonelets.Gatchat.HdlcSend

/-! # An HDLC link

A sender and a receiver at the two ends of a line. However frames are sent and their octets come, in
whatever pieces, the receiver hands over the frames that `g_at_hdlc_send` has taken, in their order.
-/

namespace Phonelets.Gatchat

open List Outcome

/-! ## The link -/

/-- What `can_write_data` gets rid of when so many octets of the first buffer are written; `none` is
an access outside of that buffer. -/
def HdlcSender.goesOut (hdlc : HdlcSender) (written : UInt32) : Option (List UInt8) :=
  hdlc.writeQueue.head?.bind fun first =>
    Ring.fetch first.buffer (first.readPtr 0) (min written first.lenNoWrap).toNat

/-- Two ends and the octets between them. `taken` has the frames that were not refused. -/
structure HdlcLink where
  sender : HdlcSender
  taken : List (List UInt8)
  wire : List UInt8
  receiver : HdlcReceiver

inductive LinkInput
  | send (data : List UInt8)
  | write (written : UInt32)
  | arrive (n : ℕ) (guardTimeout : Bool)

def linkStep (link : HdlcLink) : LinkInput → Option HdlcLink
  | .send data =>
    match link.sender.gAtHdlcSend data with
    | .ok (sent, sender) =>
      some { link with sender := sender, taken := if sent then link.taken ++ [data] else link.taken }
    | _ => none
  | .write written =>
    (link.sender.goesOut written).map fun octets =>
      { link with sender := link.sender.canWriteData written, wire := link.wire ++ octets }
  | .arrive n guardTimeout =>
    match link.receiver.newBytes (fun _ settings => settings) (link.wire.take n) guardTimeout with
    | .ok receiver => some { link with receiver := receiver, wire := link.wire.drop n }
    | _ => none

/-- New ends, with what has been set of them: the ACCMs, the start frame marker, a function that
receives and one that suspends. -/
def HdlcLink.start (xmitAccm recvAccm : UInt32) (marker timer : Bool) : HdlcLink where
  sender := { HdlcSender.new with
    xmitAccm := xmitAccm :: HdlcSender.new.xmitAccm.tail
    startFrameMarker := marker }
  taken := []
  wire := []
  receiver := { hdlcNew with
    decoder := { hdlcNew.decoder with settings := ⟨recvAccm, false, true, false⟩ }
    timer := timer }

/-- The frames that have been handed over are the first ones that were taken and have data, and all
of them once no octet is left on the way. -/
structure Delivers (link : HdlcLink) : Prop where
  inOrder : link.receiver.decoder.received <+: link.taken.filter (· ≠ [])
  complete : link.wire = [] → (∀ ring ∈ link.sender.writeQueue, ring.pending = []) →
    link.receiver.decoder.received = link.taken.filter (· ≠ [])

/-! ## The check sequence -/

lemma fcs_bits (f : BitVec 16) :
    (f ^^^ (((f ^^^ 0xffff#16) &&& 0xff#16).setWidth 8).setWidth 16) &&& 0xff#16 = 0xff#16 ∧
    (f >>> 8 ^^^ 0x0f78#16 ^^^ (((f ^^^ 0xffff#16) >>> 8).setWidth 8).setWidth 16) &&& 0xff#16 =
      0x87#16 ∧ (f >>> 8 ^^^ 0x0f78#16) >>> 8 = 0x0f#16 := by
  refine ⟨?_, ?_, ?_⟩ <;> refine BitVec.eq_of_getLsbD_eq fun i hi => ?_
  · simp only [BitVec.getLsbD_and, BitVec.getLsbD_xor, BitVec.getLsbD_setWidth]
    generalize f.getLsbD i = b
    decide +revert
  · simp only [BitVec.getLsbD_and, BitVec.getLsbD_xor, BitVec.getLsbD_setWidth,
      BitVec.getLsbD_ushiftRight]
    generalize f.getLsbD (8 + i) = b
    decide +revert
  · rw [BitVec.getLsbD_ushiftRight, BitVec.getLsbD_xor, BitVec.getLsbD_ushiftRight,
      BitVec.getLsbD_of_ge f _ (by omega)]
    decide +revert

/-- With the check sequence behind them, any data have the good one. -/
lemma hdlcFcs_fcsTail (data : List UInt8) : hdlcFcs (data ++ fcsTail data) = hdlcGoodfcs := by
  rw [hdlcFcs, foldl_append, ← hdlcFcs, fcsTail]
  generalize hdlcFcs data = f
  obtain ⟨hlow, hhigh, hrest⟩ := fcs_bits f.toBitVec
  have hfirst : crcCcittByte f ((f ^^^ hdlcInitfcs) &&& 0xff).toUInt8 = f >>> 8 ^^^ 0x0f78 := by
    have hindex : (f ^^^ ((f ^^^ hdlcInitfcs) &&& 0xff).toUInt8.toUInt16) &&& 0xff = 0xff :=
      UInt16.toBitVec_inj.mp hlow
    rw [crcCcittByte, hindex]
    rfl
  have hindex : ((f >>> 8 ^^^ 0x0f78 : UInt16) ^^^ ((f ^^^ hdlcInitfcs) >>> 8).toUInt8.toUInt16) &&&
      0xff = 0x87 := UInt16.toBitVec_inj.mp hhigh
  have hshift : (f >>> 8 ^^^ 0x0f78 : UInt16) >>> 8 = 0x0f := UInt16.toBitVec_inj.mp hrest
  show crcCcittByte (crcCcittByte f _) _ = _
  rw [hfirst, crcCcittByte, hindex, hshift]
  rfl

/-! ## The stream -/

variable {accm : UInt32} {s p : List UInt8} {taken : List (List UInt8)}

/-- The octets as a receiver with this ACCM sees them. -/
def seenWith (accm : UInt32) (s : List UInt8) : List (UInt8 × UInt32) := s.map (·, accm)

/-- What has been decoded of the frame that has begun, and whether there is an escape. -/
def openFrame (accm : UInt32) (s : List UInt8) : List UInt8 × Bool :=
  decoded (Framing.split isHdlcFlag (seenWith accm s)).2

lemma openFrame_flag (accm : UInt32) (s : List UInt8) : openFrame accm (s ++ [hdlcFlag]) = ([], false) := by
  rw [openFrame, seenWith, map_append]
  exact congrArg (fun r => decoded r.2) (@Framing.split_snoc_flag _ isHdlcFlag (hdlcFlag, accm) rfl _)

lemma openFrame_other {b : UInt8} (hb : b ≠ hdlcFlag) (accm : UInt32) (s : List UInt8) :
    openFrame accm (s ++ [b]) = receiveOctet (openFrame accm s) (b, accm) ∧
    framesOf (seenWith accm (s ++ [b])) = framesOf (seenWith accm s) := by
  have hflag : isHdlcFlag (b, accm) ≠ true := by simpa [isHdlcFlag] using hb
  rw [openFrame, seenWith, map_append]
  refine ⟨?_, framesOf_snoc_other hflag _⟩
  rw [map_singleton, Framing.split_snoc_other hflag, decoded_snoc]
  rfl

/-- Octets for which there is room, and no escape in front of a flag. -/
def Takes (accm : UInt32) (s : List UInt8) : Prop :=
  ∀ p b, p ++ [b] <+: s →
    (b = hdlcFlag → (openFrame accm p).2 = false) ∧ (openFrame accm p).1.length < hdlcBufferSize

lemma Takes.snoc {b : UInt8} (h : Takes accm s) (hflag : b = hdlcFlag → (openFrame accm s).2 = false)
    (hroom : (openFrame accm s).1.length < hdlcBufferSize) : Takes accm (s ++ [b]) := by
  intro p c hp
  rcases prefix_concat_iff.mp hp with heq | hfront
  · obtain ⟨rfl, hc⟩ := append_inj' heq rfl
    cases hc
    exact ⟨hflag, hroom⟩
  · exact h p c hfront

/-- Where a stream is: what is open at its end, and the frames so far. -/
structure Within (accm : UInt32) (s : List UInt8) (current : List UInt8 × Bool)
    (frames : List (List UInt8)) : Prop where
  current : openFrame accm s = current
  takes : Takes accm s
  frames : framesOf (seenWith accm s) = frames

variable {current : List UInt8 × Bool} {frames : List (List UInt8)} {body data : List UInt8}

lemma Within.other (h : Within accm s current frames) {b : UInt8} (hb : b ≠ hdlcFlag)
    (hroom : current.1.length < hdlcBufferSize) :
    Within accm (s ++ [b]) (receiveOctet current (b, accm)) frames := by
  obtain ⟨hcurrent, hframes⟩ := openFrame_other hb accm s
  rw [h.current] at hcurrent
  rw [h.frames] at hframes
  exact ⟨hcurrent, h.takes.snoc (fun hflag => absurd hflag hb) (by rwa [h.current]), hframes⟩

lemma Within.flag (h : Within accm s (body, false) frames) (hroom : body.length < hdlcBufferSize) :
    Within accm (s ++ [hdlcFlag]) ([], false)
      (frames ++ (frameOf (Framing.split isHdlcFlag (seenWith accm s)).2).toList) where
  current := openFrame_flag accm s
  takes := h.takes.snoc (fun _ => by rw [h.current]) (by rwa [h.current])
  frames := by
    rw [← h.frames, seenWith, map_append]
    exact framesOf_snoc_flag rfl _

/-- The sender escapes what the receiver would take for something else, or drop. -/
def EscapesFor (xmitAccm : List UInt32) (accm : UInt32) : Prop :=
  ∀ c : UInt8, if needEscape xmitAccm c then c ^^^ hdlcTrans ≠ hdlcFlag
    else c ≠ hdlcFlag ∧ c ≠ hdlcEscape ∧ HdlcDecoder.passes accm c

variable {xmitAccm : List UInt32}

lemma Within.escaped (h : Within accm s ([], false) frames) (hescapes : EscapesFor xmitAccm accm)
    (body : List UInt8) (hroom : body.length ≤ hdlcBufferSize) :
    Within accm (s ++ stuffed xmitAccm body) (body, false) frames := by
  induction body using reverseRecOn with
  | nil => rwa [stuffed, flatMap_nil, append_nil]
  | append_singleton body c ih =>
    rw [length_append, length_singleton] at hroom
    have hbody := ih (by omega)
    have hc := hescapes c
    rw [stuffed, flatMap_append, flatMap_singleton, ← stuffed, ← append_assoc]
    split at hc
    next hneed =>
      rw [if_pos hneed]
      have hquoted := hbody.other (b := hdlcEscape) (by decide) (by show body.length < _; omega)
      have hnext := hquoted.other hc (by show body.length < _; omega)
      have hback : c ^^^ hdlcTrans ^^^ hdlcTrans = c := by
        rw [UInt8.xor_assoc, UInt8.xor_self, UInt8.xor_zero]
      have hcurrent : receiveOctet (receiveOctet (body, false) (hdlcEscape, accm)) (c ^^^ hdlcTrans, accm) =
          (body ++ [c ^^^ hdlcTrans ^^^ hdlcTrans], false) := rfl
      rw [hcurrent, hback, append_assoc] at hnext
      exact hnext
    next hneed =>
      rw [if_neg hneed]
      have hnext := hbody.other hc.1 (by show body.length < _; omega)
      rw [receiveOctet, if_neg Bool.false_ne_true, if_neg hc.2.1, if_pos hc.2.2] at hnext
      exact hnext

lemma length_le_stuffed (xmitAccm : List UInt32) (body : List UInt8) :
    body.length ≤ (stuffed xmitAccm body).length := by
  induction body with
  | nil => exact Nat.le_refl _
  | cons c body ih =>
    rw [stuffed, flatMap_cons, ← stuffed, length_append, length_cons]
    split
    · rw [length_cons]
      omega
    · rw [length_singleton]
      omega

/-- A frame goes on with the stream: its data are one frame more, if there are any. -/
lemma Within.frame {hdlc : HdlcSender} (h : Within accm s ([], false) (taken.filter (· ≠ [])))
    (hescapes : EscapesFor hdlc.xmitAccm accm)
    (hfits : (frameOctets hdlc data).length ≤ hdlcBufferSize) :
    Within accm (s ++ frameOctets hdlc data) ([], false) ((taken ++ [data]).filter (· ≠ [])) := by
  have hoctets : frameOctets hdlc data =
      startFlag hdlc ++ (stuffed hdlc.xmitAccm (data ++ fcsTail data) ++ [hdlcFlag]) := by
    rw [frameOctets, stuffed, stuffed, stuffed, flatMap_append]
    simp only [append_assoc]
  have hlen : (data ++ fcsTail data).length < hdlcBufferSize := by
    have hle := length_le_stuffed hdlc.xmitAccm (data ++ fcsTail data)
    rw [hoctets, length_append, length_append, length_singleton] at hfits
    omega
  have hstart : Within accm (s ++ startFlag hdlc) ([], false) (taken.filter (· ≠ [])) := by
    unfold startFlag
    split
    · have hflag := h.flag (by decide)
      have hnone : frameOf (Framing.split isHdlcFlag (seenWith accm s)).2 = none := by
        rw [frameOf, show decoded _ = _ from h.current]
        rfl
      rwa [hnone, Option.toList_none, append_nil] at hflag
    · rwa [append_nil]
  have hflag := (hstart.escaped hescapes _ hlen.le).flag hlen
  have hframe : frameOf (Framing.split isHdlcFlag (seenWith accm (s ++ startFlag hdlc ++
      stuffed hdlc.xmitAccm (data ++ fcsTail data)))).2 = if data ≠ [] then some data else none := by
    have hcurrent := (hstart.escaped hescapes _ hlen.le).current
    have htail : (data ++ fcsTail data).length = data.length + 2 := length_append
    rw [frameOf, show decoded _ = _ from hcurrent]
    dsimp only
    rw [hdlcFcs_fcsTail, htail, Nat.add_sub_cancel, take_left]
    cases data with
    | nil => rfl
    | cons c data => rw [if_pos ⟨rfl, by rw [length_cons]; omega, rfl⟩, if_pos (cons_ne_nil _ _)]
  rw [hframe] at hflag
  rw [hoctets, ← append_assoc, ← append_assoc, filter_append]
  cases data <;> exact hflag

/-! ## The sender -/

/-- What is to be written, in all buffers. -/
def HdlcSender.queued (hdlc : HdlcSender) : List UInt8 := hdlc.writeQueue.flatMap RingBuffer.pending

/-- A sender with its ACCM. As long as nothing has been sent, its queue is new. -/
structure SenderInv (xmitAccm : List UInt32) (hdlc : HdlcSender) : Prop where
  valid : hdlc.Valid
  accm : hdlc.xmitAccm = xmitAccm
  fresh : hdlc.Wakes → hdlc.writeQueue = [RingBuffer.new (UInt32.ofNat hdlcBufferSize)]

variable {hdlc : HdlcSender} {ring ring' : RingBuffer}

lemma Left.pending (h : Left hdlc data ring ring') : ring'.pending = ring.pending ++
    if (frameOctets hdlc data).length ≤ ring.avail.toNat then frameOctets hdlc data else [] := by
  split
  next hroom => exact h.sent hroom
  next hroom => rw [append_nil, ← (h.refused (Nat.lt_of_not_le hroom)).2.2.2.2]

lemma pending_new : (RingBuffer.new (UInt32.ofNat hdlcBufferSize)).pending = [] :=
  RingBuffer.pending_eq_nil rfl

/-- A call comes back: it puts the frame behind what is in the queue, or refuses it. -/
lemma SenderInv.send (h : SenderInv xmitAccm hdlc) (data : List UInt8) : ∃ sent hdlc',
    hdlc.gAtHdlcSend data = .ok (sent, hdlc') ∧ SenderInv xmitAccm hdlc' ∧
    hdlc'.queued = hdlc.queued ++ (if sent then frameOctets hdlc data else []) ∧
    (sent = true → (frameOctets hdlc data).length ≤ hdlcBufferSize) := by
  obtain ⟨ring, hlast⟩ := Option.isSome_iff_exists.mp (getLast?_isSome.mpr h.valid.queue)
  have hring := h.valid.buffers ring (mem_of_getLast? hlast)
  have hafter (before : List RingBuffer) (ring' : RingBuffer) (sent : Bool)
      (hsend : hdlc.gAtHdlcSend data = .ok (sent, hdlc.after before ring' sent)) :
      SenderInv xmitAccm (hdlc.after before ring' sent) := by
    refine ⟨h.valid.send data hsend, h.accm, fun hwakes => ?_⟩
    obtain ⟨hmarker, hwakeup⟩ := hwakes
    have hmarker' : hdlc.startFrameMarker = false := hmarker
    have hwakeup' : (hdlc.wakeupSent || !hdlc.startFrameMarker) = false := hwakeup
    rw [hmarker', Bool.not_false, Bool.or_true] at hwakeup'
    exact absurd hwakeup'.symm Bool.false_ne_true
  by_cases hnew : ring.avail.toNat < data.length + hdlcOverhead
  · by_cases hfull : maxBuffers < hdlc.writeQueue.length
    · refine ⟨false, hdlc, gAtHdlcSend_full hlast hnew hfull, h, ?_, fun hsent => ?_⟩
      · rw [if_neg Bool.false_ne_true, append_nil]
      · exact absurd hsent Bool.false_ne_true
    · obtain ⟨ring', hsend, hleft⟩ := gAtHdlcSend_new hlast hnew hfull
      refine ⟨_, _, hsend, hafter _ _ _ hsend, ?_, of_decide_eq_true⟩
      have hpending := hleft.pending
      rw [pending_new, nil_append, avail_new] at hpending
      simp only [HdlcSender.queued, HdlcSender.after, flatMap_append, flatMap_singleton, hpending,
        decide_eq_true_eq]
  · have hqueue := dropLast_append_getLast? ring hlast
    have havail : ring.avail.toNat ≤ hdlcBufferSize := by
      rw [hring.avail_eq, hring.whole]
      exact Nat.sub_le _ _
    obtain ⟨ring', hspec, hleft⟩ := sendIn_spec hdlc hring (by unfold hdlcOverhead at hnew; omega)
      (fun hwakes => by
        rw [h.fresh hwakes, getLast?_singleton] at hlast
        rw [← Option.some.inj hlast, availNoWrap_new]
        decide) hdlc.writeQueue.dropLast data
    rw [← gAtHdlcSend_last hlast hnew] at hspec
    refine ⟨_, _, hspec, hafter _ _ _ hspec, ?_, fun hsent => (of_decide_eq_true hsent).trans havail⟩
    have hbefore : hdlc.queued = hdlc.writeQueue.dropLast.flatMap RingBuffer.pending ++ ring.pending := by
      conv_lhs => rw [HdlcSender.queued, ← hqueue, flatMap_append, flatMap_singleton]
    rw [hbefore]
    simp only [HdlcSender.queued, HdlcSender.after, flatMap_append, flatMap_singleton, hleft.pending,
      decide_eq_true_eq, append_assoc]

lemma drain_new (n : UInt32) : (RingBuffer.new (UInt32.ofNat hdlcBufferSize)).drain n =
    RingBuffer.new (UInt32.ofNat hdlcBufferSize) := by
  have hmin : min n (RingBuffer.new (UInt32.ofNat hdlcBufferSize)).len = 0 := by
    refine UInt32.toNat_inj.mp ?_
    rw [RingBuffer.toNat_min]
    exact Nat.min_zero _
  rw [RingBuffer.drain, hmin]
  exact if_pos rfl

/-- What goes out is at the front of the queue. -/
lemma SenderInv.write (h : SenderInv xmitAccm hdlc) (written : UInt32) : ∃ octets,
    hdlc.goesOut written = some octets ∧ SenderInv xmitAccm (hdlc.canWriteData written) ∧
    octets ++ (hdlc.canWriteData written).queued = hdlc.queued := by
  have hvalid := h.valid.canWrite written
  have hfresh := h.fresh
  cases hqueue : hdlc.writeQueue with
  | nil => exact absurd hqueue h.valid.queue
  | cons first rest =>
    have hfirst := h.valid.buffers first (by rw [hqueue]; exact mem_cons_self)
    rw [hqueue] at hfresh
    obtain ⟨hoffset, hwrap⟩ := hfirst.offset first.out
    have hmod := Nat.mod_lt first.out.toNat hfirst.pos
    have hplace : first.readPtr 0 = first.out.toNat % first.buffer.length := by
      rw [RingBuffer.readPtr, UInt32.add_zero, hoffset]
    have hcount : (min written first.lenNoWrap).toNat = min written.toNat (min first.len.toNat
        (first.buffer.length - first.out.toNat % first.buffer.length)) := by
      rw [RingBuffer.toNat_min, RingBuffer.lenNoWrap, RingBuffer.toNat_min, hwrap]
    have hgoes : hdlc.goesOut written = some (first.pending.take (min written first.lenNoWrap).toNat) := by
      rw [HdlcSender.goesOut, hqueue, head?_cons, Option.bind_some, hplace,
        Ring.fetch_eq_window (by omega), RingBuffer.pending, Ring.take_window (by omega)]
    rw [HdlcSender.canWriteData, hqueue] at hvalid ⊢
    dsimp only at hvalid ⊢
    generalize min written first.lenNoWrap = n at hgoes hvalid ⊢
    have hrest := (hfirst.toValid.drain n).2
    refine ⟨_, hgoes, ⟨hvalid, ?_, ?_⟩, ?_⟩
    · split
      · exact h.accm
      · cases rest <;> exact h.accm
    · split
      next hmore =>
        intro hwakes
        obtain ⟨rfl, rfl⟩ := cons.inj (hfresh hwakes)
        rw [drain_new] at hmore
        exact absurd hmore (by decide)
      next =>
        cases rest with
        | nil =>
          intro hwakes
          obtain ⟨rfl, -⟩ := cons.inj (hfresh hwakes)
          exact congrArg (fun r => [r]) (drain_new _)
        | cons next more =>
          intro hwakes
          cases (cons.inj (hfresh hwakes)).2
    · have hkeep : first.pending.take n.toNat ++ (first.drain n :: rest).flatMap RingBuffer.pending =
          (first :: rest).flatMap RingBuffer.pending := by
        rw [flatMap_cons, flatMap_cons, hrest, ← append_assoc, take_append_drop]
      rw [HdlcSender.queued, HdlcSender.queued, hqueue, ← hkeep]
      split
      next => rfl
      next hlen =>
        cases rest with
        | nil => rfl
        | cons next more =>
          -- the first buffer is empty, and is freed
          have hempty : (first.drain n).pending = [] := by
            rw [← length_eq_zero_iff, RingBuffer.length_pending]
            rw [gt_iff_lt, UInt32.lt_iff_toNat_lt] at hlen
            exact Nat.eq_zero_of_not_pos hlen
          rw [@flatMap_cons _ _ (first.drain n), hempty, nil_append]

/-! ## The receiver -/

/-- A function that receives and sets nothing. -/
abbrev keep : ReceiveFunc := fun _ settings => settings

/-- A receiver with its ACCM, which all octets have been read with. -/
structure Plain (accm : UInt32) (hdlc : HdlcDecoder) : Prop where
  settings : hdlc.settings = ⟨accm, false, true, false⟩
  seen : hdlc.seen = seenWith accm (hdlc.seen.map Prod.fst)

variable {decoder next : HdlcDecoder}

lemma newByte_seen {b : UInt8} (h : decoder.newByte keep b = .ok next) : next.settings =
    decoder.settings ∧ next.seen = decoder.seen ++ [(b, decoder.settings.recvAccm)] := by
  have hstore {val : UInt8} {stored : HdlcDecoder} (hok : (decoder.see b).store val = .ok stored) :
      stored.settings = decoder.settings ∧ stored.seen = decoder.seen ++ [(b, decoder.settings.recvAccm)] := by
    unfold HdlcDecoder.store at hok
    split at hok
    · cases hok
      exact ⟨rfl, rfl⟩
    · cases hok
  have hdeliver : ((decoder.see b).deliver keep).settings = decoder.settings ∧
      ((decoder.see b).deliver keep).seen = decoder.seen ++ [(b, decoder.settings.recvAccm)] := by
    unfold HdlcDecoder.deliver
    split <;> exact ⟨rfl, rfl⟩
  unfold HdlcDecoder.newByte at h
  dsimp only at h
  split at h
  · obtain ⟨stored, hs, hnext⟩ := bind_eq_ok.mp h
    cases hnext
    have hsame := hstore hs
    exact hsame
  · split at h
    · cases h
      exact ⟨rfl, rfl⟩
    · split at h
      · split at h <;> cases h <;> exact hdeliver
      · split at h
        · exact hstore h
        · cases h
          exact ⟨rfl, rfl⟩

lemma Plain.newByte {b : UInt8} (h : Plain accm decoder) (hnext : decoder.newByte keep b = .ok next) :
    Plain accm next ∧ next.seen.map Prod.fst = decoder.seen.map Prod.fst ++ [b] := by
  obtain ⟨hsettings, hseen⟩ := newByte_seen hnext
  rw [h.settings] at hsettings hseen
  refine ⟨⟨hsettings, ?_⟩, ?_⟩
  · rw [hseen, map_append, seenWith, map_append, ← seenWith, ← h.seen]
    rfl
  · rw [hseen, map_append]
    rfl

lemma Plain.newBytesLoop {bs left : List UInt8} (h : Plain accm decoder)
    (hnext : decoder.newBytesLoop keep bs = .ok (next, left)) : Plain accm next := by
  induction bs generalizing decoder with
  | nil =>
    cases hnext
    exact h
  | cons b bs ih =>
    unfold HdlcDecoder.newBytesLoop at hnext
    split at hnext
    · cases hnext
      exact h
    · obtain ⟨mid, hmid, hrest⟩ := bind_eq_ok.mp hnext
      have hplain := (h.newByte hmid).1
      split at hrest
      · cases hrest
        exact hplain
      · exact ih hplain hrest

variable {receiver receiver' : HdlcReceiver}

lemma Plain.newBytes {chunk : List UInt8} {guardTimeout : Bool} (h : Plain accm receiver.decoder)
    (hnext : receiver.newBytes keep chunk guardTimeout = .ok receiver') :
    Plain accm receiver'.decoder ∧ receiver'.fed = receiver.fed ++ chunk := by
  have hdrain {arrived : HdlcReceiver} (hok : arrived.drainLoop keep = .ok receiver')
      (hdecoder : arrived.decoder = receiver.decoder) :
      Plain accm receiver'.decoder ∧ receiver'.fed = arrived.fed := by
    obtain ⟨r, hloop, hr⟩ := bind_eq_ok.mp hok
    cases hr
    rw [hdecoder] at hloop
    exact ⟨h.newBytesLoop hloop, rfl⟩
  obtain ⟨hdecoder, -, hfed⟩ := checkEscape_fields (receiver.arrive chunk) guardTimeout
  unfold HdlcReceiver.newBytes at hnext
  dsimp only at hnext
  split at hnext
  · exact hdrain hnext rfl
  · split at hnext
    · split at hnext
      · cases hnext
        rw [hdecoder, hfed]
        exact ⟨h, rfl⟩
      · rw [← show (receiver.arrive chunk).fed = receiver.fed ++ chunk from rfl, ← hfed]
        exact hdrain hnext hdecoder
    · exact hdrain hnext rfl

/-- Octets of a stream of frames can be taken. -/
lemma octetsOk_of_takes (hin : InFrame decoder) (hplain : Plain accm decoder) (htakes : Takes accm s)
    {bs : List UInt8} (hfront : decoder.seen.map Prod.fst ++ bs <+: s) : decoder.OctetsOk keep bs := by
  induction bs generalizing decoder with
  | nil => exact trivial
  | cons b bs ih =>
    have hone : decoder.seen.map Prod.fst ++ [b] <+: s := by
      refine IsPrefix.trans ⟨bs, ?_⟩ hfront
      rw [append_assoc, singleton_append]
    have hopen : openFrame accm (decoder.seen.map Prod.fst) = (decoder.decodeBuffer, decoder.decodeEscape) := by
      rw [openFrame, ← hplain.seen, hin.segment]
    obtain ⟨hflag, hroom⟩ := htakes _ _ hone
    rw [hopen] at hflag hroom
    have hok : decoder.OctetOk keep b := by
      refine ⟨fun _ => hroom, fun h => ?_, fun h => ?_, fun _ => ⟨?_, ?_⟩⟩
      · exact Bool.false_ne_true ((hflag h.2).symm.trans h.1)
      · rw [hplain.settings] at h
        exact Bool.false_ne_true h.1
      · rw [hplain.settings]
      · unfold HdlcDecoder.deliver
        split <;> exact congrArg HdlcSettings.destroyed hplain.settings
    refine ⟨hok, fun next hnext => ?_⟩
    obtain ⟨hplain', hseen⟩ := hplain.newByte hnext
    obtain ⟨next', hnext', hin', -⟩ := hin.newByte hok
    obtain rfl := Outcome.ok.inj (hnext.symm.trans hnext')
    refine ih hin' hplain' ?_
    rwa [hseen, append_assoc, singleton_append]

/-! ## Runs of a link -/

lemma framesOf_prefix (accm : UInt32) (p t : List UInt8) :
    framesOf (seenWith accm p) <+: framesOf (seenWith accm (p ++ t)) := by
  induction t using reverseRecOn with
  | nil => exact (append_nil p).symm ▸ prefix_rfl
  | append_singleton t b ih =>
    rw [← append_assoc]
    by_cases hb : b = hdlcFlag
    · subst hb
      rw [seenWith.eq_def accm (p ++ t ++ _), map_append]
      refine ih.trans ?_
      have hflag := @framesOf_snoc_flag (hdlcFlag, accm) rfl (seenWith accm (p ++ t))
      exact ⟨_, hflag.symm⟩
    · rwa [(openFrame_other hb accm _).2]

lemma framesOf_held {held : List UInt8} (hheld : ∀ b ∈ held, b = HdlcReceiver.plus) (accm : UInt32)
    (p : List UInt8) : framesOf (seenWith accm (p ++ held)) = framesOf (seenWith accm p) := by
  induction held using reverseRecOn with
  | nil => rw [append_nil]
  | append_singleton held b ih =>
    rw [forall_mem_append, forall_mem_singleton] at hheld
    rw [← append_assoc, (openFrame_other (by rw [hheld.2]; decide) accm _).2, ih hheld.1]

/-- What has been read, what is on its way and what is queued are the frames that have been taken. -/
structure LinkInv (xmitAccm : List UInt32) (accm : UInt32) (link : HdlcLink) : Prop where
  sender : SenderInv xmitAccm link.sender
  inFrame : InFrame link.receiver.decoder
  received : Received link.receiver
  plain : Plain accm link.receiver.decoder
  stream : Within accm (link.receiver.fed ++ (link.wire ++ link.sender.queued)) ([], false)
    (link.taken.filter (· ≠ []))

variable {link : HdlcLink}

lemma LinkInv.delivers (h : LinkInv xmitAccm accm link) : Delivers link := by
  have hread := h.received.frames
  rw [h.plain.seen] at hread
  have hstream := h.stream.frames
  rw [← h.received.stream] at hstream
  refine ⟨?_, fun hwire hempty => ?_⟩
  · rw [hread, ← hstream, append_assoc]
    exact framesOf_prefix _ _ _
  · have hqueued : link.sender.queued = [] := flatMap_eq_nil_iff.mpr hempty
    rw [hwire, hqueued, append_nil, append_nil, framesOf_held h.received.held.2] at hstream
    rw [hread, hstream]

lemma LinkInv.step (hescapes : EscapesFor xmitAccm accm) (h : LinkInv xmitAccm accm link)
    (input : LinkInput) : ∃ next, linkStep link input = some next ∧ LinkInv xmitAccm accm next := by
  cases input with
  | send data =>
    obtain ⟨sent, sender, hsend, hinv, hqueued, hfits⟩ := h.sender.send data
    rw [linkStep, hsend]
    refine ⟨_, rfl, hinv, h.inFrame, h.received, h.plain, ?_⟩
    dsimp only
    rw [hqueued]
    cases sent with
    | false => simpa using h.stream
    | true =>
      have hframe := h.stream.frame (by rwa [h.sender.accm]) (hfits rfl)
      rw [append_assoc, append_assoc] at hframe
      exact hframe
  | write written =>
    obtain ⟨octets, hgoes, hinv, hqueued⟩ := h.sender.write written
    rw [linkStep, hgoes]
    refine ⟨_, rfl, hinv, h.inFrame, h.received, h.plain, ?_⟩
    dsimp only
    rw [append_assoc, hqueued]
    exact h.stream
  | arrive n guardTimeout =>
    have hsplit : link.wire.take n ++ (link.wire.drop n ++ link.sender.queued) =
        link.wire ++ link.sender.queued := by
      rw [← append_assoc, take_append_drop]
    have hok : HdlcStepOk keep link.receiver (.bytes (link.wire.take n) guardTimeout) := by
      refine .inr (octetsOk_of_takes h.inFrame h.plain h.stream.takes
        ⟨link.wire.drop n ++ link.sender.queued, ?_⟩)
      rw [← append_assoc _ link.receiver.rbuf, h.received.stream, append_assoc, hsplit]
    obtain ⟨receiver, hstep, hin, hreceived⟩ := hdlcStep_received h.inFrame h.received hok
    rw [hdlcStep] at hstep
    rw [linkStep]
    split at hstep
    next receiver' hnew =>
      cases hstep
      obtain ⟨hplain, hfed⟩ := h.plain.newBytes hnew
      rw [hnew]
      refine ⟨_, rfl, h.sender, hin, hreceived, hplain, ?_⟩
      dsimp only
      rw [hfed, append_assoc, hsplit]
      exact h.stream
    next => cases hstep

/-- The ACCM speaks of the control characters; of all others the flag and the escape are escaped. -/
lemma octet_cases (c : UInt8) : (c < 0x20 ∧ (c >>> 5).toNat = 0 ∧ c &&& 0x1f = c ∧
    c ^^^ hdlcTrans ≠ hdlcFlag ∧ c ≠ hdlcFlag ∧ c ≠ hdlcEscape) ∨ (0x20 ≤ c ∧ (c >>> 5).toNat ≠ 0 ∧
    needEscape (0 :: HdlcSender.new.xmitAccm.tail) c = decide (c = hdlcEscape ∨ c = hdlcFlag)) := by
  have hall : ∀ n : Fin 256, let c := UInt8.ofNat n
      (c < 0x20 ∧ (c >>> 5).toNat = 0 ∧ c &&& 0x1f = c ∧
        c ^^^ hdlcTrans ≠ hdlcFlag ∧ c ≠ hdlcFlag ∧ c ≠ hdlcEscape) ∨
      (0x20 ≤ c ∧ (c >>> 5).toNat ≠ 0 ∧
        needEscape (0 :: HdlcSender.new.xmitAccm.tail) c = decide (c = hdlcEscape ∨ c = hdlcFlag)) := by
    decide +kernel
  have hc := hall ⟨c.toNat, c.toNat_lt⟩
  rwa [UInt8.ofNat_toNat] at hc

lemma escapesFor {xmitAccm recvAccm : UInt32} (h : recvAccm &&& ~~~xmitAccm = 0) :
    EscapesFor (xmitAccm :: HdlcSender.new.xmitAccm.tail) recvAccm := by
  intro c
  rcases octet_cases c with ⟨hlow, hindex, hbit, htrans, hflag, hescape⟩ | ⟨hhigh, hindex, hneed⟩
  · have hneed : needEscape (xmitAccm :: HdlcSender.new.xmitAccm.tail) c =
        decide (xmitAccm &&& (1 <<< c.toUInt32) ≠ 0) := by
      rw [needEscape, hindex, hbit]
      rfl
    split
    next => exact htrans
    next hnot =>
      rw [hneed, decide_eq_true_eq, not_not] at hnot
      refine ⟨hflag, hescape, .inr (UInt32.toBitVec_inj.mp (BitVec.eq_of_getLsbD_eq fun i hi => ?_))⟩
      have hrecv := congrArg (fun accm : UInt32 => accm.toBitVec.getLsbD i) h
      have hxmit := congrArg (fun accm : UInt32 => accm.toBitVec.getLsbD i) hnot
      simp only [UInt32.toBitVec_and, UInt32.toBitVec_not, BitVec.getLsbD_and, BitVec.getLsbD_not] at *
      grind
  · have hneed' : needEscape (xmitAccm :: HdlcSender.new.xmitAccm.tail) c =
        decide (c = hdlcEscape ∨ c = hdlcFlag) := by
      rw [← hneed, needEscape, needEscape]
      cases hk : (c >>> 5).toNat with
      | zero => exact absurd hk hindex
      | succ k => rfl
    rw [hneed']
    split
    next hquoted => rcases of_decide_eq_true hquoted with rfl | rfl <;> decide
    next hplain =>
      rw [decide_eq_true_eq, not_or] at hplain
      exact ⟨hplain.2, hplain.1, .inl hhigh⟩

/-- Nothing is written outside of a buffer, and no frame is lost, doubled, changed or overtaken, as
long as the sender escapes all that the receiver is to drop. -/
theorem hdlc_link_delivers {xmitAccm recvAccm : UInt32} (h : recvAccm &&& ~~~xmitAccm = 0)
    (marker timer : Bool) (inputs : List LinkInput) :
    Machine.Safe linkStep Delivers (HdlcLink.start xmitAccm recvAccm marker timer) inputs := by
  refine Machine.safe_of_invariant (fun _ => LinkInv.delivers)
    (fun _ input hinv => LinkInv.step (escapesFor h) hinv input) ?_ inputs
  refine ⟨⟨⟨?_, ?_, ?_⟩, rfl, fun _ => rfl⟩, ⟨rfl, rfl, rfl, rfl⟩, ⟨rfl, rfl, Nat.zero_le _, forall_mem_nil _⟩,
    ⟨rfl, rfl⟩, ?_⟩
  · exact new_valid.queue
  · exact new_valid.buffers
  · rfl
  · have hqueued : (HdlcLink.start xmitAccm recvAccm marker timer).sender.queued = [] := by
      rw [HdlcSender.queued, HdlcLink.start, HdlcSender.new, flatMap_singleton, pending_new]
    rw [hqueued]
    exact ⟨rfl, fun p b hp => absurd (prefix_nil.mp hp) (concat_ne_nil b p), rfl⟩

/-- A frame of one octet, with the ACCM that a link begins with. -/
theorem hdlc_link_delivers_octet : (0xffffffff : UInt32) &&& ~~~0xffffffff = 0 ∧
    Machine.Safe linkStep Delivers (HdlcLink.start 0xffffffff 0xffffffff false false)
      [.send [0x41], .write 3, .write 10, .arrive 2 false, .arrive 20 true] :=
  ⟨by decide, hdlc_link_delivers (by decide) _ _ _⟩

end Phonelets.Gatchat
