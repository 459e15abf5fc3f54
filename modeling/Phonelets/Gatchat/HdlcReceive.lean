import Mathlib.Data.List.TakeWhile
import Phonelets.Lib.Decoder
import Phonelets.Lib.Framing
import Phonelets.Lib.Machine

/-! # Receiving HDLC frames

`new_bytes` undoes the octet stuffing of `gathdlc.c` as the octets come, and hands a frame over at the
flag behind it. The stream is compared with its frames: what stands between two flags is a frame when
it decodes and passes the check, whatever has stood in front of it.
-/

namespace Phonelets.Gatchat

/-! ## Frame check sequences -/

def crcCcittTable : List UInt16 := [
  0x0000, 0x1189, 0x2312, 0x329b, 0x4624, 0x57ad, 0x6536, 0x74bf, 0x8c48, 0x9dc1, 0xaf5a, 0xbed3,
  0xca6c, 0xdbe5, 0xe97e, 0xf8f7, 0x1081, 0x0108, 0x3393, 0x221a, 0x56a5, 0x472c, 0x75b7, 0x643e,
  0x9cc9, 0x8d40, 0xbfdb, 0xae52, 0xdaed, 0xcb64, 0xf9ff, 0xe876, 0x2102, 0x308b, 0x0210, 0x1399,
  0x6726, 0x76af, 0x4434, 0x55bd, 0xad4a, 0xbcc3, 0x8e58, 0x9fd1, 0xeb6e, 0xfae7, 0xc87c, 0xd9f5,
  0x3183, 0x200a, 0x1291, 0x0318, 0x77a7, 0x662e, 0x54b5, 0x453c, 0xbdcb, 0xac42, 0x9ed9, 0x8f50,
  0xfbef, 0xea66, 0xd8fd, 0xc974, 0x4204, 0x538d, 0x6116, 0x709f, 0x0420, 0x15a9, 0x2732, 0x36bb,
  0xce4c, 0xdfc5, 0xed5e, 0xfcd7, 0x8868, 0x99e1, 0xab7a, 0xbaf3, 0x5285, 0x430c, 0x7197, 0x601e,
  0x14a1, 0x0528, 0x37b3, 0x263a, 0xdecd, 0xcf44, 0xfddf, 0xec56, 0x98e9, 0x8960, 0xbbfb, 0xaa72,
  0x6306, 0x728f, 0x4014, 0x519d, 0x2522, 0x34ab, 0x0630, 0x17b9, 0xef4e, 0xfec7, 0xcc5c, 0xddd5,
  0xa96a, 0xb8e3, 0x8a78, 0x9bf1, 0x7387, 0x620e, 0x5095, 0x411c, 0x35a3, 0x242a, 0x16b1, 0x0738,
  0xffcf, 0xee46, 0xdcdd, 0xcd54, 0xb9eb, 0xa862, 0x9af9, 0x8b70, 0x8408, 0x9581, 0xa71a, 0xb693,
  0xc22c, 0xd3a5, 0xe13e, 0xf0b7, 0x0840, 0x19c9, 0x2b52, 0x3adb, 0x4e64, 0x5fed, 0x6d76, 0x7cff,
  0x9489, 0x8500, 0xb79b, 0xa612, 0xd2ad, 0xc324, 0xf1bf, 0xe036, 0x18c1, 0x0948, 0x3bd3, 0x2a5a,
  0x5ee5, 0x4f6c, 0x7df7, 0x6c7e, 0xa50a, 0xb483, 0x8618, 0x9791, 0xe32e, 0xf2a7, 0xc03c, 0xd1b5,
  0x2942, 0x38cb, 0x0a50, 0x1bd9, 0x6f66, 0x7eef, 0x4c74, 0x5dfd, 0xb58b, 0xa402, 0x9699, 0x8710,
  0xf3af, 0xe226, 0xd0bd, 0xc134, 0x39c3, 0x284a, 0x1ad1, 0x0b58, 0x7fe7, 0x6e6e, 0x5cf5, 0x4d7c,
  0xc60c, 0xd785, 0xe51e, 0xf497, 0x8028, 0x91a1, 0xa33a, 0xb2b3, 0x4a44, 0x5bcd, 0x6956, 0x78df,
  0x0c60, 0x1de9, 0x2f72, 0x3efb, 0xd68d, 0xc704, 0xf59f, 0xe416, 0x90a9, 0x8120, 0xb3bb, 0xa232,
  0x5ac5, 0x4b4c, 0x79d7, 0x685e, 0x1ce1, 0x0d68, 0x3ff3, 0x2e7a, 0xe70e, 0xf687, 0xc41c, 0xd595,
  0xa12a, 0xb0a3, 0x8238, 0x93b1, 0x6b46, 0x7acf, 0x4854, 0x59dd, 0x2d62, 0x3ceb, 0x0e70, 0x1ff9,
  0xf78f, 0xe606, 0xd49d, 0xc514, 0xb1ab, 0xa022, 0x92b9, 0x8330, 0x7bc7, 0x6a4e, 0x58d5, 0x495c,
  0x3de3, 0x2c6a, 0x1ef1, 0x0f78]

def crcCcittByte (crc : UInt16) (c : UInt8) : UInt16 :=
  (crc >>> 8) ^^^ crcCcittTable.getD ((crc ^^^ c.toUInt16) &&& 0xff).toNat 0

def hdlcFlag : UInt8 := 0x7e
def hdlcEscape : UInt8 := 0x7d
def hdlcTrans : UInt8 := 0x20
def hdlcInitfcs : UInt16 := 0xffff
def hdlcGoodfcs : UInt16 := 0xf0b8

/-- `HDLC_FCS` over a number of octets. -/
def hdlcFcs (data : List UInt8) : UInt16 := data.foldl crcCcittByte hdlcInitfcs

/-! ## The receiver -/

/-- What a callback may set of a receiver. -/
structure HdlcSettings where
  recvAccm : UInt32
  noCarrierDetect : Bool
  receiveFunc : Bool
  destroyed : Bool

/-- What the loop of `new_bytes` works on. `decodeBuffer` has the octets up to `decode_offset`. The
last two are read by nothing: the frames handed over so far, and the octets read so far, each with the
ACCM of that time. -/
structure HdlcDecoder where
  decodeBuffer : List UInt8
  decodeFcs : UInt16
  decodeEscape : Bool
  settings : HdlcSettings
  received : List (List UInt8)
  seen : List (UInt8 × UInt32)

/-- What `struct _GAtHDLC` has for receiving. `rbuf` has the octets that have come and have not been
drained; `timer` is whether there is one, and so is `suspendSource`. Nothing reads `fed`, all octets
that have come. -/
structure HdlcReceiver where
  decoder : HdlcDecoder
  timer : Bool
  suspendSource : Bool
  numPlus : ℕ
  rbuf : List UInt8
  fed : List UInt8

/-- `BUFFER_SIZE` -/
def hdlcBufferSize : ℕ := 2 * 2048

/-- `g_at_hdlc_new_from_io`, for receiving. -/
def hdlcNew : HdlcReceiver where
  decoder := ⟨[], hdlcInitfcs, false, ⟨0xffffffff, false, false, false⟩, [], []⟩
  timer := false
  suspendSource := false
  numPlus := 0
  rbuf := []
  fed := []

/-- What `receive_func` does to the receiver, after the frames that it has been given. -/
abbrev ReceiveFunc : Type := List (List UInt8) → HdlcSettings → HdlcSettings

namespace HdlcDecoder

/-- `hdlc->decode_buffer[hdlc->decode_offset++] = val;` with the check sequence. -/
def store (hdlc : HdlcDecoder) (val : UInt8) : Outcome HdlcDecoder :=
  if hdlc.decodeBuffer.length < hdlcBufferSize then
    .ok { hdlc with
      decodeBuffer := hdlc.decodeBuffer ++ [val]
      decodeFcs := crcCcittByte hdlc.decodeFcs val }
  else .fault

/-- The control characters that the sender has been told to escape are dropped when they come
otherwise. -/
def passes (recvAccm : UInt32) (b : UInt8) : Prop :=
  b ≥ 0x20 ∨ recvAccm &&& (1 <<< b.toUInt32) = 0

instance (recvAccm : UInt32) (b : UInt8) : Decidable (passes recvAccm b) := by
  unfold passes
  infer_instance

/-- The frame is handed over, if it is one. -/
def deliver (react : ReceiveFunc) (hdlc : HdlcDecoder) : HdlcDecoder :=
  if hdlc.settings.receiveFunc ∧ hdlc.decodeBuffer.length > 2 ∧ hdlc.decodeFcs = hdlcGoodfcs then
    let received := hdlc.received ++ [hdlc.decodeBuffer.take (hdlc.decodeBuffer.length - 2)]
    { hdlc with received := received, settings := react received hdlc.settings }
  else hdlc

/-- The octet is written down. -/
def see (hdlc : HdlcDecoder) (b : UInt8) : HdlcDecoder :=
  { hdlc with seen := hdlc.seen ++ [(b, hdlc.settings.recvAccm)] }

/-- A round of the loop of `new_bytes`; a receiver that has been destroyed stays as it is. -/
def newByte (react : ReceiveFunc) (hdlc : HdlcDecoder) (b : UInt8) : Outcome HdlcDecoder :=
  let hdlc := hdlc.see b
  if hdlc.decodeEscape then do
    let hdlc ← hdlc.store (b ^^^ hdlcTrans)
    .ok { hdlc with decodeEscape := false }
  else if b = hdlcEscape then .ok { hdlc with decodeEscape := true }
  else if b = hdlcFlag then
    let hdlc := hdlc.deliver react
    if hdlc.settings.destroyed then .ok hdlc
    else .ok { hdlc with decodeFcs := hdlcInitfcs, decodeBuffer := [] }
  else if passes hdlc.settings.recvAccm b then hdlc.store b
  else .ok hdlc

/-- The loop of `new_bytes`, and what is not drained. -/
def newBytesLoop (react : ReceiveFunc) (hdlc : HdlcDecoder) :
    List UInt8 → Outcome (HdlcDecoder × List UInt8)
  | [] => .ok (hdlc, [])
  | b :: bs =>
    if hdlc.settings.noCarrierDetect ∧ hdlc.decodeBuffer.length = 0 ∧ b = 0x0d then .ok (hdlc, b :: bs)
    else do
      let hdlc ← hdlc.newByte react b
      if hdlc.settings.destroyed then .ok (hdlc, b :: bs) else newBytesLoop react hdlc bs

end HdlcDecoder

namespace HdlcReceiver

/-- `+` -/
def plus : UInt8 := 0x2b

def checkEscape (hdlc : HdlcReceiver) (guardTimeout : Bool) : Bool × HdlcReceiver :=
  let numPlus := ((hdlc.rbuf.take 3).takeWhile (· = plus)).length
  if numPlus ≠ hdlc.rbuf.length then (false, hdlc)
  else if guardTimeout = false ∧ hdlc.numPlus = 0 then (false, hdlc)
  else if numPlus ≠ 3 then (true, { hdlc with numPlus := numPlus })
  else (true, { hdlc with numPlus := 0, suspendSource := true })

/-- All that is there is read. -/
def drainLoop (react : ReceiveFunc) (hdlc : HdlcReceiver) : Outcome HdlcReceiver := do
  let (decoder, rest) ← hdlc.decoder.newBytesLoop react hdlc.rbuf
  .ok { hdlc with decoder := decoder, rbuf := rest }

/-- More octets have come. -/
def arrive (hdlc : HdlcReceiver) (chunk : List UInt8) : HdlcReceiver :=
  { hdlc with rbuf := hdlc.rbuf ++ chunk, fed := hdlc.fed ++ chunk }

/-- `new_bytes`, after more octets have come; `guardTimeout` is whether a second has gone by since
the last ones. -/
def newBytes (react : ReceiveFunc) (hdlc : HdlcReceiver) (chunk : List UInt8) (guardTimeout : Bool) :
    Outcome HdlcReceiver :=
  let hdlc := hdlc.arrive chunk
  if hdlc.suspendSource then ({ hdlc with suspendSource := false } : HdlcReceiver).drainLoop react
  else if hdlc.timer then
    let (escaping, hdlc) := hdlc.checkEscape guardTimeout
    if escaping then .ok hdlc else hdlc.drainLoop react
  else hdlc.drainLoop react

def set (hdlc : HdlcReceiver) (settings : HdlcSettings) : HdlcReceiver :=
  { hdlc with decoder := { hdlc.decoder with settings := settings } }

end HdlcReceiver

/-- What happens to a receiver, as long as it is not suspended. -/
inductive HdlcInput where
  | bytes (chunk : List UInt8) (guardTimeout : Bool)
  | setRecvAccm (accm : UInt32)
  | setReceive (set : Bool)
  | setNoCarrierDetect (detect : Bool)
  | setSuspendFunction (set : Bool)

/-- A step; nothing when something is written outside of the buffer. -/
def hdlcStep (react : ReceiveFunc) (hdlc : HdlcReceiver) : HdlcInput → Option HdlcReceiver
  | .bytes chunk guardTimeout =>
    match hdlc.newBytes react chunk guardTimeout with
    | .ok hdlc => some hdlc
    | _ => none
  | .setRecvAccm accm => some (hdlc.set { hdlc.decoder.settings with recvAccm := accm })
  | .setReceive set => some (hdlc.set { hdlc.decoder.settings with receiveFunc := set })
  | .setNoCarrierDetect detect => some (hdlc.set { hdlc.decoder.settings with noCarrierDetect := detect })
  | .setSuspendFunction set =>
    some { hdlc with timer := set, suspendSource := hdlc.suspendSource && set }

/-! ## Frames of the stream -/

/-- A symbol between two flags: the octets so far, and whether the next one is escaped. -/
def receiveOctet (s : List UInt8 × Bool) (c : UInt8 × UInt32) : List UInt8 × Bool :=
  if s.2 then (s.1 ++ [c.1 ^^^ hdlcTrans], false)
  else if c.1 = hdlcEscape then (s.1, true)
  else if HdlcDecoder.passes c.2 c.1 then (s.1 ++ [c.1], false)
  else s

/-- What is between two flags, decoded. -/
def decoded (segment : List (UInt8 × UInt32)) : List UInt8 × Bool := segment.foldl receiveOctet ([], false)

/-- The frame between two flags, if it is well-formed: no escape is left, and the octets have the good
check sequence. -/
def frameOf (segment : List (UInt8 × UInt32)) : Option (List UInt8) :=
  let octets := (decoded segment).1
  if (decoded segment).2 = false ∧ octets.length > 2 ∧ hdlcFcs octets = hdlcGoodfcs then
    some (octets.take (octets.length - 2))
  else none

def isHdlcFlag (c : UInt8 × UInt32) : Bool := c.1 = hdlcFlag

/-- The well-formed frames of a stream. -/
def framesOf (stream : List (UInt8 × UInt32)) : List (List UInt8) :=
  (Framing.split isHdlcFlag stream).1.filterMap frameOf

/-- All well-formed frames of the stream so far have been handed over, and no others. What has not
been read are the characters of an escape sequence. -/
structure Received (hdlc : HdlcReceiver) : Prop where
  frames : hdlc.decoder.received = framesOf hdlc.decoder.seen
  stream : hdlc.decoder.seen.map Prod.fst ++ hdlc.rbuf = hdlc.fed
  held : hdlc.rbuf.length ≤ 3 ∧ ∀ b ∈ hdlc.rbuf, b = HdlcReceiver.plus

/-! ## Conditions -/

namespace HdlcDecoder

/-- The octet is put into the buffer. -/
def Stores (hdlc : HdlcDecoder) (b : UInt8) : Prop :=
  hdlc.decodeEscape = true ∨ b ≠ hdlcEscape ∧ b ≠ hdlcFlag ∧ passes hdlc.settings.recvAccm b

/-- An octet that the receiver can take: there is room for it when it is stored, no flag is swallowed
by an escape, no return at the start of a frame stops the loop, and at a flag someone is there to be
given frames who keeps the receiver. -/
structure OctetOk (react : ReceiveFunc) (hdlc : HdlcDecoder) (b : UInt8) : Prop where
  room : hdlc.Stores b → hdlc.decodeBuffer.length < hdlcBufferSize
  flag : ¬ (hdlc.decodeEscape = true ∧ b = hdlcFlag)
  carrier : ¬ (hdlc.settings.noCarrierDetect = true ∧ hdlc.decodeBuffer.length = 0 ∧ b = 0x0d)
  receiver : b = hdlcFlag → hdlc.settings.receiveFunc = true ∧
    (hdlc.deliver react).settings.destroyed = false

/-- Octets that it can take one after the other. -/
def OctetsOk (react : ReceiveFunc) (hdlc : HdlcDecoder) : List UInt8 → Prop
  | [] => True
  | b :: bs => hdlc.OctetOk react b ∧ ∀ next, hdlc.newByte react b = .ok next → next.OctetsOk react bs

end HdlcDecoder

/-- The octets are held back, as they may be an escape sequence. -/
def HdlcReceiver.Holds (hdlc : HdlcReceiver) (chunk : List UInt8) (guardTimeout : Bool) : Prop :=
  hdlc.suspendSource = false ∧ hdlc.timer = true ∧
    ((hdlc.arrive chunk).checkEscape guardTimeout).1 = true

/-- The octets that have come can be taken, if they are read now. -/
def HdlcStepOk (react : ReceiveFunc) (hdlc : HdlcReceiver) : HdlcInput → Prop
  | .bytes chunk guardTimeout =>
    hdlc.Holds chunk guardTimeout ∨ hdlc.decoder.OctetsOk react (hdlc.rbuf ++ chunk)
  | _ => True

/-! ## One octet -/

/-- The receiver is where the stream is. -/
structure InFrame (hdlc : HdlcDecoder) : Prop where
  frames : hdlc.received = framesOf hdlc.seen
  segment : decoded (Framing.split isHdlcFlag hdlc.seen).2 = (hdlc.decodeBuffer, hdlc.decodeEscape)
  fcs : hdlc.decodeFcs = hdlcFcs hdlc.decodeBuffer
  kept : hdlc.settings.destroyed = false

variable {react : ReceiveFunc} {hdlc : HdlcDecoder} {b : UInt8} {bs chunk : List UInt8}

lemma hdlcFcs_snoc (data : List UInt8) (c : UInt8) :
    hdlcFcs (data ++ [c]) = crcCcittByte (hdlcFcs data) c := List.foldl_append

lemma decoded_snoc (segment : List (UInt8 × UInt32)) (c : UInt8 × UInt32) :
    decoded (segment ++ [c]) = receiveOctet (decoded segment) c := List.foldl_append

variable {c : UInt8 × UInt32}

lemma framesOf_snoc_other (h : isHdlcFlag c ≠ true)
    (stream : List (UInt8 × UInt32)) : framesOf (stream ++ [c]) = framesOf stream := by
  rw [framesOf, Framing.split_snoc_other h, framesOf]

lemma framesOf_snoc_flag (h : isHdlcFlag c = true) (stream : List (UInt8 × UInt32)) : framesOf
    (stream ++ [c]) = framesOf stream ++ (frameOf (Framing.split isHdlcFlag stream).2).toList := by
  rw [framesOf, Framing.split_snoc_flag h, List.filterMap_append, framesOf]
  congr 1

lemma InFrame.other (h : InFrame hdlc) (hc : isHdlcFlag c ≠ true)
    {next : HdlcDecoder} (hseen : next.seen = hdlc.seen ++ [c]) (hreceived : next.received = hdlc.received)
    (hsettings : next.settings = hdlc.settings)
    (hoctet : receiveOctet (hdlc.decodeBuffer, hdlc.decodeEscape) c = (next.decodeBuffer, next.decodeEscape))
    (hfcs : next.decodeFcs = hdlcFcs next.decodeBuffer) : InFrame next where
  frames := by rw [hreceived, hseen, framesOf_snoc_other hc, h.frames]
  segment := by rw [hseen, Framing.split_snoc_other hc, decoded_snoc, h.segment, hoctet]
  fcs := hfcs
  kept := by rw [hsettings, h.kept]

lemma InFrame.deliver_received (h : InFrame hdlc) (hreceive : hdlc.settings.receiveFunc = true)
    (hescape : hdlc.decodeEscape = false) : (hdlc.deliver react).received = hdlc.received ++
    (frameOf (Framing.split isHdlcFlag hdlc.seen).2).toList := by
  unfold HdlcDecoder.deliver frameOf
  rw [h.segment, h.fcs]
  dsimp only
  by_cases hgood : hdlc.decodeBuffer.length > 2 ∧ hdlcFcs hdlc.decodeBuffer = hdlcGoodfcs
  · rw [if_pos ⟨hreceive, hgood⟩, if_pos ⟨hescape, hgood⟩]
    rfl
  · rw [if_neg fun h => hgood h.2, if_neg fun h => hgood h.2]
    exact (List.append_nil _).symm

lemma HdlcDecoder.deliver_see (react : ReceiveFunc) (hdlc : HdlcDecoder) (b : UInt8) :
    ((hdlc.see b).deliver react).received = (hdlc.deliver react).received ∧
    ((hdlc.see b).deliver react).settings = (hdlc.deliver react).settings ∧
    ((hdlc.see b).deliver react).seen = hdlc.seen ++ [(b, hdlc.settings.recvAccm)] ∧
    ((hdlc.see b).deliver react).decodeEscape = hdlc.decodeEscape := by
  by_cases hgood : hdlc.settings.receiveFunc = true ∧ hdlc.decodeBuffer.length > 2 ∧
      hdlc.decodeFcs = hdlcGoodfcs
  · have hsee : (hdlc.see b).deliver react = _ := if_pos hgood
    have hhdlc : hdlc.deliver react = _ := if_pos hgood
    rw [hsee, hhdlc]
    exact ⟨rfl, rfl, rfl, rfl⟩
  · have hsee : (hdlc.see b).deliver react = _ := if_neg hgood
    have hhdlc : hdlc.deliver react = _ := if_neg hgood
    rw [hsee, hhdlc]
    exact ⟨rfl, rfl, rfl, rfl⟩

lemma InFrame.flag (h : InFrame hdlc) (hok : hdlc.OctetOk react hdlcFlag)
    (hescape : hdlc.decodeEscape = false) :
    InFrame { (hdlc.see hdlcFlag).deliver react with decodeFcs := hdlcInitfcs, decodeBuffer := [] } := by
  obtain ⟨hreceived, hsettings, hseen, hesc⟩ := hdlc.deliver_see react hdlcFlag
  obtain ⟨hreceive, hkept⟩ := hok.receiver rfl
  have hflag : isHdlcFlag (hdlcFlag, hdlc.settings.recvAccm) = true := rfl
  constructor
  · change ((hdlc.see hdlcFlag).deliver react).received =
      framesOf ((hdlc.see hdlcFlag).deliver react).seen
    rw [hreceived, hseen, h.deliver_received hreceive hescape, framesOf_snoc_flag hflag, h.frames]
  · change decoded (Framing.split isHdlcFlag ((hdlc.see hdlcFlag).deliver react).seen).2 =
      ([], ((hdlc.see hdlcFlag).deliver react).decodeEscape)
    rw [hseen, hesc, hescape, Framing.split_snoc_flag hflag]
    rfl
  · rfl
  · change ((hdlc.see hdlcFlag).deliver react).settings.destroyed = false
    rw [hsettings, hkept]

lemma InFrame.newByte (h : InFrame hdlc) (hok : hdlc.OctetOk react b) : ∃ next, hdlc.newByte react
    b = .ok next ∧ InFrame next ∧ next.seen.map Prod.fst = hdlc.seen.map Prod.fst ++ [b] := by
  have hseen : (hdlc.see b).seen.map Prod.fst = hdlc.seen.map Prod.fst ++ [b] := List.map_append
  have hflag (hb : b ≠ hdlcFlag) : isHdlcFlag (b, hdlc.settings.recvAccm) ≠ true := by
    simpa [isHdlcFlag] using hb
  have hstore (hstores : hdlc.Stores b) (val : UInt8) :
      (hdlc.see b).store val = .ok { hdlc.see b with
        decodeBuffer := hdlc.decodeBuffer ++ [val]
        decodeFcs := crcCcittByte hdlc.decodeFcs val } := if_pos (hok.room hstores)
  have hfcs (val : UInt8) : crcCcittByte hdlc.decodeFcs val = hdlcFcs (hdlc.decodeBuffer ++ [val]) := by
    rw [h.fcs, hdlcFcs_snoc]
  unfold HdlcDecoder.newByte
  change ∃ next, (if hdlc.decodeEscape = true then _ else _) = _ ∧ _
  by_cases hescape : hdlc.decodeEscape = true
  · have hb : b ≠ hdlcFlag := fun hb => hok.flag ⟨hescape, hb⟩
    rw [if_pos hescape, hstore (.inl hescape), Outcome.ok_bind]
    refine ⟨_, rfl, h.other (hflag hb) rfl rfl rfl ?_ (hfcs _), hseen⟩
    rw [receiveOctet, if_pos hescape]
  · rw [if_neg hescape]
    rw [Bool.not_eq_true] at hescape
    by_cases hquote : b = hdlcEscape
    · subst hquote
      rw [if_pos rfl]
      refine ⟨_, rfl, h.other (hflag (by decide)) rfl rfl rfl ?_ h.fcs, hseen⟩
      rw [hescape]
      rfl
    · rw [if_neg hquote]
      by_cases hb : b = hdlcFlag
      · subst hb
        obtain ⟨-, hsettings, hseen', -⟩ := hdlc.deliver_see react hdlcFlag
        have hkept : ((hdlc.see hdlcFlag).deliver react).settings.destroyed ≠ true := by
          rw [hsettings, (hok.receiver rfl).2]
          exact Bool.false_ne_true
        rw [if_pos rfl]
        dsimp only
        rw [if_neg hkept]
        refine ⟨_, rfl, h.flag hok hescape, ?_⟩
        dsimp only
        rw [hseen', List.map_append]
        rfl
      · rw [if_neg hb]
        change ∃ next, (if HdlcDecoder.passes hdlc.settings.recvAccm b then _ else _) = _ ∧ _
        have hoctet : receiveOctet (hdlc.decodeBuffer, hdlc.decodeEscape) (b, hdlc.settings.recvAccm) =
            if HdlcDecoder.passes hdlc.settings.recvAccm b then (hdlc.decodeBuffer ++ [b], false)
            else (hdlc.decodeBuffer, false) := by
          rw [receiveOctet, hescape]
          exact if_neg hquote
        by_cases hpasses : HdlcDecoder.passes hdlc.settings.recvAccm b
        · rw [if_pos hpasses, hstore (.inr ⟨hquote, hb, hpasses⟩)]
          refine ⟨_, rfl, h.other (hflag hb) rfl rfl rfl ?_ (hfcs b), hseen⟩
          rw [hoctet, if_pos hpasses, ← hescape]
          rfl
        · rw [if_neg hpasses]
          refine ⟨_, rfl, h.other (hflag hb) rfl rfl rfl ?_ h.fcs, hseen⟩
          rw [hoctet, if_neg hpasses, ← hescape]
          rfl

/-! ## Runs -/

lemma InFrame.newBytesLoop (h : InFrame hdlc) (hok : hdlc.OctetsOk react bs) :
    ∃ next, hdlc.newBytesLoop react bs = .ok (next, []) ∧ InFrame next ∧
      next.seen.map Prod.fst = hdlc.seen.map Prod.fst ++ bs := by
  induction bs generalizing hdlc with
  | nil => exact ⟨hdlc, rfl, h, (List.append_nil _).symm⟩
  | cons b bs ih =>
    obtain ⟨hb, hmore⟩ := hok
    obtain ⟨mid, hmid, hin, hseen⟩ := h.newByte hb
    obtain ⟨next, hnext, hin', hseen'⟩ := ih hin (hmore mid hmid)
    refine ⟨next, ?_, hin', ?_⟩
    · rw [HdlcDecoder.newBytesLoop, if_neg hb.carrier, hmid, Outcome.ok_bind, hin.kept]
      exact hnext
    · rw [hseen', hseen, List.append_assoc]
      rfl

variable {hdlc : HdlcReceiver}

lemma drainLoop_received (h : InFrame hdlc.decoder) (hstream : hdlc.decoder.seen.map Prod.fst ++
    hdlc.rbuf = hdlc.fed) (hok : hdlc.decoder.OctetsOk react hdlc.rbuf) :
    ∃ next, hdlc.drainLoop react = .ok next ∧ InFrame next.decoder ∧ Received next := by
  obtain ⟨decoder, hloop, hin, hseen⟩ := h.newBytesLoop hok
  rw [HdlcReceiver.drainLoop, hloop]
  refine ⟨_, rfl, hin, hin.frames, ?_, Nat.zero_le _, List.forall_mem_nil _⟩
  dsimp only
  rw [hseen, List.append_nil, hstream]

lemma checkEscape_held {guardTimeout : Bool} (h : (hdlc.checkEscape guardTimeout).1 = true) :
    hdlc.rbuf.length ≤ 3 ∧ ∀ b ∈ hdlc.rbuf, b = HdlcReceiver.plus := by
  unfold HdlcReceiver.checkEscape at h
  dsimp only at h
  by_cases hplus : ((hdlc.rbuf.take 3).takeWhile (· = HdlcReceiver.plus)).length = hdlc.rbuf.length
  · have hfront := List.takeWhile_prefix (l := hdlc.rbuf.take 3) (· = HdlcReceiver.plus)
    have hlen := hfront.length_le
    rw [hplus] at hlen
    rw [List.length_take] at hlen
    have hall : (hdlc.rbuf.take 3).takeWhile (· = HdlcReceiver.plus) = hdlc.rbuf :=
      (hfront.trans (List.take_prefix _ _)).eq_of_length hplus
    refine ⟨by omega, fun b hb => ?_⟩
    rw [← hall] at hb
    simpa using List.mem_takeWhile_imp hb
  · rw [if_pos hplus] at h
    exact absurd h Bool.false_ne_true

lemma checkEscape_fields (hdlc : HdlcReceiver) (guardTimeout : Bool) : (hdlc.checkEscape
    guardTimeout).2.decoder = hdlc.decoder ∧ (hdlc.checkEscape guardTimeout).2.rbuf = hdlc.rbuf ∧
    (hdlc.checkEscape guardTimeout).2.fed = hdlc.fed := by
  unfold HdlcReceiver.checkEscape
  dsimp only
  split
  · exact ⟨rfl, rfl, rfl⟩
  · split
    · exact ⟨rfl, rfl, rfl⟩
    · split
      · exact ⟨rfl, rfl, rfl⟩
      · exact ⟨rfl, rfl, rfl⟩

/-- A step that can be taken is taken, and leaves a receiver that is where the stream is. -/
lemma hdlcStep_received {input : HdlcInput} (hin : InFrame hdlc.decoder)
    (hreceived : Received hdlc) (hok : HdlcStepOk react hdlc input) :
    ∃ next, hdlcStep react hdlc input = some next ∧ InFrame next.decoder ∧ Received next := by
  have hset (settings : HdlcSettings) (hkept : settings.destroyed = false) :
      InFrame (hdlc.set settings).decoder ∧ Received (hdlc.set settings) :=
    ⟨⟨hin.frames, hin.segment, hin.fcs, hkept⟩, hreceived.frames, hreceived.stream, hreceived.held⟩
  cases input with
  | setRecvAccm accm => exact ⟨_, rfl, hset _ hin.kept⟩
  | setReceive set => exact ⟨_, rfl, hset _ hin.kept⟩
  | setNoCarrierDetect detect => exact ⟨_, rfl, hset _ hin.kept⟩
  | setSuspendFunction set =>
    exact ⟨_, rfl, hin, hreceived.frames, hreceived.stream, hreceived.held⟩
  | bytes chunk guardTimeout =>
    have hstream : hdlc.decoder.seen.map Prod.fst ++ (hdlc.rbuf ++ chunk) = hdlc.fed ++ chunk := by
      rw [← List.append_assoc, hreceived.stream]
    have hnew : ∃ next, hdlc.newBytes react chunk guardTimeout = .ok next ∧ InFrame next.decoder ∧
        Received next := by
      unfold HdlcReceiver.newBytes
      change ∃ next, (if hdlc.suspendSource = true then _ else if hdlc.timer = true then _ else _) = _ ∧ _
      by_cases hsuspend : hdlc.suspendSource = true
      · have hoctets : hdlc.decoder.OctetsOk react (hdlc.rbuf ++ chunk) :=
          hok.resolve_left fun hholds => Bool.false_ne_true (hholds.1.symm.trans hsuspend)
        rw [if_pos hsuspend]
        exact drainLoop_received hin hstream hoctets
      · rw [if_neg hsuspend]
        by_cases htimer : hdlc.timer = true
        · rw [if_pos htimer]
          obtain ⟨hdecoder, hrbuf, hfed⟩ := checkEscape_fields (hdlc.arrive chunk) guardTimeout
          dsimp only
          by_cases hescaping : ((hdlc.arrive chunk).checkEscape guardTimeout).1 = true
          · -- the octets wait
            rw [if_pos hescaping]
            refine ⟨_, rfl, by rwa [hdecoder], ?_, ?_, ?_⟩
            · rw [hdecoder]
              exact hin.frames
            · rw [hdecoder, hrbuf, hfed]
              exact hstream
            · rw [hrbuf]
              exact checkEscape_held hescaping
          · have hoctets : hdlc.decoder.OctetsOk react (hdlc.rbuf ++ chunk) :=
              hok.resolve_left fun hholds => hescaping hholds.2.2
            rw [if_neg hescaping]
            refine drainLoop_received (by rwa [hdecoder]) ?_ ?_
            · rw [hdecoder, hrbuf, hfed]
              exact hstream
            · rw [hdecoder, hrbuf]
              exact hoctets
        · have hoctets : hdlc.decoder.OctetsOk react (hdlc.rbuf ++ chunk) :=
            hok.resolve_left fun hholds => htimer hholds.2.1
          rw [if_neg htimer]
          exact drainLoop_received hin hstream hoctets
    obtain ⟨next, hnext, hin', hreceived'⟩ := hnew
    refine ⟨next, ?_, hin', hreceived'⟩
    rw [hdlcStep, hnext]

/-- As long as what comes can be taken, nothing is written outside of the buffer, and every
well-formed frame is handed over as it is, whatever has come before it. -/
theorem hdlc_receives (react : ReceiveFunc) (inputs : List HdlcInput)
    (h : Machine.EachStep (hdlcStep react) (HdlcStepOk react) hdlcNew inputs) :
    Machine.Safe (hdlcStep react) Received hdlcNew inputs := by
  have hinit : InFrame hdlcNew.decoder ∧ Received hdlcNew :=
    ⟨⟨rfl, rfl, rfl, rfl⟩, rfl, rfl, Nat.zero_le _, List.forall_mem_nil _⟩
  exact Machine.safe_of_eachStep (fun hdlc hinv => hinv.2)
    (fun hdlc input hinv hok => hdlcStep_received hinv.1 hinv.2 hok) hinit h

/-- A frame of one octet, in two pieces. -/
theorem hdlc_receives_frame : Machine.Safe (hdlcStep fun _ settings => settings) Received hdlcNew
    [.setReceive true, .bytes [0x41, 0xf5] false, .bytes [0xa3, 0x7e] false] := by
  have hother {hdlc : HdlcDecoder} {b : UInt8} (hroom : hdlc.decodeBuffer.length < 4)
      (hb : b ≠ hdlcFlag) (hcarrier : hdlc.settings.noCarrierDetect = false) :
      hdlc.OctetOk (fun _ settings => settings) b := by
    refine ⟨fun _ => Nat.lt_trans hroom (by decide), fun h => hb h.2, fun h => ?_, fun h => absurd h hb⟩
    exact Bool.false_ne_true (hcarrier.symm.trans h.1)
  refine hdlc_receives _ _ ⟨trivial, fun s hs => ?_⟩
  cases hs
  refine ⟨.inr ⟨hother (by decide) (by decide) rfl, fun d hd => ?_⟩, fun s hs => ?_⟩
  · cases hd
    exact ⟨hother (by decide) (by decide) rfl, fun _ _ => trivial⟩
  · cases hs
    refine ⟨.inr ⟨hother (by decide) (by decide) rfl, fun d hd => ?_⟩, fun _ _ => trivial⟩
    cases hd
    refine ⟨⟨fun _ => by decide, ?_, ?_, fun _ => ⟨rfl, rfl⟩⟩, fun _ _ => trivial⟩
    · exact fun h => Bool.false_ne_true h.1
    · exact fun h => Bool.false_ne_true h.1

/-- An escape with a flag behind it: the frame after it is lost. -/
theorem hdlc_loses_frame : ¬ Machine.Safe (hdlcStep fun _ settings => settings) Received hdlcNew
    [.setReceive true, .bytes [0x7d, 0x7e, 0x41, 0xf5, 0xa3, 0x7e] false] := by
  rintro ⟨-, s, hs, -, t, ht, hreceived⟩
  cases hs
  cases ht
  exact absurd hreceived.frames (by decide)

end Phonelets.Gatchat
