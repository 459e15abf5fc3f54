import Mathlib.Algebra.Order.Ring.Int
import Phonelets.Ppp.OptionHandlers
import Phonelets.Ppp.Naks

/-! # Replies, octet by octet

`ControlProtocol` has packets whose length field is their length. Here a packet is what has been received,
and its length field is the peer's: the functions that answer take from it how much they allocate, how much
they copy and how much they pass to `ppp_transmit`. What else an event does is that of `ControlProtocol`.
-/

namespace Phonelets.Ppp

open List
open PppcpData (configureRequest configureAck configureNak configureReject terminateRequest terminateAck
  codeReject echoReply newIdentity)

/-- `PPPCP_CODE_TYPE_PROTOCOL_REJECT` -/
def protocolReject : UInt8 := 8

/-- Where the data of a packet are copied from. -/
inductive CopySource where
  | nothing
  | received (offset : ℕ)
  | options (octets : List UInt8)

/-- There are `k` octets to be copied, of `n` that have been received. -/
def CopySource.Has (n k : ℕ) : CopySource → Prop
  | .nothing => k = 0
  | .received offset => offset + k ≤ n
  | .options octets => k ≤ octets.length

/-- A packet that is sent: the octets that `pppcp_packet_new` has allocated for it, those that `memcpy` puts
behind its header, and the `infolen` of `ppp_transmit`. -/
structure Reply where
  code : UInt8
  identifier : UInt8
  allocated : UInt16
  source : CopySource
  copied : ℕ
  infolen : ℕ

/-- An identifier that differs from the one in the last packet with the code. -/
def FreshIdentifier (replies : List Reply) (code identifier : UInt8) : Prop :=
  ∀ last ∈ (replies.filter fun reply => reply.code = code).head?, last.identifier ≠ identifier

/-- The identifier that the kind of the packet requires. A request has one of its own. -/
def Reply.Identified (received : List UInt8) (before : List Reply) (reply : Reply) : Prop :=
  if reply.code = codeReject ∨ reply.code = protocolReject then
    FreshIdentifier before reply.code reply.identifier
  else reply.code = terminateRequest ∨ reply.identifier = packetIdentifier received

/-- Only octets that are there are copied, into what is allocated, and all of that is sent. -/
structure Reply.Sound (received : List UInt8) (before : List Reply) (reply : Reply) : Prop where
  source : reply.source.Has received.length reply.copied
  room : 4 + reply.copied ≤ reply.allocated.toNat
  infolen : reply.infolen = reply.allocated.toNat
  identified : reply.Identified received before

/-! ## The functions that send -/

/-- The `packet_length` of `pppcp_packet_new`. -/
def pppcpPacketNew (bufferlen : UInt32) : UInt16 := (bufferlen + 4).toUInt16

/-- A length as the `size_t` of `memcpy`. -/
def sizeT (n : ℤ) : ℕ := (n % 2 ^ 64).toNat

/-- A packet with a copy of the data of the request: a Configure-Ack, or the Reject of all options. -/
def copyRequest (code : UInt8) (request : List UInt8) : Reply :=
  let len := pppcpPacketLength request - 4
  let allocated := pppcpPacketNew len.toUInt32
  ⟨code, packetIdentifier request, allocated, .received 4, len.toNat, allocated.toNat⟩

/-- A packet with the options that the driver has given. -/
def copyOptions (code : UInt8) (request peerOptions : List UInt8) : Reply :=
  let len := UInt16.ofNat peerOptions.length
  let allocated := pppcpPacketNew len.toUInt32
  ⟨code, packetIdentifier request, allocated, .options peerOptions, len.toNat, allocated.toNat⟩

def pppcpSendConfigureAck (request : List UInt8) : Reply := copyRequest configureAck request

variable {π : Type}

def pppcpSendConfigureNak (data : PppcpData π) (request : List UInt8) : Reply :=
  if data.failureCounter ≥ data.maxFailure then copyRequest configureReject request
  else if data.sendReject then copyOptions configureReject request data.peerOptions
  else copyOptions configureNak request data.peerOptions

def pppcpSendTerminateRequest (data : PppcpData π) : Reply :=
  let identifier :=
    if data.terminateTimerData.isFirstRequest then newIdentity data.terminateIdentifier
    else data.terminateIdentifier
  let allocated := pppcpPacketNew 0
  ⟨terminateRequest, identifier, allocated, .nothing, 0, allocated.toNat⟩

/-- The length of the request is passed on. -/
def pppcpSendTerminateAck (request : List UInt8) : Reply :=
  ⟨terminateAck, packetIdentifier request, pppcpPacketNew 0, .nothing, 0, (pppcpPacketLength request).toNat⟩

def pppcpSendCodeReject (data : PppcpData π) (rejected : List UInt8) : Reply :=
  let allocated := pppcpPacketNew (pppcpPacketLength rejected).toUInt32
  ⟨codeReject, newIdentity data.rejectIdentifier, allocated, .received 0, sizeT (allocated.toNat - 4),
    allocated.toNat⟩

/-- The magic number is zero already. -/
def pppcpSendEchoReply (request : List UInt8) : Reply :=
  let allocated := pppcpPacketNew 4
  ⟨echoReply, packetIdentifier request, allocated, .nothing, 0, allocated.toNat⟩

/-- `pppcp_send_protocol_reject`, of all octets of a frame. -/
def pppcpSendProtocolReject (data : PppcpData π) (rejected : List UInt8) : List Reply :=
  if data.state ≠ .opened then []
  else
    let allocated := pppcpPacketNew (UInt32.ofNat (sizeT (rejected.length - 2)))
    [⟨protocolReject, newIdentity data.rejectIdentifier, allocated, .received 2, sizeT (rejected.length - 2),
      allocated.toNat⟩]

/-- The packets that the actions send, but for a Configure-Request; the last one first. -/
def actionReplies (actions : List CpAction) (packet : List UInt8) (data : PppcpData π) : List Reply :=
  (if .ser ∈ actions then [pppcpSendEchoReply packet] else []) ++
  (if .scj ∈ actions then [pppcpSendCodeReject data packet] else []) ++
  (if .str ∈ actions then [pppcpSendTerminateRequest data]
    else if .sta ∈ actions then [pppcpSendTerminateAck packet] else []) ++
  (if .sca ∈ actions then [pppcpSendConfigureAck packet]
    else if .scn ∈ actions then [pppcpSendConfigureNak data packet] else [])

def eventReplies (type : PppcpEventType) (packet : List UInt8) (data : PppcpData π) : List Reply :=
  match cpTransition type data.state with
  | none => []
  | some (actions, newState) => actionReplies actions packet (data.countAction actions newState)

/-! ## Packets -/

/-- A driver whose callbacks work on octets; its codes are those of `packet_ops`. -/
structure PacketProto (π : Type) extends OptionProto π where
  known : ∀ code : ℕ, supportedCodes.toNat.testBit code = true → 1 ≤ code ∧ code ≤ 11
  thisLayerDown : π → π × Option (List UInt8)

/-- The index into `packet_ops`, and nothing for `RUC`. Shifting by 32 or more is undefined. -/
def packetOp (supportedCodes : UInt16) (code : UInt8) : Outcome (Option ℤ) :=
  if 32 ≤ code.toNat then .fault
  else if !supportedCodes.toNat.testBit code.toNat then .ok none
  else .ok (some (code.toNat - 1))

/-- `pppcp_process_packet` up to the event that it generates. -/
def packetEvent (proto : PacketProto π) (packet : List UInt8) (fuel : ℕ) (data : PppcpData π) :
    HandlerRun (Option PppcpEventType × PppcpData π) :=
  if packet.length < 4 then pure (none, data)
  else do
    let op ← HandlerRun.lift (packetOp proto.supportedCodes (packet.getD 0 0))
    match op with
    | none => pure (some .ruc, data)
    | some _ => pppcpProcessPacket proto.toOptionProto packet fuel data

/-- The packet that has been received, with the data that it says it has. -/
def receivedPacket (packet : List UInt8) : PppcpPacket where
  code := packet.getD 0 0
  identifier := packetIdentifier packet
  data := (packet.drop 4).take ((pppcpPacketLength packet).toNat - 4)

/-- The driver for packets whose length field is right. -/
def PacketProto.control (proto : PacketProto π) : PppcpProto π :=
  let after {α : Type} (run : HandlerRun α) (otherwise : α) : α :=
    match run.result with
    | some (.ok a) => a
    | _ => otherwise
  { supportedCodes := proto.supportedCodes
    known := proto.known
    rcr := fun priv packet => after (proto.rcr packet.octets enoughRounds priv) (.accept, none, priv)
    rca := fun priv packet => after (proto.rca packet.octets enoughRounds priv) priv
    rcnNak := fun priv packet => after (proto.rcnNak packet.octets enoughRounds priv) (priv, none)
    rcnRej := fun priv packet => after (proto.rcnRej packet.octets enoughRounds priv) (priv, none)
    thisLayerDown := proto.thisLayerDown }

/-- A protocol, and what it has answered to packets so far, the last reply first. -/
structure PppcpLink (π : Type) where
  data : PppcpData π
  replies : List Reply

/-- What happens to a protocol: a packet comes as octets, with the rounds that its handler is given, or a
frame of a protocol that is not known. -/
inductive LinkInput where
  | control (input : PppcpInput)
  | octets (packet : List UInt8) (fuel : ℕ)
  | foreign (frame : List UInt8)

/-- One input; nothing behind a fault, or while a handler is going on. -/
def pppcpLinkStep (proto : PacketProto π) (link : PppcpLink π) : LinkInput → Option (PppcpLink π)
  | .control (.packet _) => none
  | .control input => (pppcpStep proto.control link.data input).map fun data => { link with data := data }
  | .octets packet fuel =>
    match (packetEvent proto packet fuel link.data).result with
    | some (.ok (none, data)) => some { link with data := data }
    | some (.ok (some type, data)) =>
      some ⟨data.generateEvent proto.control type (receivedPacket packet),
        eventReplies type packet data ++ link.replies⟩
    | _ => none
  | .foreign frame => some { link with replies := pppcpSendProtocolReject link.data frame ++ link.replies }

/-- A new protocol, which has not answered anything. -/
def pppcpLinkNew (dormant : Bool) (maxFailure : UInt32) (priv : π) (localOptions : List UInt8) :
    PppcpLink π :=
  ⟨pppcpNew dormant maxFailure priv localOptions, []⟩

/-! ## What is to hold -/

/-- A packet is handled well: `packet_ops` is indexed only at 0 to 10, an unsupported code is `RUC`, and the
replies are sound. -/
structure HandledWell (proto : PacketProto π) (packet : List UInt8) (fuel : ℕ) (link : PppcpLink π) :
    Prop where
  unsupported : proto.supportedCodes.toNat.testBit (packet.getD 0 0).toNat = false →
    packetOp proto.supportedCodes (packet.getD 0 0) = .ok none
  index : ∀ i, packetOp proto.supportedCodes (packet.getD 0 0) = .ok (some i) → 0 ≤ i ∧ i ≤ 10
  replies : ∀ type data, (packetEvent proto packet fuel link.data).result = some (.ok (some type, data)) →
    ∀ reply ∈ eventReplies type packet data, reply.Sound packet link.replies

/-- The length field takes in the header, and no more than has been received. -/
def LengthOk (packet : List UInt8) : Prop :=
  4 ≤ (pppcpPacketLength packet).toNat ∧ (pppcpPacketLength packet).toNat ≤ packet.length

/-- There is a header and nothing else. -/
def HeaderOnly (packet : List UInt8) : Prop := (pppcpPacketLength packet).toNat = 4

/-- None of the replies has the code. -/
def NoneBefore (code : UInt8) (replies : List Reply) : Prop := ∀ reply ∈ replies, reply.code ≠ code

/-- Before a lower layer is up nothing is answered. -/
def PppcpState.IsDown (state : PppcpState) : Prop := state = .initial ∨ state = .starting

/-- The options fit into a packet. -/
def OptionsFit (octets : List UInt8) : Prop := (UInt16.ofNat octets.length).toNat + 4 < 65536

/-- A handler comes to its end. -/
def HandlerRun.Ended {α : Type} (run : HandlerRun α) : Prop := ∃ a, run.result = some (.ok a)

/-- What a Configure-Request has to be: it is answered with a Terminate-Ack in CLOSED, with a copy of itself if
all is accepted or if everything is rejected, and otherwise with the options of the driver. -/
def RequestOk (proto : PacketProto π) (packet : List UInt8) (fuel : ℕ) (data : PppcpData π) : Prop :=
  if data.failureCounter ≥ data.maxFailure then
    (data.state = .closed → HeaderOnly packet) ∧ (data.state.AnswersRequests → LengthOk packet)
  else
    ∀ result options priv, (proto.rcr packet fuel data.priv).result = some (.ok (result, options, priv)) →
      (data.state = .closed → HeaderOnly packet) ∧
      (data.state.AnswersRequests →
        if result = .accept then LengthOk packet else OptionsFit (options.getD data.peerOptions))

/-- A Configure-Ack of the options that have been asked for, where `rca` ends, is answered with a Terminate-Ack
in CLOSED and STOPPED. -/
def AcknowledgedOk (proto : PacketProto π) (packet : List UInt8) (fuel : ℕ) (data : PppcpData π) : Prop :=
  packetIdentifier packet = data.configIdentifier →
    (data.localOptions.length : ℤ) = (pppcpPacketLength packet).toNat - 4 →
    sameOptions data.localOptions packet = .ok true → (proto.rca packet fuel data.priv).Ended →
    data.state = .closed ∨ data.state = .stopped → HeaderOnly packet

/-- So is a Configure-Nak or a Configure-Reject. -/
def RefusedOk (rcn : List UInt8 → ℕ → π → HandlerRun (π × Option (List UInt8))) (packet : List UInt8)
    (fuel : ℕ) (data : PppcpData π) : Prop :=
  packetIdentifier packet = data.configIdentifier → (rcn packet fuel data.priv).Ended →
    data.state = .closed ∨ data.state = .stopped → HeaderOnly packet

/-- What a Code-Reject copies is there and fits behind the header, and it is the first one. -/
def CodeRejectOk (packet : List UInt8) (before : List Reply) : Prop :=
  (pppcpPacketLength packet).toNat ≤ packet.length ∧ (pppcpPacketLength packet).toNat + 4 < 65536 ∧
    NoneBefore codeReject before

/-- The code of a packet, if it is a supported one. -/
def PacketProto.Supports (proto : PacketProto π) (packet : List UInt8) (code : ℕ) : Prop :=
  (packet.getD 0 0).toNat = code ∧ proto.supportedCodes.toNat.testBit code = true

/-- When a packet is handled well. -/
structure PacketOk (proto : PacketProto π) (packet : List UInt8) (fuel : ℕ) (link : PppcpLink π) : Prop where
  code : (packet.getD 0 0).toNat < 32
  unsupported : proto.supportedCodes.toNat.testBit (packet.getD 0 0).toNat = false →
    ¬ link.data.state.IsDown → CodeRejectOk packet link.replies
  request : proto.Supports packet 1 → RequestOk proto packet fuel link.data
  acknowledged : proto.Supports packet 2 → AcknowledgedOk proto packet fuel link.data
  refused : proto.Supports packet 3 → RefusedOk proto.rcnNak packet fuel link.data
  rejected : proto.Supports packet 4 → RefusedOk proto.rcnRej packet fuel link.data
  terminate : proto.Supports packet 5 → ¬ link.data.state.IsDown → HeaderOnly packet

/-! ## When a reply is sound -/

variable {packet : List UInt8} {before : List Reply} {data : PppcpData π}

lemma pppcpPacketNew_toNat (len : UInt16) :
    (pppcpPacketNew len.toUInt32).toNat = (len.toNat + 4) % 65536 := by
  have hlt := len.toNat_lt
  unfold pppcpPacketNew
  rw [UInt32.toNat_toUInt16, UInt32.toNat_add, UInt16.toNat_toUInt32]
  change (len.toNat + 4) % 4294967296 % 65536 = _
  omega

lemma identified_copy {reply : Reply} (hcode : reply.code ≠ codeReject ∧ reply.code ≠ protocolReject)
    (hidentifier : reply.identifier = packetIdentifier packet) : reply.Identified packet before := by
  unfold Reply.Identified
  rw [if_neg (by rintro (h | h); exacts [hcode.1 h, hcode.2 h])]
  exact .inr hidentifier

variable {code : UInt8}

lemma copyRequest_sound_iff (hcode : code ≠ codeReject ∧ code ≠ protocolReject)
    (hlen : 4 ≤ packet.length) : (copyRequest code packet).Sound packet before ↔ LengthOk packet := by
  have hlt := (pppcpPacketLength packet).toNat_lt
  have hsub : (pppcpPacketLength packet - 4).toNat = ((pppcpPacketLength packet).toNat + 65532) % 65536 := by
    rw [UInt16.toNat_sub]
    change (65536 - 4 + _) % 65536 = _
    omega
  have halloc := pppcpPacketNew_toNat (pppcpPacketLength packet - 4)
  rw [hsub] at halloc
  constructor
  · intro h
    have hsource : 4 + (pppcpPacketLength packet - 4).toNat ≤ packet.length := h.source
    have hroom : 4 + (pppcpPacketLength packet - 4).toNat ≤
      (pppcpPacketNew (pppcpPacketLength packet - 4).toUInt32).toNat := h.room
    rw [hsub] at hsource hroom
    rw [halloc] at hroom
    exact ⟨by omega, by omega⟩
  · rintro ⟨hheader, hle⟩
    refine ⟨?_, ?_, rfl, identified_copy hcode rfl⟩
    · change 4 + (pppcpPacketLength packet - 4).toNat ≤ packet.length
      omega
    · change 4 + (pppcpPacketLength packet - 4).toNat ≤ (pppcpPacketNew _).toNat
      rw [hsub, halloc]
      omega

lemma copyOptions_sound_iff (hcode : code ≠ codeReject ∧ code ≠ protocolReject)
    (octets : List UInt8) : (copyOptions code packet octets).Sound packet before ↔ OptionsFit octets := by
  have hlt := (UInt16.ofNat octets.length).toNat_lt
  have hroom : 4 + (UInt16.ofNat octets.length).toNat ≤
      (pppcpPacketNew (UInt16.ofNat octets.length).toUInt32).toNat ↔ OptionsFit octets := by
    rw [pppcpPacketNew_toNat, OptionsFit]
    omega
  constructor
  · exact fun h => hroom.mp h.room
  · intro h
    refine ⟨?_, hroom.mpr h, rfl, identified_copy hcode rfl⟩
    change (UInt16.ofNat octets.length).toNat ≤ octets.length
    rw [UInt16.toNat_ofNat']
    exact Nat.mod_le _ _

lemma pppcpPacketNew_zero : (pppcpPacketNew 0).toNat = 4 := by decide

lemma terminateRequest_sound (data : PppcpData π) :
    (pppcpSendTerminateRequest data).Sound packet before := by
  refine ⟨rfl, Nat.le_of_eq pppcpPacketNew_zero.symm, rfl, ?_⟩
  change if terminateRequest = codeReject ∨ terminateRequest = protocolReject then _ else _
  rw [if_neg (by decide)]
  exact .inl rfl

lemma terminateAck_sound_iff : (pppcpSendTerminateAck packet).Sound packet before ↔ HeaderOnly packet := by
  constructor
  · intro h
    exact h.infolen.trans pppcpPacketNew_zero
  · intro h
    refine ⟨rfl, Nat.le_of_eq pppcpPacketNew_zero.symm, h.trans pppcpPacketNew_zero.symm, ?_⟩
    exact identified_copy (show terminateAck ≠ _ ∧ terminateAck ≠ _ by decide) rfl

lemma echoReply_sound : (pppcpSendEchoReply packet).Sound packet before :=
  ⟨rfl, show 4 ≤ (pppcpPacketNew 4).toNat by decide, rfl,
    identified_copy (show echoReply ≠ _ ∧ echoReply ≠ _ by decide) rfl⟩

/-- All rejects have the identifier 1, as the identifier that they are numbered from is never set. -/
structure RejectsAlike (data : PppcpData π) (before : List Reply) : Prop where
  identifier : data.rejectIdentifier = 0
  one : ∀ reply ∈ before, reply.code = codeReject ∨ reply.code = protocolReject → reply.identifier = 1

lemma RejectsAlike.fresh_iff (h : RejectsAlike data before) {code : UInt8}
    (hcode : code = codeReject ∨ code = protocolReject) :
    FreshIdentifier before code (newIdentity data.rejectIdentifier) ↔ NoneBefore code before := by
  have hone : newIdentity data.rejectIdentifier = 1 := by
    rw [h.identifier]
    rfl
  rw [hone]
  constructor
  · intro hfresh reply hmem hreply
    cases hsame : before.filter fun reply => reply.code = code with
    | nil => exact filter_eq_nil_iff.mp hsame reply hmem (decide_eq_true hreply)
    | cons last _ =>
      have hlast : last ∈ before.filter fun reply => reply.code = code := by
        rw [hsame]
        exact mem_cons_self
      obtain ⟨hbefore, hlastCode⟩ := mem_filter.mp hlast
      refine hfresh last (by rw [hsame]; rfl) (h.one last hbefore ?_)
      rw [of_decide_eq_true hlastCode]
      exact hcode
  · intro hnone last hlast
    have hmem := mem_filter.mp (mem_of_mem_head? hlast)
    exact absurd (of_decide_eq_true hmem.2) (hnone last hmem.1)

lemma RejectsAlike.identified_iff (h : RejectsAlike data before) {reply : Reply} (hcode : reply.code
    = codeReject ∨ reply.code = protocolReject) (hidentifier : reply.identifier = newIdentity
    data.rejectIdentifier) : reply.Identified packet before ↔ NoneBefore reply.code before := by
  unfold Reply.Identified
  rw [if_pos hcode, hidentifier]
  exact h.fresh_iff hcode

lemma sizeT_natCast {n : ℕ} (h : n < 65536) : sizeT n = n := by
  unfold sizeT
  omega

/-- Behind the header there is room for what a Code-Reject copies just when its length has not wrapped. -/
lemma codeReject_room_iff (len : UInt16) : 4 + sizeT ((pppcpPacketNew len.toUInt32).toNat - 4) ≤
    (pppcpPacketNew len.toUInt32).toNat ↔ len.toNat + 4 < 65536 := by
  have hlt := len.toNat_lt
  rw [pppcpPacketNew_toNat, sizeT]
  omega

lemma codeReject_sound_iff (h : RejectsAlike data before) :
    (pppcpSendCodeReject data packet).Sound packet before ↔ CodeRejectOk packet before := by
  have hlt := (pppcpPacketLength packet).toNat_lt
  have hroom := codeReject_room_iff (pppcpPacketLength packet)
  have hidentified : (pppcpSendCodeReject data packet).Identified packet before ↔ NoneBefore codeReject before :=
    h.identified_iff (.inl rfl) rfl
  have hcopied (hfits : (pppcpPacketLength packet).toNat + 4 < 65536) :
      (pppcpSendCodeReject data packet).copied = (pppcpPacketLength packet).toNat := by
    change sizeT ((pppcpPacketNew _).toNat - 4) = _
    have hsub : (((pppcpPacketLength packet).toNat + 4 : ℕ) : ℤ) - 4 = (pppcpPacketLength packet).toNat := by
      omega
    rw [pppcpPacketNew_toNat, Nat.mod_eq_of_lt hfits, hsub]
    exact sizeT_natCast hlt
  constructor
  · intro hsound
    have hfits := hroom.mp hsound.room
    have hsource : 0 + (pppcpSendCodeReject data packet).copied ≤ packet.length := hsound.source
    rw [hcopied hfits, Nat.zero_add] at hsource
    exact ⟨hsource, hfits, hidentified.mp hsound.identified⟩
  · rintro ⟨hsource, hfits, hfresh⟩
    refine ⟨?_, hroom.mpr hfits, rfl, hidentified.mpr hfresh⟩
    change 0 + (pppcpSendCodeReject data packet).copied ≤ packet.length
    rwa [hcopied hfits, Nat.zero_add]

/-- What is rejected with a Protocol-Reject fits into a packet, and it is the first one. -/
def ProtocolRejectOk (frame : List UInt8) (before : List Reply) : Prop :=
  sizeT (frame.length - 2) + 4 < 65536 ∧ NoneBefore protocolReject before

lemma pppcpPacketNew_ofNat (n : ℕ) : (pppcpPacketNew (UInt32.ofNat n)).toNat = (n + 4) % 65536 := by
  unfold pppcpPacketNew
  rw [UInt32.toNat_toUInt16, UInt32.toNat_add, UInt32.toNat_ofNat']
  change (n % 4294967296 + 4) % 4294967296 % 65536 = _
  omega

lemma protocolReject_sound_iff (h : RejectsAlike data before) {frame : List UInt8} (hlen : 4 ≤ frame.length) :
    (∀ reply ∈ pppcpSendProtocolReject data frame, reply.Sound frame before) ↔
      (data.state = .opened → ProtocolRejectOk frame before) := by
  unfold pppcpSendProtocolReject
  by_cases hopened : data.state = .opened
  · have hlength : sizeT (frame.length - 2) ≤ frame.length - 2 := by
      unfold sizeT
      omega
    rw [if_neg (not_not.mpr hopened), forall_mem_singleton]
    refine Iff.trans ?_ (imp_iff_right hopened).symm
    constructor
    · intro hsound
      have hroom := hsound.room
      have hidentified := (h.identified_iff (.inr rfl) rfl).mp hsound.identified
      dsimp only at hroom
      rw [pppcpPacketNew_ofNat] at hroom
      exact ⟨by omega, hidentified⟩
    · rintro ⟨hfits, hfresh⟩
      refine ⟨?_, ?_, rfl, (h.identified_iff (.inr rfl) rfl).mpr hfresh⟩
      · change 2 + sizeT (frame.length - 2) ≤ frame.length
        omega
      · dsimp only
        rw [pppcpPacketNew_ofNat]
        omega
  · rw [if_pos hopened]
    exact iff_of_true (forall_mem_nil _) fun hnot => absurd hnot hopened

/-! ## What the events send -/

instance (state : PppcpState) : Decidable state.IsDown := inferInstanceAs (Decidable (_ ∨ _))

instance (state : PppcpState) : Decidable state.AnswersRequests :=
  inferInstanceAs (Decidable (_ ∨ _ ∨ _ ∨ _ ∨ _))

/-- Whether the table asks for an action. -/
def asks (type : PppcpEventType) (state : PppcpState) (action : CpAction) : Bool :=
  match cpTransition type state with
  | none => false
  | some (actions, _) => decide (action ∈ actions)

lemma asks_one (type : PppcpEventType) (state : PppcpState) : (asks type state .sta = true → asks
    type state .str = false) ∧ (asks type state .scn = true → asks type state .sca = false) := by
  have hall : ∀ entry ∈ cpTransitions type, ∀ actions ∈ entry.map Prod.fst,
      (.sta ∈ actions → .str ∉ actions) ∧ (.scn ∈ actions → .sca ∉ actions) := by
    cases type <;> decide
  unfold asks
  cases hentry : cpTransition type state with
  | none => exact ⟨fun h => absurd h Bool.false_ne_true, fun h => absurd h Bool.false_ne_true⟩
  | some entry =>
    have hmem : some entry ∈ cpTransitions type := by
      unfold cpTransition at hentry
      rw [getD_eq_getElem?_getD] at hentry
      cases hget : (cpTransitions type)[state.index]? with
      | none =>
        rw [hget] at hentry
        cases hentry
      | some found =>
        rw [hget] at hentry
        obtain rfl : found = some entry := hentry
        exact mem_of_getElem? hget
    obtain ⟨hsta, hscn⟩ := hall _ hmem entry.1 rfl
    exact ⟨fun h => decide_eq_false (hsta (of_decide_eq_true h)),
      fun h => decide_eq_false (hscn (of_decide_eq_true h))⟩

lemma RejectsAlike.congr (h : RejectsAlike data before) {data' : PppcpData π}
    (hsame : data'.rejectIdentifier = data.rejectIdentifier) : RejectsAlike data' before :=
  ⟨hsame.trans h.identifier, h.one⟩

lemma countAction_same (actions : List CpAction) (newState : PppcpState) (data : PppcpData π) :
    (data.countAction actions newState).rejectIdentifier = data.rejectIdentifier ∧
      pppcpSendConfigureNak (data.countAction actions newState) packet = pppcpSendConfigureNak data packet := by
  unfold PppcpData.countAction
  split_ifs <;> exact ⟨rfl, rfl⟩

variable {α : Type}

lemma forall_mem_ite_singleton {c : Prop} [Decidable c] {x : α} {xs : List α} {P : α → Prop} :
    (∀ y ∈ if c then [x] else xs, P y) ↔ (c → P x) ∧ (¬ c → ∀ y ∈ xs, P y) := by
  by_cases hc : c
  · rw [if_pos hc, forall_mem_singleton]
    exact ⟨fun h => ⟨fun _ => h, fun hnot => absurd hc hnot⟩, fun h => h.1 hc⟩
  · rw [if_neg hc]
    exact ⟨fun h => ⟨fun hyes => absurd hyes hc, fun _ => h⟩, fun h => h.2 hc⟩

lemma eventReplies_sound_iff (h : RejectsAlike data before) (type : PppcpEventType) (hlen : 4 ≤
    packet.length) : (∀ reply ∈ eventReplies type packet data, reply.Sound packet before) ↔
    (asks type data.state .scj = true → CodeRejectOk packet before) ∧ (asks type data.state .sta =
    true → HeaderOnly packet) ∧ (asks type data.state .sca = true → LengthOk packet) ∧ (asks type
    data.state .scn = true → (pppcpSendConfigureNak data packet).Sound packet before) := by
  have hone := asks_one type data.state
  unfold asks at hone ⊢
  unfold eventReplies
  revert hone
  cases cpTransition type data.state with
  | none =>
    intro _
    have hfalse : ¬ (false = true) := Bool.false_ne_true
    exact iff_of_true (forall_mem_nil _) ⟨hfalse.elim, hfalse.elim, hfalse.elim, hfalse.elim⟩
  | some entry =>
    rintro ⟨hsta, hscn⟩
    obtain ⟨actions, newState⟩ := entry
    obtain ⟨hidentifier, hnak⟩ := @countAction_same _ packet actions newState data
    have hreject := @codeReject_sound_iff _ packet _ _ (h.congr hidentifier)
    have hack : (pppcpSendConfigureAck packet).Sound packet before ↔ LengthOk packet :=
      copyRequest_sound_iff (by decide) hlen
    have hnil : ∀ reply ∈ ([] : List Reply), reply.Sound packet before := forall_mem_nil _
    simp only [decide_eq_true_eq, decide_eq_false_iff_not] at hsta hscn ⊢
    unfold actionReplies
    rw [forall_mem_append, forall_mem_append, forall_mem_append, forall_mem_ite_singleton,
      forall_mem_ite_singleton, forall_mem_ite_singleton, forall_mem_ite_singleton, forall_mem_ite_singleton,
      forall_mem_ite_singleton, hreject, terminateAck_sound_iff, hack, hnak]
    constructor
    · rintro ⟨⟨⟨-, hscj, -⟩, -, hterminate⟩, hsca, hrefuse⟩
      exact ⟨hscj, fun h => (hterminate (hsta h)).1 h, hsca, fun h => (hrefuse (hscn h)).1 h⟩
    · rintro ⟨hscj, hterminate, hsca, hrefuse⟩
      refine ⟨⟨⟨⟨fun _ => echoReply_sound, fun _ => hnil⟩, hscj, fun _ => hnil⟩, fun _ => ?_, fun _ => ?_⟩,
        hsca, fun _ => ?_⟩
      · exact terminateRequest_sound _
      · exact ⟨hterminate, fun _ => hnil⟩
      · exact ⟨hrefuse, fun _ => hnil⟩

lemma asks_ruc (state : PppcpState) : (asks .ruc state .scj = true ↔ ¬ state.IsDown) ∧
    asks .ruc state .sta = false ∧ asks .ruc state .sca = false ∧ asks .ruc state .scn = false := by
  cases state <;> decide

lemma asks_rtr (state : PppcpState) : asks .rtr state .scj = false ∧ (asks .rtr state .sta = true ↔
    ¬ state.IsDown) ∧ asks .rtr state .sca = false ∧ asks .rtr state .scn = false := by
  cases state <;> decide

lemma asks_rcrPlus (state : PppcpState) :
    asks .rcrPlus state .scj = false ∧ (asks .rcrPlus state .sta = true ↔ state = .closed) ∧
      (asks .rcrPlus state .sca = true ↔ state.AnswersRequests) ∧ asks .rcrPlus state .scn = false := by
  cases state <;> decide

lemma asks_rcrMinus (state : PppcpState) :
    asks .rcrMinus state .scj = false ∧ (asks .rcrMinus state .sta = true ↔ state = .closed) ∧
      asks .rcrMinus state .sca = false ∧ (asks .rcrMinus state .scn = true ↔ state.AnswersRequests) := by
  cases state <;> decide

lemma asks_rca (type : PppcpEventType) (htype : type = .rca ∨ type = .rcn) (state : PppcpState) :
    asks type state .scj = false ∧ (asks type state .sta = true ↔ state = .closed ∨ state = .stopped) ∧
      asks type state .sca = false ∧ asks type state .scn = false := by
  rcases htype with rfl | rfl <;> cases state <;> decide

lemma asks_nothing (type : PppcpEventType) (htype : type = .rta ∨ type = .rxjMinus ∨ type = .rxr)
    (state : PppcpState) : asks type state .scj = false ∧ asks type state .sta = false ∧
    asks type state .sca = false ∧ asks type state .scn = false := by
  rcases htype with rfl | rfl | rfl <;> cases state <;> decide

/-! ## Whole packets -/

variable {proto : PacketProto π} {fuel : ℕ} {link : PppcpLink π}

/-- The replies of a packet are sound. -/
def RepliesSound (run : HandlerRun (Option PppcpEventType × PppcpData π)) (packet : List UInt8)
    (before : List Reply) : Prop :=
  ∀ type data, run.result = some (.ok (some type, data)) →
    ∀ reply ∈ eventReplies type packet data, reply.Sound packet before

lemma HandlerRun.bind_result_iff {β : Type} {x : HandlerRun α} {f : α → HandlerRun β} {b : β} :
    (x >>= f).result = some (.ok b) ↔ ∃ a, x.result = some (.ok a) ∧ (f a).result = some (.ok b) := by
  constructor
  · intro h
    obtain ⟨a, ha⟩ := HandlerRun.exists_of_bind h
    rw [HandlerRun.bind_of_ok ha] at h
    exact ⟨a, ha, h⟩
  · rintro ⟨a, ha, hb⟩
    rw [HandlerRun.bind_of_ok ha]
    exact hb

variable {type : PppcpEventType}

lemma repliesSound_pure : RepliesSound (pure (some type, data)) packet before ↔
      ∀ reply ∈ eventReplies type packet data, reply.Sound packet before := by
  constructor
  · intro h
    exact h type data rfl
  · intro h type' data' heq
    cases heq
    exact h

lemma repliesSound_none : RepliesSound (pure (none, data)) packet before := by
  intro type data' heq
  cases heq

lemma repliesSound_bind {x : HandlerRun α}
    {f : α → HandlerRun (Option PppcpEventType × PppcpData π)} :
    RepliesSound (x >>= f) packet before ↔ ∀ a, x.result = some (.ok a) → RepliesSound (f a) packet before := by
  constructor
  · intro h a ha type data' heq
    exact h type data' (HandlerRun.bind_result_iff.mpr ⟨a, ha, heq⟩)
  · intro h type data' heq
    obtain ⟨a, ha, hb⟩ := HandlerRun.bind_result_iff.mp heq
    exact h a ha type data' hb

lemma sound_rtr_iff (h : RejectsAlike data before) (hlen : 4 ≤ packet.length) :
    (∀ reply ∈ eventReplies .rtr packet data, reply.Sound packet before) ↔
      (¬ data.state.IsDown → HeaderOnly packet) := by
  obtain ⟨hscj, hsta, hsca, hscn⟩ := asks_rtr data.state
  rw [eventReplies_sound_iff h .rtr hlen, hscj, hsca, hscn, hsta]
  exact ⟨fun h => h.2.1, fun h => ⟨Bool.noConfusion, h, Bool.noConfusion, Bool.noConfusion⟩⟩

lemma sound_ruc_iff (h : RejectsAlike data before) (hlen : 4 ≤ packet.length) :
    (∀ reply ∈ eventReplies .ruc packet data, reply.Sound packet before) ↔
      (¬ data.state.IsDown → CodeRejectOk packet before) := by
  obtain ⟨hscj, hsta, hsca, hscn⟩ := asks_ruc data.state
  rw [eventReplies_sound_iff h .ruc hlen, hscj, hsca, hscn, hsta]
  exact ⟨fun h => h.1, fun h => ⟨h, Bool.noConfusion, Bool.noConfusion, Bool.noConfusion⟩⟩

lemma sound_rca_iff (h : RejectsAlike data before) (htype : type = .rca ∨ type = .rcn) (hlen : 4 ≤
    packet.length) : (∀ reply ∈ eventReplies type packet data, reply.Sound packet before) ↔
    (data.state = .closed ∨ data.state = .stopped → HeaderOnly packet) := by
  obtain ⟨hscj, hsta, hsca, hscn⟩ := asks_rca type htype data.state
  rw [eventReplies_sound_iff h type hlen, hscj, hsca, hscn, hsta]
  exact ⟨fun h => h.2.1, fun h => ⟨Bool.noConfusion, h, Bool.noConfusion, Bool.noConfusion⟩⟩

lemma sound_nothing (h : RejectsAlike data before)
    (htype : type = .rta ∨ type = .rxjMinus ∨ type = .rxr) (hlen : 4 ≤ packet.length) :
    ∀ reply ∈ eventReplies type packet data, reply.Sound packet before := by
  obtain ⟨hscj, hsta, hsca, hscn⟩ := asks_nothing type htype data.state
  rw [eventReplies_sound_iff h type hlen, hscj, hsca, hscn, hsta]
  exact ⟨Bool.noConfusion, Bool.noConfusion, Bool.noConfusion, Bool.noConfusion⟩

lemma sound_rcrPlus_iff (h : RejectsAlike data before) (hlen : 4 ≤ packet.length) :
    (∀ reply ∈ eventReplies .rcrPlus packet data, reply.Sound packet before) ↔
      (data.state = .closed → HeaderOnly packet) ∧ (data.state.AnswersRequests → LengthOk packet) := by
  obtain ⟨hscj, hsta, hsca, hscn⟩ := asks_rcrPlus data.state
  rw [eventReplies_sound_iff h .rcrPlus hlen, hscj, hsca, hscn, hsta]
  exact ⟨fun h => ⟨h.2.1, h.2.2.1⟩, fun h => ⟨Bool.noConfusion, h.1, h.2, Bool.noConfusion⟩⟩

lemma sound_rcrMinus_iff (h : RejectsAlike data before) (hlen : 4 ≤ packet.length) :
    (∀ reply ∈ eventReplies .rcrMinus packet data, reply.Sound packet before) ↔ (data.state =
    .closed → HeaderOnly packet) ∧ (data.state.AnswersRequests → if data.failureCounter ≥
    data.maxFailure then LengthOk packet else OptionsFit data.peerOptions) := by
  obtain ⟨hscj, hsta, hsca, hscn⟩ := asks_rcrMinus data.state
  have hnak : (pppcpSendConfigureNak data packet).Sound packet before ↔
      if data.failureCounter ≥ data.maxFailure then LengthOk packet else OptionsFit data.peerOptions := by
    unfold pppcpSendConfigureNak
    split_ifs
    · exact copyRequest_sound_iff (by decide) hlen
    · exact copyOptions_sound_iff (by decide) _
    · exact copyOptions_sound_iff (by decide) _
  rw [eventReplies_sound_iff h .rcrMinus hlen, hscj, hsca, hscn, hsta, hnak]
  exact ⟨fun h => ⟨h.2.1, h.2.2.2⟩, fun h => ⟨Bool.noConfusion, h.1, Bool.noConfusion, h.2⟩⟩

lemma request_sound_iff (h : RejectsAlike data before) (hlen : 4 ≤ packet.length) :
    RepliesSound (pppcpProcessConfigureRequest proto.toOptionProto packet fuel data) packet before ↔
      RequestOk proto packet fuel data := by
  unfold pppcpProcessConfigureRequest RequestOk
  by_cases hfull : data.failureCounter ≥ data.maxFailure
  · rw [if_pos hfull, if_pos hfull, repliesSound_pure, sound_rcrMinus_iff h hlen, if_pos hfull]
  · rw [if_neg hfull, if_neg hfull, repliesSound_bind]
    have hminus (options : Option (List UInt8)) (priv : π) (sendReject : Bool) :
        RepliesSound (pure (some .rcrMinus, { data with
          priv := priv, peerOptions := options.getD data.peerOptions, sendReject := sendReject })) packet before ↔
        (data.state = .closed → HeaderOnly packet) ∧
        (data.state.AnswersRequests → OptionsFit (options.getD data.peerOptions)) := by
      have hsame : RejectsAlike { data with
          priv := priv, peerOptions := options.getD data.peerOptions, sendReject := sendReject } before :=
        h.congr rfl
      rw [repliesSound_pure, sound_rcrMinus_iff hsame hlen, if_neg hfull]
    have haccept (options : Option (List UInt8)) (priv : π) :
        RepliesSound (pure (some .rcrPlus, { data with
          priv := priv, peerOptions := options.getD data.peerOptions })) packet before ↔
        (data.state = .closed → HeaderOnly packet) ∧ (data.state.AnswersRequests → LengthOk packet) :=
      repliesSound_pure.trans (sound_rcrPlus_iff (h.congr rfl) hlen)
    constructor
    · intro hall result options priv hrcr
      have hsound := hall _ hrcr
      cases result with
      | accept => exact (haccept options priv).mp hsound
      | reject => exact (hminus options priv true).mp hsound
      | nak => exact (hminus options priv false).mp hsound
    · rintro hall ⟨result, options, priv⟩ hrcr
      have hok := hall result options priv hrcr
      cases result with
      | accept => exact (haccept options priv).mpr hok
      | reject => exact (hminus options priv true).mpr hok
      | nak => exact (hminus options priv false).mpr hok

lemma acknowledged_sound_iff (h : RejectsAlike data before) (hlen : 4 ≤ packet.length) :
    RepliesSound (pppcpProcessConfigureAck proto.toOptionProto packet fuel data) packet before ↔
      AcknowledgedOk proto packet fuel data := by
  unfold pppcpProcessConfigureAck AcknowledgedOk
  by_cases hidentifier : packetIdentifier packet = data.configIdentifier
  · rw [if_neg (not_not.mpr hidentifier), imp_iff_right hidentifier]
    by_cases hlength : (data.localOptions.length : ℤ) = (pppcpPacketLength packet).toNat - 4
    · rw [if_neg (not_not.mpr hlength), imp_iff_right hlength, repliesSound_bind]
      have hend : RepliesSound (do
          let priv ← proto.rca packet fuel data.priv
          pure (some .rca, { data with priv := priv })) packet before ↔
          ((proto.rca packet fuel data.priv).Ended → data.state = .closed ∨ data.state = .stopped →
            HeaderOnly packet) := by
        rw [repliesSound_bind, HandlerRun.Ended, forall_exists_index]
        refine forall_congr' fun priv => imp_congr_right fun _ => ?_
        have hsame : RejectsAlike { data with priv := priv } before := h.congr rfl
        exact repliesSound_pure.trans (sound_rca_iff hsame (.inl rfl) hlen)
      constructor
      · intro hall hsame
        exact hend.mp (hall true (congrArg some hsame))
      · intro hall same hsame
        cases same with
        | false => exact repliesSound_none
        | true => exact hend.mpr (hall (Option.some_inj.mp hsame))
    · rw [if_pos hlength]
      exact iff_of_true repliesSound_none fun hnot => absurd hnot hlength
  · rw [if_pos hidentifier]
    exact iff_of_true repliesSound_none fun hnot => absurd hnot hidentifier

lemma refused_sound_iff (h : RejectsAlike data before) (hlen : 4 ≤ packet.length) (rcn : List
    UInt8 → ℕ → π → HandlerRun (π × Option (List UInt8))) : RepliesSound (pppcpProcessConfigureNak
    rcn packet fuel data) packet before ↔ RefusedOk rcn packet fuel data := by
  unfold pppcpProcessConfigureNak RefusedOk
  by_cases hidentifier : packetIdentifier packet = data.configIdentifier
  · rw [if_neg (not_not.mpr hidentifier), imp_iff_right hidentifier, repliesSound_bind, HandlerRun.Ended,
      forall_exists_index]
    refine forall_congr' fun found => imp_congr_right fun _ => ?_
    have hsame : RejectsAlike { data with
        priv := found.1, localOptions := found.2.getD data.localOptions } before := h.congr rfl
    exact repliesSound_pure.trans (sound_rca_iff hsame (.inr rfl) hlen)
  · rw [if_pos hidentifier]
    exact iff_of_true repliesSound_none fun hnot => absurd hnot hidentifier

lemma supported_sound_iff (h : RejectsAlike link.data link.replies) (hlen : 4 ≤ packet.length)
    (hbit : proto.supportedCodes.toNat.testBit (packet.getD 0 0).toNat = true) : RepliesSound
    (pppcpProcessPacket proto.toOptionProto packet fuel link.data) packet link.replies ↔
    (proto.Supports packet 1 → RequestOk proto packet fuel link.data) ∧ (proto.Supports packet 2 →
    AcknowledgedOk proto packet fuel link.data) ∧ (proto.Supports packet 3 → RefusedOk proto.rcnNak
    packet fuel link.data) ∧ (proto.Supports packet 4 → RefusedOk proto.rcnRej packet fuel
    link.data) ∧ (proto.Supports packet 5 → ¬ link.data.state.IsDown → HeaderOnly packet) := by
  have hsupports (k : ℕ) : proto.Supports packet k ↔ (packet.getD 0 0).toNat = k := by
    refine ⟨And.left, fun hk => ⟨hk, ?_⟩⟩
    rwa [hk] at hbit
  obtain ⟨hle, hge⟩ := proto.known _ hbit
  unfold pppcpProcessPacket
  rw [if_neg (Nat.not_lt.mpr hlen), hbit]
  simp only [hsupports, Bool.not_true, Bool.false_eq_true, if_false]
  generalize (packet.getD 0 0).toNat = code at hle hge
  have hrange : code = 1 ∨ code = 2 ∨ code = 3 ∨ code = 4 ∨ code = 5 ∨ code = 6 ∨ code = 7 ∨ code = 8 ∨
      code = 9 ∨ code = 10 ∨ code = 11 := by
    omega
  have hquiet {type : PppcpEventType} (htype : type = .rta ∨ type = .rxjMinus ∨ type = .rxr) :
      RepliesSound (pure (some type, link.data)) packet link.replies :=
    repliesSound_pure.mpr (sound_nothing h htype hlen)
  rcases hrange with rfl | rfl | rfl | rfl | rfl | rfl | rfl | rfl | rfl | rfl | rfl
  · simp [request_sound_iff h hlen]
  · simp [acknowledged_sound_iff h hlen]
  · simp [refused_sound_iff h hlen]
  · simp [refused_sound_iff h hlen]
  · simp [repliesSound_pure, sound_rtr_iff h hlen]
  · simp [hquiet (.inl rfl)]
  · simp [hquiet (.inr (.inl rfl))]
  · simp [hquiet (.inr (.inl rfl))]
  · simp [hquiet (.inr (.inr rfl))]
  · simp [repliesSound_none]
  · simp [repliesSound_none]

lemma repliesSound_packetEvent (hlen : 4 ≤ packet.length) : RepliesSound (packetEvent proto packet
    fuel data) packet before ↔ (packetOp proto.supportedCodes (packet.getD 0 0) = .ok none →
    ∀ reply ∈ eventReplies .ruc packet data, reply.Sound packet before) ∧
    ∀ i, packetOp proto.supportedCodes (packet.getD 0 0) = .ok (some i) →
    RepliesSound (pppcpProcessPacket proto.toOptionProto packet fuel data) packet before := by
  unfold packetEvent
  rw [if_neg (Nat.not_lt.mpr hlen), repliesSound_bind]
  constructor
  · intro hall
    exact ⟨fun hop => repliesSound_pure.mp (hall none (congrArg some hop)), fun i hop => hall (some i) (congrArg some hop)⟩
  · rintro ⟨hruc, hprocess⟩ op hop
    have hop' := Option.some_inj.mp hop
    cases op with
    | none => exact repliesSound_pure.mpr (hruc hop')
    | some i => exact hprocess i hop'

lemma packetOp_unsupported {supportedCodes : UInt16} (hcode : code.toNat < 32)
    (hbit : supportedCodes.toNat.testBit code.toNat = false) : packetOp supportedCodes code = .ok none := by
  unfold packetOp
  rw [if_neg (Nat.not_le.mpr hcode), hbit]
  rfl

lemma packetOp_supported {supportedCodes : UInt16} (hcode : code.toNat < 32)
    (hbit : supportedCodes.toNat.testBit code.toNat = true) :
    packetOp supportedCodes code = .ok (some (code.toNat - 1)) := by
  unfold packetOp
  rw [if_neg (Nat.not_le.mpr hcode), hbit]
  rfl

lemma handledWell_iff (h : RejectsAlike link.data link.replies) (hlen : 4 ≤ packet.length) :
    HandledWell proto packet fuel link ↔ PacketOk proto packet fuel link := by
  have hsplit := @repliesSound_packetEvent _ packet link.replies link.data proto fuel hlen
  rw [sound_ruc_iff h hlen] at hsplit
  by_cases hcode : (packet.getD 0 0).toNat < 32
  · cases hbit : proto.supportedCodes.toNat.testBit (packet.getD 0 0).toNat with
    | false =>
      have hop := packetOp_unsupported hcode hbit
      have hnot {k : ℕ} {P : Prop} (hk : proto.Supports packet k) : P := by
        have hyes := hk.2
        rw [← hk.1, hbit] at hyes
        cases hyes
      have hnone {i : ℤ} (hi : packetOp proto.supportedCodes (packet.getD 0 0) = .ok (some i)) : False := by
        rw [hop] at hi
        cases hi
      constructor
      · intro hwell
        exact ⟨hcode, fun _ => (hsplit.mp hwell.replies).1 hop, hnot, hnot, hnot, hnot, hnot⟩
      · intro hok
        exact ⟨fun _ => hop, fun i hi => (hnone hi).elim,
          hsplit.mpr ⟨fun _ => hok.unsupported hbit, fun i hi => (hnone hi).elim⟩⟩
    | true =>
      have hop := packetOp_supported hcode hbit
      have hfalse {P : Prop} (hno : proto.supportedCodes.toNat.testBit (packet.getD 0 0).toNat = false) : P :=
        absurd (hbit.symm.trans hno) (by decide)
      have hnone {P : Prop} (hno : packetOp proto.supportedCodes (packet.getD 0 0) = .ok none) : P := by
        rw [hop] at hno
        cases hno
      obtain ⟨hle, hge⟩ := proto.known _ hbit
      have hiff := @supported_sound_iff _ _ _ fuel _ h hlen hbit
      constructor
      · intro hwell
        obtain ⟨hrequest, hack, hnak, hreject, hterminate⟩ := hiff.mp ((hsplit.mp hwell.replies).2 _ hop)
        exact ⟨hcode, hfalse, hrequest, hack, hnak, hreject, hterminate⟩
      · intro hok
        refine ⟨hfalse, fun i hi => ?_, hsplit.mpr ⟨hnone, fun _ _ => hiff.mpr ?_⟩⟩
        · rw [hop] at hi
          cases hi
          exact ⟨by omega, by omega⟩
        · exact ⟨hok.request, hok.acknowledged, hok.refused, hok.rejected, hok.terminate⟩
  · -- the shift is undefined
    have hlarge : 32 ≤ (packet.getD 0 0).toNat := Nat.le_of_not_lt hcode
    have hbit : proto.supportedCodes.toNat.testBit (packet.getD 0 0).toNat = false := by
      by_contra hnot
      obtain ⟨-, hge⟩ := proto.known _ (Bool.not_eq_false _ |>.mp hnot)
      omega
    refine iff_of_false (fun hwell => ?_) fun hok => hcode hok.code
    have hruc := hwell.unsupported hbit
    rw [packetOp, if_pos hlarge] at hruc
    cases hruc

end Phonelets.Ppp
