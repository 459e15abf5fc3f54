import Phonelets.Ppp.Replies

/-! # Replies in runs

What a driver keeps is kept in a whole run, as nothing but its callbacks changes it. So the identifier that
rejects are numbered from is never set, and in every state of a run it is known which packets are handled well.
-/

namespace Phonelets.Ppp

open List
open PppcpData (configureAck configureNak configureReject terminateRequest terminateAck codeReject echoReply
  newIdentity)

variable {π : Type} {proto : PacketProto π} {fuel : ℕ} {link : PppcpLink π} {packet : List UInt8}
  {data : PppcpData π}

/-- What is kept as long as the driver keeps it: nothing else sets the identifier that rejects are numbered from
or the data of the driver, and the options for the peer are only sent. -/
structure DriverKeeps (proto : PacketProto π) (J : UInt8 → List UInt8 → π → Prop) : Prop where
  sent : ∀ {id stored priv}, J id stored priv → J id [] priv
  down : ∀ {id stored priv}, J id stored priv → J id stored (proto.thisLayerDown priv).1
  rca : ∀ {packet fuel id stored priv priv'}, J id stored priv →
    (proto.rca packet fuel priv).result = some (.ok priv') → J id stored priv'
  rcnNak : ∀ {packet fuel id stored priv priv' options}, J id stored priv →
    (proto.rcnNak packet fuel priv).result = some (.ok (priv', options)) → J id stored priv'
  rcnRej : ∀ {packet fuel id stored priv priv' options}, J id stored priv →
    (proto.rcnRej packet fuel priv).result = some (.ok (priv', options)) → J id stored priv'
  rcr : ∀ {packet fuel id stored priv result options priv'}, J id stored priv →
    (proto.rcr packet fuel priv).result = some (.ok (result, options, priv')) → J id (options.getD stored) priv'

/-- It is kept of the data. -/
def Kept (J : UInt8 → List UInt8 → π → Prop) (data : PppcpData π) : Prop :=
  J data.rejectIdentifier data.peerOptions data.priv

variable {J : UInt8 → List UInt8 → π → Prop}

lemma DriverKeeps.sendAction (hkeeps : DriverKeeps proto J) (h : Kept J data) (actions : List CpAction)
    (packet : PppcpPacket) : Kept J (data.sendAction actions packet) := by
  unfold PppcpData.sendAction
  extract_lets d₁ d₂ d₃ d₄
  have h₁ : Kept J d₁ := by
    unfold d₁
    split_ifs <;> exact h
  have h₂ : Kept J d₂ := by
    unfold d₂ PppcpData.sendConfigureNak
    split_ifs
    · exact h₁
    · exact hkeeps.sent h₁
    · exact hkeeps.sent h₁
    · exact hkeeps.sent h₁
    · exact h₁
  have h₃ : Kept J d₃ := by
    unfold d₃
    split_ifs <;> exact h₂
  have h₄ : Kept J d₄ := by
    unfold d₄
    split_ifs <;> exact h₃
  split_ifs <;> exact h₄

lemma DriverKeeps.generateEvent (hkeeps : DriverKeeps proto J) (h : Kept J data) (type : PppcpEventType)
    (packet : PppcpPacket) : Kept J (data.generateEvent proto.control type packet) := by
  unfold PppcpData.generateEvent
  cases cpTransition type data.state with
  | none => exact h
  | some entry =>
    obtain ⟨actions, newState⟩ := entry
    dsimp only
    have hcount : Kept J (data.countAction actions newState) := by
      unfold PppcpData.countAction
      split_ifs <;> exact h
    have hsend := hkeeps.sendAction hcount actions packet
    have hstate : Kept J (((data.countAction actions newState).sendAction actions packet).transitionState
        newState) := by
      cases newState <;> exact hsend
    unfold PppcpData.layerAction
    split_ifs
    · exact hstate
    · exact hstate
    · exact hkeeps.down hstate
    · exact hstate
    · exact hstate

lemma DriverKeeps.pppcpStep (hkeeps : DriverKeeps proto J) (h : Kept J data) {data' : PppcpData π}
    {input : PppcpInput} (hpacket : ∀ packet, input ≠ .packet packet)
    (hstep : pppcpStep proto.control data input = some data') : Kept J data' := by
  cases input with
  | up =>
    cases hstep
    exact hkeeps.generateEvent h _ _
  | down =>
    cases hstep
    exact hkeeps.generateEvent h _ _
  | «open» =>
    cases hstep
    exact hkeeps.generateEvent h _ _
  | close =>
    cases hstep
    exact hkeeps.generateEvent h _ _
  | packet packet => exact absurd rfl (hpacket packet)
  | configTimeout =>
    rw [Ppp.pppcpStep] at hstep
    split_ifs at hstep
    cases hstep
    have hstopped : Kept J { data with configTimerData := data.configTimerData.stop } := h
    exact hkeeps.generateEvent hstopped _ _
  | terminateTimeout =>
    rw [Ppp.pppcpStep] at hstep
    split_ifs at hstep
    cases hstep
    have hstopped : Kept J { data with terminateTimerData := data.terminateTimerData.stop } := h
    exact hkeeps.generateEvent hstopped _ _
  | localOptions options =>
    cases hstep
    exact h

/-- It is kept of what a handler comes to. -/
def ComesTo (J : UInt8 → List UInt8 → π → Prop) (run : HandlerRun (Option PppcpEventType × PppcpData π)) : Prop :=
  ∀ type data, run.result = some (.ok (type, data)) → Kept J data

lemma comesTo_pure (h : Kept J data) (type : Option PppcpEventType) : ComesTo J (pure (type, data)) := by
  intro type' d heq
  cases heq
  exact h

lemma comesTo_bind {α : Type} {x : HandlerRun α} {f : α → HandlerRun (Option PppcpEventType × PppcpData π)}
    (h : ∀ a, x.result = some (.ok a) → ComesTo J (f a)) : ComesTo J (x >>= f) := by
  intro type data' heq
  obtain ⟨a, ha, hb⟩ := HandlerRun.bind_result_iff.mp heq
  exact h a ha type data' hb

lemma DriverKeeps.configureRequest (hkeeps : DriverKeeps proto J) (h : Kept J data) (packet : List UInt8)
    (fuel : ℕ) : ComesTo J (pppcpProcessConfigureRequest proto.toOptionProto packet fuel data) := by
  unfold pppcpProcessConfigureRequest
  split_ifs
  · exact comesTo_pure h _
  · refine comesTo_bind fun answer hanswer => ?_
    obtain ⟨result, options, priv⟩ := answer
    have hrcr := hkeeps.rcr h hanswer
    cases result with
    | accept =>
      refine comesTo_pure ?_ _
      exact hrcr
    | reject =>
      refine comesTo_pure ?_ _
      exact hrcr
    | nak =>
      refine comesTo_pure ?_ _
      exact hrcr

lemma DriverKeeps.configureAck (hkeeps : DriverKeeps proto J) (h : Kept J data) (packet : List UInt8) (fuel : ℕ) :
    ComesTo J (pppcpProcessConfigureAck proto.toOptionProto packet fuel data) := by
  unfold pppcpProcessConfigureAck
  dsimp only
  split_ifs
  · exact comesTo_pure h _
  · exact comesTo_pure h _
  · refine comesTo_bind fun same _ => ?_
    split_ifs
    · refine comesTo_bind fun priv hpriv => comesTo_pure ?_ _
      exact hkeeps.rca h hpriv
    · exact comesTo_pure h _

lemma comesTo_configureNak {rcn : List UInt8 → ℕ → π → HandlerRun (π × Option (List UInt8))}
    (h : Kept J data) {packet : List UInt8} {fuel : ℕ} (hrcn : ∀ priv options,
    (rcn packet fuel data.priv).result = some (.ok (priv, options)) → J data.rejectIdentifier
    data.peerOptions priv) : ComesTo J (pppcpProcessConfigureNak rcn packet fuel data) := by
  unfold pppcpProcessConfigureNak
  split_ifs
  · exact comesTo_pure h _
  · refine comesTo_bind fun found hfound => comesTo_pure ?_ _
    exact hrcn found.1 found.2 hfound

lemma DriverKeeps.processPacket (hkeeps : DriverKeeps proto J) (h : Kept J data) (packet : List UInt8) (fuel : ℕ) :
    ComesTo J (pppcpProcessPacket proto.toOptionProto packet fuel data) := by
  have hpure (type : Option PppcpEventType) : ComesTo J (pure (type, data)) := comesTo_pure h type
  unfold pppcpProcessPacket
  split_ifs
  · exact hpure none
  · exact hpure (some .ruc)
  · split
    · exact hkeeps.configureRequest h packet fuel
    · exact hkeeps.configureAck h packet fuel
    · exact comesTo_configureNak h fun _ _ hfound => hkeeps.rcnNak h hfound
    · exact comesTo_configureNak h fun _ _ hfound => hkeeps.rcnRej h hfound
    · exact hpure (some .rtr)
    · exact hpure (some .rta)
    · exact hpure (some .rxjMinus)
    · exact hpure (some .rxjMinus)
    · exact hpure (some .rxr)
    · exact hpure none

lemma DriverKeeps.packetEvent (hkeeps : DriverKeeps proto J) (h : Kept J data) (packet : List UInt8) (fuel : ℕ) :
    ComesTo J (packetEvent proto packet fuel data) := by
  unfold Ppp.packetEvent
  split_ifs
  · exact comesTo_pure h none
  · refine comesTo_bind fun op _ => ?_
    cases op with
    | none => exact comesTo_pure h (some .ruc)
    | some i => exact hkeeps.processPacket h packet fuel

lemma DriverKeeps.linkStep (hkeeps : DriverKeeps proto J) (h : Kept J link.data) {input : LinkInput}
    {link' : PppcpLink π} (hstep : pppcpLinkStep proto link input = some link') :
    Kept J link'.data ∧ (link'.replies = link.replies ∨
      (∃ type packet data, Kept J data ∧ link'.replies = eventReplies type packet data ++ link.replies) ∨
      ∃ frame, link'.replies = pppcpSendProtocolReject link.data frame ++ link.replies) := by
  cases input with
  | control input =>
    have hcontrol (input : PppcpInput) (hpacket : ∀ packet, input ≠ .packet packet)
        (hmap : ((Ppp.pppcpStep proto.control link.data input).map fun data => { link with data := data }) =
          some link') : Kept J link'.data ∧ link'.replies = link.replies := by
      obtain ⟨data, hdata, rfl⟩ := Option.map_eq_some_iff.mp hmap
      exact ⟨hkeeps.pppcpStep h hpacket hdata, rfl⟩
    have hsame : Kept J link'.data ∧ link'.replies = link.replies := by
      cases input with
      | packet packet => cases hstep
      | up => exact hcontrol .up (fun _ => PppcpInput.noConfusion) hstep
      | down => exact hcontrol .down (fun _ => PppcpInput.noConfusion) hstep
      | «open» => exact hcontrol .«open» (fun _ => PppcpInput.noConfusion) hstep
      | close => exact hcontrol .close (fun _ => PppcpInput.noConfusion) hstep
      | configTimeout => exact hcontrol .configTimeout (fun _ => PppcpInput.noConfusion) hstep
      | terminateTimeout => exact hcontrol .terminateTimeout (fun _ => PppcpInput.noConfusion) hstep
      | localOptions options => exact hcontrol (.localOptions options) (fun _ => PppcpInput.noConfusion) hstep
    exact ⟨hsame.1, .inl hsame.2⟩
  | octets packet fuel =>
    have hcomes := hkeeps.packetEvent h packet fuel
    rw [pppcpLinkStep] at hstep
    cases hresult : (Ppp.packetEvent proto packet fuel link.data).result with
    | none =>
      rw [hresult] at hstep
      cases hstep
    | some outcome =>
      rw [hresult] at hstep
      cases outcome with
      | ok found =>
        obtain ⟨type, data⟩ := found
        have hdata := hcomes type data hresult
        cases type with
        | none =>
          cases hstep
          exact ⟨hdata, .inl rfl⟩
        | some type =>
          cases hstep
          exact ⟨hkeeps.generateEvent hdata _ _, .inr (.inl ⟨type, packet, data, hdata, rfl⟩)⟩
      | reject => cases hstep
      | fault => cases hstep
  | foreign frame =>
    cases hstep
    exact ⟨h, .inr (.inr ⟨frame, rfl⟩)⟩

/-- The rejects among the replies of an event have the identifier that follows the one kept. -/
lemma eventReplies_alike (h : data.rejectIdentifier = 0) (type : PppcpEventType) :
    ∀ reply ∈ eventReplies type packet data,
      reply.code = codeReject ∨ reply.code = protocolReject → reply.identifier = 1 := by
  unfold eventReplies
  cases cpTransition type data.state with
  | none => exact forall_mem_nil _
  | some entry =>
    obtain ⟨actions, newState⟩ := entry
    obtain ⟨hidentifier, hnak⟩ := @countAction_same _ packet actions newState data
    have hnil : ∀ reply ∈ ([] : List Reply),
      reply.code = codeReject ∨ reply.code = protocolReject → reply.identifier = 1 := forall_mem_nil _
    have hother {reply : Reply} (hcode : ¬ (reply.code = codeReject ∨ reply.code = protocolReject))
        (hreply : reply.code = codeReject ∨ reply.code = protocolReject) : reply.identifier = 1 :=
      absurd hreply hcode
    have hreject : newIdentity (data.countAction actions newState).rejectIdentifier = 1 := by
      rw [hidentifier, h]
      rfl
    unfold actionReplies
    rw [forall_mem_append, forall_mem_append, forall_mem_append, forall_mem_ite_singleton,
      forall_mem_ite_singleton, forall_mem_ite_singleton, forall_mem_ite_singleton, forall_mem_ite_singleton,
      forall_mem_ite_singleton, hnak]
    refine ⟨⟨⟨⟨fun _ => hother (show ¬ (echoReply = _ ∨ echoReply = _) by decide), fun _ => hnil⟩,
      fun _ _ => hreject, fun _ => hnil⟩,
      fun _ => hother (show ¬ (terminateRequest = _ ∨ terminateRequest = _) by decide),
      fun _ => ⟨fun _ => hother (show ¬ (terminateAck = _ ∨ terminateAck = _) by decide), fun _ => hnil⟩⟩,
      fun _ => hother (show ¬ (configureAck = _ ∨ configureAck = _) by decide), fun _ => ⟨fun _ => ?_, fun _ => hnil⟩⟩
    unfold pppcpSendConfigureNak
    split_ifs
    · exact hother (show ¬ (configureReject = _ ∨ configureReject = _) by decide)
    · exact hother (show ¬ (configureReject = _ ∨ configureReject = _) by decide)
    · exact hother (show ¬ (configureNak = _ ∨ configureNak = _) by decide)

lemma driverKeeps_identifier (proto : PacketProto π) : DriverKeeps proto fun id _ _ => id = 0 where
  sent h := h
  down h := h
  rca h _ := h
  rcnNak h _ := h
  rcnRej h _ := h
  rcr h _ := h

lemma RejectsAlike.step (h : RejectsAlike link.data link.replies) {input : LinkInput} {link' : PppcpLink π}
    (hstep : pppcpLinkStep proto link input = some link') : RejectsAlike link'.data link'.replies := by
  have hkept : Kept (fun id _ _ => id = 0) link.data := h.identifier
  obtain ⟨hidentifier, hreplies⟩ := (driverKeeps_identifier proto).linkStep hkept hstep
  refine ⟨hidentifier, ?_⟩
  rcases hreplies with hsame | ⟨type, packet, data, hdata, hmore⟩ | ⟨frame, hmore⟩
  · rw [hsame]
    exact h.one
  · rw [hmore, forall_mem_append]
    exact ⟨eventReplies_alike hdata type, h.one⟩
  · rw [hmore, forall_mem_append]
    refine ⟨?_, h.one⟩
    unfold pppcpSendProtocolReject
    split_ifs
    · exact forall_mem_nil _
    · rw [forall_mem_singleton]
      intro _
      dsimp only
      rw [h.identifier]
      rfl

/-- In every state of a run: a packet is handled well just when it is one that can be, and a Protocol-Reject is
sound just when it is the first one and not too long. -/
theorem replies_sound_iff {π : Type} (proto : PacketProto π) (dormant : Bool) (maxFailure : UInt32)
    (priv : π) (localOptions : List UInt8) (inputs : List LinkInput) : Machine.Always (pppcpLinkStep
    proto) (fun link => ∀ packet : List UInt8, 4 ≤ packet.length → (∀ fuel, HandledWell proto packet
    fuel link ↔ PacketOk proto packet fuel link) ∧ ((∀ reply ∈ pppcpSendProtocolReject link.data
    packet, reply.Sound packet link.replies) ↔ (link.data.state = .opened → ProtocolRejectOk packet
    link.replies))) (pppcpLinkNew dormant maxFailure priv localOptions) inputs := by
  have hgood (link : PppcpLink π) (h : RejectsAlike link.data link.replies) (packet : List UInt8)
      (hlen : 4 ≤ packet.length) :
      (∀ fuel, HandledWell proto packet fuel link ↔ PacketOk proto packet fuel link) ∧
        ((∀ reply ∈ pppcpSendProtocolReject link.data packet, reply.Sound packet link.replies) ↔
          (link.data.state = .opened → ProtocolRejectOk packet link.replies)) :=
    ⟨fun fuel => handledWell_iff h hlen, protocolReject_sound_iff h hlen⟩
  exact Machine.always_of_invariant hgood (fun _ _ _ h hstep => h.step hstep) ⟨rfl, forall_mem_nil _⟩ inputs

lemma known_of_lt {supportedCodes : UInt16}
    (h : ∀ code < 16, supportedCodes.toNat.testBit code = true → 1 ≤ code ∧ code ≤ 11) (code : ℕ)
    (hcode : supportedCodes.toNat.testBit code = true) : 1 ≤ code ∧ code ≤ 11 := by
  refine h code ?_ hcode
  by_contra hnot
  have hpow : supportedCodes.toNat < 2 ^ code :=
    Nat.lt_of_lt_of_le supportedCodes.toNat_lt (Nat.pow_le_pow_right (by decide) (Nat.not_lt.mp hnot))
  exact absurd (hcode.symm.trans (Nat.testBit_lt_two_pow hpow)) (by decide)

/-- `lcp_proto`; `lcp_down` sets the options anew. -/
def lcpPacketProto : PacketProto LcpData where
  toOptionProto := lcpProto
  known := known_of_lt (by decide)
  thisLayerDown lcp := (lcp, some (lcpGenerateConfigOptions lcp))

def ipcpResetClientConfigOptions (ipcp : IpcpData) : IpcpData where
  reqOptions := reqOptionIpaddr ||| reqOptionDns1 ||| reqOptionDns2 ||| reqOptionNbns1 ||| reqOptionNbns2
  localAddr := zeroAddr
  peerAddr := zeroAddr
  dns1 := zeroAddr
  dns2 := zeroAddr
  nbns1 := zeroAddr
  nbns2 := zeroAddr
  isServer := ipcp.isServer

def ipcpResetServerConfigOptions (ipcp : IpcpData) : IpcpData :=
  { ipcp with reqOptions := if ipcp.localAddr ≠ zeroAddr then reqOptionIpaddr else 0 }

def ipcpDown (ipcp : IpcpData) : IpcpData × Option (List UInt8) :=
  let reset :=
    if ipcp.isServer then ipcpResetServerConfigOptions ipcp else ipcpResetClientConfigOptions ipcp
  (reset, some (ipcpGenerateConfigOptions reset))

/-- `ipcp_proto` -/
def ipcpPacketProto : PacketProto IpcpData where
  toOptionProto := ipcpProto
  known := known_of_lt (by decide)
  thisLayerDown := ipcpDown

/-- A Terminate-Request with data: the answer is a header, and twelve octets are sent. -/
theorem terminateAck_reads_past :
    ¬ ∀ (proto : PacketProto LcpData) (dormant : Bool) (maxFailure : UInt32) (priv : LcpData)
      (localOptions : List UInt8) (inputs : List LinkInput),
      Machine.Always (pppcpLinkStep proto)
        (fun link => ∀ packet : List UInt8, 4 ≤ packet.length → ∀ fuel, HandledWell proto packet fuel link)
        (pppcpLinkNew dormant maxFailure priv localOptions) inputs := by
  intro h
  have hrun := h lcpPacketProto false 0 (lcpNew false).priv (lcpNew false).localOptions [.control .up]
  have hwell := hrun.2 _ rfl [5, 9, 0, 12, 1, 2, 3, 4, 5, 6, 7, 8] (by decide) 0
  have hsound := hwell.replies .rtr _ rfl _ mem_cons_self
  exact absurd hsound.infolen (by decide)

end Phonelets.Ppp
