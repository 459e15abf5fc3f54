import Mathlib.Data.List.Basic
import Phonelets.Ppp.ControlProtocol
import Phonelets.Ppp.Options

/-! # The handlers of LCP and IPCP

What `pppcp_process_packet` does with the octets of a packet up to the event that it generates, with
the callbacks of both drivers, which go over the options of configure packets. For each of them it
is said what its loop reads of an option, and the results about the loop are put together for the
packets.
-/

namespace Phonelets.Ppp

/-! ## Numbers in the packet -/

def getHostShort (packet : List UInt8) (offset : ℕ) : Outcome UInt16 := do
  let data ← readData packet offset 2
  .ok ((data.getD 0 0).toUInt16 <<< 8 ||| (data.getD 1 0).toUInt16)

def getHostLong (packet : List UInt8) (offset : ℕ) : Outcome UInt32 := do
  let data ← readData packet offset 4
  .ok ((data.getD 0 0).toUInt32 <<< 24 ||| (data.getD 1 0).toUInt32 <<< 16 |||
    (data.getD 2 0).toUInt32 <<< 8 ||| (data.getD 3 0).toUInt32)

def hostShort (n : UInt16) : List UInt8 := [(n >>> 8).toUInt8, n.toUInt8]

def hostLong (n : UInt32) : List UInt8 :=
  [(n >>> 24).toUInt8, (n >>> 16).toUInt8, (n >>> 8).toUInt8, n.toUInt8]

/-- A loop that always goes on to the last option. -/
def whileOptions {σ : Type} (packet : List UInt8) (body : σ → PppOptionIter → Outcome σ) (fuel : ℕ)
    (s : σ) : HandlerRun σ := do
  let r ← optionLoop packet (fun s iter => body s iter >>= fun t => .ok (.inl t : σ ⊕ Empty)) fuel s
  pure (r.elim id Empty.elim)

/-! ## LCP -/

/-- `enum lcp_options`. -/
def lcpMru : UInt8 := 1
def lcpAccm : UInt8 := 2
def lcpAuthProto : UInt8 := 3
def lcpMagicNumber : UInt8 := 5
def lcpPfc : UInt8 := 7
def lcpAcfc : UInt8 := 8

def chapProtocol : UInt16 := 0xc223
def chapMd5 : UInt8 := 5

/-- What the handlers set of `struct _GAtPPP`. -/
structure GAtPPP where
  recvAccm : UInt32
  xmitAccm : UInt32
  mtu : UInt16
  xmitAcfc : Bool
  xmitPfc : Bool
  chap : Bool

/-- `struct lcp_data`, but for the octets of its options, which the protocol keeps, with what the
handlers set outside. -/
structure LcpData where
  reqOptions : UInt8
  accm : UInt32
  mru : UInt16
  ppp : GAtPPP

def reqOptionAccm : UInt8 := 0x1
def reqOptionMru : UInt8 := 0x2
def reqOptionAcfc : UInt8 := 0x4
def reqOptionPfc : UInt8 := 0x8

def lcpGenerateConfigOptions (lcp : LcpData) : List UInt8 :=
  (if lcp.reqOptions &&& reqOptionAccm ≠ 0 then lcpAccm :: 6 :: hostLong lcp.accm else []) ++
  (if lcp.reqOptions &&& reqOptionMru ≠ 0 then lcpMru :: 4 :: hostShort lcp.mru else []) ++
  (if lcp.reqOptions &&& reqOptionAcfc ≠ 0 then [lcpAcfc, 2] else []) ++
  (if lcp.reqOptions &&& reqOptionPfc ≠ 0 then [lcpPfc, 2] else [])

def lcpRca (packet : List UInt8) (fuel : ℕ) (lcp : LcpData) : HandlerRun LcpData :=
  whileOptions packet (fun lcp iter =>
    if iter.type = lcpAccm then do
      let accm ← getHostLong packet iter.optionData
      .ok { lcp with ppp := { lcp.ppp with recvAccm := accm } }
    else .ok lcp) fuel lcp

def lcpRcnNak (packet : List UInt8) (fuel : ℕ) (lcp : LcpData) :
    HandlerRun (LcpData × Option (List UInt8)) := do
  let lcp ← whileOptions packet (fun lcp iter =>
    if iter.type = lcpMru then do
      let mru ← getHostShort packet iter.optionData
      if mru < 2048 then .ok { lcp with mru := mru, reqOptions := lcp.reqOptions ||| reqOptionMru }
      else .ok lcp
    else .ok lcp) fuel lcp
  pure (lcp, some (lcpGenerateConfigOptions lcp))

/-- `lcp_rcn_rej`, which is empty. -/
def lcpRcnRej (_packet : List UInt8) (_fuel : ℕ) (lcp : LcpData) :
    HandlerRun (LcpData × Option (List UInt8)) := pure (lcp, none)

def pppSetAuth (packet : List UInt8) (offset : ℕ) (ppp : GAtPPP) : Outcome GAtPPP := do
  let proto ← getHostShort packet offset
  if proto = chapProtocol then do
    let method ← readData packet (offset + 2) 1
    .ok { ppp with chap := method = [chapMd5] }
  else .ok ppp

def pppSetMtu (packet : List UInt8) (offset : ℕ) (ppp : GAtPPP) : Outcome GAtPPP := do
  let mtu ← getHostShort packet offset
  .ok { ppp with mtu := mtu }

/-- The first loop of `lcp_rcr`: an option may be refused, or another one suggested. -/
def lcpRcrBody (packet : List UInt8) (s : Unit) (iter : PppOptionIter) :
    Outcome (Unit ⊕ (RcrResult × Option (List UInt8))) :=
  if iter.type = lcpAuthProto then do
    let proto ← getHostShort packet iter.optionData
    let method ← readData packet (iter.optionData + 2) 1
    if proto = chapProtocol ∧ method = [chapMd5] then .ok (.inl s)
    else .ok (.inr (.nak, some (lcpAuthProto :: 5 :: hostShort chapProtocol ++ [chapMd5])))
  else if iter.type = lcpAccm ∨ iter.type = lcpPfc ∨ iter.type = lcpAcfc ∨ iter.type = lcpMru then
    .ok (.inl s)
  else if iter.type = lcpMagicNumber then do
    let magic ← getHostLong packet iter.optionData
    if magic = 0 then .ok (.inr (.reject, none)) else .ok (.inl s)
  else .ok (.inr (.reject, none))

/-- The second loop of `lcp_rcr`: the options are applied. -/
def lcpApplyBody (packet : List UInt8) (lcp : LcpData) (iter : PppOptionIter) : Outcome LcpData :=
  if iter.type = lcpAccm then do
    let accm ← getHostLong packet iter.optionData
    .ok { lcp with ppp := { lcp.ppp with xmitAccm := accm } }
  else if iter.type = lcpAuthProto then do
    let ppp ← pppSetAuth packet iter.optionData lcp.ppp
    .ok { lcp with ppp := ppp }
  else if iter.type = lcpMru then do
    let ppp ← pppSetMtu packet iter.optionData lcp.ppp
    .ok { lcp with ppp := ppp }
  else if iter.type = lcpPfc then
    if lcp.reqOptions &&& reqOptionPfc ≠ 0 then
      .ok { lcp with ppp := { lcp.ppp with xmitPfc := true } }
    else .ok lcp
  else if iter.type = lcpAcfc then
    if lcp.reqOptions &&& reqOptionAcfc ≠ 0 then
      .ok { lcp with ppp := { lcp.ppp with xmitAcfc := true } }
    else .ok lcp
  else .ok lcp

def lcpRcr (packet : List UInt8) (fuel : ℕ) (lcp : LcpData) :
    HandlerRun (RcrResult × Option (List UInt8) × LcpData) := do
  let r ← optionLoop packet (lcpRcrBody packet) fuel ()
  match r with
  | .inr (result, options) => pure (result, options, lcp)
  | .inl () =>
    let lcp ← whileOptions packet (lcpApplyBody packet) fuel lcp
    pure (.accept, none, lcp)

/-! ## IPCP -/

/-- `enum ipcp_option_types`. -/
def ipcpIpAddress : UInt8 := 3
def ipcpPrimaryDnsServer : UInt8 := 129
def ipcpPrimaryNbnsServer : UInt8 := 130
def ipcpSecondaryDnsServer : UInt8 := 131
def ipcpSecondaryNbnsServer : UInt8 := 132

def reqOptionIpaddr : UInt8 := 0x01
def reqOptionDns1 : UInt8 := 0x02
def reqOptionDns2 : UInt8 := 0x04
def reqOptionNbns1 : UInt8 := 0x08
def reqOptionNbns2 : UInt8 := 0x10

/-- `struct ipcp_data`, but for the octets of its options; the addresses are the octets in memory. -/
structure IpcpData where
  reqOptions : UInt8
  localAddr : List UInt8
  peerAddr : List UInt8
  dns1 : List UInt8
  dns2 : List UInt8
  nbns1 : List UInt8
  nbns2 : List UInt8
  isServer : Bool

def fillIp (req : Bool) (type : UInt8) (addr : List UInt8) : List UInt8 :=
  if req then type :: 6 :: addr else []

def ipcpGenerateConfigOptions (ipcp : IpcpData) : List UInt8 :=
  fillIp (ipcp.reqOptions &&& reqOptionIpaddr ≠ 0) ipcpIpAddress ipcp.localAddr ++
  fillIp (ipcp.reqOptions &&& reqOptionDns1 ≠ 0) ipcpPrimaryDnsServer ipcp.dns1 ++
  fillIp (ipcp.reqOptions &&& reqOptionDns2 ≠ 0) ipcpSecondaryDnsServer ipcp.dns2 ++
  fillIp (ipcp.reqOptions &&& reqOptionNbns1 ≠ 0) ipcpPrimaryNbnsServer ipcp.nbns1 ++
  fillIp (ipcp.reqOptions &&& reqOptionNbns2 ≠ 0) ipcpSecondaryNbnsServer ipcp.nbns2

/-- An address that the peer gives is kept, and with `request` it is asked for from then on. -/
def ipcpKeep (packet : List UInt8) (request : Bool) (ipcp : IpcpData) (iter : PppOptionIter) :
    Outcome IpcpData :=
  let asked (bit : UInt8) : UInt8 := if request then ipcp.reqOptions ||| bit else ipcp.reqOptions
  if iter.type = ipcpIpAddress then do
    let addr ← readData packet iter.optionData 4
    .ok { ipcp with localAddr := addr, reqOptions := asked reqOptionIpaddr }
  else if iter.type = ipcpPrimaryDnsServer then do
    let addr ← readData packet iter.optionData 4
    .ok { ipcp with dns1 := addr, reqOptions := asked reqOptionDns1 }
  else if iter.type = ipcpPrimaryNbnsServer then do
    let addr ← readData packet iter.optionData 4
    .ok { ipcp with nbns1 := addr, reqOptions := asked reqOptionNbns1 }
  else if iter.type = ipcpSecondaryDnsServer then do
    let addr ← readData packet iter.optionData 4
    .ok { ipcp with dns2 := addr, reqOptions := asked reqOptionDns2 }
  else if iter.type = ipcpSecondaryNbnsServer then do
    let addr ← readData packet iter.optionData 4
    .ok { ipcp with nbns2 := addr, reqOptions := asked reqOptionNbns2 }
  else .ok ipcp

def ipcpRca (packet : List UInt8) (fuel : ℕ) (ipcp : IpcpData) : HandlerRun IpcpData :=
  if ipcp.isServer then pure ipcp else whileOptions packet (ipcpKeep packet false) fuel ipcp

def ipcpRcnNak (packet : List UInt8) (fuel : ℕ) (ipcp : IpcpData) :
    HandlerRun (IpcpData × Option (List UInt8)) :=
  if ipcp.isServer then pure (ipcp, none)
  else do
    let ipcp ← whileOptions packet (ipcpKeep packet true) fuel ipcp
    pure (ipcp, some (ipcpGenerateConfigOptions ipcp))

/-- The request that an option of the type stands for. -/
def ipcpRequest (type : UInt8) : UInt8 :=
  if type = ipcpIpAddress then reqOptionIpaddr
  else if type = ipcpPrimaryDnsServer then reqOptionDns1
  else if type = ipcpPrimaryNbnsServer then reqOptionNbns1
  else if type = ipcpSecondaryDnsServer then reqOptionDns2
  else if type = ipcpSecondaryNbnsServer then reqOptionNbns2
  else 0

def ipcpRcnRej (packet : List UInt8) (fuel : ℕ) (ipcp : IpcpData) :
    HandlerRun (IpcpData × Option (List UInt8)) :=
  if ipcp.isServer then pure (ipcp, none)
  else do
    let ipcp ← whileOptions packet (fun (ipcp : IpcpData) iter =>
      .ok { ipcp with reqOptions := ipcp.reqOptions &&& ~~~ipcpRequest iter.type }) fuel ipcp
    pure (ipcp, some (ipcpGenerateConfigOptions ipcp))

/-- `nak_options` and `rej_options` of `ipcp_server_rcr`, as far as they have been written. -/
structure ServerAnswer where
  nak : List UInt8
  rej : List UInt8

def zeroAddr : List UInt8 := [0, 0, 0, 0]

def ipcpServerBody (packet : List UInt8) (ipcp : IpcpData) (answer : ServerAnswer)
    (iter : PppOptionIter) : Outcome ServerAnswer :=
  let offer (own : List UInt8) : Outcome ServerAnswer := do
    let addr ← readData packet iter.optionData 4
    .ok { answer with nak := answer.nak ++ fillIp (addr ≠ own ∨ addr = zeroAddr) iter.type own }
  if iter.type = ipcpIpAddress then offer ipcp.peerAddr
  else if iter.type = ipcpPrimaryDnsServer then offer ipcp.dns1
  else if iter.type = ipcpSecondaryDnsServer then offer ipcp.dns2
  else do
    let data ← readData packet iter.optionData iter.len.toNat
    .ok { answer with rej := answer.rej ++ iter.type :: (iter.len + 2) :: data }

def ipcpServerRcr (packet : List UInt8) (fuel : ℕ) (ipcp : IpcpData) :
    HandlerRun (RcrResult × Option (List UInt8) × IpcpData) := do
  let answer ← whileOptions packet (ipcpServerBody packet ipcp) fuel ⟨[], []⟩
  if 0 < answer.rej.length then pure (.reject, some answer.rej, ipcp)
  else if 0 < answer.nak.length then pure (.nak, some answer.nak, ipcp)
  else pure (.accept, none, ipcp)

/-- `options` and the `guint8 len` of `ipcp_client_rcr`. -/
structure ClientAnswer where
  options : List UInt8
  len : UInt8
  ipcp : IpcpData

/-- The option is copied to where `len` points. -/
def ClientAnswer.put (answer : ClientAnswer) (option : List UInt8) : ClientAnswer :=
  { answer with
    options := answer.options.take answer.len.toNat ++ option ++
      answer.options.drop (answer.len.toNat + option.length)
    len := answer.len + UInt8.ofNat option.length }

def ipcpClientBody (packet : List UInt8) (answer : ClientAnswer) (iter : PppOptionIter) :
    Outcome ClientAnswer :=
  let refuse (answer : ClientAnswer) : Outcome ClientAnswer := do
    let data ← readData packet iter.optionData iter.len.toNat
    .ok (answer.put (iter.type :: (iter.len + 2) :: data))
  if iter.type = ipcpIpAddress then do
    let addr ← readData packet iter.optionData 4
    let answer := { answer with ipcp := { answer.ipcp with peerAddr := addr } }
    if addr ≠ zeroAddr then .ok answer else refuse answer
  else refuse answer

def ipcpClientRcr (packet : List UInt8) (fuel : ℕ) (ipcp : IpcpData) :
    HandlerRun (RcrResult × Option (List UInt8) × IpcpData) := do
  let answer ← whileOptions packet (ipcpClientBody packet) fuel ⟨[], 0, ipcp⟩
  if 0 < answer.len then
    pure (.reject, some (answer.options.take answer.len.toNat), answer.ipcp)
  else pure (.accept, none, answer.ipcp)

def ipcpRcr (packet : List UInt8) (fuel : ℕ) (ipcp : IpcpData) :
    HandlerRun (RcrResult × Option (List UInt8) × IpcpData) :=
  if ipcp.isServer then ipcpServerRcr packet fuel ipcp else ipcpClientRcr packet fuel ipcp

/-! ## Packets -/

/-- `struct pppcp_proto`, with the callbacks as they work on the octets. -/
structure OptionProto (π : Type) where
  supportedCodes : UInt16
  rca : List UInt8 → ℕ → π → HandlerRun π
  rcnNak : List UInt8 → ℕ → π → HandlerRun (π × Option (List UInt8))
  rcnRej : List UInt8 → ℕ → π → HandlerRun (π × Option (List UInt8))
  rcr : List UInt8 → ℕ → π → HandlerRun (RcrResult × Option (List UInt8) × π)

/-- Codes 1 to 11. -/
def lcpProto : OptionProto LcpData := ⟨0xffe, lcpRca, lcpRcnNak, lcpRcnRej, lcpRcr⟩

/-- Codes 1 to 7. -/
def ipcpProto : OptionProto IpcpData := ⟨0xfe, ipcpRca, ipcpRcnNak, ipcpRcnRej, ipcpRcr⟩

/-- `pppcp_new`, with the local options that are set after it. -/
def pppcpNew {π : Type} (dormant : Bool) (maxFailure : UInt32) (priv : π)
    (localOptions : List UInt8) : PppcpData π where
  state := if dormant then .stopped else .initial
  configTimerData := ⟨0, 10, false, 0, false⟩
  terminateTimerData := ⟨0, 2, false, 0, false⟩
  maxFailure := if maxFailure ≠ 0 then maxFailure else 5
  failureCounter := 0
  configIdentifier := 0
  terminateIdentifier := 0
  rejectIdentifier := 0
  localOptions := localOptions
  peerOptions := []
  sendReject := false
  priv := priv
  done := []

/-- `lcp_new`, as part of a new `GAtPPP`. -/
def lcpNew (isServer : Bool) : PppcpData LcpData :=
  let lcp : LcpData := ⟨0, 0, 0, ⟨0xffffffff, 0xffffffff, 1500, false, false, false⟩⟩
  pppcpNew isServer 0 lcp (lcpGenerateConfigOptions lcp)

variable {π : Type}

def pppcpProcessConfigureRequest (proto : OptionProto π) (packet : List UInt8) (fuel : ℕ)
    (data : PppcpData π) : HandlerRun (Option PppcpEventType × PppcpData π) :=
  if data.failureCounter ≥ data.maxFailure then pure (some .rcrMinus, data)
  else do
    let (result, options, priv) ← proto.rcr packet fuel data.priv
    let data := { data with priv := priv, peerOptions := options.getD data.peerOptions }
    match result with
    | .reject => pure (some .rcrMinus, { data with sendReject := true })
    | .nak => pure (some .rcrMinus, { data with sendReject := false })
    | .accept => pure (some .rcrPlus, data)

/-- `memcmp` up to the first octet that differs, as a test for zero. -/
def sameOptions (localOptions packet : List UInt8) : Outcome Bool :=
  if localOptions <+: packet.drop 4 then .ok true
  else if packet.drop 4 <+: localOptions then .fault
  else .ok false

/-- The identifier of a packet with a header. -/
def packetIdentifier (packet : List UInt8) : UInt8 := packet.getD 1 0

def pppcpProcessConfigureAck (proto : OptionProto π) (packet : List UInt8) (fuel : ℕ)
    (data : PppcpData π) : HandlerRun (Option PppcpEventType × PppcpData π) :=
  let len : ℤ := (pppcpPacketLength packet).toNat - 4
  if packetIdentifier packet ≠ data.configIdentifier then pure (none, data)
  else if (data.localOptions.length : ℤ) ≠ len then pure (none, data)
  else do
    let same ← HandlerRun.lift (sameOptions data.localOptions packet)
    if same then do
      let priv ← proto.rca packet fuel data.priv
      pure (some .rca, { data with priv := priv })
    else pure (none, data)

/-- `pppcp_process_configure_nak` and `pppcp_process_configure_reject`, with the callback. -/
def pppcpProcessConfigureNak (rcn : List UInt8 → ℕ → π → HandlerRun (π × Option (List UInt8)))
    (packet : List UInt8) (fuel : ℕ) (data : PppcpData π) :
    HandlerRun (Option PppcpEventType × PppcpData π) :=
  if packetIdentifier packet ≠ data.configIdentifier then pure (none, data)
  else do
    let (priv, options) ← rcn packet fuel data.priv
    pure (some .rcn, { data with priv := priv, localOptions := options.getD data.localOptions })

/-- `pppcp_process_packet` up to the event that it generates, if any. -/
def pppcpProcessPacket (proto : OptionProto π) (packet : List UInt8) (fuel : ℕ) (data : PppcpData π) :
    HandlerRun (Option PppcpEventType × PppcpData π) :=
  if packet.length < 4 then pure (none, data)
  else if !proto.supportedCodes.toNat.testBit (packet.getD 0 0).toNat then pure (some .ruc, data)
  else
    match (packet.getD 0 0).toNat with
    | 1 => pppcpProcessConfigureRequest proto packet fuel data
    | 2 => pppcpProcessConfigureAck proto packet fuel data
    | 3 => pppcpProcessConfigureNak proto.rcnNak packet fuel data
    | 4 => pppcpProcessConfigureNak proto.rcnRej packet fuel data
    | 5 => pure (some .rtr, data)
    | 6 => pure (some .rta, data)
    | 7 => pure (some .rxjMinus, data)
    | 8 => pure (some .rxjMinus, data)
    | 9 => pure (some .rxr, data)
    | _ => pure (none, data)

/-! ## Runs that are put together -/

variable {α β σ : Type} {packet : List UInt8} {offset k : ℕ}

/-- Nothing is visited, and there is a result. -/
def HandlerRun.Quiet (y : HandlerRun α) : Prop := y.loops = [] ∧ ∃ a, y.result = some (.ok a)

lemma HandlerRun.quiet_pure (a : α) : (pure a : HandlerRun α).Quiet := ⟨rfl, a, rfl⟩

variable {c : Prop}

lemma HandlerRun.quiet_ite [Decidable c] {x y : HandlerRun α} (hx : x.Quiet)
    (hy : y.Quiet) : (if c then x else y).Quiet := by
  split
  · exact hx
  · exact hy

lemma HandlerRun.bind_of_ok {x : HandlerRun α} {a : α} (h : x.result = some (.ok a))
    (f : α → HandlerRun β) : (x >>= f) = ⟨x.loops ++ (f a).loops, (f a).result⟩ := by
  change HandlerRun.bind x f = _
  rw [HandlerRun.bind, h]

lemma HandlerRun.exists_of_bind {x : HandlerRun α} {f : α → HandlerRun β} {b : β}
    (h : (x >>= f).result = some (.ok b)) : ∃ a, x.result = some (.ok a) := by
  change (HandlerRun.bind x f).result = _ at h
  rw [HandlerRun.bind] at h
  cases hx : x.result with
  | none =>
    rw [hx] at h
    cases h
  | some r =>
    cases r with
    | ok a => exact ⟨a, rfl⟩
    | reject =>
      rw [hx] at h
      cases h
    | fault =>
      rw [hx] at h
      cases h

lemma HandlerRun.Quiet.safe {y : HandlerRun α} (h : y.Quiet) : y.Safe packet := by
  obtain ⟨hloops, a, ha⟩ := h
  refine ⟨a, ha, ?_⟩
  rw [hloops]
  exact List.forall_mem_nil _

lemma HandlerRun.safe_bind_iff {x : HandlerRun α} {f : α → HandlerRun β} (hf : ∀ a, (f a).Quiet) :
    (x >>= f).Safe packet ↔ x.Safe packet := by
  constructor
  · rintro ⟨b, hb, hloops⟩
    obtain ⟨a, ha⟩ := HandlerRun.exists_of_bind hb
    rw [HandlerRun.bind_of_ok ha, (hf a).1, List.append_nil] at hloops
    exact ⟨a, ha, hloops⟩
  · rintro ⟨a, ha, hloops⟩
    obtain ⟨hnil, b, hb⟩ := hf a
    refine ⟨b, ?_⟩
    rw [HandlerRun.bind_of_ok ha, hnil, List.append_nil]
    exact ⟨hb, hloops⟩

lemma runsSafely_quiet {y : HandlerRun α} (h : y.Quiet) : RunsSafely packet (fun _ => y) :=
  ⟨0, h.safe⟩

lemma runsSafely_bind_iff {x : ℕ → HandlerRun α} {f : α → HandlerRun β} (hf : ∀ a, (f a).Quiet) :
    RunsSafely packet (fun fuel => x fuel >>= f) ↔ RunsSafely packet x :=
  exists_congr fun _ => HandlerRun.safe_bind_iff hf

/-- All that is read is there, or something is read that is not. -/
structure ReadsIf (x : Outcome α) (p : Prop) : Prop where
  ok : p → ∃ a, x = .ok a
  fault : ¬ p → x = .fault

variable {p : Prop}

lemma ReadsIf.of_ok (a : α) (hp : p) : ReadsIf (.ok a) p :=
  ⟨fun _ => ⟨a, rfl⟩, fun hnot => absurd hp hnot⟩

lemma ReadsIf.congr {x : Outcome α} {q : Prop} (h : ReadsIf x p) (hpq : p ↔ q) : ReadsIf x q :=
  ⟨fun hq => h.ok (hpq.mpr hq), fun hq => h.fault fun hp => hq (hpq.mp hp)⟩

lemma ReadsIf.ite [Decidable c] {x y : Outcome α} (hx : c → ReadsIf x p)
    (hy : ¬ c → ReadsIf y p) : ReadsIf (if c then x else y) p := by
  by_cases hc : c
  · rw [if_pos hc]
    exact hx hc
  · rw [if_neg hc]
    exact hy hc

lemma ReadsIf.bind {x : Outcome α} {f : α → Outcome β} {q : Prop} (hx : ReadsIf x p)
    (hf : ∀ a, x = .ok a → ReadsIf (f a) q) : ReadsIf (x >>= f) (p ∧ q) where
  ok h := by
    obtain ⟨a, rfl⟩ := hx.ok h.1
    exact (hf a rfl).ok h.2
  fault h := by
    by_cases hp : p
    · obtain ⟨a, rfl⟩ := hx.ok hp
      exact (hf a rfl).fault fun hq => h ⟨hp, hq⟩
    · rw [hx.fault hp]
      rfl

lemma ReadsIf.bind_ok {x : Outcome α} (hx : ReadsIf x p) (f : α → β) :
    ReadsIf (x >>= fun a => .ok (f a)) p :=
  (hx.bind fun a _ => ReadsIf.of_ok (f a) trivial).congr (and_iff_left trivial)

/-- A body that reads as is said and always goes on. -/
def BodyReads (body : σ → PppOptionIter → Outcome σ) (reads : UInt8 → UInt8 → ℕ → Prop) : Prop :=
  ∀ s iter, ReadsIf (body s iter) (reads iter.type iter.len iter.optionData)

/-- A reader that never makes the handler return. -/
def readsOnly (reads : UInt8 → UInt8 → ℕ → Prop) : OptionReader := ⟨reads, fun _ _ _ => False⟩

variable {reads : UInt8 → UInt8 → ℕ → Prop}

lemma BodyReads.reader {body : σ → PppOptionIter → Outcome σ}
    (h : BodyReads body reads) : (readsOnly reads).Of
      (fun s iter => body s iter >>= fun t => .ok (.inl t : σ ⊕ Empty)) where
  goes s iter hreads _ := by
    obtain ⟨t, ht⟩ := (h s iter).ok hreads
    exact ⟨t, by rw [ht, Outcome.ok_bind]⟩
  returns s iter _ hreturns := hreturns.elim
  faults s iter hreads := by rw [(h s iter).fault hreads, Outcome.fault_bind]

lemma ok_of_whileOptions {body : σ → PppOptionIter → Outcome σ} (h : BodyReads body reads) {s : σ} {fuel : ℕ}
    (hsafe : (whileOptions packet body fuel s).Safe packet) :
    PacketOptionsOk packet (readsOnly reads) := by
  obtain ⟨r, hr, hloops⟩ := (HandlerRun.safe_bind_iff fun r => HandlerRun.quiet_pure _).mp hsafe
  exact (ok_of_optionLoop h.reader hr hloops).1

lemma safe_whileOptions {body : σ → PppOptionIter → Outcome σ} (h : BodyReads body reads) (s : σ)
    (hok : PacketOptionsOk packet (readsOnly reads)) :
    (whileOptions packet body enoughRounds s).Safe packet := by
  obtain ⟨r, hr, hloops, -⟩ := optionLoop_of_ok h.reader hok s
  exact (HandlerRun.safe_bind_iff fun r => HandlerRun.quiet_pure _).mpr ⟨r, hr, hloops⟩

lemma runsSafely_whileOptions {body : σ → PppOptionIter → Outcome σ} (h : BodyReads body reads) (s : σ) :
    RunsSafely packet (fun fuel => whileOptions packet body fuel s) ↔
      PacketOptionsOk packet (readsOnly reads) :=
  ⟨fun ⟨_, hsafe⟩ => ok_of_whileOptions h hsafe, fun hok => ⟨_, safe_whileOptions h s hok⟩⟩

/-! ## What is read of an option -/

lemma readsIf_readData : ReadsIf (readData packet offset k) (offset + k ≤ packet.length) :=
  ⟨fun h => ⟨_, if_pos h⟩, fun h => if_neg h⟩

lemma readsIf_getHostShort : ReadsIf (getHostShort packet offset) (offset + 2 ≤ packet.length) :=
  readsIf_readData.bind_ok _

lemma readsIf_getHostLong : ReadsIf (getHostLong packet offset) (offset + 4 ≤ packet.length) :=
  readsIf_readData.bind_ok _

/-- Four octets of an ACCM option. -/
def lcpRcaReads (packet : List UInt8) (type _len : UInt8) (data : ℕ) : Prop :=
  type = lcpAccm → data + 4 ≤ packet.length

/-- Two octets of an MRU option. -/
def lcpRcnNakReads (packet : List UInt8) (type _len : UInt8) (data : ℕ) : Prop :=
  type = lcpMru → data + 2 ≤ packet.length

/-- The suggested authentication is CHAP with MD5. -/
def IsChapMd5 (packet : List UInt8) (data : ℕ) : Prop :=
  getHostShort packet data = .ok chapProtocol ∧ readData packet (data + 2) 1 = .ok [chapMd5]

/-- Three octets of an authentication option and four of a magic number; what is not known is
refused, as are other authentications and a magic number of 0. -/
def lcpRcrReader (packet : List UInt8) : OptionReader where
  reads type _ data := (type = lcpAuthProto → data + 3 ≤ packet.length) ∧
    (type = lcpMagicNumber → data + 4 ≤ packet.length)
  returns type _ data :=
    if type = lcpAuthProto then ¬ IsChapMd5 packet data
    else if type = lcpMagicNumber then getHostLong packet data = .ok 0
    else type ≠ lcpAccm ∧ type ≠ lcpPfc ∧ type ≠ lcpAcfc ∧ type ≠ lcpMru

/-- What is read of an option that is applied. -/
def lcpApplyReads (packet : List UInt8) (type _len : UInt8) (data : ℕ) : Prop :=
  (type = lcpAccm → data + 4 ≤ packet.length) ∧
  (type = lcpAuthProto → data + 2 ≤ packet.length ∧
    (getHostShort packet data = .ok chapProtocol → data + 3 ≤ packet.length)) ∧
  (type = lcpMru → data + 2 ≤ packet.length)

/-- The types of options with an address. -/
def IsAddressOption (type : UInt8) : Prop :=
  type = ipcpIpAddress ∨ type = ipcpPrimaryDnsServer ∨ type = ipcpPrimaryNbnsServer ∨
    type = ipcpSecondaryDnsServer ∨ type = ipcpSecondaryNbnsServer

instance (type : UInt8) : Decidable (IsAddressOption type) := by
  unfold IsAddressOption
  infer_instance

def ipcpKeepReads (packet : List UInt8) (type _len : UInt8) (data : ℕ) : Prop :=
  IsAddressOption type → data + 4 ≤ packet.length

/-- A server reads the addresses that it gives, and of the other options what they are long. -/
def ipcpServerReads (packet : List UInt8) (type len : UInt8) (data : ℕ) : Prop :=
  if type = ipcpIpAddress ∨ type = ipcpPrimaryDnsServer ∨ type = ipcpSecondaryDnsServer then
    data + 4 ≤ packet.length
  else data + len.toNat ≤ packet.length

/-- A client reads the address of the peer, and of what it refuses what it is long. -/
def ipcpClientReads (packet : List UInt8) (type len : UInt8) (data : ℕ) : Prop :=
  if type = ipcpIpAddress then data + 4 ≤ packet.length ∧
    (readData packet data 4 = .ok zeroAddr → data + len.toNat ≤ packet.length)
  else data + len.toNat ≤ packet.length

/-! ## The bodies of the loops -/

lemma readsIf_pppSetMtu (ppp : GAtPPP) :
    ReadsIf (pppSetMtu packet offset ppp) (offset + 2 ≤ packet.length) :=
  readsIf_getHostShort.bind_ok _

lemma readsIf_pppSetAuth (ppp : GAtPPP) :
    ReadsIf (pppSetAuth packet offset ppp) (offset + 2 ≤ packet.length ∧
      (getHostShort packet offset = .ok chapProtocol → offset + 3 ≤ packet.length)) := by
  refine readsIf_getHostShort.bind fun proto hproto => ReadsIf.ite (fun hchap => ?_) fun hchap => ?_
  · refine (readsIf_readData.bind_ok _).congr (Iff.symm (imp_iff_right ?_))
    rw [hproto, hchap]
  · refine ReadsIf.of_ok _ fun h => absurd ?_ hchap
    exact Outcome.ok.inj (hproto.symm.trans h)

lemma bodyReads_lcpRca : BodyReads (fun (lcp : LcpData) iter =>
    if iter.type = lcpAccm then do
      let accm ← getHostLong packet iter.optionData
      .ok { lcp with ppp := { lcp.ppp with recvAccm := accm } }
    else .ok lcp) (lcpRcaReads packet) := by
  intro lcp iter
  refine ReadsIf.ite (fun htype => ?_) fun htype => ?_
  · exact (readsIf_getHostLong.bind_ok _).congr (imp_iff_right htype).symm
  · exact ReadsIf.of_ok _ fun h => absurd h htype

lemma bodyReads_lcpRcnNak : BodyReads (fun (lcp : LcpData) iter =>
    if iter.type = lcpMru then do
      let mru ← getHostShort packet iter.optionData
      if mru < 2048 then .ok { lcp with mru := mru, reqOptions := lcp.reqOptions ||| reqOptionMru }
      else .ok lcp
    else .ok lcp) (lcpRcnNakReads packet) := by
  intro lcp iter
  refine ReadsIf.ite (fun htype => ?_) fun htype => ?_
  · refine (readsIf_getHostShort.bind fun mru _ => ?_).congr
      ((and_iff_left trivial).trans (imp_iff_right htype).symm)
    exact ReadsIf.ite (fun _ => ReadsIf.of_ok _ trivial) fun _ => ReadsIf.of_ok _ trivial
  · exact ReadsIf.of_ok _ fun h => absurd h htype

lemma bodyReads_lcpApply : BodyReads (lcpApplyBody packet) (lcpApplyReads packet) := by
  intro lcp iter
  refine ReadsIf.ite (fun haccm => ?_) fun haccm => ReadsIf.ite (fun hauth => ?_) fun hauth =>
    ReadsIf.ite (fun hmru => ?_) fun hmru => ?_
  · exact (readsIf_getHostLong.bind_ok _).congr
      (by simp [lcpApplyReads, haccm, lcpAccm, lcpAuthProto, lcpMru])
  · exact ((readsIf_pppSetAuth lcp.ppp).bind_ok _).congr
      (by simp [lcpApplyReads, hauth, lcpAccm, lcpAuthProto, lcpMru])
  · exact ((readsIf_pppSetMtu lcp.ppp).bind_ok _).congr
      (by simp [lcpApplyReads, hmru, lcpAccm, lcpAuthProto, lcpMru])
  · -- protocol and address compression have no data
    have hreads : lcpApplyReads packet iter.type iter.len iter.optionData :=
      ⟨fun h => absurd h haccm, fun h => absurd h hauth, fun h => absurd h hmru⟩
    have hflag (c : Prop) [Decidable c] (t : LcpData) : ReadsIf (if c then .ok t else .ok lcp)
        (lcpApplyReads packet iter.type iter.len iter.optionData) :=
      ReadsIf.ite (fun _ => ReadsIf.of_ok _ hreads) fun _ => ReadsIf.of_ok _ hreads
    exact ReadsIf.ite (fun _ => hflag _ _) fun _ =>
      ReadsIf.ite (fun _ => hflag _ _) fun _ => ReadsIf.of_ok _ hreads

lemma bodyReads_ipcpKeep (request : Bool) :
    BodyReads (ipcpKeep packet request) (ipcpKeepReads packet) := by
  intro ipcp iter
  have haddress (f : List UInt8 → IpcpData) (h : IsAddressOption iter.type) :
      ReadsIf (readData packet iter.optionData 4 >>= fun addr => .ok (f addr))
        (ipcpKeepReads packet iter.type iter.len iter.optionData) :=
    (readsIf_readData.bind_ok f).congr (imp_iff_right h).symm
  refine ReadsIf.ite (fun h => haddress _ (.inl h)) fun hip =>
    ReadsIf.ite (fun h => haddress _ (.inr (.inl h))) fun hdns1 =>
    ReadsIf.ite (fun h => haddress _ (.inr (.inr (.inl h)))) fun hnbns1 =>
    ReadsIf.ite (fun h => haddress _ (.inr (.inr (.inr (.inl h))))) fun hdns2 =>
    ReadsIf.ite (fun h => haddress _ (.inr (.inr (.inr (.inr h))))) fun hnbns2 => ?_
  refine ReadsIf.of_ok _ fun h => ?_
  rcases h with h | h | h | h | h <;> contradiction

lemma bodyReads_ipcpServer (ipcp : IpcpData) :
    BodyReads (ipcpServerBody packet ipcp) (ipcpServerReads packet) := by
  intro answer iter
  have hoffer (f : List UInt8 → ServerAnswer) (h : iter.type = ipcpIpAddress ∨
      iter.type = ipcpPrimaryDnsServer ∨ iter.type = ipcpSecondaryDnsServer) :
      ReadsIf (readData packet iter.optionData 4 >>= fun addr => .ok (f addr))
        (ipcpServerReads packet iter.type iter.len iter.optionData) := by
    rw [ipcpServerReads, if_pos h]
    exact readsIf_readData.bind_ok f
  refine ReadsIf.ite (fun h => hoffer _ (.inl h)) fun hip =>
    ReadsIf.ite (fun h => hoffer _ (.inr (.inl h))) fun hdns1 =>
    ReadsIf.ite (fun h => hoffer _ (.inr (.inr h))) fun hdns2 => ?_
  rw [ipcpServerReads, if_neg (not_or.mpr ⟨hip, not_or.mpr ⟨hdns1, hdns2⟩⟩)]
  exact readsIf_readData.bind_ok _

lemma bodyReads_ipcpClient : BodyReads (ipcpClientBody packet) (ipcpClientReads packet) := by
  intro answer iter
  have hrefuse (f : List UInt8 → ClientAnswer) :
      ReadsIf (readData packet iter.optionData iter.len.toNat >>= fun data => .ok (f data))
        (iter.optionData + iter.len.toNat ≤ packet.length) := readsIf_readData.bind_ok f
  refine ReadsIf.ite (fun hip => ?_) fun hip => ?_
  · rw [ipcpClientReads, if_pos hip]
    refine readsIf_readData.bind fun addr haddr => ReadsIf.ite (fun hne => ?_) fun hzero => ?_
    · refine ReadsIf.of_ok _ fun h => absurd ?_ hne
      exact Outcome.ok.inj (haddr.symm.trans h)
    · refine (hrefuse _).congr (Iff.symm (imp_iff_right ?_))
      rw [haddr, Decidable.not_not.mp hzero]
  · rw [ipcpClientReads, if_neg hip]
    exact hrefuse _

lemma OptionReader.of_cases {σ ρ : Type} {reader : OptionReader}
    {body : σ → PppOptionIter → Outcome (σ ⊕ ρ)}
    (h : ∀ s iter, ReadsIf (body s iter) (reader.reads iter.type iter.len iter.optionData) ∧
      ∀ r, body s iter = .ok r →
        (r.isRight = true ↔ reader.returns iter.type iter.len iter.optionData)) :
    reader.Of body where
  goes s iter hreads hreturns := by
    obtain ⟨r, hr⟩ := (h s iter).1.ok hreads
    have hright := (h s iter).2 r hr
    cases r with
    | inl t => exact ⟨t, hr⟩
    | inr r => exact absurd (hright.mp rfl) hreturns
  returns s iter hreads hreturns := by
    obtain ⟨r, hr⟩ := (h s iter).1.ok hreads
    have hright := (h s iter).2 r hr
    cases r with
    | inl t => exact absurd (hright.mpr hreturns) Bool.false_ne_true
    | inr r => exact ⟨r, hr⟩
  faults s iter hreads := (h s iter).1.fault hreads

lemma lcpRcrBody_auth {s : Unit} {iter : PppOptionIter} (htype : iter.type = lcpAuthProto) :
    lcpRcrBody packet s iter = (do
      let proto ← getHostShort packet iter.optionData
      let method ← readData packet (iter.optionData + 2) 1
      if proto = chapProtocol ∧ method = [chapMd5] then .ok (.inl s)
      else .ok (.inr (.nak, some (lcpAuthProto :: 5 :: hostShort chapProtocol ++ [chapMd5])))) :=
  if_pos htype

lemma lcpRcrBody_magic {s : Unit} {iter : PppOptionIter} (htype : iter.type = lcpMagicNumber) :
    lcpRcrBody packet s iter = (do
      let magic ← getHostLong packet iter.optionData
      if magic = 0 then .ok (.inr (.reject, none)) else .ok (.inl s)) := by
  rw [lcpRcrBody, htype]
  rfl

lemma lcpRcrReader_of : (lcpRcrReader packet).Of (lcpRcrBody packet) := by
  refine OptionReader.of_cases fun s iter => ?_
  by_cases hauth : iter.type = lcpAuthProto
  · have hmagic : iter.type ≠ lcpMagicNumber := by
      rw [hauth]
      decide
    rw [lcpRcrBody_auth hauth]
    refine ⟨?_, fun r hr => ?_⟩
    · refine (readsIf_getHostShort.bind fun proto _ => readsIf_readData.bind fun method _ =>
        ReadsIf.ite (fun _ => .of_ok _ trivial) fun _ => .of_ok _ trivial).congr ?_
      have hthree : iter.optionData + 2 ≤ packet.length ∧
          iter.optionData + 2 + 1 ≤ packet.length ∧ True ↔ iter.optionData + 3 ≤ packet.length := by
        rw [and_true]
        omega
      exact hthree.trans
        ((imp_iff_right hauth).symm.trans (and_iff_left fun h => absurd h hmagic).symm)
    · obtain ⟨proto, hproto, hr⟩ := Outcome.bind_eq_ok.mp hr
      obtain ⟨method, hmethod, hr⟩ := Outcome.bind_eq_ok.mp hr
      have hchap : IsChapMd5 packet iter.optionData ↔ proto = chapProtocol ∧ method = [chapMd5] := by
        rw [IsChapMd5, hproto, hmethod, Outcome.ok.injEq, Outcome.ok.injEq]
      dsimp only [lcpRcrReader]
      rw [if_pos hauth, hchap]
      split at hr
      next hsame =>
        cases hr
        exact iff_of_false Bool.false_ne_true (not_not_intro hsame)
      next hother =>
        cases hr
        exact iff_of_true rfl hother
  · by_cases hmagic : iter.type = lcpMagicNumber
    · rw [lcpRcrBody_magic hmagic]
      refine ⟨?_, fun r hr => ?_⟩
      · refine (readsIf_getHostLong.bind fun magic _ =>
          ReadsIf.ite (fun _ => .of_ok _ trivial) fun _ => .of_ok _ trivial).congr ?_
        exact (and_iff_left trivial).trans
          ((imp_iff_right hmagic).symm.trans (and_iff_right fun h => absurd h hauth).symm)
      · obtain ⟨magic, hm, hr⟩ := Outcome.bind_eq_ok.mp hr
        dsimp only [lcpRcrReader]
        rw [if_neg hauth, if_pos hmagic, hm, Outcome.ok.injEq]
        split at hr
        next hzero =>
          cases hr
          exact iff_of_true rfl hzero
        next hother =>
          cases hr
          exact iff_of_false Bool.false_ne_true hother
    · -- nothing is read of the other options; those that are not known are refused
      have hreads : (lcpRcrReader packet).reads iter.type iter.len iter.optionData :=
        ⟨fun h => absurd h hauth, fun h => absurd h hmagic⟩
      rw [lcpRcrBody, if_neg hauth]
      dsimp only [lcpRcrReader] at hreads ⊢
      rw [if_neg hmagic, if_neg hauth, if_neg hmagic]
      by_cases hknown : iter.type = lcpAccm ∨ iter.type = lcpPfc ∨ iter.type = lcpAcfc ∨
          iter.type = lcpMru
      · rw [if_pos hknown]
        refine ⟨.of_ok _ hreads, fun r hr => ?_⟩
        cases hr
        refine iff_of_false Bool.false_ne_true ?_
        rintro ⟨h₁, h₂, h₃, h₄⟩
        rcases hknown with h | h | h | h <;> contradiction
      · rw [if_neg hknown]
        refine ⟨.of_ok _ hreads, fun r hr => ?_⟩
        cases hr
        simp only [not_or] at hknown
        exact iff_of_true rfl hknown

/-! ## Packets that are handled safely -/

variable {π : Type}

/-- The options of a request to LCP: the loop that applies them reads them again. -/
def LcpRequestOk (packet : List UInt8) : Prop :=
  PacketOptionsOk packet (lcpRcrReader packet) ∧
    (PacketOptionsOk packet (lcpRcrReader packet).through →
      PacketOptionsOk packet (readsOnly (lcpApplyReads packet)))

lemma runsSafely_lcpRcr (lcp : LcpData) :
    RunsSafely packet (fun fuel => lcpRcr packet fuel lcp) ↔ LcpRequestOk packet := by
  constructor
  · rintro ⟨fuel, b, hb, hloops⟩
    obtain ⟨r, hr⟩ := HandlerRun.exists_of_bind hb
    dsimp only [lcpRcr] at hb hloops
    rw [HandlerRun.bind_of_ok hr] at hb hloops
    rw [List.forall_mem_append] at hloops
    obtain ⟨hok, hleft⟩ := ok_of_optionLoop lcpRcrReader_of hr hloops.1
    refine ⟨hok, fun hthrough => ?_⟩
    cases r with
    | inl s =>
      have hsafe : (whileOptions packet (lcpApplyBody packet) fuel lcp).Safe packet :=
        (HandlerRun.safe_bind_iff fun _ => HandlerRun.quiet_pure _).mp ⟨b, hb, hloops.2⟩
      exact ok_of_whileOptions bodyReads_lcpApply hsafe
    | inr r => exact absurd (hleft.mpr hthrough) Bool.false_ne_true
  · rintro ⟨hok, happly⟩
    obtain ⟨r, hr, hloops, hleft⟩ := optionLoop_of_ok lcpRcrReader_of hok ()
    refine ⟨enoughRounds, ?_⟩
    dsimp only [lcpRcr]
    rw [HandlerRun.bind_of_ok hr]
    cases r with
    | inl s =>
      obtain ⟨b, hb, hloops'⟩ := (HandlerRun.safe_bind_iff fun lcp =>
        HandlerRun.quiet_pure (RcrResult.accept, (none : Option (List UInt8)), lcp)).mpr
        (safe_whileOptions bodyReads_lcpApply lcp (happly (hleft.mp rfl)))
      exact ⟨b, hb, List.forall_mem_append.mpr ⟨hloops, hloops'⟩⟩
    | inr r => exact ⟨_, rfl, List.forall_mem_append.mpr ⟨hloops, List.forall_mem_nil _⟩⟩

lemma runsSafely_ite [Decidable c] {y : HandlerRun α} {run : ℕ → HandlerRun α} (hy : y.Quiet) :
    RunsSafely packet (fun fuel => if c then y else run fuel) ↔ c ∨ RunsSafely packet run := by
  by_cases hc : c
  · simp only [if_pos hc]
    exact iff_of_true (runsSafely_quiet hy) (.inl hc)
  · simp only [if_neg hc]
    exact (or_iff_right hc).symm

/-- What the options of a packet have to be for each of the callbacks. -/
structure OptionProtoOk (π : Type) where
  rca : List UInt8 → π → Prop
  rcnNak : List UInt8 → π → Prop
  rcnRej : List UInt8 → π → Prop
  rcr : List UInt8 → π → Prop

/-- The condition says exactly when the callbacks are safe, and they take configure packets. -/
structure OptionProtoOk.Of (ok : OptionProtoOk π) (proto : OptionProto π) : Prop where
  codes : ∀ code, 1 ≤ code → code ≤ 4 → proto.supportedCodes.toNat.testBit code = true
  rca : ∀ packet priv, RunsSafely packet (fun fuel => proto.rca packet fuel priv) ↔ ok.rca packet priv
  rcnNak : ∀ packet priv,
    RunsSafely packet (fun fuel => proto.rcnNak packet fuel priv) ↔ ok.rcnNak packet priv
  rcnRej : ∀ packet priv,
    RunsSafely packet (fun fuel => proto.rcnRej packet fuel priv) ↔ ok.rcnRej packet priv
  rcr : ∀ packet priv, RunsSafely packet (fun fuel => proto.rcr packet fuel priv) ↔ ok.rcr packet priv

/-- The acknowledged options are compared with the octets of the packet: they are all there, or they
differ in an octet that is. -/
def AckOk (rca : List UInt8 → π → Prop) (packet : List UInt8) (data : PppcpData π) : Prop :=
  data.localOptions <+: packet.drop 4 ∧ rca packet data.priv ∨
    ¬ data.localOptions <+: packet.drop 4 ∧ ¬ packet.drop 4 <+: data.localOptions

/-- What a packet has to be, if it has a header. -/
def OptionProtoOk.PacketOk (ok : OptionProtoOk π) (packet : List UInt8) (data : PppcpData π) : Prop :=
  match (packet.getD 0 0).toNat with
  | 1 => data.failureCounter ≥ data.maxFailure ∨ ok.rcr packet data.priv
  | 2 => packetIdentifier packet ≠ data.configIdentifier ∨
      (data.localOptions.length : ℤ) ≠ (pppcpPacketLength packet).toNat - 4 ∨
      AckOk ok.rca packet data
  | 3 => packetIdentifier packet ≠ data.configIdentifier ∨ ok.rcnNak packet data.priv
  | 4 => packetIdentifier packet ≠ data.configIdentifier ∨ ok.rcnRej packet data.priv
  | _ => True

variable {proto : OptionProto π} {ok : OptionProtoOk π}

lemma runsSafely_configureRequest (hok : ok.Of proto) (data : PppcpData π) :
    RunsSafely packet (fun fuel => pppcpProcessConfigureRequest proto packet fuel data) ↔
      data.failureCounter ≥ data.maxFailure ∨ ok.rcr packet data.priv := by
  refine (runsSafely_ite (HandlerRun.quiet_pure _)).trans (or_congr_right ?_)
  refine (runsSafely_bind_iff fun r => ?_).trans (hok.rcr packet data.priv)
  obtain ⟨result, options, priv⟩ := r
  cases result
  · exact HandlerRun.quiet_pure _
  · exact HandlerRun.quiet_pure _
  · exact HandlerRun.quiet_pure _

lemma runsSafely_configureAck (hok : ok.Of proto) (data : PppcpData π) :
    RunsSafely packet (fun fuel => pppcpProcessConfigureAck proto packet fuel data) ↔
    packetIdentifier packet ≠ data.configIdentifier ∨ (data.localOptions.length : ℤ) ≠
    (pppcpPacketLength packet).toNat - 4 ∨ AckOk ok.rca packet data := by
  refine (runsSafely_ite (HandlerRun.quiet_pure _)).trans (or_congr_right ?_)
  refine (runsSafely_ite (HandlerRun.quiet_pure _)).trans (or_congr_right ?_)
  by_cases hsame : data.localOptions <+: packet.drop 4
  · have hlift : sameOptions data.localOptions packet = .ok true := if_pos hsame
    rw [AckOk, hlift]
    refine Iff.trans ?_ (or_iff_left fun h => h.1 hsame).symm
    refine Iff.trans ?_ (and_iff_right hsame).symm
    exact (runsSafely_bind_iff fun priv => HandlerRun.quiet_pure _).trans (hok.rca packet data.priv)
  · rw [AckOk]
    refine Iff.trans ?_ (or_iff_right fun h => hsame h.1).symm
    refine Iff.trans ?_ (and_iff_right hsame).symm
    by_cases hshort : packet.drop 4 <+: data.localOptions
    · have hlift : sameOptions data.localOptions packet = .fault :=
        (if_neg hsame).trans (if_pos hshort)
      rw [hlift]
      refine iff_of_false ?_ (not_not_intro hshort)
      rintro ⟨fuel, a, ha, -⟩
      cases ha
    · have hlift : sameOptions data.localOptions packet = .ok false :=
        (if_neg hsame).trans (if_neg hshort)
      rw [hlift]
      exact iff_of_true (runsSafely_quiet (HandlerRun.quiet_pure _)) hshort

lemma runsSafely_configureNak {rcn : List UInt8 → ℕ → π → HandlerRun (π × Option (List UInt8))}
    (data : PppcpData π) :
    RunsSafely packet (fun fuel => pppcpProcessConfigureNak rcn packet fuel data) ↔ packetIdentifier
    packet ≠ data.configIdentifier ∨ RunsSafely packet (fun fuel => rcn packet fuel data.priv) := by
  refine (runsSafely_ite (HandlerRun.quiet_pure _)).trans (or_congr_right ?_)
  exact runsSafely_bind_iff fun r => HandlerRun.quiet_pure _

lemma runsSafely_processPacket (hok : ok.Of proto) (packet : List UInt8) (data : PppcpData π) :
    RunsSafely packet (fun fuel => pppcpProcessPacket proto packet fuel data) ↔
      packet.length < 4 ∨ ok.PacketOk packet data := by
  refine (runsSafely_ite (HandlerRun.quiet_pure _)).trans (or_congr_right ?_)
  have hquiet (a : Option PppcpEventType × PppcpData π) : RunsSafely packet fun _ => pure a :=
    runsSafely_quiet (HandlerRun.quiet_pure a)
  unfold OptionProtoOk.PacketOk
  have hcodes := hok.codes
  generalize (packet.getD 0 0).toNat = code at *
  by_cases hsupported : proto.supportedCodes.toNat.testBit code = true
  · simp only [hsupported, Bool.not_true, Bool.false_eq_true, if_false]
    rcases code with _ | _ | _ | _ | _ | _ | _ | _ | _ | _ | code
    · exact iff_of_true (hquiet _) trivial
    · exact runsSafely_configureRequest hok data
    · exact runsSafely_configureAck hok data
    · exact (runsSafely_configureNak data).trans (or_congr_right (hok.rcnNak packet data.priv))
    · exact (runsSafely_configureNak data).trans (or_congr_right (hok.rcnRej packet data.priv))
    · exact iff_of_true (hquiet _) trivial
    · exact iff_of_true (hquiet _) trivial
    · exact iff_of_true (hquiet _) trivial
    · exact iff_of_true (hquiet _) trivial
    · exact iff_of_true (hquiet _) trivial
    · exact iff_of_true (hquiet _) trivial
  · -- configure packets are supported
    have hcode : ¬ (1 ≤ code ∧ code ≤ 4) := fun h => hsupported (hcodes code h.1 h.2)
    simp only [hsupported, Bool.not_false, if_true]
    refine iff_of_true (hquiet _) ?_
    rcases code with _ | _ | _ | _ | _ | code
    · trivial
    · exact absurd ⟨by omega, by omega⟩ hcode
    · exact absurd ⟨by omega, by omega⟩ hcode
    · exact absurd ⟨by omega, by omega⟩ hcode
    · exact absurd ⟨by omega, by omega⟩ hcode
    · trivial

/-! ## LCP and IPCP -/

def lcpOk : OptionProtoOk LcpData where
  rca packet _ := PacketOptionsOk packet (readsOnly (lcpRcaReads packet))
  rcnNak packet _ := PacketOptionsOk packet (readsOnly (lcpRcnNakReads packet))
  rcnRej _ _ := True
  rcr packet _ := LcpRequestOk packet

def ipcpOk : OptionProtoOk IpcpData where
  rca packet ipcp := ipcp.isServer ∨ PacketOptionsOk packet (readsOnly (ipcpKeepReads packet))
  rcnNak packet ipcp := ipcp.isServer ∨ PacketOptionsOk packet (readsOnly (ipcpKeepReads packet))
  rcnRej packet ipcp := ipcp.isServer ∨ PacketOptionsOk packet (readsOnly fun _ _ _ => True)
  rcr packet ipcp := PacketOptionsOk packet
    (readsOnly (if ipcp.isServer then ipcpServerReads packet else ipcpClientReads packet))

lemma testBit_configure (mask : ℕ) (h₁ : mask.testBit 1 = true) (h₂ : mask.testBit 2 = true)
    (h₃ : mask.testBit 3 = true) (h₄ : mask.testBit 4 = true) {code : ℕ} (hlow : 1 ≤ code)
    (hhigh : code ≤ 4) : mask.testBit code = true := by
  obtain rfl | rfl | rfl | rfl : code = 1 ∨ code = 2 ∨ code = 3 ∨ code = 4 := by omega
  · exact h₁
  · exact h₂
  · exact h₃
  · exact h₄

lemma lcpOk_of : lcpOk.Of lcpProto where
  codes _ hlow hhigh := testBit_configure 0xffe rfl rfl rfl rfl hlow hhigh
  rca _ lcp := runsSafely_whileOptions bodyReads_lcpRca lcp
  rcnNak _ lcp := (runsSafely_bind_iff fun _ => HandlerRun.quiet_pure _).trans
    (runsSafely_whileOptions bodyReads_lcpRcnNak lcp)
  rcnRej _ _ := iff_of_true (runsSafely_quiet (HandlerRun.quiet_pure _)) trivial
  rcr _ lcp := runsSafely_lcpRcr lcp

lemma ipcpOk_of : ipcpOk.Of ipcpProto where
  codes _ hlow hhigh := testBit_configure 0xfe rfl rfl rfl rfl hlow hhigh
  rca packet ipcp := (runsSafely_ite (HandlerRun.quiet_pure _)).trans
    (or_congr_right (runsSafely_whileOptions (bodyReads_ipcpKeep false) ipcp))
  rcnNak packet ipcp := (runsSafely_ite (HandlerRun.quiet_pure _)).trans
    (or_congr_right ((runsSafely_bind_iff fun _ => HandlerRun.quiet_pure _).trans
      (runsSafely_whileOptions (bodyReads_ipcpKeep true) ipcp)))
  rcnRej packet ipcp := by
    refine (runsSafely_ite (HandlerRun.quiet_pure _)).trans (or_congr_right ?_)
    refine (runsSafely_bind_iff fun _ => HandlerRun.quiet_pure _).trans
      (runsSafely_whileOptions (fun ipcp iter => ?_) ipcp)
    exact ReadsIf.of_ok _ trivial
  rcr packet ipcp := by
    change RunsSafely packet (fun fuel => ipcpRcr packet fuel ipcp) ↔ PacketOptionsOk packet _
    unfold ipcpRcr
    cases ipcp.isServer
    · refine (runsSafely_bind_iff fun answer => ?_).trans (runsSafely_whileOptions bodyReads_ipcpClient _)
      exact HandlerRun.quiet_ite (HandlerRun.quiet_pure _) (HandlerRun.quiet_pure _)
    · refine (runsSafely_bind_iff fun answer => ?_).trans
        (runsSafely_whileOptions (bodyReads_ipcpServer ipcp) _)
      exact HandlerRun.quiet_ite (HandlerRun.quiet_pure _)
        (HandlerRun.quiet_ite (HandlerRun.quiet_pure _) (HandlerRun.quiet_pure _))

/-- A packet of LCP or IPCP is handled safely just when the loop that goes over its options, if one
does, finds each of them two octets long or more, with all that is read of it in the packet. -/
theorem pppcpProcessPacket_runsSafely_iff (packet : List UInt8) (lcp : PppcpData LcpData)
    (ipcp : PppcpData IpcpData) : (RunsSafely packet (fun fuel =>
    pppcpProcessPacket lcpProto packet fuel lcp) ↔ packet.length < 4 ∨ lcpOk.PacketOk packet lcp) ∧
    (RunsSafely packet (fun fuel => pppcpProcessPacket ipcpProto packet fuel ipcp) ↔
    packet.length < 4 ∨ ipcpOk.PacketOk packet ipcp) :=
  ⟨runsSafely_processPacket lcpOk_of packet lcp, runsSafely_processPacket ipcpOk_of packet ipcp⟩

/-- Address compression is asked for with a length of 0, and the loop stays at it. -/
theorem pppcpProcessPacket_zero_length : ¬ RunsSafely [1, 1, 0, 6, 8, 0]
    (fun fuel => pppcpProcessPacket lcpProto [1, 1, 0, 6, 8, 0] fuel (lcpNew true)) := by
  rw [runsSafely_processPacket lcpOk_of]
  rintro (hshort | hfull | hrequest)
  · exact absurd hshort (by decide)
  · exact absurd hfull (by decide)
  · have hmax : (pppOptionIterInit [1, 1, 0, 6, 8, 0]).max.toNat = 2 := rfl
    have hoptions : OptionsOk [1, 1, 0, 6, 8, 0] (lcpRcrReader [1, 1, 0, 6, 8, 0]) 2 0 := hrequest.1
    cases hoptions with
    | done past => exact absurd past (by decide)
    | rest inside octet long =>
      cases octet
      exact absurd long (by decide)
    | last typeOctet octet two fits reads returns =>
      cases octet
      exact absurd two (by decide)
    | next typeOctet octet two fits reads goes more =>
      cases octet
      exact absurd two (by decide)

end Phonelets.Ppp
