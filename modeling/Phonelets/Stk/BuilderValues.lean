import Phonelets.Stk.TextValues

/-! # What the builders write

A builder that succeeds leaves one data object more, with a value that fits its container,
or nothing at all. `Writes` composes along the ways in which the builders are put together,
so that each of them is described by what it appends.
-/

namespace Phonelets.Stk

open Phonelets.Sim (utf8ToSimString)
open Phonelets.Sms (SmsScts SmsDeliver SmsAddress Cbs cbsEncode smsEncode smsEncodeScts readOctets)
open StkTlvBuilder (Closed Added AppendsSome Appends container appendByte appendShort appendBytes appends_byte
  appends_short appends_bytes appends_nothing appendText appendGsmPacked)

/-- The writer writes nothing, or one data object with such a value. -/
def Writes (w : DataobjWriter) (type : DataObjectType) (P : List UInt8 → Prop) : Prop :=
  ∀ cr b b' es, Closed b es → w cr b = .ok b' →
    b' = b ∨ ∃ os maxLen, P os ∧ os.length ≤ maxLen ∧ maxLen ≤ 0xff ∧
      Added b b' es ⟨cr, type.code, os⟩ ⟨⟨cr, type.code, os⟩, maxLen⟩

section Rules

variable {type : DataObjectType} {P Q : List UInt8 → Prop} {f g : DataobjWriter}

lemma writes_nothing : Writes (fun _ b => .ok b) type P := by
  intro cr b b' es _ hok
  exact .inl (Outcome.ok.inj hok).symm

lemma writes_reject : Writes (fun _ _ => .reject) type P := by
  intro cr b b' es _ hok
  cases hok

lemma Writes.imp (h : Writes f type P) (himp : ∀ os, P os → Q os) : Writes f type Q := by
  intro cr b b' es hclosed hok
  rcases h cr b b' es hclosed hok with hsame | ⟨os, maxLen, hos, hrest⟩
  · exact .inl hsame
  · exact .inr ⟨os, maxLen, himp os hos, hrest⟩

lemma Writes.short (h : Writes f type P) : Writes f type fun os => P os ∧ os.length ≤ 0xff := by
  intro cr b b' es hclosed hok
  rcases h cr b b' es hclosed hok with hsame | ⟨os, maxLen, hos, hlen, hmax, hrest⟩
  · exact .inl hsame
  · exact .inr ⟨os, maxLen, ⟨hos, hlen.trans hmax⟩, hlen, hmax, hrest⟩

lemma Writes.ite {c : Prop} [Decidable c] (hf : c → Writes f type P) (hg : ¬ c → Writes g type P) :
    Writes (fun cr b => if c then f cr b else g cr b) type P := by
  by_cases hc : c
  · simp only [if_pos hc]
    exact hf hc
  · simp only [if_neg hc]
    exact hg hc

lemma Writes.bind {α : Type} {o : Outcome α} {k : α → DataobjWriter}
    (h : ∀ a, o = .ok a → Writes (k a) type P) : Writes (fun cr b => o >>= fun a => k a cr b) type P := by
  intro cr b b' es hclosed hok
  rcases Outcome.bind_eq_ok.mp hok with ⟨a, ha, hrest⟩
  exact h a ha cr b b' es hclosed hrest

variable {body : StkTlvBuilder → Outcome StkTlvBuilder}

lemma writes_some (hbody : AppendsSome body P)
    (relocatable : Bool) : Writes (fun cr => container cr type relocatable body) type P := by
  intro cr b b' es hclosed hok
  exact .inr (hclosed.container_appends hbody hok)

lemma writes_container {os : List UInt8} (hbody : Appends body os) (relocatable : Bool) :
    Writes (fun cr => container cr type relocatable body) type (· = os) :=
  writes_some hbody.some relocatable

lemma writes_behind {os : List UInt8} (a : UInt8) (hbody : Appends body os) (relocatable : Bool) :
    Writes (fun cr => container cr type relocatable (appendByte a >=> body)) type (· = a :: os) :=
  writes_container ((appends_byte a).kleisli hbody) relocatable

lemma appends_each {α : Type} {append : α → StkTlvBuilder → Outcome StkTlvBuilder} {octets : α → List UInt8}
    (h : ∀ a, Appends (append a) (octets a)) (l : List α) :
    Appends (appendEach append l) (l.flatMap octets) := by
  induction l with
  | nil => exact appends_nothing
  | cons a l ih =>
    rw [List.flatMap_cons]
    exact (h a).kleisli ih

lemma appends_ite {c : Prop} [Decidable c] {f : StkTlvBuilder → Outcome StkTlvBuilder} {os : List UInt8}
    (hf : Appends f os) :
    Appends (fun b => if c then f b else .ok b) (if c then os else []) := by
  by_cases hc : c
  · simp only [if_pos hc]
    exact hf
  · simp only [if_neg hc]
    exact appends_nothing

lemma appends_unlessEmpty (os : List UInt8) :
    Appends (fun b => if os.length > 0 then appendBytes os b else .ok b) os := by
  have happends := @appends_ite (os.length > 0) _ _ _ (appends_bytes os)
  have hos : (if os.length > 0 then os else []) = os := by
    split_ifs with hpos
    · rfl
    · exact (List.length_eq_zero_iff.mp (by omega)).symm
  rwa [hos] at happends

end Rules

/-! ## Common forms -/

lemma writes_byte (type : DataObjectType) (relocatable : Bool) (byte : UInt8) :
    Writes (buildByte type relocatable byte) type (· = [byte]) :=
  writes_container (appends_byte byte) relocatable

lemma writes_octets (type : DataObjectType) (relocatable : Bool) (octets : List UInt8) :
    Writes (buildOctets type relocatable octets) type (· = octets) :=
  writes_container (appends_bytes octets) relocatable

lemma writes_bcdString (type : DataObjectType) (addr : StkAddressOf) :
    Writes (buildBcdString type addr) type fun os =>
      ∃ number, addr.number = some number ∧ os = addr.tonNpi :: simEncodeBcdNumber number.bytes := by
  unfold buildBcdString
  rcases hnumber : addr.number with _ | number
  · exact writes_nothing
  · refine Writes.bind fun octets hoctets => ?_
    obtain rfl : simEncodeBcdNumber number.bytes = octets := by
      unfold encodedNumber at hoctets
      simp only at hoctets
      split_ifs at hoctets
      exact Outcome.ok.inj hoctets
    exact (writes_behind _ (appends_bytes _) false).imp fun _ hos => ⟨number, rfl, hos⟩

lemma writes_params (type : DataObjectType) (params : List UInt8) :
    Writes (buildParams type params) type (· = params) :=
  Writes.ite (fun _ => writes_nothing) fun _ =>
    Writes.ite (fun _ => writes_reject) fun _ => writes_octets type false params

lemma writes_networkCode (type : DataObjectType) (mcc mnc : CString 4)
    {rest : StkTlvBuilder → Outcome StkTlvBuilder} {os : List UInt8} (hrest : Appends rest os) :
    Writes (buildNetworkCode type mcc mnc rest) type (· = simEncodeMccMnc mcc mnc ++ os) :=
  Writes.ite (fun _ => writes_nothing) fun _ =>
    writes_container ((appends_bytes _).kleisli hrest) false

lemma appends_shortIf (has : Bool) (num : UInt16) :
    Appends (appendShortIf has num) (shortOctetsIf has num) :=
  appends_ite (appends_short num)

/-! ## Data objects that are read back -/

lemma writes_alphaId (env : StkEnv) (data : Option HeapString) : Writes (buildDataobjAlphaId env
    data) .alphaId fun os => ∃ s, data = some s ∧ (s.bytes.length = 0 ∧ os = [] ∨ s.bytes.length ≠
    0 ∧ ∃ r, utf8ToSimString env.conv s.bytes (-1) = .ok r ∧ os = r.1.take r.2.toNat) := by
  rcases data with _ | s
  · exact writes_nothing
  · refine Writes.ite (fun hempty => ?_) fun hne => Writes.bind fun r hr => ?_
    · exact (writes_container appends_nothing false).imp fun _ hos => ⟨s, rfl, .inl ⟨hempty, hos⟩⟩
    · exact (writes_octets .alphaId true _).imp fun _ hos => ⟨s, rfl, .inr ⟨hne, r, hr, hos⟩⟩

lemma writes_subaddress (sa : StkSubaddress) :
    Writes (buildDataobjSubaddress sa) .subaddress fun os => sa.hasSubaddr = true ∧ os = sa.subaddr.octets :=
  Writes.ite (fun _ => writes_nothing) fun hhas =>
    (writes_octets .subaddress false _).imp fun _ hos => ⟨by simpa using hhas, hos⟩

lemma writes_ccp (ccp : Filled 16) :
    Writes (buildDataobjCcp ccp) .ccp (· = UInt8.ofNat ccp.octets.length :: ccp.octets) :=
  Writes.ite (fun _ => writes_nothing) fun _ =>
    writes_behind _ (appends_bytes _) false

lemma writes_duration (duration : StkDuration) : Writes (buildDataobjDuration duration) .duration
    fun os => duration.interval ≠ 0 ∧ os = [duration.unit.octet, duration.interval] :=
  Writes.ite (fun _ => writes_nothing) fun hne =>
    (writes_behind _ (appends_byte _) false).imp fun _ hos => ⟨hne, hos⟩

lemma writes_itemId (itemId : UInt8) : Writes (buildDataobjItemId itemId) .itemId (· = [itemId]) :=
  Writes.ite (fun _ => writes_nothing) fun _ => writes_byte .itemId false itemId

lemma writes_result (result : StkResult) :
    Writes (buildDataobjResult result) .result (· = result.type :: result.additional) :=
  writes_behind _ (appends_unlessEmpty _) false

lemma writes_ussdString (ussd : StkUssdString) :
    Writes (buildDataobjUssdString ussd) .ussdString (· = ussd.dcs :: ussd.string.octets) :=
  writes_behind _ (appends_bytes _) false

lemma writes_fileList (l : List StkFile) : Writes (buildDataobjFileList l) .fileList
    (· = UInt8.ofNat l.length :: l.flatMap fun file => file.octets) := by
  have hfiles : Appends (appendEach (fun file : StkFile => appendBytes file.octets) l)
      (l.flatMap fun file => file.octets) :=
    @appends_each StkFile _ (fun file => file.octets) (fun file => appends_bytes file.octets) l
  exact writes_behind (UInt8.ofNat l.length) hfiles true

lemma writes_locationInfo (li : StkLocationInfo) :
    Writes (buildDataobjLocationInfo li) .locationInfo (· = locationOctets li) :=
  writes_networkCode .locationInfo li.mcc li.mnc
    ((appends_short _).kleisli ((appends_shortIf _ _).kleisli ((appends_shortIf _ _).kleisli
      ((appends_shortIf _ _).kleisli (appends_shortIf _ _)))))

lemma writes_imei (imei : Option HeapString) :
    Writes (buildDataobjImei imei) .imei fun os => ∃ s, imei = some s ∧ s.bytes.length = 15 ∧
    os = simEncodeBcdNumber (0x2a :: s.bytes.take 1) ++ simEncodeBcdNumber (s.bytes.drop 1) := by
  rcases imei with _ | s
  · exact writes_nothing
  · refine Writes.ite (fun _ => writes_reject) fun hlen => ?_
    exact (writes_octets .imei false _).imp fun _ hos => ⟨s, rfl, not_not.mp hlen, hos⟩

lemma writes_imeisv (imeisv : Option HeapString) : Writes (buildDataobjImeisv imeisv) .imeisv fun
    os => ∃ s, imeisv = some s ∧ s.bytes.length = 16 ∧
    os = simEncodeBcdNumber (0x33 :: s.bytes.take 1) ++ simEncodeBcdNumber (s.bytes.drop 1) := by
  rcases imeisv with _ | s
  · exact writes_nothing
  · refine Writes.ite (fun _ => writes_reject) fun hlen => ?_
    exact (writes_octets .imeisv false _).imp fun _ hos => ⟨s, rfl, not_not.mp hlen, hos⟩

lemma writes_cause (cause : StkCause) :
    Writes (buildDataobjCause cause) .cause fun os => cause.hasCause = true ∧ os = cause.cause.octets :=
  Writes.ite (fun _ => writes_nothing) fun hhas =>
    (writes_octets .cause false _).imp fun _ hos => ⟨by simpa using hhas, hos⟩

lemma writes_bcchChannelList (list : StkBcchChannelList) : Writes (buildDataobjBcchChannelList list)
    .bcchChannelList fun os => list.hasList = true ∧ os = bcchOctets list.channels := by
  refine Writes.ite (fun _ => writes_nothing) fun hhas => ?_
  refine (writes_container (appends_each (fun i => appends_byte (bcchOctet list.channels i)) _) true).imp ?_
  intro os hos
  refine ⟨by simpa using hhas, ?_⟩
  rw [hos, bcchOctets, List.map_eq_flatMap]

lemma writes_timerValue (value : StkTimerValue) :
    Writes (buildDataobjTimerValue value) .timerValue fun os =>
      value.hasValue = true ∧ os = [toBcd value.hour, toBcd value.minute, toBcd value.second] :=
  Writes.ite (fun _ => writes_nothing) fun hhas =>
    (writes_behind _ ((appends_byte _).kleisli (appends_byte _)) false).imp fun _ hos =>
      ⟨by simpa using hhas, hos⟩

lemma writes_datetimeTimezone (scts : SmsScts) :
    Writes (buildDataobjDatetimeTimezone scts) .datetimeTimezone fun os => smsEncodeScts scts = .ok os :=
  Writes.ite (fun _ => writes_nothing) fun _ => Writes.bind fun value hvalue =>
    (writes_octets .datetimeTimezone false value).imp fun _ hos => hos ▸ hvalue

lemma writes_language (env : StkEnv) (data : Option HeapString) : Writes (buildDataobjLanguage env
    data) .language fun os => ∃ s, data = some s ∧ os = env.readPast (s.bytes ++ [0]) 2 := by
  rcases data with _ | s
  · exact writes_nothing
  · exact (writes_octets .language false _).imp fun _ hos => ⟨s, rfl, hos⟩

lemma writes_timingAdvance (tadv : StkTimingAdvance) :
    Writes (buildDataobjTimingAdvance tadv) .timingAdvance (· = [tadv.status, tadv.advance]) :=
  writes_behind _ (appends_byte _) false

lemma writes_bufferSize (bufSize : UInt16) :
    Writes (buildDataobjBufferSize bufSize) .bufferSize (· = shortOctets bufSize) :=
  writes_container (appends_short bufSize) false

/-- The octets of an address. -/
def StkOtherAddress.value : StkOtherAddress → List UInt8
  | .auto => []
  | .ipv4 addr => 0x21 :: addr.octets
  | .ipv6 addr => 0x57 :: addr.octets

lemma writes_otherAddress (addr : Option StkOtherAddress) :
    Writes (buildDataobjOtherAddress addr) .otherAddress fun os => ∃ a, addr = some a ∧ os = a.value := by
  rcases addr with _ | _ | addr | addr
  · exact writes_nothing
  · exact (writes_container appends_nothing false).imp fun _ hos => ⟨_, rfl, hos⟩
  · exact (writes_behind _ (appends_bytes _) false).imp fun _ hos => ⟨_, rfl, hos⟩
  · exact (writes_behind _ (appends_bytes _) false).imp fun _ hos => ⟨_, rfl, hos⟩

lemma writes_uiccTeInterface (iface : StkUiccTeInterface) : Writes (buildDataobjUiccTeInterface
    iface) .uiccTeInterface (· = iface.protocol :: shortOctets iface.port) :=
  Writes.ite (fun _ => writes_nothing) fun _ => writes_behind _ (appends_short _) false

lemma writes_displayParameters (params : StkDisplayParameters) :
    Writes (buildDataobjDisplayParameters params) .displayParameters
      (· = [params.height, params.width, params.effects]) :=
  writes_behind _ ((appends_byte _).kleisli (appends_byte _)) false

lemma writes_serviceRecord (record : StkServiceRecord) : Writes (buildDataobjServiceRecord record)
    .serviceRecord (· = record.techId :: record.servId :: record.servRec) :=
  writes_behind _ ((appends_byte _).kleisli (appends_bytes _)) true

/-- The octets of an address. -/
def StkRemoteEntityAddress.value : StkRemoteEntityAddress → List UInt8
  | .ieee802 addr => 0x00 :: addr.octets
  | .irda addr => 0x01 :: addr.octets

lemma writes_remoteEntityAddress (addr : Option StkRemoteEntityAddress) :
    Writes (buildDataobjRemoteEntityAddress addr) .remoteEntityAddress fun os =>
      ∃ a, addr = some a ∧ os = a.value := by
  rcases addr with _ | addr | addr
  · exact writes_nothing
  · exact (writes_behind _ (appends_bytes _) true).imp fun _ hos => ⟨_, rfl, hos⟩
  · exact (writes_behind _ (appends_bytes _) true).imp fun _ hos => ⟨_, rfl, hos⟩

lemma writes_mmsId (id : Filled 127) :
    Writes (buildDataobjMmsId id) .mmsId fun os => id.octets.length ≠ 0 ∧ os = id.octets :=
  Writes.ite (fun _ => writes_nothing) fun hne =>
    (writes_octets .mmsId false _).imp fun _ hos => ⟨hne, hos⟩

/-- The octets of the frame that is there. -/
def frameOctets (info : StkFramesInfo) (i : ℕ) : List UInt8 :=
  info.list[i]?.elim [] fun frame => [frame.height, frame.width]

lemma appends_frame (info : StkFramesInfo) (i : ℕ) : Appends (appendFrame info i) (frameOctets info i) := by
  unfold appendFrame frameOctets
  rcases info.list[i]? with _ | frame
  · constructor
    · intro b b' _ hok
      cases hok
    · intro b b' _ hok
      cases hok
  · exact (appends_byte frame.height).kleisli (appends_byte frame.width)

lemma writes_framesInformation (info : StkFramesInfo) : Writes (buildDataobjFramesInformation info)
    .framesInfo (· = info.id :: (List.range info.len).flatMap (frameOctets info)) :=
  writes_behind _ (appends_each (appends_frame info) _) false

lemma writes_registryApplicationData (env : StkEnv) (rad : StkRegistryApplicationDataOf) :
    Writes (buildDataobjRegistryApplicationData env rad) .registryApplicationData fun os =>
      ∃ r, encodeName env rad.name = .ok r ∧ os = shortOctets rad.port ++ r.1 :: rad.type :: r.2 :=
  Writes.bind fun r hr =>
    (writes_container ((appends_short _).kleisli ((appends_byte _).kleisli ((appends_byte _).kleisli
      (appends_bytes _)))) true).imp fun _ hos => ⟨r, hr, hos⟩

/-! ## Data objects that are only written -/

lemma writes_cbsPage (page : Cbs) :
    Writes (buildDataobjCbsPage page) .cbsPage fun os => cbsEncode page = .ok os :=
  Writes.bind fun pdu hpdu => (writes_octets .cbsPage true pdu).imp fun _ hos => hos ▸ hpdu

lemma writes_gsmSmsTpdu (msg : SmsDeliver) : Writes (buildDataobjGsmSmsTpdu msg) .gsmSmsTpdu fun
    os => ∃ r, smsEncode ⟨SmsAddress.zero, .deliver msg⟩ = .ok r ∧ readOctets r.1 1 r.2 = .ok os :=
  Writes.bind fun r hr => Writes.bind fun octets hoctets =>
    (writes_octets .gsmSmsTpdu true octets).imp fun _ hos => ⟨r, hr, hos ▸ hoctets⟩

lemma writes_ussdText (text : StkUssdText) : Writes (buildDataobjUssdText text) .text fun os =>
    text.hasText = true ∧ os = if text.text.length > 0 then text.dcs :: text.text else [] :=
  Writes.ite (fun _ => writes_nothing) fun hhas =>
    (writes_container (appends_ite ((appends_byte text.dcs).kleisli (appends_bytes text.text))) true).imp
      fun _ hos => ⟨by simpa using hhas, hos⟩

lemma writes_emptyLocationInfo : Writes buildEmptyDataobjLocationInfo .locationInfo (· = []) :=
  writes_container appends_nothing false

lemma writes_helpRequest (help : Bool) : Writes (buildDataobjHelpRequest help) .helpRequest (· = []) :=
  Writes.ite (fun _ => writes_nothing) fun _ => writes_container appends_nothing false

lemma writes_networkMeasurementResults (nmr : List UInt8) :
    Writes (buildDataobjNetworkMeasurementResults nmr) .networkMeasurementResults (· = nmr) :=
  writes_container (appends_unlessEmpty nmr) false

lemma writes_ccRequestedAction (action : Option (List UInt8)) :
    Writes (buildDataobjCcRequestedAction action) .callControlRequestedAction (action = some ·) := by
  rcases action with _ | array
  · exact writes_nothing
  · exact (writes_octets .callControlRequestedAction false array).imp fun _ hos => congrArg some hos.symm

lemma writes_timerId (id : UInt8) : Writes (buildDataobjTimerId id) .timerId (· = [id]) :=
  Writes.ite (fun _ => writes_nothing) fun _ => writes_byte .timerId false id

lemma writes_atResponse (data : Option HeapString) :
    Writes (buildDataobjAtResponse data) .atResponse fun os => ∃ s, data = some s ∧ os = s.bytes.take 240 := by
  rcases data with _ | s
  · exact writes_nothing
  · exact (writes_octets .atResponse true _).imp fun _ hos => ⟨s, rfl, hos⟩

lemma writes_bcRepeat (bcr : StkBcRepeat) :
    Writes (buildDataobjBcRepeat bcr) .bcRepeatIndicator (· = [bcr.value]) :=
  Writes.ite (fun _ => writes_nothing) fun _ => writes_byte .bcRepeatIndicator true bcr.value

lemma writes_bearerDescription (bd : StkBearerDescription) :
    Writes (buildDataobjBearerDescription bd) .bearerDescription
      (· = [bd.type, bd.precedence, bd.delay, bd.reliability, bd.peak, bd.mean, bd.pdpType]) :=
  Writes.ite (fun _ => writes_nothing) fun _ =>
    writes_behind _ ((appends_byte _).kleisli ((appends_byte _).kleisli ((appends_byte _).kleisli
      ((appends_byte _).kleisli ((appends_byte _).kleisli (appends_byte _)))))) false

lemma writes_accessTechnologies (techs : List UInt8) :
    Writes (buildDataobjAccessTechnologies techs) .accessTechnology (· = techs) := by
  refine (writes_container (appends_each appends_byte techs) false).imp fun os hos => ?_
  rw [hos, List.flatMap_singleton']

lemma writes_esn (esn : UInt32) :
    Writes (buildDataobjEsn esn) .esn (· = shortOctets (esn >>> 16).toUInt16 ++ shortOctets esn.toUInt16) :=
  writes_container ((appends_short _).kleisli (appends_short _)) false

lemma writes_meid (meid : Option HeapString) : Writes (buildDataobjMeid meid) .meid fun os => ∃ s,
    meid = some s ∧ s.bytes.length = 16 ∧ os = simEncodeBcdNumber s.bytes := by
  rcases meid with _ | s
  · exact writes_nothing
  · refine Writes.ite (fun _ => writes_reject) fun hlen => ?_
    exact (writes_octets .meid false _).imp fun _ hos => ⟨s, rfl, not_not.mp hlen, hos⟩

lemma writes_mmsTransferStatus (mts : Filled 127) :
    Writes (buildDataobjMmsTransferStatus mts) .mmsTransferStatus (· = mts.octets) :=
  Writes.ite (fun _ => writes_nothing) fun _ => writes_octets .mmsTransferStatus false _

lemma writes_lastEnvelope (last : Bool) : Writes (buildDataobjLastEnvelope last) .lastEnvelope (· = []) :=
  Writes.ite (fun _ => writes_nothing) fun _ => writes_container appends_nothing false

lemma writes_broadcastNetworkInformation (bni : StkBroadcastNetworkInformation) :
    Writes (buildDataobjBroadcastNetworkInformation bni) .broadcastNetworkInfo
      (· = bni.tech :: bni.locInfo.octets) :=
  writes_behind _ (appends_bytes _) false

lemma writes_routingAreaId (rai : StkRoutingAreaInfo) : Writes (buildDataobjRoutingAreaId rai)
    .routingAreaInfo (· = simEncodeMccMnc rai.mcc rai.mnc ++ (shortOctets rai.lac ++ [rai.rac])) :=
  writes_networkCode .routingAreaInfo rai.mcc rai.mnc ((appends_short _).kleisli (appends_byte _))

lemma writes_trackingAreaId (tai : StkTrackingAreaId) : Writes (buildDataobjTrackingAreaId tai)
    .trackingAreaId (· = simEncodeMccMnc tai.mcc tai.mnc ++ shortOctets tai.tac) :=
  writes_networkCode .trackingAreaId tai.mcc tai.mnc (appends_short _)

end Phonelets.Stk
