import Phonelets.Sim.SimString
import Phonelets.Sms.Cbs
import Phonelets.Sms.Tpdu
import Phonelets.Stk.TlvBuilder

/-! # Builders of data objects

A `dataobj_writer` takes a value and appends its data object, or nothing if the value is not
there. An enumeration that is written with `stk_tlv_builder_append_byte` is its octet.
-/

namespace Phonelets.Stk

open Phonelets.Sim (utf8ToSimString)
open Phonelets.Sms (SmsScts SmsDeliver SmsAddress Cbs cbsEncode smsEncode smsEncodeScts readOctets)
open StkTlvBuilder (container appendByte appendShort appendBytes appendGsmPacked appendText)

/-! ## Values that are only written -/

structure StkAnswerText where
  text : Option HeapString
  packed : Bool
  yesno : Bool

structure StkUssdText where
  hasText : Bool
  text : List UInt8
  dcs : UInt8

structure StkReaderStatus where
  id : UInt8
  removable : Bool
  present : Bool
  id1Size : Bool
  cardPresent : Bool
  cardPowered : Bool

inductive StkChannelStatus where
  | packetDataServiceNotActivated | packetDataServiceActivated
  | tcpInClosedState | tcpInListenState | tcpInEstablishedState | linkDropped

structure StkChannel where
  id : UInt8
  status : StkChannelStatus

/-- `struct stk_address` with a number that may be `NULL`. -/
structure StkAddressOf where
  tonNpi : UInt8
  number : Option HeapString

/-- `struct stk_registry_application_data` with its name on the heap. -/
structure StkRegistryApplicationDataOf where
  port : UInt16
  type : UInt8
  name : HeapString

structure StkRoutingAreaInfo where
  mnc : CString 4
  mcc : CString 4
  lac : UInt16
  rac : UInt8

structure StkTrackingAreaId where
  mnc : CString 4
  mcc : CString 4
  tac : UInt16

/-! ## Semi-octets -/

/-- `to_semi_oct` of `simutil.c`, in an octet. -/
def toSemiOct (c : UInt8) : ℕ :=
  if 0x30 ≤ c ∧ c ≤ 0x39 then c.toNat - 0x30
  else if c = 0x2a then 10
  else if c = 0x23 then 11
  else if c = 0x43 ∨ c = 0x63 then 12
  else if c = 0x3f then 13
  else if c = 0x45 ∨ c = 0x65 then 14
  else 0xff

/-- Two semi-octets, the first one in the lower half. -/
def semiPair (low high : ℕ) : UInt8 := UInt8.ofNat (low ||| high <<< 4)

def simEncodeBcdNumber : List UInt8 → List UInt8
  | [] => []
  | [a] => [UInt8.ofNat (toSemiOct a ||| 0xf0)]
  | a :: b :: l => semiPair (toSemiOct a) (toSemiOct b) :: simEncodeBcdNumber l

/-- The third character of a code, which may not have one. -/
def thirdDigit (c : UInt8) : ℕ := if c ≠ 0 then toSemiOct c else 0xf

/-- `sim_encode_mcc_mnc`; the octets behind a shorter string are zero. -/
def simEncodeMccMnc (mcc mnc : CString 4) : List UInt8 :=
  let char (s : CString 4) (i : ℕ) := s.bytes.getD i 0
  [semiPair (toSemiOct (char mcc 0)) (toSemiOct (char mcc 1)),
    semiPair (thirdDigit (char mcc 2)) (thirdDigit (char mnc 2)),
    semiPair (toSemiOct (char mnc 0)) (toSemiOct (char mnc 1))]

/-- A number in the array `number` of 128 octets. -/
def encodedNumber (number : HeapString) : Outcome (List UInt8) :=
  let octets := simEncodeBcdNumber number.bytes
  if octets.length ≤ 128 then .ok octets else .fault

def toBcd (bin : UInt8) : UInt8 :=
  UInt8.ofNat ((bin.toNat / 10 &&& 0xf) ||| (bin.toNat % 10) <<< 4)

/-! ## Builders -/

/-- A `dataobj_writer` with its data. -/
abbrev DataobjWriter : Type := Bool → StkTlvBuilder → Outcome StkTlvBuilder

/-- Each of a list is appended. -/
def appendEach {α : Type} (append : α → StkTlvBuilder → Outcome StkTlvBuilder) (l : List α)
    (b : StkTlvBuilder) : Outcome StkTlvBuilder :=
  l.foldlM (fun b a => append a b) b

/-- A telephone number or a supplementary service. -/
def buildBcdString (type : DataObjectType) (addr : StkAddressOf) : DataobjWriter := fun cr b =>
  match addr.number with
  | none => .ok b
  | some number => do
      let octets ← encodedNumber number
      container cr type false (appendByte addr.tonNpi >=> appendBytes octets) b

def buildByte (type : DataObjectType) (relocatable : Bool) (byte : UInt8) : DataobjWriter :=
  fun cr => container cr type relocatable (appendByte byte)

/-- An array of octets. -/
def buildOctets (type : DataObjectType) (relocatable : Bool) (octets : List UInt8) : DataobjWriter :=
  fun cr => container cr type relocatable (appendBytes octets)

/-- Parameters of up to 127 octets. -/
def buildParams (type : DataObjectType) (params : List UInt8) : DataobjWriter := fun cr b =>
  if params.length < 1 then .ok b
  else if params.length > 0x7f then .reject
  else buildOctets type false params cr b

/-- A network code, with what comes behind it. -/
def buildNetworkCode (type : DataObjectType) (mcc mnc : CString 4)
    (rest : StkTlvBuilder → Outcome StkTlvBuilder) : DataobjWriter := fun cr b =>
  if mcc.bytes = [] then .ok b
  else container cr type false (appendBytes (simEncodeMccMnc mcc mnc) >=> rest) b

def buildDataobjAddress (addr : StkAddressOf) : DataobjWriter := buildBcdString .address addr

def buildDataobjAlphaId (env : StkEnv) (data : Option HeapString) : DataobjWriter := fun cr b =>
  match data with
  | none => .ok b
  | some s =>
    if s.bytes.length = 0 then container cr .alphaId false .ok b
    else do
      let (string, len) ← utf8ToSimString env.conv s.bytes (-1)
      container cr .alphaId true (appendBytes (string.take len.toNat)) b

def buildDataobjSubaddress (sa : StkSubaddress) : DataobjWriter := fun cr b =>
  if !sa.hasSubaddr then .ok b else buildOctets .subaddress false sa.subaddr.octets cr b

def buildDataobjCcp (ccp : Filled 16) : DataobjWriter := fun cr b =>
  if ccp.octets.length = 0 then .ok b
  else
    container cr .ccp false
      (appendByte (UInt8.ofNat ccp.octets.length) >=> appendBytes ccp.octets) b

def buildDataobjCbsPage (page : Cbs) : DataobjWriter := fun cr b => do
  let pdu ← cbsEncode page
  buildOctets .cbsPage true pdu cr b

def buildDataobjItemId (itemId : UInt8) : DataobjWriter := fun cr b =>
  if itemId = 0 then .ok b else buildByte .itemId false itemId cr b

/-- The octet of the enumeration. -/
def StkDurationType.octet : StkDurationType → UInt8
  | .minutes => 0x00
  | .seconds => 0x01
  | .secondTenths => 0x02

def buildDataobjDuration (duration : StkDuration) : DataobjWriter := fun cr b =>
  if duration.interval = 0x00 then .ok b
  else container cr .duration false (appendByte duration.unit.octet >=> appendByte duration.interval) b

def buildDataobjResult (result : StkResult) : DataobjWriter := fun cr =>
  container cr .result false
    (appendByte result.type >=>
      fun b => if result.additional.length > 0 then appendBytes result.additional b else .ok b)

def buildDataobjGsmSmsTpdu (msg : SmsDeliver) : DataobjWriter := fun cr b => do
  let (tpdu, tpduLen) ← smsEncode ⟨SmsAddress.zero, .deliver msg⟩
  let octets ← readOctets tpdu 1 tpduLen
  buildOctets .gsmSmsTpdu true octets cr b

def buildDataobjSsString (addr : StkAddressOf) : DataobjWriter := buildBcdString .ssString addr

/-- The value of a text that is there, or of an answer. -/
def appendAnswer (env : StkEnv) (text : StkAnswerText) : StkTlvBuilder → Outcome StkTlvBuilder :=
  if text.yesno then appendByte 0x04 >=> appendByte (if text.text.isSome then 0x01 else 0x00)
  else
    match text.text with
    | none => .ok
    | some s => if text.packed then appendGsmPacked env s.bytes else appendText env s.bytes

def buildDataobjText (env : StkEnv) (text : StkAnswerText) : DataobjWriter := fun cr b =>
  if text.text = none ∧ !text.yesno then .ok b
  else container cr .text true (appendAnswer env text) b

def buildDataobjUssdText (text : StkUssdText) : DataobjWriter := fun cr b =>
  if !text.hasText then .ok b
  else
    container cr .text true
      (fun b => if text.text.length > 0 then (appendByte text.dcs >=> appendBytes text.text) b else .ok b) b

def buildDataobjUssdString (ussd : StkUssdString) : DataobjWriter := fun cr =>
  container cr .ussdString false (appendByte ussd.dcs >=> appendBytes ussd.string.octets)

def buildDataobjFileList (l : List StkFile) : DataobjWriter := fun cr =>
  container cr .fileList true
    (appendByte (UInt8.ofNat l.length) >=> appendEach (fun file => appendBytes file.octets) l)

def buildDataobjFile (file : StkFile) : DataobjWriter := buildDataobjFileList [file]

/-- An `unsigned short` that is written if its flag is set. -/
def appendShortIf (has : Bool) (num : UInt16) (b : StkTlvBuilder) : Outcome StkTlvBuilder :=
  if has then appendShort num b else .ok b

def buildDataobjLocationInfo (li : StkLocationInfo) : DataobjWriter :=
  buildNetworkCode .locationInfo li.mcc li.mnc
    (appendShort li.lacTac >=> appendShortIf li.hasCi li.ci >=> appendShortIf li.hasExtCi li.extCi >=>
      appendShortIf li.hasEutranCi (li.eutranCi >>> 12).toUInt16 >=>
      appendShortIf li.hasEutranCi (li.eutranCi <<< 4 ||| 0xf).toUInt16)

def buildEmptyDataobjLocationInfo : DataobjWriter := fun cr => container cr .locationInfo false .ok

def buildDataobjImei (imei : Option HeapString) : DataobjWriter := fun cr b =>
  match imei with
  | none => .ok b
  | some imei =>
    if imei.bytes.length ≠ 15 then .reject
    else
      buildOctets .imei false
        (simEncodeBcdNumber (0x2a :: imei.bytes.take 1) ++ simEncodeBcdNumber (imei.bytes.drop 1)) cr b

def buildDataobjHelpRequest (help : Bool) : DataobjWriter := fun cr b =>
  if !help then .ok b else container cr .helpRequest false .ok b

def buildDataobjNetworkMeasurementResults (nmr : List UInt8) : DataobjWriter := fun cr =>
  container cr .networkMeasurementResults false
    (fun b => if nmr.length > 0 then appendBytes nmr b else .ok b)

def buildDataobjEventList (list : Filled 21) : DataobjWriter := buildOctets .eventList false list.octets

def buildDataobjEventType (type : UInt8) : DataobjWriter := 
  buildDataobjEventList ⟨[type], show 1 ≤ 21 by decide⟩

def buildDataobjCause (cause : StkCause) : DataobjWriter := fun cr b =>
  if !cause.hasCause then .ok b else buildOctets .cause false cause.cause.octets cr b

def buildDataobjLocationStatus (state : UInt8) : DataobjWriter := buildByte .locationStatus false state

def buildDataobjTransactionIds (id : Filled 127) : DataobjWriter :=
  buildOctets .transactionId false id.octets

def buildDataobjTransactionId (id : UInt8) : DataobjWriter :=
  buildDataobjTransactionIds ⟨[id], show 1 ≤ 127 by decide⟩

/-- The octet `i`: the end of one channel and the beginning of the next. -/
def bcchOctet (channels : List UInt16) (i : ℕ) : UInt8 :=
  let pos := (i * 8 + 7) / 10
  let shift := pos * 10 + 10 - i * 8 - 8
  let first := if pos < channels.length then (channels.getD pos 0).toNat >>> shift else 0
  let second := if shift > 2 then (channels.getD (pos - 1) 0).toNat <<< (10 - shift) else 0
  UInt8.ofNat (first ||| second)

def buildDataobjBcchChannelList (list : StkBcchChannelList) : DataobjWriter := fun cr b =>
  if !list.hasList then .ok b
  else
    container cr .bcchChannelList true
      (appendEach (fun i => appendByte (bcchOctet list.channels i))
        (List.range ((list.channels.length * 10 + 7) / 8))) b

/-- The array may be `NULL`. -/
def buildDataobjCcRequestedAction (action : Option (List UInt8)) : DataobjWriter := fun cr b =>
  match action with
  | none => .ok b
  | some array => buildOctets .callControlRequestedAction false array cr b

def buildDataobjCardReaderStatus (status : StkReaderStatus) : DataobjWriter :=
  let bit (flag : Bool) (n : ℕ) := flag.toNat <<< n
  buildByte .cardReaderStatus false
    (UInt8.ofNat (status.id.toNat ||| bit status.removable 3 ||| bit status.present 4 |||
      bit status.id1Size 5 ||| bit status.cardPresent 6 ||| bit status.cardPowered 7))

def buildDataobjTimerId (id : UInt8) : DataobjWriter := fun cr b =>
  if id = 0 then .ok b else buildByte .timerId false id cr b

def buildDataobjTimerValue (value : StkTimerValue) : DataobjWriter := fun cr b =>
  if !value.hasValue then .ok b
  else
    container cr .timerValue false
      (appendByte (toBcd value.hour) >=> appendByte (toBcd value.minute) >=>
        appendByte (toBcd value.second)) b

def buildDataobjDatetimeTimezone (scts : SmsScts) : DataobjWriter := fun cr b =>
  if scts.month = 0 ∧ scts.day = 0 then .ok b
  else do
    let value ← smsEncodeScts scts
    buildOctets .datetimeTimezone false value cr b

def buildDataobjAtResponse (data : Option HeapString) : DataobjWriter := fun cr b =>
  match data with
  | none => .ok b
  -- a response that is too long is cut
  | some s => buildOctets .atResponse true (s.bytes.take 240) cr b

def buildDataobjBcRepeat (bcr : StkBcRepeat) : DataobjWriter := fun cr b =>
  if !bcr.hasBcRepeat then .ok b else buildByte .bcRepeatIndicator true bcr.value cr b

/-- The two octets may be past the end of the string. -/
def buildDataobjLanguage (env : StkEnv) (data : Option HeapString) : DataobjWriter := fun cr b =>
  match data with
  | none => .ok b
  | some s => buildOctets .language false (env.readPast (s.bytes ++ [0]) 2) cr b

def buildDataobjTimingAdvance (tadv : StkTimingAdvance) : DataobjWriter := fun cr =>
  container cr .timingAdvance false (appendByte tadv.status >=> appendByte tadv.advance)

def buildDataobjBrowserTerminationCause (cause : UInt8) : DataobjWriter :=
  buildByte .browserTerminationCause false cause

def buildDataobjBearerDescription (bd : StkBearerDescription) : DataobjWriter := fun cr b =>
  -- `STK_BEARER_TYPE_GPRS_UTRAN`
  if bd.type ≠ 0x02 then .ok b
  else
    container cr .bearerDescription false
      (appendByte bd.type >=> appendByte bd.precedence >=> appendByte bd.delay >=>
        appendByte bd.reliability >=> appendByte bd.peak >=> appendByte bd.mean >=>
        appendByte bd.pdpType) b

def buildDataobjChannelData (cd : List UInt8) : DataobjWriter := buildOctets .channelData true cd

def buildDataobjChannelDataLength (length : UInt16) : DataobjWriter :=
  buildByte .channelDataLength false (UInt8.ofNat (min length.toNat 255))

def buildDataobjBufferSize (bufSize : UInt16) : DataobjWriter := fun cr =>
  container cr .bufferSize false (appendShort bufSize)

/-- The two octets of a status. -/
def channelStatusOctets (channel : StkChannel) : List UInt8 :=
  match channel.status with
  | .packetDataServiceNotActivated | .tcpInClosedState => [channel.id, 0x00]
  | .packetDataServiceActivated | .tcpInEstablishedState => [channel.id ||| 0x80, 0x00]
  | .tcpInListenState => [channel.id ||| 0x40, 0x00]
  | .linkDropped => [channel.id, 0x05]

def buildDataobjChannelStatus (channel : StkChannel) : DataobjWriter :=
  buildOctets .channelStatus false (channelStatusOctets channel)

/-- The address may have the type 0, which is none of the enumeration. -/
def buildDataobjOtherAddress (addr : Option StkOtherAddress) : DataobjWriter := fun cr b =>
  match addr with
  | none => .ok b
  | some .auto => container cr .otherAddress false .ok b
  | some (.ipv4 addr) =>
    container cr .otherAddress false (appendByte 0x21 >=> appendBytes addr.octets) b
  | some (.ipv6 addr) =>
    container cr .otherAddress false (appendByte 0x57 >=> appendBytes addr.octets) b

def buildDataobjUiccTeInterface (iface : StkUiccTeInterface) : DataobjWriter := fun cr b =>
  if iface.protocol = 0 ∧ iface.port = 0 then .ok b
  else container cr .uiccTeInterface false (appendByte iface.protocol >=> appendShort iface.port) b

def buildDataobjAccessTechnologies (techs : List UInt8) : DataobjWriter := fun cr =>
  container cr .accessTechnology false (appendEach appendByte techs)

def buildDataobjAccessTechnology (tech : UInt8) : DataobjWriter := buildDataobjAccessTechnologies [tech]

def buildDataobjDisplayParameters (params : StkDisplayParameters) : DataobjWriter := fun cr =>
  container cr .displayParameters false
    (appendByte params.height >=> appendByte params.width >=> appendByte params.effects)

def buildDataobjServiceRecord (rec : StkServiceRecord) : DataobjWriter := fun cr =>
  container cr .serviceRecord true
    (appendByte rec.techId >=> appendByte rec.servId >=> appendBytes rec.servRec)

def buildDataobjRemoteEntityAddress (addr : Option StkRemoteEntityAddress) : DataobjWriter := fun cr b =>
  match addr with
  | none => .ok b
  | some (.ieee802 addr) =>
    container cr .remoteEntityAddress true (appendByte 0x00 >=> appendBytes addr.octets) b
  | some (.irda addr) =>
    container cr .remoteEntityAddress true (appendByte 0x01 >=> appendBytes addr.octets) b

def buildDataobjEsn (esn : UInt32) : DataobjWriter := fun cr =>
  container cr .esn false (appendShort (esn >>> 16).toUInt16 >=> appendShort esn.toUInt16)

def buildDataobjPdpContextParams (params : List UInt8) : DataobjWriter :=
  buildParams .pdpActivationParameter params

def buildDataobjImeisv (imeisv : Option HeapString) : DataobjWriter := fun cr b =>
  match imeisv with
  | none => .ok b
  | some imeisv =>
    if imeisv.bytes.length ≠ 16 then .reject
    else
      buildOctets .imeisv false
        (simEncodeBcdNumber (0x33 :: imeisv.bytes.take 1) ++ simEncodeBcdNumber (imeisv.bytes.drop 1)) cr b

def buildDataobjNetworkSearchMode (mode : UInt8) : DataobjWriter := buildByte .networkSearchMode false mode

def buildDataobjBatteryState (state : UInt8) : DataobjWriter := buildByte .batteryState false state

def buildDataobjBrowsingStatus (bs : List UInt8) : DataobjWriter := buildOctets .browsingStatus true bs

/-- The turn `i` of the loop over the frames, of which `list` has those that are there. -/
def appendFrame (info : StkFramesInfo) (i : ℕ) (b : StkTlvBuilder) : Outcome StkTlvBuilder := do
  let frame ← Outcome.orFault info.list[i]?
  (appendByte frame.height >=> appendByte frame.width) b

def buildDataobjFramesInformation (info : StkFramesInfo) : DataobjWriter := fun cr =>
  container cr .framesInfo false
    (appendByte info.id >=> appendEach (appendFrame info) (List.range info.len))

def buildDataobjMeid (meid : Option HeapString) : DataobjWriter := fun cr b =>
  match meid with
  | none => .ok b
  | some meid =>
    if meid.bytes.length ≠ 16 then .reject
    else buildOctets .meid false (simEncodeBcdNumber meid.bytes) cr b

def buildDataobjMmsId (id : Filled 127) : DataobjWriter := fun cr b =>
  if id.octets.length = 0 then .ok b else buildOctets .mmsId false id.octets cr b

def buildDataobjMmsTransferStatus (mts : Filled 127) : DataobjWriter := fun cr b =>
  if mts.octets.length = 0 then .ok b else buildOctets .mmsTransferStatus false mts.octets cr b

def buildDataobjIWlanAccessStatus (status : UInt8) : DataobjWriter :=
  buildByte .iWlanAccessStatus false status

def buildDataobjMmsNotification (msg : List UInt8) : DataobjWriter := buildOctets .mmsNotification true msg

def buildDataobjLastEnvelope (last : Bool) : DataobjWriter := fun cr b =>
  if !last then .ok b else container cr .lastEnvelope false .ok b

/-- The coding scheme and the octets of a name. -/
def encodeName (env : StkEnv) (name : HeapString) : Outcome (UInt8 × List UInt8) :=
  match Gsm.convertUtf8ToGsm name.bytes with
  | some gsm => .ok (0x04, gsm)
  | none => do
      let ucs2 ← Outcome.orReject (env.toUcs2 name.bytes)
      return (0x08, ucs2)

def buildDataobjRegistryApplicationData (env : StkEnv) (rad : StkRegistryApplicationDataOf) :
    DataobjWriter := fun cr b => do
  let (dcs, name) ← encodeName env rad.name
  container cr .registryApplicationData true
    (appendShort rad.port >=> appendByte dcs >=> appendByte rad.type >=> appendBytes name) b

def buildDataobjBroadcastNetworkInformation (bni : StkBroadcastNetworkInformation) : DataobjWriter :=
  fun cr => container cr .broadcastNetworkInfo false (appendByte bni.tech >=> appendBytes bni.locInfo.octets)

def buildDataobjRoutingAreaId (rai : StkRoutingAreaInfo) : DataobjWriter :=
  buildNetworkCode .routingAreaInfo rai.mcc rai.mnc (appendShort rai.lac >=> appendByte rai.rac)

def buildDataobjUpdateAttachType (type : UInt8) : DataobjWriter := buildByte .updateAttachType false type

def buildDataobjRejectionCauseCode (cause : UInt8) : DataobjWriter :=
  buildByte .rejectionCauseCode false cause

def buildDataobjEpsPdnConnParams (params : List UInt8) : DataobjWriter :=
  buildParams .epsPdnConnActivationReq params

def buildDataobjTrackingAreaId (tai : StkTrackingAreaId) : DataobjWriter :=
  buildNetworkCode .trackingAreaId tai.mcc tai.mnc (appendShort tai.tac)

/-- `build_dataobj`: each writer with its flags and its data. -/
def buildDataobj (objects : List (StkTlvBuilder → Outcome StkTlvBuilder)) (b : StkTlvBuilder) :
    Outcome StkTlvBuilder :=
  objects.foldlM (fun b build => build b) b

end Phonelets.Stk
