import Phonelets.Stk.Builders

/-! # Envelopes

`stk_pdu_from_envelope`. The unions of `struct stk_envelope` are records here: an envelope
reads the member of its type.
-/

namespace Phonelets.Stk

open Phonelets.Sim (BerTlvBuilder BerState berTlvBuilderInit)
open Phonelets.Sms (SmsDeliver Cbs)
open StkTlvBuilder (container appendByte)
open Outcome (orReject orFault)

/-! ## Data model -/

inductive StkCallControlType where
  | callSetup | supplementaryService | ussdOp | pdpCtxActivation | epsPdnConnectionActivation

structure StkEnvelopeCallControl where
  type : StkCallControlType
  address : StkAddressOf
  ssString : StkAddressOf
  ussdString : StkUssdString
  pdpCtxParams : List UInt8
  epsPdnParams : List UInt8
  ccp1 : Filled 16
  subaddress : StkSubaddress
  location : StkLocationInfo
  ccp2 : Filled 16
  alphaId : Option HeapString
  bcRepeat : StkBcRepeat

/-- `struct stk_envelope_event_download`. Of the structure `access_technology_change` only
its first octet is read. -/
structure StkEnvelopeEventDownload where
  type : UInt8
  transactionId : UInt8
  callerAddress : StkAddressOf
  callerSubaddress : StkSubaddress
  transactionIds : Filled 127
  cause : StkCause
  locationState : UInt8
  locationInfo : StkLocationInfo
  cardReaderStatus : StkReaderStatus
  languageSelection : CString 3
  browserTerminationCause : UInt8
  channel : StkChannel
  channelDataLen : UInt16
  bearerDesc : StkBearerDescription
  address : Option StkOtherAddress
  accessTechnologyChange : UInt8
  displayParamsChanged : StkDisplayParameters
  serviceRecord : StkServiceRecord
  remoteAddr : Option StkRemoteEntityAddress
  transportLevel : StkUiccTeInterface
  transportAddr : Option StkOtherAddress
  networkSearchModeChange : UInt8
  browsingStatus : List UInt8
  framesInformationChange : StkFramesInfo
  iWlanAccessStatus : UInt8
  rejectionLocation : StkLocationInfo
  rai : StkRoutingAreaInfo
  tai : StkTrackingAreaId
  accessTech : UInt8
  updateAttach : UInt8
  rejectionCause : UInt8

/-- `struct stk_envelope_terminal_apps`, its list with `count` entries. -/
structure StkEnvelopeTerminalApps where
  list : List StkRegistryApplicationDataOf
  last : Bool

structure StkEnvelope where
  type : UInt8
  src : UInt8
  dst : UInt8
  smsPpAddress : StkAddressOf
  smsPpMessage : SmsDeliver
  cbsPage : Cbs
  itemId : UInt8
  helpRequest : Bool
  callControl : StkEnvelopeCallControl
  scAddress : StkAddressOf
  destAddress : StkAddressOf
  smsMoLocation : StkLocationInfo
  eventDownload : StkEnvelopeEventDownload
  timerId : UInt8
  timerValue : StkTimerValue
  ussdString : StkUssdString
  transferFile : StkFile
  mmsId : Filled 127
  transferStatus : Filled 127
  mmsMsg : List UInt8
  mmsLast : Bool
  terminalApps : StkEnvelopeTerminalApps

/-! ## Functions -/

def buildEnvelopeDataobjDeviceIds (envelope : StkEnvelope) : DataobjWriter := fun cr =>
  container cr .deviceIdentities false (appendByte envelope.src >=> appendByte envelope.dst)

/-- The object of the type of the call. -/
def buildCallControlObject (cc : StkEnvelopeCallControl) : StkTlvBuilder → Outcome StkTlvBuilder :=
  match cc.type with
  | .callSetup => buildDataobj [buildDataobjAddress cc.address true]
  | .supplementaryService => buildDataobj [buildDataobjSsString cc.ssString true]
  | .ussdOp => buildDataobj [buildDataobjUssdString cc.ussdString true]
  | .pdpCtxActivation => buildDataobj [buildDataobjPdpContextParams cc.pdpCtxParams true]
  | .epsPdnConnectionActivation => buildDataobj [buildDataobjEpsPdnConnParams cc.epsPdnParams true]

def buildEnvelopeCallControl (env : StkEnv) (envelope : StkEnvelope) :
    StkTlvBuilder → Outcome StkTlvBuilder :=
  let cc := envelope.callControl
  buildDataobj [buildEnvelopeDataobjDeviceIds envelope true] >=>
    buildCallControlObject cc >=>
    buildDataobj [buildDataobjCcp cc.ccp1 false, buildDataobjSubaddress cc.subaddress false,
      buildDataobjLocationInfo cc.location false, buildDataobjCcp cc.ccp2 false,
      buildDataobjAlphaId env cc.alphaId false, buildDataobjBcRepeat cc.bcRepeat false]

/-- The objects of the type of the event. -/
def buildEventObjects (env : StkEnv) (evt : StkEnvelopeEventDownload) :
    StkTlvBuilder → Outcome StkTlvBuilder :=
  match evt.type.toNat with
  | 0x00 =>
    buildDataobj [buildDataobjTransactionId evt.transactionId true,
      buildDataobjAddress evt.callerAddress false, buildDataobjSubaddress evt.callerSubaddress false]
  | 0x01 => buildDataobj [buildDataobjTransactionId evt.transactionId true]
  | 0x02 =>
    buildDataobj [buildDataobjTransactionIds evt.transactionIds true,
      buildDataobjCause evt.cause false]
  | 0x03 =>
    buildDataobj [buildDataobjLocationStatus evt.locationState true,
      buildDataobjLocationInfo evt.locationInfo false]
  | 0x04 | 0x05 => .ok
  | 0x06 => buildDataobj [buildDataobjCardReaderStatus evt.cardReaderStatus true]
  | 0x07 =>
    buildDataobj [buildDataobjLanguage env
      (some ⟨evt.languageSelection.bytes, evt.languageSelection.no_nul⟩) true]
  | 0x08 => buildDataobj [buildDataobjBrowserTerminationCause evt.browserTerminationCause true]
  | 0x09 =>
    buildDataobj [buildDataobjChannelStatus evt.channel true,
      buildDataobjChannelDataLength evt.channelDataLen true]
  | 0x0a =>
    buildDataobj [buildDataobjChannelStatus evt.channel true,
      buildDataobjBearerDescription evt.bearerDesc true, buildDataobjOtherAddress evt.address true]
  | 0x0b => buildDataobj [buildDataobjAccessTechnology evt.accessTechnologyChange true]
  | 0x0c => buildDataobj [buildDataobjDisplayParameters evt.displayParamsChanged true]
  | 0x0d =>
    buildDataobj [buildDataobjServiceRecord evt.serviceRecord true,
      buildDataobjRemoteEntityAddress evt.remoteAddr false,
      buildDataobjUiccTeInterface evt.transportLevel false,
      buildDataobjOtherAddress evt.transportAddr false]
  | 0x0e => buildDataobj [buildDataobjNetworkSearchMode evt.networkSearchModeChange true]
  | 0x0f => buildDataobj [buildDataobjBrowsingStatus evt.browsingStatus true]
  | 0x10 => buildDataobj [buildDataobjFramesInformation evt.framesInformationChange true]
  | 0x11 => buildDataobj [buildDataobjIWlanAccessStatus evt.iWlanAccessStatus true]
  | 0x12 =>
    buildDataobj [buildDataobjLocationInfo evt.rejectionLocation false,
      buildDataobjRoutingAreaId evt.rai false, buildDataobjTrackingAreaId evt.tai false,
      buildDataobjAccessTechnology evt.accessTech true,
      buildDataobjUpdateAttachType evt.updateAttach true,
      buildDataobjRejectionCauseCode evt.rejectionCause true]
  | 0x13 => .ok
  | _ => fun _ => .reject

def buildEnvelopeEventDownload (env : StkEnv) (envelope : StkEnvelope) :
    StkTlvBuilder → Outcome StkTlvBuilder :=
  let evt := envelope.eventDownload
  buildDataobj [buildDataobjEventType evt.type true, buildEnvelopeDataobjDeviceIds envelope true] >=>
    buildEventObjects env evt

def buildEnvelopeTerminalApps (env : StkEnv) (envelope : StkEnvelope) :
    StkTlvBuilder → Outcome StkTlvBuilder :=
  let ta := envelope.terminalApps
  buildDataobj [buildEnvelopeDataobjDeviceIds envelope true] >=>
    appendEach (fun rad => buildDataobj [buildDataobjRegistryApplicationData env rad false]) ta.list >=>
    buildDataobj [buildDataobjLastEnvelope ta.last false]

/-- The `switch` over the type of the envelope. -/
def buildEnvelopeData (env : StkEnv) (envelope : StkEnvelope) : StkTlvBuilder → Outcome StkTlvBuilder :=
  match envelope.type.toNat with
  | 0xd1 =>
    buildDataobj [buildEnvelopeDataobjDeviceIds envelope true,
      buildDataobjAddress envelope.smsPpAddress false, buildDataobjGsmSmsTpdu envelope.smsPpMessage true]
  | 0xd2 =>
    buildDataobj [buildEnvelopeDataobjDeviceIds envelope true, buildDataobjCbsPage envelope.cbsPage true]
  | 0xd3 =>
    buildDataobj [buildEnvelopeDataobjDeviceIds envelope true, buildDataobjItemId envelope.itemId true,
      buildDataobjHelpRequest envelope.helpRequest false]
  | 0xd4 => buildEnvelopeCallControl env envelope
  | 0xd5 =>
    buildDataobj [buildEnvelopeDataobjDeviceIds envelope false,
      buildDataobjAddress envelope.scAddress false, buildDataobjAddress envelope.destAddress false,
      buildDataobjLocationInfo envelope.smsMoLocation false]
  | 0xd6 => buildEnvelopeEventDownload env envelope
  | 0xd7 =>
    buildDataobj [buildEnvelopeDataobjDeviceIds envelope true, buildDataobjTimerId envelope.timerId true,
      buildDataobjTimerValue envelope.timerValue true]
  | 0xd9 =>
    buildDataobj [buildEnvelopeDataobjDeviceIds envelope true,
      buildDataobjUssdString envelope.ussdString true]
  | 0xda =>
    buildDataobj [buildEnvelopeDataobjDeviceIds envelope true, buildDataobjFile envelope.transferFile true,
      buildDataobjMmsId envelope.mmsId false,
      buildDataobjMmsTransferStatus envelope.transferStatus false]
  | 0xdb =>
    buildDataobj [buildEnvelopeDataobjDeviceIds envelope true,
      buildDataobjMmsNotification envelope.mmsMsg true, buildDataobjLastEnvelope envelope.mmsLast false]
  | 0xdc => buildEnvelopeTerminalApps env envelope
  | _ => fun _ => .reject

/-- The BER-TLV that a builder was begun inside of. -/
def StkTlvBuilder.outer (b : StkTlvBuilder) : Option BerState :=
  match b.ctlv.parents with
  | [] => none
  | p :: ps => some ⟨p, ps, b.ctlv.mem⟩

/-- `stk_pdu_from_envelope`, with `buffer` the address of its 512 octets and `uninit` what was
in `btlv`: the builder when it returns, and the octets of the PDU. -/
def stkPduFromEnvelope (env : StkEnv) (uninit : BerTlvBuilder) (buffer : ℕ) (mem : Memory)
    (envelope : StkEnvelope) : Outcome (StkTlvBuilder × List UInt8) := do
  let btlv ← orReject (berTlvBuilderInit uninit buffer 512)
  let builder ← orReject (StkTlvBuilder.recurse ⟨btlv, [], mem⟩ envelope.type)
  let builder ← buildEnvelopeData env envelope builder
  let btlv ← orFault builder.outer
  let (mem, pdu, len) := btlv.optimize
  return (builder, mem.slice pdu len)

end Phonelets.Stk
