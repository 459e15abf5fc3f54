import Phonelets.Stk.Builders

/-! # Terminal responses

`stk_pdu_from_response`. The unions of `struct stk_response` are records here: a response
reads the member of its type.
-/

namespace Phonelets.Stk

open Phonelets.Sms (SmsScts)
open StkTlvBuilder (container appendByte)
open Outcome (orFault)

/-! ## Data model -/

structure StkResponseGetInkey where
  text : StkAnswerText
  duration : StkDuration

structure StkResponseSetUpCall where
  ccRequestedAction : Option (List UInt8)
  ccModified : Bool
  result : StkResult

structure StkNetworkMeasurementResults where
  nmr : List UInt8
  bcchChList : StkBcchChannelList

structure StkResponseLocalInfo where
  location : StkLocationInfo
  imei : Option HeapString
  nmr : StkNetworkMeasurementResults
  datetime : SmsScts
  language : Option HeapString
  batteryCharge : UInt8
  accessTechnology : UInt8
  tadv : StkTimingAdvance
  esn : UInt32
  imeisv : Option HeapString
  searchMode : UInt8
  meid : Option HeapString
  broadcastNetworkInfo : StkBroadcastNetworkInformation
  accessTechnologies : List UInt8
  locationInfosTechs : List UInt8
  locations : List StkLocationInfo
  nmrsTechs : List UInt8
  nmrs : List StkNetworkMeasurementResults

structure StkResponseTimerMgmt where
  id : UInt8
  value : StkTimerValue

structure StkResponseOpenChannel where
  channel : StkChannel
  bearerDesc : StkBearerDescription
  bufSize : UInt16

structure StkResponseReceiveData where
  rxData : List UInt8
  rxRemaining : UInt16

structure StkResponse where
  number : UInt8
  type : UInt8
  qualifier : UInt8
  src : UInt8
  dst : UInt8
  result : StkResult
  getInkey : StkResponseGetInkey
  getInput : StkAnswerText
  pollInterval : StkDuration
  selectItem : UInt8
  setUpCall : StkResponseSetUpCall
  provideLocalInfo : StkResponseLocalInfo
  timerMgmt : StkResponseTimerMgmt
  runAtCommand : Option HeapString
  sendUssd : StkUssdText
  openChannel : StkResponseOpenChannel
  receiveData : StkResponseReceiveData
  sendData : UInt16
  channelStatus : StkChannel

/-! ## Functions -/

def buildSetupCall (response : StkResponse) : StkTlvBuilder → Outcome StkTlvBuilder :=
  let call := response.setUpCall
  if call.ccModified then
    buildDataobj [buildDataobjCcRequestedAction call.ccRequestedAction true,
      buildDataobjResult call.result true]
  else buildDataobj [buildDataobjCcRequestedAction call.ccRequestedAction true]

/-- The turn `i` of the loop over the locations. -/
def buildLocationAt (info : StkResponseLocalInfo) (i : ℕ) (b : StkTlvBuilder) : Outcome StkTlvBuilder := do
  let location ← orFault info.locations[i]?
  let builder := if location.mcc.bytes = [] then buildEmptyDataobjLocationInfo else
    buildDataobjLocationInfo location
  buildDataobj [builder false] b

/-- The turn `i` of the loop over the measurement results. -/
def buildNmrAt (info : StkResponseLocalInfo) (i : ℕ) (b : StkTlvBuilder) : Outcome StkTlvBuilder := do
  let nmr ← orFault info.nmrs[i]?
  buildDataobj [buildDataobjNetworkMeasurementResults nmr.nmr false,
    buildDataobjBcchChannelList nmr.bcchChList false] b

def buildLocalInfo (env : StkEnv) (response : StkResponse) : StkTlvBuilder → Outcome StkTlvBuilder :=
  let info := response.provideLocalInfo
  match response.qualifier.toNat with
  | 0x00 => buildDataobj [buildDataobjLocationInfo info.location true]
  | 0x01 => buildDataobj [buildDataobjImei info.imei true]
  | 0x02 =>
    buildDataobj [buildDataobjNetworkMeasurementResults info.nmr.nmr true,
      buildDataobjBcchChannelList info.nmr.bcchChList true]
  | 0x03 => buildDataobj [buildDataobjDatetimeTimezone info.datetime true]
  | 0x04 => buildDataobj [buildDataobjLanguage env info.language true]
  | 0x05 => buildDataobj [buildDataobjTimingAdvance info.tadv true]
  | 0x06 => buildDataobj [buildDataobjAccessTechnology info.accessTechnology false]
  | 0x07 => buildDataobj [buildDataobjEsn info.esn true]
  | 0x08 => buildDataobj [buildDataobjImeisv info.imeisv true]
  | 0x09 => buildDataobj [buildDataobjNetworkSearchMode info.searchMode false]
  | 0x0a => buildDataobj [buildDataobjBatteryState info.batteryCharge true]
  | 0x0b => buildDataobj [buildDataobjMeid info.meid false]
  | 0x0d => buildDataobj [buildDataobjBroadcastNetworkInformation info.broadcastNetworkInfo false]
  | 0x0e => buildDataobj [buildDataobjAccessTechnologies info.accessTechnologies false]
  | 0x0f =>
    buildDataobj [buildDataobjAccessTechnologies info.locationInfosTechs false] >=>
      appendEach (buildLocationAt info) (List.range info.locationInfosTechs.length)
  | 0x10 =>
    buildDataobj [buildDataobjAccessTechnologies info.nmrsTechs false] >=>
      appendEach (buildNmrAt info) (List.range info.nmrsTechs.length)
  | _ => fun _ => .reject

/-- `STK_RESULT_TYPE_SUCCESS` -/
def resultTypeSuccess : UInt8 := 0x00

/-- `STK_RESULT_TYPE_MISSING_INFO` -/
def resultTypeMissingInfo : UInt8 := 0x02

def buildOpenChannel (response : StkResponse) : StkTlvBuilder → Outcome StkTlvBuilder :=
  let openChannel := response.openChannel
  -- the channel identifier is only there in case of success
  (if response.result.type = resultTypeSuccess then
      buildDataobj [buildDataobjChannelStatus openChannel.channel false]
    else .ok) >=>
    buildDataobj [buildDataobjBearerDescription openChannel.bearerDesc false,
      buildDataobjBufferSize openChannel.bufSize false]

def buildReceiveData (response : StkResponse) : StkTlvBuilder → Outcome StkTlvBuilder :=
  let receiveData := response.receiveData
  if response.result.type ≠ resultTypeSuccess ∧ response.result.type ≠ resultTypeMissingInfo then .ok
  else
    (if receiveData.rxData.length ≠ 0 then
        buildDataobj [buildDataobjChannelData receiveData.rxData true]
      else .ok) >=>
      buildDataobj [buildDataobjChannelDataLength receiveData.rxRemaining true]

def buildSendData (response : StkResponse) : StkTlvBuilder → Outcome StkTlvBuilder :=
  if response.result.type ≠ resultTypeSuccess then .ok
  else buildDataobj [buildDataobjChannelDataLength response.sendData true]

/-- The `switch` over the type of the command. -/
def buildResponseData (env : StkEnv) (response : StkResponse) : StkTlvBuilder → Outcome StkTlvBuilder :=
  match response.type.toNat with
  | 0x21 => .ok
  | 0x22 =>
    buildDataobj [buildDataobjText env response.getInkey.text true,
      buildDataobjDuration response.getInkey.duration false]
  | 0x23 => buildDataobj [buildDataobjText env response.getInput true]
  | 0x02 | 0x13 | 0x20 => .ok
  | 0x03 => buildDataobj [buildDataobjDuration response.pollInterval true]
  | 0x01 | 0x25 => .ok
  | 0x24 => buildDataobj [buildDataobjItemId response.selectItem true]
  | 0x11 => .ok
  | 0x10 => buildSetupCall response
  | 0x04 => .ok
  | 0x26 => buildLocalInfo env response
  | 0x05 => .ok
  | 0x27 =>
    buildDataobj [buildDataobjTimerId response.timerMgmt.id true,
      buildDataobjTimerValue response.timerMgmt.value true]
  | 0x28 => .ok
  | 0x34 => buildDataobj [buildDataobjAtResponse response.runAtCommand true]
  | 0x14 | 0x35 | 0x15 | 0x41 => .ok
  | 0x12 => buildDataobj [buildDataobjUssdText response.sendUssd true]
  | 0x40 => buildOpenChannel response
  | 0x42 => buildReceiveData response
  | 0x43 => buildSendData response
  | 0x44 => buildDataobj [buildDataobjChannelStatus response.channelStatus true]
  | _ => fun _ => .reject

/-- The command details, the device identities and the result. -/
def buildResponseHead (response : StkResponse) : StkTlvBuilder → Outcome StkTlvBuilder :=
  container true .commandDetails false
      (appendByte response.number >=> appendByte response.type >=> appendByte response.qualifier) >=>
    container true .deviceIdentities false (appendByte response.src >=> appendByte response.dst) >=>
    buildDataobjResult response.result true

/-- `stk_pdu_from_response`, with `pdu` the address of its 512 octets: the builder when it
returns. `*out_length` is `stk_tlv_builder_get_length` of that. -/
def stkPduFromResponse (env : StkEnv) (pdu : ℕ) (mem : Memory) (response : StkResponse) :
    Outcome StkTlvBuilder := do
  let builder ← orFault (StkTlvBuilder.init pdu 512 mem)
  let builder ← buildResponseHead response builder
  buildResponseData env response builder

end Phonelets.Stk
