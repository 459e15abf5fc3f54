import Phonelets.Stk.Handlers

/-! # Which handler for which data object

`handler_for_type`, and the two handlers that take a whole run of TLVs with one tag.
-/

namespace Phonelets.Stk

open Phonelets.Sim
open Phonelets.Sms (GConvert SmsScts)

/-- What a handler leaves in its destination, a case for each type of destination. -/
inductive DataObject where
  | flag (a : Bool)
  | byte (a : UInt8)
  | short (a : UInt16)
  | string (a : List UInt8)
  | stringOrNull (a : Option (List UInt8))
  | octets (a : List UInt8)
  | array {size : ℕ} (a : Filled size)
  | chars {size : ℕ} (a : CString size)
  | address (a : StkAddress)
  | subaddress (a : StkSubaddress)
  | duration (a : StkDuration)
  | item (a : StkItem)
  | responseLength (a : StkResponseLength)
  | result (a : StkResult)
  | ss (a : StkSs)
  | ussdString (a : StkUssdString)
  | fileList (a : List StkFile)
  | locationInfo (a : StkLocationInfo)
  | cause (a : StkCause)
  | bcchChannelList (a : StkBcchChannelList)
  | iconId (a : StkIconId)
  | itemIconIdList (a : StkItemIconIdList)
  | cApdu (a : StkCApdu)
  | rApdu (a : StkRApdu)
  | timerValue (a : StkTimerValue)
  | scts (a : SmsScts)
  | bcRepeat (a : StkBcRepeat)
  | timingAdvance (a : StkTimingAdvance)
  | bearerDescription (a : StkBearerDescription)
  | otherAddress (a : StkOtherAddress)
  | uiccTeInterface (a : StkUiccTeInterface)
  | displayParameters (a : StkDisplayParameters)
  | serviceRecord (a : StkServiceRecord)
  | technologyData (a : StkTechnologyData)
  | remoteEntityAddress (a : StkRemoteEntityAddress)
  | frameLayout (a : StkFrameLayout)
  | framesInfo (a : StkFramesInfo)
  | frameId (a : StkFrameId)
  | registryApplicationData (a : StkRegistryApplicationData)
  | broadcastNetworkInfo (a : StkBroadcastNetworkInformation)

/-- `dataobj_handler`, on the value of the TLV. -/
abbrev DataobjHandler := List UInt8 → Outcome DataObject

/-- A handler with its destination behind a `void *`. -/
def into {α : Type} (c : α → DataObject) (handler : List UInt8 → Outcome α) : DataobjHandler :=
  fun data => do
    let a ← handler data
    return c a

/-- `handler_for_type`, nothing for `NULL`. -/
def handlerForType (g : GConvert) : DataObjectType → Option DataobjHandler
  | .address => some (into .address parseDataobjAddress)
  | .alphaId => some (into .stringOrNull (parseDataobjAlphaId g))
  | .subaddress => some (into .subaddress parseDataobjSubaddress)
  | .ccp => some (into .array parseDataobjCcp)
  | .cbsPage => some (into .array parseDataobjCbsPage)
  | .duration => some (into .duration parseDataobjDuration)
  | .item => some (into .item (parseDataobjItem g))
  | .itemId => some (into .byte parseDataobjItemId)
  | .responseLength => some (into .responseLength parseDataobjResponseLen)
  | .result => some (into .result parseDataobjResult)
  | .gsmSmsTpdu => some (into .array parseDataobjGsmSmsTpdu)
  | .ssString => some (into .ss parseDataobjSs)
  | .text => some (into .string (parseDataobjText g))
  | .tone => some (into .byte parseDataobjTone)
  | .ussdString => some (into .ussdString parseDataobjUssd)
  | .fileList => some (into .fileList parseDataobjFileList)
  | .locationInfo => some (into .locationInfo parseDataobjLocationInfo)
  | .imei => some (into .chars parseDataobjImei)
  | .helpRequest => some (into .flag parseDataobjHelpRequest)
  | .networkMeasurementResults => some (into .array parseDataobjNetworkMeasurementResults)
  | .defaultText => some (into .string (parseDataobjDefaultText g))
  | .itemsNextActionIndicator => some (into .array parseDataobjItemsNextActionIndicator)
  | .eventList => some (into .array parseDataobjEventList)
  | .cause => some (into .cause parseDataobjCause)
  | .locationStatus => some (into .byte parseDataobjLocationStatus)
  | .transactionId => some (into .array parseDataobjTransactionId)
  | .bcchChannelList => some (into .bcchChannelList parseDataobjBcchChannelList)
  | .callControlRequestedAction => some (into .octets parseDataobjCallControlRequestedAction)
  | .iconId => some (into .iconId parseDataobjIconId)
  | .itemIconIdList => some (into .itemIconIdList parseDataobjItemIconIdList)
  | .cardReaderStatus => some (into .byte parseDataobjCardReaderStatus)
  | .cardAtr => some (into .array parseDataobjCardAtr)
  | .cApdu => some (into .cApdu parseDataobjCApdu)
  | .rApdu => some (into .rApdu parseDataobjRApdu)
  | .timerId => some (into .byte parseDataobjTimerId)
  | .timerValue => some (into .timerValue parseDataobjTimerValue)
  | .datetimeTimezone => some (into .scts parseDataobjDatetimeTimezone)
  | .atCommand => some (into .string parseDataobjAtCommand)
  | .atResponse => some (into .string parseDataobjAtResponse)
  | .bcRepeatIndicator => some (into .bcRepeat parseDataobjBcRepeatIndicator)
  | .immediateResponse => some (into .flag parseDataobjImmResp)
  | .dtmfString => some (into .string parseDataobjDtmfString)
  | .language => some (into .chars parseDataobjLanguage)
  | .browserId => some (into .byte parseDataobjBrowserId)
  | .timingAdvance => some (into .timingAdvance parseDataobjTimingAdvance)
  | .url => some (into .stringOrNull parseDataobjUrl)
  | .bearer => some (into .octets parseDataobjBearer)
  | .provisioningFileRef => some (into .array parseDataobjProvisioningFileReference)
  | .browserTerminationCause => some (into .byte parseDataobjBrowserTerminationCause)
  | .bearerDescription => some (into .bearerDescription parseDataobjBearerDescription)
  | .channelData => some (into .octets parseDataobjChannelData)
  | .channelDataLength => some (into .byte parseDataobjChannelDataLength)
  | .bufferSize => some (into .short parseDataobjBufferSize)
  | .channelStatus => some (into .array parseDataobjChannelStatus)
  | .cardReaderId => some (into .array parseDataobjCardReaderId)
  | .otherAddress => some (into .otherAddress parseDataobjOtherAddress)
  | .uiccTeInterface => some (into .uiccTeInterface parseDataobjUiccTeInterface)
  | .aid => some (into .array parseDataobjAid)
  | .accessTechnology => some (into .byte parseDataobjAccessTechnology)
  | .displayParameters => some (into .displayParameters parseDataobjDisplayParameters)
  | .serviceRecord => some (into .serviceRecord parseDataobjServiceRecord)
  | .deviceFilter => some (into .technologyData parseDataobjDeviceFilter)
  | .serviceSearch => some (into .technologyData parseDataobjServiceSearch)
  | .attributeInfo => some (into .technologyData parseDataobjAttributeInfo)
  | .serviceAvailability => some (into .octets parseDataobjServiceAvailability)
  | .remoteEntityAddress => some (into .remoteEntityAddress parseDataobjRemoteEntityAddress)
  | .esn => some (into .array parseDataobjEsn)
  | .networkAccessName => some (into .string parseDataobjNetworkAccessName)
  | .cdmaSmsTpdu => some (into .octets parseDataobjCdmaSmsTpdu)
  | .textAttribute => some (into .array parseDataobjTextAttr)
  | .pdpActivationParameter => some (into .array parseDataobjPdpActPar)
  | .itemTextAttributeList => some (into .array parseDataobjItemTextAttributeList)
  | .utranMeasurementQualifier => some (into .byte parseDataobjUtranMeasQualifier)
  | .imeisv => some (into .chars parseDataobjImeisv)
  | .networkSearchMode => some (into .byte parseDataobjNetworkSearchMode)
  | .batteryState => some (into .byte parseDataobjBatteryState)
  | .browsingStatus => some (into .octets parseDataobjBrowsingStatus)
  | .frameLayout => some (into .frameLayout parseDataobjFrameLayout)
  | .framesInfo => some (into .framesInfo parseDataobjFramesInfo)
  | .frameId => some (into .frameId parseDataobjFrameId)
  | .meid => some (into .array parseDataobjMeid)
  | .mmsReference => some (into .array parseDataobjMmsReference)
  | .mmsId => some (into .array parseDataobjMmsId)
  | .mmsTransferStatus => some (into .array parseDataobjMmsTransferStatus)
  | .mmsContentId => some (into .array parseDataobjMmsContentId)
  | .mmsNotification => some (into .octets parseDataobjMmsNotification)
  | .lastEnvelope => some (into .flag parseDataobjLastEnvelope)
  | .registryApplicationData =>
    some (into .registryApplicationData (parseDataobjRegistryApplicationData g))
  | .activateDescriptor => some (into .byte parseDataobjActivateDescriptor)
  | .broadcastNetworkInfo => some (into .broadcastNetworkInfo parseDataobjBroadcastNetworkInfo)
  | _ => none

/-! ## Lists -/

/-- The TLVs from the one the iterator stands on that have the tag, and what is left after
the last of them, on which the iterator is left. -/
def tlvRun (tag : ℕ) (tlv : CompTlv) (rest : List UInt8) : List CompTlv × List UInt8 :=
  match _h : comprehensionTlvIterNext rest with
  | none => ([tlv], rest)
  | some (tlv', rest') =>
    if tlv'.tag = tag then
      let r := tlvRun tag tlv' rest'
      (tlv :: r.1, r.2)
    else ([tlv], rest)
termination_by rest.length
decreasing_by exact comprehensionTlvIterNext_length _h

/-- The items that are parsed, and `has_empty`. -/
def collectItems (g : GConvert) : List CompTlv → Outcome (List StkItem × Bool)
  | [] => .ok ([], false)
  | tlv :: tlvs =>
    match parseDataobjItem g tlv.value with
    | .fault => .fault
    | .reject => collectItems g tlvs
    | .ok item => do
        let r ← collectItems g tlvs
        if item.id = 0 then return (r.1, true) else return (item :: r.1, r.2)

/-- `parse_item_list`: what is written to the list of the caller, if anything is. -/
def parseItemList (g : GConvert) (tlv : CompTlv) (rest : List UInt8) :
    Outcome (Option (List StkItem)) := do
  let tlvs := (tlvRun DataObjectType.item.code tlv rest).1
  let (list, hasEmpty) ← collectItems g tlvs
  if !hasEmpty then return some list
  else if tlvs.length = 1 then return none
  else .reject

/-- The files of which the reference is valid. -/
def collectFiles : List CompTlv → Outcome (List StkFile)
  | [] => .ok []
  | tlv :: tlvs =>
    match parseDataobjProvisioningFileReference tlv.value with
    | .fault => .fault
    | .reject => collectFiles tlvs
    | .ok file => do
        let r ← collectFiles tlvs
        return file :: r

def parseProvisioningList (tlv : CompTlv) (rest : List UInt8) : Outcome (List StkFile) :=
  collectFiles (tlvRun DataObjectType.provisioningFileRef.code tlv rest).1

end Phonelets.Stk
