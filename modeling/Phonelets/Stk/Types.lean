import Phonelets.Sms.Types

/-! # Data objects of the SIM toolkit

The structures of `stkutil.h` that the handlers of data objects fill, and the tags under
which the objects stand in a command.
-/

namespace Phonelets.Stk

open Phonelets.Sms (SmsScts)

/-- `enum stk_data_object_type`, as far as there is a handler or a builder. -/
inductive DataObjectType where
  | commandDetails | deviceIdentities
  | result | duration | alphaId | address | ccp | subaddress | ssString | ussdString
  | gsmSmsTpdu | cbsPage | text | tone | item | itemId | responseLength | fileList
  | locationInfo | imei | helpRequest | networkMeasurementResults | defaultText
  | itemsNextActionIndicator | eventList | cause | locationStatus | transactionId
  | bcchChannelList | iconId | itemIconIdList | cardReaderStatus | cardAtr | cApdu | rApdu
  | timerId | timerValue | datetimeTimezone | callControlRequestedAction | atCommand
  | atResponse | bcRepeatIndicator | immediateResponse | dtmfString | language
  | timingAdvance | aid | browserId | url | bearer | provisioningFileRef
  | browserTerminationCause | bearerDescription | channelData | channelDataLength
  | channelStatus | bufferSize | cardReaderId | uiccTeInterface | otherAddress
  | accessTechnology | displayParameters | serviceRecord | deviceFilter | serviceSearch
  | attributeInfo | serviceAvailability | esn | networkAccessName | cdmaSmsTpdu
  | remoteEntityAddress | iWlanAccessStatus | textAttribute | itemTextAttributeList
  | pdpActivationParameter | imeisv | batteryState | browsingStatus | networkSearchMode
  | frameLayout | framesInfo | frameId | utranMeasurementQualifier | mmsReference | mmsId
  | mmsTransferStatus | meid | mmsContentId | mmsNotification | lastEnvelope
  | registryApplicationData | routingAreaInfo | updateAttachType | rejectionCauseCode
  | broadcastNetworkInfo | activateDescriptor | epsPdnConnActivationReq | trackingAreaId
  deriving DecidableEq

namespace DataObjectType

/-- The tag. -/
def code : DataObjectType → ℕ
  | commandDetails => 0x01
  | deviceIdentities => 0x02
  | result => 0x03
  | duration => 0x04
  | alphaId => 0x05
  | address => 0x06
  | ccp => 0x07
  | subaddress => 0x08
  | ssString => 0x09
  | ussdString => 0x0A
  | gsmSmsTpdu => 0x0B
  | cbsPage => 0x0C
  | text => 0x0D
  | tone => 0x0E
  | item => 0x0F
  | itemId => 0x10
  | responseLength => 0x11
  | fileList => 0x12
  | locationInfo => 0x13
  | imei => 0x14
  | helpRequest => 0x15
  | networkMeasurementResults => 0x16
  | defaultText => 0x17
  | itemsNextActionIndicator => 0x18
  | eventList => 0x19
  | cause => 0x1A
  | locationStatus => 0x1B
  | transactionId => 0x1C
  | bcchChannelList => 0x1D
  | iconId => 0x1E
  | itemIconIdList => 0x1F
  | cardReaderStatus => 0x20
  | cardAtr => 0x21
  | cApdu => 0x22
  | rApdu => 0x23
  | timerId => 0x24
  | timerValue => 0x25
  | datetimeTimezone => 0x26
  | callControlRequestedAction => 0x27
  | atCommand => 0x28
  | atResponse => 0x29
  | bcRepeatIndicator => 0x2A
  | immediateResponse => 0x2B
  | dtmfString => 0x2C
  | language => 0x2D
  | timingAdvance => 0x2E
  | aid => 0x2F
  | browserId => 0x30
  | url => 0x31
  | bearer => 0x32
  | provisioningFileRef => 0x33
  | browserTerminationCause => 0x34
  | bearerDescription => 0x35
  | channelData => 0x36
  | channelDataLength => 0x37
  | channelStatus => 0x38
  | bufferSize => 0x39
  | cardReaderId => 0x3A
  | uiccTeInterface => 0x3C
  | otherAddress => 0x3E
  | accessTechnology => 0x3F
  | displayParameters => 0x40
  | serviceRecord => 0x41
  | deviceFilter => 0x42
  | serviceSearch => 0x43
  | attributeInfo => 0x44
  | serviceAvailability => 0x45
  | esn => 0x46
  | networkAccessName => 0x47
  | cdmaSmsTpdu => 0x48
  | remoteEntityAddress => 0x49
  | iWlanAccessStatus => 0x4B
  | textAttribute => 0x50
  | itemTextAttributeList => 0x51
  | pdpActivationParameter => 0x52
  | imeisv => 0x62
  | batteryState => 0x63
  | browsingStatus => 0x64
  | networkSearchMode => 0x65
  | frameLayout => 0x66
  | framesInfo => 0x67
  | frameId => 0x68
  | utranMeasurementQualifier => 0x69
  | mmsReference => 0x6A
  | mmsId => 0x6B
  | mmsTransferStatus => 0x6C
  | meid => 0x6D
  | mmsContentId => 0x6E
  | mmsNotification => 0x6F
  | lastEnvelope => 0x70
  | registryApplicationData => 0x71
  | routingAreaInfo => 0x73
  | updateAttachType => 0x74
  | rejectionCauseCode => 0x75
  | broadcastNetworkInfo => 0x7A
  | activateDescriptor => 0x7B
  | epsPdnConnActivationReq => 0x7C
  | trackingAreaId => 0x7D

lemma code_pos (type : DataObjectType) : 0 < type.code := by
  cases type <;> decide

lemma code_le (type : DataObjectType) : type.code ≤ 0x7fff := by
  cases type <;> decide

end DataObjectType

/-! ## Structures

A string on the heap and an array with a `len` field are lists of octets. -/

structure StkAddress where
  tonNpi : UInt8
  number : List UInt8

structure StkSubaddress where
  hasSubaddr : Bool
  subaddr : Filled 23

inductive StkDurationType where
  | minutes | seconds | secondTenths

structure StkDuration where
  unit : StkDurationType
  interval : UInt8

/-- `struct stk_item`; `text` is nothing for `NULL`. -/
structure StkItem where
  id : UInt8
  text : Option (List UInt8)

structure StkResponseLength where
  min : UInt8
  max : UInt8

structure StkResult where
  type : UInt8
  additional : List UInt8

structure StkSs where
  tonNpi : UInt8
  ss : List UInt8

structure StkUssdString where
  dcs : UInt8
  string : Filled 160

abbrev StkFile := Filled 8

structure StkLocationInfo where
  mcc : CString 4
  mnc : CString 4
  lacTac : UInt16
  hasCi : Bool
  ci : UInt16
  hasExtCi : Bool
  extCi : UInt16
  hasEutranCi : Bool
  eutranCi : UInt32

structure StkCause where
  hasCause : Bool
  cause : Filled 30

/-- `struct stk_bcch_channel_list`, with the channels up to `num`. -/
structure StkBcchChannelList where
  hasList : Bool
  channels : List UInt16
  fits : channels.length ≤ 101

structure StkIconId where
  qualifier : UInt8
  id : UInt8

structure StkItemIconIdList where
  qualifier : UInt8
  list : Filled 126

/-- `struct stk_c_apdu`, with the data up to `lc`. -/
structure StkCApdu where
  cla : UInt8
  ins : UInt8
  p1 : UInt8
  p2 : UInt8
  data : Filled 236
  hasLe : Bool
  le : UInt8

structure StkRApdu where
  sw1 : UInt8
  sw2 : UInt8
  data : Filled 237

structure StkTimerValue where
  hasValue : Bool
  hour : UInt8
  minute : UInt8
  second : UInt8

structure StkBcRepeat where
  hasBcRepeat : Bool
  value : UInt8

structure StkTimingAdvance where
  hasValue : Bool
  status : UInt8
  advance : UInt8

/-- `struct stk_bearer_description`, of the one type that is parsed. -/
structure StkBearerDescription where
  type : UInt8
  precedence : UInt8
  delay : UInt8
  reliability : UInt8
  peak : UInt8
  mean : UInt8
  pdpType : UInt8

/-- `struct stk_other_address`, a case for each `enum stk_address_type`. -/
inductive StkOtherAddress where
  | auto
  | ipv4 (addr : Buf 4)
  | ipv6 (addr : Buf 16)

structure StkUiccTeInterface where
  protocol : UInt8
  port : UInt16

structure StkDisplayParameters where
  height : UInt8
  width : UInt8
  effects : UInt8

structure StkServiceRecord where
  techId : UInt8
  servId : UInt8
  servRec : List UInt8
  deriving DecidableEq

/-- `struct stk_device_filter`, `struct stk_service_search` and `struct
stk_attribute_info`, which have the same members. -/
structure StkTechnologyData where
  techId : UInt8
  octets : List UInt8

/-- `struct stk_remote_entity_address`, a case for each `coding_type`. -/
inductive StkRemoteEntityAddress where
  | ieee802 (addr : Buf 6)
  | irda (addr : Buf 4)

structure StkFrameLayout where
  layout : UInt8
  size : Filled 126

/-- An entry of `list` in `struct stk_frames_info`. -/
structure StkFrame where
  width : UInt8
  height : UInt8
  deriving DecidableEq

/-- `struct stk_frames_info`, with what has been written to `list`. -/
structure StkFramesInfo where
  id : UInt8
  list : List StkFrame
  fits : list.length ≤ 63
  len : ℕ

structure StkFrameId where
  hasId : Bool
  id : UInt8

structure StkRegistryApplicationData where
  port : UInt16
  type : UInt8
  name : List UInt8

structure StkBroadcastNetworkInformation where
  tech : UInt8
  locInfo : Filled 126

end Phonelets.Stk
