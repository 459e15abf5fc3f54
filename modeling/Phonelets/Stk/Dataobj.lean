import Phonelets.Stk.Dispatch

/-! # The data objects of a command

`parse_dataobj` holds the TLVs of a command to the list of the objects the command may have.
The list has an order and is read with a cursor; a TLV that no entry takes is passed over, which
is an error only if comprehension is required of it. The lists of the commands follow.
-/

namespace Phonelets.Stk

open Phonelets.Sim
open Phonelets.Sms (GConvert)

inductive StkCommandParseResult where
  | ok | typeNotUnderstood | dataNotUnderstood | missingValue

def dataobjFlagMandatory : ℕ := 1

def dataobjFlagMinimum : ℕ := 2

def dataobjFlagList : ℕ := 8

/-- `struct dataobj_handler_entry`; the destination goes by the name of the field it is. -/
structure DataobjHandlerEntry where
  type : DataObjectType
  flags : ℕ
  data : String
  deriving DecidableEq

namespace DataobjHandlerEntry

def mandatory (e : DataobjHandlerEntry) : Bool := e.flags &&& dataobjFlagMandatory ≠ 0

def list (e : DataobjHandlerEntry) : Bool := e.flags &&& dataobjFlagList ≠ 0

end DataobjHandlerEntry

/-- A node of the list `entries`, told from the others by its place. -/
abbrev DataobjNode := DataobjHandlerEntry × ℕ

/-- What a handler leaves behind its `void *`. -/
inductive DataobjFilled where
  | object (a : DataObject)
  | items (a : Option (List StkItem))
  | files (a : List StkFile)

/-- A call of a handler: for which entry, with which TLV under the iterator, and what came of
it. Behind a fault the rest of the walk is what the C code does if it survives. -/
structure DataobjCall where
  node : DataobjNode
  tlv : CompTlv
  outcome : Outcome DataobjFilled

/-- The handler of `handler_for_type`; it leaves the iterator where it is. -/
def handleObject (g : GConvert) (type : DataObjectType) (data : List UInt8) :
    Outcome DataobjFilled :=
  match handlerForType g type with
  | none => .fault
  | some handler => do
      let a ← handler data
      return .object a

/-- The handler of `list_handler_for_type`, which takes the iterator behind the last TLV with
the tag. -/
def handleList (g : GConvert) (type : DataObjectType) (tlv : CompTlv) (rest : List UInt8) :
    Outcome DataobjFilled × List UInt8 :=
  match type with
  | .item =>
    ((do let a ← parseItemList g tlv rest; return .items a),
      (tlvRun DataObjectType.item.code tlv rest).2)
  | .provisioningFileRef =>
    ((do let a ← parseProvisioningList tlv rest; return .files a),
      (tlvRun DataObjectType.provisioningFileRef.code tlv rest).2)
  | _ => (.fault, rest)

/-- `handler(iter, entry->data)` -/
def callHandler (g : GConvert) (entry : DataobjHandlerEntry) (tlv : CompTlv)
    (rest : List UInt8) : Outcome DataobjFilled × List UInt8 :=
  if entry.list then handleList g entry.type tlv rest
  else (handleObject g entry.type tlv.value, rest)

/-- The search from the cursor on: the node with the tag, and those behind it. It ends at a
mandatory entry with another tag. -/
def searchNode (tag : ℕ) : List DataobjNode → Option (DataobjNode × List DataobjNode)
  | [] => none
  | node :: l =>
    if tag = node.1.type.code then some (node, l)
    else if node.1.mandatory then none
    else searchNode tag l

lemma length_tlvRun (tag : ℕ) (tlv : CompTlv) (rest : List UInt8) :
    (tlvRun tag tlv rest).2.length ≤ rest.length := by
  fun_induction tlvRun tag tlv rest with
  | case1 => exact Nat.le_refl _
  | case2 tlv rest tlv' rest' hnext htag r ih =>
    exact Nat.le_trans ih (Nat.le_of_lt (comprehensionTlvIterNext_length hnext))
  | case3 => exact Nat.le_refl _

lemma length_callHandler (g : GConvert) (entry : DataobjHandlerEntry) (tlv : CompTlv)
    (rest : List UInt8) : (callHandler g entry tlv rest).2.length ≤ rest.length := by
  unfold callHandler
  split
  · unfold handleList
    split
    · exact length_tlvRun _ tlv rest
    · exact length_tlvRun _ tlv rest
    · exact Nat.le_refl _
  · exact Nat.le_refl _

/-- What the loop over the TLVs leaves: `parse_error`, the calls in order, and the cursor. -/
structure DataobjWalk where
  parseError : Bool
  calls : List DataobjCall
  cursor : List DataobjNode

/-- The loop of `parse_dataobj`, from a cursor on. -/
def walkDataobj (g : GConvert) (os : List UInt8) (l : List DataobjNode) : DataobjWalk :=
  match _h : comprehensionTlvIterNext os with
  | none => ⟨false, [], l⟩
  | some (tlv, rest) =>
    match searchNode tlv.tag l with
    | none =>
      let w := walkDataobj g rest l
      { w with parseError := tlv.cr || w.parseError }
    | some (node, behind) =>
      let called := callHandler g node.1 tlv rest
      let w := walkDataobj g called.2 behind
      { w with
        parseError := called.1 matches .reject || w.parseError
        calls := ⟨node, tlv, called.1⟩ :: w.calls }
termination_by os.length
decreasing_by
  · exact comprehensionTlvIterNext_length _h
  · exact Nat.lt_of_le_of_lt (length_callHandler g _ _ _) (comprehensionTlvIterNext_length _h)

/-- `parse_dataobj`, with the calls of handlers that it makes. -/
def parseDataobj (g : GConvert) (entries : List DataobjHandlerEntry) (os : List UInt8) :
    StkCommandParseResult × List DataobjCall :=
  let w := walkDataobj g os entries.zipIdx
  (if w.cursor.any (·.1.mandatory) then .missingValue
    else if w.parseError then .dataNotUnderstood
    else .ok, w.calls)

/-! ## The lists of the commands -/

/-- `parse_display_text` -/
def parseDisplayTextEntries : List DataobjHandlerEntry :=
  [⟨.text, dataobjFlagMandatory ||| dataobjFlagMinimum, "text"⟩,
   ⟨.iconId, 0, "icon_id"⟩,
   ⟨.immediateResponse, 0, "immediate_response"⟩,
   ⟨.duration, 0, "duration"⟩,
   ⟨.textAttribute, 0, "text_attr"⟩,
   ⟨.frameId, 0, "frame_id"⟩]

/-- `parse_get_inkey` -/
def parseGetInkeyEntries : List DataobjHandlerEntry :=
  [⟨.text, dataobjFlagMandatory ||| dataobjFlagMinimum, "text"⟩,
   ⟨.iconId, 0, "icon_id"⟩,
   ⟨.duration, 0, "duration"⟩,
   ⟨.textAttribute, 0, "text_attr"⟩,
   ⟨.frameId, 0, "frame_id"⟩]

/-- `parse_get_input` -/
def parseGetInputEntries : List DataobjHandlerEntry :=
  [⟨.text, dataobjFlagMandatory ||| dataobjFlagMinimum, "text"⟩,
   ⟨.responseLength, dataobjFlagMandatory ||| dataobjFlagMinimum, "resp_len"⟩,
   ⟨.defaultText, 0, "default_text"⟩,
   ⟨.iconId, 0, "icon_id"⟩,
   ⟨.textAttribute, 0, "text_attr"⟩,
   ⟨.frameId, 0, "frame_id"⟩]

/-- `parse_play_tone` -/
def parsePlayToneEntries : List DataobjHandlerEntry :=
  [⟨.alphaId, 0, "alpha_id"⟩,
   ⟨.tone, 0, "tone"⟩,
   ⟨.duration, 0, "duration"⟩,
   ⟨.iconId, 0, "icon_id"⟩,
   ⟨.textAttribute, 0, "text_attr"⟩,
   ⟨.frameId, 0, "frame_id"⟩]

/-- `parse_poll_interval` -/
def parsePollIntervalEntries : List DataobjHandlerEntry :=
  [⟨.duration, dataobjFlagMandatory ||| dataobjFlagMinimum, "duration"⟩]

/-- `parse_setup_menu` -/
def parseSetupMenuEntries : List DataobjHandlerEntry :=
  [⟨.alphaId, dataobjFlagMandatory ||| dataobjFlagMinimum, "alpha_id"⟩,
   ⟨.item, dataobjFlagMandatory ||| dataobjFlagMinimum ||| dataobjFlagList, "items"⟩,
   ⟨.itemsNextActionIndicator, 0, "next_act"⟩,
   ⟨.iconId, 0, "icon_id"⟩,
   ⟨.itemIconIdList, 0, "item_icon_id_list"⟩,
   ⟨.textAttribute, 0, "text_attr"⟩,
   ⟨.itemTextAttributeList, 0, "item_text_attr_list"⟩]

/-- `parse_select_item` -/
def parseSelectItemEntries : List DataobjHandlerEntry :=
  [⟨.alphaId, 0, "alpha_id"⟩,
   ⟨.item, dataobjFlagMandatory ||| dataobjFlagMinimum ||| dataobjFlagList, "items"⟩,
   ⟨.itemsNextActionIndicator, 0, "next_act"⟩,
   ⟨.itemId, 0, "item_id"⟩,
   ⟨.iconId, 0, "icon_id"⟩,
   ⟨.itemIconIdList, 0, "item_icon_id_list"⟩,
   ⟨.textAttribute, 0, "text_attr"⟩,
   ⟨.itemTextAttributeList, 0, "item_text_attr_list"⟩,
   ⟨.frameId, 0, "frame_id"⟩]

/-- `parse_send_sms` -/
def parseSendSmsEntries : List DataobjHandlerEntry :=
  [⟨.alphaId, 0, "alpha_id"⟩,
   ⟨.address, 0, "sc_address"⟩,
   ⟨.gsmSmsTpdu, 0, "gsm_tpdu"⟩,
   ⟨.cdmaSmsTpdu, 0, "cdma_sms"⟩,
   ⟨.iconId, 0, "icon_id"⟩,
   ⟨.textAttribute, 0, "text_attr"⟩,
   ⟨.frameId, 0, "frame_id"⟩]

/-- `parse_send_ss` -/
def parseSendSsEntries : List DataobjHandlerEntry :=
  [⟨.alphaId, 0, "alpha_id"⟩,
   ⟨.ssString, dataobjFlagMandatory ||| dataobjFlagMinimum, "ss"⟩,
   ⟨.iconId, 0, "icon_id"⟩,
   ⟨.textAttribute, 0, "text_attr"⟩,
   ⟨.frameId, 0, "frame_id"⟩]

/-- `parse_send_ussd` -/
def parseSendUssdEntries : List DataobjHandlerEntry :=
  [⟨.alphaId, 0, "alpha_id"⟩,
   ⟨.ussdString, dataobjFlagMandatory ||| dataobjFlagMinimum, "ussd_string"⟩,
   ⟨.iconId, 0, "icon_id"⟩,
   ⟨.textAttribute, 0, "text_attr"⟩,
   ⟨.frameId, 0, "frame_id"⟩]

/-- `parse_setup_call` -/
def parseSetupCallEntries : List DataobjHandlerEntry :=
  [⟨.alphaId, 0, "alpha_id_usr_cfm"⟩,
   ⟨.address, dataobjFlagMandatory ||| dataobjFlagMinimum, "addr"⟩,
   ⟨.ccp, 0, "ccp"⟩,
   ⟨.subaddress, 0, "subaddr"⟩,
   ⟨.duration, 0, "duration"⟩,
   ⟨.iconId, 0, "icon_id_usr_cfm"⟩,
   ⟨.alphaId, 0, "alpha_id_call_setup"⟩,
   ⟨.iconId, 0, "icon_id_call_setup"⟩,
   ⟨.textAttribute, 0, "text_attr_usr_cfm"⟩,
   ⟨.textAttribute, 0, "text_attr_call_setup"⟩,
   ⟨.frameId, 0, "frame_id"⟩]

/-- `parse_refresh` -/
def parseRefreshEntries : List DataobjHandlerEntry :=
  [⟨.fileList, 0, "file_list"⟩,
   ⟨.aid, 0, "aid"⟩,
   ⟨.alphaId, 0, "alpha_id"⟩,
   ⟨.iconId, 0, "icon_id"⟩,
   ⟨.textAttribute, 0, "text_attr"⟩,
   ⟨.frameId, 0, "frame_id"⟩]

/-- `parse_setup_event_list` -/
def parseSetupEventListEntries : List DataobjHandlerEntry :=
  [⟨.eventList, dataobjFlagMandatory ||| dataobjFlagMinimum, "event_list"⟩]

/-- `parse_perform_card_apdu` -/
def parsePerformCardApduEntries : List DataobjHandlerEntry :=
  [⟨.cApdu, dataobjFlagMandatory ||| dataobjFlagMinimum, "c_apdu"⟩]

/-- `parse_timer_mgmt` -/
def parseTimerMgmtEntries (valueFlags : ℕ) : List DataobjHandlerEntry :=
  [⟨.timerId, dataobjFlagMandatory ||| dataobjFlagMinimum, "timer_id"⟩,
   ⟨.timerValue, valueFlags, "timer_value"⟩]

/-- `parse_setup_idle_mode_text` -/
def parseSetupIdleModeTextEntries : List DataobjHandlerEntry :=
  [⟨.text, dataobjFlagMandatory ||| dataobjFlagMinimum, "text"⟩,
   ⟨.iconId, 0, "icon_id"⟩,
   ⟨.textAttribute, 0, "text_attr"⟩,
   ⟨.frameId, 0, "frame_id"⟩]

/-- `parse_run_at_command` -/
def parseRunAtCommandEntries : List DataobjHandlerEntry :=
  [⟨.alphaId, 0, "alpha_id"⟩,
   ⟨.atCommand, dataobjFlagMandatory ||| dataobjFlagMinimum, "at_command"⟩,
   ⟨.iconId, 0, "icon_id"⟩,
   ⟨.textAttribute, 0, "text_attr"⟩,
   ⟨.frameId, 0, "frame_id"⟩]

/-- `parse_send_dtmf` -/
def parseSendDtmfEntries : List DataobjHandlerEntry :=
  [⟨.alphaId, 0, "alpha_id"⟩,
   ⟨.dtmfString, dataobjFlagMandatory ||| dataobjFlagMinimum, "dtmf"⟩,
   ⟨.iconId, 0, "icon_id"⟩,
   ⟨.textAttribute, 0, "text_attr"⟩,
   ⟨.frameId, 0, "frame_id"⟩]

/-- `parse_language_notification` -/
def parseLanguageNotificationEntries : List DataobjHandlerEntry :=
  [⟨.language, 0, "language"⟩]

/-- `parse_launch_browser` -/
def parseLaunchBrowserEntries : List DataobjHandlerEntry :=
  [⟨.browserId, 0, "browser_id"⟩,
   ⟨.url, dataobjFlagMandatory ||| dataobjFlagMinimum, "url"⟩,
   ⟨.bearer, 0, "bearer"⟩,
   ⟨.provisioningFileRef, dataobjFlagList, "prov_file_refs"⟩,
   ⟨.text, 0, "text_gateway_proxy_id"⟩,
   ⟨.alphaId, 0, "alpha_id"⟩,
   ⟨.iconId, 0, "icon_id"⟩,
   ⟨.textAttribute, 0, "text_attr"⟩,
   ⟨.frameId, 0, "frame_id"⟩,
   ⟨.networkAccessName, 0, "network_name"⟩,
   ⟨.text, 0, "text_usr"⟩,
   ⟨.text, 0, "text_passwd"⟩]

/-- `parse_open_channel` -/
def parseOpenChannelEntries : List DataobjHandlerEntry :=
  [⟨.alphaId, 0, "alpha_id"⟩,
   ⟨.iconId, 0, "icon_id"⟩,
   ⟨.bearerDescription, dataobjFlagMandatory ||| dataobjFlagMinimum, "bearer_desc"⟩,
   ⟨.bufferSize, dataobjFlagMandatory ||| dataobjFlagMinimum, "buf_size"⟩,
   ⟨.networkAccessName, 0, "apn"⟩,
   ⟨.otherAddress, 0, "local_addr"⟩,
   ⟨.text, 0, "text_usr"⟩,
   ⟨.text, 0, "text_passwd"⟩,
   ⟨.uiccTeInterface, 0, "uti"⟩,
   ⟨.otherAddress, 0, "data_dest_addr"⟩,
   ⟨.textAttribute, 0, "text_attr"⟩,
   ⟨.frameId, 0, "frame_id"⟩]

/-- `parse_close_channel` -/
def parseCloseChannelEntries : List DataobjHandlerEntry :=
  [⟨.alphaId, 0, "alpha_id"⟩,
   ⟨.iconId, 0, "icon_id"⟩,
   ⟨.textAttribute, 0, "text_attr"⟩,
   ⟨.frameId, 0, "frame_id"⟩]

/-- `parse_receive_data` -/
def parseReceiveDataEntries : List DataobjHandlerEntry :=
  [⟨.alphaId, 0, "alpha_id"⟩,
   ⟨.iconId, 0, "icon_id"⟩,
   ⟨.channelDataLength, dataobjFlagMandatory ||| dataobjFlagMinimum, "data_len"⟩,
   ⟨.textAttribute, 0, "text_attr"⟩,
   ⟨.frameId, 0, "frame_id"⟩]

/-- `parse_send_data` -/
def parseSendDataEntries : List DataobjHandlerEntry :=
  [⟨.alphaId, 0, "alpha_id"⟩,
   ⟨.iconId, 0, "icon_id"⟩,
   ⟨.channelData, dataobjFlagMandatory ||| dataobjFlagMinimum, "data"⟩,
   ⟨.textAttribute, 0, "text_attr"⟩,
   ⟨.frameId, 0, "frame_id"⟩]

/-- `parse_service_search` -/
def parseServiceSearchEntries : List DataobjHandlerEntry :=
  [⟨.alphaId, 0, "alpha_id"⟩,
   ⟨.iconId, 0, "icon_id"⟩,
   ⟨.serviceSearch, dataobjFlagMandatory ||| dataobjFlagMinimum, "serv_search"⟩,
   ⟨.deviceFilter, 0, "dev_filter"⟩,
   ⟨.textAttribute, 0, "text_attr"⟩,
   ⟨.frameId, 0, "frame_id"⟩]

/-- `parse_get_service_info` -/
def parseGetServiceInfoEntries : List DataobjHandlerEntry :=
  [⟨.alphaId, 0, "alpha_id"⟩,
   ⟨.iconId, 0, "icon_id"⟩,
   ⟨.attributeInfo, dataobjFlagMandatory ||| dataobjFlagMinimum, "attr_info"⟩,
   ⟨.textAttribute, 0, "text_attr"⟩,
   ⟨.frameId, 0, "frame_id"⟩]

/-- `parse_declare_service` -/
def parseDeclareServiceEntries : List DataobjHandlerEntry :=
  [⟨.serviceRecord, dataobjFlagMandatory ||| dataobjFlagMinimum, "serv_rec"⟩,
   ⟨.uiccTeInterface, 0, "intf"⟩]

/-- `parse_set_frames` -/
def parseSetFramesEntries : List DataobjHandlerEntry :=
  [⟨.frameId, dataobjFlagMandatory ||| dataobjFlagMinimum, "frame_id"⟩,
   ⟨.frameLayout, 0, "frame_layout"⟩,
   ⟨.frameId, 0, "frame_id_default"⟩]

/-- `parse_retrieve_mms` -/
def parseRetrieveMmsEntries : List DataobjHandlerEntry :=
  [⟨.alphaId, 0, "alpha_id"⟩,
   ⟨.iconId, 0, "icon_id"⟩,
   ⟨.mmsReference, dataobjFlagMandatory ||| dataobjFlagMinimum, "mms_ref"⟩,
   ⟨.fileList, dataobjFlagMandatory ||| dataobjFlagMinimum, "mms_rec_files"⟩,
   ⟨.mmsContentId, dataobjFlagMandatory ||| dataobjFlagMinimum, "mms_content_id"⟩,
   ⟨.mmsId, 0, "mms_id"⟩,
   ⟨.textAttribute, 0, "text_attr"⟩,
   ⟨.frameId, 0, "frame_id"⟩]

/-- `parse_submit_mms` -/
def parseSubmitMmsEntries : List DataobjHandlerEntry :=
  [⟨.alphaId, 0, "alpha_id"⟩,
   ⟨.iconId, 0, "icon_id"⟩,
   ⟨.fileList, dataobjFlagMandatory ||| dataobjFlagMinimum, "mms_subm_files"⟩,
   ⟨.mmsId, 0, "mms_id"⟩,
   ⟨.textAttribute, 0, "text_attr"⟩,
   ⟨.frameId, 0, "frame_id"⟩]

/-- `parse_display_mms` -/
def parseDisplayMmsEntries : List DataobjHandlerEntry :=
  [⟨.fileList, dataobjFlagMandatory ||| dataobjFlagMinimum, "mms_subm_files"⟩,
   ⟨.mmsId, dataobjFlagMandatory ||| dataobjFlagMinimum, "mms_id"⟩,
   ⟨.immediateResponse, 0, "imd_resp"⟩,
   ⟨.frameId, 0, "frame_id"⟩]

/-- `parse_activate` -/
def parseActivateEntries : List DataobjHandlerEntry :=
  [⟨.activateDescriptor, dataobjFlagMandatory ||| dataobjFlagMinimum, "actv_desc"⟩]

/-- All lists that `parse_dataobj` is called with; one depends on the qualifier. -/
def dataobjLists : List (List DataobjHandlerEntry) :=
  [parseDisplayTextEntries, parseGetInkeyEntries, parseGetInputEntries, parsePlayToneEntries,
   parsePollIntervalEntries, parseSetupMenuEntries, parseSelectItemEntries,
   parseSendSmsEntries, parseSendSsEntries, parseSendUssdEntries, parseSetupCallEntries,
   parseRefreshEntries, parseSetupEventListEntries, parsePerformCardApduEntries,
   parseTimerMgmtEntries 0, parseTimerMgmtEntries dataobjFlagMandatory,
   parseSetupIdleModeTextEntries, parseRunAtCommandEntries, parseSendDtmfEntries,
   parseLanguageNotificationEntries, parseLaunchBrowserEntries, parseOpenChannelEntries,
   parseCloseChannelEntries, parseReceiveDataEntries, parseSendDataEntries,
   parseServiceSearchEntries, parseGetServiceInfoEntries, parseDeclareServiceEntries,
   parseSetFramesEntries, parseRetrieveMmsEntries, parseSubmitMmsEntries,
   parseDisplayMmsEntries, parseActivateEntries]

end Phonelets.Stk
