import Phonelets.Stk.BuilderValues

/-! # Builders against handlers

Every type of data object that has a builder and a handler: when does the handler make of
the TLV that the builder has written the value that it was given?
-/

namespace Phonelets.Stk

open List Outcome
open Phonelets.Sms (GConvert SmsScts readOctets)
open Gsm (utf8 gsmOctets)
open Sim (CompTlv comprehensionTlvIterNext utf8ToSimString)
open StkTlvBuilder (Closed Open container newOctets appendByte appends_byte)

/-- A value of one of the types. -/
inductive StkObject where
  | address (addr : StkAddressOf)
  | alphaId (text : Option Text)
  | subaddress (sa : StkSubaddress)
  | ccp (ccp : Filled 16)
  | duration (duration : StkDuration)
  | itemId (id : UInt8)
  | result (result : StkResult)
  | text (text : Option Text) (packed yesno : Bool)
  | ussdString (ussd : StkUssdString)
  | fileList (files : List StkFile)
  | locationInfo (li : StkLocationInfo)
  | imei (imei : Option HeapString)
  | imeisv (imeisv : Option HeapString)
  | eventList (list : Filled 21)
  | cause (cause : StkCause)
  | transactionIds (id : Filled 127)
  | bcchChannelList (list : StkBcchChannelList)
  | timerValue (value : StkTimerValue)
  | datetimeTimezone (scts : SmsScts)
  | language (data : Option HeapString)
  | timingAdvance (tadv : StkTimingAdvance)
  | bufferSize (bufSize : UInt16)
  | otherAddress (addr : Option StkOtherAddress)
  | uiccTeInterface (iface : StkUiccTeInterface)
  | displayParameters (params : StkDisplayParameters)
  | serviceRecord (record : StkServiceRecord)
  | remoteEntityAddress (addr : Option StkRemoteEntityAddress)
  | mmsId (id : Filled 127)
  | framesInformation (info : StkFramesInfo)
  | registryApplicationData (port : UInt16) (type : UInt8) (name : Text)

namespace StkObject

def type : StkObject → DataObjectType
  | address _ => .address
  | alphaId _ => .alphaId
  | subaddress _ => .subaddress
  | ccp _ => .ccp
  | duration _ => .duration
  | itemId _ => .itemId
  | result _ => .result
  | text _ _ _ => .text
  | ussdString _ => .ussdString
  | fileList _ => .fileList
  | locationInfo _ => .locationInfo
  | imei _ => .imei
  | imeisv _ => .imeisv
  | eventList _ => .eventList
  | cause _ => .cause
  | transactionIds _ => .transactionId
  | bcchChannelList _ => .bcchChannelList
  | timerValue _ => .timerValue
  | datetimeTimezone _ => .datetimeTimezone
  | language _ => .language
  | timingAdvance _ => .timingAdvance
  | bufferSize _ => .bufferSize
  | otherAddress _ => .otherAddress
  | uiccTeInterface _ => .uiccTeInterface
  | displayParameters _ => .displayParameters
  | serviceRecord _ => .serviceRecord
  | remoteEntityAddress _ => .remoteEntityAddress
  | mmsId _ => .mmsId
  | framesInformation _ => .framesInfo
  | registryApplicationData _ _ _ => .registryApplicationData

/-- The builder of the type. -/
def build (env : StkEnv) : StkObject → DataobjWriter
  | address addr => buildDataobjAddress addr
  | alphaId data => buildDataobjAlphaId env (data.map Text.string)
  | subaddress sa => buildDataobjSubaddress sa
  | ccp c => buildDataobjCcp c
  | duration d => buildDataobjDuration d
  | itemId id => buildDataobjItemId id
  | result r => buildDataobjResult r
  | text data packed yesno => buildDataobjText env ⟨data.map Text.string, packed, yesno⟩
  | ussdString ussd => buildDataobjUssdString ussd
  | fileList files => buildDataobjFileList files
  | locationInfo li => buildDataobjLocationInfo li
  | imei data => buildDataobjImei data
  | imeisv data => buildDataobjImeisv data
  | eventList list => buildDataobjEventList list
  | cause c => buildDataobjCause c
  | transactionIds id => buildDataobjTransactionIds id
  | bcchChannelList list => buildDataobjBcchChannelList list
  | timerValue value => buildDataobjTimerValue value
  | datetimeTimezone scts => buildDataobjDatetimeTimezone scts
  | language data => buildDataobjLanguage env data
  | timingAdvance tadv => buildDataobjTimingAdvance tadv
  | bufferSize bufSize => buildDataobjBufferSize bufSize
  | otherAddress addr => buildDataobjOtherAddress addr
  | uiccTeInterface iface => buildDataobjUiccTeInterface iface
  | displayParameters params => buildDataobjDisplayParameters params
  | serviceRecord record => buildDataobjServiceRecord record
  | remoteEntityAddress addr => buildDataobjRemoteEntityAddress addr
  | mmsId id => buildDataobjMmsId id
  | framesInformation info => buildDataobjFramesInformation info
  | registryApplicationData port type name => buildDataobjRegistryApplicationData env ⟨port, type, name.string⟩

end StkObject

/-- The same frames, as far as they are counted. -/
def SameFrames (a b : StkFramesInfo) : Prop :=
  a.id = b.id ∧ a.len = b.len ∧ a.list.take a.len = b.list.take b.len

namespace StkObject

/-- The handler of the type succeeds on the value of a TLV and yields the same value. -/
def ReadsAs (g : GConvert) (value : List UInt8) : StkObject → Prop
  | address addr =>
    ∃ number, addr.number = some number ∧ parseDataobjAddress value = .ok ⟨addr.tonNpi, number.bytes⟩
  | alphaId data => ∃ t, data = some t ∧ parseDataobjAlphaId g value = .ok (some t.string.bytes)
  | subaddress sa => parseDataobjSubaddress value = .ok sa
  | ccp c => parseDataobjCcp value = .ok c
  | duration d => parseDataobjDuration value = .ok d
  | itemId id => parseDataobjItemId value = .ok id
  | result r => parseDataobjResult value = .ok r
  | text data _ _ => ∃ t, data = some t ∧ parseDataobjText g value = .ok t.string.bytes
  | ussdString ussd => parseDataobjUssd value = .ok ussd
  | fileList files => parseDataobjFileList value = .ok files
  | locationInfo li => ∃ li', parseDataobjLocationInfo value = .ok li' ∧ SameLocation li' li
  | imei data => ∃ s, data = some s ∧ ∃ r, parseDataobjImei value = .ok r ∧ r.bytes = s.bytes
  | imeisv data => ∃ s, data = some s ∧ ∃ r, parseDataobjImeisv value = .ok r ∧ r.bytes = s.bytes
  | eventList list => parseDataobjEventList value = .ok list
  | cause c => parseDataobjCause value = .ok c
  | transactionIds id => parseDataobjTransactionId value = .ok id
  | bcchChannelList list => parseDataobjBcchChannelList value = .ok list
  | timerValue v => parseDataobjTimerValue value = .ok v
  | datetimeTimezone scts => ∃ scts', parseDataobjDatetimeTimezone value = .ok scts' ∧ SameTime scts' scts
  | language data => ∃ s, data = some s ∧ ∃ r, parseDataobjLanguage value = .ok r ∧ r.bytes = s.bytes
  | timingAdvance tadv => parseDataobjTimingAdvance value = .ok tadv
  | bufferSize bufSize => parseDataobjBufferSize value = .ok bufSize
  | otherAddress addr => ∃ a, addr = some a ∧ parseDataobjOtherAddress value = .ok a
  | uiccTeInterface iface => parseDataobjUiccTeInterface value = .ok iface
  | displayParameters params => parseDataobjDisplayParameters value = .ok params
  | serviceRecord record => parseDataobjServiceRecord value = .ok record
  | remoteEntityAddress addr => ∃ a, addr = some a ∧ parseDataobjRemoteEntityAddress value = .ok a
  | mmsId id => parseDataobjMmsId value = .ok id
  | framesInformation info => ∃ info', parseDataobjFramesInfo value = .ok info' ∧ SameFrames info' info
  | registryApplicationData port type name =>
    parseDataobjRegistryApplicationData g value = .ok ⟨port, type, name.string.bytes⟩

/-- The ranges of the values: ten bits for a channel, and no text that leaves seven bits of
its last octet. -/
def InRange : StkObject → Prop
  | bcchChannelList list => ∀ c ∈ list.channels, c.toNat ≤ 1023
  | text (some t) true false => (gsmOctets .default .default t.chars).length % 8 ≠ 7
  | _ => True

/-- What comes back. -/
def Survives : StkObject → Prop
  | address addr => ∃ number, addr.number = some number ∧ number.bytes ≠ [] ∧ ∀ c ∈ number.bytes, IsBcdDigit c
  | alphaId data => ∃ t, data = some t ∧ t.chars ≠ [] ∧ '\uffff' ∉ t.chars
  | subaddress sa => sa.subaddr.octets ≠ []
  | ccp _ => False
  | result r => r.additional ≠ []
  | text data packed yesno =>
    ∃ t, data = some t ∧
      if yesno then t.chars = ['£']
      else if packed then NoBlank t.chars ∧ PackedBack t.chars
      else Gsm.convertUtf8ToGsm (utf8 t.chars) = none ∨ NoBlank t.chars
  | ussdString ussd => ussd.string.octets ≠ []
  | fileList files => files ≠ [] ∧ ∀ f ∈ files, IsPath f
  | locationInfo li =>
    ((∀ c ∈ li.mcc.bytes, IsDigit c) ∧ ∀ c ∈ li.mnc.bytes, IsDigit c) ∧ li.hasEutranCi = false ∧
      (li.hasExtCi = true → li.hasCi = true)
  | imei data => ∃ s, data = some s ∧ ∀ c ∈ s.bytes, IsDigit c
  | imeisv data => ∃ s, data = some s ∧ ∀ c ∈ s.bytes, IsDigit c
  | cause c => c.cause.octets.length ≠ 1
  | transactionIds id => id.octets ≠ []
  | bcchChannelList list => list.channels ≠ [] ∧ Separate list.channels
  | timerValue value => value.hour.toNat ≤ 159 ∧ value.minute.toNat ≤ 159 ∧ value.second.toNat ≤ 159
  | language data => ∃ s, data = some s ∧ s.bytes.length ≤ 2
  | timingAdvance tadv => tadv.hasValue = true
  | serviceRecord record => record.servRec ≠ []
  | framesInformation info => info.len = 0 ∧ info.id = 0
  | registryApplicationData _ _ name =>
    name.chars ≠ [] ∧ (Gsm.convertUtf8ToGsm (utf8 name.chars) = none ∨ NoBlank name.chars)
  | duration _ | itemId _ | eventList _ | datetimeTimezone _ | bufferSize _ | otherAddress _
  | uiccTeInterface _ | displayParameters _ | remoteEntityAddress _ | mmsId _ => True

end StkObject

/-! ## Values of octets -/

variable {size : ℕ}

lemma parseCheckedArray_octets (a : Filled size) : parseCheckedArray size a.octets = .ok a := by
  unfold parseCheckedArray
  rw [if_neg (Nat.not_lt.mpr a.fits), Filled.store_octets, orFault_some]

lemma parseFilled_octets (a : Filled size) :
    (if a.octets.length < 1 then .reject else parseCheckedArray size a.octets) = .ok a ↔ a.octets ≠ [] := by
  rw [parseCheckedArray_octets, ← length_pos_iff]
  split_ifs with hempty
  · exact iff_of_false (fun h => nomatch h) (by omega)
  · exact iff_of_true rfl (by omega)

lemma parseUncheckedArray_octets {a : Filled size} (hne : a.octets.length ≠ 0) :
    parseUncheckedArray size a.octets = .ok a := by
  unfold parseUncheckedArray
  rw [if_neg (by omega), Filled.store_octets, orFault_some]

lemma parseDataobjSubaddress_octets {sa : StkSubaddress} (hhas : sa.hasSubaddr = true) :
    parseDataobjSubaddress sa.subaddr.octets = .ok sa ↔ sa.subaddr.octets ≠ [] := by
  unfold parseDataobjSubaddress
  rw [parseCheckedArray_octets, ← length_pos_iff]
  split_ifs with hempty
  · exact iff_of_false (fun h => nomatch h) (by omega)
  · exact iff_of_true (congrArg (fun has => Outcome.ok (StkSubaddress.mk has sa.subaddr)) hhas.symm) (by omega)

lemma parseDataobjCcp_octets (ccp : Filled 16) (count : UInt8) :
    parseDataobjCcp (count :: ccp.octets) ≠ .ok ccp := by
  intro h
  unfold parseDataobjCcp parseCheckedArray at h
  rw [if_neg (by simp)] at h
  split_ifs at h with hlong
  rw [Filled.store_eq_some (by omega), orFault_some, Outcome.ok.injEq] at h
  have hlen := congrArg (fun a : Filled 16 => a.octets.length) h
  simp only [length_cons] at hlen
  omega

lemma parseDataobjDuration_octets (d : StkDuration) (hne : d.interval ≠ 0) :
    parseDataobjDuration [d.unit.octet, d.interval] = .ok d := by
  rcases d with ⟨unit, interval⟩
  unfold parseDataobjDuration
  simp only [length_cons, length_nil, ne_eq, not_true_eq_false, if_false, dataAt_zero, dataAt_succ,
    ok_bind]
  cases unit <;> simp [StkDurationType.octet, StkDurationType.ofOctet, hne]

lemma parseDataobjResult_octets (r : StkResult) :
    parseDataobjResult (r.type :: r.additional) = .ok r ↔ r.additional ≠ [] := by
  unfold parseDataobjResult restOnHeap gTryMalloc
  simp only [length_cons, Nat.add_sub_cancel, dataAt_zero, ok_bind, readOctets_tail]
  rw [← length_pos_iff, if_neg (by omega)]
  split_ifs with hneeds hzero
  · exact iff_of_false (fun h => nomatch h) (by omega)
  · exact iff_of_false (fun h => nomatch h) (by omega)
  · exact iff_of_true rfl (by omega)

lemma parseDataobjUssd_octets (ussd : StkUssdString) :
    parseDataobjUssd (ussd.dcs :: ussd.string.octets) = .ok ussd ↔ ussd.string.octets ≠ [] := by
  have hfits := ussd.string.fits
  unfold parseDataobjUssd
  simp only [length_cons, Nat.add_sub_cancel, dataAt_zero, ok_bind, readOctets_tail]
  rw [← length_pos_iff, Filled.store_octets]
  split_ifs with hshort
  · exact iff_of_false (fun h => nomatch h) (by omega)
  · exact iff_of_true rfl (by omega)

lemma parseDataobjEventList_octets (list : Filled 21) : parseDataobjEventList list.octets = .ok list := by
  unfold parseDataobjEventList
  rw [parseCheckedArray_octets]
  split_ifs with hempty
  · exact congrArg Outcome.ok (Filled.ext (eq_nil_of_length_eq_zero hempty).symm)
  · rfl

lemma parseDataobjCause_octets {c : StkCause} (hhas : c.hasCause = true) :
    parseDataobjCause c.cause.octets = .ok c ↔ c.cause.octets.length ≠ 1 := by
  have hback : ∀ a : Filled 30, a = c.cause → Outcome.ok (StkCause.mk true a) = .ok c := by
    rintro a rfl
    exact congrArg (fun has => Outcome.ok (StkCause.mk has c.cause)) hhas.symm
  have hfits := c.cause.fits
  unfold parseDataobjCause
  rw [Filled.store_octets]
  split_ifs with hone hzero
  · exact iff_of_false (fun h => nomatch h) (by omega)
  · exact iff_of_true (hback _ (Filled.ext (eq_nil_of_length_eq_zero hzero).symm)) (by omega)
  · exact iff_of_true (hback _ rfl) (by omega)

/-- Two characters of a language are what is written, whatever is behind them. -/
lemma parseDataobjLanguage_readPast (env : StkEnv) (s : HeapString) : (∃ r, parseDataobjLanguage
    (env.readPast (s.bytes ++ [0]) 2) = .ok r ∧ r.bytes = s.bytes) ↔ s.bytes.length ≤ 2 := by
  have hlen : (env.readPast (s.bytes ++ [0]) 2).length = 2 := by
    unfold StkEnv.readPast
    rw [length_take, length_append, length_map, length_range]
    omega
  unfold parseDataobjLanguage
  rw [if_neg (not_not.mpr hlen), store_bytes_eq (by omega)]
  unfold StkEnv.readPast
  rcases s with ⟨_ | ⟨a, _ | ⟨b, _ | ⟨c, l⟩⟩⟩, hnul⟩
  · simp [CString.untilNul_cons]
  · have ha : a ≠ 0 := fun h => hnul (by simp [h])
    simp [CString.untilNul_cons, ha]
  · have ha : a ≠ 0 := fun h => hnul (by simp [h])
    have hb : b ≠ 0 := fun h => hnul (by simp [h])
    simp [ha, hb, CString.untilNul]
  · have ha : a ≠ 0 := fun h => hnul (by simp [h])
    have hb : b ≠ 0 := fun h => hnul (by simp [h])
    simp [ha, hb, CString.untilNul]

lemma parseDataobjTimingAdvance_octets (tadv : StkTimingAdvance) :
    parseDataobjTimingAdvance [tadv.status, tadv.advance] = .ok tadv ↔ tadv.hasValue = true := by
  rcases tadv with ⟨has, status, advance⟩
  simp [parseDataobjTimingAdvance, eq_comm]

lemma parseDataobjBufferSize_octets (bufSize : UInt16) :
    parseDataobjBufferSize (shortOctets bufSize) = .ok bufSize := by
  simp [parseDataobjBufferSize]

lemma addressBytes_octets (a : UInt8) (addr : Buf size) :
    addressBytes (a :: addr.octets) size = .ok addr := by
  have hlen := addr.length_eq
  have hread := readOctets_tail a addr.octets
  rw [hlen] at hread
  have hfits : 0 + addr.octets.length ≤ size := by omega
  rcases Buf.write_eq_some (b := Buf.zero size) hfits with ⟨b, hb, hoctets⟩
  have hdrop : (Buf.zero size).octets.drop (0 + addr.octets.length) = [] := by
    rw [drop_eq_nil_iff, (Buf.zero size).length_eq]
    omega
  rw [take_zero, nil_append, hdrop, append_nil] at hoctets
  unfold addressBytes
  rw [hread, ok_bind, hb, orFault_some, Buf.ext hoctets]

lemma parseDataobjOtherAddress_value (addr : StkOtherAddress) :
    parseDataobjOtherAddress addr.value = .ok addr := by
  rcases addr with _ | addr | addr
  · rfl
  · have hlen := addr.length_eq
    simp [parseDataobjOtherAddress, StkOtherAddress.value, hlen, addressBytes_octets]
  · have hlen := addr.length_eq
    simp [parseDataobjOtherAddress, StkOtherAddress.value, hlen, addressBytes_octets]

lemma parseDataobjRemoteEntityAddress_value (addr : StkRemoteEntityAddress) :
    parseDataobjRemoteEntityAddress addr.value = .ok addr := by
  rcases addr with addr | addr
  · have hlen := addr.length_eq
    simp [parseDataobjRemoteEntityAddress, StkRemoteEntityAddress.value, hlen, addressBytes_octets]
  · have hlen := addr.length_eq
    simp [parseDataobjRemoteEntityAddress, StkRemoteEntityAddress.value, hlen, addressBytes_octets]

lemma parseDataobjUiccTeInterface_octets (iface : StkUiccTeInterface) :
    parseDataobjUiccTeInterface (iface.protocol :: shortOctets iface.port) = .ok iface := by
  simp [parseDataobjUiccTeInterface]

lemma parseDataobjDisplayParameters_octets (params : StkDisplayParameters) :
    parseDataobjDisplayParameters [params.height, params.width, params.effects] = .ok params := by
  simp [parseDataobjDisplayParameters]

lemma parseDataobjServiceRecord_octets (record : StkServiceRecord) : parseDataobjServiceRecord
    (record.techId :: record.servId :: record.servRec) = .ok record ↔ record.servRec ≠ [] := by
  have hread : readOctets (record.techId :: record.servId :: record.servRec) 2 record.servRec.length =
      .ok record.servRec := readOctets_append [record.techId, record.servId] record.servRec
  have hrest : (record.techId :: record.servId :: record.servRec).length - 2 = record.servRec.length := by simp
  unfold parseDataobjServiceRecord restOnHeap gTryMalloc
  rw [hrest, hread, ← length_pos_iff]
  simp only [length_cons, dataAt_zero, dataAt_succ, ok_bind]
  split_ifs with hshort hzero
  · exact iff_of_false (fun h => nomatch h) (by omega)
  · omega
  · exact iff_of_true rfl (by omega)

lemma parseDataobjFramesInfo_ok {value : List UInt8} {info : StkFramesInfo} (hlen : value.length ≤ 255)
    (h : parseDataobjFramesInfo value = .ok info) :
    value = [0] ∧ info = ⟨0, [], Nat.zero_le _, 0⟩ := by
  rcases value with _ | ⟨id, value⟩
  · cases h
  · have hnot : ¬ HasFrames (id :: value) := by
      intro hframes
      have hfault := (parseDataobjFramesInfo_fault_iff (id :: value)).mpr ⟨hframes, by
        have hlong := hframes.1
        omega⟩
      rw [hfault] at h
      cases h
    unfold parseDataobjFramesInfo at h
    unfold HasFrames at hnot
    rw [Nat.mod_eq_of_lt (by omega)] at h hnot
    simp only [dataAt_zero, ok_bind] at h
    split_ifs at h with hshort hid hone heven hsingle
    · have hvalue : value = [] := by
        rw [length_cons] at hsingle
        exact eq_nil_of_length_eq_zero (by omega)
      have hzero : id = 0 := by
        by_contra hne
        exact hone (.inl ⟨hsingle, hne⟩)
      rw [hvalue, hzero]
      exact ⟨rfl, (Outcome.ok.inj h).symm⟩
    · refine absurd ⟨by omega, by omega, id, rfl, ?_, UInt8.not_lt.mp hid⟩ hnot
      intro hzero
      exact hone (.inr ⟨by omega, hzero⟩)

/-! ## What is written and read -/

/-- What is written, if anything, has the property just when the condition holds. -/
def Reads (w : DataobjWriter) (type : DataObjectType) (P : List UInt8 → Prop) (C : Prop) : Prop :=
  ∀ cr b b' es, Closed b es → w cr b = .ok b' →
    b' = b ∨ ∃ e : CompTlv, e.cr = cr ∧ e.tag = type.code ∧ Closed b' (es ++ [e]) ∧ (P e.value ↔ C)

lemma Writes.reads {w : DataobjWriter} {type : DataObjectType} {P R : List UInt8 → Prop} {C : Prop}
    (h : Writes w type R) (hread : ∀ os, R os → (P os ↔ C)) : Reads w type P C := by
  intro cr b b' es hclosed hok
  rcases h cr b b' es hclosed hok with hsame | ⟨os, -, hos, -, -, hclosed', -⟩
  · exact .inl hsame
  · exact .inr ⟨⟨cr, type.code, os⟩, rfl, rfl, hclosed', hread os hos⟩

section Text

variable {env : StkEnv}

lemma parseDataobjText_answer (g : GConvert) :
    parseDataobjText g [0x04, 0x01] = .ok (utf8 ['£']) ∧ parseDataobjText g [0x04, 0x00] = .ok (utf8 ['@']) := by
  constructor
  · have hdecode : decodeText g 0x04 [0x01] = some (utf8 ['£']) := by
      show (Gsm.convertGsmToUtf8 [0x01]).map CString.untilNul = _
      decide
    show Outcome.orReject (decodeText g 0x04 [0x01]) = _
    rw [hdecode]
    rfl
  · have hdecode : decodeText g 0x04 [0x00] = some (utf8 ['@']) := by
      show (Gsm.convertGsmToUtf8 [0x00]).map CString.untilNul = _
      decide
    show Outcome.orReject (decodeText g 0x04 [0x00]) = _
    rw [hdecode]
    rfl

/-- A text in packed septets may be longer than its container; what was written of it is
read. -/
lemma reads_packed (t : Text) (hrange : (gsmOctets .default .default t.chars).length % 8 ≠ 7) :
    Reads (fun cr => container cr .text true (StkTlvBuilder.appendGsmPacked env t.string.bytes)) .text
      (fun value => parseDataobjText env.conv value = .ok t.string.bytes)
      (NoBlank t.chars ∧ PackedBack t.chars) := by
  intro cr b b' es hclosed hok
  have hpacked : ∀ b₁ b₂, Open b₁ es ⟨⟨cr, DataObjectType.text.code, []⟩, 0xff⟩ →
      b₁.appendGsmPacked env t.string.bytes = .ok b₂ →
      ∃ os, (os = packedOctets env t.chars ∧ PackedFits t.chars) ∧ b₁.copy os = .ok b₂ := by
    intro b₁ b₂ hopen hfill
    rcases appendGsmPacked_eq_ok hfill with ⟨hcopy, hfits⟩
    exact ⟨_, ⟨rfl, hfits hopen.maxLen.le⟩, hcopy⟩
  rcases hclosed.container_copy hpacked hok with ⟨e, os, ⟨rfl, hfits⟩, hagree, hclosed', -⟩
  refine .inr ⟨e, hagree.cr, hagree.tag, hclosed', ?_⟩
  exact parseDataobjText_packed env.conv t.no_nul hfits hrange hagree.length hagree.octets

lemma reads_text (hexact : env.Exact) (data : Option Text) (packed yesno : Bool)
    (hrange : (StkObject.text data packed yesno).InRange) : Reads
    (buildDataobjText env ⟨data.map Text.string, packed, yesno⟩) .text (fun value => (StkObject.text
    data packed yesno).ReadsAs env.conv value) (StkObject.text data packed yesno).Survives := by
  rcases data with _ | t
  · -- there is no text that could come back
    have hnone : ∀ value, (StkObject.text none packed yesno).ReadsAs env.conv value ↔
        (StkObject.text none packed yesno).Survives := by
      intro value
      simp [StkObject.ReadsAs, StkObject.Survives]
    cases yesno
    · exact Writes.reads (R := fun _ => True) writes_nothing fun os _ => hnone os
    · exact (writes_behind 0x04 (appends_byte 0x00) true).reads fun os _ => hnone os
  · have hsome : ∀ value, (StkObject.text (some t) packed yesno).ReadsAs env.conv value ↔
        parseDataobjText env.conv value = .ok (utf8 t.chars) := by
      intro value
      simp only [StkObject.ReadsAs, Option.some.injEq, exists_eq_left']
      exact Iff.rfl
    have hsurvives : (StkObject.text (some t) packed yesno).Survives ↔
        if yesno then t.chars = ['£']
        else if packed then NoBlank t.chars ∧ PackedBack t.chars
        else Gsm.convertUtf8ToGsm (utf8 t.chars) = none ∨ NoBlank t.chars := by
      simp only [StkObject.Survives, Option.some.injEq, exists_eq_left']
    simp only [hsome, hsurvives]
    rcases yesno with _ | _
    · rcases packed with _ | _
      · have hwrites : Writes (fun cr => container cr .text true (StkTlvBuilder.appendText env (utf8 t.chars)))
            .text fun os => os = textOctets t.chars ∧ Ucs2IfNotGsm t.chars := by
          refine writes_some (fun b b' _ _ hok => ?_) true
          rcases appendText_eq_ok hexact hok with ⟨hcopy, hroom, hucs2⟩
          exact ⟨_, ⟨rfl, hucs2⟩, hcopy, hroom⟩
        refine hwrites.reads ?_
        rintro os ⟨rfl, hucs2⟩
        exact parseDataobjText_octets hexact.conv t.no_nul hucs2
      · exact reads_packed t hrange
    · refine (writes_behind 0x04 (appends_byte 0x01) true).reads ?_
      rintro os rfl
      rw [(parseDataobjText_answer env.conv).1, Outcome.ok.injEq, utf8_inj, if_pos rfl]
      exact eq_comm

end Text

section Others

variable {env : StkEnv}

lemma reads_alphaId (hexact : env.Exact) (data : Option Text) :
    Reads (buildDataobjAlphaId env (data.map Text.string)) .alphaId
      (fun value => (StkObject.alphaId data).ReadsAs env.conv value) (StkObject.alphaId data).Survives := by
  refine (writes_alphaId env (data.map Text.string)).reads ?_
  rintro os ⟨s, hs, hos⟩
  rcases Option.map_eq_some_iff.mp hs with ⟨t, rfl, rfl⟩
  simp only [StkObject.ReadsAs, StkObject.Survives, Option.some.injEq, exists_eq_left']
  rcases hos with ⟨hempty, rfl⟩ | ⟨hne, r, hr, rfl⟩
  · have hchars : t.chars = [] := by
      by_contra hne
      have hpos := utf8_ne_nil hne
      exact hpos.ne' hempty
    refine iff_of_false (fun h => ?_) (fun h => h.1 hchars)
    cases h
  · have hchars : t.chars ≠ [] := by
      intro hempty
      refine hne ?_
      show (utf8 t.chars).length = 0
      rw [hempty]
      rfl
    rcases utf8ToSimString_eq_ok hexact.conv hr with ⟨hbasic, htake⟩
    rw [htake]
    exact (parseDataobjAlphaId_ucs2 hexact.conv t.no_nul hbasic).trans (and_iff_right hchars).symm

lemma reads_address (addr : StkAddressOf) (g : GConvert) : Reads (buildDataobjAddress addr) .address
    (fun value => (StkObject.address addr).ReadsAs g value) (StkObject.address addr).Survives := by
  refine (writes_bcdString .address addr).reads ?_
  rintro os ⟨number, hnumber, rfl⟩
  simp only [StkObject.ReadsAs, StkObject.Survives, hnumber, Option.some.injEq, exists_eq_left']
  rw [← parseBcdString_encode addr.tonNpi number]
  unfold parseDataobjAddress
  rcases parseBcdString (addr.tonNpi :: simEncodeBcdNumber number.bytes) with r | _ | _
  · simp [Prod.ext_iff]
  · simp
  · simp

lemma reads_framesInformation (info : StkFramesInfo) (g : GConvert) : Reads
    (buildDataobjFramesInformation info) .framesInfo (fun value => (StkObject.framesInformation
    info).ReadsAs g value) (StkObject.framesInformation info).Survives := by
  refine (writes_framesInformation info).short.reads ?_
  rintro os ⟨rfl, hlen⟩
  constructor
  · rintro ⟨info', hok, hsame⟩
    rcases parseDataobjFramesInfo_ok hlen hok with ⟨hvalue, rfl⟩
    refine ⟨hsame.2.1.symm, ?_⟩
    exact hsame.1.symm
  · rintro ⟨hzero, hid⟩
    rw [hzero, hid]
    refine ⟨⟨0, [], Nat.zero_le _, 0⟩, rfl, hid.symm, hzero.symm, ?_⟩
    rw [hzero]
    rfl

lemma reads_registryApplicationData (hexact : env.Exact) (port : UInt16) (type : UInt8) (name : Text) :
    Reads (buildDataobjRegistryApplicationData env ⟨port, type, name.string⟩) .registryApplicationData
      (fun value => (StkObject.registryApplicationData port type name).ReadsAs env.conv value)
      (StkObject.registryApplicationData port type name).Survives := by
  refine (writes_registryApplicationData env _).reads ?_
  rintro os ⟨r, hr, rfl⟩
  rcases encodeName_eq_ok hexact hr with ⟨rfl, hucs2⟩
  exact parseDataobjRegistryApplicationData_octets hexact.conv name.no_nul hucs2 port type

end Others

/-- For each type: what is written is read as the value just when that comes back. -/
lemma StkObject.reads {env : StkEnv} (hexact : env.Exact) (obj : StkObject) (hrange : obj.InRange) :
    Reads (obj.build env) obj.type (fun value => obj.ReadsAs env.conv value) obj.Survives := by
  have htrue : ∀ {p : Prop}, p → (p ↔ True) := fun hp => iff_of_true hp trivial
  cases obj with
  | address addr => exact reads_address addr env.conv
  | alphaId data => exact reads_alphaId hexact data
  | subaddress sa =>
    refine (writes_subaddress sa).reads ?_
    rintro os ⟨hhas, rfl⟩
    exact parseDataobjSubaddress_octets hhas
  | ccp c =>
    refine (writes_ccp c).reads ?_
    rintro os rfl
    exact iff_of_false (parseDataobjCcp_octets c _) not_false
  | duration d =>
    refine (writes_duration d).reads ?_
    rintro os ⟨hne, rfl⟩
    exact htrue (parseDataobjDuration_octets d hne)
  | itemId id =>
    refine (writes_itemId id).reads ?_
    rintro os rfl
    exact htrue rfl
  | result r =>
    refine (writes_result r).reads ?_
    rintro os rfl
    exact parseDataobjResult_octets r
  | text data packed yesno => exact reads_text hexact data packed yesno hrange
  | ussdString ussd =>
    refine (writes_ussdString ussd).reads ?_
    rintro os rfl
    exact parseDataobjUssd_octets ussd
  | fileList files =>
    refine (writes_fileList files).reads ?_
    rintro os rfl
    exact parseDataobjFileList_octets files _
  | locationInfo li =>
    refine (writes_locationInfo li).reads ?_
    rintro os rfl
    exact parseDataobjLocationInfo_octets li
  | imei data =>
    refine (writes_imei data).reads ?_
    rintro os ⟨s, rfl, hlen, rfl⟩
    simp only [StkObject.ReadsAs, StkObject.Survives, Option.some.injEq, exists_eq_left']
    exact parseDataobjImei_encode s hlen
  | imeisv data =>
    refine (writes_imeisv data).reads ?_
    rintro os ⟨s, rfl, hlen, rfl⟩
    simp only [StkObject.ReadsAs, StkObject.Survives, Option.some.injEq, exists_eq_left']
    exact parseDataobjImeisv_encode s hlen
  | eventList list =>
    refine (writes_octets .eventList false list.octets).reads ?_
    rintro os rfl
    exact htrue (parseDataobjEventList_octets list)
  | cause c =>
    refine (writes_cause c).reads ?_
    rintro os ⟨hhas, rfl⟩
    exact parseDataobjCause_octets hhas
  | transactionIds id =>
    refine (writes_octets .transactionId false id.octets).reads ?_
    rintro os rfl
    exact parseFilled_octets id
  | bcchChannelList list =>
    refine (writes_bcchChannelList list).reads ?_
    rintro os ⟨hhas, rfl⟩
    have hread := parseDataobjBcchChannelList_octets hrange list.fits
    rcases list with ⟨has, channels, hfits⟩
    subst hhas
    exact hread
  | timerValue value =>
    refine (writes_timerValue value).reads ?_
    rintro os ⟨hhas, rfl⟩
    have hread := parseDataobjTimerValue_octets value
    rcases value with ⟨has, hour, minute, second⟩
    subst hhas
    exact hread
  | datetimeTimezone scts =>
    refine (writes_datetimeTimezone scts).reads ?_
    intro os hos
    exact htrue (parseDataobjDatetimeTimezone_encode hos)
  | language data =>
    refine (writes_language env data).reads ?_
    rintro os ⟨s, rfl, rfl⟩
    simp only [StkObject.ReadsAs, StkObject.Survives, Option.some.injEq, exists_eq_left']
    exact parseDataobjLanguage_readPast env s
  | timingAdvance tadv =>
    refine (writes_timingAdvance tadv).reads ?_
    rintro os rfl
    exact parseDataobjTimingAdvance_octets tadv
  | bufferSize bufSize =>
    refine (writes_bufferSize bufSize).reads ?_
    rintro os rfl
    exact htrue (parseDataobjBufferSize_octets bufSize)
  | otherAddress addr =>
    refine (writes_otherAddress addr).reads ?_
    rintro os ⟨a, rfl, rfl⟩
    exact htrue ⟨a, rfl, parseDataobjOtherAddress_value a⟩
  | uiccTeInterface iface =>
    refine (writes_uiccTeInterface iface).reads ?_
    rintro os rfl
    exact htrue (parseDataobjUiccTeInterface_octets iface)
  | displayParameters params =>
    refine (writes_displayParameters params).reads ?_
    rintro os rfl
    exact htrue (parseDataobjDisplayParameters_octets params)
  | serviceRecord record =>
    refine (writes_serviceRecord record).reads ?_
    rintro os rfl
    exact parseDataobjServiceRecord_octets record
  | remoteEntityAddress addr =>
    refine (writes_remoteEntityAddress addr).reads ?_
    rintro os ⟨a, rfl, rfl⟩
    exact htrue ⟨a, rfl, parseDataobjRemoteEntityAddress_value a⟩
  | mmsId id =>
    refine (writes_mmsId id).reads ?_
    rintro os ⟨hne, rfl⟩
    exact htrue (parseUncheckedArray_octets hne)
  | framesInformation info => exact reads_framesInformation info env.conv
  | registryApplicationData port type name => exact reads_registryApplicationData hexact port type name

/-! ## Round trips -/

/-- The octets that the builder has taken are one TLV of the type, and the handler makes the
same value of it. -/
def RoundTrips (env : StkEnv) (obj : StkObject) (cr : Bool) (b b' : StkTlvBuilder) : Prop :=
  ∃ tlv, comprehensionTlvIterNext (newOctets b b') = some (tlv, []) ∧ tlv.tag = obj.type.code ∧
    tlv.cr = cr ∧ obj.ReadsAs env.conv tlv.value

/-- A builder that has written its data object: the handler yields the same value just when
that is one that comes back. -/
theorem builder_round_trip {env : StkEnv} (hexact : env.Exact) {obj : StkObject} (hrange : obj.InRange)
    {cr : Bool} {b b' : StkTlvBuilder} {es : List CompTlv} (hclosed : Closed b es)
    (hok : obj.build env cr b = .ok b') (hwritten : b.ctlv.used < b'.ctlv.used) :
    RoundTrips env obj cr b b' ↔ obj.Survives := by
  rcases obj.reads hexact hrange cr b b' es hclosed hok with rfl | ⟨e, hcr, htag, hclosed', hread⟩
  · exact absurd hwritten (Nat.lt_irrefl _)
  · have hnext := (hclosed.next_new hclosed').1
    unfold RoundTrips
    rw [hnext]
    constructor
    · rintro ⟨tlv, heq, -, -, hreads⟩
      rw [Option.some.injEq, Prod.mk.injEq] at heq
      rw [← heq.1] at hreads
      exact hread.mp hreads
    · intro hsurvives
      exact ⟨e, rfl, htag, hcr, hread.mpr hsurvives⟩

/-- An exact converter, and zeros behind every block of the heap. -/
def exactEnv : StkEnv := ⟨Sms.ucs2Codec, Sms.ucs2Codec.utf8ToUcs2, fun _ => 0⟩

lemma exactEnv_exact : exactEnv.Exact := ⟨Sms.ucs2Codec_exact, Sms.ucs2Codec_exact.toUcs2⟩

/-- A builder on 512 octets of zeros. -/
def freshBuilder : StkTlvBuilder := ⟨⟨⟨512, 0, 0, 0⟩, [], Memory.write (fun _ => 0) 0 [0]⟩, 0, 0, 0, []⟩

lemma freshBuilder_closed : Closed freshBuilder [] :=
  (StkTlvBuilder.closed_init (show StkTlvBuilder.init 0 512 (fun _ => 0) = some freshBuilder from rfl)
    (by decide)).1

/-- The builder has succeeded and taken some octets. -/
def wrote (b : StkTlvBuilder) (r : Outcome StkTlvBuilder) : Bool :=
  match r with
  | .ok b' => b.ctlv.used < b'.ctlv.used
  | _ => false

lemma wrote_eq_true {b : StkTlvBuilder} {r : Outcome StkTlvBuilder} (h : wrote b r = true) :
    ∃ b', r = .ok b' ∧ b.ctlv.used < b'.ctlv.used := by
  unfold wrote at h
  split at h
  · exact ⟨_, rfl, of_decide_eq_true h⟩
  · cases h

theorem builder_round_trip_item : ∃ b', (StkObject.itemId 5).build exactEnv true freshBuilder = .ok
    b' ∧ (RoundTrips exactEnv (.itemId 5) true freshBuilder b' ↔ True) := by
  rcases wrote_eq_true (show wrote freshBuilder ((StkObject.itemId 5).build exactEnv true freshBuilder) = true by
    decide) with ⟨b', hok, hwritten⟩
  exact ⟨b', hok, @builder_round_trip exactEnv exactEnv_exact (.itemId 5) trivial true freshBuilder b' []
    freshBuilder_closed hok hwritten⟩

/-- Of the channels 1 and 0 the second one is read with a bit of the first. -/
theorem channels_not_round_trip :
    ∃ obj b', StkObject.InRange obj ∧ obj.build exactEnv false freshBuilder = .ok b' ∧
      freshBuilder.ctlv.used < b'.ctlv.used ∧ ¬ RoundTrips exactEnv obj false freshBuilder b' := by
  have hchannels : ∀ c ∈ [(1 : UInt16), 0], c.toNat ≤ 1023 := by simp
  rcases wrote_eq_true (show wrote freshBuilder
    ((StkObject.bcchChannelList ⟨true, [1, 0], by decide⟩).build exactEnv false freshBuilder) = true by
      decide) with ⟨b', hok, hwritten⟩
  refine ⟨.bcchChannelList ⟨true, [1, 0], by decide⟩, b', hchannels, hok, hwritten, ?_⟩
  rcases StkObject.reads exactEnv_exact (.bcchChannelList ⟨true, [1, 0], by decide⟩) hchannels false _ _ []
    freshBuilder_closed hok with rfl | ⟨e, -, -, hclosed', hread⟩
  · exact absurd hwritten (Nat.lt_irrefl _)
  · rintro ⟨tlv, hnext, -, -, hreads⟩
    rw [(freshBuilder_closed.next_new hclosed').1, Option.some.injEq, Prod.mk.injEq] at hnext
    rw [← hnext.1] at hreads
    have hsecond := (hread.mp hreads).2 1 (by decide)
    exact absurd hsecond (by decide)

end Phonelets.Stk
