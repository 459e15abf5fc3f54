import Phonelets.Sim.CompTlv
import Phonelets.Sim.SimString
import Phonelets.Stk.Types

/-! # Handlers of data objects

A handler takes the value of a TLV and fills a destination, which its callers have set to
zero. A read outside of the value and a write outside of the destination fault.
-/

namespace Phonelets.Stk

open Phonelets.Sim
open Phonelets.Sms (GConvert readOctets smsDcsDecode smsDecodeScts smsDecodeSemiOctet
  extractBcdNumber digitLut decodeTimezone SmsScts)
open Outcome (orReject orFault)

/-! ## Memory -/

/-- `data[i]`. -/
def dataAt (data : List UInt8) (i : ℕ) : Outcome UInt8 := orFault data[i]?

/-- `g_try_malloc`, which has no octets to give for a size of 0. -/
def gTryMalloc (size : ℕ) : Outcome Unit := if size = 0 then .reject else .ok ()

/-- What has been written to `size` octets. -/
def within (size : ℕ) (octets : List UInt8) : Outcome (List UInt8) :=
  if octets.length ≤ size then .ok octets else .fault

/-- The string in `size` octets of the heap, after the characters and a NUL. -/
def heapString (size : ℕ) (chars : List UInt8) : Outcome (List UInt8) := do
  let written ← within size (chars ++ [0])
  return CString.untilNul written

/-- A difference of two `unsigned int`. -/
def unsignedSub (a b : ℕ) : ℕ := (a + 2 ^ 32 - b) % 2 ^ 32

/-! ## Common forms -/

def parseDataobjCommonBool (data : List UInt8) : Outcome Bool :=
  if data.length ≠ 0 then .reject else .ok true

def parseDataobjCommonByte (data : List UInt8) : Outcome UInt8 :=
  if data.length ≠ 1 then .reject else dataAt data 0

def parseDataobjCommonText (data : List UInt8) : Outcome (List UInt8) :=
  if data.length < 1 then .reject
  else do
    gTryMalloc (data.length + 1)
    heapString (data.length + 1) data

def parseDataobjCommonByteArray (data : List UInt8) : Outcome (List UInt8) :=
  if data.length < 1 then .reject
  else do
    gTryMalloc data.length
    within data.length data

/-- A value that goes to an array of `size` octets after a check of its length. -/
def parseCheckedArray (size : ℕ) (data : List UInt8) : Outcome (Filled size) :=
  if data.length > size then .reject else orFault (Filled.store size data)

/-- A value that goes to an array of `size` octets unless it is empty. -/
def parseUncheckedArray (size : ℕ) (data : List UInt8) : Outcome (Filled size) :=
  if data.length < 1 then .reject else orFault (Filled.store size data)

/-- The octets from `from` on, on the heap. -/
def restOnHeap (data : List UInt8) (offset : ℕ) : Outcome (List UInt8) := do
  gTryMalloc (data.length - offset)
  readOctets data offset (data.length - offset)

def simExtractBcdNumber (buf : List UInt8) : List UInt8 :=
  buf.flatMap fun oct => [lut.getD (oct.toNat &&& 0x0f) 0, lut.getD ((oct.toNat &&& 0xf0) >>> 4) 0]
where
  lut : List UInt8 :=
    [0x30, 0x31, 0x32, 0x33, 0x34, 0x35, 0x36, 0x37, 0x38, 0x39, 0x2a, 0x23, 0x63, 0x3f, 0x65, 0]

/-- `sim_parse_mcc_mnc`: the three characters of each. -/
def simParseMccMnc (b₀ b₁ b₂ : UInt8) : List UInt8 × List UInt8 :=
  ([lut.getD (b₀.toNat &&& 0xf) 0, lut.getD (b₀.toNat >>> 4) 0, lut.getD (b₁.toNat &&& 0xf) 0],
    [lut.getD (b₂.toNat &&& 0xf) 0, lut.getD (b₂.toNat >>> 4) 0, lut.getD (b₁.toNat >>> 4) 0])
where
  lut : List UInt8 :=
    [0x30, 0x31, 0x32, 0x33, 0x34, 0x35, 0x36, 0x37, 0x38, 0x39, 0x2a, 0x23, 0x61, 0x62, 0x64, 0]

/-- `decode_text`, as the string it is. -/
def decodeText (g : GConvert) (dcs : UInt8) (data : List UInt8) : Option (List UInt8) :=
  let utf8 := (smsDcsDecode dcs).bind fun info =>
    match info.charset with
    | .sevenBit =>
      (Septets.unpack7bitOwnBuf data 0 false (data.length * 8 / 7)).bind Gsm.convertGsmToUtf8
    | .eightBit => Gsm.convertGsmToUtf8 data
    | .ucs2 => g.ucs2ToUtf8 data
  utf8.map CString.untilNul

/-- A telephone number or a supplementary service, after the octet of its type. -/
def parseBcdString (data : List UInt8) : Outcome (UInt8 × List UInt8) :=
  if data.length < 2 then .reject
  else do
    gTryMalloc (data.length * 2 - 1)
    let tonNpi ← dataAt data 0
    let digits ← readOctets data 1 (data.length - 1)
    let number ← heapString (data.length * 2 - 1) (simExtractBcdNumber digits)
    return (tonNpi, number)

/-! ## Files -/

/-- The cases of the `switch` over the type of a file. -/
def fileTypeAfter (lastType type : UInt8) : Bool :=
  match type.toNat with
  | 0x2f => lastType == 0x3f
  | 0x6f => lastType == 0x7f
  | 0x4f => lastType == 0x5f
  | 0x7f => lastType == 0x3f
  | 0x5f => lastType == 0x7f
  | _ => false

def isElementaryFile (type : UInt8) : Bool := type == 0x2f || type == 0x6f || type == 0x4f

/-- The loop of `stk_file_iter_next` over the octets from `i` on, with `i - pos`: the
length of the path. -/
def filePathLength : UInt8 → ℕ → List UInt8 → Option ℕ
  | _, _, [] => none
  | _, _, [_] => none
  | lastType, n, type :: _ :: rest =>
    if fileTypeAfter lastType type then
      if isElementaryFile type then some (n + 2) else filePathLength type (n + 2) rest
    else none

/-- `stk_file_iter_next` on the octets from `pos` on: the path and the octets behind it. -/
def stkFileIterNext (l : List UInt8) : Option (List UInt8 × List UInt8) :=
  if l.length ≤ 2 then none
  else if l.head? ≠ some 0x3f then none
  else (filePathLength 0x3f 2 (l.drop 2)).map fun len => (l.take (len % 256), l.drop len)

lemma filePathLength_pos {lastType : UInt8} {n len : ℕ} {l : List UInt8}
    (h : filePathLength lastType n l = some len) : n < len := by
  fun_induction filePathLength lastType n l with
  | case1 => cases h
  | case2 => cases h
  | case3 lastType n type b rest hnext helem =>
    cases h
    omega
  | case4 lastType n type b rest hnext helem ih =>
    have hlt := ih h
    omega
  | case5 => cases h

lemma stkFileIterNext_length {l file rest : List UInt8}
    (h : stkFileIterNext l = some (file, rest)) : rest.length < l.length := by
  unfold stkFileIterNext at h
  split at h
  · cases h
  · split at h
    · cases h
    · rcases Option.map_eq_some_iff.mp h with ⟨len, hlen, heq⟩
      cases heq
      have hpos := filePathLength_pos hlen
      rw [List.length_drop]
      omega

/-- The loop of `parse_dataobj_file_list`: the files and what is left. -/
def fileListLoop (l : List UInt8) : Outcome (List StkFile × List UInt8) :=
  match _h : stkFileIterNext l with
  | none => .ok ([], l)
  | some (file, rest) => do
      let sf ← orFault (Filled.store 8 file)
      let r ← fileListLoop rest
      return (sf :: r.1, r.2)
termination_by l.length
decreasing_by exact stkFileIterNext_length _h

/-! ## Data objects -/

def parseDataobjAddress (data : List UInt8) : Outcome StkAddress := do
  let (tonNpi, number) ← parseBcdString data
  return ⟨tonNpi, number⟩

def parseDataobjAlphaId (g : GConvert) (data : List UInt8) : Outcome (Option (List UInt8)) :=
  if data.length = 0 then .ok none
  else do
    let utf8 ← simStringToUtf8 g data
    return some (CString.untilNul utf8)

def parseDataobjSubaddress (data : List UInt8) : Outcome StkSubaddress :=
  if data.length < 1 then .reject
  else do
    let subaddr ← parseCheckedArray 23 data
    return ⟨true, subaddr⟩

def parseDataobjCcp (data : List UInt8) : Outcome (Filled 16) :=
  if data.length < 1 then .reject else parseCheckedArray 16 data

def parseDataobjCbsPage (data : List UInt8) : Outcome (Filled 88) :=
  if data.length < 1 then .reject else parseCheckedArray 88 data

/-- The value of the enumeration for an octet that has been checked. -/
def StkDurationType.ofOctet (b : UInt8) : StkDurationType :=
  if b = 0x00 then .minutes else if b = 0x01 then .seconds else .secondTenths

def parseDataobjDuration (data : List UInt8) : Outcome StkDuration :=
  if data.length ≠ 2 then .reject
  else do
    let unit ← dataAt data 0
    let interval ← dataAt data 1
    if unit > 0x02 then .reject
    else if interval = 0 then .reject
    else return ⟨.ofOctet unit, interval⟩

def parseDataobjItem (g : GConvert) (data : List UInt8) : Outcome StkItem :=
  if data.length = 0 then .ok ⟨0, none⟩
  else if data.length = 1 then .reject
  else do
    let id ← dataAt data 0
    if id = 0 then .reject
    else
      let octets ← readOctets data 1 (data.length - 1)
      let utf8 ← simStringToUtf8 g octets
      return ⟨id, some (CString.untilNul utf8)⟩

def parseDataobjItemId (data : List UInt8) : Outcome UInt8 :=
  if data.length ≠ 1 then .reject else dataAt data 0

def parseDataobjResponseLen (data : List UInt8) : Outcome StkResponseLength :=
  if data.length ≠ 2 then .reject
  else do
    let min ← dataAt data 0
    let max ← dataAt data 1
    return ⟨min, max⟩

/-- The results that have to have additional information. -/
def needsAdditional (type : UInt8) : Bool :=
  type == 0x20 || type == 0x21 || type == 0x26 || type == 0x38 || type == 0x39 ||
    type == 0x3a || type == 0x3c || type == 0x3d

def parseDataobjResult (data : List UInt8) : Outcome StkResult :=
  if data.length < 1 then .reject
  else do
    let type ← dataAt data 0
    if data.length < 2 ∧ needsAdditional type then .reject
    else
      let additional ← restOnHeap data 1
      return ⟨type, additional⟩

def parseDataobjGsmSmsTpdu (data : List UInt8) : Outcome (Filled 184) :=
  if data.length < 1 then .reject else parseCheckedArray 184 data

def parseDataobjSs (data : List UInt8) : Outcome StkSs := do
  let (tonNpi, ss) ← parseBcdString data
  return ⟨tonNpi, ss⟩

def parseDataobjText (g : GConvert) (data : List UInt8) : Outcome (List UInt8) :=
  if data.length ≤ 1 then .ok []
  else do
    let dcs ← dataAt data 0
    let octets ← readOctets data 1 (data.length - 1)
    orReject (decodeText g dcs octets)

def parseDataobjTone (data : List UInt8) : Outcome UInt8 := parseDataobjCommonByte data

def parseDataobjUssd (data : List UInt8) : Outcome StkUssdString :=
  if data.length ≤ 1 ∨ data.length > 161 then .reject
  else do
    let dcs ← dataAt data 0
    let octets ← readOctets data 1 (data.length - 1)
    let string ← orFault (Filled.store 160 octets)
    return ⟨dcs, string⟩

def parseDataobjFileList (data : List UInt8) : Outcome (List StkFile) :=
  if data.length < 5 then .reject
  else do
    let octets ← readOctets data 1 (data.length - 1)
    let (fl, rest) ← fileListLoop octets
    if rest.length ≠ 0 then .reject else return fl

/-- `(data[i] << 8) + data[i + 1]` in an `unsigned short`. -/
def shortAt (data : List UInt8) (i : ℕ) : Outcome UInt16 := do
  let hi ← dataAt data i
  let lo ← dataAt data (i + 1)
  return UInt16.ofNat (hi.toNat <<< 8 + lo.toNat)

/-- An `unsigned short` that is only there in a longer value. -/
def shortIf (present : Bool) (data : List UInt8) (i : ℕ) : Outcome UInt16 :=
  if present then shortAt data i else .ok 0

def parseDataobjLocationInfo (data : List UInt8) : Outcome StkLocationInfo :=
  if data.length ≠ 5 ∧ data.length ≠ 7 ∧ data.length ≠ 9 then .reject
  else do
    let b₀ ← dataAt data 0
    let b₁ ← dataAt data 1
    let b₂ ← dataAt data 2
    let mcc ← orFault (CString.store 4 (simParseMccMnc b₀ b₁ b₂).1)
    let mnc ← orFault (CString.store 4 (simParseMccMnc b₀ b₁ b₂).2)
    let lacTac ← shortAt data 3
    let ci ← shortIf (data.length ≥ 7) data 5
    let extCi ← shortIf (data.length = 9) data 7
    return {
      mcc := mcc, mnc := mnc, lacTac := lacTac
      hasCi := data.length ≥ 7, ci := ci
      hasExtCi := data.length = 9, extCi := extCi
      hasEutranCi := false, eutranCi := 0 }

def parseDataobjImei (data : List UInt8) : Outcome (CString 16) :=
  if data.length ≠ 8 then .reject
  else do
    let b₀ ← dataAt data 0
    if b₀ &&& 0x0f ≠ 0x0a then .reject
    else
      let octets ← readOctets data 1 7
      let first := digitLut.getD ((b₀.toNat &&& 0xf0) >>> 4) 0
      orFault (CString.store 16 (first :: extractBcdNumber octets))

def parseDataobjHelpRequest (data : List UInt8) : Outcome Bool := parseDataobjCommonBool data

def parseDataobjNetworkMeasurementResults (data : List UInt8) : Outcome (Filled 16) :=
  if data.length ≠ 0x10 then .reject else orFault (Filled.store 16 data)

def parseDataobjDefaultText (g : GConvert) (data : List UInt8) : Outcome (List UInt8) :=
  if data.length ≤ 1 then .reject
  else do
    let dcs ← dataAt data 0
    let octets ← readOctets data 1 (data.length - 1)
    orReject (decodeText g dcs octets)

def parseDataobjItemsNextActionIndicator (data : List UInt8) : Outcome (Filled 127) :=
  if data.length < 1 then .reject else parseCheckedArray 127 data

def parseDataobjEventList (data : List UInt8) : Outcome (Filled 21) :=
  if data.length = 0 then .ok (.empty 21) else parseCheckedArray 21 data

def parseDataobjCause (data : List UInt8) : Outcome StkCause :=
  if data.length = 1 ∨ data.length > 30 then .reject
  else if data.length = 0 then .ok ⟨true, .empty 30⟩
  else do
    let cause ← orFault (Filled.store 30 data)
    return ⟨true, cause⟩

def parseDataobjLocationStatus (data : List UInt8) : Outcome UInt8 := parseDataobjCommonByte data

def parseDataobjTransactionId (data : List UInt8) : Outcome (Filled 127) :=
  if data.length < 1 then .reject else parseCheckedArray 127 data

/-- `channels[i]`, of ten bits that start in one octet and end in the next. -/
def bcchChannelAt (data : List UInt8) (i : ℕ) : Outcome UInt16 := do
  let index := i * 10 / 8
  let occupied := i * 10 % 8
  let hi ← dataAt data index
  let lo ← dataAt data (index + 1)
  return UInt16.ofNat (hi.toNat <<< (2 + occupied) + lo.toNat >>> (6 - occupied))

def parseDataobjBcchChannelList (data : List UInt8) : Outcome StkBcchChannelList :=
  if data.length < 1 then .reject
  else do
    let channels ← (List.range (data.length * 8 / 10)).mapM (bcchChannelAt data)
    if h : channels.length ≤ 101 then return ⟨true, channels, h⟩ else .fault

def parseDataobjCallControlRequestedAction (data : List UInt8) : Outcome (List UInt8) :=
  parseDataobjCommonByteArray data

def parseDataobjIconId (data : List UInt8) : Outcome StkIconId :=
  if data.length ≠ 2 then .reject
  else do
    let qualifier ← dataAt data 0
    let id ← dataAt data 1
    return ⟨qualifier, id⟩

def parseDataobjItemIconIdList (data : List UInt8) : Outcome StkItemIconIdList :=
  if data.length < 2 ∨ data.length > 127 then .reject
  else do
    let qualifier ← dataAt data 0
    let octets ← readOctets data 1 (data.length - 1)
    let list ← orFault (Filled.store 126 octets)
    return ⟨qualifier, list⟩

def parseDataobjCardReaderStatus (data : List UInt8) : Outcome UInt8 := parseDataobjCommonByte data

def parseDataobjCardAtr (data : List UInt8) : Outcome (Filled 127) :=
  if data.length < 1 then .reject else parseCheckedArray 127 data

/-- The data of a command APDU, if there are more than five octets, and `pos`. -/
def cApduData (data : List UInt8) : Outcome (Filled 236 × ℕ) :=
  if data.length > 5 then do
    let lc ← dataAt data 4
    let pos := 4 + lc.toNat + 1
    if lc.toNat > 236 then .reject
    else if unsignedSub data.length pos > 1 then .reject
    else
      let octets ← readOctets data 5 lc.toNat
      let stored ← orFault (Filled.store 236 octets)
      return (stored, pos)
  else .ok (.empty 236, 4)

def parseDataobjCApdu (data : List UInt8) : Outcome StkCApdu :=
  if data.length < 4 ∨ data.length > 241 then .reject
  else do
    let cla ← dataAt data 0
    let ins ← dataAt data 1
    let p1 ← dataAt data 2
    let p2 ← dataAt data 3
    let (stored, pos) ← cApduData data
    if unsignedSub data.length pos > 0 then
      let le ← dataAt data (data.length - 1)
      return ⟨cla, ins, p1, p2, stored, true, le⟩
    else return ⟨cla, ins, p1, p2, stored, false, 0⟩

def parseDataobjRApdu (data : List UInt8) : Outcome StkRApdu :=
  if data.length < 2 ∨ data.length > 239 then .reject
  else do
    let sw1 ← dataAt data (data.length - 2)
    let sw2 ← dataAt data (data.length - 1)
    let octets ← readOctets data 0 (data.length - 2)
    let stored ← orFault (Filled.store 237 octets)
    return ⟨sw1, sw2, stored⟩

def parseDataobjTimerId (data : List UInt8) : Outcome UInt8 := parseDataobjCommonByte data

def parseDataobjTimerValue (data : List UInt8) : Outcome StkTimerValue :=
  if data.length ≠ 3 then .reject
  else do
    let hour ← dataAt data 0
    let minute ← dataAt data 1
    let second ← dataAt data 2
    return ⟨true, smsDecodeSemiOctet hour, smsDecodeSemiOctet minute, smsDecodeSemiOctet second⟩

/-- The numbers `sms_decode_scts` has written when it ends, and whether none was above
its limit. -/
def sctsNumbers : List UInt8 → List UInt8 → List UInt8 × Bool
  | max :: limits, oct :: octets =>
    if smsDecodeSemiOctet oct > max then ([smsDecodeSemiOctet oct], false)
    else
      let r := sctsNumbers limits octets
      (smsDecodeSemiOctet oct :: r.1, r.2)
  | _, _ => ([], true)

/-- What a timestamp that is not valid leaves behind. -/
def sctsLeft (octets : List UInt8) : SmsScts :=
  let (numbers, valid) := sctsNumbers [99, 12, 31, 23, 59, 59] octets
  { year := numbers.getD 0 0, month := numbers.getD 1 0, day := numbers.getD 2 0
    hour := numbers.getD 3 0, minute := numbers.getD 4 0, second := numbers.getD 5 0
    hasTimezone := false
    timezone := if valid then decodeTimezone (octets.getD 6 0) else 0 }

def parseDataobjDatetimeTimezone (data : List UInt8) : Outcome SmsScts :=
  if data.length ≠ 7 then .reject
  else do
    let octets ← readOctets data 0 7
    -- the result of the call is not looked at
    match smsDecodeScts (Decoder.on octets []) with
    | .ok (scts, _) => return scts
    | .reject => return sctsLeft octets
    | .fault => .fault

def parseDataobjAtCommand (data : List UInt8) : Outcome (List UInt8) := parseDataobjCommonText data

def parseDataobjAtResponse (data : List UInt8) : Outcome (List UInt8) := parseDataobjCommonText data

def parseDataobjBcRepeatIndicator (data : List UInt8) : Outcome StkBcRepeat := do
  let value ← parseDataobjCommonByte data
  return ⟨true, value⟩

def parseDataobjImmResp (data : List UInt8) : Outcome Bool := parseDataobjCommonBool data

def parseDataobjDtmfString (data : List UInt8) : Outcome (List UInt8) :=
  if data.length < 1 then .reject
  else do
    gTryMalloc (data.length * 2 + 1)
    heapString (data.length * 2 + 1) (simExtractBcdNumber data)

def parseDataobjLanguage (data : List UInt8) : Outcome (CString 3) :=
  if data.length ≠ 2 then .reject else orFault (CString.store 3 data)

def parseDataobjTimingAdvance (data : List UInt8) : Outcome StkTimingAdvance :=
  if data.length ≠ 2 then .reject
  else do
    let status ← dataAt data 0
    let advance ← dataAt data 1
    return ⟨true, status, advance⟩

def parseDataobjBrowserId (data : List UInt8) : Outcome UInt8 := do
  let byte ← parseDataobjCommonByte data
  if byte > 4 then .reject else return byte

def parseDataobjUrl (data : List UInt8) : Outcome (Option (List UInt8)) :=
  if data.length = 0 then .ok none
  else do
    let url ← parseDataobjCommonText data
    return some url

def parseDataobjBearer (data : List UInt8) : Outcome (List UInt8) := parseDataobjCommonByteArray data

def parseDataobjProvisioningFileReference (data : List UInt8) : Outcome StkFile :=
  if data.length < 1 ∨ data.length > 8 then .reject
  else
    match stkFileIterNext data with
    | some (_, []) => orFault (Filled.store 8 data)
    | _ => .reject

def parseDataobjBrowserTerminationCause (data : List UInt8) : Outcome UInt8 :=
  parseDataobjCommonByte data

/-- `STK_BEARER_TYPE_GPRS_UTRAN` -/
def bearerTypeGprsUtran : UInt8 := 0x02

def parseDataobjBearerDescription (data : List UInt8) : Outcome StkBearerDescription :=
  if data.length < 1 then .reject
  else do
    let type ← dataAt data 0
    if type ≠ bearerTypeGprsUtran then .reject
    else if data.length < 7 then .reject
    else
      let precedence ← dataAt data 1
      let delay ← dataAt data 2
      let reliability ← dataAt data 3
      let peak ← dataAt data 4
      let mean ← dataAt data 5
      let pdpType ← dataAt data 6
      return ⟨type, precedence, delay, reliability, peak, mean, pdpType⟩

def parseDataobjChannelData (data : List UInt8) : Outcome (List UInt8) :=
  parseDataobjCommonByteArray data

def parseDataobjChannelDataLength (data : List UInt8) : Outcome UInt8 := parseDataobjCommonByte data

def parseDataobjBufferSize (data : List UInt8) : Outcome UInt16 :=
  if data.length ≠ 2 then .reject else shortAt data 0

def parseDataobjChannelStatus (data : List UInt8) : Outcome (Filled 2) :=
  if data.length ≠ 2 then .reject
  else do
    let octets ← readOctets data 0 2
    orFault (Filled.store 2 octets)

def parseDataobjCardReaderId (data : List UInt8) : Outcome (Filled 127) :=
  parseUncheckedArray 127 data

/-- The octets of an address, which fill a member of the union. -/
def addressBytes (data : List UInt8) (size : ℕ) : Outcome (Buf size) := do
  let octets ← readOctets data 1 size
  orFault ((Buf.zero size).write 0 octets)

def parseDataobjOtherAddress (data : List UInt8) : Outcome StkOtherAddress :=
  -- an `unsigned char`
  let len := data.length % 256
  if len = 0 then .ok .auto
  else if len ≠ 5 ∧ len ≠ 17 then .reject
  else do
    let type ← dataAt data 0
    if type = 0x21 then return .ipv4 (← addressBytes data 4)
    else if type = 0x57 then return .ipv6 (← addressBytes data 16)
    else .reject

def parseDataobjUiccTeInterface (data : List UInt8) : Outcome StkUiccTeInterface :=
  -- an `unsigned char`
  let len := data.length % 256
  if len ≠ 3 then .reject
  else do
    let protocol ← dataAt data 0
    let port ← shortAt data 1
    return ⟨protocol, port⟩

def parseDataobjAid (data : List UInt8) : Outcome (Filled 16) :=
  -- an `unsigned char`
  let len := data.length % 256
  if len > 16 ∨ len < 12 then .reject
  else do
    let octets ← readOctets data 0 len
    orFault (Filled.store 16 octets)

def parseDataobjAccessTechnology (data : List UInt8) : Outcome UInt8 := parseDataobjCommonByte data

def parseDataobjDisplayParameters (data : List UInt8) : Outcome StkDisplayParameters :=
  if data.length ≠ 3 then .reject
  else do
    let height ← dataAt data 0
    let width ← dataAt data 1
    let effects ← dataAt data 2
    return ⟨height, width, effects⟩

def parseDataobjServiceRecord (data : List UInt8) : Outcome StkServiceRecord :=
  if data.length < 3 then .reject
  else do
    let techId ← dataAt data 0
    let servId ← dataAt data 1
    let servRec ← restOnHeap data 2
    return ⟨techId, servId, servRec⟩

/-- Data for Bluetooth or IrDA, the technologies that are not reserved. -/
def parseTechnologyData (data : List UInt8) : Outcome StkTechnologyData :=
  if data.length < 2 then .reject
  else do
    let techId ← dataAt data 0
    if techId ≠ 0x01 ∧ techId ≠ 0x02 then .reject
    else
      let octets ← restOnHeap data 1
      return ⟨techId, octets⟩

def parseDataobjDeviceFilter (data : List UInt8) : Outcome StkTechnologyData :=
  parseTechnologyData data

def parseDataobjServiceSearch (data : List UInt8) : Outcome StkTechnologyData :=
  parseTechnologyData data

def parseDataobjAttributeInfo (data : List UInt8) : Outcome StkTechnologyData :=
  parseTechnologyData data

def parseDataobjServiceAvailability (data : List UInt8) : Outcome (List UInt8) :=
  parseDataobjCommonByteArray data

def parseDataobjRemoteEntityAddress (data : List UInt8) : Outcome StkRemoteEntityAddress := do
  let codingType ← dataAt data 0
  if codingType = 0x00 then
    if data.length ≠ 7 then .reject else return .ieee802 (← addressBytes data 6)
  else if codingType = 0x01 then
    if data.length ≠ 5 then .reject else return .irda (← addressBytes data 4)
  else .reject

def parseDataobjEsn (data : List UInt8) : Outcome (Filled 4) :=
  if data.length ≠ 4 then .reject else orFault (Filled.store 4 data)

/-- The loop over the labels, with what is in `decoded_apn`. -/
def apnLoop (decoded : List UInt8) : List UInt8 → Outcome (List UInt8)
  | [] => do
      let written ← within 100 (decoded ++ [0])
      return CString.untilNul written
  | labelSize :: rest => do
      if labelSize = 0 ∨ labelSize.toNat > rest.length then .reject
      else
        let decoded ← within 100 (decoded ++ rest.take labelSize.toNat)
        let left := rest.drop labelSize.toNat
        if left.length ≠ 0 then
          let decoded ← within 100 (decoded ++ [0x2e])
          apnLoop decoded left
        else apnLoop decoded left
termination_by l => l.length
decreasing_by all_goals (simp only [List.length_drop, List.length_cons]; omega)

def parseDataobjNetworkAccessName (data : List UInt8) : Outcome (List UInt8) :=
  if data.length = 0 ∨ data.length > 100 then .reject else apnLoop [] data

def parseDataobjCdmaSmsTpdu (data : List UInt8) : Outcome (List UInt8) :=
  parseDataobjCommonByteArray data

def parseDataobjTextAttr (data : List UInt8) : Outcome (Filled 127) := parseCheckedArray 127 data

def parseDataobjPdpActPar (data : List UInt8) : Outcome (Filled 127) := parseCheckedArray 127 data

def parseDataobjItemTextAttributeList (data : List UInt8) : Outcome (Filled 124) :=
  if data.length > 124 ∨ data.length % 4 ≠ 0 then .reject else orFault (Filled.store 124 data)

def parseDataobjUtranMeasQualifier (data : List UInt8) : Outcome UInt8 := parseDataobjCommonByte data

def parseDataobjImeisv (data : List UInt8) : Outcome (CString 17) :=
  if data.length ≠ 9 then .reject
  else do
    let b₀ ← dataAt data 0
    let b₈ ← dataAt data 8
    if b₀ &&& 0x0f ≠ 0x03 then .reject
    else if b₈ >>> 4 ≠ 0x0f then .reject
    else
      let octets ← readOctets data 1 7
      let first := digitLut.getD (b₀.toNat >>> 4) 0
      let last := digitLut.getD (b₈.toNat &&& 0x0f) 0
      orFault (CString.store 17 (first :: (extractBcdNumber octets ++ [last])))

def parseDataobjNetworkSearchMode (data : List UInt8) : Outcome UInt8 := parseDataobjCommonByte data

def parseDataobjBatteryState (data : List UInt8) : Outcome UInt8 := parseDataobjCommonByte data

def parseDataobjBrowsingStatus (data : List UInt8) : Outcome (List UInt8) :=
  parseDataobjCommonByteArray data

def parseDataobjFrameLayout (data : List UInt8) : Outcome StkFrameLayout :=
  -- an `unsigned char`
  let len := data.length % 256
  if len < 2 then .reject
  else do
    let layout ← dataAt data 0
    if layout ≠ 0x01 ∧ layout ≠ 0x02 then .reject
    else
      let octets ← readOctets data 1 (len - 1)
      let size ← orFault (Filled.store 126 octets)
      return ⟨layout, size⟩

/-- The turn `i` of the loop over the frames: `list[i]` is written. -/
def frameAt (data : List UInt8) (i : ℕ) : Outcome StkFrame := do
  let height ← dataAt data (i * 2 + 1)
  let width ← dataAt data (i * 2 + 2)
  if i < 63 then return ⟨width &&& 0x7f, height &&& 0x1f⟩ else .fault

def parseDataobjFramesInfo (data : List UInt8) : Outcome StkFramesInfo :=
  -- an `unsigned char`
  let len := data.length % 256
  if len < 1 then .reject
  else do
    let id ← dataAt data 0
    if id > 0x0f then .reject
    else if (len = 1 ∧ id ≠ 0) ∨ (len > 1 ∧ id = 0) then .reject
    else if len % 2 = 0 then .reject
    else if len = 1 then return ⟨0, [], Nat.zero_le _, 0⟩
    else
      let list ← (List.range len).mapM (frameAt data)
      if h : list.length ≤ 63 then return ⟨id, list, h, (len - 1) / 2⟩ else .fault

def parseDataobjFrameId (data : List UInt8) : Outcome StkFrameId :=
  if data.length ≠ 1 then .reject
  else do
    let id ← dataAt data 0
    if id ≥ 0x10 then .reject else return ⟨true, id⟩

def parseDataobjMeid (data : List UInt8) : Outcome (Filled 8) :=
  if data.length ≠ 8 then .reject else orFault (Filled.store 8 data)

def parseDataobjMmsReference (data : List UInt8) : Outcome (Filled 127) :=
  parseUncheckedArray 127 data

def parseDataobjMmsId (data : List UInt8) : Outcome (Filled 127) := parseUncheckedArray 127 data

def parseDataobjMmsTransferStatus (data : List UInt8) : Outcome (Filled 127) :=
  parseUncheckedArray 127 data

def parseDataobjMmsContentId (data : List UInt8) : Outcome (Filled 127) :=
  parseUncheckedArray 127 data

def parseDataobjMmsNotification (data : List UInt8) : Outcome (List UInt8) :=
  parseDataobjCommonByteArray data

def parseDataobjLastEnvelope (data : List UInt8) : Outcome Bool := parseDataobjCommonBool data

def parseDataobjRegistryApplicationData (g : GConvert) (data : List UInt8) :
    Outcome StkRegistryApplicationData :=
  if data.length < 5 then .reject
  else do
    let dcs ← dataAt data 2
    let octets ← readOctets data 4 (data.length - 4)
    let name ← orReject (decodeText g dcs octets)
    let port ← shortAt data 0
    let type ← dataAt data 3
    return ⟨port, type, name⟩

def parseDataobjActivateDescriptor (data : List UInt8) : Outcome UInt8 :=
  if data.length ≠ 1 then .reject
  else do
    let byte ← dataAt data 0
    if byte ≠ 0x01 then .reject else return byte

def parseDataobjBroadcastNetworkInfo (data : List UInt8) : Outcome StkBroadcastNetworkInformation :=
  if data.length < 2 then .reject
  else do
    let tech ← dataAt data 0
    if tech > 0x03 then .reject
    else
      let octets ← readOctets data 1 (data.length - 1)
      let locInfo ← orFault (Filled.store 126 octets)
      return ⟨tech, locInfo⟩

end Phonelets.Stk
