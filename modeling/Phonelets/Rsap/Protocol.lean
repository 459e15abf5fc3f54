import Phonelets.Lib.Reassembly

/-! # The RSAP message protocol

`RSAPMessageProtocol` of `simserver.py` and `dbus-service.py` (the two copies
agree): the tables of message and parameter ids, the recogniser
`isMessageComplete`, the parameter walk of `printMessage` and the builders of the
responses. Octets are Python integers here, so lists of naturals.

A message is `| msgID | #param | reserved (2) | parameters |` and a parameter is
`| paramID | rsv | paramLen (2) | value | padding (0-3) |`.
-/

namespace Phonelets.Rsap

/-- The Python exceptions that can leave the code modelled here. -/
inductive PyErr where
  | keyError
  | indexError
  | nameError
  | valueError
  | typeError
  | swException

/-! ## Identifiers -/

inductive MessageName where
  | connectReq | connectResp | disconnectReq | disconnectResp | disconnectInd
  | transferApduReq | transferApduResp | transferAtrReq | transferAtrResp
  | powerSimOffReq | powerSimOffResp | powerSimOnReq | powerSimOnResp
  | resetSimReq | resetSimResp
  | transferCardReaderStatusReq | transferCardReaderStatusResp
  | statusInd | errorResp
  | setTransportProtocolReq | setTransportProtocolResp
  deriving DecidableEq

inductive ParameterName where
  | maxMsgSize | connectionStatus | resultCode | disconnectionType
  | commandApdu | commandApdu7816 | responseApdu | atr
  | cardReaderStatus | statusChange | transportProtocol
  deriving DecidableEq

/-- `self.messageID`. -/
def messageID : ℕ → Option MessageName
  | 0x00 => some .connectReq
  | 0x01 => some .connectResp
  | 0x02 => some .disconnectReq
  | 0x03 => some .disconnectResp
  | 0x04 => some .disconnectInd
  | 0x05 => some .transferApduReq
  | 0x06 => some .transferApduResp
  | 0x07 => some .transferAtrReq
  | 0x08 => some .transferAtrResp
  | 0x09 => some .powerSimOffReq
  | 0x0A => some .powerSimOffResp
  | 0x0B => some .powerSimOnReq
  | 0x0C => some .powerSimOnResp
  | 0x0D => some .resetSimReq
  | 0x0E => some .resetSimResp
  | 0x0F => some .transferCardReaderStatusReq
  | 0x10 => some .transferCardReaderStatusResp
  | 0x11 => some .statusInd
  | 0x12 => some .errorResp
  | 0x13 => some .setTransportProtocolReq
  | 0x14 => some .setTransportProtocolResp
  | _ => none

/-- `self.messageName`, the inverse dictionary. -/
def messageName : MessageName → ℕ
  | .connectReq => 0x00
  | .connectResp => 0x01
  | .disconnectReq => 0x02
  | .disconnectResp => 0x03
  | .disconnectInd => 0x04
  | .transferApduReq => 0x05
  | .transferApduResp => 0x06
  | .transferAtrReq => 0x07
  | .transferAtrResp => 0x08
  | .powerSimOffReq => 0x09
  | .powerSimOffResp => 0x0A
  | .powerSimOnReq => 0x0B
  | .powerSimOnResp => 0x0C
  | .resetSimReq => 0x0D
  | .resetSimResp => 0x0E
  | .transferCardReaderStatusReq => 0x0F
  | .transferCardReaderStatusResp => 0x10
  | .statusInd => 0x11
  | .errorResp => 0x12
  | .setTransportProtocolReq => 0x13
  | .setTransportProtocolResp => 0x14

/-- `self.parameterID`. -/
def parameterID : ℕ → Option ParameterName
  | 0x00 => some .maxMsgSize
  | 0x01 => some .connectionStatus
  | 0x02 => some .resultCode
  | 0x03 => some .disconnectionType
  | 0x04 => some .commandApdu
  | 0x10 => some .commandApdu7816
  | 0x05 => some .responseApdu
  | 0x06 => some .atr
  | 0x07 => some .cardReaderStatus
  | 0x08 => some .statusChange
  | 0x09 => some .transportProtocol
  | _ => none

/-- `self.parameterName`, the inverse dictionary. -/
def parameterName : ParameterName → ℕ
  | .maxMsgSize => 0x00
  | .connectionStatus => 0x01
  | .resultCode => 0x02
  | .disconnectionType => 0x03
  | .commandApdu => 0x04
  | .commandApdu7816 => 0x10
  | .responseApdu => 0x05
  | .atr => 0x06
  | .cardReaderStatus => 0x07
  | .statusChange => 0x08
  | .transportProtocol => 0x09

@[simp] lemma messageID_messageName (n : MessageName) : messageID (messageName n) = some n := by
  cases n <;> rfl

/-! ## Python lists -/

/-- `l[i]`. -/
def index (l : List ℕ) (i : ℕ) : Except PyErr ℕ :=
  match l[i]? with
  | some x => .ok x
  | none => .error .indexError

/-- `d[k]` for a dictionary given as a partial function. -/
def lookup {β : Type} (d : ℕ → Option β) (k : ℕ) : Except PyErr β :=
  match d k with
  | some x => .ok x
  | none => .error .keyError

/-- `l[i:j]`. -/
def slice (l : List ℕ) (i j : ℕ) : List ℕ := (l.take j).drop i

/-- `int(math.ceil(n/float(4))*4)`, exact for every length a message can hold. -/
def ceil4 (n : ℕ) : ℕ := (n + 3) / 4 * 4

lemma le_ceil4 (n : ℕ) : n ≤ ceil4 n := by
  unfold ceil4
  omega

lemma ceil4_add_four (n : ℕ) : ceil4 (4 + n) = 4 + ceil4 n := by
  unfold ceil4
  omega

lemma index_drop (l : List ℕ) (k i : ℕ) : index (l.drop k) i = index l (k + i) := by
  simp [index, List.getElem?_drop]

lemma slice_drop (l : List ℕ) (k i j : ℕ) : slice (l.drop k) i j = slice l (k + i) (k + j) := by
  simp [slice, List.drop_take, List.drop_drop, Nat.add_sub_add_left]

lemma slice_append (l m r : List ℕ) : slice (l ++ (m ++ r)) l.length (l.length + m.length) = m := by
  rw [slice, List.drop_take, List.drop_left, Nat.add_sub_cancel_left, List.take_left]

lemma shift_shift (n : ℕ) : ((n >>> 8) <<< 8) + (n &&& 0xFF) = n := by
  have hand : n &&& 0xFF = n % 256 := Nat.and_two_pow_sub_one_eq_mod n 8
  rw [hand, Nat.shiftLeft_eq, Nat.shiftRight_eq_div_pow]
  omega

/-! ## The recogniser and the printer -/

/-- The loop of `isMessageComplete` over the parameters still to come. Every
element read is inside `message`: the guard before it asks for four more. -/
def isMessageCompleteLoop (message : List ℕ) : ℕ → ℕ → Bool
  | 0, _ => true
  | n + 1, currentPos =>
    if message.length < currentPos + 4 then false
    else
      let paramLen := (message.getD (currentPos + 2) 0 <<< 8) + message.getD (currentPos + 3) 0
      let fullLen := ceil4 paramLen
      if message.length < currentPos + 4 + fullLen then false
      else isMessageCompleteLoop message n (currentPos + 4 + fullLen)

def isMessageComplete (message : List ℕ) : Bool :=
  if message.length < 4 then false
  else
    let parameters := message.getD 1 0
    if parameters = 0 then true else isMessageCompleteLoop message parameters 4

/-- What `printMessage` prints of one parameter. -/
structure PrintedParameter where
  name : ParameterName
  paramVal : List ℕ
  paramLen : ℕ

/-- What `printMessage` prints after the octets themselves. -/
structure Printed where
  name : MessageName
  parameters : ℕ
  params : List PrintedParameter

/-- The loop of `printMessage`. -/
def printMessageLoop (message : List ℕ) : ℕ → ℕ → Except PyErr (List PrintedParameter)
  | 0, _ => .ok []
  | n + 1, currentPos => do
      let hi ← index message (currentPos + 2)
      let lo ← index message (currentPos + 3)
      let paramLen := (hi <<< 8) + lo
      let fullLen := ceil4 paramLen
      let paramVal := slice message (currentPos + 4) (currentPos + 4 + paramLen)
      let pid ← index message currentPos
      let name ← lookup parameterID pid
      let rest ← printMessageLoop message n (currentPos + 4 + fullLen)
      return ⟨name, paramVal, paramLen⟩ :: rest

def printMessage (message : List ℕ) : Except PyErr Printed := do
  let mID ← index message 0
  let parameters ← index message 1
  let name ← lookup messageID mID
  let params ← printMessageLoop message parameters 4
  return ⟨name, parameters, params⟩

/-! ## Builders -/

def addParameterPadding (parameter : List ℕ) : List ℕ :=
  parameter ++ List.replicate (ceil4 parameter.length - parameter.length) 0x00

/-- `self.msgReserved`. -/
def msgReserved : List ℕ := [0x00, 0x00]

/-- `self.paramReserved`. -/
def paramReserved : List ℕ := [0x00]

/-- `generateCONNECT_RESP`; the request is not looked at. -/
def generateConnectResp : List ℕ :=
  let pValue := [0x00]
  let parameter := [parameterName .connectionStatus] ++ paramReserved ++ [0x00, 1] ++ pValue
  [messageName .connectResp] ++ [1] ++ msgReserved ++ addParameterPadding parameter

def generateStatusInd : List ℕ :=
  let pValue := [0x01]
  let parameter := [parameterName .statusChange] ++ paramReserved ++ [0x00, 1] ++ pValue
  [messageName .statusInd] ++ [1] ++ msgReserved ++ addParameterPadding parameter

def generateTransferApduResp (apdu : List ℕ) : List ℕ :=
  let parameter1 := addParameterPadding
    ([parameterName .resultCode] ++ paramReserved ++ [0x00, 1] ++ [0x00])
  let parameter2 := addParameterPadding
    ([parameterName .responseApdu] ++ paramReserved ++ [apdu.length >>> 8, apdu.length &&& 0xFF]
      ++ apdu)
  [messageName .transferApduResp] ++ [2] ++ msgReserved ++ parameter1 ++ parameter2

def generateTransferAtrResp (atr : List ℕ) : List ℕ :=
  let parameter1 := addParameterPadding
    ([parameterName .resultCode] ++ paramReserved ++ [0x00, 1] ++ [0x00])
  let parameter2 := addParameterPadding
    ([parameterName .atr] ++ paramReserved ++ [atr.length >>> 8, atr.length &&& 0xFF] ++ atr)
  [messageName .transferAtrResp] ++ [2] ++ msgReserved ++ parameter1 ++ parameter2

/-- `extractAPDU_REQ`; Python's `None` when the parameter is not an APDU. -/
def extractApduReq (message : List ℕ) : Except PyErr (Option (List ℕ)) := do
  let name ← lookup messageID (← index message 0)
  if name ≠ .transferApduReq then throw .nameError
  let param ← lookup parameterID (← index message 4)
  if param = .commandApdu ∨ param = .commandApdu7816 then
    let length := ((← index message 6) <<< 8) + (← index message 7)
    return some (slice message 8 (8 + length))
  else
    return none

end Phonelets.Rsap
