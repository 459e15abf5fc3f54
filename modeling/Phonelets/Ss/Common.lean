import Mathlib

/-! # What the supplementary services share

Classes of basic services, the parts of a control string and the replies that are errors.
-/

namespace Phonelets.Ss

/-! ## Classes -/

/-- An `int` that is used as a set of `enum bearer_class`. -/
abbrev ClassMask := BitVec 32

def bearerClassVoice : ClassMask := 1
def bearerClassData : ClassMask := 2
def bearerClassFax : ClassMask := 4
def bearerClassDefault : ClassMask := 7
def bearerClassSms : ClassMask := 8
def bearerClassDataSync : ClassMask := 16
def bearerClassDataAsync : ClassMask := 32
def bearerClassSsDefault : ClassMask := 61
def bearerClassPacket : ClassMask := 64
def bearerClassPad : ClassMask := 128

/-- `mask & cls`, as a condition. -/
def ClassMask.has (mask cls : ClassMask) : Bool := mask &&& cls != 0

/-- The bit for voice calls. -/
def ClassMask.voice (mask : ClassMask) : Bool := mask.has bearerClassVoice

lemma ClassMask.voice_zero : (0 : ClassMask).voice = false := rfl

@[simp] lemma voice_default : bearerClassDefault.voice = true := rfl

/-- The classes that the loops `for (i = 1; i <= BEARER_CLASS_PAD; i = i << 1)` go through, those
of them that are in the mask. -/
def bearerClasses (mask : ClassMask) : List ClassMask :=
  [1, 2, 4, 8, 16, 32, 64, 128].filter mask.has

@[simp] lemma bearerClasses_voice : bearerClasses bearerClassVoice = [bearerClassVoice] := rfl

def bearerClassToString (cls : ClassMask) : String :=
  if cls = bearerClassVoice then "Voice"
  else if cls = bearerClassData then "Data"
  else if cls = bearerClassFax then "Fax"
  else if cls = bearerClassSms then "Sms"
  else if cls = bearerClassDataSync then "DataSync"
  else if cls = bearerClassDataAsync then "DataAsync"
  else if cls = bearerClassPacket then "DataPad"
  else if cls = bearerClassPad then "DataPacket"
  else ""

@[simp] lemma bearerClassToString_voice : bearerClassToString bearerClassVoice = "Voice" := rfl

/-! ## Control strings -/

inductive SsControlType
  | activation
  | deactivation
  | query
  | registration
  | erasure
deriving DecidableEq

def ssControlTypeToString : SsControlType → String
  | .activation => "activation"
  | .registration => "registration"
  | .query => "interrogation"
  | .deactivation => "deactivation"
  | .erasure => "erasure"

/-- The blanks that `strtoul` skips. -/
def isSpace (c : Char) : Bool := c.toNat = 32 ∨ (9 ≤ c.toNat ∧ c.toNat ≤ 13)

/-- `strtoul(s, &end, 10)` on a 64 bit machine, where `end` comes to lie behind the last character
and there is a number at all. -/
def strtoul (s : String) : Option ℕ :=
  let chars := s.toList.dropWhile isSpace
  let (negative, digits) : Bool × List Char :=
    match chars with
    | '-' :: rest => (true, rest)
    | '+' :: rest => (false, rest)
    | rest => (false, rest)
  if digits.isEmpty ∨ digits.any (fun c => !c.isDigit) then none
  else
    let value := digits.foldl (fun n c => 10 * n + (c.toNat - '0'.toNat)) 0
    if value ≥ 2 ^ 64 then some (2 ^ 64 - 1)
    else if negative then some ((2 ^ 64 - value) % 2 ^ 64)
    else some value

/-- A number of type `long` where an `int` is asked for. -/
def toInt (n : ℕ) : BitVec 32 := BitVec.ofNat 32 n

def mmiServiceCodeToBearerClass (code : BitVec 32) : ClassMask :=
  if code = 10 then bearerClassVoice ||| bearerClassFax ||| bearerClassSms
  else if code = 11 then bearerClassVoice
  else if code = 12 then bearerClassSms ||| bearerClassFax
  else if code = 13 then bearerClassFax
  else if code = 16 then bearerClassSms
  else if code = 17 ∨ code = 18 then 0
  else if code = 19 then bearerClassVoice ||| bearerClassFax
  else if code = 20 then
    bearerClassDataAsync ||| bearerClassDataSync ||| bearerClassPad ||| bearerClassPacket
  else if code = 21 then bearerClassDataAsync ||| bearerClassPad
  else if code = 25 then bearerClassDataAsync
  else if code = 22 then bearerClassDataSync ||| bearerClassPacket
  else if code = 24 then bearerClassDataSync
  else if code = 26 then bearerClassVoice ||| bearerClassDataSync ||| bearerClassPacket
  else 0

/-- The parts of a control string. -/
structure SsControl where
  type : SsControlType
  sc : String
  sia : String
  sib : String
  sic : String
  dn : String

/-- The class that `sib` gives; none where it is malformed or stands for no class. -/
def ssControlClass (sib : String) (byDefault : ClassMask) : Option ClassMask :=
  if sib.length > 0 then
    match strtoul sib with
    | none => none
    | some code =>
      let cls := mmiServiceCodeToBearerClass (toInt code)
      if cls = 0 then none else some cls
  else some byDefault

/-! ## Numbers -/

/-- `struct ofono_phone_number`. -/
structure PhoneNumber where
  number : String
  type : ℤ
deriving DecidableEq

def phoneNumberToString (ph : PhoneNumber) : String :=
  if ph.type = 145 ∧ ph.number.length > 0 ∧ ph.number.toList.head? ≠ some '+' then
    "+" ++ ph.number
  else ph.number

def stringToPhoneNumber (str : String) : PhoneNumber :=
  match str.toList with
  | '+' :: rest => ⟨String.ofList rest, 145⟩
  | _ => ⟨str, 129⟩

def validNumberFormat (number : String) (length : ℕ) : Bool :=
  let digits :=
    match number.toList with
    | '+' :: rest => rest
    | chars => chars
  !digits.isEmpty && digits.length ≤ length &&
    digits.all fun c => ('0' ≤ c && c ≤ '9') || c = '*' || c = '#'

def validPhoneNumberFormat (number : String) : Bool := validNumberFormat number 20

def isValidPin (pin : String) (min max : ℕ) : Bool :=
  pin.length ≠ 0 ∧ pin.toList.all (fun c => '0' ≤ c ∧ c ≤ '9') ∧ min ≤ pin.length ∧ pin.length ≤ max

def isValidNetPin (pin : String) : Bool := isValidPin pin 4 4

/-! ## Errors -/

inductive OfonoErrorType
  | noError
  | cme
  | cms
  | ceer
  | sim
  | failure
deriving DecidableEq

/-- `struct ofono_error`, with which the driver calls back. -/
structure OfonoError where
  type : OfonoErrorType
  error : ℤ

def OfonoError.none : OfonoError := ⟨.noError, 0⟩

/-- The replies that are errors, under the names they have on the bus. -/
inductive DbusError
  | inProgress
  | invalidArguments
  | invalidFormat
  | notImplemented
  | failed
  | notAvailable
  | notAllowed
  | notSupported
  | incorrectPassword
  | notRegistered
  | timedout
  | accessDenied

def cmeErrorsMapping : List (ℤ × DbusError) :=
  [(3, .notAllowed), (4, .notSupported), (16, .incorrectPassword), (30, .notRegistered),
    (31, .timedout), (32, .accessDenied), (50, .invalidArguments)]

/-- `__ofono_error_from_error`. -/
def errorFromError (error : OfonoError) : DbusError :=
  match error.type with
  | .cme => (cmeErrorsMapping.lookup error.error).getD .failed
  | _ => .failed

end Phonelets.Ss
