import Mathlib.Algebra.Order.Ring.Nat
import Phonelets.Lib.CArray

/-! # `struct sms`

The types of `smsutil.h` that the encoders, the decoders and the assembly work on.
The union of the eight messages is an inductive type, so the type of a message is
its constructor; a validity period carries its format with it.
-/

namespace Phonelets.Sms

/-- `enum sms_number_type`. -/
inductive NumberType where
  | unknown | international | national | networkSpecific
  | subscriber | alphanumeric | abbreviated | reserved
  deriving DecidableEq

def NumberType.toNat : NumberType → ℕ
  | .unknown => 0
  | .international => 1
  | .national => 2
  | .networkSpecific => 3
  | .subscriber => 4
  | .alphanumeric => 5
  | .abbreviated => 6
  | .reserved => 7

/-- The type with the given three bits. -/
def NumberType.ofBits : ℕ → NumberType
  | 0 => .unknown
  | 1 => .international
  | 2 => .national
  | 3 => .networkSpecific
  | 4 => .subscriber
  | 5 => .alphanumeric
  | 6 => .abbreviated
  | _ => .reserved

/-- `enum sms_numbering_plan`; a decoded plan is any four bits. -/
abbrev NumberingPlan := Fin 16

instance nibbleNeZero : NeZero 16 := ⟨by decide⟩

/-- `SMS_NUMBERING_PLAN_ISDN`. -/
def NumberingPlan.isdn : NumberingPlan := 1

structure SmsAddress where
  numberType : NumberType
  numberingPlan : NumberingPlan
  address : CString 21
  deriving DecidableEq

lemma address_room : 0 < 21 := by decide

/-- The address after `memset`. -/
def SmsAddress.zero : SmsAddress := ⟨.unknown, 0, CString.empty address_room⟩

structure SmsScts where
  year : UInt8
  month : UInt8
  day : UInt8
  hour : UInt8
  minute : UInt8
  second : UInt8
  hasTimezone : Bool
  timezone : ℤ
  deriving DecidableEq

/-- `struct sms_validity_period` together with its `vpf`. -/
inductive ValidityPeriod where
  | absent
  | enhanced (octets : Buf 7)
  | relative (vp : UInt8)
  | absolute (scts : SmsScts)
  deriving DecidableEq

/-- `enum sms_validity_period_format`. -/
def ValidityPeriod.vpf : ValidityPeriod → ℕ
  | .absent => 0
  | .enhanced _ => 1
  | .relative _ => 2
  | .absolute _ => 3

structure SmsDeliver where
  mms : Bool
  sri : Bool
  udhi : Bool
  rp : Bool
  oaddr : SmsAddress
  pid : UInt8
  dcs : UInt8
  scts : SmsScts
  udl : UInt8
  ud : Buf 140
  deriving DecidableEq

structure SmsDeliverErrReport where
  udhi : Bool
  fcs : UInt8
  pi : UInt8
  pid : UInt8
  dcs : UInt8
  udl : UInt8
  ud : Buf 158
  deriving DecidableEq

structure SmsDeliverAckReport where
  udhi : Bool
  pi : UInt8
  pid : UInt8
  dcs : UInt8
  udl : UInt8
  ud : Buf 159
  deriving DecidableEq

/-- `ct` is the octet of `enum sms_ct`. -/
structure SmsCommand where
  udhi : Bool
  srr : Bool
  mr : UInt8
  pid : UInt8
  ct : UInt8
  mn : UInt8
  daddr : SmsAddress
  cdl : UInt8
  cd : Buf 156
  deriving DecidableEq

/-- `st` is the octet of `enum sms_st`. -/
structure SmsStatusReport where
  udhi : Bool
  mms : Bool
  srq : Bool
  mr : UInt8
  raddr : SmsAddress
  scts : SmsScts
  dt : SmsScts
  st : UInt8
  pi : UInt8
  pid : UInt8
  dcs : UInt8
  udl : UInt8
  ud : Buf 143
  deriving DecidableEq

structure SmsSubmit where
  rd : Bool
  rp : Bool
  udhi : Bool
  srr : Bool
  mr : UInt8
  daddr : SmsAddress
  pid : UInt8
  dcs : UInt8
  vp : ValidityPeriod
  udl : UInt8
  ud : Buf 140
  deriving DecidableEq

structure SmsSubmitAckReport where
  udhi : Bool
  pi : UInt8
  scts : SmsScts
  pid : UInt8
  dcs : UInt8
  udl : UInt8
  ud : Buf 152
  deriving DecidableEq

structure SmsSubmitErrReport where
  udhi : Bool
  fcs : UInt8
  pi : UInt8
  scts : SmsScts
  pid : UInt8
  dcs : UInt8
  udl : UInt8
  ud : Buf 151
  deriving DecidableEq

/-- The message of a `struct sms`, under its `enum sms_type`. -/
inductive SmsMessage where
  | deliver (m : SmsDeliver)
  | deliverReportAck (m : SmsDeliverAckReport)
  | deliverReportError (m : SmsDeliverErrReport)
  | statusReport (m : SmsStatusReport)
  | submit (m : SmsSubmit)
  | submitReportAck (m : SmsSubmitAckReport)
  | submitReportError (m : SmsSubmitErrReport)
  | command (m : SmsCommand)
  deriving DecidableEq

structure Sms where
  scAddr : SmsAddress
  message : SmsMessage
  deriving DecidableEq

end Phonelets.Sms
