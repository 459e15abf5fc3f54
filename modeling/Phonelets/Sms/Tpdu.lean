import Phonelets.Sms.Fields

/-! # Encoding and decoding of TPDUs

The eight encoders and the seven decoders of `smsutil.c`, and `sms_encode` and
`sms_decode` over them. A decoder works on a cleared structure, so a field that it does
not write is zero.
-/

namespace Phonelets.Sms

open Decoder

/-- `if (b) octet |= 1 << bit;` -/
def setBit (octet : UInt8) (b : Bool) (bit : ℕ) : UInt8 :=
  if b then UInt8.ofNat (octet.toNat ||| 1 <<< bit) else octet

/-! ## Deliver and submit -/

def encodeDeliver (m : SmsDeliver) : Outcome (List UInt8) := do
  let oct := setBit (setBit (setBit (setBit 0 (!m.mms) 2) m.sri 5) m.rp 7) m.udhi 6
  let oaddr ← smsEncodeAddressField m.oaddr false
  let scts ← smsEncodeScts m.scts
  let ud ← encodeUd m.ud (smsUdlInBytes m.udl m.dcs)
  pure (oct :: (oaddr ++ m.pid :: m.dcs :: (scts ++ m.udl :: ud)))

def decodeDeliver : Decoder SmsDeliver := do
  let octet ← nextOctet
  let oaddr ← smsDecodeAddressField false
  let pid ← nextOctet
  let dcs ← nextOctet
  let scts ← smsDecodeScts
  let udl ← nextOctet
  let ud ← decodeUd 140 (smsUdlInBytes udl dcs)
  pure
    { mms := !isBitSet octet 2
      sri := isBitSet octet 5
      udhi := isBitSet octet 6
      rp := isBitSet octet 7
      oaddr, pid, dcs, scts, udl, ud }

/-- The first octet of a submit. -/
def submitOctet (rd rp : Bool) (vpf : ℕ) (udhi srr : Bool) : UInt8 :=
  let octet := setBit (setBit 0x1 rd 2) rp 7
  let octet := UInt8.ofNat (octet.toNat ||| vpf <<< 3)
  setBit (setBit octet udhi 6) srr 5

def encodeSubmit (m : SmsSubmit) : Outcome (List UInt8) := do
  let octet := submitOctet m.rd m.rp m.vp.vpf m.udhi m.srr
  let daddr ← smsEncodeAddressField m.daddr false
  let vp ← encodeValidityPeriod m.vp
  let ud ← encodeUd m.ud (smsUdlInBytes m.udl m.dcs)
  pure (octet :: m.mr :: (daddr ++ m.pid :: m.dcs :: (vp ++ m.udl :: ud)))

/-- The user data of a submit, which is checked against its array. -/
def decodeSubmitUd (expected : ℕ) : Decoder (Buf 140) := do
  need expected
  check (expected ≤ 140)
  decodeUd 140 expected

def decodeSubmit : Decoder SmsSubmit := do
  let octet ← nextOctet
  let mr ← nextOctet
  let daddr ← smsDecodeAddressField false
  let pid ← nextOctet
  let dcs ← nextOctet
  let vp ← decodeValidityPeriod (bitField octet 3 2)
  let udl ← nextOctet
  let ud ← decodeSubmitUd (smsUdlInBytes udl dcs)
  pure
    { rd := isBitSet octet 2
      rp := isBitSet octet 7
      udhi := isBitSet octet 6
      srr := isBitSet octet 5
      mr, daddr, pid, dcs, vp, udl, ud }

/-! ## Commands -/

def encodeCommand (m : SmsCommand) : Outcome (List UInt8) := do
  let octet := setBit (setBit 0x2 m.udhi 6) m.srr 5
  let daddr ← smsEncodeAddressField m.daddr false
  let cd ← encodeUd m.cd m.cdl.toNat
  pure (octet :: m.mr :: m.pid :: m.ct :: m.mn :: (daddr ++ m.cdl :: cd))

def decodeCommand : Decoder SmsCommand := do
  let octet ← nextOctet
  let mr ← nextOctet
  let pid ← nextOctet
  let ct ← nextOctet
  let mn ← nextOctet
  let daddr ← smsDecodeAddressField false
  let cdl ← nextOctet
  let cd ← decodeUd 156 cdl.toNat
  pure
    { udhi := isBitSet octet 6
      srr := isBitSet octet 5
      mr, pid, ct, mn, daddr, cdl, cd }

/-! ## Reports -/

/-- The fields of a report that its parameter indicator announces. -/
structure PiFields (size : ℕ) where
  pid : UInt8
  dcs : UInt8
  udl : UInt8
  ud : Buf size

def hasPid (pi : UInt8) : Bool := isBitSet pi 0

def hasDcs (pi : UInt8) : Bool := isBitSet pi 1

def hasUd (pi : UInt8) : Bool := isBitSet pi 2

/-- The end of the five encoders of reports. -/
def encodePiFields {size : ℕ} (pi : UInt8) (f : PiFields size) : Outcome (List UInt8) := do
  let ud ←
    if hasUd pi then (encodeUd f.ud (smsUdlInBytes f.udl f.dcs) >>= fun ud => .ok (f.udl :: ud))
    else .ok []
  pure ((if hasPid pi then [f.pid] else []) ++ ((if hasDcs pi then [f.dcs] else []) ++ ud))

/-- The end of the decoders of reports. -/
def decodePiFields (size : ℕ) (pi : UInt8) : Decoder (PiFields size) := do
  let pid ← decodeIf (hasPid pi)
  let dcs ← decodeIf (hasDcs pi)
  if hasUd pi then do
    let udl ← nextOctet
    let ud ← decodeUd size (smsUdlInBytes udl dcs)
    pure ⟨pid, dcs, udl, ud⟩
  else pure ⟨pid, dcs, 0, Buf.zero size⟩

def encodeDeliverAckReport (m : SmsDeliverAckReport) : Outcome (List UInt8) := do
  let oct := setBit 0 m.udhi 6
  let l ← encodePiFields m.pi ⟨m.pid, m.dcs, m.udl, m.ud⟩
  pure (oct :: m.pi :: l)

def encodeDeliverErrReport (m : SmsDeliverErrReport) : Outcome (List UInt8) := do
  let oct := setBit 0 m.udhi 6
  let l ← encodePiFields m.pi ⟨m.pid, m.dcs, m.udl, m.ud⟩
  pure (oct :: m.fcs :: m.pi :: l)

/-- An octet from 0x80 on is a failure cause, so the report is an error. -/
def decodeDeliverReport : Decoder SmsMessage := do
  let octet ← nextOctet
  let udhi := isBitSet octet 6
  let octet ← nextOctet
  if octet ≥ 0x80 then do
    let fcs := octet
    let octet ← nextOctet
    let pi := octet &&& 0x07
    let f ← decodePiFields 158 pi
    pure (.deliverReportError ⟨udhi, fcs, pi, f.pid, f.dcs, f.udl, f.ud⟩)
  else do
    let pi := octet &&& 0x07
    let f ← decodePiFields 159 pi
    pure (.deliverReportAck ⟨udhi, pi, f.pid, f.dcs, f.udl, f.ud⟩)

def encodeSubmitAckReport (m : SmsSubmitAckReport) : Outcome (List UInt8) := do
  let oct := setBit 1 m.udhi 6
  let scts ← smsEncodeScts m.scts
  let l ← encodePiFields m.pi ⟨m.pid, m.dcs, m.udl, m.ud⟩
  pure (oct :: m.pi :: (scts ++ l))

def encodeSubmitErrReport (m : SmsSubmitErrReport) : Outcome (List UInt8) := do
  let oct := setBit 0x1 m.udhi 6
  let scts ← smsEncodeScts m.scts
  let l ← encodePiFields m.pi ⟨m.pid, m.dcs, m.udl, m.ud⟩
  pure (oct :: m.fcs :: m.pi :: (scts ++ l))

def decodeSubmitReport : Decoder SmsMessage := do
  let octet ← nextOctet
  let udhi := isBitSet octet 6
  let octet ← nextOctet
  if octet ≥ 0x80 then do
    let fcs := octet
    let octet ← nextOctet
    let pi := octet &&& 0x07
    let scts ← smsDecodeScts
    let f ← decodePiFields 151 pi
    pure (.submitReportError ⟨udhi, fcs, pi, scts, f.pid, f.dcs, f.udl, f.ud⟩)
  else do
    let pi := octet &&& 0x07
    let scts ← smsDecodeScts
    let f ← decodePiFields 152 pi
    pure (.submitReportAck ⟨udhi, pi, scts, f.pid, f.dcs, f.udl, f.ud⟩)

/-- The three flags are all written where the structure does not have them. -/
def encodeStatusReport (m : SmsStatusReport) : Outcome (List UInt8) := do
  let octet := setBit (setBit (setBit 0x2 (!m.mms) 2) (!m.srq) 5) (!m.udhi) 6
  let raddr ← smsEncodeAddressField m.raddr false
  let scts ← smsEncodeScts m.scts
  let dt ← smsEncodeScts m.dt
  if m.pi = 0 then pure (octet :: m.mr :: (raddr ++ (scts ++ (dt ++ [m.st]))))
  else do
    let l ← encodePiFields m.pi ⟨m.pid, m.dcs, m.udl, m.ud⟩
    pure (octet :: m.mr :: (raddr ++ (scts ++ (dt ++ m.st :: m.pi :: l))))

/-- The parameter indicator of a status report is optional. -/
def decodeStatusReport : Decoder SmsStatusReport := do
  let octet ← nextOctet
  let mms := !isBitSet octet 2
  let srq := isBitSet octet 5
  let udhi := isBitSet octet 6
  let mr ← nextOctet
  let raddr ← smsDecodeAddressField false
  let scts ← smsDecodeScts
  let dt ← smsDecodeScts
  let st ← nextOctet
  let done ← atEnd
  if done then pure ⟨udhi, mms, srq, mr, raddr, scts, dt, st, 0, 0, 0, 0, Buf.zero 143⟩
  else do
    let octet ← nextOctet
    let pi := octet &&& 0x07
    let f ← decodePiFields 143 pi
    pure ⟨udhi, mms, srq, mr, raddr, scts, dt, st, pi, f.pid, f.dcs, f.udl, f.ud⟩

/-! ## `sms_encode` and `sms_decode` -/

/-- The messages that `sms_encode` puts a service centre address before. -/
def SmsMessage.hasScAddr : SmsMessage → Bool
  | .deliver _ | .submit _ | .command _ | .statusReport _ => true
  | _ => false

def encodeTpdu : SmsMessage → Outcome (List UInt8)
  | .deliver m => encodeDeliver m
  | .deliverReportAck m => encodeDeliverAckReport m
  | .deliverReportError m => encodeDeliverErrReport m
  | .statusReport m => encodeStatusReport m
  | .submit m => encodeSubmit m
  | .submitReportAck m => encodeSubmitAckReport m
  | .submitReportError m => encodeSubmitErrReport m
  | .command m => encodeCommand m

/-- The octets of the message, and how many of them are the TPDU. -/
def smsEncode (s : Sms) : Outcome (List UInt8 × ℕ) := do
  let sc ← if s.message.hasScAddr then smsEncodeAddressField s.scAddr true else .ok []
  let tpdu ← encodeTpdu s.message
  pure (sc ++ tpdu, tpdu.length)

/-- The decoder for the message type in the first octet and the direction. -/
def decodeTpdu (type : ℕ) : Decoder SmsMessage :=
  match type with
  | 0 => do let m ← decodeDeliver; pure (.deliver m)
  | 1 => decodeSubmitReport
  | 2 => do let m ← decodeStatusReport; pure (.statusReport m)
  -- reserved, treated as deliver
  | 3 => do let m ← decodeDeliver; pure (.deliver m)
  | 4 => decodeDeliverReport
  | 5 => do let m ← decodeSubmit; pure (.submit m)
  | 6 => do let m ← decodeCommand; pure (.command m)
  | _ => lift .reject

/-- `type` of `sms_decode`. -/
def messageType (first : UInt8) (outgoing : Bool) : ℕ :=
  (first.toNat &&& 0x3) ||| if outgoing then 0x4 else 0

/-- What `sms_decode` does at the first octet of the TPDU, with `scAddr` read. -/
def decodeAt (outgoing : Bool) (tpduLen : ℤ) (scAddr : SmsAddress) (c : Cursor) : Outcome Sms :=
  if c.left < tpduLen then .reject
  else
    match c.rest with
    | [] => .fault
    | first :: _ => do
        let r ← decodeTpdu (messageType first outgoing) ⟨c.rest, tpduLen⟩
        pure ⟨scAddr, r.1⟩

/-- `sms_decode` of all of `pdu`. -/
def smsDecode (pdu : List UInt8) (outgoing : Bool) (tpduLen : ℤ) : Outcome Sms :=
  if pdu.length = 0 then .reject
  else if tpduLen < pdu.length then do
    let r ← smsDecodeAddressField true ⟨pdu, pdu.length⟩
    decodeAt outgoing tpduLen r.1 r.2
  else decodeAt outgoing tpduLen .zero ⟨pdu, pdu.length⟩

end Phonelets.Sms
