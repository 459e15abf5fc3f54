import Phonelets.Sms.Udh

/-! # Texts

How `smsutil.c` breaks a text up into submits and puts one together from a list of
messages. A text goes in the GSM alphabet if one of its dialects has all of it, else in
UCS2, for which `g_convert` is a parameter.
-/

namespace Phonelets.Sms

open Gsm (GsmDialect)
open Outcome (orReject orFault)

/-! ## Data coding schemes -/

inductive SmsClass where
  | class0 | class1 | class2 | class3 | unspecified

/-- The class with the given two bits. -/
def SmsClass.ofBits : ℕ → SmsClass
  | 0 => .class0
  | 1 => .class1
  | 2 => .class2
  | _ => .class3

inductive SmsCharset where
  | sevenBit | eightBit | ucs2
  deriving DecidableEq

/-- What `sms_dcs_decode` writes. -/
structure DcsInfo where
  cls : SmsClass
  charset : SmsCharset
  compressed : Bool
  autodelete : Bool

def smsDcsDecode (dcs : UInt8) : Option DcsInfo :=
  let upper := (dcs &&& 0xf0) >>> 4
  if 0x8 ≤ upper ∧ upper ≤ 0xE then none
  else
    let upper := (dcs &&& 0xc0) >>> 6
    match upper.toNat with
    | 0 | 1 =>
      let autodel := upper != 0
      let comp := dcs &&& 0x20 != 0
      let cl := if dcs &&& 0x10 ≠ 0 then SmsClass.ofBits (dcs &&& 0x03).toNat else .unspecified
      match ((dcs &&& 0x0c) >>> 2).toNat with
      | 0 => some ⟨cl, .sevenBit, comp, autodel⟩
      | 1 => some ⟨cl, .eightBit, comp, autodel⟩
      | 2 => some ⟨cl, .ucs2, comp, autodel⟩
      | _ => none
    | 3 =>
      let ch := if dcs &&& 0x4 ≠ 0 then SmsCharset.eightBit else .sevenBit
      some ⟨SmsClass.ofBits (dcs &&& 0x03).toNat, ch, false, false⟩
    | _ => none

/-- `enum sms_mwi_type`, of which two bits are decoded. -/
inductive SmsMwiType where
  | voice | fax | email | other

def SmsMwiType.ofBits : ℕ → SmsMwiType
  | 0 => .voice
  | 1 => .fax
  | 2 => .email
  | _ => .other

/-- What `sms_mwi_dcs_decode` writes. -/
structure MwiInfo where
  type : SmsMwiType
  charset : SmsCharset
  active : Bool
  discard : Bool

def smsMwiDcsDecode (dcs : UInt8) : Option MwiInfo :=
  let upper := (dcs &&& 0xf0) >>> 4
  if upper < 0xC ∨ upper > 0xE then none
  else
    let upper := (dcs &&& 0x30) >>> 4
    let ch := if upper = 2 then SmsCharset.ucs2 else .sevenBit
    some ⟨SmsMwiType.ofBits (dcs &&& 0x3).toNat, ch, dcs &&& 0x8 != 0, upper == 0⟩

/-- `charset` in `sms_decode_text`. -/
def charsetOf (dcs : UInt8) : Option SmsCharset :=
  ((smsMwiDcsDecode dcs).map MwiInfo.charset).or ((smsDcsDecode dcs).map DcsInfo.charset)

/-! ## Decoding -/

/-- The two directions in which `g_convert` is called; nothing for `NULL`. -/
structure GConvert where
  /-- to `"UCS-2BE//TRANSLIT"` from `"UTF-8"` -/
  utf8ToUcs2 : List UInt8 → Option (List UInt8)
  /-- to `"UTF-8//TRANSLIT"` from `"UCS-2BE"` -/
  ucs2ToUtf8 : List UInt8 → Option (List UInt8)

def smsTextCapacityGsm (max offset : ℤ) : ℤ := max - (offset * 8 + 6) / 7

/-- The dialect of a language variant; one that is not defined is ignored. -/
def dialectOf (variant : UInt8) : GsmDialect :=
  match variant.toNat with
  | 1 => .turkish
  | 2 => .spanish
  | 3 => .portuguese
  | _ => .default

/-- `len` octets of an array from `offset` on. -/
def readOctets (l : List UInt8) (offset len : ℕ) : Outcome (List UInt8) :=
  if offset + len ≤ l.length then .ok ((l.drop offset).take len) else .fault

/-- `taken`: the octets of the header, none if it is not valid. -/
def takenByHeader (sms : Sms) : ℕ :=
  match smsUdhIterInit sms with
  | some iter => iter.getUdhLength + 1
  | none => 0

/-- The text of a 7 bit fragment: the branch of `sms_decode_text` with its
`unsigned char buf[160]`. -/
def decodeSeptets (sms : Sms) (udl : UInt8) (taken : ℕ) (field : List UInt8) :
    Outcome (Option (List UInt8)) :=
  let maxChars := smsTextCapacityGsm udl.toNat taken
  match Septets.unpack7bitOwnBuf field taken false maxChars.toNat with
  | none => .ok none
  | some buf =>
    if buf.length > 160 then .fault
    else
      match buf.getLast? with
      | none => .fault
      | some last =>
        -- an escape whose second half is in the next fragment is dropped
        let text := if last = 0x1b then buf.dropLast else buf
        let shift := smsExtractLanguageVariant sms 0 0
        .ok (Gsm.convertGsmToUtf8WithLang text (dialectOf shift.1) (dialectOf shift.2))

/-- A turn of the loop of `sms_decode_text`: what is converted, nothing if the message is
passed over. -/
def decodeFragment (g : GConvert) (sms : Sms) : Outcome (Option (List UInt8)) :=
  let c := smsExtractCommon sms
  match charsetOf c.dcs with
  | none => .ok none
  | some .eightBit => .ok none
  | some charset =>
    let taken := takenByHeader sms
    let udlInBytes := smsUdlInBytes c.udl c.dcs
    if udlInBytes = taken then .ok none
    else do
      let field ← readOctets c.ud taken (udlInBytes - taken)
      match charset with
      | .sevenBit => decodeSeptets sms c.udl taken field
      | _ => .ok (g.ucs2ToUtf8 (field.take ((udlInBytes - taken) / 2 * 2)))

/-- `g_string_append` of what was converted, if anything was. -/
def gStringAppend (str : List UInt8) (converted : Option (List UInt8)) : List UInt8 :=
  str ++ CString.untilNul (converted.getD [])

def smsDecodeText (g : GConvert) (smsList : List Sms) : Outcome (List UInt8) :=
  smsList.foldlM (fun str sms => do return gStringAppend str (← decodeFragment g sms)) []

/-! ## Preparing -/

/-- The octet of a dialect in a language variant. -/
def dialectOctet : GsmDialect → UInt8
  | .default => 0
  | .turkish => 1
  | .spanish => 2
  | .portuguese => 3

/-- An information element of `len` octets in all, of which `octets` are known, goes
behind the header: `ud[0] += len` and the assignments from `ud[offset]` on. -/
def appendIe (ud : Buf 140) (offset len : ℕ) (octets : List UInt8) : Outcome (Buf 140 × ℕ) := do
  let offset := if offset = 0 then 1 else offset
  let ud ← orFault (ud.write 0 [ud.get 0 + UInt8.ofNat len])
  let ud ← orFault (ud.write offset octets)
  return (ud, offset + len)

/-- The element for a dialect, unless it is the default one. -/
def appendDialect (iei : UInt8) (used : GsmDialect) (ud : Buf 140) (offset : ℕ) :
    Outcome (Buf 140 × ℕ) :=
  if used ≠ .default then appendIe ud offset 3 [iei, 1, dialectOctet used] else .ok (ud, offset)

/-- The element of concatenation, but for the two octets of the maximum and the number. -/
def appendConcatenation (use16bit : Bool) (ref : UInt16) (ud : Buf 140) (offset : ℕ) :
    Outcome (Buf 140 × ℕ) :=
  if use16bit then
    appendIe ud offset 6 [0x08, 4, ((ref &&& 0xff00) >>> 8).toUInt8, (ref &&& 0xff).toUInt8]
  else appendIe ud offset 5 [0x00, 3, (ref &&& 0xff).toUInt8]

/-- `template.submit.udl` and the octets from `ud + offset` on, for one message. -/
def putText (gsm : Bool) (template : SmsSubmit) (offset : ℕ) (chunk : List UInt8) :
    Outcome SmsSubmit := do
  if gsm then
    let packed := (Septets.pack7bitOwnBuf chunk offset false).getD []
    let ud ← orFault (template.ud.write offset packed)
    return { template with udl := UInt8.ofNat (chunk.length + (offset * 8 + 6) / 7), ud := ud }
  else
    let ud ← orFault (template.ud.write offset chunk)
    return { template with udl := UInt8.ofNat (chunk.length + offset), ud := ud }

/-- Whether the text goes in one message. -/
def fitsInOne (gsm : Bool) (offset : ℕ) (encoded : List UInt8) : Bool :=
  if gsm then encoded.length ≤ smsTextCapacityGsm 160 offset else (encoded.length : ℤ) ≤ 140 - offset

/-- `chunk`, for what is left of the text. -/
def chunkLength (gsm : Bool) (offset : ℕ) (left : List UInt8) : ℕ :=
  if gsm then
    let chunk := min left.length (smsTextCapacityGsm 160 offset).toNat
    if left.getD (chunk - 1) 0 = 0x1b then chunk - 1 else chunk
  else min left.length ((140 - offset) / 2 * 2)

/-- The assignments to the template in a turn of the loop. -/
def putFragment (gsm : Bool) (template : SmsSubmit) (offset : ℕ) (seq : UInt8) (chunk : List UInt8) :
    Outcome SmsSubmit := do
  let template ← putText gsm template offset chunk
  let ud ← orFault (template.ud.write (offset - 1) [seq])
  return { template with ud := ud }

/-- The loop `while (left > 0)`, with the template that all fragments share: the
fragments, `seq`, and what is left. The loop ends in the turn in which `seq` becomes 255;
the first argument is `255 - seq`. -/
def fragmentLoop (gsm : Bool) (offset : ℕ) :
    ℕ → SmsSubmit → UInt8 → List UInt8 → Outcome (List SmsSubmit × UInt8 × List UInt8)
  | 0, _, seq, left => .ok ([], seq, left)
  | n + 1, template, seq, left =>
    if left.isEmpty then .ok ([], seq, left)
    else do
      let seq := seq + 1
      let chunk := chunkLength gsm offset left
      let template ← putFragment gsm template offset seq (left.take chunk)
      let r ← fragmentLoop gsm offset n template seq (left.drop chunk)
      return (template :: r.1, r.2)

/-- `sms->submit.ud[offset - 2] = seq` -/
def patchMax (offset : ℕ) (seq : UInt8) (submit : SmsSubmit) : Outcome SmsSubmit := do
  let ud ← orFault (submit.ud.write (offset - 2) [seq])
  return { submit with ud := ud }

/-- The rest of `sms_text_prepare_with_alphabet`, once the alphabet is known and its
elements are in the header. -/
def prepareSubmits (gsm : Bool) (encoded : List UInt8) (template : SmsSubmit) (offset : ℕ)
    (ref : UInt16) (use16bit : Bool) : Outcome (List SmsSubmit) := do
  let template := { template with udhi := offset != 0 }
  if fitsInOne gsm offset encoded then
    let template ← putText gsm template offset encoded
    return [template]
  else
    let (ud, offset) ← appendConcatenation use16bit ref template.ud offset
    let template := { template with udhi := true, ud := ud }
    let (submits, seq, left) ← fragmentLoop gsm offset 255 template 0 encoded
    if left.isEmpty then submits.mapM (patchMax offset seq) else .reject

def smsTextPrepareWithAlphabet (g : GConvert) (dest utf8 : List UInt8) (ref : UInt16)
    (use16bit useDeliveryReports : Bool) (alphabet : GsmDialect) : Outcome (List Sms) := do
  let daddr ← smsAddressFromString dest
  let template : SmsSubmit :=
    { rd := false, rp := false, udhi := false, srr := useDeliveryReports, mr := 0, daddr := daddr,
      pid := 0, dcs := 0, vp := .relative 0xA7, udl := 0, ud := Buf.zero 140 }
  let submits ←
    match Gsm.convertUtf8ToGsmBestLang utf8 alphabet with
    | some (gsmEncoded, usedLocking, usedSingle) => do
        let (ud, offset) ← appendDialect 0x24 usedSingle template.ud 0
        let (ud, offset) ← appendDialect 0x25 usedLocking ud offset
        prepareSubmits true gsmEncoded { template with dcs := 0x00, ud := ud } offset ref use16bit
    | none => do
        let ucs2Encoded ← orReject (g.utf8ToUcs2 utf8)
        prepareSubmits false ucs2Encoded { template with dcs := 0x08 } 0 ref use16bit
  return submits.map fun submit => ⟨SmsAddress.zero, .submit submit⟩

end Phonelets.Sms
