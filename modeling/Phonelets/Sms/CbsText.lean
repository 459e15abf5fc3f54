import Phonelets.Sms.CbsAssembly

/-! # The text of a cell broadcast message

`cbs_decode_text` puts the text of the pages one after the other. In the 7-bit alphabet it looks
for the padding of a page with `strspn`, which goes on until a character that is no CR.
-/

namespace Phonelets.Sms

open Outcome (orFault)
open Septets (unpack7bitOwnBuf)

/-! ## Language -/

/-- `iso639_2_from_language`, the empty string if there is none. -/
def iso6392FromLanguage : CbsLanguage → List UInt8
  | .german => [0x64, 0x65]
  | .english => [0x65, 0x6e]
  | .italian => [0x69, 0x74]
  | .french => [0x66, 0x72]
  | .spanish => [0x65, 0x73]
  | .dutch => [0x6e, 0x6c]
  | .swedish => [0x73, 0x76]
  | .danish => [0x64, 0x61]
  | .portugese => [0x70, 0x74]
  | .finnish => [0x66, 0x69]
  | .norwegian => [0x6e, 0x6f]
  | .greek => [0x65, 0x6c]
  | .turkish => [0x74, 0x72]
  | .hungarian => [0x68, 0x75]
  | .polish => [0x70, 0x6c]
  | .czech => [0x63, 0x73]
  | .hebrew => [0x68, 0x65]
  | .arabic => [0x61, 0x72]
  | .russian => [0x72, 0x75]
  | .icelandic => [0x69, 0x73]
  | .unspecified => []

/-! ## Header -/

def smsUdhIterInitFromCbs (cbs : Cbs) : Option UdhIter :=
  let udhi := ((cbsDcsDecode cbs.dcs).map CbsDcsInfo.udhi).getD false
  if !udhi then none
  else if (cbs.ud.getD 0 0).toNat < 2 then none
  else if (cbs.ud.getD 0 0).toNat ≥ 82 then none
  else if !verifyUdh cbs.ud 82 then none
  else some ⟨cbs.ud, 1⟩

/-- `taken`: the octets of the header. -/
def takenFromCbs (cbs : Cbs) : ℕ :=
  match smsUdhIterInitFromCbs cbs with
  | some iter => iter.getUdhLength + 1
  | none => 0

/-! ## Coding -/

/-- What a page adds to `bufsize`. -/
def pageCapacity (charset : SmsCharset) (iso639 : Bool) : ℕ :=
  if charset = .sevenBit then 93 - (if iso639 then 3 else 0) else 82 - (if iso639 then 2 else 0)

/-- The first loop of `cbs_decode_text`, with the charset and the flag of the first page: the
size of the buffer and the language of the last page. -/
def codingLoop (charset : SmsCharset) (iso639 : Bool) :
    List Cbs → ℕ → CbsLanguage → Option (ℕ × CbsLanguage)
  | [], bufsize, lang => some (bufsize, lang)
  | cbs :: l, bufsize, _ =>
    (cbsDcsDecode cbs.dcs).bind fun info =>
      if info.charset ≠ charset then none
      else if info.iso639 ≠ iso639 then none
      else if info.charset = .eightBit then none
      else codingLoop charset iso639 l (bufsize + pageCapacity charset iso639) info.language

/-! ## Pages -/

/-- `buf[bufsize++] = octet`, in a buffer of `size` octets. -/
def putOctet (size : ℕ) (buf : List UInt8) (octet : UInt8) : Outcome (List UInt8) :=
  if buf.length < size then .ok (buf ++ [octet]) else .fault

/-- `strspn (s, "\r")` on what has been written; there is no terminator behind it. -/
def strspnCr : List UInt8 → Outcome ℕ
  | [] => .fault
  | c :: s =>
    if c = 0x0d then do
      let t ← strspnCr s
      return t + 1
    else .ok 0

/-- The loop over the unpacked page, from `i` on. -/
def copySeptets (size : ℕ) : List UInt8 → List UInt8 → Outcome (List UInt8)
  | [], buf => .ok buf
  | c :: s, buf =>
    if c = 0x0d then do
      let t ← strspnCr (c :: s)
      if t = (c :: s).length then return buf
      else
        let buf ← putOctet size buf c
        copySeptets size s buf
    else do
      let buf ← putOctet size buf c
      copySeptets size s buf

/-- The loop over `j`: nothing but CR up to `max_offset`. -/
def onlyCr : List UInt8 → Bool
  | hi :: lo :: ud => lo == 0x0d && hi == 0x00 && onlyCr ud
  | _ => true

/-- The loop over a page of UCS2 characters, from `i` to `max_offset`. -/
def copyUcs2 (size : ℕ) : List UInt8 → List UInt8 → Outcome (List UInt8)
  | [], buf => .ok buf
  | [_], _ => .fault
  | hi :: lo :: ud, buf =>
    if hi = 0x00 ∧ lo = 0x0d ∧ onlyCr ud then .ok buf
    else do
      let buf ← putOctet size buf hi
      let buf ← putOctet size buf lo
      copyUcs2 size ud buf

/-- A turn of the second loop of `cbs_decode_text`. -/
def copyPage (charset : SmsCharset) (iso639 : Bool) (size : ℕ) (buf : List UInt8) (cbs : Cbs) :
    Outcome (List UInt8) :=
  let taken := takenFromCbs cbs
  if charset = .sevenBit then do
    let maxChars := smsTextCapacityGsm 93 taken
    -- of no octets nothing is unpacked, and `written` has no value
    let unpacked ← orFault (unpack7bitOwnBuf (cbs.ud.drop taken) taken false maxChars.toNat)
    copySeptets size (unpacked.drop (if iso639 then 3 else 0)) buf
  else
    let numUcs2Chars := (82 - taken) >>> 1
    let maxOffset := taken + numUcs2Chars * 2
    let i := if iso639 then taken + 2 else taken
    copyUcs2 size ((cbs.ud.take maxOffset).drop i) buf

/-- What is stored to `iso639_lang`, if anything is: `CBS_LANGUAGE_GERMAN` is 0. -/
def languageOf (first : Cbs) (iso639 : Bool) (lang : CbsLanguage) : Option (List UInt8) :=
  if lang = .german then none
  else if iso639 then
    let taken := takenFromCbs first
    unpack7bitOwnBuf (first.ud.drop taken) taken false 2
  else some (iso6392FromLanguage lang)

/-- The charset of the text to UTF-8. -/
def textToUtf8 (g : GConvert) (charset : SmsCharset) (text : List UInt8) : Option (List UInt8) :=
  if charset = .sevenBit then Gsm.convertGsmToUtf8 text else g.ucs2ToUtf8 text

/-- `cbs_decode_text`: the text, and what is stored to `iso639_lang`. -/
def cbsDecodeText (g : GConvert) (cbsList : List Cbs) :
    Outcome (Option (List UInt8) × Option (List UInt8)) :=
  match cbsList with
  | [] => .ok (none, none)
  | first :: rest =>
    match cbsDcsDecode first.dcs with
    | none => .ok (none, none)
    | some info =>
      match codingLoop info.charset info.iso639 (first :: rest) 0 info.language with
      | none => .ok (none, none)
      | some (bufsize, lang) => do
          let buf ← (first :: rest).foldlM (copyPage info.charset info.iso639 bufsize) []
          return (textToUtf8 g info.charset buf, languageOf first info.iso639 lang)

end Phonelets.Sms
