import Phonelets.Lib.Decoder

/-! # GSM 07.10 frames

The frames of the multiplexer in both of its forms, as `gsm0710.c` writes them and finds them in what
has been received. The advanced form quotes octets; its frames are unquoted in place, to the front of
the buffer.
-/

namespace Phonelets.Gatchat

open Outcome (orFault)

/-! ## Frame check sequences -/

def crcTable : List UInt8 := [
  0x00, 0x91, 0xE3, 0x72, 0x07, 0x96, 0xE4, 0x75, 0x0E, 0x9F, 0xED, 0x7C, 0x09, 0x98, 0xEA, 0x7B,
  0x1C, 0x8D, 0xFF, 0x6E, 0x1B, 0x8A, 0xF8, 0x69, 0x12, 0x83, 0xF1, 0x60, 0x15, 0x84, 0xF6, 0x67,
  0x38, 0xA9, 0xDB, 0x4A, 0x3F, 0xAE, 0xDC, 0x4D, 0x36, 0xA7, 0xD5, 0x44, 0x31, 0xA0, 0xD2, 0x43,
  0x24, 0xB5, 0xC7, 0x56, 0x23, 0xB2, 0xC0, 0x51, 0x2A, 0xBB, 0xC9, 0x58, 0x2D, 0xBC, 0xCE, 0x5F,
  0x70, 0xE1, 0x93, 0x02, 0x77, 0xE6, 0x94, 0x05, 0x7E, 0xEF, 0x9D, 0x0C, 0x79, 0xE8, 0x9A, 0x0B,
  0x6C, 0xFD, 0x8F, 0x1E, 0x6B, 0xFA, 0x88, 0x19, 0x62, 0xF3, 0x81, 0x10, 0x65, 0xF4, 0x86, 0x17,
  0x48, 0xD9, 0xAB, 0x3A, 0x4F, 0xDE, 0xAC, 0x3D, 0x46, 0xD7, 0xA5, 0x34, 0x41, 0xD0, 0xA2, 0x33,
  0x54, 0xC5, 0xB7, 0x26, 0x53, 0xC2, 0xB0, 0x21, 0x5A, 0xCB, 0xB9, 0x28, 0x5D, 0xCC, 0xBE, 0x2F,
  0xE0, 0x71, 0x03, 0x92, 0xE7, 0x76, 0x04, 0x95, 0xEE, 0x7F, 0x0D, 0x9C, 0xE9, 0x78, 0x0A, 0x9B,
  0xFC, 0x6D, 0x1F, 0x8E, 0xFB, 0x6A, 0x18, 0x89, 0xF2, 0x63, 0x11, 0x80, 0xF5, 0x64, 0x16, 0x87,
  0xD8, 0x49, 0x3B, 0xAA, 0xDF, 0x4E, 0x3C, 0xAD, 0xD6, 0x47, 0x35, 0xA4, 0xD1, 0x40, 0x32, 0xA3,
  0xC4, 0x55, 0x27, 0xB6, 0xC3, 0x52, 0x20, 0xB1, 0xCA, 0x5B, 0x29, 0xB8, 0xCD, 0x5C, 0x2E, 0xBF,
  0x90, 0x01, 0x73, 0xE2, 0x97, 0x06, 0x74, 0xE5, 0x9E, 0x0F, 0x7D, 0xEC, 0x99, 0x08, 0x7A, 0xEB,
  0x8C, 0x1D, 0x6F, 0xFE, 0x8B, 0x1A, 0x68, 0xF9, 0x82, 0x13, 0x61, 0xF0, 0x85, 0x14, 0x66, 0xF7,
  0xA8, 0x39, 0x4B, 0xDA, 0xAF, 0x3E, 0x4C, 0xDD, 0xA6, 0x37, 0x45, 0xD4, 0xA1, 0x30, 0x42, 0xD3,
  0xB4, 0x25, 0x57, 0xC6, 0xB3, 0x22, 0x50, 0xC1, 0xBA, 0x2B, 0x59, 0xC8, 0xBD, 0x2C, 0x5E, 0xCF]

def gsm0710Crc (data : List UInt8) : UInt8 :=
  data.foldl (fun crc b => crcTable.getD (crc ^^^ b).toNat 0) 0xff

def gsm0710Fcs (data : List UInt8) : UInt8 := 0xff - gsm0710Crc data

def gsm0710CheckFcs (data : List UInt8) (cfcs : UInt8) : Bool :=
  crcTable.getD (gsm0710Crc data ^^^ cfcs).toNat 0 = 0xcf

/-! ## Writing -/

/-- `GSM0710_OPEN_CHANNEL` and so on. -/
def gsm0710OpenChannel : UInt8 := 0x3f
def gsm0710CloseChannel : UInt8 := 0x53
def gsm0710Data : UInt8 := 0xef
def gsm0710DataAlt : UInt8 := 0x03
def gsm0710StatusSet : UInt8 := 0xe3
def gsm0710StatusAck : UInt8 := 0xe1

/-- `(dlc << 2) | 0x03` -/
def gsm0710Address (dlc : UInt8) : UInt8 := dlc <<< 2 ||| 0x03

/-- An octet in a frame of the advanced form. -/
def quoteOctet (b : UInt8) : List UInt8 :=
  if b ≠ 0x7e ∧ b ≠ 0x7d then [b] else [0x7d, b ^^^ 0x20]

/-- `gsm0710_advanced_fill_frame`; what is written, from the start of the frame on. -/
def gsm0710AdvancedFillFrame (dlc type : UInt8) (data : List UInt8) : List UInt8 :=
  let crc := gsm0710Fcs [gsm0710Address dlc, type]
  0x7e :: gsm0710Address dlc :: quoteOctet type ++ data.flatMap quoteOctet ++ quoteOctet crc ++ [0x7e]

/-- Address, control and length of a frame of the basic form. -/
def basicHeader (dlc type : UInt8) (len : ℕ) : List UInt8 :=
  if len ≤ 127 then [gsm0710Address dlc, type, UInt8.ofNat (len <<< 1) ||| 0x01]
  else [gsm0710Address dlc, type, UInt8.ofNat (len <<< 1), UInt8.ofNat (len >>> 7)]

/-- `gsm0710_basic_fill_frame`; what is written, from the start of the frame on. -/
def gsm0710BasicFillFrame (dlc type : UInt8) (data : List UInt8) : List UInt8 :=
  let header := basicHeader dlc type data.length
  0xf9 :: header ++ data ++ [gsm0710Fcs header, 0xf9]

/-! ## Reading -/

/-- A frame that has been found: where its data are in the buffer, and how many. -/
structure ExtractedFrame where
  dlc : UInt8
  control : UInt8
  start : ℕ
  length : ℤ

/-- The position that is returned, the frame if one has been found, and the buffer. -/
structure Extraction where
  posn : ℕ
  frame : Option ExtractedFrame
  buf : List UInt8

/-- `buf[i]`, and `n` octets from there on. -/
def readOctet (buf : List UInt8) (i : ℤ) : Outcome UInt8 :=
  if 0 ≤ i then orFault buf[i.toNat]? else .fault

def readOctets (buf : List UInt8) (i n : ℕ) : Outcome (List UInt8) :=
  if i + n ≤ buf.length then .ok ((buf.drop i).take n) else .fault

/-- `while ((posn + 1) < len && buf[posn + 1] == flag) posn += 1;` -/
def skipFlags (flag : UInt8) (buf : List UInt8) (posn : ℕ) : ℕ :=
  posn + ((buf.drop (posn + 1)).takeWhile (· = flag)).length

/-- `while (framelen < len && buf[framelen] != 0x7E) framelen += 1;` -/
def frameEnd (buf : List UInt8) (framelen : ℕ) : ℕ :=
  framelen + ((buf.drop framelen).takeWhile (· ≠ 0x7e)).length

/-- The quoting is undone from `posn` up to `framelen`, to `posn2` on. There are not more rounds than
octets. -/
def unquote (framelen : ℕ) : ℕ → List UInt8 → ℕ → ℕ → Outcome (List UInt8 × ℕ × ℕ)
  | 0, buf, posn, posn2 => .ok (buf, posn, posn2)
  | fuel + 1, buf, posn, posn2 =>
    if posn < framelen then do
      let b ← readOctet buf posn
      if b = 0x7d then
        if posn + 1 ≥ framelen then .ok (buf, posn + 1, posn2)
        else do
          let c ← readOctet buf (posn + 1)
          unquote framelen fuel (buf.set posn2 (c ^^^ 0x20)) (posn + 2) (posn2 + 1)
      else unquote framelen fuel (buf.set posn2 b) (posn + 1) (posn2 + 1)
    else .ok (buf, posn, posn2)

/-- The loop of `gsm0710_advanced_extract_frame`; `posn` grows in each of its rounds. -/
def advancedExtractLoop : ℕ → List UInt8 → ℕ → Outcome Extraction
  | 0, _, _ => .fault
  | fuel + 1, buf, posn =>
    if posn < buf.length then do
      let b ← readOctet buf posn
      if b ≠ 0x7e then advancedExtractLoop fuel buf (posn + 1)
      else
        let posn := skipFlags 0x7e buf posn
        let framelen := frameEnd buf (posn + 1)
        if framelen ≥ buf.length then .ok ⟨posn, none, buf⟩
        else if framelen < 4 then advancedExtractLoop fuel buf framelen
        else do
          let (buf, posn, posn2) ← unquote framelen framelen buf (posn + 1) 0
          let header ← readOctets buf 0 2
          let fcs ← readOctet buf (posn2 - 1)
          if gsm0710CheckFcs header fcs then
            .ok ⟨posn, some ⟨(header.getD 0 0 >>> 2) &&& 0x3f, header.getD 1 0 &&& 0xef, 2, posn2 - 3⟩,
              buf⟩
          else advancedExtractLoop fuel buf posn
    else .ok ⟨posn, none, buf⟩

def gsm0710AdvancedExtractFrame (buf : List UInt8) : Outcome Extraction :=
  advancedExtractLoop (buf.length + 1) buf 0

/-- The loop of `gsm0710_basic_extract_frame` from the flag at `posn` on, when the lengths are known;
`again` is the next round. -/
def basicExtractAt (buf : List UInt8) (again : ℕ → Outcome Extraction)
    (posn headerSize framelen : ℕ) : Outcome Extraction :=
  if posn + headerSize + 3 + framelen > buf.length then .ok ⟨posn, none, buf⟩
  else do
    let fcs ← readOctet buf (posn + 1 + headerSize + framelen)
    let header ← readOctets buf (posn + 1) headerSize
    if gsm0710CheckFcs header fcs then do
      let flag ← readOctet buf (posn + headerSize + framelen + 2)
      if flag ≠ 0xf9 then again (posn + headerSize + framelen + 2)
      else
        .ok ⟨posn + headerSize + framelen + 2,
          some ⟨header.getD 0 0 >>> 2, header.getD 1 0 &&& 0xef, posn + 1 + headerSize, framelen⟩, buf⟩
    else again (posn + headerSize + framelen + 2)

/-- The loop of `gsm0710_basic_extract_frame`; `posn` grows in each of its rounds. -/
def basicExtractLoop (buf : List UInt8) : ℕ → ℕ → Outcome Extraction
  | 0, _ => .fault
  | fuel + 1, posn =>
    if posn < buf.length then do
      let b ← readOctet buf posn
      if b ≠ 0xf9 then basicExtractLoop buf fuel (posn + 1)
      else
        let posn := skipFlags 0xf9 buf posn
        if posn + 4 > buf.length then .ok ⟨posn, none, buf⟩
        else do
          let address ← readOctet buf (posn + 1)
          if address &&& 0x01 = 0 then basicExtractLoop buf fuel (posn + 1)
          else do
            let length ← readOctet buf (posn + 3)
            let framelen := (length >>> 1).toNat
            if length &&& 0x01 ≠ 0 then
              basicExtractAt buf (basicExtractLoop buf fuel) posn 3 framelen
            else if posn + 5 > buf.length then .ok ⟨posn, none, buf⟩
            else do
              let high ← readOctet buf (posn + 4)
              basicExtractAt buf (basicExtractLoop buf fuel) posn 4 (framelen ||| high.toNat <<< 7)
    else .ok ⟨posn, none, buf⟩

def gsm0710BasicExtractFrame (buf : List UInt8) : Outcome Extraction :=
  basicExtractLoop buf (buf.length + 1) 0

end Phonelets.Gatchat
