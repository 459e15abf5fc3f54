import Mathlib
import Phonelets.Lib.BitFields
import Phonelets.Lib.Decoder
import Phonelets.Util.Hex

/-! # Images

`stk_image_to_xpm` prints an image of the card as an X pixmap. The symbols of the pixels are
made of the 64 characters of a table, one or two for a symbol.
-/

namespace Phonelets.Stk

open Outcome (orReject orFault)

/-- `enum stk_img_scheme`; any other value goes the way of `color`. -/
inductive StkImgScheme where
  | basic
  | color
  | transparency
  | other
  deriving DecidableEq

def charsTable : List Char :=
  "0123456789ABCDEFGHIJKLMNOPQRSTUVWXYZabcdefghijklmnopqrstuvwxyz+.".toList

/-! ## The code -/

/-- What stands in front of the pixels, and where the pixels begin. -/
structure ImgHeader where
  width : UInt8
  height : UInt8
  nbits : ℕ
  ncolors : ℕ
  pos : ℕ

/-- `stk_image_to_xpm` up to the colour table. -/
def readImgHeader (img : List UInt8) (scheme : StkImgScheme) (clut : Option (List UInt8)) :
    Outcome ImgHeader :=
  if img.length < 3 then .reject
  else do
    let width ← orFault img[0]?
    let height ← orFault img[1]?
    if scheme = .basic then return ⟨width, height, 1, 2, 2⟩
    else if 2 + 4 > img.length then .reject
    else do
      let clut ← orReject clut
      let nbits ← orFault img[2]?
      let ncolors ← orFault img[3]?
      -- 0 stands for 256 colours; two octets with the place of the table are skipped
      let ncolors := if ncolors = 0 then 256 else ncolors.toNat
      if ncolors * 3 > clut.length then .reject
      else return ⟨width, height, nbits.toNat, ncolors, 6⟩

/-- The characters of a colour number. -/
def entryChars (ncolors entry : ℕ) : Outcome (List Char) :=
  if ncolors > 64 then do
    let high ← orFault charsTable[entry / 64]?
    let low ← orFault charsTable[entry % 64]?
    return [high, low]
  else do
    let low ← orFault charsTable[entry % 64]?
    return [low]

/-- `"..."` on a line of the array. -/
def xpmString (s : List Char) : List Char := Char.ofNat 34 :: (s ++ [Char.ofNat 34, ',', '\n'])

/-- `#%02hhX%02hhX%02hhX`. -/
def colorHex (r g b : UInt8) : List Char :=
  '#' :: (Hex.encodeHexOwnBuf [r, g, b]).map fun o => Char.ofNat o.toNat

/-- The line of colour `i`; the pointer into the table moves by three octets a colour. -/
def colorLine (scheme : StkImgScheme) (ncolors : ℕ) (clut : List UInt8) (i : ℕ) :
    Outcome (List Char) := do
  let c ← entryChars ncolors i
  if i = ncolors - 1 ∧ scheme = .transparency then return xpmString (c ++ "\tc None".toList)
  else do
    let r ← orFault clut[3 * i]?
    let g ← orFault clut[3 * i + 1]?
    let b ← orFault clut[3 * i + 2]?
    return xpmString (c ++ ("\tc ".toList ++ colorHex r g b))

/-- The lines of all colours. -/
def colorLines (scheme : StkImgScheme) (ncolors : ℕ) (clut : List UInt8) : Outcome (List Char) :=
  if scheme = .basic then
    return xpmString "0\tc #000000".toList ++ xpmString "1\tc #FFFFFF".toList
  else do
    let lines ← (List.range ncolors).mapM (colorLine scheme ncolors clut)
    return lines.flatten

/-- The loop over the bits of a pixel, from the given one down; a bit cannot be shifted out of
an `int`. `pos` and `k` are the octet and the bit in it that is read next. -/
def readEntry (img : List UInt8) : ℕ → ℕ → ℕ → ℕ → Outcome (ℕ × ℕ × ℕ)
  | 0, entry, pos, k => .ok (entry, pos, k)
  | bit + 1, entry, pos, k => do
      let o ← orFault img[pos]?
      if 32 ≤ bit then .fault
      else
        let entry := entry ||| (o.toNat >>> k &&& 1) <<< bit
        if k = 0 then readEntry img bit entry (pos + 1) 7
        else readEntry img bit entry pos (k - 1)

/-- The characters of a row of that many pixels. -/
def readRow (img : List UInt8) (nbits ncolors : ℕ) : ℕ → ℕ → ℕ → Outcome (List Char × ℕ × ℕ)
  | 0, pos, k => .ok ([], pos, k)
  | width + 1, pos, k => do
      let (entry, pos, k) ← readEntry img nbits 0 pos k
      let c ← entryChars ncolors entry
      let (row, pos, k) ← readRow img nbits ncolors width pos k
      return (c ++ row, pos, k)

/-- The lines of that many rows. -/
def readRows (img : List UInt8) (nbits ncolors width : ℕ) : ℕ → ℕ → ℕ → Outcome (List Char)
  | 0, _, _ => .ok []
  | height + 1, pos, k => do
      let (row, pos, k) ← readRow img nbits ncolors width pos k
      let rows ← readRows img nbits ncolors width height pos k
      return xpmString row ++ rows

def xpmHeader : List Char := "/* XPM */\n".toList

def xpmDeclaration : List Char := "static char *xpm[] = \x7b\n".toList

/-- `%d %d %d %d` -/
def xpmValues (width height ncolors cpp : ℕ) : List Char :=
  Nat.toDigits 10 width ++ ' ' :: (Nat.toDigits 10 height ++ ' ' :: (Nat.toDigits 10 ncolors ++
    ' ' :: Nat.toDigits 10 cpp))

def charsPerPixel (ncolors : ℕ) : ℕ := if ncolors > 64 then 2 else 1

/-- `stk_image_to_xpm`. The length of the data is checked for one bit a pixel. -/
def stkImageToXpm (img : Option (List UInt8)) (scheme : StkImgScheme)
    (clut : Option (List UInt8)) : Outcome (List Char) := do
  let img ← orReject img
  let h ← readImgHeader img scheme clut
  if h.pos + (h.width.toNat * h.height.toNat + 7) / 8 > img.length then .reject
  else do
    let colors ← colorLines scheme h.ncolors (clut.getD [])
    let rows ← readRows img h.nbits h.ncolors h.width.toNat h.height.toNat h.pos 7
    return xpmHeader ++ (xpmDeclaration ++
      (xpmString (xpmValues h.width.toNat h.height.toNat h.ncolors (charsPerPixel h.ncolors)) ++
        (colors ++ (rows ++ "\x7d;".toList))))

end Phonelets.Stk
