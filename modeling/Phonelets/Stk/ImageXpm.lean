import Phonelets.Stk.Image

/-! # What the pixmap of an image shows

An X pixmap names its colours by symbols and gives the symbol of each pixel, row by row. The
pixels of an image of the card are numbers of `nbits` bits, one behind the other from the first
octet behind the header on.
-/

namespace Phonelets.Stk

open List Option Outcome
open Outcome (orReject orFault)
open BitFields (bitAt field)

/-! ## X pixmaps -/

structure Xpm where
  width : ℕ
  height : ℕ
  cpp : ℕ
  /-- symbols and their colours -/
  colors : List (List Char × List Char)
  /-- the symbols of the pixels -/
  rows : List (List (List Char))

namespace Xpm

/-- The pixmap as C text. -/
def print (x : Xpm) : List Char :=
  xpmHeader ++ (xpmDeclaration ++
    (xpmString (xpmValues x.width x.height x.colors.length x.cpp) ++
      (x.colors.flatMap (fun c => xpmString (c.1 ++ ("\tc ".toList ++ c.2))) ++
        (x.rows.flatMap (fun row => xpmString row.flatten) ++ "\x7d;".toList))))

/-- What is declared is there, and no two colours share a symbol. -/
structure WellFormed (x : Xpm) : Prop where
  symbols : (x.colors.map Prod.fst).Nodup
  color_cpp : ∀ c ∈ x.colors, c.1.length = x.cpp
  pixel_cpp : ∀ row ∈ x.rows, ∀ s ∈ row, s.length = x.cpp
  height_eq : x.rows.length = x.height
  width_eq : ∀ row ∈ x.rows, row.length = x.width

/-- The colour of the pixel in row `i` and column `j`. -/
def pixel (x : Xpm) (i j : ℕ) : Option (List Char) := do
  let row ← x.rows[i]?
  let s ← row[j]?
  x.colors.lookup s

end Xpm

/-! ## Images of the card -/

structure StkImage where
  octets : List UInt8
  scheme : StkImgScheme
  clut : Option (List UInt8)

namespace StkImage

variable (img : StkImage)

def octet (i : ℕ) : ℕ := (img.octets[i]?.getD 0).toNat

def width : ℕ := img.octet 0

def height : ℕ := img.octet 1

def nbits : ℕ := if img.scheme = .basic then 1 else img.octet 2

def ncolors : ℕ := if img.scheme = .basic then 2 else if img.octet 3 = 0 then 256 else img.octet 3

/-- The octet with the first pixel. -/
def start : ℕ := if img.scheme = .basic then 2 else 6

/-- The colour number of pixel `p`. -/
def number (p : ℕ) : Option ℕ := field img.octets (8 * img.start + p * img.nbits) img.nbits

/-- The colour with that number. -/
def color (n : ℕ) : Option (List Char) :=
  if ¬ n < img.ncolors then none
  else if img.scheme = .basic then some (if n = 0 then "#000000".toList else "#FFFFFF".toList)
  else if n = img.ncolors - 1 ∧ img.scheme = .transparency then some "None".toList
  else do
    let clut ← img.clut
    let r ← clut[3 * n]?
    let g ← clut[3 * n + 1]?
    let b ← clut[3 * n + 2]?
    return colorHex r g b

/-- What `stk_image_to_xpm` returns for the image. -/
def toXpm : Outcome (List Char) := stkImageToXpm (some img.octets) img.scheme img.clut

/-- The text is a pixmap of the size of the image, with its colours, and each pixel has the
colour that the image has there. -/
def DepictedBy (text : List Char) : Prop :=
  ∃ x : Xpm, text = x.print ∧ x.WellFormed ∧ x.width = img.width ∧ x.height = img.height ∧
    x.colors.length = img.ncolors ∧
    ∀ i < img.height, ∀ j < img.width, ∃ n c, img.number (i * img.width + j) = some n ∧
      n < img.ncolors ∧ img.color n = some c ∧ x.pixel i j = some c

/-- All pixels are in the octets, with no more bits than an `int` has, and are numbers of
colours. -/
structure PixelsCoded : Prop where
  stored : 8 * img.start + img.width * img.height * img.nbits ≤ 8 * img.octets.length
  shifted : img.width * img.height = 0 ∨ img.nbits ≤ 32
  inPalette : ∀ p < img.width * img.height, ∀ n, img.number p = some n → n < img.ncolors

end StkImage

/-! ## Symbols -/

/-- The character for a number below 64. -/
def charOf (i : ℕ) : Char := charsTable[i]?.getD '0'

/-- The symbol of a colour number. -/
def symbol (ncolors n : ℕ) : List Char :=
  if ncolors > 64 then [charOf (n / 64), charOf (n % 64)] else [charOf (n % 64)]

lemma charsTable_nodup : charsTable.Nodup := by decide

variable {ncolors n m : ℕ}

lemma charOf_eq (h : n < 64) : charsTable[n]? = some (charOf n) := by
  have hlen : n < charsTable.length := h
  rw [charOf, getElem?_eq_getElem hlen, getD_some]

lemma charOf_injective (hn : n < 64) (hm : m < 64) (h : charOf n = charOf m) : n = m := by
  have heq : charsTable[n]? = charsTable[m]? := by rw [charOf_eq hn, charOf_eq hm, h]
  exact (getElem?_inj hn charsTable_nodup).mp heq

lemma length_symbol (ncolors n : ℕ) : (symbol ncolors n).length = charsPerPixel ncolors := by
  unfold symbol charsPerPixel
  split_ifs <;> rfl

lemma entryChars_eq (h : n < ncolors) (hmax : ncolors ≤ 256) :
    entryChars ncolors n = .ok (symbol ncolors n) := by
  have hlow : charsTable[n % 64]? = some (charOf (n % 64)) := charOf_eq (Nat.mod_lt _ (by omega))
  have hhigh : charsTable[n / 64]? = some (charOf (n / 64)) := charOf_eq (by omega)
  unfold entryChars symbol
  split_ifs
  · rw [hhigh, hlow]
    rfl
  · rw [hlow]
    rfl

lemma symbol_injective (hn : n < ncolors) (hm : m < ncolors) (hmax : ncolors ≤ 256)
    (h : symbol ncolors n = symbol ncolors m) : n = m := by
  unfold symbol at h
  split_ifs at h with hwide
  · obtain ⟨hhigh, hlow, -⟩ := cons_eq_cons.mp h |>.imp_right cons_eq_cons.mp
    have hdiv := charOf_injective (by omega) (by omega) hhigh
    have hmod := charOf_injective (Nat.mod_lt _ (by omega)) (Nat.mod_lt _ (by omega)) hlow
    omega
  · have hmod := charOf_injective (Nat.mod_lt _ (by omega)) (Nat.mod_lt _ (by omega))
      (cons_eq_cons.mp h).1
    omega

/-! ## Pixels -/

variable {l : List UInt8} {nbits q : ℕ}

/-- The octet and the bit in it that stand for bit `q` of the data. -/
lemma bitAt_eq (l : List UInt8) (q : ℕ) :
    bitAt l q = l[q / 8]?.map fun o => o.toNat >>> (7 - q % 8) &&& 1 := rfl

lemma or_bit {entry b n : ℕ} (hb : b < 2) (h : 2 ^ (n + 1) ∣ entry) :
    entry ||| b <<< n = entry + b * 2 ^ n := by
  obtain ⟨a, rfl⟩ := h
  have hlt : b <<< n < 2 ^ (n + 1) := by
    rw [Nat.shiftLeft_eq, pow_succ']
    exact Nat.mul_lt_mul_of_pos_right hb (Nat.two_pow_pos n)
  rw [← Nat.two_pow_add_eq_or_of_lt hlt, Nat.shiftLeft_eq]

lemma readEntry_eq (l : List UInt8) {n entry : ℕ} (hn : n ≤ 32) (hfree : 2 ^ n ∣ entry) (q : ℕ) :
    readEntry l n entry (q / 8) (7 - q % 8) =
      orFault ((field l q n).map fun v => (entry + v, (q + n) / 8, 7 - (q + n) % 8)) := by
  induction n generalizing entry q with
  | zero => rfl
  | succ n ih =>
    rw [readEntry, BitFields.field_succ]
    cases ho : l[q / 8]? with
    | none => simp [bitAt_eq, ho]
    | some o =>
      have hbit : bitAt l q = some (o.toNat >>> (7 - q % 8) &&& 1) := by
        rw [bitAt_eq, ho, map_some]
      rw [hbit, orFault_some, ok_bind, if_neg (by omega), bind_some]
      generalize hb : o.toNat >>> (7 - q % 8) &&& 1 = b at hbit
      have hfree' : 2 ^ n ∣ entry + b * 2 ^ n :=
        Nat.dvd_add ((pow_dvd_pow 2 (Nat.le_succ n)).trans hfree) (Nat.dvd_mul_left _ _)
      have hnext := ih (by omega) hfree' (q + 1)
      rw [or_bit (BitFields.bitAt_lt hbit) hfree]
      have hsum : q + 1 + n = q + (n + 1) := by omega
      have hadd : ∀ v, entry + b * 2 ^ n + v = entry + (b * 2 ^ n + v) := fun v =>
        Nat.add_assoc _ _ _
      simp only [hsum, hadd] at hnext
      -- the next bit is in this octet or the first of the next one
      split_ifs with hk
      · rw [show (q + 1) / 8 = q / 8 + 1 by omega, show 7 - (q + 1) % 8 = 7 by omega] at hnext
        rw [hnext, Option.map_map]
        rfl
      · rw [show (q + 1) / 8 = q / 8 by omega,
          show 7 - (q + 1) % 8 = 7 - q % 8 - 1 by omega] at hnext
        rw [hnext, Option.map_map]
        rfl

/-- An entry of more bits than an `int` has is shifted out of it. -/
lemma readEntry_wide (l : List UInt8) (hn : 32 < nbits) (entry pos k : ℕ) :
    readEntry l nbits entry pos k = .fault := by
  obtain ⟨n, rfl⟩ : ∃ n, nbits = n + 1 := ⟨nbits - 1, by omega⟩
  rw [readEntry]
  cases l[pos]? with
  | none => rfl
  | some o =>
    rw [orFault_some, ok_bind, if_pos (by omega)]

namespace StkImage

variable {img : StkImage}

/-- Bit `k` of octet `pos` is the first of pixel `p`. -/
def At (img : StkImage) (p pos k : ℕ) : Prop :=
  pos = (8 * img.start + p * img.nbits) / 8 ∧ k = 7 - (8 * img.start + p * img.nbits) % 8

/-- The symbol of pixel `p`. -/
def symbolAt (img : StkImage) (p : ℕ) : List Char := symbol img.ncolors ((img.number p).getD 0)

def rowAt (img : StkImage) (i : ℕ) : List (List Char) :=
  (List.range' (i * img.width) img.width).map img.symbolAt

/-- The pixels of a range are numbers of colours. -/
def Coded (img : StkImage) (p n : ℕ) : Prop :=
  ∀ p', p ≤ p' → p' < p + n → ∃ v, img.number p' = some v ∧ v < img.ncolors

lemma ncolors_le (img : StkImage) : img.ncolors ≤ 256 := by
  unfold ncolors octet
  have hlt := (img.octets[3]?.getD 0).toNat_lt
  split_ifs <;> omega

variable {p pos k : ℕ}

lemma readEntry_at {v : ℕ} (hn : img.nbits ≤ 32) (hat : img.At p pos k)
    (hv : img.number p = some v) : ∃ pos' k',
    readEntry img.octets img.nbits 0 pos k = .ok (v, pos', k') ∧ img.At (p + 1) pos' k' := by
  obtain ⟨rfl, rfl⟩ := hat
  refine ⟨_, _, ?_, rfl, rfl⟩
  have hnext : 8 * img.start + p * img.nbits + img.nbits =
      8 * img.start + (p + 1) * img.nbits := by ring
  rw [readEntry_eq _ hn (Nat.dvd_zero _), ← number, hv, map_some, orFault_some, Nat.zero_add, hnext]

lemma readRow_at {w : ℕ} (hn : 0 < w → img.nbits ≤ 32) (hat : img.At p pos k)
    (hcoded : img.Coded p w) : ∃ pos' k', readRow img.octets img.nbits img.ncolors w pos k =
    .ok (((List.range' p w).map img.symbolAt).flatten, pos', k') ∧ img.At (p + w) pos' k' := by
  induction w generalizing p pos k with
  | zero => exact ⟨pos, k, rfl, hat⟩
  | succ w ih =>
    obtain ⟨v, hv, hlt⟩ := hcoded p (le_refl p) (by omega)
    obtain ⟨pos₁, k₁, hentry, hat₁⟩ := readEntry_at (hn w.succ_pos) hat hv
    obtain ⟨pos₂, k₂, hrow, hat₂⟩ := ih (fun _ => hn w.succ_pos) hat₁
      fun p' hle hp' => hcoded p' (by omega) (by omega)
    refine ⟨pos₂, k₂, ?_, by rwa [show p + (w + 1) = p + 1 + w by omega]⟩
    have hsymbol : img.symbolAt p = symbol img.ncolors v := by
      rw [symbolAt, hv, getD_some]
    rw [readRow, hentry, ok_bind]
    dsimp only
    rw [entryChars_eq hlt img.ncolors_le, ok_bind, hrow, ok_bind,
      range'_succ, map_cons, flatten_cons, hsymbol]
    rfl

variable {i : ℕ}

lemma readRows_at {h : ℕ} (hn : 0 < img.width → 0 < h → img.nbits ≤ 32)
    (hat : img.At (i * img.width) pos k) (hcoded : img.Coded (i * img.width) (h * img.width)) :
    readRows img.octets img.nbits img.ncolors img.width h pos k =
    .ok ((List.range' i h).flatMap fun i => xpmString (img.rowAt i).flatten) := by
  induction h generalizing i pos k with
  | zero => rfl
  | succ h ih =>
    have hsum : (h + 1) * img.width = img.width + h * img.width := by ring
    have hnext : i * img.width + img.width = (i + 1) * img.width := by ring
    obtain ⟨pos₁, k₁, hrow, hat₁⟩ := readRow_at (w := img.width)
      (fun hw => hn hw h.succ_pos) hat
      fun p' hle hp' => hcoded p' hle (by omega)
    rw [hnext] at hat₁
    have hrows := ih (fun hw _ => hn hw h.succ_pos) hat₁ fun p' hle hp' => hcoded p' (by omega) (by omega)
    rw [readRows, hrow, ok_bind]
    dsimp only
    rw [hrows, ok_bind, range'_succ, flatMap_cons]
    rfl


/-! ## Colours -/

/-- What the checks of `stk_image_to_xpm` leave. -/
structure Checked (img : StkImage) : Prop where
  start_le : img.start ≤ img.octets.length
  clut : img.scheme = .basic ∨ ∃ clut, img.clut = some clut ∧ img.ncolors * 3 ≤ clut.length
  pixels : img.start + (img.width * img.height + 7) / 8 ≤ img.octets.length

variable {n : ℕ}

lemma clutColor_eq {clut : List UInt8} (hbasic : img.scheme ≠ .basic)
    (hclut : img.clut = some clut) (hlen : img.ncolors * 3 ≤ clut.length) (hn : n < img.ncolors) :
    ∃ r g b, clut[3 * n]? = some r ∧ clut[3 * n + 1]? = some g ∧ clut[3 * n + 2]? = some b ∧
      img.color n = some (if n = img.ncolors - 1 ∧ img.scheme = .transparency then "None".toList
        else colorHex r g b) := by
  have hr : clut[3 * n]? = some _ := getElem?_eq_getElem (by omega)
  have hg : clut[3 * n + 1]? = some _ := getElem?_eq_getElem (by omega)
  have hb : clut[3 * n + 2]? = some _ := getElem?_eq_getElem (by omega)
  refine ⟨_, _, _, hr, hg, hb, ?_⟩
  rw [color, if_neg (not_not_intro hn), if_neg hbasic]
  split_ifs with hlast
  · rfl
  · simp only [hclut, hr, hg, hb, bind_eq_bind, bind_some]
    rfl

lemma color_eq_some (h : img.Checked) (hn : n < img.ncolors) : ∃ c, img.color n = some c := by
  by_cases hbasic : img.scheme = .basic
  · rw [color, if_neg (not_not_intro hn), if_pos hbasic]
    exact ⟨_, rfl⟩
  · obtain ⟨clut, hclut, hlen⟩ := h.clut.resolve_left hbasic
    obtain ⟨r, g, b, -, -, -, hcolor⟩ := clutColor_eq hbasic hclut hlen hn
    exact ⟨_, hcolor⟩

/-- The line of a colour in the pixmap. -/
def colorText (img : StkImage) (n : ℕ) : List Char :=
  xpmString (symbol img.ncolors n ++ ("\tc ".toList ++ (img.color n).getD []))

lemma colorLine_eq {clut : List UInt8} (hbasic : img.scheme ≠ .basic)
    (hclut : img.clut = some clut) (hlen : img.ncolors * 3 ≤ clut.length) (hn : n < img.ncolors) :
    colorLine img.scheme img.ncolors clut n = .ok (img.colorText n) := by
  obtain ⟨r, g, b, hr, hg, hb, hcolor⟩ := clutColor_eq hbasic hclut hlen hn
  rw [colorLine, entryChars_eq hn img.ncolors_le, ok_bind, colorText, hcolor, hr, hg, hb, getD_some]
  split_ifs with hlast
  · rfl
  · rfl

lemma mapM_eq_map {α β : Type} {f : α → Outcome β} {g : α → β} {l : List α}
    (h : ∀ a ∈ l, f a = .ok (g a)) : l.mapM f = .ok (l.map g) := by
  induction l with
  | nil => rfl
  | cons a l ih =>
    rw [mapM_cons, h a mem_cons_self, ok_bind,
      ih fun b hb => h b (mem_cons_of_mem a hb)]
    rfl

lemma colorLines_eq (h : img.Checked) : colorLines img.scheme img.ncolors (img.clut.getD []) = .ok
    ((List.range img.ncolors).flatMap img.colorText) := by
  unfold colorLines
  split_ifs with hbasic
  · have hcount : img.ncolors = 2 := if_pos hbasic
    have hcolor : ∀ n < 2, img.color n =
        some (if n = 0 then "#000000".toList else "#FFFFFF".toList) := by
      intro n hn
      rw [color, if_neg (not_not_intro (hcount ▸ hn)), if_pos hbasic]
    simp only [hcount, colorText, hcolor, range_succ, range_zero, nil_append, flatMap_cons,
      flatMap_append, flatMap_nil, append_nil, Nat.one_lt_two, Nat.zero_lt_two, getD_some]
    rfl
  · obtain ⟨clut, hclut, hlen⟩ := h.clut.resolve_left hbasic
    rw [hclut, getD_some, mapM_eq_map fun n hn =>
      colorLine_eq hbasic hclut hlen (mem_range.mp hn)]
    rfl

/-! ## The header -/

/-- `stk_image_to_xpm` past its checks. -/
def printXpm (img : StkImage) : Outcome (List Char) := do
  let colors ← colorLines img.scheme img.ncolors (img.clut.getD [])
  let rows ← readRows img.octets img.nbits img.ncolors img.width img.height img.start 7
  return xpmHeader ++ (xpmDeclaration ++
    (xpmString (xpmValues img.width img.height img.ncolors (charsPerPixel img.ncolors)) ++
      (colors ++ (rows ++ "\x7d;".toList))))

lemma octet_eq {o : UInt8} (h : img.octets[i]? = some o) : img.octet i = o.toNat := by
  rw [octet, h, getD_some]

lemma readImgHeader_cases (img : StkImage) : readImgHeader img.octets img.scheme img.clut =
    .reject ∨ ∃ h, readImgHeader img.octets img.scheme img.clut = .ok h ∧
    h.width.toNat = img.width ∧ h.height.toNat = img.height ∧ h.nbits = img.nbits ∧
    h.ncolors = img.ncolors ∧ h.pos = img.start ∧ img.start ≤ img.octets.length ∧
    (img.scheme = .basic ∨ ∃ clut, img.clut = some clut ∧ img.ncolors * 3 ≤ clut.length) := by
  unfold readImgHeader
  have hoctet : ∀ i < img.octets.length, ∃ o, img.octets[i]? = some o := fun i hi =>
    ⟨_, getElem?_eq_getElem hi⟩
  split_ifs with hshort hbasic hpalette
  · exact .inl rfl
  · obtain ⟨w, hw⟩ := hoctet 0 (by omega)
    obtain ⟨h, hh⟩ := hoctet 1 (by omega)
    rw [hw, hh]
    refine .inr ⟨_, rfl, (octet_eq hw).symm, (octet_eq hh).symm, ?_, ?_, ?_, ?_, .inl hbasic⟩
    · exact (if_pos hbasic).symm
    · exact (if_pos hbasic).symm
    · exact (if_pos hbasic).symm
    · rw [start, if_pos hbasic]
      omega
  · obtain ⟨w, hw⟩ := hoctet 0 (by omega)
    obtain ⟨h, hh⟩ := hoctet 1 (by omega)
    rw [hw, hh]
    exact .inl rfl
  · obtain ⟨w, hw⟩ := hoctet 0 (by omega)
    obtain ⟨h, hh⟩ := hoctet 1 (by omega)
    obtain ⟨b, hb⟩ := hoctet 2 (by omega)
    obtain ⟨c, hc⟩ := hoctet 3 (by omega)
    rw [hw, hh, hb, hc]
    have hcount : (if c = 0 then 256 else c.toNat) = img.ncolors := by
      rw [ncolors, if_neg hbasic, octet_eq hc]
      simp only [← UInt8.toNat_inj, UInt8.toNat_zero]
    cases hclut : img.clut with
    | none => exact .inl rfl
    | some clut =>
      simp only [orFault_some, ok_bind, orReject_some, hcount]
      split_ifs with hlong
      · exact .inl rfl
      · refine .inr ⟨_, rfl, (octet_eq hw).symm, (octet_eq hh).symm, ?_, rfl, ?_, ?_,
          .inr ⟨clut, rfl, by omega⟩⟩
        · rw [nbits, if_neg hbasic, octet_eq hb]
        · exact (if_neg hbasic).symm
        · rw [start, if_neg hbasic]
          omega

lemma toXpm_cases (img : StkImage) :
    img.toXpm = .reject ∨ (img.Checked ∧ img.toXpm = img.printXpm) := by
  unfold toXpm stkImageToXpm
  rw [orReject_some, ok_bind]
  rcases readImgHeader_cases img with h | ⟨h, hh, hw, hhgt, hnbits, hncolors, hpos, hstart, hclut⟩
  · rw [h]
    exact .inl rfl
  · rw [hh, ok_bind, hw, hhgt, hnbits, hncolors, hpos]
    split_ifs with hlong
    · exact .inl rfl
    · exact .inr ⟨⟨hstart, hclut, by omega⟩, rfl⟩

/-! ## The pixmap -/

/-- The pixmap of an image. -/
def xpm (img : StkImage) : Xpm where
  width := img.width
  height := img.height
  cpp := charsPerPixel img.ncolors
  colors := (List.range img.ncolors).map fun n => (symbol img.ncolors n, (img.color n).getD [])
  rows := (List.range img.height).map img.rowAt

lemma number_isSome (h : 8 * img.start + img.width * img.height * img.nbits ≤ 8 * img.octets.length)
    (hp : p < img.width * img.height) : ∃ n, img.number p = some n := by
  rcases Nat.eq_zero_or_pos img.nbits with hn | hn
  · exact ⟨0, by rw [number, hn, BitFields.field_zero]⟩
  · have hle : (p + 1) * img.nbits ≤ img.width * img.height * img.nbits :=
      Nat.mul_le_mul_right _ hp
    rw [Nat.succ_mul p] at hle
    exact isSome_iff_exists.mp ((BitFields.field_isSome_iff hn).mpr (by omega))

lemma PixelsCoded.coded (h : img.PixelsCoded) : img.Coded 0 (img.height * img.width) := by
  intro p _ hp
  rw [Nat.zero_add, Nat.mul_comm] at hp
  obtain ⟨n, hnum⟩ := number_isSome h.stored hp
  exact ⟨n, hnum, h.inPalette p hp n hnum⟩

lemma printXpm_eq (hchecked : img.Checked) (h : img.PixelsCoded) :
    img.printXpm = .ok img.xpm.print := by
  have hnbits : 0 < img.width → 0 < img.height → img.nbits ≤ 32 := fun hw hh =>
    h.shifted.resolve_left (Nat.mul_pos hw hh).ne'
  have hat : img.At (0 * img.width) img.start 7 := by
    unfold At
    omega
  have hrows := readRows_at hnbits hat (by simpa using h.coded)
  rw [printXpm, colorLines_eq hchecked, ok_bind, hrows, ok_bind, Xpm.print]
  simp only [xpm, length_map, length_range', flatMap_map, range_eq_range']
  rfl

lemma lookup_eq_some {α β : Type} [BEq α] [LawfulBEq α] {l : List (α × β)} {a : α} {b : β}
    (hnodup : (l.map Prod.fst).Nodup) (h : (a, b) ∈ l) : l.lookup a = some b := by
  obtain ⟨pre, post, rfl⟩ := append_of_mem h
  rw [lookup_eq_some_iff]
  refine ⟨pre, post, rfl, fun p hp => ?_⟩
  rw [map_append, nodup_append] at hnodup
  have hne := hnodup.2.2 p.1 (mem_map_of_mem hp) a (by simp)
  simpa using hne.symm

lemma xpm_wellFormed (img : StkImage) : img.xpm.WellFormed where
  symbols := by
    rw [xpm, List.map_map]
    refine (nodup_range).map_on fun n hn m hm h => ?_
    exact symbol_injective (mem_range.mp hn) (mem_range.mp hm) img.ncolors_le h
  color_cpp := by
    intro c hc
    obtain ⟨n, -, rfl⟩ := mem_map.mp hc
    exact length_symbol _ _
  pixel_cpp := by
    intro row hrow s hs
    obtain ⟨i, -, rfl⟩ := mem_map.mp hrow
    obtain ⟨p, -, rfl⟩ := mem_map.mp hs
    exact length_symbol _ _
  height_eq := by rw [xpm, length_map, length_range]
  width_eq := by
    intro row hrow
    obtain ⟨i, -, rfl⟩ := mem_map.mp hrow
    rw [rowAt, length_map, length_range']
    rfl

lemma xpm_pixel {j : ℕ} {c : List Char} (hi : i < img.height) (hj : j < img.width)
    (hnum : img.number (i * img.width + j) = some n) (hn : n < img.ncolors)
    (hc : img.color n = some c) : img.xpm.pixel i j = some c := by
  have hrow : img.xpm.rows[i]? = some (img.rowAt i) := by
    rw [xpm, getElem?_map, getElem?_range hi, map_some]
  have hsymbol : (img.rowAt i)[j]? = some (symbol img.ncolors n) := by
    rw [rowAt, getElem?_map, getElem?_range' hj, map_some, one_mul, symbolAt, hnum, getD_some]
  have hmem : (symbol img.ncolors n, c) ∈ img.xpm.colors := by
    refine mem_map.mpr ⟨n, mem_range.mpr hn, ?_⟩
    rw [hc, getD_some]
  have hcolor := lookup_eq_some img.xpm_wellFormed.symbols hmem
  simp only [Xpm.pixel, hrow, hsymbol, hcolor, bind_eq_bind, bind_some]

lemma xpm_depicts (hchecked : img.Checked) (h : img.PixelsCoded) :
    img.DepictedBy img.xpm.print := by
  refine ⟨img.xpm, rfl, img.xpm_wellFormed, rfl, rfl, ?_, fun i hi j hj => ?_⟩
  · rw [xpm, length_map, length_range]
  · have hlt : i * img.width + j < img.height * img.width :=
      calc i * img.width + j < i * img.width + img.width := by omega
        _ = (i + 1) * img.width := by ring
        _ ≤ img.height * img.width := Nat.mul_le_mul_right _ hi
    obtain ⟨n, hnum, hn⟩ := h.coded (i * img.width + j) (Nat.zero_le _) (by omega)
    obtain ⟨c, hc⟩ := color_eq_some hchecked hn
    exact ⟨n, c, hnum, hn, hc, xpm_pixel hi hj hnum hn hc⟩

/-- Entries of more than 32 bits are shifted out of an `int` at the first pixel. -/
lemma printXpm_wide (hchecked : img.Checked) (hn : 32 < img.nbits)
    (hpixels : 0 < img.width * img.height) : img.printXpm = .fault := by
  obtain ⟨w, hw⟩ : ∃ w, img.width = w + 1 :=
    Nat.exists_eq_succ_of_ne_zero (Nat.pos_of_mul_pos_right hpixels).ne'
  obtain ⟨h, hh⟩ : ∃ h, img.height = h + 1 :=
    Nat.exists_eq_succ_of_ne_zero (Nat.pos_of_mul_pos_left hpixels).ne'
  rw [printXpm, colorLines_eq hchecked, ok_bind, hw, hh, readRows, readRow, readEntry_wide _ hn]
  rfl

lemma PixelsCoded.of_depicted {text : List Char} (hchecked : img.Checked)
    (hok : img.printXpm = .ok text) (h : img.DepictedBy text) : img.PixelsCoded := by
  obtain ⟨x, -, -, -, -, -, hpixels⟩ := h
  have hnumber : ∀ p < img.width * img.height, ∃ n, img.number p = some n ∧ n < img.ncolors := by
    intro p hp
    have hw : 0 < img.width := Nat.pos_of_mul_pos_right (Nat.zero_lt_of_lt hp)
    obtain ⟨n, c, hnum, hn, -⟩ := hpixels (p / img.width) (Nat.div_lt_of_lt_mul hp)
      (p % img.width) (Nat.mod_lt p hw)
    rw [Nat.div_add_mod'] at hnum
    exact ⟨n, hnum, hn⟩
  refine ⟨?_, ?_, fun p hp n hnum => ?_⟩
  · have hstart := hchecked.start_le
    rcases Nat.eq_zero_or_pos (img.width * img.height * img.nbits) with hzero | hpos
    · omega
    · have hn : 0 < img.nbits := Nat.pos_of_mul_pos_left hpos
      have hp : 0 < img.width * img.height := Nat.pos_of_mul_pos_right hpos
      obtain ⟨p, hlast⟩ : ∃ p, img.width * img.height = p + 1 :=
        Nat.exists_eq_succ_of_ne_zero hp.ne'
      obtain ⟨n, hnum, -⟩ := hnumber p (by omega)
      have hin := (BitFields.field_isSome_iff hn).mp (isSome_iff_exists.mpr ⟨n, hnum⟩)
      rw [hlast, Nat.succ_mul p]
      omega
  · rcases Nat.eq_zero_or_pos (img.width * img.height) with hzero | hpos
    · exact .inl hzero
    · refine .inr (Nat.not_lt.mp fun hwide => ?_)
      rw [printXpm_wide hchecked hwide hpos] at hok
      cases hok
  · obtain ⟨m, hm, hlt⟩ := hnumber p hp
    obtain rfl : m = n := Option.some.inj (hm.symm.trans hnum)
    exact hlt

/-! ## The two together -/

/-- An image of which a pixmap is made: the text shows it, and nothing outside of the data and
the tables is read, exactly when the data has all pixels and they are numbers of colours. -/
theorem toXpm_depicts_iff (img : StkImage) (h : img.toXpm ≠ .reject) :
    (∃ text, img.toXpm = .ok text ∧ img.DepictedBy text) ↔ img.PixelsCoded := by
  obtain ⟨hchecked, hprint⟩ := (toXpm_cases img).resolve_left h
  rw [hprint]
  constructor
  · rintro ⟨text, hok, hdepicts⟩
    exact .of_depicted hchecked hok hdepicts
  · intro hcoded
    exact ⟨_, printXpm_eq hchecked hcoded, xpm_depicts hchecked hcoded⟩

/-- One pixel of one bit. -/
theorem toXpm_depicts_iff_pixel : (StkImage.mk [1, 1, 0x80] .basic none).toXpm ≠ .reject ∧
    ((∃ text, (StkImage.mk [1, 1, 0x80] .basic none).toXpm = .ok text ∧ (StkImage.mk [1, 1, 0x80]
    .basic none).DepictedBy text) ↔ (StkImage.mk [1, 1, 0x80] .basic none).PixelsCoded) :=
  ⟨by decide, toXpm_depicts_iff ⟨[1, 1, 0x80], .basic, none⟩ (by decide)⟩

/-- Two pixels of eight bits, and one octet for them: the second is read behind the data. -/
theorem toXpm_reads_past : ¬ ∀ img : StkImage, img.toXpm ≠ .reject → ∃ text, img.toXpm = .ok text ∧
    img.DepictedBy text := by
  intro hall
  have hfault : (StkImage.mk [2, 1, 8, 1, 0, 0, 0] .color (some [0, 0, 0])).toXpm = .fault := by
    decide
  obtain ⟨text, hok, -⟩ := hall ⟨[2, 1, 8, 1, 0, 0, 0], .color, some [0, 0, 0]⟩ (by decide)
  rw [hfault] at hok
  cases hok

end StkImage

end Phonelets.Stk
