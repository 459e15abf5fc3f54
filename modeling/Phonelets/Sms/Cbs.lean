import Phonelets.Sms.Text

/-! # Cell broadcast messages

A page of a cell broadcast message has 88 octets: what tells its message apart, the
coding of its text, its number among the pages, and 82 octets of text.
-/

namespace Phonelets.Sms

/-! ## Data coding schemes -/

inductive CbsLanguage where
  | german | english | italian | french | spanish | dutch | swedish | danish | portugese | finnish
  | norwegian | greek | turkish | hungarian | polish | unspecified
  | czech | hebrew | arabic | russian | icelandic
  deriving DecidableEq

/-- The languages from `0x0` on, with `0xF` for none. -/
def CbsLanguage.ofLower : ℕ → CbsLanguage
  | 0x0 => .german
  | 0x1 => .english
  | 0x2 => .italian
  | 0x3 => .french
  | 0x4 => .spanish
  | 0x5 => .dutch
  | 0x6 => .swedish
  | 0x7 => .danish
  | 0x8 => .portugese
  | 0x9 => .finnish
  | 0xA => .norwegian
  | 0xB => .greek
  | 0xC => .turkish
  | 0xD => .hungarian
  | 0xE => .polish
  | _ => .unspecified

/-- The languages from `0x20` on. -/
def CbsLanguage.ofUpper : ℕ → CbsLanguage
  | 0x0 => .czech
  | 0x1 => .hebrew
  | 0x2 => .arabic
  | 0x3 => .russian
  | _ => .icelandic

/-- What `cbs_dcs_decode` writes. -/
structure CbsDcsInfo where
  udhi : Bool
  cls : SmsClass
  charset : SmsCharset
  compressed : Bool
  language : CbsLanguage
  iso639 : Bool

/-- The charset of two bits, of which one value is reserved. -/
def charsetOfBits : ℕ → Option SmsCharset
  | 0 => some .sevenBit
  | 1 => some .eightBit
  | 2 => some .ucs2
  | _ => none

def cbsDcsDecode (dcs : UInt8) : Option CbsDcsInfo :=
  let upper := ((dcs &&& 0xf0) >>> 4).toNat
  let lower := (dcs &&& 0xf).toNat
  let bits := ((dcs &&& 0x0c) >>> 2).toNat
  let cls := SmsClass.ofBits (dcs &&& 0x03).toNat
  if upper = 0x3 ∨ upper = 0x8 ∨ 0xA ≤ upper ∧ upper ≤ 0xE then none
  else
    match upper with
    | 0 => some ⟨false, .unspecified, .sevenBit, false, .ofLower lower, false⟩
    | 1 =>
      if lower > 1 then none
      else
        let ch := if lower = 0 then SmsCharset.sevenBit else .ucs2
        some ⟨false, .unspecified, ch, false, .unspecified, true⟩
    | 2 =>
      if lower > 4 then none
      else some ⟨false, .unspecified, .sevenBit, false, .ofUpper lower, false⟩
    | 4 | 5 | 6 | 7 =>
      let comp := dcs &&& 0x20 != 0
      let cl := if dcs &&& 0x10 ≠ 0 then cls else .unspecified
      (charsetOfBits bits).map fun ch => ⟨false, cl, ch, comp, .unspecified, false⟩
    | 9 => (charsetOfBits bits).map fun ch => ⟨true, cls, ch, false, .unspecified, false⟩
    | 15 =>
      if dcs &&& 0x8 ≠ 0 then none
      else
        let ch := if dcs &&& 0x4 ≠ 0 then SmsCharset.eightBit else .sevenBit
        let cl := if dcs &&& 0x3 ≠ 0 then cls else .unspecified
        some ⟨false, cl, ch, false, .unspecified, false⟩
    | _ => none

/-! ## Pages -/

inductive CbsGeoScope where
  | cellImmediate | plmn | serviceArea | cellNormal
  deriving DecidableEq

namespace CbsGeoScope

def ofBits : ℕ → CbsGeoScope
  | 0 => .cellImmediate
  | 1 => .plmn
  | 2 => .serviceArea
  | _ => .cellNormal

def toNat : CbsGeoScope → ℕ
  | .cellImmediate => 0
  | .plmn => 1
  | .serviceArea => 2
  | .cellNormal => 3

lemma toNat_lt (gs : CbsGeoScope) : gs.toNat < 4 := by
  cases gs <;> decide

lemma ofBits_toNat (gs : CbsGeoScope) : ofBits gs.toNat = gs := by
  cases gs <;> rfl

end CbsGeoScope

instance codeNeZero : NeZero 1024 := ⟨by decide⟩

instance identifierNeZero : NeZero 65536 := ⟨by decide⟩

/-- `struct cbs`, each field as wide as it is in the header of a page. -/
structure Cbs where
  gs : CbsGeoScope
  messageCode : Fin 1024
  updateNumber : Fin 16
  messageIdentifier : Fin 65536
  dcs : UInt8
  maxPages : Fin 16
  page : Fin 16
  ud : List UInt8
  deriving DecidableEq

/-- `cbs_decode` of an array of octets. -/
def cbsDecode (pdu : List UInt8) : Option Cbs :=
  if pdu.length ≠ 88 then none
  else
    let octet (i : ℕ) := (pdu.getD i 0).toNat
    let maxPages := Fin.ofNat 16 (octet 5 &&& 0xf)
    let page := Fin.ofNat 16 ((octet 5 >>> 4) &&& 0xf)
    some {
      gs := .ofBits ((octet 0 >>> 6) &&& 0x03)
      messageCode := Fin.ofNat 1024 ((octet 0 &&& 0x3f) <<< 4 ||| ((octet 1 >>> 4) &&& 0xf))
      updateNumber := Fin.ofNat 16 (octet 1 &&& 0xf)
      messageIdentifier := Fin.ofNat 65536 (octet 2 <<< 8 ||| octet 3)
      dcs := pdu.getD 4 0
      -- a page that is not numbered is the only one
      maxPages := if maxPages = 0 ∨ page = 0 then 1 else maxPages
      page := if maxPages = 0 ∨ page = 0 then 1 else page
      ud := (pdu.drop 6).take 82 }

/-- `cbs_encode`: the 88 octets of the page; `ud` is an array of 82. -/
def cbsEncode (c : Cbs) : Outcome (List UInt8) :=
  if c.ud.length < 82 then .fault
  else .ok ([UInt8.ofNat (c.gs.toNat <<< 6 ||| (c.messageCode.val >>> 4 &&& 0x3f)),
    UInt8.ofNat ((c.messageCode.val &&& 0xf) <<< 4 ||| c.updateNumber.val),
    UInt8.ofNat (c.messageIdentifier.val >>> 8), UInt8.ofNat (c.messageIdentifier.val &&& 0xff), c.dcs,
    UInt8.ofNat (c.maxPages.val ||| c.page.val <<< 4)] ++ c.ud.take 82)

lemma cbsDecode_pos {pdu : List UInt8} {c : Cbs} (h : cbsDecode pdu = some c) :
    1 ≤ c.page.val ∧ 1 ≤ c.maxPages.val := by
  unfold cbsDecode at h
  split at h
  · simp at h
  · obtain rfl := Option.some.inj h
    dsimp only
    split
    · exact ⟨Nat.le_refl 1, Nat.le_refl 1⟩
    · rename_i hnumbered
      rcases not_or.mp hnumbered with ⟨hmax, hpage⟩
      constructor
      · exact Nat.one_le_iff_ne_zero.mpr fun hzero => hpage (Fin.ext hzero)
      · exact Nat.one_le_iff_ne_zero.mpr fun hzero => hmax (Fin.ext hzero)

/-- What tells a broadcast message apart from the others, whatever its update. -/
structure CbsKey where
  gs : CbsGeoScope
  messageCode : Fin 1024
  messageIdentifier : Fin 65536
  deriving DecidableEq

def Cbs.key (c : Cbs) : CbsKey := ⟨c.gs, c.messageCode, c.messageIdentifier⟩

/-- The update of a message that the page is of. -/
def Cbs.update (c : Cbs) : CbsKey × Fin 16 := (c.key, c.updateNumber)

/-- `new_serial` in `cbs_assembly_add_page`. -/
def Cbs.newSerial (c : Cbs) : ℕ :=
  c.gs.toNat <<< 14 ||| c.messageCode.val <<< 4 ||| c.updateNumber.val |||
    c.messageIdentifier.val <<< 16

/-- The serial number of an update as a number. -/
def CbsKey.serial (k : CbsKey) (u : Fin 16) : ℕ :=
  u.val + 16 * (k.messageCode.val + 1024 * (k.gs.toNat + 4 * k.messageIdentifier.val))

namespace CbsKey

lemma serial_mod (k : CbsKey) (u : Fin 16) : k.serial u % 16 = u.val := by
  have := u.isLt
  unfold serial
  omega

lemma serial_lt (k : CbsKey) (u : Fin 16) : k.serial u < 2 ^ 32 := by
  have hu := u.isLt
  have hcode := k.messageCode.isLt
  have hgs := k.gs.toNat_lt
  have hid := k.messageIdentifier.isLt
  unfold serial
  omega

lemma serial_gs (k : CbsKey) (u : Fin 16) : k.serial u / 2 ^ 14 % 4 = k.gs.toNat := by
  have hu := u.isLt
  have hcode := k.messageCode.isLt
  have hgs := k.gs.toNat_lt
  unfold serial
  omega

lemma serial_div_inj {k k' : CbsKey} {u u' : Fin 16} (h : k.serial u / 16 = k'.serial u' / 16) :
    k = k' := by
  rcases k with ⟨gs, code, id⟩
  rcases k' with ⟨gs', code', id'⟩
  have hu := u.isLt
  have hu' := u'.isLt
  have hcode := code.isLt
  have hcode' := code'.isLt
  have hgs := gs.toNat_lt
  have hgs' := gs'.toNat_lt
  unfold serial at h
  dsimp only at h
  have hcodes : code = code' := Fin.ext (by omega)
  have hids : id = id' := Fin.ext (by omega)
  have hscopes : gs = gs' := by
    rw [← CbsGeoScope.ofBits_toNat gs, ← CbsGeoScope.ofBits_toNat gs']
    congr 1
    omega
  rw [hcodes, hids, hscopes]

lemma serial_inj {k k' : CbsKey} {u u' : Fin 16} (h : k.serial u = k'.serial u') :
    k = k' ∧ u = u' :=
  ⟨serial_div_inj (congrArg (· / 16) h), Fin.ext (by rw [← serial_mod k u, h, serial_mod])⟩

end CbsKey

lemma Cbs.newSerial_eq (c : Cbs) : c.newSerial = c.key.serial c.updateNumber := by
  have hu := c.updateNumber.isLt
  have hcode := c.messageCode.isLt
  have hgs := c.gs.toNat_lt
  unfold newSerial
  have hlow : c.updateNumber.val ||| c.messageCode.val <<< 4 =
      c.updateNumber.val + c.messageCode.val * 2 ^ 4 := Septets.or_shiftLeft hu
  have hmid : c.updateNumber.val + c.messageCode.val * 2 ^ 4 ||| c.gs.toNat <<< 14 =
      c.updateNumber.val + c.messageCode.val * 2 ^ 4 + c.gs.toNat * 2 ^ 14 :=
    Septets.or_shiftLeft (by omega)
  have hall : c.updateNumber.val + c.messageCode.val * 2 ^ 4 + c.gs.toNat * 2 ^ 14 |||
      c.messageIdentifier.val <<< 16 =
        c.updateNumber.val + c.messageCode.val * 2 ^ 4 + c.gs.toNat * 2 ^ 14 +
          c.messageIdentifier.val * 2 ^ 16 :=
    Septets.or_shiftLeft (by omega)
  have hcomm : c.gs.toNat <<< 14 ||| c.messageCode.val <<< 4 ||| c.updateNumber.val =
      c.updateNumber.val ||| c.messageCode.val <<< 4 ||| c.gs.toNat <<< 14 := by
    rw [Nat.or_comm (c.gs.toNat <<< 14 ||| _), Nat.or_comm (c.gs.toNat <<< 14), Nat.or_assoc]
  rw [hcomm, hlow, hmid, hall]
  unfold CbsKey.serial key
  dsimp only
  ring

end Phonelets.Sms
