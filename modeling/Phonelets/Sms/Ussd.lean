import Phonelets.Sms.Cbs
import Phonelets.Util.Dialects

/-! # Supplementary service texts

`ussd_encode` packs a text of the default alphabet with the carriage returns that keep
spare bits from being read as an `@`; `ussd_decode` takes them off again. A carriage
return that ends the text on an octet boundary is doubled on the way.
-/

namespace Phonelets.Sms

open List
open Gsm (utf8 blank gsmOctets InDialects CharCode charOctets)
open Septets (pack7bitOwnBuf unpack7bitOwnBuf EndsOnBoundary)

/-! ## The functions -/

/-- `ussd_decode` of an array of octets. -/
def ussdDecode (g : GConvert) (dcs : UInt8) (data : List UInt8) : Option (List UInt8) :=
  match cbsDcsDecode dcs with
  | none => none
  | some info =>
    if info.udhi || info.compressed || info.iso639 then none
    else
      match info.charset with
      | .sevenBit => (unpack7bitOwnBuf data 0 true 0).bind Gsm.convertGsmToUtf8
      | .eightBit => Gsm.convertGsmToUtf8 data
      | .ucs2 => g.ucs2ToUtf8 data

/-- `ussd_encode` of a text: the octets in `pdu`, nothing for `FALSE`. -/
def ussdEncode (str : List UInt8) : Option (List UInt8) :=
  match Gsm.convertUtf8ToGsm str with
  | none => none
  | some converted =>
    if converted.length > 182 then none
    else
      match pack7bitOwnBuf converted 0 true with
      | none => none
      | some packed => if packed.length < 1 then none else some packed

/-- A coding scheme for septets of no stated language, neither compressed nor behind a
header. -/
def UssdSevenBit (dcs : UInt8) : Prop :=
  ∃ cls, cbsDcsDecode dcs = some ⟨false, cls, .sevenBit, false, .unspecified, false⟩

/-! ## Texts that end with a carriage return -/

lemma getLast?_charOctets {c : Char} (h : CharCode .default .default c (charOctets .default .default c)) :
    (charOctets .default .default c).getLast? = some 0x0d ↔ c = '\r' := by
  constructor
  · intro hlast
    have hread : (blank c).toNat = 0x0d := by
      generalize charOctets .default .default c = w at h hlast
      cases h with
      | locking _ _ hread =>
        obtain rfl : _ = (0x0d : UInt8) := by simpa using hlast
        rw [← hread]
        decide
      | single _ _ hgund hread =>
        obtain rfl : _ = (0x0d : UInt8) := by simpa using hlast
        -- the default alphabet has no carriage return behind an escape
        exact absurd hread (by rw [show Gsm.gsmSingleShiftLookup .default (0x0d : UInt8).toNat =
          Gsm.gund by decide]; exact hgund.symm)
    have hne : c.toNat ≠ 0xA0 := by
      intro hnbsp
      rw [Gsm.blank_toNat, if_pos hnbsp] at hread
      omega
    rw [Gsm.blank_toNat, if_neg hne] at hread
    exact Char.toNat_inj.mp hread
  · rintro rfl
    decide

variable {s : List Char}

lemma getLast?_gsmOctets_eq_cr (h : InDialects .default .default s) :
    (gsmOctets .default .default s).getLast? = some 0x0d ↔ s.getLast? = some '\r' := by
  rcases eq_nil_or_concat s with rfl | ⟨s, c, rfl⟩
  · simp [gsmOctets]
  · have hc := h c (by simp)
    have hne : charOctets .default .default c ≠ [] := by
      generalize charOctets .default .default c = w at hc
      cases hc <;> simp
    have hsplit : gsmOctets .default .default (s.concat c) =
        gsmOctets .default .default s ++ charOctets .default .default c := by
      simp [gsmOctets]
    rw [hsplit, getLast?_append_of_ne_nil _ hne, getLast?_charOctets hc]
    simp

/-! ## The round trip -/

lemma convertGsmToUtf8_gsmOctets (h : InDialects .default .default s) (hnbsp : ∀ c ∈ s, c.toNat ≠
    0xA0) : Gsm.convertGsmToUtf8 (gsmOctets .default .default s) = some (utf8 s) := by
  have hmap : s.map blank = s := by
    refine (map_congr_left ?_).trans (map_id s)
    intro c hc
    unfold blank
    rw [if_neg (hnbsp c hc)]
    rfl
  unfold Gsm.convertGsmToUtf8
  rw [Gsm.convertGsmToUtf8WithLang_gsmOctets h, hmap]

/-- A carriage return behind the octets of a text is read as one more character. -/
lemma convertGsmToUtf8_snoc (h : InDialects .default .default s) (hnbsp : ∀ c ∈ s, c.toNat ≠ 0xA0) :
    Gsm.convertGsmToUtf8 (gsmOctets .default .default s ++ [0x0d]) = some (utf8 (s ++ ['\r'])) := by
  have hcr : CharCode .default .default '\r' (charOctets .default .default '\r') :=
    CharCode.locking (by decide) (by decide) (by decide)
  have hsnoc : gsmOctets .default .default s ++ [0x0d] =
      gsmOctets .default .default (s ++ ['\r']) := by
    unfold gsmOctets
    rw [flatMap_append]
    rfl
  rw [hsnoc]
  apply convertGsmToUtf8_gsmOctets
  · intro c hc
    rcases mem_append.mp hc with hmem | hmem
    · exact h c hmem
    · obtain rfl := mem_singleton.mp hmem
      exact hcr
  · intro c hc
    rcases mem_append.mp hc with hmem | hmem
    · exact hnbsp c hmem
    · obtain rfl := mem_singleton.mp hmem
      decide

/-- A text of the default alphabet is refused just for its length; else it fits the 160
octets of its packet and comes back, with a second carriage return if it ends with one on
an octet boundary. -/
theorem ussd_encode_decode (g : GConvert) {dcs : UInt8} (hdcs : UssdSevenBit dcs) {s : List Char}
    {gs : List UInt8} (h : Gsm.convertUtf8ToGsm (utf8 s) = some gs)
    (hnbsp : ∀ c ∈ s, c.toNat ≠ 0xA0) : (ussdEncode (utf8 s) = none ↔ gs.length > 182) ∧
    ∀ pdu, ussdEncode (utf8 s) = some pdu → pdu.length ≤ 160 ∧ ussdDecode g dcs pdu =
    some (utf8 (if gs.length % 8 = 0 ∧ s.getLast? = some '\r' then s ++ ['\r'] else s)) := by
  rcases Gsm.convertUtf8ToGsmWithLang_eq_some h with ⟨hin, heq, hne⟩
  -- a septet has seven bits, so that the packed octets are read back
  have hlt : ∀ c ∈ gs, c < 128 := by
    rw [heq]
    exact Gsm.gsmOctets_lt hin
  rcases Septets.unpack_pack_ussd hlt hne with ⟨out, hpack, hlen, hunpack⟩
  have hpos : gs.length ≠ 0 := fun hzero => hne (eq_nil_of_length_eq_zero hzero)
  have hencode : ussdEncode (utf8 s) = if gs.length > 182 then none else some out := by
    unfold ussdEncode
    simp only [h, hpack]
    rw [if_neg (show ¬ out.length < 1 by omega)]
  rw [hencode]
  constructor
  · split <;> simp_all
  · intro pdu hpdu
    split at hpdu
    · simp at hpdu
    · rename_i hfits
      obtain rfl : out = pdu := Option.some.inj hpdu
      constructor
      · -- a text that gets a carriage return more leaves room for it
        split at hlen
        · rename_i hends
          have := hends.1
          omega
        · omega
      · -- the octets end with a carriage return just when the text does
        have hends : EndsOnBoundary gs ↔ gs.length % 8 = 0 ∧ s.getLast? = some '\r' := by
          unfold EndsOnBoundary
          rw [heq, getLast?_gsmOctets_eq_cr hin]
        rcases hdcs with ⟨cls, hdecode⟩
        unfold ussdDecode
        simp only [hdecode, Bool.or_self, Bool.false_eq_true, if_false, hunpack, Option.bind_some]
        by_cases hboundary : EndsOnBoundary gs
        · rw [if_pos hboundary, if_pos (hends.mp hboundary), heq]
          exact convertGsmToUtf8_snoc hin hnbsp
        · rw [if_neg hboundary, if_neg fun hand => hboundary (hends.mpr hand), heq]
          exact convertGsmToUtf8_gsmOctets hin hnbsp

/-- Eight carriage returns come back as nine. -/
theorem ussd_encode_decode_returns : ussdEncode (utf8 (List.replicate 8 '\r')) = some [0x8d, 0x46,
    0xa3, 0xd1, 0x68, 0x34, 0x1a, 0x0d] ∧ ussdDecode ⟨fun _ => none, fun _ => none⟩ 0x0f [0x8d,
    0x46, 0xa3, 0xd1, 0x68, 0x34, 0x1a, 0x0d] = some (utf8 (List.replicate 9 '\r')) := by
  have hconvert : Gsm.convertUtf8ToGsm (utf8 (List.replicate 8 '\r')) =
      some (List.replicate 8 0x0d) := by decide
  have hencode : ussdEncode (utf8 (List.replicate 8 '\r')) =
      some [0x8d, 0x46, 0xa3, 0xd1, 0x68, 0x34, 0x1a, 0x0d] := by decide
  refine ⟨hencode, ?_⟩
  have hnbsp : ∀ c ∈ List.replicate 8 '\r', c.toNat ≠ 0xA0 := by
    intro c hc
    rw [eq_of_mem_replicate hc]
    decide
  exact ((ussd_encode_decode ⟨fun _ => none, fun _ => none⟩ ⟨_, rfl⟩ hconvert hnbsp).2 _ hencode).2

end Phonelets.Sms
