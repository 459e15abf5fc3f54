import Phonelets.Lib.Decoder
import Phonelets.Sms.Types
import Phonelets.Util.Gsm
import Phonelets.Util.Septets

/-! # Address fields

Semi-octet numbers and the address fields of `smsutil.c`. A service centre address
(`sc`) counts its octets, any other one its semi-octets.
-/

namespace Phonelets.Sms

open List
open Decoder

/-! ## Semi-octets -/

def isBitSet (oct : UInt8) (bit : ℕ) : Bool := oct.toNat &&& 1 <<< bit != 0

def bitField (oct : UInt8) (start num : ℕ) : ℕ := oct.toNat >>> start &&& (1 <<< num - 1)

/-- `digit_lut` of `extract_bcd_number`, its last character the NUL. -/
def digitLut : List UInt8 :=
  [0x30, 0x31, 0x32, 0x33, 0x34, 0x35, 0x36, 0x37, 0x38, 0x39, 0x2a, 0x23, 0x61, 0x62, 0x63, 0]

/-- What `extract_bcd_number` writes before its terminator. -/
def extractBcdNumber (buf : List UInt8) : List UInt8 :=
  buf.flatMap fun oct =>
    [digitLut.getD (oct.toNat &&& 0x0f) 0, digitLut.getD ((oct.toNat &&& 0xf0) >>> 4) 0]

/-- `to_semi_oct`, nothing for -1. -/
def toSemiOct (c : UInt8) : Option ℕ :=
  if 0x30 ≤ c ∧ c ≤ 0x39 then some (c.toNat - 0x30)
  else if c = 0x2a then some 10
  else if c = 0x23 then some 11
  else if c = 0x41 ∨ c = 0x61 then some 12
  else if c = 0x42 ∨ c = 0x62 then some 13
  else if c = 0x43 ∨ c = 0x63 then some 14
  else none

/-- The loop over `in->address` in `sms_encode_address_field`, with the filler after an
odd number of digits. -/
def semiOctets : List UInt8 → Option (List UInt8)
  | [] => some []
  | [a] => (toSemiOct a).map fun c => [UInt8.ofNat (c ||| 0xf0)]
  | a :: b :: l => do
      let c ← toSemiOct a
      let d ← toSemiOct b
      let r ← semiOctets l
      return UInt8.ofNat (c ||| d <<< 4) :: r

/-! ## The field -/

/-- The octets from the label `out:` on. -/
def addressOctets (a : SmsAddress) (sc : Bool) (addrLen : ℕ) (p : List UInt8) : List UInt8 :=
  UInt8.ofNat addrLen ::
    UInt8.ofNat (a.numberType.toNat <<< 4 ||| a.numberingPlan.val ||| 0x80) ::
    p.take (if sc then addrLen - 1 else (addrLen + 1) / 2)

def smsEncodeAddressField (a : SmsAddress) (sc : Bool) : Outcome (List UInt8) :=
  let address := a.address.bytes
  if address.length = 0 ∧ sc then .ok [0]
  else if address.length = 0 then .ok (addressOctets a sc 0 [])
  else if a.numberType = .alphanumeric then
    if address.length > 11 then .reject
    else do
      let gsm ← .orReject (Gsm.convertUtf8ToGsm address)
      let p ← .orReject (Septets.pack7bitOwnBuf gsm 0 false)
      -- `p` is an array of ten octets
      if p.length > 10 then .fault
      else
        .ok (addressOctets a sc (if sc then p.length + 1 else (gsm.length * 7 + 3) / 4) p)
  else if address.length > 20 then .reject
  else do
    let p ← .orReject (semiOctets address)
    .ok (addressOctets a sc (if sc then p.length + 1 else address.length) p)

/-- `byte_len` of `sms_decode_address_field`. -/
def addressByteLen (sc : Bool) (addrLen : UInt8) : ℕ :=
  if sc then addrLen.toNat - 1 else (addrLen.toNat + 1) / 2

/-- `chars` of `sms_decode_address_field`. -/
def addressChars (sc : Bool) (addrLen : UInt8) : ℕ :=
  if sc then addressByteLen sc addrLen * 8 / 7 else addrLen.toNat * 4 / 7

/-- The text of an alphanumeric address. -/
def addressText (octets : List UInt8) (chars : ℕ) : Outcome (CString 21) := do
  let res ← .orReject (Septets.unpack7bitOwnBuf octets 0 false chars)
  let utf8 ← .orReject (Gsm.convertGsmToUtf8 res)
  if utf8.length > 20 then .reject else .orFault (CString.store 21 utf8)

/-- `sms_decode_address_field` into an address that has been cleared. -/
def smsDecodeAddressField (sc : Bool) : Decoder SmsAddress := do
  let addrLen ← nextOctet
  if sc ∧ addrLen = 0 then pure SmsAddress.zero
  else do
    let addrType ← nextOctet
    need (addressByteLen sc addrLen)
    let numberType := NumberType.ofBits (bitField addrType 4 3)
    let numberingPlan := Fin.ofNat 16 (bitField addrType 0 4)
    if numberType ≠ .alphanumeric then do
      let octets ← peek (addressByteLen sc addrLen)
      let address ← lift (.orFault (CString.store 21 (extractBcdNumber octets)))
      skip (addressByteLen sc addrLen)
      pure ⟨numberType, numberingPlan, address⟩
    else if addressChars sc addrLen = 0 then
      -- the offset stays where it is
      pure ⟨numberType, numberingPlan, CString.empty address_room⟩
    else do
      let octets ← peek (addressByteLen sc addrLen)
      skip ((addrLen.toNat + 1) / 2)
      let address ← lift (addressText octets (addressChars sc addrLen))
      pure ⟨numberType, numberingPlan, address⟩

/-! ## Addresses as text -/

def smsAddressToString (addr : SmsAddress) : List UInt8 :=
  let address := addr.address.bytes
  if addr.numberType = .international ∧ 0 < address.length ∧ address.head? ≠ some 0x2b then
    0x2b :: address
  else address

/-- `strcpy` of the number into the 21 octets of the address. -/
def smsAddressFromString (str : List UInt8) : Outcome SmsAddress :=
  match str with
  | 0x2b :: number => do
      let address ← .orFault (CString.store 21 number)
      return ⟨.international, NumberingPlan.isdn, address⟩
  | number => do
      let address ← .orFault (CString.store 21 number)
      return ⟨.unknown, NumberingPlan.isdn, address⟩

/-! ## What the decoder accepts -/

/-- The octets begin with an address field, read as `a`, and `rest` is what the offset
is then at. -/
inductive AddressAt (sc : Bool) : List UInt8 → SmsAddress → List UInt8 → Prop where
  | absent (rest : List UInt8) (h : sc = true) : AddressAt sc (0 :: rest) SmsAddress.zero rest
  | digits (addrLen addrType : UInt8) (octets rest : List UInt8) (address : CString 21)
      (present : ¬ (sc ∧ addrLen = 0))
      (numeric : NumberType.ofBits (bitField addrType 4 3) ≠ .alphanumeric)
      (length : octets.length = addressByteLen sc addrLen)
      (text : CString.store 21 (extractBcdNumber octets) = some address) :
      AddressAt sc (addrLen :: addrType :: (octets ++ rest))
        ⟨NumberType.ofBits (bitField addrType 4 3), Fin.ofNat 16 (bitField addrType 0 4), address⟩
        rest
  | noText (addrLen addrType : UInt8) (rest : List UInt8)
      (present : ¬ (sc ∧ addrLen = 0))
      (alphanumeric : NumberType.ofBits (bitField addrType 4 3) = .alphanumeric)
      (length : addressByteLen sc addrLen ≤ rest.length)
      (chars : addressChars sc addrLen = 0) :
      AddressAt sc (addrLen :: addrType :: rest)
        ⟨.alphanumeric, Fin.ofNat 16 (bitField addrType 0 4), CString.empty address_room⟩ rest
  | text (addrLen addrType : UInt8) (octets rest : List UInt8) (address : CString 21)
      (present : ¬ (sc ∧ addrLen = 0))
      (alphanumeric : NumberType.ofBits (bitField addrType 4 3) = .alphanumeric)
      (length : octets.length = addressByteLen sc addrLen)
      (chars : addressChars sc addrLen ≠ 0)
      (text : addressText octets (addressChars sc addrLen) = .ok address) :
      AddressAt sc (addrLen :: addrType :: (octets ++ rest))
        ⟨.alphanumeric, Fin.ofNat 16 (bitField addrType 0 4), address⟩
        ((octets ++ rest).drop ((addrLen.toNat + 1) / 2))

/-- The octets begin with a number of more digits than an address holds, and all of
them are there. -/
def OverlongAddress (sc : Bool) (l : List UInt8) : Prop :=
  ∃ addrLen addrType rest, l = addrLen :: addrType :: rest ∧ ¬ (sc ∧ addrLen = 0) ∧
    NumberType.ofBits (bitField addrType 4 3) ≠ .alphanumeric ∧
    addressByteLen sc addrLen ≤ rest.length ∧ 10 < addressByteLen sc addrLen

lemma extractBcdNumber_length (buf : List UInt8) :
    (extractBcdNumber buf).length = 2 * buf.length := by
  induction buf with
  | nil => rfl
  | cons b buf ih =>
    simp only [extractBcdNumber, flatMap_cons, length_append, length_cons, length_nil] at ih ⊢
    omega

lemma addressText_ne_fault (octets : List UInt8) (chars : ℕ) :
    addressText octets chars ≠ .fault := by
  unfold addressText
  cases Septets.unpack7bitOwnBuf octets 0 false chars with
  | none => simp
  | some res =>
    cases hutf8 : Gsm.convertGsmToUtf8 res with
    | none => simp [hutf8]
    | some utf8 =>
      by_cases hlen : utf8.length > 20
      · simp [hutf8, hlen]
      · rcases CString.store_eq_some (show utf8.length < 21 by omega) with ⟨s, hs, -⟩
        simp [hutf8, hlen, hs]

variable {sc : Bool} {addrLen : UInt8}

lemma address_skip_le (present : ¬ (sc ∧ addrLen = 0)) (chars : addressChars sc addrLen ≠ 0) :
    (addrLen.toNat + 1) / 2 ≤ addressByteLen sc addrLen := by
  unfold addressChars at chars
  unfold addressByteLen at chars ⊢
  cases sc with
  | false => simp
  | true =>
    simp only [if_true] at chars ⊢
    omega

variable {l : List UInt8} {a : SmsAddress}

lemma AddressAt.run {rest : List UInt8} (h : AddressAt sc l a rest) (extra : List UInt8) :
    smsDecodeAddressField sc (on l extra) = .ok (a, on rest extra) := by
  cases h with
  | absent rest h =>
    unfold smsDecodeAddressField
    rw [nextOctet_bind_cons, if_pos ⟨h, rfl⟩]
    rfl
  | digits addrLen addrType octets rest address present numeric length text =>
    have hle : addressByteLen sc addrLen ≤ (octets ++ rest).length := by
      rw [length_append]
      omega
    unfold smsDecodeAddressField
    rw [nextOctet_bind_cons, if_neg present, nextOctet_bind_cons, need_bind hle]
    simp only [if_pos numeric]
    rw [peek_bind hle, ← length, take_left, text, Outcome.orFault_some, lift_bind_ok,
      skip_bind (by simp), drop_left]
    rfl
  | noText addrLen addrType rest present alphanumeric length chars =>
    have hne : ¬ NumberType.ofBits (bitField addrType 4 3) ≠ .alphanumeric := by
      simpa using alphanumeric
    unfold smsDecodeAddressField
    rw [nextOctet_bind_cons, if_neg present, nextOctet_bind_cons, need_bind length]
    simp only [if_pos chars, alphanumeric]
    rfl
  | text addrLen addrType octets rest address present alphanumeric length chars text =>
    have hne : ¬ NumberType.ofBits (bitField addrType 4 3) ≠ .alphanumeric := by
      simpa using alphanumeric
    have hle : addressByteLen sc addrLen ≤ (octets ++ rest).length := by
      rw [length_append]
      omega
    have hskip := address_skip_le present chars
    unfold smsDecodeAddressField
    rw [nextOctet_bind_cons, if_neg present, nextOctet_bind_cons, need_bind hle]
    simp only [if_neg hne, if_neg chars]
    rw [peek_bind hle, skip_bind (by omega), ← length, take_left, text, lift_bind_ok,
      alphanumeric]
    rfl

lemma OverlongAddress.run (h : OverlongAddress sc l)
    (extra : List UInt8) : smsDecodeAddressField sc (on l extra) = .fault := by
  rcases h with ⟨addrLen, addrType, rest, rfl, present, numeric, hle, hlong⟩
  have hstore : CString.store 21
      (extractBcdNumber (rest.take (addressByteLen sc addrLen))) = none := by
    apply CString.store_eq_none
    rw [extractBcdNumber_length, length_take]
    omega
  unfold smsDecodeAddressField
  rw [nextOctet_bind_cons, if_neg present, nextOctet_bind_cons, need_bind hle]
  simp only [if_pos numeric]
  rw [peek_bind hle, hstore, Outcome.orFault_none, lift_bind_fault_eq]

lemma numeric_cases {addrType : UInt8} (present : ¬ (sc ∧ addrLen = 0)) (numeric : NumberType.ofBits
    (bitField addrType 4 3) ≠ .alphanumeric) (hle : addressByteLen sc addrLen ≤ l.length) :
    (∃ a rest, AddressAt sc (addrLen :: addrType :: l) a rest) ∨
    OverlongAddress sc (addrLen :: addrType :: l) := by
  by_cases hlong : 10 < addressByteLen sc addrLen
  · exact .inr ⟨addrLen, addrType, l, rfl, present, numeric, hle, hlong⟩
  · have hlen : (l.take (addressByteLen sc addrLen)).length = addressByteLen sc addrLen := by
      rw [length_take]
      omega
    rcases CString.store_eq_some (show
      (extractBcdNumber (l.take (addressByteLen sc addrLen))).length < 21 by
        rw [extractBcdNumber_length]; omega) with ⟨address, hstore, -⟩
    have hat := AddressAt.digits addrLen addrType _
      (l.drop (addressByteLen sc addrLen)) address present numeric hlen hstore
    rw [take_append_drop] at hat
    exact .inl ⟨_, _, hat⟩

lemma alphanumeric_cases {addrType : UInt8} (present : ¬ (sc ∧ addrLen = 0)) (alphanumeric :
    NumberType.ofBits (bitField addrType 4 3) = .alphanumeric) (hle : addressByteLen sc addrLen ≤
    l.length) (extra : List UInt8) : (∃ a rest, AddressAt sc (addrLen :: addrType :: l) a rest) ∨
    smsDecodeAddressField sc (on (addrLen :: addrType :: l) extra) = .reject := by
  by_cases chars : addressChars sc addrLen = 0
  · exact .inl ⟨_, _, .noText addrLen addrType l present alphanumeric hle chars⟩
  · have hlen : (l.take (addressByteLen sc addrLen)).length = addressByteLen sc addrLen := by
      rw [length_take]
      omega
    cases htext : addressText (l.take (addressByteLen sc addrLen)) (addressChars sc addrLen) with
    | ok address =>
      have hat := AddressAt.text addrLen addrType _
        (l.drop (addressByteLen sc addrLen)) address present alphanumeric hlen chars htext
      rw [take_append_drop] at hat
      exact .inl ⟨_, _, hat⟩
    | reject =>
      have hskip := address_skip_le present chars
      have numeric : ¬ NumberType.ofBits (bitField addrType 4 3) ≠ .alphanumeric :=
        not_not.mpr alphanumeric
      refine .inr ?_
      unfold smsDecodeAddressField
      rw [nextOctet_bind_cons, if_neg present, nextOctet_bind_cons, need_bind hle]
      simp only [if_neg numeric, if_neg chars]
      rw [peek_bind hle, skip_bind (by omega), htext, lift_bind_reject]
    | fault => exact absurd htext (addressText_ne_fault _ _)

lemma smsDecodeAddressField_cases (sc : Bool) (l extra : List UInt8) : (∃ a rest, AddressAt sc l a
    rest) ∨ OverlongAddress sc l ∨ smsDecodeAddressField sc (on l extra) = .reject := by
  rcases l with _ | ⟨addrLen, l⟩
  · exact .inr (.inr (nextOctet_bind_nil _ _))
  · by_cases present : sc ∧ addrLen = 0
    · rcases present with ⟨hsc, rfl⟩
      exact .inl ⟨_, _, .absent l hsc⟩
    · rcases l with _ | ⟨addrType, l⟩
      · -- no octet for the type
        refine .inr (.inr ?_)
        unfold smsDecodeAddressField
        rw [nextOctet_bind_cons, if_neg present, nextOctet_bind_nil]
      · by_cases hle : addressByteLen sc addrLen ≤ l.length
        · by_cases numeric : NumberType.ofBits (bitField addrType 4 3) ≠ .alphanumeric
          · rcases numeric_cases present numeric hle with hat | hlong
            · exact .inl hat
            · exact .inr (.inl hlong)
          · have alphanumeric : NumberType.ofBits (bitField addrType 4 3) = .alphanumeric := by
              simpa using numeric
            rcases alphanumeric_cases present alphanumeric hle extra with hat | hrej
            · exact .inl hat
            · exact .inr (.inr hrej)
        · -- fewer octets than the length says
          refine .inr (.inr ?_)
          unfold smsDecodeAddressField
          rw [nextOctet_bind_cons, if_neg present, nextOctet_bind_cons, need_bind_reject hle]

lemma smsDecodeAddressField_fault (sc : Bool) (l extra : List UInt8) :
    smsDecodeAddressField sc (on l extra) = .fault ↔ OverlongAddress sc l := by
  constructor
  · intro h
    rcases smsDecodeAddressField_cases sc l extra with ⟨a, rest, hat⟩ | hlong | hrej
    · rw [hat.run extra] at h
      cases h
    · exact hlong
    · rw [hrej] at h
      cases h
  · intro h
    exact h.run extra

lemma smsDecodeAddressField_ok (sc : Bool) (l extra : List UInt8) (a : SmsAddress) (c : Cursor) :
    smsDecodeAddressField sc (on l extra) = .ok (a, c) ↔
      ∃ rest, AddressAt sc l a rest ∧ c = on rest extra := by
  constructor
  · intro h
    rcases smsDecodeAddressField_cases sc l extra with ⟨a', rest, hat⟩ | hlong | hrej
    · rw [hat.run extra] at h
      cases h
      exact ⟨rest, hat, rfl⟩
    · rw [hlong.run extra] at h
      cases h
    · rw [hrej] at h
      cases h
  · rintro ⟨rest, hat, rfl⟩
    exact hat.run extra

/-! ## Numbers that come back -/

/-- The address is a number, in characters that have a semi-octet. -/
def SmsAddress.Numeric (a : SmsAddress) : Prop :=
  a.numberType ≠ .alphanumeric ∧ ∀ c ∈ a.address.bytes, toSemiOct c ≠ none

/-- The character that stands in `digitLut` for the semi-octet of `c`. -/
def lowerDigit (c : UInt8) : UInt8 := if 0x41 ≤ c ∧ c ≤ 0x43 then c + 0x20 else c

lemma octet_forall {P : UInt8 → Prop}
    (h : ∀ hi < 16, ∀ lo < 16, P (UInt8.ofNat (16 * hi + lo))) (c : UInt8) : P c := by
  have hlt : c.toNat < 256 := c.toNat_lt
  have hc := h (c.toNat / 16) (by omega) (c.toNat % 16) (Nat.mod_lt _ (by omega))
  rwa [Nat.div_add_mod, UInt8.ofNat_toNat] at hc

lemma toSemiOct_spec : ∀ c d, toSemiOct c = some d →
    d < 15 ∧ digitLut.getD d 0 = lowerDigit c ∧ lowerDigit c ≠ 0 := by
  have h : ∀ c : UInt8, ∀ d ∈ toSemiOct c,
      d < 15 ∧ digitLut.getD d 0 = lowerDigit c ∧ lowerDigit c ≠ 0 :=
    octet_forall (by decide)
  exact h

lemma semiOctet_pair : ∀ c < 16, ∀ d < 16, (UInt8.ofNat (c ||| d <<< 4)).toNat &&& 0x0f = c ∧
    ((UInt8.ofNat (c ||| d <<< 4)).toNat &&& 0xf0) >>> 4 = d := by
  decide

lemma extractBcdNumber_cons {c d : ℕ} (hc : c < 16) (hd : d < 16) (buf : List UInt8) :
    extractBcdNumber (UInt8.ofNat (c ||| d <<< 4) :: buf) =
      digitLut.getD c 0 :: digitLut.getD d 0 :: extractBcdNumber buf := by
  rcases semiOctet_pair c hc d hd with ⟨hlow, hhigh⟩
  unfold extractBcdNumber
  rw [flatMap_cons, hlow, hhigh]
  rfl

/-- The semi-octets of a number are read as that number, with a NUL for the filler. -/
lemma semiOctets_spec (l : List UInt8) (h : ∀ c ∈ l, toSemiOct c ≠ none) :
    ∃ p, semiOctets l = some p ∧ p.length = (l.length + 1) / 2 ∧
      extractBcdNumber p = l.map lowerDigit ++ if l.length % 2 = 0 then [] else [0] := by
  induction l using semiOctets.induct with
  | case1 => exact ⟨[], rfl, rfl, rfl⟩
  | case2 a =>
    rcases Option.ne_none_iff_exists'.mp (h a (by simp)) with ⟨c, hc⟩
    rcases toSemiOct_spec a c hc with ⟨hlt, hlut, -⟩
    refine ⟨[UInt8.ofNat (c ||| 0xf0)], by simp [semiOctets, hc], by simp, ?_⟩
    rw [show 0xf0 = 15 <<< 4 from rfl, extractBcdNumber_cons (by omega) (by decide), hlut]
    rfl
  | case3 a b l ih =>
    rcases Option.ne_none_iff_exists'.mp (h a (by simp)) with ⟨c, hc⟩
    rcases Option.ne_none_iff_exists'.mp (h b (by simp)) with ⟨d, hd⟩
    rcases toSemiOct_spec a c hc with ⟨hclt, hclut, -⟩
    rcases toSemiOct_spec b d hd with ⟨hdlt, hdlut, -⟩
    rcases ih fun e he => h e (by simp [he]) with ⟨p, hp, hlen, hval⟩
    refine ⟨UInt8.ofNat (c ||| d <<< 4) :: p, by simp [semiOctets, hc, hd, hp], ?_, ?_⟩
    · simp only [length_cons, hlen]
      omega
    · have hpar : (a :: b :: l).length % 2 = l.length % 2 := by
        simp only [length_cons]
        omega
      rw [extractBcdNumber_cons (by omega) (by omega), hclut, hdlut, hval, hpar]
      rfl

lemma lowerDigit_ne_zero : ∀ c, c ≠ 0 → lowerDigit c ≠ 0 :=
  octet_forall (by decide)

/-- What the decoder makes of the encoding of a number. -/
def SmsAddress.readBack (a : SmsAddress) (sc : Bool) : SmsAddress :=
  if sc ∧ a.address.bytes = [] then .zero
  else
    { a with
      address :=
        { bytes := a.address.bytes.map lowerDigit
          fits := by
            rw [List.length_map]
            exact a.address.fits
          no_nul := by
            intro h
            rcases List.mem_map.mp h with ⟨c, hc, hzero⟩
            refine lowerDigit_ne_zero c ?_ hzero
            rintro rfl
            exact a.address.no_nul hc } }

lemma addrType_bits (t : NumberType) (plan : Fin 16) :
    NumberType.ofBits (bitField (UInt8.ofNat (t.toNat <<< 4 ||| plan.val ||| 0x80)) 4 3) = t ∧
      Fin.ofNat 16 (bitField (UInt8.ofNat (t.toNat <<< 4 ||| plan.val ||| 0x80)) 0 4) = plan := by
  revert plan
  cases t <;> decide

/-- The octets after the address length of a number, read under the length that the
encoder gives. -/
lemma addressOctets_at (hnum : a.Numeric) {sc : Bool} {addrLen : ℕ} {p : List UInt8} (hlen : addrLen
    < 256) (hpresent : ¬ (sc ∧ addrLen = 0)) (hp : p.length = addressByteLen sc (UInt8.ofNat
    addrLen)) (htext : CString.store 21 (extractBcdNumber p) = some (a.readBack false).address)
    (m : List UInt8) : AddressAt sc (addressOctets a sc addrLen p ++ m) (a.readBack false) m := by
  rcases addrType_bits a.numberType a.numberingPlan with ⟨htype, hplan⟩
  have hnat : (UInt8.ofNat addrLen).toNat = addrLen := by
    rw [UInt8.toNat_ofNat']
    exact Nat.mod_eq_of_lt hlen
  have htake : p.take (if sc then addrLen - 1 else (addrLen + 1) / 2) = p := by
    apply take_of_length_le
    unfold addressByteLen at hp
    rw [hnat] at hp
    rw [hp]
  have hback : a.readBack false = ⟨a.numberType, a.numberingPlan, (a.readBack false).address⟩ := by
    simp [SmsAddress.readBack]
  have hzero : ¬ (sc ∧ UInt8.ofNat addrLen = 0) := by
    rintro ⟨hsc, h0⟩
    apply hpresent
    refine ⟨hsc, ?_⟩
    rw [← hnat, h0]
    rfl
  have hat := AddressAt.digits (UInt8.ofNat addrLen)
    (UInt8.ofNat (a.numberType.toNat <<< 4 ||| a.numberingPlan.val ||| 0x80)) p m
    (a.readBack false).address hzero (by rw [htype]; exact hnum.1) hp htext
  rw [htype, hplan, ← hback] at hat
  unfold addressOctets
  rw [htake]
  exact hat

lemma store_extractBcdNumber {p : List UInt8} (hlong : p.length ≤ 10) (hval : extractBcdNumber p =
    a.address.bytes.map lowerDigit ++ if a.address.bytes.length % 2 = 0 then [] else [0]) :
    CString.store 21 (extractBcdNumber p) = some (a.readBack false).address := by
  have hbytes : (a.readBack false).address.bytes = a.address.bytes.map lowerDigit := by
    simp [SmsAddress.readBack]
  have hnul : 0 ∉ a.address.bytes.map lowerDigit := by
    rw [← hbytes]
    exact (a.readBack false).address.no_nul
  rcases CString.store_eq_some (show (extractBcdNumber p).length < 21 by
    rw [extractBcdNumber_length]; omega) with ⟨s, hs, hsb⟩
  rw [hs]
  congr 1
  apply CString.ext
  rw [hsb, hval, hbytes]
  -- an odd number of digits ends at the filler
  split
  · rw [append_nil]
    exact CString.untilNul_of_no_nul hnul
  · exact CString.untilNul_append_nul hnul []

lemma smsEncodeAddressField_numeric (hnum : a.Numeric) (sc : Bool) :
    ∃ l, smsEncodeAddressField a sc = .ok l ∧ ∀ m, AddressAt sc (l ++ m) (a.readBack sc) m := by
  have hfits := a.address.fits
  by_cases hempty : a.address.bytes = []
  · have hlen : a.address.bytes.length = 0 := by simp [hempty]
    cases sc with
    | true =>
      refine ⟨[0], by simp [smsEncodeAddressField, hempty], ?_⟩
      intro m
      have hback : a.readBack true = .zero := by simp [SmsAddress.readBack, hempty]
      rw [hback]
      exact .absent m rfl
    | false =>
      refine ⟨addressOctets a false 0 [], by simp [smsEncodeAddressField, hempty], ?_⟩
      apply addressOctets_at hnum (by decide) (by simp) rfl
      have hback : (a.readBack false).address.bytes = [] := by
        simp [SmsAddress.readBack, hempty]
      rw [← CString.store_bytes (a.readBack false).address, hback]
      rfl
  · have hlen : a.address.bytes.length ≠ 0 := by simpa using hempty
    rcases semiOctets_spec a.address.bytes hnum.2 with ⟨p, hp, hplen, hval⟩
    have hlong : ¬ a.address.bytes.length > 20 := by omega
    have hback : a.readBack sc = a.readBack false := by simp [SmsAddress.readBack, hempty]
    have htext := store_extractBcdNumber (by omega) hval
    refine ⟨addressOctets a sc (if sc then p.length + 1 else a.address.bytes.length) p, ?_, ?_⟩
    · simp [smsEncodeAddressField, hempty, hnum.1, hlong, hp]
    · rw [hback]
      have hnat : ∀ n < 256, (UInt8.ofNat n).toNat = n := by
        intro n hn
        rw [UInt8.toNat_ofNat']
        exact Nat.mod_eq_of_lt hn
      refine addressOctets_at hnum ?_ ?_ ?_ htext
      · split <;> omega
      · cases sc <;> simp [hempty]
      · -- a service centre counts octets, any other address digits
        cases sc with
        | true =>
          simp only [addressByteLen, if_true]
          rw [hnat _ (by omega)]
          omega
        | false =>
          simp only [addressByteLen, Bool.false_eq_true, if_false]
          rw [hnat _ (by omega)]
          omega

lemma addressOctets_length (a : SmsAddress) (sc : Bool) (addrLen : ℕ) (p : List UInt8) :
    (addressOctets a sc addrLen p).length ≤ 2 + p.length := by
  simp only [addressOctets, length_cons, length_take]
  omega

lemma smsEncodeAddressField_length (hnum : a.Numeric) {sc : Bool} {l : List UInt8}
    (h : smsEncodeAddressField a sc = .ok l) : l.length ≤ 2 + (a.address.bytes.length + 1) / 2 := by
  rcases semiOctets_spec a.address.bytes hnum.2 with ⟨p, hp, hplen, -⟩
  have hlong : ¬ a.address.bytes.length > 20 := by
    have hfits := a.address.fits
    omega
  unfold smsEncodeAddressField at h
  simp only at h
  split at h
  · cases h
    simp only [length_cons, length_nil]
    omega
  split at h
  · cases h
    have hle := addressOctets_length a sc 0 []
    simp only [length_nil] at hle
    omega
  rw [if_neg hnum.1, hp] at h
  cases h
  have hle := addressOctets_length a sc (if sc then p.length + 1 else a.address.bytes.length) p
  omega

/-- The number comes back as it was: it has no capitals, and where it is empty its type
and plan, which are not sent then, are zero. -/
lemma readBack_eq_iff (a : SmsAddress) (sc : Bool) : a.readBack sc = a ↔ (∀ c ∈ a.address.bytes,
    lowerDigit c = c) ∧ (sc = true → a.address.bytes = [] → a = SmsAddress.zero) := by
  by_cases h : sc = true ∧ a.address.bytes = []
  · have hback : a.readBack sc = .zero := by simp [SmsAddress.readBack, h]
    rw [hback, h.2]
    constructor
    · intro hz
      exact ⟨by simp, fun _ _ => hz.symm⟩
    · intro hc
      exact (hc.2 h.1 rfl).symm
  · have hback : (a.readBack sc).address.bytes = a.address.bytes.map lowerDigit := by
      simp [SmsAddress.readBack, h]
    constructor
    · intro heq
      rw [heq] at hback
      refine ⟨?_, fun h1 h2 => absurd ⟨h1, h2⟩ h⟩
      intro c hc
      have hmap : a.address.bytes.map lowerDigit = a.address.bytes.map id := by
        rw [map_id]
        exact hback.symm
      exact map_inj_left.mp hmap c hc
    · rintro ⟨hlow, -⟩
      have hmap : a.address.bytes.map lowerDigit = a.address.bytes := by
        conv_rhs => rw [← map_id a.address.bytes]
        exact map_congr_left hlow
      have haddr : (a.readBack sc).address = a.address := CString.ext (hback.trans hmap)
      have htype : (a.readBack sc).numberType = a.numberType := by simp [SmsAddress.readBack, h]
      have hplan : (a.readBack sc).numberingPlan = a.numberingPlan := by
        simp [SmsAddress.readBack, h]
      calc a.readBack sc
          = ⟨(a.readBack sc).numberType, (a.readBack sc).numberingPlan, (a.readBack sc).address⟩ := rfl
        _ = a := by rw [htype, hplan, haddr]

end Phonelets.Sms
