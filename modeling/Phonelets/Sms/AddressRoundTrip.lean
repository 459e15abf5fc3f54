import Phonelets.Sms.Address
import Phonelets.Util.Dialects

/-! # Addresses written and read

Numbers, texts and the empty address, each with its own length: octets for a service centre,
semi-octets of the text for any other address.
-/

namespace Phonelets.Sms

open Outcome
open Decoder
open Phonelets.Gsm (utf8 blank)

/-- What has become of an address that was written and read: an empty one of a service centre
was not there, capitals are small letters, no-break spaces are spaces. -/
inductive SmsAddress.ReadAs (a : SmsAddress) (sc : Bool) : SmsAddress → Prop where
  | absent (h : sc = true) (empty : a.address.bytes = []) : ReadAs a sc .zero
  | number {b : SmsAddress} (present : ¬ (sc = true ∧ a.address.bytes = []))
      (numeric : a.address.bytes ≠ [] → a.numberType ≠ .alphanumeric)
      (type : b.numberType = a.numberType) (plan : b.numberingPlan = a.numberingPlan)
      (digits : b.address.bytes = a.address.bytes.map lowerDigit) : ReadAs a sc b
  | text {b : SmsAddress} (s : List Char) (present : a.address.bytes ≠ [])
      (alphanumeric : a.numberType = .alphanumeric)
      (type : b.numberType = a.numberType) (plan : b.numberingPlan = a.numberingPlan)
      (written : a.address.bytes = utf8 s) (read : b.address.bytes = utf8 (s.map blank)) :
      ReadAs a sc b

/-! ## What the encoder takes -/

lemma semiOctets_eq_some {l p : List UInt8} (h : semiOctets l = some p) :
    ∀ c ∈ l, toSemiOct c ≠ none := by
  induction l using semiOctets.induct generalizing p with
  | case1 => simp
  | case2 a =>
    obtain ⟨c, hc, -⟩ := Option.map_eq_some_iff.mp h
    simp [hc]
  | case3 a b l ih =>
    rw [semiOctets] at h
    simp only [Option.bind_eq_bind, Option.bind_eq_some_iff] at h
    obtain ⟨c, hc, d, hd, r, hr, -⟩ := h
    intro e he
    rcases List.mem_cons.mp he with rfl | he
    · simp [hc]
    · rcases List.mem_cons.mp he with rfl | he
      · simp [hd]
      · exact ih hr e he

variable {a : SmsAddress}

lemma numeric_of_encode {sc : Bool} {l : List UInt8} (hpresent : a.address.bytes ≠ [])
    (hnum : a.numberType ≠ .alphanumeric) (h : smsEncodeAddressField a sc = .ok l) : a.Numeric := by
  refine ⟨hnum, ?_⟩
  have hlen : a.address.bytes.length ≠ 0 := by simpa using hpresent
  unfold smsEncodeAddressField at h
  simp only [hlen, hnum, false_and, if_false] at h
  split at h
  · cases h
  · obtain ⟨p, hp, -⟩ := Outcome.bind_eq_ok.mp h
    exact semiOctets_eq_some (orReject_eq_ok.mp hp)

lemma smsEncodeAddressField_text (hpresent : a.address.bytes ≠ [])
    (htext : a.numberType = .alphanumeric) (sc : Bool) :
    smsEncodeAddressField a sc =
      if a.address.bytes.length > 11 then .reject
      else match Gsm.convertUtf8ToGsm a.address.bytes with
        | none => .reject
        | some gsm =>
          match Septets.pack7bitOwnBuf gsm 0 false with
          | none => .reject
          | some p =>
            if p.length > 10 then .fault
            else .ok (addressOctets a sc
              (if sc then p.length + 1 else (gsm.length * 7 + 3) / 4) p) := by
  have hlen : a.address.bytes.length ≠ 0 := by simpa using hpresent
  unfold smsEncodeAddressField
  simp only [hlen, htext, false_and, if_false, if_true]
  split
  · rfl
  · cases Gsm.convertUtf8ToGsm a.address.bytes with
    | none => rfl
    | some gsm =>
      cases hpack : Septets.pack7bitOwnBuf gsm 0 false with
      | none => simp [hpack]
      | some p => simp [hpack]

lemma pack_of_convert {s : List Char} {gs : List UInt8} (h : Gsm.convertUtf8ToGsm (utf8 s) = some
    gs) : ∃ p, Septets.pack7bitOwnBuf gs 0 false = some p ∧ p.length = (7 * gs.length + 7) / 8 ∧
    Septets.unpack7bitOwnBuf p 0 false gs.length = some gs := by
  obtain ⟨hin, rfl, hne⟩ := Gsm.convertUtf8ToGsmWithLang_eq_some h
  obtain ⟨p, hpack, hlen, hunpack⟩ := Septets.unpack_pack (Gsm.gsmOctets_lt hin) hne 0
  refine ⟨p, hpack, ?_, hunpack⟩
  rw [hlen, show Septets.fillBits 0 = 0 from rfl, Nat.zero_add]

/-- The encoder writes behind its ten octets exactly if it takes the text for its length in
UTF-8 and this text has more than eleven septets. -/
lemma smsEncodeAddressField_fault_iff (a : SmsAddress) (sc : Bool) :
    smsEncodeAddressField a sc = .fault ↔ a.numberType = .alphanumeric ∧ a.address.bytes.length ≤
    11 ∧ ∃ gs, Gsm.convertUtf8ToGsm a.address.bytes = some gs ∧ 11 < gs.length := by
  by_cases hpresent : a.address.bytes = []
  · have hnone : Gsm.convertUtf8ToGsm [] = none := rfl
    rw [hpresent, hnone]
    have hok : ∃ l, smsEncodeAddressField a sc = .ok l := by
      cases sc with
      | true => exact ⟨[0], by simp [smsEncodeAddressField, hpresent]⟩
      | false => exact ⟨addressOctets a false 0 [], by simp [smsEncodeAddressField, hpresent]⟩
    obtain ⟨l, hl⟩ := hok
    simp [hl]
  · by_cases htext : a.numberType = .alphanumeric
    · rw [smsEncodeAddressField_text hpresent htext]
      by_cases hlong : a.address.bytes.length > 11
      · rw [if_pos hlong]
        simp only [reduceCtorEq, false_iff]
        omega
      · rw [if_neg hlong]
        cases hconvert : Gsm.convertUtf8ToGsm a.address.bytes with
        | none => simp
        | some gs =>
          obtain ⟨s, hs⟩ := Gsm.exists_utf8_of_convert hconvert
          obtain ⟨p, hpack, hlen, -⟩ := pack_of_convert (hs ▸ hconvert)
          simp only [hpack, Option.some.injEq, exists_eq_left']
          split
          · simp only [true_iff]
            exact ⟨htext, by omega, by omega⟩
          · simp only [reduceCtorEq, false_iff]
            omega
    · -- the digits fit
      simp only [htext, false_and, iff_false]
      have hlen : a.address.bytes.length ≠ 0 := by simpa using hpresent
      unfold smsEncodeAddressField
      simp only [hlen, htext, false_and, if_false]
      split
      · simp
      · cases semiOctets a.address.bytes <;> simp

/-! ## What the decoder makes of it -/

/-- A text of at most eleven septets, as another address than that of a service centre. -/
lemma smsEncodeAddressField_alphanumeric {s : List Char} {gs : List UInt8} (hpresent :
    a.address.bytes ≠ []) (htext : a.numberType = .alphanumeric) (hbytes : a.address.bytes = utf8 s)
    (hshort : a.address.bytes.length ≤ 11) (hconvert : Gsm.convertUtf8ToGsm (utf8 s) = some gs)
    (hlen : gs.length ≤ 11) : ∃ l b, smsEncodeAddressField a false = .ok l ∧ l.length =
    2 + (7 * gs.length + 7) / 8 ∧ a.ReadAs false b ∧ ∀ m, AddressAt false (l ++ m) b m := by
  obtain ⟨p, hpack, hplen, hunpack⟩ := pack_of_convert hconvert
  obtain ⟨hin, hgs, hne⟩ := Gsm.convertUtf8ToGsmWithLang_eq_some hconvert
  have hpos : 0 < gs.length := List.length_pos_iff.mpr hne
  have haddrLen : (UInt8.ofNat ((gs.length * 7 + 3) / 4)).toNat = (gs.length * 7 + 3) / 4 := by
    rw [UInt8.toNat_ofNat']
    exact Nat.mod_eq_of_lt (by omega)
  have htake : p.take (((gs.length * 7 + 3) / 4 + 1) / 2) = p := by
    apply List.take_of_length_le
    omega
  -- the text fits into the address, and has no NUL
  have hback := Gsm.convertGsmToUtf8WithLang_gsmOctets hin
  have hfits : (utf8 (s.map blank)).length ≤ 11 := by
    have hle := Gsm.length_utf8_blank_le s
    rw [← hbytes] at hle
    omega
  have hnul : 0 ∉ utf8 (s.map blank) := by
    apply Gsm.nul_not_mem_utf8_blank
    rw [← hbytes]
    exact a.address.no_nul
  obtain ⟨address, hstore, haddress⟩ :=
    CString.store_eq_some (show (utf8 (s.map blank)).length < 21 by omega)
  rw [CString.untilNul_of_no_nul hnul] at haddress
  have hchars : addressChars false (UInt8.ofNat ((gs.length * 7 + 3) / 4)) = gs.length := by
    simp only [addressChars, Bool.false_eq_true, if_false, haddrLen]
    omega
  have hread : addressText p gs.length = .ok address := by
    unfold addressText
    rw [hunpack, orReject_some, ok_bind, Gsm.convertGsmToUtf8, hgs, hback,
      orReject_some, ok_bind, if_neg (by omega), hstore, orFault_some]
  refine ⟨addressOctets a false ((gs.length * 7 + 3) / 4) p,
    ⟨.alphanumeric, a.numberingPlan, address⟩, ?_, ?_, ?_, ?_⟩
  · rw [smsEncodeAddressField_text hpresent htext, if_neg (by omega), hbytes, hconvert]
    simp only [hpack, Bool.false_eq_true, if_false]
    rw [if_neg (by omega)]
  · unfold addressOctets
    simp only [Bool.false_eq_true, if_false, htake, List.length_cons]
    omega
  · exact .text s hpresent htext htext.symm rfl hbytes haddress
  · intro m
    obtain ⟨htype, hplan⟩ := addrType_bits a.numberType a.numberingPlan
    rw [htext] at htype hplan
    have hat := @AddressAt.text false (UInt8.ofNat ((gs.length * 7 + 3) / 4))
      (UInt8.ofNat (a.numberType.toNat <<< 4 ||| a.numberingPlan.val ||| 0x80)) p m address
      (by simp) (by rw [htext, htype]) (by
        simp only [addressByteLen, Bool.false_eq_true, if_false, haddrLen]
        omega) (by rw [hchars]; omega) (by rw [hchars]; exact hread)
    rw [htext, hplan, haddrLen] at hat
    have hdrop : (p ++ m).drop (((gs.length * 7 + 3) / 4 + 1) / 2) = m := by
      rw [show ((gs.length * 7 + 3) / 4 + 1) / 2 = p.length by omega, List.drop_left]
    rw [hdrop] at hat
    unfold addressOctets
    simp only [Bool.false_eq_true, if_false, htake]
    rw [htext]
    exact hat

lemma smsEncodeAddressField_empty (hempty : a.address.bytes = []) (sc : Bool) :
    ∃ l b, smsEncodeAddressField a sc = .ok l ∧ l.length ≤ 2 ∧ a.ReadAs sc b ∧
      ∀ m, AddressAt sc (l ++ m) b m := by
  cases sc with
  | true =>
    refine ⟨[0], .zero, by simp [smsEncodeAddressField, hempty], by decide, ?_, ?_⟩
    · exact .absent rfl hempty
    · intro m
      exact .absent m rfl
  | false =>
    obtain ⟨htype, hplan⟩ := addrType_bits a.numberType a.numberingPlan
    refine ⟨addressOctets a false 0 [], ⟨a.numberType, a.numberingPlan, CString.empty address_room⟩,
      by simp [smsEncodeAddressField, hempty], addressOctets_length a false 0 [], ?_, ?_⟩
    · refine .number (by simp) ?_ rfl rfl ?_
      · intro hpresent
        exact absurd hempty hpresent
      · rw [hempty]
        rfl
    · intro m
      by_cases htext : a.numberType = .alphanumeric
      · have hat := @AddressAt.noText false 0
          (UInt8.ofNat (a.numberType.toNat <<< 4 ||| a.numberingPlan.val ||| 0x80)) m (by simp)
          (by rw [htype, htext]) (Nat.zero_le _) rfl
        rw [hplan] at hat
        unfold addressOctets
        rw [htext] at hat ⊢
        exact hat
      · have hat := @AddressAt.digits false 0
          (UInt8.ofNat (a.numberType.toNat <<< 4 ||| a.numberingPlan.val ||| 0x80)) [] m
          (CString.empty address_room) (by simp) (by rw [htype]; exact htext) rfl rfl
        rw [htype, hplan] at hat
        exact hat

/-- Numbers, empty addresses, and texts of at most eleven septets in any address but that of a
service centre are written without leaving the scratch buffer, and what was written is read
as the address again, up to its last octet. -/
theorem smsDecodeAddressField_encode {a : SmsAddress} {sc : Bool}
    (hscope : a.numberType = .alphanumeric → a.address.bytes ≠ [] → sc = false ∧ ∀ gs,
    Gsm.convertUtf8ToGsm a.address.bytes = some gs → gs.length ≤ 11) : smsEncodeAddressField a sc ≠
    .fault ∧ ∀ l, smsEncodeAddressField a sc = .ok l → ∃ b, a.ReadAs sc b ∧
    ∀ m extra, smsDecodeAddressField sc (on (l ++ m) extra) = .ok (b, on m extra) := by
  constructor
  · rw [Ne, smsEncodeAddressField_fault_iff]
    rintro ⟨htext, -, gs, hconvert, hlong⟩
    have hpresent : a.address.bytes ≠ [] := by
      intro hempty
      rw [hempty] at hconvert
      cases hconvert
    have hshort := (hscope htext hpresent).2 gs hconvert
    omega
  · intro l h
    by_cases hpresent : a.address.bytes = []
    · obtain ⟨l', b, hl', -, hb, hat⟩ := smsEncodeAddressField_empty hpresent sc
      obtain rfl : l' = l := Outcome.ok.inj (hl'.symm.trans h)
      exact ⟨b, hb, fun m extra => (hat m).run extra⟩
    · by_cases htext : a.numberType = .alphanumeric
      · obtain ⟨rfl, hshort⟩ := hscope htext hpresent
        have htaken := h
        rw [smsEncodeAddressField_text hpresent htext] at htaken
        split at htaken
        · cases htaken
        · split at htaken
          · cases htaken
          · rename_i hle gs hconvert
            obtain ⟨s, hs⟩ := Gsm.exists_utf8_of_convert hconvert
            obtain ⟨l', b, hl', -, hb, hat⟩ := smsEncodeAddressField_alphanumeric hpresent htext hs
              (by omega) (hs ▸ hconvert) (hshort gs hconvert)
            obtain rfl : l' = l := Outcome.ok.inj (hl'.symm.trans h)
            exact ⟨b, hb, fun m extra => (hat m).run extra⟩
      · have hnum := numeric_of_encode hpresent htext h
        obtain ⟨l', hl', hat⟩ := smsEncodeAddressField_numeric hnum sc
        obtain rfl : l' = l := Outcome.ok.inj (hl'.symm.trans h)
        have hback : a.readBack sc = a.readBack false := by simp [SmsAddress.readBack, hpresent]
        refine ⟨a.readBack sc, ?_, fun m extra => (hat m).run extra⟩
        rw [hback]
        refine .number (by simp [hpresent]) (fun _ => htext) rfl rfl ?_
        simp [SmsAddress.readBack]

/-- A sender in three septets. -/
theorem smsDecodeAddressField_encode_sender :
    smsEncodeAddressField ⟨.alphanumeric, 0, ⟨[0x41, 0x5b], by decide, by decide⟩⟩ false ≠ .fault := by
  refine (smsDecodeAddressField_encode ?_).1
  intro _ _
  refine ⟨rfl, ?_⟩
  intro gs hconvert
  have hgs : Gsm.convertUtf8ToGsm [0x41, 0x5b] = some [0x41, 0x1b, 0x3c] := by decide
  obtain rfl : [0x41, 0x1b, 0x3c] = gs := Option.some.inj (hgs.symm.trans hconvert)
  decide

/-- The type of an empty address of a service centre is not written. -/
theorem smsDecodeAddressField_encode_absent : ¬ ∀ (a : SmsAddress) (sc : Bool) (l : List UInt8),
    smsEncodeAddressField a sc = .ok l → ∃ b, smsDecodeAddressField sc (on l []) =
    .ok (b, on [] []) ∧ b.numberType = a.numberType ∧ b.numberingPlan = a.numberingPlan := by
  intro h
  obtain ⟨b, hb, htype, -⟩ := h ⟨.international, 1, CString.empty address_room⟩ true [0] rfl
  have hread : smsDecodeAddressField true (on [0] []) = .ok (.zero, on [] []) := rfl
  obtain rfl : SmsAddress.zero = b := by
    rw [hread] at hb
    cases hb
    rfl
  cases htype

end Phonelets.Sms
