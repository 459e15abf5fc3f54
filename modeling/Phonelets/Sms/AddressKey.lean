import Phonelets.Sms.AddressRoundTrip
import Phonelets.Sms.Backup

/-! # Addresses as names of directories

A backup goes into a directory with the name of its sender in it, the sender's address field in
hexadecimal digits. The encoder makes the field again from the address that was decoded.
-/

namespace Phonelets.Sms

open List Option Outcome
open Decoder
open Phonelets.Gsm (utf8 blank Encodable gund gsmLockingShiftLookup gsmSingleShiftLookup)

/-! ## Texts that the decoder makes -/

/-- The character has a code in the default alphabet, is not written as another one, and its
octets do not end a string. -/
def HasSeptet (c : ℕ) : Prop :=
  (Gsm.unicodeToGsm .default .default (Char.ofNat c)).isSome = true ∧
    blank (Char.ofNat c) = Char.ofNat c ∧ 0 ∉ Gsm.gUnicharToUtf8 c

instance (c : ℕ) : Decidable (HasSeptet c) := inferInstanceAs (Decidable (_ ∧ _ ∧ _))

/-- All characters of the default table have a code in it, but for the no-break space that the escape has. -/
lemma hasSeptet_locking : ∀ c ∈ (Gsm.lockingG .default).eraseIdx 0x1b, HasSeptet c := by decide +kernel

lemma hasSeptet_single : ∀ e ∈ Gsm.singleG .default, HasSeptet e.2 := by decide +kernel

/-- The escape alone stands for a no-break space, but it does not stand alone. -/
lemma known_of_septet : ∀ k < 128, (k ≠ 0x1b → HasSeptet (gsmLockingShiftLookup .default k)) ∧
    HasSeptet (if gsmSingleShiftLookup .default k = gund then gsmLockingShiftLookup .default k else
    gsmSingleShiftLookup .default k) := by
  intro k hk
  have hlocking (hesc : k ≠ 0x1b) : HasSeptet (gsmLockingShiftLookup .default k) := by
    rw [gsmLockingShiftLookup, getD_eq_getElem _ _ hk]
    exact hasSeptet_locking _ (mem_eraseIdx_iff_getElem.mpr ⟨k, hk, hesc, rfl⟩)
  refine ⟨hlocking, ?_⟩
  by_cases hsingle : gsmSingleShiftLookup .default k = gund
  · rw [if_pos hsingle]
    -- the escape itself has an entry in the single shift table
    refine hlocking ?_
    rintro rfl
    exact absurd hsingle (by decide)
  · rw [if_neg hsingle]
    have hmem : (k, gsmSingleShiftLookup .default k) ∈ Gsm.singleG .default := Gsm.codepointLookup_mem hsingle
    exact hasSeptet_single (k, gsmSingleShiftLookup .default k) hmem

variable {l : List UInt8}

lemma gsmChars_known (hl : ∀ k ∈ l, k < 128) {cs : List ℕ}
    (h : Gsm.gsmChars .default .default l = some cs) : ∀ c ∈ cs, HasSeptet c := by
  induction l using Gsm.gsmChars.induct .default .default generalizing cs with
  | case1 =>
    cases h
    simp
  | case2 k l hk =>
    rw [Gsm.gsmChars_wide hk] at h
    cases h
  | case3 => cases h
  | case4 k' l hk ih =>
    rw [Gsm.gsmChars_escape] at h
    obtain ⟨cs, hcs, rfl⟩ := map_eq_some_iff.mp h
    intro c hc
    rcases mem_cons.mp hc with rfl | hc
    · exact (known_of_septet k'.toNat (UInt8.lt_iff_toNat_lt.mp (hl k' (by simp)))).2
    · exact ih (fun k hk => hl k (by simp [hk])) hcs c hc
  | case5 k l hk hesc ih =>
    rw [Gsm.gsmChars_septet hk hesc] at h
    obtain ⟨cs, hcs, rfl⟩ := map_eq_some_iff.mp h
    intro c hc
    rcases mem_cons.mp hc with rfl | hc
    · refine (known_of_septet k.toNat (UInt8.lt_iff_toNat_lt.mp (hl k (by simp)))).1 ?_
      intro heq
      exact hesc (UInt8.toNat_inj.mp heq)
    · exact ih (fun k hk => hl k (by simp [hk])) hcs c hc

lemma gsmChars_ne_nil (hl : l ≠ []) {cs : List ℕ}
    (h : Gsm.gsmChars .default .default l = some cs) : cs ≠ [] := by
  cases l with
  | nil => exact absurd rfl hl
  | cons k l =>
    by_cases hk : k > 0x7f
    · rw [Gsm.gsmChars_wide hk] at h
      cases h
    by_cases hesc : k = 0x1b
    · subst hesc
      cases l with
      | nil => cases h
      | cons k' l =>
        rw [Gsm.gsmChars_escape] at h
        obtain ⟨cs, -, rfl⟩ := map_eq_some_iff.mp h
        exact cons_ne_nil _ _
    · rw [Gsm.gsmChars_septet hk hesc] at h
      obtain ⟨cs, -, rfl⟩ := map_eq_some_iff.mp h
      exact cons_ne_nil _ _

lemma unpack_septets {m : ℕ} (hm : m ≠ 0) (hlen : 7 * m ≤ 8 * l.length) :
    ∃ gs, Septets.unpack7bitOwnBuf l 0 false m = some gs ∧ gs ≠ [] ∧ ∀ k ∈ gs, k < 128 := by
  refine ⟨_, Septets.unpack7bitOwnBuf_value 0 m hm (by simpa [Septets.fillBits] using hlen), ?_, ?_⟩
  · intro hnil
    have hzero := congrArg List.length hnil
    rw [length_map, Septets.length_septets] at hzero
    exact hm hzero
  · generalize Septets.value 256 l / 2 ^ Septets.fillBits 0 = v
    clear hm hlen
    induction m generalizing v with
    | zero => simp [Septets.septets]
    | succ m ih =>
      intro k hk
      rw [Septets.septets_succ, map_cons, mem_cons] at hk
      rcases hk with rfl | hk
      · exact (Gsm.ofNat_septet (Nat.mod_lt v (by decide))).2.1
      · exact ih _ k hk

lemma addressText_known {octets : List UInt8} {m : ℕ} (hm : m ≠ 0) (hlen : 7 * m ≤ 8 *
    octets.length) {address : CString 21} (h : addressText octets m = .ok address) : ∃ s, s ≠ [] ∧
    address.bytes = utf8 s ∧ Encodable .default .default s ∧ s.map blank = s := by
  obtain ⟨gs, hunpack, hne, hseptets⟩ := unpack_septets hm hlen
  unfold addressText at h
  rw [hunpack, orReject_some, ok_bind, Gsm.convertGsmToUtf8, Gsm.convertGsmToUtf8WithLang] at h
  cases hchars : Gsm.gsmChars .default .default gs with
  | none =>
    rw [hchars] at h
    cases h
  | some cs =>
    have hknown := gsmChars_known hseptets hchars
    rw [hchars, map_some, orReject_some, ok_bind] at h
    split at h
    · cases h
    · rename_i hfits
      have hbytes : cs.flatMap Gsm.gUnicharToUtf8 = utf8 (cs.map Char.ofNat) := by
        rw [utf8, flatMap_map]
        rfl
      have hnul : 0 ∉ cs.flatMap Gsm.gUnicharToUtf8 := by
        intro hmem
        obtain ⟨c, hc, hzero⟩ := mem_flatMap.mp hmem
        exact (hknown c hc).2.2 hzero
      obtain ⟨stored, hstore, hstored⟩ :=
        CString.store_eq_some (show (cs.flatMap Gsm.gUnicharToUtf8).length < 21 by omega)
      rw [hstore, Outcome.orFault_some] at h
      obtain rfl : stored = address := Outcome.ok.inj h
      refine ⟨cs.map Char.ofNat, ?_, ?_, ?_, ?_⟩
      · simpa using gsmChars_ne_nil hne hchars
      · rw [hstored, CString.untilNul_of_no_nul hnul, hbytes]
      · intro c hc
        obtain ⟨n, hn, rfl⟩ := mem_map.mp hc
        exact (hknown n hn).1
      · rw [List.map_map]
        apply map_congr_left
        intro n hn
        exact (hknown n hn).2.1

/-- The kinds of address that the decoder makes. -/
inductive SmsAddress.Decoded (a : SmsAddress) : Prop where
  | number (digits : a.Numeric) (small : a.NoCapitals)
  | noText (alphanumeric : a.numberType = .alphanumeric) (empty : a.address.bytes = [])
  | text (s : List Char) (alphanumeric : a.numberType = .alphanumeric) (present : s ≠ [])
      (bytes : a.address.bytes = utf8 s) (encodable : Encodable .default .default s)
      (same : s.map blank = s)

lemma digitLut_digit : ∀ c ∈ digitLut, c ≠ 0 → toSemiOct c ≠ none ∧ ¬ (0x41 ≤ c ∧ c ≤ 0x43) := by
  decide +kernel

lemma mem_extractBcdNumber {buf : List UInt8} {c : UInt8} (h : c ∈ extractBcdNumber buf) :
    c ∈ digitLut := by
  obtain ⟨b, -, hc⟩ := mem_flatMap.mp h
  have hlow : b.toNat &&& 0x0f < 16 := Nat.lt_of_le_of_lt Nat.and_le_right (by decide)
  have hhigh : (b.toNat &&& 0xf0) >>> 4 < 16 := by
    have hle : b.toNat &&& 0xf0 ≤ 0xf0 := Nat.and_le_right
    rw [Nat.shiftRight_eq_div_pow]
    omega
  have hmem : ∀ n < 16, digitLut.getD n 0 ∈ digitLut := by decide
  rcases mem_cons.mp hc with rfl | hc
  · exact hmem _ hlow
  · rw [mem_singleton.mp hc]
    exact hmem _ hhigh

variable {a : SmsAddress}

lemma AddressAt.decoded {rest : List UInt8} (h : AddressAt false l a rest) : a.Decoded := by
  cases h with
  | absent rest h => cases h
  | digits addrLen addrType octets rest address present numeric length text =>
    have hdigit : ∀ c ∈ address.bytes, toSemiOct c ≠ none ∧ ¬ (0x41 ≤ c ∧ c ≤ 0x43) := by
      intro c hc
      refine digitLut_digit c (mem_extractBcdNumber (CString.subset_of_store text hc)) ?_
      rintro rfl
      exact address.no_nul hc
    exact .number ⟨numeric, fun c hc => (hdigit c hc).1⟩ fun c hc => (hdigit c hc).2
  | noText addrLen addrType rest present alphanumeric length chars => exact .noText rfl rfl
  | text addrLen addrType octets rest address present alphanumeric length chars text =>
    have hlen : 7 * addressChars false addrLen ≤ 8 * octets.length := by
      rw [length]
      simp only [addressChars, addressByteLen, Bool.false_eq_true, if_false]
      omega
    obtain ⟨s, hne, hbytes, hencodable, hsame⟩ := addressText_known chars hlen text
    exact .text s rfl hne hbytes hencodable hsame

/-! ## Names -/

/-- The address has at most eighteen digits, or a text of at most eleven octets in UTF-8 and ten
septets. -/
def SmsAddress.HasKey (a : SmsAddress) : Prop :=
  if a.numberType = .alphanumeric then
    a.address.bytes.length ≤ 11 ∧
      ∀ gs, Gsm.convertUtf8ToGsm a.address.bytes = some gs → gs.length ≤ 10
  else a.address.bytes.length ≤ 18

lemma addressToHexString_eq {pdu : List UInt8} (h : smsEncodeAddressField a false = .ok pdu) :
    smsAddressToHexString a =
      if pdu.length ≤ 11 then .ok (Hex.encodeHexOwnBuf pdu) else .fault := by
  unfold smsAddressToHexString
  rw [h, ok_bind]
  by_cases hlen : pdu.length ≤ 11
  · rw [if_pos hlen, if_pos (by omega)]
  · rw [if_neg hlen, if_neg (by omega)]

/-- An address is stored under its name if its field has at most eleven octets and is read as the
address again. -/
lemma addrStorable_iff_of_field {b : SmsAddress} {pdu : List UInt8}
    (h : smsEncodeAddressField a false = .ok pdu) (hat : ∀ m, AddressAt false (pdu ++ m) b m) :
    AddrStorable a ↔ pdu.length ≤ 11 ∧ b = a := by
  have hrun := (hat []).run []
  rw [append_nil] at hrun
  unfold AddrStorable
  rw [addressToHexString_eq h]
  constructor
  · rintro ⟨straddr, hname, hextract⟩
    split at hname
    · rename_i hlen
      obtain rfl : Hex.encodeHexOwnBuf pdu = straddr := Outcome.ok.inj hname
      rw [extractAddress_encodeHex (by omega), hrun] at hextract
      exact ⟨hlen, Outcome.ok.inj hextract⟩
    · cases hname
  · rintro ⟨hlen, rfl⟩
    refine ⟨Hex.encodeHexOwnBuf pdu, if_pos hlen, ?_⟩
    rw [extractAddress_encodeHex (by omega), hrun]
    rfl

lemma encodes_of_addrStorable (h : AddrStorable a) :
    ∃ pdu, smsEncodeAddressField a false = .ok pdu := by
  obtain ⟨straddr, hname, -⟩ := h
  obtain ⟨pdu, hpdu, -⟩ := Outcome.bind_eq_ok.mp hname
  exact ⟨pdu, hpdu⟩

lemma smsEncodeAddressField_numeric_length (hnum : a.Numeric) {l : List UInt8} (h :
    smsEncodeAddressField a false = .ok l) : l.length = 2 + (a.address.bytes.length + 1) / 2 := by
  obtain ⟨p, hp, hplen, -⟩ := semiOctets_spec a.address.bytes hnum.2
  by_cases hempty : a.address.bytes = []
  · have hl : smsEncodeAddressField a false = .ok (addressOctets a false 0 []) := by
      simp [smsEncodeAddressField, hempty]
    obtain rfl := Outcome.ok.inj (hl.symm.trans h)
    rw [hempty]
    rfl
  · have hlong : ¬ a.address.bytes.length > 20 := by
      have hfits := a.address.fits
      omega
    have hl : smsEncodeAddressField a false =
        .ok (addressOctets a false a.address.bytes.length p) := by
      simp [smsEncodeAddressField, hempty, hnum.1, hlong, hp]
    obtain rfl := Outcome.ok.inj (hl.symm.trans h)
    simp only [addressOctets, Bool.false_eq_true, if_false, length_cons, length_take]
    omega

lemma SmsAddress.ReadAs.eq {b : SmsAddress} (hdecoded : a.Decoded) (h : a.ReadAs false b) :
    b = a := by
  have hsame : b.numberType = a.numberType → b.numberingPlan = a.numberingPlan →
      b.address.bytes = a.address.bytes → b = a := by
    intro htype hplan hbytes
    have haddress : b.address = a.address := CString.ext hbytes
    show (⟨b.numberType, b.numberingPlan, b.address⟩ : SmsAddress) = _
    rw [htype, hplan, haddress]
  cases h with
  | absent h => cases h
  | number present numeric type plan digits =>
    refine hsame type plan ?_
    rw [digits]
    cases hdecoded with
    | number _ small =>
      have hlower := (noCapitals_iff a).mp small
      exact (map_congr_left hlower).trans (map_id _)
    | noText _ empty => rw [empty]; rfl
    | text s alphanumeric present' bytes =>
      have hnil : a.address.bytes = [] := by
        by_contra hne
        exact numeric hne alphanumeric
      rw [hnil]
      rfl
  | text s present alphanumeric type plan written read =>
    refine hsame type plan ?_
    cases hdecoded with
    | number digits => exact absurd alphanumeric digits.1
    | noText _ empty => exact absurd empty present
    | text s' _ _ bytes _ same =>
      obtain rfl := Gsm.utf8_injective (written.symm.trans bytes)
      rw [read, same, written]

/-- Of the addresses that are decoded those have a name under which they are found again, written
within the string, whose field has at most eleven octets. -/
theorem addrStorable_iff {a : SmsAddress} {l extra : List UInt8} {c : Cursor}
    (h : smsDecodeAddressField false (on l extra) = .ok (a, c)) :
    (AddrStorable a ↔ a.HasKey) ∧ ∀ b : SmsAddress, a.HasKey → AddrStorable b →
    smsAddressToHexString a = smsAddressToHexString b → a = b := by
  obtain ⟨rest, hat, -⟩ := (smsDecodeAddressField_ok false l extra a c).mp h
  have hdecoded := hat.decoded
  have hiff : AddrStorable a ↔ a.HasKey := by
    cases hdecoded with
    | number digits small =>
      obtain ⟨pdu, hpdu, hread⟩ := smsEncodeAddressField_numeric digits false
      rw [addrStorable_iff_of_field hpdu hread, (addr_readBack_eq_iff a).mpr small,
        smsEncodeAddressField_numeric_length digits hpdu, SmsAddress.HasKey, if_neg digits.1]
      simp only [and_true]
      omega
    | noText alphanumeric empty =>
      obtain ⟨pdu, b, hpdu, hlen, hb, hread⟩ := smsEncodeAddressField_empty empty false
      rw [addrStorable_iff_of_field hpdu hread, SmsAddress.HasKey, if_pos alphanumeric, empty]
      have hnone : Gsm.convertUtf8ToGsm [] = none := rfl
      simp only [hnone, hb.eq hat.decoded]
      simp
      omega
    | text s alphanumeric present bytes encodable same =>
      rw [SmsAddress.HasKey, if_pos alphanumeric, bytes]
      have hne : a.address.bytes ≠ [] := by
        rw [bytes]
        intro hnil
        exact present (Gsm.utf8_injective hnil)
      cases hconvert : Gsm.convertUtf8ToGsm (utf8 s) with
      | none => exact absurd encodable (Gsm.not_encodable_of_none present hconvert)
      | some gs =>
        have hfault := smsEncodeAddressField_fault_iff a false
        simp only [bytes, hconvert, Option.some.injEq, exists_eq_left', forall_eq'] at hfault ⊢
        by_cases hlong : (utf8 s).length ≤ 11
        · by_cases hmany : gs.length ≤ 11
          · obtain ⟨pdu, b, hpdu, hlen, hb, hread⟩ := smsEncodeAddressField_alphanumeric hne
              alphanumeric bytes (by rw [bytes]; exact hlong) hconvert hmany
            rw [addrStorable_iff_of_field hpdu hread, hlen, hb.eq hat.decoded]
            simp only [and_true]
            omega
          · -- behind the scratch buffer
            have hout := hfault.mpr ⟨alphanumeric, hlong, by omega⟩
            constructor
            · intro hstorable
              obtain ⟨pdu, hpdu⟩ := encodes_of_addrStorable hstorable
              rw [hout] at hpdu
              cases hpdu
            · intro hkey
              omega
        · constructor
          · intro hstorable
            obtain ⟨pdu, hpdu⟩ := encodes_of_addrStorable hstorable
            rw [smsEncodeAddressField_text hne alphanumeric, if_pos (by rw [bytes]; omega)] at hpdu
            cases hpdu
          · intro hkey
            omega
  refine ⟨hiff, ?_⟩
  rintro b hkey ⟨straddr', hname', hextract'⟩ hsame
  obtain ⟨straddr, hname, hextract⟩ := hiff.mpr hkey
  rw [hname, hname'] at hsame
  obtain rfl := Outcome.ok.inj hsame
  exact Outcome.ok.inj (hextract.symm.trans hextract')

/-- A number of four digits. -/
theorem addrStorable_iff_mobile :
    AddrStorable ⟨.international, 1, ⟨[0x34, 0x39, 0x31, 0x37], by decide, by decide⟩⟩ := by
  have hdecode : smsDecodeAddressField false (on [0x04, 0x91, 0x94, 0x71] []) =
      .ok (⟨.international, 1, ⟨[0x34, 0x39, 0x31, 0x37], by decide, by decide⟩⟩, on [] []) := rfl
  refine (addrStorable_iff hdecode).1.mpr ?_
  show (4 : ℕ) ≤ 18
  decide

/-- The twenty digits of a long number. -/
def longNumber : SmsAddress :=
  ⟨.international, 1, ⟨List.replicate 20 0x31, by decide, by decide⟩⟩

/-- The name of a number of twenty digits has its second NUL behind the string. -/
theorem addrStorable_not_longNumber : ¬ ∀ (l extra : List UInt8) (a : SmsAddress) (c : Cursor),
    smsDecodeAddressField false (on l extra) = .ok (a, c) → AddrStorable a := by
  intro h
  have hdecode : smsDecodeAddressField false (on (0x14 :: 0x91 :: List.replicate 10 0x11) []) =
      .ok (longNumber, on [] []) := rfl
  obtain ⟨straddr, hname, -⟩ := h _ _ _ _ hdecode
  have hout : smsAddressToHexString longNumber = .fault := rfl
  rw [hout] at hname
  cases hname

end Phonelets.Sms
