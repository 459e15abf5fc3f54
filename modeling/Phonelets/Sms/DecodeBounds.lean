import Mathlib
import Phonelets.Sms.Datagram
import Phonelets.Sms.RoundTrip

/-! # What is read of a decoded message

`sms_decode_text` and `sms_decode_datagram` on messages as `sms_decode` returns them. The user
data of such a message fits its array (`Decoded.fits`), and no more of it matters than its
length accounts for: messages that differ behind that give the same result. A datagram is
taken to be in 8 bit octets; a text in septets to have room for them behind its header.
-/

namespace Phonelets.Sms

open List
open Decoder
open Tlv (Element Spans)

/-- The octets of the user data that its length accounts for. That of a command counts octets. -/
def accounted (sms : Sms) : ℕ :=
  match sms.message with
  | .command m => m.cdl.toNat
  | _ => smsUdlInBytes (smsExtractCommon sms).udl (smsExtractCommon sms).dcs

/-- `sms_decode` can return the message. -/
def Decoded (sms : Sms) : Prop := ∃ pdu outgoing tpduLen, smsDecode pdu outgoing tpduLen = .ok sms

/-! ## Decoded messages fit -/

variable {c c' : Cursor}

lemma decodeUd_fits {size expected : ℕ} {ud : Buf size}
    (h : decodeUd size expected c = .ok (ud, c')) : expected ≤ size := by
  rcases bind_eq_ok.mp h with ⟨-, c₁, -, h⟩
  rcases bind_eq_ok.mp h with ⟨octets, c₂, hpeek, h⟩
  have hlen : octets.length = expected := by
    unfold peek at hpeek
    split at hpeek
    · rename_i hle
      cases hpeek
      rw [length_take, Nat.min_eq_left hle]
    · cases hpeek
  by_contra hgt
  have hnone : (Buf.zero size).write 0 octets = none := Buf.write_eq_none (by omega)
  rw [hnone] at h
  cases h

lemma decodePiFields_fits {size : ℕ} {pi : UInt8} {f : PiFields size}
    (h : decodePiFields size pi c = .ok (f, c')) : smsUdlInBytes f.udl f.dcs ≤ size := by
  rcases bind_eq_ok.mp h with ⟨pid, c₁, -, h⟩
  rcases bind_eq_ok.mp h with ⟨dcs, c₂, -, h⟩
  split at h
  · rcases bind_eq_ok.mp h with ⟨udl, c₃, -, h⟩
    rcases bind_eq_ok.mp h with ⟨ud, c₄, hud, h⟩
    cases h
    exact decodeUd_fits hud
  · cases h
    exact (smsUdlInBytes_zero dcs).le.trans (Nat.zero_le size)

lemma decodeDeliver_fits {m : SmsDeliver} (h : decodeDeliver c = .ok (m, c')) :
    smsUdlInBytes m.udl m.dcs ≤ 140 := by
  unfold decodeDeliver at h
  simp only [bind_eq_ok] at h
  rcases h with ⟨_, _, -, _, _, -, _, _, -, dcs, _, -, _, _, -, udl, _, -, ud, _, hud, h⟩
  cases h
  exact decodeUd_fits hud

lemma decodeSubmit_fits {m : SmsSubmit} (h : decodeSubmit c = .ok (m, c')) :
    smsUdlInBytes m.udl m.dcs ≤ 140 := by
  unfold decodeSubmit decodeSubmitUd at h
  simp only [bind_eq_ok] at h
  rcases h with ⟨_, _, -, _, _, -, _, _, -, _, _, -, dcs, _, -, _, _, -, udl, _, -, ud, _,
    ⟨_, _, -, _, _, -, hud⟩, h⟩
  cases h
  exact decodeUd_fits hud

lemma decodeCommand_fits {m : SmsCommand} (h : decodeCommand c = .ok (m, c')) :
    m.cdl.toNat ≤ 156 := by
  unfold decodeCommand at h
  simp only [bind_eq_ok] at h
  rcases h with ⟨_, _, -, _, _, -, _, _, -, _, _, -, _, _, -, _, _, -, cdl, _, -, cd, _, hcd, h⟩
  cases h
  exact decodeUd_fits hcd

lemma decodeStatusReport_fits {m : SmsStatusReport}
    (h : decodeStatusReport c = .ok (m, c')) : smsUdlInBytes m.udl m.dcs ≤ 143 := by
  unfold decodeStatusReport at h
  simp only [bind_eq_ok] at h
  rcases h with ⟨_, _, -, _, _, -, _, _, -, _, _, -, _, _, -, _, _, -, done, _, -, h⟩
  split at h
  · cases h
    exact (smsUdlInBytes_zero 0).le.trans (Nat.zero_le _)
  · simp only [bind_eq_ok] at h
    rcases h with ⟨_, _, -, f, _, hf, h⟩
    cases h
    exact decodePiFields_fits hf

/-- Whatever the type of the message, what its length accounts for is in its array. -/
lemma decodeTpdu_fits {type : ℕ} {m : SmsMessage} (h : decodeTpdu type c = .ok (m, c'))
    (scAddr : SmsAddress) : accounted ⟨scAddr, m⟩ ≤ (smsExtractCommon ⟨scAddr, m⟩).ud.length := by
  unfold decodeTpdu at h
  split at h
  · rcases bind_eq_ok.mp h with ⟨m, _, hm, h⟩
    cases h
    exact (decodeDeliver_fits hm).trans m.ud.length_eq.ge
  · unfold decodeSubmitReport at h
    simp only [bind_eq_ok] at h
    rcases h with ⟨_, _, -, octet, _, -, h⟩
    split at h
    · simp only [bind_eq_ok] at h
      rcases h with ⟨_, _, -, _, _, -, f, _, hf, h⟩
      cases h
      exact (decodePiFields_fits hf).trans f.ud.length_eq.ge
    · simp only [bind_eq_ok] at h
      rcases h with ⟨_, _, -, f, _, hf, h⟩
      cases h
      exact (decodePiFields_fits hf).trans f.ud.length_eq.ge
  · rcases bind_eq_ok.mp h with ⟨m, _, hm, h⟩
    cases h
    exact (decodeStatusReport_fits hm).trans m.ud.length_eq.ge
  · rcases bind_eq_ok.mp h with ⟨m, _, hm, h⟩
    cases h
    exact (decodeDeliver_fits hm).trans m.ud.length_eq.ge
  · unfold decodeDeliverReport at h
    simp only [bind_eq_ok] at h
    rcases h with ⟨_, _, -, octet, _, -, h⟩
    split at h
    · simp only [bind_eq_ok] at h
      rcases h with ⟨_, _, -, f, _, hf, h⟩
      cases h
      exact (decodePiFields_fits hf).trans f.ud.length_eq.ge
    · simp only [bind_eq_ok] at h
      rcases h with ⟨f, _, hf, h⟩
      cases h
      exact (decodePiFields_fits hf).trans f.ud.length_eq.ge
  · rcases bind_eq_ok.mp h with ⟨m, _, hm, h⟩
    cases h
    exact (decodeSubmit_fits hm).trans m.ud.length_eq.ge
  · rcases bind_eq_ok.mp h with ⟨m, _, hm, h⟩
    cases h
    exact (decodeCommand_fits hm).trans m.cd.length_eq.ge
  · cases h

variable {sms : Sms}

lemma Decoded.fits (h : Decoded sms) : accounted sms ≤ (smsExtractCommon sms).ud.length := by
  rcases h with ⟨pdu, outgoing, tpduLen, h⟩
  have hat : ∀ scAddr c, decodeAt outgoing tpduLen scAddr c = .ok sms →
      accounted sms ≤ (smsExtractCommon sms).ud.length := by
    intro scAddr c hc
    unfold decodeAt at hc
    split at hc
    · cases hc
    · split at hc
      · cases hc
      · rcases Outcome.bind_eq_ok.mp hc with ⟨r, hr, hc⟩
        cases hc
        exact decodeTpdu_fits hr scAddr
  unfold smsDecode at h
  split at h
  · cases h
  · split at h
    · rcases Outcome.bind_eq_ok.mp h with ⟨r, -, h⟩
      exact hat r.1 r.2 h
    · exact hat _ _ h

/-! ## The header -/

lemma headerRoom_eq (sms : Sms) : headerRoom sms = accounted sms := by
  rcases sms with ⟨scAddr, message⟩
  cases message <;> rfl

lemma verifyUdh_eq_true {hdr : List UInt8} {maxLen : ℕ} :
    verifyUdh hdr maxLen = true ↔ (2 ≤ (hdr.getD 0 0).toNat ∧ (hdr.getD 0 0).toNat < maxLen) ∧
    verifyUdhLoop hdr ((hdr.getD 0 0).toNat + 1) 1 = true := by
  unfold verifyUdh
  dsimp only
  split_ifs with hshort hend
  · exact ⟨nofun, fun h => absurd h.1.1 (by omega)⟩
  · exact ⟨nofun, fun h => absurd h.1.2 (by omega)⟩
  · exact ⟨fun h => ⟨⟨by omega, by omega⟩, h⟩, And.right⟩

/-- A header is accepted if its elements fill it exactly, and it ends in what is accounted for. -/
lemma smsUdhIterInit_eq_some {iter : UdhIter} : smsUdhIterInit sms = some iter ↔ (smsExtractCommon
    sms).udhi = true ∧ (3 ≤ accounted sms ∧ accounted sms ≤ (smsExtractCommon sms).ud.length) ∧
    (2 ≤ ((smsExtractCommon sms).ud.getD 0 0).toNat ∧ ((smsExtractCommon sms).ud.getD 0 0).toNat <
    accounted sms) ∧ (∃ e es, Spans (smsExtractCommon sms).ud 1 (((smsExtractCommon sms).ud.getD 0
    0).toNat + 1) (e :: es)) ∧ iter = ⟨(smsExtractCommon sms).ud, 1⟩ := by
  rw [smsUdhIterInit_eq, headerRoom_eq]
  generalize smsExtractCommon sms = c
  constructor
  · intro h
    split_ifs at h with hudhi hsmall hlong hverify
    rw [Bool.not_eq_true, Bool.not_eq_false'] at hudhi hverify
    rcases verifyUdh_eq_true.mp hverify with ⟨hlength, hloop⟩
    refine ⟨hudhi, ⟨by omega, by omega⟩, hlength, ?_, (Option.some.inj h).symm⟩
    exact (verifyUdhLoop_iff (by omega)).mp hloop
  · rintro ⟨hudhi, ⟨hlo, hhi⟩, hlength, hspans, rfl⟩
    have hverify : verifyUdh c.ud (accounted sms) = true :=
      verifyUdh_eq_true.mpr ⟨hlength, (verifyUdhLoop_iff (by omega)).mpr hspans⟩
    rw [hudhi, hverify, if_neg (by decide), if_neg (by omega), if_neg (by omega),
      if_neg (by decide)]

lemma takenByHeader_le (sms : Sms) : takenByHeader sms ≤ accounted sms := by
  unfold takenByHeader
  cases hiter : smsUdhIterInit sms with
  | none => exact Nat.zero_le _
  | some iter =>
    rcases smsUdhIterInit_eq_some.mp hiter with ⟨-, -, ⟨-, hlt⟩, -, rfl⟩
    exact hlt

/-! ## Octets behind the length -/

/-- The messages are alike but for octets of their user data that its length does not account
for. -/
structure SameUserData (a b : Sms) : Prop where
  udhi : (smsExtractCommon a).udhi = (smsExtractCommon b).udhi
  dcs : (smsExtractCommon a).dcs = (smsExtractCommon b).dcs
  udl : (smsExtractCommon a).udl = (smsExtractCommon b).udl
  accounted : Sms.accounted a = Sms.accounted b
  size : (smsExtractCommon a).ud.length = (smsExtractCommon b).ud.length
  octets : (smsExtractCommon a).ud.take (Sms.accounted a) =
    (smsExtractCommon b).ud.take (Sms.accounted a)

variable {a b : Sms}

lemma SameUserData.symm (h : SameUserData a b) : SameUserData b a :=
  ⟨h.udhi.symm, h.dcs.symm, h.udl.symm, h.accounted.symm, h.size.symm, h.accounted ▸ h.octets.symm⟩

lemma getD_eq_of_take {l m : List UInt8} {n i : ℕ} (h : l.take n = m.take n) (hi : i < n) :
    l.getD i 0 = m.getD i 0 := by
  rw [getD_eq_getElem?_getD, getD_eq_getElem?_getD, ← getElem?_take_of_lt hi, h,
    getElem?_take_of_lt hi]

lemma SameUserData.iterInit (h : SameUserData a b) {iter : UdhIter}
    (hiter : smsUdhIterInit a = some iter) : ∃ iter', smsUdhIterInit b = some iter' ∧
    iter'.getUdhLength = iter.getUdhLength ∧ iter'.elements = iter.elements := by
  rcases smsUdhIterInit_eq_some.mp hiter with
    ⟨hudhi, ⟨hlo, hhi⟩, ⟨htwo, hlt⟩, ⟨e, es, hspans⟩, rfl⟩
  have hlen := getD_eq_of_take h.octets (i := 0) (by omega)
  have hspans' := hspans.of_take h.octets (by omega)
  have helements := UdhIter.elements_eq hspans
  rw [hlen] at htwo hlt hspans'
  refine ⟨⟨(smsExtractCommon b).ud, 1⟩, ?_, ?_, ?_⟩
  · exact smsUdhIterInit_eq_some.mpr ⟨h.udhi ▸ hudhi, ⟨h.accounted ▸ hlo, h.size ▸ h.accounted ▸ hhi⟩,
      ⟨htwo, h.accounted ▸ hlt⟩, ⟨e, es, hspans'⟩, rfl⟩
  · unfold UdhIter.getUdhLength
    rw [hlen]
  · rw [UdhIter.elements_eq hspans', helements]

lemma SameUserData.header (h : SameUserData a b) :
    takenByHeader a = takenByHeader b ∧ informationElements a = informationElements b := by
  unfold takenByHeader informationElements
  cases ha : smsUdhIterInit a with
  | some iter =>
    rcases h.iterInit ha with ⟨iter', hb, hlength, helements⟩
    rw [hb]
    exact ⟨congrArg (· + 1) hlength.symm, helements.symm⟩
  | none =>
    cases hb : smsUdhIterInit b with
    | none => exact ⟨rfl, rfl⟩
    | some iter =>
      rcases h.symm.iterInit hb with ⟨iter', ha', -, -⟩
      rw [ha] at ha'
      cases ha'

lemma readOctets_eq_of_take {l m : List UInt8} {n offset len : ℕ} (h : l.take n = m.take n)
    (hlen : l.length = m.length) (hle : offset + len ≤ n) :
    readOctets l offset len = readOctets m offset len := by
  have htake : ∀ l : List UInt8, (l.drop offset).take len = ((l.take n).drop offset).take len := by
    intro l
    rw [drop_take, take_take, Nat.min_eq_left (by omega)]
  unfold readOctets
  rw [hlen, htake l, h, ← htake m]

lemma smsExtractCommon_command {m : SmsCommand} (hm : sms.message = .command m) :
    smsExtractCommon sms = ⟨m.udhi, 0, m.cdl, m.cd.octets⟩ := by
  unfold smsExtractCommon
  rw [hm]

lemma smsUdlInBytes_le_accounted (sms : Sms) :
    smsUdlInBytes (smsExtractCommon sms).udl (smsExtractCommon sms).dcs ≤ accounted sms := by
  unfold accounted
  cases hm : sms.message with
  | command m =>
    rw [smsExtractCommon_command hm]
    have hzero : smsUdlInBytes m.cdl 0 = (m.cdl.toNat + 1) * 7 / 8 := by simp [smsUdlInBytes]
    show smsUdlInBytes m.cdl 0 ≤ m.cdl.toNat
    rw [hzero]
    omega
  | _ => exact Nat.le_refl _

lemma SameUserData.decodeFragment (h : SameUserData a b) (g : GConvert) :
    Sms.decodeFragment g a = Sms.decodeFragment g b := by
  have hread : readOctets (smsExtractCommon a).ud (takenByHeader a)
      (smsUdlInBytes (smsExtractCommon a).udl (smsExtractCommon a).dcs - takenByHeader a) =
      readOctets (smsExtractCommon b).ud (takenByHeader a)
        (smsUdlInBytes (smsExtractCommon a).udl (smsExtractCommon a).dcs - takenByHeader a) := by
    have htaken := takenByHeader_le a
    have hbytes := smsUdlInBytes_le_accounted a
    exact readOctets_eq_of_take h.octets h.size (by omega)
  have hseptets : ∀ udl taken field, decodeSeptets a udl taken field = decodeSeptets b udl taken field := by
    intro udl taken field
    unfold decodeSeptets
    simp only [smsExtractLanguageVariant_eq, h.header.2]
  unfold Sms.decodeFragment
  dsimp only
  rw [← h.dcs, ← h.udl, ← h.header.1]
  simp only [hread, hseptets]

lemma SameUserData.datagramPart (h : SameUserData a b) (hoctets : Sms.accounted a =
    (smsExtractCommon a).udl.toNat) : Sms.datagramPart a = Sms.datagramPart b := by
  have hread : readOctets (smsExtractCommon a).ud (takenByHeader a)
      ((smsExtractCommon a).udl.toNat - takenByHeader a) =
      readOctets (smsExtractCommon b).ud (takenByHeader a)
        ((smsExtractCommon a).udl.toNat - takenByHeader a) := by
    have htaken := takenByHeader_le a
    exact readOctets_eq_of_take h.octets h.size (by omega)
  unfold Sms.datagramPart
  dsimp only
  rw [← h.udl, ← h.header.1, hread]

/-! ## Room for the text -/

/-- The length counts septets or octets, or nothing, by the coding scheme alone. -/
lemma smsUdlInBytes_cases (dcs : UInt8) :
    (∀ udl : UInt8, smsUdlInBytes udl dcs = (udl.toNat + 1) * 7 / 8) ∨ (∀ udl : UInt8,
    smsUdlInBytes udl dcs = udl.toNat) ∨ ∀ udl : UInt8, smsUdlInBytes udl dcs = 0 := by
  unfold smsUdlInBytes
  dsimp only
  repeat' split
  all_goals first
    | exact .inl fun _ => rfl
    | exact .inr (.inl fun _ => rfl)
    | exact .inr (.inr fun _ => rfl)

lemma smsUdlInBytes_eightBit {dcs : UInt8} (h : charsetOf dcs = some .eightBit) (udl : UInt8) :
    smsUdlInBytes udl dcs = udl.toNat := by
  have hsixteen : ∀ dcs, charsetOf dcs = some .eightBit → smsUdlInBytes 16 dcs = 16 :=
    octet_forall (by decide)
  rcases smsUdlInBytes_cases dcs with hseptets | hoctets | hnone
  · have h14 := (hseptets 16).symm.trans (hsixteen dcs h)
    exact absurd h14 (by decide)
  · exact hoctets udl
  · exact absurd ((hnone 16).symm.trans (hsixteen dcs h)) (by decide)

/-- The header takes all octets of the text. -/
def NoText (sms : Sms) : Prop :=
  takenByHeader sms = smsUdlInBytes (smsExtractCommon sms).udl (smsExtractCommon sms).dcs

/-- The message is in the 8 bit charset, which `sms_decode_datagram` assumes. -/
def EightBit (sms : Sms) : Prop := charsetOf (smsExtractCommon sms).dcs = some .eightBit

lemma EightBit.accounted (h : EightBit sms) :
    Sms.accounted sms = (smsExtractCommon sms).udl.toNat := by
  unfold EightBit at h
  unfold Sms.accounted
  cases hm : sms.message with
  | command m =>
    rw [smsExtractCommon_command hm]
  | _ => exact smsUdlInBytes_eightBit h _

lemma NoText.decodeFragment (h : NoText sms) (g : GConvert) :
    Sms.decodeFragment g sms = .ok none := by
  unfold NoText at h
  unfold Sms.decodeFragment
  dsimp only
  simp only [if_pos h.symm]
  split <;> rfl

variable {l : List Sms}

end Phonelets.Sms
