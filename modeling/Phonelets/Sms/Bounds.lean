import Phonelets.Sms.Tpdu

/-! # Where `sms_decode` leaves its arrays

The PDUs on which `sms_decode` reads behind its input or writes behind an array of the
structure, described by their octets: what the fields of the TPDU are up to the one that
does not fit. Only the user data of a submit is checked against its array.
-/

namespace Phonelets.Sms

open Decoder

variable {α β : Type}

/-! ## Fields -/

variable {l extra : List UInt8}

lemma address_bind_fault {sc : Bool} {f : SmsAddress → Decoder α} :
    (smsDecodeAddressField sc >>= f) (on l extra) = .fault ↔ OverlongAddress sc l ∨
    ∃ a rest, AddressAt sc l a rest ∧ f a (on rest extra) = .fault :=
  bind_fault_of_spec (smsDecodeAddressField_fault sc l extra) (smsDecodeAddressField_ok sc l extra)

lemma bind_fault_of_ok {d : Decoder α} {R : α → List UInt8 → Prop}
    (hfault : d (on l extra) ≠ .fault) (hok : ∀ a c, d (on l extra) = .ok (a, c) ↔
    ∃ rest, R a rest ∧ c = on rest extra) {f : α → Decoder β} :
    (d >>= f) (on l extra) = .fault ↔ ∃ a rest, R a rest ∧ f a (on rest extra) = .fault := by
  rw [bind_fault_of_spec (F := False) (by simpa using hfault) hok]
  simp

lemma scts_bind_fault {f : SmsScts → Decoder α} : (smsDecodeScts >>= f) (on l extra) = .fault ↔
      ∃ scts rest, SctsAt l scts rest ∧ f scts (on rest extra) = .fault :=
  bind_fault_of_ok (smsDecodeScts_ne_fault l extra) (smsDecodeScts_ok l extra)

lemma validity_bind_fault {vpf : ℕ} {f : ValidityPeriod → Decoder α} :
    (decodeValidityPeriod vpf >>= f) (on l extra) = .fault ↔
      ∃ vp rest, ValidityAt vpf l vp rest ∧ f vp (on rest extra) = .fault :=
  bind_fault_of_ok (decodeValidityPeriod_ne_fault vpf l extra) (decodeValidityPeriod_ok vpf l extra)

lemma octetIf_bind_fault {present : Bool} {f : UInt8 → Decoder α} : (decodeIf present >>= f)
    (on l extra) = .fault ↔ ∃ v rest, OctetIf present l v rest ∧ f v (on rest extra) = .fault :=
  bind_fault_of_ok (decodeIf_ne_fault present l extra) (decodeIf_ok present l extra)

lemma ud_bind_fault {size expected : ℕ} {f : Buf size → α} : (decodeUd size expected >>= fun ud =>
    pure (f ud)) (on l extra) = .fault ↔ UdOverrun size expected l := by
  rw [bind_eq_fault, decodeUd_fault]
  simp

lemma bind_pure_fault {d : Decoder α} {f : α → β} {c : Cursor} :
    (d >>= fun a => pure (f a)) c = .fault ↔ d c = .fault := by
  rw [bind_eq_fault]
  simp

lemma submitUd_ne_fault (expected : ℕ) (l extra : List UInt8) :
    decodeSubmitUd expected (on l extra) ≠ .fault := by
  intro h
  unfold decodeSubmitUd at h
  rw [need_bind_fault, check_bind_fault, decodeUd_fault] at h
  rcases h with ⟨-, hle, -, hlt⟩
  have hle := of_decide_eq_true hle
  omega

/-! ## Overruns of a TPDU -/

/-- A deliver whose originating address is too long, or whose user data is. -/
def DeliverOverrun (l : List UInt8) : Prop :=
  ∃ first r, l = first :: r ∧ (OverlongAddress false r ∨
    ∃ oaddr pid dcs r₁ scts udl ud, AddressAt false r oaddr (pid :: dcs :: r₁) ∧
      SctsAt r₁ scts (udl :: ud) ∧ UdOverrun 140 (smsUdlInBytes udl dcs) ud)

/-- A submit whose destination address is too long. -/
def SubmitOverrun (l : List UInt8) : Prop :=
  ∃ first mr r, l = first :: mr :: r ∧ OverlongAddress false r

/-- A command whose destination address is too long, or whose command data is. -/
def CommandOverrun (l : List UInt8) : Prop :=
  ∃ first mr pid ct mn r, l = first :: mr :: pid :: ct :: mn :: r ∧ (OverlongAddress false r ∨
    ∃ daddr cdl cd, AddressAt false r daddr (cdl :: cd) ∧ UdOverrun 156 cdl.toNat cd)

/-- The fields behind a parameter indicator end in too long user data. -/
def PiOverrun (size : ℕ) (pi : UInt8) (l : List UInt8) : Prop :=
  hasUd pi = true ∧ ∃ pid r dcs udl ud, OctetIf (hasPid pi) l pid r ∧
    OctetIf (hasDcs pi) r dcs (udl :: ud) ∧ UdOverrun size (smsUdlInBytes udl dcs) ud

def DeliverReportOverrun (l : List UInt8) : Prop :=
  (∃ first fcs pi r, l = first :: fcs :: pi :: r ∧ fcs ≥ 0x80 ∧ PiOverrun 158 (pi &&& 0x07) r) ∨
    ∃ first pi r, l = first :: pi :: r ∧ ¬ pi ≥ 0x80 ∧ PiOverrun 159 (pi &&& 0x07) r

def SubmitReportOverrun (l : List UInt8) : Prop :=
  (∃ first fcs pi r scts r₁, l = first :: fcs :: pi :: r ∧ fcs ≥ 0x80 ∧ SctsAt r scts r₁ ∧
      PiOverrun 151 (pi &&& 0x07) r₁) ∨
    ∃ first pi r scts r₁, l = first :: pi :: r ∧ ¬ pi ≥ 0x80 ∧ SctsAt r scts r₁ ∧
      PiOverrun 152 (pi &&& 0x07) r₁

/-- A status report whose recipient address is too long, or whose user data is. -/
def StatusReportOverrun (l : List UInt8) : Prop :=
  ∃ first mr r, l = first :: mr :: r ∧ (OverlongAddress false r ∨
    ∃ raddr r₁ scts r₂ dt st pi r₃, AddressAt false r raddr r₁ ∧ SctsAt r₁ scts r₂ ∧
      SctsAt r₂ dt (st :: pi :: r₃) ∧ PiOverrun 143 (pi &&& 0x07) r₃)

def TpduOverrun (type : ℕ) (l : List UInt8) : Prop :=
  match type with
  | 0 | 3 => DeliverOverrun l
  | 1 => SubmitReportOverrun l
  | 2 => StatusReportOverrun l
  | 4 => DeliverReportOverrun l
  | 5 => SubmitOverrun l
  | 6 => CommandOverrun l
  | _ => False

lemma decodeDeliver_fault (l extra : List UInt8) :
    decodeDeliver (on l extra) = .fault ↔ DeliverOverrun l := by
  unfold decodeDeliver DeliverOverrun
  simp only [nextOctet_bind_fault, address_bind_fault, scts_bind_fault, ud_bind_fault]
  constructor
  · rintro ⟨first, r, rfl, hlong | ⟨oaddr, _, hat, pid, _, rfl, dcs, r₁, rfl, scts, _, hscts, udl,
      ud, rfl, hud⟩⟩
    · exact ⟨first, r, rfl, .inl hlong⟩
    · exact ⟨first, r, rfl, .inr ⟨oaddr, pid, dcs, r₁, scts, udl, ud, hat, hscts, hud⟩⟩
  · rintro ⟨first, r, rfl, hlong | ⟨oaddr, pid, dcs, r₁, scts, udl, ud, hat, hscts, hud⟩⟩
    · exact ⟨first, r, rfl, .inl hlong⟩
    · exact ⟨first, r, rfl, .inr ⟨oaddr, _, hat, pid, _, rfl, dcs, r₁, rfl, scts, _, hscts, udl, ud,
        rfl, hud⟩⟩

lemma decodeSubmit_fault (l extra : List UInt8) :
    decodeSubmit (on l extra) = .fault ↔ SubmitOverrun l := by
  unfold decodeSubmit SubmitOverrun
  simp only [nextOctet_bind_fault, address_bind_fault, validity_bind_fault, bind_pure_fault]
  constructor
  · rintro ⟨first, _, rfl, mr, r, rfl, hlong | ⟨_, _, _, _, _, _, _, _, _, _, _, _, _, _, _, hud⟩⟩
    · exact ⟨first, mr, r, rfl, hlong⟩
    · exact absurd hud (submitUd_ne_fault _ _ _)
  · rintro ⟨first, mr, r, rfl, hlong⟩
    exact ⟨first, _, rfl, mr, r, rfl, .inl hlong⟩

lemma decodeCommand_fault (l extra : List UInt8) :
    decodeCommand (on l extra) = .fault ↔ CommandOverrun l := by
  unfold decodeCommand CommandOverrun
  simp only [nextOctet_bind_fault, address_bind_fault, ud_bind_fault]
  constructor
  · rintro ⟨first, _, rfl, mr, _, rfl, pid, _, rfl, ct, _, rfl, mn, r, rfl,
      hlong | ⟨daddr, _, hat, cdl, cd, rfl, hcd⟩⟩
    · exact ⟨first, mr, pid, ct, mn, r, rfl, .inl hlong⟩
    · exact ⟨first, mr, pid, ct, mn, r, rfl, .inr ⟨daddr, cdl, cd, hat, hcd⟩⟩
  · rintro ⟨first, mr, pid, ct, mn, r, rfl, hlong | ⟨daddr, cdl, cd, hat, hcd⟩⟩
    · exact ⟨first, _, rfl, mr, _, rfl, pid, _, rfl, ct, _, rfl, mn, r, rfl, .inl hlong⟩
    · exact ⟨first, _, rfl, mr, _, rfl, pid, _, rfl, ct, _, rfl, mn, r, rfl,
        .inr ⟨daddr, _, hat, cdl, cd, rfl, hcd⟩⟩

lemma decodePiFields_fault (size : ℕ) (pi : UInt8) (l extra : List UInt8) :
    decodePiFields size pi (on l extra) = .fault ↔ PiOverrun size pi l := by
  unfold decodePiFields PiOverrun
  rw [octetIf_bind_fault]
  simp only [octetIf_bind_fault]
  cases hud : hasUd pi with
  | true =>
    simp only [if_true, nextOctet_bind_fault, ud_bind_fault, true_and]
    constructor
    · rintro ⟨pid, r, hpid, dcs, _, hdcs, udl, ud, rfl, hlong⟩
      exact ⟨pid, r, dcs, udl, ud, hpid, hdcs, hlong⟩
    · rintro ⟨pid, r, dcs, udl, ud, hpid, hdcs, hlong⟩
      exact ⟨pid, r, hpid, dcs, _, hdcs, udl, ud, rfl, hlong⟩
  | false => simp

lemma decodeDeliverReport_fault (l extra : List UInt8) :
    decodeDeliverReport (on l extra) = .fault ↔ DeliverReportOverrun l := by
  unfold decodeDeliverReport DeliverReportOverrun
  simp only [nextOctet_bind_fault]
  constructor
  · rintro ⟨first, _, rfl, octet, r, rfl, h⟩
    by_cases hfcs : octet ≥ 0x80
    · simp only [if_pos hfcs, nextOctet_bind_fault, bind_pure_fault, decodePiFields_fault] at h
      rcases h with ⟨pi, r, rfl, h⟩
      exact .inl ⟨first, octet, pi, r, rfl, hfcs, h⟩
    · simp only [if_neg hfcs, bind_pure_fault, decodePiFields_fault] at h
      exact .inr ⟨first, octet, r, rfl, hfcs, h⟩
  · rintro (⟨first, fcs, pi, r, rfl, hfcs, h⟩ | ⟨first, pi, r, rfl, hack, h⟩)
    · refine ⟨first, _, rfl, fcs, _, rfl, ?_⟩
      simp only [if_pos hfcs, nextOctet_bind_fault, bind_pure_fault, decodePiFields_fault]
      exact ⟨pi, r, rfl, h⟩
    · refine ⟨first, _, rfl, pi, _, rfl, ?_⟩
      simp only [if_neg hack, bind_pure_fault, decodePiFields_fault]
      exact h

lemma decodeSubmitReport_fault (l extra : List UInt8) :
    decodeSubmitReport (on l extra) = .fault ↔ SubmitReportOverrun l := by
  unfold decodeSubmitReport SubmitReportOverrun
  simp only [nextOctet_bind_fault]
  constructor
  · rintro ⟨first, _, rfl, octet, r, rfl, h⟩
    by_cases hfcs : octet ≥ 0x80
    · simp only [if_pos hfcs, nextOctet_bind_fault, scts_bind_fault, bind_pure_fault,
        decodePiFields_fault] at h
      rcases h with ⟨pi, r, rfl, scts, r₁, hscts, h⟩
      exact .inl ⟨first, octet, pi, r, scts, r₁, rfl, hfcs, hscts, h⟩
    · simp only [if_neg hfcs, scts_bind_fault, bind_pure_fault, decodePiFields_fault] at h
      rcases h with ⟨scts, r₁, hscts, h⟩
      exact .inr ⟨first, octet, r, scts, r₁, rfl, hfcs, hscts, h⟩
  · rintro (⟨first, fcs, pi, r, scts, r₁, rfl, hfcs, hscts, h⟩ |
      ⟨first, pi, r, scts, r₁, rfl, hack, hscts, h⟩)
    · refine ⟨first, _, rfl, fcs, _, rfl, ?_⟩
      simp only [if_pos hfcs, nextOctet_bind_fault, scts_bind_fault, bind_pure_fault,
        decodePiFields_fault]
      exact ⟨pi, r, rfl, scts, r₁, hscts, h⟩
    · refine ⟨first, _, rfl, pi, _, rfl, ?_⟩
      simp only [if_neg hack, scts_bind_fault, bind_pure_fault, decodePiFields_fault]
      exact ⟨scts, r₁, hscts, h⟩

lemma atEnd_bind_fault {f : Bool → Decoder α} :
    (atEnd >>= f) (on l extra) = .fault ↔ f l.isEmpty (on l extra) = .fault := by
  cases l with
  | nil => rw [bind_of_ok (atEnd_nil extra)]; rfl
  | cons b l => rw [bind_of_ok (atEnd_cons b l extra)]; rfl

lemma decodeStatusReport_fault (l extra : List UInt8) :
    decodeStatusReport (on l extra) = .fault ↔ StatusReportOverrun l := by
  unfold decodeStatusReport StatusReportOverrun
  simp only [nextOctet_bind_fault, address_bind_fault, scts_bind_fault, atEnd_bind_fault]
  constructor
  · rintro ⟨first, _, rfl, mr, r, rfl, hlong | ⟨raddr, r₁, hat, scts, r₂, hscts, dt, _, hdt, st, r₃,
      rfl, h⟩⟩
    · exact ⟨first, mr, r, rfl, .inl hlong⟩
    · cases r₃ with
      | nil => simp at h
      | cons pi r₃ =>
        simp only [List.isEmpty_cons, Bool.false_eq_true, if_false, nextOctet_bind_fault,
          bind_pure_fault, decodePiFields_fault] at h
        rcases h with ⟨_, _, heq, h⟩
        cases heq
        exact ⟨first, mr, r, rfl, .inr ⟨raddr, r₁, scts, r₂, dt, st, pi, r₃, hat, hscts, hdt, h⟩⟩
  · rintro ⟨first, mr, r, rfl, hlong | ⟨raddr, r₁, scts, r₂, dt, st, pi, r₃, hat, hscts, hdt, h⟩⟩
    · exact ⟨first, _, rfl, mr, r, rfl, .inl hlong⟩
    · refine ⟨first, _, rfl, mr, r, rfl, .inr ⟨raddr, r₁, hat, scts, r₂, hscts, dt, _, hdt, st, _,
        rfl, ?_⟩⟩
      simp only [List.isEmpty_cons, Bool.false_eq_true, if_false, nextOctet_bind_fault,
        bind_pure_fault, decodePiFields_fault]
      exact ⟨pi, r₃, rfl, h⟩

lemma decodeTpdu_fault (type : ℕ) (l extra : List UInt8) :
    decodeTpdu type (on l extra) = .fault ↔ TpduOverrun type l := by
  unfold decodeTpdu TpduOverrun
  split
  · exact bind_pure_fault.trans (decodeDeliver_fault l extra)
  · exact decodeSubmitReport_fault l extra
  · exact bind_pure_fault.trans (decodeStatusReport_fault l extra)
  · exact bind_pure_fault.trans (decodeDeliver_fault l extra)
  · exact decodeDeliverReport_fault l extra
  · exact bind_pure_fault.trans (decodeSubmit_fault l extra)
  · exact bind_pure_fault.trans (decodeCommand_fault l extra)
  · simp_all

/-! ## A negative length

Nothing is left of a negative length, but `next_octet` only compares for equality: it
reads on until the first count is asked for. -/

/-- With a negative length the decoder faults if fewer than `n` octets are in memory. -/
def ReadsBlind (d : Decoder α) (n : ℕ) : Prop :=
  ∀ l : List UInt8, ∀ left : ℤ, left < 0 → (d ⟨l, left⟩ = .fault ↔ l.length < n)

/-- The same for a decoder that gives up behind these octets. -/
def StopsBlind (d : Decoder α) (n : ℕ) : Prop :=
  ∀ l : List UInt8, ∀ left : ℤ, left < 0 →
    d ⟨l, left⟩ = if l.length < n then .fault else .reject

variable {n : ℕ}

lemma StopsBlind.readsBlind {d : Decoder α} (h : StopsBlind d n) : ReadsBlind d n := by
  intro l left hleft
  rw [h l left hleft]
  split <;> simp [*]

lemma StopsBlind.bind {d : Decoder α} (h : StopsBlind d n) (f : α → Decoder β) :
    StopsBlind (d >>= f) n := by
  intro l left hleft
  have hd := h l left hleft
  split at hd
  · rw [bind_of_fault hd, if_pos (by assumption)]
  · rw [bind_of_reject hd, if_neg (by assumption)]

lemma stopsBlind_need (n : ℕ) (f : Unit → Decoder α) : StopsBlind (need n >>= f) 0 := by
  intro l left hleft
  rw [need_bind_neg hleft]
  simp

lemma stopsBlind_nextOctet {f : UInt8 → Decoder α} (h : ∀ b, StopsBlind (f b) n) :
    StopsBlind (nextOctet >>= f) (n + 1) := by
  intro l left hleft
  have hne : left ≠ 0 := by omega
  cases l with
  | nil =>
    rw [bind_of_fault (by simp [nextOctet, hne])]
    simp
  | cons b m =>
    have hnext : nextOctet ⟨b :: m, left⟩ = .ok (b, ⟨m, left - 1⟩) := by
      simp [nextOctet, hne]
    rw [bind_of_ok hnext, h b m (left - 1) (by omega)]
    simp

lemma readsBlind_nextOctet {f : UInt8 → Decoder α} (h : ∀ b, ReadsBlind (f b) n) :
    ReadsBlind (nextOctet >>= f) (n + 1) := by
  intro l left hleft
  rw [nextOctet_bind_fault_neg hleft]
  cases l with
  | nil => simp
  | cons b m =>
    have hrest := h b m (left - 1) (by omega)
    simp only [List.cons.injEq, and_imp, List.length_cons, Nat.add_lt_add_iff_right]
    constructor
    · intro hall
      exact hrest.mp (hall b m rfl rfl)
    · rintro hlt _ _ rfl rfl
      exact hrest.mpr hlt

lemma stopsBlind_address : StopsBlind (smsDecodeAddressField false) 2 := by
  unfold smsDecodeAddressField
  apply stopsBlind_nextOctet
  intro addrLen
  rw [if_neg (by simp)]
  apply stopsBlind_nextOctet
  intro addrType
  exact stopsBlind_need _ _

lemma stopsBlind_scts : StopsBlind smsDecodeScts 0 := stopsBlind_need _ _

lemma stopsBlind_ud (size expected : ℕ) : StopsBlind (decodeUd size expected) 0 :=
  stopsBlind_need _ _

/-- The octets that a parameter indicator announces before the user data. -/
def piOctets (pi : UInt8) : ℕ := (hasPid pi).toNat + (hasDcs pi).toNat + (hasUd pi).toNat

lemma readsBlind_decodeIf {present : Bool} {f : UInt8 → Decoder α}
    (h : ∀ v, ReadsBlind (f v) n) : ReadsBlind (decodeIf present >>= f) (present.toNat + n) := by
  cases present with
  | true =>
    rw [Bool.toNat_true, Nat.add_comm]
    exact readsBlind_nextOctet h
  | false =>
    rw [Bool.toNat_false, Nat.zero_add]
    exact h 0

lemma readsBlind_pi (size : ℕ) (pi : UInt8) :
    ReadsBlind (decodePiFields size pi) (piOctets pi) := by
  unfold decodePiFields piOctets
  rw [Nat.add_assoc]
  apply readsBlind_decodeIf
  intro pid
  apply readsBlind_decodeIf
  intro dcs
  cases hasUd pi with
  | true =>
    rw [if_pos rfl]
    apply StopsBlind.readsBlind
    apply stopsBlind_nextOctet
    intro udl
    exact (stopsBlind_ud _ _).bind _
  | false =>
    intro l left _
    simp

/-- A deliver report of fewer octets than its decoder reads. -/
def DeliverReportShort (l : List UInt8) : Prop :=
  ∀ first octet r, l = first :: octet :: r →
    if octet ≥ 0x80 then ∀ pi r', r = pi :: r' → r'.length < piOctets (pi &&& 0x07)
    else r.length < piOctets (octet &&& 0x07)

/-- A submit report of fewer octets than its decoder reads. -/
def SubmitReportShort (l : List UInt8) : Prop :=
  ∀ first octet r, l = first :: octet :: r → octet ≥ 0x80 ∧ r = []

def TpduShort (type : ℕ) (l : List UInt8) : Prop :=
  match type with
  | 0 | 3 => l.length < 3
  | 1 => SubmitReportShort l
  | 2 => l.length < 4
  | 4 => DeliverReportShort l
  | 5 => l.length < 4
  | 6 => l.length < 7
  | _ => False

variable {left : ℤ}

lemma decodeDeliverReport_neg (hleft : left < 0) :
    decodeDeliverReport ⟨l, left⟩ = .fault ↔ DeliverReportShort l := by
  unfold decodeDeliverReport DeliverReportShort
  rw [nextOctet_bind_fault_neg hleft]
  have hbody : ∀ octet r,
      (if octet ≥ 0x80 then ∀ pi r', r = pi :: r' → r'.length < piOctets (pi &&& 0x07)
        else r.length < piOctets (octet &&& 0x07)) ↔
      (if octet ≥ 0x80 then ∀ pi r', r = pi :: r' →
          decodePiFields 158 (pi &&& 0x07) ⟨r', left - 1 - 1 - 1⟩ = .fault
        else decodePiFields 159 (octet &&& 0x07) ⟨r, left - 1 - 1⟩ = .fault) := by
    intro octet r
    split
    · simp only [readsBlind_pi _ _ _ (left - 1 - 1 - 1) (by omega)]
    · rw [readsBlind_pi _ _ _ _ (by omega)]
  simp only [hbody]
  constructor
  · rintro h first octet r rfl
    have h := (nextOctet_bind_fault_neg (by omega)).mp (h first _ rfl) octet r rfl
    by_cases hfcs : octet ≥ 0x80
    · rw [if_pos hfcs] at h ⊢
      intro pi r' hr
      exact bind_pure_fault.mp ((nextOctet_bind_fault_neg (by omega)).mp h pi r' hr)
    · rw [if_neg hfcs] at h ⊢
      exact bind_pure_fault.mp h
  · rintro h first m rfl
    refine (nextOctet_bind_fault_neg (by omega)).mpr ?_
    rintro octet r rfl
    have h := h first octet r rfl
    by_cases hfcs : octet ≥ 0x80
    · rw [if_pos hfcs] at h ⊢
      refine (nextOctet_bind_fault_neg (by omega)).mpr ?_
      intro pi r' hr
      exact bind_pure_fault.mpr (h pi r' hr)
    · rw [if_neg hfcs] at h ⊢
      exact bind_pure_fault.mpr h

lemma decodeSubmitReport_neg (hleft : left < 0) :
    decodeSubmitReport ⟨l, left⟩ = .fault ↔ SubmitReportShort l := by
  unfold decodeSubmitReport SubmitReportShort
  rw [nextOctet_bind_fault_neg hleft]
  constructor
  · rintro h first octet r rfl
    have h := (nextOctet_bind_fault_neg (by omega)).mp (h first _ rfl) octet r rfl
    by_cases hfcs : octet ≥ 0x80
    · rw [if_pos hfcs] at h
      refine ⟨hfcs, ?_⟩
      have hlen := (StopsBlind.readsBlind (stopsBlind_nextOctet fun pi =>
        stopsBlind_scts.bind _) r _ (by omega)).mp h
      exact List.eq_nil_of_length_eq_zero (by omega)
    · rw [if_neg hfcs] at h
      have hlen := ((stopsBlind_scts.bind _).readsBlind r _ (by omega)).mp h
      omega
  · rintro h first m rfl
    refine (nextOctet_bind_fault_neg (by omega)).mpr ?_
    rintro octet r rfl
    rcases h first octet r rfl with ⟨hfcs, rfl⟩
    rw [if_pos hfcs]
    exact (nextOctet_bind_fault_neg (by omega)).mpr (by simp)

/-- With a negative length, the decoders fault where the octets they read are not
there. -/
lemma decodeTpdu_neg (type : ℕ) {l : List UInt8} (hleft : left < 0) :
    decodeTpdu type ⟨l, left⟩ = .fault ↔ TpduShort type l := by
  have hdeliver : ReadsBlind decodeDeliver 3 :=
    (stopsBlind_nextOctet fun _ => stopsBlind_address.bind _).readsBlind
  have hstatus : ReadsBlind decodeStatusReport 4 :=
    (stopsBlind_nextOctet fun _ => stopsBlind_nextOctet fun _ =>
      stopsBlind_address.bind _).readsBlind
  have hsubmit : ReadsBlind decodeSubmit 4 :=
    (stopsBlind_nextOctet fun _ => stopsBlind_nextOctet fun _ =>
      stopsBlind_address.bind _).readsBlind
  have hcommand : ReadsBlind decodeCommand 7 :=
    (stopsBlind_nextOctet fun _ => stopsBlind_nextOctet fun _ => stopsBlind_nextOctet fun _ =>
      stopsBlind_nextOctet fun _ => stopsBlind_nextOctet fun _ =>
        stopsBlind_address.bind _).readsBlind
  unfold decodeTpdu TpduShort
  split
  · exact bind_pure_fault.trans (hdeliver l left hleft)
  · exact decodeSubmitReport_neg hleft
  · exact bind_pure_fault.trans (hstatus l left hleft)
  · exact bind_pure_fault.trans (hdeliver l left hleft)
  · exact decodeDeliverReport_neg hleft
  · exact bind_pure_fault.trans (hsubmit l left hleft)
  · exact bind_pure_fault.trans (hcommand l left hleft)
  · simp_all

/-! ## The whole PDU -/

/-- What is behind the service centre address makes `sms_decode` fault: there is no
octet to take the message type from, or the decoder for that type faults. -/
def TpduFaults (outgoing : Bool) (tpduLen : ℤ) (l : List UInt8) : Prop :=
  tpduLen ≤ l.length ∧ ∀ first r, l = first :: r →
    if 0 ≤ tpduLen then TpduOverrun (messageType first outgoing) (l.take tpduLen.toNat)
    else TpduShort (messageType first outgoing) l

/-- The PDUs on which `sms_decode` leaves an array. -/
def Overruns (pdu : List UInt8) (outgoing : Bool) (tpduLen : ℤ) : Prop :=
  pdu ≠ [] ∧
    if tpduLen < pdu.length then
      OverlongAddress true pdu ∨
        ∃ scAddr rest, AddressAt true pdu scAddr rest ∧ TpduFaults outgoing tpduLen rest
    else TpduFaults outgoing tpduLen pdu

lemma decodeAt_fault (outgoing : Bool) (tpduLen : ℤ) (scAddr : SmsAddress) (l : List UInt8) :
    decodeAt outgoing tpduLen scAddr (on l []) = .fault ↔ TpduFaults outgoing tpduLen l := by
  unfold decodeAt TpduFaults
  by_cases hlen : (on l []).left < tpduLen
  · have hlt : ¬ tpduLen ≤ l.length := by
      simp only [on] at hlen
      omega
    rw [if_pos hlen]
    simp [hlt]
  · have hle : tpduLen ≤ l.length := by
      simp only [on] at hlen
      omega
    rw [if_neg hlen]
    cases l with
    | nil => simpa [on] using hle
    | cons first r =>
      -- putting the address to the message adds no fault
      have hrun : ∀ x : Outcome (SmsMessage × Cursor),
          (x >>= fun r => pure (⟨scAddr, r.1⟩ : Sms)) = .fault ↔ x = .fault := by
        intro x
        cases x <;> simp
      simp only [on, List.append_nil, hrun, hle, true_and]
      have hall : ∀ P : UInt8 → Prop,
          (∀ first' r', first :: r = first' :: r' → P first') ↔ P first := by
        intro P
        constructor
        · intro h
          exact h first r rfl
        · intro h first' r' heq
          cases heq
          exact h
      rw [hall fun first' => if 0 ≤ tpduLen then
        TpduOverrun (messageType first' outgoing) ((first :: r).take tpduLen.toNat)
        else TpduShort (messageType first' outgoing) (first :: r)]
      by_cases hpos : 0 ≤ tpduLen
      · -- the rest of the message is behind the length
        have htake : ((first :: r).take tpduLen.toNat).length = tpduLen.toNat := by
          rw [List.length_take]
          omega
        have hcursor : (⟨first :: r, tpduLen⟩ : Cursor) =
            on ((first :: r).take tpduLen.toNat) ((first :: r).drop tpduLen.toNat) := by
          rw [on, htake, List.take_append_drop, Int.toNat_of_nonneg hpos]
        rw [if_pos hpos, hcursor, decodeTpdu_fault]
      · -- a length below zero leaves no octet of the message in front of the end
        rw [if_neg hpos, decodeTpdu_neg _ (by omega)]

/-- `sms_decode` stays inside of its arrays exactly on the PDUs that have no overrun. -/
theorem sms_decode_in_bounds_iff (pdu : List UInt8) (outgoing : Bool) (tpduLen : ℤ) :
    smsDecode pdu outgoing tpduLen ≠ .fault ↔ ¬ Overruns pdu outgoing tpduLen := by
  refine not_congr ?_
  unfold smsDecode Overruns
  cases hpdu : pdu with
  | nil => simp
  | cons b l =>
    rw [← hpdu]
    have hne : pdu ≠ [] := by simp [hpdu]
    have hlen : pdu.length ≠ 0 := by simp [hpdu]
    have hcursor : (⟨pdu, pdu.length⟩ : Cursor) = on pdu [] := by simp [on]
    rw [if_neg hlen, hcursor]
    simp only [hne, ne_eq, not_false_eq_true, true_and]
    by_cases hsc : tpduLen < pdu.length
    · -- the service centre stands in front, and its address may overrun itself
      rw [if_pos hsc, if_pos hsc]
      rw [Outcome.bind_eq_fault, smsDecodeAddressField_fault]
      constructor
      · rintro (hlong | ⟨⟨scAddr, c⟩, hrun, hfault⟩)
        · exact .inl hlong
        · rcases (smsDecodeAddressField_ok true pdu [] scAddr c).mp hrun with ⟨rest, hat, rfl⟩
          exact .inr ⟨scAddr, rest, hat, (decodeAt_fault _ _ _ _).mp hfault⟩
      · rintro (hlong | ⟨scAddr, rest, hat, hfaults⟩)
        · exact .inl hlong
        · exact .inr ⟨(scAddr, on rest []), hat.run [], (decodeAt_fault _ _ _ _).mpr hfaults⟩
    · rw [if_neg hsc, if_neg hsc]
      exact decodeAt_fault outgoing tpduLen .zero pdu

/-- A deliver of 141 octets of user data is copied behind the end of `ud`. -/
theorem deliver_overruns_ud : smsDecode ([0, 0x04, 0, 0x81, 0, 4] ++
    (List.replicate 7 0 ++ 141 :: List.replicate 141 0)) false 154 = .fault := by
  decide +kernel

end Phonelets.Sms
