import Phonelets.Sms.Tpdu

/-! # Encode, then decode

What `sms_decode` makes of the output of `sms_encode`, for a message whose fields are
in range: the message itself, up to what its TPDU does not carry, and but for the two
flags that a status report is encoded with the wrong way round.
-/

namespace Phonelets.Sms

open List
open Decoder

/-! ## Messages in range -/

structure SmsDeliver.InRange (m : SmsDeliver) : Prop where
  oaddr : m.oaddr.Numeric
  scts : m.scts.Valid
  ud : smsUdlInBytes m.udl m.dcs ≤ 140

structure SmsSubmit.InRange (m : SmsSubmit) : Prop where
  daddr : m.daddr.Numeric
  vp : m.vp.Valid
  ud : smsUdlInBytes m.udl m.dcs ≤ 140

structure SmsCommand.InRange (m : SmsCommand) : Prop where
  daddr : m.daddr.Numeric
  cd : m.cdl ≤ 156

/-- The indicator has no other bits, and the fields that it does not cover are zero. -/
structure PiFields.InRange {size : ℕ} (pi : UInt8) (f : PiFields size) : Prop where
  pi_le : pi ≤ 7
  pid : hasPid pi = false → f.pid = 0
  dcs : hasDcs pi = false → f.dcs = 0
  ud : hasUd pi = false → f.udl = 0 ∧ f.ud = Buf.zero size
  fits : smsUdlInBytes f.udl f.dcs ≤ size

structure SmsDeliverAckReport.InRange (m : SmsDeliverAckReport) : Prop where
  fields : PiFields.InRange m.pi ⟨m.pid, m.dcs, m.udl, m.ud⟩

structure SmsDeliverErrReport.InRange (m : SmsDeliverErrReport) : Prop where
  fcs : 0x80 ≤ m.fcs
  fields : PiFields.InRange m.pi ⟨m.pid, m.dcs, m.udl, m.ud⟩

structure SmsSubmitAckReport.InRange (m : SmsSubmitAckReport) : Prop where
  scts : m.scts.Valid
  fields : PiFields.InRange m.pi ⟨m.pid, m.dcs, m.udl, m.ud⟩

structure SmsSubmitErrReport.InRange (m : SmsSubmitErrReport) : Prop where
  fcs : 0x80 ≤ m.fcs
  scts : m.scts.Valid
  fields : PiFields.InRange m.pi ⟨m.pid, m.dcs, m.udl, m.ud⟩

structure SmsStatusReport.InRange (m : SmsStatusReport) : Prop where
  raddr : m.raddr.Numeric
  scts : m.scts.Valid
  dt : m.dt.Valid
  fields : PiFields.InRange m.pi ⟨m.pid, m.dcs, m.udl, m.ud⟩

def SmsMessage.InRange : SmsMessage → Prop
  | .deliver m => m.InRange
  | .deliverReportAck m => m.InRange
  | .deliverReportError m => m.InRange
  | .statusReport m => m.InRange
  | .submit m => m.InRange
  | .submitReportAck m => m.InRange
  | .submitReportError m => m.InRange
  | .command m => m.InRange

structure Sms.InRange (s : Sms) : Prop where
  scAddr : s.scAddr.Numeric
  message : s.message.InRange

/-- The direction of a message: `TRUE` is from the mobile to the service centre. -/
def SmsMessage.outgoing : SmsMessage → Bool
  | .deliver _ | .statusReport _ | .submitReportAck _ | .submitReportError _ => false
  | .submit _ | .command _ | .deliverReportAck _ | .deliverReportError _ => true

/-! ## What is decoded -/

/-- The message that is decoded from an encoded one. -/
def SmsMessage.readBack : SmsMessage → SmsMessage
  | .deliver m =>
    .deliver { m with
      oaddr := m.oaddr.readBack false
      ud := clearUd m.ud (smsUdlInBytes m.udl m.dcs) }
  | .deliverReportAck m =>
    .deliverReportAck { m with ud := clearUd m.ud (smsUdlInBytes m.udl m.dcs) }
  | .deliverReportError m =>
    .deliverReportError { m with ud := clearUd m.ud (smsUdlInBytes m.udl m.dcs) }
  | .statusReport m =>
    .statusReport { m with
      srq := !m.srq
      udhi := !m.udhi
      raddr := m.raddr.readBack false
      ud := clearUd m.ud (smsUdlInBytes m.udl m.dcs) }
  | .submit m =>
    .submit { m with
      daddr := m.daddr.readBack false
      ud := clearUd m.ud (smsUdlInBytes m.udl m.dcs) }
  | .submitReportAck m =>
    .submitReportAck { m with ud := clearUd m.ud (smsUdlInBytes m.udl m.dcs) }
  | .submitReportError m =>
    .submitReportError { m with ud := clearUd m.ud (smsUdlInBytes m.udl m.dcs) }
  | .command m =>
    .command { m with
      daddr := m.daddr.readBack false
      cd := clearUd m.cd m.cdl.toNat }

def Sms.readBack (s : Sms) : Sms where
  scAddr := if s.message.hasScAddr then s.scAddr.readBack true else .zero
  message := s.message.readBack

/-! ## Fields -/

variable {size : ℕ}

lemma decodeUd_take {n : ℕ} (ud : Buf size) (h : n ≤ size) (extra : List UInt8) : decodeUd size n
    (on (ud.octets.take n) extra) = .ok (clearUd ud n, on (ud.octets.take n) extra) := by
  have hlen : (ud.octets.take n).length = n := (encodeUd_ok ud h).2
  rcases decodeUd_run (show n ≤ (ud.octets.take n).length by omega) h extra with ⟨ud', hrun, hoct⟩
  have heq : ud' = clearUd ud n := by
    apply Buf.ext
    rw [hoct, take_take, Nat.min_self]
    rfl
  rw [hrun, heq]

lemma clearUd_zero : clearUd (Buf.zero size) 0 = Buf.zero size := by
  apply Buf.ext
  simp [clearUd, Buf.zero]

lemma decodeIf_present {present : Bool} {v : UInt8} (h : present = false → v = 0)
    (m extra : List UInt8) :
    decodeIf present (on ((if present then [v] else []) ++ m) extra) = .ok (v, on m extra) := by
  refine (decodeIf_ok _ _ _ _ _).mpr ⟨m, ?_, rfl⟩
  cases present with
  | true => simp [OctetIf]
  | false => simp [OctetIf, h]

lemma smsUdlInBytes_zero : ∀ dcs, smsUdlInBytes 0 dcs = 0 :=
  octet_forall (by decide)

lemma encodePiFields_inRange {pi : UInt8} {f : PiFields size} (h : f.InRange pi) :
    ∃ l, encodePiFields pi f = .ok l ∧ ∀ extra, ∃ c, decodePiFields size pi (on l extra) =
      .ok (⟨f.pid, f.dcs, f.udl, clearUd f.ud (smsUdlInBytes f.udl f.dcs)⟩, c) := by
  rcases encodeUd_ok f.ud h.fits with ⟨hud, hlen⟩
  cases hpresent : hasUd pi with
  | true =>
    refine ⟨(if hasPid pi then [f.pid] else []) ++ ((if hasDcs pi then [f.dcs] else []) ++
      f.udl :: f.ud.octets.take (smsUdlInBytes f.udl f.dcs)), ?_, ?_⟩
    · simp [encodePiFields, hpresent, hud]
    · intro extra
      unfold decodePiFields
      rw [bind_of_ok (decodeIf_present h.pid _ _), bind_of_ok (decodeIf_present h.dcs _ _),
        hpresent, if_pos rfl, nextOctet_bind_cons, bind_of_ok (decodeUd_take f.ud h.fits extra)]
      exact ⟨_, rfl⟩
  | false =>
    rcases h.ud hpresent with ⟨hudl, hzero⟩
    have hnone : smsUdlInBytes f.udl f.dcs = 0 := by
      rw [hudl]
      exact smsUdlInBytes_zero f.dcs
    refine ⟨(if hasPid pi then [f.pid] else []) ++ (if hasDcs pi then [f.dcs] else []), ?_, ?_⟩
    · simp [encodePiFields, hpresent]
    · intro extra
      have hdcs := decodeIf_present h.dcs [] extra
      rw [append_nil] at hdcs
      unfold decodePiFields
      rw [bind_of_ok (decodeIf_present h.pid _ _), bind_of_ok hdcs, hpresent,
        if_neg (by decide), hnone, hzero, clearUd_zero, hudl]
      exact ⟨_, rfl⟩

lemma pi_mask : ∀ pi : UInt8, pi ≤ 7 → pi &&& 0x07 = pi ∧ ¬ pi ≥ 0x80 :=
  octet_forall (by decide)

/-! ## One message type after the other -/

/-- The decoder `d` reads what an encoder has written, as `a`; the first octet is that of
message type `type` in its direction. -/
def Comes {α : Type} (l : Outcome (List UInt8)) (outgoing : Bool) (type : ℕ) (d : Decoder α)
    (a : α) : Prop :=
  ∃ first r, l = .ok (first :: r) ∧ messageType first outgoing = type ∧
    ∃ c, d (on (first :: r) []) = .ok (a, c)

lemma deliver_flags : ∀ mms sri rp udhi : Bool,
    let oct := setBit (setBit (setBit (setBit 0 (!mms) 2) sri 5) rp 7) udhi 6
    messageType oct false = 0 ∧ (!isBitSet oct 2) = mms ∧ isBitSet oct 5 = sri ∧
      isBitSet oct 7 = rp ∧ isBitSet oct 6 = udhi := by
  decide

lemma encodeDeliver_comes {m : SmsDeliver} (h : m.InRange) :
    Comes (encodeDeliver m) false 0 decodeDeliver
      { m with
        oaddr := m.oaddr.readBack false
        ud := clearUd m.ud (smsUdlInBytes m.udl m.dcs) } := by
  rcases smsEncodeAddressField_numeric h.oaddr false with ⟨oaddr, hoaddr, hoaddrAt⟩
  rcases smsEncodeScts_valid h.scts with ⟨scts, hscts, -, hsctsAt⟩
  rcases encodeUd_ok m.ud h.ud with ⟨hud, -⟩
  have hflags := deliver_flags m.mms m.sri m.rp m.udhi
  generalize hoct : setBit (setBit (setBit (setBit 0 (!m.mms) 2) m.sri 5) m.rp 7) m.udhi 6 = oct
    at hflags
  rcases hflags with ⟨htype, hmms, hsri, hrp, hudhi⟩
  have henc : encodeDeliver m = .ok (oct :: (oaddr ++ m.pid :: m.dcs ::
      (scts ++ m.udl :: m.ud.octets.take (smsUdlInBytes m.udl m.dcs)))) := by
    simp [encodeDeliver, hoaddr, hscts, hud, hoct]
  refine ⟨oct, _, henc, htype, ?_⟩
  unfold decodeDeliver
  rw [nextOctet_bind_cons, bind_of_ok ((hoaddrAt _).run _), nextOctet_bind_cons,
    nextOctet_bind_cons, bind_of_ok ((hsctsAt _).run _), nextOctet_bind_cons,
    bind_of_ok (decodeUd_take m.ud h.ud []), hmms, hsri, hrp, hudhi]
  exact ⟨_, rfl⟩

lemma submit_flags : ∀ rd rp udhi srr : Bool, ∀ vpf < 4,
    let octet := submitOctet rd rp vpf udhi srr
    messageType octet true = 5 ∧ isBitSet octet 2 = rd ∧ isBitSet octet 7 = rp ∧
      isBitSet octet 6 = udhi ∧ isBitSet octet 5 = srr ∧ bitField octet 3 2 = vpf := by
  decide

lemma vpf_lt (vp : ValidityPeriod) : vp.vpf < 4 := by
  cases vp <;> simp [ValidityPeriod.vpf]

lemma decodeSubmitUd_take {n : ℕ} (ud : Buf 140) (h : n ≤ 140) (extra : List UInt8) : decodeSubmitUd
    n (on (ud.octets.take n) extra) = .ok (clearUd ud n, on (ud.octets.take n) extra) := by
  have hlen : (ud.octets.take n).length = n := (encodeUd_ok ud h).2
  unfold decodeSubmitUd
  rw [need_bind (by omega), decide_eq_true h, bind_of_ok (check_true _), decodeUd_take ud h]

lemma encodeSubmit_comes {m : SmsSubmit} (h : m.InRange) :
    Comes (encodeSubmit m) true 5 decodeSubmit
      { m with
        daddr := m.daddr.readBack false
        ud := clearUd m.ud (smsUdlInBytes m.udl m.dcs) } := by
  rcases smsEncodeAddressField_numeric h.daddr false with ⟨daddr, hdaddr, hdaddrAt⟩
  rcases encodeValidityPeriod_valid h.vp with ⟨vp, hvp, hvpAt⟩
  rcases encodeUd_ok m.ud h.ud with ⟨hud, -⟩
  have hflags := submit_flags m.rd m.rp m.udhi m.srr m.vp.vpf (vpf_lt m.vp)
  generalize hoct : submitOctet m.rd m.rp m.vp.vpf m.udhi m.srr = octet at hflags
  rcases hflags with ⟨htype, hrd, hrp, hudhi, hsrr, hvpf⟩
  have henc : encodeSubmit m = .ok (octet :: m.mr :: (daddr ++ m.pid :: m.dcs ::
      (vp ++ m.udl :: m.ud.octets.take (smsUdlInBytes m.udl m.dcs)))) := by
    simp [encodeSubmit, hdaddr, hvp, hud, hoct]
  refine ⟨octet, _, henc, htype, ?_⟩
  unfold decodeSubmit
  rw [nextOctet_bind_cons, nextOctet_bind_cons, bind_of_ok ((hdaddrAt _).run _),
    nextOctet_bind_cons, nextOctet_bind_cons, hvpf, bind_of_ok ((hvpAt _).run _),
    nextOctet_bind_cons, bind_of_ok (decodeSubmitUd_take m.ud h.ud []), hrd, hrp, hudhi, hsrr]
  exact ⟨_, rfl⟩

lemma command_flags : ∀ udhi srr : Bool,
    let octet := setBit (setBit 0x2 udhi 6) srr 5
    messageType octet true = 6 ∧ isBitSet octet 6 = udhi ∧ isBitSet octet 5 = srr := by
  decide

lemma encodeCommand_comes {m : SmsCommand} (h : m.InRange) : Comes (encodeCommand m) true 6
    decodeCommand { m with daddr := m.daddr.readBack false, cd := clearUd m.cd m.cdl.toNat } := by
  have hcd : m.cdl.toNat ≤ 156 := UInt8.le_iff_toNat_le.mp h.cd
  rcases smsEncodeAddressField_numeric h.daddr false with ⟨daddr, hdaddr, hdaddrAt⟩
  rcases encodeUd_ok m.cd hcd with ⟨hud, -⟩
  have hflags := command_flags m.udhi m.srr
  generalize hoct : setBit (setBit 0x2 m.udhi 6) m.srr 5 = octet at hflags
  rcases hflags with ⟨htype, hudhi, hsrr⟩
  have henc : encodeCommand m = .ok (octet :: m.mr :: m.pid :: m.ct :: m.mn ::
      (daddr ++ m.cdl :: m.cd.octets.take m.cdl.toNat)) := by
    simp [encodeCommand, hdaddr, hud, hoct]
  refine ⟨octet, _, henc, htype, ?_⟩
  unfold decodeCommand
  rw [nextOctet_bind_cons, nextOctet_bind_cons, nextOctet_bind_cons, nextOctet_bind_cons,
    nextOctet_bind_cons, bind_of_ok ((hdaddrAt _).run _), nextOctet_bind_cons,
    bind_of_ok (decodeUd_take m.cd hcd []), hudhi, hsrr]
  exact ⟨_, rfl⟩

lemma report_flags : ∀ udhi : Bool,
    isBitSet (setBit 0 udhi 6) 6 = udhi ∧ messageType (setBit 0 udhi 6) true = 4 ∧
      isBitSet (setBit 1 udhi 6) 6 = udhi ∧ messageType (setBit 1 udhi 6) false = 1 := by
  decide

lemma encodeDeliverAckReport_comes {m : SmsDeliverAckReport} (h : m.InRange) :
    Comes (encodeDeliverAckReport m) true 4 decodeDeliverReport
      (.deliverReportAck { m with ud := clearUd m.ud (smsUdlInBytes m.udl m.dcs) }) := by
  rcases encodePiFields_inRange h.fields with ⟨l, hl, hread⟩
  rcases report_flags m.udhi with ⟨hudhi, htype, -, -⟩
  rcases pi_mask m.pi h.fields.pi_le with ⟨hpi, hack⟩
  rcases hread [] with ⟨c, hc⟩
  refine ⟨setBit 0 m.udhi 6, m.pi :: l, by simp [encodeDeliverAckReport, hl], htype, ?_⟩
  unfold decodeDeliverReport
  rw [nextOctet_bind_cons, nextOctet_bind_cons, if_neg hack, hpi, bind_of_ok hc, hudhi]
  exact ⟨_, rfl⟩

lemma encodeDeliverErrReport_comes {m : SmsDeliverErrReport} (h : m.InRange) :
    Comes (encodeDeliverErrReport m) true 4 decodeDeliverReport
      (.deliverReportError { m with ud := clearUd m.ud (smsUdlInBytes m.udl m.dcs) }) := by
  rcases encodePiFields_inRange h.fields with ⟨l, hl, hread⟩
  rcases report_flags m.udhi with ⟨hudhi, htype, -, -⟩
  rcases pi_mask m.pi h.fields.pi_le with ⟨hpi, -⟩
  rcases hread [] with ⟨c, hc⟩
  refine ⟨setBit 0 m.udhi 6, m.fcs :: m.pi :: l, by simp [encodeDeliverErrReport, hl], htype, ?_⟩
  unfold decodeDeliverReport
  rw [nextOctet_bind_cons, nextOctet_bind_cons, if_pos h.fcs, nextOctet_bind_cons, hpi,
    bind_of_ok hc, hudhi]
  exact ⟨_, rfl⟩

lemma encodeSubmitAckReport_comes {m : SmsSubmitAckReport} (h : m.InRange) :
    Comes (encodeSubmitAckReport m) false 1 decodeSubmitReport
      (.submitReportAck { m with ud := clearUd m.ud (smsUdlInBytes m.udl m.dcs) }) := by
  rcases encodePiFields_inRange h.fields with ⟨l, hl, hread⟩
  rcases smsEncodeScts_valid h.scts with ⟨scts, hscts, -, hsctsAt⟩
  rcases report_flags m.udhi with ⟨-, -, hudhi, htype⟩
  rcases pi_mask m.pi h.fields.pi_le with ⟨hpi, hack⟩
  rcases hread [] with ⟨c, hc⟩
  refine ⟨setBit 1 m.udhi 6, m.pi :: (scts ++ l), by simp [encodeSubmitAckReport, hscts, hl],
    htype, ?_⟩
  unfold decodeSubmitReport
  rw [nextOctet_bind_cons, nextOctet_bind_cons, if_neg hack, hpi, bind_of_ok ((hsctsAt _).run _),
    bind_of_ok hc, hudhi]
  exact ⟨_, rfl⟩

lemma encodeSubmitErrReport_comes {m : SmsSubmitErrReport} (h : m.InRange) :
    Comes (encodeSubmitErrReport m) false 1 decodeSubmitReport
      (.submitReportError { m with ud := clearUd m.ud (smsUdlInBytes m.udl m.dcs) }) := by
  rcases encodePiFields_inRange h.fields with ⟨l, hl, hread⟩
  rcases smsEncodeScts_valid h.scts with ⟨scts, hscts, -, hsctsAt⟩
  rcases report_flags m.udhi with ⟨-, -, hudhi, htype⟩
  rcases pi_mask m.pi h.fields.pi_le with ⟨hpi, -⟩
  rcases hread [] with ⟨c, hc⟩
  refine ⟨setBit 1 m.udhi 6, m.fcs :: m.pi :: (scts ++ l),
    by simp [encodeSubmitErrReport, hscts, hl], htype, ?_⟩
  unfold decodeSubmitReport
  rw [nextOctet_bind_cons, nextOctet_bind_cons, if_pos h.fcs, nextOctet_bind_cons, hpi,
    bind_of_ok ((hsctsAt _).run _), bind_of_ok hc, hudhi]
  exact ⟨_, rfl⟩

lemma status_flags : ∀ mms srq udhi : Bool,
    let octet := setBit (setBit (setBit 0x2 (!mms) 2) (!srq) 5) (!udhi) 6
    messageType octet false = 2 ∧ (!isBitSet octet 2) = mms ∧ isBitSet octet 5 = !srq ∧
      isBitSet octet 6 = !udhi := by
  decide

lemma encodeStatusReport_comes {m : SmsStatusReport} (h : m.InRange) :
    Comes (encodeStatusReport m) false 2 decodeStatusReport
      { m with
        srq := !m.srq
        udhi := !m.udhi
        raddr := m.raddr.readBack false
        ud := clearUd m.ud (smsUdlInBytes m.udl m.dcs) } := by
  rcases smsEncodeAddressField_numeric h.raddr false with ⟨raddr, hraddr, hraddrAt⟩
  rcases smsEncodeScts_valid h.scts with ⟨scts, hscts, -, hsctsAt⟩
  rcases smsEncodeScts_valid h.dt with ⟨dt, hdt, -, hdtAt⟩
  rcases encodePiFields_inRange h.fields with ⟨l, hl, hread⟩
  rcases pi_mask m.pi h.fields.pi_le with ⟨hpi, -⟩
  have hflags := status_flags m.mms m.srq m.udhi
  -- from here on the first octet is known by its flags only
  generalize hoct : setBit (setBit (setBit 0x2 (!m.mms) 2) (!m.srq) 5) (!m.udhi) 6 = octet
    at hflags
  rcases hflags with ⟨htype, hmms, hsrq, hudhi⟩
  by_cases hzero : m.pi = 0
  · -- without an indicator the message ends at the status
    have hpid : m.pid = 0 := h.fields.pid (by rw [hzero]; rfl)
    have hdcs : m.dcs = 0 := h.fields.dcs (by rw [hzero]; rfl)
    rcases h.fields.ud (by rw [hzero]; rfl) with ⟨hudl, hud⟩
    have henc : encodeStatusReport m =
        .ok (octet :: m.mr :: (raddr ++ (scts ++ (dt ++ [m.st])))) := by
      simp [encodeStatusReport, hraddr, hscts, hdt, hzero, hoct]
    refine ⟨octet, _, henc, htype, ?_⟩
    unfold decodeStatusReport
    rw [nextOctet_bind_cons, nextOctet_bind_cons, bind_of_ok ((hraddrAt _).run _),
      bind_of_ok ((hsctsAt _).run _), bind_of_ok ((hdtAt _).run _), nextOctet_bind_cons,
      bind_of_ok (atEnd_nil _), if_pos rfl, hmms, hsrq, hudhi]
    simp only at hudl hud
    rw [hzero, hpid, hdcs, hudl, hud, smsUdlInBytes_zero, clearUd_zero]
    exact ⟨_, rfl⟩
  · have henc : encodeStatusReport m =
        -- behind an indicator stand the fields that it announces
        .ok (octet :: m.mr :: (raddr ++ (scts ++ (dt ++ m.st :: m.pi :: l)))) := by
      simp [encodeStatusReport, hraddr, hscts, hdt, hzero, hoct, hl]
    rcases hread [] with ⟨c, hc⟩
    refine ⟨octet, _, henc, htype, ?_⟩
    unfold decodeStatusReport
    rw [nextOctet_bind_cons, nextOctet_bind_cons, bind_of_ok ((hraddrAt _).run _),
      bind_of_ok ((hsctsAt _).run _), bind_of_ok ((hdtAt _).run _), nextOctet_bind_cons,
      bind_of_ok (atEnd_cons _ _ _), if_neg (by decide), nextOctet_bind_cons, hpi, bind_of_ok hc,
      hmms, hsrq, hudhi]
    exact ⟨_, rfl⟩

/-! ## The whole message -/

/-- `decodeTpdu` reads the encoding of a message in range. -/
lemma encodeTpdu_comes {m : SmsMessage} (h : m.InRange) :
    ∃ type, Comes (encodeTpdu m) m.outgoing type (decodeTpdu type) m.readBack := by
  cases m with
  | deliver m =>
    rcases encodeDeliver_comes h with ⟨first, r, henc, htype, c, hdec⟩
    exact ⟨0, first, r, henc, htype, c, bind_of_ok hdec⟩
  | deliverReportAck m => exact ⟨4, encodeDeliverAckReport_comes h⟩
  | deliverReportError m => exact ⟨4, encodeDeliverErrReport_comes h⟩
  | statusReport m =>
    rcases encodeStatusReport_comes h with ⟨first, r, henc, htype, c, hdec⟩
    exact ⟨2, first, r, henc, htype, c, bind_of_ok hdec⟩
  | submit m =>
    rcases encodeSubmit_comes h with ⟨first, r, henc, htype, c, hdec⟩
    exact ⟨5, first, r, henc, htype, c, bind_of_ok hdec⟩
  | submitReportAck m => exact ⟨1, encodeSubmitAckReport_comes h⟩
  | submitReportError m => exact ⟨1, encodeSubmitErrReport_comes h⟩
  | command m =>
    rcases encodeCommand_comes h with ⟨first, r, henc, htype, c, hdec⟩
    exact ⟨6, first, r, henc, htype, c, bind_of_ok hdec⟩

lemma decodeAt_comes {m : SmsMessage} {tpdu : List UInt8} (htpdu : encodeTpdu m = .ok tpdu)
    (h : m.InRange) (scAddr : SmsAddress) :
    tpdu ≠ [] ∧ decodeAt m.outgoing tpdu.length scAddr (on tpdu []) = .ok ⟨scAddr, m.readBack⟩ := by
  rcases encodeTpdu_comes h with ⟨type, first, r, henc, htype, c, hdec⟩
  rw [htpdu] at henc
  cases henc
  refine ⟨cons_ne_nil _ _, ?_⟩
  unfold decodeAt
  have hcursor : on (first :: r) [] = ⟨first :: r, (first :: r).length⟩ := by simp [on]
  rw [hcursor] at hdec ⊢
  simp only [Int.lt_irrefl, if_false, htype, hdec]
  rfl

lemma addressAt_ne_nil {sc : Bool} {l : List UInt8} {a : SmsAddress} {rest : List UInt8}
    (h : AddressAt sc l a rest) : l ≠ [] := by
  cases h <;> exact cons_ne_nil _ _

/-- A message in range is encoded, and decoded as its `readBack`. -/
lemma smsDecode_smsEncode {s : Sms} (h : s.InRange) : ∃ pdu tpduLen, smsEncode s =
    .ok (pdu, tpduLen) ∧ smsDecode pdu s.message.outgoing tpduLen = .ok s.readBack := by
  rcases encodeTpdu_comes h.message with ⟨_, first, r, htpdu, -⟩
  have hat := fun scAddr => decodeAt_comes htpdu h.message scAddr
  cases hsc : s.message.hasScAddr with
  | true =>
    rcases smsEncodeAddressField_numeric h.scAddr true with ⟨sc, henc, hscAt⟩
    have hne : sc ≠ [] := by
      have hnil := hscAt []
      rw [append_nil] at hnil
      exact addressAt_ne_nil hnil
    have hpos : 0 < sc.length := length_pos_iff.mpr hne
    refine ⟨sc ++ first :: r, (first :: r).length, ?_, ?_⟩
    · simp [smsEncode, hsc, henc, htpdu]
    · have hlt : ((first :: r).length : ℤ) < (sc ++ first :: r).length := by
        rw [length_append]
        omega
      have hlen : (sc ++ first :: r).length ≠ 0 := by
        rw [length_append]
        omega
      have hcursor : (⟨sc ++ first :: r, (sc ++ first :: r).length⟩ : Cursor) =
          on (sc ++ first :: r) [] := by simp [on]
      unfold smsDecode
      rw [if_neg hlen, if_pos hlt, hcursor, (hscAt _).run, Outcome.ok_bind, (hat _).2]
      simp [Sms.readBack, hsc]
  | false =>
    refine ⟨first :: r, (first :: r).length, ?_, ?_⟩
    · simp [smsEncode, hsc, htpdu]
    · have hlen : (first :: r).length ≠ 0 := by simp
      have hcursor : (⟨first :: r, (first :: r).length⟩ : Cursor) = on (first :: r) [] := by
        simp [on]
      unfold smsDecode
      rw [if_neg hlen, if_neg (Int.lt_irrefl _), hcursor, (hat _).2]
      simp [Sms.readBack, hsc]

/-! ## When the message comes back -/

/-- The letters of a number are those of `digitLut`. -/
def SmsAddress.NoCapitals (a : SmsAddress) : Prop :=
  ∀ c ∈ a.address.bytes, ¬ (0x41 ≤ c ∧ c ≤ 0x43)

/-- Nothing is stored behind the first `n` octets. -/
def UdClear {size : ℕ} (ud : Buf size) (n : ℕ) : Prop := ∀ b ∈ ud.octets.drop n, b = 0

/-- A message that is not a status report and holds only what its TPDU carries. -/
def SmsMessage.ComesBack : SmsMessage → Prop
  | .deliver m => m.oaddr.NoCapitals ∧ UdClear m.ud (smsUdlInBytes m.udl m.dcs)
  | .deliverReportAck m => UdClear m.ud (smsUdlInBytes m.udl m.dcs)
  | .deliverReportError m => UdClear m.ud (smsUdlInBytes m.udl m.dcs)
  | .statusReport _ => False
  | .submit m => m.daddr.NoCapitals ∧ UdClear m.ud (smsUdlInBytes m.udl m.dcs)
  | .submitReportAck m => UdClear m.ud (smsUdlInBytes m.udl m.dcs)
  | .submitReportError m => UdClear m.ud (smsUdlInBytes m.udl m.dcs)
  | .command m => m.daddr.NoCapitals ∧ UdClear m.cd m.cdl.toNat

/-- The same, and a service centre address only where one is sent. -/
structure Sms.ComesBack (s : Sms) : Prop where
  message : s.message.ComesBack
  scAddr : s.scAddr.NoCapitals
  scAddr_sent : s.message.hasScAddr = false ∨ s.scAddr.address.bytes = [] →
    s.scAddr = SmsAddress.zero

lemma noCapitals_iff (a : SmsAddress) : a.NoCapitals ↔ ∀ c ∈ a.address.bytes, lowerDigit c = c := by
  have hlow : ∀ c, lowerDigit c = c ↔ ¬ (0x41 ≤ c ∧ c ≤ 0x43) :=
    octet_forall (by decide)
  unfold SmsAddress.NoCapitals
  simp only [hlow]

lemma clearUd_eq_iff (ud : Buf size) (n : ℕ) : clearUd ud n = ud ↔ UdClear ud n := by
  have hlen : (ud.octets.drop n).length = size - n := by rw [length_drop, ud.length_eq]
  have hoct : clearUd ud n = ud ↔ ud.octets.drop n = List.replicate (size - n) 0 := by
    constructor
    · intro h
      have heq : ud.octets.take n ++ List.replicate (size - n) 0 =
          ud.octets.take n ++ ud.octets.drop n := by
        rw [take_append_drop]
        exact congrArg Buf.octets h
      exact (append_cancel_left heq).symm
    · intro h
      apply Buf.ext
      show ud.octets.take n ++ List.replicate (size - n) 0 = ud.octets
      rw [← h, take_append_drop]
  rw [hoct, eq_replicate_iff]
  constructor
  · intro h
    exact h.2
  · intro h
    exact ⟨hlen, h⟩

lemma addr_readBack_eq_iff (a : SmsAddress) : a.readBack false = a ↔ a.NoCapitals := by
  rw [readBack_eq_iff, noCapitals_iff]
  simp

lemma SmsMessage.readBack_eq_iff (m : SmsMessage) : m.readBack = m ↔ m.ComesBack := by
  cases m with
  | deliver m =>
    cases m
    simp [SmsMessage.readBack, SmsMessage.ComesBack, addr_readBack_eq_iff, clearUd_eq_iff]
  | deliverReportAck m =>
    cases m
    simp [SmsMessage.readBack, SmsMessage.ComesBack, clearUd_eq_iff]
  | deliverReportError m =>
    cases m
    simp [SmsMessage.readBack, SmsMessage.ComesBack, clearUd_eq_iff]
  | statusReport m =>
    cases m
    simp [SmsMessage.readBack, SmsMessage.ComesBack]
  | submit m =>
    cases m
    simp [SmsMessage.readBack, SmsMessage.ComesBack, addr_readBack_eq_iff, clearUd_eq_iff]
  | submitReportAck m =>
    cases m
    simp [SmsMessage.readBack, SmsMessage.ComesBack, clearUd_eq_iff]
  | submitReportError m =>
    cases m
    simp [SmsMessage.readBack, SmsMessage.ComesBack, clearUd_eq_iff]
  | command m =>
    cases m
    simp [SmsMessage.readBack, SmsMessage.ComesBack, addr_readBack_eq_iff, clearUd_eq_iff]

lemma Sms.readBack_eq_iff (s : Sms) : s.readBack = s ↔ s.ComesBack := by
  have hparts : s.readBack = s ↔
      (if s.message.hasScAddr then s.scAddr.readBack true else .zero) = s.scAddr ∧
        s.message.readBack = s.message := by
    cases s
    simp [Sms.readBack]
  rw [hparts, SmsMessage.readBack_eq_iff]
  cases hsc : s.message.hasScAddr with
  | true =>
    rw [if_pos rfl, Phonelets.Sms.readBack_eq_iff, ← noCapitals_iff]
    constructor
    · rintro ⟨⟨hcap, hzero⟩, hm⟩
      refine ⟨hm, hcap, ?_⟩
      rintro (hnone | hempty)
      · rw [hsc] at hnone
        cases hnone
      · exact hzero rfl hempty
    · intro h
      exact ⟨⟨h.scAddr, fun _ he => h.scAddr_sent (.inr he)⟩, h.message⟩
  | false =>
    rw [if_neg (by decide)]
    constructor
    · rintro ⟨hzero, hm⟩
      refine ⟨hm, ?_, fun _ => hzero.symm⟩
      rw [← hzero]
      intro c hc
      cases hc
    · intro h
      exact ⟨(h.scAddr_sent (.inl hsc)).symm, h.message⟩

/-- A message in range comes back from its encoding exactly if it is not a status
report and holds only what its TPDU carries. -/
theorem sms_decode_encode_iff {s : Sms} (h : s.InRange) : (∃ pdu tpduLen, smsEncode s =
    .ok (pdu, tpduLen) ∧ smsDecode pdu s.message.outgoing tpduLen = .ok s) ↔ s.ComesBack := by
  rcases smsDecode_smsEncode h with ⟨pdu, tpduLen, henc, hdec⟩
  rw [← Sms.readBack_eq_iff]
  constructor
  · rintro ⟨pdu', tpduLen', henc', hdec'⟩
    rw [henc] at henc'
    cases henc'
    rw [hdec] at hdec'
    exact Outcome.ok.inj hdec'
  · intro heq
    refine ⟨pdu, tpduLen, henc, ?_⟩
    rw [hdec, heq]

/-- The digits 1 and 2. -/
def sampleDigits : CString 21 := ⟨[0x31, 0x32], by decide, by decide⟩

/-- A submit of two octets, in range: it comes back. -/
def submitSample : Sms where
  scAddr := ⟨.international, NumberingPlan.isdn, ⟨[0x34, 0x34, 0x37], by decide, by decide⟩⟩
  message := .submit
    { rd := false, rp := true, udhi := false, srr := true, mr := 7
      daddr := ⟨.unknown, NumberingPlan.isdn, sampleDigits⟩
      pid := 0, dcs := 4, vp := .relative 0xa7, udl := 2
      ud := ⟨[0x68, 0x69] ++ List.replicate 138 0, by simp⟩ }

lemma submitSample_inRange : submitSample.InRange := by
  have hnum : ∀ t ≠ NumberType.alphanumeric, ∀ s : CString 21,
      (∀ c ∈ s.bytes, toSemiOct c ≠ none) → SmsAddress.Numeric ⟨t, NumberingPlan.isdn, s⟩ :=
    fun t ht s hs => ⟨ht, hs⟩
  constructor
  · exact hnum _ (by decide) _ (by decide +kernel)
  · constructor
    · exact hnum _ (by decide) _ (by decide +kernel)
    · exact trivial
    · decide

theorem sms_decode_encode_submit :
    submitSample.InRange ∧ ((∃ pdu tpduLen, smsEncode submitSample = .ok (pdu, tpduLen) ∧ smsDecode
    pdu submitSample.message.outgoing tpduLen = .ok submitSample) ↔ submitSample.ComesBack) :=
  ⟨submitSample_inRange, sms_decode_encode_iff submitSample_inRange⟩

/-- A status report for the number 12 without a parameter indicator. -/
def statusReportSample (srq udhi : Bool) : Sms where
  scAddr := .zero
  message := .statusReport
    { udhi, mms := false, srq, mr := 7
      raddr := ⟨.unknown, NumberingPlan.isdn, ⟨[0x31, 0x32], by decide, by decide⟩⟩
      scts := ⟨13, 4, 5, 16, 0, 0, true, 4⟩
      dt := ⟨13, 4, 5, 16, 0, 9, true, 4⟩
      st := 0, pi := 0, pid := 0, dcs := 0, udl := 0, ud := Buf.zero 143 }

/-- The status report is in range, and two of its flags change on the way. -/
theorem status_report_flags_inverted : (statusReportSample false false).InRange ∧
    smsEncode (statusReportSample false false) = .ok ([0x00, 0x66, 0x07, 0x02, 0x81, 0x21, 0x31,
    0x40, 0x50, 0x61, 0x00, 0x00, 0x40, 0x31, 0x40, 0x50, 0x61, 0x00, 0x90, 0x40, 0x00], 20) ∧
    smsDecode [0x00, 0x66, 0x07, 0x02, 0x81, 0x21, 0x31, 0x40, 0x50, 0x61, 0x00, 0x00, 0x40, 0x31,
    0x40, 0x50, 0x61, 0x00, 0x90, 0x40, 0x00] false 20 = .ok (statusReportSample true true) ∧
    statusReportSample true true ≠ statusReportSample false false := by
  refine ⟨⟨⟨by decide, by decide +kernel⟩, ?_⟩, by decide, by decide, by decide⟩
  constructor
  · exact ⟨by decide, by decide +kernel⟩
  · exact ⟨by decide, by decide, by decide, by decide, by decide, by decide, rfl, by decide,
      by decide⟩
  · exact ⟨by decide, by decide, by decide, by decide, by decide, by decide, rfl, by decide,
      by decide⟩
  · exact ⟨by decide, by decide, by decide, fun _ => ⟨rfl, rfl⟩, by decide⟩

end Phonelets.Sms
