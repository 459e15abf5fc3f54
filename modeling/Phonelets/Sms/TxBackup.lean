import Mathlib.Data.List.Sort
import Phonelets.Sms.RoundTrip
import Phonelets.Sms.TxQueueRuns

/-! # The backup of the transmit queue

A message that is exposed on the bus has a directory with a file for each of its PDUs,
from which `sms_restore_tx_queue` builds the queue again after a restart. The daemon below
is the queue with its restarts, beside what the messages are known to be: their PDUs and
how many of them have been accepted.
-/

namespace Phonelets.Sms

/-! ## Reading the files -/

def smsDeserializeOutgoing : List UInt8 → Outcome Sms
  | [] => .reject
  | tpduLen :: pdu => smsDecode pdu true tpduLen.toNat

/-- The loop of `sms_tx_load` over the files of a directory, which reads 177 octets of each
and passes over those that do not decode. -/
def loadPdus : List (ℕ × List UInt8) → Outcome (List Sms)
  | [] => .ok []
  | f :: more => do
      let list ← loadPdus more
      match smsDeserializeOutgoing (f.2.take 177) with
      | .ok s => .ok (s :: list)
      | .reject => .ok list
      | .fault => .fault

/-- `sms_tx_load`; `versionsort` puts the names `%03i` in the order of their numbers. -/
def smsTxLoad (files : List (ℕ × List UInt8)) : Outcome (List Sms) :=
  loadPdus (files.insertionSort fun f g => f.1 ≤ g.1)

/-- `struct txq_backup_entry`, as it is read. -/
structure LoadedEntry where
  msgList : List Sms
  flags : SubmitFlags
  uuid : MsgId

/-- The loop of `sms_tx_queue_load`, which gives the directories numbers from `id` on. A
directory without a message is left as it is. -/
def loadDirs : TxFiles → ℕ → Outcome (List LoadedEntry × TxFiles)
  | [], _ => .ok ([], [])
  | d :: more, id => do
      let msgList ← smsTxLoad d.2
      match msgList with
      | [] => do
          let r ← loadDirs more id
          .ok (r.1, d :: r.2)
      | _ => do
          let r ← loadDirs more (id + 1)
          .ok (⟨msgList, d.1.flags, d.1.uuid⟩ :: r.1, ({ d.1 with id := id }, d.2) :: r.2)

/-- `sms_tx_queue_load`; `versionsort` puts the directories in the order of their ids. -/
def smsTxQueueLoad (files : TxFiles) : Outcome (List LoadedEntry × TxFiles) :=
  loadDirs (files.insertionSort fun d d' => d.1.id ≤ d'.1.id) 0

/-! ## Building entries -/

/-- A turn of the loop of `tx_queue_entry_new`. What `sms_encode` returns is not looked at,
and the lengths were cleared. -/
def pendingPdu (s : Sms) : Outcome PendingPdu :=
  match smsEncode s with
  | .ok (pdu, tpduLen) => .ok ⟨pdu, tpduLen⟩
  | .reject => .ok ⟨[], 0⟩
  | .fault => .fault

def pendingPdus : List Sms → Outcome (List PendingPdu)
  | [] => .ok []
  | s :: more => do
      let pdu ← pendingPdu s
      let pdus ← pendingPdus more
      .ok (pdu :: pdus)

/-- The array of `tx_queue_entry_new`. There is none for no messages, and more than 255 of
them are written behind it. -/
def txPdus (msgList : List Sms) : Outcome PduList := do
  let pdus ← pendingPdus msgList
  if h : pdus ≠ [] ∧ pdus.length ≤ 255 then .ok ⟨pdus, h.1, h.2⟩
  else if pdus = [] then .reject
  else .fault

/-- The entries of `sms_restore_tx_queue`, those for which `tx_queue_entry_new` has none
left out. -/
def txqBackups : List LoadedEntry → Outcome (List TxqBackupEntry)
  | [] => .ok []
  | entry :: more => do
      let backupq ← txqBackups more
      match txPdus entry.msgList with
      | .ok pdus => .ok (⟨pdus, entry.flags, entry.uuid⟩ :: backupq)
      | .reject => .ok backupq
      | .fault => .fault

/-- The daemon starts again on the files that there are. -/
def OfonoSms.restart (s : OfonoSms) (registered : Bool) (ref : ℕ) : Outcome OfonoSms := do
  let r ← smsTxQueueLoad s.files
  let backupq ← txqBackups r.1
  .ok (OfonoSms.start registered ref r.2 backupq)

/-! ## A PDU comes back from its file -/

lemma toSemiOct_lowerDigit : ∀ c, toSemiOct (lowerDigit c) = toSemiOct c :=
  octet_forall (by decide)

lemma semiOctets_lowerDigit (l : List UInt8) : semiOctets (l.map lowerDigit) = semiOctets l := by
  induction l using semiOctets.induct with
  | case1 => rfl
  | case2 a => simp [semiOctets, toSemiOct_lowerDigit]
  | case3 a b l ih => simp [semiOctets, toSemiOct_lowerDigit, ih]

lemma smsEncodeAddressField_readBack {a : SmsAddress} (h : a.Numeric) (sc : Bool) :
    smsEncodeAddressField (a.readBack sc) sc = smsEncodeAddressField a sc := by
  unfold SmsAddress.readBack
  by_cases hempty : sc ∧ a.address.bytes = []
  · rw [if_pos hempty]
    simp [smsEncodeAddressField, hempty.1, hempty.2, SmsAddress.zero, CString.empty]
  · rw [if_neg hempty]
    have hnum := h.1
    simp only [smsEncodeAddressField, List.length_map, semiOctets_lowerDigit, hnum, if_false]
    rfl

lemma take_clearUd {size : ℕ} (ud : Buf size) {n : ℕ} (h : n ≤ size) :
    (clearUd ud n).octets.take n = ud.octets.take n := by
  have hlength : (ud.octets.take n).length = n := by
    rw [List.length_take, ud.length_eq]
    omega
  show (ud.octets.take n ++ _).take n = _
  rw [List.take_append_of_le_length hlength.ge, List.take_of_length_le hlength.le]

/-- A submit whose fields can be encoded. -/
def Submits (s : Sms) : Prop := (∃ m, s.message = .submit m) ∧ s.InRange

variable {s : Sms}

lemma smsEncode_readBack (h : Submits s) : smsEncode s.readBack = smsEncode s := by
  rcases h with ⟨⟨m, hm⟩, hin⟩
  have hmsg := hin.message
  rw [hm] at hmsg
  have hin' : m.InRange := hmsg
  unfold smsEncode Sms.readBack
  simp only [hm, SmsMessage.readBack, SmsMessage.hasScAddr, if_true, encodeTpdu, encodeSubmit,
    smsEncodeAddressField_readBack hin.scAddr, smsEncodeAddressField_readBack hin'.daddr,
    (encodeUd_ok m.ud hin'.ud).1, (encodeUd_ok _ hin'.ud).1, take_clearUd m.ud hin'.ud]

lemma validityPeriod_length {vp : ValidityPeriod} (h : vp.Valid) {l : List UInt8}
    (hl : encodeValidityPeriod vp = .ok l) : l.length ≤ 7 := by
  cases vp with
  | absent =>
    cases hl
    exact Nat.zero_le 7
  | relative v =>
    cases hl
    show 1 ≤ 7
    omega
  | enhanced octets =>
    cases hl
    exact octets.length_eq.le
  | absolute scts =>
    rcases smsEncodeScts_valid h with ⟨l', hl', hlength, -⟩
    rw [show encodeValidityPeriod (.absolute scts) = .ok l' from hl'] at hl
    cases hl
    exact hlength.le

lemma submit_fits (h : Submits s) {pdu : List UInt8} {tpduLen : ℕ}
    (henc : smsEncode s = .ok (pdu, tpduLen)) : pdu.length ≤ 176 ∧ tpduLen ≤ 255 := by
  rcases h with ⟨⟨m, hm⟩, hin⟩
  have hmsg := hin.message
  rw [hm] at hmsg
  have hin' : m.InRange := hmsg
  rcases smsEncodeAddressField_numeric hin.scAddr true with ⟨sc, hsc, -⟩
  rcases smsEncodeAddressField_numeric hin'.daddr false with ⟨daddr, hdaddr, -⟩
  rcases encodeValidityPeriod_valid hin'.vp with ⟨vp, hvp, -⟩
  rcases encodeUd_ok m.ud hin'.ud with ⟨hud, hudLen⟩
  have hscLen := smsEncodeAddressField_length hin.scAddr hsc
  have hdaddrLen := smsEncodeAddressField_length hin'.daddr hdaddr
  have hvpLen := validityPeriod_length hin'.vp hvp
  have hscFits := s.scAddr.address.fits
  have hdaddrFits := m.daddr.address.fits
  have hudFits := hin'.ud
  unfold smsEncode at henc
  simp only [hm, SmsMessage.hasScAddr, if_true, hsc, Outcome.ok_bind, encodeTpdu, encodeSubmit,
    hdaddr, hvp, hud, Outcome.pure_eq_ok] at henc
  cases henc
  simp only [List.length_append, List.length_cons, hudLen]
  omega

/-- The PDU is built again from its file. -/
def PendingPdu.Stored (pdu : PendingPdu) : Prop :=
  ∃ s, smsDeserializeOutgoing ((UInt8.ofNat pdu.tpduLen :: pdu.pdu).take 177) = .ok s ∧
    pendingPdu s = .ok pdu

lemma stored_of_submits (h : Submits s) : ∃ pdu, pendingPdu s = .ok pdu ∧ pdu.Stored := by
  rcases smsDecode_smsEncode h.2 with ⟨pdu, tpduLen, henc, hdec⟩
  rcases submit_fits h henc with ⟨hpdu, hlen⟩
  have hout : s.message.outgoing = true := by
    rcases h.1 with ⟨m, hm⟩
    rw [hm]
    rfl
  rw [hout] at hdec
  refine ⟨⟨pdu, tpduLen⟩, by simp [pendingPdu, henc], s.readBack, ?_, ?_⟩
  · have hnat : (UInt8.ofNat tpduLen).toNat = tpduLen := by
      rw [UInt8.toNat_ofNat']
      exact Nat.mod_eq_of_lt (by omega)
    rw [List.take_of_length_le (by simp only [List.length_cons]; omega)]
    simp only [smsDeserializeOutgoing, hnat]
    exact hdec
  · simp [pendingPdu, smsEncode_readBack h, henc]

/-! ## The daemon -/

/-- The messages of a submit, as they are composed: submits, at least one and 255 at most. -/
structure SubmitList where
  msgs : List Sms
  submits : ∀ s ∈ msgs, Submits s
  ne : msgs ≠ []
  le : msgs.length ≤ 255

/-- A message that is to be sent: all its PDUs, and how many have been accepted. -/
structure TxMessage where
  uuid : MsgId
  pdus : List PendingPdu
  accepted : ℕ

/-- The PDUs that have not been accepted. -/
def TxMessage.rest (m : TxMessage) : List PendingPdu := m.pdus.drop m.accepted

/-- What an event means for the messages to be sent. -/
def expect (expected : List TxMessage) : TxEvent → List TxMessage
  | .queued name pdus => expected ++ [⟨name.uuid, pdus, 0⟩]
  | .accepted name _ =>
    expected.map fun m => if m.uuid = name.uuid then { m with accepted := m.accepted + 1 } else m
  | .left name _ => expected.filter fun m => m.uuid ≠ name.uuid
  | .submitted _ _ => expected
  | .refused _ _ _ => expected

/-- The queue, and the messages that are to be sent. -/
structure Daemon where
  sms : OfonoSms
  expected : List TxMessage

/-- What comes to the daemon. All messages are exposed on the bus. -/
inductive DaemonInput where
  | submit (msgs : SubmitList) (requestSr recordHistory retry : Bool) (uuid : MsgId)
      (cb : Bool → List MsgId) (registers : Bool)
  | cancel (uuid : MsgId)
  | status (status : ℤ)
  | netregGone
  | timeout (source : ℕ)
  | reply (i : ℕ) (error : OfonoError)
  | restart (registered : Bool) (ref : ℕ)

namespace Daemon

/-- An input to the queue; the messages are known from what happens. -/
def input (d : Daemon) (i : TxInput) : Option Daemon :=
  (d.sms.step i).map fun sms => ⟨sms, (sms.log.drop d.sms.log.length).foldl expect d.expected⟩

def step (d : Daemon) : DaemonInput → Option Daemon
  | .submit msgs requestSr recordHistory retry uuid cb registers =>
    match txPdus msgs.msgs with
    | .ok pdus => d.input (.submit pdus ⟨requestSr, recordHistory, retry, true⟩ uuid cb registers)
    | .reject => some d
    | .fault => none
  | .cancel uuid => d.input (.cancel uuid)
  | .status status => d.input (.status status)
  | .netregGone => d.input .netregGone
  | .timeout source => d.input (.timeout source)
  | .reply i error => d.input (.reply i error)
  | .restart registered ref =>
    match d.sms.restart registered ref with
    | .ok sms => some ⟨sms, d.expected⟩
    | _ => none

/-- The daemon before anything was submitted. -/
def start (registered : Bool) (ref : ℕ) : Daemon := ⟨OfonoSms.start registered ref [] [], []⟩

/-- The queue holds of every message, in their order, the PDUs that have not been accepted,
and the backup is that of the messages in the queue. -/
structure Good (d : Daemon) : Prop where
  queue : d.sms.txq.map (fun e => (e.uuid, e.pdus.pdus.drop e.curPdu)) =
    d.expected.map fun m => (m.uuid, m.rest)
  backup : d.sms.files.map Prod.fst = d.sms.txq.map TxQueueEntry.dir

/-- A restart finds every message either as it was when it was last read or submitted, or with
all that was accepted of it counted in its entry. -/
def Sound (d : Daemon) : DaemonInput → Prop
  | .restart _ _ => ∀ e ∈ d.sms.txq, 0 < e.curPdu →
      ∃ m ∈ d.expected, m.uuid = e.uuid ∧ m.accepted = e.curPdu
  | _ => True

end Daemon

end Phonelets.Sms
