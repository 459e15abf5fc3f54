import Phonelets.Lib.Trace
import Phonelets.Sms.StatusReport

/-! # The transmit queue

The queue of the messages to send. Its head goes out PDU by PDU: a timeout calls `tx_next`,
which hands one PDU to the driver, and the driver answers with `tx_finished`. What goes on
around the queue is part of the state: the timeouts of the main loop, the PDUs that the
driver has not answered for, the backup of the messages and a log of what has happened.

The status reports, the history and the signals on the bus are left out, nothing in the
queue depends on them.
-/

namespace Phonelets.Sms

/-! ## Messages and entries -/

structure PendingPdu where
  pdu : List UInt8
  tpduLen : ℕ
  deriving DecidableEq

/-- The PDUs of a message. Those who build the lists stop at 255 messages, the number that
`num_pdus` can hold, and submit none that is empty. -/
structure PduList where
  pdus : List PendingPdu
  ne : pdus ≠ []
  le : pdus.length ≤ 255

/-- The flags of a submit; `OFONO_SMS_SUBMIT_FLAG_REUSE_UUID` only tells where a new entry
has its uuid from. -/
structure SubmitFlags where
  requestSr : Bool
  recordHistory : Bool
  retry : Bool
  exposeDbus : Bool
  deriving DecidableEq

inductive MessageState where
  | sent
  | failed
  | cancelled
  deriving DecidableEq

/-- What tells an entry from the others. -/
structure TxName where
  id : ℕ
  uuid : MsgId
  deriving DecidableEq

/-- `struct tx_queue_entry`. Its callback is told whether the message was sent, and may
cancel messages. -/
structure TxQueueEntry where
  pdus : PduList
  curPdu : ℕ
  uuid : MsgId
  retry : ℕ
  flags : SubmitFlags
  cb : Bool → List MsgId
  id : ℕ

def TxQueueEntry.numPdus (entry : TxQueueEntry) : ℕ := entry.pdus.pdus.length

def TxQueueEntry.name (entry : TxQueueEntry) : TxName := ⟨entry.id, entry.uuid⟩

@[simp] lemma TxQueueEntry.name_progress (entry : TxQueueEntry) (curPdu retry : ℕ) :
    TxQueueEntry.name { entry with curPdu, retry } = entry.name := rfl

/-- `tx_queue_entry_new`; the uuid is a hash of the PDUs and the time. -/
def txQueueEntryNew (pdus : PduList) (flags : SubmitFlags) (uuid : MsgId) : TxQueueEntry where
  pdus := pdus
  curPdu := 0
  uuid := uuid
  retry := 0
  flags := flags
  cb := fun _ => []
  id := 0

/-! ## The backup -/

/-- `SMS_TX_BACKUP_PATH_DIR`: the directory of a message. -/
structure TxDir where
  id : ℕ
  flags : SubmitFlags
  uuid : MsgId
  deriving DecidableEq

/-- The directories below `tx_queue`, with the numbers and contents of their files. -/
abbrev TxFiles := List (TxDir × List (ℕ × List UInt8))

/-- What is done to the files of one directory. -/
def TxFiles.inDir (files : TxFiles) (dir : TxDir)
    (f : List (ℕ × List UInt8) → List (ℕ × List UInt8)) : TxFiles :=
  files.map fun d => if d.1 = dir then (d.1, f d.2) else d

/-- `sms_tx_backup_store`; `write_file` makes the directory. -/
def smsTxBackupStore (files : TxFiles) (dir : TxDir) (seq : ℕ) (pdu : PendingPdu) : TxFiles :=
  let file := (seq, UInt8.ofNat pdu.tpduLen :: pdu.pdu)
  if dir ∈ files.map Prod.fst then
    files.inDir dir fun l => l.filter (fun f => f.1 ≠ seq) ++ [file]
  else files ++ [(dir, [file])]

def smsTxBackupRemove (files : TxFiles) (dir : TxDir) (seq : ℕ) : TxFiles :=
  files.inDir dir fun l => l.filter fun f => f.1 ≠ seq

def smsTxBackupFree (files : TxFiles) (dir : TxDir) : TxFiles :=
  files.filter fun d => d.1 ≠ dir

def TxQueueEntry.dir (entry : TxQueueEntry) : TxDir := ⟨entry.id, entry.flags, entry.uuid⟩

/-! ## The state -/

/-- A PDU that the driver has been given. -/
structure Submission where
  name : TxName
  seq : ℕ
  pdu : PendingPdu
  sendMms : Bool

inductive TxEvent where
  | queued (name : TxName) (pdus : List PendingPdu)
  | submitted (name : TxName) (seq : ℕ)
  | accepted (name : TxName) (seq : ℕ)
  | refused (name : TxName) (seq : ℕ) (registered : Bool)
  | left (name : TxName) (state : MessageState)
  deriving DecidableEq

/-- `struct ofono_sms` and what is around it. -/
structure OfonoSms where
  /-- `MESSAGE_MANAGER_FLAG_TXQ_ACTIVE` -/
  txActive : Bool
  ref : ℕ
  txq : List TxQueueEntry
  txCounter : ℕ
  /-- 0 where there is no timeout -/
  txSource : ℕ
  registered : Bool
  /-- the messages on the bus -/
  messages : List MsgId
  files : TxFiles
  /-- the timeouts of the main loop, with their seconds -/
  sources : List (ℕ × ℕ)
  /-- the number of the last timeout -/
  lastSource : ℕ
  /-- the PDUs that the driver has not answered for -/
  submits : List Submission
  log : List TxEvent

namespace OfonoSms

/-- `g_timeout_add` of `tx_next`, its number kept in `tx_source`. -/
def timeoutAdd (s : OfonoSms) (seconds : ℕ) : OfonoSms :=
  { s with
    txSource := s.lastSource + 1
    lastSource := s.lastSource + 1
    sources := s.sources ++ [(s.lastSource + 1, seconds)] }

/-- `g_source_remove`, after which `tx_source` is cleared. -/
def sourceRemove (s : OfonoSms) : OfonoSms :=
  { s with txSource := 0, sources := s.sources.filter fun p => p.1 ≠ s.txSource }

/-- `g_queue_delete_link`; the queue has one entry of a name. -/
def deleteLink (s : OfonoSms) (entry : TxQueueEntry) : OfonoSms :=
  { s with txq := s.txq.filter fun e => e.name ≠ entry.name }

def record (s : OfonoSms) (event : TxEvent) : OfonoSms := { s with log := s.log ++ [event] }

/-! ## Leaving the queue -/

/-- The end of `sms_tx_queue_remove_entry`: the backup and the message on the bus go. -/
def withdraw (s : OfonoSms) (entry : TxQueueEntry) : OfonoSms :=
  if entry.flags.exposeDbus then
    { s with
      files := smsTxBackupFree s.files entry.dir
      messages := s.messages.erase entry.uuid }
  else s

/-- `sms_tx_queue_remove_entry`; `cancel` is what a cancel does that the callback asks for. -/
def removeEntry (cancel : OfonoSms → MsgId → OfonoSms) (s : OfonoSms) (entry : TxQueueEntry)
    (txState : MessageState) : OfonoSms :=
  let s := (s.deleteLink entry).record (.left entry.name txState)
  let s := (entry.cb (txState = .sent)).foldl cancel s
  s.withdraw entry

end OfonoSms

/-- What `__ofono_sms_txq_cancel` returns. -/
inductive CancelResult where
  | ok
  | noent
  | perm

namespace OfonoSms

/-- The first entry may not have to wait for the time of the one that goes, and `tx_next`
may not be called on an empty queue. -/
def rescheduleCancelled (s : OfonoSms) : OfonoSms :=
  if s.txSource ≠ 0 then
    if 1 < s.txq.length then s.sourceRemove.timeoutAdd 0 else s.sourceRemove
  else s

/-- `__ofono_sms_txq_cancel` with at most `n` messages queued: a callback that cancels finds
fewer than its caller did. -/
def txqCancelUpTo : ℕ → OfonoSms → MsgId → CancelResult × OfonoSms
  | 0, s, _ => (.noent, s)
  | n + 1, s, uuid =>
    let cancel := fun s uuid => (txqCancelUpTo n s uuid).2
    match s.txq with
    | [] => (.noent, s)
    | head :: rest =>
      if head.uuid = uuid then
        if 0 < head.curPdu then (.perm, s)
        else if s.txActive then (.perm, s)
        else (.ok, s.rescheduleCancelled.removeEntry cancel head .cancelled)
      else
        match rest.find? fun e => e.uuid = uuid with
        | none => (.noent, s)
        | some entry => (.ok, s.removeEntry cancel entry .cancelled)

/-- `__ofono_sms_txq_cancel`. -/
def txqCancel (s : OfonoSms) (uuid : MsgId) : CancelResult × OfonoSms :=
  txqCancelUpTo s.txq.length s uuid

/-- `sms_tx_queue_remove_entry` of the head. -/
def removeHead (s : OfonoSms) (entry : TxQueueEntry) (txState : MessageState) : OfonoSms :=
  s.removeEntry (fun s uuid => (s.txqCancel uuid).2) entry txState

end OfonoSms

/-! ## Sending -/

inductive OfonoError where
  | noError
  | cme (error : ℕ)
  | ceer (error : ℕ)
  | cms (error : ℕ)
  | failure
  deriving DecidableEq

/-- Another try may do, unless the network refused the message; `NETWORK_TIMEOUT` is 332. -/
def OfonoError.mayRetry : OfonoError → Bool
  | .cms error => error = 332
  | _ => true

namespace OfonoSms

/-- The driver's `submit`, at the end of `tx_next`. -/
def driverSubmit (s : OfonoSms) (entry : TxQueueEntry) (pdu : PendingPdu) : OfonoSms :=
  let sendMms := decide (1 < s.txq.length ∨ 1 < entry.numPdus - entry.curPdu)
  { s with
    txActive := true
    submits := s.submits ++ [⟨entry.name, entry.curPdu, pdu, sendMms⟩]
    log := s.log ++ [.submitted entry.name entry.curPdu] }

/-- `tx_next`. The address of the PDU is computed first, from the entry. -/
def txNext (s : OfonoSms) : Option OfonoSms :=
  match s.txq with
  | [] => none
  | entry :: _ =>
    let s := { s with txSource := 0 }
    if s.registered = false then some s
    else entry.pdus.pdus[entry.curPdu]?.map (s.driverSubmit entry)

/-- The head becomes this entry. -/
def setHead (s : OfonoSms) (entry : TxQueueEntry) : OfonoSms :=
  { s with txq := entry :: s.txq.tail }

/-- `next_q` in `tx_finished`. -/
def nextQ (s : OfonoSms) (entry : TxQueueEntry) (txState : MessageState) : OfonoSms :=
  let s := s.removeHead entry txState
  if s.registered = false then s
  else if s.txq ≠ [] then s.timeoutAdd 0 else s

/-- `tx_finished` where the PDU was not accepted; `TXQ_MAX_RETRIES` is 4. -/
def txFailed (s : OfonoSms) (error : OfonoError) (entry : TxQueueEntry) : OfonoSms :=
  if error.mayRetry = false then s.nextQ entry .failed
  else if entry.flags.retry = false then s.nextQ entry .failed
  else
    let entry : TxQueueEntry := { entry with retry := entry.retry + 1 }
    let s := s.setHead entry
    if entry.retry < 4 then s.timeoutAdd (entry.retry * 5) else s.nextQ entry .failed

/-- `tx_finished` where the PDU was accepted. -/
def txAccepted (s : OfonoSms) (entry : TxQueueEntry) : OfonoSms :=
  let s :=
    if entry.flags.exposeDbus then
      { s with files := smsTxBackupRemove s.files entry.dir entry.curPdu }
    else s
  let entry : TxQueueEntry := { entry with curPdu := entry.curPdu + 1, retry := 0 }
  let s := s.setHead entry
  if entry.curPdu < entry.numPdus then s.timeoutAdd 0 else s.nextQ entry .sent

/-- `tx_finished`. Without an entry it has none to count the try of. -/
def txFinished (s : OfonoSms) (error : OfonoError) : Option OfonoSms :=
  let s := { s with txActive := false }
  if error ≠ .noError ∧ s.registered = false then some s
  else
    match s.txq with
    | [] => none
    | entry :: _ =>
      if error = .noError then some (s.txAccepted entry) else some (s.txFailed error entry)

/-! ## The registration -/

/-- `netreg_status_watch`: `NETWORK_REGISTRATION_STATUS_REGISTERED` is 1 and
`NETWORK_REGISTRATION_STATUS_ROAMING` is 5. -/
def netregStatusWatch (s : OfonoSms) (status : ℤ) : OfonoSms :=
  let s := { s with registered := decide (status = 1 ∨ status = 5) }
  if s.registered = false then s
  else if 0 < s.txSource then s
  else if s.txActive then s
  else if s.txq.length ≠ 0 then s.timeoutAdd 0
  else s

/-- `netreg_watch` on an atom that goes. -/
def netregGone (s : OfonoSms) : OfonoSms := { s with registered := false }

/-! ## Submitting -/

/-- The message gets an object on the bus; there is one to a path, and it may fail for
reasons of its own. -/
def dbusRegister (s : OfonoSms) (uuid : MsgId) (registers : Bool) : Option OfonoSms :=
  if uuid ∈ s.messages ∨ registers = false then none
  else some { s with messages := s.messages ++ [uuid] }

/-- The loop at the end of a submit that stores the PDUs. -/
def storePdus (files : TxFiles) (entry : TxQueueEntry) : TxFiles :=
  entry.pdus.pdus.zipIdx.foldl (fun files p => smsTxBackupStore files entry.dir p.2 p.1) files

/-- `g_queue_push_tail` of an entry, which gets the next id. -/
def pushTail (s : OfonoSms) (entry : TxQueueEntry) : OfonoSms :=
  let entry : TxQueueEntry := { entry with id := s.txCounter }
  { s with
    txCounter := s.txCounter + 1
    txq := s.txq ++ [entry]
    log := s.log ++ [.queued entry.name entry.pdus.pdus] }

/-- `__ofono_sms_txq_submit` of an entry, from where it is on the bus; `cb` is set by
`__ofono_sms_txq_set_submit_notify`. -/
def submitEntry (s : OfonoSms) (entry : TxQueueEntry) : OfonoSms :=
  let s :=
    if 1 < entry.numPdus then { s with ref := if s.ref = 65536 then 1 else s.ref + 1 } else s
  let id := s.txCounter
  let s := s.pushTail entry
  let s := if s.registered ∧ s.txq.length = 1 then s.timeoutAdd 0 else s
  if entry.flags.exposeDbus then { s with files := storePdus s.files { entry with id := id } }
  else s

/-- `__ofono_sms_txq_submit`; it returns `-EINVAL` where the message cannot be put on the
bus. -/
def txqSubmit (s : OfonoSms) (pdus : PduList) (flags : SubmitFlags) (uuid : MsgId)
    (cb : Bool → List MsgId) (registers : Bool) : OfonoSms :=
  let entry : TxQueueEntry := { txQueueEntryNew pdus flags uuid with cb }
  if flags.exposeDbus then
    match s.dbusRegister uuid registers with
    | none => s
    | some s => s.submitEntry entry
  else s.submitEntry entry

end OfonoSms

/-! ## From the start on -/

structure TxqBackupEntry where
  pdus : PduList
  flags : SubmitFlags
  uuid : MsgId

namespace OfonoSms

/-- One turn of the loop of `sms_restore_tx_queue`. -/
def restoreEntry (s : OfonoSms) (backup : TxqBackupEntry) : OfonoSms :=
  match s.dbusRegister backup.uuid true with
  | none => s
  | some s => s.pushTail (txQueueEntryNew backup.pdus backup.flags backup.uuid)

/-- `sms_restore_tx_queue` of what `sms_tx_queue_load` gave. -/
def smsRestoreTxQueue (s : OfonoSms) (backupq : List TxqBackupEntry) : OfonoSms :=
  let s := backupq.foldl restoreEntry s
  if 0 < s.txq.length then s.timeoutAdd 0 else s

/-- `ofono_sms_create`, and what the network registration says at once. -/
def create (registered : Bool) (ref : ℕ) (files : TxFiles) : OfonoSms where
  txActive := false
  ref := ref
  txq := []
  txCounter := 0
  txSource := 0
  registered := registered
  messages := []
  files := files
  sources := []
  lastSource := 0
  submits := []
  log := []

/-- The queue after `ofono_sms_register`. -/
def start (registered : Bool) (ref : ℕ) (files : TxFiles) (backupq : List TxqBackupEntry) :
    OfonoSms :=
  (create registered ref files).smsRestoreTxQueue backupq

end OfonoSms

/-- What comes to the queue. -/
inductive TxInput where
  | submit (pdus : PduList) (flags : SubmitFlags) (uuid : MsgId) (cb : Bool → List MsgId)
      (registers : Bool)
  | cancel (uuid : MsgId)
  | status (status : ℤ)
  | netregGone
  /-- the timeout of this number expires -/
  | timeout (source : ℕ)
  /-- the driver answers for one of the PDUs it has -/
  | reply (i : ℕ) (error : OfonoError)

namespace OfonoSms

/-- What the log says of an answer of the driver. -/
def answerEvent (s : OfonoSms) (submission : Submission) (error : OfonoError) : TxEvent :=
  if error = .noError then .accepted submission.name submission.seq
  else .refused submission.name submission.seq s.registered

/-- An input. A timeout that is not there does not expire, and the driver answers once for
what it was given. -/
def step (s : OfonoSms) : TxInput → Option OfonoSms
  | .submit pdus flags uuid cb registers => some (s.txqSubmit pdus flags uuid cb registers)
  | .cancel uuid => some (s.txqCancel uuid).2
  | .status status => some (s.netregStatusWatch status)
  | .netregGone => some s.netregGone
  | .timeout source =>
    if source ∈ s.sources.map Prod.fst then
      OfonoSms.txNext { s with sources := s.sources.filter fun p => p.1 ≠ source }
    else some s
  | .reply i error =>
    match s.submits[i]? with
    | none => some s
    | some submission =>
      let event := s.answerEvent submission error
      OfonoSms.txFinished
        { s with submits := s.submits.eraseIdx i, log := s.log ++ [event] } error

end OfonoSms

end Phonelets.Sms
