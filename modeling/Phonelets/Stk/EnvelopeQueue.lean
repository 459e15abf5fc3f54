import Phonelets.Lib.Machine

/-! # The envelope queue

Envelopes for the UICC wait in `envelope_q`; the head is at the driver. The callback of an SMS
download is not kept with its envelope but in `sms_pp_cb` and `sms_pp_userdata`.

What a callback does with the answer is modelled for the menu selection and the SMS download; the
callbacks of timer expirations and cell broadcasts only write to the log file.
-/

namespace Phonelets.Stk

/-! ## Data -/

/-- `struct ofono_error`. -/
inductive StkError
  | noError
  | cme (error : Int)
  | cms (error : Int)
  | ceer (error : Int)
  | sim (error : Int)
  | failure (error : Int)
deriving DecidableEq

/-- What the driver answers to an envelope. -/
structure EnvelopeResult where
  error : StkError
  data : List UInt8

def EnvelopeResult.busy (result : EnvelopeResult) : Bool := result.error = .sim 0x9300

def EnvelopeResult.ok (result : EnvelopeResult) : Bool := result.error = .noError

/-- The functions that are the callback of an envelope. -/
inductive EnvelopeCb
  | menuSelection
  | timerExpiration
  | cbsDownload
  | smsDownload
deriving DecidableEq

/-- `struct envelope_op`, with its number among the envelopes queued. -/
structure EnvelopeOp where
  number : ℕ
  tlv : List UInt8
  retries : ℕ
  cb : EnvelopeCb

/-- A callback with its user data. -/
structure SmsPpTarget where
  cb : ℕ
  userdata : ℕ
deriving DecidableEq

/-- The call of `cb`, if it is not NULL. -/
def smsPpTarget (cb : Option ℕ) (userdata : ℕ) : Option SmsPpTarget :=
  cb.map fun cb => ⟨cb, userdata⟩

/-- What is seen of the queue: an envelope that is passed to the driver, the driver's answer, a
callback, and the callback of `__ofono_sms_sim_download`. -/
inductive EnvelopeEvent
  | sent (number : ℕ) (tlv : List UInt8)
  | answered (number : ℕ) (result : EnvelopeResult)
  | called (number : ℕ) (ok : Bool) (data : List UInt8)
  | smsPp (target : SmsPpTarget) (ok : Bool) (data : List UInt8)

/-- The replies to `SelectItem`. -/
inductive SelectItemReply
  | ok
  | busy
  | notSupported
  | invalidArgs
  | invalidFormat
  | failed

/-- An envelope as it was queued, and the callback that `__ofono_sms_sim_download` was given for
it. -/
structure QueuedEnvelope where
  op : EnvelopeOp
  target : Option SmsPpTarget

/-- The fields of `struct ofono_stk` that envelopes use, the numbers of the envelopes that the
driver has not answered, and what has been queued, seen and replied so far. -/
structure StkEnvelopes where
  envelopeQ : List EnvelopeOp
  smsPpCb : Option ℕ
  smsPpUserdata : ℕ
  pending : Option ℕ
  sessionAgent : Bool
  calls : List ℕ
  queued : List QueuedEnvelope
  log : List EnvelopeEvent
  received : ℕ
  replies : List (ℕ × SelectItemReply)

namespace StkEnvelopes

def start : StkEnvelopes where
  envelopeQ := []
  smsPpCb := none
  smsPpUserdata := 0
  pending := none
  sessionAgent := false
  calls := []
  queued := []
  log := []
  received := 0
  replies := []

/-! ## The queue -/

def envelopeQueueRun (s : StkEnvelopes) : StkEnvelopes :=
  match s.envelopeQ with
  | [] => s
  | op :: _ =>
    { s with calls := s.calls ++ [op.number], log := s.log ++ [.sent op.number op.tlv] }

/-- `stk_send_envelope` of an envelope for which there is a PDU. -/
def pushEnvelope (s : StkEnvelopes) (op : EnvelopeOp) (target : Option SmsPpTarget) :
    StkEnvelopes :=
  { s with envelopeQ := s.envelopeQ ++ [op], queued := s.queued ++ [⟨op, target⟩] }

/-- `stk_send_envelope`, where `pdu` is what `stk_pdu_from_envelope` makes, and `driver` whether
the driver has a function for envelopes. The error is `-ENOSYS` or `-EINVAL`. -/
def stkSendEnvelope (driver : Bool) (s : StkEnvelopes) (pdu : Option (List UInt8))
    (cb : EnvelopeCb) (target : Option SmsPpTarget) (retries : ℕ) : Int × StkEnvelopes :=
  if driver = false then (-38, s)
  else
    match pdu with
    | none => (-22, s)
    | some tlv =>
      let pushed := pushEnvelope s ⟨s.queued.length, tlv, retries, cb⟩ target
      if pushed.envelopeQ.length = 1 then (0, envelopeQueueRun pushed) else (0, pushed)

def envelopeRetriesDefault : ℕ := 5

/-! ## Callbacks -/

/-- `__ofono_dbus_pending_reply`. -/
def pendingReply (s : StkEnvelopes) (reply : SelectItemReply) : StkEnvelopes :=
  { s with
    pending := none
    replies := s.replies ++ s.pending.toList.map fun msg => (msg, reply) }

/-- `menu_selection_envelope_cb`, which does not look whether a message is pending. -/
def menuSelectionEnvelopeCb (s : StkEnvelopes) (ok : Bool) : Option StkEnvelopes :=
  if s.pending = none then none
  else if ok then some (pendingReply { s with sessionAgent := true } .ok)
  else some (pendingReply s .failed)

def stkSmsDownloadCb (s : StkEnvelopes) (ok : Bool) (data : List UInt8) : StkEnvelopes :=
  { s with
    log := s.log ++
      (smsPpTarget s.smsPpCb s.smsPpUserdata).toList.map fun target => .smsPp target ok data }

/-- The callback of an envelope. -/
def callEnvelopeCb (s : StkEnvelopes) (op : EnvelopeOp) (ok : Bool) (data : List UInt8) :
    Option StkEnvelopes :=
  let called := { s with log := s.log ++ [.called op.number ok data] }
  match op.cb with
  | .menuSelection => menuSelectionEnvelopeCb called ok
  | .smsDownload => some (stkSmsDownloadCb called ok data)
  | _ => some called

def retries (op : EnvelopeOp) (result : EnvelopeResult) : Bool :=
  0 < op.retries && result.busy

def envelopeCb (s : StkEnvelopes) (result : EnvelopeResult) : Option StkEnvelopes :=
  match s.envelopeQ with
  | [] => none
  | op :: rest =>
    if retries op result then
      some
        (envelopeQueueRun { s with envelopeQ := { op with retries := op.retries - 1 } :: rest })
    else
      (callEnvelopeCb { s with envelopeQ := rest } op result.ok result.data).map
        envelopeQueueRun

/-! ## What queues envelopes -/

/-- `__ofono_cbs_sim_download`. -/
def cbsSimDownload (driver : Bool) (s : StkEnvelopes) (pdu : Option (List UInt8)) :
    StkEnvelopes :=
  (stkSendEnvelope driver s pdu .cbsDownload none envelopeRetriesDefault).2

/-- What `timers_update` does with a timer that has run out. -/
def timerExpiration (driver : Bool) (s : StkEnvelopes) (pdu : Option (List UInt8)) :
    StkEnvelopes :=
  (stkSendEnvelope driver s pdu .timerExpiration none 0).2

/-- `__ofono_sms_sim_download` of a message that is an `SMS_TYPE_DELIVER` or not. -/
def smsSimDownload (driver : Bool) (s : StkEnvelopes) (deliver : Bool) (pdu : Option (List UInt8))
    (cb : Option ℕ) (userdata : ℕ) : Int × StkEnvelopes :=
  if deliver = false then (-22, s)
  else
    stkSendEnvelope driver { s with smsPpCb := cb, smsPpUserdata := userdata } pdu .smsDownload
      (smsPpTarget cb userdata) envelopeRetriesDefault

/-- The arguments of `SelectItem`: the item, and whether the path is one. -/
structure SelectItemArgs where
  selection : UInt8
  validPath : Bool

def replyTo (s : StkEnvelopes) (msg : ℕ) (reply : SelectItemReply) : StkEnvelopes :=
  { s with replies := s.replies ++ [(msg, reply)] }

/-- `stk_select_item` of an item of the menu. -/
def sendMenuSelection (driver : Bool) (s : StkEnvelopes) (msg : ℕ) (pdu : Option (List UInt8)) :
    StkEnvelopes :=
  let sent := stkSendEnvelope driver { s with pending := some msg } pdu .menuSelection none 0
  if sent.1 = 0 then sent.2 else pendingReply sent.2 .failed

/-- `stk_select_item`, where `items` is the number of items of `main_menu`, and `pdu` what
`stk_pdu_from_envelope` makes of the selection. An item behind the last is that of the number of
items, which the loop does not tell from a real one. -/
def stkSelectItem (driver : Bool) (s : StkEnvelopes) (msg : ℕ) (items : Option ℕ)
    (args : Option SelectItemArgs) (pdu : Option (List UInt8)) : StkEnvelopes :=
  if s.pending ≠ none ∨ s.sessionAgent = true then replyTo s msg .busy
  else
    match items with
    | none => replyTo s msg .notSupported
    | some items =>
      match args with
      | none => replyTo s msg .invalidArgs
      | some args =>
        if args.validPath = false then replyTo s msg .invalidFormat
        else if items < args.selection.toNat then replyTo s msg .invalidFormat
        else sendMenuSelection driver s msg pdu

/-! ## Inputs -/

/-- What can come to the queue. Calls of the driver that there are not are passed over. -/
inductive EnvelopeInput
  | selectItem (items : Option ℕ) (args : Option SelectItemArgs) (pdu : Option (List UInt8))
  | timerExpiration (pdu : Option (List UInt8))
  | cbsDownload (pdu : Option (List UInt8))
  | smsDownload (deliver : Bool) (pdu : Option (List UInt8)) (cb : Option ℕ) (userdata : ℕ)
  | reply (i : ℕ) (result : EnvelopeResult)
  | agentRemoved

/-- The driver answers the call at `i`. -/
def answered (s : StkEnvelopes) (i number : ℕ) (result : EnvelopeResult) : StkEnvelopes :=
  { s with calls := s.calls.eraseIdx i, log := s.log ++ [.answered number result] }

/-- An input; `none` is the use of an envelope or a message that is not there. -/
def step (driver : Bool) (s : StkEnvelopes) : EnvelopeInput → Option StkEnvelopes
  | .selectItem items args pdu =>
    some (stkSelectItem driver { s with received := s.received + 1 } s.received items args pdu)
  | .timerExpiration pdu => some (timerExpiration driver s pdu)
  | .cbsDownload pdu => some (cbsSimDownload driver s pdu)
  | .smsDownload deliver pdu cb userdata =>
    some (smsSimDownload driver s deliver pdu cb userdata).2
  | .reply i result =>
    match s.calls[i]? with
    | none => some s
    | some number => envelopeCb (answered s i number result) result
  | .agentRemoved => some { s with sessionAgent := false }

end StkEnvelopes

end Phonelets.Stk
