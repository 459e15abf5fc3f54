import Phonelets.Lib.Machine
import Phonelets.Sms.Ussd

/-! # The USSD atom

`Initiate`, `Respond` and `Cancel` wait in `pending` and `cancel`, the request of another atom
waits in `req`. What a notification of the network means depends on `state` alone, and `state` is
also changed by the driver's replies, which may come late.

What the atoms behind the control strings do with a message that they take is not part of this
model.
-/

namespace Phonelets.Ussd

open Sms (GConvert ussdEncode ussdDecode)

/-! ## Data -/

inductive UssdState
  | idle
  | active
  | userAction
  | responseSent
deriving DecidableEq

/-- `enum ofono_ussd_status`; a driver passes on what the modem reports, so there are other
values too. -/
inductive UssdStatus
  | notify
  | actionRequired
  | terminated
  | localClientResponded
  | notSupported
  | timedOut
  | other (value : Int)
deriving DecidableEq

/-- The replies to a message: what `Initiate` or `Respond` return with the text of the network,
what `Cancel` returns, or the error of that name. -/
inductive UssdReply
  | initiated (str : List UInt8)
  | responded (str : List UInt8)
  | done
  | busy
  | invalidArgs
  | invalidFormat
  | notRecognized
  | notImplemented
  | notActive
  | failed
  | canceled
  | networkTerminated
  | notSupported
  | timedOut

/-- What the callback of a request of another atom is called with. -/
structure UssdResult where
  error : Int
  dcs : UInt8
  pdu : List UInt8

/-- `struct ussd_request`, with the number of the request as its user data; `cb` is false where
the callback is NULL. -/
structure UssdRequest where
  userData : ℕ
  cb : Bool

/-- The calls of the driver: `request` with the callback of `Initiate`, of `Respond` or of another
atom's request, and `cancel`. -/
inductive UssdCall
  | initiate
  | respond
  | request
  | cancel
deriving DecidableEq

/-- The signals with a text. -/
inductive UssdSignal
  | requestReceived (str : List UInt8)
  | notificationReceived (str : List UInt8)

/-- Which functions a driver has. -/
structure UssdDriver where
  request : Bool
  cancel : Bool

/-- How `recognized_control_string` comes to return TRUE: a service takes the message, or the new
password and its repetition differ. -/
inductive ControlString
  | taken
  | mismatch

/-- `struct ofono_ussd`, with the calls that the driver has not answered. Messages and requests
of other atoms are numbered as they come; `sent`, `taken`, `called` and `cancelled` record what
becomes of them. -/
structure OfonoUssd where
  state : UssdState
  pending : Option ℕ
  cancel : Option ℕ
  req : Option UssdRequest
  calls : List UssdCall
  received : ℕ
  sent : List (ℕ × UssdReply)
  taken : List ℕ
  initiated : ℕ
  called : List (ℕ × UssdResult)
  cancelled : List ℕ
  signals : List UssdSignal

namespace OfonoUssd

def start : OfonoUssd where
  state := .idle
  pending := none
  cancel := none
  req := none
  calls := []
  received := 0
  sent := []
  taken := []
  initiated := 0
  called := []
  cancelled := []
  signals := []

/-! ## Replies -/

def answer (s : OfonoUssd) (msg : ℕ) (reply : UssdReply) : OfonoUssd :=
  { s with sent := s.sent ++ [(msg, reply)] }

/-- `__ofono_dbus_pending_reply` of `pending`; nothing is sent where nothing is pending. -/
def pendingReply (s : OfonoUssd) (reply : UssdReply) : OfonoUssd :=
  { s with pending := none, sent := s.sent ++ s.pending.toList.map fun msg => (msg, reply) }

/-- `__ofono_dbus_pending_reply` of `cancel`. -/
def cancelReply (s : OfonoUssd) (reply : UssdReply) : OfonoUssd :=
  { s with cancel := none, sent := s.sent ++ s.cancel.toList.map fun msg => (msg, reply) }

/-- The request whose callback `ussd_request_finish` calls. -/
def callee (s : OfonoUssd) : Option ℕ :=
  match s.req with
  | some ⟨userData, true⟩ => some userData
  | _ => none

/-- `ussd_request_finish`. -/
def requestFinish (s : OfonoUssd) (result : UssdResult) : OfonoUssd :=
  { s with
    req := none
    called := s.called ++ s.callee.toList.map fun userData => (userData, result) }

def call (s : OfonoUssd) (purpose : UssdCall) : OfonoUssd :=
  { s with calls := s.calls ++ [purpose] }

/-! ## Notifications -/

/-- The statuses that finish the request of another atom. -/
def finishesRequest : UssdStatus → Bool
  | .notify | .terminated | .timedOut | .notSupported => true
  | _ => false

/-- `ussd_status_to_failure_code`, with the numbers of `errno.h`. -/
def ussdStatusToFailureCode : UssdStatus → Int
  | .timedOut => -110
  | .notSupported => -38
  | _ => 0

/-- The text of a notification, empty where there is none. -/
def notifyText (g : GConvert) (dcs : UInt8) (data : List UInt8) : List UInt8 :=
  if data = [] then [] else (ussdDecode g dcs data).getD []

/-- The state behind an answer of the network, or behind a text that it sends by itself. -/
def notifyState (status : UssdStatus) : UssdState :=
  if status = .actionRequired then .userAction else .idle

/-- `ofono_ussd_notify` where the network ends the session. -/
def notifyEnd (s : OfonoUssd) (reply : UssdReply) : OfonoUssd :=
  pendingReply { s with state := .idle } reply

/-- `ofono_ussd_notify` where the network answers; it does not look whether a message is
pending. -/
def notifyAnswer (s : OfonoUssd) (status : UssdStatus) (reply : UssdReply) : Option OfonoUssd :=
  if s.pending = none then none
  else some (pendingReply { s with state := notifyState status } reply)

/-- `ofono_ussd_notify` of a text that is not the end of a session. -/
def notifyString (s : OfonoUssd) (status : UssdStatus) (str : List UInt8) : Option OfonoUssd :=
  match s.state with
  | .active => notifyAnswer s status (.initiated str)
  | .responseSent => notifyAnswer s status (.responded str)
  | .idle =>
    some
      { s with
        state := notifyState status
        signals := s.signals ++
          [if status = .actionRequired then .requestReceived str
            else .notificationReceived str] }
  | .userAction => some s

/-- `ofono_ussd_notify`. -/
def notify (g : GConvert) (s : OfonoUssd) (status : UssdStatus) (dcs : UInt8)
    (data : List UInt8) : Option OfonoUssd :=
  if s.req ≠ none ∧ finishesRequest status = true then
    some
      { requestFinish s ⟨ussdStatusToFailureCode status, dcs, data⟩ with state := .idle }
  else
    match status with
    | .terminated => some (notifyEnd s .networkTerminated)
    | .notSupported => some (notifyEnd s .notSupported)
    | .timedOut => some (notifyEnd s .timedOut)
    | _ => notifyString s status (notifyText g dcs data)

/-! ## Messages -/

/-- `__ofono_ussd_is_busy`. -/
def isBusy (s : OfonoUssd) : Bool :=
  s.pending.isSome || s.state != .idle || s.req.isSome

def validUssdString (str : List UInt8) (callInProgress : Bool) : Bool :=
  if str = [] then false
  else if str.getLast? = some 0x23 then true
  else if callInProgress = false ∧ str.length = 2 ∧ str.head? = some 0x31 then false
  else str.length ≤ 2

/-- `ussd_initiate`, where `control` is what `recognized_control_string` finds and a message
without a string is `none`. -/
def ussdInitiate (d : UssdDriver) (s : OfonoUssd) (msg : ℕ) (str : Option (List UInt8))
    (control : Option ControlString) (callInProgress : Bool) : OfonoUssd :=
  if isBusy s then s.answer msg .busy
  else
    match str with
    | none => s.answer msg .invalidArgs
    | some [] => s.answer msg .invalidFormat
    | some str =>
      match control with
      | some .taken => { s with taken := s.taken ++ [msg] }
      | some .mismatch => s.answer msg .invalidFormat
      | none =>
        if validUssdString str callInProgress = false then s.answer msg .notRecognized
        else if ussdEncode str = none then s.answer msg .invalidFormat
        else if d.request = false then s.answer msg .notImplemented
        else call { s with pending := some msg } .initiate

def ussdRespond (d : UssdDriver) (s : OfonoUssd) (msg : ℕ) (str : Option (List UInt8)) :
    OfonoUssd :=
  if s.pending ≠ none then s.answer msg .busy
  else if s.state ≠ .userAction then s.answer msg .notActive
  else
    match str with
    | none => s.answer msg .invalidArgs
    | some [] => s.answer msg .invalidFormat
    | some str =>
      if ussdEncode str = none then s.answer msg .invalidFormat
      else if d.request = false then s.answer msg .notImplemented
      else call { s with pending := some msg } .respond

def ussdCancel (d : UssdDriver) (s : OfonoUssd) (msg : ℕ) : OfonoUssd :=
  if s.state = .idle then s.answer msg .notActive
  else if s.state = .userAction ∧ s.pending ≠ none then s.answer msg .busy
  else if s.cancel ≠ none then s.answer msg .busy
  else if d.cancel = false then s.answer msg .notImplemented
  else call { s with cancel := some msg } .cancel

/-! ## Requests of other atoms -/

/-- `__ofono_ussd_initiate`; a request that it refuses is none. -/
def initiate (d : UssdDriver) (s : OfonoUssd) : OfonoUssd :=
  if d.request = false ∨ isBusy s = true then s
  else
    call { s with req := some ⟨s.initiated, true⟩, initiated := s.initiated + 1 } .request

/-- `__ofono_ussd_initiate_cancel`. -/
def initiateCancel (s : OfonoUssd) : OfonoUssd :=
  { s with
    req := s.req.map fun req => { req with cb := false }
    cancelled := s.cancelled ++ s.callee.toList }

/-! ## The driver -/

/-- `ussd_callback` and `ussd_response_callback`, which differ in the state that they set. -/
def messageCallback (s : OfonoUssd) (state : UssdState) (error : Bool) : OfonoUssd :=
  if error then pendingReply s .failed else { s with state := state }

def ussdCallback (s : OfonoUssd) (error : Bool) : OfonoUssd := messageCallback s .active error

def ussdResponseCallback (s : OfonoUssd) (error : Bool) : OfonoUssd :=
  messageCallback s .responseSent error

def ussdRequestCallback (s : OfonoUssd) (error : Bool) : OfonoUssd :=
  if error then requestFinish s ⟨-22, 0, []⟩ else { s with state := .active }

/-- `ussd_cancel_callback`, which does not look whether there is a message. -/
def ussdCancelCallback (s : OfonoUssd) (error : Bool) : Option OfonoUssd :=
  if s.cancel = none then none
  else if error then some (cancelReply s .failed)
  else
    some
      { requestFinish (cancelReply (pendingReply s .canceled) .done) ⟨-125, 0, []⟩ with
        state := .idle }

/-! ## Inputs -/

/-- What can come to the atom. Calls of the driver that there are not are passed over. -/
inductive UssdInput
  | initiate (str : Option (List UInt8)) (control : Option ControlString) (callInProgress : Bool)
  | respond (str : Option (List UInt8))
  | cancel
  | request
  | requestCancel
  | reply (i : ℕ) (error : Bool)
  | notify (status : UssdStatus) (dcs : UInt8) (data : List UInt8)

/-- The callback of a call. -/
def callback (s : OfonoUssd) (error : Bool) : UssdCall → Option OfonoUssd
  | .initiate => some (ussdCallback s error)
  | .respond => some (ussdResponseCallback s error)
  | .request => some (ussdRequestCallback s error)
  | .cancel => ussdCancelCallback s error

/-- A message is received. -/
def receive (s : OfonoUssd) : OfonoUssd := { s with received := s.received + 1 }

/-- An input; `none` is a reply to a message that is not there. -/
def step (d : UssdDriver) (g : GConvert) (s : OfonoUssd) : UssdInput → Option OfonoUssd
  | .initiate str control callInProgress =>
    some (ussdInitiate d s.receive s.received str control callInProgress)
  | .respond str => some (ussdRespond d s.receive s.received str)
  | .cancel => some (ussdCancel d s.receive s.received)
  | .request => some (initiate d s)
  | .requestCancel => some (initiateCancel s)
  | .reply i error =>
    match s.calls[i]? with
    | none => some s
    | some purpose => callback { s with calls := s.calls.eraseIdx i } error purpose
  | .notify status dcs data => notify g s status dcs data

end OfonoUssd

end Phonelets.Ussd
