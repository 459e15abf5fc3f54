import Mathlib.Data.List.Basic
import Phonelets.Lib.Machine

/-! # The tone queue

DTMF strings wait in `toneq` of a voice call atom. `tone_request_run` sends the head of the queue
to the driver, up to eight tones at a time, and `tone_request_cb` takes the driver's reply, passes
over the pauses behind the tones and sets a timer for the next run. The timer of an entry that is
queued first is not recorded in `tone_source`.
-/

namespace Phonelets.Voicecall

/-! ## The queue -/

/-- `struct tone_queue_entry`, with `left` as the number of characters before it. The user data
is the number of the entry among those queued. -/
structure ToneQueueEntry where
  toneStr : List Char
  pos : ℕ
  userData : ℕ
  id : Int
deriving DecidableEq

def ToneQueueEntry.left (entry : ToneQueueEntry) : List Char := entry.toneStr.drop entry.pos

/-- What is seen of the queue: tones passed to the driver, a request that failed, a callback with
or without an error, and a cancelled entry. -/
inductive ToneEvent
  | sent (userData : ℕ) (tones : List Char)
  | failed (userData : ℕ)
  | called (userData : ℕ) (error : Bool)
  | cancelled (userData : ℕ)

/-- The tone queue of a voice call atom, the timers of the main loop that call
`tone_request_run`, the entries of the requests that the driver has not answered, and what has
been queued and seen so far. -/
structure ToneState where
  toneq : List ToneQueueEntry
  toneSource : ℕ
  timers : List ℕ
  nextTimer : ℕ
  requests : List ℕ
  queued : List (List Char)
  log : List ToneEvent

def ToneState.start : ToneState where
  toneq := []
  toneSource := 0
  timers := []
  nextTimer := 1
  requests := []
  queued := []
  log := []

/-- One of the characters `pP`. -/
def isPause (c : Char) : Bool := c = 'p' || c = 'P'

/-- A tone of 27.007 C.2.11 or a pause. -/
def isTone (c : Char) : Bool :=
  c.isDigit || c = 'p' || c = 'P' || c = '*' || c = '#' || ('A' ≤ c && c ≤ 'D')

/-- The tones that `tone_request_run` passes to the driver. -/
def ToneQueueEntry.chunk (entry : ToneQueueEntry) : List Char :=
  (entry.left.takeWhile fun c => !isPause c).take 8

/-- The pauses that `tone_request_cb` passes over. -/
def ToneQueueEntry.pauses (entry : ToneQueueEntry) : List Char := entry.left.takeWhile isPause

def ToneQueueEntry.advance (entry : ToneQueueEntry) (n : ℕ) : ToneQueueEntry :=
  { entry with pos := entry.pos + n }

namespace ToneState

/-! ## The functions -/

/-- `g_timeout_add`, of a timer that is not recorded. -/
def addTimer (s : ToneState) : ToneState :=
  { s with timers := s.nextTimer :: s.timers, nextTimer := s.nextTimer + 1 }

/-- `g_timeout_add_seconds`, recorded in `tone_source`. -/
def addToneSource (s : ToneState) : ToneState := { addTimer s with toneSource := s.nextTimer }

/-- The id that `tone_queue` gives to a new entry. -/
def nextId (toneq : List ToneQueueEntry) : Int :=
  toneq.foldl (fun id entry => if entry.id ≥ id then entry.id + 1 else id) 1

/-- `tone_queue` of a string that it accepts. -/
def pushTones (s : ToneState) (toneStr : List Char) : ToneState :=
  { s with
    toneq := s.toneq ++ [⟨toneStr, 0, s.queued.length, nextId s.toneq⟩]
    queued := s.queued ++ [toneStr] }

def toneQueue (s : ToneState) (toneStr : List Char) : ToneState :=
  if toneStr.all isTone then
    if (pushTones s toneStr).toneq.length = 1 then addTimer (pushTones s toneStr)
    else pushTones s toneStr
  else s

/-- `tone_request_finish` of the head of the queue, with its callback. -/
def finishHead (s : ToneState) (error : Bool) : ToneState :=
  match s.toneq with
  | [] => s
  | entry :: rest =>
    { s with toneq := rest, log := s.log ++ [.called entry.userData error] }

/-- The head of the queue moves on behind `n` characters. -/
def advanceHead (s : ToneState) (n : ℕ) : ToneState :=
  match s.toneq with
  | [] => s
  | entry :: rest => { s with toneq := entry.advance n :: rest }

/-- `tone_request_cb`; `error` tells whether there is an error of another type than
`OFONO_ERROR_TYPE_NO_ERROR`. -/
def toneRequestCb (s : ToneState) (error : Bool) : ToneState :=
  match s.toneq with
  | [] => s
  | entry :: _ =>
    -- an error before the head has been started belongs to a cancelled request
    if error ∧ 0 < entry.pos then addToneSource (finishHead s true)
    else if entry.left = [] then addToneSource (finishHead s false)
    else addToneSource (advanceHead s entry.pauses.length)

/-- `send_tones` of the driver, for the head of the queue. -/
def sendTones (s : ToneState) (entry : ToneQueueEntry) : ToneState :=
  advanceHead
    { s with
      requests := s.requests ++ [entry.userData]
      log := s.log ++ [.sent entry.userData entry.chunk] }
    entry.chunk.length

def toneRequestRun (s : ToneState) : ToneState :=
  match s.toneq with
  | [] => { s with toneSource := 0 }
  | entry :: _ =>
    if entry.chunk = [] then toneRequestCb { s with toneSource := 0 } false
    else sendTones { s with toneSource := 0 } entry

/-- `tone_request_finish` of the entry at `i`, without its callback. -/
def dropEntry (s : ToneState) (i : ℕ) (entry : ToneQueueEntry) : ToneState :=
  { s with toneq := s.toneq.eraseIdx i, log := s.log ++ [.cancelled entry.userData] }

/-- The timer in `tone_source` is removed and the queue runs. -/
def wakeUp (s : ToneState) : ToneState :=
  toneRequestRun { s with timers := s.timers.erase s.toneSource }

/-- `__ofono_voicecall_tone_cancel`, which looks into the entry that it did not find. -/
def toneCancel (s : ToneState) (id : Int) : Option ToneState :=
  match s.toneq.findIdx? fun entry => entry.id = id with
  | none => none
  | some i =>
    s.toneq[i]?.map fun entry =>
      if i = 0 ∧ s.toneSource ≠ 0 then wakeUp (dropEntry s i entry) else dropEntry s i entry

/-! ## Inputs -/

/-- What can come to the queue. Requests and timers that there are not are passed over. -/
inductive ToneInput
  | queue (toneStr : List Char)
  | cancel (id : Int)
  | reply (i : ℕ) (error : Bool)
  | timer (id : ℕ)

/-- The driver answers the request at `i`, which was made for the entry `userData`. -/
def replied (s : ToneState) (i userData : ℕ) (error : Bool) : ToneState :=
  toneRequestCb
    { s with
      requests := s.requests.eraseIdx i
      log := if error then s.log ++ [.failed userData] else s.log }
    error

/-- An input; `none` is the use of an entry that is not there. -/
def step (s : ToneState) : ToneInput → Option ToneState
  | .queue toneStr => some (toneQueue s toneStr)
  | .cancel id => toneCancel s id
  | .reply i error =>
    match s.requests[i]? with
    | none => some s
    | some userData => some (replied s i userData error)
  | .timer id =>
    if id ∈ s.timers then some (toneRequestRun { s with timers := s.timers.erase id })
    else some s

end ToneState

end Phonelets.Voicecall
