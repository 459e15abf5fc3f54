import Mathlib.Data.List.FinRange
import Phonelets.Lib.Machine
import Phonelets.Stk.Handlers
import Phonelets.Stk.Response

/-! # The timers of the UICC

The eight timers of TIMER MANAGEMENT share one glib timer, which `timers_update` sets anew for the
one that runs out first. A timer that does not run has the expiry 0.

An envelope is in the log when `timers_update` hands it to `stk_send_envelope`.
-/

namespace Phonelets.Stk

/-! ## Data -/

/-- `struct stk_timer`; a time is what `time` returns. -/
structure StkTimer where
  expiry : ℤ
  start : ℤ

/-- The numbers that `parse_dataobj_timer_value` reads out of two digits of four bits each. -/
structure StkTimerValue.Read (value : StkTimerValue) : Prop where
  hour : value.hour.toNat ≤ 165
  minute : value.minute.toNat ≤ 165
  second : value.second.toNat ≤ 165

/-- A TIMER MANAGEMENT command. -/
structure TimerMgmtCommand where
  qualifier : UInt8
  timerId : UInt8
  timerValue : StkTimerValue
  read : timerValue.Read

/-- The response to a TIMER MANAGEMENT command. -/
structure TimerMgmtResponse where
  result : UInt8
  timerMgmt : StkResponseTimerMgmt

/-- What is seen of the timers: a command with the response to it, read at a time, and a TIMER
EXPIRATION. -/
inductive TimerEvent
  | command (cmd : TimerMgmtCommand) (now : ℤ) (rsp : TimerMgmtResponse)
  | expiration (id : Fin 8) (now : ℤ) (value : StkTimerValue)

/-- The timers, the time at which the glib timer is due, the last time that was read, that of the
last `timers_update`, and what has been seen. -/
structure StkTimers where
  timers : Fin 8 → StkTimer
  timersSource : Option ℤ
  clock : ℤ
  updated : ℤ
  log : List TimerEvent

namespace StkTimers

/-- The atom as it is created, at some time. -/
def start (now : ℤ) : StkTimers where
  timers _ := ⟨0, 0⟩
  timersSource := none
  clock := now
  updated := now
  log := []

/-! ## Times -/

def timerValueFromSeconds (seconds : ℤ) : StkTimerValue :=
  let hour := UInt8.ofInt (seconds.tdiv 3600)
  let seconds := seconds - hour.toNat * 3600
  let minute := UInt8.ofInt (seconds.tdiv 60)
  let seconds := seconds - minute.toNat * 60
  ⟨true, hour, minute, UInt8.ofInt seconds⟩

/-- The seconds of a time. -/
def toSeconds (value : StkTimerValue) : ℤ :=
  value.second.toNat + value.minute.toNat * 60 + value.hour.toNat * 3600

/-! ## The loop over the timers -/

/-- The timer `i` runs out. -/
def expire (s : StkTimers) (i : Fin 8) (now : ℤ) : StkTimers :=
  { s with
    timers := fun j => if j = i then { s.timers i with expiry := 0 } else s.timers j
    log := s.log ++ [.expiration i now (timerValueFromSeconds (now - (s.timers i).start))] }

/-- The loop of `timers_update`, with the smallest time that is left, or 0. -/
def timersLoop (now : ℤ) : List (Fin 8) → StkTimers → ℤ → StkTimers × ℤ
  | [], s, min => (s, min)
  | i :: rest, s, min =>
    let expiry := (s.timers i).expiry
    if expiry = 0 then timersLoop now rest s min
    else if expiry ≤ now then timersLoop now rest (expire s i now) min
    else
      timersLoop now rest s (if expiry < now + min ∨ min = 0 then expiry - now else min)

def timersUpdate (s : StkTimers) (now : ℤ) : StkTimers :=
  let looped := timersLoop now (List.finRange 8)
    { s with timersSource := none, clock := now, updated := now } 0
  if looped.2 = 0 then looped.1
  else { looped.1 with timersSource := some (now + looped.2) }

def timersCb (s : StkTimers) (now : ℤ) : StkTimers :=
  timersUpdate { s with timersSource := none } now

/-! ## Commands -/

def timerOf (id : UInt8) : Option (Fin 8) :=
  if h : 1 ≤ id.toNat ∧ id.toNat ≤ 8 then some ⟨id.toNat - 1, by omega⟩ else none

/-- `STK_RESULT_TYPE_SUCCESS`. -/
def resultSuccess : UInt8 := 0x00

/-- `STK_RESULT_TYPE_TIMER_CONFLICT`. -/
def resultTimerConflict : UInt8 := 0x24

/-- `STK_RESULT_TYPE_DATA_NOT_UNDERSTOOD`. -/
def resultDataNotUnderstood : UInt8 := 0x32

/-- A response without an answer. -/
def resultResponse (result : UInt8) : TimerMgmtResponse := ⟨result, ⟨0, ⟨false, 0, 0, 0⟩⟩⟩

/-- The response with the time that is left of a timer. -/
def remainingResponse (cmd : TimerMgmtCommand) (timer : StkTimer) (now : ℤ) : TimerMgmtResponse :=
  ⟨resultSuccess, ⟨cmd.timerId, timerValueFromSeconds (max 0 (timer.expiry - now))⟩⟩

/-- What `handle_command_timer_mgmt` answers. -/
def timerMgmtResponse (s : StkTimers) (cmd : TimerMgmtCommand) (now : ℤ) : TimerMgmtResponse :=
  match timerOf cmd.timerId with
  | none => resultResponse resultDataNotUnderstood
  | some i =>
    match (cmd.qualifier &&& 3).toNat with
    | 0 => ⟨resultSuccess, ⟨cmd.timerId, ⟨false, 0, 0, 0⟩⟩⟩
    | 1 | 2 =>
      if (s.timers i).expiry = 0 then resultResponse resultTimerConflict
      else remainingResponse cmd (s.timers i) now
    | _ => resultResponse resultDataNotUnderstood

def setTimer (s : StkTimers) (i : Fin 8) (timer : StkTimer) : StkTimers :=
  { s with timers := fun j => if j = i then timer else s.timers j }

/-- A command is read and answered. -/
def respond (s : StkTimers) (cmd : TimerMgmtCommand) (now : ℤ) : StkTimers :=
  { s with
    clock := now
    log := s.log ++ [.command cmd now (timerMgmtResponse s cmd now)] }

/-- `handle_command_timer_mgmt`, which reads the time, and again in `timers_update`. -/
def handleCommandTimerMgmt (s : StkTimers) (cmd : TimerMgmtCommand) (now later : ℤ) :
    StkTimers :=
  match timerOf cmd.timerId with
  | none => respond s cmd now
  | some i =>
    match (cmd.qualifier &&& 3).toNat with
    | 0 =>
      timersUpdate (setTimer (respond s cmd now) i ⟨now + toSeconds cmd.timerValue, now⟩) later
    | 1 =>
      if (s.timers i).expiry = 0 then respond s cmd now
      else timersUpdate (setTimer (respond s cmd now) i { s.timers i with expiry := 0 }) later
    | _ => respond s cmd now

/-! ## Inputs -/

/-- What can come to the timers: a command with the times that are read, and the glib timer. -/
inductive TimerInput
  | command (cmd : TimerMgmtCommand) (now later : ℤ)
  | fire (now : ℤ)

/-- An input. A glib timer that is not set does not fire. -/
def step (s : StkTimers) : TimerInput → Option StkTimers
  | .command cmd now later => some (handleCommandTimerMgmt s cmd now later)
  | .fire now =>
    match s.timersSource with
    | none => some s
    | some _ => some (timersCb s now)

end StkTimers

end Phonelets.Stk
