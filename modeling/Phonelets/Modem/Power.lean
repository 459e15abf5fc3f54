import Mathlib.Data.List.Basic
import Mathlib.Data.Option.Basic
import Phonelets.Lib.Machine

/-! # The power of a modem

`powered`, `online`, `lockdown` and the state of a modem are changed by requests of the bus,
by its driver, by its SIM and by timers of the main loop. A request is answered at once, or it
is kept in `pending` until the driver, a callback or a timer answers it.
-/

namespace Phonelets.Modem

/-! ## The modem -/

inductive ModemState
  | powerOff
  | preSim
  | offline
  | online
deriving DecidableEq

/-- The order of the constants. -/
def ModemState.rank : ModemState → ℕ
  | .powerOff => 0
  | .preSim => 1
  | .offline => 2
  | .online => 3

/-- `enum ofono_sim_state`. -/
inductive SimState
  | notPresent
  | inserted
  | lockedOut
  | ready
  | resetting

/-- An answer to a request: `ok`, or the error of that name. -/
inductive Reply
  | ok
  | invalidArgs
  | notAvailable
  | notImplemented
  | busy
  | failed
  | timedOut
  | accessDenied
  | emergencyActive
deriving DecidableEq

/-- What `enable` and `disable` of a driver return: 0, `-EINPROGRESS` or another error. -/
inductive DriverResult
  | ok
  | inProgress
  | error
deriving DecidableEq

/-- The callbacks that a driver gets with `set_online`. -/
inductive OnlineCb
  | common
  | online
  | offline

/-- What is fixed about a modem: whether its driver has a `set_online`, whether it has the
property `AlwaysOnline`, and whether `pre_sim` creates a SIM atom. -/
structure ModemDriver where
  setOnline : Bool
  alwaysOnline : Bool
  preSim : Bool

/-- `struct ofono_modem`, with the answers that were sent and with what the main loop and the
driver still have to call. A message is its number among those received. -/
structure OfonoModem where
  modemState : ModemState
  pending : Option ℕ
  powered : Bool
  poweredPending : Bool
  getOnline : Bool
  lockdown : Bool
  lockOwner : Option String
  lockWatch : Bool
  timeout : ℕ
  online : Bool
  emergency : ℕ
  /-- The property `SAP_type`. -/
  sapType : Option String
  /-- The state in which the SIM atom was created. -/
  sim : Option ModemState
  timers : List ℕ
  nextTimer : ℕ
  callbacks : List OnlineCb
  received : ℕ
  sent : List (ℕ × Reply)

/-- A modem that has been registered. -/
def OfonoModem.start : OfonoModem where
  modemState := .powerOff
  pending := none
  powered := false
  poweredPending := false
  getOnline := false
  lockdown := false
  lockOwner := none
  lockWatch := false
  timeout := 0
  online := false
  emergency := 0
  sapType := none
  sim := none
  timers := []
  nextTimer := 1
  callbacks := []
  received := 0
  sent := []

namespace OfonoModem

/-! ## Answers and timers -/

def answer (m : OfonoModem) (msg : ℕ) (reply : Reply) : OfonoModem :=
  { m with sent := m.sent ++ [(msg, reply)] }

/-- `__ofono_dbus_pending_reply`; nothing is sent where nothing is pending. -/
def pendingReply (m : OfonoModem) (reply : Reply) : OfonoModem :=
  { m with pending := none, sent := m.sent ++ m.pending.toList.map fun msg => (msg, reply) }

/-- The request stays pending under a timer of its own. -/
def wait (m : OfonoModem) (msg : ℕ) : OfonoModem :=
  { m with
    pending := some msg
    timeout := m.nextTimer
    timers := m.nextTimer :: m.timers
    nextTimer := m.nextTimer + 1 }

/-! ## Online and the state -/

def setOnline (m : OfonoModem) (newOnline : Bool) : OfonoModem := { m with online := newOnline }

/-- `flush_atoms`, of the SIM atom. -/
def flushAtoms (m : OfonoModem) (newState : ModemState) : OfonoModem :=
  { m with sim := m.sim.filter fun created => created.rank ≤ newState.rank }

/-- The callbacks of the driver in `modem_change_state`. -/
def probe (d : ModemDriver) (m : OfonoModem) (oldState : ModemState) : OfonoModem :=
  if m.modemState = .preSim ∧ oldState = .powerOff ∧ d.preSim then { m with sim := some .preSim }
  else m

def modemChangeState (d : ModemDriver) (m : OfonoModem) (newState : ModemState) : OfonoModem :=
  if m.modemState = newState then m
  else if newState.rank < m.modemState.rank then
    probe d (flushAtoms { m with modemState := newState } newState) m.modemState
  else probe d { m with modemState := newState } m.modemState

def modemIsAlwaysOnline (d : ModemDriver) : Bool := !d.setOnline || d.alwaysOnline

/-- `sim_state_watch` for `OFONO_SIM_STATE_READY`, behind the step to the offline state. -/
def simReady (d : ModemDriver) (m : OfonoModem) : OfonoModem :=
  if m.online then { modemChangeState d m .online with getOnline := false }
  else if m.getOnline then { m with callbacks := m.callbacks ++ [.common], getOnline := false }
  else m

def simStateWatch (d : ModemDriver) (m : OfonoModem) : SimState → OfonoModem
  | .notPresent => modemChangeState d m .preSim
  | .inserted => m
  | .resetting => m
  | .lockedOut => modemChangeState d m .preSim
  | .ready =>
    if modemIsAlwaysOnline d then simReady d (setOnline (modemChangeState d m .offline) true)
    else simReady d (modemChangeState d m .offline)

def commonOnlineCb (d : ModemDriver) (m : OfonoModem) (error : Bool) : OfonoModem :=
  if error then m
  else
    match m.modemState with
    | .offline => modemChangeState d (setOnline m true) .online
    | .powerOff => m
    | .preSim => setOnline m true
    | .online => m

/-- The answer of a callback. -/
def cbReply (error : Bool) : Reply := if error then .failed else .ok

def onlineCb (d : ModemDriver) (m : OfonoModem) (error : Bool) : OfonoModem :=
  commonOnlineCb d (m.pendingReply (cbReply error)) error

/-- What `offline_cb` does when the driver succeeded. -/
def wentOffline (d : ModemDriver) (m : OfonoModem) : OfonoModem :=
  match m.modemState with
  | .preSim => setOnline m false
  | .online => modemChangeState d (setOnline m false) .offline
  | _ => m

/-- `offline_cb`, which does not look whether a message is pending. -/
def offlineCb (d : ModemDriver) (m : OfonoModem) (error : Bool) : Option OfonoModem :=
  match m.pending with
  | none => none
  | some _ =>
    if error then some (m.pendingReply (cbReply error))
    else some (wentOffline d (m.pendingReply (cbReply error)))

/-! ## Powered -/

/-- `set_powered`; `-EALREADY` is one of the other errors. -/
def setPowered (d : ModemDriver) (m : OfonoModem) (powered : Bool) (result : DriverResult) :
    DriverResult × OfonoModem :=
  if m.poweredPending = powered then (.error, m)
  else
    -- the atoms go before it is known whether the driver can be disabled
    let off := if powered then m else modemChangeState d m .powerOff
    match result with
    | .ok => (.ok, { off with poweredPending := powered, powered := powered })
    | .inProgress => (.inProgress, { off with poweredPending := powered })
    | .error => (.error, { off with poweredPending := off.powered })

/-- The modem has been powered on; without a SIM atom it is as if the SIM were ready. -/
def poweredOn (d : ModemDriver) (m : OfonoModem) : OfonoModem :=
  if (modemChangeState d m .preSim).sim = none then
    simStateWatch d (modemChangeState d m .preSim) .ready
  else modemChangeState d m .preSim

/-- The modem has been powered off. -/
def poweredOff (d : ModemDriver) (m : OfonoModem) : OfonoModem :=
  modemChangeState d (setOnline m false) .powerOff

/-- What follows a change of `powered`. -/
def poweredChanged (d : ModemDriver) (m : OfonoModem) (powered : Bool) : OfonoModem :=
  if powered then poweredOn d m else poweredOff d m

def lockdownRemove (m : OfonoModem) : OfonoModem :=
  { m with lockWatch := false, lockOwner := none, lockdown := false }

/-- `set_powered_timeout`, before it answers. -/
def timedOut (m : OfonoModem) : OfonoModem :=
  if m.poweredPending then { m with timeout := 0, poweredPending := m.powered }
  else { setOnline m false with timeout := 0, powered := false }

/-- `set_powered_timeout`, of the timer `id` of the main loop. -/
def setPoweredTimeout (m : OfonoModem) (id : ℕ) : OfonoModem :=
  let fired := timedOut { m with timers := m.timers.erase id }
  if fired.pending = none then fired
  else if fired.lockdown then lockdownRemove (fired.pendingReply .timedOut)
  else fired.pendingReply .timedOut

def lockdownDisconnect (m : OfonoModem) : OfonoModem := lockdownRemove m

/-- The timer of the modem is removed. -/
def removeTimeout (m : OfonoModem) : OfonoModem :=
  if m.timeout = 0 then m else { m with timers := m.timers.erase m.timeout, timeout := 0 }

/-- The answer in `ofono_modem_set_powered`. -/
def poweredReply (m : OfonoModem) (powered : Bool) : OfonoModem :=
  if m.poweredPending = m.powered then m
  else m.pendingReply (if powered = m.poweredPending then .ok else .failed)

def ofonoModemSetPowered (d : ModemDriver) (m : OfonoModem) (powered : Bool) : OfonoModem :=
  let m' := { poweredReply (removeTimeout m) powered with poweredPending := powered }
  if m'.powered = powered then m' else poweredChanged d { m' with powered := powered } powered

/-- `ofono_modem_reset`, behind `ofono_modem_set_powered`. -/
def poweredAgain (d : ModemDriver) (m : OfonoModem) (result : DriverResult) : OfonoModem :=
  match setPowered d m true result with
  | (.inProgress, m') => m'
  | (_, m') => modemChangeState d m' .preSim

def ofonoModemReset (d : ModemDriver) (m : OfonoModem) (result : DriverResult) : OfonoModem :=
  let m' := m.pendingReply .failed
  let m' := if m'.modemState = .online then { m' with getOnline := true } else m'
  poweredAgain d (ofonoModemSetPowered d m' false) result

/-! ## The requests -/

/-- `set_property_online`; a value that is not a boolean is `none`. -/
def setPropertyOnline (d : ModemDriver) (m : OfonoModem) (msg : ℕ) (var : Option Bool) :
    OfonoModem :=
  if m.powered = false then m.answer msg .notAvailable
  else
    match var with
    | none => m.answer msg .invalidArgs
    | some online =>
      if m.pending ≠ none then m.answer msg .busy
      else if m.online = online then m.answer msg .ok
      else if m.emergency ≠ 0 then m.answer msg .emergencyActive
      else if modemIsAlwaysOnline d then m.answer msg .notImplemented
      else
        { m with
          pending := some msg
          callbacks := m.callbacks ++ [if online then .online else .offline] }

/-- `set_property_lockdown` where the modem is powered and has been locked. -/
def lockdownPowerOff (d : ModemDriver) (m : OfonoModem) (msg : ℕ) (result : DriverResult) :
    OfonoModem :=
  match setPowered d m false result with
  | (.error, m') => (lockdownRemove m').answer msg .failed
  | (.inProgress, m') => m'.wait msg
  | (.ok, m') => (setOnline m' false).answer msg .ok

/-- `set_property_lockdown`; `watch` tells whether the sender can be watched. -/
def setPropertyLockdown (d : ModemDriver) (m : OfonoModem) (msg : ℕ) (var : Option Bool)
    (caller : String) (watch : Bool) (result : DriverResult) : OfonoModem :=
  match var with
  | none => m.answer msg .invalidArgs
  | some lockdown =>
    if m.pending ≠ none then m.answer msg .busy
    else if m.lockdown ∧ m.lockOwner ≠ some caller then m.answer msg .accessDenied
    else if m.lockdown = lockdown then m.answer msg .ok
    else if lockdown = false then (lockdownRemove m).answer msg .ok
    else if m.emergency ≠ 0 then m.answer msg .emergencyActive
    else if watch = false then
      { m with lockOwner := none, lockWatch := false }.answer msg .failed
    else if m.powered = false then
      { m with lockOwner := some caller, lockWatch := true, lockdown := true }.answer msg .ok
    else
      lockdownPowerOff d
        { m with lockOwner := some caller, lockWatch := true, lockdown := true } msg result

/-- `modem_set_property` for `Powered` where `powered` is to change. -/
def changePowered (d : ModemDriver) (m : OfonoModem) (msg : ℕ) (powered : Bool)
    (result : DriverResult) : OfonoModem :=
  match setPowered d m powered result with
  | (.error, m') => m'.answer msg .failed
  | (.inProgress, m') => m'.wait msg
  | (.ok, m') => poweredChanged d (m'.answer msg .ok) powered

/-- `modem_set_property` for `Powered`. -/
def setPropertyPowered (d : ModemDriver) (m : OfonoModem) (msg : ℕ) (var : Option Bool)
    (type : String) (result : DriverResult) : OfonoModem :=
  match var with
  | none => m.answer msg .invalidArgs
  | some powered =>
    -- the property is set before the request is looked at
    let m' := { m with sapType := some type }
    if m'.pending ≠ none then m'.answer msg .busy
    else if m'.powered = powered then m'.answer msg .ok
    else if m'.emergency ≠ 0 then m'.answer msg .emergencyActive
    else if m'.lockdown then m'.answer msg .accessDenied
    else changePowered d m' msg powered result

/-- A message `SetProperty`, with what `enable` or `disable` returns when it is called and
whether the sender can be watched. The signature `svis` is checked by the bus; when the timer
fires is open. -/
structure SetProperty where
  name : String
  value : Option Bool
  timeout : Int
  type : String
  sender : String
  watch : Bool
  result : DriverResult

def modemSetProperty (d : ModemDriver) (m : OfonoModem) (msg : ℕ) (p : SetProperty) :
    OfonoModem :=
  if p.name = "Online" then setPropertyOnline d m msg p.value
  else if p.name = "Powered" then setPropertyPowered d m msg p.value p.type p.result
  else if p.name = "Lockdown" then setPropertyLockdown d m msg p.value p.sender p.watch p.result
  else m.answer msg .invalidArgs

/-! ## Events -/

/-- What can come to the modem. Timers and callbacks that it does not have are passed over. -/
inductive Event
  | setProperty (p : SetProperty)
  /-- The driver calls `ofono_modem_set_powered`. -/
  | setPowered (powered : Bool)
  | timeout (id : ℕ)
  /-- The driver calls one of its callbacks. -/
  | callback (i : ℕ) (error : Bool)
  | simState (newState : SimState)
  | simReset
  | simCreate
  | simRemove
  | emergency (n : ℕ)
  | lockdownDisconnect
  | reset (result : DriverResult)

/-- A callback of the driver. -/
def callback (d : ModemDriver) (m : OfonoModem) (error : Bool) : OnlineCb → Option OfonoModem
  | .common => some (commonOnlineCb d m error)
  | .online => some (onlineCb d m error)
  | .offline => offlineCb d m error

/-- An event. Messages of the SIM need a SIM atom, which needs a modem that is not off; `none`
is the use of a message that is not there. -/
def handle (d : ModemDriver) (m : OfonoModem) : Event → Option OfonoModem
  | .setProperty p =>
    some (modemSetProperty d { m with received := m.received + 1 } m.received p)
  | .setPowered powered => some (ofonoModemSetPowered d m powered)
  | .timeout id => if id ∈ m.timers then some (setPoweredTimeout m id) else some m
  | .callback i error =>
    match m.callbacks[i]? with
    | none => some m
    | some cb => callback d { m with callbacks := m.callbacks.eraseIdx i } error cb
  | .simState newState => if m.sim = none then some m else some (simStateWatch d m newState)
  | .simReset => if m.sim = none then some m else some (modemChangeState d m .preSim)
  | .simCreate =>
    if m.modemState = .powerOff ∨ m.sim ≠ none then some m
    else some { m with sim := some m.modemState }
  | .simRemove => some { m with sim := none }
  | .emergency n => some { m with emergency := n }
  | .lockdownDisconnect => if m.lockWatch then some (lockdownDisconnect m) else some m
  | .reset result => some (ofonoModemReset d m result)

end OfonoModem

end Phonelets.Modem
