import Mathlib.Data.Int.Notation
import Mathlib.Tactic.Common

/-! # The Telit driver and the SIM Access plugin

`telit.c` drives a modem over two serial lines, `data->modem` and `data->chat`. Where the
SIM card is elsewhere, `sap.c` has it relay the messages of the SIM server between the
modem (`data->hw_io`) and a Bluetooth socket (`data->bt_io`) or, over WiFi, a D-Bus service.

The state has what the driver keeps, what the core keeps of the power of each modem, and
what waits in the main loop: AT commands, notifications, watches and D-Bus calls. One event
is one callback of the main loop, which runs to its end. A modem is not removed here.

The functions leave marks where something is done with a channel: `marks` is read by no
function, and is there to say what a run has done.
-/

namespace Phonelets.Telit

/-! ## The state -/

/-- The modems of the core: that of the driver, and one for each SIM server. -/
inductive Modem where
  | hw
  | sap (k : ℕ)
  deriving DecidableEq

/-- The two fields of `struct ofono_modem` that say whether a modem is on. -/
structure Power where
  powered : Bool
  poweredPending : Bool

/-- The AT commands that are sent with a callback: `+CFUN=4`, `+CFUN=0`, `#RSEN=1,1,0,2,0`
and `#RSEN=0`. -/
inductive AtCommand where
  | cfunEnable | cfunDisable | rsenEnable | rsenDisable
  deriving DecidableEq

/-- The channel that a watch is on. -/
inductive Watch where
  | hw | bt

/-- What a function has done: it stored a value in one of the four channel fields, which
held an open channel or not; it ran `sap_close_io`; it left an enable that failed, with
nothing open or not; `sap_enable` returned `-EINPROGRESS`, with something to wait for or not. -/
inductive Mark where
  | stored (held : Bool)
  | closing (hwIo : Option ℕ)
  | enableFailed (clear : Bool)
  | inProgress (waiting : Bool)

/-- The error codes of the enables. -/
inductive Errno where
  | inval | io | inProgress
  deriving DecidableEq

/-- `struct telit_data`, the parts of `struct ofono_modem` and `struct sap_data` it works
with, and what is under way. Chats, channels, watches and calls are numbered as they come. -/
structure Driver where
  chat : Option ℕ
  modem : Option ℕ
  hwIo : Option ℕ
  btIo : Option ℕ
  hwWatch : Option ℕ
  btWatch : Option ℕ
  sapModem : Option ℕ
  /-- Of every modem. -/
  power : Modem → Power
  /-- Of every SIM server, whether `data->sap_driver` is set. -/
  sapDriver : ℕ → Bool
  /-- The references to chats, one entry for each. -/
  refs : List ℕ
  /-- The slave of a chat. -/
  slaves : List (ℕ × ℕ)
  /-- The chats whose line has hung up. -/
  hungUp : List ℕ
  /-- The commands in the queues of the chats, in the order they were sent. -/
  pending : List (ℕ × AtCommand)
  /-- The chats on which `#RSEN:` is registered. -/
  rsen : List ℕ
  /-- The watches in the main loop. -/
  sources : List (ℕ × Watch)
  /-- The calls of `ConnectFD` without a reply, and the SIM server each is for. -/
  calls : List (ℕ × ℕ)
  next : ℕ
  /-- A null pointer was followed. -/
  crashed : Bool
  marks : List Mark

/-- What the calls of an enable come back with: the type of the SIM server, whether `ConnectFD` is
sent, whether the lines, the device and the two channels open, and whether there is a bus
with the owner of the service. -/
structure Results where
  wifi : Bool
  connect : Bool
  modem : Bool
  aux : Bool
  device : Bool
  hwChannel : Bool
  btChannel : Bool
  bus : Bool
  owner : Bool

namespace Driver

/-- The state after `telit_probe`. -/
def probed : Driver where
  chat := none
  modem := none
  hwIo := none
  btIo := none
  hwWatch := none
  btWatch := none
  sapModem := none
  power := fun _ => ⟨false, false⟩
  sapDriver := fun _ => false
  refs := []
  slaves := []
  hungUp := []
  pending := []
  rsen := []
  sources := []
  calls := []
  next := 0
  crashed := false
  marks := []

/-! ## What the marks say -/

/-- A line that has hung up is no open channel. -/
def isOpen (s : Driver) (c : Option ℕ) : Bool := c.any fun c => decide (c ∉ s.hungUp)

/-- The channels of the SIM Access link are closed and both watches are removed. -/
def IoClear (s : Driver) : Prop :=
  s.hwIo = none ∧ s.btIo = none ∧ s.hwWatch = none ∧ s.btWatch = none ∧ s.sources = []

/-- All four channels are closed and both watches are removed. -/
def Clear (s : Driver) : Prop := s.chat = none ∧ s.modem = none ∧ s.IoClear

instance (s : Driver) : Decidable s.IoClear := by unfold IoClear; infer_instance

instance (s : Driver) : Decidable s.Clear := by unfold Clear; infer_instance

/-- Something that came after `since` is still to be answered or to fire. -/
def waiting (since : ℕ) (s : Driver) : Bool :=
  s.pending.any (fun p => decide (since ≤ p.1)) ||
    s.sources.any (fun p => decide (since ≤ p.1)) || s.calls.any (fun p => decide (since ≤ p.1))

def mark (m : Mark) (s : Driver) : Driver := { s with marks := m :: s.marks }

/-- The mark of an enable that has failed. -/
def enableFailed (s : Driver) : Driver := s.mark (.enableFailed (decide s.Clear))

def crash (s : Driver) : Driver := { s with crashed := true }

/-! ## The core and the chats -/

def ofonoModemSetPowered (m : Modem) (powered : Bool) (s : Driver) : Driver :=
  { s with power := Function.update s.power m ⟨powered, powered⟩ }

/-- `g_at_chat_cancel_all` and `g_at_chat_unregister_all`. -/
def cancelAll (c : Option ℕ) (s : Driver) : Driver :=
  { s with
    pending := s.pending.filter fun p => some p.1 != c
    rsen := s.rsen.filter fun d => some d != c }

/-- A chat has one reference less; the last takes its queue and its notifications with it. -/
def release (c : ℕ) (s : Driver) : Driver :=
  let s := { s with refs := s.refs.erase c }
  if c ∈ s.refs then s else s.cancelAll (some c)

/-- `g_at_chat_unref`. -/
def unref (c : Option ℕ) (s : Driver) : Driver :=
  match c with
  | none => s
  | some c =>
    let s := s.release c
    if c ∈ s.refs then s
    else
      -- the reference to its slave goes with the chat; a slave has no slave here
      match s.slaves.lookup c with
      | none => s
      | some slave => s.release slave

/-- `g_at_chat_send` to `data->chat`, with a callback. -/
def send (cmd : AtCommand) (s : Driver) : Driver :=
  match s.chat with
  | none => s.crash
  | some c =>
    -- a line that has hung up has lost its queue
    if c ∈ s.hungUp then s else { s with pending := s.pending ++ [(c, cmd)] }

/-- `g_at_chat_register` of `telit_rsen_notify` on `data->chat`. -/
def registerRsen (s : Driver) : Driver :=
  match s.chat with
  | none => s
  | some c => if c ∈ s.hungUp then s else { s with rsen := c :: s.rsen }

/-- `bt_watch_remove` and `hw_watch_remove`, which run when a watch leaves the main loop. -/
def watchRemove (w : Watch) (s : Driver) : Driver :=
  let s := s.ofonoModemSetPowered .hw false
  match w with
  | .hw => { s with hwWatch := none }
  | .bt => { s with btWatch := none }

/-- `g_source_remove`, where the id of the watch is not zero. -/
def sourceRemove (id : Option ℕ) (s : Driver) : Driver :=
  match id with
  | none => s
  | some i =>
    match s.sources.lookup i with
    | none => s
    | some w => { s with sources := s.sources.filter fun p => p.1 != i }.watchRemove w

/-! ## The driver -/

def sapCloseIo (s : Driver) : Driver :=
  let s := { s with btIo := none }
  let s := s.sourceRemove s.btWatch
  let s := { s.mark (.closing s.hwIo) with hwIo := none }
  s.sourceRemove s.hwWatch

/-- `open_device`, with the reference its caller gets. -/
def openDevice (ok : Bool) (s : Driver) : Option ℕ × Driver :=
  if ok then (some s.next, { s with next := s.next + 1, refs := s.next :: s.refs }) else (none, s)

/-- The two lines are opened in the same way by all three enables, with the two exits for
those that do not open. -/
def openDevices (r : Results) (s : Driver) : Option Errno × Driver :=
  let (modem, t) := s.openDevice r.modem
  let s := { t.mark (.stored (s.isOpen s.modem)) with modem := modem }
  match modem with
  | none => (some .inval, s)
  | some m =>
    let (chat, t) := s.openDevice r.aux
    let s := { t.mark (.stored (s.isOpen s.chat)) with chat := chat }
    match chat with
    | none => (some .io, { s.unref modem with modem := none })
    | some c =>
      -- `g_at_chat_set_slave`
      (none, { s with slaves := (m, c) :: s.slaves, refs := c :: s.refs })

def cfunEnableCb (ok : Bool) (s : Driver) : Driver :=
  let m := s.sapModem.elim Modem.hw Modem.sap
  if ok then
    -- the first of the commands without a callback
    if s.chat = none then s.crash else s.ofonoModemSetPowered m true
  else
    let s := { s.unref s.chat with chat := none }
    (s.ofonoModemSetPowered m false).sapCloseIo.enableFailed

def telitEnable (r : Results) (s : Driver) : Errno × Driver :=
  match s.openDevices r with
  | (some err, s) => (err, s.enableFailed)
  | (none, s) => (.inProgress, s.send .cfunEnable)

def telitRsenNotify (status : ℤ) (r : Results) (s : Driver) : Driver :=
  if status = 0 then
    match s.sapModem with
    | none => s.crash
    | some k =>
      let t := (s.ofonoModemSetPowered (.sap k) false).sapCloseIo
      -- with the link up this ends it, else it is the attempt that has failed
      if (s.power (.sap k)).powered then t else t.enableFailed
  else (s.telitEnable r).2

def rsenEnableCb (ok : Bool) (s : Driver) : Driver :=
  if ok then s
  else
    match s.sapModem with
    | none => s.crash
    | some k => (s.ofonoModemSetPowered (.sap k) false).sapCloseIo.enableFailed

def cfunDisableCb (ok : Bool) (s : Driver) : Driver :=
  let m := s.sapModem.elim Modem.hw Modem.sap
  let s := { s.unref s.chat with chat := none }
  let s := if ok then s.ofonoModemSetPowered m false else s
  { s with sapModem := none }

def telitDisable (s : Driver) : Errno × Driver :=
  let s := s.cancelAll s.modem
  let s := { s.unref s.modem with modem := none }
  let s := s.cancelAll s.chat
  (.inProgress, s.send .cfunDisable)

/-- `rsen_disable_cb`, which does not look at its result. -/
def rsenDisableCb (s : Driver) : Driver := s.sapCloseIo.telitDisable.2

/-- `data->hw_io = g_io_channel_unix_new(fd)`. -/
def assignHwIo (ok : Bool) (s : Driver) : Driver :=
  { s.mark (.stored s.hwIo.isSome) with
    hwIo := if ok then some s.next else none
    next := s.next + 1 }

/-- `data->bt_io = g_io_channel_unix_new(bt_fd)`. -/
def assignBtIo (ok : Bool) (s : Driver) : Driver :=
  { s.mark (.stored s.btIo.isSome) with
    btIo := if ok then some s.next else none
    next := s.next + 1 }

/-- `g_io_add_watch_full` on `data->hw_io`. -/
def addHwWatch (s : Driver) : Driver :=
  { s with hwWatch := some s.next, sources := (s.next, .hw) :: s.sources, next := s.next + 1 }

/-- `g_io_add_watch_full` on `data->bt_io`. -/
def addBtWatch (s : Driver) : Driver :=
  { s with btWatch := some s.next, sources := (s.next, .bt) :: s.sources, next := s.next + 1 }

/-- The end of the two enables of `telit_sap_enable`. -/
def askForRsen (k : ℕ) (s : Driver) : Driver :=
  { s with sapModem := some k }.registerRsen.send .rsenEnable

def telitSapEnableWifi (k : ℕ) (r : Results) (s : Driver) : Errno × Driver :=
  match s.openDevices r with
  | (some err, s) => (err, s)
  | (none, s) =>
    if !r.device then (.inval, s.sapCloseIo)
    else
      let s := s.assignHwIo r.hwChannel
      if !r.hwChannel then (.inval, s.sapCloseIo)
      -- these two return without going through the label
      else if !r.bus then (.io, s)
      else if !r.owner then (.io, s)
      else (.inProgress, s.addHwWatch.askForRsen k)

def telitSapEnableBt (k : ℕ) (r : Results) (s : Driver) : Errno × Driver :=
  match s.openDevices r with
  | (some err, s) => (err, s)
  | (none, s) =>
    if !r.device then (.inval, s.sapCloseIo)
    else
      let s := s.assignHwIo r.hwChannel
      if !r.hwChannel then (.inval, s.sapCloseIo)
      else
        let s := s.assignBtIo r.btChannel
        if !r.btChannel then (.inval, s.sapCloseIo)
        else (.inProgress, s.addHwWatch.addBtWatch.askForRsen k)

/-- `telit_sap_enable`: a descriptor of zero is none. -/
def telitSapEnable (k fd : ℕ) (r : Results) (s : Driver) : Errno × Driver :=
  let t := if fd = 0 then s.telitSapEnableWifi k r else s.telitSapEnableBt k r
  (t.1, if t.1 = .inProgress then t.2 else t.2.enableFailed)

def telitSapDisable (s : Driver) : Errno × Driver := (.inProgress, s.send .rsenDisable)

/-! ## The plugin -/

/-- `sap_enable` returns `-EINPROGRESS`; `since` is the first number of its attempt. -/
def returnInProgress (since : ℕ) (s : Driver) : Errno × Driver :=
  (.inProgress, s.mark (.inProgress (s.waiting since)))

/-- `bluetooth_send_with_reply` of `ConnectFD`. -/
def connectFd (k : ℕ) (s : Driver) : Driver :=
  { s with calls := s.calls ++ [(s.next, k)], next := s.next + 1 }

/-- The driver of the SIM server's modem is from now on that of the Telit modem. -/
def attachDriver (k : ℕ) (s : Driver) : Driver :=
  { s with sapDriver := Function.update s.sapDriver k true }

def sapEnable (k : ℕ) (r : Results) (s : Driver) : Errno × Driver :=
  if r.wifi then
    if (s.power (.sap k)).powered then s.returnInProgress s.next
    else
      -- an error is not returned: it falls through to the label
      ((s.attachDriver k).telitSapEnable k 0 r).2.returnInProgress s.next
  else if r.connect then (s.connectFd k).returnInProgress s.next
  else (.inval, s)

def sapDisable (k : ℕ) (s : Driver) : Errno × Driver :=
  if s.sapDriver k then s.telitSapDisable else (.inval, s.crash)

/-- `sap_connect_reply`; `fd` is none where the reply is an error or has no descriptor. -/
def sapConnectReply (k : ℕ) (fd : Option ℕ) (r : Results) (s : Driver) : Driver :=
  if (s.power (.sap k)).powered then s.ofonoModemSetPowered (.sap k) false
  else
    match fd with
    | none => s.ofonoModemSetPowered (.sap k) false
    | some fd =>
      let t := (s.attachDriver k).telitSapEnable k fd r
      if t.1 = .inProgress then t.2 else t.2.ofonoModemSetPowered (.sap k) false

/-! ## The core -/

/-- `enable` of the driver of a modem. -/
def enable (m : Modem) (r : Results) (s : Driver) : Errno × Driver :=
  match m with
  | .hw => s.telitEnable r
  | .sap k => s.sapEnable k r

/-- `disable` of the driver of a modem. -/
def disable (m : Modem) (s : Driver) : Errno × Driver :=
  match m with
  | .hw => s.telitDisable
  | .sap k => s.sapDisable k

def setPoweredPending (m : Modem) (pending : Bool) (s : Driver) : Driver :=
  { s with power := Function.update s.power m ⟨(s.power m).powered, pending⟩ }

/-- `set_powered` of the core. No driver here returns zero. -/
def setPowered (m : Modem) (powered : Bool) (r : Results) (s : Driver) : Driver :=
  if (s.power m).poweredPending = powered then s
  else
    let s := s.setPoweredPending m powered
    let t := if powered then s.enable m r else s.disable m
    if t.1 = .inProgress then t.2 else t.2.setPoweredPending m (t.2.power m).powered

def setPoweredTimeout (m : Modem) (s : Driver) : Driver :=
  if (s.power m).poweredPending then s.setPoweredPending m (s.power m).powered
  else { s with power := Function.update s.power m ⟨false, false⟩ }

/-- The callback of a command. -/
def atReply (cmd : AtCommand) (ok : Bool) (s : Driver) : Driver :=
  match cmd with
  | .cfunEnable => s.cfunEnableCb ok
  | .cfunDisable => s.cfunDisableCb ok
  | .rsenEnable => s.rsenEnableCb ok
  | .rsenDisable => s.rsenDisableCb

end Driver

/-! ## Runs -/

/-- What the main loop calls: the core, for a client or of its own; a timer of the core; the
reply to a `ConnectFD`; the final response to a command; a `#RSEN:`; a watch that fires
for the last time; the end of a serial line. -/
inductive Event where
  | setPowered (m : Modem) (powered : Bool) (r : Results)
  | timeout (m : Modem)
  | connectReply (call : ℕ) (fd : Option ℕ) (r : Results)
  | atReply (chat : ℕ) (cmd : AtCommand) (ok : Bool)
  | rsenNotify (chat : ℕ) (status : ℤ) (r : Results)
  | hangUp (source : ℕ)
  | lineHangUp (chat : ℕ)

open Driver in
/-- One event, where it can come. -/
def step (s : Driver) (e : Event) : Option Driver :=
  if s.crashed then none
  else
    match e with
    | .setPowered m powered r => some (s.setPowered m powered r)
    | .timeout m => some (s.setPoweredTimeout m)
    | .connectReply call fd r =>
      match s.calls.lookup call with
      | none => none
      | some k =>
        some ({ s with calls := s.calls.filter fun p => p.1 != call }.sapConnectReply k fd r)
    | .atReply c cmd ok =>
      -- the queue of a chat is answered in its order
      if s.pending.lookup c = some cmd then
        some ({ s with pending := s.pending.erase (c, cmd) }.atReply cmd ok)
      else none
    | .rsenNotify c status r => if c ∈ s.rsen then some (s.telitRsenNotify status r) else none
    | .hangUp i =>
      match s.sources.lookup i with
      | none => none
      | some _ => some (s.sourceRemove (some i))
    | .lineHangUp c =>
      if c ∈ s.refs ∧ c ∉ s.hungUp then
        some { s.cancelAll (some c) with hungUp := c :: s.hungUp }
      else none

end Phonelets.Telit
