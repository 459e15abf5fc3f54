import Phonelets.Lib.Replica
import Phonelets.Ss.Common

/-! # The call barring atom

The atom keeps the locks twice. A chain of queries writes its answers into `newLocks` one by one,
and `GetProperties` reads them there; `updateBarrings` compares with `curLocks` when the chain is
through, within the bounds that the last request has set, and signals what is different.

A message waits in `pending` while a call of the driver is out, so that `pending` also says which
callback the driver has been given.
-/

namespace Phonelets.Ss

/-! ## Data -/

/-- The facilities, `fac` in `cb_locks`. -/
inductive Fac
  | ao
  | oi
  | ox
  | ai
  | ir
  | ab
  | ag
  | ac
deriving DecidableEq

/-- `struct call_barring_lock`; `value` is NULL for the services that are several locks. -/
structure CallBarringLock where
  name : String
  value : Option String
  fac : Fac

def cbLocks : List CallBarringLock :=
  [⟨"AllOutgoing", some "all", .ao⟩,
    ⟨"InternationalOutgoing", some "international", .oi⟩,
    ⟨"InternationalOutgoingExceptHome", some "internationalnothome", .ox⟩,
    ⟨"AllIncoming", some "always", .ai⟩,
    ⟨"IncomingWhenRoaming", some "whenroaming", .ir⟩,
    ⟨"AllBarringServices", none, .ab⟩,
    ⟨"AllOutgoingServices", none, .ag⟩,
    ⟨"AllIncomingServices", none, .ac⟩]

def cbOutgoingStart : ℕ := 0
def cbOutgoingEnd : ℕ := 2
def cbIncomingStart : ℕ := 3
def cbIncomingEnd : ℕ := 4
def cbAllStart : ℕ := 0
def cbAllEnd : ℕ := 4
def cbAllOutgoing : ℕ := 6
def cbAllIncoming : ℕ := 7

/-- `cb_locks[i].name`. -/
def lockName (i : ℕ) : String := (cbLocks[i]?.map (·.name)).getD ""

/-- `cb_locks[i].value`. -/
def lockValue (i : ℕ) : String := (cbLocks[i]?.bind (·.value)).getD ""

/-- `cb_locks[i].fac`. -/
def lockFac (i : ℕ) : Fac := (cbLocks[i]?.map (·.fac)).getD .ab

/-- The callbacks that a driver may have to call. -/
inductive CbCallback
  | setLock
  | disableAll
  | ssSetLock
  | ssQueryNextLock
  | getQueryLock
  | setQueryLock
  | setPasswd
deriving DecidableEq

/-- `struct ofono_call_barring`. -/
structure CallBarring where
  cached : Bool
  pending : Option CbCallback
  curLocks : ℕ → ClassMask
  newLocks : ℕ → ClassMask
  queryStart : ℕ
  queryEnd : ℕ
  queryNext : ℕ
  ssReqType : SsControlType
  ssReqCls : ClassMask
  ssReqLock : ℕ

/-- Which functions a driver has. Who can set is taken to be able to query. -/
structure CbDriver where
  query : Bool
  set : Bool
  setPasswd : Bool
  query_of_set : set = true → query = true

/-- The replies. That to a control string names the type, the lock and the state of each lock. -/
inductive CbReply
  | properties (dict : List (String × String))
  | done
  | ss (type name : String) (dict : List (String × String))
  | error (error : DbusError)

/-- What the atom does: it answers the message that has come, or the one that waits, sends
`PropertyChanged` or calls the driver. -/
inductive CbOutput
  | reply (r : CbReply)
  | pendingReply (r : CbReply)
  | propertyChanged (name value : String)
  | set (fac : Fac) (mode : Bool) (passwd : String) (cls : ClassMask)
  | query (fac : Fac) (cls : ClassMask)
  | setPasswd (fac : Fac) (old new : String)

/-- The arguments of `SetProperty`. There may be a third one, which may be no string. -/
structure CbSetPropertyArgs where
  name : String
  value : String
  passwd : Option (Option String)

/-- What happens to the atom: a method is called, a control string comes, or the driver calls
back. Arguments are missing where the message is malformed. -/
inductive CbEvent
  | getProperties (ussdBusy : Bool)
  | setProperty (ussdBusy : Bool) (args : Option CbSetPropertyArgs)
  | disableAll (ussdBusy : Bool) (passwd : Option String)
  | disableAllIncoming (ussdBusy : Bool) (passwd : Option String)
  | disableAllOutgoing (ussdBusy : Bool) (passwd : Option String)
  | changePassword (ussdBusy : Bool) (args : Option (String × String))
  | ssControl (c : SsControl)
  | ssPasswd (sc old new : String)
  | setDone (error : OfonoError)
  | queryDone (error : OfonoError) (status : ClassMask)
  | passwdDone (error : OfonoError)

namespace CallBarring

def start : CallBarring where
  cached := false
  pending := none
  curLocks := fun _ => 0
  newLocks := fun _ => 0
  queryStart := 0
  queryEnd := 0
  queryNext := 0
  ssReqType := .activation
  ssReqCls := 0
  ssReqLock := 0

/-! ## Signals and properties -/

/-- `for (i = start; i <= end; i++) if (locks[i] & cls) break;` with the number of rounds left. -/
def firstFrom (locks : ℕ → ClassMask) (cls : ClassMask) (i : ℕ) : ℕ → ℕ
  | 0 => i
  | n + 1 => if (locks i).has cls then i else firstFrom locks cls (i + 1) n

/-- Where that loop stops. -/
def firstLock (locks : ℕ → ClassMask) (cls : ClassMask) (start stop : ℕ) : ℕ :=
  firstFrom locks cls start (stop + 1 - start)

def emitBarringChanged (cb : CallBarring) (start stop : ℕ) (type : String) (cls : ClassMask) :
    List (String × String) :=
  let i := firstLock cb.curLocks cls start stop
  let j := firstLock cb.newLocks cls start stop
  if i = j then []
  else [(bearerClassToString cls ++ type, if j > stop then "disabled" else lockValue j)]

/-- The signals of `update_barrings`. -/
def barringSignals (cb : CallBarring) (mask : ClassMask) : List (String × String) :=
  (bearerClasses mask).flatMap fun cls =>
    cb.emitBarringChanged cb.queryStart cbOutgoingEnd "Outgoing" cls ++
      cb.emitBarringChanged cbIncomingStart cb.queryEnd "Incoming" cls

def updateBarrings (cb : CallBarring) (mask : ClassMask) : List CbOutput × CallBarring :=
  ((cb.barringSignals mask).map fun c => .propertyChanged c.1 c.2,
    { cb with
      curLocks := fun i =>
        if cb.queryStart ≤ i ∧ i ≤ cb.queryEnd then cb.newLocks i else cb.curLocks i })

def cbSsPropertyAppend (cb : CallBarring) (lock : ℕ) (mask : ClassMask) : List (String × String) :=
  (bearerClasses mask).map fun cls =>
    (bearerClassToString cls ++ lockName lock,
      if (cb.newLocks lock).has cls then "enabled" else "disabled")

def cbAppendProperty (cb : CallBarring) (start stop : ℕ) (cls : ClassMask) (property : String) :
    String × String :=
  let i := firstLock cb.newLocks cls start stop
  (bearerClassToString cls ++ property, if i ≤ stop then lockValue i else "disabled")

/-- The dictionary of `cb_get_properties_reply`. -/
def getPropertiesReply (cb : CallBarring) (mask : ClassMask) : List (String × String) :=
  (bearerClasses mask).flatMap fun cls =>
    [cb.cbAppendProperty cbOutgoingStart cbOutgoingEnd cls "Outgoing",
      cb.cbAppendProperty cbIncomingStart cbIncomingEnd cls "Incoming"]

/-! ## Chains of queries -/

def queryBounds (cb : CallBarring) (start stop : ℕ) : CallBarring :=
  { cb with queryStart := start, queryEnd := stop, queryNext := start }

def cbSetQueryBounds (cb : CallBarring) (fac : Fac) (facOnly : Bool) : CallBarring :=
  let i := cbLocks.findIdx (·.fac = fac)
  if fac = .ab then cb.queryBounds cbAllStart cbAllEnd
  else if fac = .ag then cb.queryBounds cbOutgoingStart cbOutgoingEnd
  else if fac = .ac then cb.queryBounds cbIncomingStart cbIncomingEnd
  else if facOnly then cb.queryBounds i i
  else if cbOutgoingStart ≤ i ∧ i ≤ cbOutgoingEnd then
    cb.queryBounds cbOutgoingStart cbOutgoingEnd
  else cb.queryBounds cbIncomingStart cbIncomingEnd

/-- Answers `pending`. -/
def dbusPendingReply (cb : CallBarring) (r : CbReply) : List CbOutput × CallBarring :=
  ([.pendingReply r], { cb with pending := none })

def generateSsQueryReply (cb : CallBarring) : CbReply :=
  -- all affected locks only for the services that are several locks
  let locks :=
    if cb.ssReqLock ≤ cbAllEnd then [cb.ssReqLock]
    else List.range' cb.queryStart (cb.queryEnd + 1 - cb.queryStart)
  .ss (ssControlTypeToString cb.ssReqType) (lockName cb.ssReqLock)
    (locks.flatMap fun lock => cb.cbSsPropertyAppend lock cb.ssReqCls)

/-- The class of the queries that follow a control string. -/
def ssQueryClass (cb : CallBarring) : ClassMask :=
  if cb.ssReqType = .query then cb.ssReqCls else cb.ssReqCls ||| bearerClassDefault

/-- The lock at `queryNext` gets its answer. -/
def answered (cb : CallBarring) (status : ClassMask) : CallBarring :=
  { cb with newLocks := Function.update cb.newLocks cb.queryNext status }

def cbSsQueryNextLock (cb : CallBarring) : List CbOutput × CallBarring :=
  ([.query (lockFac cb.queryNext) cb.ssQueryClass],
    { cb with pending := some .ssQueryNextLock })

def cbSsQueryNextLockCallback (cb : CallBarring) (error : OfonoError) (status : ClassMask) :
    List CbOutput × CallBarring :=
  if error.type ≠ .noError then
    dbusPendingReply { cb with cached := false } (.error (errorFromError error))
  else
    let cb := cb.answered status
    if cb.queryNext < cb.queryEnd then
      cbSsQueryNextLock { cb with queryNext := cb.queryNext + 1 }
    else
      let (replied, cb) := cb.dbusPendingReply cb.generateSsQueryReply
      let (signals, cb) := cb.updateBarrings bearerClassVoice
      (replied ++ signals, cb)

def cbSsSetLockCallback (cb : CallBarring) (error : OfonoError) : List CbOutput × CallBarring :=
  if error.type ≠ .noError then cb.dbusPendingReply (.error (errorFromError error))
  else cb.cbSsQueryNextLock

def getQueryNextLock (cb : CallBarring) : List CbOutput × CallBarring :=
  ([.query (lockFac cb.queryNext) bearerClassDefault], { cb with pending := some .getQueryLock })

def getQueryLockCallback (cb : CallBarring) (error : OfonoError) (status : ClassMask) :
    List CbOutput × CallBarring :=
  let cb :=
    if error.type = .noError then
      { cb.answered status with cached := cb.cached || cb.queryNext == cbAllEnd }
    else cb
  if cb.queryNext < cbAllEnd then
    getQueryNextLock { cb with queryNext := cb.queryNext + 1 }
  else
    let (replied, cb) := cb.dbusPendingReply (.properties (cb.getPropertiesReply bearerClassVoice))
    let (signals, cb) := cb.updateBarrings bearerClassVoice
    (replied ++ signals, cb)

def setQueryNextLock (cb : CallBarring) : List CbOutput × CallBarring :=
  ([.query (lockFac cb.queryNext) bearerClassDefault], { cb with pending := some .setQueryLock })

def setQueryLockCallback (cb : CallBarring) (error : OfonoError) (status : ClassMask) :
    List CbOutput × CallBarring :=
  if error.type ≠ .noError then dbusPendingReply { cb with cached := false } (.error .failed)
  else
    let cb := cb.answered status
    if cb.queryNext < cb.queryEnd then
      setQueryNextLock { cb with queryNext := cb.queryNext + 1 }
    else
      let (replied, cb) := cb.dbusPendingReply .done
      let (signals, cb) := cb.updateBarrings bearerClassVoice
      (replied ++ signals, cb)

def setLockCallback (cb : CallBarring) (error : OfonoError) : List CbOutput × CallBarring :=
  if error.type ≠ .noError then cb.dbusPendingReply (.error .failed) else cb.setQueryNextLock

/-- Its text is that of `set_lock_callback`. -/
def disableAllCallback (cb : CallBarring) (error : OfonoError) : List CbOutput × CallBarring :=
  cb.setLockCallback error

def cbSetPasswdCallback (cb : CallBarring) (error : OfonoError) : List CbOutput × CallBarring :=
  cb.dbusPendingReply
    (if error.type = .noError then .done else .error (errorFromError error))

/-! ## Methods -/

def cbGetProperties (driver : CbDriver) (cb : CallBarring) (ussdBusy : Bool) :
    List CbOutput × CallBarring :=
  if cb.pending.isSome || ussdBusy then ([.reply (.error .inProgress)], cb)
  else if !driver.query then ([.reply (.error .notImplemented)], cb)
  else if cb.cached then
    cb.dbusPendingReply (.properties (cb.getPropertiesReply bearerClassVoice))
  else getQueryNextLock { cb with queryNext := cbAllStart }

/-- The lock, the class and the mode that a value of a property stands for. -/
def cbLockPropertyLookup (property value : String) (mask : ClassMask) :
    Option (ℕ × ClassMask × Bool) :=
  let startsWith (cls : ClassMask) := (bearerClassToString cls).toList.isPrefixOf property.toList
  match (bearerClasses mask).find? startsWith with
  | none => none
  | some cls =>
    let rest := property.toList.drop (bearerClassToString cls).length
    let which (start stop all : ℕ) : Option (ℕ × ClassMask × Bool) :=
      if value = "disabled" then some (all, cls, false)
      else
        ((List.range' start (stop + 1 - start)).find? (lockValue · = value)).map (·, cls, true)
    if rest = "Outgoing".toList then which cbOutgoingStart cbOutgoingEnd cbAllOutgoing
    else if rest = "Incoming".toList then which cbIncomingStart cbIncomingEnd cbAllIncoming
    else none

def cbSetProperty (driver : CbDriver) (cb : CallBarring) (ussdBusy : Bool)
    (args : Option CbSetPropertyArgs) : List CbOutput × CallBarring :=
  if cb.pending.isSome || ussdBusy then ([.reply (.error .inProgress)], cb)
  else match args with
    | none => ([.reply (.error .invalidArguments)], cb)
    | some args =>
      match cbLockPropertyLookup args.name args.value bearerClassVoice with
      | none => ([.reply (.error .invalidArguments)], cb)
      | some (lock, cls, mode) =>
        match args.passwd with
        | some none => ([.reply (.error .invalidArguments)], cb)
        | passwd =>
          if passwd.any (fun text => !isValidNetPin (text.getD "")) then
            ([.reply (.error .invalidFormat)], cb)
          else if !driver.set then ([.reply (.error .notImplemented)], cb)
          else
            let cb := cb.cbSetQueryBounds (lockFac lock) false
            ([.set (lockFac lock) mode ((passwd.bind id).getD "") cls],
              { cb with pending := some .setLock })

def cbDisableAll (driver : CbDriver) (cb : CallBarring) (ussdBusy : Bool) (passwd : Option String)
    (fac : Fac) : List CbOutput × CallBarring :=
  if !driver.set then ([.reply (.error .notImplemented)], cb)
  else if cb.pending.isSome || ussdBusy then ([.reply (.error .inProgress)], cb)
  else match passwd with
    | none => ([.reply (.error .invalidArguments)], cb)
    | some passwd =>
      if !isValidNetPin passwd then ([.reply (.error .invalidFormat)], cb)
      else
        let cb := cb.cbSetQueryBounds fac false
        ([.set fac false passwd bearerClassDefault], { cb with pending := some .disableAll })

def cbDisableAb (driver : CbDriver) (cb : CallBarring) (ussdBusy : Bool)
    (passwd : Option String) : List CbOutput × CallBarring :=
  cb.cbDisableAll driver ussdBusy passwd .ab

def cbDisableAc (driver : CbDriver) (cb : CallBarring) (ussdBusy : Bool)
    (passwd : Option String) : List CbOutput × CallBarring :=
  cb.cbDisableAll driver ussdBusy passwd .ac

def cbDisableAg (driver : CbDriver) (cb : CallBarring) (ussdBusy : Bool)
    (passwd : Option String) : List CbOutput × CallBarring :=
  cb.cbDisableAll driver ussdBusy passwd .ag

def cbSetPasswd (driver : CbDriver) (cb : CallBarring) (ussdBusy : Bool)
    (args : Option (String × String)) : List CbOutput × CallBarring :=
  if !driver.setPasswd then ([.reply (.error .notImplemented)], cb)
  else if cb.pending.isSome || ussdBusy then ([.reply (.error .inProgress)], cb)
  else match args with
    | none => ([.reply (.error .invalidArguments)], cb)
    | some (old, new) =>
      if !isValidNetPin old || !isValidNetPin new then ([.reply (.error .invalidFormat)], cb)
      else ([.setPasswd .ab old new], { cb with pending := some .setPasswd })

/-! ## Control strings -/

def cbSsServiceToFac (svc : String) : Option Fac :=
  if svc = "33" then some .ao
  else if svc = "331" then some .oi
  else if svc = "332" then some .ox
  else if svc = "35" then some .ai
  else if svc = "351" then some .ir
  else if svc = "330" then some .ab
  else if svc = "333" then some .ag
  else if svc = "353" then some .ac
  else none

/-- `cb_ss_control`. Without a facility it returns FALSE. -/
def cbSsControl (driver : CbDriver) (cb : CallBarring) (c : SsControl) :
    List CbOutput × CallBarring :=
  if cb.pending.isSome then ([.reply (.error .inProgress)], cb)
  else match cbSsServiceToFac c.sc with
    | none => ([], cb)
    | some fac =>
      let isQuery := c.type = .query
      let cb := { cb.cbSetQueryBounds fac isQuery with
                  ssReqLock := cbLocks.findIdx (·.fac = fac) }
      let badFormat := ([CbOutput.reply (.error .invalidFormat)], cb)
      if c.sic.length > 0 ∨ c.dn.length > 0 then badFormat
      else if ¬isQuery ∧ !isValidNetPin c.sia then badFormat
      else if !(if isQuery then driver.query else driver.set) then
        ([.reply (.error .notImplemented)], cb)
      else if (fac = .ag ∨ fac = .ac ∨ fac = .ab) ∧
          (c.type = .activation ∨ c.type = .registration) then badFormat
      else match ssControlClass c.sib bearerClassDefault with
        | none => badFormat
        | some cls =>
          let cb := { cb with ssReqCls := cls }
          match c.type with
          | .activation | .registration =>
            ([.set fac true c.sia cls],
              { cb with ssReqType := .activation, pending := some .ssSetLock })
          | .erasure | .deactivation =>
            ([.set fac false c.sia cls],
              { cb with ssReqType := .deactivation, pending := some .ssSetLock })
          | .query => cbSsQueryNextLock { cb with ssReqType := .query }

/-- `cb_ss_passwd`, which does not ask whether the driver can change passwords. -/
def cbSsPasswd (cb : CallBarring) (sc old new : String) : List CbOutput × CallBarring :=
  if cb.pending.isSome then ([.reply (.error .inProgress)], cb)
  else match if sc = "" then some .ab else cbSsServiceToFac sc with
    | none => ([], cb)
    | some fac =>
      if !isValidNetPin old || !isValidNetPin new then ([.reply (.error .invalidFormat)], cb)
      else ([.setPasswd fac old new], { cb with pending := some .setPasswd })

/-! ## Events -/

/-- One event. The driver calls back only what it has been given. -/
def handle (driver : CbDriver) (cb : CallBarring) : CbEvent → List CbOutput × CallBarring
  | .getProperties ussdBusy => cb.cbGetProperties driver ussdBusy
  | .setProperty ussdBusy args => cb.cbSetProperty driver ussdBusy args
  | .disableAll ussdBusy passwd => cb.cbDisableAb driver ussdBusy passwd
  | .disableAllIncoming ussdBusy passwd => cb.cbDisableAc driver ussdBusy passwd
  | .disableAllOutgoing ussdBusy passwd => cb.cbDisableAg driver ussdBusy passwd
  | .changePassword ussdBusy args => cb.cbSetPasswd driver ussdBusy args
  | .ssControl c => cb.cbSsControl driver c
  | .ssPasswd sc old new => cb.cbSsPasswd sc old new
  | .setDone error =>
    match cb.pending with
    | some .setLock => cb.setLockCallback error
    | some .disableAll => cb.disableAllCallback error
    | some .ssSetLock => cb.cbSsSetLockCallback error
    | _ => ([], cb)
  | .queryDone error status =>
    match cb.pending with
    | some .ssQueryNextLock => cb.cbSsQueryNextLockCallback error status
    | some .getQueryLock => cb.getQueryLockCallback error status
    | some .setQueryLock => cb.setQueryLockCallback error status
    | _ => ([], cb)
  | .passwdDone error =>
    match cb.pending with
    | some .setPasswd => cb.cbSetPasswdCallback error
    | _ => ([], cb)

end CallBarring

end Phonelets.Ss
