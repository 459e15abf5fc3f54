import Phonelets.Lib.Replica
import Phonelets.Ss.Common

/-! # The call forwarding atom

Each successful query replaces the list of conditions of one type, and `setNewCondList` signals
what is different for voice calls. `GetProperties` hides the other types while calls are forwarded
unconditionally, and `setNewCondList` has signals for that as well.

What the SIM said when the atom was registered, the record of EFcfis or the CPHS flag, is part of a
new atom; the octets that are written to these files are not part of this model.
-/

namespace Phonelets.Ss

/-! ## Data -/

def cfUnconditional : ℕ := 0
def cfBusy : ℕ := 1
def cfNoReply : ℕ := 2
def cfNotReachable : ℕ := 3
def cfAll : ℕ := 4
def cfAllConditional : ℕ := 5

def defaultNoReplyTimeout : ℤ := 20

def cfTypeLut (type : ℕ) : String :=
  (["Unconditional", "Busy", "NoReply", "NotReachable", "All", "AllConditional"][type]?).getD ""

/-- `struct ofono_call_forwarding_condition`. -/
structure CfCondition where
  status : ℤ
  cls : ClassMask
  phoneNumber : PhoneNumber
  time : ℤ
deriving DecidableEq

structure CfSsRequest where
  ssType : SsControlType
  cfType : ℕ
  cls : ClassMask
  cfList : ℕ → List CfCondition

/-- The callbacks that a driver may have to call. -/
inductive CfCallback
  | setProperty
  | disableConditional
  | disableAll
  | ssControl
  | getQuery
  | setQuery
  | ssSetQuery
deriving DecidableEq

/-- `struct ofono_call_forwarding`, with the callback of the driver's call that is out. `pending`
is the number of the message that waits. -/
structure CallForwarding where
  cfConditions : ℕ → List CfCondition
  cached : Bool
  cphsCff : Bool
  pending : Option ℕ
  call : Option CfCallback
  queryNext : ℕ
  queryEnd : ℕ
  ssReq : Option CfSsRequest
  cfisRecordId : ℕ

/-- Which functions a driver has. Every other call is followed by queries. -/
structure CfDriver where
  registration : Bool
  activation : Bool
  deactivation : Bool
  erasure : Bool
  query : Bool
  query_of_set : (registration || activation || deactivation || erasure) = true → query = true

/-- What a property can be. -/
inductive CfValue
  | string (s : String)
  | uint16 (n : ℕ)
  | boolean (b : Bool)
deriving DecidableEq

/-- The replies. That to a control string names the type and the conditions. -/
inductive CfReply
  | properties (dict : List (String × CfValue))
  | done
  | ss (type name : String) (dict : List (String × CfValue))
  | error (error : DbusError)

/-- What the atom does: it answers a message, sends `PropertyChanged`, writes the indicator of
unconditional forwarding on the SIM or calls the driver. -/
inductive CfOutput
  | reply (msg : ℕ) (r : CfReply)
  | propertyChanged (name : String) (value : CfValue)
  | writeCfis (record : ℕ) (cfu : Option PhoneNumber)
  | writeCphsCff (cfu : Bool)
  | registration (type : ℕ) (cls : ClassMask) (ph : PhoneNumber) (timeout : ℤ)
  | activation (type : ℕ) (cls : ClassMask)
  | deactivation (type : ℕ) (cls : ClassMask)
  | erasure (type : ℕ) (cls : ClassMask)
  | query (type : ℕ) (cls : ClassMask)

/-- The arguments of `SetProperty`; the value may be of another type than the properties are. -/
structure CfSetPropertyArgs where
  property : String
  value : Option CfValue

/-- What happens to the atom: a method is called, a control string comes, or the driver calls
back. Arguments are missing where the message is malformed. -/
inductive CfEvent
  | getProperties (online ussdBusy : Bool)
  | setProperty (online ussdBusy : Bool) (args : Option CfSetPropertyArgs)
  | disableAll (ussdBusy : Bool) (type : Option String)
  | ssControl (c : SsControl)
  | setDone (error : OfonoError)
  | queryDone (error : OfonoError) (list : List CfCondition)

/-! ## Conditions -/

/-- Before the first condition whose class is not smaller: `g_slist_insert_sorted` with
`cf_cond_compare`. -/
def cfCondInsert (c : CfCondition) (l : List CfCondition) : List CfCondition :=
  l.orderedInsert (fun a b => a.cls.toNat ≤ b.cls.toNat) c

/-- `cf_cond_list_create`: one condition for each class of an entry that is active. -/
def cfCondListCreate (list : List CfCondition) : List CfCondition :=
  list.foldl (fun l entry =>
    (bearerClasses entry.cls).foldl (fun l cls =>
      if entry.status = 0 then l else cfCondInsert { entry with cls := cls } l) l) []

def cfCondFind (l : List CfCondition) (cls : ClassMask) : Option CfCondition :=
  l.find? (·.cls = cls)

def cfCondFindTimeout (l : List CfCondition) (cls : ClassMask) : ℤ :=
  match cfCondFind l cls with
  | some cond => cond.time
  | none => defaultNoReplyTimeout

/-- A time where a `dbus_uint16_t` is asked for. -/
def toUInt16 (time : ℤ) : CfValue := .uint16 (time % 65536).toNat

/-- `phone_number_to_string` of the number of a condition. -/
def CfCondition.text (c : CfCondition) : CfValue := .string (phoneNumberToString c.phoneNumber)

namespace CallForwarding

/-- A new atom, with what the SIM has said. -/
def start (cphsCff : Bool) (cfisRecordId : ℕ) : CallForwarding where
  cfConditions := fun _ => []
  cached := false
  cphsCff := cphsCff
  pending := none
  call := none
  queryNext := 0
  queryEnd := 0
  ssReq := none
  cfisRecordId := cfisRecordId

def isCfuEnabled (cf : CallForwarding) : Bool :=
  (cfCondFind (cf.cfConditions cfUnconditional) bearerClassVoice).isSome

/-- The SIM has a file for the indicator. -/
def hasIndicator (cf : CallForwarding) : Bool := cf.cphsCff || cf.cfisRecordId > 0

def simSetCfIndicator (cf : CallForwarding) : List CfOutput :=
  let cfuVoice := cfCondFind (cf.cfConditions cfUnconditional) bearerClassVoice
  if cf.cfisRecordId ≠ 0 then [.writeCfis cf.cfisRecordId (cfuVoice.map (·.phoneNumber))]
  else if cf.cphsCff then [.writeCphsCff cfuVoice.isSome]
  else []

/-! ## New lists -/

/-- The first loop of `set_new_cond_list`: the signals for the new conditions, and what is left of
the old list. -/
def newCondSignals (type : ℕ) :
    List CfCondition → List CfCondition → List (String × CfValue) × List CfCondition
  | [], old => ([], old)
  | lc :: list, old =>
    -- the other classes are skipped
    if lc.cls > bearerClassVoice then newCondSignals type list old
    else
      let attr := bearerClassToString lc.cls ++ cfTypeLut type
      match cfCondFind old lc.cls with
      | some oc =>
        let number := if oc.phoneNumber ≠ lc.phoneNumber then [(attr, lc.text)] else []
        let time :=
          if type = cfNoReply ∧ oc.time ≠ lc.time then
            [(attr ++ "Timeout", toUInt16 lc.time)]
          else []
        let (rest, left) := newCondSignals type list (old.eraseP (·.cls = lc.cls))
        (number ++ time ++ rest, left)
      | none =>
        let time :=
          if type = cfNoReply ∧ lc.time ≠ defaultNoReplyTimeout then
            [(attr ++ "Timeout", toUInt16 lc.time)]
          else []
        let (rest, left) := newCondSignals type list old
        ((attr, lc.text) :: time ++ rest, left)

/-- The second loop: the signals for the old conditions that are gone. -/
def oldCondSignals (type : ℕ) : List CfCondition → List (String × CfValue)
  | [] => []
  | oc :: old =>
    if oc.cls > bearerClassVoice then oldCondSignals type old
    else
      let attr := bearerClassToString oc.cls ++ cfTypeLut type
      let time :=
        if type = cfNoReply ∧ oc.time ≠ defaultNoReplyTimeout then
          [(attr ++ "Timeout", toUInt16 defaultNoReplyTimeout)]
        else []
      (attr, .string "") :: time ++ oldCondSignals type old

/-- The signals that mask or unmask the conditional types, and the one for the indicator. -/
def maskSignals (cf : CallForwarding) (newCfu : Bool) : List (String × CfValue) :=
  ([cfBusy, cfNoReply, cfNotReachable].filterMap fun i =>
    (cfCondFind (cf.cfConditions i) bearerClassVoice).map fun lc =>
      (cfTypeLut i, if newCfu then .string "" else lc.text)) ++
    [("ForwardingFlagOnSim", .boolean newCfu)]

/-- The signals of `set_new_cond_list`, whether it writes the indicator, and the new list. -/
def newListSignals (cf : CallForwarding) (type : ℕ) (list : List CfCondition) :
    List (String × CfValue) × Bool × List (String × CfValue) × CallForwarding :=
  let oldCfu := cf.hasIndicator && cf.isCfuEnabled
  let (new, left) := newCondSignals type list (cf.cfConditions type)
  let old := oldCondSignals type left
  -- every signal under the name of the type itself asks for the indicator to be written
  let updateSim := type = cfUnconditional ∧ new ++ old ≠ []
  let cf := { cf with cfConditions := Function.update cf.cfConditions type list }
  let newCfu := cf.hasIndicator && cf.isCfuEnabled
  (new ++ old, updateSim, if newCfu ≠ oldCfu then cf.maskSignals newCfu else [], cf)

def signals (changes : List (String × CfValue)) : List CfOutput :=
  changes.map fun c => .propertyChanged c.1 c.2

def setNewCondList (cf : CallForwarding) (type : ℕ) (list : List CfCondition) :
    List CfOutput × CallForwarding :=
  let (changes, updateSim, masks, cf) := cf.newListSignals type list
  (signals changes ++ (if updateSim then cf.simSetCfIndicator else []) ++ signals masks, cf)

/-! ## Properties -/

def propertyAppendCfCondition (cls : ClassMask) (typeName : String) (value : CfValue)
    (timeout : CfValue) : List (String × CfValue) :=
  let attr := bearerClassToString cls ++ typeName
  (attr, value) :: if typeName = "NoReply" then [(attr ++ "Timeout", timeout)] else []

/-- `property_append_cf_conditions`, which goes through the list once, class after class. -/
def propertyAppendCfConditions (typeName : String) :
    List ClassMask → List CfCondition → List (String × CfValue)
  | [], _ => []
  | cls :: classes, cfList =>
    let l := cfList.dropWhile (·.cls < cls)
    (match l with
      | c :: _ =>
        if c.cls = cls then
          propertyAppendCfCondition cls typeName c.text (toUInt16 c.time)
        else
          propertyAppendCfCondition cls typeName (.string "")
            (toUInt16 defaultNoReplyTimeout)
      | [] =>
        propertyAppendCfCondition cls typeName (.string "")
          (toUInt16 defaultNoReplyTimeout)) ++
      propertyAppendCfConditions typeName classes l

/-- The dictionary of `cf_get_properties_reply`. -/
def getPropertiesReply (cf : CallForwarding) : List (String × CfValue) :=
  ([cfUnconditional, cfBusy, cfNoReply, cfNotReachable].flatMap fun i =>
    propertyAppendCfConditions (cfTypeLut i) (bearerClasses bearerClassVoice)
      (if cf.isCfuEnabled ∧ i ≠ cfUnconditional then [] else cf.cfConditions i)) ++
    [("ForwardingFlagOnSim", .boolean (cf.hasIndicator && cf.isCfuEnabled))]

/-! ## Chains of queries -/

/-- `__ofono_dbus_pending_reply`. -/
def pendingReply (cf : CallForwarding) (r : CfReply) : List CfOutput × CallForwarding :=
  match cf.pending with
  | some msg => ([.reply msg r], { cf with pending := none })
  | none => ([], cf)

/-- The driver has called back. -/
def returned (cf : CallForwarding) : CallForwarding := { cf with call := none }

def getQueryNextCfCond (cf : CallForwarding) : List CfOutput × CallForwarding :=
  ([.query cf.queryNext bearerClassDefault], { cf with call := some .getQuery })

def getQueryCfCallback (cf : CallForwarding) (error : OfonoError) (list : List CfCondition) :
    List CfOutput × CallForwarding :=
  let (changes, cf) :=
    if error.type = .noError then
      let (changes, cf) := cf.setNewCondList cf.queryNext (cfCondListCreate list)
      (changes, { cf with cached := cf.cached || cf.queryNext == cfNotReachable })
    else ([], cf)
  if cf.queryNext = cfNotReachable then
    let (reply, cf) := cf.pendingReply (.properties cf.getPropertiesReply)
    (changes ++ reply, cf)
  else
    let (query, cf) := getQueryNextCfCond { cf with queryNext := cf.queryNext + 1 }
    (changes ++ query, cf)

def setQueryNextCfCond (cf : CallForwarding) : List CfOutput × CallForwarding :=
  ([.query cf.queryNext bearerClassDefault], { cf with call := some .setQuery })

def setQueryCfCallback (cf : CallForwarding) (error : OfonoError) (list : List CfCondition) :
    List CfOutput × CallForwarding :=
  if error.type ≠ .noError then pendingReply { cf with cached := false } (.error .failed)
  else if cf.queryNext = cf.queryEnd then
    -- the reply goes first, and then the signals
    let (reply, cf) := cf.pendingReply .done
    let (changes, cf) := cf.setNewCondList cf.queryNext (cfCondListCreate list)
    (reply ++ changes, cf)
  else
    let (changes, cf) := cf.setNewCondList cf.queryNext (cfCondListCreate list)
    let (query, cf) := setQueryNextCfCond { cf with queryNext := cf.queryNext + 1 }
    (changes ++ query, cf)

def setPropertyCallback (cf : CallForwarding) (error : OfonoError) :
    List CfOutput × CallForwarding :=
  if error.type ≠ .noError then cf.pendingReply (.error .failed) else cf.setQueryNextCfCond

def disableConditionalCallback (cf : CallForwarding) (error : OfonoError) :
    List CfOutput × CallForwarding :=
  if error.type ≠ .noError then cf.pendingReply (.error .failed)
  else setQueryNextCfCond { cf with queryNext := cfBusy, queryEnd := cfNotReachable }

def disableAllCallback (cf : CallForwarding) (error : OfonoError) :
    List CfOutput × CallForwarding :=
  if error.type ≠ .noError then cf.pendingReply (.error .failed)
  else setQueryNextCfCond { cf with queryNext := cfUnconditional, queryEnd := cfNotReachable }

def cfSsControlReply (req : CfSsRequest) : CfReply :=
  let append (type : ℕ) (others : List ℕ) : List (String × CfValue) :=
    if req.cfType = type ∨ req.cfType ∈ others then
      propertyAppendCfConditions (cfTypeLut type) (bearerClasses req.cls) (req.cfList type)
    else []
  .ss (ssControlTypeToString req.ssType) (cfTypeLut req.cfType)
    (append cfUnconditional [cfAll] ++ append cfNoReply [cfAll, cfAllConditional] ++
      append cfNotReachable [cfAll, cfAllConditional] ++ append cfBusy [cfAll, cfAllConditional])

/-- The class of the queries that follow a control string. -/
def ssQueryClass (req : CfSsRequest) : ClassMask :=
  let cls := if req.ssType = .query then req.cls else bearerClassDefault
  if cls = bearerClassSsDefault then bearerClassDefault else cls

def ssSetQueryNextCfCond (cf : CallForwarding) (req : CfSsRequest) :
    List CfOutput × CallForwarding :=
  ([.query cf.queryNext (ssQueryClass req)],
    { cf with call := some .ssSetQuery, ssReq := some req })

/-- A failure leaves `ss_req` where it is. -/
def ssSetQueryCfCallback (cf : CallForwarding) (req : CfSsRequest) (error : OfonoError)
    (list : List CfCondition) : List CfOutput × CallForwarding :=
  if error.type ≠ .noError then
    pendingReply { cf with cached := false } (.error (errorFromError error))
  else
    let l := cfCondListCreate list
    let req := { req with cfList := Function.update req.cfList cf.queryNext l }
    if cf.queryNext = cf.queryEnd then
      let (reply, cf) := cf.pendingReply (cfSsControlReply req)
      let (changes, cf) := setNewCondList { cf with ssReq := none } cf.queryNext l
      (reply ++ changes, cf)
    else
      let (changes, cf) := cf.setNewCondList cf.queryNext l
      let (query, cf) := ssSetQueryNextCfCond { cf with queryNext := cf.queryNext + 1 } req
      (changes ++ query, cf)

def cfSsControlCallback (cf : CallForwarding) (req : CfSsRequest) (error : OfonoError) :
    List CfOutput × CallForwarding :=
  if error.type ≠ .noError then
    pendingReply { cf with ssReq := none } (.error (errorFromError error))
  else cf.ssSetQueryNextCfCond req

/-! ## Methods -/

def cfGetProperties (driver : CfDriver) (cf : CallForwarding) (msg : ℕ)
    (online ussdBusy : Bool) : List CfOutput × CallForwarding :=
  if cf.cached || !online then ([.reply msg (.properties cf.getPropertiesReply)], cf)
  else if !driver.query then ([.reply msg (.error .notImplemented)], cf)
  else if cf.pending.isSome || ussdBusy then ([.reply msg (.error .inProgress)], cf)
  else getQueryNextCfCond { cf with pending := some msg, queryNext := 0 }

/-- The type and the class that a property is about. -/
def cfConditionEnabledProperty (property : String) : Option (ℕ × ClassMask) :=
  (bearerClasses bearerClassVoice).findSome? fun cls =>
    ([cfUnconditional, cfBusy, cfNoReply, cfNotReachable].find? fun type =>
      property = bearerClassToString cls ++ cfTypeLut type).map fun type => (type, cls)

def cfConditionTimeoutProperty (property : String) : Option ClassMask :=
  (bearerClasses bearerClassVoice).find? fun cls =>
    property = bearerClassToString cls ++ "NoReplyTimeout"

def setPropertyRequest (driver : CfDriver) (cf : CallForwarding) (msg type : ℕ)
    (cls : ClassMask) (ph : PhoneNumber) (timeout : ℤ) : List CfOutput × CallForwarding :=
  let erases := ph.number.length = 0
  if ¬erases ∧ !driver.registration then ([.reply msg (.error .notImplemented)], cf)
  else if erases ∧ !driver.erasure then ([.reply msg (.error .notImplemented)], cf)
  else
    ([if erases then .erasure type cls else .registration type cls ph timeout],
      { cf with
        pending := some msg
        queryNext := type
        queryEnd := type
        call := some .setProperty })

def cfSetProperty (driver : CfDriver) (cf : CallForwarding) (msg : ℕ) (online ussdBusy : Bool)
    (args : Option CfSetPropertyArgs) : List CfOutput × CallForwarding :=
  if !online then ([.reply msg (.error .notAvailable)], cf)
  else if cf.pending.isSome || ussdBusy then ([.reply msg (.error .inProgress)], cf)
  else match args with
    | none => ([.reply msg (.error .invalidArguments)], cf)
    | some args =>
      match cfConditionTimeoutProperty args.property with
      | some cls =>
        match args.value with
        | some (.uint16 timeout) =>
          if timeout < 1 ∨ timeout > 30 then ([.reply msg (.error .invalidFormat)], cf)
          else match cfCondFind (cf.cfConditions cfNoReply) cls with
            | none => ([.reply msg (.error .failed)], cf)
            | some c =>
              cf.setPropertyRequest driver msg cfNoReply cls c.phoneNumber timeout
        | _ => ([.reply msg (.error .invalidArguments)], cf)
      | none =>
        match cfConditionEnabledProperty args.property with
        | some (type, cls) =>
          match args.value with
          | some (.string number) =>
            if number.length > 0 ∧ !validPhoneNumberFormat number then
              ([.reply msg (.error .invalidFormat)], cf)
            else if type ≠ cfUnconditional ∧ number.length > 0 ∧ cf.isCfuEnabled then
              ([.reply msg (.error .notAvailable)], cf)
            else
              let ph :=
                if number.length > 0 then stringToPhoneNumber number else ⟨"", 129⟩
              cf.setPropertyRequest driver msg type cls ph
                (cfCondFindTimeout (cf.cfConditions type) cls)
          | _ => ([.reply msg (.error .invalidArguments)], cf)
        | none => ([.reply msg (.error .invalidArguments)], cf)

def cfDisableAll (driver : CfDriver) (cf : CallForwarding) (msg : ℕ) (ussdBusy : Bool)
    (type : Option String) : List CfOutput × CallForwarding :=
  if !driver.erasure then ([.reply msg (.error .notImplemented)], cf)
  else if cf.pending.isSome || ussdBusy then ([.reply msg (.error .inProgress)], cf)
  else match type with
    | none => ([.reply msg (.error .invalidArguments)], cf)
    | some strtype =>
      if strtype = "all" ∨ strtype = "" then
        ([.erasure cfAll bearerClassDefault],
          { cf with pending := some msg, call := some .disableAll })
      else if strtype = "conditional" then
        ([.erasure cfAllConditional bearerClassDefault],
          { cf with pending := some msg, call := some .disableConditional })
      else ([.reply msg (.error .invalidFormat)], cf)

/-! ## Control strings -/

def cfTypeOfService (sc : String) : Option ℕ :=
  if sc = "21" then some cfUnconditional
  else if sc = "67" then some cfBusy
  else if sc = "61" then some cfNoReply
  else if sc = "62" then some cfNotReachable
  else if sc = "002" then some cfAll
  else if sc = "004" then some cfAllConditional
  else none

/-- The time that `sic` gives, which only a registration of some types may have. -/
def ssControlTimeout (type : SsControlType) (cfType : ℕ) (sic : String) : Option ℤ :=
  if sic.length > 0 then
    if type ≠ .registration then none
    else if cfType ≠ cfAll ∧ cfType ≠ cfAllConditional ∧ cfType ≠ cfNoReply then none
    else match strtoul sic with
      | none => none
      | some timeout =>
        let timeout := (toInt timeout).toInt
        if timeout < 1 ∨ timeout > 30 then none else some timeout
  else some defaultNoReplyTimeout

def ssOperation (driver : CfDriver) : SsControlType → Bool
  | .registration => driver.registration
  | .activation => driver.activation
  | .deactivation => driver.deactivation
  | .erasure => driver.erasure
  | .query => driver.query

/-- The last part of `cf_ss_control`: the request is taken, with the bounds of its type. -/
def ssControlTaken (cf : CallForwarding) (msg : ℕ) (type : SsControlType) (cfType : ℕ)
    (cls : ClassMask) (sia : String) (timeout : ℤ) : List CfOutput × CallForwarding :=
  let req : CfSsRequest := ⟨type, cfType, cls, fun _ => []⟩
  let (next, stop) :=
    if cfType = cfAll then (cfUnconditional, cfNotReachable)
    else if cfType = cfAllConditional then (cfBusy, cfNotReachable)
    else (cfType, cfType)
  let cf := { cf with pending := some msg, queryNext := next, queryEnd := stop }
  let called := { cf with call := some .ssControl, ssReq := some req }
  let cls := if cls = bearerClassSsDefault then bearerClassDefault else cls
  match type with
  | .registration => ([.registration cfType cls (stringToPhoneNumber sia) timeout], called)
  | .activation => ([.activation cfType cls], called)
  | .deactivation => ([.deactivation cfType cls], called)
  | .erasure => ([.erasure cfType cls], called)
  | .query => cf.ssSetQueryNextCfCond req

/-- `cf_ss_control`, for the services that it is registered with. -/
def cfSsControl (driver : CfDriver) (cf : CallForwarding) (msg : ℕ) (c : SsControl) (cfType : ℕ) :
    List CfOutput × CallForwarding :=
  if cf.pending.isSome then ([.reply msg (.error .inProgress)], cf)
  else
    let badFormat := ([CfOutput.reply msg (.error .invalidFormat)], cf)
    if c.sia.length > 0 ∧ (c.type = .query ∨ c.type = .erasure ∨ c.type = .deactivation) then
      badFormat
    else
      -- whether an entry of a single * means activation is seen from the context
      let type :=
        if c.type = .activation ∧ c.sia.length > 0 then SsControlType.registration else c.type
      if type = .registration ∧ !validPhoneNumberFormat c.sia then badFormat
      else match ssControlClass c.sib bearerClassSsDefault with
        | none => badFormat
        | some cls =>
          match ssControlTimeout type cfType c.sic with
          | none => badFormat
          | some timeout =>
            if !ssOperation driver type then ([.reply msg (.error .notImplemented)], cf)
            else cf.ssControlTaken msg type cfType cls c.sia timeout

/-! ## Events -/

/-- The request that an event is: a method call, or a control string that the atom is registered
for. -/
def isRequest : CfEvent → Bool
  | .getProperties .. | .setProperty .. | .disableAll .. => true
  | .ssControl c => (cfTypeOfService c.sc).isSome
  | .setDone _ | .queryDone .. => false

/-- One event. The driver calls back only what it has been given. -/
def handle (driver : CfDriver) (cf : CallForwarding) (msg : ℕ) :
    CfEvent → List CfOutput × CallForwarding
  | .getProperties online ussdBusy => cf.cfGetProperties driver msg online ussdBusy
  | .setProperty online ussdBusy args => cf.cfSetProperty driver msg online ussdBusy args
  | .disableAll ussdBusy type => cf.cfDisableAll driver msg ussdBusy type
  | .ssControl c =>
    match cfTypeOfService c.sc with
    | some cfType => cf.cfSsControl driver msg c cfType
    | none => ([], cf)
  | .setDone error =>
    match cf.call, cf.ssReq with
    | some .setProperty, _ => cf.returned.setPropertyCallback error
    | some .disableConditional, _ => cf.returned.disableConditionalCallback error
    | some .disableAll, _ => cf.returned.disableAllCallback error
    | some .ssControl, some req => cf.returned.cfSsControlCallback req error
    | _, _ => ([], cf)
  | .queryDone error list =>
    match cf.call, cf.ssReq with
    | some .getQuery, _ => cf.returned.getQueryCfCallback error list
    | some .setQuery, _ => cf.returned.setQueryCfCallback error list
    | some .ssSetQuery, some req => cf.returned.ssSetQueryCfCallback req error list
    | _, _ => ([], cf)

end CallForwarding

end Phonelets.Ss
