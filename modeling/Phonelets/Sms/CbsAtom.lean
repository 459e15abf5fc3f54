import Phonelets.Lib.Machine
import Phonelets.Sms.CbsTopics

/-! # The cell broadcast atom

The properties `Powered` and `Topics` of the atom, their requests to the driver and the file
EFcbmid of the SIM, whose topics are added to those of the user.
-/

namespace Phonelets.Sms

/-! ## Data -/

/-- A property that a message asks to set; a value of another type is `none`. -/
inductive CbsProperty
  | powered (value : Option Bool)
  | topics (value : Option (List Char))
  | other
deriving DecidableEq

/-- A message `SetProperty`, with its number among those received. -/
structure CbsMessage where
  number : ℕ
  property : CbsProperty
deriving DecidableEq

/-- An answer: `ok`, or the error of that name. -/
inductive CbsReply
  | ok
  | busy
  | invalidArgs
  | invalidFormat
  | notImplemented
  | failed
deriving DecidableEq

/-- What the driver has been asked for: the first setting of the stored value, a request for
`Powered` or `Topics`, or the topics after a change of EFcbmid. -/
inductive CbsPurpose
  | activate
  | power
  | topics
  | update
deriving DecidableEq

/-- A call of `set_topics` with these topics, or of `clear_topics`. -/
structure CbsDriverCall where
  purpose : CbsPurpose
  topics : Option (List Char)

/-- Which functions a driver has. -/
structure CbsDriver where
  setTopics : Bool
  clearTopics : Bool

/-- `struct ofono_cbs`, with the settings, the calls that the driver has not answered, the reads
of EFcbmid that the SIM has not answered, the answers sent, and whether a change of EFcbmid has
altered a property or answered a message. -/
structure OfonoCbs where
  pending : Option CbsMessage
  topics : List CbsTopicRange
  newTopics : List CbsTopicRange
  efcbmiContents : List CbsTopicRange
  efcbmirContents : List CbsTopicRange
  efcbmidLength : ℕ
  efcbmidContents : List CbsTopicRange
  efcbmidUpdate : Bool
  powered : Bool
  storedPowered : Option Bool
  storedTopics : Option (List Char)
  calls : List CbsDriverCall
  reads : ℕ
  received : ℕ
  sent : List (CbsMessage × CbsReply)
  meddled : Bool

namespace OfonoCbs

/-! ## Requests -/

def answer (s : OfonoCbs) (msg : CbsMessage) (reply : CbsReply) : OfonoCbs :=
  { s with sent := s.sent ++ [(msg, reply)] }

/-- `__ofono_dbus_pending_reply`; nothing is sent where nothing is pending. -/
def pendingReply (s : OfonoCbs) (reply : CbsReply) : OfonoCbs :=
  { s with pending := none, sent := s.sent ++ s.pending.toList.map fun msg => (msg, reply) }

/-- `cbs_topics_to_str`, which adds the topics of the SIM and those of ETWS. -/
def topicsToStr (s : OfonoCbs) (userTopics : List CbsTopicRange) : List Char :=
  cbsTopicRangesToString (userTopics ++ s.efcbmidContents ++ [⟨4352, 4356⟩])

def call (s : OfonoCbs) (purpose : CbsPurpose) (topics : Option (List Char)) : OfonoCbs :=
  { s with calls := s.calls ++ [⟨purpose, topics⟩] }

/-- `cbs_set_topics_cb` where a message is pending. -/
def topicsDone (s : OfonoCbs) (error : Bool) : OfonoCbs :=
  if error then pendingReply { s with newTopics := [] } .failed
  else
    pendingReply
      { s with
        topics := s.newTopics
        newTopics := []
        storedTopics := some (cbsTopicRangesToString s.newTopics) } .ok

/-- `cbs_set_topics_cb`, which does not look whether a message is pending. -/
def setTopicsCb (s : OfonoCbs) (error : Bool) : Option OfonoCbs :=
  if s.pending = none then none else some (topicsDone s error)

/-- `cbs_set_topics`. -/
def setTopics (d : CbsDriver) (s : OfonoCbs) (value : List Char) (msg : CbsMessage) : OfonoCbs :=
  let topics := cbsExtractTopicRanges value
  if topics = [] ∧ value ≠ [] then s.answer msg .invalidFormat
  else if d.setTopics = false then s.answer msg .notImplemented
  else if s.powered = false then
    topicsDone { s with newTopics := topics, pending := some msg } false
  else
    call { s with newTopics := topics, pending := some msg } .topics
      (some (topicsToStr s topics))

/-- `cbs_set_powered_cb`. -/
def setPoweredCb (s : OfonoCbs) (error : Bool) : OfonoCbs :=
  if error then s.pendingReply .failed
  else
    pendingReply { s with powered := !s.powered, storedPowered := some !s.powered } .ok

/-- What `cbs_set_powered` answers where it does not wait. -/
def answerMsg (s : OfonoCbs) : Option CbsMessage → OfonoCbs
  | none => s
  | some msg => s.answer msg .ok

/-- `cbs_set_powered`; there is no message when the stored value is set. -/
def setPowered (d : CbsDriver) (s : OfonoCbs) (value : Bool) (msg : Option CbsMessage) :
    OfonoCbs :=
  if s.powered = value then s.answerMsg msg
  else if d.setTopics = false ∨ d.clearTopics = false then
    answerMsg { s with powered := value, storedPowered := some value } msg
  else
    call { s with pending := if msg = none then s.pending else msg }
      (if msg = none then .activate else .power)
      (if value then some (topicsToStr s s.topics) else none)

/-- `cbs_set_property`. -/
def setProperty (d : CbsDriver) (s : OfonoCbs) (msg : CbsMessage) : OfonoCbs :=
  if s.pending ≠ none then s.answer msg .busy
  else
    match msg.property with
    | .powered (some value) => setPowered d s value (some msg)
    | .topics (some value) => setTopics d s value msg
    | _ => s.answer msg .invalidArgs

/-! ## The SIM -/

/-- `cbs_got_file_contents`, which starts with the topics of the SIM where none are stored. -/
def initialTopics (s : OfonoCbs) : OfonoCbs :=
  if s.topics = [] then
    let topics := cbsOptimizeRanges (s.efcbmiContents ++ s.efcbmirContents)
    { s with topics := topics, storedTopics := some (cbsTopicRangesToString topics) }
  else s

/-- `cbs_got_file_contents`. -/
def gotFileContents (d : CbsDriver) (s : OfonoCbs) : OfonoCbs :=
  let powered := s.storedPowered.getD true
  setPowered d
    { initialTopics s with
      efcbmiContents := []
      efcbmirContents := []
      storedPowered := some powered } powered none

/-- The message identifiers of EFcbmid. -/
def efcbmidRanges : List UInt8 → List CbsTopicRange
  | high :: low :: data =>
    if high = 0xff ∧ low = 0xff then efcbmidRanges data
    else
      ⟨high.toNat * 256 + low.toNat, high.toNat * 256 + low.toNat⟩ :: efcbmidRanges data
  | _ => []

/-- What `sim_cbmid_read_cb` takes from the file. -/
def readEfcbmid (s : OfonoCbs) (ok : Bool) (data : List UInt8) : OfonoCbs :=
  if ok = false ∨ data.length % 2 = 1 ∨ data.length < 2 then s
  else if efcbmidRanges data = [] then { s with efcbmidLength := data.length }
  else { s with efcbmidLength := data.length, efcbmidContents := efcbmidRanges data }

/-- `sim_cbmid_read_cb` after a change of the file. It does not look whether the driver has a
`set_topics`, and its callback is the one for `Powered`. -/
def efcbmidUpdated (d : CbsDriver) (s : OfonoCbs) : Option OfonoCbs :=
  if s.powered then
    if d.setTopics then
      some { call s .update (some (topicsToStr s s.topics)) with efcbmidUpdate := false }
    else none
  else some { s with efcbmidUpdate := false }

def simCbmidReadCb (d : CbsDriver) (s : OfonoCbs) (ok : Bool) (data : List UInt8) :
    Option OfonoCbs :=
  if (readEfcbmid s ok data).efcbmidUpdate then efcbmidUpdated d (readEfcbmid s ok data)
  else some (gotFileContents d (readEfcbmid s ok data))

/-- `cbs_efcbmid_changed`. -/
def efcbmidChanged (s : OfonoCbs) : OfonoCbs :=
  { s with
    efcbmidLength := 0
    efcbmidContents := if s.efcbmidLength = 0 then s.efcbmidContents else []
    efcbmidUpdate := true
    reads := s.reads + 1 }

/-! ## Inputs -/

/-- What can come to the atom. Calls and reads that there are not are passed over. -/
inductive CbsInput
  | setProperty (property : CbsProperty)
  | reply (i : ℕ) (error : Bool)
  | efcbmidChanged
  | efcbmidRead (ok : Bool) (data : List UInt8)

/-- The callback of a call. -/
def callback (s : OfonoCbs) (call : CbsDriverCall) (error : Bool) : Option OfonoCbs :=
  match call.purpose with
  | .topics => setTopicsCb s error
  | _ => some (setPoweredCb s error)

/-- A step from `s` to `t` for the sake of EFcbmid, which is to alter nothing. -/
def observe (s t : OfonoCbs) : OfonoCbs :=
  { t with
    meddled := t.meddled ||
      decide (t.powered ≠ s.powered ∨ t.topics ≠ s.topics ∨ t.sent ≠ s.sent) }

/-- An input; `none` is the use of a message or a function that is not there. -/
def step (d : CbsDriver) (s : OfonoCbs) : CbsInput → Option OfonoCbs
  | .setProperty property =>
    some (setProperty d { s with received := s.received + 1 } ⟨s.received, property⟩)
  | .reply i error =>
    match s.calls[i]? with
    | none => some s
    | some call =>
      (callback { s with calls := s.calls.eraseIdx i } call error).map fun t =>
        if call.purpose = .update then observe s t else t
  | .efcbmidChanged => some (observe s (efcbmidChanged s))
  | .efcbmidRead ok data =>
    if s.reads = 0 then some s
    else (simCbmidReadCb d { s with reads := s.reads - 1 } ok data).map (observe s)

/-- What the atom finds at its start: the settings, and the files of the SIM. -/
structure CbsFiles where
  storedPowered : Option Bool
  storedTopics : Option (List Char)
  efcbmiContents : List CbsTopicRange
  efcbmirContents : List CbsTopicRange
  efcbmidLength : ℕ
  efcbmidContents : List CbsTopicRange
  efcbmidUpdate : Bool
  reads : ℕ

/-- The atom when its files have been read. -/
def start (d : CbsDriver) (files : CbsFiles) : OfonoCbs :=
  gotFileContents d
    { pending := none
      topics := cbsExtractTopicRanges (files.storedTopics.getD [])
      newTopics := []
      efcbmiContents := files.efcbmiContents
      efcbmirContents := files.efcbmirContents
      efcbmidLength := files.efcbmidLength
      efcbmidContents := files.efcbmidContents
      efcbmidUpdate := files.efcbmidUpdate
      powered := false
      storedPowered := files.storedPowered
      storedTopics := files.storedTopics
      calls := []
      reads := files.reads
      received := 0
      sent := []
      meddled := false }

end OfonoCbs

end Phonelets.Sms
