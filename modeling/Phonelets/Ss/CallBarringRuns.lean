import Phonelets.Lib.Machine
import Phonelets.Ss.CallBarring

/-! # Runs of the call barring atom

Beside the atom a session keeps what the network has answered to requests that succeeded, and what
every client holds that has read the properties once and has followed `PropertyChanged` since. The
record of the atom and the clients are both right whenever no request waits, exactly as long as

* no request fails in the middle of a chain that has already changed a lock,
* a query for classes without voice calls answers what was on record for voice calls, and
* at the end of a chain the bounds that are in force show what has changed: an old lock that
  `curLocks` has missed, or a lock outside of the bounds, can hide a change or take the place of
  the lock that is first.

Where the cache is not valid `GetProperties` asks the network first; the values that are compared
are those that its reply starts from.
-/

namespace Phonelets.Ss

open List Option
open Replica

/-! ## Where the first lock is -/

namespace CallBarring

variable {locks locks' : ℕ → ClassMask} {cls : ClassMask}

lemma le_firstFrom (i n : ℕ) : i ≤ firstFrom locks cls i n := by
  induction n generalizing i with
  | zero => exact Nat.le_refl i
  | succ n ih =>
    rw [firstFrom]
    split
    · exact Nat.le_refl i
    · exact Nat.le_trans (Nat.le_succ i) (ih (i + 1))

lemma firstFrom_le (i n : ℕ) : firstFrom locks cls i n ≤ i + n := by
  induction n generalizing i with
  | zero => exact Nat.le_refl i
  | succ n ih =>
    rw [firstFrom]
    split
    · exact Nat.le_add_right i (n + 1)
    · have hrest := ih (i + 1)
      omega

lemma firstFrom_add (i m n : ℕ) : firstFrom locks cls i (m + n) = if firstFrom locks cls i m < i + m
    then firstFrom locks cls i m else firstFrom locks cls (i + m) n := by
  induction m generalizing i with
  | zero => simp [firstFrom]
  | succ m ih =>
    rw [Nat.succ_add, firstFrom, firstFrom]
    split
    · rw [if_pos (by omega)]
    · rw [ih, show i + 1 + m = i + (m + 1) by omega]

lemma firstFrom_eq_end_iff (i n : ℕ) :
    firstFrom locks cls i n = i + n ↔ ∀ k, i ≤ k → k < i + n → (locks k).has cls = false := by
  induction n generalizing i with
  | zero =>
    constructor
    · intro _ k hi hk
      omega
    · intro _
      rfl
  | succ n ih =>
    rw [firstFrom]
    by_cases hset : (locks i).has cls = true
    · rw [if_pos hset]
      constructor
      · intro heq
        omega
      · intro hnone
        rw [hnone i (Nat.le_refl i) (by omega)] at hset
        exact absurd hset (by decide)
    · rw [if_neg hset, show i + (n + 1) = i + 1 + n by omega, ih]
      constructor
      · intro hrest k hi hk
        rcases Nat.eq_or_lt_of_le hi with rfl | hlt
        · exact eq_false_of_ne_true hset
        · exact hrest k hlt hk
      · intro hall k hi hk
        exact hall k (by omega) hk

/-! ## What the properties say -/

/-- What `GetProperties` says of outgoing voice calls. -/
def outgoingValue (locks : ℕ → ClassMask) : String :=
  let i := firstLock locks bearerClassVoice cbOutgoingStart cbOutgoingEnd
  if i ≤ cbOutgoingEnd then lockValue i else "disabled"

/-- What `GetProperties` says of incoming voice calls. -/
def incomingValue (locks : ℕ → ClassMask) : String :=
  let i := firstLock locks bearerClassVoice cbIncomingStart cbIncomingEnd
  if i ≤ cbIncomingEnd then lockValue i else "disabled"

/-- The reply for voice calls that stands on these locks. -/
def voiceProperties (locks : ℕ → ClassMask) : List (String × String) :=
  [("VoiceOutgoing", outgoingValue locks), ("VoiceIncoming", incomingValue locks)]

lemma getPropertiesReply_voice (cb : CallBarring) :
    cb.getPropertiesReply bearerClassVoice = voiceProperties cb.newLocks := by
  rw [getPropertiesReply, bearerClasses_voice, flatMap_cons, flatMap_nil, append_nil]
  rfl

lemma holds_voiceProperties {held : Held String String} :
    held.Holds (voiceProperties locks) ↔
      held "VoiceOutgoing" = some (outgoingValue locks) ∧
        held "VoiceIncoming" = some (incomingValue locks) := by
  simp [Held.Holds, voiceProperties]

lemma holds_read_voiceProperties :
    (Held.read (voiceProperties locks)).Holds (voiceProperties locks) :=
  Held.holds_read (by simp [voiceProperties])

lemma outgoingValue_inj {i j : ℕ} (hi : i ≤ 3) (hj : j ≤ 3) :
    ((if i ≤ cbOutgoingEnd then lockValue i else "disabled") =
      if j ≤ cbOutgoingEnd then lockValue j else "disabled") ↔ i = j := by
  have hall : ∀ i ≤ 3, ∀ j ≤ 3, ((if i ≤ cbOutgoingEnd then lockValue i else "disabled") =
      if j ≤ cbOutgoingEnd then lockValue j else "disabled") → i = j := by decide
  constructor
  · exact hall i hi j hj
  · rintro rfl
    rfl

lemma incomingValue_inj {i j : ℕ} (hi : 3 ≤ i ∧ i ≤ 5) (hj : 3 ≤ j ∧ j ≤ 5) :
    ((if i ≤ cbIncomingEnd then lockValue i else "disabled") =
      if j ≤ cbIncomingEnd then lockValue j else "disabled") ↔ i = j := by
  have hall : ∀ i ≤ 5, ∀ j ≤ 5, 3 ≤ i → 3 ≤ j →
      ((if i ≤ cbIncomingEnd then lockValue i else "disabled") =
        if j ≤ cbIncomingEnd then lockValue j else "disabled") → i = j := by decide
  constructor
  · exact hall i hi.2 j hj.2 hi.1 hj.1
  · rintro rfl
    rfl

/-! ## What the signals say -/

/-- After the signal, if any, who held the outgoing value of `before` holds that of `newLocks`. -/
def ToldOutgoing (cb : CallBarring) (before : ℕ → ClassMask) : Prop :=
  if firstLock cb.curLocks bearerClassVoice cb.queryStart cbOutgoingEnd =
      firstLock cb.newLocks bearerClassVoice cb.queryStart cbOutgoingEnd then
    firstLock before bearerClassVoice cbOutgoingStart cbOutgoingEnd =
      firstLock cb.newLocks bearerClassVoice cbOutgoingStart cbOutgoingEnd
  else ∀ k < cb.queryStart, (cb.newLocks k).voice = false

/-- The same for incoming calls, where it is the end of the bounds that may be too low. -/
def ToldIncoming (cb : CallBarring) (before : ℕ → ClassMask) : Prop :=
  if firstLock cb.curLocks bearerClassVoice cbIncomingStart cb.queryEnd =
      firstLock cb.newLocks bearerClassVoice cbIncomingStart cb.queryEnd then
    firstLock before bearerClassVoice cbIncomingStart cbIncomingEnd =
      firstLock cb.newLocks bearerClassVoice cbIncomingStart cbIncomingEnd
  else
    firstLock cb.newLocks bearerClassVoice cbIncomingStart cb.queryEnd ≤ cb.queryEnd ∨
      ∀ k ≤ cbIncomingEnd, cb.queryEnd < k → (cb.newLocks k).voice = false

/-- The signals of `updateBarrings` take a client from `before` to `newLocks`. -/
def Told (cb : CallBarring) (before : ℕ → ClassMask) : Prop :=
  cb.ToldOutgoing before ∧ cb.ToldIncoming before

instance (cb : CallBarring) (before : ℕ → ClassMask) : Decidable (cb.Told before) := by
  unfold Told ToldOutgoing ToldIncoming
  infer_instance

lemma firstLock_outgoing (locks : ℕ → ClassMask) :
    firstLock locks bearerClassVoice cbOutgoingStart cbOutgoingEnd ≤ 3 :=
  firstFrom_le 0 3

lemma firstLock_incoming (locks : ℕ → ClassMask) :
    3 ≤ firstLock locks bearerClassVoice cbIncomingStart cbIncomingEnd ∧
      firstLock locks bearerClassVoice cbIncomingStart cbIncomingEnd ≤ 5 :=
  ⟨le_firstFrom 3 2, firstFrom_le 3 2⟩

/-- From a later start the loop finds the same lock unless one is set before the start. -/
lemma firstLock_outgoing_eq_iff {start : ℕ} (hstart : start ≤ 3) (locks : ℕ → ClassMask) :
    firstLock locks bearerClassVoice start cbOutgoingEnd = firstLock locks bearerClassVoice
    cbOutgoingStart cbOutgoingEnd ↔ ∀ k < start, (locks k).voice = false := by
  have hparts := @firstFrom_add locks bearerClassVoice 0 start (3 - start)
  rw [Nat.zero_add, show start + (3 - start) = 3 by omega] at hparts
  have hwhole : firstLock locks bearerClassVoice cbOutgoingStart cbOutgoingEnd =
      firstFrom locks bearerClassVoice 0 3 := rfl
  have hlater : firstLock locks bearerClassVoice start cbOutgoingEnd =
      firstFrom locks bearerClassVoice start (3 - start) := rfl
  have hnone := @firstFrom_eq_end_iff locks bearerClassVoice 0 start
  have hle := @firstFrom_le locks bearerClassVoice 0 start
  have hge := @le_firstFrom locks bearerClassVoice start (3 - start)
  rw [Nat.zero_add] at hnone hle
  rw [hwhole, hlater, hparts]
  constructor
  · intro heq k hk
    refine hnone.mp ?_ k (Nat.zero_le k) hk
    split at heq <;> omega
  · intro hall
    rw [if_neg]
    rw [hnone.mpr fun k _ hk => hall k hk]
    exact Nat.lt_irrefl start

/-- The value that a signal gives for incoming calls is the one of all incoming locks, if a lock is
found within the bounds or none is set behind them. -/
lemma incoming_signal_iff {stop : ℕ} (hlow : 3 ≤ stop) (hhigh : stop ≤ 4)
    (locks : ℕ → ClassMask) :
    ((if firstLock locks bearerClassVoice cbIncomingStart stop > stop then "disabled"
        else lockValue (firstLock locks bearerClassVoice cbIncomingStart stop)) =
      incomingValue locks) ↔
      firstLock locks bearerClassVoice cbIncomingStart stop ≤ stop ∨
        ∀ k ≤ cbIncomingEnd, stop < k → (locks k).voice = false := by
  have hparts :=
    @firstFrom_add locks bearerClassVoice 3 (stop - 2) (4 - stop)
  rw [show stop - 2 + (4 - stop) = 2 by omega, show 3 + (stop - 2) = stop + 1 by omega] at hparts
  have hwhole : firstLock locks bearerClassVoice cbIncomingStart cbIncomingEnd =
      firstFrom locks bearerClassVoice 3 2 := rfl
  have hbound : firstLock locks bearerClassVoice cbIncomingStart stop =
      firstFrom locks bearerClassVoice 3 (stop - 2) := by
    rw [firstLock, cbIncomingStart, show stop + 1 - 3 = stop - 2 by omega]
  have hbehind := @firstFrom_eq_end_iff locks bearerClassVoice (stop + 1)
    (4 - stop)
  rw [show stop + 1 + (4 - stop) = 5 by omega] at hbehind
  rw [incomingValue]
  by_cases hfound : firstLock locks bearerClassVoice cbIncomingStart stop ≤ stop
  · have hsame : firstLock locks bearerClassVoice cbIncomingStart cbIncomingEnd =
        firstLock locks bearerClassVoice cbIncomingStart stop := by
      rw [hwhole, hparts, ← hbound, if_pos (by omega)]
    have hin : firstLock locks bearerClassVoice cbIncomingStart stop ≤ cbIncomingEnd :=
      Nat.le_trans hfound hhigh
    simp [hsame, hfound, hin, Nat.not_lt.mpr hfound]
  · have hsame : firstLock locks bearerClassVoice cbIncomingStart cbIncomingEnd =
        firstFrom locks bearerClassVoice (stop + 1) (4 - stop) := by
      rw [hwhole, hparts, ← hbound, if_neg (by omega)]
    rw [if_pos (Nat.lt_of_not_le hfound), or_iff_right hfound]
    have hends := incomingValue_inj (i := 5) (j := firstFrom locks bearerClassVoice (stop + 1)
      (4 - stop)) (by omega) (by rw [← hsame]; exact firstLock_incoming locks)
    rw [if_neg (by decide)] at hends
    simp only [hsame]
    rw [hends, eq_comm, hbehind]
    constructor
    · intro hall k hk hstop
      exact hall k hstop (by rw [cbIncomingEnd] at hk; omega)
    · intro hall k hstop hk
      exact hall k (by rw [cbIncomingEnd]; omega) hstop

lemma barringSignals_voice (cb : CallBarring) :
    cb.barringSignals bearerClassVoice =
      cb.emitBarringChanged cb.queryStart cbOutgoingEnd "Outgoing" bearerClassVoice ++
        cb.emitBarringChanged cbIncomingStart cb.queryEnd "Incoming" bearerClassVoice := by
  rw [barringSignals, bearerClasses_voice, flatMap_cons, flatMap_nil, append_nil]

lemma told_outgoing_iff (cb : CallBarring) (before : ℕ → ClassMask) :
    (said (cb.emitBarringChanged cb.queryStart cbOutgoingEnd "Outgoing" bearerClassVoice)
        "VoiceOutgoing").or (some (outgoingValue before)) = some (outgoingValue cb.newLocks) ↔
      cb.ToldOutgoing before := by
  rw [emitBarringChanged, ToldOutgoing]
  split
  · rw [said_nil, none_or, some_inj, outgoingValue, outgoingValue,
      outgoingValue_inj (firstLock_outgoing before) (firstLock_outgoing cb.newLocks)]
  · rename_i hne
    have hstart : cb.queryStart ≤ 3 := by
      by_contra hhigh
      have hempty : cbOutgoingEnd + 1 - cb.queryStart = 0 := by rw [cbOutgoingEnd]; omega
      rw [firstLock, firstLock, hempty] at hne
      exact hne rfl
    have hlater : firstLock cb.newLocks bearerClassVoice cb.queryStart cbOutgoingEnd ≤ 3 := by
      have hle := @firstFrom_le cb.newLocks bearerClassVoice cb.queryStart
        (cbOutgoingEnd + 1 - cb.queryStart)
      rw [cbOutgoingEnd] at hle
      rw [firstLock, cbOutgoingEnd]
      omega
    have hname : bearerClassToString bearerClassVoice ++ "Outgoing" = "VoiceOutgoing" := by
      simp
    rw [said_cons, said_nil, if_pos hname, none_or, some_or, some_inj, ← firstLock_outgoing_eq_iff
      hstart, outgoingValue, ← outgoingValue_inj hlater (firstLock_outgoing cb.newLocks)]
    refine Eq.congr ?_ rfl
    by_cases hfound : firstLock cb.newLocks bearerClassVoice cb.queryStart cbOutgoingEnd ≤
        cbOutgoingEnd
    · rw [if_pos hfound, if_neg (Nat.not_lt.mpr hfound)]
    · rw [if_neg hfound, if_pos (Nat.lt_of_not_le hfound)]

lemma told_incoming_iff {cb : CallBarring} (hend : cb.queryEnd ≤ 4) (before : ℕ → ClassMask) :
    (said (cb.emitBarringChanged cbIncomingStart cb.queryEnd "Incoming" bearerClassVoice)
        "VoiceIncoming").or (some (incomingValue before)) = some (incomingValue cb.newLocks) ↔
      cb.ToldIncoming before := by
  rw [emitBarringChanged, ToldIncoming]
  split
  · rw [said_nil, none_or, some_inj, incomingValue, incomingValue,
      incomingValue_inj (firstLock_incoming before) (firstLock_incoming cb.newLocks)]
  · rename_i hne
    have hlow : 3 ≤ cb.queryEnd := by
      by_contra hbelow
      have hempty : cb.queryEnd + 1 - cbIncomingStart = 0 := by rw [cbIncomingStart]; omega
      rw [firstLock, firstLock, hempty] at hne
      exact hne rfl
    have hname : bearerClassToString bearerClassVoice ++ "Incoming" = "VoiceIncoming" := by
      simp
    rw [said_cons, said_nil, if_pos hname, none_or, some_or, some_inj]
    exact incoming_signal_iff hlow hend cb.newLocks

/-- A client that holds what was on record `before` holds what is on record now, once it has
followed the signals, exactly if it was told. -/
lemma holds_after_signals_iff {cb : CallBarring} (hend : cb.queryEnd ≤ 4) {before : ℕ → ClassMask}
    {held : Held String String} (hheld : held.Holds (voiceProperties before)) : (held.changeAll
    (cb.barringSignals bearerClassVoice)).Holds (voiceProperties cb.newLocks) ↔ cb.Told before := by
  rw [holds_voiceProperties] at hheld
  have hother : ∀ start stop, said (cb.emitBarringChanged start stop "Incoming" bearerClassVoice)
      "VoiceOutgoing" = none := by
    intro start stop
    refine said_eq_none ?_
    intro c hc
    rw [emitBarringChanged] at hc
    split at hc
    · simp at hc
    · rw [mem_singleton.mp hc]
      simp
  have hfirst : ∀ start stop, said (cb.emitBarringChanged start stop "Outgoing" bearerClassVoice)
      "VoiceIncoming" = none := by
    intro start stop
    refine said_eq_none ?_
    intro c hc
    rw [emitBarringChanged] at hc
    split at hc
    · simp at hc
    · rw [mem_singleton.mp hc]
      simp
  rw [holds_voiceProperties, Held.changeAll_apply, Held.changeAll_apply, barringSignals_voice,
    said_append, said_append, hother, hfirst, none_or, or_none, hheld.1, hheld.2,
    told_outgoing_iff, told_incoming_iff hend]
  rfl

end CallBarring

/-! ## Sessions -/

/-- The query that an output asks. -/
def CbOutput.asked : CbOutput → Option (Fac × ClassMask)
  | .query fac cls => some (fac, cls)
  | _ => none

/-- The reply with which the message that waits is answered. -/
def CbOutput.answer : CbOutput → Option CbReply
  | .pendingReply r => some r
  | _ => none

def CbOutput.heard : CbOutput → Option (Heard String String)
  | .reply (.properties dict) => some (.table dict)
  | .pendingReply (.properties dict) => some (.table dict)
  | .propertyChanged name value => some (.changed name value)
  | _ => none

def CbReply.isError : CbReply → Bool
  | .error _ => true
  | _ => false

/-- An answer about a lock overrides the one before it. -/
def settle (settled : Fac → Bool) (a : Fac × Bool) : Fac → Bool := Function.update settled a.1 a.2

/-- The atom with what the network and the clients know: the query that is out, the answers for
voice calls to the request that waits, the last ones to requests that succeeded, and what every
client holds. `before` are the locks on record when the request was made. -/
structure CbSession where
  cb : CallBarring
  before : ℕ → ClassMask
  asking : Option (Fac × ClassMask)
  answers : List (Fac × Bool)
  settled : Fac → Bool
  clients : List (Held String String)

namespace CbSession

def start : CbSession where
  cb := .start
  before := fun _ => 0
  asking := none
  answers := []
  settled := fun _ => false
  clients := []

/-- The answers, once the driver has called back. -/
def answersAfter (s : CbSession) : CbEvent → List (Fac × Bool)
  | .queryDone error status =>
    match s.asking with
    | some (fac, cls) =>
      if error.type = .noError ∧ cls.voice then s.answers ++ [(fac, status.voice)]
      else s.answers
    | none => s.answers
  | _ => s.answers

/-- The query that is out after the driver has called back. -/
def askingAfter (s : CbSession) : CbEvent → Option (Fac × ClassMask)
  | .queryDone .. => none
  | _ => s.asking

/-- What the outputs of an event do to the session. -/
def observe (s : CbSession) (e : CbEvent) (outputs : List CbOutput) (cb : CallBarring) :
    CbSession where
  cb := cb
  before := if s.cb.pending.isNone then s.cb.newLocks else s.before
  asking := (outputs.findSome? CbOutput.asked).or (s.askingAfter e)
  answers := if (outputs.findSome? CbOutput.answer).isSome then [] else s.answersAfter e
  settled :=
    match outputs.findSome? CbOutput.answer with
    | some r => if r.isError then s.settled else (s.answersAfter e).foldl settle s.settled
    | none => s.settled
  clients := listenAll s.clients (outputs.filterMap CbOutput.heard)

def step (driver : CbDriver) (s : CbSession) (e : CbEvent) : Option CbSession :=
  some (s.observe e (s.cb.handle driver e).1 (s.cb.handle driver e).2)

/-- The locks are as the network has said, for voice calls. -/
def OnRecord (settled : Fac → Bool) (locks : ℕ → ClassMask) : Prop :=
  ∀ i ≤ 4, (locks i).voice = settled (lockFac i)

def Current (clients : List (Held String String)) (locks : ℕ → ClassMask) : Prop :=
  ∀ held ∈ clients, held.Holds (CallBarring.voiceProperties locks)

/-- What is promised after every request: the record is right, and so is every client. -/
structure Good (s : CbSession) : Prop where
  record : s.cb.pending = none → OnRecord s.settled s.cb.newLocks
  clients : s.cb.pending = none → ∀ held ∈ s.clients,
    held.Holds (s.cb.getPropertiesReply bearerClassVoice)

/-! ## What has to be met -/

/-- The same locks, for voice calls. -/
def SameVoice (locks locks' : ℕ → ClassMask) : Prop := ∀ i ≤ 4, (locks i).voice = (locks' i).voice

instance (locks locks' : ℕ → ClassMask) : Decidable (SameVoice locks locks') :=
  inferInstanceAs (Decidable (∀ i ≤ 4, (locks i).voice = (locks' i).voice))

/-- The answer that ends a chain after a successful set or a control string. -/
def EndMet (s : CbSession) (cls status : ClassMask) : Prop :=
  (cls.voice ∨ SameVoice (s.cb.answered status).newLocks s.before) ∧
    (s.clients ≠ [] → (s.cb.answered status).Told s.before)

instance (s : CbSession) (cls status : ClassMask) : Decidable (s.EndMet cls status) := by
  unfold EndMet
  infer_instance

/-- The locks of `GetProperties` after an answer. -/
def afterGet (cb : CallBarring) (error : OfonoError) (status : ClassMask) : CallBarring :=
  if error.type = .noError then cb.answered status else cb

/-- What an answer of the driver has to meet. A failure must not come after a lock has changed; at
the end of a chain the record must be kept by classes without voice calls, and the signals must
tell the clients what has changed. -/
def Met (s : CbSession) : CbEvent → Prop
  | .queryDone error status =>
    match s.cb.pending with
    | some .ssQueryNextLock =>
      if error.type ≠ .noError then SameVoice s.cb.newLocks s.before
      else s.cb.queryNext < s.cb.queryEnd ∨ s.EndMet s.cb.ssQueryClass status
    | some .setQueryLock =>
      if error.type ≠ .noError then SameVoice s.cb.newLocks s.before
      else s.cb.queryNext < s.cb.queryEnd ∨ s.EndMet bearerClassDefault status
    | some .getQueryLock =>
      s.cb.queryNext < cbAllEnd ∨
        (afterGet s.cb error status).Told (afterGet s.cb error status).newLocks ∧
          (s.clients ≠ [] → (afterGet s.cb error status).Told s.before)
    | _ => True
  | _ => True

instance (s : CbSession) (e : CbEvent) : Decidable (s.Met e) := by
  unfold Met
  repeat' split
  all_goals infer_instance

/-! ## The invariant -/

/-- The class of the queries that a callback waits for. -/
def askedClass (cb : CallBarring) : CbCallback → Option ClassMask
  | .ssQueryNextLock => some cb.ssQueryClass
  | .getQueryLock | .setQueryLock => some bearerClassDefault
  | .setLock | .disableAll | .ssSetLock | .setPasswd => none

/-- The last lock of the chain that a callback is part of. -/
def chainEnd (cb : CallBarring) : CbCallback → ℕ
  | .getQueryLock => cbAllEnd
  | _ => cb.queryEnd

/-- How far the answers to the request have come: those for voice calls are in `newLocks`, and
`newLocks` is as it was before the first one. -/
def Answered (s : CbSession) : Option ClassMask → Prop
  | none => s.cb.newLocks = s.before ∧ s.answers = []
  | some cls =>
    if cls.voice then OnRecord (s.answers.foldl settle s.settled) s.cb.newLocks
    else s.answers = []

/-- A request waits: what was on record when it was made is what the network has said and what
the clients hold. -/
structure Waiting (s : CbSession) (callback : CbCallback) : Prop where
  record : OnRecord s.settled s.before
  clients : Current s.clients s.before
  next : callback ≠ .setPasswd → s.cb.queryNext ≤ chainEnd s.cb callback
  asking : s.asking = (askedClass s.cb callback).map fun cls => (lockFac s.cb.queryNext, cls)
  answered : s.Answered (askedClass s.cb callback)

/-- No request waits. -/
structure Idle (s : CbSession) : Prop where
  record : OnRecord s.settled s.cb.newLocks
  clients : Current s.clients s.cb.newLocks
  asking : s.asking = none
  answers : s.answers = []

structure Inv (s : CbSession) : Prop where
  stop : s.cb.queryEnd ≤ 4
  idle : s.cb.pending = none → s.Idle
  waiting : ∀ callback, s.cb.pending = some callback → s.Waiting callback

lemma Inv.good {s : CbSession} (h : s.Inv) : s.Good := by
  constructor
  · intro hidle
    exact (h.idle hidle).record
  · intro hidle held hheld
    rw [CallBarring.getPropertiesReply_voice]
    exact (h.idle hidle).clients held hheld

lemma inv_start : start.Inv := by
  constructor
  · exact Nat.zero_le 4
  · intro _
    constructor
    · intro i _
      exact ClassMask.voice_zero
    · intro held hheld
      exact absurd hheld not_mem_nil
    · rfl
    · rfl
  · intro callback h
    exact absurd h nofun

end CbSession

/-! ## What a request comes to -/

/-- Outputs that neither ask nor answer, and that no client hears as a value. -/
structure Silent (outputs : List CbOutput) : Prop where
  asked : outputs.findSome? CbOutput.asked = none
  answer : outputs.findSome? CbOutput.answer = none
  heard : outputs.filterMap CbOutput.heard = []

def CbEvent.isRequest : CbEvent → Bool
  | .setDone _ | .queryDone .. | .passwdDone _ => false
  | _ => true

lemma silent_nil : Silent [] := ⟨rfl, rfl, rfl⟩

lemma silent_refusal (error : DbusError) : Silent [.reply (.error error)] := ⟨rfl, rfl, rfl⟩

/-- How a request may go when none waits. -/
inductive Outcome (cb' : CallBarring) : List CbOutput → Prop
  | refused {outputs} (hsilent : Silent outputs) (hpending : cb'.pending = none) :
      Outcome cb' outputs
  | fromCache (hpending : cb'.pending = none) :
      Outcome cb' [.pendingReply (.properties (CallBarring.voiceProperties cb'.newLocks))]
  | waits {outputs} (callback : CbCallback) (hsilent : Silent outputs)
      (hpending : cb'.pending = some callback)
      (hclass : CbSession.askedClass cb' callback = none)
      (hnext : callback ≠ .setPasswd → cb'.queryNext ≤ CbSession.chainEnd cb' callback) :
      Outcome cb' outputs
  | asks (callback : CbCallback) (cls : ClassMask) (hpending : cb'.pending = some callback)
      (hclass : CbSession.askedClass cb' callback = some cls)
      (hnext : cb'.queryNext ≤ CbSession.chainEnd cb' callback) :
      Outcome cb' [.query (lockFac cb'.queryNext) cls]

/-- A request leaves the locks and keeps the bounds inside of them. -/
structure Requested (cb : CallBarring) (did : List CbOutput × CallBarring) : Prop where
  locks : did.2.newLocks = cb.newLocks
  stop : did.2.queryEnd ≤ 4
  outcome : Outcome did.2 did.1

namespace CallBarring

variable {cb : CallBarring} {driver : CbDriver}

lemma cbSetQueryBounds_eq (cb : CallBarring) (fac : Fac) (facOnly : Bool) : ∃ start stop, start ≤
    stop ∧ stop ≤ 4 ∧ cb.cbSetQueryBounds fac facOnly = cb.queryBounds start stop := by
  cases fac <;> cases facOnly <;> exact ⟨_, _, by decide, by decide, rfl⟩

lemma cbSetQueryBounds_spec (cb : CallBarring) (fac : Fac) (facOnly : Bool) : (cb.cbSetQueryBounds
    fac facOnly).newLocks = cb.newLocks ∧ (cb.cbSetQueryBounds fac facOnly).pending = cb.pending ∧
    (cb.cbSetQueryBounds fac facOnly).queryNext ≤ (cb.cbSetQueryBounds fac facOnly).queryEnd ∧
    (cb.cbSetQueryBounds fac facOnly).queryEnd ≤ 4 := by
  rcases cbSetQueryBounds_eq cb fac facOnly with ⟨start, stop, hle, hstop, heq⟩
  rw [heq]
  exact ⟨rfl, rfl, hle, hstop⟩

lemma Requested.refuse (hstop : cb.queryEnd ≤ 4) (hidle : cb.pending = none)
    (error : DbusError) : Requested cb ([.reply (.error error)], cb) :=
  ⟨rfl, hstop, .refused (silent_refusal error) hidle⟩

lemma refuse_or (hstop : cb.queryEnd ≤ 4) (hidle : cb.pending = none) {p : Prop} [Decidable p]
    {error : DbusError} {did : List CbOutput × CallBarring} (h : ¬ p → Requested cb did) :
    Requested cb (if p then ([.reply (.error error)], cb) else did) := by
  split
  next => exact Requested.refuse hstop hidle error
  next hp => exact h hp

lemma cbGetProperties_spec (hstop : cb.queryEnd ≤ 4) (hidle : cb.pending = none)
    (ussdBusy : Bool) : Requested cb (cb.cbGetProperties driver ussdBusy) := by
  unfold cbGetProperties
  refine refuse_or hstop hidle fun _ => refuse_or hstop hidle fun _ => ?_
  split
  · refine ⟨rfl, hstop, ?_⟩
    rw [getPropertiesReply_voice]
    exact .fromCache rfl
  · exact ⟨rfl, hstop, .asks .getQueryLock bearerClassDefault rfl rfl (Nat.zero_le 4)⟩

/-- A call of `set` with the bounds for its facility. -/
lemma Requested.set (cb : CallBarring) (fac : Fac) {mode : Bool} {passwd : String}
    {cls : ClassMask} {callback : CbCallback}
    (hcallback : callback = .setLock ∨ callback = .disableAll) :
    Requested cb ([.set fac mode passwd cls],
      { cb.cbSetQueryBounds fac false with pending := some callback }) := by
  rcases cbSetQueryBounds_spec cb fac false with ⟨hlocks, -, hnext, hstop⟩
  refine ⟨hlocks, hstop, .waits callback ⟨rfl, rfl, rfl⟩ rfl ?_ ?_⟩
  · rcases hcallback with rfl | rfl <;> rfl
  · intro _
    rcases hcallback with rfl | rfl <;> exact hnext

lemma cbSetProperty_spec (hstop : cb.queryEnd ≤ 4) (hidle : cb.pending = none) (ussdBusy : Bool)
    (args : Option CbSetPropertyArgs) : Requested cb (cb.cbSetProperty driver ussdBusy args) := by
  unfold cbSetProperty
  refine refuse_or hstop hidle fun _ => ?_
  split
  · exact Requested.refuse hstop hidle _
  · split
    · exact Requested.refuse hstop hidle _
    · split
      · exact Requested.refuse hstop hidle _
      · exact refuse_or hstop hidle fun _ => refuse_or hstop hidle fun _ => Requested.set cb _ (.inl rfl)

lemma cbDisableAll_spec (hstop : cb.queryEnd ≤ 4) (hidle : cb.pending = none)
    (ussdBusy : Bool) (passwd : Option String) (fac : Fac) :
    Requested cb (cb.cbDisableAll driver ussdBusy passwd fac) := by
  unfold cbDisableAll
  refine refuse_or hstop hidle fun _ => refuse_or hstop hidle fun _ => ?_
  split
  · exact Requested.refuse hstop hidle _
  · exact refuse_or hstop hidle fun _ => Requested.set cb fac (.inr rfl)

lemma Requested.passwd (hstop : cb.queryEnd ≤ 4) (fac : Fac) (old new : String) :
    Requested cb ([.setPasswd fac old new], { cb with pending := some .setPasswd }) :=
  ⟨rfl, hstop, .waits .setPasswd ⟨rfl, rfl, rfl⟩ rfl rfl fun h => absurd rfl h⟩

lemma cbSetPasswd_spec (hstop : cb.queryEnd ≤ 4) (hidle : cb.pending = none) (ussdBusy : Bool)
    (args : Option (String × String)) : Requested cb (cb.cbSetPasswd driver ussdBusy args) := by
  unfold cbSetPasswd
  refine refuse_or hstop hidle fun _ => refuse_or hstop hidle fun _ => ?_
  split
  · exact Requested.refuse hstop hidle _
  · exact refuse_or hstop hidle fun _ => Requested.passwd hstop _ _ _

lemma cbSsPasswd_spec (hstop : cb.queryEnd ≤ 4) (hidle : cb.pending = none)
    (sc old new : String) : Requested cb (cb.cbSsPasswd sc old new) := by
  unfold cbSsPasswd
  refine refuse_or hstop hidle fun _ => ?_
  split
  · exact ⟨rfl, hstop, .refused silent_nil hidle⟩
  · exact refuse_or hstop hidle fun _ => Requested.passwd hstop _ _ _

lemma cbSsControl_spec (hstop : cb.queryEnd ≤ 4) (hidle : cb.pending = none) (c : SsControl) :
    Requested cb (cb.cbSsControl driver c) := by
  unfold cbSsControl
  refine refuse_or hstop hidle fun _ => ?_
  split
  · exact ⟨rfl, hstop, .refused silent_nil hidle⟩
  · rename_i fac _
    rcases cbSetQueryBounds_spec cb fac (c.type = .query) with ⟨hlocks, hpending, hnext, hend⟩
    -- the bounds are set before the control string is looked at
    have hrefuse : ∀ error, Requested cb ([.reply (.error error)],
        { cb.cbSetQueryBounds fac (c.type = .query) with
          ssReqLock := cbLocks.findIdx (·.fac = fac) }) := by
      intro error
      exact ⟨hlocks, hend, .refused (silent_refusal error) (hpending.trans hidle)⟩
    dsimp only
    generalize (if c.type = .query then driver.query else driver.set) = operation
    iterate 4
      refine iteInduction (fun _ => hrefuse _) fun _ => ?_
    split
    · exact hrefuse _
    · split
      all_goals first
        | exact ⟨hlocks, hend, .waits .ssSetLock ⟨rfl, rfl, rfl⟩ rfl rfl fun _ => hnext⟩
        | exact ⟨hlocks, hend, .asks .ssQueryNextLock _ rfl rfl hnext⟩

lemma handle_request (hstop : cb.queryEnd ≤ 4) (hidle : cb.pending = none) {e : CbEvent}
    (he : e.isRequest = true) : Requested cb (cb.handle driver e) := by
  cases e with
  | getProperties ussdBusy => exact cbGetProperties_spec hstop hidle ussdBusy
  | setProperty ussdBusy args => exact cbSetProperty_spec hstop hidle ussdBusy args
  | disableAll ussdBusy passwd => exact cbDisableAll_spec hstop hidle ussdBusy passwd .ab
  | disableAllIncoming ussdBusy passwd => exact cbDisableAll_spec hstop hidle ussdBusy passwd .ac
  | disableAllOutgoing ussdBusy passwd => exact cbDisableAll_spec hstop hidle ussdBusy passwd .ag
  | changePassword ussdBusy args => exact cbSetPasswd_spec hstop hidle ussdBusy args
  | ssControl c => exact cbSsControl_spec hstop hidle c
  | ssPasswd sc old new => exact cbSsPasswd_spec hstop hidle sc old new
  | setDone error => exact absurd he Bool.false_ne_true
  | queryDone error status => exact absurd he Bool.false_ne_true
  | passwdDone error => exact absurd he Bool.false_ne_true

lemma handle_busy {callback : CbCallback} (hbusy : cb.pending = some callback) {e : CbEvent}
    (he : e.isRequest = true) : (cb.handle driver e).2 = cb ∧ Silent (cb.handle driver e).1 := by
  have hrefuse : ∀ error : DbusError, cb = cb ∧ Silent [.reply (.error error)] :=
    fun error => ⟨rfl, silent_refusal error⟩
  have hdisable : ∀ ussdBusy passwd fac, (cb.cbDisableAll driver ussdBusy passwd fac).2 = cb ∧
      Silent (cb.cbDisableAll driver ussdBusy passwd fac).1 := by
    intro ussdBusy passwd fac
    simp only [cbDisableAll, hbusy, isSome_some, Bool.true_or, if_true]
    split <;> exact hrefuse _
  cases e with
  | getProperties ussdBusy =>
    simp only [handle, cbGetProperties, hbusy, isSome_some, Bool.true_or, if_true]
    exact ⟨trivial, silent_refusal _⟩
  | setProperty ussdBusy args =>
    simp only [handle, cbSetProperty, hbusy, isSome_some, Bool.true_or, if_true]
    exact ⟨trivial, silent_refusal _⟩
  | disableAll ussdBusy passwd => exact hdisable ussdBusy passwd .ab
  | disableAllIncoming ussdBusy passwd => exact hdisable ussdBusy passwd .ac
  | disableAllOutgoing ussdBusy passwd => exact hdisable ussdBusy passwd .ag
  | changePassword ussdBusy args =>
    simp only [handle, cbSetPasswd, hbusy, isSome_some, Bool.true_or, if_true]
    split <;> exact hrefuse _
  | ssControl c =>
    simp only [handle, cbSsControl, hbusy, isSome_some, if_true]
    exact ⟨trivial, silent_refusal _⟩
  | ssPasswd sc old new =>
    simp only [handle, cbSsPasswd, hbusy, isSome_some, if_true]
    exact ⟨trivial, silent_refusal _⟩
  | setDone error => exact absurd he Bool.false_ne_true
  | queryDone error status => exact absurd he Bool.false_ne_true
  | passwdDone error => exact absurd he Bool.false_ne_true

end CallBarring

/-! ## One step keeps the invariant -/

namespace CbSession

variable {s : CbSession} {driver : CbDriver}

lemma lockFac_inj {i j : ℕ} (hi : i ≤ 4) (hj : j ≤ 4) (h : lockFac i = lockFac j) : i = j := by
  have hall : ∀ i ≤ 4, ∀ j ≤ 4, lockFac i = lockFac j → i = j := by decide
  exact hall i hi j hj h

variable {settled : Fac → Bool} {locks locks' : ℕ → ClassMask}

lemma OnRecord.congr
    (h : OnRecord settled locks) (hsame : SameVoice locks' locks) : OnRecord settled locks' := by
  intro i hi
  rw [hsame i hi, h i hi]

variable {cb : CallBarring}

lemma OnRecord.answer (h : OnRecord settled cb.newLocks) (hnext : cb.queryNext ≤ 4)
    (status : ClassMask) : OnRecord (settle settled (lockFac cb.queryNext, status.voice))
    (cb.answered status).newLocks := by
  intro i hi
  dsimp only [CallBarring.answered, settle]
  by_cases heq : i = cb.queryNext
  · subst heq
    simp
  · have hfac : lockFac i ≠ lockFac cb.queryNext := fun hsame => heq (lockFac_inj hi hnext hsame)
    rw [Function.update_of_ne heq, Function.update_of_ne hfac]
    exact h i hi

lemma firstFrom_voice (h : SameVoice locks locks') {i n : ℕ} (hn : i + n ≤ 5) :
    CallBarring.firstFrom locks bearerClassVoice i n =
      CallBarring.firstFrom locks' bearerClassVoice i n := by
  induction n generalizing i with
  | zero => rfl
  | succ n ih =>
    have hbit : (locks i).has bearerClassVoice = (locks' i).has bearerClassVoice :=
      h i (by omega)
    rw [CallBarring.firstFrom, CallBarring.firstFrom, hbit, ih (by omega)]

lemma voiceProperties_congr (h : SameVoice locks locks') :
    CallBarring.voiceProperties locks = CallBarring.voiceProperties locks' := by
  have hout : CallBarring.firstLock locks bearerClassVoice cbOutgoingStart cbOutgoingEnd =
      CallBarring.firstLock locks' bearerClassVoice cbOutgoingStart cbOutgoingEnd :=
    firstFrom_voice h (by decide)
  have hin : CallBarring.firstLock locks bearerClassVoice cbIncomingStart cbIncomingEnd =
      CallBarring.firstLock locks' bearerClassVoice cbIncomingStart cbIncomingEnd :=
    firstFrom_voice h (by decide)
  rw [CallBarring.voiceProperties, CallBarring.outgoingValue, CallBarring.incomingValue, hout, hin]
  rfl

lemma SameVoice.of_records
    (h : OnRecord settled locks) (h' : OnRecord settled locks') : SameVoice locks locks' := by
  intro i hi
  rw [h i hi, h' i hi]

/-- Silent outputs of an event that no query was out for change nothing but the atom. -/
lemma observe_silent {outputs : List CbOutput} (hsilent : Silent outputs) (e : CbEvent)
    (cb : CallBarring) :
    s.observe e outputs cb =
      { s with
        cb := cb
        before := if s.cb.pending.isNone then s.cb.newLocks else s.before
        asking := s.askingAfter e
        answers := s.answersAfter e } := by
  rw [observe, hsilent.asked, hsilent.answer, hsilent.heard]
  rfl

variable {e : CbEvent}

/-- Neither a request nor the answer to a call that asks nothing has an answer for the session. -/
lemma after_of_not_query (he : ∀ error status, e ≠ .queryDone error status) :
    s.answersAfter e = s.answers ∧ s.askingAfter e = s.asking := by
  cases e with
  | queryDone error status => exact absurd rfl (he error status)
  | _ => exact ⟨rfl, rfl⟩

lemma not_query_of_isRequest (he : e.isRequest = true) (error : OfonoError)
    (status : ClassMask) : e ≠ .queryDone error status := by
  rintro rfl
  exact Bool.false_ne_true he

variable {e : CbEvent}

lemma Inv.unchanged (h : s.Inv) {outputs : List CbOutput}
    (hsilent : Silent outputs) (hanswers : s.answersAfter e = s.answers)
    (hasking : s.askingAfter e = s.asking) : (s.observe e outputs s.cb).Inv := by
  rw [observe_silent hsilent, hanswers, hasking]
  constructor
  · exact h.stop
  · intro hidle
    exact ⟨(h.idle hidle).record, (h.idle hidle).clients, (h.idle hidle).asking,
      (h.idle hidle).answers⟩
  · intro callback hpending
    have hbusy : s.cb.pending.isNone = false := by rw [hpending]; rfl
    rw [hbusy]
    exact ⟨(h.waiting callback hpending).record, (h.waiting callback hpending).clients,
      (h.waiting callback hpending).next, (h.waiting callback hpending).asking,
      (h.waiting callback hpending).answered⟩

lemma Inv.request (h : s.Inv) (hidle : s.cb.pending = none) (he : e.isRequest = true) {did : List
    CbOutput × CallBarring} (hdid : Requested s.cb did) : (s.observe e did.1 did.2).Inv := by
  rcases h.idle hidle with ⟨hrecord, hclients, hasking, hanswers⟩
  rcases after_of_not_query (s := s) (not_query_of_isRequest he) with ⟨hans, hask⟩
  rcases did with ⟨outputs, cb'⟩
  rcases hdid with ⟨hlocks, hstop, houtcome⟩
  dsimp only at hlocks hstop houtcome ⊢
  rw [hanswers] at hans
  rw [hasking] at hask
  have hnone : s.cb.pending.isNone = true := by rw [hidle]; rfl
  cases houtcome with
  | refused hsilent hpending =>
    rw [observe_silent hsilent, hans, hask]
    constructor
    · exact hstop
    · intro _
      exact ⟨by rw [hlocks]; exact hrecord, by rw [hlocks]; exact hclients, rfl, rfl⟩
    · intro callback hcallback
      rw [hpending] at hcallback
      exact absurd hcallback (some_ne_none callback).symm
  | fromCache hpending =>
    constructor
    · exact hstop
    · intro _
      refine ⟨?_, ?_, ?_, rfl⟩
      · show OnRecord ((s.answersAfter e).foldl settle s.settled) cb'.newLocks
        rw [hans, hlocks]
        exact hrecord
      · -- the client that reads now
        intro held hheld
        rcases mem_append.mp hheld with hold | hnew
        · show held.Holds (CallBarring.voiceProperties cb'.newLocks)
          rw [hlocks]
          exact hclients held hold
        · rw [mem_singleton.mp hnew]
          exact CallBarring.holds_read_voiceProperties
      · exact hask
    · intro callback hcallback
      exact absurd (hpending.symm.trans hcallback) (some_ne_none callback).symm
  | waits callback hsilent hpending hclass hnext =>
    rw [observe_silent hsilent, hans, hask, hnone]
    constructor
    · exact hstop
    · intro hno
      rw [hpending] at hno
      exact absurd hno (some_ne_none callback)
    · intro callback' hcallback
      have heq : callback' = callback := by
        rw [hpending] at hcallback
        exact (some_inj.mp hcallback).symm
      subst heq
      refine ⟨hrecord, hclients, hnext, ?_, ?_⟩
      · rw [hclass]
        rfl
      · rw [hclass]
        exact ⟨hlocks, rfl⟩
  | asks callback cls hpending hclass hnext =>
    constructor
    · exact hstop
    · intro hno
      exact absurd (hpending.symm.trans hno) (some_ne_none callback)
    · intro callback' hcallback
      have heq : callback' = callback :=
        (some_inj.mp (hpending.symm.trans hcallback)).symm
      subst heq
      have hbefore : (s.observe e [.query (lockFac cb'.queryNext) cls] cb').before =
          s.cb.newLocks := by
        show (if s.cb.pending.isNone then s.cb.newLocks else s.before) = s.cb.newLocks
        rw [hnone, if_pos rfl]
      refine ⟨by rw [hbefore]; exact hrecord, by rw [hbefore]; exact hclients, fun _ => hnext,
        ?_, ?_⟩
      · show _ = (askedClass cb' callback').map _
        rw [hclass]
        rfl
      · show (s.observe e _ cb').Answered (askedClass cb' callback')
        rw [hclass]
        have hnoanswers :
            (s.observe e [.query (lockFac cb'.queryNext) cls] cb').answers = [] := hans
        unfold Answered
        rw [hnoanswers]
        dsimp only
        split
        · show OnRecord s.settled cb'.newLocks
          rw [hlocks]
          exact hrecord
        · rfl

/-! ## The driver calls back -/

variable {t : CbSession}

lemma good_iff_of_idle (hidle : t.cb.pending = none) :
    t.Good ↔ OnRecord t.settled t.cb.newLocks ∧ Current t.clients t.cb.newLocks := by
  constructor
  · intro hgood
    refine ⟨hgood.record hidle, ?_⟩
    intro held hheld
    rw [← CallBarring.getPropertiesReply_voice]
    exact hgood.clients hidle held hheld
  · intro ⟨hrecord, hclients⟩
    refine ⟨fun _ => hrecord, ?_⟩
    intro _ held hheld
    rw [CallBarring.getPropertiesReply_voice]
    exact hclients held hheld

lemma inv_of_good (hgood : t.Good) (hidle : t.cb.pending = none) (hstop : t.cb.queryEnd ≤ 4)
    (hasking : t.asking = none) (hanswers : t.answers = []) : t.Inv := by
  rcases (good_iff_of_idle hidle).mp hgood with ⟨hrecord, hclients⟩
  refine ⟨hstop, fun _ => ⟨hrecord, hclients, hasking, hanswers⟩, ?_⟩
  intro callback hcallback
  exact absurd (hidle.symm.trans hcallback) (some_ne_none callback).symm

variable {callback : CbCallback}

variable {r : CbReply} {cb' : CallBarring}

/-- A reply that commits nothing leaves the record right if it is what it was before. -/
lemma Waiting.good_after_reply (h : s.Waiting callback) (hidle : cb'.pending = none)
    (hheard : (CbOutput.pendingReply r).heard = none) (hr : r.isError = true ∨ s.answersAfter e =
    []) : (s.observe e [.pendingReply r] cb').Good ↔ SameVoice cb'.newLocks s.before := by
  have hsettled : (s.observe e [.pendingReply r] cb').settled = s.settled := by
    show (if r.isError then s.settled else (s.answersAfter e).foldl settle s.settled) = s.settled
    rcases hr with hr | hr
    · rw [if_pos hr]
    · rw [hr, foldl_nil, ite_self]
  have hclients : (s.observe e [.pendingReply r] cb').clients = s.clients := by
    show listenAll s.clients ([CbOutput.pendingReply r].filterMap CbOutput.heard) = s.clients
    rw [filterMap_cons_none hheard]
    rfl
  rw [good_iff_of_idle hidle, hsettled, hclients]
  show OnRecord s.settled cb'.newLocks ∧ Current s.clients cb'.newLocks ↔ _
  constructor
  · intro ⟨hrecord, _⟩
    exact SameVoice.of_records hrecord h.record
  · intro hsame
    refine ⟨h.record.congr hsame, ?_⟩
    intro held hheld
    rw [voiceProperties_congr hsame]
    exact h.clients held hheld

lemma sameVoice_refl (locks : ℕ → ClassMask) : SameVoice locks locks := fun _ _ => rfl

variable {callback : CbCallback}

lemma Inv.replied (h : s.Inv) (hpending : s.cb.pending = some callback) (hclass : askedClass s.cb
    callback = none) (he : ∀ error status, e ≠ .queryDone error status) (hheard :
    (CbOutput.pendingReply r).heard = none) : (s.observe e [.pendingReply r] { s.cb with pending :=
    none }).Inv := by
  have hwait := h.waiting callback hpending
  have hanswered := hwait.answered
  have hasking := hwait.asking
  rw [hclass] at hanswered hasking
  rcases after_of_not_query (s := s) he with ⟨hans, hask⟩
  refine inv_of_good ?_ rfl h.stop ?_ rfl
  · rw [hwait.good_after_reply rfl hheard (.inr (hans.trans hanswered.2))]
    show SameVoice s.cb.newLocks s.before
    rw [hanswered.1]
    exact sameVoice_refl s.before
  · exact hask.trans hasking

variable {cls : ClassMask}

/-- The first query of a chain after a successful call of `set`. -/
lemma Inv.asked (h : s.Inv) (next : CbCallback) (hpending : s.cb.pending = some callback) (hclass
    : askedClass s.cb callback = none) (hnext : s.cb.queryNext ≤
    chainEnd { s.cb with pending := some next } next) (hclass' : askedClass { s.cb with pending := some next } next = some cls) (he
    : ∀ error status, e ≠ .queryDone error status) : (s.observe e [.query (lockFac s.cb.queryNext)
    cls] { s.cb with pending := some next }).Inv := by
  have hwait := h.waiting callback hpending
  have hanswered := hwait.answered
  rw [hclass] at hanswered
  rcases after_of_not_query (s := s) he with ⟨hans, -⟩
  constructor
  · exact h.stop
  · intro hno
    exact absurd hno (some_ne_none next)
  · intro callback' hcallback
    have heq : callback' = next := (some_inj.mp hcallback).symm
    subst heq
    have hbefore : (s.observe e [.query (lockFac s.cb.queryNext) cls]
        { s.cb with pending := some callback' }).before = s.before := by
      show (if s.cb.pending.isNone then s.cb.newLocks else s.before) = s.before
      rw [hpending]
      rfl
    refine ⟨by rw [hbefore]; exact hwait.record, by rw [hbefore]; exact hwait.clients,
      fun _ => hnext, ?_, ?_⟩
    · show _ = (askedClass { s.cb with pending := some callback' } callback').map _
      rw [hclass']
      rfl
    · show (s.observe e _ { s.cb with pending := some callback' }).Answered
        (askedClass { s.cb with pending := some callback' } callback')
      rw [hclass']
      have hnoanswers : (s.observe e [.query (lockFac s.cb.queryNext) cls]
          { s.cb with pending := some callback' }).answers = [] := hans.trans hanswered.2
      unfold Answered
      rw [hnoanswers]
      dsimp only
      split
      · show OnRecord s.settled s.cb.newLocks
        rw [hanswered.1]
        exact hwait.record
      · rfl

/-- What the session knows once a query has been answered: the answers so far, for voice calls, are
in `locks`. -/
def AnsweredWith (s : CbSession) (cls : ClassMask) (e : CbEvent) (locks : ℕ → ClassMask) : Prop :=
  if cls.voice then OnRecord ((s.answersAfter e).foldl settle s.settled) locks
  else s.answersAfter e = []

variable {error : OfonoError} {status : ClassMask}

lemma Waiting.answeredWith (h : s.Waiting callback)
    (hclass : askedClass s.cb callback = some cls) (hnext : s.cb.queryNext ≤ 4) (hok : error.type = .noError) :
    s.AnsweredWith cls (.queryDone error status) (s.cb.answered status).newLocks := by
  have hanswered := h.answered
  have hasking := h.asking
  rw [hclass] at hanswered hasking
  unfold AnsweredWith
  simp only [answersAfter, hasking, map_some, hok, true_and]
  unfold Answered at hanswered
  dsimp only at hanswered
  split
  · rename_i hvoice
    rw [if_pos hvoice] at hanswered
    rw [foldl_append]
    exact hanswered.answer hnext status
  · rename_i hvoice
    rw [if_neg hvoice] at hanswered
    exact hanswered

lemma Waiting.answeredWith_error
    (h : s.Waiting callback) (hclass : askedClass s.cb callback = some cls) (herror : error.type ≠ .noError) :
    s.AnsweredWith cls (.queryDone error status) s.cb.newLocks := by
  have hanswered := h.answered
  have hasking := h.asking
  rw [hclass] at hanswered hasking
  unfold AnsweredWith
  simp only [answersAfter, hasking, map_some, herror, false_and, if_false]
  exact hanswered

lemma Inv.next (h : s.Inv) (cb' : CallBarring) {callback : CbCallback} {cls : ClassMask}
    (hpending : s.cb.pending = some callback) (hpending' : cb'.pending = some callback)
    (hclass' : askedClass cb' callback = some cls) (hstop : cb'.queryEnd ≤ 4)
    (hnext : cb'.queryNext ≤ chainEnd cb' callback) {error : OfonoError} {status : ClassMask}
    (hwith : s.AnsweredWith cls (.queryDone error status) cb'.newLocks) :
    (s.observe (.queryDone error status) [.query (lockFac cb'.queryNext) cls] cb').Inv := by
  have hwait := h.waiting callback hpending
  constructor
  · exact hstop
  · intro hno
    exact absurd (hpending'.symm.trans hno) (some_ne_none callback)
  · intro callback' hcallback
    have heq : callback' = callback := (some_inj.mp (hpending'.symm.trans hcallback)).symm
    subst heq
    have hbefore : (s.observe (.queryDone error status) [.query (lockFac cb'.queryNext) cls]
        cb').before = s.before := by
      show (if s.cb.pending.isNone then s.cb.newLocks else s.before) = s.before
      rw [hpending]
      rfl
    refine ⟨by rw [hbefore]; exact hwait.record, by rw [hbefore]; exact hwait.clients,
      fun _ => hnext, ?_, ?_⟩
    · show _ = (askedClass cb' callback').map _
      rw [hclass']
      rfl
    · show (s.observe _ _ cb').Answered (askedClass cb' callback')
      rw [hclass']
      exact hwith

/-- What the clients hold after the signals of `updateBarrings`. -/
lemma clients_after_signals (s : CbSession) (r : CbReply) (hheard : (CbOutput.pendingReply r).heard
    = none) (e : CbEvent) (signals : List (String × String)) (cb' : CallBarring) :
    (s.observe e (.pendingReply r :: signals.map fun c => .propertyChanged c.1 c.2) cb').clients =
    s.clients.map (·.changeAll signals) := by
  show listenAll s.clients ((CbOutput.pendingReply r ::
    signals.map fun c => CbOutput.propertyChanged c.1 c.2).filterMap CbOutput.heard) = _
  rw [filterMap_cons_none hheard, filterMap_map, ← listenAll_changed]
  congr 1
  rw [← filterMap_eq_map]
  rfl

lemma asked_signals (r : CbReply) (signals : List (String × String)) : (CbOutput.pendingReply r ::
    signals.map fun c => CbOutput.propertyChanged c.1 c.2).findSome? CbOutput.asked = none := by
  rw [List.findSome?_eq_none_iff]
  intro o ho
  rcases mem_cons.mp ho with rfl | hsignal
  · rfl
  · rcases mem_map.mp hsignal with ⟨c, -, rfl⟩
    rfl

lemma asking_at_end (s : CbSession) (error : OfonoError) (status : ClassMask) (r : CbReply)
    (signals : List (String × String)) (cb' : CallBarring) : (s.observe (.queryDone error status)
    (.pendingReply r :: signals.map fun c => .propertyChanged c.1 c.2) cb').asking = none := by
  show (List.findSome? CbOutput.asked (CbOutput.pendingReply r ::
    signals.map fun c => CbOutput.propertyChanged c.1 c.2)).or none = none
  rw [asked_signals]
  rfl

/-- Every client follows the signals to the new locks exactly if each of them is told. -/
lemma current_after_signals_iff {clients : List (Held String String)} {cb : CallBarring}
    (hstop : cb.queryEnd ≤ 4) {before : ℕ → ClassMask} (h : Current clients before) :
    Current (clients.map (·.changeAll (cb.barringSignals bearerClassVoice))) cb.newLocks ↔
      (clients ≠ [] → cb.Told before) := by
  constructor
  · intro hcurrent hsome
    rcases exists_mem_of_ne_nil clients hsome with ⟨held, hheld⟩
    rw [← CallBarring.holds_after_signals_iff hstop (h held hheld)]
    exact hcurrent _ (mem_map_of_mem hheld)
  · intro htold held hheld
    rcases mem_map.mp hheld with ⟨old, hold, rfl⟩
    rw [CallBarring.holds_after_signals_iff hstop (h old hold)]
    exact htold (ne_nil_of_mem hold)

/-- The reply that ends a chain after `set` or a control string, with its signals. -/
lemma Waiting.good_at_end (h : s.Waiting callback) (hr : r.isError = false)
    (hheard : (CbOutput.pendingReply r).heard = none)
    (hidle : cb'.pending = none) (hlocks : cb'.newLocks = cb.newLocks) (hstop : cb.queryEnd ≤ 4)
    (hwith : s.AnsweredWith cls e cb.newLocks) :
    (s.observe e (.pendingReply r ::
        (cb.barringSignals bearerClassVoice).map fun c => .propertyChanged c.1 c.2) cb').Good ↔
      (cls.voice ∨ SameVoice cb.newLocks s.before) ∧
        (s.clients ≠ [] → cb.Told s.before) := by
  have hsettled : (s.observe e (.pendingReply r ::
      (cb.barringSignals bearerClassVoice).map fun c => .propertyChanged c.1 c.2) cb').settled =
      (s.answersAfter e).foldl settle s.settled := by
    show (if r.isError then s.settled else (s.answersAfter e).foldl settle s.settled) = _
    rw [hr]
    rfl
  rw [good_iff_of_idle hidle, hsettled, clients_after_signals s r hheard]
  show OnRecord _ cb'.newLocks ∧ Current _ cb'.newLocks ↔ _
  rw [hlocks, current_after_signals_iff hstop h.clients]
  refine and_congr_left fun _ => ?_
  unfold AnsweredWith at hwith
  split at hwith
  · rename_i hvoice
    exact ⟨fun _ => .inl hvoice, fun _ => hwith⟩
  · rename_i hvoice
    rw [hwith, foldl_nil, or_iff_right hvoice]
    exact ⟨fun hrecord => SameVoice.of_records hrecord h.record, h.record.congr⟩

/-- The end of `GetProperties`: one more client has read the locks before the signals come. -/
lemma Waiting.good_at_end_of_get (h : s.Waiting callback) (hidle : cb'.pending = none) (hlocks :
    cb'.newLocks = cb.newLocks) (hstop : cb.queryEnd ≤ 4) (hwith : s.AnsweredWith bearerClassDefault
    e cb.newLocks) : (s.observe e (.pendingReply (.properties (CallBarring.voiceProperties
    cb.newLocks)) :: (cb.barringSignals bearerClassVoice).map fun c => .propertyChanged c.1 c.2)
    cb').Good ↔ cb.Told cb.newLocks ∧ (s.clients ≠ [] → cb.Told s.before) := by
  have hclients : (s.observe e (.pendingReply (.properties
        (CallBarring.voiceProperties cb.newLocks)) ::
      (cb.barringSignals bearerClassVoice).map fun c => .propertyChanged c.1 c.2) cb').clients =
      s.clients.map (·.changeAll (cb.barringSignals bearerClassVoice)) ++
        [Held.read (CallBarring.voiceProperties cb.newLocks)].map
          (·.changeAll (cb.barringSignals bearerClassVoice)) := by
    have hread : (CbOutput.pendingReply (.properties
        (CallBarring.voiceProperties cb.newLocks))).heard =
        some (.table (CallBarring.voiceProperties cb.newLocks)) := rfl
    rw [← map_append, ← listenAll_changed]
    show listenAll s.clients ((_ :: _).filterMap CbOutput.heard) = _
    rw [filterMap_cons_some hread, listenAll_cons, Replica.listen, filterMap_map,
      ← filterMap_eq_map]
    rfl
  have hboth : ∀ xs ys : List (Held String String), Current (xs ++ ys) cb.newLocks ↔
      Current ys cb.newLocks ∧ Current xs cb.newLocks := by
    intro xs ys
    unfold Current
    rw [forall_mem_append, and_comm]
  rw [good_iff_of_idle hidle, hclients]
  show OnRecord ((s.answersAfter e).foldl settle s.settled) cb'.newLocks ∧ Current _ cb'.newLocks ↔ _
  rw [hlocks, hboth, current_after_signals_iff hstop h.clients,
    @current_after_signals_iff _ _ hstop cb.newLocks]
  · have hrecord : OnRecord ((s.answersAfter e).foldl settle s.settled) cb.newLocks := by
      simpa [AnsweredWith] using hwith
    rw [and_iff_right hrecord]
    refine and_congr_left fun _ => ?_
    exact ⟨fun htold => htold (cons_ne_nil _ _), fun htold _ => htold⟩
  · intro held hheld
    rw [mem_singleton.mp hheld]
    exact CallBarring.holds_read_voiceProperties

/-- What has to be shown of every event. -/
def Settles (s : CbSession) (e : CbEvent) (t : CbSession) : Prop :=
  (s.Met e → t.Inv) ∧ (¬ s.Met e → ¬ t.Good)

lemma Settles.of_inv (hmet : s.Met e) (hinv : t.Inv) : Settles s e t :=
  ⟨fun _ => hinv, fun hnot => absurd hmet hnot⟩

lemma Settles.of_good_iff (hgood : t.Good ↔ s.Met e) (hidle : t.cb.pending = none) (hstop :
    t.cb.queryEnd ≤ 4) (hasking : t.asking = none) (hanswers : t.answers = []) : Settles s e t := by
  constructor
  · intro hmet
    exact inv_of_good (hgood.mpr hmet) hidle hstop hasking hanswers
  · intro hnot
    exact fun h => hnot (hgood.mp h)

/-- A query in the middle of a chain fails: the answers before it stay in `newLocks`. -/
lemma Inv.queryFailed (h : s.Inv) (hpending : s.cb.pending = some callback) {dbusError :
    DbusError} (hmet : s.Met (.queryDone error status) ↔ SameVoice s.cb.newLocks s.before) : Settles
    s (.queryDone error status) (s.observe (.queryDone error status) [.pendingReply (.error
    dbusError)] { s.cb with cached := false, pending := none }) := by
  refine Settles.of_good_iff ?_ rfl h.stop rfl rfl
  rw [hmet]
  exact (h.waiting callback hpending).good_after_reply rfl rfl (.inl rfl)

lemma Inv.ssQueried (h : s.Inv) (hpending : s.cb.pending = some .ssQueryNextLock)
    (error : OfonoError) (status : ClassMask) : Settles s (.queryDone error status)
    (s.observe (.queryDone error status) (s.cb.cbSsQueryNextLockCallback error status).1
    (s.cb.cbSsQueryNextLockCallback error status).2) := by
  have hwait := h.waiting _ hpending
  have hnext : s.cb.queryNext ≤ s.cb.queryEnd := hwait.next (by decide)
  unfold CallBarring.cbSsQueryNextLockCallback
  split
  · rename_i herror
    refine h.queryFailed hpending ?_
    simp only [Met, hpending]
    rw [if_pos herror]
  · rename_i hok
    have hwith : s.AnsweredWith _ (.queryDone _ status) _ :=
      hwait.answeredWith rfl (Nat.le_trans hnext h.stop) (not_not.mp hok)
    dsimp only
    split
    · rename_i hmore
      refine Settles.of_inv ?_ ?_
      · simp only [Met, hpending, hok, if_false]
        exact .inl hmore
      · exact h.next { s.cb.answered status with
          queryNext := s.cb.queryNext + 1
          pending := some .ssQueryNextLock } hpending rfl rfl h.stop (Nat.succ_le_of_lt hmore) hwith
    · rename_i hlast
      refine Settles.of_good_iff ?_ rfl h.stop (asking_at_end s error status _ _ _) rfl
      simp only [Met, hpending, hok, if_false]
      have hlast' : ¬ s.cb.queryNext < s.cb.queryEnd := hlast
      rw [or_iff_right hlast']
      exact hwait.good_at_end rfl rfl rfl rfl h.stop hwith

/-- The answers to the queries after a successful `set`. -/
lemma Inv.setQueried (h : s.Inv) (hpending : s.cb.pending = some .setQueryLock) (error : OfonoError)
    (status : ClassMask) : Settles s (.queryDone error status) (s.observe (.queryDone error status)
    (s.cb.setQueryLockCallback error status).1 (s.cb.setQueryLockCallback error status).2) := by
  have hwait := h.waiting _ hpending
  have hnext : s.cb.queryNext ≤ s.cb.queryEnd := hwait.next (by decide)
  unfold CallBarring.setQueryLockCallback
  split
  · rename_i herror
    refine h.queryFailed hpending ?_
    simp only [Met, hpending]
    rw [if_pos herror]
  · rename_i hok
    have hwith : s.AnsweredWith _ (.queryDone _ status) _ :=
      hwait.answeredWith rfl (Nat.le_trans hnext h.stop) (not_not.mp hok)
    dsimp only
    split
    · rename_i hmore
      refine Settles.of_inv ?_ ?_
      · simp only [Met, hpending, hok, if_false]
        exact .inl hmore
      · exact h.next { s.cb.answered status with
          queryNext := s.cb.queryNext + 1
          pending := some .setQueryLock } hpending rfl rfl h.stop (Nat.succ_le_of_lt hmore) hwith
    · rename_i hlast
      refine Settles.of_good_iff ?_ rfl h.stop (asking_at_end s error status _ _ _) rfl
      simp only [Met, hpending, hok, if_false]
      have hlast' : ¬ s.cb.queryNext < s.cb.queryEnd := hlast
      rw [or_iff_right hlast']
      exact hwait.good_at_end rfl rfl rfl rfl h.stop hwith

/-- The answers to the queries of `GetProperties`, which go on after a failure. -/
lemma Inv.getQueried (h : s.Inv) (hpending : s.cb.pending = some .getQueryLock) (error : OfonoError)
    (status : ClassMask) : Settles s (.queryDone error status) (s.observe (.queryDone error status)
    (s.cb.getQueryLockCallback error status).1 (s.cb.getQueryLockCallback error status).2) := by
  have hwait := h.waiting _ hpending
  have hnext : s.cb.queryNext ≤ 4 := hwait.next (by decide)
  have hwith : s.AnsweredWith bearerClassDefault (.queryDone error status)
      (afterGet s.cb error status).newLocks := by
    unfold afterGet
    split
    · rename_i hok
      exact hwait.answeredWith rfl hnext hok
    · rename_i herror
      exact hwait.answeredWith_error rfl herror
  -- whether the cache is valid now makes no difference here
  obtain ⟨cached, hcached⟩ : ∃ cached, (if error.type = .noError then
      { s.cb.answered status with cached := s.cb.cached || s.cb.queryNext == cbAllEnd }
      else s.cb) = { afterGet s.cb error status with cached := cached } := by
    unfold afterGet
    split
    · exact ⟨_, rfl⟩
    · exact ⟨s.cb.cached, rfl⟩
  have hpending' : (afterGet s.cb error status).pending = some .getQueryLock := by
    unfold afterGet
    split <;> exact hpending
  have hnext' : (afterGet s.cb error status).queryNext = s.cb.queryNext := by
    unfold afterGet
    split <;> rfl
  have hstop' : (afterGet s.cb error status).queryEnd ≤ 4 := by
    unfold afterGet
    split <;> exact h.stop
  unfold CallBarring.getQueryLockCallback
  dsimp only
  rw [hcached]
  split
  · rename_i hmore
    have hmore' : s.cb.queryNext < cbAllEnd := hnext' ▸ hmore
    refine Settles.of_inv ?_ ?_
    · simp only [Met, hpending]
      exact .inl hmore'
    · exact h.next { afterGet s.cb error status with
        cached := cached
        queryNext := (afterGet s.cb error status).queryNext + 1
        pending := some .getQueryLock } hpending rfl rfl hstop' (Nat.succ_le_of_lt hmore) hwith
  · rename_i hlast
    have hlast' : ¬ s.cb.queryNext < cbAllEnd := hnext' ▸ hlast
    rw [CallBarring.getPropertiesReply_voice]
    refine Settles.of_good_iff ?_ rfl hstop' (asking_at_end s error status _ _ _) rfl
    simp only [Met, hpending]
    rw [or_iff_right hlast']
    exact hwait.good_at_end_of_get rfl rfl hstop' hwith

lemma Inv.setDone (h : s.Inv) (error : OfonoError) : (s.observe (.setDone error)
    (s.cb.handle driver (.setDone error)).1 (s.cb.handle driver (.setDone error)).2).Inv := by
  have hne : ∀ error' status, CbEvent.setDone error ≠ .queryDone error' status := nofun
  rcases after_of_not_query (s := s) hne with ⟨hans, hask⟩
  cases hpending : s.cb.pending with
  | none =>
    simp only [CallBarring.handle, hpending]
    exact h.unchanged silent_nil hans hask
  | some callback =>
    have hwait := h.waiting callback hpending
    cases callback with
    | setLock =>
      have hnext : s.cb.queryNext ≤ s.cb.queryEnd := hwait.next (by decide)
      simp only [CallBarring.handle, hpending, CallBarring.setLockCallback]
      split
      · exact h.replied hpending rfl hne rfl
      · exact h.asked .setQueryLock hpending rfl hnext rfl hne
    | disableAll =>
      have hnext : s.cb.queryNext ≤ s.cb.queryEnd := hwait.next (by decide)
      simp only [CallBarring.handle, hpending, CallBarring.disableAllCallback,
        CallBarring.setLockCallback]
      split
      · exact h.replied hpending rfl hne rfl
      · exact h.asked .setQueryLock hpending rfl hnext rfl hne
    | ssSetLock =>
      have hnext : s.cb.queryNext ≤ s.cb.queryEnd := hwait.next (by decide)
      simp only [CallBarring.handle, hpending, CallBarring.cbSsSetLockCallback]
      split
      · exact h.replied hpending rfl hne rfl
      · exact h.asked .ssQueryNextLock hpending rfl hnext rfl hne
    | ssQueryNextLock | getQueryLock | setQueryLock | setPasswd =>
      simp only [CallBarring.handle, hpending]
      exact h.unchanged silent_nil hans hask

lemma Inv.passwdDone (h : s.Inv) (error : OfonoError) : (s.observe (.passwdDone error)
    (s.cb.handle driver (.passwdDone error)).1 (s.cb.handle driver (.passwdDone error)).2).Inv := by
  have hne : ∀ error' status, CbEvent.passwdDone error ≠ .queryDone error' status := nofun
  rcases after_of_not_query (s := s) hne with ⟨hans, hask⟩
  cases hpending : s.cb.pending with
  | none =>
    simp only [CallBarring.handle, hpending]
    exact h.unchanged silent_nil hans hask
  | some callback =>
    cases callback with
    | setPasswd =>
      simp only [CallBarring.handle, hpending, CallBarring.cbSetPasswdCallback]
      refine h.replied hpending rfl hne ?_
      split <;> rfl
    | setLock | disableAll | ssSetLock | ssQueryNextLock | getQueryLock | setQueryLock =>
      simp only [CallBarring.handle, hpending]
      exact h.unchanged silent_nil hans hask

lemma Inv.queryDone (h : s.Inv) (error : OfonoError) (status : ClassMask) :
    Settles s (.queryDone error status) (s.observe (.queryDone error status) (s.cb.handle driver
    (.queryDone error status)).1 (s.cb.handle driver (.queryDone error status)).2) := by
  have hignored : s.asking = none → s.answersAfter (.queryDone error status) = s.answers ∧
      s.askingAfter (.queryDone error status) = s.asking := by
    intro hasking
    constructor
    · rw [answersAfter, hasking]
    · rw [askingAfter, hasking]
  cases hpending : s.cb.pending with
  | none =>
    rcases hignored (h.idle hpending).asking with ⟨hans, hask⟩
    simp only [CallBarring.handle, hpending]
    refine Settles.of_inv ?_ (h.unchanged silent_nil hans hask)
    simp only [Met, hpending]
  | some callback =>
    have hasking := (h.waiting callback hpending).asking
    cases callback with
    | ssQueryNextLock =>
      simp only [CallBarring.handle, hpending]
      exact h.ssQueried hpending error status
    | getQueryLock =>
      simp only [CallBarring.handle, hpending]
      exact h.getQueried hpending error status
    | setQueryLock =>
      simp only [CallBarring.handle, hpending]
      exact h.setQueried hpending error status
    | setLock | disableAll | ssSetLock | setPasswd =>
      rcases hignored hasking with ⟨hans, hask⟩
      simp only [CallBarring.handle, hpending]
      refine Settles.of_inv ?_ (h.unchanged silent_nil hans hask)
      simp only [Met, hpending]

lemma Inv.requested (h : s.Inv) (he : e.isRequest = true) :
    (s.observe e (s.cb.handle driver e).1 (s.cb.handle driver e).2).Inv := by
  cases hpending : s.cb.pending with
  | none =>
    exact h.request hpending he (CallBarring.handle_request h.stop hpending he)
  | some callback =>
    rcases @CallBarring.handle_busy _ driver _ hpending _ he with ⟨hsame, hsilent⟩
    rcases after_of_not_query (s := s) (not_query_of_isRequest he) with ⟨hans, hask⟩
    rw [hsame]
    exact h.unchanged hsilent hans hask

lemma Inv.settles (h : s.Inv) (e : CbEvent) :
    Settles s e (s.observe e (s.cb.handle driver e).1 (s.cb.handle driver e).2) := by
  by_cases he : e.isRequest = true
  · refine Settles.of_inv ?_ (h.requested he)
    cases e with
    | queryDone error status => exact absurd he Bool.false_ne_true
    | _ => trivial
  · cases e with
    | setDone error => exact Settles.of_inv trivial (h.setDone error)
    | queryDone error status => exact h.queryDone error status
    | passwdDone error => exact Settles.of_inv trivial (h.passwdDone error)
    | _ => exact absurd rfl he

/-- The record of the locks and the clients are right after every request exactly if every answer
of the driver meets the condition. -/
theorem barring_run_iff (driver : CbDriver) (events : List CbEvent) : Machine.Safe (step driver)
    Good start events ↔ Machine.EachStep (step driver) Met start events := by
  refine Machine.safe_iff (fun (s : CbSession) (h : s.Inv) => h.good) ?_ ?_ inv_start events
  · intro s e h hmet
    exact ⟨_, rfl, (h.settles e).1 hmet⟩
  · intro s e t h hnot hstep
    rw [step, Option.some.injEq] at hstep
    subst hstep
    exact (h.settles e).2 hnot

/-- A driver with all functions. -/
def anyDriver : CbDriver := ⟨true, true, true, fun _ => rfl⟩

/-- A client reads that incoming calls are always barred, and then all incoming barrings are
disabled. The bounds were those of a new atom at the end of `GetProperties`, so that `curLocks` has
not got the lock, and no signal is sent. -/
theorem disabled_without_signal : ¬ ∀ (driver : CbDriver) (events : List CbEvent),
    Machine.Safe (step driver) Good start events := by
  intro h
  have hrun := h anyDriver
    [.getProperties false, .queryDone .none 0, .queryDone .none 0, .queryDone .none 0,
      .queryDone .none 1, .queryDone .none 0, .disableAllIncoming false (some "0000"),
      .setDone .none, .queryDone .none 0, .queryDone .none 0]
  rcases hrun.finish with ⟨t, ht, hgood⟩
  cases ht
  have hheld := hgood.clients rfl
  revert hheld
  decide

end CbSession

end Phonelets.Ss
