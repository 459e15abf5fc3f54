import Phonelets.Lib.Trace
import Phonelets.Stk.Timers

/-! # Runs of the timers

What the UICC is told is read off the log: a timer runs from the command that starts it until it
is deactivated or expires, whatever `expiry` says. The two agree as long as no timer is to run out
at the time 0, which is that of a timer that does not run.
-/

namespace Phonelets.Stk

open List
open Phonelets.Trace (AtEach atEach_snoc)

namespace StkTimers

/-! ## What is promised -/

structure Running where
  start : ℤ
  expiry : ℤ
deriving DecidableEq

/-- What an event makes of a timer. -/
def follow (id : Fin 8) (run : Option Running) : TimerEvent → Option Running
  | .command cmd now _ =>
    if timerOf cmd.timerId = some id then
      match (cmd.qualifier &&& 3).toNat with
      | 0 => some ⟨now, now + toSeconds cmd.timerValue⟩
      | 1 => none
      | _ => run
    else run
  | .expiration id' _ _ => if id' = id then none else run

/-- How a timer runs behind what has been seen. -/
def running (log : List TimerEvent) (id : Fin 8) : Option Running := log.foldl (follow id) none

/-- Hours, minutes and seconds that add up. -/
structure Splits (value : StkTimerValue) (seconds : ℤ) : Prop where
  hasValue : value.hasValue = true
  minute : value.minute.toNat < 60
  second : value.second.toNat < 60
  sum : toSeconds value = seconds

/-- What an event has to meet, given what was before it. A timer that expires runs, is not early,
and the envelope has the time since its start; who asks for a timer is told of a conflict exactly
if it does not run, and otherwise what is left of it. -/
def Right (before : List TimerEvent) : TimerEvent → Prop
  | .expiration id now value =>
    ∃ run, running before id = some run ∧ run.expiry ≤ now ∧ Splits value (now - run.start)
  | .command cmd now rsp => ∀ id, timerOf cmd.timerId = some id →
      (cmd.qualifier &&& 3).toNat = 1 ∨ (cmd.qualifier &&& 3).toNat = 2 →
        (rsp.result = resultTimerConflict ↔ running before id = none) ∧
          ∀ run, running before id = some run →
            rsp.result = resultSuccess ∧ rsp.timerMgmt.id = cmd.timerId ∧
              Splits rsp.timerMgmt.value (max 0 (run.expiry - now))

/-- What holds after every input. No timer that runs was due at the last update, so that the glib
timer, which is due when the first of them is, ends its run. -/
structure Good (s : StkTimers) : Prop where
  right : AtEach Right s.log
  unarmed : s.timersSource = none ↔ ∀ id, running s.log id = none
  armed : ∀ deadline, s.timersSource = some deadline ↔
    IsLeast { expiry | ∃ id run, running s.log id = some run ∧ run.expiry = expiry } deadline
  due : ∀ id run, running s.log id = some run → s.updated < run.expiry

/-! ## What can come -/

/-- The seconds of 256 hours. -/
def maxElapsed : ℤ := 921600

/-- Every timer that runs has been started less than 256 hours ago. -/
def Young (s : StkTimers) (now : ℤ) : Prop :=
  ∀ id run, running s.log id = some run → now - run.start < maxElapsed

/-- The clock does not go back, the glib timer is not early, and no timer runs for 256 hours. -/
def Possible (s : StkTimers) : TimerInput → Prop
  | .command _ now later =>
    s.clock ≤ now ∧ now ≤ later ∧ later - now < maxElapsed ∧ Young s later
  | .fire now =>
    s.clock ≤ now ∧ Young s now ∧ ∀ deadline, s.timersSource = some deadline → deadline ≤ now

/-- No timer is started that is to run out at the time 0. -/
def OffEpoch : TimerInput → Prop
  | .command cmd now _ =>
    timerOf cmd.timerId ≠ none → (cmd.qualifier &&& 3).toNat = 0 →
      now + toSeconds cmd.timerValue ≠ 0
  | .fire _ => True

/-! ## Times -/

lemma toSeconds_read {value : StkTimerValue} (h : value.Read) :
    0 ≤ toSeconds value ∧ toSeconds value ≤ 604065 := by
  have hhour := h.hour
  have hminute := h.minute
  have hsecond := h.second
  unfold toSeconds
  omega

lemma ofInt_toNat {n : ℤ} (h0 : 0 ≤ n) (h : n < 256) : ((UInt8.ofInt n).toNat : ℤ) = n := by
  rw [UInt8.ofInt, UInt8.toNat_ofNat']
  omega

lemma splits_timerValueFromSeconds {seconds : ℤ} (h0 : 0 ≤ seconds) (h : seconds < maxElapsed) :
    Splits (timerValueFromSeconds seconds) seconds := by
  unfold maxElapsed at h
  have hhour : ((UInt8.ofInt (seconds.tdiv 3600)).toNat : ℤ) = seconds / 3600 := by
    rw [Int.tdiv_eq_ediv_of_nonneg h0]
    exact ofInt_toNat (by omega) (by omega)
  have hleft : seconds - ((UInt8.ofInt (seconds.tdiv 3600)).toNat : ℤ) * 3600 = seconds % 3600 := by
    rw [hhour]
    omega
  have hminute : ((UInt8.ofInt ((seconds % 3600).tdiv 60)).toNat : ℤ) = seconds % 3600 / 60 := by
    rw [Int.tdiv_eq_ediv_of_nonneg (by omega)]
    exact ofInt_toNat (by omega) (by omega)
  have hsecond : ((UInt8.ofInt (seconds % 3600 % 60)).toNat : ℤ) = seconds % 3600 % 60 :=
    ofInt_toNat (by omega) (by omega)
  have hrest : seconds % 3600 - ((UInt8.ofInt ((seconds % 3600).tdiv 60)).toNat : ℤ) * 60 =
      seconds % 3600 % 60 := by
    rw [hminute]
    omega
  unfold timerValueFromSeconds
  dsimp only
  rw [hleft, hrest]
  constructor
  · rfl
  · dsimp only
    omega
  · dsimp only
    omega
  · unfold toSeconds
    dsimp only
    rw [hhour, hminute, hsecond]
    omega

/-! ## The timers and the log -/

/-- A timer as what it is to those who see the log. -/
def StkTimer.run (timer : StkTimer) : Option Running :=
  if timer.expiry = 0 then none else some ⟨timer.start, timer.expiry⟩

/-- What the timers have to do with the log: every timer is what has been seen of it, has been
started before and for no longer than a command can say. -/
structure Core (s : StkTimers) : Prop where
  right : AtEach Right s.log
  mirror : ∀ id, running s.log id = StkTimer.run (s.timers id)
  started : ∀ id, (s.timers id).expiry ≠ 0 →
    (s.timers id).start ≤ s.clock ∧ (s.timers id).expiry - (s.timers id).start ≤ 604065

lemma running_snoc (log : List TimerEvent) (event : TimerEvent) (id : Fin 8) :
    running (log ++ [event]) id = follow id (running log id) event := by
  rw [running, foldl_append]
  rfl

lemma StkTimer.run_eq_none {timer : StkTimer} : StkTimer.run timer = none ↔ timer.expiry = 0 := by
  unfold StkTimer.run
  split
  · next h => exact ⟨fun _ => h, fun _ => rfl⟩
  · next h => exact ⟨fun hnone => (by cases hnone), fun hzero => absurd hzero h⟩

lemma StkTimer.run_eq_some {timer : StkTimer} {run : Running} (h : StkTimer.run timer = some run) :
    timer.expiry ≠ 0 ∧ run = ⟨timer.start, timer.expiry⟩ := by
  unfold StkTimer.run at h
  split at h
  · cases h
  · next hne => exact ⟨hne, (Option.some.inj h).symm⟩

/-! ## The loop -/

section Loop

variable {s : StkTimers} {now min : ℤ} {done : List (Fin 8)} {i : Fin 8}

/-- What the loop has found out about the timers that it has looked at. -/
structure Looked (s : StkTimers) (now min : ℤ) (done : List (Fin 8)) : Prop extends Core s where
  clock : s.clock = now
  young : ∀ id, (s.timers id).expiry ≠ 0 → now - (s.timers id).start < maxElapsed
  due : ∀ id ∈ done, (s.timers id).expiry ≠ 0 → now < (s.timers id).expiry
  nothing : min = 0 → ∀ id ∈ done, (s.timers id).expiry = 0
  least : min ≠ 0 → 0 < min ∧
    (∃ id ∈ done, (s.timers id).expiry ≠ 0 ∧ (s.timers id).expiry = now + min) ∧
    ∀ id ∈ done, (s.timers id).expiry ≠ 0 → now + min ≤ (s.timers id).expiry

lemma Looked.idle (h : Looked s now min done) (hzero : (s.timers i).expiry = 0) :
    Looked s now min (i :: done) := by
  refine { h with due := ?_, nothing := ?_, least := ?_ }
  · intro id hid hne
    rcases mem_cons.mp hid with rfl | hid
    · exact absurd hzero hne
    · exact h.due id hid hne
  · intro hmin id hid
    rcases mem_cons.mp hid with rfl | hid
    · exact hzero
    · exact h.nothing hmin id hid
  · intro hmin
    rcases h.least hmin with ⟨hpos, ⟨id, hid, hleast⟩, hbound⟩
    refine ⟨hpos, ⟨id, mem_cons_of_mem _ hid, hleast⟩, ?_⟩
    intro id hid hne
    rcases mem_cons.mp hid with rfl | hid
    · exact absurd hzero hne
    · exact hbound id hid hne

lemma Looked.later (h : Looked s now min done) (hruns : (s.timers i).expiry ≠ 0)
    (hlater : now < (s.timers i).expiry) : Looked s now (if (s.timers i).expiry < now + min ∨
    min = 0 then (s.timers i).expiry - now else min) (i :: done) := by
  have hdue : ∀ id ∈ i :: done, (s.timers id).expiry ≠ 0 → now < (s.timers id).expiry := by
    intro id hid hne
    rcases mem_cons.mp hid with rfl | hid
    · exact hlater
    · exact h.due id hid hne
  by_cases hless : (s.timers i).expiry < now + min ∨ min = 0
  · rw [if_pos hless]
    refine { h with due := hdue, nothing := ?_, least := ?_ }
    · intro hmin
      omega
    · intro _
      refine ⟨by omega, ⟨i, mem_cons_self, hruns, by omega⟩, ?_⟩
      intro id hid hne
      rcases mem_cons.mp hid with rfl | hid
      · omega
      · by_cases hmin : min = 0
        · exact absurd (h.nothing hmin id hid) hne
        · have hbound := (h.least hmin).2.2 id hid hne
          omega
  · rw [if_neg hless]
    have hmin : min ≠ 0 := fun hmin => hless (.inr hmin)
    rcases h.least hmin with ⟨hpos, ⟨id, hid, hleast⟩, hbound⟩
    refine { h with due := hdue, nothing := fun hzero => absurd hzero hmin, least := ?_ }
    intro _
    refine ⟨hpos, ⟨id, mem_cons_of_mem _ hid, hleast⟩, ?_⟩
    intro id hid hne
    rcases mem_cons.mp hid with rfl | hid
    · omega
    · exact hbound id hid hne

lemma Looked.expire (h : Looked s now min done) (hruns : (s.timers i).expiry ≠ 0)
    (hdue : (s.timers i).expiry ≤ now) : Looked (expire s i now) now min (i :: done) := by
  have hself : ((StkTimers.expire s i now).timers i).expiry = 0 := by
    show (if i = i then _ else _ : StkTimer).expiry = 0
    rw [if_pos rfl]
  have hother : ∀ id, id ≠ i → (StkTimers.expire s i now).timers id = s.timers id := by
    intro id hid
    exact if_neg hid
  have hrest : ∀ id, ((StkTimers.expire s i now).timers id).expiry ≠ 0 →
      (StkTimers.expire s i now).timers id = s.timers id := by
    intro id hne
    apply hother
    rintro rfl
    exact hne hself
  have hstarted := h.started i hruns
  have hclock := h.clock
  have hyoung := h.young i hruns
  -- a timer that has been looked at is not due
  have hnew : i ∉ done := by
    intro hi
    have hnot := h.due i hi hruns
    omega
  have hdone : ∀ id ∈ done, (StkTimers.expire s i now).timers id = s.timers id := by
    intro id hid
    apply hother
    rintro rfl
    exact hnew hid
  have hrun : running s.log i = some ⟨(s.timers i).start, (s.timers i).expiry⟩ := by
    rw [h.mirror i, StkTimer.run, if_neg hruns]
  constructor
  · constructor
    · show AtEach Right (s.log ++ [_])
      refine atEach_snoc.mpr ⟨h.right, _, hrun, hdue, ?_⟩
      have hpast : 0 ≤ now - (s.timers i).start := by omega
      exact splits_timerValueFromSeconds hpast hyoung
    · intro id
      show running (s.log ++ [_]) id = _
      rw [running_snoc, follow]
      by_cases hid : i = id
      · rw [if_pos hid, ← hid]
        exact (StkTimer.run_eq_none.mpr hself).symm
      · rw [if_neg hid, h.mirror id, hother id (Ne.symm hid)]
    · intro id hne
      have hsame := hrest id hne
      rw [hsame] at hne ⊢
      exact h.started id hne
  · exact hclock
  · intro id hne
    have hsame := hrest id hne
    rw [hsame] at hne ⊢
    exact h.young id hne
  · intro id hid hne
    rcases mem_cons.mp hid with rfl | hid
    · exact absurd hself hne
    · rw [hdone id hid] at hne ⊢
      exact h.due id hid hne
  · intro hmin id hid
    rcases mem_cons.mp hid with rfl | hid
    · exact hself
    · rw [hdone id hid]
      exact h.nothing hmin id hid
  · intro hmin
    rcases h.least hmin with ⟨hpos, ⟨id, hid, hleast⟩, hbound⟩
    refine ⟨hpos, ⟨id, mem_cons_of_mem _ hid, ?_⟩, ?_⟩
    · rw [hdone id hid]
      exact hleast
    · intro id hid hne
      rcases mem_cons.mp hid with rfl | hid
      · exact absurd hself hne
      · rw [hdone id hid] at hne ⊢
        exact hbound id hid hne

lemma Looked.loop {ids : List (Fin 8)} (h : Looked s now min done) : Looked (timersLoop now ids s
    min).1 now (timersLoop now ids s min).2 (ids.reverse ++ done) ∧ (timersLoop now ids s
    min).1.timersSource = s.timersSource ∧ (timersLoop now ids s min).1.updated = s.updated := by
  induction ids generalizing s min done with
  | nil => exact ⟨h, rfl, rfl⟩
  | cons i rest ih =>
    have happend : (i :: rest).reverse ++ done = rest.reverse ++ i :: done := by
      rw [reverse_cons, append_assoc]
      rfl
    rw [happend]
    unfold timersLoop
    dsimp only
    split
    · next hzero => exact ih (h.idle hzero)
    · next hruns =>
        split
        · next hdue => exact ih (h.expire hruns hdue)
        · next hlater => exact ih (h.later hruns (Int.not_le.mp hlater))

end Loop

/-! ## The glib timer -/

section Update

variable {s : StkTimers} {now : ℤ}

/-- The glib timer is set for the timer that runs out first, and none is due. -/
structure Armed (s : StkTimers) : Prop where
  unset : s.timersSource = none ↔ ∀ id, (s.timers id).expiry = 0
  first : ∀ deadline, s.timersSource = some deadline →
    (∃ id, (s.timers id).expiry ≠ 0 ∧ (s.timers id).expiry = deadline) ∧
      ∀ id, (s.timers id).expiry ≠ 0 → deadline ≤ (s.timers id).expiry
  due : ∀ id, (s.timers id).expiry ≠ 0 → s.updated < (s.timers id).expiry

/-- What every input preserves. -/
structure Inv (s : StkTimers) : Prop extends Core s, Armed s

/-- `timers_update` sets the glib timer, whatever was before. -/
lemma Core.timersUpdate (h : Core s) (hclock : s.clock ≤ now)
    (hyoung : ∀ id, (s.timers id).expiry ≠ 0 → now - (s.timers id).start < maxElapsed) :
    Inv (timersUpdate s now) ∧ (StkTimers.timersUpdate s now).clock = now := by
  have hlooked : Looked { s with timersSource := none, clock := now, updated := now } now 0 [] := by
    constructor
    · constructor
      · exact h.right
      · exact h.mirror
      · intro id hne
        exact ⟨Int.le_trans (h.started id hne).1 hclock, (h.started id hne).2⟩
    · rfl
    · exact hyoung
    · intro id hid
      cases hid
    · intro _ id hid
      cases hid
    · intro hne
      exact absurd rfl hne
  rcases @Looked.loop _ _ _ _ (List.finRange 8) hlooked with ⟨hloop, hsource, hupdated⟩
  unfold StkTimers.timersUpdate
  dsimp only
  generalize timersLoop now (List.finRange 8)
    { s with timersSource := none, clock := now, updated := now } 0 = looped at *
  have hall : ∀ id : Fin 8, id ∈ (List.finRange 8).reverse ++ [] := by
    intro id
    rw [append_nil, mem_reverse]
    exact mem_finRange id
  split
  · next hmin =>
      refine ⟨⟨hloop.toCore, ⟨?_, ?_, ?_⟩⟩, hloop.clock⟩
      · rw [hsource]
        exact ⟨fun _ id => hloop.nothing hmin id (hall id), fun _ => rfl⟩
      · intro deadline hdeadline
        rw [hsource] at hdeadline
        cases hdeadline
      · intro id hne
        rw [hupdated]
        exact hloop.due id (hall id) hne
  · next hmin =>
      rcases hloop.least hmin with ⟨hpos, ⟨id, hid, hruns, hleast⟩, hbound⟩
      refine ⟨⟨⟨hloop.right, hloop.mirror, hloop.started⟩, ⟨?_, ?_, ?_⟩⟩, hloop.clock⟩
      · constructor
        · intro hnone
          cases hnone
        · intro hzero
          exact absurd (hzero id) hruns
      · intro deadline hdeadline
        rw [← Option.some.inj hdeadline]
        exact ⟨⟨id, hruns, hleast⟩, fun id' hne => hbound id' (hall id') hne⟩
      · intro id' hne
        show looped.1.updated < _
        rw [hupdated]
        exact hloop.due id' (hall id') hne

end Update

/-! ## Commands -/

section Commands

variable {s : StkTimers} {cmd : TimerMgmtCommand} {now later : ℤ} {i : Fin 8}

lemma Core.right_command (h : Core s) (hclock : s.clock ≤ now) (cmd : TimerMgmtCommand) :
    Right s.log (.command cmd now (timerMgmtResponse s cmd now)) := by
  intro id hid hop
  have hresponse : timerMgmtResponse s cmd now =
      if (s.timers id).expiry = 0 then resultResponse resultTimerConflict
      else remainingResponse cmd (s.timers id) now := by
    unfold timerMgmtResponse
    rw [hid]
    dsimp only
    rcases hop with hop | hop
    · rw [hop]
      rfl
    · rw [hop]
      rfl
  rw [hresponse, h.mirror id]
  by_cases hzero : (s.timers id).expiry = 0
  · rw [if_pos hzero, StkTimer.run_eq_none.mpr hzero]
    refine ⟨⟨fun _ => rfl, fun _ => rfl⟩, ?_⟩
    intro run hrun
    cases hrun
  · rw [if_neg hzero]
    constructor
    · constructor
      · intro hconflict
        have hne : resultSuccess ≠ resultTimerConflict := by decide
        exact absurd hconflict hne
      · intro hnone
        exact absurd (StkTimer.run_eq_none.mp hnone) hzero
    · intro run hrun
      rw [(StkTimer.run_eq_some hrun).2]
      refine ⟨rfl, rfl, ?_⟩
      have hstarted := h.started id hzero
      have hshort : max 0 ((s.timers id).expiry - now) < maxElapsed := by
        unfold maxElapsed
        omega
      exact splits_timerValueFromSeconds (le_max_left _ _) hshort

lemma Core.command (h : Core s) (hclock : s.clock ≤ now) {t : StkTimers} (hlog : t.log =
    s.log ++ [.command cmd now (timerMgmtResponse s cmd now)]) (htclock : t.clock = now)
    (hmirror : ∀ id, follow id (running s.log id) (.command cmd now (timerMgmtResponse s cmd now)) =
    StkTimer.run (t.timers id)) (hstarted : ∀ id, (t.timers id).expiry ≠ 0 → t.timers id =
    s.timers id ∨ (t.timers id).start = now ∧ (t.timers id).expiry - now ≤ 604065) : Core t := by
  constructor
  · rw [hlog]
    exact atEach_snoc.mpr ⟨h.right, h.right_command hclock cmd⟩
  · intro id
    rw [hlog, running_snoc]
    exact hmirror id
  · intro id hne
    rw [htclock]
    rcases hstarted id hne with hsame | ⟨hstart, hexpiry⟩
    · rw [hsame] at hne ⊢
      have hbefore := h.started id hne
      omega
    · omega

lemma Inv.respond (h : Inv s) (hclock : s.clock ≤ now)
    (hsame : ∀ id, follow id (running s.log id)
      (.command cmd now (timerMgmtResponse s cmd now)) = running s.log id) :
    Inv (respond s cmd now) := by
  constructor
  · apply h.toCore.command hclock rfl rfl
    · intro id
      rw [hsame id]
      exact h.mirror id
    · intro id _
      exact .inl rfl
  · exact ⟨h.unset, h.first, h.due⟩

lemma Inv.setTimer (h : Inv s) (hclock : s.clock ≤ now) (hlater : now ≤ later)
    (helapsed : later - now < maxElapsed) (hyoung : Young s later) {timer : StkTimer}
    (hid : timerOf cmd.timerId = some i)
    (hrun : follow i (running s.log i) (.command cmd now (timerMgmtResponse s cmd now)) =
      StkTimer.run timer)
    (hstarted : timer.expiry ≠ 0 → timer.start = now ∧ timer.expiry - now ≤ 604065) :
    Inv (timersUpdate (StkTimers.setTimer (StkTimers.respond s cmd now) i timer) later) := by
  have hself : (StkTimers.setTimer (StkTimers.respond s cmd now) i timer).timers i = timer :=
    if_pos rfl
  have hother : ∀ id, id ≠ i →
      (StkTimers.setTimer (StkTimers.respond s cmd now) i timer).timers id = s.timers id := by
    intro id hne
    exact if_neg hne
  have hcore : Core (StkTimers.setTimer (StkTimers.respond s cmd now) i timer) := by
    apply h.toCore.command hclock rfl rfl
    · intro id
      by_cases hne : id = i
      · subst hne
        rw [hself]
        exact hrun
      · rw [hother id hne, follow, if_neg]
        · exact h.mirror id
        · rw [hid]
          intro heq
          exact hne (Option.some.inj heq).symm
    · intro id hruns
      by_cases hne : id = i
      · subst hne
        rw [hself] at hruns ⊢
        exact .inr (hstarted hruns)
      · exact .inl (hother id hne)
  refine (hcore.timersUpdate hlater ?_).1
  intro id hruns
  by_cases hne : id = i
  · subst hne
    rw [hself] at hruns ⊢
    have hstart := (hstarted hruns).1
    omega
  · rw [hother id hne] at hruns ⊢
    apply hyoung id ⟨(s.timers id).start, (s.timers id).expiry⟩
    rw [h.mirror id, StkTimer.run, if_neg hruns]

lemma Inv.handleCommandTimerMgmt (h : Inv s) (hpossible : Possible s (.command cmd now later))
    (hoff : OffEpoch (.command cmd now later)) : Inv (handleCommandTimerMgmt s cmd now later) := by
  rcases hpossible with ⟨hclock, hlater, helapsed, hyoung⟩
  unfold StkTimers.handleCommandTimerMgmt
  split
  · next hid =>
      apply h.respond hclock
      intro id
      rw [follow, hid]
      exact if_neg (by intro heq; cases heq)
  · next i hid =>
      have hfollow : follow i (running s.log i)
          (.command cmd now (timerMgmtResponse s cmd now)) =
          match (cmd.qualifier &&& 3).toNat with
          | 0 => some ⟨now, now + toSeconds cmd.timerValue⟩
          | 1 => none
          | _ => running s.log i := by
        rw [follow, if_pos hid]
      have hothers : ∀ id, id ≠ i → follow id (running s.log id)
          (.command cmd now (timerMgmtResponse s cmd now)) = running s.log id := by
        intro id hne
        rw [follow, if_neg]
        rw [hid]
        intro heq
        exact hne (Option.some.inj heq).symm
      split
      · next hop =>
          have hne := hoff (by rw [hid]; exact Option.some_ne_none i) hop
          apply h.setTimer hclock hlater helapsed hyoung hid
          · rw [hfollow, hop]
            exact (if_neg hne).symm
          · intro _
            have hread := toSeconds_read cmd.read
            refine ⟨rfl, ?_⟩
            show now + toSeconds cmd.timerValue - now ≤ 604065
            omega
      · next hop =>
          split
          · next hzero =>
              apply h.respond hclock
              intro id
              by_cases hne : id = i
              · rw [hne, hfollow, hop, h.mirror i]
                exact (StkTimer.run_eq_none.mpr hzero).symm
              · exact hothers id hne
          · apply h.setTimer hclock hlater helapsed hyoung hid
            · rw [hfollow, hop]
              exact (StkTimer.run_eq_none.mpr rfl).symm
            · intro hne
              exact absurd rfl hne
      · next hstart hdeactivate =>
          apply h.respond hclock
          intro id
          by_cases hne : id = i
          · rw [hne, hfollow]
            split
            · next hop => exact absurd hop hstart
            · next hop => exact absurd hop hdeactivate
            · rfl
          · exact hothers id hne

end Commands

/-! ## Runs -/

section Runs

variable {s : StkTimers}

lemma inv_start (now : ℤ) : Inv (start now) := by
  constructor
  · constructor
    · exact Trace.atEach_nil
    · intro id
      rfl
    · intro id hne
      exact absurd rfl hne
  · constructor
    · exact ⟨fun _ _ => rfl, fun _ => rfl⟩
    · intro deadline hdeadline
      cases hdeadline
    · intro id hne
      exact absurd rfl hne

lemma Inv.good (h : Inv s) : Good s := by
  have hunarmed : s.timersSource = none ↔ ∀ id, running s.log id = none := by
    rw [h.unset]
    constructor
    · intro hzero id
      rw [h.mirror id]
      exact StkTimer.run_eq_none.mpr (hzero id)
    · intro hnone id
      apply StkTimer.run_eq_none.mp
      rw [← h.mirror id]
      exact hnone id
  have hleast : ∀ deadline, s.timersSource = some deadline →
      IsLeast { expiry | ∃ id run, running s.log id = some run ∧ run.expiry = expiry }
        deadline := by
    intro deadline hdeadline
    rcases h.first deadline hdeadline with ⟨⟨id, hruns, heq⟩, hbound⟩
    constructor
    · refine ⟨id, ⟨(s.timers id).start, (s.timers id).expiry⟩, ?_, heq⟩
      rw [h.mirror id, StkTimer.run, if_neg hruns]
    · rintro expiry ⟨id', run, hrun, rfl⟩
      rw [h.mirror id'] at hrun
      rcases StkTimer.run_eq_some hrun with ⟨hne, rfl⟩
      exact hbound id' hne
  constructor
  · exact h.right
  · exact hunarmed
  · intro deadline
    constructor
    · exact hleast deadline
    · intro hdeadline
      cases hsource : s.timersSource with
      | none =>
        rcases hdeadline.1 with ⟨id, run, hrun, -⟩
        rw [hunarmed.mp hsource id] at hrun
        cases hrun
      | some deadline' => rw [(hleast deadline' hsource).unique hdeadline]
  · intro id run hrun
    rw [h.mirror id] at hrun
    rcases StkTimer.run_eq_some hrun with ⟨hne, rfl⟩
    exact h.due id hne

lemma Inv.step (h : Inv s) {input : TimerInput} (hpossible : Possible s input)
    (hoff : OffEpoch input) : ∃ t, step s input = some t ∧ Inv t := by
  cases input with
  | command cmd now later => exact ⟨_, rfl, h.handleCommandTimerMgmt hpossible hoff⟩
  | fire now =>
    rcases hpossible with ⟨hclock, hyoung, -⟩
    unfold StkTimers.step
    dsimp only
    split
    · exact ⟨s, rfl, h⟩
    · refine ⟨_, rfl, ?_⟩
      have hcore : Core { s with timersSource := none } := ⟨h.right, h.mirror, h.started⟩
      refine (hcore.timersUpdate hclock ?_).1
      intro id hne
      apply hyoung id ⟨(s.timers id).start, (s.timers id).expiry⟩
      rw [h.mirror id]
      exact if_neg hne

/-- In a run in which no timer is to run out at the time 0, the glib timer is set for the first
timer that runs, every start leads to one expiration, unless the timer is deactivated or started
again, and who asks for a timer is told what is left of it. -/
theorem timer_run (now : ℤ) (inputs : List TimerInput) (hinputs : Machine.EachStep step
    (fun s input => Possible s input ∧ OffEpoch input) (start now) inputs) :
    Machine.Safe step Good (start now) inputs := by
  refine Machine.safe_of_eachStep (fun (s : StkTimers) (h : Inv s) => h.good) ?_ (inv_start now)
    hinputs
  intro s input h ⟨hpossible, hoff⟩
  exact h.step hpossible hoff

/-- A command that starts the first timer. -/
def startFirst (second : UInt8) (h : second.toNat ≤ 165) : TimerMgmtCommand :=
  ⟨0, 1, ⟨true, 0, 0, second⟩, ⟨Nat.zero_le _, Nat.zero_le _, h⟩⟩

/-- A timer of five seconds is started and runs out. -/
theorem timer_run_five_seconds : Machine.Safe step Good (start 1000)
    [.command (startFirst 5 (by decide)) 1000 1000, .fire 1005] := by
  apply timer_run
  refine ⟨⟨⟨by decide, by decide, by decide, ?_⟩, ?_⟩, ?_⟩
  · intro id run hrun
    cases hrun
  · intro _ _
    decide
  · intro t ht
    rw [← Option.some.inj ht]
    refine ⟨⟨⟨by decide, ?_, ?_⟩, trivial⟩, fun _ _ => trivial⟩
    · intro id run hrun
      have hall : ∀ id, running (handleCommandTimerMgmt (start 1000)
          (startFirst 5 (by decide)) 1000 1000).log id = some ⟨1000, 1005⟩ ∨
          running (handleCommandTimerMgmt (start 1000)
            (startFirst 5 (by decide)) 1000 1000).log id = none := by
        decide
      rcases hall id with hstarted | hnone
      · rw [hstarted] at hrun
        cases hrun
        decide
      · rw [hnone] at hrun
        cases hrun
    · intro deadline hdeadline
      have hsource : (handleCommandTimerMgmt (start 1000)
          (startFirst 5 (by decide)) 1000 1000).timersSource = some 1005 := by
        decide
      rw [hsource] at hdeadline
      cases hdeadline
      decide

/-- A timer that is started for no time at the time 0 does not run. -/
theorem started_at_epoch : ¬ ∀ (now : ℤ) (inputs : List TimerInput), Machine.EachStep step Possible
    (start now) inputs → Machine.Safe step Good (start now) inputs := by
  intro h
  have hrun := h 0 [.command (startFirst 0 (by decide)) 0 0] (by
    refine ⟨⟨by decide, by decide, by decide, ?_⟩, fun _ _ => trivial⟩
    intro id run hrun
    cases hrun)
  rcases hrun with ⟨-, t, ht, hgood⟩
  rw [← Option.some.inj ht] at hgood
  have hunset : (handleCommandTimerMgmt (start 0) (startFirst 0 (by decide)) 0 0).timersSource =
      none := by
    decide
  have hruns : running (handleCommandTimerMgmt (start 0) (startFirst 0 (by decide)) 0 0).log 0 =
      some ⟨0, 0⟩ := by
    decide
  rw [hgood.unarmed.mp hunset 0] at hruns
  cases hruns

end Runs

end StkTimers

end Phonelets.Stk
