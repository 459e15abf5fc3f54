import Phonelets.Ppp.ControlProtocol

/-! # The restart timers of a control protocol

There are two restart timers, of which the table knows nothing. `Legal` is what an entry of
the table has to be like for both of them to stay right, and it is checked for the whole
table: only a close and a terminate request during the negotiation are not. `TimersSound`
holds in every state of a run if and only if neither of them happens.
-/

namespace Phonelets.Ppp

open PppcpData (countAction sendAction layerAction transitionState)

/-- The configure requests are being exchanged. -/
def PppcpState.Negotiating (state : PppcpState) : Prop :=
  state = .reqsent ∨ state = .ackrcvd ∨ state = .acksent

/-- A terminate request waits for its acknowledgement. -/
def PppcpState.Terminating (state : PppcpState) : Prop := state = .closing ∨ state = .stopping

/-- No request has been sent since the counter was initialised. -/
def PppcpState.Fresh (state : PppcpState) : Prop := state = .ackrcvd ∨ state = .opened

instance (state : PppcpState) : Decidable state.Negotiating := inferInstanceAs (Decidable (_ ∨ _))

instance (state : PppcpState) : Decidable state.Terminating := inferInstanceAs (Decidable (_ ∨ _))

instance (state : PppcpState) : Decidable state.Fresh := inferInstanceAs (Decidable (_ ∨ _))

/-- Each timer is armed only in the states that it belongs to, no counter was decremented at
zero, and since its initialisation no more requests were sent than it allows. -/
structure TimersSound (a : Automaton) : Prop where
  config_armed : a.configTimerData.armed = true → a.state.Negotiating
  terminate_armed : a.terminateTimerData.armed = true → a.state.Terminating
  config_below : a.configTimerData.below = false
  terminate_below : a.terminateTimerData.below = false
  config_requests : a.configTimerData.requests ≤ 10
  terminate_requests : a.terminateTimerData.requests ≤ 2

/-! ## The automaton -/

namespace Automaton

/-- What the actions and the new state do to the timers. -/
def count (actions : List CpAction) (newState : PppcpState) (a : Automaton) : Automaton :=
  if .irc ∈ actions then
    if newState.Terminating then
      { a with terminateTimerData := a.terminateTimerData.initializeRestartCount }
    else { a with configTimerData := a.configTimerData.initializeRestartCount }
  else if .zrc ∈ actions then { a with terminateTimerData := a.terminateTimerData.zeroRestartCount }
  else a

def send (actions : List CpAction) (a : Automaton) : Automaton where
  state := a.state
  configTimerData := if .scr ∈ actions then a.configTimerData.requestSent else a.configTimerData
  terminateTimerData :=
    if .str ∈ actions then a.terminateTimerData.requestSent
    else if .sta ∈ actions then a.terminateTimerData.start
    else a.terminateTimerData

def enter (newState : PppcpState) (a : Automaton) : Automaton :=
  if newState.Negotiating ∨ newState.Terminating then { a with state := newState }
  else ⟨newState, a.configTimerData.stop, a.terminateTimerData.stop⟩

def react (actions : List CpAction) (newState : PppcpState) (a : Automaton) : Automaton :=
  ((a.count actions newState).send actions).enter newState

def event (type : PppcpEventType) (a : Automaton) : Automaton :=
  match cpTransition type a.state with
  | none => a
  | some (actions, newState) => a.react actions newState

end Automaton

section Projection

variable {π : Type} {proto : PppcpProto π} {data : PppcpData π}

lemma toAutomaton_countAction (actions : List CpAction) (newState : PppcpState) :
    (data.countAction actions newState).toAutomaton = data.toAutomaton.count actions newState := by
  unfold PppcpData.countAction Automaton.count
  by_cases hirc : CpAction.irc ∈ actions
  · rw [if_pos hirc, if_pos hirc]
    by_cases hterminating : newState.Terminating
    · rw [if_pos hterminating, if_pos (show newState = .closing ∨ _ from hterminating)]
    · rw [if_neg hterminating, if_neg (show ¬ (newState = .closing ∨ _) from hterminating)]
  · rw [if_neg hirc, if_neg hirc]
    split_ifs <;> rfl

lemma toAutomaton_sendConfigureNak (packet : PppcpPacket) :
    (data.sendConfigureNak packet).toAutomaton = data.toAutomaton := by
  unfold PppcpData.sendConfigureNak
  dsimp only
  split_ifs <;> rfl

lemma toAutomaton_sendAction (actions : List CpAction) (packet : PppcpPacket) :
    (data.sendAction actions packet).toAutomaton = data.toAutomaton.send actions := by
  unfold PppcpData.sendAction
  extract_lets d₁ d₂ d₃ d₄
  have h₁ : d₁.toAutomaton = { data.toAutomaton with configTimerData :=
      if .scr ∈ actions then data.configTimerData.requestSent else data.configTimerData } := by
    unfold d₁
    split_ifs <;> rfl
  have h₂ : d₂.toAutomaton = d₁.toAutomaton := by
    unfold d₂
    split_ifs
    · rfl
    · exact toAutomaton_sendConfigureNak packet
    · rfl
  have h₃ : d₃.toAutomaton = { d₂.toAutomaton with terminateTimerData :=
      if .str ∈ actions then d₂.terminateTimerData.requestSent
      else if .sta ∈ actions then d₂.terminateTimerData.start
      else d₂.terminateTimerData } := by
    unfold d₃
    split_ifs <;> rfl
  have h₄ : d₄.toAutomaton = d₃.toAutomaton := by
    unfold d₄
    split_ifs <;> rfl
  have h₅ : (if .ser ∈ actions then d₄.sendEchoReply packet else d₄).toAutomaton = d₄.toAutomaton := by
    split_ifs <;> rfl
  rw [h₅, h₄, h₃, h₂, h₁]
  rfl

lemma toAutomaton_transitionState (newState : PppcpState) :
    (data.transitionState newState).toAutomaton = data.toAutomaton.enter newState := by
  cases newState <;> rfl

lemma toAutomaton_layerAction (actions : List CpAction) :
    (data.layerAction proto actions).toAutomaton = data.toAutomaton := by
  unfold PppcpData.layerAction
  split_ifs <;> rfl

lemma toAutomaton_generateEvent (type : PppcpEventType) (packet : PppcpPacket) :
    (data.generateEvent proto type packet).toAutomaton = data.toAutomaton.event type := by
  unfold PppcpData.generateEvent Automaton.event
  rcases cpTransition type data.state with _ | ⟨actions, newState⟩
  · rfl
  · dsimp only
    rw [toAutomaton_layerAction, toAutomaton_transitionState, toAutomaton_sendAction,
      toAutomaton_countAction]
    rfl

end Projection

/-! ## The table -/

/-- The timer that fired is not armed any more. -/
def Timeout (type : PppcpEventType) : Prop := type = .toPlus ∨ type = .toMinus

instance (type : PppcpEventType) : Decidable (Timeout type) := inferInstanceAs (Decidable (_ ∨ _))

section Entry

variable (type : PppcpEventType) (state : PppcpState) (actions : List CpAction) (newState : PppcpState)

/-- A state of the negotiation has its timer from the state before, or is entered with it, and
no state has the timer of another one. -/
def LegalTimers : Prop :=
  (newState.Negotiating → (CpAction.scr ∈ actions ∨ state.Negotiating ∧ ¬ Timeout type) ∧
    CpAction.str ∉ actions ∧ CpAction.sta ∉ actions ∧ ¬ state.Terminating) ∧
  (newState.Terminating → CpAction.scr ∉ actions ∧ ¬ state.Negotiating)

/-- A request is the first one, the first one after the counter was filled, or a repetition. -/
def LegalRequest : Prop :=
  (CpAction.scr ∈ actions → newState.Negotiating ∧
    (CpAction.irc ∈ actions ∨ state.Fresh ∨ type = .toPlus ∧ state.Negotiating)) ∧
  (CpAction.str ∈ actions → newState.Terminating ∧ CpAction.zrc ∉ actions ∧
    (CpAction.irc ∈ actions ∨ type = .toPlus ∧ state.Terminating)) ∧
  (newState.Fresh → CpAction.scr ∉ actions ∧ (CpAction.irc ∈ actions ∨ state.Fresh))

/-- The entry keeps both timers right, if a timeout comes from the timer of the state. -/
structure LegalEntry : Prop where
  timers : LegalTimers type state actions newState
  request : LegalRequest type state actions newState

instance : Decidable (LegalTimers type state actions newState) := by
  unfold LegalTimers
  infer_instance

instance : Decidable (LegalRequest type state actions newState) := by
  unfold LegalRequest
  infer_instance

instance : Decidable (LegalEntry type state actions newState) :=
  decidable_of_iff (LegalTimers type state actions newState ∧ LegalRequest type state actions newState)
    ⟨fun h => ⟨h.1, h.2⟩, fun h => ⟨h.timers, h.request⟩⟩

end Entry

def Legal (type : PppcpEventType) (state : PppcpState) : Prop :=
  match cpTransition type state with
  | none => True
  | some (actions, newState) => LegalEntry type state actions newState

instance (type : PppcpEventType) (state : PppcpState) : Decidable (Legal type state) := by
  unfold Legal
  split <;> infer_instance

/-- Every entry is legal but for those of a close and of a terminate request during the
negotiation. -/
lemma legal_iff (type : PppcpEventType) (state : PppcpState) :
    Legal type state ↔ ¬ (state.Negotiating ∧ (type = .close ∨ type = .rtr)) := by
  cases type <;> cases state <;> decide

/-! ## Counters -/

/-- The counter and the requests since its initialisation are as many as it allows, at most. -/
structure Counted (max : ℕ) (timer : PppcpTimerData) : Prop where
  max_eq : timer.maxCounter.toNat = max
  below : timer.below = false
  requests : timer.restartCounter.toNat + timer.requests ≤ max

section Counted

variable {max : ℕ} {timer : PppcpTimerData}

lemma Counted.initialize (h : Counted max timer) : Counted max timer.initializeRestartCount :=
  ⟨h.max_eq, h.below, Nat.le_of_eq h.max_eq⟩

lemma Counted.zero (h : Counted max timer) : Counted max timer.zeroRestartCount := by
  refine ⟨h.max_eq, h.below, ?_⟩
  have hrequests := h.requests
  show 0 + timer.requests ≤ max
  omega

lemma Counted.requestSent (h : Counted max timer) (hpos : 0 < timer.restartCounter.toNat) :
    Counted max timer.requestSent := by
  have hrequests := h.requests
  refine ⟨h.max_eq, ?_, ?_⟩
  · show (timer.below || decide (timer.restartCounter = 0)) = false
    rw [h.below, Bool.false_or, decide_eq_false_iff_not]
    intro hzero
    rw [hzero] at hpos
    exact absurd hpos (by decide)
  · have hone : (1 : UInt32) ≤ timer.restartCounter := UInt32.le_iff_toNat_le.mpr hpos
    show (timer.restartCounter - 1).toNat + (timer.requests + 1) ≤ max
    rw [UInt32.toNat_sub_of_le _ _ hone, UInt32.toNat_one]
    omega

lemma Counted.arm (h : Counted max timer) (armed : Bool) : Counted max { timer with armed := armed } :=
  ⟨h.max_eq, h.below, h.requests⟩

end Counted

/-! ## One event -/

/-- Both timers are right. -/
structure TimersRight (a : Automaton) : Prop where
  config_armed : a.configTimerData.armed = true → a.state.Negotiating
  terminate_armed : a.terminateTimerData.armed = true → a.state.Terminating
  config : Counted 10 a.configTimerData
  terminate : Counted 2 a.terminateTimerData
  fresh : a.state.Fresh → a.configTimerData.restartCounter.toNat = 10

lemma TimersRight.sound {a : Automaton} (h : TimersRight a) : TimersSound a := by
  have hconfig := h.config.requests
  have hterminate := h.terminate.requests
  exact ⟨h.config_armed, h.terminate_armed, h.config.below, h.terminate.below, by omega, by omega⟩

lemma PppcpState.Negotiating.not_terminating {state : PppcpState} (h : state.Negotiating) :
    ¬ state.Terminating := by
  rcases h with rfl | rfl | rfl <;> decide

lemma PppcpState.Fresh.not_terminating {state : PppcpState} (h : state.Fresh) : ¬ state.Terminating := by
  rcases h with rfl | rfl <;> decide

section Event

variable {a : Automaton} {type : PppcpEventType} {actions : List CpAction} {newState : PppcpState}

/-- The counters after the first actions. -/
structure Recounted (actions : List CpAction) (newState : PppcpState) (a b : Automaton) : Prop where
  config : Counted 10 b.configTimerData
  terminate : Counted 2 b.terminateTimerData
  config_armed : b.configTimerData.armed = a.configTimerData.armed
  terminate_armed : b.terminateTimerData.armed = a.terminateTimerData.armed
  config_counter : b.configTimerData.restartCounter.toNat =
    if CpAction.irc ∈ actions ∧ ¬ newState.Terminating then 10 else a.configTimerData.restartCounter.toNat
  terminate_counter : CpAction.zrc ∉ actions →
    b.terminateTimerData.restartCounter.toNat =
      if CpAction.irc ∈ actions ∧ newState.Terminating then 2
      else a.terminateTimerData.restartCounter.toNat

lemma TimersRight.recounted (h : TimersRight a) (actions : List CpAction) (newState : PppcpState) :
    Recounted actions newState a (a.count actions newState) := by
  have hconfig := h.config
  have hterminate := h.terminate
  unfold Automaton.count
  by_cases hirc : CpAction.irc ∈ actions
  · rw [if_pos hirc]
    by_cases hterminating : newState.Terminating
    · rw [if_pos hterminating]
      refine ⟨hconfig, hterminate.initialize, rfl, rfl, ?_, fun _ => ?_⟩
      · rw [if_neg (fun hnot => hnot.2 hterminating)]
      · rw [if_pos ⟨hirc, hterminating⟩]
        exact hterminate.max_eq
    · rw [if_neg hterminating]
      have hfull := hconfig.initialize
      refine ⟨hfull, hterminate, rfl, rfl, ?_, fun _ => ?_⟩
      · rw [if_pos ⟨hirc, hterminating⟩]
        exact hconfig.max_eq
      · rw [if_neg (fun hnot => hterminating hnot.2)]
  · rw [if_neg hirc]
    by_cases hzrc : CpAction.zrc ∈ actions
    · rw [if_pos hzrc]
      refine ⟨hconfig, hterminate.zero, rfl, rfl, ?_, fun hnot => ?_⟩
      · rw [if_neg (fun hnot => hirc hnot.1)]
      · exact absurd hzrc hnot
    · rw [if_neg hzrc]
      refine ⟨hconfig, hterminate, rfl, rfl, ?_, fun _ => ?_⟩
      · rw [if_neg (fun hnot => hirc hnot.1)]
      · rw [if_neg (fun hnot => hirc hnot.1)]

/-- The counters are as large as the requests that are sent take. -/
structure Sendable (type : PppcpEventType) (a : Automaton) : Prop where
  armed : ¬ Timeout type → a.state.Negotiating → a.configTimerData.armed = true
  config : type = .toPlus → a.state.Negotiating → 0 < a.configTimerData.restartCounter.toNat
  terminate : type = .toPlus → a.state.Terminating → 0 < a.terminateTimerData.restartCounter.toNat

lemma TimersRight.send_config (h : TimersRight a) (hsend : Sendable type a)
    (hlegal : LegalRequest type a.state actions newState) {b : Automaton}
    (hb : Recounted actions newState a b) : Counted 10 (b.send actions).configTimerData := by
  unfold Automaton.send
  dsimp only
  split_ifs with hscr
  · refine hb.config.requestSent ?_
    rcases hlegal.1 hscr with ⟨hnegotiating, hwhy⟩
    have hcounter := hb.config_counter
    rcases hwhy with hirc | hfresh | ⟨htype, hstate⟩
    · rw [if_pos ⟨hirc, hnegotiating.not_terminating⟩] at hcounter
      omega
    · have hten := h.fresh hfresh
      split_ifs at hcounter <;> omega
    · have hpos := hsend.config htype hstate
      split_ifs at hcounter <;> omega
  · exact hb.config

lemma TimersRight.send_terminate (hsend : Sendable type a)
    (hlegal : LegalRequest type a.state actions newState) {b : Automaton}
    (hb : Recounted actions newState a b) : Counted 2 (b.send actions).terminateTimerData := by
  unfold Automaton.send
  dsimp only
  split_ifs with hstr hsta
  · refine hb.terminate.requestSent ?_
    rcases hlegal.2.1 hstr with ⟨hterminating, hzrc, hwhy⟩
    have hcounter := hb.terminate_counter hzrc
    rcases hwhy with hirc | ⟨htype, hstate⟩
    · rw [if_pos ⟨hirc, hterminating⟩] at hcounter
      omega
    · have hpos := hsend.terminate htype hstate
      split_ifs at hcounter <;> omega
  · exact hb.terminate.arm true
  · exact hb.terminate

lemma TimersRight.react (h : TimersRight a) (hsend : Sendable type a)
    (hlegal : LegalEntry type a.state actions newState) : TimersRight (a.react actions newState) ∧
    (newState.Negotiating → (a.react actions newState).configTimerData.armed = true) := by
  have hb := h.recounted actions newState
  have hconfig := h.send_config hsend hlegal.request hb
  have hterminate := TimersRight.send_terminate hsend hlegal.request hb
  rcases hlegal.timers with ⟨hnegotiate, hterm⟩
  rcases hlegal.request with ⟨-, -, hfresh⟩
  unfold Automaton.react
  generalize a.count actions newState = b at *
  have hcounter : newState.Fresh → (b.send actions).configTimerData.restartCounter.toNat = 10 := by
    intro hnew
    rcases hfresh hnew with ⟨hscr, hwhy⟩
    have hten := hb.config_counter
    unfold Automaton.send
    dsimp only
    rw [if_neg hscr]
    rcases hwhy with hirc | hold
    · rwa [if_pos ⟨hirc, hnew.not_terminating⟩] at hten
    · have hbefore := h.fresh hold
      split_ifs at hten <;> omega
  have harmed : newState.Negotiating → (b.send actions).configTimerData.armed = true := by
    intro hnew
    unfold Automaton.send
    dsimp only
    split_ifs with hscr
    · rfl
    · rcases (hnegotiate hnew).1 with hscr' | ⟨hold, htype⟩
      · exact absurd hscr' hscr
      · rw [hb.config_armed]
        exact hsend.armed htype hold
  unfold Automaton.enter
  by_cases hwaiting : newState.Negotiating ∨ newState.Terminating
  · rw [if_pos hwaiting]
    refine ⟨⟨fun hon => ?_, fun hon => ?_, hconfig, hterminate, hcounter⟩, harmed⟩
    · rcases hwaiting with hnew | hnew
      · exact hnew
      · rcases hterm hnew with ⟨hscr, hold⟩
        have hon' : (b.send actions).configTimerData.armed = true := hon
        unfold Automaton.send at hon'
        dsimp only at hon'
        rw [if_neg hscr, hb.config_armed] at hon'
        exact absurd (h.config_armed hon') hold
    · rcases hwaiting with hnew | hnew
      · rcases hnegotiate hnew with ⟨-, hstr, hsta, hold⟩
        have hon' : (b.send actions).terminateTimerData.armed = true := hon
        unfold Automaton.send at hon'
        dsimp only at hon'
        rw [if_neg hstr, if_neg hsta, hb.terminate_armed] at hon'
        exact absurd (h.terminate_armed hon') hold
      · exact hnew
  · rw [if_neg hwaiting]
    exact ⟨⟨(absurd · Bool.false_ne_true), (absurd · Bool.false_ne_true), hconfig.arm false,
      hterminate.arm false, hcounter⟩, fun hnew => absurd (.inl hnew) hwaiting⟩

/-- What holds between the inputs. -/
structure Running (a : Automaton) : Prop where
  right : TimersRight a
  armed : a.state.Negotiating → a.configTimerData.armed = true

lemma TimersRight.event (h : TimersRight a) (hsend : Sendable type a) (hlegal : Legal type a.state) :
    Running (a.event type) := by
  unfold Legal at hlegal
  unfold Automaton.event
  rcases hentry : cpTransition type a.state with _ | ⟨actions, newState⟩
  · refine ⟨h, fun hnegotiating => hsend.armed ?_ hnegotiating⟩
    -- a timeout of the negotiation has an entry
    rintro (rfl | rfl) <;> rcases hnegotiating with hstate | hstate | hstate <;> rw [hstate] at hentry <;>
      cases hentry
  · rw [hentry] at hlegal
    rcases h.react hsend hlegal with ⟨hright, harmed⟩
    refine ⟨hright, fun hnegotiating => harmed ?_⟩
    have hstate : (a.react actions newState).state = newState := by
      unfold Automaton.react Automaton.enter
      split_ifs <;> rfl
    rwa [← hstate]

lemma Running.event (h : Running a) (htype : ¬ Timeout type) (hlegal : Legal type a.state) :
    Running (a.event type) :=
  h.right.event ⟨fun _ => h.armed, fun heq => absurd (.inl heq) htype, fun heq => absurd (.inl heq) htype⟩
    hlegal

lemma Running.configTimeout (h : Running a) (hon : a.configTimerData.armed = true) :
    Running (Automaton.event (PppcpData.timeoutEvent a.configTimerData)
      { a with configTimerData := a.configTimerData.stop }) := by
  have hnegotiating := h.right.config_armed hon
  have hstopped : TimersRight { a with configTimerData := a.configTimerData.stop } :=
    ⟨(absurd · Bool.false_ne_true), h.right.terminate_armed, h.right.config.arm false, h.right.terminate,
      h.right.fresh⟩
  unfold PppcpData.timeoutEvent
  split_ifs with hpos
  · refine hstopped.event ⟨fun hnot => absurd (.inl rfl) hnot, fun _ _ => UInt32.lt_iff_toNat_lt.mp hpos,
      fun _ hterminating => absurd hterminating hnegotiating.not_terminating⟩ ((legal_iff _ _).mpr ?_)
    rintro ⟨-, heq | heq⟩ <;> cases heq
  · refine hstopped.event ⟨fun hnot => absurd (.inr rfl) hnot, nofun, nofun⟩
      ((legal_iff _ _).mpr ?_)
    rintro ⟨-, heq | heq⟩ <;> cases heq

lemma Running.terminateTimeout (h : Running a) (hon : a.terminateTimerData.armed = true) :
    Running (Automaton.event (PppcpData.timeoutEvent a.terminateTimerData)
      { a with terminateTimerData := a.terminateTimerData.stop }) := by
  have hterminating := h.right.terminate_armed hon
  have hnot : ¬ a.state.Negotiating := fun hnegotiating => hnegotiating.not_terminating hterminating
  have hstopped : TimersRight { a with terminateTimerData := a.terminateTimerData.stop } :=
    ⟨h.right.config_armed, (absurd · Bool.false_ne_true), h.right.config, h.right.terminate.arm false,
      h.right.fresh⟩
  unfold PppcpData.timeoutEvent
  split_ifs with hpos
  · refine hstopped.event ⟨fun _ hnegotiating => absurd hnegotiating hnot,
      fun _ hnegotiating => absurd hnegotiating hnot, fun _ _ => UInt32.lt_iff_toNat_lt.mp hpos⟩
      ((legal_iff _ _).mpr fun hbad => hnot hbad.1)
  · exact hstopped.event ⟨fun _ hnegotiating => absurd hnegotiating hnot, nofun, nofun⟩
      ((legal_iff _ _).mpr fun hbad => hnot hbad.1)

/-- In the negotiation a close leaves the timer of the negotiation armed, and a terminate
request arms the other one. -/
lemma Running.not_sound (h : Running a) (hnegotiating : a.state.Negotiating)
    (htype : type = .close ∨ type = .rtr) : ¬ TimersSound (a.event type) := by
  intro hsound
  have harmed := h.armed hnegotiating
  rcases htype with rfl | rfl
  · have hentry : cpTransition .close a.state = some ([.irc, .str], .closing) := by
      rcases hnegotiating with hstate | hstate | hstate <;> rw [hstate] <;> rfl
    have hon := hsound.config_armed
    unfold Automaton.event at hon
    rw [hentry] at hon
    exact absurd (hon harmed) (show ¬ PppcpState.Negotiating .closing by decide)
  · have hentry : cpTransition .rtr a.state = some ([.sta], .reqsent) := by
      rcases hnegotiating with hstate | hstate | hstate <;> rw [hstate] <;> rfl
    have hon := hsound.terminate_armed
    unfold Automaton.event at hon
    rw [hentry] at hon
    exact absurd (hon rfl) (show ¬ PppcpState.Terminating .reqsent by decide)

end Event

/-! ## Runs -/

section Runs

variable {π : Type} {proto : PppcpProto π} {data data' : PppcpData π} {i : PppcpInput}

/-- A packet that asks to terminate. -/
def AsksToTerminate (proto : PppcpProto π) (packet : PppcpPacket) : Prop :=
  packet.code = PppcpData.terminateRequest ∧ proto.supportedCodes.toNat.testBit packet.code.toNat = true

/-- It is not closed in the negotiation, nor asked to terminate. -/
def Harmless (proto : PppcpProto π) (data : PppcpData π) : PppcpInput → Prop
  | .close => ¬ data.state.Negotiating
  | .packet packet => AsksToTerminate proto packet → ¬ data.state.Negotiating
  | _ => True

lemma toAutomaton_processConfigureRequest (packet : PppcpPacket) :
    (PppcpData.processConfigureRequest proto packet data).2.toAutomaton = data.toAutomaton ∧
      ((PppcpData.processConfigureRequest proto packet data).1 = .rcrPlus ∨
        (PppcpData.processConfigureRequest proto packet data).1 = .rcrMinus) := by
  unfold PppcpData.processConfigureRequest
  split_ifs
  · exact ⟨rfl, .inr rfl⟩
  · rcases proto.rcr data.priv packet with ⟨result, options, priv⟩
    cases result with
    | accept => exact ⟨rfl, .inl rfl⟩
    | reject => exact ⟨rfl, .inr rfl⟩
    | nak => exact ⟨rfl, .inr rfl⟩

lemma toAutomaton_processConfigureAck (packet : PppcpPacket) :
    (PppcpData.processConfigureAck proto packet data).2.toAutomaton = data.toAutomaton ∧
      ∀ type, (PppcpData.processConfigureAck proto packet data).1 = some type → type = .rca := by
  unfold PppcpData.processConfigureAck
  split_ifs
  · exact ⟨rfl, nofun⟩
  · exact ⟨rfl, fun type heq => (Option.some.inj heq).symm⟩

lemma toAutomaton_processConfigureNak (rcn : π → PppcpPacket → π × Option (List UInt8)) (packet :
    PppcpPacket) : (PppcpData.processConfigureNak rcn packet data).2.toAutomaton = data.toAutomaton
    ∧ ∀ type, (PppcpData.processConfigureNak rcn packet data).1 = some type → type = .rcn := by
  unfold PppcpData.processConfigureNak
  split_ifs
  · exact ⟨rfl, nofun⟩
  · exact ⟨rfl, fun type heq => (Option.some.inj heq).symm⟩

/-- The events of packets that do not ask to terminate. -/
def packetEvents : List PppcpEventType :=
  [.rcrPlus, .rcrMinus, .rca, .rcn, .rta, .ruc, .rxjMinus, .rxr]

/-- What a packet is to the automaton. -/
structure PacketEvent (proto : PppcpProto π) (data : PppcpData π) (packet : PppcpPacket)
    (r : Option PppcpEventType × PppcpData π) : Prop where
  same : r.2.toAutomaton = data.toAutomaton
  asks : r.1 = some .rtr ↔ AsksToTerminate proto packet
  type : ∀ type, r.1 = some type → type ≠ .rtr → type ∈ packetEvents

lemma packetEvent_other {packet : PppcpPacket} {r : Option PppcpEventType × PppcpData π}
    (hnot : ¬ AsksToTerminate proto packet) (hsame : r.2.toAutomaton = data.toAutomaton)
    (htype : ∀ type, r.1 = some type → type ∈ packetEvents) : PacketEvent proto data packet r := by
  refine ⟨hsame, iff_of_false (fun heq => ?_) hnot, fun type heq _ => htype type heq⟩
  exact absurd (htype .rtr heq) (by decide)

lemma packetEvent_spec (packet : PppcpPacket) :
    PacketEvent proto data packet (PppcpData.packetEvent proto packet data) := by
  unfold PppcpData.packetEvent
  by_cases hsupported : proto.supportedCodes.toNat.testBit packet.code.toNat = true
  · rw [hsupported]
    have hnot : ∀ {n : ℕ}, packet.code.toNat = n → n ≠ 5 → ¬ AsksToTerminate proto packet := by
      rintro n hcode hn ⟨hask, -⟩
      rw [hask] at hcode
      exact hn hcode.symm
    have hone : ∀ {type : PppcpEventType}, type ∈ packetEvents →
        ∀ type', some type = some type' → type' ∈ packetEvents := by
      rintro type hmem _ ⟨⟩
      exact hmem
    simp only [Bool.not_true, Bool.false_eq_true, if_false]
    split
    · rename_i hcode
      rcases toAutomaton_processConfigureRequest packet with ⟨hsame, htype⟩
      refine packetEvent_other (hnot hcode (by decide)) hsame ?_
      intro type heq
      rw [← show (PppcpData.processConfigureRequest proto packet data).1 = type from Option.some.inj heq]
      rcases htype with heq | heq <;> rw [heq] <;> decide
    · rename_i hcode
      rcases toAutomaton_processConfigureAck packet with ⟨hsame, htype⟩
      exact packetEvent_other (hnot hcode (by decide)) hsame fun type heq => by rw [htype type heq]; decide
    · rename_i hcode
      rcases toAutomaton_processConfigureNak proto.rcnNak packet with ⟨hsame, htype⟩
      exact packetEvent_other (hnot hcode (by decide)) hsame fun type heq => by rw [htype type heq]; decide
    · rename_i hcode
      rcases toAutomaton_processConfigureNak proto.rcnRej packet with ⟨hsame, htype⟩
      exact packetEvent_other (hnot hcode (by decide)) hsame fun type heq => by rw [htype type heq]; decide
    · rename_i hcode
      refine ⟨rfl, iff_of_true rfl ⟨UInt8.toNat_inj.mp hcode, hsupported⟩, ?_⟩
      rintro type ⟨⟩ hne
      exact absurd rfl hne
    · rename_i hcode
      exact packetEvent_other (hnot hcode (by decide)) rfl (hone (by decide))
    · rename_i hcode
      exact packetEvent_other (hnot hcode (by decide)) rfl (hone (by decide))
    · rename_i hcode
      exact packetEvent_other (hnot hcode (by decide)) rfl (hone (by decide))
    · rename_i hcode
      exact packetEvent_other (hnot hcode (by decide)) rfl (hone (by decide))
    · refine packetEvent_other (fun hask => ?_) rfl nofun
      exact ‹packet.code.toNat = 5 → False› (by rw [hask.1]; rfl)
  · rw [if_pos (by simpa using hsupported)]
    refine packetEvent_other (fun hask => hsupported hask.2) rfl ?_
    rintro type ⟨⟩
    decide

lemma toAutomaton_processPacket (packet : PppcpPacket) :
    (∃ type, (type = .rtr ↔ AsksToTerminate proto packet) ∧ ¬ Timeout type ∧ type ≠ .close ∧
      (data.processPacket proto packet).toAutomaton = data.toAutomaton.event type) ∨
    ¬ AsksToTerminate proto packet ∧ (data.processPacket proto packet).toAutomaton = data.toAutomaton := by
  have hspec := @packetEvent_spec π proto data packet
  unfold PppcpData.processPacket
  generalize PppcpData.packetEvent proto packet data = r at hspec ⊢
  rcases r with ⟨_ | type, data₁⟩
  · refine .inr ⟨fun hask => ?_, hspec.same⟩
    cases hspec.asks.mpr hask
  · refine .inl ⟨type, ?_, ?_⟩
    · rw [← hspec.asks, Option.some.injEq]
    · have hsame : data₁.toAutomaton = data.toAutomaton := hspec.same
      refine ⟨?_, ?_, by rw [← hsame]; exact toAutomaton_generateEvent type packet⟩ <;>
        by_cases hrtr : type = .rtr
      · rw [hrtr]
        decide
      · have hall : ∀ type ∈ packetEvents, ¬ Timeout type := by decide
        exact hall type (hspec.type type rfl hrtr)
      · rw [hrtr]
        decide
      · have hall : ∀ type ∈ packetEvents, type ≠ .close := by decide
        exact hall type (hspec.type type rfl hrtr)

lemma harmless_step (h : Running data.toAutomaton) (hi : Harmless proto data i)
    (hstep : pppcpStep proto data i = some data') : Running data'.toAutomaton := by
  have hsignal : ∀ type packet, ¬ Timeout type → ¬ (data.state.Negotiating ∧ (type = .close ∨ type = .rtr)) →
      Running (data.generateEvent proto type packet).toAutomaton := by
    intro type packet htype hlegal
    rw [toAutomaton_generateEvent]
    exact h.event htype ((legal_iff _ _).mpr hlegal)
  cases i with
  | up =>
    cases hstep
    exact hsignal _ _ (by decide) (by simp)
  | down =>
    cases hstep
    exact hsignal _ _ (by decide) (by simp)
  | «open» =>
    cases hstep
    exact hsignal _ _ (by decide) (by simp)
  | close =>
    cases hstep
    exact hsignal _ _ (by decide) fun hbad => hi hbad.1
  | packet packet =>
    cases hstep
    rcases @toAutomaton_processPacket π proto data packet with
      ⟨type, hrtr, htimeout, hclose, heq⟩ | ⟨-, heq⟩
    · rw [heq]
      refine h.event htimeout ((legal_iff _ _).mpr ?_)
      rintro ⟨hnegotiating, htype | htype⟩
      · exact hclose htype
      · exact hi (hrtr.mp htype) hnegotiating
    · rw [heq]
      exact h
  | configTimeout =>
    unfold pppcpStep at hstep
    dsimp only at hstep
    split_ifs at hstep with hon
    cases hstep
    rw [toAutomaton_generateEvent]
    exact h.configTimeout hon
  | terminateTimeout =>
    unfold pppcpStep at hstep
    dsimp only at hstep
    split_ifs at hstep with hon
    cases hstep
    rw [toAutomaton_generateEvent]
    exact h.terminateTimeout hon
  | localOptions options =>
    cases hstep
    exact h

lemma harmful_step (h : Running data.toAutomaton) (hi : ¬ Harmless proto data i)
    (hstep : pppcpStep proto data i = some data') : ¬ TimersSound data'.toAutomaton := by
  cases i with
  | close =>
    cases hstep
    rw [toAutomaton_generateEvent]
    exact h.not_sound (not_not.mp hi) (.inl rfl)
  | packet packet =>
    cases hstep
    unfold Harmless at hi
    push Not at hi
    rcases @toAutomaton_processPacket π proto data packet with ⟨type, hrtr, -, -, heq⟩ | ⟨hnot, -⟩
    · rw [heq]
      exact h.not_sound hi.2 (.inr (hrtr.mpr hi.1))
    · exact absurd hi.1 hnot
  | up => exact absurd trivial hi
  | down => exact absurd trivial hi
  | «open» => exact absurd trivial hi
  | configTimeout => exact absurd trivial hi
  | terminateTimeout => exact absurd trivial hi
  | localOptions options => exact absurd trivial hi

lemma running_new (dormant : Bool) (maxFailure : UInt32) (priv : π) :
    Running (PppcpData.new dormant maxFailure priv).toAutomaton := by
  have hconfig : Counted 10 ⟨0, 10, false, 0, false⟩ := ⟨rfl, rfl, by decide⟩
  have hterminate : Counted 2 ⟨0, 2, false, 0, false⟩ := ⟨rfl, rfl, by decide⟩
  cases dormant
  · exact ⟨⟨(absurd · Bool.false_ne_true), (absurd · Bool.false_ne_true), hconfig, hterminate,
      fun h => absurd h (show ¬ PppcpState.Fresh .initial by decide)⟩,
      fun h => absurd h (show ¬ PppcpState.Negotiating .initial by decide)⟩
  · exact ⟨⟨(absurd · Bool.false_ne_true), (absurd · Bool.false_ne_true), hconfig, hterminate,
      fun h => absurd h (show ¬ PppcpState.Fresh .stopped by decide)⟩,
      fun h => absurd h (show ¬ PppcpState.Negotiating .stopped by decide)⟩

/-- The timers of a protocol are sound in every state of a run just when it is neither closed
nor asked to terminate in the negotiation. -/
theorem timers_sound_iff (proto : PppcpProto π) (dormant : Bool) (maxFailure : UInt32) (priv : π)
    (inputs : List PppcpInput) : Machine.Always (pppcpStep proto) (fun data =>
    TimersSound data.toAutomaton) (PppcpData.new dormant maxFailure priv) inputs ↔ Machine.EveryStep
    (pppcpStep proto) (Harmless proto) (PppcpData.new dormant maxFailure priv) inputs :=
  @Machine.always_iff _ _ _ (fun data => Running data.toAutomaton) _ _ (fun _ h => h.right.sound)
    (fun _ _ _ h hi hstep => harmless_step h hi hstep) (fun _ _ _ h hi hstep => harmful_step h hi hstep) _
    (running_new dormant maxFailure priv) inputs

/-- A driver that takes every packet and has no options. -/
def plainProto : PppcpProto Unit where
  supportedCodes := 0x0ffe
  known := by
    intro code hcode
    rcases Nat.lt_or_ge code 16 with hlt | hge
    · have hall : ∀ code < 16, (0x0ffe : UInt16).toNat.testBit code = true → 1 ≤ code ∧ code ≤ 11 := by decide
      exact hall code hlt hcode
    · rw [Nat.testBit_lt_two_pow (Nat.lt_of_lt_of_le (by decide : (0x0ffe : UInt16).toNat < 2 ^ 16)
        (Nat.pow_le_pow_right (by decide) hge))] at hcode
      cases hcode
  rcr := fun _ _ => (.accept, none, ())
  rca := fun _ _ => ()
  rcnNak := fun _ _ => ((), none)
  rcnRej := fun _ _ => ((), none)
  thisLayerDown := fun _ => ((), none)

/-- Closed while its configure request is not answered, it has both timers armed. -/
theorem closed_with_both_timers : ¬ Machine.Always (pppcpStep plainProto) (fun data => TimersSound
    data.toAutomaton) (PppcpData.new false 0 ()) [.«open», .up, .close] := by
  intro h
  rw [timers_sound_iff] at h
  have hharmless := ((h _ rfl).2 _ rfl).2 _ rfl
  exact hharmless.1 (show PppcpState.Negotiating .reqsent by decide)

end Runs

end Phonelets.Ppp
