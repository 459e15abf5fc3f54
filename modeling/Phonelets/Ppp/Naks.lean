import Phonelets.Ppp.Timers

/-! # Configure-Naks and the failure counter

A control protocol refuses a Configure-Request `max_failure` times with a Nak before it gives up. What the
counter says is read off the packets that have been sent: it is the number of Naks since the last Ack, and
only an Ack sets it back.
-/

namespace Phonelets.Ppp

open List
open PppcpData (configureRequest configureAck configureNak configureReject terminateRequest terminateAck
  codeReject echoReply)

/-- The Configure-Naks since the last Configure-Ack; the last thing done is the first of the list. -/
def naksSinceAck : List Effect → ℕ
  | [] => 0
  | .transmit packet _ :: done =>
    if packet.code = configureAck then 0
    else if packet.code = configureNak then naksSinceAck done + 1
    else naksSinceAck done
  | _ :: done => naksSinceAck done

/-- The states in which a Configure-Request is answered with an Ack, a Nak or a Reject. -/
def PppcpState.AnswersRequests (state : PppcpState) : Prop :=
  state = .stopped ∨ state = .reqsent ∨ state = .ackrcvd ∨ state = .acksent ∨ state = .opened

/-- A Configure-Request that is to be answered, and of which the driver accepts all options. -/
structure Acceptable {π : Type} (proto : PppcpProto π) (data : PppcpData π) (packet : PppcpPacket) : Prop where
  supported : proto.supportedCodes.toNat.testBit 1 = true
  request : packet.code = configureRequest
  answers : data.state.AnswersRequests
  accepted : (proto.rcr data.priv packet).1 = .accept

/-- Among what has been done in between is a Configure-Ack with the options of the packet. -/
def AnsweredWithAck {π : Type} (packet : PppcpPacket) (data data' : PppcpData π) : Prop :=
  ∃ effects, data'.done = effects ++ data.done ∧
    ∃ infolen, Effect.transmit ⟨configureAck, packet.identifier, packet.data⟩ infolen ∈ effects

/-! ## What an event sends -/

/-- Neither an Ack nor a Nak. -/
def Effect.Other (effect : Effect) : Prop :=
  ∀ packet infolen, effect = .transmit packet infolen → packet.code ≠ configureAck ∧ packet.code ≠ configureNak

lemma Effect.other_transmit {packet : PppcpPacket} {infolen : ℕ} (hack : packet.code ≠ configureAck)
    (hnak : packet.code ≠ configureNak) : (Effect.transmit packet infolen).Other := by
  intro packet' infolen' heq
  cases heq
  exact ⟨hack, hnak⟩

lemma naksSinceAck_other {effects : List Effect} (h : ∀ effect ∈ effects, effect.Other) (done : List Effect) :
    naksSinceAck (effects ++ done) = naksSinceAck done := by
  induction effects with
  | nil => rfl
  | cons effect effects ih =>
    obtain ⟨hfirst, hrest⟩ := forall_mem_cons.mp h
    cases effect with
    | transmit packet infolen =>
      obtain ⟨hack, hnak⟩ := hfirst packet infolen rfl
      rw [cons_append, naksSinceAck, if_neg hack, if_neg hnak, ih hrest]
    | _ => exact ih hrest

section Step

variable {π : Type} {proto : PppcpProto π} {data data' : PppcpData π} {packet : PppcpPacket}

/-- From one state to another: what has been done besides the answer is something else, and only the answer
counts. -/
structure Does (answer : List Effect) (counter : UInt32) (data data' : PppcpData π) : Prop where
  done : ∃ before after, (∀ effect ∈ before ++ after, effect.Other) ∧
    data'.done = after ++ answer ++ (before ++ data.done)
  counter : data'.failureCounter = counter
  max : data'.maxFailure = data.maxFailure

def Quiet (data data' : PppcpData π) : Prop := Does [] data.failureCounter data data'

lemma Quiet.intro {effects : List Effect} (hother : ∀ effect ∈ effects, effect.Other)
    (hdone : data'.done = effects ++ data.done) (hcounter : data'.failureCounter = data.failureCounter)
    (hmax : data'.maxFailure = data.maxFailure) : Quiet data data' where
  done := ⟨effects, [], by rwa [append_nil], hdone⟩
  counter := hcounter
  max := hmax

lemma Quiet.refl (data : PppcpData π) : Quiet data data :=
  .intro (fun _ h => absurd h not_mem_nil) rfl rfl rfl

variable {counter : UInt32}

lemma Quiet.trans {answer : List Effect} {d : PppcpData π} (h : Quiet data d)
    (hdoes : Does answer counter d data') : Does answer counter data data' where
  done := by
    obtain ⟨before, after, hother, hdone⟩ := h.done
    obtain ⟨before', after', hother', hdone'⟩ := hdoes.done
    refine ⟨before' ++ (after ++ before), after', ?_, ?_⟩
    · intro effect heffect
      simp only [mem_append] at heffect hother hother'
      rcases heffect with (hmem | hmem | hmem) | hmem
      · exact hother' effect (.inl hmem)
      · exact hother effect (.inr hmem)
      · exact hother effect (.inl hmem)
      · exact hother' effect (.inr hmem)
    · rw [hdone', hdone]
      simp only [append_assoc, append_nil]
  counter := hdoes.counter
  max := hdoes.max.trans h.max

lemma Does.trans {answer : List Effect} {d : PppcpData π} (hdoes : Does answer counter data d)
    (h : Quiet d data') : Does answer counter data data' where
  done := by
    obtain ⟨before, after, hother, hdone⟩ := hdoes.done
    obtain ⟨before', after', hother', hdone'⟩ := h.done
    refine ⟨before, after' ++ before' ++ after, ?_, ?_⟩
    · intro effect heffect
      simp only [mem_append] at heffect hother hother'
      rcases heffect with hmem | (hmem | hmem) | hmem
      · exact hother effect (.inl hmem)
      · exact hother' effect (.inr hmem)
      · exact hother' effect (.inl hmem)
      · exact hother effect (.inr hmem)
    · rw [hdone', hdone]
      simp only [append_assoc, append_nil]
  counter := h.counter.trans hdoes.counter
  max := h.max.trans hdoes.max

lemma quiet_transmit {code identifier : UInt8} {octets : List UInt8} {infolen : ℕ}
    (hother : code ≠ configureAck ∧ code ≠ configureNak) (hdone : data'.done =
    .transmit ⟨code, identifier, octets⟩ infolen :: data.done) (hcounter : data'.failureCounter =
    data.failureCounter) (hmax : data'.maxFailure = data.maxFailure) : Quiet data data' :=
  Quiet.intro (forall_mem_singleton.mpr (Effect.other_transmit hother.1 hother.2)) hdone hcounter hmax

lemma quiet_countAction (actions : List CpAction) (newState : PppcpState) (data : PppcpData π) :
    Quiet data (data.countAction actions newState) := by
  unfold PppcpData.countAction
  split_ifs <;> exact .intro (fun _ h => absurd h not_mem_nil) rfl rfl rfl

lemma quiet_transitionState (newState : PppcpState) (data : PppcpData π) :
    Quiet data (data.transitionState newState) := by
  cases newState <;> exact .intro (fun _ h => absurd h not_mem_nil) rfl rfl rfl

lemma quiet_layerAction (proto : PppcpProto π) (actions : List CpAction) (data : PppcpData π) :
    Quiet data (data.layerAction proto actions) := by
  have hnote {effect : Effect} {d : PppcpData π} (hother : effect.Other) (hdone : d.done = effect :: data.done)
      (hcounter : d.failureCounter = data.failureCounter) (hmax : d.maxFailure = data.maxFailure) :
      Quiet data d := .intro (forall_mem_singleton.mpr hother) hdone hcounter hmax
  have hother {effect : Effect} (h : ∀ packet infolen, effect ≠ .transmit packet infolen) : effect.Other :=
    fun packet infolen heq => absurd heq (h packet infolen)
  unfold PppcpData.layerAction
  split_ifs
  · exact hnote (hother fun _ _ => Effect.noConfusion) rfl rfl rfl
  · exact hnote (hother fun _ _ => Effect.noConfusion) rfl rfl rfl
  · exact hnote (d := data.layerDown proto) (hother fun _ _ => Effect.noConfusion) rfl rfl rfl
  · exact hnote (hother fun _ _ => Effect.noConfusion) rfl rfl rfl
  · exact Quiet.refl data

/-- What `pppcp_send_configure_ack` or `pppcp_send_configure_nak` sends, and the counter behind it. -/
def answer (actions : List CpAction) (packet : PppcpPacket) (data : PppcpData π) : List PppcpPacket × UInt32 :=
  if .sca ∈ actions then ([⟨configureAck, packet.identifier, packet.data⟩], 0)
  else if .scn ∈ actions then
    if data.failureCounter ≥ data.maxFailure then
      ([⟨configureReject, packet.identifier, packet.data⟩], data.failureCounter)
    else if data.sendReject then ([⟨configureReject, packet.identifier, data.peerOptions⟩], data.failureCounter)
    else ([⟨configureNak, packet.identifier, data.peerOptions⟩], data.failureCounter + 1)
  else ([], data.failureCounter)

/-- With its own length. -/
def transmitted (packet : PppcpPacket) : Effect := .transmit packet packet.octets.length

lemma does_sendAction (actions : List CpAction) (packet : PppcpPacket) (data : PppcpData π) :
    Does ((answer actions packet data).1.map transmitted) (answer actions packet data).2 data
      (data.sendAction actions packet) := by
  unfold PppcpData.sendAction
  extract_lets d₁ d₂ d₃ d₄
  have hrequest : Quiet data d₁ := by
    unfold d₁
    split_ifs
    · exact quiet_transmit (show configureRequest ≠ _ ∧ configureRequest ≠ _ by decide) rfl rfl rfl
    · exact Quiet.refl data
  have hsame : d₁.sendReject = data.sendReject ∧ d₁.peerOptions = data.peerOptions := by
    unfold d₁
    split_ifs
    · exact ⟨rfl, rfl⟩
    · exact ⟨rfl, rfl⟩
  have hanswer : Does ((answer actions packet data).1.map transmitted) (answer actions packet data).2 d₁ d₂ := by
    have hmax : d₁.maxFailure = data.maxFailure := hrequest.max
    have hcounter : d₁.failureCounter = data.failureCounter := hrequest.counter
    have hdirect {answered : List PppcpPacket} {counter : UInt32} {d : PppcpData π}
        (hdone : d.done = answered.map transmitted ++ d₁.done) (hfailure : d.failureCounter = counter)
        (hsame : d.maxFailure = d₁.maxFailure) : Does (answered.map transmitted) counter d₁ d :=
      ⟨⟨[], [], fun _ h => absurd h not_mem_nil, hdone⟩, hfailure, hsame⟩
    unfold d₂ answer PppcpData.sendConfigureNak
    rw [hmax, hcounter, hsame.1, hsame.2]
    split_ifs
    · exact hdirect rfl rfl rfl
    · exact hdirect rfl hcounter rfl
    · exact hdirect rfl hcounter rfl
    · exact hdirect rfl rfl hmax.symm
    · exact hdirect rfl hcounter rfl
  have hterminate : Quiet d₂ d₃ := by
    unfold d₃
    split_ifs
    · exact quiet_transmit (show terminateRequest ≠ _ ∧ terminateRequest ≠ _ by decide) rfl rfl rfl
    · exact quiet_transmit (show terminateAck ≠ _ ∧ terminateAck ≠ _ by decide) rfl rfl rfl
    · exact Quiet.refl d₂
  have hreject : Quiet d₃ d₄ := by
    unfold d₄
    split_ifs
    · exact quiet_transmit (show codeReject ≠ _ ∧ codeReject ≠ _ by decide) rfl rfl rfl
    · exact Quiet.refl d₃
  have hecho : Quiet d₄ (if .ser ∈ actions then d₄.sendEchoReply packet else d₄) := by
    split_ifs
    · exact quiet_transmit (show echoReply ≠ _ ∧ echoReply ≠ _ by decide) rfl rfl rfl
    · exact Quiet.refl d₄
  exact (((hrequest.trans hanswer).trans hterminate).trans hreject).trans hecho

lemma does_generateEvent {type : PppcpEventType} {actions : List CpAction} {newState : PppcpState}
    (hentry : cpTransition type data.state = some (actions, newState)) (packet : PppcpPacket) :
    Does ((answer actions packet data).1.map transmitted) (answer actions packet data).2 data
      (data.generateEvent proto type packet) := by
  have hcount := quiet_countAction actions newState data
  have hsame : answer actions packet (data.countAction actions newState) = answer actions packet data := by
    unfold answer
    rw [hcount.counter, hcount.max]
    unfold PppcpData.countAction
    split_ifs <;> rfl
  have hsend := does_sendAction actions packet (data.countAction actions newState)
  rw [hsame] at hsend
  unfold PppcpData.generateEvent
  rw [hentry]
  exact ((hcount.trans hsend).trans (quiet_transitionState newState _)).trans (quiet_layerAction proto actions _)

/-! ## The counter -/

/-- The counter is the number of Naks since the last Ack. -/
structure CountsNaks (max : UInt32) (data : PppcpData π) : Prop where
  allowed : data.maxFailure = max
  counter : data.failureCounter.toNat = naksSinceAck data.done
  le : data.failureCounter.toNat ≤ max.toNat

lemma naksSinceAck_ack (identifier : UInt8) (octets : List UInt8) (done : List Effect) :
    naksSinceAck (transmitted ⟨configureAck, identifier, octets⟩ :: done) = 0 :=
  if_pos rfl

lemma naksSinceAck_reject (identifier : UInt8) (octets : List UInt8) (done : List Effect) :
    naksSinceAck (transmitted ⟨configureReject, identifier, octets⟩ :: done) = naksSinceAck done := by
  exact (if_neg (show ¬ configureReject = configureAck by decide)).trans
    (if_neg (show ¬ configureReject = configureNak by decide))

lemma naksSinceAck_nak (identifier : UInt8) (octets : List UInt8) (done : List Effect) :
    naksSinceAck (transmitted ⟨configureNak, identifier, octets⟩ :: done) = naksSinceAck done + 1 := by
  exact (if_neg (show ¬ configureNak = configureAck by decide)).trans (if_pos rfl)

variable {max : UInt32} {actions : List CpAction}

/-- What stands in front of the answer does not count, and neither does what comes behind it. -/
lemma CountsNaks.does (h : CountsNaks max data) (hdoes : Does ((answer actions packet data).1.map
    transmitted) (answer actions packet data).2 data data') : CountsNaks max data' := by
  obtain ⟨before, after, hother, hdone⟩ := hdoes.done
  have hafter : ∀ effect ∈ after, effect.Other := fun _ h => hother _ (mem_append_right _ h)
  have hbefore : ∀ effect ∈ before, effect.Other := fun _ h => hother _ (mem_append_left _ h)
  have hcount : naksSinceAck data'.done =
      naksSinceAck ((answer actions packet data).1.map transmitted ++ (before ++ data.done)) := by
    rw [hdone, append_assoc, naksSinceAck_other hafter]
  have hfailure := hdoes.counter
  have hzero := naksSinceAck_other hbefore data.done
  have hmax := h.allowed
  have hcounter := h.counter
  have hle := h.le
  refine ⟨hdoes.max.trans hmax, ?_, ?_⟩
  · rw [hcount, hfailure]
    unfold answer
    split_ifs with hsca hscn hfull hreject
    · exact (naksSinceAck_ack packet.identifier packet.data _).symm
    · rw [map_singleton, singleton_append, naksSinceAck_reject, hzero, hcounter]
    · rw [map_singleton, singleton_append, naksSinceAck_reject, hzero, hcounter]
    · rw [map_singleton, singleton_append, naksSinceAck_nak, hzero, ← hcounter]
      have hlt : data.failureCounter.toNat < max.toNat := by
        rw [hmax, ge_iff_le, UInt32.le_iff_toNat_le] at hfull
        omega
      have hbound := max.toNat_lt
      rw [UInt32.toNat_add, UInt32.toNat_one]
      omega
    · exact hcounter.trans hzero.symm
  · rw [hfailure]
    unfold answer
    split_ifs with hsca hscn hfull hreject
    · exact Nat.zero_le _
    · exact hle
    · exact hle
    · rw [hmax, ge_iff_le, UInt32.le_iff_toNat_le] at hfull
      have hbound := max.toNat_lt
      rw [UInt32.toNat_add, UInt32.toNat_one]
      omega
    · exact hle

lemma CountsNaks.same (h : CountsNaks max data) (hmax : data'.maxFailure = data.maxFailure)
    (hcounter : data'.failureCounter = data.failureCounter) (hdone : data'.done = data.done) :
    CountsNaks max data' where
  allowed := hmax.trans h.allowed
  counter := by rw [hcounter, hdone, h.counter]
  le := by rw [hcounter]; exact h.le

lemma CountsNaks.note (h : CountsNaks max data) {effect : Effect} (hother : effect.Other) :
    CountsNaks max (data.note effect) where
  allowed := h.allowed
  counter := h.counter.trans (naksSinceAck_other (forall_mem_singleton.mpr hother) data.done).symm
  le := h.le

lemma CountsNaks.generateEvent (h : CountsNaks max data) (type : PppcpEventType) (packet : PppcpPacket) :
    CountsNaks max (data.generateEvent proto type packet) := by
  cases hentry : cpTransition type data.state with
  | none =>
    unfold PppcpData.generateEvent
    rw [hentry]
    exact h.note fun _ _ => Effect.noConfusion
  | some entry => exact h.does (does_generateEvent hentry packet)

lemma packetEvent_same (proto : PppcpProto π) (packet : PppcpPacket) (data : PppcpData π) :
    (PppcpData.packetEvent proto packet data).2.maxFailure = data.maxFailure ∧
      (PppcpData.packetEvent proto packet data).2.failureCounter = data.failureCounter ∧
        (PppcpData.packetEvent proto packet data).2.done = data.done := by
  have hrequest : (PppcpData.processConfigureRequest proto packet data).2.maxFailure = data.maxFailure ∧
      (PppcpData.processConfigureRequest proto packet data).2.failureCounter = data.failureCounter ∧
        (PppcpData.processConfigureRequest proto packet data).2.done = data.done := by
    unfold PppcpData.processConfigureRequest
    split_ifs
    · exact ⟨rfl, rfl, rfl⟩
    · dsimp only
      cases (proto.rcr data.priv packet).1 <;> exact ⟨rfl, rfl, rfl⟩
  have hnak (rcn : π → PppcpPacket → π × Option (List UInt8)) :
      (PppcpData.processConfigureNak rcn packet data).2.maxFailure = data.maxFailure ∧
        (PppcpData.processConfigureNak rcn packet data).2.failureCounter = data.failureCounter ∧
          (PppcpData.processConfigureNak rcn packet data).2.done = data.done := by
    unfold PppcpData.processConfigureNak
    split_ifs <;> exact ⟨rfl, rfl, rfl⟩
  unfold PppcpData.packetEvent
  split_ifs
  · exact ⟨rfl, rfl, rfl⟩
  · split
    · exact hrequest
    · unfold PppcpData.processConfigureAck
      split_ifs <;> exact ⟨rfl, rfl, rfl⟩
    · exact hnak proto.rcnNak
    · exact hnak proto.rcnRej
    all_goals exact ⟨rfl, rfl, rfl⟩

lemma CountsNaks.processPacket (h : CountsNaks max data) (packet : PppcpPacket) :
    CountsNaks max (data.processPacket proto packet) := by
  obtain ⟨hmax, hcounter, hdone⟩ := packetEvent_same proto packet data
  unfold PppcpData.processPacket
  generalize PppcpData.packetEvent proto packet data = event at hmax hcounter hdone
  obtain ⟨_ | type, d⟩ := event
  · exact h.same hmax hcounter hdone
  · exact (h.same hmax hcounter hdone).generateEvent type packet

lemma CountsNaks.step (h : CountsNaks max data) {input : PppcpInput}
    (hstep : pppcpStep proto data input = some data') : CountsNaks max data' := by
  cases input with
  | packet packet =>
    cases hstep
    exact h.processPacket packet
  | localOptions options =>
    cases hstep
    exact h.same rfl rfl rfl
  | configTimeout =>
    rw [pppcpStep] at hstep
    split_ifs at hstep
    cases hstep
    have hstopped := @CountsNaks.same _ _ { data with configTimerData := data.configTimerData.stop } _ h
      rfl rfl rfl
    exact hstopped.generateEvent _ _
  | terminateTimeout =>
    rw [pppcpStep] at hstep
    split_ifs at hstep
    cases hstep
    have hstopped := @CountsNaks.same _ _ { data with terminateTimerData := data.terminateTimerData.stop } _ h
      rfl rfl rfl
    exact hstopped.generateEvent _ _
  | up =>
    cases hstep
    exact h.generateEvent _ _
  | down =>
    cases hstep
    exact h.generateEvent _ _
  | «open» =>
    cases hstep
    exact h.generateEvent _ _
  | close =>
    cases hstep
    exact h.generateEvent _ _

/-! ## Requests that are accepted -/

lemma rcrPlus_entry {state : PppcpState} (h : state.AnswersRequests) :
    ∃ actions newState, cpTransition .rcrPlus state = some (actions, newState) ∧ CpAction.sca ∈ actions := by
  rcases h with rfl | rfl | rfl | rfl | rfl
  all_goals exact ⟨_, _, rfl, by decide⟩

lemma rcrMinus_entry {state : PppcpState} (h : state.AnswersRequests) :
    ∃ actions newState, cpTransition .rcrMinus state = some (actions, newState) ∧ CpAction.sca ∉ actions := by
  rcases h with rfl | rfl | rfl | rfl | rfl
  all_goals exact ⟨_, _, rfl, by decide⟩

/-- The driver is not asked any more once the counter has reached its maximum. -/
lemma processPacket_acceptable (h : Acceptable proto data packet) :
    data.processPacket proto packet =
      if data.failureCounter ≥ data.maxFailure then data.generateEvent proto .rcrMinus packet
      else PppcpData.generateEvent proto .rcrPlus packet { data with
        priv := (proto.rcr data.priv packet).2.2
        peerOptions := (proto.rcr data.priv packet).2.1.getD data.peerOptions } := by
  have hcode : packet.code.toNat = 1 := by
    rw [h.request]
    rfl
  have haccepted := h.accepted
  unfold PppcpData.processPacket PppcpData.packetEvent PppcpData.processConfigureRequest
  rw [hcode, h.supported]
  simp only [Bool.not_true, Bool.false_eq_true, if_false]
  by_cases hfull : data.failureCounter ≥ data.maxFailure
  · rw [if_pos hfull, if_pos hfull]
    rfl
  · rw [if_neg hfull, if_neg hfull, haccepted]
    rfl

lemma answered_of_sca (hsca : CpAction.sca ∈ actions) (hdoes : Does ((answer actions packet
    data).1.map transmitted) counter data data') : AnsweredWithAck packet data data' := by
  obtain ⟨before, after, -, hdone⟩ := hdoes.done
  rw [answer, if_pos hsca] at hdone
  rw [← append_assoc] at hdone
  refine ⟨_, hdone, (PppcpPacket.mk configureAck packet.identifier packet.data).octets.length, ?_⟩
  exact mem_append_left _ (mem_append_right _ mem_cons_self)

lemma not_answered_of_sca (hsca : CpAction.sca ∉ actions) (hdoes : Does ((answer actions packet
    data).1.map transmitted) counter data data') : ¬ AnsweredWithAck packet data data' := by
  rintro ⟨effects, hdone', infolen, hmem⟩
  obtain ⟨before, after, hother, hdone⟩ := hdoes.done
  rw [hdone', ← append_assoc] at hdone
  obtain rfl := append_cancel_right hdone
  have hnot : ∀ effect ∈ before ++ after, effect ≠
      .transmit ⟨configureAck, packet.identifier, packet.data⟩ infolen := by
    intro effect heffect heq
    exact (hother effect heffect _ _ heq).1 rfl
  rw [mem_append, mem_append] at hmem
  rcases hmem with (hmem | hmem) | hmem
  · exact hnot _ (mem_append_right _ hmem) rfl
  · -- a Nak or a Reject has another code
    rw [answer, if_neg hsca] at hmem
    obtain ⟨reply, hreply, heq⟩ := mem_map.mp hmem
    have hcode : reply.code = configureAck := by
      rw [transmitted, Effect.transmit.injEq] at heq
      rw [heq.1]
    have hreject : configureReject ≠ configureAck := by decide
    have hnak : configureNak ≠ configureAck := by decide
    split_ifs at hreply
    · rw [mem_singleton.mp hreply] at hcode
      exact hreject hcode
    · rw [mem_singleton.mp hreply] at hcode
      exact hreject hcode
    · rw [mem_singleton.mp hreply] at hcode
      exact hnak hcode
    · exact absurd hreply not_mem_nil
  · exact hnot _ (mem_append_left _ hmem) rfl

lemma CountsNaks.acked_iff (h : CountsNaks max data) (hacceptable : Acceptable proto data packet) :
    AnsweredWithAck packet data (data.processPacket proto packet) ↔ naksSinceAck data.done < max.toNat := by
  have hcount : data.failureCounter ≥ data.maxFailure ↔ max.toNat ≤ naksSinceAck data.done := by
    rw [h.allowed, ge_iff_le, UInt32.le_iff_toNat_le, h.counter]
  rw [processPacket_acceptable hacceptable]
  by_cases hfull : data.failureCounter ≥ data.maxFailure
  · obtain ⟨actions, newState, hentry, hsca⟩ := rcrMinus_entry hacceptable.answers
    rw [if_pos hfull]
    refine iff_of_false (not_answered_of_sca hsca (does_generateEvent hentry packet)) ?_
    exact Nat.not_lt.mpr (hcount.mp hfull)
  · obtain ⟨actions, newState, hentry, hsca⟩ := rcrPlus_entry hacceptable.answers
    rw [if_neg hfull]
    refine iff_of_true ?_ (Nat.lt_of_not_le fun hle => hfull (hcount.mpr hle))
    have hdoes := @does_generateEvent π proto { data with
      priv := (proto.rcr data.priv packet).2.2
      peerOptions := (proto.rcr data.priv packet).2.1.getD data.peerOptions } .rcrPlus actions newState hentry packet
    have hack := answered_of_sca hsca hdoes
    exact hack

end Step

/-- In every state of a run: a Configure-Request that the driver accepts is answered with a Configure-Ack just
when fewer than `max_failure` Naks have been sent since the last Ack. -/
theorem acceptable_acked_iff {π : Type} (proto : PppcpProto π) (dormant : Bool)
    (maxFailure : UInt32) (priv : π) (inputs : List PppcpInput) : Machine.Always (pppcpStep proto)
    (fun data => ∀ packet, Acceptable proto data packet → (AnsweredWithAck packet data
    (data.processPacket proto packet) ↔ naksSinceAck data.done < (if maxFailure ≠
    0 then maxFailure else 5).toNat)) (PppcpData.new dormant maxFailure priv) inputs := by
  have hnew : CountsNaks (if maxFailure ≠ 0 then maxFailure else 5) (PppcpData.new dormant maxFailure priv) :=
    ⟨rfl, rfl, Nat.zero_le _⟩
  have hgood (data : PppcpData π) (h : CountsNaks (if maxFailure ≠ 0 then maxFailure else 5) data)
      (packet : PppcpPacket) (hacceptable : Acceptable proto data packet) := h.acked_iff hacceptable
  exact Machine.always_of_invariant hgood (fun _ _ _ h hstep => h.step hstep) hnew inputs

/-- A driver that accepts only a request without options. -/
def pickyProto : PppcpProto Unit :=
  { plainProto with rcr := fun _ packet => (if packet.data = [] then .accept else .nak, none, ()) }

/-- Five requests with an option that the driver does not accept, and then one without. -/
theorem acceptable_rejected : ¬ ∀ (proto : PppcpProto Unit) (dormant : Bool) (maxFailure : UInt32)
    (inputs : List PppcpInput), Machine.Always (pppcpStep proto) (fun data => ∀ packet,
    Acceptable proto data packet → AnsweredWithAck packet data (data.processPacket proto packet))
    (PppcpData.new dormant maxFailure ()) inputs := by
  intro h
  have hrun := h pickyProto false 0 ([.«open», .up] ++ List.replicate 5 (.packet ⟨1, 1, [1, 4, 5, 220]⟩))
  have hfive := ((((hrun.2 _ rfl).2 _ rfl).2 _ rfl).2 _ rfl).2 _ rfl
  have hlast := (hfive.2 _ rfl).2 _ rfl ⟨1, 2, []⟩ ⟨rfl, rfl, .inr (.inl rfl), rfl⟩
  obtain ⟨effects, hdone, infolen, hmem⟩ := hlast
  obtain rfl : [Effect.transmit ⟨configureReject, 2, []⟩ 4] = effects := append_cancel_right hdone
  exact absurd (mem_singleton.mp hmem) (by rw [Effect.transmit.injEq]; rintro ⟨heq, -⟩; cases heq)

end Phonelets.Ppp
