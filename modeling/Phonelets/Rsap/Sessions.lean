import Mathlib.Data.List.Chain
import Phonelets.Rsap.Framing

/-! # Sessions of the SIM servers

A SIM access client connects, asks for the ATR and then sends APDUs, as often as
it likes. Two questions about whole runs: when does `simserver.py` answer
every request with the response of its type, and when do `simserver.py` and
`dbus-service.py` behave alike. Both come from one step by `Machine.run_eq_iff`.
-/

namespace Phonelets.Rsap

/-! ## Requests -/

/-- The requests that the servers answer. -/
inductive RequestKind where
  | connect
  | atr
  | apdu (command : List ℕ)

/-- The message id of a request. -/
def RequestKind.name : RequestKind → MessageName
  | .connect => .connectReq
  | .atr => .transferAtrReq
  | .apdu _ => .transferApduReq

/-- A complete request. An APDU request starts with the command it carries. -/
structure Request where
  kind : RequestKind
  message : Message
  id_eq : message.id = messageName kind.name
  octets : ∀ b ∈ message.encode, b < 256
  command_eq : ∀ command, kind = .apdu command →
    ∃ p ps, message.params = p :: ps ∧ (p.id = 0x04 ∨ p.id = 0x10) ∧ p.value = command

/-- The request as it goes over the wire. -/
def Request.encode (r : Request) : List ℕ := r.message.encode

/-- Every parameter id of the request is in the table of the protocol. -/
def Request.Known (r : Request) : Prop := ∀ p ∈ r.message.params, (parameterID p.id).isSome

instance (r : Request) : Decidable r.Known :=
  inferInstanceAs (Decidable (∀ p ∈ r.message.params, (parameterID p.id).isSome))

lemma Request.messageID_eq (r : Request) : messageID r.message.id = some r.kind.name := by
  rw [r.id_eq]
  exact messageID_messageName _

lemma Request.index_zero (r : Request) : index r.encode 0 = .ok (messageName r.kind.name) := by
  rw [← r.id_eq]
  rfl

variable {r : Request}

lemma Request.printMessage_ok (h : r.Known) : ∃ p, printMessage r.encode = .ok p := by
  rcases printMessage_of_known ⟨by rw [r.messageID_eq]; rfl, h⟩ with ⟨p, hp, -⟩
  exact ⟨p, hp⟩

lemma Request.printMessage_error (h : ¬ r.Known) : printMessage r.encode = .error .keyError :=
  printMessage_of_unknown fun hk => h hk.2

lemma Request.extractApduReq_apdu {command : List ℕ}
    (h : r.kind = .apdu command) : extractApduReq r.encode = .ok (some command) := by
  rcases r.command_eq command h with ⟨p, ps, hps, hp, hval⟩
  have hid : r.message.id = 0x05 := by
    rw [r.id_eq, h]
    rfl
  rw [← hval]
  exact extractApduReq_encode hid hps hp

lemma Request.extractApduReq_other (h : r.kind.name ≠ .transferApduReq) :
    extractApduReq r.encode = .error .nameError :=
  Rsap.extractApduReq_other r.messageID_eq h

variable {s : Server}

lemma Request.accept_run (r : Request) (hs : s.buffer = []) :
    (accept r.encode).run s = .ok (some r.encode) s := by
  have hfeed : Reassembly.feed isMessageComplete s.buffer r.encode = (some r.encode, []) := by
    have hcomplete : isMessageComplete r.encode = true := (exact_encode r.message).accepts
    rw [Reassembly.feed, hs, List.nil_append, if_pos hcomplete]
  have hrun := Rsap.accept_run r.octets s
  rw [← Request.encode, hfeed, ← hs] at hrun
  exact hrun

/-! ## The response that belongs to a request -/

/-- What a SIM access server owes to a request, over the APDUs the card has been
sent so far: the completed connect, the card's ATR, or the card's answer. -/
def respond (card : Card) (sent : List (List ℕ)) (r : Request) :
    Except PyErr (List ℕ) × List (List ℕ) :=
  match r.kind with
  | .connect => (.ok generateStatusInd, sent)
  | .atr => (.ok (generateTransferAtrResp card.atr), sent)
  | .apdu command =>
    (.ok (generateTransferApduResp (card.exchange sent command).1),
      (card.exchange sent command).2)

/-- The step at which the request is expected; `CONNECT_REQ` makes its own. -/
def InStep (currentStep : Fin 3) : RequestKind → Prop
  | .connect => True
  | .atr => currentStep = 1
  | .apdu _ => currentStep = 2

/-- The step after a request that was in step. -/
def stepAfter : RequestKind → Fin 3
  | .connect => 1
  | .atr => 2
  | .apdu _ => 2

lemma statusInd_ne_atrResp (atr : List ℕ) : generateStatusInd ≠ generateTransferAtrResp atr := by
  intro h
  exact absurd (congrArg List.head? h) (by simp [generateStatusInd, generateTransferAtrResp,
    messageName])

lemma statusInd_ne_apduResp (apdu : List ℕ) :
    generateStatusInd ≠ generateTransferApduResp apdu := by
  intro h
  exact absurd (congrArg List.head? h) (by simp [generateStatusInd, generateTransferApduResp,
    messageName])

lemma atrResp_ne_apduResp (atr apdu : List ℕ) :
    generateTransferAtrResp atr ≠ generateTransferApduResp apdu := by
  intro h
  exact absurd (congrArg List.head? h) (by simp [generateTransferAtrResp, generateTransferApduResp,
    messageName])

lemma rejected_false (card : Card) (sent : List (List ℕ)) (apdu : List ℕ) :
    card.rejected (fun _ => false) sent apdu = false := by
  simp [Card.rejected]

/-! ## One request -/

variable {r : Request}

/-- `simserver.py` on a request that arrives at a message boundary. -/
lemma Request.process_run (card : Card) (hr : r.Known) (hs : s.buffer = []) :
    (Simserver.process card r.encode).run s =
      (handleStep card (fun _ => false) r.encode).run
        (if r.kind.name = .connectReq then { s with currentStep := 0 } else s) := by
  rcases r.printMessage_ok hr with ⟨p, hp⟩
  have hname : (messageName r.kind.name = messageName .connectReq) = (r.kind.name = .connectReq) := by
    cases r.kind <;> simp [RequestKind.name, messageName]
  have hrun := Simserver.handle_run card hp r.index_zero s
  simp only [hname] at hrun
  simp only [Simserver.process, EStateM.run_bind, r.accept_run hs]
  exact hrun

lemma Request.step_inStep (card : Card) (hr : r.Known)
    (hs : s.buffer = []) (hstep : InStep s.currentStep r.kind) :
    stepOf (fun r : Request => Simserver.process card r.encode) s r =
      ((respond card s.transmitted r).1,
        ⟨[], stepAfter r.kind, (respond card s.transmitted r).2⟩) := by
  unfold stepOf
  rw [r.process_run card hr hs]
  cases hk : r.kind with
  | connect =>
    simp [RequestKind.name, handleStep, handleConnect_run, reply, after, nextStep, respond, hk,
      stepAfter, hs]
  | atr =>
    have h1 : s.currentStep = 1 := by simpa [hk, InStep] using hstep
    simp [RequestKind.name, handleStep, h1, handleAtr_run, reply, after, nextStep, respond, hk,
      stepAfter, hs]
  | apdu command =>
    have h2 : s.currentStep = 2 := by simpa [hk, InStep] using hstep
    have hrun := handleApdu_run (s := s) (r.extractApduReq_apdu hk)
      (rejected_false card s.transmitted command)
    simp [RequestKind.name, handleStep, h2, hrun, reply, after, nextStep, respond, hk,
      stepAfter, hs]

/-- Out of step it does not: the response is that of the step, or the request is
turned down by `extractAPDU_REQ`. -/
lemma Request.step_outOfStep (card : Card) (hs : s.buffer = []) (h : ¬ (r.Known ∧ InStep
    s.currentStep r.kind)) : (stepOf (fun r : Request => Simserver.process card r.encode) s r).1 ≠
    (respond card s.transmitted r).1 := by
  unfold stepOf
  by_cases hr : r.Known
  · have hstep : ¬ InStep s.currentStep r.kind := fun hin => h ⟨hr, hin⟩
    rw [r.process_run card hr hs]
    cases hk : r.kind with
    | connect =>
      rw [hk] at hstep
      exact absurd trivial hstep
    | atr =>
      rw [hk] at hstep
      -- the response is the one of the step that the server is at
      rw [if_neg (by simp [RequestKind.name])]
      match hcur : s.currentStep with
      | 0 =>
        simpa [handleStep, hcur, handleConnect_run, reply, respond, hk]
          using statusInd_ne_atrResp card.atr
      | 1 => exact absurd hcur hstep
      | 2 =>
        have herr := r.extractApduReq_other (by simp [hk, RequestKind.name])
        simp [handleStep, hcur, handleApdu, herr, reply, respond, hk]
    | apdu command =>
      rw [hk] at hstep
      rw [if_neg (by simp [RequestKind.name])]
      match hcur : s.currentStep with
      | 0 =>
        simpa [handleStep, hcur, handleConnect_run, reply, respond, hk]
          using statusInd_ne_apduResp _
      | 1 =>
        simpa [handleStep, hcur, handleAtr_run, reply, respond, hk]
          using atrResp_ne_apduResp card.atr _
      | 2 => exact absurd hcur hstep
  · -- `printMessage` raises before anything is answered
    have herr := Simserver.handle_run_error card (r.printMessage_error hr) s
    simp only [Simserver.process, EStateM.run_bind, r.accept_run hs, herr, reply, respond]
    split <;> simp

/-! ## Whole runs of `simserver.py` -/

/-- The order in which the step counter expects requests: `TRANSFER_ATR_REQ` right
after a `CONNECT_REQ`, and only APDUs after that until the next `CONNECT_REQ`. -/
def RequestKind.Precedes : RequestKind → RequestKind → Prop
  | _, .connect => True
  | .connect, .atr => True
  | .connect, .apdu _ => False
  | _, .atr => False
  | _, .apdu _ => True

lemma inStep_stepAfter (a b : RequestKind) : InStep (stepAfter a) b ↔ a.Precedes b := by
  cases a <;> cases b <;> simp [InStep, stepAfter, RequestKind.Precedes]

/-- The steps of a run are all in step when the first request is and every other
one follows its predecessor. -/
lemma allSteps_inStep_iff (card : Card) (rs : List Request) : ∀ s : Server, s.buffer = [] →
    (Machine.AllSteps (stepOf fun r : Request => Simserver.process card r.encode)
    (fun s r => r.Known ∧ InStep s.currentStep r.kind) s rs ↔ (∀ r ∈ rs, r.Known) ∧ (∀ r ∈ rs.head?,
    InStep s.currentStep r.kind) ∧ (rs.map Request.kind).IsChain RequestKind.Precedes) := by
  induction rs with
  | nil =>
    intro s _
    simp
  | cons r rs ih =>
    intro s hs
    rw [Machine.allSteps_cons]
    constructor
    · intro ⟨⟨hknown, hstep⟩, hrest⟩
      -- the step that the first request leads to decides about the second
      rw [Request.step_inStep card hknown hs hstep] at hrest
      rcases (ih _ rfl).mp hrest with ⟨hks, hhead, hchain⟩
      refine ⟨by simpa using ⟨hknown, hks⟩, by simpa using hstep, ?_⟩
      cases rs with
      | nil => simp
      | cons r' rs =>
        have hnext := (inStep_stepAfter r.kind r'.kind).mp (hhead r' rfl)
        exact List.isChain_cons_cons.mpr ⟨hnext, hchain⟩
    · intro ⟨hks, hhead, hchain⟩
      have hknown := hks r (by simp)
      have hstep := hhead r rfl
      refine ⟨⟨hknown, hstep⟩, ?_⟩
      rw [Request.step_inStep card hknown hs hstep]
      refine (ih _ rfl).mpr ⟨fun q hq => hks q (by simp [hq]), ?_, ?_⟩
      · intro r' hr'
        rcases List.head?_eq_some_iff.mp hr' with ⟨rs', rfl⟩
        exact (inStep_stepAfter r.kind r'.kind).mpr (List.isChain_cons_cons.mp hchain).1
      · exact hchain.tail

/-- From the first `CONNECT_REQ` on, whatever the server did before, every request
is answered without an exception by the response of its type if and only if the
parameter ids are all known and the requests come in the order of the steps. -/
theorem process_answers_iff (card : Card) (first : Request) (hfirst : first.kind = .connect)
    (rest : List Request) (s : Server) (hs : s.buffer = []) :
    (Machine.run (stepOf fun r : Request => Simserver.process card r.encode) s (first :: rest)).1 =
    (Machine.run (respond card) s.transmitted (first :: rest)).1 ↔ (∀ r ∈ first :: rest, r.Known) ∧
    ((first :: rest).map Request.kind).IsChain RequestKind.Precedes := by
  have hsim := Machine.run_eq_iff (f := stepOf fun r : Request => Simserver.process card r.encode)
    (g := respond card) (R := fun s sent => s.buffer = [] ∧ s.transmitted = sent)
    (P := fun s r => r.Known ∧ InStep s.currentStep r.kind) ?_ ?_ ⟨hs, rfl⟩ (first :: rest)
  · rw [hsim, allSteps_inStep_iff card _ s hs]
    constructor
    · intro ⟨hks, _, hchain⟩
      exact ⟨hks, hchain⟩
    · intro ⟨hks, hchain⟩
      refine ⟨hks, ?_, hchain⟩
      intro r hr
      rw [← Option.some.inj hr, hfirst]
      trivial
  · rintro s _ r ⟨hbuf, rfl⟩ ⟨hknown, hstep⟩
    rw [Request.step_inStep card hknown hbuf hstep]
    exact ⟨rfl, rfl, rfl⟩
  · rintro s _ r ⟨hbuf, rfl⟩ hmiss
    exact Request.step_outOfStep card hbuf hmiss

/-- `CONNECT_REQ` with a `MaxMsgSize` of 256. -/
def connectReq : Request where
  kind := .connect
  message := ⟨0x00, 0, 0, [⟨0x00, 0, [1, 0], [0, 0], rfl⟩]⟩
  id_eq := rfl
  octets := by decide
  command_eq := by
    intro command h
    cases h

/-- `TRANSFER_ATR_REQ`. -/
def atrReq : Request where
  kind := .atr
  message := ⟨0x07, 0, 0, []⟩
  id_eq := rfl
  octets := by decide
  command_eq := by
    intro command h
    cases h

/-- `TRANSFER_APDU_REQ` with a `SELECT` of the master file. -/
def selectReq : Request where
  kind := .apdu [0xA0, 0xA4, 0x00, 0x00, 0x02, 0x3F, 0x00]
  message := ⟨0x05, 0, 0, [⟨0x04, 0, [0xA0, 0xA4, 0x00, 0x00, 0x02, 0x3F, 0x00], [0], rfl⟩]⟩
  id_eq := rfl
  octets := by decide
  command_eq := by
    intro command h
    cases h
    exact ⟨_, _, rfl, .inl rfl, rfl⟩

/-- A card that answers everything with `90 00`. -/
def plainCard : Card := ⟨[0x3B, 0x00], fun _ => ⟨[], 0x90, 0x00⟩⟩

/-- A session with two APDUs, then a second session. -/
theorem process_answers_two_sessions :
    (Machine.run (stepOf fun r : Request => Simserver.process plainCard r.encode) Server.init
    [connectReq, atrReq, selectReq, selectReq, connectReq, atrReq]).1 = (Machine.run
    (respond plainCard) [] [connectReq, atrReq, selectReq, selectReq, connectReq, atrReq]).1 := by
  refine (process_answers_iff plainCard connectReq rfl
    [atrReq, selectReq, selectReq, connectReq, atrReq] Server.init rfl).mpr ⟨?_, ?_⟩
  · intro r hr
    simp only [List.mem_cons, List.not_mem_nil, or_false] at hr
    rcases hr with rfl | rfl | rfl | rfl | rfl | rfl <;> decide
  · simp [connectReq, atrReq, selectReq, RequestKind.Precedes]

/-- A client that asks for the ATR twice gets an exception the second time. -/
theorem process_second_atr : ¬ ∀ (card : Card) (first : Request), first.kind = .connect → ∀ rest :
    List Request, (∀ r ∈ first :: rest, r.Known) →
    (Machine.run (stepOf fun r : Request => Simserver.process card r.encode) Server.init
    (first :: rest)).1 = (Machine.run (respond card) [] (first :: rest)).1 := by
  intro h
  have hknown : ∀ r ∈ [connectReq, atrReq, atrReq], r.Known := by
    intro r hr
    simp only [List.mem_cons, List.not_mem_nil, or_false] at hr
    rcases hr with rfl | rfl | rfl <;> decide
  have hrun := h plainCard connectReq rfl [atrReq, atrReq] hknown
  have hthird : (Machine.run (stepOf fun r : Request => Simserver.process plainCard r.encode)
      Server.init [connectReq, atrReq, atrReq]).1[2]? = some (.error .nameError) := rfl
  rw [hrun] at hthird
  cases hthird

/-! ## The two servers side by side -/

variable {message : List ℕ}

lemma index_of_printMessage {p : Printed} (h : printMessage message = .ok p) :
    ∃ mID, index message 0 = .ok mID := by
  unfold printMessage at h
  cases h0 : index message 0 with
  | error e =>
    rw [h0] at h
    cases h
  | ok mID => exact ⟨mID, rfl⟩

lemma extractApduReq_connectReq (h : index message 0 = .ok (messageName .connectReq)) :
    extractApduReq message = .error .nameError := by
  simp [extractApduReq, h, lookup_ok (messageID_messageName .connectReq), bind, Except.bind, throw,
    throwThe, MonadExceptOf.throw]

/-- What the two servers must not be asked for one to stand in for the other: a new
session while the old one is under way, and an exchange in which the card gives an
answer that the error checking chain of `dbus-service.py` rejects. -/
def Alike (card : Card) (check : Answer → Bool) (s : Server) (message : List ℕ) : Prop :=
  (index message 0 = .ok (messageName .connectReq) → s.currentStep = 0) ∧
  (s.currentStep = 2 → ∀ apdu, extractApduReq message = .ok (some apdu) →
    card.rejected check s.transmitted apdu = false)

/-- The same of a chunk: it completes no message, or one that cannot be printed, or
one that both servers treat alike. -/
def ChunkAlike (card : Card) (check : Answer → Bool) (s : Server) (c : List ℕ) : Prop :=
  ∀ message p, acceptedMessage ((accept c).run s) = some message →
    printMessage message = .ok p → Alike card check s message

variable {card : Card} {check : Answer → Bool} {s : Server}

lemma handleStep_alike (h : s.currentStep = 2 → ∀ apdu, extractApduReq message = .ok (some apdu) →
      card.rejected check s.transmitted apdu = false) :
    (handleStep card (fun _ => false) message).run s = (handleStep card check message).run s := by
  unfold handleStep
  simp only [EStateM.run_bind, EStateM.run_get]
  match hcur : s.currentStep with
  | 0 => rfl
  | 1 => rfl
  | 2 =>
    show (handleApdu card (fun _ => false) message).run s = (handleApdu card check message).run s
    cases hreq : extractApduReq message with
    | error e => simp [handleApdu, hreq]
    | ok request =>
      cases request with
      | none =>
        unfold handleApdu
        rw [hreq]
        rfl
      | some apdu =>
        rw [handleApdu_run hreq (h hcur apdu hreq),
          handleApdu_run hreq (rejected_false card s.transmitted apdu)]

lemma handle_alike (h : ∀ p, printMessage message = .ok p → Alike card check s message) :
    (Simserver.handle card message).run s = (DbusService.handle card check message).run s := by
  cases hp : printMessage message with
  | error e => rw [Simserver.handle_run_error card hp, DbusService.handle_run_error card check hp]
  | ok p =>
    rcases index_of_printMessage hp with ⟨mID, h0⟩
    rcases h p hp with ⟨hconnect, happdu⟩
    rw [Simserver.handle_run card hp h0, DbusService.handle_run card check hp h0]
    by_cases hm : mID = messageName .connectReq
    · -- the restart changes nothing: the counter is at the first step already
      have hzero := hconnect (hm ▸ h0)
      rw [if_pos hm, ← hzero]
      exact handleStep_alike happdu
    · rw [if_neg hm]
      exact handleStep_alike happdu

lemma handle_differ {p : Printed} (hp : printMessage message = .ok p)
    (h : ¬ Alike card check s message) : reply ((Simserver.handle card message).run s) ≠
    reply ((DbusService.handle card check message).run s) := by
  rcases index_of_printMessage hp with ⟨mID, h0⟩
  rw [Simserver.handle_run card hp h0, DbusService.handle_run card check hp h0]
  by_cases hm : mID = messageName .connectReq
  · -- `simserver.py` restarts, `dbus-service.py` goes on with the old session
    rw [if_pos hm]
    subst hm
    have hsim : reply ((handleStep card (fun _ => false) message).run
        { s with currentStep := 0 }) = .ok generateStatusInd := rfl
    rw [hsim]
    match hcur : s.currentStep with
    | 0 =>
      refine absurd ⟨fun _ => hcur, fun h2 => ?_⟩ h
      exact absurd (hcur.symm.trans h2) (by decide)
    | 1 =>
      simpa [handleStep, hcur, handleAtr_run, reply] using statusInd_ne_atrResp card.atr
    | 2 =>
      simp [handleStep, hcur, handleApdu, extractApduReq_connectReq h0, reply]
  · rw [if_neg hm]
    unfold Alike at h
    have hapdu : ¬ (s.currentStep = 2 → ∀ apdu, extractApduReq message = .ok (some apdu) →
        card.rejected check s.transmitted apdu = false) := by
      intro happdu
      refine h ⟨fun hconnect => ?_, happdu⟩
      rw [h0] at hconnect
      exact absurd (Except.ok.inj hconnect) hm
    push Not at hapdu
    rcases hapdu with ⟨hcur, apdu, hreq, hrej⟩
    have hdbus := handleApdu_run_rejected (s := s) hreq (by simpa using hrej)
    have hsim := handleApdu_run (s := s) hreq (rejected_false card s.transmitted apdu)
    simp only [handleStep, EStateM.run_bind, EStateM.run_get, hcur]
    rw [hsim, hdbus]
    intro heq
    cases heq

lemma accept_cases (c : List ℕ) (s : Server) : (∃ e, (accept c).run s = .error e s) ∨ ∃ message
    buffer, (accept c).run s = .ok message { s with buffer := buffer } := by
  by_cases hc : ∀ b ∈ c, b < 256
  · exact .inr ⟨_, _, accept_run hc s⟩
  · exact .inl ⟨_, accept_run_error hc s⟩

lemma process_alike {c : List ℕ} (h : ChunkAlike card check s c) :
    (Simserver.process card c).run s = (DbusService.process card check c).run s := by
  unfold Simserver.process DbusService.process
  rw [EStateM.run_bind, EStateM.run_bind]
  rcases accept_cases c s with ⟨e, hrun⟩ | ⟨message, buffer, hrun⟩
  · rw [hrun]
  · rw [hrun]
    cases message with
    | none => rfl
    | some message =>
      refine handle_alike fun p hp => ?_
      exact h message p (by rw [hrun]; rfl) hp

lemma process_differ {c : List ℕ} (h : ¬ ChunkAlike card check s c) :
    reply ((Simserver.process card c).run s) ≠ reply ((DbusService.process card check c).run s) := by
  unfold ChunkAlike at h
  push Not at h
  rcases h with ⟨message, p, hmessage, hp, hmiss⟩
  unfold Simserver.process DbusService.process
  rw [EStateM.run_bind, EStateM.run_bind]
  rcases accept_cases c s with ⟨e, hrun⟩ | ⟨accepted, buffer, hrun⟩
  · rw [hrun] at hmessage
    cases hmessage
  · rw [hrun] at hmessage ⊢
    simp only [acceptedMessage] at hmessage
    subst hmessage
    exact handle_differ (s := { s with buffer := buffer }) hp hmiss

/-- The two servers reply alike to every chunk, send the same APDUs to the card and
end in the same step if and only if no printable message they complete restarts a
session under way or makes the card give an answer that is rejected. -/
theorem servers_agree_iff (card : Card) (check : Answer → Bool) (chunks : List (List ℕ))
    (s : Server) :
    let sim := Machine.run (stepOf (Simserver.process card)) s chunks
    let dbus := Machine.run (stepOf (DbusService.process card check)) s chunks
    (sim.1 = dbus.1 ∧ sim.2.transmitted = dbus.2.transmitted ∧
        sim.2.currentStep = dbus.2.currentStep) ↔
      Machine.AllSteps (stepOf (Simserver.process card)) (ChunkAlike card check) s chunks := by
  intro sim dbus
  have hsim : ∀ s t c, s = t → ChunkAlike card check s c →
      (stepOf (Simserver.process card) s c).1 = (stepOf (DbusService.process card check) t c).1 ∧
      (stepOf (Simserver.process card) s c).2 = (stepOf (DbusService.process card check) t c).2 := by
    rintro s _ c rfl h
    unfold stepOf
    rw [process_alike h]
    exact ⟨rfl, rfl⟩
  have hdiff : ∀ s t c, s = t → ¬ ChunkAlike card check s c →
      (stepOf (Simserver.process card) s c).1 ≠ (stepOf (DbusService.process card check) t c).1 := by
    rintro s _ c rfl h
    exact process_differ h
  constructor
  · intro ⟨hreplies, _, _⟩
    exact (Machine.run_eq_iff hsim hdiff rfl chunks).mp hreplies
  · intro hall
    rcases Machine.run_simulation hsim rfl hall with ⟨hreplies, hend⟩
    exact ⟨hreplies, by rw [hend], by rw [hend]⟩

/-- Two sessions are enough to tell the servers apart. -/
theorem servers_differ_on_second_session :
    ¬ ∀ (card : Card) (check : Answer → Bool) (rs : List Request),
      (Machine.run (stepOf (Simserver.process card)) Server.init (rs.map Request.encode)).1 =
        (Machine.run (stepOf (DbusService.process card check)) Server.init
          (rs.map Request.encode)).1 := by
  intro h
  have hrun := h plainCard (fun _ => false) [connectReq, atrReq, selectReq, connectReq]
  have hsim : (Machine.run (stepOf (Simserver.process plainCard)) Server.init
      ([connectReq, atrReq, selectReq, connectReq].map Request.encode)).1[3]? =
        some (.ok generateStatusInd) := rfl
  have hdbus : (Machine.run (stepOf (DbusService.process plainCard fun _ => false)) Server.init
      ([connectReq, atrReq, selectReq, connectReq].map Request.encode)).1[3]? =
        some (.error .nameError) := rfl
  rw [hrun, hdbus] at hsim
  cases hsim

end Phonelets.Rsap
