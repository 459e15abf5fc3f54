import Mathlib.Algebra.Order.Ring.Nat
import Phonelets.Lib.Machine
import Phonelets.Rsap.Builder

/-! # The two SIM servers

`Server.process` of `simserver.py` and of `dbus-service.py` over one state: the
buffer of octets not yet handled, the step of the protocol, and the APDUs the
card has been sent. The two share everything up to the complete message; after
that `simserver.py` restarts on a `CONNECT_REQ` and `dbus-service.py` checks the
status words of every answer.
-/

namespace Phonelets.Rsap

/-- What `transmit` returns: `resp, sw1, sw2`. -/
structure Answer where
  resp : List ℕ
  sw1 : ℕ
  sw2 : ℕ

/-- `resp + [sw1, sw2]`. -/
def Answer.octets (a : Answer) : List ℕ := a.resp ++ [a.sw1, a.sw2]

/-- The smart card behind `cardservice.connection`: its ATR, and its answer to
the last of the APDUs it has been sent so far. -/
structure Card where
  atr : List ℕ
  answer : List (List ℕ) → Answer

/-- There is a first one among the three steps. -/
instance stepsNeZero : NeZero 3 := ⟨by decide⟩

/-- `Server`: `self.buffer`, the step counter of `self.rsap`, an index into its
three `steps`, and what went to the card. -/
structure Server where
  buffer : List ℕ
  currentStep : Fin 3
  transmitted : List (List ℕ)

/-- The state after `__init__`. -/
def Server.init : Server := ⟨[], 0, []⟩

/-- A Python method of `Server`: an exception leaves the state as it is then. -/
abbrev Py := EStateM PyErr Server

/-- A call that may raise but does not touch the server. -/
def call {α : Type} (x : Except PyErr α) : Py α :=
  match x with
  | .ok a => pure a
  | .error e => throw e

/-- `list(bytearray(inCommand))`. -/
def bytearray (inCommand : List ℕ) : Except PyErr (List ℕ) :=
  if inCommand.all (· < 256) then .ok inCommand else .error .valueError

/-- `self.steps`, the commands expected at each step. -/
def steps : Fin 3 → List ℕ
  | 0 => [messageName .connectReq]
  | 1 => [messageName .transferAtrReq]
  | 2 => [messageName .transferApduReq]

/-- `expectedCommand`; `process` only prints a line when it fails. -/
def expectedCommand (currentStep : Fin 3) (message : List ℕ) : Except PyErr Bool := do
  let mID ← index message 0
  return (steps currentStep).contains mID

/-- The step after `currentStep`; the last one stays. -/
def nextStep : Fin 3 → Fin 3
  | 0 => 1
  | 1 => 2
  | 2 => 2

def advanceStep : Py Unit :=
  modify fun s => { s with currentStep := nextStep s.currentStep }

/-- The first part of `process`, the same in both servers: the message in the
buffer if it is complete. The whole buffer is taken as the message. -/
def accept (inCommand : List ℕ) : Py (Option (List ℕ)) := do
  let inMessage ← call (bytearray inCommand)
  modify fun s => { s with buffer := s.buffer ++ inMessage }
  if !isMessageComplete (← get).buffer then
    return none
  let message := (← get).buffer
  modify fun s => { s with buffer := [] }
  return some message

/-- `self.cardservice.connection.transmit`. `check` tells which answers the error
checking chain set on the connection turns into an exception; the card has seen
the APDU by then. Python's `None` is no APDU. -/
def transmit (card : Card) (check : Answer → Bool) (apdu : Option (List ℕ)) : Py Answer := do
  match apdu with
  | none => throw .typeError
  | some bytes =>
    modify fun s => { s with transmitted := s.transmitted ++ [bytes] }
    let answer := card.answer (← get).transmitted
    if check answer then
      throw .swException
    return answer

/-- `[0x00, 0xC0, 0x00, 0x00, sw2]`, a `GET RESPONSE`. -/
def getResponse (sw2 : ℕ) : List ℕ := [0x00, 0xC0, 0x00, 0x00, sw2]

/-- Step 0 of `process`. -/
def handleConnect : Py (List ℕ) := do
  let response1 := generateConnectResp
  let _ ← call (printMessage response1)
  let response2 := generateStatusInd
  let _ ← call (printMessage response2)
  advanceStep
  return response2

/-- Step 1 of `process`. -/
def handleAtr (card : Card) : Py (List ℕ) := do
  let response := generateTransferAtrResp card.atr
  let _ ← call (printMessage response)
  advanceStep
  return response

/-- Step 2 of `process`; `61 xx` makes the server fetch the response itself. -/
def handleApdu (card : Card) (check : Answer → Bool) (message : List ℕ) : Py (List ℕ) := do
  let apduRequest ← call (extractApduReq message)
  let answer ← transmit card check apduRequest
  let mut apduResponse := answer.octets
  if answer.sw1 = 0x61 then
    let answer ← transmit card check (some (getResponse answer.sw2))
    apduResponse := answer.octets
  let response := generateTransferApduResp apduResponse
  let _ ← call (printMessage response)
  advanceStep
  return response

/-- The three steps, chosen by the counter. -/
def handleStep (card : Card) (check : Answer → Bool) (message : List ℕ) :
    Py (List ℕ) := do
  match (← get).currentStep with
  | 0 => handleConnect
  | 1 => handleAtr card
  | 2 => handleApdu card check message

namespace Simserver

/-- The second part of `process` in `simserver.py`, on a complete message. No
error checking chain is set on the connection. -/
def handle (card : Card) (message : List ℕ) : Py (List ℕ) := do
  let _ ← call (printMessage message)
  let _ ← call (expectedCommand (← get).currentStep message)
  if (← call (index message 0)) = messageName .connectReq then
    modify fun s => { s with currentStep := 0 }
  handleStep card (fun _ => false) message

/-- `Server.process` of `simserver.py`. -/
def process (card : Card) (inCommand : List ℕ) : Py (List ℕ) := do
  match ← accept inCommand with
  | none => return []
  | some message => handle card message

end Simserver

namespace DbusService

/-- The second part of `process` in `dbus-service.py`, on a complete message;
`check` stands for the ISO 7816 error checking chain. -/
def handle (card : Card) (check : Answer → Bool) (message : List ℕ) :
    Py (List ℕ) := do
  let _ ← call (printMessage message)
  let _ ← call (expectedCommand (← get).currentStep message)
  handleStep card check message

/-- `Server.process` of `dbus-service.py`. -/
def process (card : Card) (check : Answer → Bool) (inCommand : List ℕ) :
    Py (List ℕ) := do
  match ← accept inCommand with
  | none => return []
  | some message => handle card check message

end DbusService

/-! ## Runs -/

/-- What the caller of a method sees: the value returned or the exception. -/
def reply {α : Type} : EStateM.Result PyErr Server α → Except PyErr α
  | .ok a _ => .ok a
  | .error e _ => .error e

/-- The server after a call, also after one that raised. -/
def after {α : Type} : EStateM.Result PyErr Server α → Server
  | .ok _ s => s
  | .error _ s => s

/-- A method as a machine: one call, the reply and the server after it. -/
def stepOf {ι α : Type} (method : ι → Py α) (s : Server) (i : ι) : Except PyErr α × Server :=
  (reply ((method i).run s), after ((method i).run s))

/-! ## What each part of `process` does -/

variable {α : Type}

@[simp] lemma run_call_ok (a : α) (s : Server) : (call (.ok a)).run s = .ok a s := rfl

@[simp] lemma run_call_error (e : PyErr) (s : Server) :
    (call (.error e : Except PyErr α)).run s = .error e s := rfl

variable {β : Type}

@[simp] lemma run_map (f : α → β) (x : Py α) (s : Server) : (f <$> x).run s = match x.run s with
      | .ok a s' => .ok (f a) s'
      | .error e s' => .error e s' := by
  show EStateM.map f x s = _
  simp only [EStateM.map, EStateM.run]
  cases x s <;> rfl

/-! ### Frames -/

/-- The method leaves what `f` reads of the server as it is, also when it raises. -/
def Keeps {α β : Type} (f : Server → β) (x : Py α) : Prop :=
  ∀ s, f (after (x.run s)) = f s

lemma Keeps.call (f : Server → β) (x : Except PyErr α) : Keeps f (call x) := by
  intro s
  cases x <;> rfl

lemma Keeps.pure (f : Server → β) (a : α) : Keeps f (pure a : Py α) := by
  intro s
  rfl

lemma Keeps.throw (f : Server → β) (e : PyErr) : Keeps f (throw e : Py α) := by
  intro s
  rfl

lemma Keeps.modify {f : Server → β} {g : Server → Server} (h : ∀ s, f (g s) = f s) :
    Keeps f (modify g : Py PUnit) := by
  intro s
  exact h s

lemma Keeps.bind {γ : Type} {f : Server → β} {x : Py α} {k : α → Py γ}
    (hx : Keeps f x) (hk : ∀ a, Keeps f (k a)) : Keeps f (x >>= k) := by
  intro s
  have hs := hx s
  rw [EStateM.run_bind]
  cases hrun : x.run s with
  | ok a s' =>
    rw [hrun] at hs
    exact (hk a s').trans hs
  | error e s' =>
    rw [hrun] at hs
    exact hs

lemma Keeps.get {f : Server → β} {k : Server → Py α} (hk : ∀ a, Keeps f (k a)) :
    Keeps f (MonadState.get >>= k) := by
  intro s
  exact hk s s

variable {c : List ℕ}

lemma bytearray_ok (h : ∀ b ∈ c, b < 256) : bytearray c = .ok c := by
  simpa [bytearray] using h

lemma bytearray_error (h : ¬ ∀ b ∈ c, b < 256) : bytearray c = .error .valueError := by
  have hall : (c.all (· < 256)) = false := by simpa using h
  simp [bytearray, hall]

lemma accept_run (h : ∀ b ∈ c, b < 256) (s : Server) :
    (accept c).run s = .ok (Reassembly.feed isMessageComplete s.buffer c).1
      { s with buffer := (Reassembly.feed isMessageComplete s.buffer c).2 } := by
  cases hc : isMessageComplete (s.buffer ++ c) with
  | true => simp [accept, bytearray_ok h, Reassembly.feed, hc]
  | false => simp [accept, bytearray_ok h, Reassembly.feed, hc]

lemma accept_run_error (h : ¬ ∀ b ∈ c, b < 256) (s : Server) :
    (accept c).run s = .error .valueError s := by
  simp [accept, bytearray_error h]

lemma handleConnect_run (s : Server) :
    handleConnect.run s =
      .ok generateStatusInd { s with currentStep := nextStep s.currentStep } := rfl

lemma handleAtr_run (card : Card) (s : Server) : (handleAtr card).run s = .ok
    (generateTransferAtrResp card.atr) { s with currentStep := nextStep s.currentStep } := by
  rcases printMessage_generateTransferAtrResp card.atr with ⟨r, hr⟩
  simp [handleAtr, hr, advanceStep]

lemma transmit_keeps_buffer (card : Card) (check : Answer → Bool) (apdu : Option (List ℕ)) :
    Keeps Server.buffer (transmit card check apdu) := by
  cases apdu with
  | none => exact Keeps.throw _ _
  | some bytes =>
    unfold transmit
    refine Keeps.bind (Keeps.modify ?_) ?_
    · intro s
      rfl
    intro _
    apply Keeps.get
    intro s
    dsimp only
    split
    · exact Keeps.bind (Keeps.throw _ _) fun _ => Keeps.pure _ _
    · exact Keeps.pure _ _

lemma handleStep_keeps_buffer (card : Card) (check : Answer → Bool) (message : List ℕ) :
    Keeps Server.buffer (handleStep card check message) := by
  apply Keeps.get
  intro s
  split
  · intro s
    rw [handleConnect_run]
    rfl
  · intro s
    rw [handleAtr_run]
    rfl
  · apply Keeps.bind (Keeps.call _ _)
    intro apduRequest
    apply Keeps.bind (transmit_keeps_buffer card check apduRequest)
    intro answer
    have hsend : ∀ response, Keeps Server.buffer (do
        let _ ← call (printMessage response)
        advanceStep
        return response : Py (List ℕ)) := by
      intro response
      exact Keeps.bind (Keeps.call _ _) fun _ =>
        Keeps.bind (Keeps.modify fun _ => rfl) fun _ => Keeps.pure _ _
    dsimp only
    split
    · apply Keeps.bind (transmit_keeps_buffer card check _)
      intro answer'
      exact hsend _
    · exact hsend _

/-- The answer to one APDU as the server passes it on, and everything sent to the
card by then: after `61 xx` it is the answer to `GET RESPONSE`. -/
def Card.exchange (card : Card) (sent : List (List ℕ)) (apdu : List ℕ) :
    List ℕ × List (List ℕ) :=
  let sent := sent ++ [apdu]
  let first := card.answer sent
  if first.sw1 = 0x61 then
    let sent := sent ++ [getResponse first.sw2]
    ((card.answer sent).octets, sent)
  else (first.octets, sent)

/-- The error checking chain objects to an answer in that exchange. -/
def Card.rejected (card : Card) (check : Answer → Bool) (sent : List (List ℕ))
    (apdu : List ℕ) : Bool :=
  let sent := sent ++ [apdu]
  let first := card.answer sent
  check first || (first.sw1 = 0x61 && check (card.answer (sent ++ [getResponse first.sw2])))

lemma transmit_run (card : Card) (check : Answer → Bool) (apdu : List ℕ) (s : Server) (h : check
    (card.answer (s.transmitted ++ [apdu])) = false) : (transmit card check (some apdu)).run s = .ok
    (card.answer (s.transmitted ++ [apdu])) { s with transmitted := s.transmitted ++ [apdu] } := by
  simp [transmit, h]

lemma transmit_run_rejected (card : Card) (check : Answer → Bool) (apdu : List ℕ) (s : Server) (h
    : check (card.answer (s.transmitted ++ [apdu])) = true) : (transmit card check (some apdu)).run
    s = .error .swException { s with transmitted := s.transmitted ++ [apdu] } := by
  simp [transmit, h]

variable {message : List ℕ}

lemma handleApdu_run {card : Card} {check : Answer → Bool} {apdu : List ℕ}
    {s : Server} (hmsg : extractApduReq message = .ok (some apdu))
    (hok : card.rejected check s.transmitted apdu = false) :
    (handleApdu card check message).run s =
      .ok (generateTransferApduResp (card.exchange s.transmitted apdu).1)
        { s with
          transmitted := (card.exchange s.transmitted apdu).2
          currentStep := nextStep s.currentStep } := by
  simp only [Card.rejected, Bool.or_eq_false_iff] at hok
  have hsend := transmit_run card check apdu s hok.1
  by_cases h61 : (card.answer (s.transmitted ++ [apdu])).sw1 = 0x61
  · -- the response is fetched with a second APDU
    have hget := transmit_run card check
      (getResponse (card.answer (s.transmitted ++ [apdu])).sw2)
      { s with transmitted := s.transmitted ++ [apdu] } (by simpa [h61] using hok.2)
    rcases printMessage_generateTransferApduResp (card.exchange s.transmitted apdu).1 with ⟨r, hr⟩
    simp only [Card.exchange, h61, if_true, List.append_assoc, List.cons_append,
      List.nil_append] at hr
    simp [handleApdu, hmsg, hsend, h61, hget, hr, advanceStep, Card.exchange]
  · rcases printMessage_generateTransferApduResp (card.exchange s.transmitted apdu).1 with ⟨r, hr⟩
    simp only [Card.exchange, h61, if_false] at hr
    simp [handleApdu, hmsg, hsend, h61, hr, advanceStep, Card.exchange]

/-- A rejected answer leaves `process` as an exception. -/
lemma handleApdu_run_rejected {card : Card} {check : Answer → Bool} {apdu : List ℕ} {s : Server}
    (hmsg : extractApduReq message = .ok (some apdu)) (hrej : card.rejected check s.transmitted
    apdu = true) : reply ((handleApdu card check message).run s) = .error .swException := by
  cases hfirst : check (card.answer (s.transmitted ++ [apdu])) with
  | true =>
    have hsend := transmit_run_rejected card check apdu s hfirst
    simp [handleApdu, hmsg, hsend, reply]
  | false =>
    have hsend := transmit_run card check apdu s hfirst
    simp only [Card.rejected, hfirst, Bool.false_or, Bool.and_eq_true, decide_eq_true_eq] at hrej
    rcases hrej with ⟨h61, hsecond⟩
    have hget := transmit_run_rejected card check
      (getResponse (card.answer (s.transmitted ++ [apdu])).sw2)
      { s with transmitted := s.transmitted ++ [apdu] } hsecond
    simp [handleApdu, hmsg, hsend, h61, hget, reply]

/-! ### A complete message in either server -/

variable {mID : ℕ}

lemma expectedCommand_ok (h0 : index message 0 = .ok mID) (currentStep : Fin 3) :
    expectedCommand currentStep message = .ok ((steps currentStep).contains mID) := by
  simp [expectedCommand, h0, bind, Except.bind, pure, Except.pure]

variable {message : List ℕ}

lemma Simserver.handle_run (card : Card) {p : Printed}
    (hp : printMessage message = .ok p) (h0 : index message 0 = .ok mID) (s : Server) :
    (Simserver.handle card message).run s =
      (handleStep card (fun _ => false) message).run
        (if mID = messageName .connectReq then { s with currentStep := 0 } else s) := by
  unfold Simserver.handle
  by_cases hconnect : mID = messageName .connectReq
  · simp [hp, h0, expectedCommand_ok h0, hconnect]
  · simp [hp, h0, expectedCommand_ok h0, hconnect]

lemma DbusService.handle_run (card : Card) (check : Answer → Bool) {p : Printed}
    (hp : printMessage message = .ok p) (h0 : index message 0 = .ok mID) (s : Server) :
    (DbusService.handle card check message).run s = (handleStep card check message).run s := by
  simp [DbusService.handle, hp, expectedCommand_ok h0]

lemma Simserver.handle_run_error (card : Card) {e : PyErr} (hp : printMessage message = .error e)
    (s : Server) : (Simserver.handle card message).run s = .error e s := by
  simp [Simserver.handle, hp]

lemma DbusService.handle_run_error (card : Card) (check : Answer → Bool)
    {e : PyErr} (hp : printMessage message = .error e) (s : Server) :
    (DbusService.handle card check message).run s = .error e s := by
  simp [DbusService.handle, hp]

end Phonelets.Rsap
