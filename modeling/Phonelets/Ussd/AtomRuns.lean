import Phonelets.Lib.Requests
import Phonelets.Ussd.Atom

/-! # Runs of the USSD atom

A session is answered by the network, and the driver only tells that it has been started. The
atom takes a driver's success for the start of a session also where the session is over, and a
question of the network for the answer to a message also where there is only a request of another
atom. `OfonoUssd.Sound` says which inputs find the atom in a state in which that is right.
-/

namespace Phonelets.Ussd

open List Option
open Sms (GConvert)

namespace OfonoUssd

/-! ## What is promised -/

/-- The atom expects an answer of the network. -/
def Active (s : OfonoUssd) : Prop := s.state = .active ∨ s.state = .responseSent

/-- The driver is asked to send the string of a message. -/
def Asked (s : OfonoUssd) : Prop := .initiate ∈ s.calls ∨ .respond ∈ s.calls

/-- Every message is answered once, taken by a service, or waits; so it is with the callbacks of
the requests of other atoms. -/
structure Once (s : OfonoUssd) : Prop where
  messages : Requests.Accounted (s.sent.map Prod.fst ++ s.taken)
    (s.pending.toList ++ s.cancel.toList) s.received
  requests : Requests.Accounted (s.called.map Prod.fst ++ s.cancelled) s.callee.toList s.initiated

/-- Something is waiting wherever an answer is expected, and what waits is waiting for the network
or for the driver. -/
structure Expecting (s : OfonoUssd) : Prop where
  expected : s.Active → s.pending ≠ none ∨ s.req ≠ none
  pending : s.pending ≠ none → s.Active ∨ s.Asked
  req : s.req ≠ none → s.Active ∨ .request ∈ s.calls
  cancel : s.cancel ≠ none → .cancel ∈ s.calls

/-- What holds after every input. -/
structure Good (s : OfonoUssd) : Prop extends Once s, Expecting s

/-! ## What the inputs have to meet -/

/-- What a reply of the driver has to meet. A success comes while something waits, and the error
of a call comes before the session that the call was for, or while the other party waits as
well. -/
def ReplySound (s : OfonoUssd) (purpose : UssdCall) (error : Bool) : Prop :=
  match purpose, error with
  | .cancel, _ => True
  | _, false => s.pending ≠ none ∨ s.req ≠ none
  | .request, true => s.Active → s.pending ≠ none
  | _, true => s.Active → s.req ≠ none

/-- The status leaves the session to the state. -/
def continues : UssdStatus → Bool
  | .terminated | .timedOut | .notSupported => false
  | _ => true

/-- What a notification has to meet. Where it finishes the request of another atom, the string of
a message that waits is still at the driver; where it answers a message there is one, and the
request of another atom that waits is still at the driver. -/
def NotifySound (s : OfonoUssd) (status : UssdStatus) : Prop :=
  if s.req ≠ none ∧ finishesRequest status = true then s.pending ≠ none → s.Asked
  else
    continues status = true → s.Active →
      s.pending ≠ none ∧ (s.req ≠ none → .request ∈ s.calls)

/-- What an input has to meet. -/
def Sound (s : OfonoUssd) : UssdInput → Prop
  | .reply i error => ∀ purpose, s.calls[i]? = some purpose → ReplySound s purpose error
  | .notify status _ _ => NotifySound s status
  | _ => True

/-! ## The invariant -/

/-- What every input preserves that does not fail; there is one call of `cancel` for a message in
`cancel`. -/
structure Kept (s : OfonoUssd) : Prop extends Once s where
  cancels : s.calls.count .cancel = s.cancel.toList.length

/-! ## What is kept by every input -/

section Messages

variable {d : UssdDriver} {s : OfonoUssd} {msg : ℕ}

lemma Kept.answer (h : Kept s) (reply : UssdReply) : Kept (s.receive.answer s.received reply) := by
  constructor
  · constructor
    · show Requests.Accounted ((s.sent ++ [(s.received, reply)]).map Prod.fst ++ s.taken) _ _
      rw [map_append]
      exact h.messages.answerNew.reorder (Requests.perm_append_middle _ _ _)
    · exact h.requests
  · exact h.cancels

lemma Kept.take (h : Kept s) : Kept { s.receive with taken := s.taken ++ [s.received] } := by
  constructor
  · constructor
    · show Requests.Accounted (_ ++ (_ ++ _)) _ _
      rw [← append_assoc]
      exact h.messages.answerNew
    · exact h.requests
  · exact h.cancels

/-- A message that is received and waits in `pending`. -/
lemma Kept.wait (h : Kept s) (hidle : s.pending = none) {purpose : UssdCall} (hpurpose : purpose ≠
    .cancel) : Kept (call { s.receive with pending := some s.received } purpose) := by
  constructor
  · constructor
    · have hmessages := h.messages
      rw [hidle] at hmessages
      exact hmessages.receive
    · exact h.requests
  · show (s.calls ++ [purpose]).count .cancel = _
    rw [count_append, count_singleton, if_neg (fun hbeq => hpurpose (eq_of_beq hbeq))]
    exact h.cancels

lemma Kept.ussdInitiate (h : Kept s) (str : Option (List UInt8)) (control : Option ControlString)
    (callInProgress : Bool) :
    Kept (ussdInitiate d s.receive s.received str control callInProgress) := by
  unfold OfonoUssd.ussdInitiate
  split
  · exact h.answer _
  · next hbusy =>
      have hidle : s.pending = none := by
        cases hpending : s.pending with
        | none => rfl
        | some msg => exact absurd (by simp [isBusy, receive, hpending]) hbusy
      split
      · exact h.answer _
      · exact h.answer _
      · split
        · exact h.take
        · exact h.answer _
        · split
          · exact h.answer _
          · split
            · exact h.answer _
            · split
              · exact h.answer _
              · exact h.wait hidle (by intro hcancel; cases hcancel)

lemma Kept.ussdRespond (h : Kept s) (str : Option (List UInt8)) :
    Kept (ussdRespond d s.receive s.received str) := by
  unfold OfonoUssd.ussdRespond
  split
  · exact h.answer _
  · next hpending =>
      split
      · exact h.answer _
      · split
        · exact h.answer _
        · exact h.answer _
        · split
          · exact h.answer _
          · split
            · exact h.answer _
            · exact h.wait (not_not.mp hpending) (by intro hcancel; cases hcancel)

lemma Kept.ussdCancel (h : Kept s) : Kept (ussdCancel d s.receive s.received) := by
  unfold OfonoUssd.ussdCancel
  split
  · exact h.answer _
  · split
    · exact h.answer _
    · split
      · exact h.answer _
      · next hcancel =>
          have hnone : s.cancel = none := not_not.mp hcancel
          split
          · exact h.answer _
          · constructor
            · constructor
              · have hmessages := h.messages
                rw [hnone, toList_none, append_nil] at hmessages
                apply hmessages.receive.perm
                exact (perm_append_singleton _ _).symm
              · exact h.requests
            · show (s.calls ++ [UssdCall.cancel]).count .cancel = 1
              rw [count_append, h.cancels, hnone]
              rfl

end Messages

section Others

variable {d : UssdDriver} {g : GConvert} {s : OfonoUssd}

lemma Kept.initiate (h : Kept s) : Kept (initiate d s) := by
  unfold OfonoUssd.initiate
  split
  · exact h
  · next hbusy =>
      have hidle : s.req = none := by
        cases hreq : s.req with
        | none => rfl
        | some req => exact absurd (.inr (by simp [isBusy, hreq])) hbusy
      constructor
      · constructor
        · exact h.messages
        · have hrequests := h.requests
          rw [callee, hidle] at hrequests
          exact hrequests.receive
      · show (s.calls ++ [UssdCall.request]).count .cancel = _
        rw [count_append, h.cancels]
        rfl

lemma Once.pendingReply (h : Once s) (reply : UssdReply) : Once (pendingReply s reply) := by
  constructor
  · show Requests.Accounted ((s.sent ++ s.pending.toList.map _).map Prod.fst ++ s.taken)
      ([] ++ s.cancel.toList) _
    rw [map_append, List.map_map]
    show Requests.Accounted (_ ++ s.pending.toList.map id ++ _) _ _
    rw [List.map_id]
    exact h.messages.answerAll.reorder (Requests.perm_append_middle _ _ _)
  · exact h.requests

lemma Once.cancelReply (h : Once s) (reply : UssdReply) : Once (cancelReply s reply) := by
  constructor
  · show Requests.Accounted ((s.sent ++ s.cancel.toList.map _).map Prod.fst ++ s.taken)
      (s.pending.toList ++ []) _
    rw [map_append, List.map_map, append_nil]
    show Requests.Accounted (_ ++ s.cancel.toList.map id ++ _) _ _
    rw [List.map_id]
    have hmessages := h.messages.perm perm_append_comm
    exact hmessages.answerAll.reorder (Requests.perm_append_middle _ _ _)
  · exact h.requests

lemma Once.requestFinish (h : Once s) (result : UssdResult) : Once (requestFinish s result) := by
  constructor
  · exact h.messages
  · have hrequests := h.requests
    rw [← append_nil s.callee.toList] at hrequests
    show Requests.Accounted ((s.called ++ s.callee.toList.map _).map Prod.fst ++ s.cancelled) [] _
    rw [map_append, List.map_map]
    show Requests.Accounted (_ ++ s.callee.toList.map id ++ _) _ _
    rw [List.map_id]
    exact hrequests.answerAll.reorder (Requests.perm_append_middle _ _ _)

lemma Once.setState (h : Once s) (state : UssdState) : Once { s with state := state } :=
  ⟨h.messages, h.requests⟩

lemma Kept.initiateCancel (h : Kept s) : Kept (initiateCancel s) := by
  have hcallee : (OfonoUssd.initiateCancel s).callee = none := by
    unfold OfonoUssd.initiateCancel callee
    cases s.req <;> rfl
  constructor
  · constructor
    · exact h.messages
    · have hrequests := h.requests
      rw [← append_nil s.callee.toList] at hrequests
      rw [hcallee]
      show Requests.Accounted (_ ++ (_ ++ _)) [] _
      rw [← append_assoc]
      exact hrequests.answerAll
  · exact h.cancels

lemma Kept.notifyEnd (h : Kept s) (reply : UssdReply) : Kept (notifyEnd s reply) :=
  ⟨(h.setState _).pendingReply reply, h.cancels⟩

variable {status : UssdStatus} {t : OfonoUssd}

lemma Kept.notifyAnswer (h : Kept s) {reply : UssdReply}
    (ht : notifyAnswer s status reply = some t) : Kept t := by
  unfold OfonoUssd.notifyAnswer at ht
  split at ht
  · cases ht
  · rw [← Option.some.inj ht]
    exact ⟨(h.setState _).pendingReply _, h.cancels⟩

lemma Kept.notifyString (h : Kept s) {str : List UInt8}
    (ht : notifyString s status str = some t) : Kept t := by
  unfold OfonoUssd.notifyString at ht
  split at ht
  · exact h.notifyAnswer ht
  · exact h.notifyAnswer ht
  · rw [← Option.some.inj ht]
    exact ⟨⟨h.messages, h.requests⟩, h.cancels⟩
  · rw [← Option.some.inj ht]
    exact h

lemma Kept.notify (h : Kept s) {dcs : UInt8} {data : List UInt8} (ht : notify g s status dcs data = some t) : Kept t := by
  unfold OfonoUssd.notify at ht
  split at ht
  · rw [← Option.some.inj ht]
    exact ⟨(h.toOnce.requestFinish _).setState _, h.cancels⟩
  · split at ht
    · rw [← Option.some.inj ht]
      exact h.notifyEnd _
    · rw [← Option.some.inj ht]
      exact h.notifyEnd _
    · rw [← Option.some.inj ht]
      exact h.notifyEnd _
    · exact h.notifyString ht

variable {i : ℕ}

/-- The driver answers a call that is not one of `cancel`. -/
lemma Kept.unanswered (h : Kept s) {purpose : UssdCall} (hcall : s.calls[i]? = some purpose)
    (hpurpose : purpose ≠ .cancel) : Kept { s with calls := s.calls.eraseIdx i } := by
  constructor
  · exact ⟨h.messages, h.requests⟩
  · have hcount := (Requests.perm_eraseIdx hcall).count_eq .cancel
    rw [count_cons_of_ne hpurpose] at hcount
    exact hcount.trans h.cancels

lemma Kept.messageCallback (h : Kept s) (state : UssdState) (error : Bool) :
    Kept (messageCallback s state error) := by
  unfold OfonoUssd.messageCallback
  split
  · exact ⟨h.toOnce.pendingReply _, h.cancels⟩
  · exact ⟨h.setState _, h.cancels⟩

lemma Kept.ussdRequestCallback (h : Kept s) (error : Bool) :
    Kept (ussdRequestCallback s error) := by
  unfold OfonoUssd.ussdRequestCallback
  split
  · exact ⟨h.toOnce.requestFinish _, h.cancels⟩
  · exact ⟨h.setState _, h.cancels⟩

lemma Kept.ussdCancelCallback (h : Kept s) {error : Bool} (hcall : s.calls[i]? = some .cancel)
    (ht : ussdCancelCallback { s with calls := s.calls.eraseIdx i } error = some t) : Kept t := by
  have hcount := (Requests.perm_eraseIdx hcall).count_eq .cancel
  rw [count_cons_self, h.cancels] at hcount
  -- the call was the one for the message in `cancel`
  have hdone : (s.calls.eraseIdx i).count .cancel = 0 := by
    have hone : s.cancel.toList.length ≤ 1 := by
      cases s.cancel with
      | none => exact Nat.zero_le 1
      | some msg => exact Nat.le_refl 1
    omega
  have honce : Once { s with calls := s.calls.eraseIdx i } := ⟨h.messages, h.requests⟩
  unfold OfonoUssd.ussdCancelCallback at ht
  split at ht
  · cases ht
  · split at ht
    · rw [← Option.some.inj ht]
      exact ⟨honce.cancelReply _, hdone⟩
    · rw [← Option.some.inj ht]
      have hreplied := (honce.pendingReply .canceled).cancelReply .done
      exact ⟨(hreplied.requestFinish _).setState _, hdone⟩

lemma Kept.callback (h : Kept s) {purpose : UssdCall} {error : Bool}
    (hcall : s.calls[i]? = some purpose)
    (ht : callback { s with calls := s.calls.eraseIdx i } error purpose = some t) : Kept t := by
  cases purpose with
  | initiate =>
    rw [← Option.some.inj ht]
    exact (h.unanswered hcall (by intro hcancel; cases hcancel)).messageCallback _ _
  | respond =>
    rw [← Option.some.inj ht]
    exact (h.unanswered hcall (by intro hcancel; cases hcancel)).messageCallback _ _
  | request =>
    rw [← Option.some.inj ht]
    exact (h.unanswered hcall (by intro hcancel; cases hcancel)).ussdRequestCallback _
  | cancel => exact h.ussdCancelCallback hcall ht

/-- Whatever comes, no message is answered twice or forgotten, and no callback is called
twice. -/
lemma Kept.step (h : Kept s) {input : UssdInput} {t : OfonoUssd}
    (ht : step d g s input = some t) : Kept t := by
  cases input with
  | initiate str control callInProgress =>
    rw [← Option.some.inj ht]
    exact h.ussdInitiate _ _ _
  | respond str =>
    rw [← Option.some.inj ht]
    exact h.ussdRespond _
  | cancel =>
    rw [← Option.some.inj ht]
    exact h.ussdCancel
  | request =>
    rw [← Option.some.inj ht]
    exact h.initiate
  | requestCancel =>
    rw [← Option.some.inj ht]
    exact h.initiateCancel
  | reply i error =>
    unfold OfonoUssd.step at ht
    dsimp only at ht
    split at ht
    · rw [← Option.some.inj ht]
      exact h
    · next hcall => exact h.callback hcall ht
  | notify status dcs data => exact h.notify ht

end Others

/-! ## What is expected -/

section Expected

variable {d : UssdDriver} {g : GConvert} {s : OfonoUssd}

variable {t : OfonoUssd}

/-- A step that leaves the state alone and lets nothing wait without a call of the driver. -/
lemma Expecting.mono (h : Expecting s) (hstate : t.state = s.state) (hcalls : ∀ purpose ∈ s.calls,
    purpose ∈ t.calls) (hpending : t.pending = s.pending ∨ t.pending ≠ none ∧ t.Asked)
    (hreq : (t.req = none ↔ s.req = none) ∨ t.req ≠ none ∧ .request ∈ t.calls)
    (hcancel : t.cancel = s.cancel ∨ .cancel ∈ t.calls) : Expecting t := by
  have hactive : t.Active ↔ s.Active := by
    unfold Active
    rw [hstate]
  have hasked : s.Asked → t.Asked := Or.imp (hcalls _) (hcalls _)
  constructor
  · intro hexpects
    rcases h.expected (hactive.mp hexpects) with hsame | hsame
    · rcases hpending with hpending | ⟨hpending, -⟩
      · exact .inl (hpending ▸ hsame)
      · exact .inl hpending
    · rcases hreq with hreq | ⟨hreq, -⟩
      · exact .inr fun hnone => hsame (hreq.mp hnone)
      · exact .inr hreq
  · intro hwaits
    rcases hpending with hpending | ⟨-, hpending⟩
    · exact (h.pending (hpending ▸ hwaits)).imp hactive.mpr hasked
    · exact .inr hpending
  · intro hwaits
    rcases hreq with hreq | ⟨-, hreq⟩
    · exact (h.req fun hnone => hwaits (hreq.mpr hnone)).imp hactive.mpr (hcalls _)
    · exact .inr hreq
  · intro hwaits
    rcases hcancel with hcancel | hcancel
    · exact hcalls _ (h.cancel (hcancel ▸ hwaits))
    · exact hcancel

lemma Expecting.answer (h : Expecting s) (msg : ℕ) (reply : UssdReply) :
    Expecting (s.receive.answer msg reply) :=
  h.mono rfl (fun _ hmem => hmem) (.inl rfl) (.inl Iff.rfl) (.inl rfl)

variable {purpose : UssdCall}

lemma Expecting.wait (h : Expecting s) (msg : ℕ) (hpurpose : purpose = .initiate ∨ purpose =
    .respond) : Expecting (call { s.receive with pending := some msg } purpose) := by
  refine h.mono rfl (fun _ hmem => mem_append_left _ hmem) (.inr ⟨?_, ?_⟩) (.inl Iff.rfl)
    (.inl rfl)
  · exact some_ne_none msg
  · have hnew : purpose ∈ s.calls ++ [purpose] := mem_append_right _ mem_cons_self
    rcases hpurpose with rfl | rfl
    · exact .inl hnew
    · exact .inr hnew

lemma Expecting.ussdInitiate (h : Expecting s) (msg : ℕ) (str : Option (List UInt8))
    (control : Option ControlString) (callInProgress : Bool) :
    Expecting (ussdInitiate d s.receive msg str control callInProgress) := by
  unfold OfonoUssd.ussdInitiate
  split
  · exact h.answer _ _
  · split
    · exact h.answer _ _
    · exact h.answer _ _
    · split
      · exact h.mono rfl (fun _ hmem => hmem) (.inl rfl) (.inl Iff.rfl) (.inl rfl)
      · exact h.answer _ _
      · split
        · exact h.answer _ _
        · split
          · exact h.answer _ _
          · split
            · exact h.answer _ _
            · exact h.wait msg (.inl rfl)

lemma Expecting.ussdRespond (h : Expecting s) (msg : ℕ) (str : Option (List UInt8)) :
    Expecting (ussdRespond d s.receive msg str) := by
  unfold OfonoUssd.ussdRespond
  split
  · exact h.answer _ _
  · split
    · exact h.answer _ _
    · split
      · exact h.answer _ _
      · exact h.answer _ _
      · split
        · exact h.answer _ _
        · split
          · exact h.answer _ _
          · exact h.wait msg (.inr rfl)

lemma Expecting.ussdCancel (h : Expecting s) (msg : ℕ) :
    Expecting (ussdCancel d s.receive msg) := by
  unfold OfonoUssd.ussdCancel
  split
  · exact h.answer _ _
  · split
    · exact h.answer _ _
    · split
      · exact h.answer _ _
      · split
        · exact h.answer _ _
        · exact h.mono rfl (fun _ hmem => mem_append_left _ hmem) (.inl rfl) (.inl Iff.rfl)
            (.inr (mem_append_right _ mem_cons_self))

lemma Expecting.initiate (h : Expecting s) : Expecting (initiate d s) := by
  unfold OfonoUssd.initiate
  split
  · exact h
  · exact h.mono rfl (fun _ hmem => mem_append_left _ hmem) (.inl rfl)
      (.inr ⟨some_ne_none _, mem_append_right _ mem_cons_self⟩) (.inl rfl)

lemma Expecting.initiateCancel (h : Expecting s) : Expecting (initiateCancel s) :=
  h.mono rfl (fun _ hmem => hmem) (.inl rfl) (.inl map_eq_none_iff) (.inl rfl)

/-! ## Replies of the driver -/

variable {i : ℕ}

lemma mem_calls_eraseIdx {calls : List UssdCall} {other : UssdCall} (hcall : calls[i]? = some
    purpose) (hother : other ≠ purpose) (hmem : other ∈ calls) : other ∈ calls.eraseIdx i := by
  have hfound := (Requests.perm_eraseIdx hcall).mem_iff.mpr hmem
  exact (mem_cons.mp hfound).resolve_left hother

/-- The driver tells of a success: then an answer of the network is expected. -/
lemma expecting_started (h : Expecting s) (hcall : s.calls[i]? = some purpose) (hpurpose : purpose
    ≠ .cancel) {state : UssdState} (hstate : state = .active ∨ state = .responseSent) : Expecting {
    s with calls := s.calls.eraseIdx i, state := state } ↔ s.pending ≠ none ∨ s.req ≠ none := by
  constructor
  · intro hafter
    exact hafter.expected hstate
  · intro hwaits
    constructor
    · intro _
      exact hwaits
    · intro _
      exact .inl hstate
    · intro _
      exact .inl hstate
    · intro hcancel
      exact mem_calls_eraseIdx hcall hpurpose.symm (h.cancel hcancel)

lemma expecting_failed (h : Expecting s) (hcall : s.calls[i]? = some purpose) (hpurpose : purpose
    = .initiate ∨ purpose = .respond) (reply : UssdReply) :
    Expecting (pendingReply { s with calls := s.calls.eraseIdx i } reply) ↔ (s.Active → s.req ≠ none) := by
  have hkept : ∀ other, other = .request ∨ other = .cancel → other ∈ s.calls →
      other ∈ s.calls.eraseIdx i := by
    intro other hother hmem
    apply mem_calls_eraseIdx hcall _ hmem
    rcases hother with rfl | rfl
    · rcases hpurpose with rfl | rfl <;> intro heq <;> cases heq
    · rcases hpurpose with rfl | rfl <;> intro heq <;> cases heq
  constructor
  · intro hafter hactive
    exact (hafter.expected hactive).resolve_left fun hpending => hpending rfl
  · intro hreq
    constructor
    · intro hactive
      exact .inr (hreq hactive)
    · intro hpending
      exact absurd rfl hpending
    · intro hwaits
      exact (h.req hwaits).imp_right (hkept _ (.inl rfl))
    · intro hcancel
      exact hkept _ (.inr rfl) (h.cancel hcancel)

lemma expecting_requestFailed (h : Expecting s) (hcall : s.calls[i]? = some .request) (result :
    UssdResult) : Expecting (requestFinish { s with calls := s.calls.eraseIdx i } result) ↔
    (s.Active → s.pending ≠ none) := by
  constructor
  · intro hafter hactive
    exact (hafter.expected hactive).resolve_right fun hreq => hreq rfl
  · intro hpending
    constructor
    · intro hactive
      exact .inl (hpending hactive)
    · intro hwaits
      refine (h.pending hwaits).imp_right (Or.imp ?_ ?_)
      · exact mem_calls_eraseIdx hcall (by intro heq; cases heq)
      · exact mem_calls_eraseIdx hcall (by intro heq; cases heq)
    · intro hreq
      exact absurd rfl hreq
    · intro hcancel
      exact mem_calls_eraseIdx hcall (by intro heq; cases heq) (h.cancel hcancel)

lemma expecting_messageCallback (h : Expecting s) (hcall : s.calls[i]? = some purpose) (hpurpose :
    purpose = .initiate ∨ purpose = .respond) {state : UssdState} (hstate : state = .active ∨ state
    = .responseSent) (error : Bool) :
    Expecting (messageCallback { s with calls := s.calls.eraseIdx i } state error) ↔ ReplySound s purpose error := by
  cases error with
  | true =>
    have hfailed := expecting_failed h hcall hpurpose .failed
    rcases hpurpose with rfl | rfl
    · exact hfailed
    · exact hfailed
  | false =>
    rcases hpurpose with rfl | rfl
    · exact expecting_started h hcall (by intro heq; cases heq) hstate
    · exact expecting_started h hcall (by intro heq; cases heq) hstate

lemma expecting_requestCallback (h : Expecting s) (hcall : s.calls[i]? = some .request) (error :
    Bool) : Expecting (ussdRequestCallback { s with calls := s.calls.eraseIdx i } error) ↔
    ReplySound s .request error := by
  cases error with
  | true => exact expecting_requestFailed h hcall _
  | false => exact expecting_started h hcall (by intro heq; cases heq) (.inl rfl)

/-- A cancelled session leaves nothing behind; a failed `Cancel` leaves the session alone. -/
lemma Expecting.cancelCallback (h : Expecting s) {error : Bool} (hcall : s.calls[i]? = some
    .cancel) (ht : ussdCancelCallback { s with calls := s.calls.eraseIdx i } error = some t) :
    Expecting t := by
  unfold OfonoUssd.ussdCancelCallback at ht
  split at ht
  · cases ht
  · split at ht
    · rw [← Option.some.inj ht]
      constructor
      · exact h.expected
      · intro hwaits
        refine (h.pending hwaits).imp_right (Or.imp ?_ ?_)
        · exact mem_calls_eraseIdx hcall (by intro heq; cases heq)
        · exact mem_calls_eraseIdx hcall (by intro heq; cases heq)
      · intro hwaits
        refine (h.req hwaits).imp_right ?_
        exact mem_calls_eraseIdx hcall (by intro heq; cases heq)
      · intro hcancel
        exact absurd rfl hcancel
    · rw [← Option.some.inj ht]
      constructor
      · intro hactive
        rcases hactive with hactive | hactive <;> cases hactive
      · intro hpending
        exact absurd rfl hpending
      · intro hreq
        exact absurd rfl hreq
      · intro hcancel
        exact absurd rfl hcancel

lemma expecting_callback (h : Expecting s) {error : Bool} (hcall : s.calls[i]? = some purpose)
    (ht : callback { s with calls := s.calls.eraseIdx i } error purpose = some t) :
    Expecting t ↔ ReplySound s purpose error := by
  cases purpose with
  | initiate =>
    rw [← Option.some.inj ht]
    exact expecting_messageCallback h hcall (.inl rfl) (.inl rfl) error
  | respond =>
    rw [← Option.some.inj ht]
    exact expecting_messageCallback h hcall (.inr rfl) (.inr rfl) error
  | request =>
    rw [← Option.some.inj ht]
    exact expecting_requestCallback h hcall error
  | cancel =>
    have hafter := h.cancelCallback hcall ht
    exact ⟨fun _ => trivial, fun _ => hafter⟩

end Expected

/-! ## Notifications -/

section Notifications

variable {d : UssdDriver} {g : GConvert} {s : OfonoUssd} {status : UssdStatus}

lemma notifyState_not_active {state : UssdState} (hstate : state = notifyState status) :
    ¬ (state = .active ∨ state = .responseSent) := by
  rw [hstate, notifyState]
  split
  · rintro (hactive | hactive) <;> cases hactive
  · rintro (hactive | hactive) <;> cases hactive

lemma expecting_finished (h : Expecting s) (result : UssdResult) :
    Expecting { requestFinish s result with state := .idle } ↔ (s.pending ≠ none → s.Asked) := by
  have hidle : ¬ (UssdState.idle = .active ∨ UssdState.idle = .responseSent) := by decide
  constructor
  · intro hafter hpending
    exact (hafter.pending hpending).resolve_left hidle
  · intro hasked
    constructor
    · intro hactive
      exact absurd hactive hidle
    · intro hpending
      exact .inr (hasked hpending)
    · intro hreq
      exact absurd rfl hreq
    · exact h.cancel

/-- The message in `pending` is answered, and no further answer is expected. -/
lemma expecting_answered (h : Expecting s) {state : UssdState} (hstate : ¬ (state = .active ∨
    state = .responseSent)) (reply : UssdReply) : Expecting (pendingReply { s with state := state }
    reply) ↔ (s.req ≠ none → .request ∈ s.calls) := by
  constructor
  · intro hafter hreq
    exact (hafter.req hreq).resolve_left hstate
  · intro hrequest
    constructor
    · intro hactive
      exact absurd hactive hstate
    · intro hpending
      exact absurd rfl hpending
    · intro hreq
      exact .inr (hrequest hreq)
    · exact h.cancel

variable {t : OfonoUssd}

lemma expecting_notifyAnswer (h : Expecting s) {reply : UssdReply} (ht : notifyAnswer s status
    reply = some t) : Expecting t ↔ s.pending ≠ none ∧ (s.req ≠ none → .request ∈ s.calls) := by
  unfold notifyAnswer at ht
  split at ht
  · cases ht
  · next hpending =>
      rw [← Option.some.inj ht, expecting_answered h (notifyState_not_active rfl) reply]
      exact ⟨fun hrequest => ⟨hpending, hrequest⟩, fun hboth => hboth.2⟩

lemma expecting_notifyString (h : Expecting s) {str : List UInt8}
    (ht : notifyString s status str = some t) :
    Expecting t ↔
      (s.Active → s.pending ≠ none ∧ (s.req ≠ none → .request ∈ s.calls)) := by
  unfold notifyString at ht
  split at ht
  · next hstate =>
      rw [expecting_notifyAnswer h ht]
      exact ⟨fun hsound _ => hsound, fun hsound => hsound (.inl hstate)⟩
  · next hstate =>
      rw [expecting_notifyAnswer h ht]
      exact ⟨fun hsound _ => hsound, fun hsound => hsound (.inr hstate)⟩
  · next hstate =>
      have hidle : ¬ s.Active := by
        rintro (hactive | hactive) <;> rw [hstate] at hactive <;> cases hactive
      rw [← Option.some.inj ht]
      constructor
      · intro _ hactive
        exact absurd hactive hidle
      · intro _
        constructor
        · intro hactive
          exact absurd hactive (notifyState_not_active rfl)
        · intro hpending
          exact .inr ((h.pending hpending).resolve_left hidle)
        · intro hreq
          exact .inr ((h.req hreq).resolve_left hidle)
        · exact h.cancel
  · next hstate =>
      rw [← Option.some.inj ht]
      constructor
      · rintro - (hactive | hactive) <;> rw [hstate] at hactive <;> cases hactive
      · intro _
        exact h

lemma expecting_notify (h : Expecting s) {dcs : UInt8} {data : List UInt8}
    (ht : notify g s status dcs data = some t) : Expecting t ↔ NotifySound s status := by
  unfold notify at ht
  unfold NotifySound
  split at ht
  · next hfinishes =>
      rw [if_pos hfinishes, ← Option.some.inj ht]
      exact expecting_finished h _
  · next hfinishes =>
      rw [if_neg hfinishes]
      have hend : ∀ {reply : UssdReply}, finishesRequest status = true →
          continues status = false → notifyEnd s reply = t →
          (Expecting t ↔ (continues status = true → s.Active →
            s.pending ≠ none ∧ (s.req ≠ none → .request ∈ s.calls))) := by
        intro reply hfinal hends ht
        have hnone : s.req = none := by
          by_contra hreq
          exact hfinishes ⟨hreq, hfinal⟩
        rw [← ht, hends]
        unfold notifyEnd
        rw [expecting_answered h (by decide) reply]
        exact ⟨fun _ hcontinues => absurd hcontinues Bool.false_ne_true,
          fun _ hreq => absurd hnone hreq⟩
      split at ht
      · exact hend rfl rfl (Option.some.inj ht)
      · exact hend rfl rfl (Option.some.inj ht)
      · exact hend rfl rfl (Option.some.inj ht)
      · next hterminated hnotSupported htimedOut =>
          have hcontinues : continues status = true := by
            cases status with
            | terminated => exact absurd rfl hterminated
            | notSupported => exact absurd rfl hnotSupported
            | timedOut => exact absurd rfl htimedOut
            | notify => rfl
            | actionRequired => rfl
            | localClientResponded => rfl
            | other value => rfl
          rw [expecting_notifyString h ht]
          exact ⟨fun hsound _ => hsound, fun hsound => hsound hcontinues⟩

lemma exists_notify (hsound : NotifySound s status) (dcs : UInt8) (data : List UInt8) :
    ∃ t, notify g s status dcs data = some t := by
  unfold notify
  unfold NotifySound at hsound
  split
  · exact ⟨_, rfl⟩
  · next hfinishes =>
      rw [if_neg hfinishes] at hsound
      split
      · exact ⟨_, rfl⟩
      · exact ⟨_, rfl⟩
      · exact ⟨_, rfl⟩
      · next hterminated hnotSupported htimedOut =>
          have hanswer : ∀ reply, s.Active → ∃ t, notifyAnswer s status reply = some t := by
            intro reply hactive
            have hcontinues : continues status = true := by
              unfold continues
              split <;> first | contradiction | rfl
            exact ⟨_, if_neg (hsound hcontinues hactive).1⟩
          unfold notifyString
          split
          · next hstate => exact hanswer _ (.inl hstate)
          · next hstate => exact hanswer _ (.inr hstate)
          · exact ⟨_, rfl⟩
          · exact ⟨_, rfl⟩

end Notifications

/-! ## Runs -/

section Runs

variable {d : UssdDriver} {g : GConvert} {s : OfonoUssd}

/-- What every input preserves that has what it has to meet. -/
structure Inv (s : OfonoUssd) : Prop extends Kept s, Expecting s

lemma inv_start : Inv start := by
  constructor
  · constructor
    · exact ⟨Requests.accounted_nil, Requests.accounted_nil⟩
    · rfl
  · constructor
    · rintro (hactive | hactive) <;> cases hactive
    · intro hpending
      exact absurd rfl hpending
    · intro hreq
      exact absurd rfl hreq
    · intro hcancel
      exact absurd rfl hcancel

lemma Inv.good (h : Inv s) : Good s := ⟨h.toOnce, h.toExpecting⟩

/-- Behind an input there is something to wait for wherever something waits exactly if the input
had what it has to meet. -/
lemma expecting_step (h : Inv s) {input : UssdInput} {t : OfonoUssd}
    (ht : step d g s input = some t) : Expecting t ↔ Sound s input := by
  have hexpecting := h.toExpecting
  cases input with
  | initiate str control callInProgress =>
    rw [← Option.some.inj ht]
    have hafter := @Expecting.ussdInitiate d s hexpecting s.received str control callInProgress
    exact ⟨fun _ => trivial, fun _ => hafter⟩
  | respond str =>
    rw [← Option.some.inj ht]
    have hafter := @Expecting.ussdRespond d s hexpecting s.received str
    exact ⟨fun _ => trivial, fun _ => hafter⟩
  | cancel =>
    rw [← Option.some.inj ht]
    have hafter := @Expecting.ussdCancel d s hexpecting s.received
    exact ⟨fun _ => trivial, fun _ => hafter⟩
  | request =>
    rw [← Option.some.inj ht]
    have hafter := @Expecting.initiate d s hexpecting
    exact ⟨fun _ => trivial, fun _ => hafter⟩
  | requestCancel =>
    rw [← Option.some.inj ht]
    exact ⟨fun _ => trivial, fun _ => hexpecting.initiateCancel⟩
  | reply i error =>
    unfold step at ht
    dsimp only at ht
    split at ht
    · next hcall =>
        rw [← Option.some.inj ht]
        refine ⟨?_, fun _ => hexpecting⟩
        intro _ purpose hfound
        rw [hcall] at hfound
        cases hfound
    · next purpose hcall =>
        rw [expecting_callback hexpecting hcall ht]
        constructor
        · intro hsound other hother
          rw [hcall] at hother
          cases hother
          exact hsound
        · intro hsound
          exact hsound purpose hcall
  | notify status dcs data => exact expecting_notify hexpecting ht

lemma exists_step (h : Inv s) {input : UssdInput} (hsound : Sound s input) :
    ∃ t, step d g s input = some t := by
  cases input with
  | reply i error =>
    unfold step
    dsimp only
    split
    · exact ⟨_, rfl⟩
    · next purpose hcall =>
        cases purpose with
        | initiate => exact ⟨_, rfl⟩
        | respond => exact ⟨_, rfl⟩
        | request => exact ⟨_, rfl⟩
        | cancel =>
          have hcancel : s.cancel ≠ none := by
            intro hnone
            have hmem := mem_of_getElem? hcall
            rw [← count_pos_iff, h.cancels, hnone] at hmem
            exact absurd hmem (Nat.lt_irrefl 0)
          show ∃ t, ussdCancelCallback { s with calls := s.calls.eraseIdx i } error = some t
          unfold ussdCancelCallback
          rw [if_neg hcancel]
          split
          · exact ⟨_, rfl⟩
          · exact ⟨_, rfl⟩
  | notify status dcs data => exact exists_notify hsound dcs data
  | _ => exact ⟨_, rfl⟩

lemma Inv.step (h : Inv s) {input : UssdInput} (hsound : Sound s input) :
    ∃ t, step d g s input = some t ∧ Inv t := by
  rcases @exists_step d g s h input hsound with ⟨t, ht⟩
  exact ⟨t, ht, h.toKept.step ht, (expecting_step h ht).mpr hsound⟩

/-- A run of the atom answers every message once, calls every callback once that is not cancelled,
replies to messages only that there are, and expects answers only where something waits, exactly
if every input has what it has to meet. -/
theorem ussd_run_iff (d : UssdDriver) (g : GConvert) (inputs : List UssdInput) :
    Machine.Safe (step d g) Good start inputs ↔ Machine.EachStep (step d g) Sound start inputs := by
  refine Machine.safe_iff (fun (s : OfonoUssd) (h : Inv s) => h.good) ?_ ?_ inv_start inputs
  · intro s input h hsound
    exact h.step hsound
  · intro s input t h hunsound ht hgood
    exact hunsound ((expecting_step h ht).mp hgood.toExpecting)

/-- The network asks back on the request of another atom, and the atom replies to no message. -/
theorem asked_back_without_message : ¬ ∀ (d : UssdDriver) (g : GConvert) (inputs : List UssdInput),
    Machine.Safe (step d g) Good start inputs := by
  intro h
  have hrun := h ⟨true, true⟩ ⟨fun _ => none, fun _ => none⟩
    [.request, .reply 0 false, .notify .actionRequired 15 []]
  rcases hrun.finish with ⟨t, ht, -⟩
  cases ht

end Runs

end OfonoUssd

end Phonelets.Ussd
