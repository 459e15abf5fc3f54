import Phonelets.Lib.Requests
import Phonelets.Lib.Trace
import Phonelets.Stk.EnvelopeQueue

/-! # Runs of the envelope queue

The queue passes one envelope at a time to the driver and calls every callback with the answer to
its own envelope. What `sms_pp_cb` is called with is right as long as no other download has come
in between; `StkEnvelopes.Sound` says so.
-/

namespace Phonelets.Stk

open List
open Phonelets.Trace (AtEach atEach_snoc)

namespace StkEnvelopes

/-! ## Readings of the log -/

/-- The envelopes that have been passed to the driver, each as often as it was. -/
def sends (log : List EnvelopeEvent) : List ℕ :=
  log.filterMap fun
    | .sent number _ => some number
    | _ => none

/-- The callbacks of envelopes, with what they were called with. -/
def callbacks (log : List EnvelopeEvent) : List (ℕ × Bool × List UInt8) :=
  log.filterMap fun
    | .called number ok data => some (number, ok, data)
    | _ => none

/-- The envelopes whose callback has been called. -/
def finished (log : List EnvelopeEvent) : List ℕ := (callbacks log).map Prod.fst

/-- The callbacks of downloads, with what they were called with. -/
def smsPps (log : List EnvelopeEvent) : List (SmsPpTarget × Bool × List UInt8) :=
  log.filterMap fun
    | .smsPp target ok data => some (target, ok, data)
    | _ => none

@[simp] lemma sends_append (log log' : List EnvelopeEvent) :
    sends (log ++ log') = sends log ++ sends log' := filterMap_append

@[simp] lemma callbacks_append (log log' : List EnvelopeEvent) :
    callbacks (log ++ log') = callbacks log ++ callbacks log' := filterMap_append

@[simp] lemma finished_append (log log' : List EnvelopeEvent) :
    finished (log ++ log') = finished log ++ finished log' := by
  rw [finished, callbacks_append, map_append]
  rfl

@[simp] lemma smsPps_append (log log' : List EnvelopeEvent) :
    smsPps (log ++ log') = smsPps log ++ smsPps log' := filterMap_append

/-- The callback that a download was given. -/
def targetOf (queued : List QueuedEnvelope) (number : ℕ) : Option SmsPpTarget :=
  queued[number]?.bind QueuedEnvelope.target

/-- The call of that callback which the answer to the envelope is to lead to. -/
def owed (queued : List QueuedEnvelope) (callback : ℕ × Bool × List UInt8) :
    Option (SmsPpTarget × Bool × List UInt8) :=
  (targetOf queued callback.1).map fun target => (target, callback.2)

/-! ## What is promised -/

/-- What an event of the log has to meet, given what was before it. An envelope is sent as it was
queued, behind those queued before and not behind its callback, and once more only when the SIM
was busy; its callback is called with the last answer. -/
def Right (queued : List QueuedEnvelope) (before : List EnvelopeEvent) : EnvelopeEvent → Prop
  | .sent number tlv =>
    (∃ envelope, queued[number]? = some envelope ∧ tlv = envelope.op.tlv) ∧
      (∀ earlier < number, earlier ∈ finished before) ∧
      number ∉ finished before ∧
      (number ∈ sends before →
        ∃ result, before.getLast? = some (.answered number result) ∧ result.busy = true)
  | .called number ok data =>
    ∃ result, before.getLast? = some (.answered number result) ∧
      ok = result.ok ∧ data = result.data
  | _ => True

/-- What holds after every input. -/
structure Good (s : StkEnvelopes) : Prop where
  single : s.calls.length ≤ 1
  served : s.envelopeQ ≠ [] → s.calls ≠ []
  right : AtEach (Right s.queued) s.log
  tries : ∀ number envelope, s.queued[number]? = some envelope →
    (sends s.log).count number ≤ envelope.op.retries + 1
  once : finished s.log = List.range (s.queued.length - s.envelopeQ.length)
  downloads : smsPps s.log = (callbacks s.log).filterMap (owed s.queued)
  messages : Requests.Accounted (s.replies.map Prod.fst) s.pending.toList s.received

/-! ## What the inputs have to meet -/

/-- What an input has to meet: where the driver's answer ends a download, the last call of
`__ofono_sms_sim_download` had the same callback and user data. -/
def Sound (s : StkEnvelopes) : EnvelopeInput → Prop
  | .reply i result => ∀ number op, s.calls[i]? = some number → s.envelopeQ.head? = some op →
      op.cb = .smsDownload → retries op result = false →
        smsPpTarget s.smsPpCb s.smsPpUserdata = targetOf s.queued op.number
  | _ => True

/-! ## The invariant -/

/-- The head of the queue as it was queued. -/
def asQueued (used : ℕ) : List EnvelopeOp → List EnvelopeOp
  | [] => []
  | op :: rest => { op with retries := op.retries + used } :: rest

/-- What the queue and the log have to do with each other: the envelopes in the queue are those
that are not finished, and its head has used as many tries as the log shows. -/
structure Core (s : StkEnvelopes) : Prop where
  right : AtEach (Right s.queued) s.log
  tries : ∀ number envelope, s.queued[number]? = some envelope →
    (sends s.log).count number ≤ envelope.op.retries + 1
  once : finished s.log = List.range (finished s.log).length
  numbers : ∀ number (envelope : QueuedEnvelope),
    s.queued[number]? = some envelope → envelope.op.number = number
  targets : ∀ envelope ∈ s.queued, envelope.op.cb ≠ .smsDownload → envelope.target = none
  queue : ∃ used,
    (s.queued.map QueuedEnvelope.op).drop (finished s.log).length = asQueued used s.envelopeQ ∧
      ∀ op, s.envelopeQ.head? = some op → (sends s.log).count op.number = used + s.calls.length
  bound : (finished s.log).length ≤ s.queued.length
  sent : ∀ number ∈ sends s.log, number ≤ (finished s.log).length ∧ number < s.queued.length
  calls : s.calls = [] ∨ ∃ op, s.envelopeQ.head? = some op ∧ s.calls = [op.number]

def isMenuSelection (op : EnvelopeOp) : Bool := op.cb = .menuSelection

/-- Messages are answered once, and the selection of one that waits is in the queue. -/
structure Replies (s : StkEnvelopes) : Prop where
  messages : Requests.Accounted (s.replies.map Prod.fst) s.pending.toList s.received
  menus : s.envelopeQ.countP isMenuSelection = s.pending.toList.length

/-- What every input preserves. -/
structure Kept (s : StkEnvelopes) : Prop extends Core s, Replies s where
  served : s.envelopeQ ≠ [] → s.calls ≠ []

/-- The callbacks of downloads have been called as they were to be. -/
def Downloads (s : StkEnvelopes) : Prop :=
  smsPps s.log = (callbacks s.log).filterMap (owed s.queued)

section Queue

variable {s : StkEnvelopes} {op : EnvelopeOp} {rest : List EnvelopeOp}

lemma length_asQueued (used : ℕ) (ops : List EnvelopeOp) :
    (asQueued used ops).length = ops.length := by
  cases ops <;> rfl

lemma Core.length_queue (h : Core s) :
    s.queued.length - s.envelopeQ.length = (finished s.log).length := by
  rcases h.queue with ⟨used, hqueue, -⟩
  have hlength := congrArg List.length hqueue
  rw [length_drop, length_map, length_asQueued] at hlength
  have hbound := h.bound
  omega

lemma Core.head (h : Core s) (hqueue : s.envelopeQ = op :: rest) : ∃ envelope used,
    s.queued[(finished s.log).length]? = some envelope ∧ envelope.op = { op with retries :=
    op.retries + used } ∧ op.number = (finished s.log).length ∧ (s.queued.map
    QueuedEnvelope.op).drop ((finished s.log).length + 1) = rest ∧ (sends s.log).count op.number =
    used + s.calls.length := by
  rcases h.queue with ⟨used, hdrop, hcount⟩
  rw [hqueue] at hdrop
  have hlt : (finished s.log).length < s.queued.length := by
    have hlength := congrArg List.length hdrop
    rw [length_drop, length_map, length_asQueued, length_cons] at hlength
    omega
  have hmap : (finished s.log).length < (s.queued.map QueuedEnvelope.op).length := by
    rw [length_map]
    exact hlt
  rw [drop_eq_getElem_cons hmap, asQueued, cons_eq_cons] at hdrop
  have hop : s.queued[(finished s.log).length].op = { op with retries := op.retries + used } := by
    rw [← hdrop.1, getElem_map]
  have hnumber := h.numbers _ _ (getElem?_eq_getElem hlt)
  refine ⟨_, used, getElem?_eq_getElem hlt, hop, ?_, hdrop.2, ?_⟩
  · rw [hop] at hnumber
    exact hnumber
  · exact hcount op (by rw [hqueue]; rfl)

variable {added : QueuedEnvelope} {queued : List QueuedEnvelope}

lemma getElem?_queued {number : ℕ} {envelope : QueuedEnvelope} (h : queued[number]? = some envelope) :
    (queued ++ [added])[number]? = some envelope := by
  rw [getElem?_append_left (List.getElem?_eq_some_iff.mp h).1]
  exact h

/-- Of what is queued, an envelope was there before or is the one that is added. -/
lemma eq_of_getElem?_queued {number : ℕ} {envelope : QueuedEnvelope} (h : (queued ++ [added])[number]? = some envelope) :
    queued[number]? = some envelope ∨ number = queued.length ∧ envelope = added := by
  by_cases hlt : number < queued.length
  · rw [getElem?_append_left hlt] at h
    exact .inl h
  · rw [getElem?_append_right (Nat.not_lt.mp hlt), getElem?_singleton] at h
    split at h
    · next hzero =>
        refine .inr ⟨?_, (Option.some.inj h).symm⟩
        omega
    · cases h

lemma Right.mono {before : List EnvelopeEvent} {event : EnvelopeEvent}
    (h : Right queued before event) : Right (queued ++ [added]) before event := by
  cases event with
  | sent number tlv =>
    rcases h with ⟨⟨envelope, henvelope, htlv⟩, horder⟩
    exact ⟨⟨envelope, getElem?_queued henvelope, htlv⟩, horder⟩
  | called number ok data => exact h
  | answered number result => trivial
  | smsPp target ok data => trivial

lemma Core.pushEnvelope (h : Core s) {target : Option SmsPpTarget}
    (hnumber : op.number = s.queued.length) (htarget : op.cb ≠ .smsDownload → target = none) :
    Core (pushEnvelope s op target) := by
  have hfresh : (sends s.log).count op.number = 0 := by
    rw [count_eq_zero]
    intro hsent
    have hlt := (h.sent _ hsent).2
    omega
  constructor
  · exact h.right.mono fun before event hevent => hevent.mono
  · intro number envelope henvelope
    rcases eq_of_getElem?_queued henvelope with hold | ⟨rfl, rfl⟩
    · exact h.tries number envelope hold
    · show (sends s.log).count s.queued.length ≤ _
      rw [← hnumber, hfresh]
      exact Nat.zero_le _
  · exact h.once
  · intro number envelope henvelope
    rcases eq_of_getElem?_queued henvelope with hold | ⟨rfl, rfl⟩
    · exact h.numbers number envelope hold
    · exact hnumber
  · intro envelope henvelope hcb
    rcases mem_append.mp henvelope with hold | hnew
    · exact h.targets envelope hold hcb
    · rw [mem_singleton] at hnew
      subst hnew
      exact htarget hcb
  · rcases h.queue with ⟨used, hdrop, hcount⟩
    have hlater : ((s.queued ++ [QueuedEnvelope.mk op target]).map QueuedEnvelope.op).drop
        (finished s.log).length = asQueued used s.envelopeQ ++ [op] := by
      rw [map_append, drop_append_of_le_length, hdrop]
      · rfl
      · rw [length_map]
        exact h.bound
    cases hqueue : s.envelopeQ with
    | nil =>
      rw [hqueue] at hlater
      refine ⟨0, ?_, ?_⟩
      · show ((s.queued ++ [QueuedEnvelope.mk op target]).map QueuedEnvelope.op).drop (finished s.log).length =
          asQueued 0 (s.envelopeQ ++ [op])
        rw [hlater, hqueue]
        rfl
      · intro head hhead
        have hop : op = head := by
          rw [StkEnvelopes.pushEnvelope, hqueue] at hhead
          exact Option.some.inj hhead
        have hcalls : s.calls = [] := by
          rcases h.calls with hcalls | ⟨head, hhead, -⟩
          · exact hcalls
          · rw [hqueue] at hhead
            cases hhead
        rw [← hop]
        show (sends s.log).count op.number = 0 + s.calls.length
        rw [hfresh, hcalls]
        rfl
    | cons head rest =>
      refine ⟨used, ?_, ?_⟩
      · show ((s.queued ++ [QueuedEnvelope.mk op target]).map QueuedEnvelope.op).drop (finished s.log).length =
          asQueued used (s.envelopeQ ++ [op])
        rw [hlater, hqueue]
        rfl
      · intro head' hhead
        apply hcount head'
        rw [hqueue]
        rw [StkEnvelopes.pushEnvelope, hqueue] at hhead
        exact hhead
  · show (finished s.log).length ≤ (s.queued ++ [_]).length
    rw [length_append]
    exact Nat.le_add_right_of_le h.bound
  · intro number hsent
    refine ⟨(h.sent number hsent).1, ?_⟩
    show number < (s.queued ++ [_]).length
    rw [length_append]
    exact Nat.lt_add_right 1 (h.sent number hsent).2
  · rcases h.calls with hcalls | ⟨head, hhead, hcalls⟩
    · exact .inl hcalls
    · refine .inr ⟨head, ?_, hcalls⟩
      show (s.envelopeQ ++ [op]).head? = some head
      rw [head?_append, hhead]
      rfl

/-- The head of the queue is passed to the driver, which has nothing else to answer. -/
lemma Core.envelopeQueueRun (h : Core s) (hidle : s.calls = [])
    (hagain : ∀ op, s.envelopeQ.head? = some op → op.number ∈ sends s.log → ∃ result, s.log.getLast?
    = some (.answered op.number result) ∧ result.busy = true) : Core (envelopeQueueRun s) ∧
    ((envelopeQueueRun s).envelopeQ ≠ [] → (envelopeQueueRun s).calls ≠ []) := by
  unfold StkEnvelopes.envelopeQueueRun
  split
  · next hqueue => exact ⟨h, fun hne => absurd hqueue hne⟩
  · next op rest hqueue =>
      rcases h.head hqueue with ⟨envelope, used, hget, hop, hnumber, -, hcount⟩
      rw [hidle, length_nil, Nat.add_zero] at hcount
      have hfinished : finished (s.log ++ [.sent op.number op.tlv]) = finished s.log := by
        rw [finished_append]
        exact append_nil _
      have hsends : sends (s.log ++ [.sent op.number op.tlv]) = sends s.log ++ [op.number] := by
        rw [sends_append]
        rfl
      refine ⟨?_, fun _ => append_ne_nil_of_right_ne_nil _ (cons_ne_nil _ _)⟩
      constructor
      · show AtEach (Right s.queued) (s.log ++ [_])
        refine atEach_snoc.mpr ⟨h.right, ⟨envelope, ?_, ?_⟩, ?_, ?_, ?_⟩
        · rw [hnumber]
          exact hget
        · rw [hop]
        · intro earlier hearlier
          rw [h.once, mem_range, ← hnumber]
          exact hearlier
        · rw [h.once, mem_range, hnumber]
          exact Nat.lt_irrefl _
        · exact hagain op (by rw [hqueue]; rfl)
      · intro number envelope' henvelope
        show (sends (s.log ++ [_])).count number ≤ _
        rw [hsends, count_append]
        by_cases heq : number = op.number
        · have hsame : envelope' = envelope := by
            rw [heq, hnumber, hget] at henvelope
            exact (Option.some.inj henvelope).symm
          rw [heq, hcount, count_singleton_self, hsame, hop]
          exact Nat.succ_le_succ (Nat.le_add_left _ _)
        · rw [count_singleton, if_neg (fun hbeq => heq (eq_of_beq hbeq).symm), Nat.add_zero]
          exact h.tries number envelope' henvelope
      · show finished (s.log ++ [_]) = List.range (finished (s.log ++ [_])).length
        rw [hfinished]
        exact h.once
      · exact h.numbers
      · exact h.targets
      · rcases h.queue with ⟨used', hdrop, hcount'⟩
        refine ⟨used', ?_, ?_⟩
        · show (s.queued.map QueuedEnvelope.op).drop (finished (s.log ++ [_])).length = _
          rw [hfinished]
          exact hdrop
        · intro head hhead
          have hused := hcount' head hhead
          have hhead' : op = head := by
            rw [hqueue] at hhead
            exact Option.some.inj hhead
          subst hhead'
          show (sends (s.log ++ [_])).count op.number = used' + (s.calls ++ [op.number]).length
          rw [hsends, count_append, count_singleton_self, hused, hidle]
          rfl
      · show (finished (s.log ++ [_])).length ≤ _
        rw [hfinished]
        exact h.bound
      · intro number hsent
        show number ≤ (finished (s.log ++ [_])).length ∧ _
        have hsent' : number ∈ sends (s.log ++ [.sent op.number op.tlv]) := hsent
        rw [hfinished]
        rw [hsends, mem_append, mem_singleton] at hsent'
        rcases hsent' with hold | rfl
        · exact h.sent number hold
        · exact ⟨Nat.le_of_eq hnumber, hnumber ▸ (List.getElem?_eq_some_iff.mp hget).1⟩
      · refine .inr ⟨op, ?_, ?_⟩
        · rw [hqueue]
          rfl
        · rw [hidle]
          rfl

lemma Core.again (h : Core s) (hqueue : s.envelopeQ = op :: rest) (hcalls : s.calls = [op.number])
    {result : EnvelopeResult} (hretries : 0 < op.retries) :
    Core { s with
      calls := []
      log := s.log ++ [.answered op.number result]
      envelopeQ := { op with retries := op.retries - 1 } :: rest } := by
  have hfinished : finished (s.log ++ [.answered op.number result]) = finished s.log := by
    rw [finished_append]
    exact append_nil _
  have hsends : sends (s.log ++ [.answered op.number result]) = sends s.log := by
    rw [sends_append]
    exact append_nil _
  constructor
  · exact atEach_snoc.mpr ⟨h.right, trivial⟩
  · show ∀ number envelope, _ → (sends (s.log ++ [_])).count number ≤ _
    rw [hsends]
    exact h.tries
  · show finished (s.log ++ [_]) = List.range (finished (s.log ++ [_])).length
    rw [hfinished]
    exact h.once
  · exact h.numbers
  · exact h.targets
  · rcases h.queue with ⟨used, hdrop, hcount⟩
    refine ⟨used + 1, ?_, ?_⟩
    · show (s.queued.map QueuedEnvelope.op).drop (finished (s.log ++ [_])).length = _
      rw [hfinished, hdrop, hqueue]
      have hused : op.retries - 1 + (used + 1) = op.retries + used := by omega
      show _ = { op with retries := op.retries - 1 + (used + 1) } :: rest
      rw [hused]
      rfl
    · intro head hhead
      have hhead' : { op with retries := op.retries - 1 } = head := Option.some.inj hhead
      have hsent := hcount op (by rw [hqueue]; rfl)
      subst hhead'
      show (sends (s.log ++ [_])).count op.number = used + 1 + 0
      rw [hsends, hsent, hcalls]
      rfl
  · show (finished (s.log ++ [_])).length ≤ _
    rw [hfinished]
    exact h.bound
  · show ∀ number ∈ sends (s.log ++ [_]), number ≤ (finished (s.log ++ [_])).length ∧ _
    rw [hsends, hfinished]
    exact h.sent
  · exact .inl rfl

/-- The events of a call of `sms_pp_cb`. -/
def SmsPpEvents (events : List EnvelopeEvent) : Prop :=
  ∀ event ∈ events, ∃ target ok data, event = .smsPp target ok data

lemma SmsPpEvents.readings {events : List EnvelopeEvent} (h : SmsPpEvents events) : sends events =
    [] ∧ callbacks events = [] ∧ ∀ queued before, ∀ event ∈ events, Right queued before event := by
  refine ⟨?_, ?_, ?_⟩
  · apply filterMap_eq_nil_iff.mpr
    intro event hevent
    rcases h event hevent with ⟨target, ok, data, rfl⟩
    rfl
  · apply filterMap_eq_nil_iff.mpr
    intro event hevent
    rcases h event hevent with ⟨target, ok, data, rfl⟩
    rfl
  · intro queued before event hevent
    rcases h event hevent with ⟨target, ok, data, rfl⟩
    trivial

/-- The head is finished: its callback has been called, and maybe `sms_pp_cb`. The next head has
not been sent. -/
lemma Core.finish (h : Core s) (hqueue : s.envelopeQ = op :: rest) {result : EnvelopeResult}
    {events : List EnvelopeEvent} (hevents : SmsPpEvents events) {t : StkEnvelopes} (htcalls :
    t.calls = []) (htqueue : t.envelopeQ = rest) (htqueued : t.queued = s.queued) (htlog : t.log =
    s.log ++ [.answered op.number result] ++ [.called op.number result.ok result.data] ++ events) :
    Core t ∧ ∀ next, t.envelopeQ.head? = some next → next.number ∉ sends t.log := by
  rcases h.head hqueue with ⟨envelope, used, hget, hop, hnumber, hdrop, hcount⟩
  rcases hevents.readings with ⟨hnosends, hnocallbacks, hright⟩
  have hsends : sends t.log = sends s.log := by
    rw [htlog, sends_append, sends_append, sends_append, hnosends]
    simp only [append_nil, sends, filterMap_cons, filterMap_nil]
  have hfinished : finished t.log = finished s.log ++ [op.number] := by
    have hnone : finished events = [] := by
      rw [finished, hnocallbacks]
      rfl
    rw [htlog, finished_append, finished_append, finished_append, hnone, append_nil]
    simp only [finished, callbacks, filterMap_cons, filterMap_nil, map_nil, append_nil, map_cons]
  have hlength : (finished t.log).length = (finished s.log).length + 1 := by
    rw [hfinished]
    exact length_append
  have hfresh : ∀ next, rest.head? = some next → next.number ∉ sends s.log := by
    intro next hnext hsent
    have hmem : (s.queued.map QueuedEnvelope.op)[(finished s.log).length + 1]? = some next := by
      rw [← head?_drop, hdrop, hnext]
    rw [getElem?_map, Option.map_eq_some_iff] at hmem
    rcases hmem with ⟨envelope', hget', rfl⟩
    have hnext' := h.numbers _ _ hget'
    have hbound := (h.sent _ hsent).1
    omega
  have hcore : Core t := by
    constructor
    · rw [htlog, htqueued]
      refine AtEach.append ?_ (hright s.queued)
      refine atEach_snoc.mpr ⟨atEach_snoc.mpr ⟨h.right, trivial⟩, result, ?_, rfl, rfl⟩
      exact getLast?_append_of_ne_nil _ (cons_ne_nil _ _)
    · rw [hsends, htqueued]
      exact h.tries
    · rw [hlength, range_succ, ← h.once, hfinished, hnumber]
    · rw [htqueued]
      exact h.numbers
    · rw [htqueued]
      exact h.targets
    · refine ⟨0, ?_, ?_⟩
      · rw [htqueued, hlength, hdrop, htqueue]
        cases rest <;> rfl
      · intro next hnext
        rw [hsends, htcalls]
        rw [htqueue] at hnext
        exact count_eq_zero.mpr (hfresh next hnext)
    · rw [hlength, htqueued]
      exact (List.getElem?_eq_some_iff.mp hget).1
    · intro number hsent
      rw [hsends] at hsent
      rw [hlength, htqueued]
      exact ⟨Nat.le_succ_of_le (h.sent number hsent).1, (h.sent number hsent).2⟩
    · exact .inl htcalls
  refine ⟨hcore, ?_⟩
  intro next hnext
  rw [hsends]
  rw [htqueue] at hnext
  exact hfresh next hnext

lemma Core.of_eq (h : Core s) {t : StkEnvelopes} (hqueue : t.envelopeQ = s.envelopeQ) (hcalls :
    t.calls = s.calls) (hqueued : t.queued = s.queued) (hlog : t.log = s.log) : Core t := by
  constructor
  · rw [hqueued, hlog]
    exact h.right
  · rw [hqueued, hlog]
    exact h.tries
  · rw [hlog]
    exact h.once
  · rw [hqueued]
    exact h.numbers
  · rw [hqueued]
    exact h.targets
  · rw [hqueued, hlog, hqueue, hcalls]
    exact h.queue
  · rw [hqueued, hlog]
    exact h.bound
  · rw [hqueued, hlog]
    exact h.sent
  · rw [hqueue, hcalls]
    exact h.calls

lemma Core.idle (h : Core s) (hqueue : s.envelopeQ = []) : s.calls = [] := by
  rcases h.calls with hcalls | ⟨head, hhead, -⟩
  · exact hcalls
  · rw [hqueue] at hhead
    cases hhead

lemma Core.stkSendEnvelope (h : Core s) (hserved : s.envelopeQ ≠ [] → s.calls ≠ []) {driver : Bool}
    {pdu : Option (List UInt8)} {cb : EnvelopeCb} {target : Option SmsPpTarget} {retries : ℕ}
    (htarget : cb ≠ .smsDownload → target = none) : Core (stkSendEnvelope driver s pdu cb target
    retries).2 ∧ ((stkSendEnvelope driver s pdu cb target retries).2.envelopeQ ≠ [] →
    (stkSendEnvelope driver s pdu cb target retries).2.calls ≠ []) := by
  unfold StkEnvelopes.stkSendEnvelope
  split
  · exact ⟨h, hserved⟩
  · split
    · exact ⟨h, hserved⟩
    · next tlv =>
        have hpushed := @Core.pushEnvelope s ⟨s.queued.length, tlv, retries, cb⟩ h target rfl htarget
        dsimp only
        split
        · next hone =>
            have hqueue : s.envelopeQ = [] := by
              apply eq_nil_of_length_eq_zero
              rw [StkEnvelopes.pushEnvelope, length_append] at hone
              exact Nat.succ.inj hone
            apply hpushed.envelopeQueueRun (h.idle hqueue)
            intro op hhead hsent
            rw [StkEnvelopes.pushEnvelope, hqueue] at hhead
            rw [← Option.some.inj hhead] at hsent
            exact absurd (h.sent _ hsent).2 (Nat.lt_irrefl _)
        · next hmore =>
            refine ⟨hpushed, ?_⟩
            intro _
            apply hserved
            intro hqueue
            apply hmore
            rw [StkEnvelopes.pushEnvelope, hqueue]
            rfl

end Queue

/-! ## Frames -/

section Frames

variable {s : StkEnvelopes}

lemma envelopeQueueRun_frame (s : StkEnvelopes) : (envelopeQueueRun s).envelopeQ = s.envelopeQ ∧
    (envelopeQueueRun s).queued = s.queued ∧ (envelopeQueueRun s).pending = s.pending ∧
    (envelopeQueueRun s).replies = s.replies ∧ (envelopeQueueRun s).received = s.received ∧
    callbacks (envelopeQueueRun s).log = callbacks s.log ∧
    smsPps (envelopeQueueRun s).log = smsPps s.log := by
  unfold envelopeQueueRun
  split
  · exact ⟨rfl, rfl, rfl, rfl, rfl, rfl, rfl⟩
  · refine ⟨rfl, rfl, rfl, rfl, rfl, ?_, ?_⟩
    · rw [callbacks_append]
      exact append_nil _
    · rw [smsPps_append]
      exact append_nil _

lemma stkSendEnvelope_cases (driver : Bool) (s : StkEnvelopes) (pdu : Option (List UInt8))
    (cb : EnvelopeCb) (target : Option SmsPpTarget) (retries : ℕ) : (∃ error, error ≠ 0 ∧
    stkSendEnvelope driver s pdu cb target retries = (error, s)) ∨ ∃ op t, stkSendEnvelope driver s
    pdu cb target retries = (0, t) ∧ op.cb = cb ∧ t.envelopeQ = s.envelopeQ ++ [op] ∧
    t.queued = s.queued ++ [⟨op, target⟩] ∧ t.pending = s.pending ∧ t.replies = s.replies ∧
    t.received = s.received ∧ callbacks t.log = callbacks s.log ∧ smsPps t.log = smsPps s.log := by
  unfold stkSendEnvelope
  split
  · exact .inl ⟨-38, by decide, rfl⟩
  · split
    · exact .inl ⟨-22, by decide, rfl⟩
    · next tlv =>
        refine .inr ⟨⟨s.queued.length, tlv, retries, cb⟩, ?_⟩
        dsimp only
        split
        · exact ⟨_, rfl, rfl, envelopeQueueRun_frame _⟩
        · exact ⟨_, rfl, rfl, rfl, rfl, rfl, rfl, rfl, rfl, rfl⟩

lemma Core.filterMap_owed (h : Core s) (added : QueuedEnvelope) : (callbacks s.log).filterMap
    (owed (s.queued ++ [added])) = (callbacks s.log).filterMap (owed s.queued) := by
  apply filterMap_congr
  intro callback hcallback
  have hlt : callback.1 < s.queued.length := by
    have hmem : callback.1 ∈ finished s.log := mem_map_of_mem hcallback
    rw [h.once, mem_range] at hmem
    exact Nat.lt_of_lt_of_le hmem h.bound
  unfold owed targetOf
  rw [getElem?_append_left hlt]

lemma Core.downloads_stkSendEnvelope (h : Core s) {driver : Bool} {pdu : Option (List UInt8)}
    {cb : EnvelopeCb} {target : Option SmsPpTarget} {retries : ℕ} (hdownloads : Downloads s) :
    Downloads (StkEnvelopes.stkSendEnvelope driver s pdu cb target retries).2 := by
  rcases stkSendEnvelope_cases driver s pdu cb target retries with
    ⟨error, -, heq⟩ | ⟨op, t, heq, -, -, hqueued, -, -, -, hcallbacks, hsmsPps⟩
  · rw [heq]
    exact hdownloads
  · rw [heq]
    show smsPps t.log = (callbacks t.log).filterMap (owed t.queued)
    rw [hsmsPps, hcallbacks, hqueued, h.filterMap_owed]
    exact hdownloads

end Frames

/-! ## Messages and downloads -/

section Sending

variable {driver : Bool} {s : StkEnvelopes} {pdu : Option (List UInt8)}

lemma Kept.send (h : Kept s) {cb : EnvelopeCb} {target : Option SmsPpTarget} {retries : ℕ}
    (hcb : cb ≠ .menuSelection) (htarget : cb ≠ .smsDownload → target = none) :
    Kept (stkSendEnvelope driver s pdu cb target retries).2 := by
  rcases @Core.stkSendEnvelope s h.toCore h.served driver pdu cb target retries htarget with
    ⟨hcore, hserved⟩
  refine ⟨hcore, ?_, hserved⟩
  rcases stkSendEnvelope_cases driver s pdu cb target retries with
    ⟨error, -, heq⟩ | ⟨op, t, heq, hop, hqueue, -, hpending, hreplies, hreceived, -⟩
  · rw [heq]
    exact h.toReplies
  · rw [heq]
    constructor
    · show Requests.Accounted (t.replies.map Prod.fst) t.pending.toList t.received
      rw [hreplies, hpending, hreceived]
      exact h.messages
    · have hother : ¬ isMenuSelection op = true := by
        rw [isMenuSelection, decide_eq_true_eq, hop]
        exact hcb
      show t.envelopeQ.countP _ = t.pending.toList.length
      rw [hqueue, hpending, countP_append, h.menus, countP_singleton, if_neg hother, Nat.add_zero]

lemma Kept.smsSimDownload (h : Kept s) {deliver : Bool} {cb : Option ℕ} {userdata : ℕ} :
    Kept (smsSimDownload driver s deliver pdu cb userdata).2 := by
  unfold StkEnvelopes.smsSimDownload
  split
  · exact h
  · have hset : Kept { s with smsPpCb := cb, smsPpUserdata := userdata } :=
      ⟨h.toCore.of_eq rfl rfl rfl rfl, ⟨h.messages, h.menus⟩, h.served⟩
    exact hset.send (by intro hcb; cases hcb) (fun hcb => absurd rfl hcb)

lemma Kept.replyTo (h : Kept s) (reply : SelectItemReply) :
    Kept (replyTo { s with received := s.received + 1 } s.received reply) := by
  refine ⟨h.toCore.of_eq rfl rfl rfl rfl, ⟨?_, h.menus⟩, h.served⟩
  show Requests.Accounted ((s.replies ++ [(s.received, reply)]).map Prod.fst) _ _
  rw [map_append]
  exact h.messages.answerNew

lemma Kept.sendMenuSelection (h : Kept s) (hidle : s.pending = none) :
    Kept (sendMenuSelection driver { s with received := s.received + 1 } s.received pdu) := by
  have hmenus := h.menus
  have hmessages := h.messages
  rw [hidle] at hmenus hmessages
  have hcore : Core { s with received := s.received + 1, pending := some s.received } :=
    h.toCore.of_eq rfl rfl rfl rfl
  rcases @Core.stkSendEnvelope _ hcore h.served driver pdu .menuSelection none 0 (fun _ => rfl) with
    ⟨hsent, hserved⟩
  unfold StkEnvelopes.sendMenuSelection
  rcases stkSendEnvelope_cases driver
    { s with received := s.received + 1, pending := some s.received } pdu .menuSelection none 0 with
    ⟨error, herror, heq⟩ | ⟨op, t, heq, hop, hqueue, -, hpending, hreplies, hreceived, -⟩
  · rw [heq]
    dsimp only
    rw [if_neg herror]
    refine ⟨h.toCore.of_eq rfl rfl rfl rfl, ⟨?_, hmenus⟩, h.served⟩
    show Requests.Accounted ((s.replies ++ [(s.received, _)]).map Prod.fst) [] (s.received + 1)
    rw [map_append]
    exact hmessages.answerNew
  · rw [heq] at hsent hserved ⊢
    dsimp only
    rw [if_pos rfl]
    refine ⟨hsent, ⟨?_, ?_⟩, hserved⟩
    · rw [hreplies, hpending, hreceived]
      exact hmessages.receive
    · rw [hqueue, hpending, countP_append, hmenus, countP_singleton, if_pos]
      · rfl
      · rw [isMenuSelection, decide_eq_true_eq, hop]

lemma Kept.stkSelectItem (h : Kept s) {items : Option ℕ} {args : Option SelectItemArgs} :
    Kept (stkSelectItem driver { s with received := s.received + 1 } s.received items args pdu) := by
  unfold StkEnvelopes.stkSelectItem
  split
  · exact h.replyTo _
  · next hidle =>
      split
      · exact h.replyTo _
      · split
        · exact h.replyTo _
        · split
          · exact h.replyTo _
          · split
            · exact h.replyTo _
            · exact h.sendMenuSelection (not_not.mp fun hpending => hidle (.inl hpending))

end Sending

/-! ## Answers of the driver -/

section Answers

variable {s : StkEnvelopes} {op : EnvelopeOp} {rest : List EnvelopeOp} {result : EnvelopeResult}

/-- What the callback of an envelope adds to the log behind itself. -/
def smsPpEvents (s : StkEnvelopes) (op : EnvelopeOp) (ok : Bool) (data : List UInt8) :
    List EnvelopeEvent :=
  if op.cb = .smsDownload then
    (smsPpTarget s.smsPpCb s.smsPpUserdata).toList.map fun target => .smsPp target ok data
  else []

lemma smsPpEvents_spec (s : StkEnvelopes) (op : EnvelopeOp) (ok : Bool) (data : List UInt8) :
    SmsPpEvents (smsPpEvents s op ok data) := by
  intro event hevent
  unfold smsPpEvents at hevent
  split at hevent
  · rcases mem_map.mp hevent with ⟨target, -, rfl⟩
    exact ⟨target, ok, data, rfl⟩
  · cases hevent

/-- The answer to the message that is pending, in the callback of a menu selection. -/
def menuReplies (s : StkEnvelopes) (op : EnvelopeOp) (ok : Bool) : List (ℕ × SelectItemReply) :=
  if op.cb = .menuSelection then
    s.pending.toList.map fun msg => (msg, if ok then .ok else .failed)
  else []

lemma callEnvelopeCb_spec (hmenu : op.cb = .menuSelection → s.pending ≠ none) (ok : Bool)
    (data : List UInt8) : ∃ t, callEnvelopeCb s op ok data = some t ∧ t.calls = s.calls ∧
    t.envelopeQ = s.envelopeQ ∧ t.queued = s.queued ∧ t.log = s.log ++ [.called op.number ok data]
    ++ smsPpEvents s op ok data ∧ t.pending = (if op.cb = .menuSelection then none else s.pending) ∧
    t.replies = s.replies ++ menuReplies s op ok ∧ t.received = s.received := by
  unfold callEnvelopeCb smsPpEvents menuReplies
  cases hcb : op.cb with
  | menuSelection =>
    cases ok with
    | true =>
      exact ⟨_, (if_neg (hmenu hcb)).trans (if_pos rfl), rfl, rfl, rfl,
        (append_nil _).symm, rfl, rfl, rfl⟩
    | false =>
      exact ⟨_, (if_neg (hmenu hcb)).trans (if_neg Bool.false_ne_true), rfl, rfl, rfl,
        (append_nil _).symm, rfl, rfl, rfl⟩
  | smsDownload => exact ⟨_, rfl, rfl, rfl, rfl, rfl, rfl, (append_nil _).symm, rfl⟩
  | timerExpiration =>
    exact ⟨_, rfl, rfl, rfl, rfl, (append_nil _).symm, rfl, (append_nil _).symm, rfl⟩
  | cbsDownload =>
    exact ⟨_, rfl, rfl, rfl, rfl, (append_nil _).symm, rfl, (append_nil _).symm, rfl⟩

lemma Core.of_call (h : Core s) {i number : ℕ} (hcall : s.calls[i]? = some number) :
    ∃ op rest, s.envelopeQ = op :: rest ∧ number = op.number ∧ s.calls.eraseIdx i = [] := by
  rcases h.calls with hcalls | ⟨op, hhead, hcalls⟩
  · rw [hcalls] at hcall
    cases hcall
  · rw [hcalls, getElem?_singleton] at hcall
    split at hcall
    · next hzero =>
        refine ⟨op, s.envelopeQ.tail, eq_cons_of_mem_head? hhead, ?_, ?_⟩
        · exact (Option.some.inj hcall).symm
        · rw [hcalls, hzero]
          rfl
    · cases hcall

/-- The menu selection at the head of the queue is that of the message that is pending. -/
lemma Replies.pending (h : Replies s) (hqueue : s.envelopeQ = op :: rest) (hcb : op.cb =
    .menuSelection) : (∃ msg, s.pending = some msg) ∧ rest.countP isMenuSelection = 0 := by
  have hmenus := h.menus
  have hmenu : isMenuSelection op = true := decide_eq_true hcb
  rw [hqueue, countP_cons_of_pos hmenu] at hmenus
  cases hpending : s.pending with
  | none =>
    rw [hpending] at hmenus
    exact absurd hmenus (Nat.succ_ne_zero _)
  | some msg =>
    rw [hpending] at hmenus
    exact ⟨⟨msg, rfl⟩, Nat.succ.inj hmenus⟩

lemma Replies.called (h : Replies s) (hqueue : s.envelopeQ = op :: rest) {ok : Bool}
    {t : StkEnvelopes} (htqueue : t.envelopeQ = rest) (hpending : t.pending = if op.cb =
    .menuSelection then none else s.pending) (hreplies : t.replies =
    s.replies ++ menuReplies s op ok) (hreceived : t.received = s.received) : Replies t := by
  by_cases hcb : op.cb = .menuSelection
  · rcases h.pending hqueue hcb with ⟨⟨msg, hmsg⟩, hrest⟩
    have hmessages := h.messages
    rw [if_pos hcb] at hpending
    rw [menuReplies, if_pos hcb, hmsg] at hreplies
    rw [hmsg] at hmessages
    constructor
    · rw [hreplies, hpending, hreceived, map_append]
      exact hmessages.answer
    · rw [htqueue, hpending, hrest]
      rfl
  · rw [if_neg hcb] at hpending
    rw [menuReplies, if_neg hcb, append_nil] at hreplies
    constructor
    · rw [hreplies, hpending, hreceived]
      exact h.messages
    · have hmenus := h.menus
      have hother : ¬ isMenuSelection op = true := fun heq => hcb (of_decide_eq_true heq)
      rw [hqueue, countP_cons_of_neg hother] at hmenus
      rw [htqueue, hpending]
      exact hmenus

/-- What `sms_pp_cb` is called with is what was owed exactly if the callback and user data are
those of the download. -/
lemma smsPps_smsPpEvents_iff (ok : Bool) (data : List UInt8)
    (htarget : op.cb ≠ .smsDownload → targetOf s.queued op.number = none) :
    smsPps (smsPpEvents s op ok data) = (owed s.queued (op.number, ok, data)).toList ↔ (op.cb =
    .smsDownload → smsPpTarget s.smsPpCb s.smsPpUserdata = targetOf s.queued op.number) := by
  unfold smsPpEvents owed
  by_cases hcb : op.cb = .smsDownload
  · rw [if_pos hcb]
    have hread : smsPps ((smsPpTarget s.smsPpCb s.smsPpUserdata).toList.map fun target =>
        EnvelopeEvent.smsPp target ok data) =
          ((smsPpTarget s.smsPpCb s.smsPpUserdata).map fun target =>
            (target, ok, data)).toList := by
      cases smsPpTarget s.smsPpCb s.smsPpUserdata <;> rfl
    rw [hread]
    constructor
    · intro heq _
      cases hslot : smsPpTarget s.smsPpCb s.smsPpUserdata with
      | none =>
        cases hown : targetOf s.queued op.number with
        | none => rfl
        | some own =>
          rw [hslot, hown] at heq
          cases heq
      | some slot =>
        cases hown : targetOf s.queued op.number with
        | none =>
          rw [hslot, hown] at heq
          cases heq
        | some own =>
          rw [hslot, hown] at heq
          cases heq
          rfl
    · intro heq
      rw [heq hcb]
  · rw [if_neg hcb, htarget hcb]
    exact ⟨fun _ hsms => absurd hsms hcb, fun _ => rfl⟩

lemma Core.targetOf_eq_none (h : Core s) (hqueue : s.envelopeQ = op :: rest)
    (hcb : op.cb ≠ .smsDownload) : targetOf s.queued op.number = none := by
  rcases h.head hqueue with ⟨envelope, used, hget, hop, hnumber, -⟩
  rw [targetOf, hnumber, hget]
  apply h.targets envelope (mem_of_getElem? hget)
  rw [hop]
  exact hcb

lemma Kept.envelopeCb (h : Kept s) {i number : ℕ} (hcall : s.calls[i]? = some number) (hqueue :
    s.envelopeQ = op :: rest) (result : EnvelopeResult) : ∃ t, envelopeCb (answered s i number
    result) result = some t ∧ Kept t ∧ (Downloads s → (Downloads t ↔ (op.cb = .smsDownload → retries
    op result = false → smsPpTarget s.smsPpCb s.smsPpUserdata = targetOf s.queued op.number))) := by
  rcases h.of_call hcall with ⟨op', rest', hqueue', hnumber, herase⟩
  rw [hqueue, cons_eq_cons] at hqueue'
  rcases hqueue' with ⟨rfl, rfl⟩
  have hcalls : s.calls = [op.number] := by
    rcases h.calls with hcalls | ⟨head, hhead, hcalls⟩
    · rw [hcalls] at hcall
      cases hcall
    · rw [hqueue] at hhead
      rw [hcalls, Option.some.inj hhead]
  have hanswered : answered s i number result =
      { s with calls := [], log := s.log ++ [.answered op.number result] } := by
    rw [answered, herase, hnumber]
  unfold StkEnvelopes.envelopeCb
  rw [hanswered]
  dsimp only
  rw [hqueue]
  dsimp only
  cases hretries : retries op result with
  | true =>
    rw [if_pos rfl]
    unfold retries at hretries
    rw [Bool.and_eq_true, decide_eq_true_eq] at hretries
    have hagain := @Core.again s op rest h.toCore hqueue hcalls result hretries.1
    have hrun := hagain.envelopeQueueRun rfl (by
      intro head hhead _
      refine ⟨result, ?_, hretries.2⟩
      rw [← Option.some.inj hhead]
      exact getLast?_append_of_ne_nil _ (cons_ne_nil _ _))
    rcases envelopeQueueRun_frame
      { s with
        calls := []
        log := s.log ++ [.answered op.number result]
        envelopeQ := { op with retries := op.retries - 1 } :: rest } with
      ⟨htqueue, htqueued, htpending, htreplies, htreceived, htcallbacks, htsmsPps⟩
    refine ⟨_, rfl, ⟨hrun.1, ?_, hrun.2⟩, ?_⟩
    · constructor
      · rw [htreplies, htpending, htreceived]
        exact h.messages
      · have hmenus := h.menus
        rw [hqueue, countP_cons] at hmenus
        rw [htqueue, htpending, countP_cons]
        exact hmenus
    · intro hdownloads
      constructor
      · intro _ _ hfalse
        cases hfalse
      · intro _
        unfold Downloads
        rw [htcallbacks, htsmsPps, htqueued, callbacks_append, smsPps_append]
        show _ ++ [] = (_ ++ []).filterMap _
        rw [append_nil, append_nil]
        exact hdownloads
  | false =>
    rw [if_neg Bool.false_ne_true]
    have hmenu : op.cb = .menuSelection → s.pending ≠ none := by
      intro hcb hnone
      rcases (h.toReplies.pending hqueue hcb).1 with ⟨msg, hmsg⟩
      rw [hnone] at hmsg
      cases hmsg
    rcases @callEnvelopeCb_spec
      { s with
        calls := []
        log := s.log ++ [.answered op.number result]
        envelopeQ := rest } op hmenu result.ok result.data with
      ⟨t, ht, htcalls, htqueue, htqueued, htlog, htpending, htreplies, htreceived⟩
    rw [ht]
    have hlog : t.log = s.log ++ [.answered op.number result] ++
        [.called op.number result.ok result.data] ++
          smsPpEvents s op result.ok result.data := htlog
    have hevents := smsPpEvents_spec s op result.ok result.data
    rcases h.toCore.finish hqueue hevents htcalls htqueue htqueued hlog with ⟨hcore, hfresh⟩
    have hrun := hcore.envelopeQueueRun htcalls fun next hnext hsent =>
      absurd hsent (hfresh next hnext)
    rcases envelopeQueueRun_frame t with
      ⟨huqueue, huqueued, hupending, hureplies, hureceived, hucallbacks, husmsPps⟩
    have hreplies := h.toReplies.called hqueue htqueue htpending htreplies htreceived
    refine ⟨_, rfl, ⟨hrun.1, ?_, hrun.2⟩, ?_⟩
    · constructor
      · rw [hureplies, hupending, hureceived]
        exact hreplies.messages
      · rw [huqueue, hupending]
        exact hreplies.menus
    · intro hdownloads
      have hiff := @smsPps_smsPpEvents_iff s op result.ok result.data
        (h.toCore.targetOf_eq_none hqueue)
      have hcallbacks : callbacks t.log =
          callbacks s.log ++ [(op.number, result.ok, result.data)] := by
        rw [hlog, callbacks_append, hevents.readings.2.1, append_nil, callbacks_append,
          callbacks_append]
        show _ ++ [] ++ [_] = _
        rw [append_nil]
      have hsmsPps : smsPps t.log = smsPps s.log ++
          smsPps (smsPpEvents s op result.ok result.data) := by
        rw [hlog, smsPps_append, smsPps_append, smsPps_append]
        show _ ++ [] ++ [] ++ _ = _
        rw [append_nil, append_nil]
      unfold Downloads
      rw [hucallbacks, husmsPps, huqueued, hcallbacks, hsmsPps, htqueued, filterMap_append,
        hdownloads, append_cancel_left_eq]
      show _ = [_].filterMap _ ↔ _
      rw [filterMap_cons, filterMap_nil]
      constructor
      · intro heq hcb _
        apply hiff.mp _ hcb
        rw [heq]
        cases owed s.queued (op.number, result.ok, result.data) <;> rfl
      · intro hsound
        rw [hiff.mpr fun hcb => hsound hcb rfl]
        cases owed s.queued (op.number, result.ok, result.data) <;> rfl

end Answers

/-! ## Runs -/

section Runs

variable {driver : Bool} {s : StkEnvelopes}

lemma kept_start : Kept start := by
  refine ⟨?_, ⟨Requests.accounted_nil, rfl⟩, fun hne => absurd rfl hne⟩
  constructor
  · exact Trace.atEach_nil
  · intro number envelope hget
    cases hget
  · rfl
  · intro number envelope hget
    cases hget
  · intro envelope hmem
    cases hmem
  · exact ⟨0, rfl, fun op hhead => nomatch hhead⟩
  · exact Nat.le_refl 0
  · intro number hsent
    cases hsent
  · exact .inl rfl

lemma Kept.good (h : Kept s) (hdownloads : Downloads s) : Good s := by
  constructor
  · rcases h.calls with hcalls | ⟨op, -, hcalls⟩
    · rw [hcalls]
      exact Nat.zero_le 1
    · rw [hcalls]
      exact Nat.le_refl 1
  · exact h.served
  · exact h.right
  · exact h.tries
  · rw [h.toCore.length_queue]
    exact h.once
  · exact hdownloads
  · exact h.messages

/-- What an input does, whatever it is; the callbacks of downloads are called as they are to be
exactly if the input has what it has to meet. -/
lemma Kept.step (h : Kept s) (input : EnvelopeInput) :
    ∃ t, step driver s input = some t ∧ Kept t ∧ (Downloads s → (Downloads t ↔ Sound s input)) := by
  cases input with
  | selectItem items args pdu =>
    refine ⟨_, rfl, h.stkSelectItem, ?_⟩
    intro hdownloads
    refine ⟨fun _ => trivial, fun _ => ?_⟩
    unfold StkEnvelopes.stkSelectItem
    split
    · exact hdownloads
    · split
      · exact hdownloads
      · split
        · exact hdownloads
        · split
          · exact hdownloads
          · split
            · exact hdownloads
            · unfold StkEnvelopes.sendMenuSelection
              have hcore : Core { s with received := s.received + 1, pending := some s.received } :=
                h.toCore.of_eq rfl rfl rfl rfl
              have hsent := @Core.downloads_stkSendEnvelope _ hcore driver pdu .menuSelection none
                0 hdownloads
              dsimp only
              split
              · exact hsent
              · exact hsent
  | timerExpiration pdu =>
    refine ⟨_, rfl, h.send (by intro hcb; cases hcb) (fun _ => rfl), ?_⟩
    intro hdownloads
    exact ⟨fun _ => trivial, fun _ => h.toCore.downloads_stkSendEnvelope hdownloads⟩
  | cbsDownload pdu =>
    refine ⟨_, rfl, h.send (by intro hcb; cases hcb) (fun _ => rfl), ?_⟩
    intro hdownloads
    exact ⟨fun _ => trivial, fun _ => h.toCore.downloads_stkSendEnvelope hdownloads⟩
  | smsDownload deliver pdu cb userdata =>
    refine ⟨_, rfl, h.smsSimDownload, ?_⟩
    intro hdownloads
    refine ⟨fun _ => trivial, fun _ => ?_⟩
    unfold StkEnvelopes.smsSimDownload
    split
    · exact hdownloads
    · have hcore : Core { s with smsPpCb := cb, smsPpUserdata := userdata } :=
        h.toCore.of_eq rfl rfl rfl rfl
      exact hcore.downloads_stkSendEnvelope hdownloads
  | reply i result =>
    unfold StkEnvelopes.step
    dsimp only
    split
    · next hcall =>
        refine ⟨s, rfl, h, ?_⟩
        intro hdownloads
        refine ⟨?_, fun _ => hdownloads⟩
        intro _ number op hfound
        rw [hcall] at hfound
        cases hfound
    · next number hcall =>
        rcases h.toCore.of_call hcall with ⟨op, rest, hqueue, -⟩
        rcases h.envelopeCb hcall hqueue result with ⟨t, ht, hkept, hdownloads⟩
        refine ⟨t, ht, hkept, ?_⟩
        intro hbefore
        rw [hdownloads hbefore]
        constructor
        · intro hsound number' op' _ hhead
          rw [hqueue] at hhead
          rw [← Option.some.inj hhead]
          exact hsound
        · intro hsound
          exact hsound number op hcall (by rw [hqueue]; rfl)
  | agentRemoved =>
    refine ⟨_, rfl, ⟨h.toCore.of_eq rfl rfl rfl rfl, ⟨h.messages, h.menus⟩, h.served⟩, ?_⟩
    intro hdownloads
    exact ⟨fun _ => trivial, fun _ => hdownloads⟩

/-- A run of the queue keeps every promise exactly if the answers that end downloads come while
no other download has taken their callback's place. -/
theorem envelope_run_iff (driver : Bool) (inputs : List EnvelopeInput) : Machine.Safe (step driver)
    Good start inputs ↔ Machine.EachStep (step driver) Sound start inputs := by
  refine Machine.safe_iff (fun (s : StkEnvelopes) (h : Kept s ∧ Downloads s) => h.1.good h.2) ?_ ?_
    ⟨kept_start, rfl⟩ inputs
  · intro s input ⟨h, hdownloads⟩ hsound
    rcases @Kept.step driver s h input with ⟨t, ht, hkept, hiff⟩
    exact ⟨t, ht, hkept, (hiff hdownloads).mpr hsound⟩
  · intro s input t ⟨h, hdownloads⟩ hunsound ht hgood
    rcases @Kept.step driver s h input with ⟨t', ht', hkept, hiff⟩
    rw [ht] at ht'
    rw [← Option.some.inj ht'] at hiff
    exact hunsound ((hiff hdownloads).mp hgood.downloads)

/-- Two downloads are queued, and the callback of the second is called for both. -/
theorem second_download_takes_callback : ¬ ∀ (driver : Bool) (inputs : List EnvelopeInput),
    Machine.Safe (step driver) Good start inputs := by
  intro h
  have hrun := h true
    [.smsDownload true (some [0xd1]) (some 1) 1, .smsDownload true (some [0xd1]) (some 2) 2,
      .reply 0 ⟨.noError, []⟩]
  rcases hrun.finish with ⟨t, ht, hgood⟩
  cases ht
  have hdownloads := hgood.downloads
  revert hdownloads
  decide

end Runs

end StkEnvelopes

end Phonelets.Stk
