import Phonelets.Sms.TxQueue

/-! # Runs of the transmit queue

Whatever comes to the queue, each of its messages goes out once, in its turn and PDU by
PDU, and the queue does not stall while there is a network. The invariant is in two parts:
`TxCore` holds in the middle of an input too, also while a callback cancels, and `Awake`
says that somebody will go on with the queue.
-/

namespace Phonelets.Sms

open List
open Trace

/-! ## What a log says -/

namespace TxEvent

def name : TxEvent → TxName
  | queued name _ => name
  | submitted name _ => name
  | accepted name _ => name
  | refused name _ _ => name
  | left name _ => name

/-- The PDU has been given to the driver, which has not answered yet. -/
def InFlight (log : List TxEvent) (name : TxName) (seq : ℕ) : Prop :=
  log.count (.accepted name seq) + log.count (.refused name seq true) +
    log.count (.refused name seq false) < log.count (.submitted name seq)

/-- The event is in order after what was before it. -/
def InOrder (before : List TxEvent) : TxEvent → Prop
  -- ids are given in the order of the queue, each once
  | queued name _ => ∀ name' pdus, .queued name' pdus ∈ before → name'.id < name.id
  -- the first message that has not left, and its first PDU that was not accepted
  | submitted name seq =>
    (∃ pdus, .queued name pdus ∈ before ∧ seq < pdus.length) ∧
    (∀ state, .left name state ∉ before) ∧
    (∀ name' pdus, .queued name' pdus ∈ before → name'.id < name.id →
      ∃ state, .left name' state ∈ before) ∧
    (∀ k < seq, .accepted name k ∈ before) ∧ .accepted name seq ∉ before ∧
    ∀ name' k, ¬ InFlight before name' k
  | accepted name seq => InFlight before name seq
  | refused name seq _ => InFlight before name seq
  -- a message leaves once, and says that it was sent if it was
  | left name state =>
    (∃ pdus, .queued name pdus ∈ before ∧
      (state = .sent ↔ ∀ k < pdus.length, .accepted name k ∈ before)) ∧
    (∀ state', .left name state' ∉ before) ∧
    (state = .cancelled → ∀ k, .accepted name k ∉ before ∧ ¬ InFlight before name k)

end TxEvent

open TxEvent (InFlight InOrder)

namespace OfonoSms

def Pending (s : OfonoSms) : Prop := s.txSource ≠ 0 ∧ ∃ seconds, s.sources = [(s.txSource, seconds)]

/-- A timeout is pending or the driver is at work. -/
def Awake (s : OfonoSms) : Prop :=
  s.registered = true → s.txq ≠ [] → s.Pending ∨ s.txActive = true

/-- What is promised of the queue. -/
structure Good (s : OfonoSms) : Prop where
  /-- the driver has at most one PDU -/
  single : s.submits.length ≤ 1
  /-- with a network the queue goes on, in one way only -/
  awake : s.registered = true → s.txq ≠ [] → (s.Pending ↔ ¬ s.txActive = true)
  /-- there is no other timeout than the one that is known -/
  timeouts : s.sources.map Prod.fst = if s.txSource = 0 then [] else [s.txSource]
  /-- all that happened was in order -/
  events : AtEach InOrder s.log
  /-- the queue holds what was queued and has not left -/
  queue : ∀ name, name ∈ s.txq.map TxQueueEntry.name ↔
    (∃ pdus, .queued name pdus ∈ s.log) ∧ ∀ state, .left name state ∉ s.log
  /-- a PDU is tried four times at most, besides the tries that failed without a network -/
  tries : ∀ name seq,
    s.log.count (.submitted name seq) ≤ 4 + s.log.count (.refused name seq false)
  /-- what can be cancelled has not been begun -/
  cancels : ∀ uuid, (s.txqCancel uuid).1 = .ok → ∃ entry ∈ s.txq, entry.uuid = uuid ∧
    (∀ k, .accepted entry.name k ∉ s.log) ∧ ∀ k, ¬ InFlight s.log entry.name k

end OfonoSms

/-! ## The invariant -/

/-- The entry is where the log says that it is. -/
structure TxQueueEntry.Tracks (entry : TxQueueEntry) (log : List TxEvent) : Prop where
  queued : .queued entry.name entry.pdus.pdus ∈ log
  stays : ∀ state, .left entry.name state ∉ log
  accepted : ∀ k, .accepted entry.name k ∈ log ↔ k < entry.curPdu
  more : entry.curPdu < entry.numPdus
  retry : log.count (.refused entry.name entry.curPdu true) = entry.retry
  retry_lt : entry.retry < 4
  later : ∀ k, entry.curPdu < k → .refused entry.name k true ∉ log

variable {entry : TxQueueEntry} {log : List TxEvent}

lemma TxQueueEntry.Tracks.record
    (h : entry.Tracks log) {event : TxEvent} (hne : event.name ≠ entry.name) :
    entry.Tracks (log ++ [event]) where
  queued := mem_append_left _ h.queued
  stays := by
    intro state hmem
    rcases mem_append.mp hmem with hmem | hmem
    · exact h.stays state hmem
    · rw [← mem_singleton.mp hmem] at hne
      exact hne rfl
  accepted := by
    intro k
    rw [← h.accepted k, mem_append, mem_singleton]
    refine or_iff_left fun heq => ?_
    rw [← heq] at hne
    exact hne rfl
  more := h.more
  retry := by
    rw [count_append, h.retry, count_eq_zero_of_not_mem, Nat.add_zero]
    intro hmem
    rw [← mem_singleton.mp hmem] at hne
    exact hne rfl
  retry_lt := h.retry_lt
  later := by
    intro k hk hmem
    rcases mem_append.mp hmem with hmem | hmem
    · exact h.later k hk hmem
    · rw [← mem_singleton.mp hmem] at hne
      exact hne rfl

lemma TxQueueEntry.Tracks.submitted (h : entry.Tracks log) (name : TxName) (seq : ℕ) :
    entry.Tracks (log ++ [.submitted name seq]) where
  queued := mem_append_left _ h.queued
  stays := by simpa using h.stays
  accepted := by simpa using h.accepted
  more := h.more
  retry := by simpa [count_append] using h.retry
  retry_lt := h.retry_lt
  later := by simpa using h.later

lemma TxQueueEntry.Tracks.lost
    (h : entry.Tracks log) : entry.Tracks (log ++ [.refused entry.name entry.curPdu false]) where
  queued := mem_append_left _ h.queued
  stays := by simpa using h.stays
  accepted := by simpa using h.accepted
  more := h.more
  retry := by simpa [count_append] using h.retry
  retry_lt := h.retry_lt
  later := by simpa using h.later

lemma TxQueueEntry.Tracks.retried (h : entry.Tracks log) (hlt : entry.retry + 1 < 4) :
    TxQueueEntry.Tracks { entry with retry := entry.retry + 1 }
      (log ++ [.refused entry.name entry.curPdu true]) where
  queued := mem_append_left _ h.queued
  stays := by
    intro state
    simpa using h.stays state
  accepted := by
    intro k
    simpa using h.accepted k
  more := h.more
  retry := by
    show List.count (TxEvent.refused entry.name entry.curPdu true) _ = entry.retry + 1
    rw [count_append, h.retry, count_singleton_self]
  retry_lt := hlt
  later := by
    intro k hk hmem
    have hk : entry.curPdu < k := hk
    rcases mem_append.mp hmem with hmem | hmem
    · exact h.later k hk hmem
    · have hseq := (TxEvent.refused.inj (mem_singleton.mp hmem)).2.1
      omega

lemma TxQueueEntry.Tracks.accept
    (h : entry.Tracks log) (hmore : entry.curPdu + 1 < entry.numPdus) :
    TxQueueEntry.Tracks { entry with curPdu := entry.curPdu + 1, retry := 0 }
      (log ++ [.accepted entry.name entry.curPdu]) where
  queued := mem_append_left _ h.queued
  stays := by
    intro state
    simpa using h.stays state
  accepted := by
    intro k
    show TxEvent.accepted entry.name k ∈ _ ↔ k < entry.curPdu + 1
    rw [mem_append, h.accepted, mem_singleton, Nat.lt_succ_iff_lt_or_eq]
    simp
  more := hmore
  retry := by
    show List.count (TxEvent.refused entry.name (entry.curPdu + 1) true) _ = 0
    rw [count_eq_zero]
    simpa using h.later (entry.curPdu + 1) (Nat.lt_succ_self _)
  retry_lt := Nat.zero_lt_succ 3
  later := by
    intro k hk
    have hlater := h.later k (Nat.lt_of_succ_lt hk)
    simpa using hlater

namespace OfonoSms

/-- How often the PDU is with the driver. -/
def flying (s : OfonoSms) (name : TxName) (seq : ℕ) : ℕ :=
  (s.submits.map fun x => (x.name, x.seq)).count (name, seq)

/-- The queue, the timeout, the driver and the log belong together; the entry of the name
`busy` is not looked at. -/
structure TxCore (s : OfonoSms) (busy : Option TxName) : Prop where
  timeouts : s.sources = [] ∧ s.txSource = 0 ∨ s.Pending ∧ s.txq ≠ [] ∧ s.txActive = false
  driver : s.submits = [] ∧ s.txActive = false ∨ ∃ head rest submission, s.txq = head :: rest ∧
    s.submits = [submission] ∧ submission.name = head.name ∧ submission.seq = head.curPdu ∧
    s.txActive = true
  ids : s.txq.Pairwise fun e e' => e.id < e'.id
  counter : ∀ e ∈ s.txq, e.id < s.txCounter
  entries : ∀ e ∈ s.txq, some e.name ≠ busy → e.Tracks s.log
  waiting : ∀ e ∈ s.txq.tail, e.curPdu = 0
  known : ∀ name pdus, .queued name pdus ∈ s.log →
    name ∈ s.txq.map TxQueueEntry.name ∨ ∃ state, .left name state ∈ s.log
  below : ∀ event ∈ s.log, event.name.id < s.txCounter
  flight : ∀ name seq, s.log.count (.submitted name seq) =
    s.log.count (.accepted name seq) + s.log.count (.refused name seq true) +
      s.log.count (.refused name seq false) + s.flying name seq
  tries : ∀ name seq,
    s.log.count (.submitted name seq) ≤ 4 + s.log.count (.refused name seq false)
  events : AtEach InOrder s.log

variable {s t : OfonoSms} {busy : Option TxName}

lemma TxCore.inFlight_iff (h : s.TxCore busy) (name : TxName) (seq : ℕ) :
    InFlight s.log name seq ↔ 0 < s.flying name seq := by
  have hflight := h.flight name seq
  unfold InFlight
  omega

lemma flying_eq_zero {name : TxName} (h : ∀ x ∈ s.submits, x.name ≠ name) (seq : ℕ) :
    s.flying name seq = 0 := by
  unfold flying
  rw [count_eq_zero]
  intro hmem
  rcases mem_map.mp hmem with ⟨x, hx, heq⟩
  exact h x hx (Prod.mk.inj heq).1

variable {head : TxQueueEntry} {rest : List TxQueueEntry}

lemma TxCore.rest_ne (h : s.TxCore busy)
    (htxq : s.txq = head :: rest) {e : TxQueueEntry} (he : e ∈ rest) : e.name ≠ head.name := by
  have hids := h.ids
  rw [htxq] at hids
  intro heq
  have hlt := (pairwise_cons.mp hids).1 e he
  exact (Nat.ne_of_gt hlt) (congrArg TxName.id heq)

lemma TxCore.weaken (h : s.TxCore none) (name : TxName) : s.TxCore (some name) :=
  { h with entries := fun e he _ => h.entries e he nofun }

lemma TxCore.settle {head : TxQueueEntry} {rest : List TxQueueEntry} (h : s.TxCore (some head.name))
    (htxq : s.txq = head :: rest) (htracks : head.Tracks s.log) : s.TxCore none :=
  { h with
    entries := by
      intro e he _
      by_cases hname : e.name = head.name
      · rw [htxq] at he
        rcases mem_cons.mp he with rfl | he
        · exact htracks
        · exact absurd hname (h.rest_ne htxq he)
      · exact h.entries e he fun heq => hname (Option.some.inj heq) }

lemma TxCore.ofBus (h : s.TxCore busy) (files : TxFiles) (messages : List MsgId) (ref : ℕ) :
    TxCore { s with files, messages, ref } busy := { h with }

lemma TxCore.idle_of_nil (h : s.TxCore busy) (htxq : s.txq = []) :
    s.sources = [] ∧ s.txSource = 0 ∧ s.submits = [] ∧ s.txActive = false := by
  have hsources : s.sources = [] ∧ s.txSource = 0 := by
    rcases h.timeouts with hidle | ⟨-, hne, -⟩
    · exact hidle
    · exact absurd htxq hne
  rcases h.driver with hidle | ⟨head, rest, _, heq, -⟩
  · exact ⟨hsources.1, hsources.2, hidle⟩
  · rw [htxq] at heq
    cases heq

lemma TxCore.timeoutAdd (h : s.TxCore busy) (hsources : s.sources = []) (htxq : s.txq ≠ [])
    (hactive : s.txActive = false) (seconds : ℕ) :
    (s.timeoutAdd seconds).TxCore busy ∧ (s.timeoutAdd seconds).Pending := by
  have hpending : (s.timeoutAdd seconds).Pending := by
    refine ⟨Nat.succ_ne_zero _, seconds, ?_⟩
    simp [OfonoSms.timeoutAdd, hsources]
  exact ⟨{ h with timeouts := .inr ⟨hpending, htxq, hactive⟩ }, hpending⟩

lemma Pending.sourceRemove (h : s.Pending) : s.sourceRemove.sources = [] := by
  rcases h with ⟨-, seconds, hsources⟩
  simp [OfonoSms.sourceRemove, hsources]

/-! ### One entry leaves -/

/-- The entry may leave like this. -/
structure Leaving (s : OfonoSms) (entry : TxQueueEntry) (state : MessageState) : Prop where
  queued : .queued entry.name entry.pdus.pdus ∈ s.log
  stays : ∀ state, .left entry.name state ∉ s.log
  accepted : ∀ k, .accepted entry.name k ∈ s.log ↔ k < entry.curPdu
  le : entry.curPdu ≤ entry.numPdus
  sent : state = .sent ↔ entry.curPdu = entry.numPdus
  cancelled : state = .cancelled → entry.curPdu = 0
  idle : ∀ x ∈ s.submits, x.name ≠ entry.name
  more : s.txSource ≠ 0 → ∃ e ∈ s.txq, e.name ≠ entry.name

variable {entry : TxQueueEntry} {state : MessageState}

lemma Leaving.inOrder (h : s.Leaving entry state) (hcore : s.TxCore busy) :
    InOrder s.log (.left entry.name state) := by
  refine ⟨⟨_, h.queued, ?_⟩, h.stays, ?_⟩
  · rw [h.sent]
    have hle := h.le
    constructor
    · intro heq k hk
      rw [h.accepted, heq]
      exact hk
    · intro hall
      rcases Nat.lt_or_ge entry.curPdu entry.numPdus with hlt | hge
      · exact absurd ((h.accepted _).mp (hall _ hlt)) (Nat.lt_irrefl _)
      · omega
  · intro hstate k
    have hzero := h.cancelled hstate
    refine ⟨?_, ?_⟩
    · rw [h.accepted, hzero]
      exact Nat.not_lt_zero k
    · rw [hcore.inFlight_iff, flying_eq_zero h.idle]
      exact Nat.lt_irrefl 0

lemma TxCore.leave
    (h : s.TxCore (some entry.name)) (hentry : entry ∈ s.txq) (hleaving : s.Leaving entry state) :
    ((s.deleteLink entry).record (.left entry.name state)).TxCore none where
  timeouts := by
    rcases h.timeouts with hidle | ⟨hpending, -, hactive⟩
    · exact .inl hidle
    · refine .inr ⟨hpending, ?_, hactive⟩
      rcases hleaving.more hpending.1 with ⟨e, he, hne⟩
      exact ne_nil_of_mem (mem_filter.mpr ⟨he, by simpa using hne⟩)
  driver := by
    rcases h.driver with hidle | ⟨head, rest, x, htxq, hsubmits, hname, hseq, hactive⟩
    · exact .inl hidle
    · have hne : head.name ≠ entry.name := by
        rw [← hname]
        exact hleaving.idle x (by simp [hsubmits])
      refine .inr ⟨head, rest.filter (fun e => e.name ≠ entry.name), x, ?_, hsubmits, hname, hseq, hactive⟩
      show s.txq.filter (fun e => e.name ≠ entry.name) = _
      rw [htxq, filter_cons_of_pos (by simpa using hne)]
  ids := h.ids.filter _
  counter := fun e he => h.counter e (mem_of_mem_filter he)
  entries := by
    intro e he _
    rcases mem_filter.mp he with ⟨he, hne⟩
    have hne : e.name ≠ entry.name := by simpa using hne
    exact (h.entries e he fun heq => hne (Option.some.inj heq)).record hne.symm
  waiting := fun e he => h.waiting e (filter_sublist.tail.subset he)
  known := by
    intro name pdus hmem
    have hmem : .queued name pdus ∈ s.log := by simpa [record, deleteLink] using hmem
    by_cases hname : name = entry.name
    · exact .inr ⟨state, by simp [record, hname]⟩
    · rcases h.known name pdus hmem with hin | ⟨state', hleft⟩
      · rcases mem_map.mp hin with ⟨e, he, rfl⟩
        exact .inl (mem_map_of_mem (mem_filter.mpr ⟨he, by simpa using hname⟩))
      · exact .inr ⟨state', mem_append_left _ hleft⟩
  below := by
    intro event hevent
    rcases mem_append.mp hevent with hevent | hevent
    · exact h.below event hevent
    · rw [mem_singleton.mp hevent]
      exact h.counter entry hentry
  flight := by
    intro name seq
    have hflight := h.flight name seq
    simpa [record, deleteLink, count_append, flying] using hflight
  tries := by
    intro name seq
    have htries := h.tries name seq
    simpa [record, deleteLink, count_append] using htries
  events := atEach_snoc.mpr ⟨h.events, hleaving.inOrder h⟩

/-! ### Cancelling -/

/-- What a cancel may change. -/
structure Frame (s t : OfonoSms) : Prop where
  core : t.TxCore none
  registered : t.registered = s.registered
  active : t.txActive = s.txActive
  idle : s.txSource = 0 → t.txSource = 0
  awake : s.Awake → t.Awake

lemma Frame.refl (h : s.TxCore none) : Frame s s := ⟨h, rfl, rfl, id, id⟩

lemma Frame.trans {u : OfonoSms} (h : Frame s t) (h' : Frame t u) : Frame s u where
  core := h'.core
  registered := h'.registered.trans h.registered
  active := h'.active.trans h.active
  idle := fun hs => h'.idle (h.idle hs)
  awake := fun hs => h'.awake (h.awake hs)

variable {cancel : OfonoSms → MsgId → OfonoSms}

lemma foldl_frame (hcancel : ∀ s uuid, s.TxCore none → Frame s (cancel s uuid)) (uuids : List MsgId)
    (h : s.TxCore none) : Frame s (uuids.foldl cancel s) := by
  induction uuids generalizing s with
  | nil => exact Frame.refl h
  | cons uuid uuids ih =>
    have hfirst := hcancel s uuid h
    exact hfirst.trans (ih hfirst.core)

lemma withdraw_frame (h : s.TxCore none) (entry : TxQueueEntry) : Frame s (s.withdraw entry) := by
  unfold withdraw
  split
  · exact ⟨h.ofBus _ _ _, rfl, rfl, id, id⟩
  · exact Frame.refl h

variable {entry : TxQueueEntry}

lemma removeEntry_frame (hcancel : ∀ s uuid, s.TxCore none → Frame s (cancel s uuid))
    {state : MessageState} (h : s.TxCore (some entry.name)) (hentry : entry ∈ s.txq)
    (hleaving : s.Leaving entry state) : Frame
    ((s.deleteLink entry).record (.left entry.name state)) (s.removeEntry cancel entry state) := by
  have hleft := h.leave hentry hleaving
  have hcalled := foldl_frame hcancel (entry.cb (state = .sent)) hleft
  exact hcalled.trans (withdraw_frame hcalled.core entry)

/-- The timeout of the head is replaced by one for the next entry, if there is one. -/
lemma rescheduleCancelled_spec (h : s.TxCore none) (htxq : s.txq = head :: rest) (hactive :
    s.txActive = false) : ∃ source last sources,
    s.rescheduleCancelled = { s with txSource := source, lastSource := last, sources := sources } ∧ s.rescheduleCancelled.TxCore none ∧ (source ≠
    0 → rest ≠ []) ∧ (s.txSource = 0 → source = 0) ∧ (s.Pending → rest ≠ [] →
    s.rescheduleCancelled.Pending) := by
  unfold rescheduleCancelled
  have hlength : s.txq.length = rest.length + 1 := by rw [htxq]; rfl
  by_cases hsource : s.txSource ≠ 0
  · rw [if_pos hsource]
    have hpending : s.Pending := by
      rcases h.timeouts with ⟨-, hidle⟩ | ⟨hpending, -⟩
      · exact absurd hidle hsource
      · exact hpending
    have hremoved : s.sourceRemove.TxCore none :=
      { h with timeouts := .inl ⟨hpending.sourceRemove, rfl⟩ }
    by_cases hmore : 1 < s.txq.length
    · rw [if_pos hmore]
      have hadded := hremoved.timeoutAdd hpending.sourceRemove
        (by show s.txq ≠ []; simp [htxq]) hactive 0
      refine ⟨_, _, _, rfl, hadded.1, ?_, fun hzero => absurd hzero hsource, fun _ _ => hadded.2⟩
      intro _ hnil
      rw [hnil] at hlength
      simp only [length_nil] at hlength
      omega
    · rw [if_neg hmore]
      refine ⟨_, _, _, rfl, hremoved, fun hne => absurd rfl hne, fun _ => rfl, ?_⟩
      intro _ hne
      have hpos := length_pos_iff.mpr hne
      omega
  · rw [if_neg hsource]
    refine ⟨_, _, _, rfl, h, fun hne => absurd hne hsource, id, fun hpending _ => hpending⟩

lemma TxCore.tracks (h : s.TxCore none) (hentry : entry ∈ s.txq) :
    entry.Tracks s.log := h.entries entry hentry nofun

lemma TxCore.leaving_cancelled (h : s.TxCore none) (hentry : entry ∈ s.txq)
    (hcur : entry.curPdu = 0) (hidle : ∀ x ∈ s.submits, x.name ≠ entry.name)
    (hmore : s.txSource ≠ 0 → ∃ e ∈ s.txq, e.name ≠ entry.name) : s.Leaving entry .cancelled := by
  have htracks := h.tracks hentry
  have hlt := htracks.more
  refine ⟨htracks.queued, htracks.stays, htracks.accepted, hlt.le, ?_, fun _ => hcur, hidle, hmore⟩
  constructor
  · nofun
  · intro heq
    omega

lemma TxCore.head_idle (h : s.TxCore busy) (hactive : s.txActive = false) : s.submits = [] := by
  rcases h.driver with ⟨hsubmits, -⟩ | ⟨_, _, _, -, -, -, -, htrue⟩
  · exact hsubmits
  · rw [hactive] at htrue
    cases htrue

lemma TxCore.rest_idle (h : s.TxCore busy) (htxq : s.txq = head :: rest) (hentry : entry ∈ rest) :
    ∀ x ∈ s.submits, x.name ≠ entry.name := by
  intro x hx
  rcases h.driver with ⟨hsubmits, -⟩ | ⟨head', _, submission, htxq', hsubmits, hname, -⟩
  · rw [hsubmits] at hx
    cases hx
  · rw [hsubmits, mem_singleton] at hx
    rw [htxq, cons_eq_cons] at htxq'
    rw [hx, hname, ← htxq'.1]
    exact (h.rest_ne htxq hentry).symm

lemma txqCancelUpTo_frame (n : ℕ) (s : OfonoSms) (uuid : MsgId) (h : s.TxCore none) :
    Frame s (s.txqCancelUpTo n uuid).2 := by
  induction n generalizing s uuid with
  | zero => exact Frame.refl h
  | succ n ih =>
    unfold txqCancelUpTo
    split
    · exact Frame.refl h
    · next head rest htxq =>
        have hhead : head ∈ s.txq := by simp [htxq]
        split_ifs with huuid hcur hactive
        · exact Frame.refl h
        · exact Frame.refl h
        · -- the head leaves, and the timeout is for the next entry from now on
          have hactive : s.txActive = false := by simpa using hactive
          rcases rescheduleCancelled_spec h htxq hactive with
            ⟨source, last, sources, heq, hcore, hmore, hzero, hpending⟩
          rw [heq] at hcore hpending ⊢
          have hleaving : OfonoSms.Leaving
              { s with txSource := source, lastSource := last, sources := sources } head
              .cancelled := by
            refine hcore.leaving_cancelled hhead (by omega) ?_ ?_
            · intro x hx
              have hnone := h.head_idle hactive
              simp [hnone] at hx
            · intro hsource
              rcases exists_mem_of_ne_nil _ (hmore hsource) with ⟨e, he⟩
              exact ⟨e, by simp [htxq, he], h.rest_ne htxq he⟩
          have hremoved := removeEntry_frame (fun s uuid => ih s uuid) (hcore.weaken head.name)
            hhead hleaving
          refine Frame.trans ?_ hremoved
          refine ⟨(hcore.weaken head.name).leave hhead hleaving, rfl, rfl, hzero, ?_⟩
          intro hawake hreg hne
          have hrest : rest ≠ [] := by
            intro hnil
            refine hne ?_
            show s.txq.filter (fun e => e.name ≠ head.name) = []
            simp [htxq, hnil]
          rcases hawake hreg (by simp [htxq]) with hpend | htrue
          · exact .inl (hpending hpend hrest)
          · rw [hactive] at htrue
            cases htrue
        · split
          · exact Frame.refl h
          · next entry hfind =>
              have hrest := mem_of_find?_eq_some hfind
              have hentry : entry ∈ s.txq := by simp [htxq, hrest]
              have hcur : entry.curPdu = 0 := h.waiting entry (by simp [htxq, hrest])
              have hother : head.name ≠ entry.name := (h.rest_ne htxq hrest).symm
              have hleaving := h.leaving_cancelled hentry hcur (h.rest_idle htxq hrest)
                fun _ => ⟨head, hhead, hother⟩
              have hremoved := removeEntry_frame (fun s uuid => ih s uuid)
                (h.weaken entry.name) hentry hleaving
              refine Frame.trans ?_ hremoved
              refine ⟨(h.weaken entry.name).leave hentry hleaving, rfl, rfl, id, ?_⟩
              intro hawake hreg _
              exact hawake hreg (ne_nil_of_mem hentry)

lemma txqCancel_frame (s : OfonoSms) (uuid : MsgId) (h : s.TxCore none) :
    Frame s (s.txqCancel uuid).2 := txqCancelUpTo_frame _ s uuid h

/-! The bound of `txqCancelUpTo` is not felt: with one more nothing changes. -/

lemma rescheduleCancelled_txq (s : OfonoSms) : s.rescheduleCancelled.txq = s.txq := by
  unfold rescheduleCancelled
  split_ifs <;> rfl

lemma txqCancelUpTo_refused (n : ℕ) (s : OfonoSms) (uuid : MsgId)
    (h : (s.txqCancelUpTo n uuid).1 ≠ .ok) : (s.txqCancelUpTo n uuid).2 = s := by
  cases n with
  | zero => rfl
  | succ n =>
    cases htxq : s.txq with
    | nil => simp only [txqCancelUpTo, htxq]
    | cons head rest =>
      simp only [txqCancelUpTo, htxq] at h ⊢
      by_cases huuid : head.uuid = uuid
      · simp only [if_pos huuid] at h ⊢
        split_ifs at h ⊢ with hcur hactive
        · rfl
        · rfl
        · exact absurd rfl h
      · simp only [if_neg huuid] at h ⊢
        cases hfind : rest.find? fun e => e.uuid = uuid with
        | none => rfl
        | some entry =>
          rw [hfind] at h
          exact absurd rfl h

lemma TxCore.txqCancel_ok (h : s.TxCore none) {uuid : MsgId} (hok : (s.txqCancel uuid).1 = .ok) :
    ∃ entry ∈ s.txq, entry.uuid = uuid ∧ entry.curPdu = 0 ∧ ∀ x ∈ s.submits, x.name ≠ entry.name := by
  unfold txqCancel at hok
  cases htxq : s.txq with
  | nil =>
    rw [htxq] at hok
    cases hok
  | cons head rest =>
    simp only [htxq, length_cons, txqCancelUpTo] at hok
    split_ifs at hok with huuid hcur hactive
    · have hactive : s.txActive = false := by simpa using hactive
      refine ⟨head, by simp, huuid, by omega, ?_⟩
      intro x hx
      simp [h.head_idle hactive] at hx
    · cases hfind : rest.find? fun e => e.uuid = uuid with
      | none =>
        rw [hfind] at hok
        cases hok
      | some entry =>
        have hrest := mem_of_find?_eq_some hfind
        have huuid : entry.uuid = uuid := by simpa using find?_some hfind
        exact ⟨entry, by simp [hrest], huuid, h.waiting entry (by simp [htxq, hrest]),
          h.rest_idle htxq hrest⟩

/-! ### Submitting -/

lemma TxCore.not_recorded (h : s.TxCore busy) {event : TxEvent} (hid : event.name.id = s.txCounter) :
    event ∉ s.log := by
  intro hmem
  have hlt := h.below event hmem
  omega

lemma pushTail_core (h : s.TxCore none) (hcur : entry.curPdu = 0)
    (hretry : entry.retry = 0) : (s.pushTail entry).TxCore none where
  timeouts := by
    rcases h.timeouts with hidle | ⟨hpending, -, hactive⟩
    · exact .inl hidle
    · exact .inr ⟨hpending, by simp [pushTail], hactive⟩
  driver := by
    rcases h.driver with hidle | ⟨head, rest, x, htxq, hrest⟩
    · exact .inl hidle
    · exact .inr ⟨head, rest ++ [{ entry with id := s.txCounter }], x, by simp [pushTail, htxq], hrest⟩
  ids := by
    show (s.txq ++ [_]).Pairwise _
    rw [pairwise_append]
    refine ⟨h.ids, pairwise_singleton _ _, ?_⟩
    intro e he e' he'
    rw [mem_singleton.mp he']
    exact h.counter e he
  counter := by
    intro e he
    show e.id < s.txCounter + 1
    rcases mem_append.mp he with he | he
    · exact Nat.lt_succ_of_lt (h.counter e he)
    · rw [mem_singleton.mp he]
      exact Nat.lt_succ_self _
  entries := by
    intro e he _
    rcases mem_append.mp he with he | he
    · refine (h.tracks he).record fun heq => ?_
      have hid : s.txCounter = e.id := congrArg TxName.id heq
      exact (Nat.ne_of_gt (h.counter e he)) hid
    · rw [mem_singleton.mp he]
      have hnone : ∀ event : TxEvent, event.name.id = s.txCounter → event ∉ s.log :=
        fun _ => h.not_recorded
      refine ⟨by simp [pushTail], ?_, ?_, ?_, ?_, ?_, ?_⟩
      · intro state
        simpa [pushTail] using hnone (.left _ state) rfl
      · intro k
        have hmem := hnone (.accepted ⟨s.txCounter, entry.uuid⟩ k) rfl
        simp [pushTail, hcur, TxQueueEntry.name, hmem]
      · show entry.curPdu < entry.pdus.pdus.length
        rw [hcur]
        exact length_pos_iff.mpr entry.pdus.ne
      · show _ = entry.retry
        rw [hretry, count_eq_zero]
        simpa [pushTail] using hnone (.refused _ _ true) rfl
      · show entry.retry < 4
        omega
      · intro k _
        simpa [pushTail] using hnone (.refused _ k true) rfl
  waiting := by
    intro e he
    have he : e ∈ (s.txq ++ [{ entry with id := s.txCounter }]).tail := he
    cases htxq : s.txq with
    | nil => simp [htxq] at he
    | cons head rest =>
      rw [htxq, cons_append, tail_cons, mem_append] at he
      rcases he with he | he
      · exact h.waiting e (by simp [htxq, he])
      · rw [mem_singleton.mp he]
        exact hcur
  known := by
    intro name pdus hmem
    rcases mem_append.mp hmem with hmem | hmem
    · rcases h.known name pdus hmem with hin | ⟨state, hleft⟩
      · exact .inl (by simp [pushTail] at hin ⊢; exact .inl hin)
      · exact .inr ⟨state, mem_append_left _ hleft⟩
    · cases mem_singleton.mp hmem
      exact .inl (by simp [pushTail])
  below := by
    intro event hevent
    show event.name.id < s.txCounter + 1
    rcases mem_append.mp hevent with hevent | hevent
    · exact Nat.lt_succ_of_lt (h.below event hevent)
    · rw [mem_singleton.mp hevent]
      exact Nat.lt_succ_self _
  flight := by
    intro name seq
    simpa [pushTail, count_append, flying] using h.flight name seq
  tries := by
    intro name seq
    simpa [pushTail, count_append] using h.tries name seq
  events := by
    refine atEach_snoc.mpr ⟨h.events, ?_⟩
    intro name pdus hmem
    exact h.below _ hmem

lemma submitEntry_spec (h : s.TxCore none) (hawake : s.Awake) {entry : TxQueueEntry}
    (hcur : entry.curPdu = 0) (hretry : entry.retry = 0) :
    (s.submitEntry entry).TxCore none ∧ (s.submitEntry entry).Awake := by
  unfold submitEntry
  generalize hs₁ : (if 1 < entry.numPdus then
    { s with ref := if s.ref = 65536 then 1 else s.ref + 1 } else s) = s₁
  extract_lets t id s₂ s₃
  have hcore₁ : s₁.TxCore none ∧ s₁.Awake := by
    rw [← hs₁]
    split
    · exact ⟨h.ofBus _ _ _, hawake⟩
    · exact ⟨h, hawake⟩
  have hcore₂ : s₂.TxCore none := pushTail_core hcore₁.1 hcur hretry
  have hsched : s₃.TxCore none ∧ s₃.Awake := by
    show OfonoSms.TxCore (if _ then _ else _) none ∧ OfonoSms.Awake (if _ then _ else _)
    by_cases hfirst : s₂.registered ∧ s₂.txq.length = 1
    · rw [if_pos hfirst]
      -- the queue was empty before
      have hnil : s₁.txq = [] := by
        have hlength : (s₁.txq ++ [{ entry with id := s₁.txCounter }]).length = 1 := hfirst.2
        rw [length_append, length_singleton] at hlength
        exact length_eq_zero_iff.mp (by omega)
      rcases hcore₁.1.idle_of_nil hnil with ⟨hsources, -, -, hactive⟩
      have hadded := hcore₂.timeoutAdd hsources (by simp [s₂, pushTail]) hactive 0
      exact ⟨hadded.1, fun _ _ => .inl hadded.2⟩
    · rw [if_neg hfirst]
      refine ⟨hcore₂, ?_⟩
      intro hreg _
      refine hcore₁.2 hreg ?_
      intro hnil
      exact hfirst ⟨hreg, by simp [s₂, t, pushTail, hnil]⟩
  split
  · exact ⟨hsched.1.ofBus _ _ _, hsched.2⟩
  · exact hsched

lemma txqSubmit_spec (h : s.TxCore none) (hawake : s.Awake) (pdus : PduList) (flags : SubmitFlags)
    (uuid : MsgId) (cb : Bool → List MsgId) (registers : Bool) : (s.txqSubmit pdus flags uuid cb
    registers).TxCore none ∧ (s.txqSubmit pdus flags uuid cb registers).Awake := by
  unfold txqSubmit dbusRegister
  extract_lets new entry
  by_cases hbus : flags.exposeDbus
  · rw [if_pos hbus]
    by_cases htaken : uuid ∈ s.messages ∨ registers = false
    · rw [if_pos htaken]
      exact ⟨h, hawake⟩
    · rw [if_neg htaken]
      exact @submitEntry_spec _ (h.ofBus s.files (s.messages ++ [uuid]) s.ref) hawake entry rfl rfl
  · rw [if_neg hbus]
    exact @submitEntry_spec _ h hawake entry rfl rfl

/-! ### From the start on -/

lemma restoreEntry_spec (h : s.TxCore none) (hidle : s.sources = [] ∧ s.txActive = false)
    (backup : TxqBackupEntry) : (s.restoreEntry backup).TxCore none ∧
    (s.restoreEntry backup).sources = [] ∧ (s.restoreEntry backup).txActive = false := by
  unfold restoreEntry dbusRegister
  by_cases htaken : backup.uuid ∈ s.messages ∨ true = false
  · rw [if_pos htaken]
    exact ⟨h, hidle⟩
  · rw [if_neg htaken]
    exact ⟨pushTail_core (h.ofBus _ _ _) rfl rfl, hidle⟩

lemma create_core (registered : Bool) (ref : ℕ) (files : TxFiles) :
    (create registered ref files).TxCore none where
  timeouts := .inl ⟨rfl, rfl⟩
  driver := .inl ⟨rfl, rfl⟩
  ids := List.Pairwise.nil
  counter := by simp [create]
  entries := by simp [create]
  waiting := by simp [create]
  known := by simp [create]
  below := by simp [create]
  flight := by simp [create, flying]
  tries := by simp [create]
  events := atEach_nil

lemma start_spec (registered : Bool) (ref : ℕ) (files : TxFiles) (backupq : List TxqBackupEntry) :
    (start registered ref files backupq).TxCore none ∧ (start registered ref files backupq).Awake := by
  unfold start smsRestoreTxQueue
  have hloop : ∀ (s : OfonoSms), s.TxCore none → s.sources = [] ∧ s.txActive = false →
      (backupq.foldl restoreEntry s).TxCore none ∧
        (backupq.foldl restoreEntry s).sources = [] ∧
          (backupq.foldl restoreEntry s).txActive = false := by
    induction backupq with
    | nil => exact fun s h hidle => ⟨h, hidle⟩
    | cons backup backupq ih =>
      intro s h hidle
      have hturn := restoreEntry_spec h hidle backup
      exact ih _ hturn.1 hturn.2
  have hall := hloop _ (create_core registered ref files) ⟨rfl, rfl⟩
  extract_lets t
  by_cases hlength : 0 < t.txq.length
  · rw [if_pos hlength]
    have hadded := hall.1.timeoutAdd hall.2.1 (length_pos_iff.mp hlength) hall.2.2 0
    exact ⟨hadded.1, fun _ _ => .inl hadded.2⟩
  · rw [if_neg hlength]
    refine ⟨hall.1, fun _ hne => ?_⟩
    exact absurd (length_pos_iff.mpr hne) hlength

/-! ### The registration -/

lemma netregStatusWatch_spec (h : s.TxCore none) (status : ℤ) :
    (s.netregStatusWatch status).TxCore none ∧ (s.netregStatusWatch status).Awake := by
  unfold netregStatusWatch
  extract_lets t
  have hcore : t.TxCore none := { h with }
  split_ifs with hreg hsource hactive hlength
  · refine ⟨hcore, fun htrue => ?_⟩
    rw [hreg] at htrue
    cases htrue
  · refine ⟨hcore, fun _ _ => .inl ?_⟩
    rcases hcore.timeouts with ⟨-, hzero⟩ | ⟨hpending, -⟩
    · omega
    · exact hpending
  · exact ⟨hcore, fun _ _ => .inr hactive⟩
  · have hidle : t.sources = [] := by
      rcases hcore.timeouts with ⟨hsources, -⟩ | ⟨hpending, -⟩
      · exact hsources
      · exact absurd (Nat.pos_of_ne_zero hpending.1) hsource
    have hadded := hcore.timeoutAdd hidle (by rwa [ne_eq, ← length_eq_zero_iff])
      (by simpa using hactive) 0
    exact ⟨hadded.1, fun _ _ => .inl hadded.2⟩
  · refine ⟨hcore, fun _ hne => ?_⟩
    exact absurd (by simpa using hlength) hne

/-! ### The driver -/

lemma TxCore.submitted_inOrder (h : s.TxCore none) (htxq : s.txq = head :: rest)
    (hidle : s.submits = []) : InOrder s.log (.submitted head.name head.curPdu) := by
  have htracks := h.tracks (show head ∈ s.txq by simp [htxq])
  refine ⟨⟨_, htracks.queued, htracks.more⟩, htracks.stays, ?_, ?_, ?_, ?_⟩
  · intro name pdus hqueued hlt
    rcases h.known name pdus hqueued with hin | hleft
    · -- who is in the queue does not come before its head
      rcases mem_map.mp hin with ⟨e, he, rfl⟩
      have hids := h.ids
      rw [htxq, pairwise_cons] at hids
      rw [htxq] at he
      rcases mem_cons.mp he with rfl | he
      · exact absurd hlt (Nat.lt_irrefl _)
      · exact absurd hlt (Nat.lt_asymm (hids.1 e he))
    · exact hleft
  · intro k hk
    exact (htracks.accepted k).mpr hk
  · rw [htracks.accepted]
    exact Nat.lt_irrefl _
  · intro name k
    rw [h.inFlight_iff, flying_eq_zero (by simp [hidle])]
    exact Nat.lt_irrefl 0

lemma driverSubmit_core (h : s.TxCore none)
    (htxq : s.txq = head :: rest) (hsources : s.sources = [] ∧ s.txSource = 0)
    (hactive : s.txActive = false) (pdu : PendingPdu) : (s.driverSubmit head pdu).TxCore none := by
  have htracks := h.tracks (show head ∈ s.txq by simp [htxq])
  have hidle := h.head_idle hactive
  have horder := h.submitted_inOrder htxq hidle
  have hnone : s.log.count (.accepted head.name head.curPdu) = 0 :=
    count_eq_zero.mpr horder.2.2.2.2.1
  have hzero : ∀ name seq, s.flying name seq = 0 := fun _ => flying_eq_zero (by simp [hidle])
  refine { h with
    timeouts := .inl hsources, driver := ?_, entries := ?_, known := ?_, below := ?_, flight := ?_
    tries := ?_, events := atEach_snoc.mpr ⟨h.events, horder⟩ }
  · let submission : Submission :=
      ⟨head.name, head.curPdu, pdu, decide (1 < s.txq.length ∨ 1 < head.numPdus - head.curPdu)⟩
    refine .inr ⟨head, rest, submission, htxq, ?_, rfl, rfl, rfl⟩
    simp only [driverSubmit, hidle, nil_append, submission]
  · exact fun e he _ => (h.tracks he).submitted _ _
  · intro name pdus hmem
    rcases h.known name pdus (by simpa [driverSubmit] using hmem) with hin | ⟨state, hleft⟩
    · exact .inl hin
    · exact .inr ⟨state, mem_append_left _ hleft⟩
  · intro event hevent
    rcases mem_append.mp hevent with hevent | hevent
    · exact h.below event hevent
    · rw [mem_singleton.mp hevent]
      exact h.counter head (by simp [htxq])
  · intro name seq
    have hflight := h.flight name seq
    rw [hzero] at hflight
    by_cases heq : head.name = name ∧ head.curPdu = seq
    · rw [← heq.1, ← heq.2] at hflight ⊢
      simp [driverSubmit, count_append, flying, hidle, hflight]
    · simp [driverSubmit, count_append, flying, hidle, hflight, heq]
  · intro name seq
    by_cases heq : head.name = name ∧ head.curPdu = seq
    · -- what was tried before was refused each time, and counted
      rw [← heq.1, ← heq.2]
      have hflight := h.flight head.name head.curPdu
      have hretry := htracks.retry
      have hlt := htracks.retry_lt
      rw [hzero] at hflight
      simp only [driverSubmit, count_append, count_singleton_self]
      simp only [count_singleton, beq_iff_eq, reduceCtorEq, if_false]
      omega
    · simpa [driverSubmit, count_append, count_singleton, heq] using h.tries name seq

lemma txNext_spec (h : TxCore { s with txSource := 0 } none) (htxq : s.txq ≠ [])
    (hsources : s.sources = []) (hactive : s.txActive = false) :
    ∃ t, s.txNext = some t ∧ t.TxCore none ∧ t.Awake := by
  unfold txNext
  split
  · next hnil => exact absurd hnil htxq
  · next head rest hq =>
      extract_lets t
      by_cases hreg : t.registered = false
      · rw [if_pos hreg]
        refine ⟨_, rfl, h, fun htrue => ?_⟩
        rw [htrue] at hreg
        cases hreg
      · rw [if_neg hreg]
        have htracks := h.tracks (show head ∈ s.txq by simp [hq])
        rw [getElem?_eq_getElem htracks.more, Option.map_some]
        exact ⟨_, rfl, driverSubmit_core h hq ⟨hsources, rfl⟩ hactive _, fun _ _ => .inr rfl⟩

lemma TxCore.timeouts_nil (h : s.TxCore busy) (hsource : s.txSource = 0) : s.sources = [] := by
  rcases h.timeouts with ⟨hsources, -⟩ | ⟨hpending, -⟩
  · exact hsources
  · exact absurd hsource hpending.1

lemma nextQ_spec (h : s.TxCore (some entry.name)) (hentry : entry ∈ s.txq)
    (hleaving : s.Leaving entry state) (hactive : s.txActive = false) (hsource : s.txSource = 0) :
    (s.nextQ entry state).TxCore none ∧ (s.nextQ entry state).Awake := by
  unfold nextQ removeHead
  have hframe := removeEntry_frame (fun s uuid hs => txqCancel_frame s uuid hs) h hentry hleaving
  extract_lets t
  have hcore : t.TxCore none := hframe.core
  have hnone : t.txSource = 0 := hframe.idle hsource
  have hidle : t.txActive = false := hframe.active.trans hactive
  split_ifs with hreg hmore
  · refine ⟨hcore, fun htrue => ?_⟩
    rw [hreg] at htrue
    cases htrue
  · have hadded := hcore.timeoutAdd (hcore.timeouts_nil hnone) hmore hidle 0
    exact ⟨hadded.1, fun _ _ => .inl hadded.2⟩
  · exact ⟨hcore, fun _ hne => absurd hne hmore⟩

/-- What the driver may say of the PDU that it has. -/
def Answers (head : TxQueueEntry) (event : TxEvent) : Prop :=
  event = .accepted head.name head.curPdu ∨ ∃ registered, event = .refused head.name head.curPdu registered

lemma Answers.name {event : TxEvent} (h : Answers head event) : event.name = head.name := by
  rcases h with rfl | ⟨_, rfl⟩ <;> rfl

/-- The driver has answered; the head is not looked at before it is known what becomes of it. -/
lemma TxCore.answered (h : s.TxCore none) {head head' : TxQueueEntry}
    {rest q : List TxQueueEntry} {x : Submission} (htxq : s.txq = head :: rest)
    (hsubmits : s.submits = [x]) (hname : x.name = head.name) (hseq : x.seq = head.curPdu)
    {event : TxEvent} (hevent : Answers head event) (hq : q = head' :: rest)
    (hhead : head'.name = head.name) (hsources : s.sources = [] ∧ s.txSource = 0) :
    TxCore { s with txActive := false, submits := [], log := s.log ++ [event], txq := q }
      (some head.name) where
  timeouts := .inl hsources
  driver := .inl ⟨rfl, rfl⟩
  ids := by
    have hids := h.ids
    rw [htxq, pairwise_cons] at hids
    have hid : head'.id = head.id := congrArg TxName.id hhead
    show q.Pairwise _
    rw [hq, pairwise_cons, hid]
    exact hids
  counter := by
    intro e he
    have he : e ∈ q := he
    rw [hq] at he
    rcases mem_cons.mp he with rfl | he
    · have hid : e.id = head.id := congrArg TxName.id hhead
      show e.id < s.txCounter
      rw [hid]
      exact h.counter head (by simp [htxq])
    · exact h.counter e (by simp [htxq, he])
  entries := by
    intro e he hne
    have he : e ∈ q := he
    rw [hq] at he
    rcases mem_cons.mp he with rfl | he
    · exact absurd (congrArg some hhead) hne
    · refine (h.tracks (by simp [htxq, he])).record ?_
      rw [hevent.name]
      exact (h.rest_ne htxq he).symm
  waiting := by
    intro e he
    have he : e ∈ q.tail := he
    rw [hq] at he
    exact h.waiting e (by simpa [htxq] using he)
  known := by
    intro name pdus hmem
    have hmem : .queued name pdus ∈ s.log := by
      rcases mem_append.mp hmem with hmem | hmem
      · exact hmem
      · have heq := mem_singleton.mp hmem
        rcases hevent with rfl | ⟨_, rfl⟩ <;> cases heq
    rcases h.known name pdus hmem with hin | ⟨state, hleft⟩
    · rw [htxq, map_cons, ← hhead] at hin
      exact .inl (by rw [hq]; exact hin)
    · exact .inr ⟨state, mem_append_left _ hleft⟩
  below := by
    intro e he
    rcases mem_append.mp he with he | he
    · exact h.below e he
    · rw [mem_singleton.mp he, hevent.name]
      exact h.counter head (by simp [htxq])
  flight := by
    intro name seq
    have hflight := h.flight name seq
    simp only [flying, hsubmits, map_cons, map_nil, hname, hseq] at hflight ⊢
    simp only [count_append, count_nil]
    rcases hevent with rfl | ⟨registered, rfl⟩
    · by_cases heq : head.name = name ∧ head.curPdu = seq
      · rw [← heq.1, ← heq.2] at hflight ⊢
        simp at hflight ⊢
        omega
      · simpa [count_singleton, heq] using hflight
    · by_cases heq : head.name = name ∧ head.curPdu = seq
      · rw [← heq.1, ← heq.2] at hflight ⊢
        cases registered
        · simp at hflight ⊢
          omega
        · simp at hflight ⊢
          omega
      · have hne : ∀ r, ¬ (head.name = name ∧ head.curPdu = seq ∧ registered = r) :=
          fun _ h => heq ⟨h.1, h.2.1⟩
        simpa [count_singleton, heq, hne] using hflight
  tries := by
    intro name seq
    have htries := h.tries name seq
    simp only [count_append]
    have hsub : List.count (.submitted name seq) [event] = 0 := by
      rw [count_eq_zero]
      rcases hevent with rfl | ⟨_, rfl⟩ <;> simp
    omega
  events := by
    refine atEach_snoc.mpr ⟨h.events, ?_⟩
    have hflying : 0 < s.flying head.name head.curPdu := by
      simp [flying, hsubmits, hname, hseq]
    rcases hevent with rfl | ⟨registered, rfl⟩
    · exact (h.inFlight_iff _ _).mpr hflying
    · exact (h.inFlight_iff _ _).mpr hflying

section
variable {head : TxQueueEntry} {rest : List TxQueueEntry} {x : Submission}

/-- A PDU was accepted: the next one of the message goes out, or the message has been sent. -/
lemma txAccepted_spec (h : s.TxCore none) (htxq : s.txq = head :: rest) (hsubmits : s.submits = [x])
    (hname : x.name = head.name) (hseq : x.seq = head.curPdu)
    (hsources : s.sources = [] ∧ s.txSource = 0) :
    let t : OfonoSms := { s with
      txActive := false, submits := [], log := s.log ++ [.accepted head.name head.curPdu] }
    (t.txAccepted head).TxCore none ∧ (t.txAccepted head).Awake := by
  intro t
  unfold txAccepted
  extract_lets t₁ head' t₂
  have htracks := h.tracks (show head ∈ s.txq by simp [htxq])
  have hmore := htracks.more
  have hfiles : ∃ files, t₁ = { t with files } := by
    dsimp only [t₁]
    split
    · exact ⟨_, rfl⟩
    · exact ⟨_, rfl⟩
  rcases hfiles with ⟨files, hfiles⟩
  have ht₂ : t₂ = { t with files, txq := head' :: rest } := by
    show t₁.setHead head' = _
    rw [hfiles]
    simp [setHead, t, htxq]
  have hanswered := h.answered htxq hsubmits hname hseq (.inl rfl) (q := head' :: rest) rfl rfl hsources
  have hcore : t₂.TxCore (some head'.name) := by
    rw [ht₂]
    exact hanswered.ofBus files s.messages s.ref
  by_cases hlast : head'.curPdu < head'.numPdus
  · rw [if_pos hlast]
    have htxq₂ : t₂.txq = head' :: rest := by rw [ht₂]
    have hsettled := hcore.settle htxq₂ (by rw [ht₂]; exact htracks.accept hlast)
    have hadded := hsettled.timeoutAdd (by rw [ht₂]; exact hsources.1) (by simp [ht₂]) (by rw [ht₂]) 0
    exact ⟨hadded.1, fun _ _ => .inl hadded.2⟩
  · rw [if_neg hlast]
    have hcur : head.curPdu + 1 = head.numPdus :=
      Nat.le_antisymm hmore (Nat.le_of_not_lt hlast)
    refine nextQ_spec hcore (by simp [ht₂]) ?_ (by rw [ht₂]) (by rw [ht₂]; exact hsources.2)
    rw [ht₂]
    refine ⟨mem_append_left _ htracks.queued, ?_, ?_, hcur.le, ?_, nofun, by simp [t], ?_⟩
    · intro state
      simpa [t, head'] using htracks.stays state
    · intro k
      show TxEvent.accepted head.name k ∈ _ ↔ k < head.curPdu + 1
      rw [mem_append, htracks.accepted, mem_singleton, Nat.lt_succ_iff_lt_or_eq]
      simp
    · exact iff_of_true rfl hcur
    · exact fun hne => absurd hsources.2 hne

lemma txFailed_spec (h : s.TxCore none) (htxq : s.txq = head :: rest) (hsubmits : s.submits = [x])
    (hname : x.name = head.name) (hseq : x.seq = head.curPdu)
    (hsources : s.sources = [] ∧ s.txSource = 0) (error : OfonoError) :
    let t : OfonoSms := { s with
      txActive := false, submits := [], log := s.log ++ [.refused head.name head.curPdu true] }
    (t.txFailed error head).TxCore none ∧ (t.txFailed error head).Awake := by
  intro t
  have htracks := h.tracks (show head ∈ s.txq by simp [htxq])
  have hmore := htracks.more
  -- the message leaves as failed, whatever has been counted
  have hgone : ∀ (q : List TxQueueEntry) (head' : TxQueueEntry) (retry : ℕ),
      head' = { head with retry } → q = head' :: rest →
      (OfonoSms.nextQ { t with txq := q } head' .failed).TxCore none ∧
        (OfonoSms.nextQ { t with txq := q } head' .failed).Awake := by
    intro q head' retry hhead hq
    have hanswered := h.answered htxq hsubmits hname hseq (.inr ⟨true, rfl⟩) hq (by rw [hhead]; rfl)
      hsources
    have hname' : head'.name = head.name := by rw [hhead]; rfl
    have hcore : TxCore { t with txq := q } (some head'.name) := by
      rw [hname']
      exact hanswered
    refine nextQ_spec hcore (by simp [hq]) ?_ rfl hsources.2
    refine ⟨?_, ?_, ?_, ?_, ?_, nofun, by simp [t], fun hne => absurd hsources.2 hne⟩
    · rw [hhead]
      exact mem_append_left _ htracks.queued
    · intro state
      simpa [t, hname'] using htracks.stays state
    · intro k
      simpa [t, hname', hhead] using htracks.accepted k
    · rw [hhead]
      exact hmore.le
    · rw [hhead]
      exact iff_of_false nofun hmore.ne
  unfold txFailed
  split_ifs with hfinal hretry
  · exact hgone s.txq head head.retry rfl htxq
  · exact hgone s.txq head head.retry rfl htxq
  · extract_lets head' t₁
    have ht₁ : t₁ = { t with txq := head' :: rest } := by simp [t₁, setHead, t, htxq]
    by_cases hlt : head'.retry < 4
    · rw [if_pos hlt]
      have hanswered := h.answered htxq hsubmits hname hseq (.inr ⟨true, rfl⟩) (q := head' :: rest) rfl
        rfl hsources
      have hsettled : t₁.TxCore none := by
        rw [ht₁]
        exact @TxCore.settle _ head' rest hanswered rfl (htracks.retried hlt)
      have hadded := hsettled.timeoutAdd (by rw [ht₁]; exact hsources.1) (by simp [ht₁]) (by rw [ht₁])
        (head'.retry * 5)
      exact ⟨hadded.1, fun _ _ => .inl hadded.2⟩
    · rw [if_neg hlt, ht₁]
      exact hgone _ head' (head.retry + 1) rfl rfl

end

lemma reply_spec (h : s.TxCore none) {i : ℕ} {submission : Submission}
    (hi : s.submits[i]? = some submission) (error : OfonoError) :
    ∃ t, OfonoSms.txFinished
        { s with
          submits := s.submits.eraseIdx i, log := s.log ++ [s.answerEvent submission error] }
        error = some t ∧ t.TxCore none ∧ t.Awake := by
  rcases h.driver with ⟨hsubmits, -⟩ | ⟨head, rest, x, htxq, hsubmits, hname, hseq, hactive⟩
  · simp [hsubmits] at hi
  · have hsources : s.sources = [] ∧ s.txSource = 0 := by
      rcases h.timeouts with hidle | ⟨-, -, hfalse⟩
      · exact hidle
      · rw [hactive] at hfalse
        cases hfalse
    have hone : i = 0 ∧ submission = x := by
      rw [hsubmits, getElem?_singleton] at hi
      split at hi
      · next hzero => exact ⟨hzero, (Option.some.inj hi).symm⟩
      · cases hi
    have hnone : s.submits.eraseIdx i = [] := by
      rw [hsubmits, hone.1]
      rfl
    have htracks := h.tracks (show head ∈ s.txq by simp [htxq])
    unfold txFinished answerEvent
    simp only [hnone, hone.2, hname, hseq]
    by_cases herror : error = .noError
    · rw [if_pos herror, if_neg (by simp [herror])]
      simp only [htxq]
      rw [if_pos herror]
      have hspec := txAccepted_spec h htxq hsubmits hname hseq hsources
      rw [htxq] at hspec
      exact ⟨_, rfl, hspec⟩
    · rw [if_neg herror]
      by_cases hreg : s.registered = false
      · have hevent : TxEvent.refused head.name head.curPdu s.registered =
            .refused head.name head.curPdu false := by rw [hreg]
        rw [if_pos ⟨herror, hreg⟩, hevent]
        have hanswered := h.answered htxq hsubmits hname hseq (.inr ⟨false, rfl⟩) htxq rfl hsources
        refine ⟨_, rfl, hanswered.settle htxq htracks.lost, fun htrue => ?_⟩
        cases hreg.symm.trans htrue
      · have hevent : TxEvent.refused head.name head.curPdu s.registered =
            .refused head.name head.curPdu true := by rw [Bool.of_not_eq_false hreg]
        rw [if_neg fun hboth => hreg hboth.2, hevent]
        simp only [htxq]
        rw [if_neg herror]
        have hspec := txFailed_spec h htxq hsubmits hname hseq hsources error
        rw [htxq] at hspec
        exact ⟨_, rfl, hspec⟩

/-! ## Whole runs -/

lemma step_spec (h : s.TxCore none) (hawake : s.Awake) (input : TxInput) :
    ∃ t, s.step input = some t ∧ t.TxCore none ∧ t.Awake := by
  cases input with
  | submit pdus flags uuid cb registers =>
    exact ⟨_, rfl, txqSubmit_spec h hawake pdus flags uuid cb registers⟩
  | cancel uuid =>
    have hframe := txqCancel_frame s uuid h
    exact ⟨_, rfl, hframe.core, hframe.awake hawake⟩
  | status status => exact ⟨_, rfl, netregStatusWatch_spec h status⟩
  | netregGone =>
    refine ⟨_, rfl, { h with }, fun htrue => ?_⟩
    cases htrue
  | timeout source =>
    simp only [step]
    by_cases hsource : source ∈ s.sources.map Prod.fst
    · rw [if_pos hsource]
      -- the timeout that expires is the only one
      rcases h.timeouts with ⟨hnil, -⟩ | ⟨⟨-, seconds, hsources⟩, htxq, hactive⟩
      · simp [hnil] at hsource
      · have heq : source = s.txSource := by simpa [hsources] using hsource
        have hnil : s.sources.filter (fun p => p.1 ≠ source) = [] := by simp [hsources, heq]
        rw [hnil]
        have hexpired : TxCore { s with sources := [], txSource := 0 } none :=
          { h with timeouts := .inl ⟨rfl, rfl⟩ }
        exact txNext_spec hexpired htxq rfl hactive
    · rw [if_neg hsource]
      exact ⟨s, rfl, h, hawake⟩
  | reply i error =>
    simp only [step]
    cases hi : s.submits[i]? with
    | none => exact ⟨s, rfl, h, hawake⟩
    | some submission => exact reply_spec h hi error

lemma TxCore.good (h : s.TxCore none) (hawake : s.Awake) : s.Good where
  single := by
    rcases h.driver with ⟨hsubmits, -⟩ | ⟨_, _, _, -, hsubmits, -⟩
    · simp [hsubmits]
    · simp [hsubmits]
  awake := by
    intro hreg htxq
    constructor
    · intro hpending htrue
      rcases h.timeouts with ⟨-, hzero⟩ | ⟨-, -, hfalse⟩
      · exact hpending.1 hzero
      · rw [hfalse] at htrue
        cases htrue
    · intro hidle
      rcases hawake hreg htxq with hpending | htrue
      · exact hpending
      · exact absurd htrue hidle
  timeouts := by
    rcases h.timeouts with ⟨hsources, hzero⟩ | ⟨⟨hne, _, hsources⟩, -⟩
    · simp [hsources, hzero]
    · simp [hsources, hne]
  events := h.events
  queue := by
    intro name
    constructor
    · intro hin
      rcases mem_map.mp hin with ⟨e, he, rfl⟩
      exact ⟨⟨_, (h.tracks he).queued⟩, (h.tracks he).stays⟩
    · intro ⟨⟨pdus, hqueued⟩, hstays⟩
      rcases h.known name pdus hqueued with hin | ⟨state, hleft⟩
      · exact hin
      · exact absurd hleft (hstays state)
  tries := h.tries
  cancels := by
    intro uuid hok
    rcases h.txqCancel_ok hok with ⟨entry, hentry, huuid, hcur, hidle⟩
    refine ⟨entry, hentry, huuid, ?_, ?_⟩
    · intro k
      rw [(h.tracks hentry).accepted, hcur]
      exact Nat.not_lt_zero k
    · intro k
      rw [h.inFlight_iff, flying_eq_zero hidle]
      exact Nat.lt_irrefl 0

end OfonoSms

open OfonoSms in
/-- Whatever was restored at the start and whatever comes: no step faults, and all that is
promised of the queue holds in every state. A cancel that does not return 0 changes nothing. -/
theorem txq_safe (registered : Bool) (ref : ℕ) (files : TxFiles) (backupq : List TxqBackupEntry)
    (inputs : List TxInput) :
    Machine.Safe OfonoSms.step OfonoSms.Good (start registered ref files backupq) inputs ∧
      ∀ (s : OfonoSms) (uuid : MsgId), (s.txqCancel uuid).1 ≠ .ok → (s.txqCancel uuid).2 = s := by
  have hstart := start_spec registered ref files backupq
  have hgood : ∀ s : OfonoSms, s.TxCore none ∧ s.Awake → s.Good := fun s h => h.1.good h.2
  have hstep : ∀ (s : OfonoSms) input, s.TxCore none ∧ s.Awake →
      ∃ t, s.step input = some t ∧ t.TxCore none ∧ t.Awake := fun s input h => step_spec h.1 h.2 input
  constructor
  · exact Machine.safe_of_invariant hgood hstep hstart inputs
  · intro s uuid hrefused
    exact txqCancelUpTo_refused _ s uuid hrefused

end Phonelets.Sms
