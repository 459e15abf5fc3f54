import Phonelets.Simfs.Operations

/-! # What the clients of a SIM file system see

`History` says of a log that nothing in it happened that must not: operations are started in
the order they were queued and one at a time, none ends unanswered, and no context is called
after it has been freed. `Core` is the part of the invariant that the calls of clients
preserve, from wherever they are made.
-/

namespace Phonelets.Simfs

open List

/-- The answers to an operation, the first one first. -/
def answers (serial : ℕ) : List Event → List Answer
  | [] => []
  | .answered n _ a :: log => if n = serial then answers serial log ++ [a] else answers serial log
  | _ :: log => answers serial log

/-- The record that an answer is about. -/
def Answer.record : Answer → Option ℕ
  | .data _ record _ _ => some record
  | _ => none

/-- The answers are the records from 1 up to `n`. -/
def Records (as : List Answer) (n : ℕ) : Prop := as.map Answer.record = (List.range' 1 n).map some

/-- It is answered record by record. -/
def SimFsOp.readsRecords (op : SimFsOp) : Bool :=
  op.isRead && !op.infoOnly && op.fileStructure != .transparent

/-- It is answered once, with the contents of a transparent file. -/
def SimFsOp.readsBlocks (op : SimFsOp) : Bool :=
  op.isRead && !op.infoOnly && op.fileStructure == .transparent

/-- All the answers that an operation is to get. -/
def Complete (op : SimFsOp) (as : List Answer) : Prop :=
  if op.readsRecords then
    0 < op.total ∧ Records as op.total ∨
      ∃ n bs, n ≤ op.total ∧ Records bs n ∧ as = bs ++ [.failed]
  else ∃ a, as = [a]

/-- Two states of one operation. -/
def SimFsOp.Same (op op' : SimFsOp) : Prop :=
  op.serial = op'.serial ∧ op.context = op'.context ∧ op.isRead = op'.isRead ∧
    op.infoOnly = op'.infoOnly ∧ op.fileStructure = op'.fileStructure

/-- What may happen after the events of the log. -/
def EventOk : Event → List Event → Prop
  | .queued op, log => ∀ op', .queued op' ∈ log → op'.serial < op.serial
  | .started n, log =>
    (∃ op, .queued op ∈ log ∧ op.serial = n) ∧
      ∀ m, .started m ∈ log → m < n ∧ ∃ op, .ended op ∈ log ∧ op.serial = m
  | .answered n context _, log =>
    .started n ∈ log ∧ (∃ op, .queued op ∈ log ∧ op.serial = n ∧ op.context = context) ∧
      (∀ op, .ended op ∈ log → op.serial ≠ n) ∧ .freed context ∉ log
  | .refused context, log => .freed context ∉ log
  | .ended op, log =>
    (∃ op', .queued op' ∈ log ∧ op'.Same op) ∧
      (.freed op.context ∈ log ∨ Complete op (answers op.serial log))
  | .freed _, _ => True

/-- Everything in the log may have happened. -/
def History : List Event → Prop
  | [] => True
  | e :: log => EventOk e log ∧ History log

/-- No operation is lost: it is in the queue, or it has ended, or its context was freed. -/
def Kept (fs : SimFs) : Prop :=
  ∀ op, .queued op ∈ fs.log → (∃ op' ∈ fs.opQ, op'.Same op) ∨
    (∃ op', .ended op' ∈ fs.log ∧ op'.Same op) ∨ .freed op.context ∈ fs.log

/-- What is asked of every state: the clients have seen nothing wrong, every operation is
accounted for, and there is somebody who works on the head of the queue. -/
structure Good (fs : SimFs) : Prop where
  history : History fs.log
  kept : Kept fs
  pending : ∀ op ∈ fs.opQ.head?, fs.sources ≠ [] ∨ ∃ r, (op.serial, r) ∈ fs.requests

/-! ## Histories -/

variable {log : List Event}

lemma answers_eq_nil (h : History log) {n : ℕ} (hn : .started n ∉ log) : answers n log = [] := by
  induction log with
  | nil => rfl
  | cons e log ih =>
    have hlog : Event.started n ∉ log := fun hmem => hn (mem_cons_of_mem e hmem)
    have hrest := ih h.2 hlog
    cases e with
    | answered m c a =>
      unfold answers
      rw [if_neg, hrest]
      intro heq
      subst heq
      exact hlog h.1.1
    | _ => exact hrest

lemma History.queued_of_started (h : History log) {n : ℕ}
    (hn : .started n ∈ log) : ∃ op, .queued op ∈ log ∧ op.serial = n := by
  induction log with
  | nil => cases hn
  | cons e log ih =>
    have hmore : (∃ op, .queued op ∈ log ∧ op.serial = n) → ∃ op, .queued op ∈ e :: log ∧ op.serial = n := by
      intro ⟨op, hop, hserial⟩
      exact ⟨op, mem_cons_of_mem e hop, hserial⟩
    rcases mem_cons.mp hn with heq | hmem
    · subst heq
      exact hmore h.1.1
    · exact hmore (ih h.2 hmem)

variable {op : SimFsOp}

lemma History.queued_of_ended (h : History log)
    (hop : .ended op ∈ log) : ∃ op', .queued op' ∈ log ∧ op'.Same op := by
  induction log with
  | nil => cases hop
  | cons e log ih =>
    have hmore : (∃ op', .queued op' ∈ log ∧ op'.Same op) →
        ∃ op', .queued op' ∈ e :: log ∧ op'.Same op := by
      intro ⟨op', hop', hsame⟩
      exact ⟨op', mem_cons_of_mem e hop', hsame⟩
    rcases mem_cons.mp hop with heq | hmem
    · subst heq
      exact hmore h.1.1
    · exact hmore (ih h.2 hmem)

lemma Records.nil : Records [] 0 := rfl

lemma Records.snoc {as : List Answer} {n : ℕ} (h : Records as n) {a : Answer}
    (ha : a.record = some (n + 1)) : Records (as ++ [a]) (n + 1) := by
  unfold Records
  rw [map_append, h, range'_concat, map_append, map_singleton, ha, Nat.one_mul, Nat.add_comm 1 n]
  rfl

lemma Records.length {as : List Answer} {n : ℕ} (h : Records as n) : as.length = n := by
  have hlen := congrArg List.length h
  rwa [length_map, length_map, length_range'] at hlen

namespace SimFsOp

lemma Same.refl (op : SimFsOp) : op.Same op := ⟨rfl, rfl, rfl, rfl, rfl⟩

lemma Same.symm {op op' : SimFsOp} (h : op.Same op') : op'.Same op :=
  ⟨h.1.symm, h.2.1.symm, h.2.2.1.symm, h.2.2.2.1.symm, h.2.2.2.2.symm⟩

lemma Same.trans {a b c : SimFsOp} (h : a.Same b) (h' : b.Same c) : a.Same c :=
  ⟨h.1.trans h'.1, h.2.1.trans h'.2.1, h.2.2.1.trans h'.2.2.1, h.2.2.2.1.trans h'.2.2.2.1,
    h.2.2.2.2.trans h'.2.2.2.2⟩

end SimFsOp

lemma complete_failed {as : List Answer} (hrecords : op.readsRecords = true → ∃ n, n ≤ op.total ∧
    Records as n) (hother : op.readsRecords = false → as = []) : Complete op (as ++ [.failed]) := by
  unfold Complete
  by_cases hreads : op.readsRecords
  · rw [if_pos hreads]
    rcases hrecords hreads with ⟨n, hn, has⟩
    exact .inr ⟨n, as, hn, has, rfl⟩
  · rw [if_neg hreads, hother (Bool.eq_false_of_not_eq_true hreads)]
    exact ⟨_, rfl⟩

lemma complete_one (h : op.readsRecords = false) (a : Answer) : Complete op ([] ++ [a]) := by
  unfold Complete
  rw [if_neg (by rw [h]; exact Bool.false_ne_true)]
  exact ⟨a, rfl⟩

/-! ## What clients can do -/

/-- The part of the invariant that does not depend on what is being worked on. -/
structure Core (fs : SimFs) : Prop where
  history : History fs.log
  kept : Kept fs
  sorted : fs.opQ.Pairwise fun a b => a.serial < b.serial
  queued : ∀ op ∈ fs.opQ, ∃ op', .queued op' ∈ fs.log ∧ op'.Same op
  fresh : ∀ op, .queued op ∈ fs.log → op.serial < fs.nextOp
  ended : ∀ op', .ended op' ∈ fs.log → ∀ op ∈ fs.opQ, op'.serial < op.serial
  started : ∀ n, .started n ∈ fs.log →
    (∃ op, .ended op ∈ fs.log ∧ op.serial = n) ∨ ∃ op ∈ fs.opQ.head?, op.serial = n
  cb : ∀ op ∈ fs.opQ, op.cb = decide (op.context ∈ fs.contexts)
  freed : ∀ op ∈ fs.opQ, op.context ∉ fs.contexts → .freed op.context ∈ fs.log
  known : ∀ c ∈ fs.contexts, c < fs.nextContext
  gone : ∀ c, .freed c ∈ fs.log → c < fs.nextContext ∧ c ∉ fs.contexts
  nodup : fs.contexts.Nodup
  writing : ∀ n, fs.writing = some n → n < fs.nextOp ∧ ∀ op ∈ fs.opQ, op.serial = n → op.isRead = false

namespace SimFs

/-- The queue after `sim_fs_context_free`: the head loses its callback, others are gone. -/
lemma freeOps_succ (context n : ℕ) (ops : List SimFsOp) :
    freeOps context (n + 1) ops = ops.filter fun op => op.context ≠ context := by
  induction ops generalizing n with
  | nil => rfl
  | cons op rest ih =>
    unfold freeOps
    by_cases hop : op.context = context
    · rw [if_neg (not_not_intro hop), if_neg (Nat.succ_ne_zero n), ih,
        filter_cons_of_neg (by simpa using hop)]
    · rw [if_pos hop, ih, filter_cons_of_pos (by simpa using hop)]

lemma freeOps_cons (context : ℕ) (op : SimFsOp) (rest : List SimFsOp) :
    freeOps context 0 (op :: rest) =
      { op with cb := op.cb && decide (op.context ≠ context) } ::
        rest.filter fun op => op.context ≠ context := by
  unfold freeOps
  rw [freeOps_succ]
  by_cases hop : op.context = context
  · rw [if_neg (not_not_intro hop), if_pos rfl]
    simp [hop]
  · rw [if_pos hop]
    simp [hop]

lemma mem_freeOps {context : ℕ} {ops : List SimFsOp} {op : SimFsOp} (h : op ∈ freeOps context 0 ops) :
    ∃ op' ∈ ops, op = { op' with cb := op'.cb && decide (op'.context ≠ context) } := by
  cases ops with
  | nil => cases h
  | cons head rest =>
    rw [freeOps_cons] at h
    rcases mem_cons.mp h with rfl | hmem
    · exact ⟨head, mem_cons_self, rfl⟩
    · rcases mem_filter.mp hmem with ⟨hrest, hne⟩
      refine ⟨op, mem_cons_of_mem head hrest, ?_⟩
      rw [hne, Bool.and_true]

lemma mem_freeOps_of_ne {context : ℕ} {ops : List SimFsOp} {op : SimFsOp} (h : op ∈ ops)
    (hne : op.context ≠ context) : op ∈ freeOps context 0 ops := by
  cases ops with
  | nil => cases h
  | cons head rest =>
    rw [freeOps_cons]
    rcases mem_cons.mp h with rfl | hmem
    · simp [hne]
    · exact mem_cons_of_mem _ (mem_filter.mpr ⟨hmem, by simpa using hne⟩)

lemma call_cases (driver : SimDriver) (fs : SimFs) (c : Call) : fs.call driver c = fs ∨ fs.call
    driver c = fs.contextNew ∨ (∃ context, context ∈ fs.contexts ∧ c = .contextFree context ∧
    fs.call driver c = fs.contextFree context) ∨ (∃ context, context ∈ fs.contexts ∧ fs.call driver
    c = { fs with log := .refused context :: fs.log }) ∨ ∃ op, op.serial = fs.nextOp ∧ op.context ∈
    fs.contexts ∧ op.cb = true ∧ fs.call driver c = fs.push op := by
  cases c with
  | contextNew => exact .inr (.inl rfl)
  | contextFree context =>
    simp only [call]
    split_ifs with hlive
    · exact .inr (.inr (.inl ⟨context, hlive, rfl, rfl⟩))
    · exact .inl rfl
  | readInfo context id expected =>
    simp only [call, readInfo]
    split_ifs with hlive
    · exact .inr (.inr (.inr (.inr ⟨_, rfl, hlive, rfl, rfl⟩)))
    · exact .inl rfl
    · exact .inl rfl
  | read context id expected offset numBytes path =>
    simp only [call, read]
    split_ifs with hlive
    · exact .inr (.inr (.inr (.inr ⟨_, rfl, hlive, rfl, rfl⟩)))
    · exact .inr (.inr (.inr (.inl ⟨context, hlive, rfl⟩)))
    · exact .inl rfl
  | write context id fileStructure record data =>
    simp only [call, write]
    split_ifs with hlive
    · exact .inr (.inr (.inr (.inr ⟨_, rfl, hlive, rfl, rfl⟩)))
    · exact .inl rfl
    · exact .inl rfl

end SimFs

namespace Core

variable {fs : SimFs}

lemma refused (h : Core fs) {context : ℕ} (hlive : context ∈ fs.contexts) :
    Core { fs with log := .refused context :: fs.log } where
  history := ⟨fun hfreed => (h.gone context hfreed).2 hlive, h.history⟩
  kept := by
    intro op hop
    rcases h.kept op (by simpa using hop) with hq | ⟨op', hended, hserial⟩ | hfreed
    · exact .inl hq
    · exact .inr (.inl ⟨op', mem_cons_of_mem _ hended, hserial⟩)
    · exact .inr (.inr (mem_cons_of_mem _ hfreed))
  sorted := h.sorted
  queued := by
    intro op hop
    rcases h.queued op hop with ⟨op', hmem, hsame⟩
    exact ⟨op', mem_cons_of_mem _ hmem, hsame⟩
  fresh := by
    intro op hop
    exact h.fresh op (by simpa using hop)
  ended := by
    intro op' hended
    exact h.ended op' (by simpa using hended)
  started := by
    intro n hn
    rcases h.started n (by simpa using hn) with ⟨op, hended, hserial⟩ | hhead
    · exact .inl ⟨op, mem_cons_of_mem _ hended, hserial⟩
    · exact .inr hhead
  cb := h.cb
  freed := fun op hop hnot => mem_cons_of_mem _ (h.freed op hop hnot)
  known := h.known
  gone := fun c hc => h.gone c (by simpa using hc)
  nodup := h.nodup
  writing := h.writing

lemma contextNew (h : Core fs) : Core fs.contextNew where
  history := h.history
  kept := h.kept
  sorted := h.sorted
  queued := h.queued
  fresh := h.fresh
  ended := h.ended
  started := h.started
  cb := by
    intro op hop
    have hcb := h.cb op hop
    have hne : op.context ≠ fs.nextContext := by
      by_cases hlive : op.context ∈ fs.contexts
      · exact (h.known _ hlive).ne
      · exact (h.gone _ (h.freed op hop hlive)).1.ne
    rw [hcb]
    unfold SimFs.contextNew
    simp [hne]
  freed := by
    intro op hop hnot
    exact h.freed op hop fun hlive => hnot (mem_cons_of_mem _ hlive)
  known := by
    intro c hc
    rcases mem_cons.mp hc with rfl | hmem
    · exact Nat.lt_succ_self _
    · exact Nat.lt_succ_of_lt (h.known c hmem)
  gone := by
    intro c hc
    rcases h.gone c hc with ⟨hlt, hnot⟩
    refine ⟨Nat.lt_succ_of_lt hlt, ?_⟩
    intro hmem
    rcases mem_cons.mp hmem with rfl | hmem
    · exact Nat.lt_irrefl _ hlt
    · exact hnot hmem
  nodup := nodup_cons.mpr ⟨fun hmem => Nat.lt_irrefl _ (h.known _ hmem), h.nodup⟩
  writing := h.writing

lemma contextFree (h : Core fs) {context : ℕ} (hlive : context ∈ fs.contexts) :
    Core (fs.contextFree context) where
  history := ⟨trivial, h.history⟩
  kept := by
    intro op hop
    have hop' : .queued op ∈ fs.log := by simpa [SimFs.contextFree] using hop
    rcases h.kept op hop' with ⟨op', hq, hsame⟩ | ⟨op', hended, hsame⟩ | hfreed
    · by_cases hctx : op'.context = context
      · right
        right
        rw [← hsame.2.1, hctx]
        exact mem_cons_self
      · exact .inl ⟨op', SimFs.mem_freeOps_of_ne hq hctx, hsame⟩
    · exact .inr (.inl ⟨op', mem_cons_of_mem _ hended, hsame⟩)
    · exact .inr (.inr (mem_cons_of_mem _ hfreed))
  sorted := by
    have hsorted := h.sorted
    show (SimFs.freeOps context 0 fs.opQ).Pairwise _
    cases hq : fs.opQ with
    | nil => exact .nil
    | cons head rest =>
      rw [hq, pairwise_cons] at hsorted
      rw [SimFs.freeOps_cons, pairwise_cons]
      exact ⟨fun op hop => hsorted.1 op (mem_filter.mp hop).1, hsorted.2.filter _⟩
  queued := by
    intro op hop
    rcases SimFs.mem_freeOps hop with ⟨op', hmem, rfl⟩
    rcases h.queued op' hmem with ⟨op'', hq, hsame⟩
    exact ⟨op'', mem_cons_of_mem _ hq, hsame⟩
  fresh := fun op hop => h.fresh op (by simpa [SimFs.contextFree] using hop)
  ended := by
    intro op' hended op hop
    rcases SimFs.mem_freeOps hop with ⟨op'', hmem, rfl⟩
    exact h.ended op' (by simpa [SimFs.contextFree] using hended) op'' hmem
  started := by
    intro n hn
    rcases h.started n (by simpa [SimFs.contextFree] using hn) with ⟨op, hended, hserial⟩ | ⟨op, hop, hserial⟩
    · exact .inl ⟨op, mem_cons_of_mem _ hended, hserial⟩
    · right
      show ∃ op ∈ (SimFs.freeOps context 0 fs.opQ).head?, op.serial = n
      cases hq : fs.opQ with
      | nil => simp [hq] at hop
      | cons head rest =>
        rw [hq, head?_cons, Option.mem_some_iff] at hop
        subst hop
        rw [SimFs.freeOps_cons, head?_cons]
        exact ⟨_, rfl, hserial⟩
  cb := by
    intro op hop
    rcases SimFs.mem_freeOps hop with ⟨op', hmem, rfl⟩
    show (op'.cb && decide (op'.context ≠ context)) = decide (op'.context ∈ fs.contexts.erase context)
    rw [h.cb op' hmem]
    simp [h.nodup.mem_erase_iff, Bool.and_comm]
  freed := by
    intro op hop hnot
    rcases SimFs.mem_freeOps hop with ⟨op', hmem, rfl⟩
    by_cases hctx : op'.context = context
    · rw [hctx]
      exact mem_cons_self
    · refine mem_cons_of_mem _ (h.freed op' hmem fun hin => hnot ?_)
      exact h.nodup.mem_erase_iff.mpr ⟨hctx, hin⟩
  known := fun c hc => h.known c (mem_of_mem_erase hc)
  gone := by
    intro c hc
    rcases mem_cons.mp hc with heq | hmem
    · cases heq
      exact ⟨h.known context hlive, fun hmem => (h.nodup.mem_erase_iff.mp hmem).1 rfl⟩
    · rcases h.gone c hmem with ⟨hlt, hnot⟩
      exact ⟨hlt, fun hin => hnot (mem_of_mem_erase hin)⟩
  nodup := h.nodup.erase context
  writing := by
    intro n hn
    rcases h.writing n hn with ⟨hlt, hall⟩
    refine ⟨hlt, ?_⟩
    intro op hop
    rcases SimFs.mem_freeOps hop with ⟨op', hmem, rfl⟩
    exact hall op' hmem

lemma push (h : Core fs) {op : SimFsOp} (hserial : op.serial = fs.nextOp)
    (hlive : op.context ∈ fs.contexts) (hcb : op.cb = true) : Core (fs.push op) where
  history := ⟨fun op' hop' => hserial ▸ h.fresh op' hop', h.history⟩
  kept := by
    intro op' hop'
    have hmore : ∀ {e : Event}, e ∈ fs.log → e ∈ (fs.push op).log :=
      fun hmem => mem_cons_of_mem _ hmem
    rcases mem_cons.mp hop' with heq | hmem
    · cases heq
      exact .inl ⟨op, mem_append_right _ mem_cons_self, .refl op⟩
    · rcases h.kept op' hmem with ⟨op'', hq, hsame⟩ | ⟨op'', hended, hsame⟩ | hfreed
      · exact .inl ⟨op'', mem_append_left _ hq, hsame⟩
      · exact .inr (.inl ⟨op'', hmore hended, hsame⟩)
      · exact .inr (.inr (hmore hfreed))
  sorted := by
    refine pairwise_append.mpr ⟨h.sorted, pairwise_singleton _ _, ?_⟩
    intro a ha b hb
    rw [mem_singleton.mp hb, hserial]
    rcases h.queued a ha with ⟨a', hq, hsame⟩
    rw [← hsame.1]
    exact h.fresh a' hq
  queued := by
    intro op' hop'
    rcases mem_append.mp hop' with hmem | hmem
    · rcases h.queued op' hmem with ⟨op'', hq, hsame⟩
      exact ⟨op'', mem_cons_of_mem _ hq, hsame⟩
    · rw [mem_singleton.mp hmem]
      exact ⟨op, mem_cons_self, .refl op⟩
  fresh := by
    intro op' hop'
    rcases mem_cons.mp hop' with heq | hmem
    · cases heq
      rw [hserial]
      exact Nat.lt_succ_self _
    · exact Nat.lt_succ_of_lt (h.fresh op' hmem)
  ended := by
    intro op' hended op'' hop''
    have hended' : .ended op' ∈ fs.log := by simpa [SimFs.push] using hended
    rcases mem_append.mp hop'' with hmem | hmem
    · exact h.ended op' hended' op'' hmem
    · rw [mem_singleton.mp hmem, hserial]
      rcases h.history.queued_of_ended hended' with ⟨op₀, hq, hsame⟩
      rw [← hsame.1]
      exact h.fresh op₀ hq
  started := by
    intro n hn
    rcases h.started n (by simpa [SimFs.push] using hn) with ⟨op', hended, hserial'⟩ | ⟨op', hop', hserial'⟩
    · exact .inl ⟨op', mem_cons_of_mem _ hended, hserial'⟩
    · refine .inr ⟨op', ?_, hserial'⟩
      show op' ∈ (fs.opQ ++ [op]).head?
      rw [head?_append, hop']
      rfl
  cb := by
    intro op' hop'
    rcases mem_append.mp hop' with hmem | hmem
    · exact h.cb op' hmem
    · rw [mem_singleton.mp hmem, hcb]
      exact (decide_eq_true hlive).symm
  freed := by
    intro op' hop' hnot
    rcases mem_append.mp hop' with hmem | hmem
    · exact mem_cons_of_mem _ (h.freed op' hmem hnot)
    · rw [mem_singleton.mp hmem] at hnot
      exact absurd hlive hnot
  known := h.known
  gone := fun c hc => h.gone c (by simpa [SimFs.push] using hc)
  nodup := h.nodup
  writing := by
    intro n hn
    rcases h.writing n hn with ⟨hlt, hall⟩
    refine ⟨Nat.lt_succ_of_lt hlt, ?_⟩
    intro op' hop' hserial'
    rcases mem_append.mp hop' with hmem | hmem
    · exact hall op' hmem hserial'
    · rw [mem_singleton.mp hmem, hserial] at hserial'
      exact absurd hserial' hlt.ne'

lemma call (h : Core fs) (driver : SimDriver) (c : Call) : Core (fs.call driver c) := by
  rcases SimFs.call_cases driver fs c with
    heq | heq | ⟨context, hlive, -, heq⟩ | ⟨context, hlive, heq⟩ | ⟨op, hserial, hlive, hcb, heq⟩
  · rw [heq]
    exact h
  · rw [heq]
    exact h.contextNew
  · rw [heq]
    exact h.contextFree hlive
  · rw [heq]
    exact h.refused hlive
  · rw [heq]
    exact h.push hserial hlive hcb

lemma calls (h : Core fs) (driver : SimDriver) (cs : List Call) :
    Core (cs.foldl (SimFs.call driver) fs) := by
  induction cs generalizing fs with
  | nil => exact h
  | cons c cs ih => exact ih (h.call driver c)

end Core

/-! ## The head of the queue while clients act -/

/-- An event that says nothing about the operation being worked on. -/
def Event.Quiet : Event → Prop
  | .queued _ => True
  | .refused _ => True
  | .freed _ => True
  | _ => False

lemma answers_append {new : List Event} (h : ∀ e ∈ new, e.Quiet) (log : List Event) (n : ℕ) :
    answers n (new ++ log) = answers n log := by
  induction new with
  | nil => rfl
  | cons e new ih =>
    have htail := ih fun e' he' => h e' (mem_cons_of_mem e he')
    have he := h e mem_cons_self
    cases e with
    | answered => exact absurd he (nomatch ·)
    | _ => exact htail

/-- What is left alone while the head of the queue is `op` and clients act: all but its
callback, which is cleared with its context. -/
structure Reacted (op : SimFsOp) (fs fs' : SimFs) : Prop where
  opQ : ∃ rest, fs'.opQ = { op with cb := decide (op.context ∈ fs'.contexts) } :: rest
  log : ∃ new, fs'.log = new ++ fs.log ∧ ∀ e ∈ new, e.Quiet
  sources : fs'.sources = fs.sources
  requests : fs'.requests = fs.requests
  bitmap : fs'.bitmap = fs.bitmap
  fd : fs'.fd = fs.fd
  cache : fs'.cache = fs.cache
  called : fs'.called = fs.called

namespace Reacted

variable {op : SimFsOp} {fs fs' fs'' : SimFs} {rest : List SimFsOp}

lemma refl (hcore : Core fs) (hq : fs.opQ = op :: rest) : Reacted op fs fs where
  opQ := by
    have hcb := hcore.cb op (hq ▸ mem_cons_self)
    exact ⟨rest, by rw [← hcb]; exact hq⟩
  log := ⟨[], rfl, by simp⟩
  sources := rfl
  requests := rfl
  bitmap := rfl
  fd := rfl
  cache := rfl
  called := rfl

lemma trans (h : Reacted op fs fs') {b : Bool} (h' : Reacted { op with cb := b } fs' fs'') :
    Reacted op fs fs'' where
  opQ := h'.opQ
  log := by
    rcases h.log with ⟨new, hnew, hquiet⟩
    rcases h'.log with ⟨new', hnew', hquiet'⟩
    refine ⟨new' ++ new, by rw [hnew', hnew, append_assoc], ?_⟩
    intro e he
    rcases mem_append.mp he with he | he
    · exact hquiet' e he
    · exact hquiet e he
  sources := h'.sources.trans h.sources
  requests := h'.requests.trans h.requests
  bitmap := h'.bitmap.trans h.bitmap
  fd := h'.fd.trans h.fd
  cache := h'.cache.trans h.cache
  called := h'.called.trans h.called

lemma call (hcore : Core fs) (hq : fs.opQ = op :: rest) (driver : SimDriver) (c : Call) :
    Reacted op fs (fs.call driver c) := by
  have hcb : op.cb = decide (op.context ∈ fs.contexts) := hcore.cb op (hq ▸ mem_cons_self)
  rcases SimFs.call_cases driver fs c with
    heq | heq | ⟨context, hlive, -, heq⟩ | ⟨context, hlive, heq⟩ | ⟨new, hserial, hlive, hnew, heq⟩
  · rw [heq]
    exact .refl hcore hq
  · rw [heq]
    refine { Reacted.refl hcore hq with opQ := ⟨rest, ?_⟩ }
    rw [← hcore.contextNew.cb op (show op ∈ fs.opQ from hq ▸ mem_cons_self)]
    exact hq
  · rw [heq]
    refine { Reacted.refl hcore hq with opQ := ?_, log := ⟨[_], rfl, ?_⟩ }
    · have hcb' : (op.cb && decide (op.context ≠ context)) =
          decide (op.context ∈ fs.contexts.erase context) := by
        rw [hcb]
        simp [hcore.nodup.mem_erase_iff, Bool.and_comm]
      refine ⟨rest.filter fun op => op.context ≠ context, ?_⟩
      show SimFs.freeOps context 0 fs.opQ =
        { op with cb := decide (op.context ∈ fs.contexts.erase context) } :: _
      rw [hq, SimFs.freeOps_cons, hcb']
    · simp [Event.Quiet]
  · rw [heq]
    refine { Reacted.refl hcore hq with log := ⟨[_], rfl, ?_⟩ }
    simp [Event.Quiet]
  · rw [heq]
    refine { Reacted.refl hcore hq with opQ := ⟨rest ++ [new], ?_⟩, log := ⟨[_], rfl, ?_⟩, sources := ?_ }
    · show fs.opQ ++ [new] = { op with cb := decide (op.context ∈ fs.contexts) } :: (rest ++ [new])
      rw [← hcb, hq]
      rfl
    · simp [Event.Quiet]
    · unfold SimFs.push
      simp [hq]

lemma calls (hcore : Core fs) (hq : fs.opQ = op :: rest) (driver : SimDriver) (cs : List Call) :
    Reacted op fs (cs.foldl (SimFs.call driver) fs) := by
  induction cs generalizing fs op rest with
  | nil => exact .refl hcore hq
  | cons c cs ih =>
    have hcall := Reacted.call hcore hq driver c
    rcases hcall.opQ with ⟨rest', hq'⟩
    exact hcall.trans (ih (hcore.call driver c) hq')

lemma mem_log (h : Reacted op fs fs') {e : Event} (he : e ∈ fs.log) : e ∈ fs'.log := by
  rcases h.log with ⟨new, hnew, -⟩
  rw [hnew]
  exact mem_append_right new he

lemma started_iff (h : Reacted op fs fs') (n : ℕ) : .started n ∈ fs'.log ↔ .started n ∈ fs.log := by
  rcases h.log with ⟨new, hnew, hquiet⟩
  rw [hnew, mem_append]
  refine ⟨?_, .inr⟩
  rintro (hmem | hmem)
  · exact absurd (hquiet _ hmem) (nomatch ·)
  · exact hmem

lemma answers (h : Reacted op fs fs') (n : ℕ) : answers n fs'.log = answers n fs.log := by
  rcases h.log with ⟨new, hnew, hquiet⟩
  rw [hnew]
  exact answers_append hquiet fs.log n

end Reacted

variable {fs : SimFs}

variable {context : ℕ}

lemma Core.mem_contexts_call (h : Core fs) (driver : SimDriver) (c : Call) (hlive : context ∈
    fs.contexts) : context ∈ (fs.call driver c).contexts ↔ c ≠ .contextFree context := by
  have hfree : c = .contextFree context → context ∉ (fs.call driver c).contexts := by
    intro heq
    subst heq
    simp only [SimFs.call, if_pos hlive]
    exact fun hmem => (h.nodup.mem_erase_iff.mp hmem).1 rfl
  refine ⟨fun hmem heq => hfree heq hmem, ?_⟩
  intro hne
  rcases SimFs.call_cases driver fs c with
    heq | heq | ⟨other, -, hc, heq⟩ | ⟨_, -, heq⟩ | ⟨_, -, -, -, heq⟩
  · rwa [heq]
  · rw [heq]
    exact mem_cons_of_mem _ hlive
  · rw [heq]
    refine h.nodup.mem_erase_iff.mpr ⟨?_, hlive⟩
    intro hother
    exact hne (hc.trans (by rw [hother]))
  · rwa [heq]
  · rwa [heq]

lemma Core.gone_call (h : Core fs) (driver : SimDriver) {c : Call}
    (hlive : context ∈ fs.contexts) (hc : c = .contextFree context) :
    context < (fs.call driver c).nextContext ∧ context ∉ (fs.call driver c).contexts := by
  refine ⟨?_, fun hmem => (h.mem_contexts_call driver c hlive).mp hmem hc⟩
  subst hc
  simp only [SimFs.call, if_pos hlive]
  exact h.known context hlive

lemma SimFs.not_mem_contexts_calls (driver : SimDriver) {fs : SimFs} (cs : List Call)
    (hgone : context < fs.nextContext ∧ context ∉ fs.contexts) :
    context ∉ (cs.foldl (SimFs.call driver) fs).contexts := by
  induction cs generalizing fs with
  | nil => exact hgone.2
  | cons c cs ih =>
    refine ih ?_
    rcases SimFs.call_cases driver fs c with
      heq | heq | ⟨other, -, -, heq⟩ | ⟨_, -, heq⟩ | ⟨_, -, -, -, heq⟩
    · rwa [heq]
    · rw [heq]
      refine ⟨Nat.lt_succ_of_lt hgone.1, ?_⟩
      intro hmem
      rcases mem_cons.mp hmem with heq' | hmem
      · exact hgone.1.ne heq'
      · exact hgone.2 hmem
    · rw [heq]
      exact ⟨hgone.1, fun hmem => hgone.2 (mem_of_mem_erase hmem)⟩
    · rwa [heq]
    · rwa [heq]

lemma Core.mem_contexts_calls (h : Core fs) (driver : SimDriver) (cs : List Call) (hlive : context ∈ fs.contexts) :
    context ∈ (cs.foldl (SimFs.call driver) fs).contexts ↔ .contextFree context ∉ cs := by
  induction cs generalizing fs with
  | nil => simpa using hlive
  | cons c cs ih =>
    have hc := h.mem_contexts_call driver c hlive
    rw [foldl_cons, mem_cons, not_or]
    by_cases hfree : c = .contextFree context
    · have hdead := SimFs.not_mem_contexts_calls driver cs (h.gone_call driver hlive hfree)
      exact ⟨fun hmem => absurd hmem hdead, fun hboth => absurd hfree.symm hboth.1⟩
    · rw [ih (h.call driver c) (hc.mpr hfree)]
      exact ⟨fun hcs => ⟨Ne.symm hfree, hcs⟩, fun hboth => hboth.2⟩

/-! ## Calls in any state -/

/-- What the calls leave alone of a state in which `op` is the head of the queue. -/
structure Aside (cs : List Call) (op : SimFsOp) (fs fs' : SimFs) : Prop where
  opQ : ∃ b rest, fs'.opQ = { op with cb := b } :: rest ∧ (.contextFree op.context ∉ cs → b = op.cb)
  log : ∃ new, fs'.log = new ++ fs.log ∧ ∀ e ∈ new, e.Quiet
  sources : fs'.sources = fs.sources
  requests : fs'.requests = fs.requests
  writing : fs'.writing = fs.writing
  bitmap : fs'.bitmap = fs.bitmap
  fd : fs'.fd = fs.fd
  cache : fs'.cache = fs.cache

namespace Aside

variable {op : SimFsOp} {fs fs' fs'' : SimFs} {rest : List SimFsOp} {cs : List Call}

lemma refl (hq : fs.opQ = op :: rest) : Aside cs op fs fs where
  opQ := ⟨op.cb, rest, hq, fun _ => rfl⟩
  log := ⟨[], rfl, by simp⟩
  sources := rfl
  requests := rfl
  writing := rfl
  bitmap := rfl
  fd := rfl
  cache := rfl

lemma call (hq : fs.opQ = op :: rest) (driver : SimDriver) (c : Call) :
    Aside [c] op fs (fs.call driver c) := by
  have hsame : Aside [c] op fs fs := .refl hq
  rcases SimFs.call_cases driver fs c with
    heq | heq | ⟨context, -, hc, heq⟩ | ⟨context, -, heq⟩ | ⟨new, -, -, -, heq⟩
  · rw [heq]
    exact hsame
  · rw [heq]
    exact { hsame with opQ := ⟨op.cb, rest, hq, fun _ => rfl⟩ }
  · rw [heq]
    refine { hsame with opQ := ?_, log := ⟨[_], rfl, ?_⟩ }
    · refine ⟨_, _, (congrArg (SimFs.freeOps context 0) hq).trans (SimFs.freeOps_cons context op rest), ?_⟩
      intro hother
      have hne : op.context ≠ context := by
        rintro rfl
        exact hother (mem_singleton.mpr hc.symm)
      rw [decide_eq_true hne, Bool.and_true]
    · simp [Event.Quiet]
  · rw [heq]
    refine { hsame with log := ⟨[_], rfl, ?_⟩ }
    simp [Event.Quiet]
  · rw [heq]
    refine { hsame with
      opQ := ⟨op.cb, rest ++ [new], ?_, fun _ => rfl⟩, log := ⟨[_], rfl, ?_⟩, sources := ?_ }
    · show fs.opQ ++ [new] = _
      rw [hq]
      rfl
    · simp [Event.Quiet]
    · unfold SimFs.push
      simp [hq]

lemma trans {cs' : List Call} {b : Bool} (h : Aside cs op fs fs')
    (hb : .contextFree op.context ∉ cs → b = op.cb) (h' : Aside cs' { op with cb := b } fs' fs'') :
    Aside (cs ++ cs') op fs fs'' where
  opQ := by
    rcases h'.opQ with ⟨b', rest, hq, hb'⟩
    refine ⟨b', rest, hq, ?_⟩
    intro hnot
    rw [mem_append, not_or] at hnot
    exact (hb' hnot.2).trans (hb hnot.1)
  log := by
    rcases h.log with ⟨new, hnew, hquiet⟩
    rcases h'.log with ⟨new', hnew', hquiet'⟩
    refine ⟨new' ++ new, by rw [hnew', hnew, append_assoc], ?_⟩
    intro e he
    rcases mem_append.mp he with he | he
    · exact hquiet' e he
    · exact hquiet e he
  sources := h'.sources.trans h.sources
  requests := h'.requests.trans h.requests
  writing := h'.writing.trans h.writing
  bitmap := h'.bitmap.trans h.bitmap
  fd := h'.fd.trans h.fd
  cache := h'.cache.trans h.cache

lemma calls (hq : fs.opQ = op :: rest) (driver : SimDriver) (cs : List Call) :
    Aside cs op fs (cs.foldl (SimFs.call driver) fs) := by
  induction cs generalizing fs op rest with
  | nil => exact .refl hq
  | cons c cs ih =>
    have hcall := Aside.call hq driver c
    rcases hcall.opQ with ⟨b, rest', hq', hb⟩
    exact hcall.trans hb (ih hq')

lemma answers (h : Aside cs op fs fs') (n : ℕ) : answers n fs'.log = answers n fs.log := by
  rcases h.log with ⟨new, hnew, hquiet⟩
  rw [hnew]
  exact answers_append hquiet fs.log n

end Aside

end Phonelets.Simfs
