import Phonelets.Lib.Machine
import Phonelets.Simfs.History

/-! # The queue of operations

The head of the queue waits either for an idle handler or for the driver (`Waits`). Each
handler and each callback is shown to lead from there to such a state again or to end the
operation, all its answers given, provided that the step is `Sound`. `queue_safe_iff` puts
this together: a run has no fault and shows its clients nothing wrong if and only if all its
steps are sound.
-/

namespace Phonelets.Simfs

open List Option

/-! ## What a step has to meet -/

namespace SimFs

/-- The loop of `sim_fs_op_read_block` comes to block `k`. -/
def LooksAtBlock (fs : SimFs) (sys : System) (fd : Fd) (op : SimFsOp) (k : ℕ) : Prop :=
  op.current ≤ k ∧ k ≤ op.endBlock ∧ ∀ j, op.current ≤ j → j < k →
    fs.bitmap.test j = true ∧
      (cachedBlock sys fd (fs.cacheFile fd) { op with current := j }).isSome = true

/-- The blocks that are looked for have bits in the bitmap. -/
def BlocksSound (fs : SimFs) (sys : System) (op : SimFsOp) : Prop :=
  ∀ fd ∈ fs.fd, ∀ k, fs.LooksAtBlock sys fd op k → k < 256

/-- The loop of `sim_fs_op_read_record` comes to record `k`. -/
def LooksAtRecord (fs : SimFs) (sys : System) (fd : Fd) (op : SimFsOp) (k : ℕ) : Prop :=
  op.current ≤ k ∧ k ≤ op.total ∧ ∀ j, op.current ≤ j → j < k →
    fs.bitmap.test (j - 1) = true ∧
      (cachedRecord sys fd (fs.cacheFile fd) { op with current := j }).isSome = true

/-- The records that are looked for have bits in the bitmap, those that are there fit into
the local buffer, and the callback for one record does not free its context when the next
one is there too. -/
def RecordsSound (clients : ℕ → List Call) (fs : SimFs) (sys : System) (op : SimFsOp) : Prop :=
  ∀ fd ∈ fs.fd, ∀ k, fs.LooksAtRecord sys fd op k →
    k ≤ 256 ∧ (fs.bitmap.test (k - 1) = true → op.recordLength ≤ 256 ∧
      (op.current < k → (cachedRecord sys fd (fs.cacheFile fd) { op with current := k }).isSome = true →
        .contextFree op.context ∉ clients (fs.called + (k - 1 - op.current))))

/-- A handler's step: a file of records has a record length, and at least one record. -/
def SoundDispatch (clients : ℕ → List Call) (fs : SimFs) (sys : System) (op : SimFsOp) : Handler → Prop
  | .opNext => True
  | .readBlock =>
    op.cb = true → (op.current = op.startBlock → op.numBytes ≠ 0 ∧ sys.memory = true) →
      fs.BlocksSound sys op
  | .readRecord =>
    op.recordLength ≠ 0 ∧
      (op.cb = true → op.recordLength ≤ op.length ∧ fs.RecordsSound clients sys op)

/-- A callback's step: the data covers what is copied of it, and a block or record that
gets stored has a bit in the bitmap. -/
def SoundReply (fs : SimFs) (sys : System) (op : SimFsOp) : Request → Reply → Prop
  | .readFileTransparent .., .data (some data) =>
    0 ≤ op.tocopy ∧ op.dataoff + op.tocopy.toNat ≤ data.length ∧
      (fs.fd.isSome → data.length ≤ sys.stores 0 → op.current < 256)
  | .readFileLinear .., .data (some data) =>
    fs.fd.isSome → op.recordLength ≤ data.length ∧ (op.recordLength ≤ sys.stores 0 → op.current ≤ 256)
  | .readFileCyclic .., .data (some data) =>
    fs.fd.isSome → op.recordLength ≤ data.length ∧ (op.recordLength ≤ sys.stores 0 → op.current ≤ 256)
  | _, _ => True

/-- The condition on a step. A write function of the driver must have returned before its
answer ends the operation. -/
def Sound (clients : ℕ → List Call) (fs : SimFs) : Input → Prop
  | .call _ => True
  | .dispatch sys => fs.writing = none → ∀ op ∈ fs.opQ.head?, ∀ handler ∈ fs.sources.head?,
      fs.SoundDispatch clients sys op handler
  | .reply n reply sys => ∀ op ∈ fs.opQ.head?, ∀ r ∈ fs.requests[n]?, fs.SoundReply sys op r.2 reply
  | .driverReturns => ∀ n ∈ fs.writing, ∃ op ∈ fs.opQ.head?, op.serial = n

end SimFs

/-! ## What the head of the queue waits for -/

/-- The operation has been started and not been answered. -/
def Unanswered (log : List Event) (op : SimFsOp) : Prop :=
  .started op.serial ∈ log ∧ answers op.serial log = []

/-- The operation has been started and answered up to its current record. -/
def UpToCurrent (log : List Event) (op : SimFsOp) : Prop :=
  .started op.serial ∈ log ∧ Records (answers op.serial log) (op.current - 1) ∧ 1 ≤ op.current

/-- The operation is at one of its blocks, with a buffer for them. -/
def SimFsOp.InBlocks (op : SimFsOp) : Prop :=
  op.startBlock ≤ op.current ∧ op.current ≤ op.endBlock ∧ 0 < op.numBytes ∧
    op.buffer.length = op.numBytes

/-- An operation that the handler can go on with. -/
def Handler.For (log : List Event) (op : SimFsOp) : Handler → Prop
  | .opNext => .started op.serial ∉ log
  | .readBlock => Unanswered log op ∧ op.readsBlocks = true ∧ (op.current = op.startBlock ∨ op.InBlocks)
  | .readRecord => UpToCurrent log op ∧ op.readsRecords = true ∧ (op.current = 1 ∨ op.current ≤ op.total)

/-- An operation that the callback of the request can go on with. -/
def Request.For (log : List Event) (op : SimFsOp) : Request → Prop
  | .readFileInfo .. => Unanswered log op ∧ op.isRead = true
  | .readFileTransparent .. => Unanswered log op ∧ op.readsBlocks = true ∧ op.InBlocks
  | .readFileLinear .. =>
    UpToCurrent log op ∧ op.readsRecords = true ∧ op.current ≤ op.total ∧ 0 < op.recordLength
  | .readFileCyclic .. =>
    UpToCurrent log op ∧ op.readsRecords = true ∧ op.current ≤ op.total ∧ 0 < op.recordLength
  | _ => Unanswered log op ∧ op.isRead = false

/-- There is one idle source or one request, and it is for the head of the queue. -/
def Waits (fs : SimFs) : Prop :=
  match fs.opQ with
  | [] => fs.sources = [] ∧ fs.requests = []
  | op :: _ =>
    (∃ handler, fs.sources = [handler] ∧ fs.requests = [] ∧ handler.For fs.log op) ∨
      ∃ r, fs.sources = [] ∧ fs.requests = [(op.serial, r)] ∧ r.For fs.log op

structure Inv (fs : SimFs) : Prop where
  core : Core fs
  waits : Waits fs

/-- The step does not fault and keeps the invariant. -/
def Leads (r : Option SimFs) : Prop := ∃ fs, r = some fs ∧ Inv fs

/-- The head of the queue is being worked on. -/
structure Working (op : SimFsOp) (fs : SimFs) : Prop where
  core : Core fs
  opQ : ∃ rest, fs.opQ = op :: rest
  sources : fs.sources = []
  requests : fs.requests = []

lemma Inv.good {fs : SimFs} (h : Inv fs) : Good fs where
  history := h.core.history
  kept := h.core.kept
  pending := by
    have hwaits := h.waits
    intro op hop
    unfold Waits at hwaits
    cases hq : fs.opQ with
    | nil => simp [hq] at hop
    | cons head rest =>
      rw [hq, head?_cons, mem_some_iff] at hop
      subst hop
      rw [hq] at hwaits
      rcases hwaits with ⟨handler, hs, -, -⟩ | ⟨r, -, hr, -⟩
      · left
        rw [hs]
        exact cons_ne_nil _ _
      · right
        rw [hr]
        exact ⟨r, mem_cons_self⟩

lemma Core.of_eq {fs fs' : SimFs} (h : Core fs) (hq : fs'.opQ = fs.opQ) (hlog : fs'.log = fs.log)
    (hop : fs'.nextOp = fs.nextOp) (hcontexts : fs'.contexts = fs.contexts)
    (hcontext : fs'.nextContext = fs.nextContext) (hwriting : fs'.writing = fs.writing) : Core fs' := by
  rcases fs with ⟨q, sources, requests, writing, bitmap, fd, contexts, cache, nextContext, nextOp, called, log⟩
  rcases fs' with ⟨_, sources', requests', _, bitmap', fd', _, cache', _, _, called', _⟩
  subst hq hlog hop hcontexts hcontext hwriting
  exact ⟨h.history, h.kept, h.sorted, h.queued, h.fresh, h.ended, h.started, h.cb, h.freed, h.known,
    h.gone, h.nodup, h.writing⟩

namespace Working

variable {op : SimFsOp} {fs : SimFs}

lemma live (h : Working op fs) : op.cb = true ↔ op.context ∈ fs.contexts := by
  rcases h.opQ with ⟨rest, hq⟩
  rw [h.core.cb op (hq ▸ mem_cons_self), decide_eq_true_iff]

lemma withCache (h : Working op fs) (bitmap : Bitmap 8 32) (fd : Option Fd) (cache : ℕ → ℕ →
    Option CacheFile) : Working op { fs with bitmap := bitmap, fd := fd, cache := cache } :=
  ⟨h.core.of_eq rfl rfl rfl rfl rfl rfl, h.opQ, h.sources, h.requests⟩

lemma setHead (h : Working op fs) {p : SimFsOp} (hsame : p.Same op) (hcb : p.cb = op.cb) :
    Working p (fs.setHead p) := by
  rcases h.opQ with ⟨rest, hq⟩
  have hcore := h.core
  have hnew : (fs.setHead p).opQ = p :: rest := by
    unfold SimFs.setHead
    rw [hq]
    rfl
  -- what holds of all operations in the queue and depends on the identity only
  have hall : ∀ {P : SimFsOp → Prop}, (P op → P p) → (∀ o ∈ fs.opQ, P o) →
      ∀ o ∈ (fs.setHead p).opQ, P o := by
    intro P hP hold o ho
    rw [hnew] at ho
    rw [hq] at hold
    rcases mem_cons.mp ho with rfl | hmem
    · exact hP (hold op mem_cons_self)
    · exact hold o (mem_cons_of_mem _ hmem)
  refine ⟨?_, ⟨rest, hnew⟩, h.sources, h.requests⟩
  constructor
  case history => exact hcore.history
  case kept =>
    intro o ho
    rcases hcore.kept o ho with ⟨o', hmem, hsame'⟩ | hrest
    · rw [hq] at hmem
      rcases mem_cons.mp hmem with rfl | hmem
      · exact .inl ⟨p, hnew ▸ mem_cons_self, hsame.trans hsame'⟩
      · exact .inl ⟨o', hnew ▸ mem_cons_of_mem _ hmem, hsame'⟩
    · exact .inr hrest
  case sorted =>
    have hsorted := hcore.sorted
    rw [hq, pairwise_cons] at hsorted
    rw [hnew, pairwise_cons, hsame.1]
    exact hsorted
  case queued =>
    refine hall ?_ hcore.queued
    intro ⟨o, ho, hsame'⟩
    exact ⟨o, ho, hsame'.trans hsame.symm⟩
  case fresh => exact hcore.fresh
  case ended =>
    intro o ho
    refine hall ?_ (hcore.ended o ho)
    intro hlt
    rwa [hsame.1]
  case started =>
    intro n hn
    rcases hcore.started n hn with hended | ⟨o, ho, hserial⟩
    · exact .inl hended
    · right
      rw [hq, head?_cons, mem_some_iff] at ho
      subst ho
      refine ⟨p, ?_, hsame.1.trans hserial⟩
      rw [hnew]
      rfl
  case cb =>
    refine hall ?_ hcore.cb
    intro hlive
    rw [hcb, hsame.2.1]
    exact hlive
  case freed =>
    refine hall ?_ hcore.freed
    intro hfreed
    rw [hsame.2.1]
    exact hfreed
  case known => exact hcore.known
  case gone => exact hcore.gone
  case nodup => exact hcore.nodup
  case writing =>
    intro n hn
    refine ⟨(hcore.writing n hn).1, hall ?_ (hcore.writing n hn).2⟩
    intro hwrite
    rw [hsame.1, hsame.2.2.1]
    exact hwrite

lemma idleAdd (h : Working op fs) {handler : Handler} (hfor : handler.For fs.log op) :
    Inv (fs.idleAdd handler) := by
  rcases h.opQ with ⟨rest, hq⟩
  refine ⟨h.core.of_eq rfl rfl rfl rfl rfl rfl, ?_⟩
  have hsources : (fs.idleAdd handler).sources = [handler] := by
    unfold SimFs.idleAdd
    rw [h.sources]
    rfl
  unfold Waits
  rw [show (fs.idleAdd handler).opQ = op :: rest from hq]
  exact .inl ⟨handler, hsources, h.requests, hfor⟩

lemma request (h : Working op fs) {r : Request} (hfor : r.For fs.log op) :
    Inv (fs.request op r) := by
  rcases h.opQ with ⟨rest, hq⟩
  refine ⟨h.core.of_eq rfl rfl rfl rfl rfl rfl, ?_⟩
  have hrequests : (fs.request op r).requests = [(op.serial, r)] := by
    unfold SimFs.request
    rw [h.requests]
    rfl
  unfold Waits
  rw [show (fs.request op r).opQ = op :: rest from hq]
  exact .inr ⟨r, h.sources, hrequests, hfor⟩

lemma endCurrent (h : Working op fs)
    (hdone : op.cb = true → Complete op (answers op.serial fs.log)) : Leads fs.endCurrent := by
  rcases h.opQ with ⟨rest, hq⟩
  have hcore := h.core
  have hend : fs.endCurrent = some
      { fs with
        opQ := rest
        sources := if 0 < rest.length then fs.sources ++ [.opNext] else fs.sources
        fd := none
        bitmap := .empty
        log := .ended op :: fs.log } := by
    unfold SimFs.endCurrent
    rw [hq]
  have hop : op ∈ fs.opQ := hq ▸ mem_cons_self
  have hmem : ∀ {o : SimFsOp}, o ∈ rest → o ∈ fs.opQ := fun ho => hq ▸ mem_cons_of_mem _ ho
  have hsorted := hcore.sorted
  rw [hq, pairwise_cons] at hsorted
  have hlog : ∀ {e : Event}, e ∈ fs.log → e ∈ Event.ended op :: fs.log :=
    fun he => mem_cons_of_mem _ he
  have hstarted : ∀ n, .started n ∈ fs.log → ∃ o, .ended o ∈ Event.ended op :: fs.log ∧ o.serial = n := by
    intro n hn
    rcases hcore.started n hn with ⟨o, ho, hserial⟩ | ⟨o, ho, hserial⟩
    · exact ⟨o, hlog ho, hserial⟩
    · rw [hq, head?_cons, mem_some_iff] at ho
      subst ho
      exact ⟨op, mem_cons_self, hserial⟩
  have hended : ∀ o', .ended o' ∈ Event.ended op :: fs.log → ∀ o ∈ rest, o'.serial < o.serial := by
    intro o' ho' o ho
    rcases mem_cons.mp ho' with heq | hold
    · cases heq
      exact hsorted.1 o ho
    · exact hcore.ended o' hold o (hmem ho)
  refine ⟨_, hend, ?_, ?_⟩
  · constructor
    case history =>
      refine ⟨⟨hcore.queued op hop, ?_⟩, hcore.history⟩
      by_cases hlive : op.context ∈ fs.contexts
      · exact .inr (hdone (h.live.mpr hlive))
      · exact .inl (hcore.freed op hop hlive)
    case kept =>
      intro o ho
      rcases hcore.kept o (by simpa using ho) with ⟨o', ho', hsame⟩ | ⟨o', ho', hsame⟩ | hfreed
      · rw [hq] at ho'
        rcases mem_cons.mp ho' with rfl | hin
        · exact .inr (.inl ⟨o', mem_cons_self, hsame⟩)
        · exact .inl ⟨o', hin, hsame⟩
      · exact .inr (.inl ⟨o', hlog ho', hsame⟩)
      · exact .inr (.inr (hlog hfreed))
    case sorted => exact hsorted.2
    case queued =>
      intro o ho
      rcases hcore.queued o (hmem ho) with ⟨o', ho', hsame⟩
      exact ⟨o', hlog ho', hsame⟩
    case fresh => exact fun o ho => hcore.fresh o (by simpa using ho)
    case ended => exact hended
    case started => exact fun n hn => .inl (hstarted n (by simpa using hn))
    case cb => exact fun o ho => hcore.cb o (hmem ho)
    case freed => exact fun o ho hnot => hlog (hcore.freed o (hmem ho) hnot)
    case known => exact hcore.known
    case gone => exact fun c hc => hcore.gone c (by simpa using hc)
    case nodup => exact hcore.nodup
    case writing =>
      exact fun n hn => ⟨(hcore.writing n hn).1, fun o ho => (hcore.writing n hn).2 o (hmem ho)⟩
  · unfold Waits
    cases rest with
    | nil => exact ⟨h.sources, h.requests⟩
    | cons next rest =>
      refine .inl ⟨.opNext, ?_, h.requests, ?_⟩
      · show fs.sources ++ [Handler.opNext] = _
        rw [h.sources]
        rfl
      · -- what has been started has ended, and what has ended comes before
        intro hnext
        rcases hstarted next.serial (by simpa using hnext) with ⟨o, ho, hserial⟩
        have hlt := hended o ho next mem_cons_self
        omega

/-- The callback of a live operation is called. Afterwards it may have been cleared. -/
lemma invoke (h : Working op fs) (driver : SimDriver) (clients : ℕ → List Call) (answer : Answer)
    (hcb : op.cb = true) (hstarted : .started op.serial ∈ fs.log) :
    let fs' := fs.invoke driver clients op answer
    Working { op with cb := decide (op.context ∈ fs'.contexts) } fs' ∧
      .started op.serial ∈ fs'.log ∧
      answers op.serial fs'.log = answers op.serial fs.log ++ [answer] ∧
      fs'.bitmap = fs.bitmap ∧ fs'.fd = fs.fd ∧ fs'.cache = fs.cache ∧ fs'.called = fs.called + 1 ∧
      (op.context ∈ fs'.contexts ↔ .contextFree op.context ∉ clients fs.called) := by
  rcases h.opQ with ⟨rest, hq⟩
  have hop : op ∈ fs.opQ := hq ▸ mem_cons_self
  have hlive := h.live.mp hcb
  have hcore := h.core
  have hlog : ∀ {e : Event}, e ∈ fs.log → e ∈ Event.answered op.serial op.context answer :: fs.log :=
    fun he => mem_cons_of_mem _ he
  have hcalled : Core { fs with
      called := fs.called + 1, log := .answered op.serial op.context answer :: fs.log } := by
    constructor
    case history =>
      refine ⟨⟨hstarted, ?_, ?_, ?_⟩, hcore.history⟩
      · rcases hcore.queued op hop with ⟨o, ho, hsame⟩
        exact ⟨o, ho, hsame.1, hsame.2.1⟩
      · exact fun o ho => (hcore.ended o ho op hop).ne
      · exact fun hfreed => (hcore.gone _ hfreed).2 hlive
    case kept =>
      intro o ho
      rcases hcore.kept o (by simpa using ho) with hin | ⟨o', ho', hsame⟩ | hfreed
      · exact .inl hin
      · exact .inr (.inl ⟨o', hlog ho', hsame⟩)
      · exact .inr (.inr (hlog hfreed))
    case sorted => exact hcore.sorted
    case queued =>
      intro o ho
      rcases hcore.queued o ho with ⟨o', ho', hsame⟩
      exact ⟨o', hlog ho', hsame⟩
    case fresh => exact fun o ho => hcore.fresh o (by simpa using ho)
    case ended => exact fun o ho => hcore.ended o (by simpa using ho)
    case started =>
      intro n hn
      rcases hcore.started n (by simpa using hn) with ⟨o, ho, hserial⟩ | hhead
      · exact .inl ⟨o, hlog ho, hserial⟩
      · exact .inr hhead
    case cb => exact hcore.cb
    case freed => exact fun o ho hnot => hlog (hcore.freed o ho hnot)
    case known => exact hcore.known
    case gone => exact fun c hc => hcore.gone c (by simpa using hc)
    case nodup => exact hcore.nodup
    case writing => exact hcore.writing
  have hreacted := Reacted.calls hcalled hq driver (clients fs.called)
  refine ⟨⟨hcalled.calls driver _, hreacted.opQ, ?_, ?_⟩, ?_, ?_, hreacted.bitmap, hreacted.fd,
    hreacted.cache, hreacted.called, hcalled.mem_contexts_calls driver _ hlive⟩
  · exact hreacted.sources.trans h.sources
  · exact hreacted.requests.trans h.requests
  · exact hreacted.mem_log (hlog hstarted)
  · refine (hreacted.answers op.serial).trans ?_
    exact if_pos rfl

lemma answerEnd (h : Working op fs) (driver : SimDriver) (clients : ℕ → List Call) (answer : Answer)
    (hcb : op.cb = true) (hstarted : .started op.serial ∈ fs.log) (hdone : Complete op (answers
    op.serial fs.log ++ [answer])) : Leads (fs.invoke driver clients op answer).endCurrent := by
  rcases h.invoke driver clients answer hcb hstarted with ⟨hworking, -, hanswers, -⟩
  refine hworking.endCurrent fun _ => ?_
  show Complete op (answers op.serial _)
  rw [hanswers]
  exact hdone

lemma opError (h : Working op fs) (driver : SimDriver) (clients : ℕ → List Call) (hstarted :
    .started op.serial ∈ fs.log) (hdone : Complete op (answers op.serial fs.log ++ [.failed])) :
    Leads (fs.opError driver clients) := by
  rcases h.opQ with ⟨rest, hq⟩
  unfold SimFs.opError
  rw [hq]
  by_cases hcb : op.cb = true
  · simp only [hcb, if_true]
    exact h.answerEnd driver clients .failed hcb hstarted hdone
  · simp only [if_neg hcb]
    exact h.endCurrent fun hlive => absurd hlive hcb

lemma endDead (h : Working op fs) (hcb : op.cb = false) : Leads fs.endCurrent :=
  h.endCurrent fun hlive => absurd (hcb.symm.trans hlive) Bool.false_ne_true

end Working

variable {op : SimFsOp}

lemma Unanswered.complete {log : List Event} (h : Unanswered log op) (hother : op.readsRecords =
    false) (answer : Answer) : Complete op (answers op.serial log ++ [answer]) := by
  rw [h.2]
  exact complete_one hother answer

lemma Unanswered.failed {log : List Event} {op : SimFsOp} (h : Unanswered log op) :
    Complete op (answers op.serial log ++ [.failed]) := by
  rw [h.2]
  exact complete_failed (fun _ => ⟨0, Nat.zero_le _, Records.nil⟩) fun _ => rfl

lemma UpToCurrent.failed {log : List Event} {op : SimFsOp} (h : UpToCurrent log op)
    (hreads : op.readsRecords = true) (hle : op.current - 1 ≤ op.total) :
    Complete op (answers op.serial log ++ [.failed]) :=
  complete_failed (fun _ => ⟨op.current - 1, hle, h.2.1⟩)
    fun hother => absurd (hreads.symm.trans hother) Bool.false_ne_true.symm

lemma complete_records {as : List Answer} (hreads : op.readsRecords = true)
    (hsome : 0 < op.total) (has : Records as op.total) : Complete op as := by
  unfold Complete
  rw [if_pos hreads]
  exact .inl ⟨hsome, has⟩

lemma SimFsOp.readsBlocks_eq_true : op.readsBlocks = true ↔
      op.isRead = true ∧ op.infoOnly = false ∧ op.fileStructure = .transparent := by
  simp [SimFsOp.readsBlocks, and_assoc]

lemma SimFsOp.readsRecords_eq_true : op.readsRecords = true ↔
      op.isRead = true ∧ op.infoOnly = false ∧ op.fileStructure ≠ .transparent := by
  simp [SimFsOp.readsRecords, and_assoc]

lemma SimFsOp.not_readsRecords (h : op.readsBlocks = true) : op.readsRecords = false := by
  rcases op.readsBlocks_eq_true.mp h with ⟨-, -, htransparent⟩
  simp [SimFsOp.readsRecords, htransparent]

/-! ## The cache -/

namespace SimFs

variable {fs : SimFs} {sys : System}

lemma opCacheFileinfo_eq (sys : System) (op : SimFsOp) (info : FileInfo) (fs : SimFs) :
    ∃ fd cache, fs.opCacheFileinfo sys op info = { fs with fd := fd, cache := cache } := by
  unfold opCacheFileinfo
  split
  · exact ⟨fs.fd, fs.cache, rfl⟩
  · dsimp only
    split_ifs
    · exact ⟨_, _, rfl⟩
    · exact ⟨_, _, rfl⟩
    · exact ⟨fs.fd, fs.cache, rfl⟩

/-- Storing a block: only the cache changes, and a fault is one of two things. -/
lemma cacheBlock_cases (sys : System) (block blockLen : ℕ) (data : List UInt8) (numBytes : ℕ) (fs
    : SimFs) : (fs.fd.isSome ∧ (data.length < numBytes ∨ numBytes ≤ sys.stores 0 ∧ 256 ≤ block) ∧
    fs.cacheBlock sys block blockLen data numBytes = none) ∨ ((fs.fd.isSome → numBytes ≤ data.length
    ∧ (numBytes ≤ sys.stores 0 → block < 256)) ∧ ∃ bitmap cache, fs.cacheBlock sys block blockLen
    data numBytes = some { fs with bitmap := bitmap, cache := cache }) := by
  unfold cacheBlock
  cases hfd : fs.fd with
  | none => exact .inr ⟨fun h => absurd h Bool.false_ne_true, fs.bitmap, fs.cache, by show some fs = _; rw [← hfd]⟩
  | some fd =>
    dsimp only
    by_cases hshort : data.length < numBytes
    · exact .inl ⟨rfl, .inl hshort, if_pos hshort⟩
    · rw [if_neg hshort]
      have hlen : ((data.take numBytes).take (sys.stores 0)).length = min (sys.stores 0) numBytes := by
        rw [length_take, length_take]
        omega
      rw [hlen]
      by_cases hstored : min (sys.stores 0) numBytes ≠ numBytes
      · rw [if_pos hstored]
        exact .inr ⟨fun _ => ⟨by omega, fun hle => by omega⟩, fs.bitmap, _, by rw [← hfd]; rfl⟩
      · rw [if_neg hstored]
        by_cases hblock : 32 ≤ block / 8
        · rw [if_pos hblock]
          exact .inl ⟨rfl, .inr ⟨by omega, by omega⟩, rfl⟩
        · rw [if_neg hblock]
          have hok : numBytes ≤ data.length ∧ (numBytes ≤ sys.stores 0 → block < 256) :=
            ⟨by omega, fun _ => by omega⟩
          split_ifs
          · exact .inr ⟨fun _ => hok, fs.bitmap, _, by rw [← hfd]; rfl⟩
          · exact .inr ⟨fun _ => hok, _, _, by rw [← hfd]; rfl⟩

end SimFs

/-! ## Handlers and callbacks -/

namespace SimFsOp

variable {op : SimFsOp}

lemma bufoff_add_tocopy (h : op.startBlock ≤ op.current) (hcopy : -1 ≤ op.tocopy)
    (hbytes : 0 < op.numBytes) : op.bufoff + op.tocopy.toNat ≤ op.numBytes := by
  unfold startBlock at h
  unfold tocopy at hcopy ⊢
  unfold bufoff
  unfold startBlock at *
  split_ifs at hcopy ⊢ with hstart
  · omega
  · omega

end SimFsOp

section Steps

variable {op : SimFsOp} {fs : SimFs} {sys : System} (driver : SimDriver) (clients : ℕ → List Call)

lemma Working.opWriteCb (h : Working op fs) (hanswers : Unanswered fs.log op)
    (hread : op.isRead = false) (ok : Bool) : Leads (fs.opWriteCb driver clients ok) := by
  rcases h.opQ with ⟨rest, hq⟩
  have hother : op.readsRecords = false := by simp [SimFsOp.readsRecords, hread]
  unfold SimFs.opWriteCb
  rw [hq]
  by_cases hcb : op.cb = true
  · simp only [hcb, if_true]
    exact h.answerEnd driver clients _ hcb hanswers.1 (hanswers.complete hother _)
  · simp only [if_neg hcb]
    exact h.endDead (Bool.eq_false_of_not_eq_true hcb)

lemma Working.opDone (h : Working op fs) (hcb : op.cb = true) (hanswers : Unanswered fs.log op)
    (hreads : op.readsBlocks = true) : Leads (fs.opDone driver clients op) :=
  h.answerEnd driver clients _ hcb hanswers.1 (hanswers.complete (SimFsOp.not_readsRecords hreads) _)

lemma copyInto_eq_some {buffer data : List UInt8} {pos : ℕ} (h : pos + data.length ≤ buffer.length) :
    ∃ buffer', copyInto buffer pos data = some buffer' ∧ buffer'.length = buffer.length := by
  refine ⟨_, if_pos h, ?_⟩
  rw [length_append, length_append, length_take, length_drop]
  omega

lemma Working.opReadBlockCb (h : Working op fs) (hanswers : Unanswered fs.log op) (hreads :
    op.readsBlocks = true) (hblocks : op.InBlocks) (reply : Option (List UInt8)) (hsound : ∀ data ∈
    reply, 0 ≤ op.tocopy ∧ op.dataoff + op.tocopy.toNat ≤ data.length ∧ (fs.fd.isSome → data.length
    ≤ sys.stores 0 → op.current < 256)) : Leads (fs.opReadBlockCb driver clients sys reply) := by
  rcases h.opQ with ⟨rest, hq⟩
  rcases hblocks with ⟨hstart, hend, hbytes, hbuffer⟩
  unfold SimFs.opReadBlockCb
  rw [hq]
  cases reply with
  | none => exact h.opError driver clients hanswers.1 hanswers.failed
  | some data =>
    rcases hsound data rfl with ⟨hcopy, hdata, hbitmap⟩
    dsimp only
    rw [if_neg (by omega)]
    have hpart : ((data.drop op.dataoff).take op.tocopy.toNat).length = op.tocopy.toNat := by
      rw [length_take, length_drop]
      omega
    have hroom := op.bufoff_add_tocopy hstart (by omega) hbytes
    rcases @copyInto_eq_some op.buffer _ op.bufoff (by rw [hpart, hbuffer]; exact hroom) with
      ⟨buffer, hcopied, hlen⟩
    rw [hcopied, bind_eq_bind, bind_some]
    have hhead := h.setHead (p := { op with buffer := buffer }) (SimFsOp.Same.refl op) rfl
    rcases (fs.setHead { op with buffer := buffer }).cacheBlock_cases sys op.current 256 data data.length with
      ⟨hfd, hshort | ⟨hstored, hblock⟩, -⟩ | ⟨-, bitmap, cache, hstored⟩
    · exact absurd hshort (Nat.lt_irrefl _)
    · exact absurd (hbitmap hfd hstored) (by omega)
    · rw [hstored, bind_eq_bind, bind_some]
      have hcached := hhead.withCache bitmap fs.fd cache
      by_cases hcb : op.cb = true
      · rw [if_pos hcb]
        have hnext := hcached.setHead
          (p := { op with buffer := buffer, current := op.current + 1 }) (SimFsOp.Same.refl op) rfl
        split_ifs with hlast
        · exact hnext.opDone driver clients hcb hanswers hreads
        · refine ⟨_, rfl, hnext.idleAdd ⟨hanswers, hreads, .inr ⟨?_, ?_, hbytes, ?_⟩⟩⟩
          · exact Nat.le_succ_of_le hstart
          · exact Nat.le_of_not_lt hlast
          · exact hlen.trans hbuffer
      · rw [if_neg hcb]
        exact hcached.endDead (Bool.eq_false_of_not_eq_true hcb)

variable {fd : Fd}

lemma cachedBlock_length {file : CacheFile} {data : List UInt8} (h : SimFs.cachedBlock sys fd file
    op = some data) : -1 ≤ op.tocopy ∧ data.length ≤ op.tocopy.toNat := by
  unfold SimFs.cachedBlock at h
  dsimp only at h
  split_ifs at h with hreads hneg hone hreadable hlen
  · rw [← Option.some.inj h]
    exact ⟨by omega, Nat.zero_le _⟩
  · rw [← Option.some.inj h]
    exact ⟨by omega, hlen.le⟩

/-- What the loop over the cached blocks leaves of the operation. -/
def BlocksDone (op op' : SimFsOp) : Prop :=
  ∃ buffer current, op' = { op with buffer := buffer, current := current } ∧
    buffer.length = op.buffer.length ∧ op.current ≤ current ∧ current ≤ op.endBlock + 1

/-- The loop goes over the blocks that it looks at, and faults at the first that has no bit. -/
lemma readBlocks_spec (fd : Fd) (n : ℕ) (hn : op.endBlock + 1 - op.current = n)
    (hend : op.current ≤ op.endBlock + 1) (hstart : op.startBlock ≤ op.current)
    (hbytes : 0 < op.numBytes) (hbuffer : op.buffer.length = op.numBytes) :
    ((∀ k, fs.LooksAtBlock sys fd op k → k < 256) → ∃ op', SimFs.readBlocks sys fs.bitmap fd
    (fs.cacheFile fd) n op = some op' ∧ BlocksDone op op') ∧ ((∃ k, fs.LooksAtBlock sys fd op k ∧
    256 ≤ k) → SimFs.readBlocks sys fs.bitmap fd (fs.cacheFile fd) n op = none) := by
  induction n generalizing op with
  | zero =>
    refine ⟨fun _ => ⟨op, rfl, op.buffer, op.current, rfl, rfl, le_refl _, hend⟩, ?_⟩
    intro ⟨k, ⟨hfrom, hto, _⟩, _⟩
    omega
  | succ n ih =>
    have hlooks : fs.LooksAtBlock sys fd op op.current :=
      ⟨le_refl _, by omega, fun j hj hj' => by omega⟩
    unfold SimFs.readBlocks
    by_cases hbit : 32 ≤ op.current / 8
    · rw [if_pos hbit]
      refine ⟨fun hall => ?_, fun _ => rfl⟩
      have hlt := hall op.current hlooks
      omega
    · rw [if_neg hbit]
      have hstop : ∃ op', some op = some op' ∧ BlocksDone op op' :=
        ⟨op, rfl, op.buffer, op.current, rfl, rfl, le_refl _, hend⟩
      -- if the loop stops here there is no later block that it looks at
      have hlast : (fs.bitmap.test op.current = true →
          (SimFs.cachedBlock sys fd (fs.cacheFile fd) op).isSome = true → False) →
          ¬ ∃ k, fs.LooksAtBlock sys fd op k ∧ 256 ≤ k := by
        intro hnot ⟨k, ⟨hfrom, hto, hall⟩, hk⟩
        have hk' : op.current < k := by omega
        exact hnot (hall op.current (le_refl _) hk').1 (hall op.current (le_refl _) hk').2
      by_cases hpresent : fs.bitmap.test op.current = true
      · rw [if_pos hpresent]
        cases hblock : SimFs.cachedBlock sys fd (fs.cacheFile fd) op with
        | none =>
          refine ⟨fun _ => hstop, fun hex => absurd hex (hlast fun _ hsome => ?_)⟩
          rw [hblock] at hsome
          exact Bool.false_ne_true hsome
        | some data =>
          rcases cachedBlock_length hblock with ⟨hcopy, hlen⟩
          have hroom := op.bufoff_add_tocopy hstart hcopy hbytes
          rcases copyInto_eq_some (show op.bufoff + data.length ≤ op.buffer.length by omega) with
            ⟨buffer, hcopied, hbuffer'⟩
          simp only [hcopied, bind_eq_bind, bind_some]
          -- the blocks looked at from the next one on are those looked at from here
          have hshift : ∀ k, op.current < k →
              (fs.LooksAtBlock sys fd { op with buffer := buffer, current := op.current + 1 } k ↔
                fs.LooksAtBlock sys fd op k) := by
            intro k hk
            constructor
            · intro ⟨_, hto, hall⟩
              refine ⟨hk.le, hto, fun j hj hj' => ?_⟩
              rcases Nat.eq_or_lt_of_le hj with rfl | hlt
              · exact ⟨hpresent, by rw [show ({ op with current := op.current } : SimFsOp) = op from rfl, hblock]; rfl⟩
              · exact hall j hlt hj'
            · intro ⟨_, hto, hall⟩
              exact ⟨hk, hto, fun j hj hj' => hall j (Nat.le_of_succ_le hj) hj'⟩
          have hrest := @ih { op with buffer := buffer, current := op.current + 1 }
            (by show op.endBlock + 1 - (op.current + 1) = n; omega)
            (by show op.current + 1 ≤ op.endBlock + 1; omega)
            (Nat.le_succ_of_le hstart) hbytes (hbuffer'.trans hbuffer)
          constructor
          · intro hall
            rcases hrest.1 fun k hk => hall k ((hshift k hk.1).mp hk) with
              ⟨op', hop', buffer', current, heq, hlen', hfrom, hto⟩
            refine ⟨op', hop', buffer', current, heq, hlen'.trans hbuffer', ?_, hto⟩
            exact Nat.le_of_succ_le hfrom
          · intro ⟨k, hk, hbig⟩
            exact hrest.2 ⟨k, (hshift k (by omega)).mpr hk, hbig⟩
      · rw [if_neg hpresent]
        exact ⟨fun _ => hstop, fun hex => absurd hex (hlast fun h _ => hpresent h)⟩

lemma Working.opReadBlock (h : Working op fs) (hanswers : Unanswered fs.log op)
    (hreads : op.readsBlocks = true) (hblocks : op.current = op.startBlock ∨ op.InBlocks) (hsound :
    fs.SoundDispatch clients sys op .readBlock) : Leads (fs.opReadBlock driver clients sys) := by
  rcases h.opQ with ⟨rest, hq⟩
  unfold SimFs.opReadBlock
  rw [hq]
  dsimp only
  by_cases hcb : op.cb = true
  · rw [if_neg (by rw [hcb]; decide)]
    by_cases hmemory : op.current = op.startBlock ∧ (op.numBytes = 0 ∨ sys.memory = false)
    · rw [if_pos hmemory]
      exact (h.setHead (p := { op with buffer := [] }) (SimFsOp.Same.refl op) rfl).opError driver clients
        hanswers.1 hanswers.failed
    · rw [if_neg hmemory]
      have hready : op.current = op.startBlock → op.numBytes ≠ 0 ∧ sys.memory = true := by
        intro hfirst
        constructor
        · exact fun hzero => hmemory ⟨hfirst, .inl hzero⟩
        · by_contra hnot
          exact hmemory ⟨hfirst, .inr (Bool.eq_false_of_not_eq_true hnot)⟩
      have hblocksSound := hsound hcb hready
      -- the operation with its buffer
      generalize hop : (if op.current = op.startBlock then
        { op with buffer := List.replicate op.numBytes 0 } else op) = op₁
      have hop₁ : ∃ buffer, op₁ = { op with buffer := buffer } ∧ buffer.length = op.numBytes ∧
          op.startBlock ≤ op.current ∧ op.current ≤ op.endBlock + 1 ∧ 0 < op.numBytes := by
        rw [← hop]
        split_ifs with hfirst
        · have hbytes := (hready hfirst).1
          refine ⟨_, rfl, length_replicate, hfirst.ge, ?_, Nat.pos_of_ne_zero hbytes⟩
          unfold SimFsOp.startBlock at hfirst
          unfold SimFsOp.endBlock
          omega
        · rcases hblocks with hfirst' | ⟨hstart, hend, hbytes, hbuffer⟩
          · exact absurd hfirst' hfirst
          · exact ⟨op.buffer, rfl, hbuffer, hstart, Nat.le_succ_of_le hend, hbytes⟩
      rcases hop₁ with ⟨buffer, rfl, hbuffer, hstart, hend, hbytes⟩
      have hloop : ∃ op', fs.readCachedBlocks sys { op with buffer := buffer } = some op' ∧
          BlocksDone { op with buffer := buffer } op' := by
        unfold SimFs.readCachedBlocks
        cases hfd : fs.fd with
        | none => exact ⟨_, rfl, buffer, op.current, rfl, rfl, le_refl _, hend⟩
        | some fd =>
          have hspec := @readBlocks_spec { op with buffer := buffer } fs sys fd _ rfl hend hstart hbytes
            hbuffer
          exact hspec.1 (hblocksSound fd hfd)
      rcases hloop with ⟨op', hop', buffer', current, rfl, hlen, hfrom, hto⟩
      have hnext := h.setHead (p := { op with buffer := buffer', current := current }) (SimFsOp.Same.refl op) rfl
      rw [hop', bind_eq_bind, bind_some]
      split_ifs with hlast hdriver
      · exact hnext.opDone driver clients hcb hanswers hreads
      · refine ⟨_, rfl, hnext.request ⟨hanswers, hreads, ?_, ?_, hbytes, hlen.trans hbuffer⟩⟩
        · exact le_trans hstart hfrom
        · exact Nat.le_of_not_lt hlast
      · exact hnext.opError driver clients hanswers.1 hanswers.failed
  · rw [if_pos (by simpa using hcb)]
    exact h.endDead (Bool.eq_false_of_not_eq_true hcb)

lemma Working.advance {o : SimFsOp} (h : Working o fs) :
    Working { o with current := o.current + 1 } fs.advance := by
  rcases h.opQ with ⟨rest, hq⟩
  have heq : fs.advance = fs.setHead { o with current := o.current + 1 } := by
    unfold SimFs.advance SimFs.setHead
    rw [hq]
    rfl
  rw [heq]
  exact h.setHead (SimFsOp.Same.refl o) rfl

lemma UpToCurrent.next {log : List Event} {as : List Answer} {o : SimFsOp} (h : UpToCurrent log o)
    {length : ℕ} {data : List UInt8} {recordLength : ℕ} (has : as =
    answers o.serial log ++ [.data length o.current data recordLength]) : Records as o.current := by
  have hsnoc := h.2.1.snoc (a := .data length o.current data recordLength)
    (by show some o.current = _; rw [Nat.sub_add_cancel h.2.2])
  rw [Nat.sub_add_cancel h.2.2] at hsnoc
  rw [has]
  exact hsnoc

lemma Working.opRetrieveCb (h : Working op fs) (hanswers : UpToCurrent fs.log op)
    (hreads : op.readsRecords = true) (htotal : op.current ≤ op.total) (hlength : 0 <
    op.recordLength) (reply : Option (List UInt8)) (hsound : ∀ data ∈ reply, fs.fd.isSome →
    op.recordLength ≤ data.length ∧ (op.recordLength ≤ sys.stores 0 → op.current ≤ 256)) :
    Leads (fs.opRetrieveCb driver clients sys reply) := by
  rcases h.opQ with ⟨rest, hq⟩
  have hone := hanswers.2.2
  unfold SimFs.opRetrieveCb
  rw [hq]
  dsimp only
  rw [if_neg hlength.ne']
  cases reply with
  | none => exact h.opError driver clients hanswers.1 (hanswers.failed hreads (by omega))
  | some data =>
    have hdata := hsound data rfl
    rcases fs.cacheBlock_cases sys (op.current - 1) op.recordLength data op.recordLength with
      ⟨hfd, hshort | ⟨hstored, hblock⟩, -⟩ | ⟨-, bitmap, cache, hstored⟩
    · exact absurd hshort (Nat.not_lt.mpr (hdata hfd).1)
    · have hle := (hdata hfd).2 hstored
      omega
    · dsimp only
      rw [hstored, bind_eq_bind, bind_some]
      have hcached := h.withCache bitmap fs.fd cache
      by_cases hcb : op.cb = true
      · rw [if_pos hcb]
        rcases hcached.invoke driver clients (.data op.length op.current data op.recordLength) hcb
          hanswers.1 with ⟨hworking, hstarted, hnew, -⟩
        have hrecords := hanswers.next hnew
        split_ifs with hmore
        · refine ⟨_, rfl, hworking.advance.idleAdd ⟨⟨hstarted, hrecords, ?_⟩, hreads, ?_⟩⟩
          · exact Nat.le_add_left 1 _
          · exact .inr hmore
        · refine hworking.endCurrent fun _ => ?_
          have hall : op.current = op.total := by omega
          show Complete op _
          exact complete_records hreads (by omega) (hall ▸ hrecords)
      · rw [if_neg hcb]
        exact hcached.endDead (Bool.eq_false_of_not_eq_true hcb)

/-- What the loop over the cached records leaves of the operation. -/
def RecordsDone (op op' : SimFsOp) : Prop :=
  ∃ b current, op' = { op with cb := b, current := current } ∧ op.current ≤ current ∧
    current ≤ op.total + 1

/-- After the callback for a record that is in the cache the conditions are those of the
records that are left. -/
lemma looksAtRecord_succ {fs' : SimFs} {b : Bool} {k : ℕ} (hbitmap : fs'.bitmap = fs.bitmap)
    (hcache : fs'.cache = fs.cache) (hpresent : fs.bitmap.test (op.current - 1) = true) (hrecord :
    (SimFs.cachedRecord sys fd (fs.cacheFile fd) op).isSome = true) (hk : op.current < k) :
    fs'.LooksAtRecord sys fd { op with cb := b, current := op.current + 1 } k ↔ fs.LooksAtRecord sys
    fd op k := by
  unfold SimFs.LooksAtRecord SimFs.cacheFile
  rw [hbitmap, hcache]
  constructor
  · intro ⟨_, hto, hall⟩
    refine ⟨hk.le, hto, ?_⟩
    intro j hj hj'
    rcases Nat.eq_or_lt_of_le hj with heq | hlt
    · subst heq
      exact ⟨hpresent, hrecord⟩
    · exact hall j hlt hj'
  · intro ⟨_, hto, hall⟩
    exact ⟨hk, hto, fun j hj hj' => hall j (Nat.le_of_succ_le hj) hj'⟩

lemma recordsSound_succ {fs' : SimFs} {b : Bool} (hfd : fs'.fd = fs.fd)
    (hbitmap : fs'.bitmap = fs.bitmap) (hcache : fs'.cache = fs.cache)
    (hcalled : fs'.called = fs.called + 1) {fd : Fd} (hopen : fs.fd = some fd)
    (hpresent : fs.bitmap.test (op.current - 1) = true)
    (hrecord : (SimFs.cachedRecord sys fd (fs.cacheFile fd) op).isSome = true)
    (hsound : fs.RecordsSound clients sys op) :
    fs'.RecordsSound clients sys { op with cb := b, current := op.current + 1 } := by
  intro fd' hfd' k hk
  rw [hfd, hopen, mem_some_iff] at hfd'
  subst hfd'
  have hlt : op.current < k := hk.1
  have hold := hsound fd hopen k ((looksAtRecord_succ hbitmap hcache hpresent hrecord hlt).mp hk)
  refine ⟨hold.1, fun hpresent' => ?_⟩
  rw [hbitmap] at hpresent'
  refine ⟨(hold.2 hpresent').1, fun hnext hsome => ?_⟩
  have hnext' : op.current + 1 < k := hnext
  have hfree := (hold.2 hpresent').2 hlt (by
    unfold SimFs.cacheFile at hsome ⊢
    rw [hcache] at hsome
    exact hsome)
  rw [hcalled]
  have hindex : fs.called + 1 + (k - 1 - (op.current + 1)) = fs.called + (k - 1 - op.current) := by
    omega
  show .contextFree op.context ∉ clients (fs.called + 1 + (k - 1 - (op.current + 1)))
  rw [hindex]
  exact hfree

/-- The condition of the loop when the next callback frees the context: the record after it is
not in the cache. -/
lemma recordsSound_freed {b : Bool} (hsound : fs.RecordsSound clients sys op) (hfd : fs.fd = some
    fd) (hpresent : fs.bitmap.test (op.current - 1) = true) (hsome : (SimFs.cachedRecord sys fd
    (fs.cacheFile fd) op).isSome = true) (hle : op.current + 1 ≤ op.total) (hpresent' :
    fs.bitmap.test op.current = true) (hfrees : .contextFree op.context ∈ clients fs.called) :
    (SimFs.cachedRecord sys fd (fs.cacheFile fd) { op with cb := b, current := op.current + 1
    }).isSome = false := by
  have hnext := (looksAtRecord_succ (b := b) rfl rfl hpresent hsome
    (Nat.lt_succ_self op.current)).mp ⟨le_refl _, hle, fun j hj hj' => by
      have : op.current + 1 ≤ j := hj
      omega⟩
  have hcond := ((hsound fd hfd (op.current + 1) hnext).2 hpresent').2 (Nat.lt_succ_self _)
  by_contra htrue
  have hnotfree := hcond (Bool.eq_true_of_not_eq_false htrue)
  rw [show fs.called + (op.current + 1 - 1 - op.current) = fs.called by omega] at hnotfree
  exact hnotfree hfrees

/-- The loop over the cached records: one callback for each. It may be entered without a
callback if it stops at once. -/
lemma Working.readRecords (n : ℕ) (h : Working op fs) (hn : op.total + 1 - op.current = n)
    (hle : op.current ≤ op.total + 1) (hanswers : UpToCurrent fs.log op) (hsound : fs.RecordsSound
    clients sys op) (hcb : op.cb = true ∨ ∀ fd ∈ fs.fd, op.current ≤ op.total → fs.bitmap.test
    (op.current - 1) = true → (SimFs.cachedRecord sys fd (fs.cacheFile fd) op).isSome = false) :
    ∃ fs' op', fs.readRecords driver clients sys n = some fs' ∧ Working op' fs' ∧
    RecordsDone op op' ∧ UpToCurrent fs'.log op' := by
  induction n generalizing op fs with
  | zero =>
    exact ⟨fs, op, rfl, h, ⟨op.cb, op.current, rfl, le_refl _, hle⟩, hanswers⟩
  | succ n ih =>
    rcases h.opQ with ⟨rest, hq⟩
    have hstop : ∃ fs' op', some fs = some fs' ∧ Working op' fs' ∧ RecordsDone op op' ∧
        UpToCurrent fs'.log op' :=
      ⟨fs, op, rfl, h, ⟨op.cb, op.current, rfl, le_refl _, hle⟩, hanswers⟩
    unfold SimFs.readRecords
    rw [hq]
    cases hfd : fs.fd with
    | none => exact hstop
    | some fd =>
      have hlooks : fs.LooksAtRecord sys fd op op.current :=
        ⟨le_refl _, by omega, fun j hj hj' => by omega⟩
      rcases hsound fd hfd op.current hlooks with ⟨hbit, hpresentSound⟩
      dsimp only
      rw [if_neg (by omega)]
      by_cases hpresent : fs.bitmap.test (op.current - 1) = true
      · rw [if_pos hpresent, if_neg (Nat.not_lt.mpr (hpresentSound hpresent).1)]
        cases hrecord : SimFs.cachedRecord sys fd (fs.cacheFile fd) op with
        | none => exact hstop
        | some data =>
          have hlive : op.cb = true := by
            rcases hcb with hcb | hnot
            · exact hcb
            · have hfalse := hnot fd hfd (by omega) hpresent
              rw [hrecord] at hfalse
              exact absurd hfalse Bool.true_eq_false_eq_False
          dsimp only
          rw [if_pos hlive]
          have hsome : (SimFs.cachedRecord sys fd (fs.cacheFile fd) op).isSome = true := by
            rw [hrecord]
            rfl
          rcases h.invoke driver clients (.data op.length op.current data op.recordLength) hlive
            hanswers.1 with
            ⟨hworking, hstarted, hnew, hbitmap', hfd', hcache', hcalled', hfree⟩
          have hnext := hworking.advance
          generalize hfs' : fs.invoke driver clients op
            (.data op.length op.current data op.recordLength) = fs' at *
          have hsound' : fs'.advance.RecordsSound clients sys
              { op with cb := decide (op.context ∈ fs'.contexts), current := op.current + 1 } :=
            @recordsSound_succ op fs sys clients fs'.advance _ hfd' hbitmap' hcache' hcalled' fd hfd
              hpresent hsome hsound
          have hcb' : decide (op.context ∈ fs'.contexts) = true ∨ ∀ fd' ∈ fs'.advance.fd,
              op.current + 1 ≤ op.total → fs'.advance.bitmap.test op.current = true →
                (SimFs.cachedRecord sys fd' (fs'.advance.cacheFile fd')
                  { op with cb := decide (op.context ∈ fs'.contexts), current := op.current + 1 }).isSome
                    = false := by
            by_cases hkept : op.context ∈ fs'.contexts
            · exact .inl (decide_eq_true hkept)
            · -- the context has been freed, so the next record is not in the cache
              right
              intro fd' hopen hle' hpresent'
              have hopen' : some fd' = some fd := hopen.symm.trans (hfd'.trans hfd)
              cases hopen'
              rw [show fs'.advance.bitmap = fs.bitmap from hbitmap'] at hpresent'
              unfold SimFs.cacheFile
              rw [show fs'.advance.cache = fs.cache from hcache']
              refine recordsSound_freed clients hsound hfd hpresent hsome hle' hpresent' ?_
              by_contra hnotfree
              exact hkept (hfree.mpr hnotfree)
          rcases ih hnext (by show op.total + 1 - (op.current + 1) = n; omega)
            (by show op.current + 1 ≤ op.total + 1; omega)
            ⟨hstarted, hanswers.next hnew, Nat.le_add_left 1 _⟩ hsound' hcb' with
            ⟨fs'', op'', hloop, hworking', ⟨b, current, rfl, hfrom, hto⟩, hup⟩
          exact ⟨fs'', _, hloop, hworking', ⟨b, current, rfl, Nat.le_of_succ_le hfrom, hto⟩, hup⟩
      · rw [if_neg hpresent]
        exact hstop

lemma Working.opReadRecord (h : Working op fs) (hanswers : UpToCurrent fs.log op)
    (hreads : op.readsRecords = true) (hcurrent : op.current = 1 ∨ op.current ≤ op.total) (hsound :
    fs.SoundDispatch clients sys op .readRecord) : Leads (fs.opReadRecord driver clients sys) := by
  rcases h.opQ with ⟨rest, hq⟩
  rcases hsound with ⟨hlength, hrecords⟩
  unfold SimFs.opReadRecord
  rw [hq]
  dsimp only
  rw [if_neg hlength]
  by_cases hcb : op.cb = true
  · rw [if_pos hcb]
    rcases hrecords hcb with ⟨hle, hrecordsSound⟩
    have htotal : 0 < op.total := Nat.div_pos hle (Nat.pos_of_ne_zero hlength)
    rcases h.readRecords driver clients _ rfl (by omega) hanswers hrecordsSound (.inl hcb) with
      ⟨fs', op', hloop, hworking, ⟨b, current, rfl, hfrom, hto⟩, hup⟩
    rw [hloop, bind_eq_bind, bind_some]
    rcases hworking.opQ with ⟨rest', hq'⟩
    rw [hq']
    dsimp only
    by_cases hlast : ({ op with cb := b, current := current } : SimFsOp).total < current
    · rw [if_pos hlast]
      refine hworking.endCurrent fun _ => ?_
      have hlast' : op.total < current := hlast
      have hall : current - 1 = op.total := by omega
      show Complete op _
      exact complete_records hreads htotal (hall ▸ hup.2.1)
    · rw [if_neg hlast]
      have hcurrent' : current ≤ op.total := Nat.le_of_not_lt hlast
      have hfailed := hup.failed hreads (show current - 1 ≤ op.total by omega)
      rcases op.readsRecords_eq_true.mp hreads with ⟨-, -, hstructure⟩
      cases hfixed : op.fileStructure with
      | transparent => exact absurd hfixed hstructure
      | fixed =>
        dsimp only
        split_ifs
        · exact ⟨_, rfl, hworking.request ⟨hup, hreads, hcurrent', Nat.pos_of_ne_zero hlength⟩⟩
        · exact hworking.opError driver clients hup.1 hfailed
      | cyclic =>
        dsimp only
        split_ifs
        · exact ⟨_, rfl, hworking.request ⟨hup, hreads, hcurrent', Nat.pos_of_ne_zero hlength⟩⟩
        · exact hworking.opError driver clients hup.1 hfailed
  · rw [if_neg hcb]
    exact h.endDead (Bool.eq_false_of_not_eq_true hcb)

/-- What is known of the file is taken over, and the first handler is scheduled. -/
lemma Working.begin (h : Working op fs) (hanswers : Unanswered fs.log op) (hread : op.isRead = true)
    (hinfo : op.infoOnly = false) {o : SimFsOp} (hsame : o.Same op) (hcb : o.cb = op.cb)
    (htransparent : o.fileStructure = .transparent → o.current = o.startBlock)
    (hrecords : o.fileStructure ≠ .transparent → o.current = 1) :
    Inv ((fs.setHead o).idleAdd (if o.fileStructure = .transparent then .readBlock else .readRecord)) := by
  have hnew := h.setHead hsame hcb
  have hanswers' : Unanswered fs.log o := by
    unfold Unanswered
    rw [hsame.1]
    exact hanswers
  have hread' : o.isRead = true := hsame.2.2.1.trans hread
  have hinfo' : o.infoOnly = false := hsame.2.2.2.1.trans hinfo
  split_ifs with hkind
  · exact hnew.idleAdd ⟨hanswers', o.readsBlocks_eq_true.mpr ⟨hread', hinfo', hkind⟩,
      .inl (htransparent hkind)⟩
  · have hone := hrecords hkind
    refine hnew.idleAdd ⟨⟨hanswers'.1, ?_, hone.ge⟩, o.readsRecords_eq_true.mpr ⟨hread', hinfo', hkind⟩,
      .inl hone⟩
    rw [hone, show (fs.setHead o).log = fs.log from rfl, hanswers'.2]
    exact Records.nil

lemma Working.opInfoCb (h : Working op fs) (hanswers : Unanswered fs.log op) (hread : op.isRead = true)
    (reply : Option FileInfo) : Leads (fs.opInfoCb driver clients sys reply) := by
  rcases h.opQ with ⟨rest, hq⟩
  unfold SimFs.opInfoCb
  rw [hq]
  cases reply with
  | none => exact h.opError driver clients hanswers.1 hanswers.failed
  | some info =>
    rcases SimFs.opCacheFileinfo_eq sys op info fs with ⟨fd, cache, hcached⟩
    dsimp only
    rw [hcached]
    have hworking := h.withCache fs.bitmap fd cache
    by_cases hstructure : info.fileStructure ≠ op.fileStructure
    · rw [if_pos hstructure]
      exact hworking.opError driver clients hanswers.1 hanswers.failed
    · rw [if_neg hstructure]
      have hkind : info.fileStructure = op.fileStructure := not_not.mp hstructure
      by_cases hcb : op.cb = true
      · rw [if_neg (by rw [hcb]; decide)]
        generalize ho : (if info.fileStructure = .transparent then
          { op with
            length := info.length
            numBytes := if op.numBytes = 0 then info.length else op.numBytes
            recordLength := info.length
            current := op.offset / 256 }
          else { op with length := info.length, recordLength := info.recordLength, current := 1 }) = o
        have hsame : o.Same op ∧ o.cb = op.cb ∧
            (o.fileStructure = .transparent → o.current = o.startBlock) ∧
            (o.fileStructure ≠ .transparent → o.current = 1) := by
          rw [← ho]
          by_cases htransparent : info.fileStructure = .transparent
          · rw [if_pos htransparent]
            refine ⟨SimFsOp.Same.refl op, rfl, fun _ => rfl, fun hnot => ?_⟩
            exact absurd (hkind.symm.trans htransparent) hnot
          · rw [if_neg htransparent]
            refine ⟨SimFsOp.Same.refl op, rfl, fun hyes => ?_, fun _ => rfl⟩
            exact absurd (hkind.trans hyes) htransparent
        rcases hsame with ⟨hsame, hcb', htransparent, hrecords⟩
        by_cases hinfo : op.infoOnly = true
        · have hinfo' : o.infoOnly = true := hsame.2.2.2.1.trans hinfo
          rw [if_pos hinfo']
          have hanswers' : Unanswered fs.log o := by
            unfold Unanswered
            rw [hsame.1]
            exact hanswers
          have hother : o.readsRecords = false := by simp [SimFsOp.readsRecords, hinfo']
          exact (hworking.setHead hsame hcb').answerEnd driver clients _ (hcb'.trans hcb) hanswers'.1
            (hanswers'.complete hother _)
        · rw [if_neg (by rw [hsame.2.2.2.1]; exact hinfo)]
          have hbegin := hworking.begin hanswers hread (Bool.eq_false_of_not_eq_true hinfo) hsame hcb'
            htransparent hrecords
          rw [hkind, ← hsame.2.2.2.2]
          split_ifs at hbegin ⊢
          · exact ⟨_, rfl, hbegin⟩
          · exact ⟨_, rfl, hbegin⟩
      · rw [if_pos (by simpa using hcb)]
        exact hworking.endDead (Bool.eq_false_of_not_eq_true hcb)

lemma FileStructure.code_inj {a b : FileStructure} (h : a.code = b.code) : a = b := by
  revert h
  cases a <;> cases b <;> decide

lemma Working.opCheckCached (h : Working op fs) (hanswers : Unanswered fs.log op) (hcb : op.cb = true)
    (hread : op.isRead = true) (fd : Fd) (header : SimFs.CacheHeader) :
    Leads (fs.opCheckCached driver clients op fd header) := by
  unfold SimFs.opCheckCached
  extract_lets o fs₀ fs'
  have hworking : Working o fs' := (h.setHead (p := o) (SimFsOp.Same.refl op) rfl).withCache _ _ _
  have hanswers' : Unanswered fs'.log o := hanswers
  by_cases herror : header.errorType ≠ 0 ∨ header.structureCode ≠ o.fileStructure.code
  · rw [if_pos herror]
    exact hworking.opError driver clients hanswers.1 hanswers'.failed
  rw [if_neg herror]
  by_cases hinfo : o.infoOnly = true
  · rw [if_pos hinfo]
    have hother : o.readsRecords = false := by simp [SimFsOp.readsRecords, hinfo]
    exact hworking.answerEnd driver clients _ hcb hanswers.1 (hanswers'.complete hother _)
  rw [if_neg hinfo]
  have hinfo' := Bool.eq_false_of_not_eq_true hinfo
  by_cases htransparent : o.fileStructure = .transparent
  · rw [if_pos htransparent]
    have hbegin := hworking.begin hanswers' hread hinfo' (o := { o with
      numBytes := if o.numBytes = 0 then o.length else o.numBytes, current := o.offset / 256 })
      (SimFsOp.Same.refl o) rfl (fun _ => rfl) (fun hnot => absurd htransparent hnot)
    rw [if_pos htransparent] at hbegin
    exact ⟨_, rfl, hbegin⟩
  · rw [if_neg htransparent]
    have hbegin := hworking.begin hanswers' hread hinfo' (o := { o with current := 1 })
      (SimFsOp.Same.refl o) rfl (fun hyes => absurd hyes htransparent) (fun _ => rfl)
    rw [if_neg htransparent] at hbegin
    exact ⟨_, rfl, hbegin⟩

lemma Working.start (h : Working op fs) (hnew : .started op.serial ∉ fs.log) :
    Working op (fs.started op) ∧ Unanswered (fs.started op).log op := by
  rcases h.opQ with ⟨rest, hq⟩
  have hcore := h.core
  have hop : op ∈ fs.opQ := hq ▸ mem_cons_self
  have hlog : ∀ {e : Event}, e ∈ fs.log → e ∈ Event.started op.serial :: fs.log :=
    fun he => mem_cons_of_mem _ he
  refine ⟨⟨?_, h.opQ, h.sources, h.requests⟩, mem_cons_self, answers_eq_nil hcore.history hnew⟩
  constructor
  case history =>
    refine ⟨⟨?_, ?_⟩, hcore.history⟩
    · rcases hcore.queued op hop with ⟨o, ho, hsame⟩
      exact ⟨o, ho, hsame.1⟩
    · intro m hm
      rcases hcore.started m hm with ⟨o, ho, hserial⟩ | ⟨o, ho, hserial⟩
      · exact ⟨hserial ▸ hcore.ended o ho op hop, o, ho, hserial⟩
      · rw [hq, head?_cons, mem_some_iff] at ho
        subst ho
        exact absurd (hserial ▸ hm) hnew
  case kept =>
    intro o ho
    rcases hcore.kept o (by simpa [SimFs.started] using ho) with hin | ⟨o', ho', hsame⟩ | hfreed
    · exact .inl hin
    · exact .inr (.inl ⟨o', hlog ho', hsame⟩)
    · exact .inr (.inr (hlog hfreed))
  case sorted => exact hcore.sorted
  case queued =>
    intro o ho
    rcases hcore.queued o ho with ⟨o', ho', hsame⟩
    exact ⟨o', hlog ho', hsame⟩
  case fresh => exact fun o ho => hcore.fresh o (by simpa [SimFs.started] using ho)
  case ended => exact fun o ho => hcore.ended o (by simpa [SimFs.started] using ho)
  case started =>
    intro n hn
    rcases mem_cons.mp hn with heq | hold
    · cases heq
      right
      refine ⟨op, ?_, rfl⟩
      show op ∈ fs.opQ.head?
      rw [hq]
      rfl
    · rcases hcore.started n hold with ⟨o, ho, hserial⟩ | hhead
      · exact .inl ⟨o, hlog ho, hserial⟩
      · exact .inr hhead
  case cb => exact hcore.cb
  case freed => exact fun o ho hnot => hlog (hcore.freed o ho hnot)
  case known => exact hcore.known
  case gone => exact fun c hc => hcore.gone c (by simpa [SimFs.started] using hc)
  case nodup => exact hcore.nodup
  case writing => exact hcore.writing

lemma Working.startWrite (h : Working op fs) (hanswers : Unanswered fs.log op) (hread : op.isRead
    = false) : Inv { fs.request op (SimFs.writeRequest op) with writing := some op.serial } := by
  rcases h.opQ with ⟨rest, hq⟩
  have hcore := h.core
  have hsorted := hcore.sorted
  rw [hq, pairwise_cons] at hsorted
  have hfor : (SimFs.writeRequest op).For fs.log op := by
    unfold SimFs.writeRequest
    cases op.fileStructure with
    | transparent => exact ⟨hanswers, hread⟩
    | fixed => exact ⟨hanswers, hread⟩
    | cyclic => exact ⟨hanswers, hread⟩
  refine ⟨⟨hcore.history, hcore.kept, hcore.sorted, hcore.queued, hcore.fresh, hcore.ended,
    hcore.started, hcore.cb, hcore.freed, hcore.known, hcore.gone, hcore.nodup, ?_⟩,
    (h.request hfor).waits⟩
  intro n hn
  rw [Option.some.injEq] at hn
  subst hn
  constructor
  · rcases hcore.queued op (hq ▸ mem_cons_self) with ⟨o, ho, hsame⟩
    rw [← hsame.1]
    exact hcore.fresh o ho
  · intro o ho hserial
    rw [show (fs.request op (SimFs.writeRequest op)).opQ = op :: rest from hq] at ho
    rcases mem_cons.mp ho with rfl | hmem
    · exact hread
    · exact absurd hserial (hsorted.1 o hmem).ne'

lemma Working.opNext (h : Working op fs) (hnew : .started op.serial ∉ fs.log) :
    Leads (fs.opNext driver clients sys) := by
  rcases h.opQ with ⟨rest, hq⟩
  unfold SimFs.opNext
  rw [hq]
  dsimp only
  by_cases hcb : op.cb = true
  · rw [if_neg (by rw [hcb]; decide)]
    rcases h.start hnew with ⟨hworking, hanswers⟩
    by_cases hread : op.isRead = true
    · rw [if_pos hread]
      split
      · exact hworking.opCheckCached driver clients hanswers hcb hread _ _
      · exact ⟨_, rfl, hworking.request ⟨hanswers, hread⟩⟩
    · rw [if_neg hread]
      exact ⟨_, rfl, hworking.startWrite hanswers (Bool.eq_false_of_not_eq_true hread)⟩
  · rw [if_pos (by simpa using hcb)]
    exact h.endDead (Bool.eq_false_of_not_eq_true hcb)

lemma Inv.driverReturns (h : Inv fs) (hsound : ∀ n ∈ fs.writing, ∃ o ∈ fs.opQ.head?, o.serial = n) :
    Leads fs.driverReturns := by
  unfold SimFs.driverReturns
  cases hwriting : fs.writing with
  | none => exact ⟨fs, rfl, h⟩
  | some n =>
    rcases hsound n hwriting with ⟨o, ho, hserial⟩
    cases hq : fs.opQ with
    | nil => simp [hq] at ho
    | cons head rest =>
      rw [hq, head?_cons, mem_some_iff] at ho
      subst ho
      dsimp only
      rw [if_pos hserial]
      have hread := (h.core.writing n hwriting).2 head (hq ▸ mem_cons_self) hserial
      have hidle : Working head { fs with sources := [], requests := [], writing := none } :=
        ⟨⟨h.core.history, h.core.kept, h.core.sorted, h.core.queued, h.core.fresh, h.core.ended,
          h.core.started, h.core.cb, h.core.freed, h.core.known, h.core.gone, h.core.nodup,
          fun _ hnone => absurd hnone nofun⟩, ⟨rest, hq⟩, rfl, rfl⟩
      have hset := hidle.setHead (p := { head with buffer := [] }) (SimFsOp.Same.refl head) rfl
      refine ⟨_, rfl, hset.core.of_eq rfl rfl rfl rfl rfl rfl, ?_⟩
      have hwaits := h.waits
      unfold Waits at hwaits ⊢
      rw [hq] at hwaits
      show (∃ handler, fs.sources = [handler] ∧ _) ∨ _
      rcases hwaits with ⟨handler, hs, hr, hfor⟩ | ⟨r, hs, hr, hfor⟩
      · refine .inl ⟨handler, hs, hr, ?_⟩
        cases handler with
        | opNext => exact hfor
        | readBlock =>
          rcases head.readsBlocks_eq_true.mp hfor.2.1 with ⟨hyes, -⟩
          exact absurd (hread.symm.trans hyes) Bool.false_ne_true
        | readRecord =>
          rcases head.readsRecords_eq_true.mp hfor.2.1 with ⟨hyes, -⟩
          exact absurd (hread.symm.trans hyes) Bool.false_ne_true
      · refine .inr ⟨r, hs, hr, ?_⟩
        cases r with
        | readFileTransparent =>
          rcases head.readsBlocks_eq_true.mp hfor.2.1 with ⟨hyes, -⟩
          exact absurd (hread.symm.trans hyes) Bool.false_ne_true
        | _ => exact hfor

end Steps

/-! ## Steps that are sound -/

section Runs

variable {fs : SimFs} (driver : SimDriver) (clients : ℕ → List Call)

lemma Reacted.handlerFor {op : SimFsOp} {fs' : SimFs} (h : Reacted op fs fs') {handler : Handler} {b : Bool}
    (hfor : handler.For fs.log op) : handler.For fs'.log { op with cb := b } := by
  cases handler with
  | opNext => exact fun hmem => hfor ((h.started_iff _).mp hmem)
  | readBlock =>
    rcases hfor with ⟨⟨hstarted, hanswers⟩, hrest⟩
    exact ⟨⟨h.mem_log hstarted, (h.answers _).trans hanswers⟩, hrest⟩
  | readRecord =>
    rcases hfor with ⟨⟨hstarted, hrecords, hone⟩, hrest⟩
    refine ⟨⟨h.mem_log hstarted, ?_, hone⟩, hrest⟩
    show Records (Simfs.answers op.serial fs'.log) _
    rw [h.answers]
    exact hrecords

lemma Reacted.requestFor {op : SimFsOp} {fs' : SimFs} (h : Reacted op fs fs') {r : Request} {b : Bool}
    (hfor : r.For fs.log op) : r.For fs'.log { op with cb := b } := by
  have hunanswered : Unanswered fs.log op → Unanswered fs'.log { op with cb := b } :=
    fun hold => ⟨h.mem_log hold.1, (h.answers _).trans hold.2⟩
  have hup : UpToCurrent fs.log op → UpToCurrent fs'.log { op with cb := b } := by
    intro hold
    refine ⟨h.mem_log hold.1, ?_, hold.2.2⟩
    show Records (Simfs.answers op.serial fs'.log) _
    rw [h.answers]
    exact hold.2.1
  cases r with
  | readFileLinear => exact ⟨hup hfor.1, hfor.2⟩
  | readFileCyclic => exact ⟨hup hfor.1, hfor.2⟩
  | _ => exact ⟨hunanswered hfor.1, hfor.2⟩

lemma Inv.call (h : Inv fs) (c : Call) : Inv (fs.call driver c) := by
  refine ⟨h.core.call driver c, ?_⟩
  have hwaits := h.waits
  unfold Waits at hwaits
  cases hq : fs.opQ with
  | nil =>
    rw [hq] at hwaits
    have hempty : ∀ {t : SimFs}, t.opQ = [] → t.sources = fs.sources → t.requests = fs.requests →
        Waits t := by
      intro t ht hs hr
      unfold Waits
      rw [ht, hs, hr]
      exact hwaits
    rcases SimFs.call_cases driver fs c with
      heq | heq | ⟨_, -, -, heq⟩ | ⟨_, -, heq⟩ | ⟨op, hserial, -, -, heq⟩
    · rw [heq]
      exact h.waits
    · rw [heq]
      exact hempty hq rfl rfl
    · rw [heq]
      exact hempty (congrArg (SimFs.freeOps _ 0) hq) rfl rfl
    · rw [heq]
      exact hempty hq rfl rfl
    · -- the first operation of an empty queue schedules the handler
      rw [heq]
      have hpushed : (fs.push op).opQ = [op] := congrArg (· ++ [op]) hq
      have hsources : (fs.push op).sources = [.opNext] := by
        unfold SimFs.push
        rw [hq, hwaits.1]
        rfl
      unfold Waits
      rw [hpushed]
      refine .inl ⟨.opNext, hsources, hwaits.2, ?_⟩
      intro hstarted
      have hold : .started op.serial ∈ fs.log := by simpa [SimFs.push] using hstarted
      rcases h.core.history.queued_of_started hold with ⟨o, ho, hserial'⟩
      have hlt := h.core.fresh o ho
      omega
  | cons op rest =>
    rw [hq] at hwaits
    have hreacted := Reacted.call h.core hq driver c
    rcases hreacted.opQ with ⟨rest', hq'⟩
    unfold Waits
    rw [hq', hreacted.sources, hreacted.requests]
    rcases hwaits with ⟨handler, hs, hr, hfor⟩ | ⟨r, hs, hr, hfor⟩
    · exact .inl ⟨handler, hs, hr, hreacted.handlerFor hfor⟩
    · exact .inr ⟨r, hs, hr, hreacted.requestFor hfor⟩

lemma Inv.dispatched (h : Inv fs) {handler : Handler} {rest : List Handler}
    (hs : fs.sources = handler :: rest) :
    ∃ op, op ∈ fs.opQ.head? ∧ Working op { fs with sources := rest } ∧ handler.For fs.log op := by
  have hwaits := h.waits
  unfold Waits at hwaits
  cases hq : fs.opQ with
  | nil =>
    rw [hq, hs] at hwaits
    exact absurd hwaits.1 (cons_ne_nil _ _)
  | cons op ops =>
    rw [hq, hs] at hwaits
    rcases hwaits with ⟨handler', hsources, hr, hfor⟩ | ⟨r, hsources, -, -⟩
    · rcases cons_eq_cons.mp hsources with ⟨rfl, rfl⟩
      exact ⟨op, rfl, ⟨h.core.of_eq hq.symm rfl rfl rfl rfl rfl, ⟨ops, rfl⟩, rfl, hr⟩, hfor⟩
    · exact absurd hsources (cons_ne_nil _ _)

lemma Inv.replied (h : Inv fs) {n serial : ℕ} {r : Request} (hn : fs.requests[n]? = some (serial, r)) :
    ∃ op, op ∈ fs.opQ.head? ∧ Working op { fs with requests := fs.requests.eraseIdx n } ∧
      r.For fs.log op := by
  have hwaits := h.waits
  unfold Waits at hwaits
  cases hq : fs.opQ with
  | nil =>
    rw [hq] at hwaits
    rw [hwaits.2] at hn
    cases hn
  | cons op ops =>
    rw [hq] at hwaits
    rcases hwaits with ⟨handler, -, hr, -⟩ | ⟨r', hs, hr, hfor⟩
    · rw [hr] at hn
      cases hn
    · rw [hr] at hn
      cases n with
      | succ n => cases hn
      | zero =>
        rw [getElem?_cons_zero, Option.some.injEq, Prod.mk.injEq] at hn
        rcases hn with ⟨-, rfl⟩
        exact ⟨op, rfl, ⟨h.core.of_eq hq.symm rfl rfl rfl rfl rfl, ⟨ops, rfl⟩, hs, by rw [hr]; rfl⟩,
          hfor⟩

lemma Inv.step (h : Inv fs) (input : Input) (hsound : fs.Sound clients input) :
    Leads (fs.step driver clients input) := by
  cases input with
  | call c =>
    unfold SimFs.step
    dsimp only
    split_ifs
    · exact ⟨fs, rfl, h⟩
    · exact ⟨_, rfl, h.call driver c⟩
  | dispatch sys =>
    unfold SimFs.step
    dsimp only
    by_cases hwriting : fs.writing.isSome = true
    · rw [if_pos hwriting]
      exact ⟨fs, rfl, h⟩
    · rw [if_neg hwriting]
      have hnone : fs.writing = none := by simpa using hwriting
      cases hs : fs.sources with
      | nil => exact ⟨fs, rfl, h⟩
      | cons handler rest =>
        rcases h.dispatched hs with ⟨op, hop, hworking, hfor⟩
        have hstep := hsound hnone op hop handler (by rw [hs]; rfl)
        cases handler with
        | opNext => exact hworking.opNext driver clients hfor
        | readBlock =>
          rcases hfor with ⟨hanswers, hreads, hblocks⟩
          exact hworking.opReadBlock driver clients hanswers hreads hblocks hstep
        | readRecord =>
          rcases hfor with ⟨hanswers, hreads, hcurrent⟩
          exact hworking.opReadRecord driver clients hanswers hreads hcurrent hstep
  | reply n reply sys =>
    unfold SimFs.step
    dsimp only
    cases hn : fs.requests[n]? with
    | none => exact ⟨fs, rfl, h⟩
    | some request =>
      rcases request with ⟨serial, r⟩
      dsimp only
      rcases h.replied hn with ⟨op, hop, hworking, hfor⟩
      have hstep := hsound op hop (serial, r) hn
      by_cases hkind : r.AnsweredBy reply = true
      · rw [if_pos hkind]
        cases r with
        | readFileInfo id path =>
          cases reply with
          | info info => exact hworking.opInfoCb driver clients hfor.1 hfor.2 info
          | _ => exact absurd hkind Bool.false_ne_true
        | readFileTransparent id start length path =>
          cases reply with
          | data data =>
            refine hworking.opReadBlockCb driver clients hfor.1 hfor.2.1 hfor.2.2 data ?_
            intro d hd
            cases hd
            exact hstep
          | _ => exact absurd hkind Bool.false_ne_true
        | readFileLinear id record length =>
          cases reply with
          | data data =>
            refine hworking.opRetrieveCb driver clients hfor.1 hfor.2.1 hfor.2.2.1 hfor.2.2.2 data ?_
            intro d hd
            cases hd
            exact hstep
          | _ => exact absurd hkind Bool.false_ne_true
        | readFileCyclic id record length =>
          cases reply with
          | data data =>
            refine hworking.opRetrieveCb driver clients hfor.1 hfor.2.1 hfor.2.2.1 hfor.2.2.2 data ?_
            intro d hd
            cases hd
            exact hstep
          | _ => exact absurd hkind Bool.false_ne_true
        | _ =>
          cases reply with
          | write ok => exact hworking.opWriteCb driver clients hfor.1 hfor.2 ok
          | _ => exact absurd hkind Bool.false_ne_true
      · rw [if_neg hkind]
        exact ⟨fs, rfl, h⟩
  | driverReturns => exact h.driverReturns hsound

end Runs

end Phonelets.Simfs
