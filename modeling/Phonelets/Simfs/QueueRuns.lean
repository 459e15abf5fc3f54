import Phonelets.Simfs.Queue

/-! # Runs of the queue

A step that is not `Sound` faults, or ends an operation that has not been answered. With
what a sound step does this says of every run when it is safe.
-/

namespace Phonelets.Simfs

open Option

section Steps

variable {op : SimFsOp} {fs : SimFs} {sys : System} (driver : SimDriver) (clients : ℕ → List Call)

lemma Working.opReadBlockCb_faults (h : Working op fs) {data : List UInt8}
    (hunsound : ¬ (0 ≤ op.tocopy ∧ op.dataoff + op.tocopy.toNat ≤ data.length ∧
      (fs.fd.isSome → data.length ≤ sys.stores 0 → op.current < 256))) :
    fs.opReadBlockCb driver clients sys (some data) = none := by
  rcases h.opQ with ⟨rest, hq⟩
  unfold SimFs.opReadBlockCb
  rw [hq]
  dsimp only
  by_cases hcopy : op.tocopy < 0 ∨ data.length < op.dataoff + op.tocopy.toNat
  · rw [if_pos hcopy]
  · rw [if_neg hcopy]
    cases hcopied : copyInto op.buffer op.bufoff ((data.drop op.dataoff).take op.tocopy.toNat) with
    | none => rfl
    | some buffer =>
      rcases (fs.setHead { op with buffer := buffer }).cacheBlock_cases sys op.current 256 data data.length with
        ⟨-, -, hfault⟩ | ⟨hstored, -⟩
      · rw [bind_eq_bind, bind_some, hfault]
        rfl
      · exact absurd ⟨by omega, by omega, fun hfd => (hstored hfd).2⟩ hunsound

lemma Working.opRetrieveCb_faults (h : Working op fs) (hlength : 0 < op.recordLength) {data : List
    UInt8} (hunsound : ¬ (fs.fd.isSome → op.recordLength ≤ data.length ∧ (op.recordLength ≤
    sys.stores 0 → op.current ≤ 256))) : fs.opRetrieveCb driver clients sys (some data) = none := by
  rcases h.opQ with ⟨rest, hq⟩
  unfold SimFs.opRetrieveCb
  rw [hq]
  dsimp only
  rw [if_neg hlength.ne']
  rcases fs.cacheBlock_cases sys (op.current - 1) op.recordLength data op.recordLength with
    ⟨-, -, hfault⟩ | ⟨hstored, -⟩
  · rw [hfault]
    rfl
  · refine absurd (fun hfd => ⟨(hstored hfd).1, fun hle => ?_⟩) hunsound
    have hblock := (hstored hfd).2 hle
    omega

lemma Working.opReadBlock_faults (h : Working op fs) (hblocks : op.current = op.startBlock ∨
    op.InBlocks) (hunsound : ¬ fs.SoundDispatch clients sys op .readBlock) :
    fs.opReadBlock driver clients sys = none := by
  rcases h.opQ with ⟨rest, hq⟩
  unfold SimFs.SoundDispatch SimFs.BlocksSound at hunsound
  push Not at hunsound
  rcases hunsound with ⟨hcb, hready, fd, hfd, k, hk, hbig⟩
  unfold SimFs.opReadBlock
  rw [hq]
  dsimp only
  have hmemory : ¬ (op.current = op.startBlock ∧ (op.numBytes = 0 ∨ sys.memory = false)) := by
    rintro ⟨hfirst, hzero | hmem⟩
    · exact (hready hfirst).1 hzero
    · exact absurd (hmem.symm.trans (hready hfirst).2) Bool.false_ne_true
  rw [if_neg (by rw [hcb]; decide), if_neg hmemory]
  have hbuffer : ∀ buffer : List UInt8, buffer.length = op.numBytes → 0 < op.numBytes →
      op.startBlock ≤ op.current → fs.readCachedBlocks sys { op with buffer := buffer } = none := by
    intro buffer hlen hbytes hstart
    unfold SimFs.readCachedBlocks
    rw [hfd]
    have hend : op.current ≤ op.endBlock + 1 := Nat.le_succ_of_le (le_trans hk.1 hk.2.1)
    have hspec := @readBlocks_spec { op with buffer := buffer } fs sys fd _ rfl hend hstart hbytes hlen
    exact hspec.2 ⟨k, hk, hbig⟩
  by_cases hfirst : op.current = op.startBlock
  · rw [if_pos hfirst, hbuffer _ List.length_replicate (Nat.pos_of_ne_zero (hready hfirst).1) hfirst.ge]
    rfl
  · rw [if_neg hfirst]
    rcases hblocks with hfirst' | ⟨hstart, -, hbytes, hlen⟩
    · exact absurd hfirst' hfirst
    · rw [show fs.readCachedBlocks sys op = none from hbuffer op.buffer hlen hbytes hstart]
      rfl

/-- A NULL callback for a record that is in the cache, or one that has no bit. -/
lemma readRecords_dead (n : ℕ) {fd : Fd} (hq : fs.opQ.head? = some op) (hfd : fs.fd = some fd)
    (hcb : op.cb = false) (hrecord : op.current ≤ 256 → fs.bitmap.test (op.current - 1) = true ∧
      (SimFs.cachedRecord sys fd (fs.cacheFile fd) op).isSome = true) :
    fs.readRecords driver clients sys (n + 1) = none := by
  unfold SimFs.readRecords
  cases hops : fs.opQ with
  | nil => rfl
  | cons head rest =>
    rw [hops, List.head?_cons, Option.some.injEq] at hq
    subst hq
    rw [hfd]
    dsimp only
    by_cases hbit : 32 ≤ (head.current - 1) / 8
    · rw [if_pos hbit]
    rcases hrecord (by omega) with ⟨hpresent, hsome⟩
    rw [if_neg hbit, if_pos hpresent]
    by_cases hlen : 256 < head.recordLength
    · rw [if_pos hlen]
    rw [if_neg hlen]
    cases hdata : SimFs.cachedRecord sys fd (fs.cacheFile fd) head with
    | none =>
      rw [hdata] at hsome
      exact absurd hsome Bool.false_ne_true
    | some data =>
      dsimp only
      rw [if_neg (by rw [hcb]; exact Bool.false_ne_true)]

/-- The loop over the cached records faults when one of its conditions is missed. -/
lemma Working.readRecords_faults (n : ℕ) (h : Working op fs) (hn : op.total + 1 - op.current = n)
    (hcb : op.cb = true) (hanswers : UpToCurrent fs.log op)
    (hunsound : ¬ fs.RecordsSound clients sys op) : fs.readRecords driver clients sys n = none := by
  induction n generalizing op fs with
  | zero =>
    refine absurd ?_ hunsound
    intro fd _ k ⟨hfrom, hto, _⟩
    omega
  | succ n ih =>
    have hone := hanswers.2.2
    have hunsound' := hunsound
    unfold SimFs.RecordsSound at hunsound'
    push Not at hunsound'
    rcases hunsound' with ⟨fd, hfd, k, hk, hbad⟩
    rcases h.opQ with ⟨rest, hq⟩
    have hfd' : fs.fd = some fd := hfd
    unfold SimFs.readRecords
    rw [hq, hfd']
    dsimp only
    by_cases hbit : 32 ≤ (op.current - 1) / 8
    · rw [if_pos hbit]
    rw [if_neg hbit]
    rcases Nat.eq_or_lt_of_le hk.1 with heq | hlt
    · -- the condition is missed at once
      subst heq
      rcases hbad (by omega) with ⟨hpresent, hlong⟩
      rw [if_pos hpresent]
      by_cases hlen : 256 < op.recordLength
      · rw [if_pos hlen]
      · exact absurd (hlong (Nat.not_lt.mp hlen)).1 (Nat.lt_irrefl _)
    · rcases hk.2.2 op.current (le_refl _) hlt with ⟨hpresent, hrecord⟩
      rw [if_pos hpresent]
      by_cases hlen : 256 < op.recordLength
      · rw [if_pos hlen]
      rw [if_neg hlen]
      cases hdata : SimFs.cachedRecord sys fd (fs.cacheFile fd) op with
      | none =>
        rw [show ({ op with current := op.current } : SimFsOp) = op from rfl, hdata] at hrecord
        exact absurd hrecord Bool.false_ne_true
      | some data =>
        dsimp only
        rw [if_pos hcb]
        rcases h.invoke driver clients (.data op.length op.current data op.recordLength) hcb hanswers.1 with
          ⟨hworking, hstarted, hnew, hbitmap, hfd'', hcache, hcalled, hfree⟩
        have hnext := hworking.advance
        have hup : UpToCurrent _ { op with
            cb := decide (op.context ∈ (fs.invoke driver clients op
              (.data op.length op.current data op.recordLength)).contexts)
            current := op.current + 1 } := ⟨hstarted, hanswers.next hnew, Nat.le_add_left 1 _⟩
        generalize fs.invoke driver clients op (.data op.length op.current data op.recordLength) = fs' at *
        have hlooks := (looksAtRecord_succ (b := decide (op.context ∈ fs'.contexts)) hbitmap hcache hpresent
          hrecord hlt).mpr hk
        by_cases hkept : op.context ∈ fs'.contexts
        · -- the later condition is missed in the rest of the loop
          refine ih hnext (by show op.total + 1 - (op.current + 1) = n; omega) (decide_eq_true hkept) hup ?_
          intro hsound
          have hlater := hsound fd (hfd''.trans hfd') k hlooks
          rcases hbad hlater.1 with ⟨hpresent', hlong⟩
          have hlater' := hlater.2 (show fs'.bitmap.test (k - 1) = true by rw [hbitmap]; exact hpresent')
          rcases hlong hlater'.1 with ⟨-, hsome, hmem⟩
          rcases Nat.eq_or_lt_of_le (Nat.succ_le_of_lt hlt) with heq | hlt'
          · subst heq
            rw [show fs.called + (op.current.succ - 1 - op.current) = fs.called by omega] at hmem
            exact absurd hmem (hfree.mp hkept)
          · refine hlater'.2 hlt' ?_ ?_
            · show (SimFs.cachedRecord sys fd ((fs'.cache fd.card fd.id).getD .empty) _).isSome = true
              rw [hcache]
              exact hsome
            · show Call.contextFree op.context ∈ clients (fs'.called + (k - 1 - (op.current + 1)))
              rw [hcalled, show fs.called + 1 + (k - 1 - (op.current + 1)) =
                fs.called + (k - 1 - op.current) by omega]
              exact hmem
        · -- the context is freed, and the loop comes to the next record
          have hto := hk.2.1
          rcases hnext.opQ with ⟨rest', hq'⟩
          cases n with
          | zero => omega
          | succ n =>
            have hdead : decide (op.context ∈ fs'.contexts) = false := decide_eq_false hkept
            refine readRecords_dead driver clients n (by rw [hq']; rfl) (hfd''.trans hfd') hdead ?_
            intro hle
            have hthere : fs.bitmap.test (op.current + 1 - 1) = true ∧ (SimFs.cachedRecord sys fd
                (fs.cacheFile fd) { op with current := op.current + 1 }).isSome = true := by
              rcases Nat.eq_or_lt_of_le (Nat.succ_le_of_lt hlt) with heq | hlt'
              · subst heq
                rcases hbad hle with ⟨hpresent', hlong⟩
                exact ⟨hpresent', (hlong (Nat.not_lt.mp hlen)).2.1⟩
              · exact hk.2.2 (op.current + 1) (Nat.le_succ _) hlt'
            constructor
            · show fs'.bitmap.test (op.current + 1 - 1) = true
              rw [hbitmap]
              exact hthere.1
            · show (SimFs.cachedRecord sys fd ((fs'.cache fd.card fd.id).getD .empty) _).isSome = true
              rw [hcache]
              exact hthere.2

lemma Working.endCurrent_bad (h : Working op fs) (hcb : op.cb = true) (hopen : ¬ Complete op
    (answers op.serial fs.log)) {t : SimFs} (ht : fs.endCurrent = some t) : ¬ Good t := by
  rcases h.opQ with ⟨rest, hq⟩
  unfold SimFs.endCurrent at ht
  rw [hq, Option.some.injEq] at ht
  subst ht
  intro hgood
  rcases hgood.history.1.2 with hfreed | hdone
  · exact (h.core.gone _ hfreed).2 (h.live.mp hcb)
  · exact hopen hdone

lemma Working.opReadRecord_bad (h : Working op fs) (hanswers : UpToCurrent fs.log op)
    (hreads : op.readsRecords = true) (hcurrent : op.current = 1 ∨ op.current ≤ op.total)
    (hunsound : ¬ fs.SoundDispatch clients sys op .readRecord) {t : SimFs}
    (ht : fs.opReadRecord driver clients sys = some t) : ¬ Good t := by
  rcases h.opQ with ⟨rest, hq⟩
  unfold SimFs.opReadRecord at ht
  rw [hq] at ht
  dsimp only at ht
  by_cases hlength : op.recordLength = 0
  · rw [if_pos hlength] at ht
    cases ht
  rw [if_neg hlength] at ht
  have hmissed : op.cb = true ∧ (op.recordLength ≤ op.length → ¬ fs.RecordsSound clients sys op) := by
    unfold SimFs.SoundDispatch at hunsound
    push Not at hunsound
    exact hunsound hlength
  rcases hmissed with ⟨hcb, hrecords⟩
  rw [if_pos hcb] at ht
  by_cases hle : op.recordLength ≤ op.length
  · rw [h.readRecords_faults driver clients _ rfl hcb hanswers (hrecords hle)] at ht
    cases ht
  · -- there is no record, and no answer either
    have htotal : op.total = 0 := Nat.div_eq_of_lt (Nat.not_le.mp hle)
    have hone : op.current = 1 := by
      have hpos := hanswers.2.2
      omega
    rw [htotal, hone] at ht
    rw [show fs.readRecords driver clients sys (0 + 1 - 1) = some fs from rfl, bind_eq_bind,
      bind_some, hq] at ht
    dsimp only at ht
    rw [if_pos (by omega)] at ht
    refine h.endCurrent_bad hcb ?_ ht
    intro hdone
    unfold Complete at hdone
    rw [if_pos hreads] at hdone
    have hnone : answers op.serial fs.log = [] := by
      have hlen := hanswers.2.1.length
      rw [hone] at hlen
      exact List.eq_nil_of_length_eq_zero hlen
    rcases hdone with ⟨hpos, -⟩ | ⟨n, bs, -, -, hfailed⟩
    · omega
    · rw [hnone] at hfailed
      exact List.append_ne_nil_of_right_ne_nil bs (List.cons_ne_nil _ _) hfailed.symm

end Steps

section Runs

variable {fs : SimFs} (driver : SimDriver) (clients : ℕ → List Call)

lemma Inv.step_bad (h : Inv fs) {input : Input} (hunsound : ¬ fs.Sound clients input) {t : SimFs}
    (ht : fs.step driver clients input = some t) : ¬ Good t := by
  cases input with
  | call c => exact absurd trivial hunsound
  | dispatch sys =>
    unfold SimFs.Sound at hunsound
    push Not at hunsound
    rcases hunsound with ⟨hwriting, op, hop, handler, hhandler, hmissed⟩
    unfold SimFs.step at ht
    dsimp only at ht
    rw [if_neg (by rw [hwriting]; exact Bool.false_ne_true)] at ht
    cases hs : fs.sources with
    | nil => simp [hs] at hhandler
    | cons head rest =>
      rw [hs, List.head?_cons, mem_some_iff] at hhandler
      subst hhandler
      rw [hs] at ht
      rcases h.dispatched hs with ⟨op', hop', hworking, hfor⟩
      have hsame : op' = op := mem_unique hop' hop
      subst hsame
      cases head with
      | opNext => exact absurd trivial hmissed
      | readBlock =>
        have hfault := hworking.opReadBlock_faults driver clients hfor.2.2 hmissed
        exact absurd (hfault.symm.trans ht) nofun
      | readRecord =>
        exact hworking.opReadRecord_bad driver clients hfor.1 hfor.2.1 hfor.2.2 hmissed ht
  | reply n reply sys =>
    unfold SimFs.Sound at hunsound
    push Not at hunsound
    rcases hunsound with ⟨op, hop, ⟨serial, r⟩, hn, hmissed⟩
    have hn' : fs.requests[n]? = some (serial, r) := hn
    unfold SimFs.step at ht
    dsimp only at ht
    rw [hn'] at ht
    dsimp only at ht
    rcases h.replied hn' with ⟨op', hop', hworking, hfor⟩
    have hsame : op' = op := mem_unique hop' hop
    subst hsame
    cases r with
    | readFileTransparent id start length path =>
      rcases reply with info | (_ | data) | ok
      · exact absurd trivial hmissed
      · exact absurd trivial hmissed
      · have hfault := hworking.opReadBlockCb_faults driver clients hmissed
        exact absurd (hfault.symm.trans ht) nofun
      · exact absurd trivial hmissed
    | readFileLinear id record length =>
      rcases reply with info | (_ | data) | ok
      · exact absurd trivial hmissed
      · exact absurd trivial hmissed
      · have hfault := hworking.opRetrieveCb_faults driver clients hfor.2.2.2 hmissed
        exact absurd (hfault.symm.trans ht) nofun
      · exact absurd trivial hmissed
    | readFileCyclic id record length =>
      rcases reply with info | (_ | data) | ok
      · exact absurd trivial hmissed
      · exact absurd trivial hmissed
      · have hfault := hworking.opRetrieveCb_faults driver clients hfor.2.2.2 hmissed
        exact absurd (hfault.symm.trans ht) nofun
      · exact absurd trivial hmissed
    | _ => exact absurd trivial hmissed
  | driverReturns =>
    unfold SimFs.Sound at hunsound
    push Not at hunsound
    rcases hunsound with ⟨n, hn, hnot⟩
    have hwriting : fs.writing = some n := hn
    unfold SimFs.step SimFs.driverReturns at ht
    rw [hwriting] at ht
    cases hq : fs.opQ with
    | nil =>
      rw [hq] at ht
      cases ht
    | cons op rest =>
      rw [hq] at ht
      dsimp only at ht
      rw [if_neg (hnot op (by rw [hq]; rfl))] at ht
      cases ht

lemma inv_new (cache : ℕ → ℕ → Option CacheFile) : Inv (.new cache) := by
  refine ⟨⟨trivial, ?_, .nil, ?_, ?_, ?_, ?_, ?_, ?_, ?_, ?_, .nil, ?_⟩, rfl, rfl⟩
  all_goals simp [SimFs.new, Kept]

/-- For every driver, whatever the clients do in their callbacks and whatever is in the cache:
no step of a run faults, operations are started in the order they were queued and one at a
time, each one gets all its answers while its context lives and none afterwards, and the head
of the queue is never without a source or a request, exactly when all the steps are sound. -/
theorem queue_safe_iff (cache : ℕ → ℕ → Option CacheFile) (inputs : List Input) :
    Machine.Safe (SimFs.step driver clients) Good (.new cache) inputs ↔
      Machine.EachStep (SimFs.step driver clients) (SimFs.Sound clients) (.new cache) inputs :=
  Machine.safe_iff (fun _ h => h.good) (fun _ input h hsound => h.step driver clients input hsound)
    (fun _ _ _ h hunsound ht => h.step_bad driver clients hunsound ht) (inv_new cache) inputs

end Runs

/-- A driver that can do everything. -/
def fullDriver : SimDriver := ⟨true, true, true, true, true, true, true⟩

/-- A system on which everything works. -/
def plainSystem : System := ⟨some 0, true, fun _ => true, fun _ => 1000, true⟩

/-- A client that frees its context when it gets the third callback. -/
def freeingClient (n : ℕ) : List Call := if n = 2 then [.contextFree 0] else []

def noPath : {path : List UInt8 // path.length ≤ 6} := ⟨[], by decide⟩

/-- A file of two records is read twice, the second time from the cache, and the callback for
its first record frees the context. -/
def readTwice : List Input :=
  let dispatch := Input.dispatch plainSystem
  let read := Input.call (.read 0 0x6f3a .fixed 0 0 noPath)
  [.call .contextNew, read, dispatch,
    .reply 0 (.info (some ⟨2, .fixed, 1, (0x44, 0x44, 0x44), 1⟩)) plainSystem, dispatch,
    .reply 0 (.data (some [1])) plainSystem, dispatch, .reply 0 (.data (some [2])) plainSystem,
    read, dispatch, dispatch]

/-- The loop calls the callback that has been cleared. -/
theorem freed_context_called :
    ¬ Machine.Safe (SimFs.step fullDriver freeingClient) Good (.new fun _ _ => none) readTwice := by
  intro hsafe
  rcases hsafe.finish with ⟨t, ht, -⟩
  have hfault : (Machine.finish (SimFs.step fullDriver freeingClient) (.new fun _ _ => none)
      readTwice).isNone = true := by
    decide
  rw [ht] at hfault
  exact Bool.false_ne_true hfault

end Phonelets.Simfs
