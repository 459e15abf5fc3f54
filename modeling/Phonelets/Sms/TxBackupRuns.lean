import Phonelets.Sms.TxBackup

/-! # Restarts of the transmit queue

An entry that was read from files of which the first were gone counts its PDUs from 0 again,
while its files keep their numbers: the files of the PDUs that are accepted from then on stay.
A restart therefore finds again what was accepted, unless nothing was or no PDU was missing
when the entry was made.
-/

namespace Phonelets.Sms

open List Outcome
open OfonoSms

/-! ## Entries, messages and files -/

/-- The files of these PDUs, numbered from `seq` on. -/
def pduFiles (pdus : List PendingPdu) (seq : ℕ) : List (ℕ × List UInt8) :=
  (pdus.zipIdx seq).map fun p => (p.2, UInt8.ofNat p.1.tpduLen :: p.1.pdu)

/-- The number of the first file that is left of the message: the files before it have been
removed under the number that the PDU had in the entry, or were not there when it was made. -/
def firstFile (entry : TxQueueEntry) (m : TxMessage) : ℕ :=
  max (m.accepted - entry.curPdu) entry.curPdu

/-- The directory of the message. -/
def fileOf (entry : TxQueueEntry) (m : TxMessage) : TxDir × List (ℕ × List UInt8) :=
  (entry.dir, pduFiles (m.pdus.drop (firstFile entry m)) (firstFile entry m))

/-- The entry is that of the message, made when `m.accepted - entry.curPdu` of its PDUs had been
accepted. -/
structure Matches (entry : TxQueueEntry) (m : TxMessage) : Prop where
  uuid : m.uuid = entry.uuid
  le : entry.curPdu ≤ m.accepted
  pdus : entry.pdus.pdus = m.pdus.drop (m.accepted - entry.curPdu)
  stored : ∀ pdu ∈ m.pdus, pdu.Stored
  length : m.pdus.length ≤ 255

lemma mem_pduFiles {pdus : List PendingPdu} {seq : ℕ} {f : ℕ × List UInt8}
    (h : f ∈ pduFiles pdus seq) : seq ≤ f.1 := by
  rcases mem_map.mp h with ⟨p, hp, rfl⟩
  exact (mem_zipIdx hp).1

@[simp] lemma pduFiles_cons (pdu : PendingPdu) (pdus : List PendingPdu) (seq : ℕ) :
    pduFiles (pdu :: pdus) seq =
      (seq, UInt8.ofNat pdu.tpduLen :: pdu.pdu) :: pduFiles pdus (seq + 1) := rfl

lemma filter_pduFiles_of_lt (pdus : List PendingPdu) {seq k : ℕ} (h : k < seq) :
    (pduFiles pdus seq).filter (fun f => f.1 ≠ k) = pduFiles pdus seq := by
  rw [filter_eq_self]
  intro f hf
  have hle := mem_pduFiles hf
  simp only [ne_eq, decide_not, Bool.not_eq_true', decide_eq_false_iff_not]
  omega

lemma filter_pduFiles_self (pdus : List PendingPdu) (seq : ℕ) : (pduFiles (pdus.drop seq)
    seq).filter (fun f => f.1 ≠ seq) = pduFiles (pdus.drop (seq + 1)) (seq + 1) := by
  rw [← drop_drop, drop_one]
  cases pdus.drop seq with
  | nil => rfl
  | cons pdu rest =>
    rw [pduFiles_cons, filter_cons_of_neg (by simp), tail_cons]
    exact filter_pduFiles_of_lt rest (Nat.lt_succ_self seq)

lemma fileOf_accept (entry : TxQueueEntry) (m : TxMessage) (h : entry.curPdu ≤ m.accepted) :
    fileOf { entry with curPdu := entry.curPdu + 1, retry := 0 }
        { m with accepted := m.accepted + 1 } =
      (entry.dir, (fileOf entry m).2.filter fun f => f.1 ≠ entry.curPdu) := by
  have hoffset : m.accepted + 1 - (entry.curPdu + 1) = m.accepted - entry.curPdu := by omega
  unfold fileOf firstFile
  rw [hoffset]
  refine Prod.ext rfl ?_
  rcases Nat.lt_or_ge entry.curPdu (m.accepted - entry.curPdu) with hlt | hge
  · rw [Nat.max_eq_left (Nat.succ_le_of_lt hlt), Nat.max_eq_left hlt.le]
    exact (filter_pduFiles_of_lt _ hlt).symm
  · rw [Nat.max_eq_right (Nat.le_succ_of_le hge), Nat.max_eq_right hge]
    exact (filter_pduFiles_self _ _).symm

/-! ## The queue, its messages and its files -/

/-- The queue, the messages and the files belong together, entry by entry; `gone` are the
directories of entries that have left the queue, and whose callback has not returned. -/
structure Kept (s : OfonoSms) (gone : List TxDir) (expected : List TxMessage)
    (l : List (TxQueueEntry × TxMessage)) : Prop where
  txq : s.txq = l.map Prod.fst
  messages : expected = l.map Prod.snd
  files : s.files.filter (fun d => d.1 ∉ gone) = l.map fun p => fileOf p.1 p.2
  pairs : ∀ p ∈ l, Matches p.1 p.2
  exposed : ∀ p ∈ l, p.1.flags.exposeDbus = true
  onBus : ∀ p ∈ l, p.1.uuid ∈ s.messages
  nodup : (l.map fun p => p.1.uuid).Nodup
  apart : ∀ p ∈ l, ∀ d ∈ gone, p.1.uuid ≠ d.uuid

def QueueHolds (s : OfonoSms) (gone : List TxDir) (expected : List TxMessage) : Prop :=
  ∃ l, Kept s gone expected l

variable {s t u : OfonoSms} {gone : List TxDir} {expected : List TxMessage}
  {l : List (TxQueueEntry × TxMessage)}

lemma Kept.same (h : Kept s gone expected l) (htxq : t.txq = s.txq) (hfiles : t.files = s.files)
    (hbus : t.messages = s.messages) : Kept t gone expected l :=
  { h with
    txq := htxq.trans h.txq
    files := by rw [hfiles]; exact h.files
    onBus := by rw [hbus]; exact h.onBus }

/-- What happens from `s` to `t`, and keeps the messages and the files together. -/
def Follows (s t : OfonoSms) : Prop :=
  ∃ events, t.log = s.log ++ events ∧ ∀ gone expected, QueueHolds s gone expected →
    QueueHolds t gone (events.foldl expect expected)

lemma Follows.trans (h : Follows s t) (h' : Follows t u) : Follows s u := by
  rcases h with ⟨events, hlog, hcarries⟩
  rcases h' with ⟨events', hlog', hcarries'⟩
  refine ⟨events ++ events', by rw [hlog', hlog, append_assoc], ?_⟩
  intro gone expected hs
  rw [foldl_append]
  exact hcarries' gone _ (hcarries gone expected hs)

lemma Follows.same (htxq : t.txq = s.txq) (hfiles : t.files = s.files)
    (hbus : t.messages = s.messages) (hlog : t.log = s.log) : Follows s t := by
  refine ⟨[], by rw [hlog, append_nil], ?_⟩
  rintro gone expected ⟨l, hl⟩
  exact ⟨l, hl.same htxq hfiles hbus⟩

lemma Follows.refl (s : OfonoSms) : Follows s s := Follows.same rfl rfl rfl rfl

lemma timeoutAdd_follows (s : OfonoSms) (seconds : ℕ) : Follows s (s.timeoutAdd seconds) :=
  Follows.same rfl rfl rfl rfl

/-! ### An entry leaves -/

variable {entry : TxQueueEntry}

lemma Kept.name_iff (h : Kept s gone expected l) (hentry : entry ∈ s.txq) {p : TxQueueEntry ×
    TxMessage} (hp : p ∈ l) : p.1.name = entry.name ↔ p.2.uuid = entry.uuid := by
  rw [(h.pairs p hp).uuid]
  constructor
  · exact fun heq => congrArg TxName.uuid heq
  · intro heq
    rw [h.txq] at hentry
    rcases mem_map.mp hentry with ⟨q, hq, rfl⟩
    rw [inj_on_of_nodup_map h.nodup hp hq heq]

lemma Kept.leave (h : Kept s gone expected l) (hentry : entry ∈ s.txq) (state : MessageState) :
    Kept ((s.deleteLink entry).record (.left entry.name state)) (entry.dir :: gone)
      (expect expected (.left entry.name state))
      (l.filter fun p => p.1.name ≠ entry.name) where
  txq := by
    show s.txq.filter (fun e => e.name ≠ entry.name) = _
    rw [h.txq, filter_map]
    rfl
  messages := by
    show expected.filter (fun m => m.uuid ≠ entry.uuid) = _
    rw [h.messages, filter_map]
    refine congrArg _ (filter_congr fun p hp => ?_)
    simp [h.name_iff hentry hp]
  files := by
    have hsplit : s.files.filter (fun d => d.1 ∉ entry.dir :: gone) =
        (s.files.filter fun d => d.1 ∉ gone).filter fun d => d.1 ≠ entry.dir := by
      rw [filter_filter]
      refine filter_congr fun d _ => ?_
      simp [not_or]
    show s.files.filter _ = _
    rw [hsplit, h.files, filter_map]
    refine congrArg _ (filter_congr fun p hp => ?_)
    have hiff : p.1.dir = entry.dir ↔ p.1.name = entry.name := by
      constructor
      · intro heq
        rw [h.name_iff hentry hp, (h.pairs p hp).uuid]
        exact congrArg TxDir.uuid heq
      · intro heq
        rw [h.txq] at hentry
        rcases mem_map.mp hentry with ⟨q, hq, rfl⟩
        rw [inj_on_of_nodup_map h.nodup hp hq (congrArg TxName.uuid heq)]
    simp [fileOf, hiff]
  pairs := fun p hp => h.pairs p (mem_of_mem_filter hp)
  exposed := fun p hp => h.exposed p (mem_of_mem_filter hp)
  onBus := fun p hp => h.onBus p (mem_of_mem_filter hp)
  nodup := h.nodup.sublist (filter_sublist.map _)
  apart := by
    intro p hp d hd
    rcases mem_filter.mp hp with ⟨hp, hne⟩
    rcases mem_cons.mp hd with rfl | hd
    · intro heq
      have hname := (h.name_iff hentry hp).mpr ((h.pairs p hp).uuid.trans heq)
      simp [hname] at hne
    · exact h.apart p hp d hd

variable {entry : TxQueueEntry}

lemma Kept.withdraw (h : Kept s (entry.dir :: gone) expected l)
    (hexposed : entry.flags.exposeDbus = true) : Kept (s.withdraw entry) gone expected l := by
  unfold OfonoSms.withdraw
  rw [if_pos hexposed]
  refine { h with files := ?_, onBus := ?_, apart := ?_ }
  · show (s.files.filter fun d => d.1 ≠ entry.dir).filter _ = _
    rw [← h.files, filter_filter]
    refine filter_congr fun d _ => ?_
    simp [not_or, and_comm]
  · intro p hp
    have hne : p.1.uuid ≠ entry.uuid := h.apart p hp entry.dir mem_cons_self
    exact (mem_erase_of_ne hne).mpr (h.onBus p hp)
  · exact fun p hp d hd => h.apart p hp d (mem_cons_of_mem _ hd)

lemma foldl_follows {cancel : OfonoSms → MsgId → OfonoSms} (hcancel : ∀ s uuid, Follows s
    (cancel s uuid)) (uuids : List MsgId) (s : OfonoSms) : Follows s (uuids.foldl cancel s) := by
  induction uuids generalizing s with
  | nil => exact Follows.refl s
  | cons uuid uuids ih => exact (hcancel s uuid).trans (ih _)

lemma withdraw_log (s : OfonoSms) (entry : TxQueueEntry) : (s.withdraw entry).log = s.log := by
  unfold OfonoSms.withdraw
  split <;> rfl

lemma removeEntry_follows {cancel : OfonoSms → MsgId → OfonoSms}
    (hcancel : ∀ s uuid, Follows s (cancel s uuid)) (hentry : entry ∈ s.txq)
    (state : MessageState) : Follows s (s.removeEntry cancel entry state) := by
  rcases foldl_follows hcancel (entry.cb (state = .sent))
    ((s.deleteLink entry).record (.left entry.name state)) with ⟨events, hlog, hcarries⟩
  refine ⟨.left entry.name state :: events, ?_, ?_⟩
  · show ((_ : OfonoSms).withdraw entry).log = _
    rw [withdraw_log, hlog]
    simp [record, deleteLink]
  · rintro gone expected ⟨l, hl⟩
    rcases hcarries _ _ ⟨_, hl.leave hentry state⟩ with ⟨l', hl'⟩
    refine ⟨l', hl'.withdraw ?_⟩
    have hin := hentry
    rw [hl.txq] at hin
    rcases mem_map.mp hin with ⟨p, hp, rfl⟩
    exact hl.exposed p hp

lemma rescheduleCancelled_follows (s : OfonoSms) : Follows s s.rescheduleCancelled := by
  unfold rescheduleCancelled
  split_ifs <;> exact Follows.same rfl rfl rfl rfl

lemma txqCancelUpTo_follows (n : ℕ) (s : OfonoSms) (uuid : MsgId) :
    Follows s (s.txqCancelUpTo n uuid).2 := by
  induction n generalizing s uuid with
  | zero => exact Follows.refl s
  | succ n ih =>
    unfold txqCancelUpTo
    split
    · exact Follows.refl s
    · next head rest htxq =>
        split_ifs
        · exact Follows.refl s
        · exact Follows.refl s
        · refine (rescheduleCancelled_follows s).trans (removeEntry_follows ih ?_ .cancelled)
          simp [rescheduleCancelled_txq, htxq]
        · split
          · exact Follows.refl s
          · next entry hfind =>
              have hrest := mem_of_find?_eq_some hfind
              exact removeEntry_follows ih (by simp [htxq, hrest]) .cancelled

lemma nextQ_follows (hentry : entry ∈ s.txq) (state : MessageState) :
    Follows s (s.nextQ entry state) := by
  unfold nextQ removeHead
  have hremoved := removeEntry_follows (fun s uuid => txqCancelUpTo_follows s.txq.length s uuid)
    hentry state
  extract_lets t
  split_ifs
  · exact hremoved
  · exact hremoved.trans (timeoutAdd_follows t 0)
  · exact hremoved

/-! ### The driver answers -/

lemma filter_inDir (files : TxFiles) (gone : List TxDir) (dir : TxDir)
    (f : List (ℕ × List UInt8) → List (ℕ × List UInt8)) : (files.inDir dir f).filter
    (fun d => d.1 ∉ gone) = TxFiles.inDir (files.filter fun d => d.1 ∉ gone) dir f := by
  unfold TxFiles.inDir
  rw [filter_map]
  refine congrArg _ (filter_congr fun d _ => ?_)
  simp only [Function.comp_apply]
  split <;> rfl

section
variable {head : TxQueueEntry} {rest : List TxQueueEntry}

lemma setHead_follows (htxq : s.txq = head :: rest) (retry : ℕ) :
    Follows s (s.setHead { head with retry }) := by
  refine ⟨[], by simp [setHead], ?_⟩
  rintro gone expected ⟨l, hl⟩
  have hhead := hl.txq
  rw [htxq] at hhead
  cases l with
  | nil => cases hhead
  | cons p l =>
    rcases cons_eq_cons.mp hhead with ⟨rfl, rfl⟩
    have hpair := hl.pairs p mem_cons_self
    refine ⟨({ p.1 with retry }, p.2) :: l, ?_, hl.messages, hl.files, ?_, ?_, ?_, hl.nodup, ?_⟩
    · simp [setHead, htxq]
    · intro q hq
      rcases mem_cons.mp hq with rfl | hq
      · exact ⟨hpair.uuid, hpair.le, hpair.pdus, hpair.stored, hpair.length⟩
      · exact hl.pairs q (mem_cons_of_mem _ hq)
    · intro q hq
      rcases mem_cons.mp hq with rfl | hq
      · exact hl.exposed p mem_cons_self
      · exact hl.exposed q (mem_cons_of_mem _ hq)
    · intro q hq
      rcases mem_cons.mp hq with rfl | hq
      · exact hl.onBus p mem_cons_self
      · exact hl.onBus q (mem_cons_of_mem _ hq)
    · intro q hq
      rcases mem_cons.mp hq with rfl | hq
      · exact hl.apart p mem_cons_self
      · exact hl.apart q (mem_cons_of_mem _ hq)

lemma Kept.accept (h : Kept s gone expected l) (htxq : s.txq = head :: rest) (htxq' : t.txq = {
    head with curPdu := head.curPdu + 1, retry := 0 } :: rest) (hfiles : t.files = smsTxBackupRemove
    s.files head.dir head.curPdu) (hbus : t.messages = s.messages) (seq : ℕ) : QueueHolds t gone
    (expect expected (.accepted head.name seq)) := by
  have hhead := h.txq
  rw [htxq] at hhead
  cases l with
  | nil => cases hhead
  | cons p l =>
    rcases cons_eq_cons.mp hhead with ⟨rfl, rfl⟩
    have hpair := h.pairs p mem_cons_self
    have hother : ∀ q ∈ l, q.1.uuid ≠ p.1.uuid := by
      intro q hq heq
      have hnodup := h.nodup
      rw [map_cons, nodup_cons] at hnodup
      exact hnodup.1 (heq ▸ mem_map_of_mem hq)
    refine ⟨({ p.1 with curPdu := p.1.curPdu + 1, retry := 0 },
      { p.2 with accepted := p.2.accepted + 1 }) :: l, ?_, ?_, ?_, ?_, ?_, ?_, h.nodup, ?_⟩
    · rw [htxq', map_cons]
    · rw [h.messages, map_cons]
      show List.map _ _ = _
      rw [map_cons, if_pos (show p.2.uuid = p.1.name.uuid from hpair.uuid), map_cons]
      refine congrArg _ ?_
      rw [map_map]
      refine map_congr_left fun q hq => ?_
      have hne : q.2.uuid ≠ p.1.name.uuid := by
        rw [(h.pairs q (mem_cons_of_mem _ hq)).uuid]
        exact hother q hq
      simp only [Function.comp_apply, if_neg hne]
    · rw [hfiles, smsTxBackupRemove, filter_inDir, h.files, map_cons, map_cons,
        fileOf_accept _ _ hpair.le]
      show List.map _ _ = _
      rw [map_cons]
      refine congrArg₂ List.cons ?_ ?_
      · show (if p.1.dir = p.1.dir then _ else _) = _
        rw [if_pos rfl]
        rfl
      · rw [map_map]
        refine map_congr_left fun q hq => ?_
        have hne : q.1.dir ≠ p.1.dir := fun heq => hother q hq (congrArg TxDir.uuid heq)
        exact if_neg hne
    · intro q hq
      rcases mem_cons.mp hq with rfl | hq
      · refine ⟨hpair.uuid, Nat.succ_le_succ hpair.le, ?_, hpair.stored, hpair.length⟩
        show p.1.pdus.pdus = p.2.pdus.drop (p.2.accepted + 1 - (p.1.curPdu + 1))
        rw [Nat.add_sub_add_right]
        exact hpair.pdus
      · exact h.pairs q (mem_cons_of_mem _ hq)
    · intro q hq
      rcases mem_cons.mp hq with rfl | hq
      · exact h.exposed p mem_cons_self
      · exact h.exposed q (mem_cons_of_mem _ hq)
    · rw [hbus]
      intro q hq
      rcases mem_cons.mp hq with rfl | hq
      · exact h.onBus p mem_cons_self
      · exact h.onBus q (mem_cons_of_mem _ hq)
    · intro q hq
      rcases mem_cons.mp hq with rfl | hq
      · exact h.apart p mem_cons_self
      · exact h.apart q (mem_cons_of_mem _ hq)

lemma txAccepted_follows (htxq : s.txq = head :: rest) (seq : ℕ) :
    Follows s (OfonoSms.txAccepted { s with
      txActive := false, submits := [], log := s.log ++ [.accepted head.name seq] } head) := by
  unfold txAccepted
  extract_lets t head' t₂
  have ht : t.txq = s.txq ∧ t.messages = s.messages ∧ t.log = s.log ++ [.accepted head.name seq] := by
    dsimp only [t]
    split <;> exact ⟨rfl, rfl, rfl⟩
  have htxq₂ : t₂.txq = head' :: rest := by simp [t₂, setHead, ht.1, htxq]
  have haccepted : Follows s t₂ := by
    refine ⟨[.accepted head.name seq], ht.2.2, ?_⟩
    rintro gone expected ⟨l, hl⟩
    refine hl.accept htxq htxq₂ ?_ ht.2.1 seq
    have hexposed : head.flags.exposeDbus = true := by
      have hin : head ∈ s.txq := by simp [htxq]
      rw [hl.txq] at hin
      rcases mem_map.mp hin with ⟨p, hp, rfl⟩
      exact hl.exposed p hp
    show t.files = _
    simp only [t, hexposed, if_true]
  split_ifs
  · exact haccepted.trans (timeoutAdd_follows t₂ 0)
  · exact haccepted.trans (nextQ_follows (by simp [htxq₂]) .sent)

lemma txFailed_follows (htxq : s.txq = head :: rest) (error : OfonoError) :
    Follows s (s.txFailed error head) := by
  have hhead : head ∈ s.txq := by simp [htxq]
  unfold txFailed
  split_ifs
  · exact nextQ_follows hhead .failed
  · exact nextQ_follows hhead .failed
  · extract_lets head' t
    have hset : Follows s t := setHead_follows htxq head'.retry
    split_ifs
    · exact hset.trans (timeoutAdd_follows t _)
    · exact hset.trans (nextQ_follows (by simp [t, setHead]) .failed)

end

lemma reply_follows (h : s.TxCore none) {i : ℕ} {submission : Submission}
    (hi : s.submits[i]? = some submission) {error : OfonoError}
    (hfinished : OfonoSms.txFinished
        { s with
          submits := s.submits.eraseIdx i, log := s.log ++ [s.answerEvent submission error] }
        error = some t) : Follows s t := by
  rcases h.driver with ⟨hsubmits, -⟩ | ⟨head, rest, x, htxq, hsubmits, hname, hseq, hactive⟩
  · simp [hsubmits] at hi
  · have hone : i = 0 ∧ submission = x := by
      rw [hsubmits, getElem?_singleton] at hi
      split at hi
      · next hzero => exact ⟨hzero, (Option.some.inj hi).symm⟩
      · cases hi
    have hnone : s.submits.eraseIdx i = [] := by
      rw [hsubmits, hone.1]
      rfl
    unfold txFinished answerEvent at hfinished
    simp only [hnone, hone.2, hname, hseq] at hfinished
    by_cases herror : error = .noError
    · rw [if_pos herror, if_neg (by simp [herror])] at hfinished
      simp only [htxq, if_pos herror, Option.some.injEq] at hfinished
      rw [← hfinished]
      have haccepted := txAccepted_follows htxq head.curPdu
      rw [htxq] at haccepted
      exact haccepted
    · rw [if_neg herror] at hfinished
      have hrefused : Follows s { s with
          txActive := false, submits := []
          log := s.log ++ [.refused head.name head.curPdu s.registered] } := by
        refine ⟨[.refused head.name head.curPdu s.registered], rfl, ?_⟩
        rintro gone expected ⟨l, hl⟩
        exact ⟨l, hl.same rfl rfl rfl⟩
      split at hfinished
      · rw [← Option.some.inj hfinished]
        exact hrefused
      · simp only [htxq, Option.some.injEq] at hfinished
        rw [← hfinished]
        rw [htxq] at hrefused
        exact hrefused.trans (txFailed_follows rfl error)

/-! ### The other inputs -/

lemma txNext_follows (h : s.txNext = some t) : Follows s t := by
  unfold txNext at h
  split at h
  · cases h
  · next head rest htxq =>
      dsimp only at h
      split at h
      · rw [← Option.some.inj h]
        exact Follows.same rfl rfl rfl rfl
      · rcases Option.map_eq_some_iff.mp h with ⟨pdu, -, rfl⟩
        refine ⟨[.submitted head.name head.curPdu], rfl, ?_⟩
        rintro gone expected ⟨l, hl⟩
        exact ⟨l, hl.same rfl rfl rfl⟩

lemma netregStatusWatch_follows (s : OfonoSms) (status : ℤ) :
    Follows s (s.netregStatusWatch status) := by
  unfold netregStatusWatch
  extract_lets t
  split_ifs <;> exact Follows.same rfl rfl rfl rfl

/-! ### Submitting -/

lemma foldl_store {files : TxFiles} {dir : TxDir} (hdir : dir ∉ files.map Prod.fst)
    (pdus : List PendingPdu) (seq : ℕ) (there : List (ℕ × List UInt8)) (hthere : ∀ f ∈ there,
    f.1 < seq) : (pdus.zipIdx seq).foldl (fun files p => smsTxBackupStore files dir p.2 p.1)
    (files ++ [(dir, there)]) = files ++ [(dir, there ++ pduFiles pdus seq)] := by
  induction pdus generalizing seq there with
  | nil => simp [pduFiles]
  | cons pdu pdus ih =>
    have hstore : smsTxBackupStore (files ++ [(dir, there)]) dir seq pdu =
        files ++ [(dir, there ++ [(seq, UInt8.ofNat pdu.tpduLen :: pdu.pdu)])] := by
      unfold smsTxBackupStore TxFiles.inDir
      rw [if_pos (by simp), map_append]
      refine congrArg₂ _ ?_ ?_
      · refine (map_congr_left fun d hd => ?_).trans (map_id _)
        have hne : d.1 ≠ dir := fun heq => hdir (heq ▸ mem_map_of_mem hd)
        exact if_neg hne
      · have hkeep : there.filter (fun f => f.1 ≠ seq) = there := by
          rw [filter_eq_self]
          intro f hf
          simpa using (hthere f hf).ne
        simp only [map_cons, map_nil, if_true, hkeep]
    rw [zipIdx_cons, foldl_cons, hstore, ih]
    · simp
    · intro f hf
      rcases mem_append.mp hf with hf | hf
      · exact Nat.lt_succ_of_lt (hthere f hf)
      · rw [mem_singleton.mp hf]
        exact Nat.lt_succ_self seq

lemma storePdus_eq {files : TxFiles} (hdir : entry.dir ∉ files.map Prod.fst) :
    storePdus files entry = files ++ [(entry.dir, pduFiles entry.pdus.pdus 0)] := by
  unfold storePdus
  cases hpdus : entry.pdus.pdus with
  | nil => exact absurd hpdus entry.pdus.ne
  | cons pdu pdus =>
    have hfirst : smsTxBackupStore files entry.dir 0 pdu =
        files ++ [(entry.dir, [(0, UInt8.ofNat pdu.tpduLen :: pdu.pdu)])] := by
      unfold smsTxBackupStore
      rw [if_neg hdir]
    rw [zipIdx_cons, foldl_cons, hfirst, foldl_store hdir]
    · rfl
    · intro f hf
      rw [mem_singleton.mp hf]
      exact Nat.lt_succ_self 0

lemma submitEntry_carries (h : s.TxCore none) (hkept : QueueHolds s [] expected) {entry : TxQueueEntry}
    (hcur : entry.curPdu = 0) (hexposed : entry.flags.exposeDbus = true)
    (hstored : ∀ pdu ∈ entry.pdus.pdus, pdu.Stored) (huuid : entry.uuid ∉ s.messages) :
    let t : OfonoSms := OfonoSms.submitEntry { s with messages := s.messages ++ [entry.uuid] } entry
    t.log = s.log ++ [.queued ⟨s.txCounter, entry.uuid⟩ entry.pdus.pdus] ∧
      QueueHolds t [] (expected ++ [⟨entry.uuid, entry.pdus.pdus, 0⟩]) := by
  intro t
  rcases hkept with ⟨l, hl⟩
  have hfiles : s.files = l.map fun p => fileOf p.1 p.2 := by
    have hall := hl.files
    simpa using hall
  have hdir : TxQueueEntry.dir { entry with id := s.txCounter } ∉ s.files.map Prod.fst := by
    intro hmem
    rw [hfiles, map_map] at hmem
    rcases mem_map.mp hmem with ⟨p, hp, heq⟩
    have hlt := h.counter p.1 (by rw [hl.txq]; exact mem_map_of_mem hp)
    have hid : p.1.id = s.txCounter := congrArg TxDir.id heq
    omega
  have ht : t.txq = s.txq ++ [{ entry with id := s.txCounter }] ∧
      t.messages = s.messages ++ [entry.uuid] ∧
      t.files = s.files ++ [(TxQueueEntry.dir { entry with id := s.txCounter },
        pduFiles entry.pdus.pdus 0)] ∧
      t.log = s.log ++ [.queued ⟨s.txCounter, entry.uuid⟩ entry.pdus.pdus] := by
    have hstore := storePdus_eq hdir
    simp only [t, submitEntry, hexposed, if_true]
    split_ifs <;> exact ⟨rfl, rfl, hstore, rfl⟩
  refine ⟨ht.2.2.2, l ++ [({ entry with id := s.txCounter }, ⟨entry.uuid, entry.pdus.pdus, 0⟩)],
    ?_, ?_, ?_, ?_, ?_, ?_, ?_, by simp⟩
  · rw [ht.1, hl.txq, map_append]
    rfl
  · rw [hl.messages, map_append]
    rfl
  · have hnew : fileOf { entry with id := s.txCounter } ⟨entry.uuid, entry.pdus.pdus, 0⟩ =
        (TxQueueEntry.dir { entry with id := s.txCounter }, pduFiles entry.pdus.pdus 0) := by
      simp [fileOf, firstFile, hcur]
    rw [ht.2.2.1, hfiles, map_append, map_singleton, hnew]
    simp
  · intro p hp
    rcases mem_append.mp hp with hp | hp
    · exact hl.pairs p hp
    · rw [mem_singleton.mp hp]
      refine ⟨rfl, hcur.le, ?_, hstored, entry.pdus.le⟩
      simp
  · intro p hp
    rcases mem_append.mp hp with hp | hp
    · exact hl.exposed p hp
    · rw [mem_singleton.mp hp]
      exact hexposed
  · intro p hp
    rw [ht.2.1, mem_append]
    rcases mem_append.mp hp with hp | hp
    · exact .inl (hl.onBus p hp)
    · rw [mem_singleton.mp hp]
      exact .inr (mem_singleton.mpr rfl)
  · rw [map_append, nodup_append']
    refine ⟨hl.nodup, nodup_singleton _, ?_⟩
    intro uuid hmem hnew
    rcases mem_map.mp hmem with ⟨p, hp, rfl⟩
    have heq : p.1.uuid = entry.uuid := by simpa using hnew
    exact huuid (heq ▸ hl.onBus p hp)

/-! ## A restart -/

lemma pduFiles_sorted (pdus : List PendingPdu) (seq : ℕ) :
    (pduFiles pdus seq).Pairwise fun f g => f.1 ≤ g.1 := by
  induction pdus generalizing seq with
  | nil => exact List.Pairwise.nil
  | cons pdu pdus ih =>
    rw [pduFiles_cons, pairwise_cons]
    refine ⟨fun f hf => ?_, ih (seq + 1)⟩
    have hle := mem_pduFiles hf
    show seq ≤ f.1
    omega

lemma smsTxLoad_pduFiles {pdus : List PendingPdu} (hstored : ∀ pdu ∈ pdus, pdu.Stored) (seq : ℕ) :
    ∃ msgs, smsTxLoad (pduFiles pdus seq) = .ok msgs ∧ pendingPdus msgs = .ok pdus := by
  unfold smsTxLoad
  rw [(pduFiles_sorted pdus seq).insertionSort_eq]
  induction pdus generalizing seq with
  | nil => exact ⟨[], rfl, rfl⟩
  | cons pdu pdus ih =>
    rcases ih (fun p hp => hstored p (mem_cons_of_mem _ hp)) (seq + 1) with ⟨msgs, hload, hmsgs⟩
    rcases hstored pdu mem_cons_self with ⟨s, hs, hpdu⟩
    refine ⟨s :: msgs, ?_, ?_⟩
    · rw [pduFiles_cons, loadPdus, hload, ok_bind, hs]
    · rw [pendingPdus, hpdu, ok_bind, hmsgs, ok_bind]

/-- What is read of a message. -/
structure Rereads (backup : TxqBackupEntry) (p : TxQueueEntry × TxMessage) : Prop where
  uuid : backup.uuid = p.1.uuid
  flags : backup.flags = p.1.flags
  pdus : backup.pdus.pdus = p.2.pdus.drop (firstFile p.1 p.2)

/-- The directory of the message under a new number. -/
def renumbered (q : (TxQueueEntry × TxMessage) × ℕ) : TxDir × List (ℕ × List UInt8) :=
  ({ q.1.1.dir with id := q.2 }, (fileOf q.1.1 q.1.2).2)

lemma loadDirs_spec (l : List (TxQueueEntry × TxMessage)) (id : ℕ) (hpairs : ∀ p ∈ l,
    Matches p.1 p.2) (hmore : ∀ p ∈ l, firstFile p.1 p.2 < p.2.pdus.length) : ∃ entries backupq,
    loadDirs (l.map fun p => fileOf p.1 p.2) id = .ok (entries, (l.zipIdx id).map renumbered) ∧
    txqBackups entries = .ok backupq ∧ List.Forall₂ Rereads backupq l := by
  induction l generalizing id with
  | nil => exact ⟨[], [], rfl, rfl, List.Forall₂.nil⟩
  | cons p l ih =>
    rcases ih (id + 1) (fun q hq => hpairs q (mem_cons_of_mem _ hq))
      (fun q hq => hmore q (mem_cons_of_mem _ hq)) with ⟨entries, backupq, hload, hbackup, hall⟩
    have hpair := hpairs p mem_cons_self
    have hlt := hmore p mem_cons_self
    have hstored : ∀ pdu ∈ p.2.pdus.drop (firstFile p.1 p.2), pdu.Stored :=
      fun pdu hpdu => hpair.stored pdu (mem_of_mem_drop hpdu)
    rcases smsTxLoad_pduFiles hstored (firstFile p.1 p.2) with ⟨msgs, hmsgs, hpdus⟩
    have hne : p.2.pdus.drop (firstFile p.1 p.2) ≠ [] := by
      rw [ne_eq, drop_eq_nil_iff]
      omega
    have hle : (p.2.pdus.drop (firstFile p.1 p.2)).length ≤ 255 := by
      rw [length_drop]
      have hlength := hpair.length
      omega
    have htx : txPdus msgs = .ok ⟨p.2.pdus.drop (firstFile p.1 p.2), hne, hle⟩ := by
      rw [txPdus, hpdus, ok_bind, dif_pos ⟨hne, hle⟩]
    have hsome : msgs ≠ [] := by
      rintro rfl
      exact hne (Outcome.ok.inj hpdus).symm
    refine ⟨⟨msgs, p.1.flags, p.1.uuid⟩ :: entries,
      ⟨⟨_, hne, hle⟩, p.1.flags, p.1.uuid⟩ :: backupq, ?_, ?_, .cons ⟨rfl, rfl, rfl⟩ hall⟩
    · rw [map_cons, loadDirs]
      rw [show smsTxLoad (fileOf p.1 p.2).2 = .ok msgs from hmsgs, ok_bind]
      cases msgs with
      | nil => exact absurd rfl hsome
      | cons s msgs =>
        simp only [hload, ok_bind]
        rfl
    · rw [txqBackups, hbackup, ok_bind]
      simp only [htx]

/-- The entry that is made of a backup. -/
def restored (q : TxqBackupEntry × ℕ) : TxQueueEntry :=
  { txQueueEntryNew q.1.pdus q.1.flags q.1.uuid with id := q.2 }

lemma foldl_restoreEntry (backupq : List TxqBackupEntry) (s : OfonoSms) (hnodup : (backupq.map
    TxqBackupEntry.uuid).Nodup) (hfree : ∀ backup ∈ backupq, backup.uuid ∉ s.messages) :
    (backupq.foldl restoreEntry s).txq = s.txq ++ (backupq.zipIdx s.txCounter).map restored ∧
    (backupq.foldl restoreEntry s).messages = s.messages ++ backupq.map TxqBackupEntry.uuid ∧
    (backupq.foldl restoreEntry s).files = s.files := by
  induction backupq generalizing s with
  | nil => simp
  | cons backup backupq ih =>
    rw [map_cons, nodup_cons] at hnodup
    have hturn : s.restoreEntry backup = OfonoSms.pushTail
        { s with messages := s.messages ++ [backup.uuid] }
        (txQueueEntryNew backup.pdus backup.flags backup.uuid) := by
      have htaken : ¬ (backup.uuid ∈ s.messages ∨ true = false) := by
        simp [hfree backup mem_cons_self]
      simp only [restoreEntry, dbusRegister, if_neg htaken]
    have hrest := ih (s.restoreEntry backup) hnodup.2 (by
      intro b hb
      rw [hturn]
      show b.uuid ∉ s.messages ++ [backup.uuid]
      rw [mem_append, not_or]
      refine ⟨hfree b (mem_cons_of_mem _ hb), ?_⟩
      intro heq
      exact hnodup.1 (mem_singleton.mp heq ▸ mem_map_of_mem hb))
    rw [foldl_cons, hrest.1, hrest.2.1, hrest.2.2, hturn]
    refine ⟨?_, ?_, rfl⟩
    · simp [pushTail, restored]
    · simp [pushTail]

/-- The entries made of the backups are those of the messages, if all that was accepted of each
message had its file removed. -/
lemma restored_pairs {backupq : List TxqBackupEntry} (hall : List.Forall₂ Rereads backupq l) (hpairs
    : ∀ p ∈ l, Matches p.1 p.2) (hfirst : ∀ p ∈ l, firstFile p.1 p.2 = p.2.accepted) (hexposed : ∀
    p ∈ l, p.1.flags.exposeDbus = true) (id : ℕ) : ∃ l' : List (TxQueueEntry × TxMessage),
    l'.map Prod.fst = (backupq.zipIdx id).map restored ∧ l'.map Prod.snd = l.map Prod.snd ∧
    (l'.map fun p => fileOf p.1 p.2) = (l.zipIdx id).map renumbered ∧ (l'.map fun p => p.1.uuid) =
    backupq.map TxqBackupEntry.uuid ∧ ∀ p ∈ l', Matches p.1 p.2 ∧ p.1.flags.exposeDbus = true := by
  induction hall generalizing id with
  | nil => exact ⟨[], rfl, rfl, rfl, rfl, by simp⟩
  | @cons backup p backupq l hreads hall ih =>
    rcases ih (fun q hq => hpairs q (mem_cons_of_mem _ hq))
      (fun q hq => hfirst q (mem_cons_of_mem _ hq))
      (fun q hq => hexposed q (mem_cons_of_mem _ hq)) (id + 1) with
      ⟨l', htxq, hmessages, hfiles, huuids, hgood⟩
    have hpair := hpairs p mem_cons_self
    have hall' := hfirst p mem_cons_self
    refine ⟨(restored (backup, id), p.2) :: l', ?_, ?_, ?_, ?_, ?_⟩
    · simp [htxq]
    · simp [hmessages]
    · have hnow : firstFile (restored (backup, id)) p.2 = p.2.accepted := Nat.max_eq_left (Nat.zero_le _)
      have hdir : (restored (backup, id)).dir = { p.1.dir with id := id } := by
        simp [restored, txQueueEntryNew, TxQueueEntry.dir, hreads.uuid, hreads.flags]
      rw [map_cons, hfiles, zipIdx_cons, map_cons]
      refine congrArg₂ _ ?_ rfl
      simp only [fileOf, renumbered, hnow, hdir, hall']
    · simp [huuids, restored, txQueueEntryNew]
    · intro q hq
      rcases mem_cons.mp hq with rfl | hq
      · refine ⟨⟨hpair.uuid.trans hreads.uuid.symm, Nat.zero_le _, ?_, hpair.stored, hpair.length⟩, ?_⟩
        · show backup.pdus.pdus = _
          rw [hreads.pdus, hall']
          rfl
        · show backup.flags.exposeDbus = true
          rw [hreads.flags]
          exact hexposed p mem_cons_self
      · exact hgood q hq

lemma Kept.firstFile_lt (hl : Kept s [] expected l) (h : s.TxCore none)
    {p : TxQueueEntry × TxMessage} (hp : p ∈ l) :
    firstFile p.1 p.2 < p.2.pdus.length ∧ p.2.accepted < p.2.pdus.length := by
  have hpair := hl.pairs p hp
  have hmore := (h.tracks (show p.1 ∈ s.txq by rw [hl.txq]; exact mem_map_of_mem hp)).more
  have hle := hpair.le
  rw [TxQueueEntry.numPdus, hpair.pdus, length_drop] at hmore
  refine ⟨?_, by omega⟩
  exact Nat.max_lt.mpr ⟨by omega, by omega⟩

lemma rereads_map {β : Type*} {backupq : List TxqBackupEntry} (hall : List.Forall₂ Rereads backupq l)
    {f : TxqBackupEntry → β} {g : TxQueueEntry × TxMessage → β}
    (hfg : ∀ backup, ∀ p ∈ l, Rereads backup p → f backup = g p) : backupq.map f = l.map g := by
  induction hall with
  | nil => rfl
  | cons hreads _ ih =>
    rw [map_cons, map_cons, hfg _ _ mem_cons_self hreads,
      ih fun backup p hp => hfg backup p (mem_cons_of_mem _ hp)]

lemma restart_spec (h : s.TxCore none) (hl : Kept s [] expected l) (registered : Bool) (ref : ℕ) :
    ∃ t, s.restart registered ref = .ok t ∧ (t.TxCore none ∧ t.Awake) ∧ (t.txq.map fun e => (e.uuid,
    e.pdus.pdus.drop e.curPdu)) = l.map (fun p => (p.2.uuid, p.2.pdus.drop (firstFile p.1 p.2))) ∧
    ((∀ p ∈ l, firstFile p.1 p.2 = p.2.accepted) → QueueHolds t [] expected) := by
  have hfiles : s.files = l.map fun p => fileOf p.1 p.2 := by
    have hall := hl.files
    simpa using hall
  have hsorted : s.files.insertionSort (fun d d' => d.1.id ≤ d'.1.id) = s.files := by
    refine List.Pairwise.insertionSort_eq ?_
    have hids := h.ids
    rw [hl.txq, pairwise_map] at hids
    rw [hfiles, pairwise_map]
    exact hids.imp fun hlt => hlt.le
  rcases loadDirs_spec l 0 hl.pairs (fun p hp => (hl.firstFile_lt h hp).1) with
    ⟨entries, backupq, hload, hbackup, hall⟩
  have hrestart : s.restart registered ref =
      .ok (OfonoSms.start registered ref ((l.zipIdx 0).map renumbered) backupq) := by
    rw [OfonoSms.restart, smsTxQueueLoad, hsorted, hfiles, hload, ok_bind, hbackup, ok_bind]
  have huuids : backupq.map TxqBackupEntry.uuid = l.map fun p => p.1.uuid :=
    rereads_map hall fun _ _ _ hreads => hreads.uuid
  have hfold := foldl_restoreEntry backupq
    (create registered ref ((l.zipIdx 0).map renumbered)) (by rw [huuids]; exact hl.nodup)
    (by simp [create])
  -- the timeout at the end does not matter
  have hfinal : ∀ u : OfonoSms, u = OfonoSms.start registered ref ((l.zipIdx 0).map renumbered) backupq →
      u.txq = (backupq.zipIdx 0).map restored ∧ u.messages = backupq.map TxqBackupEntry.uuid ∧
        u.files = (l.zipIdx 0).map renumbered := by
    rintro u rfl
    unfold OfonoSms.start smsRestoreTxQueue
    dsimp only
    split_ifs <;> exact hfold
  rcases hfinal _ rfl with ⟨htxq, hbus, hnames⟩
  refine ⟨_, hrestart, start_spec registered ref _ backupq, ?_, ?_⟩
  · rw [htxq, map_map]
    have hview : ((fun e => (e.uuid, e.pdus.pdus.drop e.curPdu)) ∘ restored) =
        (fun b : TxqBackupEntry => (b.uuid, b.pdus.pdus)) ∘ Prod.fst := rfl
    rw [hview, ← map_map, zipIdx_map_fst]
    refine rereads_map hall fun backup p hp hreads => ?_
    rw [hreads.uuid, hreads.pdus, (hl.pairs p hp).uuid]
  · intro hfirst
    rcases restored_pairs hall hl.pairs hfirst hl.exposed 0 with
      ⟨l', hentries, hmessages, hfiles', huuids', hgood⟩
    refine ⟨l', ?_, ?_, ?_, fun p hp => (hgood p hp).1, fun p hp => (hgood p hp).2, ?_, ?_, by simp⟩
    · rw [htxq, hentries]
    · rw [hl.messages, hmessages]
    · rw [hnames, hfiles']
      simp
    · intro p hp
      rw [hbus, ← huuids']
      exact mem_map_of_mem hp
    · rw [huuids', huuids]
      exact hl.nodup

/-! ## Whole runs -/

namespace Daemon

variable {d : Daemon}

structure Inv (d : Daemon) : Prop where
  core : d.sms.TxCore none
  awake : d.sms.Awake
  carries : QueueHolds d.sms [] d.expected

lemma Inv.good (h : d.Inv) : d.Good := by
  rcases h.carries with ⟨l, hl⟩
  constructor
  · rw [hl.txq, hl.messages, map_map, map_map]
    refine map_congr_left fun p hp => ?_
    have hpair := hl.pairs p hp
    have hle := hpair.le
    simp only [Function.comp_apply, TxMessage.rest, hpair.uuid, hpair.pdus, drop_drop]
    rw [Nat.sub_add_cancel hle]
  · have hfiles := hl.files
    rw [filter_eq_self.mpr (by simp)] at hfiles
    rw [hfiles, hl.txq, map_map, map_map]
    rfl

lemma Inv.input (h : d.Inv) {i : TxInput} (hfollows : ∀ t, d.sms.step i = some t → Follows d.sms t) :
    ∃ d', d.input i = some d' ∧ d'.Inv := by
  rcases step_spec h.core h.awake i with ⟨t, ht, hcore, hawake⟩
  rcases hfollows t ht with ⟨events, hlog, hcarries⟩
  refine ⟨⟨t, events.foldl expect d.expected⟩, ?_, hcore, hawake, hcarries _ _ h.carries⟩
  simp [Daemon.input, ht, hlog]

lemma Inv.submit (h : d.Inv) (pdus : PduList) (hstored : ∀ pdu ∈ pdus.pdus, pdu.Stored)
    (flags : SubmitFlags) (hexposed : flags.exposeDbus = true) (uuid : MsgId) (cb : Bool → List MsgId)
    (registers : Bool) :
    ∃ d', d.input (.submit pdus flags uuid cb registers) = some d' ∧ d'.Inv := by
  have hspec := txqSubmit_spec h.core h.awake pdus flags uuid cb registers
  have hevents : ∃ events, (d.sms.txqSubmit pdus flags uuid cb registers).log = d.sms.log ++ events ∧
      QueueHolds (d.sms.txqSubmit pdus flags uuid cb registers) [] (events.foldl expect d.expected) := by
    unfold txqSubmit dbusRegister
    extract_lets new entry
    rw [if_pos hexposed]
    by_cases htaken : uuid ∈ d.sms.messages ∨ registers = false
    · rw [if_pos htaken]
      exact ⟨[], by simp, h.carries⟩
    · rw [if_neg htaken]
      have hsubmitted := @submitEntry_carries d.sms d.expected h.core h.carries entry rfl hexposed
        hstored fun hmem => htaken (.inl hmem)
      exact ⟨[_], hsubmitted.1, hsubmitted.2⟩
  rcases hevents with ⟨events, hlog, hcarries⟩
  refine ⟨⟨d.sms.txqSubmit pdus flags uuid cb registers, events.foldl expect d.expected⟩, ?_,
    hspec.1, hspec.2, hcarries⟩
  simp [Daemon.input, OfonoSms.step, hlog]

lemma pendingPdus_stored {msgs : List Sms} (h : ∀ s ∈ msgs, Submits s) :
    ∃ pdus, pendingPdus msgs = .ok pdus ∧ pdus.length = msgs.length ∧ ∀ pdu ∈ pdus, pdu.Stored := by
  induction msgs with
  | nil => exact ⟨[], rfl, rfl, by simp⟩
  | cons s msgs ih =>
    rcases ih fun s' hs' => h s' (mem_cons_of_mem _ hs') with ⟨pdus, hpdus, hlength, hstored⟩
    rcases stored_of_submits (h s mem_cons_self) with ⟨pdu, hpdu, hpduStored⟩
    refine ⟨pdu :: pdus, ?_, ?_, ?_⟩
    · rw [pendingPdus, hpdu, ok_bind, hpdus, ok_bind]
    · rw [length_cons, length_cons, hlength]
    · intro p hp
      rcases mem_cons.mp hp with rfl | hp
      · exact hpduStored
      · exact hstored p hp

lemma txPdus_stored (msgs : SubmitList) :
    ∃ pdus, txPdus msgs.msgs = .ok pdus ∧ ∀ pdu ∈ pdus.pdus, pdu.Stored := by
  rcases pendingPdus_stored msgs.submits with ⟨pdus, hpdus, hlength, hstored⟩
  have hle := msgs.le
  have hne : pdus ≠ [] := by
    rintro rfl
    exact msgs.ne (length_eq_zero_iff.mp hlength.symm)
  refine ⟨⟨pdus, hne, by omega⟩, ?_, hstored⟩
  rw [txPdus, hpdus, ok_bind, dif_pos ⟨hne, by omega⟩]

/-- A restart is sound exactly where the first file of every message is that of its first PDU
that was not accepted. -/
lemma sound_restart_iff {l : List (TxQueueEntry × TxMessage)} (hl : Kept d.sms [] d.expected l)
    (registered : Bool) (ref : ℕ) :
    d.Sound (.restart registered ref) ↔ ∀ p ∈ l, firstFile p.1 p.2 = p.2.accepted := by
  have hentry : ∀ p ∈ l, p.1 ∈ d.sms.txq := fun p hp => by rw [hl.txq]; exact mem_map_of_mem hp
  constructor
  · intro hsound p hp
    have hle := (hl.pairs p hp).le
    rcases Nat.eq_zero_or_pos p.1.curPdu with hzero | hpos
    · simp [firstFile, hzero]
    · rcases hsound p.1 (hentry p hp) hpos with ⟨m, hm, huuid, haccepted⟩
      rw [hl.messages] at hm
      rcases mem_map.mp hm with ⟨q, hq, rfl⟩
      -- the message with the uuid is that of the entry
      have heq : q = p := inj_on_of_nodup_map hl.nodup hq hp ((hl.pairs q hq).uuid.symm.trans huuid)
      rw [heq] at haccepted
      simp [firstFile, haccepted]
  · intro hall e he hpos
    rw [hl.txq] at he
    rcases mem_map.mp he with ⟨p, hp, rfl⟩
    have hpair := hl.pairs p hp
    have hle := hpair.le
    have hfirst := hall p hp
    refine ⟨p.2, by rw [hl.messages]; exact mem_map_of_mem hp, hpair.uuid, ?_⟩
    unfold firstFile at hfirst
    rcases Nat.le_total (p.2.accepted - p.1.curPdu) p.1.curPdu with hle' | hle'
    · rw [Nat.max_eq_right hle'] at hfirst
      exact hfirst.symm
    · rw [Nat.max_eq_left hle'] at hfirst
      omega

lemma step_sound (h : d.Inv) (i : DaemonInput) (hsound : d.Sound i) :
    ∃ d', d.step i = some d' ∧ d'.Inv := by
  cases i with
  | submit msgs requestSr recordHistory retry uuid cb registers =>
    rcases txPdus_stored msgs with ⟨pdus, hpdus, hstored⟩
    simp only [step, hpdus]
    exact h.submit pdus hstored _ rfl uuid cb registers
  | cancel uuid =>
    refine h.input fun t ht => ?_
    rw [← Option.some.inj ht]
    exact txqCancelUpTo_follows _ _ uuid
  | status status =>
    refine h.input fun t ht => ?_
    rw [← Option.some.inj ht]
    exact netregStatusWatch_follows d.sms status
  | netregGone =>
    refine h.input fun t ht => ?_
    rw [← Option.some.inj ht]
    exact Follows.same rfl rfl rfl rfl
  | timeout source =>
    refine h.input fun t ht => ?_
    simp only [OfonoSms.step] at ht
    split at ht
    · have hgone : Follows d.sms
          { d.sms with sources := d.sms.sources.filter fun p => p.1 ≠ source } :=
        Follows.same rfl rfl rfl rfl
      exact hgone.trans (txNext_follows ht)
    · rw [← Option.some.inj ht]
      exact Follows.refl d.sms
  | reply i error =>
    refine h.input fun t ht => ?_
    simp only [OfonoSms.step] at ht
    split at ht
    · rw [← Option.some.inj ht]
      exact Follows.refl d.sms
    · next submission hi => exact reply_follows h.core hi ht
  | restart registered ref =>
    rcases h.carries with ⟨l, hl⟩
    rcases restart_spec h.core hl registered ref with ⟨t, ht, hcore, -, hcarries⟩
    have hfirst := (sound_restart_iff hl registered ref).mp hsound
    exact ⟨⟨t, d.expected⟩, by simp only [step, ht], hcore.1, hcore.2, hcarries hfirst⟩

lemma step_unsound (h : d.Inv) (i : DaemonInput) {d' : Daemon} (hsound : ¬ d.Sound i)
    (hstep : d.step i = some d') : ¬ d'.Good := by
  cases i with
  | restart registered ref =>
    rcases h.carries with ⟨l, hl⟩
    rcases restart_spec h.core hl registered ref with ⟨t, ht, -, hqueue, -⟩
    simp only [step, ht, Option.some.injEq] at hstep
    rw [sound_restart_iff hl registered ref] at hsound
    intro hgood
    refine hsound fun p hp => ?_
    -- as many PDUs are left in the queue as have not been accepted
    have hall := hgood.queue
    rw [← hstep, hqueue, hl.messages, map_map] at hall
    have hdrop := congrArg List.length (congrArg Prod.snd (map_inj_left.mp hall p hp))
    have hlt := hl.firstFile_lt h.core hp
    simp only [Function.comp_apply, TxMessage.rest, length_drop] at hdrop
    omega
  | _ => exact absurd trivial hsound

end Daemon

/-- Whatever comes to the daemon: nothing faults, and the queue holds of every message, in their
order, the PDUs that were not accepted, and no other backup is there, exactly if every restart
is sound. -/
theorem tx_backup_iff (registered : Bool) (ref : ℕ) (inputs : List DaemonInput) :
    Machine.Safe Daemon.step Daemon.Good (Daemon.start registered ref) inputs ↔
      Machine.EachStep Daemon.step Daemon.Sound (Daemon.start registered ref) inputs := by
  have hstart : (Daemon.start registered ref).Inv := by
    have hspec := start_spec registered ref [] []
    refine ⟨hspec.1, hspec.2, [], ?_⟩
    exact ⟨rfl, rfl, rfl, by simp, by simp, by simp, nodup_nil, by simp⟩
  exact Machine.safe_iff (fun d h => Daemon.Inv.good h) (fun d i h hs => Daemon.step_sound h i hs)
    (fun d i d' h hs hstep => Daemon.step_unsound h i hs hstep) hstart inputs

/-- A message of three PDUs. -/
def sampleSubmit : SubmitList where
  msgs := [submitSample, submitSample, submitSample]
  submits := by
    intro s hs
    have heq : s = submitSample := by simpa using hs
    rw [heq]
    exact ⟨⟨_, rfl⟩, submitSample_inRange⟩
  ne := by simp
  le := by simp

/-- One PDU is accepted before the first restart and one before the second. -/
def interruptedTwice : List DaemonInput :=
  [.submit sampleSubmit false true true (Buf.zero 20) (fun _ => []) true,
    .timeout 1, .reply 0 .noError, .restart true 1,
    .timeout 1, .reply 0 .noError, .restart true 1]

/-- The second PDU of the three is in the queue again, though it was accepted. -/
theorem accepted_pdu_queued_again : ¬ ∀ (registered : Bool) (ref : ℕ) (inputs : List DaemonInput),
    Machine.Safe Daemon.step Daemon.Good (Daemon.start registered ref) inputs := by
  intro h
  rcases (h true 1 interruptedTwice).finish with ⟨d, hd, hgood⟩
  have hcount : (Machine.finish Daemon.step (Daemon.start true 1) interruptedTwice).map
      (fun d => (d.sms.txq.map fun e => (e.pdus.pdus.drop e.curPdu).length,
        d.expected.map fun m => m.rest.length)) = some ([2], [1]) := by
    decide
  rw [hd, Option.map_some, Option.some.injEq, Prod.mk.injEq] at hcount
  have hlength := congrArg (List.map fun p => p.2.length) hgood.queue
  rw [map_map, map_map] at hlength
  have hcontra : [2] = [1] := hcount.1.symm.trans (hlength.trans hcount.2)
  cases hcontra

end Phonelets.Sms
