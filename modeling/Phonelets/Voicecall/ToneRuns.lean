import Mathlib.Data.List.Pairwise
import Mathlib.Data.List.TakeWhile
import Phonelets.Voicecall.Tones

/-! # Runs of the tone queue

What the driver and the callbacks see of an entry is what its string says, as long as a run finds
no request in flight and an error is not taken for one of the head of the queue. `ToneState.Sound`
says when that is so: neither the timers that are not recorded nor the reply of a cancelled
request are bound to the entry that they were meant for.
-/

namespace Phonelets.Voicecall

open List

/-! ## What is seen -/

/-- The tones of a string, without the pauses. -/
def tonesOf (toneStr : List Char) : List Char := toneStr.filter fun c => !isPause c

/-- The tones that an event passes to the driver for the entry. -/
def ToneEvent.tonesFor (userData : ℕ) : ToneEvent → List Char
  | .sent n tones => if n = userData then tones else []
  | _ => []

/-- The tones passed to the driver for the entry, concatenated. -/
def playedOf (log : List ToneEvent) (userData : ℕ) : List Char :=
  log.flatMap (ToneEvent.tonesFor userData)

/-- The event is the end of the entry: its callback, or that it was cancelled. -/
def ToneEvent.ends (userData : ℕ) : ToneEvent → Bool
  | .called n _ => n = userData
  | .cancelled n => n = userData
  | _ => false

/-- The entry for which an event passes tones to the driver. -/
def ToneEvent.player : ToneEvent → Option ℕ
  | .sent n _ => some n
  | _ => none

namespace ToneState

/-- What holds after every input. An entry that has been queued has one end or is in the queue,
and then there is a timer or a request that will go on with it. -/
structure Good (s : ToneState) : Prop where
  oneRequest : s.requests.length ≤ 1
  tones : ∀ n toneStr, s.queued[n]? = some toneStr → playedOf s.log n <+: tonesOf toneStr
  complete : ∀ n toneStr, s.queued[n]? = some toneStr → .called n false ∈ s.log →
    playedOf s.log n = tonesOf toneStr
  chunks : ∀ n tones, .sent n tones ∈ s.log → tones.length ≤ 8
  ordered : (s.log.filterMap ToneEvent.player).Pairwise (· ≤ ·)
  once : ∀ n, s.log.countP (ToneEvent.ends n) + (s.toneq.map (·.userData)).count n =
    if n < s.queued.length then 1 else 0
  errors : ∀ n, .called n true ∈ s.log → .failed n ∈ s.log
  going : s.toneq ≠ [] → s.timers ≠ [] ∨ s.requests ≠ []

/-! ## What the inputs have to meet -/

def Sends : List ToneQueueEntry → Prop
  | [] => False
  | entry :: _ => entry.chunk ≠ []

/-- What an input has to meet: what is cancelled is in the queue, a run that sends tones finds no
request in flight, and an error that comes when the head of the queue has been started is one of
its own requests. -/
def Sound (s : ToneState) : ToneInput → Prop
  | .queue _ => True
  | .cancel id => ∃ i, s.toneq.findIdx? (fun entry => entry.id = id) = some i ∧
      (i = 0 → s.toneSource ≠ 0 → Sends s.toneq.tail → s.requests = [])
  | .reply i error => error = true → ∀ userData, s.requests[i]? = some userData →
      ∀ entry, s.toneq.head? = some entry → 0 < entry.pos → userData = entry.userData
  | .timer id => id ∈ s.timers → Sends s.toneq → s.requests = []

/-! ## Strings -/

lemma tonesOf_append (l l' : List Char) : tonesOf (l ++ l') = tonesOf l ++ tonesOf l' :=
  filter_append l l'

lemma tonesOf_take (toneStr : List Char) (n : ℕ) :
    tonesOf (toneStr.take n) <+: tonesOf toneStr := by
  refine ⟨tonesOf (toneStr.drop n), ?_⟩
  rw [← tonesOf_append, take_append_drop]

/-- What is taken from behind `pos`, when it comes next. -/
lemma take_add_length {l l' : List Char} {pos : ℕ} (h : l' <+: l.drop pos) :
    l.take (pos + l'.length) = l.take pos ++ l' := by
  rw [take_add]
  congr 1
  exact (prefix_iff_eq_take.mp h).symm

lemma chunk_le_left (entry : ToneQueueEntry) : entry.chunk <+: entry.left :=
  (List.take_prefix _ _).trans (List.takeWhile_prefix _)

lemma tonesOf_chunk (entry : ToneQueueEntry) : tonesOf entry.chunk = entry.chunk := by
  apply filter_eq_self.mpr
  intro c hc
  have hmem : c ∈ entry.left.takeWhile fun c => !isPause c := mem_of_mem_take hc
  exact mem_takeWhile_imp (p := fun c => !isPause c) hmem

lemma tonesOf_pauses (entry : ToneQueueEntry) : tonesOf entry.pauses = [] := by
  apply filter_eq_nil_iff.mpr
  intro c hc
  have hpause : isPause c = true := mem_takeWhile_imp (p := isPause) hc
  rw [hpause]
  exact fun h => nomatch h

lemma tonesOf_sent (entry : ToneQueueEntry) : tonesOf (entry.toneStr.take
    (entry.pos + entry.chunk.length)) = tonesOf (entry.toneStr.take entry.pos) ++ entry.chunk := by
  rw [take_add_length (chunk_le_left entry), tonesOf_append, tonesOf_chunk]

lemma tonesOf_paused (entry : ToneQueueEntry) : tonesOf (entry.toneStr.take
    (entry.pos + entry.pauses.length)) = tonesOf (entry.toneStr.take entry.pos) := by
  have hprefix : entry.pauses <+: entry.toneStr.drop entry.pos := List.takeWhile_prefix _
  rw [take_add_length hprefix, tonesOf_append, tonesOf_pauses, append_nil]

lemma tonesOf_left_nil {entry : ToneQueueEntry} (h : entry.left = []) :
    tonesOf (entry.toneStr.take entry.pos) = tonesOf entry.toneStr := by
  rw [take_of_length_le]
  exact drop_eq_nil_iff.mp h

/-! ## The log -/

@[simp] lemma playedOf_snoc (log : List ToneEvent) (e : ToneEvent) (n : ℕ) :
    playedOf (log ++ [e]) n = playedOf log n ++ e.tonesFor n := by
  simp [playedOf]

lemma playedOf_eq_nil {log : List ToneEvent} {n : ℕ} (h : ∀ tones, .sent n tones ∉ log) :
    playedOf log n = [] := by
  apply flatMap_eq_nil_iff.mpr
  intro e he
  cases e with
  | sent m tones =>
    by_cases hm : m = n
    · subst hm
      exact absurd he (h tones)
    · exact if_neg hm
  | failed => rfl
  | called => rfl
  | cancelled => rfl

/-! ## The invariant -/

/-- What holds of the queue and the log, whatever is in flight. -/
structure Core (s : ToneState) : Prop where
  sorted : (s.toneq.map (·.userData)).Pairwise (· < ·)
  known : ∀ entry ∈ s.toneq, s.queued[entry.userData]? = some entry.toneStr
  started : ∀ n ∈ s.requests, ∀ entry ∈ s.toneq, n ≤ entry.userData ∧
    (n = entry.userData → 0 < entry.pos)
  sent : ∀ n tones, .sent n tones ∈ s.log → n < s.queued.length ∧
    ∀ entry ∈ s.toneq, n ≤ entry.userData
  played : ∀ entry ∈ s.toneq,
    playedOf s.log entry.userData = tonesOf (entry.toneStr.take entry.pos)
  tones : ∀ n toneStr, s.queued[n]? = some toneStr → playedOf s.log n <+: tonesOf toneStr
  complete : ∀ n toneStr, s.queued[n]? = some toneStr → .called n false ∈ s.log →
    playedOf s.log n = tonesOf toneStr
  chunks : ∀ n tones, .sent n tones ∈ s.log → tones.length ≤ 8
  ordered : (s.log.filterMap ToneEvent.player).Pairwise (· ≤ ·)
  once : ∀ n, s.log.countP (ToneEvent.ends n) + (s.toneq.map (·.userData)).count n =
    if n < s.queued.length then 1 else 0
  errors : ∀ n, .called n true ∈ s.log → .failed n ∈ s.log

/-- The entries of failed requests have gone. -/
def FailedGone (s : ToneState) : Prop :=
  ∀ n, .failed n ∈ s.log → ∀ entry ∈ s.toneq, n < entry.userData

namespace Core

variable {s t : ToneState} {entry : ToneQueueEntry} {rest : List ToneQueueEntry}

lemma of_eq (h : Core s) (htoneq : t.toneq = s.toneq) (hrequests : t.requests = s.requests)
    (hqueued : t.queued = s.queued) (hlog : t.log = s.log) : Core t := by
  cases s
  cases t
  dsimp only at htoneq hrequests hqueued hlog
  subst htoneq hrequests hqueued hlog
  exact ⟨h.sorted, h.known, h.started, h.sent, h.played, h.tones, h.complete, h.chunks,
    h.ordered, h.once, h.errors⟩

lemma lt_length (h : Core s) (hmem : entry ∈ s.toneq) : entry.userData < s.queued.length :=
  (List.getElem?_eq_some_iff.mp (h.known entry hmem)).1

lemma not_ended (h : Core s) (hmem : entry ∈ s.toneq) :
    ∀ e ∈ s.log, e.ends entry.userData = false := by
  have honce := h.once entry.userData
  rw [if_pos (h.lt_length hmem)] at honce
  have hcount : 0 < (s.toneq.map (·.userData)).count entry.userData :=
    count_pos_iff.mpr (mem_map.mpr ⟨entry, hmem, rfl⟩)
  have hzero : s.log.countP (ToneEvent.ends entry.userData) = 0 := by omega
  intro e he
  exact eq_false_of_ne_true (countP_eq_zero.mp hzero e he)

lemma head_lt (h : Core s) (hq : s.toneq = entry :: rest) :
    ∀ other ∈ rest, entry.userData < other.userData := by
  intro other hother
  have hsorted := h.sorted
  rw [hq, map_cons, pairwise_cons] at hsorted
  exact hsorted.1 _ (mem_map.mpr ⟨other, hother, rfl⟩)

lemma finishHead (h : Core s) (hq : s.toneq = entry :: rest) {error : Bool}
    (hok : error = false → entry.left = [])
    (herror : error = true → .failed entry.userData ∈ s.log) : Core (finishHead s error) := by
  have hmem : entry ∈ s.toneq := hq ▸ mem_cons_self
  have hrest : ∀ other ∈ rest, other ∈ s.toneq := fun other hother =>
    hq ▸ mem_cons_of_mem entry hother
  unfold ToneState.finishHead
  rw [hq]
  dsimp only
  constructor
  · have hsorted := h.sorted
    rw [hq, map_cons, pairwise_cons] at hsorted
    exact hsorted.2
  · intro other hother
    exact h.known other (hrest other hother)
  · intro n hn other hother
    exact h.started n hn other (hrest other hother)
  · intro n tones hsent
    have hsent' : .sent n tones ∈ s.log := by simpa using hsent
    rcases h.sent n tones hsent' with ⟨hlt, hle⟩
    exact ⟨hlt, fun other hother => hle other (hrest other hother)⟩
  · intro other hother
    rw [playedOf_snoc, h.played other (hrest other hother)]
    exact append_nil _
  · intro n toneStr hn
    rw [playedOf_snoc]
    exact (append_nil _).symm ▸ h.tones n toneStr hn
  · intro n toneStr hn hcalled
    rw [playedOf_snoc]
    show playedOf s.log n ++ [] = _
    rw [append_nil]
    rcases mem_append.mp hcalled with hbefore | hnow
    · exact h.complete n toneStr hn hbefore
    · have heq : ToneEvent.called n false = .called entry.userData error :=
        mem_singleton.mp hnow
      injection heq with hnum herr
      rw [hnum, h.known entry hmem, Option.some.injEq] at hn
      rw [hnum, h.played entry hmem, tonesOf_left_nil (hok herr.symm), hn]
  · intro n tones hsent
    exact h.chunks n tones (by simpa using hsent)
  · rw [filterMap_append]
    show (_ ++ []).Pairwise _
    rw [append_nil]
    exact h.ordered
  · intro n
    have honce := h.once n
    rw [hq, map_cons, count_cons] at honce
    rw [countP_append, countP_singleton]
    show _ + (if decide (entry.userData = n) = true then 1 else 0) + _ = _
    rw [← honce]
    by_cases hn : entry.userData = n
    · simp [hn]
      omega
    · simp [hn]
  · intro n hcalled
    rcases mem_append.mp hcalled with hbefore | hnow
    · exact mem_append_left _ (h.errors n hbefore)
    · have heq : ToneEvent.called n true = .called entry.userData error :=
        mem_singleton.mp hnow
      injection heq with hnum herr
      rw [hnum]
      exact mem_append_left _ (herror herr.symm)

lemma advancePauses (h : Core s) (hq : s.toneq = entry :: rest) :
    Core (advanceHead s entry.pauses.length) := by
  have hmem : entry ∈ s.toneq := hq ▸ mem_cons_self
  have hrest : ∀ other ∈ rest, other ∈ s.toneq := fun other hother =>
    hq ▸ mem_cons_of_mem entry hother
  unfold advanceHead
  rw [hq]
  dsimp only
  constructor
  · have hsorted := h.sorted
    rw [hq] at hsorted
    exact hsorted
  · intro other hother
    rcases mem_cons.mp hother with rfl | hin
    · exact h.known entry hmem
    · exact h.known other (hrest other hin)
  · intro n hn other hother
    rcases mem_cons.mp hother with rfl | hin
    · rcases h.started n hn entry hmem with ⟨hle, hpos⟩
      exact ⟨hle, fun heq => Nat.lt_of_lt_of_le (hpos heq) (Nat.le_add_right _ _)⟩
    · exact h.started n hn other (hrest other hin)
  · intro n tones hsent
    rcases h.sent n tones hsent with ⟨hlt, hle⟩
    refine ⟨hlt, ?_⟩
    intro other hother
    rcases mem_cons.mp hother with rfl | hin
    · exact hle entry hmem
    · exact hle other (hrest other hin)
  · intro other hother
    rcases mem_cons.mp hother with rfl | hin
    · exact (h.played entry hmem).trans (tonesOf_paused entry).symm
    · exact h.played other (hrest other hin)
  · exact h.tones
  · exact h.complete
  · exact h.chunks
  · exact h.ordered
  · intro n
    have honce := h.once n
    rw [hq] at honce
    exact honce
  · exact h.errors

lemma sendTones (h : Core s) (hq : s.toneq = entry :: rest) (hchunk : entry.chunk ≠ []) :
    Core (sendTones s entry) := by
  have hmem : entry ∈ s.toneq := hq ▸ mem_cons_self
  have hrest : ∀ other ∈ rest, other ∈ s.toneq := fun other hother =>
    hq ▸ mem_cons_of_mem entry hother
  have hlt := h.head_lt hq
  have hpos : 0 < entry.chunk.length := length_pos_iff.mpr hchunk
  have hplayed : ∀ n, playedOf (s.log ++ [.sent entry.userData entry.chunk]) n =
      playedOf s.log n ++ if entry.userData = n then entry.chunk else [] :=
    fun n => playedOf_snoc _ _ n
  have hself : playedOf (s.log ++ [.sent entry.userData entry.chunk]) entry.userData =
      tonesOf (entry.toneStr.take (entry.pos + entry.chunk.length)) := by
    rw [hplayed, if_pos rfl, h.played entry hmem, tonesOf_sent]
  unfold ToneState.sendTones advanceHead
  dsimp only
  rw [hq]
  dsimp only
  constructor
  · have hsorted := h.sorted
    rw [hq] at hsorted
    exact hsorted
  · intro other hother
    rcases mem_cons.mp hother with rfl | hin
    · exact h.known entry hmem
    · exact h.known other (hrest other hin)
  · intro n hn other hother
    rcases mem_append.mp hn with hbefore | hnow
    · rcases mem_cons.mp hother with rfl | hin
      · rcases h.started n hbefore entry hmem with ⟨hle, -⟩
        exact ⟨hle, fun _ => Nat.lt_of_lt_of_le hpos (Nat.le_add_left _ _)⟩
      · exact h.started n hbefore other (hrest other hin)
    · rw [mem_singleton.mp hnow]
      rcases mem_cons.mp hother with rfl | hin
      · exact ⟨Nat.le_refl _, fun _ => Nat.lt_of_lt_of_le hpos (Nat.le_add_left _ _)⟩
      · have hless := hlt other hin
        exact ⟨hless.le, fun heq => absurd heq (Nat.ne_of_lt hless)⟩
  · intro n tones hsent
    rcases mem_append.mp hsent with hbefore | hnow
    · rcases h.sent n tones hbefore with ⟨hless, hle⟩
      refine ⟨hless, ?_⟩
      intro other hother
      rcases mem_cons.mp hother with rfl | hin
      · exact hle entry hmem
      · exact hle other (hrest other hin)
    · have heq : ToneEvent.sent n tones = .sent entry.userData entry.chunk :=
        mem_singleton.mp hnow
      injection heq with hnum htones
      rw [hnum]
      refine ⟨h.lt_length hmem, ?_⟩
      intro other hother
      rcases mem_cons.mp hother with rfl | hin
      · exact Nat.le_refl _
      · exact (hlt other hin).le
  · intro other hother
    rcases mem_cons.mp hother with rfl | hin
    · exact hself
    · rw [hplayed, if_neg (Nat.ne_of_lt (hlt other hin)), append_nil]
      exact h.played other (hrest other hin)
  · intro n toneStr hn
    by_cases hnum : entry.userData = n
    · rw [← hnum, h.known entry hmem, Option.some.injEq] at hn
      rw [← hnum, hself, ← hn]
      exact tonesOf_take _ _
    · rw [hplayed, if_neg hnum, append_nil]
      exact h.tones n toneStr hn
  · intro n toneStr hn hcalled
    have hbefore : .called n false ∈ s.log := by simpa using hcalled
    have hnum : entry.userData ≠ n := by
      intro heq
      have hopen := h.not_ended hmem _ hbefore
      simp [ToneEvent.ends, heq] at hopen
    rw [hplayed, if_neg hnum, append_nil]
    exact h.complete n toneStr hn hbefore
  · intro n tones hsent
    rcases mem_append.mp hsent with hbefore | hnow
    · exact h.chunks n tones hbefore
    · have heq : ToneEvent.sent n tones = .sent entry.userData entry.chunk :=
        mem_singleton.mp hnow
      injection heq with _ htones
      rw [htones]
      exact length_take_le _ _
  · rw [filterMap_append]
    apply pairwise_append.mpr
    refine ⟨h.ordered, pairwise_singleton _ _, ?_⟩
    intro n hn m hm
    have hm' : m = entry.userData := by simpa [ToneEvent.player] using hm
    rcases mem_filterMap.mp hn with ⟨e, he, hplayer⟩
    cases e with
    | sent k tones =>
      cases hplayer
      rw [hm']
      exact (h.sent n tones he).2 entry hmem
    | failed k => cases hplayer
    | called k error => cases hplayer
    | cancelled k => cases hplayer
  · intro n
    have honce := h.once n
    rw [hq] at honce
    rw [countP_append]
    exact honce
  · intro n hcalled
    have hbefore : .called n true ∈ s.log := by simpa using hcalled
    exact mem_append_left _ (h.errors n hbefore)

lemma answered (h : Core s) (i userData : ℕ) (error : Bool) :
    Core { s with
      requests := s.requests.eraseIdx i
      log := if error then s.log ++ [.failed userData] else s.log } := by
  have hrequests : ∀ n ∈ s.requests.eraseIdx i, n ∈ s.requests := fun n hn =>
    mem_of_mem_eraseIdx hn
  cases error with
  | false => exact ⟨h.sorted, h.known, fun n hn => h.started n (hrequests n hn), h.sent,
      h.played, h.tones, h.complete, h.chunks, h.ordered, h.once, h.errors⟩
  | true =>
    have hplayed : ∀ n, playedOf (s.log ++ [.failed userData]) n = playedOf s.log n := by
      intro n
      rw [playedOf_snoc]
      exact append_nil _
    show Core { s with requests := _, log := s.log ++ [.failed userData] }
    constructor
    · exact h.sorted
    · exact h.known
    · intro n hn
      exact h.started n (hrequests n hn)
    · intro n tones hsent
      exact h.sent n tones (by simpa using hsent)
    · intro entry hmem
      rw [hplayed]
      exact h.played entry hmem
    · intro n toneStr hn
      rw [hplayed]
      exact h.tones n toneStr hn
    · intro n toneStr hn hcalled
      rw [hplayed]
      exact h.complete n toneStr hn (by simpa using hcalled)
    · intro n tones hsent
      exact h.chunks n tones (by simpa using hsent)
    · rw [filterMap_append]
      show (_ ++ []).Pairwise _
      rw [append_nil]
      exact h.ordered
    · intro n
      have honce := h.once n
      rw [countP_append]
      exact honce
    · intro n hcalled
      exact mem_append_left _ (h.errors n (by simpa using hcalled))

lemma dropEntry (h : Core s) {i : ℕ} (hi : s.toneq[i]? = some entry) :
    Core (dropEntry s i entry) := by
  have hmem : entry ∈ s.toneq := mem_of_getElem? hi
  have hrest : ∀ other ∈ s.toneq.eraseIdx i, other ∈ s.toneq := fun other hother =>
    mem_of_mem_eraseIdx hother
  have hplayed : ∀ n, playedOf (s.log ++ [.cancelled entry.userData]) n = playedOf s.log n := by
    intro n
    rw [playedOf_snoc]
    exact append_nil _
  have hsplit : s.toneq = s.toneq.take i ++ entry :: s.toneq.drop (i + 1) := by
    rcases List.getElem?_eq_some_iff.mp hi with ⟨hlt, heq⟩
    rw [← heq, getElem_cons_drop, take_append_drop]
  unfold ToneState.dropEntry
  constructor
  · have hsub : (s.toneq.eraseIdx i).Sublist s.toneq := eraseIdx_sublist _ _
    exact h.sorted.sublist (hsub.map _)
  · intro other hother
    exact h.known other (hrest other hother)
  · intro n hn other hother
    exact h.started n hn other (hrest other hother)
  · intro n tones hsent
    rcases h.sent n tones (by simpa using hsent) with ⟨hlt, hle⟩
    exact ⟨hlt, fun other hother => hle other (hrest other hother)⟩
  · intro other hother
    rw [hplayed]
    exact h.played other (hrest other hother)
  · intro n toneStr hn
    rw [hplayed]
    exact h.tones n toneStr hn
  · intro n toneStr hn hcalled
    rw [hplayed]
    exact h.complete n toneStr hn (by simpa using hcalled)
  · intro n tones hsent
    exact h.chunks n tones (by simpa using hsent)
  · rw [filterMap_append]
    show (_ ++ []).Pairwise _
    rw [append_nil]
    exact h.ordered
  · intro n
    have honce := h.once n
    rw [hsplit, map_append, count_append, map_cons, count_cons] at honce
    rw [countP_append, countP_singleton, eraseIdx_eq_take_drop_succ,
      map_append, count_append, ← honce]
    show _ + (if decide (entry.userData = n) = true then 1 else 0) + _ = _
    by_cases hn : entry.userData = n
    · simp [hn]
      omega
    · simp [hn]
  · intro n hcalled
    exact mem_append_left _ (h.errors n (by simpa using hcalled))

lemma pushTones (h : Core s) (toneStr : List Char)
    (hstarted : ∀ n ∈ s.requests, n < s.queued.length) : Core (pushTones s toneStr) := by
  have hmem : ∀ other ∈ s.toneq ++ [⟨toneStr, 0, s.queued.length, nextId s.toneq⟩],
      other ∈ s.toneq ∨ (other.userData = s.queued.length ∧ other.toneStr = toneStr ∧
        other.pos = 0) := by
    intro other hother
    rcases mem_append.mp hother with hbefore | hnow
    · exact .inl hbefore
    · rw [mem_singleton.mp hnow]
      exact .inr ⟨rfl, rfl, rfl⟩
  have hold : ∀ n str, (s.queued ++ [toneStr])[n]? = some str →
      s.queued[n]? = some str ∨ n = s.queued.length := by
    intro n str hn
    by_cases hlt : n < s.queued.length
    · rw [getElem?_append_left hlt] at hn
      exact .inl hn
    · have hle := (List.getElem?_eq_some_iff.mp hn).1
      rw [length_append, length_singleton] at hle
      exact .inr (by omega)
  have hnone : ∀ tones, .sent s.queued.length tones ∉ s.log := fun tones hsent =>
    Nat.lt_irrefl _ (h.sent _ tones hsent).1
  have hfresh := h.once s.queued.length
  rw [if_neg (Nat.lt_irrefl _)] at hfresh
  unfold ToneState.pushTones
  constructor
  · rw [map_append, pairwise_append]
    refine ⟨h.sorted, pairwise_singleton _ _, ?_⟩
    intro n hn m hm
    rcases mem_map.mp hn with ⟨other, hother, rfl⟩
    rw [map_singleton, mem_singleton] at hm
    rw [hm]
    exact h.lt_length hother
  · intro other hother
    rcases hmem other hother with hbefore | ⟨hnum, hstr, -⟩
    · exact getElem?_append_left (h.lt_length hbefore) ▸ h.known other hbefore
    · rw [hnum, hstr]
      exact getElem?_concat_length
  · intro n hn other hother
    rcases hmem other hother with hbefore | ⟨hnum, -, -⟩
    · exact h.started n hn other hbefore
    · have hlt := hstarted n hn
      rw [hnum]
      exact ⟨hlt.le, fun heq => absurd heq (Nat.ne_of_lt hlt)⟩
  · intro n tones hsent
    rcases h.sent n tones hsent with ⟨hlt, hle⟩
    refine ⟨?_, ?_⟩
    · rw [length_append]
      exact Nat.lt_add_right _ hlt
    · intro other hother
      rcases hmem other hother with hbefore | ⟨hnum, -, -⟩
      · exact hle other hbefore
      · rw [hnum]
        exact hlt.le
  · intro other hother
    rcases hmem other hother with hbefore | ⟨hnum, -, hpos⟩
    · exact h.played other hbefore
    · rw [hnum, hpos, playedOf_eq_nil hnone]
      rfl
  · intro n str hn
    rcases hold n str hn with hbefore | hnum
    · exact h.tones n str hbefore
    · rw [hnum, playedOf_eq_nil hnone]
      exact List.nil_prefix
  · intro n str hn hcalled
    rcases hold n str hn with hbefore | hnum
    · exact h.complete n str hbefore hcalled
    · have hzero : s.log.countP (ToneEvent.ends s.queued.length) = 0 := by omega
      rw [hnum] at hcalled
      have hopen := countP_eq_zero.mp hzero _ hcalled
      simp [ToneEvent.ends] at hopen
  · exact h.chunks
  · exact h.ordered
  · intro n
    have honce := h.once n
    rw [map_append, count_append, length_append, length_singleton,
      ← Nat.add_assoc, honce, map_singleton, count_singleton]
    grind
  · exact h.errors

end Core

/-! ## The steps of a run -/

section Steps

variable {s : ToneState}

lemma addToneSource_core (h : Core s) : Core (addToneSource s) := h.of_eq rfl rfl rfl rfl

variable {error : Bool}

lemma Core.toneRequestCb (h : Core s) (herror : error = true → ∀ entry, s.toneq.head? = some entry →
    0 < entry.pos → .failed entry.userData ∈ s.log) : Core (toneRequestCb s error) := by
  unfold ToneState.toneRequestCb
  split
  · exact h
  · next entry rest hq =>
      split
      · next hfail =>
          apply addToneSource_core
          refine h.finishHead hq (fun hok => nomatch hok) (fun _ => ?_)
          exact herror hfail.1 entry (by rw [hq]; rfl) hfail.2
      · split
        · next hleft =>
            apply addToneSource_core
            exact h.finishHead hq (fun _ => hleft) (fun hbad => nomatch hbad)
        · exact addToneSource_core (h.advancePauses hq)

lemma FailedGone.toneRequestCb (h : Core s) (hfailed : ∀ n, .failed n ∈ s.log → ∀ entry ∈ s.toneq,
    n < entry.userData ∨ (error = true ∧ 0 < entry.pos ∧ s.toneq.head? = some entry)) :
    FailedGone (toneRequestCb s error) := by
  unfold ToneState.toneRequestCb
  split
  · next hq =>
      intro n _ entry hentry
      rw [hq] at hentry
      cases hentry
  · next entry rest hq =>
      have hhead : s.toneq.head? = some entry := by
        rw [hq]
        rfl
      -- an entry behind the head is not the head
      have hbehind : ∀ n, .failed n ∈ s.log → ∀ other ∈ rest, n < other.userData := by
        intro n hn other hother
        rcases hfailed n hn other (hq ▸ mem_cons_of_mem entry hother) with
          hlt | ⟨-, -, hsame⟩
        · exact hlt
        · rw [hhead, Option.some.injEq] at hsame
          have hlt := h.head_lt hq other hother
          rw [hsame] at hlt
          exact absurd hlt (Nat.lt_irrefl _)
      have hfinish : ∀ result, FailedGone (addToneSource (finishHead s result)) := by
        intro result n hn other hother
        unfold finishHead at hn hother
        rw [hq] at hn hother
        refine hbehind n ?_ other hother
        rcases mem_append.mp hn with hbefore | hnow
        · exact hbefore
        · cases mem_singleton.mp hnow
      split
      · exact hfinish true
      · next hgood =>
          split
          · exact hfinish false
          · intro n hn other hother
            unfold advanceHead at hn hother
            rw [hq] at hn hother
            rcases mem_cons.mp hother with rfl | hin
            · rcases hfailed n hn entry (hq ▸ mem_cons_self) with hlt | ⟨herror, hpos, -⟩
              · exact hlt
              · exact absurd ⟨herror, hpos⟩ hgood
            · exact hbehind n hn other hin

lemma toneRequestCb_frame (s : ToneState) (error : Bool) :
    (toneRequestCb s error).requests = s.requests ∧ (toneRequestCb s error).queued = s.queued ∧
    ((toneRequestCb s error).toneq ≠ [] → (toneRequestCb s error).timers ≠ []) := by
  unfold toneRequestCb
  split
  · next hq => exact ⟨rfl, rfl, fun hne => absurd hq hne⟩
  · next entry rest hq =>
      have hfinish : ∀ result, (finishHead s result).requests = s.requests ∧
          (finishHead s result).queued = s.queued := by
        intro result
        unfold finishHead
        rw [hq]
        exact ⟨rfl, rfl⟩
      split
      · exact ⟨(hfinish true).1, (hfinish true).2, fun _ => cons_ne_nil _ _⟩
      · split
        · exact ⟨(hfinish false).1, (hfinish false).2, fun _ => cons_ne_nil _ _⟩
        · refine ⟨?_, ?_, fun _ => cons_ne_nil _ _⟩
          all_goals
            unfold advanceHead
            rw [hq]
            rfl

lemma Core.toneRequestRun (h : Core s) : Core (toneRequestRun s) := by
  unfold ToneState.toneRequestRun
  split
  · exact h.of_eq rfl rfl rfl rfl
  · next entry rest hq =>
      have hsame : Core { s with toneSource := 0 } := h.of_eq rfl rfl rfl rfl
      split
      · exact hsame.toneRequestCb fun hbad => nomatch hbad
      · next hchunk => exact hsame.sendTones hq hchunk

lemma FailedGone.toneRequestRun (h : Core s) (hfailed : FailedGone s) :
    FailedGone (toneRequestRun s) := by
  unfold ToneState.toneRequestRun
  split
  · exact hfailed
  · next entry rest hq =>
      have hsame : Core { s with toneSource := 0 } := h.of_eq rfl rfl rfl rfl
      split
      · exact .toneRequestCb hsame fun n hn other hother => .inl (hfailed n hn other hother)
      · intro n hn other hother
        unfold ToneState.sendTones advanceHead at hn hother
        dsimp only at hn hother
        rw [hq] at hn hother
        have hbefore : .failed n ∈ s.log := by simpa using hn
        rcases mem_cons.mp hother with rfl | hin
        · exact hfailed n hbefore entry (hq ▸ mem_cons_self)
        · exact hfailed n hbefore other (hq ▸ mem_cons_of_mem entry hin)

/-- A run that does not send leaves the requests alone, one that does adds one. -/
lemma toneRequestRun_requests (s : ToneState) : (¬ Sends s.toneq → (toneRequestRun s).requests =
    s.requests) ∧ (Sends s.toneq → ∃ entry ∈ s.toneq, (toneRequestRun s).requests = s.requests ++
    [entry.userData]) ∧ (toneRequestRun s).queued = s.queued := by
  unfold toneRequestRun
  split
  · next hq => exact ⟨fun _ => rfl, fun hs => absurd hs (by rw [hq]; exact id), rfl⟩
  · next entry rest hq =>
      split
      · next hchunk =>
          rcases toneRequestCb_frame { s with toneSource := 0 } false with ⟨hreq, hqueued, -⟩
          refine ⟨fun _ => hreq, fun hs => ?_, hqueued⟩
          rw [hq] at hs
          exact absurd hchunk hs
      · next hchunk =>
          have hsent : (ToneState.sendTones { s with toneSource := 0 } entry).requests =
              s.requests ++ [entry.userData] ∧
              (ToneState.sendTones { s with toneSource := 0 } entry).queued = s.queued := by
            unfold ToneState.sendTones advanceHead
            dsimp only
            rw [hq]
            exact ⟨rfl, rfl⟩
          refine ⟨fun hs => ?_, fun _ => ⟨entry, hq ▸ mem_cons_self, hsent.1⟩, hsent.2⟩
          rw [hq] at hs
          exact absurd hchunk hs

lemma toneRequestRun_of_not_sends (hs : ¬ Sends s.toneq) :
    toneRequestRun s = toneRequestCb { s with toneSource := 0 } false := by
  unfold toneRequestRun
  split
  · next hq =>
      unfold toneRequestCb
      dsimp only
      rw [hq]
  · next entry rest hq =>
      rw [hq] at hs
      exact if_pos (not_not.mp hs)

lemma toneRequestRun_going (s : ToneState) (hne : (toneRequestRun s).toneq ≠ []) :
    (toneRequestRun s).timers ≠ [] ∨ (toneRequestRun s).requests ≠ [] := by
  by_cases hs : Sends s.toneq
  · right
    rcases (toneRequestRun_requests s).2.1 hs with ⟨entry, -, heq⟩
    rw [heq]
    exact append_ne_nil_of_right_ne_nil _ (cons_ne_nil _ _)
  · left
    rw [toneRequestRun_of_not_sends hs] at hne ⊢
    exact (toneRequestCb_frame _ _).2.2 hne

lemma failed_of_toneRequestCb {n : ℕ}
    (h : .failed n ∈ (toneRequestCb s error).log) : .failed n ∈ s.log := by
  have hfinish : ∀ result, .failed n ∈ (finishHead s result).log → .failed n ∈ s.log := by
    intro result hmem
    unfold finishHead at hmem
    split at hmem
    · exact hmem
    · simpa using hmem
  unfold toneRequestCb at h
  split at h
  · exact h
  · next entry rest hq =>
      split at h
      · exact hfinish true h
      · split at h
        · exact hfinish false h
        · unfold advanceHead at h
          rw [hq] at h
          exact h

lemma failed_of_toneRequestRun {n : ℕ} (h : .failed n ∈ (toneRequestRun s).log) :
    .failed n ∈ s.log := by
  by_cases hs : Sends s.toneq
  · unfold toneRequestRun at h
    split at h
    · exact h
    · next entry rest hq =>
        split at h
        · exact failed_of_toneRequestCb (s := { s with toneSource := 0 }) h
        · unfold ToneState.sendTones advanceHead at h
          dsimp only at h
          rw [hq] at h
          simpa using h
  · rw [toneRequestRun_of_not_sends hs] at h
    exact failed_of_toneRequestCb (s := { s with toneSource := 0 }) h

end Steps

/-! ## Runs -/

/-- What every input preserves. -/
structure Inv (s : ToneState) : Prop where
  core : Core s
  failed : FailedGone s
  failedKnown : ∀ n, .failed n ∈ s.log → n < s.queued.length
  asked : ∀ n ∈ s.requests, n < s.queued.length
  oneRequest : s.requests.length ≤ 1
  going : s.toneq ≠ [] → s.timers ≠ [] ∨ s.requests ≠ []

lemma start_inv : Inv start := by
  constructor
  · constructor
    all_goals simp [start, playedOf]
  · intro n hn
    cases hn
  · intro n hn
    cases hn
  · intro n hn
    cases hn
  · exact Nat.zero_le 1
  · intro hne
    exact absurd rfl hne

namespace Inv

variable {s t : ToneState}

lemma good (h : Inv s) : Good s :=
  ⟨h.oneRequest, h.core.tones, h.core.complete, h.core.chunks, h.core.ordered, h.core.once,
    h.core.errors, h.going⟩

lemma toneQueue (h : Inv s) (toneStr : List Char) : Inv (toneQueue s toneStr) := by
  unfold ToneState.toneQueue
  split
  · have hcore := h.core.pushTones toneStr h.asked
    have hfailed : FailedGone (pushTones s toneStr) := by
      intro n hn entry hentry
      rcases mem_append.mp hentry with hbefore | hnow
      · exact h.failed n hn entry hbefore
      · rw [mem_singleton.mp hnow]
        exact h.failedKnown n hn
    have hgrows : ∀ n, n < s.queued.length → n < (s.queued ++ [toneStr]).length := by
      intro n hn
      rw [length_append]
      exact Nat.lt_add_right _ hn
    have hknown : ∀ n, .failed n ∈ s.log → n < (s.queued ++ [toneStr]).length := fun n hn =>
      hgrows n (h.failedKnown n hn)
    have hasked : ∀ n ∈ s.requests, n < (s.queued ++ [toneStr]).length := fun n hn =>
      hgrows n (h.asked n hn)
    split
    · exact ⟨hcore.of_eq rfl rfl rfl rfl, hfailed, hknown, hasked, h.oneRequest,
        fun _ => .inl (cons_ne_nil _ _)⟩
    · next hlength =>
        refine ⟨hcore, hfailed, hknown, hasked, h.oneRequest, fun _ => h.going ?_⟩
        intro hnil
        apply hlength
        show (s.toneq ++ [_]).length = 1
        rw [hnil]
        rfl
  · exact h

lemma run (hcore : Core s) (hfailed : FailedGone s) (hknown : ∀ n, .failed n ∈ s.log → n <
    s.queued.length) (hasked : ∀ n ∈ s.requests, n < s.queued.length) (hone : s.requests.length ≤ 1)
    (hsends : Sends s.toneq → s.requests = []) : Inv (toneRequestRun s) := by
  rcases toneRequestRun_requests s with ⟨hsame, hmore, hqueued⟩
  refine ⟨hcore.toneRequestRun, .toneRequestRun hcore hfailed, ?_, ?_, ?_, toneRequestRun_going s⟩
  · intro n hn
    rw [hqueued]
    exact hknown n (failed_of_toneRequestRun hn)
  · intro n hn
    rw [hqueued]
    by_cases hs : Sends s.toneq
    · rcases hmore hs with ⟨entry, hmem, heq⟩
      rw [heq] at hn
      rcases mem_append.mp hn with hbefore | hnow
      · exact hasked n hbefore
      · rw [mem_singleton.mp hnow]
        exact hcore.lt_length hmem
    · rw [hsame hs] at hn
      exact hasked n hn
  · by_cases hs : Sends s.toneq
    · rcases hmore hs with ⟨entry, -, heq⟩
      rw [heq, hsends hs]
      exact Nat.le_refl 1
    · rw [hsame hs]
      exact hone

lemma run_bad (hs : Sends s.toneq) (hrequests : s.requests ≠ []) : ¬ Good (toneRequestRun s) := by
  intro hgood
  rcases (toneRequestRun_requests s).2.1 hs with ⟨entry, -, heq⟩
  have hone := hgood.oneRequest
  rw [heq, length_append, length_singleton] at hone
  have hpos := length_pos_iff.mpr hrequests
  omega

lemma timer (h : Inv s) (id : ℕ) (hsends : Sends s.toneq → s.requests = []) :
    Inv (toneRequestRun { s with timers := s.timers.erase id }) :=
  run (s := { s with timers := s.timers.erase id }) (h.core.of_eq rfl rfl rfl rfl) h.failed
    h.failedKnown h.asked h.oneRequest hsends

lemma replied (h : Inv s) {i userData : ℕ} {error : Bool} (hi : s.requests[i]? = some userData)
    (hown : error = true → ∀ entry, s.toneq.head? = some entry → 0 < entry.pos →
      userData = entry.userData) : Inv (replied s i userData error) := by
  have hmem : userData ∈ s.requests := mem_of_getElem? hi
  have hcore := h.core.answered i userData error
  rcases toneRequestCb_frame { s with
    requests := s.requests.eraseIdx i
    log := if error then s.log ++ [.failed userData] else s.log } error with
    ⟨hrequests, hqueued, htimers⟩
  have hlog : ∀ n, .failed n ∈ (if error then s.log ++ [.failed userData] else s.log) →
      .failed n ∈ s.log ∨ (error = true ∧ n = userData) := by
    intro n hn
    cases error with
    | false => exact .inl hn
    | true =>
      rcases mem_append.mp hn with hbefore | hnow
      · exact .inl hbefore
      · right
        have heq : ToneEvent.failed n = .failed userData := mem_singleton.mp hnow
        injection heq with hnum
        exact ⟨rfl, hnum⟩
  unfold ToneState.replied
  refine ⟨hcore.toneRequestCb ?_, .toneRequestCb hcore ?_, ?_, ?_, ?_, fun hne => .inl (htimers hne)⟩
  · intro herror entry hhead hpos
    rw [if_pos herror, hown herror entry hhead hpos]
    exact mem_append_right _ (mem_singleton_self _)
  · intro n hn entry hentry
    rcases hlog n hn with hbefore | ⟨herror, hnum⟩
    · exact .inl (h.failed n hbefore entry hentry)
    · rcases h.core.started userData hmem entry hentry with ⟨hle, hpos⟩
      by_cases hsame : userData = entry.userData
      · right
        refine ⟨herror, hpos hsame, ?_⟩
        -- the entry of a request in flight is the head of the queue
        rcases hq : s.toneq with _ | ⟨head, rest⟩
        · rw [hq] at hentry
          cases hentry
        · rw [hq] at hentry
          rcases mem_cons.mp hentry with rfl | hin
          · rfl
          · have hlt := h.core.head_lt hq entry hin
            have hle' := (h.core.started userData hmem head (hq ▸ mem_cons_self)).1
            omega
      · left
        rw [hnum]
        omega
  · intro n hn
    rw [hqueued]
    rcases hlog n (failed_of_toneRequestCb hn) with hbefore | ⟨-, hnum⟩
    · exact h.failedKnown n hbefore
    · rw [hnum]
      exact h.asked userData hmem
  · intro n hn
    rw [hrequests] at hn
    rw [hqueued]
    exact h.asked n (mem_of_mem_eraseIdx hn)
  · rw [hrequests]
    exact (length_eraseIdx_le _ _).trans h.oneRequest

lemma dropEntry (h : Inv s) {i : ℕ} {entry : ToneQueueEntry} (hi : s.toneq[i]? = some entry) :
    Inv (dropEntry s i entry) := by
  have hlog : ∀ n, .failed n ∈ (ToneState.dropEntry s i entry).log → .failed n ∈ s.log := by
    intro n hn
    have hn' : .failed n ∈ s.log ++ [.cancelled entry.userData] := hn
    simpa using hn'
  refine ⟨h.core.dropEntry hi, ?_, ?_, h.asked, h.oneRequest, ?_⟩
  · intro n hn other hother
    exact h.failed n (hlog n hn) other (mem_of_mem_eraseIdx hother)
  · intro n hn
    exact h.failedKnown n (hlog n hn)
  · intro hne
    apply h.going
    intro hnil
    apply hne
    show s.toneq.eraseIdx i = []
    rw [hnil]
    rfl

/-- A cancelled entry is found, and a head that is woken up finds nothing in flight. -/
lemma toneCancel (h : Inv s) {id : Int} (hsound : s.Sound (.cancel id)) :
    ∃ t, toneCancel s id = some t ∧ Inv t := by
  rcases hsound with ⟨i, hi, hsends⟩
  rcases findIdx?_eq_some_iff_getElem.mp hi with ⟨hlt, -, -⟩
  have hget : s.toneq[i]? = some s.toneq[i] := getElem?_eq_getElem hlt
  unfold ToneState.toneCancel
  rw [hi]
  dsimp only
  rw [hget, Option.map_some]
  refine ⟨_, rfl, ?_⟩
  have hdropped := h.dropEntry hget
  split
  · next hhead =>
      rcases hhead with ⟨rfl, hsource⟩
      apply hdropped.timer
      intro hs
      apply hsends rfl hsource
      have htail : (ToneState.dropEntry s 0 s.toneq[0]).toneq = s.toneq.tail :=
        eraseIdx_zero
      rw [← htail]
      exact hs
  · exact hdropped

end Inv

/-! ## Whole runs -/

variable {s t : ToneState}

lemma step_sound (h : Inv s) (i : ToneInput) (hsound : s.Sound i) :
    ∃ t, step s i = some t ∧ Inv t := by
  cases i with
  | queue toneStr => exact ⟨_, rfl, h.toneQueue toneStr⟩
  | cancel id => exact h.toneCancel hsound
  | reply i error =>
    dsimp only [step]
    split
    · exact ⟨s, rfl, h⟩
    · next userData hi =>
        exact ⟨_, rfl, h.replied hi fun herror => hsound herror userData hi⟩
  | timer id =>
    dsimp only [step]
    split
    · next hid => exact ⟨_, rfl, h.timer id (hsound hid)⟩
    · exact ⟨s, rfl, h⟩

lemma replied_bad (h : Inv s) {i userData : ℕ} {entry : ToneQueueEntry}
    (hhead : s.toneq.head? = some entry) (hpos : 0 < entry.pos)
    (hother : userData ≠ entry.userData) : ¬ Good (replied s i userData true) := by
  intro hgood
  rcases hq : s.toneq with _ | ⟨head, rest⟩
  · rw [hq] at hhead
    cases hhead
  · rw [hq] at hhead
    cases hhead
    have hlog : (replied s i userData true).log =
        (s.log ++ [.failed userData]) ++ [.called entry.userData true] := by
      unfold replied toneRequestCb
      dsimp only
      rw [hq]
      dsimp only
      rw [if_pos ⟨rfl, hpos⟩]
      unfold finishHead
      rfl
    have hcalled := hgood.errors entry.userData
    rw [hlog] at hcalled
    have hfailed := hcalled (mem_append_right _ (mem_singleton_self _))
    have hcases : .failed entry.userData ∈ s.log ∨ entry.userData = userData := by
      simpa using hfailed
    rcases hcases with hbefore | hsame
    · exact absurd (h.failed _ hbefore entry (hq ▸ mem_cons_self)) (Nat.lt_irrefl _)
    · exact hother hsame.symm

lemma step_unsound (h : Inv s) (i : ToneInput) (hmissed : ¬ s.Sound i)
    (hstep : step s i = some t) : ¬ Good t := by
  cases i with
  | queue toneStr => exact absurd trivial hmissed
  | cancel id =>
    dsimp only [step, toneCancel] at hstep
    split at hstep
    · cases hstep
    · next i hi =>
        rcases Option.map_eq_some_iff.mp hstep with ⟨entry, hget, rfl⟩
        have hbad : ¬ (i = 0 → s.toneSource ≠ 0 → Sends s.toneq.tail → s.requests = []) :=
          fun hs => hmissed ⟨i, hi, hs⟩
        simp only [Classical.not_imp] at hbad
        rcases hbad with ⟨rfl, hsource, hs, hrequests⟩
        rw [if_pos ⟨rfl, hsource⟩]
        apply Inv.run_bad
        · show Sends (s.toneq.eraseIdx 0)
          rw [eraseIdx_zero]
          exact hs
        · exact hrequests
  | reply i error =>
    dsimp only [step] at hstep
    simp only [Sound, Classical.not_imp, not_forall] at hmissed
    rcases hmissed with ⟨herror, userData, hi, entry, hhead, hpos, hother⟩
    rw [hi, herror] at hstep
    cases hstep
    exact replied_bad h hhead hpos hother
  | timer id =>
    dsimp only [step] at hstep
    simp only [Sound, Classical.not_imp] at hmissed
    rcases hmissed with ⟨hid, hs, hrequests⟩
    rw [if_pos hid] at hstep
    cases hstep
    exact Inv.run_bad hs hrequests

/-- Whatever comes to the tone queue: at most one request is in flight, the tones of an entry are
played in its turn and all of them before its callback reports success, every entry has one end,
an error is reported for failed requests of its own, and nothing that is not there is cancelled,
exactly if every input is sound. -/
theorem tone_queue_iff (inputs : List ToneInput) :
    Machine.Safe step Good start inputs ↔ Machine.EachStep step Sound start inputs :=
  Machine.safe_iff (fun _ h => h.good) (fun _ i h hsound => step_sound h i hsound)
    (fun _ i _ h hmissed hstep => step_unsound h i hmissed hstep) start_inv inputs

/-- A string is cancelled while the driver plays it, and another is queued. -/
def cancelledInFlight : List ToneInput :=
  [.queue ['1'], .timer 1, .cancel 1, .queue ['2'], .timer 2]

/-- The second string is sent though the first request is still in flight. -/
theorem two_requests_in_flight : ¬ ∀ inputs : List ToneInput,
    Machine.Safe step Good start inputs := by
  intro h
  rcases (h cancelledInFlight).finish with ⟨s, hs, hgood⟩
  have hrequests : (Machine.finish step start cancelledInFlight).map (·.requests) =
      some [0, 1] := by
    decide
  rw [hs, Option.map_some, Option.some.injEq] at hrequests
  have hone := hgood.oneRequest
  rw [hrequests] at hone
  exact absurd hone (by decide)

end ToneState

end Phonelets.Voicecall
