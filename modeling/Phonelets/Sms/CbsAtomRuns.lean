import Phonelets.Lib.Requests
import Phonelets.Sms.CbsAtom

/-! # Runs of the cell broadcast atom

`cbs_set_powered_cb` turns `powered` over and answers whatever is pending, also for the topics
that are set after a change of EFcbmid. `OfonoCbs.Sound` says when its calls come back in an
order in which that is right.
-/

namespace Phonelets.Sms

open List Option

namespace OfonoCbs

/-! ## What is promised -/

/-- The value after an answer to a message. -/
def lastPowered (value : Bool) (answered : CbsMessage × CbsReply) : Bool :=
  match answered.1.property, answered.2 with
  | .powered (some value'), .ok => value'
  | _, _ => value

/-- The value of the last request for `Powered` that succeeded, or the stored one. -/
def wanted (stored : Bool) (s : OfonoCbs) : Bool := s.sent.foldl lastPowered stored

/-- The driver is still setting the stored value. -/
def Activating (calls : List CbsDriverCall) : Prop := ∃ call ∈ calls, call.purpose = .activate

/-- What holds after every input; `stored` is the value of `Powered` that the atom found. -/
structure Good (stored : Bool) (s : OfonoCbs) : Prop where
  powered : ¬ Activating s.calls → s.powered = wanted stored s
  storedPowered : ¬ Activating s.calls → s.storedPowered = some s.powered
  storedTopics : s.storedTopics = some (cbsTopicRangesToString s.topics)
  untouched : s.meddled = false
  once : Requests.Accounted (s.sent.map fun answered => answered.1.number)
    (s.pending.toList.map CbsMessage.number) s.received
  served : s.pending ≠ none → s.calls ≠ []

/-! ## What the inputs have to meet -/

/-- `powered` behind a callback. -/
def poweredAfter (s : OfonoCbs) (call : CbsDriverCall) (error : Bool) : Bool :=
  if error = true ∨ call.purpose = .topics then s.powered else !s.powered

/-- What is to be the value of `powered` behind a callback that answers the pending message. -/
def wantedAfter (stored : Bool) (s : OfonoCbs) (error : Bool) : Bool :=
  match s.pending with
  | none => wanted stored s
  | some msg => lastPowered (wanted stored s) (msg, if error then .failed else .ok)

/-- What a reply of the driver to a call has to meet. Topics find their message pending, those
set for EFcbmid are refused while no message is pending, and as soon as the stored value is not
being set any more `powered` comes to the value that it is to have. -/
def ReplySound (stored : Bool) (s : OfonoCbs) (i : ℕ) (call : CbsDriverCall) (error : Bool) : Prop :=
  (call.purpose = .topics → s.pending ≠ none) ∧
    (call.purpose = .update → error = true ∧ s.pending = none) ∧
    (¬ Activating (s.calls.eraseIdx i) →
      poweredAfter s call error = wantedAfter stored s error ∧
        (error = true → s.storedPowered = some s.powered))

/-- What an input has to meet. -/
def Sound (d : CbsDriver) (stored : Bool) (s : OfonoCbs) : CbsInput → Prop
  | .reply i error => ∀ call, s.calls[i]? = some call → ReplySound stored s i call error
  | .efcbmidRead _ _ => s.reads ≠ 0 → s.efcbmidUpdate = true → s.powered = true →
      d.setTopics = true
  | _ => True

/-- The stored topics are in the form in which the atom writes them. -/
def CbsFiles.Written (files : CbsFiles) : Prop :=
  cbsExtractTopicRanges (files.storedTopics.getD []) ≠ [] →
    files.storedTopics =
      some (cbsTopicRangesToString (cbsExtractTopicRanges (files.storedTopics.getD [])))

/-! ## The invariant -/

/-- What every input preserves. -/
structure Inv (d : CbsDriver) (stored : Bool) (s : OfonoCbs) : Prop extends Good stored s where
  activates : Activating s.calls → d.setTopics = true ∧ d.clearTopics = true
  known : ∃ value, s.storedPowered = some value
  files : s.efcbmiContents = [] ∧ s.efcbmirContents = []

lemma Inv.of_eq {d : CbsDriver} {stored : Bool} {s t : OfonoCbs} (h : Inv d stored s)
    (hcalls : t.calls = s.calls) (hpowered : t.powered = s.powered) (hsent : t.sent = s.sent)
    (hstored : t.storedPowered = s.storedPowered) (htopics : t.topics = s.topics)
    (hstoredTopics : t.storedTopics = s.storedTopics) (hmeddled : t.meddled = s.meddled) (hpending :
    t.pending = s.pending) (hreceived : t.received = s.received) (hfiles : t.efcbmiContents =
    s.efcbmiContents ∧ t.efcbmirContents = s.efcbmirContents) : Inv d stored t := by
  have hwanted : wanted stored t = wanted stored s := congrArg (List.foldl lastPowered stored) hsent
  constructor
  · constructor
    · rw [hcalls, hpowered, hwanted]
      exact h.powered
    · rw [hcalls, hpowered, hstored]
      exact h.storedPowered
    · rw [hstoredTopics, htopics]
      exact h.storedTopics
    · rw [hmeddled]
      exact h.untouched
    · rw [hsent, hpending, hreceived]
      exact h.once
    · rw [hpending, hcalls]
      exact h.served
  · rw [hcalls]
    exact h.activates
  · rw [hstored]
    exact h.known
  · rw [hfiles.1, hfiles.2]
    exact h.files

/-! ## Requests -/

section Requests

variable {d : CbsDriver} {stored : Bool} {s : OfonoCbs}

lemma wanted_snoc (stored : Bool) (s : OfonoCbs) (answered : CbsMessage × CbsReply) :
    (s.sent ++ [answered]).foldl lastPowered stored = lastPowered (wanted stored s) answered := by
  rw [foldl_append]
  rfl

lemma lastPowered_of_ne_ok {value : Bool} {msg : CbsMessage} {reply : CbsReply}
    (h : reply ≠ .ok) : lastPowered value (msg, reply) = value := by
  unfold lastPowered
  split
  · next hreply => exact absurd hreply h
  · rfl

lemma Inv.answered (h : Inv d stored s) {t : OfonoCbs} {property : CbsProperty}
    {reply : CbsReply} (hcalls : t.calls = s.calls) (hmeddled : t.meddled = s.meddled)
    (hpending : t.pending = s.pending) (hreceived : t.received = s.received + 1)
    (hsent : t.sent = s.sent ++ [(⟨s.received, property⟩, reply)])
    (hpowered : ¬ Activating s.calls →
      t.powered = lastPowered (wanted stored s) (⟨s.received, property⟩, reply) ∧
        t.storedPowered = some t.powered)
    (htopics : t.storedTopics = some (cbsTopicRangesToString t.topics))
    (hknown : ∃ value, t.storedPowered = some value)
    (hfiles : t.efcbmiContents = s.efcbmiContents ∧ t.efcbmirContents = s.efcbmirContents) :
    Inv d stored t := by
  constructor
  · constructor
    · intro hdone
      rw [hcalls] at hdone
      unfold wanted
      rw [hsent, wanted_snoc]
      exact (hpowered hdone).1
    · intro hdone
      rw [hcalls] at hdone
      exact (hpowered hdone).2
    · exact htopics
    · rw [hmeddled]
      exact h.untouched
    · rw [hsent, hpending, hreceived, map_append]
      exact h.once.answerNew
    · rw [hpending, hcalls]
      exact h.served
  · rw [hcalls]
    exact h.activates
  · exact hknown
  · rw [hfiles.1, hfiles.2]
    exact h.files

lemma Inv.refused (h : Inv d stored s) (property : CbsProperty) {reply : CbsReply} (hreply : reply
    ≠ .ok) : Inv d stored (answer { s with received := s.received + 1 } ⟨s.received, property⟩
    reply) := by
  refine h.answered rfl rfl rfl rfl rfl ?_ h.storedTopics h.known ⟨rfl, rfl⟩
  intro hdone
  rw [lastPowered_of_ne_ok hreply]
  exact ⟨h.powered hdone, h.storedPowered hdone⟩

lemma Inv.waiting (h : Inv d stored s) (hidle : s.pending = none) {t : OfonoCbs} {property :
    CbsProperty} {call : CbsDriverCall} (hpurpose : call.purpose ≠ .activate) (hcalls : t.calls =
    s.calls ++ [call]) (hmeddled : t.meddled = s.meddled) (hpending : t.pending = some ⟨s.received,
    property⟩) (hreceived : t.received = s.received + 1) (hsent : t.sent = s.sent) (hpowered :
    t.powered = s.powered) (hstored : t.storedPowered = s.storedPowered) (htopics : t.topics =
    s.topics) (hstoredTopics : t.storedTopics = s.storedTopics) (hfiles : t.efcbmiContents =
    s.efcbmiContents ∧ t.efcbmirContents = s.efcbmirContents) : Inv d stored t := by
  have hactive : Activating t.calls ↔ Activating s.calls := by
    unfold Activating
    rw [hcalls]
    constructor
    · intro ⟨c, hc, hactivate⟩
      rcases mem_append.mp hc with hbefore | hnew
      · exact ⟨c, hbefore, hactivate⟩
      · rw [mem_singleton.mp hnew] at hactivate
        exact absurd hactivate hpurpose
    · intro ⟨c, hc, hactivate⟩
      exact ⟨c, mem_append_left _ hc, hactivate⟩
  have hwanted : wanted stored t = wanted stored s := congrArg (List.foldl lastPowered stored) hsent
  constructor
  · constructor
    · rw [hactive, hpowered, hwanted]
      exact h.powered
    · rw [hactive, hpowered, hstored]
      exact h.storedPowered
    · rw [hstoredTopics, htopics]
      exact h.storedTopics
    · rw [hmeddled]
      exact h.untouched
    · have honce := h.once
      rw [hidle] at honce
      rw [hsent, hpending, hreceived]
      exact honce.receive
    · intro _
      rw [hcalls]
      exact append_ne_nil_of_right_ne_nil _ (cons_ne_nil _ _)
  · rw [hactive]
    exact h.activates
  · rw [hstored]
    exact h.known
  · rw [hfiles.1, hfiles.2]
    exact h.files

lemma Inv.setTopics (h : Inv d stored s) (hidle : s.pending = none) (value : List Char) :
    Inv d stored (setTopics d { s with received := s.received + 1 } value
      ⟨s.received, .topics (some value)⟩) := by
  unfold OfonoCbs.setTopics
  dsimp only
  split
  · exact h.refused _ (fun hok => nomatch hok)
  · split
    · exact h.refused _ (fun hok => nomatch hok)
    · split
      · refine h.answered rfl rfl hidle.symm rfl rfl ?_ rfl h.known ⟨rfl, rfl⟩
        intro hdone
        exact ⟨h.powered hdone, h.storedPowered hdone⟩
      · exact h.waiting hidle (by intro hactivate; cases hactivate) rfl rfl rfl rfl rfl rfl rfl
          rfl rfl ⟨rfl, rfl⟩

lemma Inv.setPowered (h : Inv d stored s) (hidle : s.pending = none) (value : Bool) :
    Inv d stored (setPowered d { s with received := s.received + 1 } value
      (some ⟨s.received, .powered (some value)⟩)) := by
  unfold OfonoCbs.setPowered
  split
  · next hsame =>
      refine h.answered rfl rfl rfl rfl rfl ?_ h.storedTopics h.known ⟨rfl, rfl⟩
      intro hdone
      exact ⟨hsame, h.storedPowered hdone⟩
  · split
    · refine h.answered rfl rfl rfl rfl rfl ?_ h.storedTopics ⟨value, rfl⟩ ⟨rfl, rfl⟩
      intro _
      exact ⟨rfl, rfl⟩
    · exact h.waiting hidle (by intro hactivate; cases hactivate) rfl rfl rfl rfl rfl rfl rfl rfl
        rfl ⟨rfl, rfl⟩

lemma Inv.setProperty (h : Inv d stored s) (property : CbsProperty) :
    Inv d stored (setProperty d { s with received := s.received + 1 } ⟨s.received, property⟩) := by
  unfold OfonoCbs.setProperty
  split
  · exact h.refused _ (fun hok => nomatch hok)
  · next hpending =>
      have hidle : s.pending = none := not_not.mp hpending
      dsimp only
      split
      · exact h.setPowered hidle _
      · exact h.setTopics hidle _
      · exact h.refused _ (fun hok => nomatch hok)

end Requests

/-! ## Replies of the driver -/

section Replies

variable {d : CbsDriver} {stored : Bool} {s : OfonoCbs} {i : ℕ} {call : CbsDriverCall} {error : Bool}

/-- The state behind a callback. -/
def replied (s : OfonoCbs) (i : ℕ) (call : CbsDriverCall) (error : Bool) : OfonoCbs :=
  if call.purpose = .topics then topicsDone { s with calls := s.calls.eraseIdx i } error
  else setPoweredCb { s with calls := s.calls.eraseIdx i } error

/-- What a callback sends. -/
def replies (s : OfonoCbs) (error : Bool) : List (CbsMessage × CbsReply) :=
  s.pending.toList.map fun msg => (msg, if error then .failed else .ok)

lemma replied_frame (s : OfonoCbs) (i : ℕ) (call : CbsDriverCall) (error : Bool) :
    (replied s i call error).calls = s.calls.eraseIdx i ∧ (replied s i call error).sent =
    s.sent ++ replies s error ∧ (replied s i call error).pending = none ∧
    (replied s i call error).received = s.received ∧ (replied s i call error).powered =
    poweredAfter s call error ∧ (replied s i call error).meddled = s.meddled := by
  unfold replied topicsDone setPoweredCb poweredAfter
  by_cases htopics : call.purpose = .topics
  · cases error <;> simp [htopics, pendingReply, replies]
  · cases error <;> simp [htopics, pendingReply, replies]

lemma replied_stored (s : OfonoCbs) (i : ℕ) (call : CbsDriverCall) (error : Bool) :
    ((replied s i call error).storedPowered = if error = true ∨
    call.purpose = .topics then s.storedPowered else some (replied s i call error).powered) ∧
    (s.storedTopics = some (cbsTopicRangesToString s.topics) → (replied s i call error).storedTopics
    = some (cbsTopicRangesToString (replied s i call error).topics)) := by
  unfold replied topicsDone setPoweredCb
  by_cases htopics : call.purpose = .topics
  · cases error <;> simp [htopics, pendingReply]
  · cases error <;> simp [htopics, pendingReply]

lemma replied_files (s : OfonoCbs) (i : ℕ) (call : CbsDriverCall) (error : Bool) :
    (replied s i call error).efcbmiContents = s.efcbmiContents ∧
      (replied s i call error).efcbmirContents = s.efcbmirContents := by
  unfold replied topicsDone setPoweredCb
  by_cases htopics : call.purpose = .topics
  · cases error <;> simp [htopics, pendingReply]
  · cases error <;> simp [htopics, pendingReply]

lemma wanted_replied (stored : Bool) (s : OfonoCbs) (i : ℕ) (call : CbsDriverCall) (error : Bool) :
    wanted stored (replied s i call error) = wantedAfter stored s error := by
  unfold wanted wantedAfter
  rw [(replied_frame s i call error).2.1, foldl_append, replies]
  cases hpending : s.pending with
  | none => rfl
  | some msg => rfl

/-- A reply that is sound keeps what is promised; for the topics of EFcbmid see below. -/
lemma Inv.replied (h : Inv d stored s) (hcall : s.calls[i]? = some call)
    (hsound : ReplySound stored s i call error) : Inv d stored (replied s i call error) := by
  rcases replied_frame s i call error with
    ⟨hcalls, hsent, hpending, hreceived, hpowered, hmeddled⟩
  rcases replied_stored s i call error with ⟨hstored, hstoredTopics⟩
  have hfiles := replied_files s i call error
  have hactive : Activating (s.calls.eraseIdx i) → Activating s.calls := by
    intro ⟨c, hc, hactivate⟩
    exact ⟨c, mem_of_mem_eraseIdx hc, hactivate⟩
  constructor
  · constructor
    · intro hdone
      rw [hcalls] at hdone
      rw [hpowered, wanted_replied]
      exact (hsound.2.2 hdone).1
    · intro hdone
      rw [hcalls] at hdone
      rw [hstored]
      split
      · next hsame =>
          rw [hpowered, poweredAfter, if_pos hsame]
          by_cases herror : error = true
          · exact (hsound.2.2 hdone).2 herror
          · have htopics : call.purpose = .topics := hsame.resolve_left herror
            -- a reply to topics does not end an activation
            apply h.storedPowered
            intro ⟨c, hc, hactivate⟩
            apply hdone
            refine ⟨c, ?_, hactivate⟩
            rcases mem_iff_getElem.mp hc with ⟨j, hj, hget⟩
            refine mem_eraseIdx_iff_getElem.mpr ⟨j, hj, ?_, hget⟩
            rintro rfl
            rw [getElem?_eq_getElem hj, Option.some.injEq] at hcall
            rw [← hget, hcall, htopics] at hactivate
            cases hactivate
      · rfl
    · exact hstoredTopics h.storedTopics
    · rw [hmeddled]
      exact h.untouched
    · have honce := h.once
      rw [hsent, hpending, hreceived, map_append]
      have hnumbers : (replies s error).map (fun answered => answered.1.number) =
          s.pending.toList.map CbsMessage.number := by
        rw [replies, List.map_map]
        rfl
      rw [hnumbers]
      apply Requests.Accounted.answerAll
      show Requests.Accounted _ (_ ++ []) _
      rw [append_nil]
      exact honce
    · intro hne
      exact absurd hpending hne
  · intro hactivating
    rw [hcalls] at hactivating
    exact h.activates (hactive hactivating)
  · rw [hstored]
    split
    · exact h.known
    · exact ⟨_, rfl⟩
  · rw [hfiles.1, hfiles.2]
    exact h.files

/-- A reply that misses what it has to meet for `powered`. -/
lemma not_good_replied (hmissed : ¬ (¬ Activating (s.calls.eraseIdx i) → poweredAfter s call error =
    wantedAfter stored s error ∧ (error = true → s.storedPowered = some s.powered))) :
    ¬ Good stored (replied s i call error) := by
  intro hgood
  apply hmissed
  intro hdone
  rcases replied_frame s i call error with ⟨hcalls, -, -, -, hpowered, -⟩
  rw [← hcalls] at hdone
  refine ⟨?_, ?_⟩
  · have hwanted := hgood.powered hdone
    rw [hpowered, wanted_replied] at hwanted
    exact hwanted
  · intro herror
    have hstored := hgood.storedPowered hdone
    rw [(replied_stored s i call error).1, if_pos (.inl herror), hpowered, poweredAfter,
      if_pos (.inl herror)] at hstored
    exact hstored

lemma callback_eq (hfound : call.purpose = .topics → s.pending ≠ none) :
    callback { s with calls := s.calls.eraseIdx i } call error = some (replied s i call error) := by
  unfold callback replied
  by_cases htopics : call.purpose = .topics
  · rw [htopics, if_pos rfl]
    exact if_neg (hfound htopics)
  · rw [if_neg htopics]
    split
    · next h => exact absurd h htopics
    · rfl

lemma observe_replied (hpurpose : call.purpose = .update) (herror : error = true) (hidle :
    s.pending = none) : observe { s with calls := s.calls.eraseIdx i } (replied s i call error) =
    replied s i call error := by
  have htopics : call.purpose ≠ .topics := by
    rw [hpurpose]
    intro h
    cases h
  have heq : replied s i call error = { s with calls := s.calls.eraseIdx i } := by
    unfold replied setPoweredCb pendingReply
    rw [if_neg htopics, if_pos herror]
    dsimp only
    rw [hidle]
    show { s with calls := _, pending := none, sent := s.sent ++ [] } = _
    rw [append_nil, ← hidle]
  rw [heq]
  simp [observe]

/-- Topics that are set, or that are refused while a message is pending, are noticed. -/
lemma not_good_observe (hpurpose : call.purpose = .update) (hmissed : ¬
    (error = true ∧ s.pending = none)) : ¬ Good stored (observe s (replied s i call error)) := by
  intro hgood
  have hmeddled : ((replied s i call error).meddled || decide
      ((replied s i call error).powered ≠ s.powered ∨ (replied s i call error).topics ≠ s.topics ∨
        (replied s i call error).sent ≠ s.sent)) = false := hgood.untouched
  rcases replied_frame s i call error with ⟨-, hsent, -, -, hpowered, -⟩
  rw [Bool.or_eq_false_iff, decide_eq_false_iff_not, not_or, not_or] at hmeddled
  rcases hmeddled with ⟨-, hsame, -, hquiet⟩
  apply hmissed
  constructor
  · by_contra herror
    apply hsame
    rw [hpowered, poweredAfter, if_neg]
    · cases s.powered <;> decide
    · rintro (htrue | htopics)
      · exact herror htrue
      · rw [hpurpose] at htopics
        cases htopics
  · by_contra hpending
    apply hquiet
    rw [hsent]
    intro heq
    have hnil : replies s error = [] := append_cancel_left (heq.trans (append_nil _).symm)
    rcases ne_none_iff_exists'.mp hpending with ⟨msg, hmsg⟩
    rw [replies, hmsg] at hnil
    cases hnil

end Replies

/-! ## The file EFcbmid -/

section Efcbmid

variable {d : CbsDriver} {stored : Bool} {s t : OfonoCbs}

lemma observe_of_eq (hpowered : t.powered = s.powered) (htopics : t.topics = s.topics)
    (hsent : t.sent = s.sent) : observe s t = t := by
  have hquiet : decide (t.powered ≠ s.powered ∨ t.topics ≠ s.topics ∨ t.sent ≠ s.sent) = false := by
    apply decide_eq_false
    rintro (h | h | h)
    · exact h hpowered
    · exact h htopics
    · exact h hsent
  unfold observe
  rw [hquiet, Bool.or_false]

lemma Inv.called (h : Inv d stored s) {purpose : CbsPurpose} (hpurpose : purpose ≠ .activate)
    (topics : Option (List Char)) : Inv d stored (call s purpose topics) := by
  have hactive : Activating (s.calls ++ [⟨purpose, topics⟩]) ↔ Activating s.calls := by
    constructor
    · intro ⟨c, hc, hactivate⟩
      rcases mem_append.mp hc with hbefore | hnew
      · exact ⟨c, hbefore, hactivate⟩
      · rw [mem_singleton.mp hnew] at hactivate
        exact absurd hactivate hpurpose
    · intro ⟨c, hc, hactivate⟩
      exact ⟨c, mem_append_left _ hc, hactivate⟩
  constructor
  · constructor
    · intro hdone
      exact h.powered (fun hact => hdone (hactive.mpr hact))
    · intro hdone
      exact h.storedPowered (fun hact => hdone (hactive.mpr hact))
    · exact h.storedTopics
    · exact h.untouched
    · exact h.once
    · intro _
      exact append_ne_nil_of_right_ne_nil _ (cons_ne_nil _ _)
  · intro hact
    exact h.activates (hactive.mp hact)
  · exact h.known
  · exact h.files

lemma optimizeRanges_nil : cbsOptimizeRanges [] = [] := by
  have hfold : ∀ l : List ℕ, l.foldl (optimizeTurn fun _ => false) ([], none) = ([], none) := by
    intro l
    induction l with
    | nil => rfl
    | cons i l ih => exact ih
  unfold cbsOptimizeRanges
  show ((List.range 1000).foldl (optimizeTurn fun _ => false) ([], none)).1 ++ _ = _
  rw [show (fun i => ([] : List CbsTopicRange).any fun range => range.min ≤ i && i ≤ range.max) =
    fun _ => false from rfl, hfold]
  rfl

lemma storedTopics_self {topics : List CbsTopicRange} {text : List Char}
    (htopics : s.topics = topics) (htext : s.storedTopics = some text) :
    { s with topics := topics, storedTopics := some text } = s := by
  cases s
  dsimp only at htopics htext
  subst htopics htext
  rfl

lemma files_self {value : Bool} (hmi : s.efcbmiContents = []) (hmir : s.efcbmirContents = [])
    (hvalue : s.storedPowered = some value) :
    { s with efcbmiContents := [], efcbmirContents := [], storedPowered := some value } = s := by
  cases s
  dsimp only at hmi hmir hvalue
  subst hmi hmir hvalue
  rfl

lemma initialTopics_eq (h : Inv d stored s) : initialTopics s = s := by
  unfold initialTopics
  split
  · next htopics =>
      have hstored := h.storedTopics
      rw [htopics] at hstored
      have hnone : cbsOptimizeRanges (s.efcbmiContents ++ s.efcbmirContents) = [] := by
        rw [h.files.1, h.files.2]
        exact optimizeRanges_nil
      dsimp only
      rw [hnone]
      exact storedTopics_self htopics hstored
  · rfl

/-- The files are taken once more: this does nothing unless the stored value is being set. -/
lemma Inv.gotFileContents (h : Inv d stored s) : Inv d stored (gotFileContents d s) ∧
    (gotFileContents d s).powered = s.powered ∧ (gotFileContents d s).topics = s.topics ∧
    (gotFileContents d s).sent = s.sent := by
  rcases h.known with ⟨value, hvalue⟩
  have hsame : { initialTopics s with
      efcbmiContents := []
      efcbmirContents := []
      storedPowered := some (s.storedPowered.getD true) } = s := by
    rw [initialTopics_eq h, hvalue]
    exact files_self h.files.1 h.files.2 hvalue
  unfold OfonoCbs.gotFileContents
  dsimp only
  rw [hsame, hvalue, getD_some]
  unfold OfonoCbs.setPowered
  split
  · exact ⟨h, rfl, rfl, rfl⟩
  · next hother =>
      split
      · next hlacks =>
          -- without the functions nothing is being set, so `powered` is what is stored
          have hdone : ¬ Activating s.calls := by
            intro hact
            rcases h.activates hact with ⟨hset, hclear⟩
            rcases hlacks with hno | hno
            · rw [hset] at hno
              cases hno
            · rw [hclear] at hno
              cases hno
          have hpowered := h.storedPowered hdone
          rw [hvalue, Option.some.injEq] at hpowered
          exact absurd hpowered.symm hother
      · next hhas =>
          rw [not_or] at hhas
          refine ⟨?_, rfl, rfl, rfl⟩
          have hact : Activating (s.calls ++ [⟨.activate,
              if value then some (topicsToStr s s.topics) else none⟩]) :=
            ⟨_, mem_append_right _ (mem_singleton_self _), rfl⟩
          constructor
          · constructor
            · exact fun hdone => absurd hact hdone
            · exact fun hdone => absurd hact hdone
            · exact h.storedTopics
            · exact h.untouched
            · exact h.once
            · intro _
              exact append_ne_nil_of_right_ne_nil _ (cons_ne_nil _ _)
          · intro _
            exact ⟨eq_true_of_ne_false hhas.1, eq_true_of_ne_false hhas.2⟩
          · exact h.known
          · exact h.files

lemma Inv.readEfcbmid (h : Inv d stored s) (ok : Bool) (data : List UInt8) : Inv d stored
    (readEfcbmid { s with reads := s.reads - 1 } ok data) ∧ (readEfcbmid { s with reads := s.reads -
    1 } ok data).powered = s.powered ∧ (readEfcbmid { s with reads := s.reads - 1 } ok data).topics
    = s.topics ∧ (readEfcbmid { s with reads := s.reads - 1 } ok data).sent = s.sent ∧ (readEfcbmid
    { s with reads := s.reads - 1 } ok data).efcbmidUpdate = s.efcbmidUpdate := by
  unfold OfonoCbs.readEfcbmid
  split
  · exact ⟨h.of_eq rfl rfl rfl rfl rfl rfl rfl rfl rfl ⟨rfl, rfl⟩, rfl, rfl, rfl, rfl⟩
  · split
    · exact ⟨h.of_eq rfl rfl rfl rfl rfl rfl rfl rfl rfl ⟨rfl, rfl⟩, rfl, rfl, rfl, rfl⟩
    · exact ⟨h.of_eq rfl rfl rfl rfl rfl rfl rfl rfl rfl ⟨rfl, rfl⟩, rfl, rfl, rfl, rfl⟩

lemma Inv.simCbmidReadCb (h : Inv d stored s) (ok : Bool) (data : List UInt8) (hsound :
    s.efcbmidUpdate = true → s.powered = true → d.setTopics = true) : ∃ t, simCbmidReadCb d { s with
    reads := s.reads - 1 } ok data = some t ∧ Inv d stored (observe s t) := by
  rcases h.readEfcbmid ok data with ⟨hread, hpowered, htopics, hsent, hupdate⟩
  generalize hr : OfonoCbs.readEfcbmid { s with reads := s.reads - 1 } ok data = r at *
  unfold OfonoCbs.simCbmidReadCb
  rw [hr]
  by_cases hflag : r.efcbmidUpdate = true
  · rw [if_pos hflag]
    unfold efcbmidUpdated
    by_cases hon : r.powered = true
    · rw [if_pos hon, if_pos (hsound (hupdate ▸ hflag) (hpowered ▸ hon))]
      refine ⟨_, rfl, ?_⟩
      have hcalled : Inv d stored (call r .update (some (topicsToStr r r.topics))) :=
        hread.called (by intro hp; cases hp) _
      rw [observe_of_eq]
      · exact hcalled.of_eq rfl rfl rfl rfl rfl rfl rfl rfl rfl ⟨rfl, rfl⟩
      · exact hpowered
      · exact htopics
      · exact hsent
    · rw [if_neg hon]
      refine ⟨_, rfl, ?_⟩
      rw [observe_of_eq]
      · exact hread.of_eq rfl rfl rfl rfl rfl rfl rfl rfl rfl ⟨rfl, rfl⟩
      · exact hpowered
      · exact htopics
      · exact hsent
  · rw [if_neg hflag]
    rcases hread.gotFileContents with ⟨hgot, hpowered', htopics', hsent'⟩
    refine ⟨_, rfl, ?_⟩
    rw [observe_of_eq (hpowered'.trans hpowered) (htopics'.trans htopics) (hsent'.trans hsent)]
    exact hgot

end Efcbmid

/-! ## Runs -/

section Runs

variable {d : CbsDriver} {stored : Bool} {s t : OfonoCbs}

lemma step_sound (h : Inv d stored s) (i : CbsInput) (hsound : Sound d stored s i) :
    ∃ t, step d s i = some t ∧ Inv d stored t := by
  cases i with
  | setProperty property => exact ⟨_, rfl, h.setProperty property⟩
  | reply i error =>
    dsimp only [step]
    split
    · exact ⟨s, rfl, h⟩
    · next call hcall =>
        have hmet := hsound call hcall
        rw [callback_eq hmet.1, map_some]
        refine ⟨_, rfl, ?_⟩
        have hreplied := h.replied hcall hmet
        split
        · next hpurpose =>
            rcases hmet.2.1 hpurpose with ⟨herror, hidle⟩
            have hobserve := observe_replied (i := i) hpurpose herror hidle
            show Inv d stored (observe { s with calls := s.calls.eraseIdx i } _)
            rw [hobserve]
            exact hreplied
        · exact hreplied
  | efcbmidChanged =>
    refine ⟨_, rfl, ?_⟩
    rw [observe_of_eq]
    · exact h.of_eq rfl rfl rfl rfl rfl rfl rfl rfl rfl ⟨rfl, rfl⟩
    · rfl
    · rfl
    · rfl
  | efcbmidRead ok data =>
    dsimp only [step]
    split
    · exact ⟨s, rfl, h⟩
    · next hreads =>
        rcases h.simCbmidReadCb ok data (hsound hreads) with ⟨t, ht, hinv⟩
        rw [ht, map_some]
        exact ⟨_, rfl, hinv⟩

lemma step_unsound (h : Inv d stored s) (i : CbsInput) (hmissed : ¬ Sound d stored s i)
    (hstep : step d s i = some t) : ¬ Good stored t := by
  cases i with
  | setProperty property => exact absurd trivial hmissed
  | reply i error =>
    simp only [Sound, not_forall] at hmissed
    rcases hmissed with ⟨call, hcall, hmissed⟩
    dsimp only [step] at hstep
    rw [hcall] at hstep
    dsimp only at hstep
    by_cases hfound : call.purpose = .topics → s.pending ≠ none
    · rw [callback_eq hfound, map_some, Option.some.injEq] at hstep
      rw [← hstep]
      by_cases hquiet : call.purpose = .update → error = true ∧ s.pending = none
      · have hvalue : ¬ (¬ Activating (s.calls.eraseIdx i) →
            poweredAfter s call error = wantedAfter stored s error ∧
              (error = true → s.storedPowered = some s.powered)) :=
          fun hvalue => hmissed ⟨hfound, hquiet, hvalue⟩
        split
        · next hpurpose =>
            rcases hquiet hpurpose with ⟨herror, hidle⟩
            show ¬ Good stored (observe { s with calls := s.calls.eraseIdx i } _)
            rw [observe_replied hpurpose herror hidle]
            exact not_good_replied hvalue
        · exact not_good_replied hvalue
      · rw [Classical.not_imp] at hquiet
        rw [if_pos hquiet.1]
        exact not_good_observe hquiet.1 hquiet.2
    · rw [Classical.not_imp] at hfound
      have hnone : callback { s with calls := s.calls.eraseIdx i } call error = none := by
        unfold callback
        rw [hfound.1]
        exact if_pos (not_not.mp hfound.2)
      rw [hnone] at hstep
      cases hstep
  | efcbmidChanged => exact absurd trivial hmissed
  | efcbmidRead ok data =>
    simp only [Sound, Classical.not_imp] at hmissed
    rcases hmissed with ⟨hreads, hupdate, hpowered, hlacks⟩
    rcases h.readEfcbmid ok data with ⟨-, hpowered', -, -, hupdate'⟩
    dsimp only [step] at hstep
    rw [if_neg hreads] at hstep
    have hnone : simCbmidReadCb d { s with reads := s.reads - 1 } ok data = none := by
      unfold simCbmidReadCb efcbmidUpdated
      rw [if_pos (hupdate'.trans hupdate), if_pos (hpowered'.trans hpowered), if_neg hlacks]
    rw [hnone] at hstep
    cases hstep

/-- The value of `Powered` that the atom starts with. -/
def CbsFiles.powered (files : CbsFiles) : Bool := files.storedPowered.getD true

lemma start_inv (d : CbsDriver) {files : CbsFiles} (h : files.Written) :
    Inv d files.powered (start d files) := by
  let s : OfonoCbs := initialTopics
    { pending := none
      topics := cbsExtractTopicRanges (files.storedTopics.getD [])
      newTopics := []
      efcbmiContents := files.efcbmiContents
      efcbmirContents := files.efcbmirContents
      efcbmidLength := files.efcbmidLength
      efcbmidContents := files.efcbmidContents
      efcbmidUpdate := files.efcbmidUpdate
      powered := false
      storedPowered := files.storedPowered
      storedTopics := files.storedTopics
      calls := []
      reads := files.reads
      received := 0
      sent := []
      meddled := false }
  have htopics : s.storedTopics = some (cbsTopicRangesToString s.topics) := by
    show (initialTopics _).storedTopics = some (cbsTopicRangesToString (initialTopics _).topics)
    unfold initialTopics
    split
    · rfl
    · next hne => exact h hne
  have hrest : s.calls = [] ∧ s.pending = none ∧ s.sent = [] ∧ s.received = 0 ∧
      s.meddled = false ∧ s.powered = false := by
    show (initialTopics _).calls = [] ∧ (initialTopics _).pending = none ∧
      (initialTopics _).sent = [] ∧ (initialTopics _).received = 0 ∧
      (initialTopics _).meddled = false ∧ (initialTopics _).powered = false
    unfold initialTopics
    split
    · exact ⟨rfl, rfl, rfl, rfl, rfl, rfl⟩
    · exact ⟨rfl, rfl, rfl, rfl, rfl, rfl⟩
  rcases hrest with ⟨hcalls, hpending, hsent, hreceived, hmeddled, hpowered⟩
  have hwanted : ∀ t : OfonoCbs, t.sent = s.sent → wanted files.powered t = files.powered := by
    intro t ht
    unfold wanted
    rw [ht, hsent]
    rfl
  have honce : Requests.Accounted (s.sent.map fun answered => answered.1.number)
      (s.pending.toList.map CbsMessage.number) s.received := by
    rw [hsent, hpending, hreceived]
    exact Requests.accounted_nil
  show Inv d files.powered (setPowered d
    { s with
      efcbmiContents := []
      efcbmirContents := []
      storedPowered := some files.powered } files.powered none)
  unfold OfonoCbs.setPowered
  have hidle : s.pending ≠ none → s.calls ≠ [] := fun hne => absurd hpending hne
  have hnone : ¬ Activating s.calls := by
    rw [hcalls]
    rintro ⟨c, hc, -⟩
    cases hc
  split
  · next hsame =>
      have hvalue : s.powered = files.powered := hsame
      exact ⟨⟨fun _ => hvalue.trans (hwanted _ rfl).symm, fun _ => congrArg some hvalue.symm,
        htopics, hmeddled, honce, hidle⟩, fun hact => absurd hact hnone, ⟨_, rfl⟩, rfl, rfl⟩
  · split
    · exact ⟨⟨fun _ => (hwanted _ rfl).symm, fun _ => rfl, htopics, hmeddled, honce, hidle⟩,
        fun hact => absurd hact hnone, ⟨_, rfl⟩, rfl, rfl⟩
    · next hhas =>
        rw [not_or] at hhas
        have hact : Activating (s.calls ++ [⟨.activate,
            if files.powered then some (topicsToStr s s.topics) else none⟩]) :=
          ⟨_, mem_append_right _ (mem_singleton_self _), rfl⟩
        exact ⟨⟨fun hdone => absurd hact hdone, fun hdone => absurd hact hdone, htopics, hmeddled,
          honce, fun hne => absurd hpending hne⟩,
          fun _ => ⟨eq_true_of_ne_false hhas.1, eq_true_of_ne_false hhas.2⟩, ⟨_, rfl⟩, rfl, rfl⟩

end Runs

end OfonoCbs

end Phonelets.Sms
