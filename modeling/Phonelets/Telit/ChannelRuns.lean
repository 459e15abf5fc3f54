import Phonelets.Telit.Enables

/-! # Runs of the Telit driver

The callbacks of the AT commands, the core, and from them `channels_iff`: nothing goes wrong
in a run exactly if every event is safe in the state it finds.
-/

namespace Phonelets.Telit

open List
open Driver

variable {r : Results} {s : Driver} {k : ℕ}

/-! ## The callbacks of the commands -/

/-- The state in which the callback of a command runs. -/
def answered (c : ℕ) (cmd : AtCommand) (s : Driver) : Driver :=
  { s with pending := s.pending.erase (c, cmd) }

lemma settles_answered (c : ℕ) (cmd : AtCommand) (s : Driver) : Settles s (answered c cmd s) :=
  ⟨rfl, rfl, rfl, rfl, erase_sublist, fun _ h => h, fun _ h => h, fun _ h => h, rfl,
    fun _ h => h⟩

variable {c : ℕ} {cmd : AtCommand}

lemma Tidy.answered (h : Tidy s) (hp : (c, cmd) ∈ s.pending) (hcmd : cmd ≠ .rsenDisable) :
    ∀ p ∈ (answered c cmd s).pending, p.2 = .rsenDisable := by
  have hperm := perm_cons_erase hp
  have hpairs := (hperm.pairwise_iff fun hxy => hxy.symm).mp h.alone
  intro p hmem
  exact ((pairwise_cons.mp hpairs).1 p hmem).resolve_left hcmd

lemma Inv.cfunEnableCb (h : Inv s) (hp : (c, .cfunEnable) ∈ s.pending) (ok : Bool) :
    (Good ((answered c .cfunEnable s).cfunEnableCb ok) ↔ ok = true) ∧
      (ok = true → Inv ((answered c .cfunEnable s).cfunEnableCb ok)) := by
  rcases h.tidy.expected _ hp with ⟨hchat, hup, hrsen, hmodem⟩
  have hinv := h.settles (settles_answered c .cfunEnable s) rfl
  have hidle : Idle (answered c .cfunEnable s) :=
    ⟨h.tidy.answered hp (by simp), hrsen⟩
  cases ok with
  | true =>
    have hresult : Inv ((answered c .cfunEnable s).cfunEnableCb true) := by
      rw [Driver.cfunEnableCb, if_pos rfl]
      split
      · exact hinv.settles (settles_crash _) rfl
      · -- a modem comes on, but no `#RSEN:` is registered
        refine ⟨hinv.good, Idle.tidy hidle, ?_⟩
        exact ⟨hinv.numbered.chat, hinv.numbered.pending, hinv.numbered.sources,
          hinv.numbered.calls⟩
    exact ⟨⟨fun _ => rfl, fun _ => hresult.good⟩, fun _ => hresult⟩
  | false =>
    refine ⟨⟨fun hgood => ?_, fun hok => by cases hok⟩, fun hok => by cases hok⟩
    -- `data->modem` is still there
    rw [Driver.cfunEnableCb, if_neg (by simp), good_enableFailed] at hgood
    have hclear := hgood.1.2.1
    rw [(settles_sapCloseIo _).modem] at hclear
    rcases unref_eq s.chat (answered c .cfunEnable s) with ⟨refs, pending, rsen, heq, _⟩
    have hsame : ((answered c .cfunEnable s).unref s.chat).modem = s.modem := by
      rw [heq]
      rfl
    exact absurd (hsame.symm.trans hclear) hmodem

lemma Inv.rsenEnableCb (h : Inv s) (hp : (c, .rsenEnable) ∈ s.pending) (ok : Bool) :
    (Good ((answered c .rsenEnable s).rsenEnableCb ok) ↔ ok = true) ∧
      (ok = true → Inv ((answered c .rsenEnable s).rsenEnableCb ok)) := by
  rcases h.tidy.expected _ hp with ⟨hchat, hup, hsap⟩
  cases ok with
  | true =>
    have hinv := h.settles (settles_answered c .rsenEnable s) rfl
    exact ⟨⟨fun _ => rfl, fun _ => hinv.good⟩, fun _ => hinv⟩
  | false =>
    refine ⟨⟨fun hgood => ?_, fun hok => by cases hok⟩, fun hok => by cases hok⟩
    rcases Option.ne_none_iff_exists'.mp hsap with ⟨k, hk⟩
    rw [Driver.rsenEnableCb, if_neg (by simp)] at hgood
    have hk' : (answered c .rsenEnable s).sapModem = some k := hk
    rw [hk'] at hgood
    refine absurd hgood (@not_good_enableFailed _ c ?_)
    rw [(settles_sapCloseIo _).chat]
    exact hchat

lemma Inv.cfunDisableCb (h : Inv s) (hp : (c, .cfunDisable) ∈ s.pending) (ok : Bool) :
    Inv ((answered c .cfunDisable s).cfunDisableCb ok) := by
  rcases h.tidy.expected _ hp with ⟨hchat, hup, hrsen⟩
  have hinv := h.settles (settles_answered c .cfunDisable s) rfl
  -- what the chat takes with it is not known here, but nothing else was under way
  rcases unref_eq s.chat (answered c .cfunDisable s) with
    ⟨refs, pending, rsen, heq, hpending, hsub⟩
  have hnil : rsen = [] := by
    have hsub' : rsen ⊆ s.rsen := hsub
    rw [hrsen] at hsub'
    exact eq_nil_of_subset_nil hsub'
  have heq' : (answered c .cfunDisable s).unref (answered c .cfunDisable s).chat = _ := heq
  have hidle : ∀ p ∈ pending, p.2 = .rsenDisable := fun p hmem =>
    h.tidy.answered hp (by simp) p (hpending.subset hmem)
  have hnumbered : ∀ p ∈ pending, p.1 < s.next := fun p hmem =>
    hinv.numbered.pending p (hpending.subset hmem)
  have hfresh := hinv.numbered
  unfold Driver.cfunDisableCb
  rw [heq']
  cases ok with
  | true =>
    exact ⟨h.good, Idle.tidy ⟨hidle, hnil⟩,
      ⟨fun d hd => (by cases hd), hnumbered, hfresh.sources, hfresh.calls⟩⟩
  | false =>
    exact ⟨h.good, Idle.tidy ⟨hidle, hnil⟩,
      ⟨fun d hd => (by cases hd), hnumbered, hfresh.sources, hfresh.calls⟩⟩

/-- What is left of the commands when those of the chat in use are cancelled. -/
lemma Tidy.cancelled {pending : List (ℕ × AtCommand)} {rsen : List ℕ} (h : Tidy s)
    (hpending : pending ⊆ s.pending) (hrsen : rsen ⊆ s.rsen) : (∀ p ∈ pending.filter fun p =>
    some p.1 != s.chat, p.2 = .rsenDisable) ∧ rsen.filter (fun d => some d != s.chat) = [] := by
  constructor
  · rintro ⟨d, cmd⟩ hp
    rcases mem_filter.mp hp with ⟨hmem, hne⟩
    have hexp := h.expected _ (hpending hmem)
    have hother : s.chat ≠ some d := fun heq => by simp [heq] at hne
    cases cmd with
    | rsenDisable => rfl
    | cfunEnable => exact absurd hexp.1 hother
    | cfunDisable => exact absurd hexp.1 hother
    | rsenEnable => exact absurd hexp.1 hother
  · rw [filter_eq_nil_iff]
    intro d hd
    have hreg := (h.registered d (hrsen hd)).1
    simp [hreg]

lemma telitDisable_eq (s : Driver) :
    ∃ refs pending rsen, s.telitDisable.2 =
        send .cfunDisable { s with
          modem := none, refs := refs
          pending := pending.filter fun p => some p.1 != s.chat
          rsen := rsen.filter fun d => some d != s.chat } ∧
      pending ⊆ s.pending ∧ rsen ⊆ s.rsen := by
  rcases unref_eq s.modem (s.cancelAll s.modem) with ⟨refs, pending, rsen, heq, hpending, hrsen⟩
  refine ⟨refs, pending, rsen, ?_, fun p hp => filter_sublist.subset (hpending.subset hp),
    fun d hd => filter_sublist.subset (hrsen hd)⟩
  show send .cfunDisable
    (cancelAll ((s.cancelAll s.modem).unref s.modem).chat
      { (s.cancelAll s.modem).unref s.modem with modem := none }) = _
  rw [heq]
  rfl

lemma Inv.telitDisable (h : Inv s) : Inv s.telitDisable.2 := by
  rcases telitDisable_eq s with ⟨refs, pending, rsen, heq, hpending, hrsen⟩
  rcases h.tidy.cancelled hpending hrsen with ⟨hidle, hnil⟩
  rw [heq]
  refine ⟨?_, ?_, ?_⟩
  · exact (good_congr (marks_send _ _)).mpr h.good
  · refine Tidy.send (Idle.tidy ⟨hidle, hnil⟩) (fun p hp => Or.inl (hidle p hp)) ?_
    exact fun c hc hup => ⟨hc, hup, hnil⟩
  · apply Numbered.send
    refine ⟨h.numbered.chat, fun p hmem => ?_, h.numbered.sources, h.numbered.calls⟩
    exact h.numbered.pending p (hpending (filter_sublist.subset hmem))

lemma marks_telitDisable (s : Driver) : s.telitDisable.2.marks = s.marks := by
  rcases telitDisable_eq s with ⟨refs, pending, rsen, heq, _⟩
  rw [heq, marks_send]

lemma Inv.rsenDisableCb (h : Inv s) : (Good (answered c .rsenDisable s).rsenDisableCb ↔ s.hwIo ≠
    none) ∧ (s.hwIo ≠ none → Inv (answered c .rsenDisable s).rsenDisableCb) := by
  have hinv := h.settles (settles_answered c .rsenDisable s) rfl
  have hclosed : s.hwIo ≠ none → Inv (answered c .rsenDisable s).sapCloseIo := fun hio =>
    ⟨(good_sapCloseIo _).mpr ⟨hio, hinv.good⟩, hinv.tidy.settles (settles_sapCloseIo _),
      hinv.numbered.settles (settles_sapCloseIo _)⟩
  refine ⟨⟨fun hgood => ?_, fun hio => (hclosed hio).telitDisable.good⟩,
    fun hio => (hclosed hio).telitDisable⟩
  have hmarks : (answered c .rsenDisable s).rsenDisableCb.marks =
      (answered c .rsenDisable s).sapCloseIo.marks := by
    rw [Driver.rsenDisableCb, marks_telitDisable]
  exact ((good_sapCloseIo _).mp ((good_congr hmarks).mp hgood)).1

/-- A `#RSEN:` finds the two lines open, and the modem of the SIM server not on. -/
lemma Inv.not_good_telitRsenNotify (h : Inv s) (hc : c ∈ s.rsen) (status : ℤ) :
    ¬ Good (s.telitRsenNotify status r) := by
  rcases h.tidy.registered c hc with ⟨hchat, _, k, hk, hoff⟩
  unfold Driver.telitRsenNotify
  split
  · rw [hk]
    dsimp only
    rw [if_neg (by simp [hoff])]
    refine @not_good_enableFailed _ c ?_
    rw [(settles_sapCloseIo _).chat]
    exact hchat
  · rw [good_telitEnable]
    rintro ⟨_, hsafe⟩
    rw [(hsafe.idle h.tidy).2] at hc
    cases hc

/-! ## The end of a line, and the core -/

lemma Inv.lineHangUp (h : Inv s) (c : ℕ) :
    Inv { s.cancelAll (some c) with hungUp := c :: s.hungUp } := by
  have hsub : (s.cancelAll (some c)).pending.Sublist s.pending := filter_sublist
  have hother : ∀ d, (s.chat = some d ∧ d ∉ s.hungUp) → d ≠ c → d ∉ c :: s.hungUp :=
    fun d hd hne hmem => (mem_cons.mp hmem).elim hne hd.2
  have hnil : s.rsen = [] → (s.cancelAll (some c)).rsen = [] := fun hnil => by
    simp [cancelAll, hnil]
  refine ⟨h.good, ⟨h.tidy.alone.sublist hsub, ?_, ?_⟩, ?_⟩
  · rintro ⟨d, cmd⟩ hp
    rcases mem_filter.mp hp with ⟨hmem, hne⟩
    have hdc : d ≠ c := by simpa using hne
    have hexp := h.tidy.expected _ hmem
    cases cmd with
    | rsenDisable => trivial
    | cfunEnable =>
      exact ⟨hexp.1, hother d ⟨hexp.1, hexp.2.1⟩ hdc, hnil hexp.2.2.1, hexp.2.2.2⟩
    | cfunDisable => exact ⟨hexp.1, hother d ⟨hexp.1, hexp.2.1⟩ hdc, hnil hexp.2.2⟩
    | rsenEnable => exact ⟨hexp.1, hother d ⟨hexp.1, hexp.2.1⟩ hdc, hexp.2.2⟩
  · intro d hd
    rcases mem_filter.mp hd with ⟨hmem, hne⟩
    have hdc : d ≠ c := by simpa using hne
    have hreg := h.tidy.registered d hmem
    exact ⟨hreg.1, hother d ⟨hreg.1, hreg.2.1⟩ hdc, hreg.2.2⟩
  · exact ⟨h.numbered.chat, fun p hp => h.numbered.pending p (hsub.subset hp),
      h.numbered.sources, h.numbered.calls⟩

lemma Inv.setPoweredTimeout (h : Inv s) (m : Modem) : Inv (s.setPoweredTimeout m) := by
  unfold Driver.setPoweredTimeout
  split
  · exact h.settles (settles_setPoweredPending m _ s) rfl
  · exact h.settles (settles_power m _ s fun _ => rfl) rfl

lemma Inv.enable (h : Inv s) (m : Modem) : (Good (s.enable m r).2 ↔ EnableSafely m r s) ∧
    (EnableSafely m r s → Inv (s.enable m r).2) := by
  cases m with
  | hw =>
    have hgood : Good (s.telitEnable r).2 ↔ OpensSafely r s := by
      rw [good_telitEnable]
      exact and_iff_right h.good
    exact ⟨hgood, fun hs => ⟨hgood.mpr hs, tidy_telitEnable h.tidy hs,
      numbered_telitEnable r h.numbered⟩⟩
  | sap k => exact ⟨h.good_sapEnable, h.sapEnable⟩

lemma Inv.disable (h : Inv s) (m : Modem) : Inv (s.disable m).2 := by
  cases m with
  | hw => exact h.telitDisable
  | sap k =>
    simp only [Driver.disable, sapDisable]
    split
    · -- `#RSEN=0` may be sent next to anything
      refine ⟨(good_congr (marks_send _ _)).mpr h.good, ?_, h.numbered.send _⟩
      exact h.tidy.send (fun _ _ => Or.inr rfl) fun _ _ _ => trivial
    · exact h.settles (settles_crash s) rfl

lemma enableSafely_setPoweredPending (m : Modem) (b : Bool) :
    EnableSafely m r (s.setPoweredPending m b) ↔ EnableSafely m r s := by
  cases m with
  | hw => exact Iff.rfl
  | sap k =>
    have hpower : ((s.setPoweredPending (.sap k) b).power (.sap k)).powered =
        (s.power (.sap k)).powered := by
      simp [setPoweredPending]
    simp only [EnableSafely, WifiSafely, hpower]
    exact Iff.rfl

lemma Inv.setPowered (h : Inv s) (m : Modem) (powered : Bool) :
    (Good (s.setPowered m powered r) ↔ Safe s (.setPowered m powered r)) ∧
      (Safe s (.setPowered m powered r) → Inv (s.setPowered m powered r)) := by
  have hpending := h.settles (settles_setPoweredPending m powered s) rfl
  have hback : ∀ t : Errno × Driver, t.2.marks =
      (if t.1 = .inProgress then t.2
        else t.2.setPoweredPending m (t.2.power m).powered).marks := by
    intro t
    split <;> rfl
  have hinv : ∀ t : Errno × Driver, Inv t.2 → Inv (if t.1 = .inProgress then t.2
      else t.2.setPoweredPending m (t.2.power m).powered) := by
    intro t ht
    split
    · exact ht
    · exact ht.settles (settles_setPoweredPending m _ _) rfl
  unfold Driver.setPowered
  by_cases heq : (s.power m).poweredPending = powered
  · rw [if_pos heq]
    refine ⟨⟨fun _ hon hoff => ?_, fun _ => h.good⟩, fun _ => h⟩
    rw [heq, hon] at hoff
    cases hoff
  · rw [if_neg heq]
    cases powered with
    | false =>
      have hdisable := hinv _ (hpending.disable m)
      exact ⟨⟨fun _ hon => (by cases hon), fun _ => hdisable.good⟩, fun _ => hdisable⟩
    | true =>
      have hoff : (s.power m).poweredPending = false := by simpa using heq
      rcases @Inv.enable r _ hpending m with ⟨hgood, hkeep⟩
      rw [enableSafely_setPoweredPending] at hgood hkeep
      simp only [Safe, hoff, forall_const, if_true]
      exact ⟨(good_congr (hback _)).symm.trans hgood, fun hs => hinv _ (hkeep hs)⟩

/-! ## Runs -/

/-- One event of a state that nothing has gone wrong in: nothing goes wrong exactly if the
event is safe, and then the invariant is kept. -/
lemma Inv.step {e : Event} {t : Driver} (h : Inv s) (hstep : step s e = some t) :
    (Good t ↔ Safe s e) ∧ (Safe s e → Inv t) := by
  have hkept : Inv t → Safe s e → (Good t ↔ Safe s e) ∧ (Safe s e → Inv t) := fun ht hs =>
    ⟨⟨fun _ => hs, fun _ => ht.good⟩, fun _ => ht⟩
  unfold Telit.step at hstep
  split at hstep
  · cases hstep
  · cases e with
    | setPowered m powered r =>
      cases hstep
      exact h.setPowered m powered
    | timeout m =>
      cases hstep
      exact hkept (h.setPoweredTimeout m) trivial
    | connectReply call fd r =>
      cases hcall : s.calls.lookup call with
      | none => simp [hcall] at hstep
      | some k =>
        simp only [hcall, Option.some.injEq] at hstep
        subst hstep
        -- the call is over, which only takes a number out of use
        have hinv : Inv { s with calls := s.calls.filter fun p => p.1 != call } :=
          ⟨h.good, ⟨h.tidy.alone, h.tidy.expected, h.tidy.registered⟩,
            ⟨h.numbered.chat, h.numbered.pending, h.numbered.sources,
              fun p hp => h.numbered.calls p (filter_sublist.subset hp)⟩⟩
        have hsafe : Safe s (.connectReply call fd r) ↔ ReplySafely k fd r s := by
          simp only [Safe, hcall, Option.mem_def, Option.some.injEq, forall_eq']
        rw [hsafe]
        exact hinv.sapConnectReply fd
    | atReply c cmd ok =>
      simp only at hstep
      split at hstep
      · next hlookup =>
        cases hstep
        have hp : (c, cmd) ∈ s.pending := by
          rcases lookup_eq_some_iff.mp hlookup with ⟨_, _, heq, _⟩
          simp [heq]
        cases cmd with
        | cfunEnable => exact h.cfunEnableCb hp ok
        | rsenEnable => exact h.rsenEnableCb hp ok
        | cfunDisable => exact hkept (h.cfunDisableCb hp ok) trivial
        | rsenDisable => exact h.rsenDisableCb
      · cases hstep
    | rsenNotify c status r =>
      simp only at hstep
      split at hstep
      · next hc =>
        cases hstep
        -- whatever it says, it comes while the two lines are open
        exact ⟨⟨fun hgood => absurd hgood (h.not_good_telitRsenNotify hc status),
          fun hs => hs.elim⟩, fun hs => hs.elim⟩
      · cases hstep
    | hangUp i =>
      simp only at hstep
      split at hstep
      · cases hstep
      · cases hstep
        exact hkept (h.settles (settles_sourceRemove _ s) (marks_sourceRemove _ s)) trivial
    | lineHangUp c =>
      simp only at hstep
      split at hstep
      · cases hstep
        exact hkept (h.lineHangUp c) trivial
      · cases hstep

/-- Nothing goes wrong in a run exactly if every event of it is safe in the state it finds. -/
theorem channels_iff (es : List Event) :
    Machine.Always step Good probed es ↔ Machine.EveryStep step Safe probed es :=
  Machine.always_iff (fun _ h => h.good) (fun _ _ _ h hs ht => (h.step ht).2 hs)
    (fun _ _ _ h hs ht hgood => hs ((h.step ht).1.mp hgood)) inv_probed es
/-- A SIM server over WiFi, and no device for the link: `sap_close_io` has no channel to close,
the two lines stay open, and the core waits for what will not come. -/
theorem channels_left_by_device : ¬ Machine.Always step Good probed
    [.setPowered (.sap 0) true ⟨true, true, true, true, false, true, true, true, true⟩] := by
  intro h
  have hgood : Good _ := h.2 _ rfl
  exact absurd hgood (by decide)

end Phonelets.Telit
