import Phonelets.Telit.Channels

/-! # The enables of the Telit driver

What `telit_enable`, `telit_sap_enable` and `sap_enable` do to the invariant, and the steps at which
they leave a channel behind.
-/

namespace Phonelets.Telit

open Driver

variable {r : Results} {s : Driver} {k fd : ℕ}

/-! ## The lines -/

/-- The state with the two lines open. -/
def opened (s : Driver) : Driver :=
  { s with
    modem := some s.next
    chat := some (s.next + 1)
    next := s.next + 1 + 1
    refs := (s.next + 1) :: (s.next + 1) :: s.next :: s.refs
    slaves := (s.next, s.next + 1) :: s.slaves
    marks := .stored (s.isOpen s.chat) :: .stored (s.isOpen s.modem) :: s.marks }

lemma openDevices_opened (hm : r.modem = true) (ha : r.aux = true) :
    s.openDevices r = (none, opened s) := by
  simp [openDevices, openDevice, hm, ha, mark, isOpen, opened]

lemma good_opened (hm : r.modem = true) (ha : r.aux = true) :
    Good (opened s) ↔ Good s ∧ OpensSafely r s := by
  simp only [Good, opened, List.forall_mem_cons, Mark.Fine, OpensSafely, hm, ha, if_true,
    Bool.true_eq_false, false_imp_iff, and_true]
  tauto

lemma openDevices_failed (h : ¬ (r.modem = true ∧ r.aux = true)) : ∃ err t, s.openDevices r =
    (some err, t) ∧ err ≠ .inProgress ∧ (Good t.enableFailed ↔ Good s ∧ OpensSafely r s) ∧
    (Idle s → Idle t) ∧ (Numbered s → Numbered t ∧ t.waiting s.next = false) := by
  cases hm : r.modem with
  | false =>
    -- the first device does not open: nothing but `data->modem` changes
    refine ⟨.inval, { s.mark (.stored (s.isOpen s.modem)) with modem := none }, ?_, by simp, ?_,
      fun hidle => hidle, fun hn => ⟨⟨hn.chat, hn.pending, hn.sources, hn.calls⟩, ?_⟩⟩
    · simp [openDevices, openDevice, hm]
    · rw [good_enableFailed]
      simp only [Good, mark, List.forall_mem_cons, Mark.Fine, OpensSafely, hm, Clear, IoClear,
        Bool.false_eq_true, if_false, true_and]
      tauto
    · exact waiting_eq_false hn (fun _ h => h) (fun _ h => h) fun _ h => h
  | true =>
    -- the second one does not: the first is closed again
    have ha : r.aux = false := by simpa [hm] using h
    rcases unref_eq (some s.next)
        { s with
          modem := some s.next, chat := none, next := s.next + 1, refs := s.next :: s.refs
          marks := .stored (s.isOpen s.chat) :: .stored (s.isOpen s.modem) :: s.marks } with
      ⟨refs, pending, rsen, heq, hpending, hrsen⟩
    refine ⟨.io,
      { s with
        modem := none, chat := none, next := s.next + 1
        refs := refs, pending := pending, rsen := rsen
        marks := .stored (s.isOpen s.chat) :: .stored (s.isOpen s.modem) :: s.marks },
      ?_, by simp, ?_, ?_, ?_⟩
    · -- `data->modem` is given up again, and has no slave yet
      simp only [openDevices, openDevice, hm, ha, mark, isOpen, if_true, Bool.false_eq_true,
        if_false] at heq ⊢
      rw [heq]
    · rw [good_enableFailed]
      simp only [Good, List.forall_mem_cons, Mark.Fine, OpensSafely, hm, ha, Clear, IoClear,
        if_true, true_and, forall_const]
      tauto
    · rintro ⟨hidle, hnone⟩
      refine ⟨fun p hp => hidle p (hpending.subset hp), List.eq_nil_of_subset_nil ?_⟩
      rw [← hnone]
      exact hrsen
    · intro hn
      refine ⟨hn.mono (by simp) hpending.subset (fun _ h => h) (fun _ h => h) (Nat.le_succ _), ?_⟩
      exact waiting_eq_false hn hpending.subset (fun _ h => h) fun _ h => h

lemma OpensSafely.idle (ht : Tidy s) (h : OpensSafely r s) : Idle s := by
  apply ht.idle
  cases hm : r.modem with
  | false =>
    have hchat : s.chat = none := by
      have := h.2
      rw [hm] at this
      exact this.1
    rw [hchat]
    rfl
  | true =>
    have := h.2
    rw [hm] at this
    exact this.1

lemma good_telitEnable (r : Results) (s : Driver) :
    Good (s.telitEnable r).2 ↔ Good s ∧ OpensSafely r s := by
  by_cases h : r.modem = true ∧ r.aux = true
  · rw [telitEnable, openDevices_opened h.1 h.2, ← good_opened h.1 h.2]
    exact good_congr (marks_send _ _)
  · rcases openDevices_failed (s := s) h with ⟨err, t, heq, _, hgood, _, _⟩
    rw [telitEnable, heq]
    exact hgood

lemma Idle.opened (h : Idle s) : Idle (opened s) := h

lemma Numbered.opened (h : Numbered s) : Numbered (opened s) := by
  refine h.mono ?_ (fun _ h => h) (fun _ h => h) (fun _ h => h) (Nat.le_add_right s.next 2)
  intro c hc
  rw [← Option.mem_some_iff.mp hc]
  exact Nat.lt_succ_self _

lemma tidy_telitEnable (ht : Tidy s) (h : OpensSafely r s) : Tidy (s.telitEnable r).2 := by
  have hidle := h.idle ht
  by_cases hopen : r.modem = true ∧ r.aux = true
  · rw [telitEnable, openDevices_opened hopen.1 hopen.2]
    refine hidle.opened.tidy.send (fun p hp => Or.inl (hidle.1 p hp)) ?_
    intro c hc hup
    exact ⟨hc, hup, hidle.2, by simp [opened]⟩
  · rcases openDevices_failed (s := s) hopen with ⟨err, t, heq, _, _, hidle', _⟩
    rw [telitEnable, heq]
    exact (hidle' hidle).tidy.settles (settles_mark _ _)

lemma numbered_telitEnable (r : Results) (h : Numbered s) : Numbered (s.telitEnable r).2 := by
  by_cases hopen : r.modem = true ∧ r.aux = true
  · rw [telitEnable, openDevices_opened hopen.1 hopen.2]
    exact h.opened.send _
  · rcases openDevices_failed (s := s) hopen with ⟨err, t, heq, _, _, _, hn⟩
    rw [telitEnable, heq]
    exact (hn h).1.settles (settles_mark _ _)

/-! ## The link -/

/-- The state with the channels of the link and their watches. -/
def linked (fd : ℕ) (s : Driver) : Driver :=
  let s := (opened s).assignHwIo true
  if fd = 0 then s.addHwWatch else (s.assignBtIo true).addHwWatch.addBtWatch

lemma telitSapEnable_linked (hm : r.modem = true) (ha : r.aux = true) (hl : Links fd r) :
    s.telitSapEnable k fd r = (.inProgress, (linked fd s).askForRsen k) := by
  rcases hl with ⟨hdevice, hhw, hrest⟩
  by_cases hfd : fd = 0
  · rw [if_pos hfd] at hrest
    simp [telitSapEnable, telitSapEnableWifi, openDevices_opened hm ha, linked, hfd, hdevice, hhw,
      hrest.1, hrest.2]
  · rw [if_neg hfd] at hrest
    simp [telitSapEnable, telitSapEnableBt, openDevices_opened hm ha, linked, hfd, hdevice, hhw,
      hrest]

lemma not_good_telitSapEnable (hm : r.modem = true) (ha : r.aux = true) (hl : ¬ Links fd r) :
    ¬ Good (s.telitSapEnable k fd r).2 := by
  have hchat : ∀ t : Driver, t.sapCloseIo.chat = t.chat := fun t => (settles_sapCloseIo t).chat
  have key : ∃ err t, (if fd = 0 then s.telitSapEnableWifi k r else s.telitSapEnableBt k r) =
      (err, t) ∧ err ≠ .inProgress ∧ t.chat = some (s.next + 1) := by
    by_cases hfd : fd = 0
    · rw [Links, if_pos hfd] at hl
      -- exit by exit: `sap_close_io` does not touch `data->chat`, and some exits run nothing
      rw [if_pos hfd, telitSapEnableWifi, openDevices_opened hm ha]
      cases hdevice : r.device with
      | false => exact ⟨_, _, rfl, by simp, hchat _⟩
      | true =>
        cases hhw : r.hwChannel with
        | false => exact ⟨_, _, rfl, by simp, hchat _⟩
        | true =>
          cases hbus : r.bus with
          | false => exact ⟨_, _, rfl, by simp, rfl⟩
          | true =>
            cases howner : r.owner with
            | false => exact ⟨_, _, rfl, by simp, rfl⟩
            | true => exact absurd ⟨hdevice, hhw, hbus, howner⟩ hl
    · rw [Links, if_neg hfd] at hl
      rw [if_neg hfd, telitSapEnableBt, openDevices_opened hm ha]
      cases hdevice : r.device with
      | false => exact ⟨_, _, rfl, by simp, hchat _⟩
      | true =>
        cases hhw : r.hwChannel with
        | false => exact ⟨_, _, rfl, by simp, hchat _⟩
        | true =>
          cases hbt : r.btChannel with
          | false => exact ⟨_, _, rfl, by simp, hchat _⟩
          | true => exact absurd ⟨hdevice, hhw, hbt⟩ hl
  rcases key with ⟨err, t, heq, herr, ht⟩
  rw [telitSapEnable, heq]
  simp only [herr, if_false]
  exact not_good_enableFailed ht

lemma good_linked : Good (linked fd s) ↔
    Good (opened s) ∧ s.hwIo = none ∧ (fd ≠ 0 → s.btIo = none) := by
  by_cases hfd : fd = 0
  · simp [linked, hfd, Good, addHwWatch, assignHwIo, mark, Mark.Fine, opened, and_comm]
  · simp [linked, hfd, Good, addHwWatch, addBtWatch, assignHwIo, assignBtIo, mark, Mark.Fine,
      opened, and_comm, and_assoc, and_left_comm]

lemma marks_askForRsen (k : ℕ) (s : Driver) : (s.askForRsen k).marks = s.marks := by
  simp [askForRsen]

lemma sources_askForRsen (k : ℕ) (s : Driver) : (s.askForRsen k).sources = s.sources := by
  unfold askForRsen Driver.send registerRsen
  repeat' split
  all_goals rfl

lemma waiting_linked : ((linked fd s).askForRsen k).waiting s.next = true := by
  rw [waiting, sources_askForRsen]
  by_cases hfd : fd = 0
  · simp [linked, hfd, addHwWatch, assignHwIo, opened, mark]
    omega
  · simp [linked, hfd, addHwWatch, addBtWatch, assignHwIo, assignBtIo, opened, mark]
    omega

lemma idle_linked (h : Idle s) : Idle (linked fd s) := by
  by_cases hfd : fd = 0
  · simp only [linked, hfd, if_true]
    exact h
  · simp only [linked, hfd, if_false]
    exact h

lemma power_linked : (linked fd s).power = s.power := by
  by_cases hfd : fd = 0
  · simp only [linked, hfd, if_true]
    rfl
  · simp only [linked, hfd, if_false]
    rfl

lemma Numbered.take (h : Numbered s) : Numbered { s with next := s.next + 1 } :=
  h.mono (fun c hc => Nat.lt_succ_of_lt (h.chat c hc)) (fun _ h => h) (fun _ h => h)
    (fun _ h => h) (Nat.le_succ _)

lemma Numbered.watch (h : Numbered s) (w : Watch) :
    Numbered { s with sources := (s.next, w) :: s.sources, next := s.next + 1 } := by
  refine ⟨h.take.chat, h.take.pending, ?_, h.take.calls⟩
  intro p hp
  rcases List.mem_cons.mp hp with rfl | hp
  · exact Nat.lt_succ_self _
  · exact h.take.sources p hp

lemma Numbered.assignHwIo (h : Numbered s) (ok : Bool) : Numbered (s.assignHwIo ok) :=
  ⟨h.take.chat, h.take.pending, h.take.sources, h.take.calls⟩

lemma Numbered.assignBtIo (h : Numbered s) (ok : Bool) : Numbered (s.assignBtIo ok) :=
  ⟨h.take.chat, h.take.pending, h.take.sources, h.take.calls⟩

lemma Numbered.addHwWatch (h : Numbered s) : Numbered s.addHwWatch :=
  ⟨(h.watch .hw).chat, (h.watch .hw).pending, (h.watch .hw).sources, (h.watch .hw).calls⟩

lemma Numbered.addBtWatch (h : Numbered s) : Numbered s.addBtWatch :=
  ⟨(h.watch .bt).chat, (h.watch .bt).pending, (h.watch .bt).sources, (h.watch .bt).calls⟩

lemma numbered_linked (h : Numbered s) : Numbered (linked fd s) := by
  have hhw := h.opened.assignHwIo true
  by_cases hfd : fd = 0
  · simp only [linked, hfd, if_true]
    exact hhw.addHwWatch
  · simp only [linked, hfd, if_false]
    exact (hhw.assignBtIo true).addHwWatch.addBtWatch

/-- The command and the notification are those of a SIM server whose modem is not on. -/
lemma Idle.askForRsen (h : Idle s) (hoff : (s.power (.sap k)).powered = false) :
    Tidy (s.askForRsen k) := by
  have hsend : ∀ t : Driver, Tidy t → (∀ p ∈ t.pending, p.2 = .rsenDisable) →
      t.sapModem = some k → Tidy (t.send .rsenEnable) := by
    intro t ht hpending hk
    refine ht.send (fun p hp => Or.inl (hpending p hp)) fun c hc hup => ⟨hc, hup, ?_⟩
    rw [hk]
    exact Option.some_ne_none k
  have hidle : Idle { s with sapModem := some k } := h
  unfold Driver.askForRsen registerRsen
  split
  · exact hsend _ hidle.tidy h.1 rfl
  · next c hc =>
    split
    · exact hsend _ hidle.tidy h.1 rfl
    · next hup =>
      refine hsend _ ⟨hidle.tidy.alone, fun p hp => ?_, fun d hd => ?_⟩ h.1 rfl
      · rw [h.1 p hp]
        trivial
      · rcases List.mem_cons.mp hd with rfl | hd
        · exact ⟨hc, hup, k, rfl, hoff⟩
        · exact hidle.tidy.registered d hd

lemma Numbered.askForRsen (h : Numbered s) : Numbered (s.askForRsen k) := by
  refine Numbered.send ?_ _
  unfold registerRsen
  split
  · exact ⟨h.chat, h.pending, h.sources, h.calls⟩
  · split
    · exact ⟨h.chat, h.pending, h.sources, h.calls⟩
    · exact ⟨h.chat, h.pending, h.sources, h.calls⟩

/-! ## `telit_sap_enable` -/

lemma telitSapEnable_failed (h : ¬ (r.modem = true ∧ r.aux = true)) :
    ∃ t, (s.telitSapEnable k fd r).2 = t ∧ (Good t ↔ Good s ∧ OpensSafely r s) ∧ (Idle s → Idle t) ∧
    (Numbered s → Numbered t ∧ t.waiting s.next = false) := by
  rcases openDevices_failed (s := s) h with ⟨err, t, heq, herr, hgood, hidle, hn⟩
  refine ⟨t.enableFailed, ?_, hgood, hidle, fun hs => ⟨?_, (hn hs).2⟩⟩
  · by_cases hfd : fd = 0
    · simp [telitSapEnable, telitSapEnableWifi, heq, herr, hfd]
    · simp [telitSapEnable, telitSapEnableBt, heq, herr, hfd]
  · exact (hn hs).1.settles (settles_mark _ _)

lemma good_telitSapEnable :
    Good (s.telitSapEnable k fd r).2 ↔ Good s ∧ SapEnablesSafely fd r s := by
  by_cases hopen : r.modem = true ∧ r.aux = true
  · rcases hopen with ⟨hm, ha⟩
    by_cases hl : Links fd r
    · rw [telitSapEnable_linked hm ha hl, good_congr (marks_askForRsen _ _), good_linked,
        good_opened hm ha, SapEnablesSafely]
      tauto
    · have hnot := not_good_telitSapEnable (s := s) (k := k) hm ha hl
      rw [SapEnablesSafely]
      tauto
  · rcases @telitSapEnable_failed r s k fd hopen with ⟨t, heq, hgood, _, _⟩
    rw [heq, hgood, SapEnablesSafely]
    tauto

lemma tidy_telitSapEnable (ht : Tidy s) (hoff : (s.power (.sap k)).powered = false)
    (h : SapEnablesSafely fd r s) : Tidy (s.telitSapEnable k fd r).2 := by
  have hidle := h.1.idle ht
  by_cases hopen : r.modem = true ∧ r.aux = true
  · rw [telitSapEnable_linked hopen.1 hopen.2 (h.2 hopen.1 hopen.2).1]
    apply (idle_linked hidle).askForRsen
    rw [power_linked]
    exact hoff
  · rcases @telitSapEnable_failed r s k fd hopen with ⟨t, heq, _, hidle', _⟩
    rw [heq]
    exact (hidle' hidle).tidy

lemma numbered_telitSapEnable (hn : Numbered s) (h : SapEnablesSafely fd r s) :
    Numbered (s.telitSapEnable k fd r).2 := by
  by_cases hopen : r.modem = true ∧ r.aux = true
  · rw [telitSapEnable_linked hopen.1 hopen.2 (h.2 hopen.1 hopen.2).1]
    exact (numbered_linked hn).askForRsen
  · rcases @telitSapEnable_failed r s k fd hopen with ⟨t, heq, _, _, hn'⟩
    rw [heq]
    exact (hn' hn).1

/-! ## `sap_enable` and the reply to its call -/

lemma good_returnInProgress {t : Driver} {since : ℕ} :
    Good (t.returnInProgress since).2 ↔ t.waiting since = true ∧ Good t :=
  good_mark _ _

lemma waiting_connectFd : (s.connectFd k).waiting s.next = true := by
  simp [waiting, connectFd]

lemma Inv.good_sapEnable (h : Inv s) : Good (s.sapEnable k r).2 ↔ WifiSafely k r s := by
  have hidle : s.waiting s.next = false :=
    waiting_eq_false h.numbered (fun _ h => h) (fun _ h => h) fun _ h => h
  cases hwifi : r.wifi with
  | false =>
    simp only [WifiSafely, hwifi, Bool.false_eq_true, false_imp_iff, iff_true, sapEnable, if_false]
    split
    · exact good_returnInProgress.mpr ⟨waiting_connectFd, h.good⟩
    · exact h.good
  | true =>
    simp only [WifiSafely, hwifi, sapEnable, if_true, forall_const]
    by_cases hon : (s.power (.sap k)).powered = true
    · rw [if_pos hon, good_returnInProgress, hidle, hon]
      simp
    · rw [if_neg hon, good_returnInProgress, good_telitSapEnable]
      have hsame : SapEnablesSafely 0 r (s.attachDriver k) ↔ SapEnablesSafely 0 r s := Iff.rfl
      have hgood : Good (s.attachDriver k) := h.good
      rw [hsame]
      by_cases hopen : r.modem = true ∧ r.aux = true
      · -- the watch on `hw_io` is there to wait for
        have hwait : SapEnablesSafely 0 r s →
            ((s.attachDriver k).telitSapEnable k 0 r).2.waiting s.next = true := by
          intro hs
          rw [telitSapEnable_linked hopen.1 hopen.2 (hs.2 hopen.1 hopen.2).1]
          exact @waiting_linked (s.attachDriver k) k 0
        simp only [Bool.not_eq_true] at hon
        tauto
      · rcases @telitSapEnable_failed r (s.attachDriver k) k 0 hopen with ⟨t, heq, _, _, hn⟩
        have hwait : t.waiting s.next = false :=
          (hn (h.numbered.settles (settles_attachDriver k s))).2
        rw [heq, hwait]
        simp only [Bool.false_eq_true, false_and, false_iff]
        tauto

lemma Inv.sapEnable (h : Inv s) (hs : WifiSafely k r s) : Inv (s.sapEnable k r).2 := by
  refine ⟨h.good_sapEnable.mpr hs, ?_, ?_⟩
  · unfold Driver.sapEnable
    split
    · next hwifi =>
      rcases hs hwifi with ⟨hoff, _, _, hsafe⟩
      rw [if_neg (by simp [hoff])]
      have hattach := h.tidy.settles (settles_attachDriver k s)
      exact (tidy_telitSapEnable hattach hoff hsafe).settles (settles_mark _ _)
    · split
      · exact (⟨h.tidy.alone, h.tidy.expected, h.tidy.registered⟩ : Tidy (s.connectFd k)).settles
          (settles_mark _ _)
      · exact h.tidy
  · unfold Driver.sapEnable
    split
    · next hwifi =>
      rcases hs hwifi with ⟨hoff, _, _, hsafe⟩
      rw [if_neg (by simp [hoff])]
      have hattach := h.numbered.settles (settles_attachDriver k s)
      exact (numbered_telitSapEnable hattach hsafe).settles (settles_mark _ _)
    · split
      · refine Numbered.settles ?_ (settles_mark _ _)
        refine ⟨h.numbered.take.chat, h.numbered.take.pending, h.numbered.take.sources, ?_⟩
        intro p hp
        rcases List.mem_append.mp hp with hp | hp
        · exact h.numbered.take.calls p hp
        · rw [List.mem_singleton.mp hp]
          exact Nat.lt_succ_self _
      · exact h.numbered

lemma Inv.sapConnectReply (h : Inv s) (fd : Option ℕ) : (Good (s.sapConnectReply k fd r) ↔
    ReplySafely k fd r s) ∧ (ReplySafely k fd r s → Inv (s.sapConnectReply k fd r)) := by
  have hoff := h.settles (settles_setPoweredFalse (.sap k) s) rfl
  by_cases hon : (s.power (.sap k)).powered = true
  · have hsafe : ReplySafely k fd r s := fun n _ hn => absurd hon (by simp [hn])
    unfold Driver.sapConnectReply
    rw [if_pos hon]
    exact ⟨⟨fun _ => hsafe, fun _ => hoff.good⟩, fun _ => hoff⟩
  · unfold Driver.sapConnectReply
    rw [if_neg hon]
    cases fd with
    | none => exact ⟨⟨fun _ n hn => (by cases hn), fun _ => hoff.good⟩, fun _ => hoff⟩
    | some n =>
      simp only [Bool.not_eq_true] at hon
      have hsafe : ReplySafely k (some n) r s ↔ SapEnablesSafely n r (s.attachDriver k) :=
        ⟨fun hs => hs n rfl hon, fun hs m hm _ => Option.mem_some_iff.mp hm ▸ hs⟩
      have hattach := h.settles (settles_attachDriver k s) rfl
      have hgood : Good ((s.attachDriver k).telitSapEnable k n r).2 ↔
          SapEnablesSafely n r (s.attachDriver k) := by
        rw [good_telitSapEnable]
        exact and_iff_right hattach.good
      rw [hsafe]
      dsimp only
      split
      · exact ⟨hgood, fun hs => ⟨hgood.mpr hs, tidy_telitSapEnable hattach.tidy hon hs,
          numbered_telitSapEnable hattach.numbered hs⟩⟩
      · refine ⟨hgood, fun hs => ?_⟩
        have hinv : Inv ((s.attachDriver k).telitSapEnable k n r).2 :=
          ⟨hgood.mpr hs, tidy_telitSapEnable hattach.tidy hon hs,
            numbered_telitSapEnable hattach.numbered hs⟩
        exact hinv.settles (settles_setPoweredFalse (.sap k) _) rfl

end Phonelets.Telit
