import Phonelets.Sms.CbsAssembly

/-! # The location of the cell broadcast atom

The atom records where the network says that it is, and has the pages thrown away that were
only for the place before. A report is compared with what is recorded up to the first
difference, and only that difference is recorded.
-/

namespace Phonelets.Sms

open Option
open Machine (AllSteps)

/-! ## The functions -/

/-- What `__ofono_netreg_add_status_watch` reports; `mcc` and `mnc` may be `NULL`. -/
structure LocationReport where
  status : ℤ
  lac : ℤ
  ci : ℤ
  tech : ℤ
  mcc : Option (CString 4)
  mnc : Option (CString 4)

/-- The part of `struct ofono_cbs` that has to do with the location, and the timers of GLib
that run for it. -/
structure CbsLocation where
  netreg : Bool
  mcc : CString 4
  mnc : CString 4
  lac : ℤ
  ci : ℤ
  resetSource : ℕ
  assembly : CbsAssembly
  sources : List ℕ
  lastSource : ℕ

/-- A call made to another part: to `cbs_assembly_location_changed`, or to the network to
forget the name of the base station. -/
inductive CbsLocationCall
  | assemblyLocationChanged (plmn lac ci : Bool)
  | setBaseStationName

/-- The timer expires, or the network reports where it is. -/
inductive CbsLocationEvent
  | expire (source : ℕ)
  | report (r : LocationReport)

namespace CbsLocation

/-- `""`. -/
def noCode : CString 4 := CString.empty (Nat.zero_lt_succ 3)

/-- `g_timeout_add_seconds`, which numbers the sources from 1. -/
def gTimeoutAddSeconds (s : CbsLocation) : ℕ × CbsLocation :=
  (s.lastSource + 1,
    { s with sources := s.sources ++ [s.lastSource + 1], lastSource := s.lastSource + 1 })

/-- `reset_base_station_name`, for a source that GLib then removes. -/
def resetBaseStationName (s : CbsLocation) (source : ℕ) : Option CbsLocationCall × CbsLocation :=
  (if s.netreg then some .setBaseStationName else none,
    { s with resetSource := 0, sources := s.sources.erase source })

/-- The part of `cbs_location_changed` after the label `out`. -/
def out (s : CbsLocation) (plmn lac ci : Bool) : Option CbsLocationCall × CbsLocation :=
  let s := if lac || ci then
      let (source, s) := s.gTimeoutAddSeconds
      { s with resetSource := source }
    else s
  (some (.assemblyLocationChanged plmn lac ci),
    { s with assembly := cbsAssemblyLocationChanged s.assembly plmn lac ci })

def cbsLocationChanged (s : CbsLocation) (r : LocationReport) :
    Option CbsLocationCall × CbsLocation :=
  match r.mcc, r.mnc with
  | some mcc, some mnc =>
    if s.mcc ≠ mcc ∨ s.mnc ≠ mnc then out { s with mcc := mcc, mnc := mnc } true false false
    else if s.lac ≠ r.lac then out { s with lac := r.lac } false true false
    else if s.ci ≠ r.ci then out { s with ci := r.ci } false false true
    else (none, s)
  | _, _ =>
    if s.mcc = noCode ∧ s.mnc = noCode then (none, s)
    else out { s with mcc := noCode, mnc := noCode } true false false

/-- `netreg_watch` when the network registers: here everything is recorded. -/
def netregWatch (s : CbsLocation) (r : LocationReport) : CbsLocation :=
  let s := { s with netreg := true }
  let s := match r.mcc, r.mnc with
    | some mcc, some mnc => { s with mcc := mcc, mnc := mnc }
    | _, _ => { s with mcc := noCode, mnc := noCode }
  { s with
    lac := r.lac
    ci := r.ci
    assembly := cbsAssemblyLocationChanged s.assembly true true true }

/-- An atom that has just been registered, with no timer running. -/
def start (assembly : CbsAssembly) : CbsLocation :=
  { netreg := false, mcc := noCode, mnc := noCode, lac := 0, ci := 0, resetSource := 0
    assembly := assembly, sources := [], lastSource := 0 }

def step (s : CbsLocation) : CbsLocationEvent → Option CbsLocationCall × CbsLocation
  | .expire source => if source ∈ s.sources then s.resetBaseStationName source else (none, s)
  | .report r => s.cbsLocationChanged r

end CbsLocation

/-! ## What is promised -/

/-- A network, an area of it and a cell. -/
@[ext] structure Place where
  plmn : CString 4 × CString 4
  lac : ℤ
  ci : ℤ
deriving DecidableEq

/-- The place that is reported, none without an operator. -/
def LocationReport.place (r : LocationReport) : Option Place :=
  match r.mcc, r.mnc with
  | some mcc, some mnc => some ⟨(mcc, mnc), r.lac, r.ci⟩
  | _, _ => none

/-- The flags say at least how far the places are apart. -/
def Covers (before after : Option Place) (plmn lac ci : Bool) : Prop :=
  if before.map Place.plmn ≠ after.map Place.plmn then plmn = true
  else if before.map Place.lac ≠ after.map Place.lac then plmn = true ∨ lac = true
  else plmn = true ∨ lac = true ∨ ci = true

namespace CbsLocation

/-- The place that is recorded. -/
def place (s : CbsLocation) : Place := ⟨(s.mcc, s.mnc), s.lac, s.ci⟩

/-- At most one timer runs, the one that is recorded. -/
def OneTimer (s : CbsLocation) : Prop := s.sources = [] ∨ s.sources = [s.resetSource]

/-- The atom together with the place that was reported last. -/
def follow (t : CbsLocation × Option Place) (e : CbsLocationEvent) :
    Option CbsLocationCall × (CbsLocation × Option Place) :=
  let (call, s) := t.1.step e
  (call, s, match e with | .expire _ => t.2 | .report r => r.place)

/-- What is promised of a report: the place is recorded, the pages are told of exactly if it is
another one, and of no less than what differs. -/
structure Reports (s : CbsLocation) (before : Option Place) (r : LocationReport) : Prop where
  recorded : ∀ p, r.place = some p → (s.cbsLocationChanged r).2.place = p
  called : (s.cbsLocationChanged r).1.isSome ↔ r.place ≠ before
  covers : ∀ plmn lac ci,
    (s.cbsLocationChanged r).1 = some (.assemblyLocationChanged plmn lac ci) →
      Covers before r.place plmn lac ci
  kept : r.place = before → (s.cbsLocationChanged r).2.assembly = s.assembly

/-- What is promised of a step. -/
def Promised (t : CbsLocation × Option Place) (e : CbsLocationEvent) : Prop :=
  (∀ r, e = .report r → Reports t.1 t.2 r) ∧ OneTimer (t.1.step e).2

/-- The report differs from what is recorded in one respect at most, a new area or cell comes
when no timer runs, and an operator without codes does not stand next to no operator. -/
def Single (s : CbsLocation) (before : Option Place) (r : LocationReport) : Prop :=
  match r.place with
  | none => before.isSome → s.place.plmn ≠ (noCode, noCode)
  | some p =>
    (before = none → p.plmn ≠ (noCode, noCode)) ∧
      (p.plmn ≠ s.place.plmn → p.lac = s.lac ∧ p.ci = s.ci) ∧
      (p.lac ≠ s.lac → p.ci = s.ci) ∧
      (p.plmn = s.place.plmn → p ≠ s.place → s.sources = [])

/-- The condition on a step. -/
def Meets (t : CbsLocation × Option Place) (e : CbsLocationEvent) : Prop :=
  ∀ r, e = .report r → Single t.1 t.2 r

/-- The invariant: the place that was reported last is recorded. -/
structure Inv (t : CbsLocation × Option Place) : Prop where
  recorded : ∀ p, t.2 = some p → t.1.place = p
  nowhere : t.2 = none → t.1.place.plmn = (noCode, noCode)
  timer : OneTimer t.1

/-! ## What a report does -/

variable {s s' : CbsLocation} {before : Option Place} {r : LocationReport} {p : Place}
  {plmn lac ci : Bool}

@[simp] lemma place_out : (s.out plmn lac ci).2.place = s.place := by
  unfold out
  split <;> rfl

lemma oneTimer_out :
    (s.out plmn lac ci).2.OneTimer ↔ if lac || ci then s.sources = [] else s.OneTimer := by
  unfold out
  split
  · -- the new source comes after those that run
    constructor
    · rintro (h | h)
      · exact absurd h (List.append_ne_nil_of_right_ne_nil _ (List.cons_ne_nil _ _))
      · exact List.append_left_eq_self.mp h
    · intro h
      refine Or.inr ?_
      change s.sources ++ [s.lastSource + 1] = [s.lastSource + 1]
      rw [h, List.nil_append]
  · rfl

lemma cbsLocationChanged_none (hr : r.place = none) :
    s.cbsLocationChanged r =
      if s.place.plmn = (noCode, noCode) then (none, s)
      else out { s with mcc := noCode, mnc := noCode } true false false := by
  unfold LocationReport.place at hr
  unfold cbsLocationChanged
  split at hr
  · exact absurd hr (some_ne_none _)
  · simp only [place, Prod.mk.injEq]

lemma cbsLocationChanged_some (hr : r.place = some p) :
    s.cbsLocationChanged r =
      if s.place.plmn ≠ p.plmn then
        out { s with mcc := p.plmn.1, mnc := p.plmn.2 } true false false
      else if s.lac ≠ p.lac then out { s with lac := p.lac } false true false
      else if s.ci ≠ p.ci then out { s with ci := p.ci } false false true
      else (none, s) := by
  unfold LocationReport.place at hr
  unfold cbsLocationChanged
  split at hr
  · rw [← some_inj.mp hr]
    simp only [place, ne_eq, Prod.mk.injEq, not_and_or]
  · exact absurd hr (some_ne_none _).symm

lemma reports_out (hstep : s.cbsLocationChanged r = s'.out plmn lac ci) (hne : r.place ≠ before) :
    Reports s before r ↔
      (∀ p, r.place = some p → s'.place = p) ∧ Covers before r.place plmn lac ci := by
  constructor
  · intro h
    refine ⟨fun p hp => ?_, h.covers plmn lac ci (by rw [hstep]; rfl)⟩
    rw [← h.recorded p hp, hstep, place_out]
  · intro ⟨hrecorded, hcovers⟩
    refine ⟨fun p hp => ?_, ?_, ?_, fun h => absurd h hne⟩
    · rw [hstep, place_out, hrecorded p hp]
    · rw [hstep]
      exact iff_of_true rfl hne
    · intro plmn' lac' ci' h
      rw [hstep] at h
      rcases CbsLocationCall.assemblyLocationChanged.inj (some_inj.mp h) with ⟨rfl, rfl, rfl⟩
      exact hcovers

lemma reports_quiet (hstep : s.cbsLocationChanged r = (none, s))
    (hrecorded : ∀ p, r.place = some p → s.place = p) : Reports s before r ↔ r.place = before := by
  constructor
  · intro h
    by_contra hne
    have hcalled := h.called.mpr hne
    rw [hstep] at hcalled
    exact Bool.false_ne_true hcalled
  · intro heq
    refine ⟨fun p hp => ?_, ?_, fun plmn lac ci h => ?_, fun _ => ?_⟩
    · rw [hstep, hrecorded p hp]
    · rw [hstep]
      exact iff_of_false Bool.false_ne_true (not_not.mpr heq)
    · rw [hstep] at h
      exact absurd h (some_ne_none _).symm
    · rw [hstep]

lemma covers_plmn (before after : Option Place) (lac ci : Bool) :
    Covers before after true lac ci := by
  unfold Covers
  split_ifs
  · rfl
  · exact Or.inl rfl
  · exact Or.inl rfl

/-! ## A step -/

lemma single_none (h : Inv (s, before)) (hr : r.place = none) :
    Reports s before r ∧ OneTimer (s.cbsLocationChanged r).2 ↔ Single s before r := by
  have hstep := cbsLocationChanged_none (s := s) hr
  unfold Single
  rw [hr]
  split_ifs at hstep with hcodes
  · rw [reports_quiet hstep fun p hp => absurd (hr.symm.trans hp) (some_ne_none p).symm, hr,
      hstep]
    constructor
    · intro ⟨hnone, _⟩ hsome
      rw [← hnone] at hsome
      exact absurd hsome Bool.false_ne_true
    · intro hmeets
      refine ⟨?_, h.timer⟩
      by_contra hne
      exact hmeets (isSome_iff_ne_none.mpr (Ne.symm hne)) hcodes
  · have hne : r.place ≠ before := by
      intro heq
      exact hcodes (h.nowhere (heq.symm.trans hr))
    rw [reports_out hstep hne, hstep, oneTimer_out]
    refine iff_of_true ⟨⟨fun p hp => ?_, covers_plmn _ _ _ _⟩, h.timer⟩ fun _ => hcodes
    exact absurd (hr.symm.trans hp) (some_ne_none p).symm

lemma single_within (h : Inv (s, before)) (hr : r.place = some p) (hplmn : s.place.plmn = p.plmn)
    (hne : s.place ≠ p) (hstep : s.cbsLocationChanged r = s'.out false lac ci)
    (hsources : s'.sources = s.sources) (hflags : (lac || ci) = true)
    (hcovers : s.lac ≠ p.lac → lac = true) (hplace : s'.place = p ↔ (p.lac ≠ s.lac → p.ci = s.ci)) :
    Reports s before r ∧ OneTimer (s.cbsLocationChanged r).2 ↔ Single s before r := by
  have hbefore : r.place ≠ before := by
    intro heq
    exact hne (h.recorded p (heq.symm.trans hr))
  have hrecorded : (∀ q, r.place = some q → s'.place = q) ↔ (p.lac ≠ s.lac → p.ci = s.ci) := by
    rw [← hplace, hr]
    exact ⟨fun h => h p rfl, fun h q hq => some_inj.mp hq ▸ h⟩
  rw [reports_out hstep hbefore, hstep, oneTimer_out, if_pos hflags, hsources, hrecorded]
  unfold Single Covers
  rw [hr]
  cases before with
  | none =>
    refine iff_of_false ?_ fun hmeets => ?_
    · rintro ⟨⟨_, hcov⟩, _⟩
      exact Bool.false_ne_true hcov
    · exact hmeets.1 rfl (hplmn.symm.trans (h.nowhere rfl))
  | some q =>
    have hq : s.place = q := h.recorded q rfl
    subst hq
    constructor
    · rintro ⟨⟨hci, _⟩, htimer⟩
      exact ⟨fun hnone => absurd hnone (some_ne_none _), fun hne => absurd hplmn.symm hne,
        hci, fun _ _ => htimer⟩
    · rintro ⟨_, _, hci, htimer⟩
      refine ⟨⟨hci, ?_⟩, htimer hplmn.symm hne.symm⟩
      split_ifs with hp hlac
      · exact absurd (congrArg some hplmn) hp
      · exact Or.inr (hcovers fun heq => hlac (congrArg some heq))
      · exact Or.inr (by simpa using hflags)

lemma single_some (h : Inv (s, before)) (hr : r.place = some p) :
    Reports s before r ∧ OneTimer (s.cbsLocationChanged r).2 ↔ Single s before r := by
  have hstep := cbsLocationChanged_some (s := s) hr
  split_ifs at hstep with hplmn hlac hci
  · have hne : r.place ≠ before := by
      intro heq
      exact hplmn (congrArg Place.plmn (h.recorded p (heq.symm.trans hr)))
    rw [reports_out hstep hne, hstep, oneTimer_out, hr]
    unfold Single
    rw [hr]
    constructor
    · rintro ⟨⟨hrecorded, _⟩, _⟩
      rcases Place.ext_iff.mp (hrecorded p rfl) with ⟨_, hlac, hci⟩
      refine ⟨fun hnone hcodes => ?_, fun _ => ⟨hlac.symm, hci.symm⟩, fun _ => hci.symm,
        fun heq => absurd heq.symm hplmn⟩
      exact hplmn ((h.nowhere hnone).trans hcodes.symm)
    · rintro ⟨_, hmeets, _⟩
      rcases hmeets (Ne.symm hplmn) with ⟨hlac, hci⟩
      refine ⟨⟨fun q hq => ?_, covers_plmn _ _ _ _⟩, h.timer⟩
      rw [← some_inj.mp hq]
      exact Place.ext rfl hlac.symm hci.symm
  · refine single_within h hr (not_not.mp hplmn) (fun heq => hlac (congrArg Place.lac heq)) hstep rfl
      rfl (fun _ => rfl) ?_
    rw [Place.ext_iff]
    exact ⟨fun hplace _ => hplace.2.2.symm, fun hci => ⟨not_not.mp hplmn, rfl, (hci (Ne.symm hlac)).symm⟩⟩
  · refine single_within h hr (not_not.mp hplmn) (fun heq => hci (congrArg Place.ci heq)) hstep rfl
      rfl (fun hne => absurd hne hlac) ?_
    rw [Place.ext_iff]
    exact ⟨fun _ hne => absurd (not_not.mp hlac).symm hne, fun _ => ⟨not_not.mp hplmn, not_not.mp hlac, rfl⟩⟩
  · have hplace : s.place = p := Place.ext (not_not.mp hplmn) (not_not.mp hlac) (not_not.mp hci)
    rw [reports_quiet hstep fun q hq => hplace.trans (some_inj.mp (hr.symm.trans hq)), hstep, hr]
    unfold Single
    rw [hr]
    subst hplace
    cases before with
    | none =>
      refine iff_of_false (fun hquiet => absurd hquiet.1 (some_ne_none _)) fun hmeets => ?_
      exact hmeets.1 rfl (h.nowhere rfl)
    | some q =>
      refine iff_of_true ⟨congrArg some (h.recorded q rfl), h.timer⟩
        ⟨fun hnone => absurd hnone (some_ne_none _), fun hne => absurd rfl hne,
          fun hne => absurd rfl hne, fun _ hne => absurd rfl hne⟩

lemma single_iff (h : Inv (s, before)) :
    Reports s before r ∧ OneTimer (s.cbsLocationChanged r).2 ↔ Single s before r := by
  cases hr : r.place with
  | none => exact single_none h hr
  | some p => exact single_some h hr

lemma OneTimer.expire (h : s.OneTimer) (source : ℕ) : (s.step (.expire source)).2.OneTimer := by
  unfold step
  dsimp only
  split_ifs with hmem
  · -- the only source that can expire is the only one there is
    left
    rcases h with hnil | hone
    · rw [hnil] at hmem
      exact absurd hmem List.not_mem_nil
    · rw [hone] at hmem
      change s.sources.erase source = []
      rw [hone, List.mem_singleton.mp hmem, List.erase_cons_head]
  · exact h

lemma place_expire (source : ℕ) : (s.step (.expire source)).2.place = s.place := by
  unfold step
  dsimp only
  split_ifs <;> rfl

variable {t : CbsLocation × Option Place} {e : CbsLocationEvent}

lemma promised_iff (h : Inv t) : Promised t e ↔ Meets t e := by
  unfold Promised Meets
  cases e with
  | expire source =>
    exact iff_of_true ⟨fun r hr => CbsLocationEvent.noConfusion hr, h.timer.expire source⟩
      fun r hr => CbsLocationEvent.noConfusion hr
  | report r =>
    have hstep := single_iff (r := r) h
    constructor
    · rintro ⟨hreports, htimer⟩ r' hr'
      rw [← CbsLocationEvent.report.inj hr']
      exact hstep.mp ⟨hreports r rfl, htimer⟩
    · intro hmeets
      rcases hstep.mpr (hmeets r rfl) with ⟨hreports, htimer⟩
      refine ⟨fun r' hr' => ?_, htimer⟩
      rw [← CbsLocationEvent.report.inj hr']
      exact hreports

lemma Inv.follow (h : Inv t) (hp : Promised t e) : Inv (follow t e).2 := by
  cases e with
  | expire source =>
    refine ⟨fun p hp => ?_, fun hnone => ?_, h.timer.expire source⟩
    · exact (place_expire source).trans (h.recorded p hp)
    · exact (congrArg Place.plmn (place_expire source)).trans (h.nowhere hnone)
  | report r =>
    refine ⟨(hp.1 r rfl).recorded, fun hnone => ?_, hp.2⟩
    change (t.1.cbsLocationChanged r).2.place.plmn = _
    rw [cbsLocationChanged_none hnone]
    split_ifs with hcodes
    · exact hcodes
    · rw [place_out]
      rfl

lemma inv_netregWatch (assembly : CbsAssembly) (r : LocationReport) :
    Inv ((start assembly).netregWatch r, r.place) := by
  unfold netregWatch LocationReport.place
  refine ⟨fun p hp => ?_, fun hnone => ?_, Or.inl ?_⟩
  · dsimp only at hp ⊢
    split at hp
    · rw [← some_inj.mp hp]
      rfl
    · exact absurd hp (some_ne_none p).symm
  · dsimp only at hnone ⊢
    split at hnone
    · exact absurd hnone (some_ne_none _)
    · rfl
  · dsimp only
    split <;> rfl

/-- From the moment the network registers all is as promised exactly as long as every report
differs from what is recorded in one respect at most and no timer is running when the area or
the cell changes. -/
theorem location_followed_iff (assembly : CbsAssembly) (r : LocationReport)
    (events : List CbsLocationEvent) : AllSteps follow Promised ((start assembly).netregWatch r,
    r.place) events ↔ AllSteps follow Meets ((start assembly).netregWatch r, r.place) events := by
  have hiff : ∀ t e, Inv t → (Promised t e ↔ Meets t e) := fun t e => promised_iff
  exact Machine.allSteps_iff hiff (fun t e => Inv.follow) (inv_netregWatch assembly r)

/-- The network 262 01, whose last digit is given, and a place in it. -/
def sampleReport (digit : UInt8) (lac ci : ℤ) : LocationReport :=
  { status := 1, lac := lac, ci := ci, tech := 2
    mcc := CString.store 4 [0x32, 0x36, 0x32], mnc := CString.store 4 [0x30, digit] }

/-- Of a new network and cell only the network is recorded, and when the area changes twice two
timers run. -/
theorem roaming_not_followed :
    ¬ AllSteps follow Promised ((start cbsAssemblyNew).netregWatch (sampleReport 0x31 5 7),
    (sampleReport 0x31 5 7).place) [.report (sampleReport 0x32 6 8)] ∧ ¬ AllSteps follow Promised
    ((start cbsAssemblyNew).netregWatch (sampleReport 0x31 5 7), (sampleReport 0x31 5 7).place)
    [.report (sampleReport 0x31 6 7), .report (sampleReport 0x31 8 7)] := by
  constructor
  · rintro ⟨⟨hreports, _⟩, _⟩
    have hlac := congrArg Place.lac ((hreports _ rfl).recorded _ rfl)
    exact absurd hlac (by decide)
  · rintro ⟨_, ⟨_, htimer⟩, _⟩
    rcases htimer with hnil | hone
    · exact absurd (congrArg List.length hnil) (by decide)
    · exact absurd (congrArg List.length hone) (by decide)

end CbsLocation

end Phonelets.Sms
