import Phonelets.Modem.Power

/-! # Runs of a modem

Beside the modem the session keeps what the properties were when the pending request came.
What another party changes in the meantime is not held against the request, so it is changed
there too. A request is wronged when it is answered with an error though it has left a
property changed.

The requests set the SAP type, and power off, before they know whether they will succeed; the
driver, a timer and a reset answer for a request that has done so. What has to be met for no
request to be wronged is `Session.Sound`.
-/

namespace Phonelets.Modem

open List Option

/-! ## The session -/

/-- What a request that fails has to leave as it was. -/
structure Fields where
  powered : Bool
  online : Bool
  lockdown : Bool
  modemState : ModemState
  sapType : Option String
deriving DecidableEq

/-- The fields `b` of an earlier time, with what has changed from `old` to `new`. -/
def Fields.follow (b old new : Fields) : Fields where
  powered := if new.powered = old.powered then b.powered else new.powered
  online := if new.online = old.online then b.online else new.online
  lockdown := if new.lockdown = old.lockdown then b.lockdown else new.lockdown
  modemState := if new.modemState = old.modemState then b.modemState else new.modemState
  sapType := if new.sapType = old.sapType then b.sapType else new.sapType

def OfonoModem.fields (m : OfonoModem) : Fields where
  powered := m.powered
  online := m.online
  lockdown := m.lockdown
  modemState := m.modemState
  sapType := m.sapType

/-- An error has been sent between `m` and `m'`. -/
def OfonoModem.refused (m m' : OfonoModem) : Bool :=
  (m'.sent.drop m.sent.length).any fun r => r.2 ≠ .ok

/-- A modem, what the pending request found, and whether a request was answered with an error
though it had changed something. -/
structure Session where
  modem : OfonoModem
  before : Fields
  wronged : Bool

namespace Session

open OfonoModem

def start : Session := ⟨.start, OfonoModem.start.fields, false⟩

/-- What the request that an event may answer found: a new request finds what there is, and a
timer is part of the request that started it. -/
def found (s : Session) (m : OfonoModem) : Event → Fields
  | .setProperty _ => s.modem.fields
  | .timeout _ => s.before
  | _ => s.before.follow s.modem.fields m.fields

/-- What the pending request found, after an event. -/
def keep (s : Session) (m : OfonoModem) : Event → Fields
  | .setProperty _ =>
    if s.modem.pending = none then s.modem.fields
    else s.before.follow s.modem.fields m.fields
  | .timeout _ => s.before
  | _ => s.before.follow s.modem.fields m.fields

/-- The request that an event answers is wronged. -/
def wrongs (s : Session) (m : OfonoModem) (e : Event) : Bool :=
  s.modem.refused m && decide (s.found m e ≠ m.fields)

/-- The session once the modem has come to `m` by the event. -/
def after (s : Session) (e : Event) (m : OfonoModem) : Session :=
  ⟨m, s.keep m e, s.wronged || s.wrongs m e⟩

def step (d : ModemDriver) (s : Session) (e : Event) : Option Session :=
  (s.modem.handle d e).map (s.after e)

/-- What holds after every event. Each message received has one answer, or it is the pending
one, and then there is a callback or a timer that will answer it. -/
structure Good (s : Session) : Prop where
  off : s.modem.powered = false → s.modem.modemState = .powerOff ∧ s.modem.online = false
  on : s.modem.modemState = .online → s.modem.online = true
  once : ∀ id, (s.modem.sent.map Prod.fst).count id + s.modem.pending.toList.count id =
    if id < s.modem.received then 1 else 0
  served : s.modem.pending ≠ none →
    (∃ cb ∈ s.modem.callbacks, cb ≠ .common) ∨ s.modem.timers ≠ []
  kept : s.wronged = false

/-! ## What the steps have to meet -/

/-- The request for `Powered` comes to `set_powered` and changes the direction. -/
def Switches (m : OfonoModem) (powered : Bool) : Prop :=
  m.pending = none ∧ m.powered ≠ powered ∧ m.emergency = 0 ∧ m.lockdown = false ∧
    m.poweredPending ≠ powered

/-- The request for `Powered` is answered with an error at once. -/
def PoweredRefused (m : OfonoModem) (powered : Bool) (result : DriverResult) : Prop :=
  m.pending ≠ none ∨ (m.powered ≠ powered ∧
    (m.emergency ≠ 0 ∨ m.lockdown = true ∨ m.poweredPending = powered ∨ result = .error))

/-- A request for `Powered` that is refused asks for the SAP type that is set, and where the
driver cannot be disabled the modem is in the off state already. -/
def PoweredSound (m : OfonoModem) (p : SetProperty) : Prop :=
  ∀ powered, p.value = some powered → PoweredRefused m powered p.result →
    m.sapType = some p.type ∧
      (Switches m powered → powered = false → m.modemState = .powerOff)

/-- Where the driver cannot be disabled for a lockdown the modem is in the off state already. -/
def LockdownSound (m : OfonoModem) (p : SetProperty) : Prop :=
  p.value = some true → Switches m false → p.watch = true → p.result = .error →
    m.modemState = .powerOff

/-- What an event has to meet. -/
def Sound (s : Session) : Event → Prop
  | .setProperty p =>
    (p.name = "Powered" → PoweredSound s.modem p) ∧
      (p.name = "Lockdown" → LockdownSound s.modem p)
  | .setPowered powered =>
    s.modem.pending ≠ none → s.modem.poweredPending ≠ s.modem.powered →
      powered ≠ s.modem.poweredPending → s.before = s.modem.fields
  | .timeout id =>
    id ∈ s.modem.timers → s.modem.pending ≠ none →
      (s.modem.poweredPending = true ∨ s.modem.powered = false) ∧
        s.before = { s.modem.fields with lockdown := false }
  | .callback i error =>
    ∀ cb, s.modem.callbacks[i]? = some cb → cb ≠ .common →
      (cb = .offline → s.modem.pending ≠ none) ∧
        (error = true → s.modem.pending ≠ none → s.before = s.modem.fields)
  | .reset result =>
    result ≠ .error ∧ (s.modem.pending ≠ none →
      s.before.lockdown = s.modem.lockdown ∧ s.before.sapType = s.modem.sapType ∧
        (result = .inProgress → s.before.modemState = s.modem.modemState))
  | _ => True

end Session

/-! ## Fields of an earlier time -/

namespace Fields

lemma follow_self (b f : Fields) : b.follow f f = b := by
  simp [follow]

/-- What a pending request found differs at most in the SAP type, in the lockdown and by the
step to the off state. -/
structure Close (b f : Fields) : Prop where
  powered : b.powered = f.powered
  online : b.online = f.online
  modemState : b.modemState = f.modemState ∨ f.modemState = .powerOff

lemma Close.refl (f : Fields) : Close f f := ⟨rfl, rfl, .inl rfl⟩

lemma Close.follow {b old : Fields} (h : Close b old) (new : Fields) :
    Close (b.follow old new) new := by
  constructor
  · show (if _ then _ else _) = _
    split
    · next heq => rw [h.powered, heq]
    · rfl
  · show (if _ then _ else _) = _
    split
    · next heq => rw [h.online, heq]
    · rfl
  · show (if _ then _ else _) = _ ∨ _
    split
    · next heq =>
        rw [heq]
        exact h.modemState
    · exact .inl rfl

end Fields

namespace OfonoModem

variable {m : OfonoModem}

lemma refused_of_append {m' : OfonoModem} {l : List (ℕ × Reply)}
    (h : m'.sent = m.sent ++ l) : m.refused m' = l.any fun r => r.2 ≠ .ok := by
  rw [refused, h, drop_left]

/-! ## The state of the modem -/

/-- The SIM atom was created in a state that the modem has not gone below. -/
def SimKept (m : OfonoModem) : Prop :=
  ∀ created, m.sim = some created → 0 < created.rank ∧ created.rank ≤ m.modemState.rank

lemma SimKept.off (h : m.SimKept) (hoff : m.modemState = .powerOff) : m.sim = none := by
  cases hsim : m.sim with
  | none => rfl
  | some created =>
    have hrank := h created hsim
    rw [hoff] at hrank
    have hzero : ModemState.powerOff.rank = 0 := rfl
    omega

variable {m : OfonoModem}

/-- The state and the SIM atom are all that `modem_change_state` changes. -/
lemma modemChangeState_eq (d : ModemDriver) (h : m.SimKept) (newState : ModemState) :
    ∃ sim, modemChangeState d m newState = { m with modemState := newState, sim := sim } ∧
      SimKept { m with modemState := newState, sim := sim } := by
  have hprobe : ∀ m' : OfonoModem, m'.modemState = newState → m'.SimKept → ∃ sim,
      probe d m' m.modemState = { m' with sim := sim } ∧ SimKept { m' with sim := sim } := by
    intro m' hstate hkept
    unfold probe
    split
    · next hpre =>
        refine ⟨_, rfl, ?_⟩
        intro created hcreated
        cases hcreated
        show 0 < 1 ∧ 1 ≤ m'.modemState.rank
        rw [hpre.1]
        exact ⟨Nat.zero_lt_one, Nat.le_refl 1⟩
    · exact ⟨m'.sim, rfl, hkept⟩
  unfold modemChangeState
  split
  · next hsame =>
      refine ⟨m.sim, ?_, ?_⟩
      · rw [← hsame]
      · rw [← hsame]
        exact h
  · split
    · refine hprobe (flushAtoms { m with modemState := newState } newState) rfl ?_
      intro created hcreated
      rcases filter_eq_some_iff.mp hcreated with ⟨hsim, hle⟩
      exact ⟨(h created hsim).1, of_decide_eq_true hle⟩
    · next hle =>
        refine hprobe { m with modemState := newState } rfl ?_
        intro created hcreated
        have hrank := h created hcreated
        exact ⟨hrank.1, by show created.rank ≤ newState.rank; omega⟩

lemma modemChangeState_powerOff (d : ModemDriver) (h : m.SimKept) :
    modemChangeState d m .powerOff = { m with modemState := .powerOff, sim := none } := by
  rcases modemChangeState_eq d h .powerOff with ⟨sim, heq, hkept⟩
  have hnone := hkept.off rfl
  rw [heq]
  dsimp only at hnone
  rw [hnone]

/-- From `m` to `m'` only the state, the SIM atom, `online` and what goes with it change. -/
structure Changes (m m' : OfonoModem) : Prop where
  same : m' =
    { m with
      modemState := m'.modemState
      sim := m'.sim
      online := m'.online
      getOnline := m'.getOnline
      callbacks := m'.callbacks }
  callbacks : m.callbacks ⊆ m'.callbacks

/-- Such a change that keeps what holds of the SIM atom and of `online`. -/
structure Moves (m m' : OfonoModem) : Prop extends Changes m m' where
  sim : m.SimKept → m'.SimKept
  on : (m.modemState = .online → m.online = true) → m'.modemState = .online → m'.online = true

lemma Moves.refl (m : OfonoModem) : Moves m m := ⟨⟨rfl, fun _ h => h⟩, id, id⟩

lemma Moves.trans {m' m'' : OfonoModem} (h : Moves m m') (h' : Moves m' m'') : Moves m m'' := by
  refine ⟨⟨?_, fun _ hcb => h'.callbacks (h.callbacks hcb)⟩, fun hs => h'.sim (h.sim hs),
    fun ho => h'.on (h.on ho)⟩
  have heq := h'.same
  rw [h.same] at heq
  exact heq

lemma setOnline_moves {newOnline : Bool}
    (h : m.modemState = .online → newOnline = true) : Moves m (setOnline m newOnline) :=
  ⟨⟨rfl, fun _ hcb => hcb⟩, id, fun _ => h⟩

lemma modemChangeState_moves (d : ModemDriver) (h : m.SimKept) {newState : ModemState}
    (hon : newState = .online → m.online = true) : Moves m (modemChangeState d m newState) ∧
    (modemChangeState d m newState).modemState = newState := by
  rcases modemChangeState_eq d h newState with ⟨sim, heq, hkept⟩
  rw [heq]
  exact ⟨⟨⟨rfl, fun _ hcb => hcb⟩, fun _ => hkept, fun _ => hon⟩, rfl⟩

lemma simReady_moves (d : ModemDriver) (h : m.SimKept) : Moves m (simReady d m) ∧
      (m.modemState ≠ .powerOff → (simReady d m).modemState ≠ .powerOff) := by
  unfold simReady
  split
  · next honline =>
      rcases modemChangeState_moves d h (fun _ => honline) with ⟨hmoves, hstate⟩
      refine ⟨hmoves.trans ⟨⟨rfl, fun _ hcb => hcb⟩, id, id⟩, ?_⟩
      intro _ hoff
      rw [hstate] at hoff
      cases hoff
  · split
    · exact ⟨⟨⟨rfl, subset_append_left _ _⟩, id, id⟩, id⟩
    · exact ⟨.refl m, id⟩

lemma simStateWatch_ready (d : ModemDriver) (h : m.SimKept) :
    Moves m (simStateWatch d m .ready) ∧ (simStateWatch d m .ready).modemState ≠ .powerOff := by
  rcases modemChangeState_moves d h
      (fun h => nomatch h : ModemState.offline = .online → m.online = true) with ⟨hmoves, hstate⟩
  have hup : (modemChangeState d m .offline).modemState ≠ .powerOff := by
    rw [hstate]
    exact fun h => nomatch h
  dsimp only [simStateWatch]
  split
  · have honline : Moves m (setOnline (modemChangeState d m .offline) true) :=
      hmoves.trans (setOnline_moves fun _ => rfl)
    rcases simReady_moves d (honline.sim h) with ⟨hready, hstays⟩
    exact ⟨honline.trans hready, hstays hup⟩
  · rcases simReady_moves d (hmoves.sim h) with ⟨hready, hstays⟩
    exact ⟨hmoves.trans hready, hstays hup⟩

lemma toPreSim_moves (d : ModemDriver) (h : m.SimKept) : Moves m (modemChangeState d m .preSim) ∧
      (modemChangeState d m .preSim).modemState ≠ .powerOff := by
  rcases modemChangeState_moves d h
      (fun h => nomatch h : ModemState.preSim = .online → m.online = true) with ⟨hmoves, hstate⟩
  refine ⟨hmoves, ?_⟩
  rw [hstate]
  exact fun h => nomatch h

lemma simStateWatch_moves (d : ModemDriver) (h : m.SimKept) (hup : m.modemState ≠ .powerOff)
    (newState : SimState) :
    Moves m (simStateWatch d m newState) ∧ (simStateWatch d m newState).modemState ≠ .powerOff := by
  cases newState with
  | notPresent => exact toPreSim_moves d h
  | inserted => exact ⟨.refl m, hup⟩
  | lockedOut => exact toPreSim_moves d h
  | ready => exact simStateWatch_ready d h
  | resetting => exact ⟨.refl m, hup⟩

lemma poweredOn_moves (d : ModemDriver) (h : m.SimKept) :
    Moves m (poweredOn d m) ∧ (poweredOn d m).modemState ≠ .powerOff := by
  rcases toPreSim_moves d h with ⟨hmoves, hup⟩
  unfold poweredOn
  split
  · rcases simStateWatch_ready d (hmoves.sim h) with ⟨hready, hstays⟩
    exact ⟨hmoves.trans hready, hstays⟩
  · exact ⟨hmoves, hup⟩

/-- `common_online_cb` does nothing in the off state and does not lead there. -/
lemma commonOnlineCb_moves (d : ModemDriver) (h : m.SimKept) (error : Bool) :
    Moves m (commonOnlineCb d m error) ∧ (m.modemState = .powerOff → commonOnlineCb d m error = m) ∧
    (m.modemState ≠ .powerOff → (commonOnlineCb d m error).modemState ≠ .powerOff) := by
  unfold commonOnlineCb
  split
  · exact ⟨.refl m, fun _ => rfl, id⟩
  · split
    · next hstate =>
        have honline : Moves m (setOnline m true) := setOnline_moves fun _ => rfl
        rcases modemChangeState_moves d (honline.sim h)
            (fun _ => rfl : ModemState.online = .online → (setOnline m true).online = true) with
          ⟨hmoves, hnew⟩
        refine ⟨honline.trans hmoves, ?_, ?_⟩
        · intro hoff
          rw [hstate] at hoff
          cases hoff
        · intro _
          rw [hnew]
          exact fun h => nomatch h
    · exact ⟨.refl m, fun _ => rfl, id⟩
    · next hstate =>
        refine ⟨setOnline_moves fun _ => rfl, ?_, id⟩
        intro hoff
        rw [hstate] at hoff
        cases hoff
    · exact ⟨.refl m, fun _ => rfl, id⟩

lemma wentOffline_moves (d : ModemDriver) (h : m.SimKept) : Moves m (wentOffline d m) ∧
      (m.modemState = .powerOff → wentOffline d m = m) ∧
      (m.modemState ≠ .powerOff → (wentOffline d m).modemState ≠ .powerOff) := by
  unfold wentOffline
  split
  · next hstate =>
      refine ⟨setOnline_moves ?_, ?_, id⟩
      · intro honline
        rw [hstate] at honline
        cases honline
      · intro hoff
        rw [hstate] at hoff
        cases hoff
  · next hstate =>
      rcases modemChangeState_eq d (m := setOnline m false) h .offline with ⟨sim, heq, hkept⟩
      rw [heq]
      refine ⟨⟨⟨rfl, fun _ hcb => hcb⟩, fun _ => hkept, fun _ hon => nomatch hon⟩, ?_, ?_⟩
      · intro hoff
        rw [hstate] at hoff
        cases hoff
      · exact fun _ hoff => nomatch hoff
  · exact ⟨.refl m, fun _ => rfl, id⟩

/-! ## Accounts -/

/-- Every message received has one answer, is pending or is one of `asked`, and a pending one
will be answered by a callback of the driver, or by a timer or the driver itself. -/
structure Accounted (m : OfonoModem) (asked : List ℕ) : Prop where
  once : ∀ id, (m.sent.map Prod.fst).count id + m.pending.toList.count id + asked.count id =
    if id < m.received then 1 else 0
  served : m.pending ≠ none →
    (∃ cb ∈ m.callbacks, cb ≠ .common) ∨ (m.timers ≠ [] ∧ m.poweredPending ≠ m.powered)

namespace Accounted

variable {m m' : OfonoModem} {asked : List ℕ} {msg : ℕ}

lemma receive (h : Accounted m []) :
    Accounted { m with received := m.received + 1 } [m.received] := by
  refine ⟨?_, h.served⟩
  intro id
  have honce := h.once id
  rw [count_nil, Nat.add_zero] at honce
  show (m.sent.map Prod.fst).count id + m.pending.toList.count id + [m.received].count id =
    if id < m.received + 1 then 1 else 0
  rw [honce, count_singleton]
  grind

lemma answer (h : Accounted m [msg]) (reply : Reply) : Accounted (m.answer msg reply) [] := by
  refine ⟨?_, h.served⟩
  intro id
  have honce := h.once id
  show ((m.sent ++ [(msg, reply)]).map Prod.fst).count id + m.pending.toList.count id + 0 =
    if id < m.received then 1 else 0
  rw [map_append, count_append]
  show _ + [msg].count id + _ + 0 = _
  omega

lemma pendingReply (h : Accounted m asked) (reply : Reply) :
    Accounted (m.pendingReply reply) asked := by
  refine ⟨?_, fun hpending => absurd rfl hpending⟩
  intro id
  have honce := h.once id
  show ((m.sent ++ m.pending.toList.map fun msg => (msg, reply)).map Prod.fst).count id + 0 +
    asked.count id = if id < m.received then 1 else 0
  rw [map_append, count_append, List.map_map]
  have hid : (m.pending.toList.map (Prod.fst ∘ fun msg => (msg, reply))) = m.pending.toList :=
    map_id _
  rw [hid]
  omega

lemma wait (h : Accounted m [msg]) (hpending : m.pending = none)
    (hgoing : m.poweredPending ≠ m.powered) : Accounted (m.wait msg) [] := by
  refine ⟨?_, fun _ => .inr ⟨cons_ne_nil _ _, hgoing⟩⟩
  intro id
  have honce := h.once id
  rw [hpending] at honce
  show (m.sent.map Prod.fst).count id + [msg].count id + 0 = if id < m.received then 1 else 0
  have hnone : (none : Option ℕ).toList.count id = 0 := rfl
  omega

/-- What is not part of the accounts may change; a pending message keeps what serves it. -/
lemma frame (h : Accounted m asked) (hsent : m'.sent = m.sent) (hpending : m'.pending = m.pending)
    (hreceived : m'.received = m.received) (hserved : m.pending ≠ none → (∃ cb ∈ m'.callbacks, cb ≠
    .common) ∨ (m'.timers ≠ [] ∧ m'.poweredPending ≠ m'.powered)) : Accounted m' asked := by
  refine ⟨?_, ?_⟩
  · rw [hsent, hpending, hreceived]
    exact h.once
  · rw [hpending]
    exact hserved

lemma changes (h : Accounted m asked) (hchanges : Changes m m') : Accounted m' asked := by
  have hsame := hchanges.same
  refine h.frame (by rw [hsame]) (by rw [hsame]) (by rw [hsame]) ?_
  intro hpending
  rcases h.served hpending with ⟨cb, hcb, hne⟩ | htimer
  · exact .inl ⟨cb, hchanges.callbacks hcb, hne⟩
  · right
    rw [hsame]
    exact htimer

lemma idle (h : Accounted m asked) (hidle : m.pending = none) (hsent : m'.sent = m.sent) (hpending
    : m'.pending = m.pending) (hreceived : m'.received = m.received) : Accounted m' asked :=
  h.frame hsent hpending hreceived fun hne => absurd hidle hne

end Accounted

/-! ## What holds of the state -/

/-- A modem that is off, or is being powered off, is in the off state. -/
structure Core (m : OfonoModem) : Prop where
  off : m.powered = false → m.modemState = .powerOff ∧ m.online = false
  on : m.modemState = .online → m.online = true
  going : m.poweredPending = false → m.modemState = .powerOff
  sim : m.SimKept

namespace Core

variable {m m' : OfonoModem}

lemma of_powered (hpowered : m.powered = true) (hgoing : m.poweredPending = true)
    (hon : m.modemState = .online → m.online = true) (hsim : m.SimKept) : Core m := by
  refine ⟨?_, hon, ?_, hsim⟩
  · intro hoff
    rw [hpowered] at hoff
    cases hoff
  · intro hoff
    rw [hgoing] at hoff
    cases hoff

lemma simKept_off (hoff : m.sim = none) : m.SimKept := by
  intro created hcreated
  rw [hoff] at hcreated
  cases hcreated

lemma of_powerOff (hstate : m.modemState = .powerOff) (hsim : m.sim = none)
    (honline : m.powered = false → m.online = false) : Core m := by
  refine ⟨fun hoff => ⟨hstate, honline hoff⟩, ?_, fun _ => hstate, simKept_off hsim⟩
  intro hon
  rw [hstate] at hon
  cases hon

lemma powered_of_up (h : Core m) (hup : m.modemState ≠ .powerOff) :
    m.powered = true ∧ m.poweredPending = true := by
  constructor
  · by_contra hoff
    exact hup (h.off (eq_false_of_ne_true hoff)).1
  · by_contra hoff
    exact hup (h.going (eq_false_of_ne_true hoff))

lemma moves (h : Core m) (hmoves : Moves m m') (hup : m.modemState ≠ .powerOff) : Core m' := by
  rcases h.powered_of_up hup with ⟨hpowered, hgoing⟩
  have hsame := hmoves.same
  refine of_powered ?_ ?_ (hmoves.on h.on) (hmoves.sim h.sim)
  · rw [hsame]
    exact hpowered
  · rw [hsame]
    exact hgoing

end Core

/-- The modem once `set_powered` has gone into a direction. -/
def turned (m : OfonoModem) (powered : Bool) : OfonoModem :=
  if powered then m else { m with modemState := .powerOff, sim := none }

/-- The modem behind `set_powered` with this result of the driver. -/
def switched (m : OfonoModem) (powered : Bool) (result : DriverResult) : OfonoModem :=
  { turned m powered with
    poweredPending := if result = .error then m.powered else powered
    powered := if result = .ok then powered else m.powered }

/-- `set_powered` in the other direction, and in the one that it has taken already. -/
lemma setPowered_cases (d : ModemDriver) (h : m.SimKept) (powered : Bool) (result : DriverResult) :
    (m.poweredPending = powered ∧ setPowered d m powered result = (.error, m)) ∨ (m.poweredPending ≠
    powered ∧ setPowered d m powered result = (result, switched m powered result)) := by
  unfold setPowered
  split
  · next hsame => exact .inl ⟨hsame, rfl⟩
  · next hother =>
      refine .inr ⟨hother, ?_⟩
      have hturned : (if powered = true then m else modemChangeState d m .powerOff) =
          turned m powered := by
        rw [modemChangeState_powerOff d h]
        rfl
      have hpowered : (turned m powered).powered = m.powered := by
        unfold turned
        split <;> rfl
      unfold switched
      cases result
      all_goals
        dsimp only
        rw [hturned]
        simp [hpowered]

/-- Going into the other direction, before the driver is done or when it fails. -/
lemma Core.switched (h : Core m) {powered : Bool} (hne : m.powered ≠ powered)
    {result : DriverResult} (hresult : result ≠ .ok) : Core (switched m powered result) := by
  have hpowered : (OfonoModem.switched m powered result).powered = m.powered := if_neg hresult
  cases powered with
  | true =>
    have hoff : m.powered = false := eq_false_of_ne_true hne
    exact ⟨fun _ => h.off hoff, h.on, fun _ => (h.off hoff).1, h.sim⟩
  | false =>
    refine of_powerOff rfl rfl ?_
    intro hoff
    exact absurd (hpowered.symm.trans hoff) hne

lemma Core.poweredOff (d : ModemDriver) (h : m.SimKept) :
    poweredOff d m = { m with online := false, modemState := .powerOff, sim := none } :=
  modemChangeState_powerOff d (m := setOnline m false) h

lemma Core.poweredChanged (d : ModemDriver) {powered : Bool} (h : m.SimKept)
    (hpowered : m.powered = powered) (hgoing : m.poweredPending = powered)
    (hon : m.modemState = .online → m.online = true) : Core (poweredChanged d m powered) := by
  cases powered with
  | true =>
    rcases poweredOn_moves d h with ⟨hmoves, -⟩
    have hsame := hmoves.same
    refine of_powered (m := poweredOn d m) ?_ ?_ (hmoves.on hon) (hmoves.sim h)
    · rw [hsame]
      exact hpowered
    · rw [hsame]
      exact hgoing
  | false =>
    show Core (OfonoModem.poweredOff d m)
    rw [Core.poweredOff d h]
    exact of_powerOff rfl rfl fun _ => rfl

lemma poweredChanged_changes (d : ModemDriver) (h : m.SimKept)
    (powered : Bool) : Changes m (poweredChanged d m powered) := by
  cases powered with
  | true => exact (poweredOn_moves d h).1.toChanges
  | false =>
    show Changes m (OfonoModem.poweredOff d m)
    rw [Core.poweredOff d h]
    exact ⟨rfl, fun _ hcb => hcb⟩

end OfonoModem

namespace Session

open OfonoModem

/-! ## Outcomes -/

/-- What every step preserves. -/
structure Inv (s : Session) : Prop where
  core : Core s.modem
  accounts : Accounted s.modem []
  close : s.modem.pending ≠ none → Fields.Close s.before s.modem.fields
  kept : s.wronged = false

lemma Inv.good {s : Session} (h : Inv s) : Good s := by
  refine ⟨h.core.off, h.core.on, ?_, ?_, h.kept⟩
  · intro id
    have honce := h.accounts.once id
    rw [count_nil, Nat.add_zero] at honce
    exact honce
  · intro hpending
    rcases h.accounts.served hpending with hcb | htimer
    · exact .inl hcb
    · exact .inr htimer.1

/-- What a step from `s` by `e` to the modem `m` has to show. -/
structure Outcome (s : Session) (e : Event) (m : OfonoModem) : Prop where
  accounts : Accounted m []
  close : m.pending ≠ none → Fields.Close (s.keep m e) m.fields
  sound : s.Sound e → Core m ∧ s.wrongs m e = false
  unsound : ¬ s.Sound e → s.wrongs m e = true ∨
    ¬ (m.powered = false → m.modemState = .powerOff ∧ m.online = false)

section Requests

variable {s : Session} {p : SetProperty} {m : OfonoModem}

lemma Outcome.answered (h : Inv s) {reply : Reply} (hsent : m.sent =
    s.modem.sent ++ [(s.modem.received, reply)]) (hpending : m.pending = s.modem.pending)
    (hcore : Core m) (haccounts : Accounted m []) (hsound : s.Sound (.setProperty p) ↔
    (reply = .ok ∨ s.modem.fields = m.fields)) : Outcome s (.setProperty p) m := by
  have hwrongs : s.wrongs m (.setProperty p) =
      (decide (reply ≠ .ok) && decide (s.modem.fields ≠ m.fields)) := by
    show (s.modem.refused m && _) = _
    rw [refused_of_append hsent, any_cons, any_nil, Bool.or_false]
    rfl
  refine ⟨haccounts, ?_, ?_, ?_⟩
  · intro hne
    rw [hpending] at hne
    show Fields.Close (if s.modem.pending = none then _ else _) _
    rw [if_neg hne]
    exact (h.close hne).follow _
  · intro hmet
    refine ⟨hcore, ?_⟩
    rw [hwrongs]
    rcases hsound.mp hmet with hok | hsame
    · simp [hok]
    · simp [hsame]
  · intro hmissed
    left
    rw [hwrongs]
    rw [hsound, not_or] at hmissed
    simp [hmissed.1, hmissed.2]

lemma Outcome.waits (hidle : s.modem.pending = none) (hsent : m.sent = s.modem.sent)
    (hcore : Core m) (haccounts : Accounted m []) (hclose : Fields.Close s.modem.fields m.fields)
    (hsound : s.Sound (.setProperty p)) : Outcome s (.setProperty p) m := by
  refine ⟨haccounts, ?_, ?_, fun hmissed => absurd hsound hmissed⟩
  · intro _
    show Fields.Close (if s.modem.pending = none then _ else _) _
    rw [if_pos hidle]
    exact hclose
  · intro _
    refine ⟨hcore, ?_⟩
    show (s.modem.refused m && _) = false
    rw [refused_of_append (l := []) (by rw [hsent, append_nil])]
    rfl

/-! ## Requests for Online -/

lemma Outcome.plain (h : Inv s) (reply : Reply) (hsound : s.Sound (.setProperty p)) :
    Outcome s (.setProperty p)
      (answer { s.modem with received := s.modem.received + 1 } s.modem.received reply) :=
  .answered h rfl rfl ⟨h.core.off, h.core.on, h.core.going, h.core.sim⟩
    (h.accounts.receive.answer reply) ⟨fun _ => .inr rfl, fun _ => hsound⟩

lemma setPropertyOnline_outcome (d : ModemDriver) (h : Inv s) (hsound : s.Sound (.setProperty p))
    : Outcome s (.setProperty p) (setPropertyOnline d { s.modem with received := s.modem.received +
    1 } s.modem.received p.value) := by
  unfold setPropertyOnline
  split
  · exact .plain h _ hsound
  · split
    · exact .plain h _ hsound
    · next online _ =>
        split
        · exact .plain h _ hsound
        · next hidle =>
            split
            · exact .plain h _ hsound
            · split
              · exact .plain h _ hsound
              · split
                · exact .plain h _ hsound
                · have hnone : s.modem.pending = none := not_not.mp hidle
                  refine .waits hnone rfl ⟨h.core.off, h.core.on, h.core.going, h.core.sim⟩ ?_
                    (.refl _) hsound
                  -- the callback of the request will answer it
                  have honce := h.accounts.receive.once
                  refine ⟨?_, fun _ => .inl ?_⟩
                  · intro id
                    have hid := honce id
                    dsimp only at hid ⊢
                    rw [hnone] at hid
                    have hempty : (none : Option ℕ).toList.count id = 0 := rfl
                    show _ + [s.modem.received].count id + 0 = _
                    omega
                  · refine ⟨if online then .online else .offline, ?_, ?_⟩
                    · exact mem_append_right _ (mem_singleton_self _)
                    · cases online
                      · exact fun h => nomatch h
                      · exact fun h => nomatch h

/-! ## Requests for Powered -/

variable {powered : Bool}

lemma poweredSound_of_kept {m : OfonoModem} {p : SetProperty} (hvalue : p.value = some powered)
    (hkept : ¬ PoweredRefused m powered p.result) : PoweredSound m p := by
  intro powered' hvalue' hrefused
  rw [hvalue, Option.some.injEq] at hvalue'
  rw [← hvalue'] at hrefused
  exact absurd hrefused hkept

lemma poweredSound_of_refused {m : OfonoModem} {p : SetProperty} (hvalue : p.value = some powered)
    (hrefused : PoweredRefused m powered p.result) : PoweredSound m p ↔ m.sapType = some p.type ∧
    (Switches m powered → powered = false → m.modemState = .powerOff) := by
  constructor
  · intro h
    exact h powered hvalue hrefused
  · intro h powered' hvalue' _
    rw [hvalue, Option.some.injEq] at hvalue'
    rw [← hvalue']
    exact h

lemma sound_powered_iff (hname : p.name = "Powered") :
    s.Sound (.setProperty p) ↔ PoweredSound s.modem p := by
  have hother : p.name ≠ "Lockdown" := by
    rw [hname]
    decide
  exact ⟨fun h => h.1 hname, fun h => ⟨fun _ => h, fun hlock => absurd hlock hother⟩⟩

lemma Outcome.powered_refused (h : Inv s) (hname : p.name = "Powered")
    (hvalue : p.value = some powered) (hrefused : PoweredRefused s.modem powered p.result)
    (hstays : ¬ Switches s.modem powered) {reply : Reply} (hreply : reply ≠ .ok) :
    Outcome s (.setProperty p)
      (answer { s.modem with received := s.modem.received + 1, sapType := some p.type }
        s.modem.received reply) := by
  refine .answered h rfl rfl ⟨h.core.off, h.core.on, h.core.going, h.core.sim⟩
    ⟨(h.accounts.receive.answer reply).once, (h.accounts.receive.answer reply).served⟩ ?_
  rw [sound_powered_iff hname, poweredSound_of_refused hvalue hrefused]
  have hfields : s.modem.fields = (answer { s.modem with
      received := s.modem.received + 1, sapType := some p.type } s.modem.received reply).fields ↔
      s.modem.sapType = some p.type := by
    simp [OfonoModem.fields, answer]
  rw [hfields]
  constructor
  · exact fun hmet => .inr hmet.1
  · rintro (hok | hsap)
    · exact absurd hok hreply
    · exact ⟨hsap, fun hswitches => absurd hswitches hstays⟩

lemma Outcome.granted (h : Inv s) (hsent : m.sent = s.modem.sent ++ [(s.modem.received, .ok)])
    (hpending : m.pending = s.modem.pending) (hcore : Core m) (haccounts : Accounted m [])
    (hsound : s.Sound (.setProperty p)) : Outcome s (.setProperty p) m :=
  .answered h hsent hpending hcore haccounts ⟨fun _ => .inl rfl, fun _ => hsound⟩

/-- `m` is the modem of the session while it looks at a new request; nothing is pending. -/
structure Taken (s : Session) (m : OfonoModem) : Prop where
  idle : s.modem.pending = none
  pending : m.pending = none
  sent : m.sent = s.modem.sent
  received : m.received = s.modem.received + 1

lemma Taken.accounted (ht : Taken s m) (h : Inv s) : Accounted m [s.modem.received] :=
  h.accounts.receive.idle ht.idle ht.sent (ht.pending.trans ht.idle.symm) ht.received

lemma Taken.switched (ht : Taken s m) (powered : Bool) (result : DriverResult) :
    Taken s (OfonoModem.switched m powered result) := by
  cases powered <;> exact ⟨ht.idle, ht.pending, ht.sent, ht.received⟩

lemma switched_fields (m : OfonoModem) (powered : Bool) {result : DriverResult}
    (hresult : result ≠ .ok) : (OfonoModem.switched m powered result).fields =
      { m.fields with modemState := if powered then m.modemState else .powerOff } := by
  have hpowered : (OfonoModem.switched m powered result).powered = m.powered := if_neg hresult
  unfold OfonoModem.fields
  rw [hpowered]
  cases powered <;> rfl

lemma Taken.waits (ht : Taken s m) (h : Inv s) (hm : Core m) (hne : m.powered ≠ powered)
    (hclose : Fields.Close s.modem.fields (OfonoModem.switched m powered .inProgress).fields)
    (hsound : s.Sound (.setProperty p)) :
    Outcome s (.setProperty p) ((OfonoModem.switched m powered .inProgress).wait s.modem.received) := by
  have hswitched := ht.switched powered .inProgress
  have hcore : Core (OfonoModem.switched m powered .inProgress) :=
    hm.switched hne fun h => nomatch h
  refine .waits ht.idle hswitched.sent ⟨hcore.off, hcore.on, hcore.going, hcore.sim⟩ ?_ hclose
    hsound
  refine (hswitched.accounted h).wait hswitched.pending ?_
  show powered ≠ m.powered
  exact hne.symm

/-- The driver has switched at once, and the request has been answered before the rest follows. -/
lemma Taken.switches (ht : Taken s m) (d : ModemDriver) (h : Inv s) (hm : Core m) (powered : Bool)
    (hsound : s.Sound (.setProperty p)) : Outcome s (.setProperty p) (poweredChanged d
    ((OfonoModem.switched m powered .ok).answer s.modem.received .ok) powered) := by
  have hswitched := ht.switched powered .ok
  have hsim : ((OfonoModem.switched m powered .ok).answer s.modem.received .ok).SimKept := by
    cases powered with
    | true => exact hm.sim
    | false => exact Core.simKept_off rfl
  have hon : ((OfonoModem.switched m powered .ok).answer s.modem.received .ok).modemState = .online →
      ((OfonoModem.switched m powered .ok).answer s.modem.received .ok).online = true := by
    cases powered with
    | true => exact hm.on
    | false => exact fun h => nomatch h
  have hchanges := poweredChanged_changes d hsim powered
  have hsame := hchanges.same
  refine .granted h ?_ ?_ (.poweredChanged d hsim rfl rfl hon) ?_ hsound
  · rw [hsame]
    show (OfonoModem.switched m powered .ok).sent ++ _ = _
    rw [hswitched.sent]
  · rw [hsame]
    exact hswitched.pending.trans ht.idle.symm
  · exact ((hswitched.accounted h).answer .ok).changes hchanges

/-- `set_powered` for a request that is not refused before. -/
lemma changePowered_outcome (d : ModemDriver) (h : Inv s)
    (hname : p.name = "Powered") (hvalue : p.value = some powered)
    (hidle : s.modem.pending = none) (hne : s.modem.powered ≠ powered)
    (hemergency : s.modem.emergency = 0) (hlock : s.modem.lockdown = false) :
    Outcome s (.setProperty p)
      (changePowered d { s.modem with received := s.modem.received + 1, sapType := some p.type }
        s.modem.received powered p.result) := by
  let m : OfonoModem :=
    { s.modem with received := s.modem.received + 1, sapType := some p.type }
  show Outcome s _ (changePowered d m s.modem.received powered p.result)
  have hm : Core m := ⟨h.core.off, h.core.on, h.core.going, h.core.sim⟩
  have ht : Taken s m := ⟨hidle, hidle, rfl, rfl⟩
  unfold changePowered
  rcases setPowered_cases d hm.sim powered p.result with ⟨hsame, heq⟩ | ⟨hother, heq⟩
  · rw [heq]
    refine .powered_refused h hname hvalue (.inr ⟨hne, .inr (.inr (.inl hsame))⟩) ?_
      (fun h => nomatch h)
    intro hswitches
    exact hswitches.2.2.2.2 hsame
  · have hstays : p.result ≠ .error → s.Sound (.setProperty p) := by
      intro hresult
      rw [sound_powered_iff hname]
      refine poweredSound_of_kept hvalue ?_
      rintro (hpending | ⟨-, hbusy | hlocked | hgoing | herror⟩)
      · exact hpending hidle
      · exact hbusy hemergency
      · rw [hlock] at hlocked
        cases hlocked
      · exact hother hgoing
      · exact hresult herror
    rw [heq]
    cases hresult : p.result with
    | ok => exact ht.switches d h hm powered (hstays (by rw [hresult]; exact fun h => nomatch h))
    | inProgress =>
      refine ht.waits h hm hne ?_ (hstays (by rw [hresult]; exact fun h => nomatch h))
      rw [switched_fields m powered (fun h => nomatch h : DriverResult.inProgress ≠ .ok)]
      cases powered with
      | true => exact ⟨rfl, rfl, .inl rfl⟩
      | false => exact ⟨rfl, rfl, .inr rfl⟩
    | error =>
      have hswitched := ht.switched powered .error
      have hcore : Core (switched m powered .error) := hm.switched hne fun h => nomatch h
      refine @Outcome.answered _ _ _ h .failed ?_ ?_ ⟨hcore.off, hcore.on, hcore.going, hcore.sim⟩
        ((hswitched.accounted h).answer .failed) ?_
      · exact congrArg (· ++ _) hswitched.sent
      · exact hswitched.pending.trans hidle.symm
      · rw [sound_powered_iff hname,
          poweredSound_of_refused hvalue (.inr ⟨hne, .inr (.inr (.inr hresult))⟩)]
        have hfields := switched_fields m powered (fun h => nomatch h : DriverResult.error ≠ .ok)
        show _ ↔ Reply.failed = .ok ∨ s.modem.fields = (switched m powered .error).fields
        rw [hfields]
        have hswitches : Switches s.modem powered := ⟨hidle, hne, hemergency, hlock, hother⟩
        cases powered <;> simp [OfonoModem.fields, m, hswitches, and_comm]

lemma setPropertyPowered_outcome (d : ModemDriver) (h : Inv s) (hname : p.name = "Powered") :
    Outcome s (.setProperty p)
      (setPropertyPowered d { s.modem with received := s.modem.received + 1 } s.modem.received
        p.value p.type p.result) := by
  unfold setPropertyPowered
  split
  · next hvalue =>
      refine .plain h _ ?_
      rw [sound_powered_iff hname]
      intro powered hpowered
      rw [hvalue] at hpowered
      cases hpowered
  · next powered hvalue =>
      dsimp only
      split
      · next hpending =>
          exact .powered_refused h hname hvalue (.inl hpending) (fun hs => hpending hs.1)
            (fun h => nomatch h)
      · next hpending =>
          have hidle : s.modem.pending = none := not_not.mp hpending
          split
          · next hsame =>
              refine .granted h rfl rfl ⟨h.core.off, h.core.on, h.core.going, h.core.sim⟩
                ⟨(h.accounts.receive.answer .ok).once, (h.accounts.receive.answer .ok).served⟩ ?_
              rw [sound_powered_iff hname]
              refine poweredSound_of_kept hvalue ?_
              rintro (hbusy | ⟨hne, -⟩)
              · exact hpending hbusy
              · exact hne hsame
          · next hne =>
              split
              · next hemergency =>
                  exact .powered_refused h hname hvalue (.inr ⟨hne, .inl hemergency⟩)
                    (fun hs => hemergency hs.2.2.1) (fun h => nomatch h)
              · next hemergency =>
                  split
                  · next hlock =>
                      refine .powered_refused h hname hvalue (.inr ⟨hne, .inr (.inl hlock)⟩) ?_
                        (fun h => nomatch h)
                      intro hswitches
                      rw [hswitches.2.2.2.1] at hlock
                      cases hlock
                  · next hlock =>
                      exact changePowered_outcome d h hname hvalue hidle hne
                        (not_not.mp hemergency) (eq_false_of_ne_true hlock)

/-! ## Requests for Lockdown -/

lemma sound_lockdown_iff (hname : p.name = "Lockdown") :
    s.Sound (.setProperty p) ↔ LockdownSound s.modem p := by
  have hother : p.name ≠ "Powered" := by
    rw [hname]
    decide
  exact ⟨fun h => h.2 hname, fun h => ⟨fun hpow => absurd hpow hother, fun _ => h⟩⟩

/-- A lockdown that is asked for where nothing holds it back powers the modem off. -/
lemma lockdownPowerOff_outcome (d : ModemDriver) (h : Inv s) (hname : p.name = "Lockdown")
    (hvalue : p.value = some true) (hidle : s.modem.pending = none)
    (hlock : s.modem.lockdown = false) (hemergency : s.modem.emergency = 0)
    (hwatch : p.watch = true) (hpowered : s.modem.powered = true) :
    Outcome s (.setProperty p)
      (lockdownPowerOff d { s.modem with
        received := s.modem.received + 1
        lockOwner := some p.sender
        lockWatch := true
        lockdown := true } s.modem.received p.result) := by
  let m : OfonoModem := { s.modem with
    received := s.modem.received + 1
    lockOwner := some p.sender
    lockWatch := true
    lockdown := true }
  show Outcome s _ (lockdownPowerOff d m s.modem.received p.result)
  have hm : Core m := ⟨h.core.off, h.core.on, h.core.going, h.core.sim⟩
  have ht : Taken s m := ⟨hidle, hidle, rfl, rfl⟩
  have hne : s.modem.powered ≠ false := by
    rw [hpowered]
    exact fun h => nomatch h
  unfold lockdownPowerOff
  rcases setPowered_cases d hm.sim false p.result with ⟨hsame, heq⟩ | ⟨hother, heq⟩
  · rw [heq]
    show Outcome s _ ((lockdownRemove m).answer s.modem.received .failed)
    have hremoved : Taken s (lockdownRemove m) := ⟨hidle, hidle, rfl, rfl⟩
    refine @Outcome.answered _ _ _ h .failed rfl rfl ⟨hm.off, hm.on, hm.going, hm.sim⟩
      ((hremoved.accounted h).answer .failed) ?_
    have hfields : s.modem.fields = (answer (lockdownRemove m) s.modem.received .failed).fields := by
      show s.modem.fields = { s.modem.fields with lockdown := false }
      rw [← hlock]
      rfl
    rw [sound_lockdown_iff hname]
    refine ⟨fun _ => .inr hfields, fun _ _ hswitches => ?_⟩
    exact absurd hsame hswitches.2.2.2.2
  · rw [heq]
    have hswitches : Switches s.modem false := ⟨hidle, hne, hemergency, hlock, hother⟩
    cases hresult : p.result with
    | ok =>
      show Outcome s _ ((setOnline (switched m false .ok) false).answer s.modem.received .ok)
      have hoff : Taken s (setOnline (switched m false .ok) false) := ⟨hidle, hidle, rfl, rfl⟩
      refine .granted h rfl rfl (.of_powerOff rfl rfl fun _ => rfl)
        ((hoff.accounted h).answer .ok) ?_
      rw [sound_lockdown_iff hname]
      intro _ _ _ herror
      rw [hresult] at herror
      cases herror
    | inProgress =>
      refine ht.waits h hm hne ?_ ?_
      · rw [switched_fields m false (fun h => nomatch h : DriverResult.inProgress ≠ .ok)]
        exact ⟨rfl, rfl, .inr rfl⟩
      · rw [sound_lockdown_iff hname]
        intro _ _ _ herror
        rw [hresult] at herror
        cases herror
    | error =>
      have hcore : Core (switched m false .error) := hm.switched hne fun h => nomatch h
      show Outcome s _ ((lockdownRemove (switched m false .error)).answer s.modem.received .failed)
      have hremoved : Taken s (lockdownRemove (switched m false .error)) :=
        ⟨hidle, hidle, rfl, rfl⟩
      refine @Outcome.answered _ _ _ h .failed rfl rfl
        ⟨hcore.off, hcore.on, hcore.going, hcore.sim⟩
        ((hremoved.accounted h).answer .failed) ?_
      rw [sound_lockdown_iff hname]
      have hfields : (answer (lockdownRemove (switched m false .error))
          s.modem.received .failed).fields = { s.modem.fields with modemState := .powerOff } := by
        show Fields.mk s.modem.powered s.modem.online false .powerOff s.modem.sapType =
          ⟨s.modem.powered, s.modem.online, s.modem.lockdown, .powerOff, s.modem.sapType⟩
        rw [hlock]
      rw [hfields]
      constructor
      · intro hsound
        right
        rw [← hsound hvalue hswitches hwatch hresult]
        rfl
      · rintro (hok | hsame) _ _ _ _
        · cases hok
        · exact congrArg Fields.modemState hsame

lemma setPropertyLockdown_outcome (d : ModemDriver) (h : Inv s) (hname : p.name = "Lockdown") :
    Outcome s (.setProperty p)
      (setPropertyLockdown d { s.modem with received := s.modem.received + 1 } s.modem.received
        p.value p.sender p.watch p.result) := by
  have hsound : ¬ (p.value = some true ∧ Switches s.modem false ∧ p.watch = true) →
      s.Sound (.setProperty p) := by
    intro hnot
    rw [sound_lockdown_iff hname]
    intro hvalue hswitches hwatch
    exact absurd ⟨hvalue, hswitches, hwatch⟩ hnot
  unfold setPropertyLockdown
  split
  · next hvalue =>
      refine .plain h _ (hsound fun hs => ?_)
      rw [hvalue] at hs
      exact nomatch hs.1
  · next lockdown hvalue =>
      split
      · next hpending => exact .plain h _ (hsound fun hs => hpending hs.2.1.1)
      · next hpending =>
          split
          · next hdenied =>
              refine .plain h _ (hsound fun hs => ?_)
              have hlock := hdenied.1
              rw [hs.2.1.2.2.2.1] at hlock
              cases hlock
          · split
            · next hsame =>
                refine .plain h _ (hsound fun hs => ?_)
                have hlock := hs.2.1.2.2.2.1
                rw [hs.1] at hvalue
                cases hvalue
                rw [hsame] at hlock
                cases hlock
            · next hne =>
                split
                · next hfalse =>
                    refine .granted h rfl rfl ⟨h.core.off, h.core.on, h.core.going, h.core.sim⟩
                      ⟨(h.accounts.receive.answer .ok).once, h.accounts.served⟩
                      (hsound fun hs => ?_)
                    rw [hs.1] at hvalue
                    cases hvalue
                    cases hfalse
                · next htrue =>
                    have hlockdown : lockdown = true := eq_true_of_ne_false htrue
                    rw [hlockdown] at hne hvalue
                    split
                    · next hemergency => exact .plain h _ (hsound fun hs => hemergency hs.2.1.2.2.1)
                    · next hemergency =>
                        split
                        · next hwatch =>
                            refine @Outcome.answered _ _ _ h .failed rfl rfl
                              ⟨h.core.off, h.core.on, h.core.going, h.core.sim⟩
                              ⟨(h.accounts.receive.answer .failed).once, h.accounts.served⟩
                              ⟨fun _ => .inr rfl, fun _ => hsound fun hs => ?_⟩
                            rw [hwatch] at hs
                            exact nomatch hs.2.2
                        · next hwatch =>
                            split
                            · next hoff =>
                                refine .granted h rfl rfl
                                  ⟨h.core.off, h.core.on, h.core.going, h.core.sim⟩
                                  ⟨(h.accounts.receive.answer .ok).once, h.accounts.served⟩
                                  (hsound fun hs => ?_)
                                exact hs.2.1.2.1 hoff
                            · next hon =>
                                exact lockdownPowerOff_outcome d h hname hvalue
                                  (not_not.mp hpending) (eq_false_of_ne_true hne)
                                  (not_not.mp hemergency) (eq_true_of_ne_false hwatch)
                                  (eq_true_of_ne_false hon)

lemma modemSetProperty_outcome (d : ModemDriver) (h : Inv s) (p : SetProperty) : Outcome s
    (.setProperty p) (modemSetProperty d { s.modem with received := s.modem.received + 1 }
    s.modem.received p) := by
  unfold modemSetProperty
  split
  · next hname =>
      refine setPropertyOnline_outcome d h ⟨fun hpow => ?_, fun hlock => ?_⟩
      · rw [hname] at hpow
        exact absurd hpow (by decide)
      · rw [hname] at hlock
        exact absurd hlock (by decide)
  · split
    · next hname => exact setPropertyPowered_outcome d h hname
    · next hpow =>
        split
        · next hname => exact setPropertyLockdown_outcome d h hname
        · next hlock =>
            exact .plain h _ ⟨fun hname => absurd hname hpow, fun hname => absurd hname hlock⟩

end Requests

/-! ## The driver reports the power -/

/-- `ofono_modem_set_powered` where it has answered. -/
def informed (m : OfonoModem) (powered : Bool) : OfonoModem :=
  { poweredReply (removeTimeout m) powered with poweredPending := powered }

/-- What `ofono_modem_set_powered` sends. -/
def poweredReplies (m : OfonoModem) (powered : Bool) : List (ℕ × Reply) :=
  if m.poweredPending = m.powered then []
  else m.pending.toList.map fun msg => (msg, if powered = m.poweredPending then .ok else .failed)

lemma informed_eq (m : OfonoModem) (powered : Bool) :
    informed m powered = { m with
      poweredPending := powered
      timers := (removeTimeout m).timers
      timeout := (removeTimeout m).timeout
      pending := if m.poweredPending = m.powered then m.pending else none
      sent := m.sent ++ poweredReplies m powered } := by
  have htimeout : removeTimeout m = { m with
      timers := (removeTimeout m).timers, timeout := (removeTimeout m).timeout } := by
    unfold removeTimeout
    split <;> rfl
  unfold informed poweredReply poweredReplies
  rw [htimeout]
  dsimp only
  split
  · rw [append_nil]
  · rfl

variable {m : OfonoModem}

lemma informed_core (h : Core m) {powered : Bool} (hsame : m.powered = powered) :
    Core (informed m powered) := by
  rw [informed_eq]
  refine ⟨h.off, h.on, ?_, h.sim⟩
  intro hoff
  exact (h.off (hsame.trans hoff)).1

lemma informed_sim (h : m.SimKept) (powered : Bool) :
    SimKept { informed m powered with powered := powered } := by
  rw [informed_eq]
  exact h

variable {m : OfonoModem}

lemma ofonoModemSetPowered_core (d : ModemDriver) (h : Core m)
    (powered : Bool) : Core (ofonoModemSetPowered d m powered) := by
  show Core (if (informed m powered).powered = powered then informed m powered
    else poweredChanged d { informed m powered with powered := powered } powered)
  have hpowered : (informed m powered).powered = m.powered := by rw [informed_eq]
  rw [hpowered]
  split
  · next hsame => exact informed_core h hsame
  · refine .poweredChanged d (informed_sim h.sim powered) rfl rfl ?_
    rw [informed_eq]
    exact h.on

/-- What answers a pending message is gone only where the message has been answered. -/
lemma informed_accounted (h : Accounted m []) (powered now : Bool) :
    Accounted { informed m powered with powered := now } [] := by
  rw [informed_eq]
  by_cases hsame : m.poweredPending = m.powered
  · have hreplies : poweredReplies m powered = [] := if_pos hsame
    refine h.frame ?_ (if_pos hsame) rfl ?_
    · show m.sent ++ poweredReplies m powered = m.sent
      rw [hreplies, append_nil]
    · intro hpending
      rcases h.served hpending with hcb | htimer
      · exact .inl hcb
      · exact absurd hsame htimer.2
  · have hreplies : poweredReplies m powered = m.pending.toList.map fun msg =>
        (msg, if powered = m.poweredPending then .ok else .failed) := if_neg hsame
    refine ⟨?_, fun hpending => absurd (if_neg hsame) hpending⟩
    intro id
    have honce := (h.pendingReply (if powered = m.poweredPending then .ok else .failed)).once id
    have hnone : (if m.poweredPending = m.powered then m.pending else none) = none := if_neg hsame
    dsimp only
    rw [hnone, hreplies]
    exact honce

lemma ofonoModemSetPowered_accounted (d : ModemDriver) (hcore : Core m)
    (h : Accounted m []) (powered : Bool) : Accounted (ofonoModemSetPowered d m powered) [] := by
  show Accounted (if (informed m powered).powered = powered then informed m powered
    else poweredChanged d { informed m powered with powered := powered } powered) []
  split
  · exact informed_accounted h powered (informed m powered).powered
  · exact (informed_accounted h powered powered).changes
      (poweredChanged_changes d (informed_sim hcore.sim powered) powered)

/-- What `ofono_modem_set_powered` sends, and what stays pending. -/
lemma ofonoModemSetPowered_sent (d : ModemDriver) (h : m.SimKept) (powered : Bool) :
    (ofonoModemSetPowered d m powered).sent = m.sent ++ poweredReplies m powered ∧
      (ofonoModemSetPowered d m powered).pending =
        if m.poweredPending = m.powered then m.pending else none := by
  show OfonoModem.sent (if (informed m powered).powered = powered then informed m powered
    else poweredChanged d { informed m powered with powered := powered } powered) = _ ∧
    OfonoModem.pending (if (informed m powered).powered = powered then informed m powered
    else poweredChanged d { informed m powered with powered := powered } powered) = _
  split
  · rw [informed_eq]
    exact ⟨rfl, rfl⟩
  · rw [(poweredChanged_changes d (informed_sim h powered) powered).same, informed_eq]
    exact ⟨rfl, rfl⟩

lemma ofonoModemSetPowered_same (d : ModemDriver) {powered : Bool}
    (hsame : m.powered = powered) : (ofonoModemSetPowered d m powered).fields = m.fields := by
  show OfonoModem.fields (if (informed m powered).powered = powered then informed m powered
    else _) = _
  have hpowered : (informed m powered).powered = m.powered := by rw [informed_eq]
  rw [hpowered, if_pos hsame, informed_eq]
  rfl

section Events

variable {s : Session} {m : OfonoModem} {e : Event}

lemma close_follow (h : Inv s) (hpending : m.pending = s.modem.pending ∨ m.pending = none) :
    m.pending ≠ none → Fields.Close (s.before.follow s.modem.fields m.fields) m.fields := by
  intro hne
  rcases hpending with hsame | hnone
  · rw [hsame] at hne
    exact (h.close hne).follow _
  · exact absurd hnone hne

lemma wrongs_of_refused {l : List (ℕ × Reply)} (hsent : m.sent = s.modem.sent ++ l) :
    s.wrongs m e = (l.any (fun r => r.2 ≠ .ok) && decide (s.found m e ≠ m.fields)) := by
  rw [wrongs, refused_of_append hsent]

lemma Outcome.quiet (hsound : s.Sound e) (hsent : m.sent = s.modem.sent) (hcore : Core m)
    (haccounts : Accounted m [])
    (hclose : m.pending ≠ none → Fields.Close (s.keep m e) m.fields) : Outcome s e m := by
  refine ⟨haccounts, hclose, fun _ => ⟨hcore, ?_⟩, fun hmissed => absurd hsound hmissed⟩
  rw [wrongs_of_refused (l := []) (by rw [hsent, append_nil])]
  rfl

lemma setPowered_outcome (d : ModemDriver) (h : Inv s) (powered : Bool) :
    Outcome s (.setPowered powered) (ofonoModemSetPowered d s.modem powered) := by
  have hcore := ofonoModemSetPowered_core d h.core powered
  rcases ofonoModemSetPowered_sent d h.core.sim powered with ⟨hsent, hpending⟩
  have hwrongs := wrongs_of_refused (e := .setPowered powered) hsent
  have hclose : (ofonoModemSetPowered d s.modem powered).pending ≠ none →
      Fields.Close (s.before.follow s.modem.fields (ofonoModemSetPowered d s.modem powered).fields)
        (ofonoModemSetPowered d s.modem powered).fields := by
    refine close_follow h ?_
    rw [hpending]
    split
    · exact .inl rfl
    · exact .inr rfl
  -- an error is sent only where the driver reports what `powered` is
  by_cases hrefused : s.modem.pending ≠ none ∧ s.modem.poweredPending ≠ s.modem.powered ∧
      powered ≠ s.modem.poweredPending
  · rcases hrefused with ⟨hne, hgoing, hother⟩
    have hsame : s.modem.powered = powered := by
      revert hgoing hother
      cases s.modem.powered <;> cases s.modem.poweredPending <;> cases powered <;> simp
    have hfields := ofonoModemSetPowered_same d hsame
    rcases ne_none_iff_exists'.mp hne with ⟨msg, hmsg⟩
    have hreplies : poweredReplies s.modem powered = [(msg, .failed)] := by
      rw [poweredReplies, if_neg hgoing, hmsg, if_neg hother]
      rfl
    rw [hreplies] at hwrongs
    have hfound : s.found (ofonoModemSetPowered d s.modem powered) (.setPowered powered) =
        s.before := by
      show s.before.follow s.modem.fields (ofonoModemSetPowered d s.modem powered).fields = _
      rw [hfields, Fields.follow_self]
    rw [hfound, hfields] at hwrongs
    have hmeets : s.Sound (.setPowered powered) ↔ s.before = s.modem.fields :=
      ⟨fun hs => hs hne hgoing hother, fun hs _ _ _ => hs⟩
    refine ⟨ofonoModemSetPowered_accounted d h.core h.accounts powered, hclose, ?_, ?_⟩
    · intro hsound
      refine ⟨hcore, ?_⟩
      rw [hwrongs]
      simp [hmeets.mp hsound]
    · intro hmissed
      left
      rw [hwrongs]
      rw [hmeets] at hmissed
      simp [hmissed]
  · have hsound : s.Sound (.setPowered powered) := fun hne hgoing hother =>
      absurd ⟨hne, hgoing, hother⟩ hrefused
    refine ⟨ofonoModemSetPowered_accounted d h.core h.accounts powered, hclose,
      fun _ => ⟨hcore, ?_⟩, fun hmissed => absurd hsound hmissed⟩
    rw [hwrongs]
    have hnone : (poweredReplies s.modem powered).any (fun r => r.2 ≠ .ok) = false := by
      rw [List.any_eq_false]
      intro r hr
      unfold poweredReplies at hr
      split at hr
      · cases hr
      · next hgoing =>
          rcases mem_map.mp hr with ⟨msg, hmsg, rfl⟩
          have hne : s.modem.pending ≠ none := by
            intro hnone
            rw [hnone] at hmsg
            cases hmsg
          have hsame : powered = s.modem.poweredPending := by
            by_contra hother
            exact hrefused ⟨hne, hgoing, hother⟩
          simp [hsame]
    rw [hnone]
    rfl

/-! ## Timers -/

variable {m : OfonoModem}

lemma timedOut_core (h : Core m) : Core (timedOut m) := by
  unfold timedOut
  split
  · exact ⟨h.off, h.on, fun hoff => (h.off hoff).1, h.sim⟩
  · next hgoing =>
      have hstate := h.going (eq_false_of_ne_true hgoing)
      exact .of_powerOff hstate (h.sim.off hstate) fun _ => rfl

lemma timedOut_frame (m : OfonoModem) : (timedOut m).sent = m.sent ∧
    (timedOut m).pending = m.pending ∧ (timedOut m).received = m.received := by
  unfold timedOut
  split <;> exact ⟨rfl, rfl, rfl⟩

lemma timedOut_fields (h : Core m)
    (hkeeps : m.poweredPending = true ∨ m.powered = false) : (timedOut m).fields = m.fields := by
  unfold timedOut
  split
  · rfl
  · next hgoing =>
      rcases hkeeps with htrue | hoff
      · exact absurd htrue hgoing
      · show Fields.mk false false m.lockdown m.modemState m.sapType =
          ⟨m.powered, m.online, m.lockdown, m.modemState, m.sapType⟩
        rw [hoff, (h.off hoff).2]

lemma timedOut_powered (hgoing : m.poweredPending ≠ true) : (timedOut m).powered = false := by
  unfold timedOut
  rw [if_neg hgoing]

/-- A lockdown goes with the request that timed out. -/
def unlocked (m : OfonoModem) : OfonoModem := if m.lockdown then lockdownRemove m else m

lemma unlocked_core (h : Core m) (haccounts : Accounted m []) :
    Core (unlocked m) ∧ Accounted (unlocked m) [] := by
  unfold unlocked
  split
  · exact ⟨⟨h.off, h.on, h.going, h.sim⟩, ⟨haccounts.once, haccounts.served⟩⟩
  · exact ⟨h, haccounts⟩

lemma unlocked_frame (m : OfonoModem) : (unlocked m).sent = m.sent ∧ (unlocked m).pending =
    m.pending ∧ (unlocked m).fields = { m.fields with lockdown := false } := by
  unfold unlocked
  split
  · exact ⟨rfl, rfl, rfl⟩
  · next hlock =>
      refine ⟨rfl, rfl, ?_⟩
      rw [← eq_false_of_ne_true hlock]
      rfl

lemma timeout_outcome (h : Inv s) {id : ℕ} (hid : id ∈ s.modem.timers) :
    Outcome s (.timeout id) (setPoweredTimeout s.modem id) := by
  let m : OfonoModem := { s.modem with timers := s.modem.timers.erase id }
  have hm : Core m := ⟨h.core.off, h.core.on, h.core.going, h.core.sim⟩
  rcases timedOut_frame m with ⟨hsent, hpending, hreceived⟩
  have hcore := timedOut_core hm
  show Outcome s _ (if (timedOut m).pending = none then timedOut m
    else unlocked ((timedOut m).pendingReply .timedOut))
  split
  · next hidle =>
      have hnone : s.modem.pending = none := hpending.symm.trans hidle
      refine .quiet ?_ hsent hcore (h.accounts.idle hnone hsent hpending hreceived)
        fun hne => absurd hidle hne
      intro _ hne
      exact absurd hnone hne
  · next hbusy =>
      have hne : s.modem.pending ≠ none := fun hnone => hbusy (hpending.trans hnone)
      rcases ne_none_iff_exists'.mp hne with ⟨msg, hmsg⟩
      have hanswered : Accounted ((timedOut m).pendingReply .timedOut) [] := by
        refine ⟨?_, fun hne => absurd rfl hne⟩
        intro id
        have honce := (h.accounts.pendingReply .timedOut).once id
        show (((timedOut m).sent ++ (timedOut m).pending.toList.map fun msg =>
          (msg, Reply.timedOut)).map Prod.fst).count id + 0 + 0 =
            if id < (timedOut m).received then 1 else 0
        rw [hsent, hpending, hreceived]
        exact honce
      rcases unlocked_core (m := (timedOut m).pendingReply .timedOut)
        ⟨hcore.off, hcore.on, hcore.going, hcore.sim⟩ hanswered with ⟨hcore', haccounts'⟩
      rcases unlocked_frame ((timedOut m).pendingReply .timedOut) with
        ⟨hsent', hpending', hfields'⟩
      have hsent'' := hsent'.trans (show (timedOut m).sent ++ (timedOut m).pending.toList.map
        (fun msg => (msg, Reply.timedOut)) = s.modem.sent ++ [(msg, .timedOut)] by
          rw [hsent, hpending, show m.pending = some msg from hmsg]
          rfl)
      have hwrongs := wrongs_of_refused (e := .timeout id) hsent''
      have hfields'' : ((timedOut m).pendingReply .timedOut).fields = (timedOut m).fields := rfl
      rw [hfields''] at hfields'
      rw [any_cons, any_nil, Bool.or_false] at hwrongs
      have hmeets : s.Sound (.timeout id) ↔
          s.before = { (timedOut m).fields with lockdown := false } := by
        by_cases hkeeps : s.modem.poweredPending = true ∨ s.modem.powered = false
        · rw [timedOut_fields hm hkeeps]
          exact ⟨fun hs => (hs hid hne).2, fun hs _ _ => ⟨hkeeps, hs⟩⟩
        · constructor
          · exact fun hs => absurd (hs hid hne).1 hkeeps
          · intro hs
            rw [not_or] at hkeeps
            have hoff : s.before.powered = (timedOut m).powered := congrArg Fields.powered hs
            rw [timedOut_powered (m := m) hkeeps.1] at hoff
            exact absurd ((h.close hne).powered.symm.trans hoff) hkeeps.2
      refine ⟨haccounts', ?_, ?_, ?_⟩
      · intro hstill
        rw [hpending'] at hstill
        exact absurd rfl hstill
      · intro hsound
        refine ⟨hcore', ?_⟩
        rw [hwrongs, hfields']
        simp [found, hmeets.mp hsound]
      · intro hmissed
        left
        rw [hwrongs, hfields']
        rw [hmeets] at hmissed
        simp [found, hmissed]

/-! ## Callbacks of the driver -/

variable {i : ℕ} {cb : OnlineCb}

lemma mem_eraseIdx_of_ne {cbs : List OnlineCb} {other : OnlineCb} (hat : cbs[i]? = some cb)
    (hmem : other ∈ cbs) (hne : other ≠ cb) : other ∈ cbs.eraseIdx i := by
  rcases mem_iff_getElem.mp hmem with ⟨j, hj, hother⟩
  refine mem_eraseIdx_iff_getElem.mpr ⟨j, hj, ?_, hother⟩
  rintro rfl
  rw [getElem?_eq_getElem hj, Option.some.injEq] at hat
  exact hne (hother.symm.trans hat)

lemma core_of_moves {m' : OfonoModem} (h : Core m) (hmoves : Moves m m')
    (hoff : m.modemState = .powerOff → m' = m) : Core m' := by
  by_cases hstate : m.modemState = .powerOff
  · rw [hoff hstate]
    exact h
  · exact h.moves hmoves hstate

lemma common_outcome (d : ModemDriver) (h : Inv s) (error : Bool) (hat : s.modem.callbacks[i]? =
    some .common) : Outcome s (.callback i error)
    (commonOnlineCb d { s.modem with callbacks := s.modem.callbacks.eraseIdx i } error) := by
  have hm : Core { s.modem with callbacks := s.modem.callbacks.eraseIdx i } :=
    ⟨h.core.off, h.core.on, h.core.going, h.core.sim⟩
  rcases commonOnlineCb_moves d hm.sim error with ⟨hmoves, hoff, -⟩
  have hsame := hmoves.same
  refine .quiet ?_ (by rw [hsame]) (core_of_moves hm hmoves hoff) ?_ ?_
  · intro cb hcb hne
    rw [hat, Option.some.injEq] at hcb
    exact absurd hcb.symm hne
  · refine Accounted.changes ?_ hmoves.toChanges
    refine h.accounts.frame rfl rfl rfl ?_
    intro hpending
    rcases h.accounts.served hpending with ⟨cb, hcb, hne⟩ | htimer
    · exact .inl ⟨cb, mem_eraseIdx_of_ne hat hcb hne, hne⟩
    · exact .inr htimer
  · exact close_follow h (.inl (by rw [hsame]))

/-- A callback that answers the pending request, then changes the state unless the driver
failed. -/
lemma answering_outcome (h : Inv s) {error : Bool} (hat : s.modem.callbacks[i]? = some cb) (hcb :
    cb ≠ .common) (hpending : cb = .offline → s.modem.pending ≠ none) (hmoves : Moves
    (OfonoModem.pendingReply { s.modem with callbacks := s.modem.callbacks.eraseIdx i } (cbReply
    error)) m) (hoff : s.modem.modemState = .powerOff → m = OfonoModem.pendingReply { s.modem with
    callbacks := s.modem.callbacks.eraseIdx i } (cbReply error)) (herror : error = true → m =
    OfonoModem.pendingReply { s.modem with callbacks := s.modem.callbacks.eraseIdx i } (cbReply
    error)) : Outcome s (.callback i error) m := by
  have hm : Core (OfonoModem.pendingReply
      { s.modem with callbacks := s.modem.callbacks.eraseIdx i } (cbReply error)) :=
    ⟨h.core.off, h.core.on, h.core.going, h.core.sim⟩
  have hcore := core_of_moves hm hmoves hoff
  have haccounts : Accounted m [] := by
    refine Accounted.changes ?_ hmoves.toChanges
    exact ⟨(h.accounts.pendingReply (cbReply error)).once, fun hne => absurd rfl hne⟩
  have hsent : m.sent =
      s.modem.sent ++ s.modem.pending.toList.map fun msg => (msg, cbReply error) := by
    rw [hmoves.same]
    rfl
  have hidle : m.pending = none := by
    rw [hmoves.same]
    rfl
  have hmeets : s.Sound (.callback i error) ↔
      (error = true → s.modem.pending ≠ none → s.before = s.modem.fields) := by
    constructor
    · exact fun hs => (hs cb hat hcb).2
    · intro hs cb' hat' _
      rw [hat, Option.some.injEq] at hat'
      rw [← hat']
      exact ⟨hpending, hs⟩
  have hwrongs := wrongs_of_refused (e := .callback i error) hsent
  by_cases hrefused : error = true ∧ s.modem.pending ≠ none
  · rcases hrefused with ⟨herr, hne⟩
    rcases ne_none_iff_exists'.mp hne with ⟨msg, hmsg⟩
    have hfields : m.fields = s.modem.fields := by
      rw [herror herr]
      rfl
    have hfound : s.found m (.callback i error) = s.before := by
      show s.before.follow s.modem.fields m.fields = _
      rw [hfields, Fields.follow_self]
    have hbad : (s.modem.pending.toList.map fun msg => (msg, cbReply error)).any
        (fun r => r.2 ≠ .ok) = true := by
      rw [hmsg, herr]
      rfl
    rw [hbad, hfound, hfields, Bool.true_and] at hwrongs
    refine ⟨haccounts, fun hstill => absurd hidle hstill, ?_, ?_⟩
    · intro hsound
      refine ⟨hcore, ?_⟩
      rw [hwrongs, hmeets.mp hsound herr hne]
      simp
    · intro hmissed
      left
      rw [hwrongs]
      refine decide_eq_true fun hsame => hmissed ?_
      exact hmeets.mpr fun _ _ => hsame
  · have hsound := hmeets.mpr fun herr hne => absurd ⟨herr, hne⟩ hrefused
    refine ⟨haccounts, fun hstill => absurd hidle hstill, fun _ => ⟨hcore, ?_⟩,
      fun hmissed => absurd hsound hmissed⟩
    have hgood : (s.modem.pending.toList.map fun msg => (msg, cbReply error)).any
        (fun r => r.2 ≠ .ok) = false := by
      cases hpend : s.modem.pending with
      | none => rfl
      | some msg =>
        have hok : error = false := by
          by_contra herr
          exact hrefused ⟨eq_true_of_ne_false herr, by rw [hpend]; exact fun h => nomatch h⟩
        rw [hok]
        rfl
    rw [hwrongs, hgood]
    rfl

lemma callback_outcome (d : ModemDriver) (h : Inv s) {error : Bool} (hat : s.modem.callbacks[i]? =
    some cb) (hm : OfonoModem.callback d { s.modem with callbacks := s.modem.callbacks.eraseIdx i }
    error cb = some m) : Outcome s (.callback i error) m := by
  have hsim : (OfonoModem.pendingReply
      { s.modem with callbacks := s.modem.callbacks.eraseIdx i } (cbReply error)).SimKept :=
    h.core.sim
  cases cb with
  | common =>
    cases hm
    exact common_outcome d h error hat
  | online =>
    cases hm
    rcases commonOnlineCb_moves d hsim error with ⟨hmoves, hoff, -⟩
    refine answering_outcome h hat (fun h => nomatch h) (fun h => nomatch h) hmoves hoff ?_
    intro herr
    unfold onlineCb commonOnlineCb
    rw [if_pos herr]
  | offline =>
    dsimp only [OfonoModem.callback, offlineCb] at hm
    split at hm
    · cases hm
    · next msg hmsg =>
        have hne : s.modem.pending ≠ none := by
          rw [hmsg]
          exact fun h => nomatch h
        split at hm
        · cases hm
          exact answering_outcome h hat (fun h => nomatch h) (fun _ => hne) (.refl _)
            (fun _ => rfl) (fun _ => rfl)
        · next hok =>
            cases hm
            rcases wentOffline_moves d hsim with ⟨hmoves, hoff, -⟩
            exact answering_outcome h hat (fun h => nomatch h) (fun _ => hne) hmoves hoff
              (fun herr => absurd herr hok)

/-! ## The SIM and what goes by -/

lemma moves_outcome (h : Inv s) (hmoves : Moves s.modem m)
    (hup : s.modem.modemState ≠ .powerOff) (hsound : s.Sound e)
    (hkeep : s.keep m e = s.before.follow s.modem.fields m.fields) : Outcome s e m := by
  have hsame := hmoves.same
  refine .quiet hsound (by rw [hsame]) (h.core.moves hmoves hup)
    (h.accounts.changes hmoves.toChanges) ?_
  rw [hkeep]
  exact close_follow h (.inl (by rw [hsame]))

lemma stays_outcome (h : Inv s) (hsound : s.Sound e) (hcore : Core m) (haccounts : Accounted m [])
    (hsent : m.sent = s.modem.sent) (hpending : m.pending = s.modem.pending)
    (hfields : m.fields = s.modem.fields) (hkeep : s.keep m e =
    s.before.follow s.modem.fields m.fields ∨ s.keep m e = s.before) : Outcome s e m := by
  refine .quiet hsound hsent hcore haccounts ?_
  intro hne
  rw [hpending] at hne
  rcases hkeep with hfollow | hbefore
  · rw [hfollow, hfields, Fields.follow_self]
    exact h.close hne
  · rw [hbefore, hfields]
    exact h.close hne

lemma up_of_sim (h : Inv s) (hsim : s.modem.sim ≠ none) : s.modem.modemState ≠ .powerOff :=
  fun hoff => hsim (h.core.sim.off hoff)

/-! ## Resets -/

/-- The modem when `ofono_modem_reset` powers it off. -/
def resetting (m : OfonoModem) : OfonoModem :=
  if m.modemState = .online then { m.pendingReply .failed with getOnline := true }
  else m.pendingReply .failed

lemma resetting_eq (m : OfonoModem) : resetting m =
    { m.pendingReply .failed with getOnline := (resetting m).getOnline } := by
  unfold resetting
  split <;> rfl

/-- The modem is off, and `ofono_modem_set_powered` has been told so. -/
lemma ofonoModemSetPowered_off (d : ModemDriver) {m : OfonoModem} (h : Core m) :
    (ofonoModemSetPowered d m false).fields =
        { m.fields with powered := false, online := false, modemState := .powerOff } ∧
      (ofonoModemSetPowered d m false).poweredPending = false ∧
      (ofonoModemSetPowered d m false).received = m.received := by
  show OfonoModem.fields (if (informed m false).powered = false then informed m false
    else poweredOff d { informed m false with powered := false }) = _ ∧
    OfonoModem.poweredPending (if (informed m false).powered = false then informed m false
    else poweredOff d { informed m false with powered := false }) = _ ∧
    OfonoModem.received (if (informed m false).powered = false then informed m false
    else poweredOff d { informed m false with powered := false }) = _
  have hpowered : (informed m false).powered = m.powered := by rw [informed_eq]
  rw [hpowered]
  split
  · next hoff =>
      rw [informed_eq]
      refine ⟨?_, rfl, rfl⟩
      show Fields.mk m.powered m.online m.lockdown m.modemState m.sapType =
        ⟨false, false, m.lockdown, .powerOff, m.sapType⟩
      rw [hoff, (h.off hoff).1, (h.off hoff).2]
  · rw [Core.poweredOff d (informed_sim h.sim false), informed_eq]
    exact ⟨rfl, rfl, rfl⟩

/-- The fields behind a reset agree with what the pending request found, exactly if the request
had changed nothing that the reset leaves. -/
lemma follow_eq_iff {b old new : Fields} (h : Fields.Close b old)
    (hlock : new.lockdown = old.lockdown) (hsap : new.sapType = old.sapType)
    (honline : new.online = false) : b.follow old new = new ↔ b.lockdown = old.lockdown ∧
    b.sapType = old.sapType ∧ (new.modemState = .powerOff → b.modemState = old.modemState) := by
  have hpowered := h.powered
  have honline' := h.online
  have hstate := h.modemState
  cases new with
  | mk powered online lockdown modemState sapType =>
    simp only [Fields.follow, Fields.mk.injEq] at *
    grind

lemma poweredAgain_spec (d : ModemDriver) {m : OfonoModem} (h : Core m)
    (hoff : m.powered = false) (hgoing : m.poweredPending = false) (result : DriverResult) :
    ∃ sim, poweredAgain d m result = { m with
        poweredPending := if result = .error then false else true
        powered := if result = .ok then true else false
        modemState := if result = .inProgress then .powerOff else .preSim
        sim := sim } ∧ (poweredAgain d m result).SimKept := by
  unfold poweredAgain
  rcases setPowered_cases d h.sim true result with ⟨hsame, -⟩ | ⟨-, heq⟩
  · rw [hgoing] at hsame
    cases hsame
  · rw [heq]
    cases result with
    | inProgress =>
      refine ⟨m.sim, ?_, h.sim⟩
      show switched m true .inProgress = { m with
        poweredPending := true, powered := false, modemState := .powerOff }
      rw [← (h.off hoff).1, ← hoff]
      rfl
    | ok =>
      rcases modemChangeState_eq d (m := switched m true .ok) h.sim .preSim with
        ⟨sim, hchanged, hsim⟩
      refine ⟨sim, hchanged, ?_⟩
      show (modemChangeState d (switched m true .ok) .preSim).SimKept
      rw [hchanged]
      exact hsim
    | error =>
      rcases modemChangeState_eq d (m := switched m true .error) h.sim .preSim with
        ⟨sim, hchanged, hsim⟩
      refine ⟨sim, ?_, ?_⟩
      · show modemChangeState d (switched m true .error) .preSim = _
        rw [hchanged]
        show OfonoModem.mk _ _ m.powered m.powered _ _ _ _ _ _ _ _ _ _ _ _ _ _ =
          OfonoModem.mk _ _ false false _ _ _ _ _ _ _ _ _ _ _ _ _ _
        rw [hoff]
        rfl
      · show (modemChangeState d (switched m true .error) .preSim).SimKept
        rw [hchanged]
        exact hsim

lemma reset_outcome (d : ModemDriver) (h : Inv s) (result : DriverResult) :
    Outcome s (.reset result) (ofonoModemReset d s.modem result) := by
  have hresetting : Core (resetting s.modem) := by
    rw [resetting_eq]
    exact ⟨h.core.off, h.core.on, h.core.going, h.core.sim⟩
  have haccounted : Accounted (resetting s.modem) [] := by
    rw [resetting_eq]
    exact ⟨(h.accounts.pendingReply .failed).once, fun hne => absurd rfl hne⟩
  have hanswered : (resetting s.modem).pending = none ∧ (resetting s.modem).sent =
      s.modem.sent ++ s.modem.pending.toList.map fun msg => (msg, .failed) := by
    rw [resetting_eq]
    exact ⟨rfl, rfl⟩
  have hresettingFields : (resetting s.modem).fields = s.modem.fields := by
    rw [resetting_eq]
    rfl
  show Outcome s _ (poweredAgain d (ofonoModemSetPowered d (resetting s.modem) false) result)
  have hcore := ofonoModemSetPowered_core d hresetting false
  have hoffAccounts := ofonoModemSetPowered_accounted d hresetting haccounted false
  rcases ofonoModemSetPowered_sent d hresetting.sim false with ⟨hsent, hpending⟩
  rcases ofonoModemSetPowered_off d hresetting with ⟨hfields, hgoing, -⟩
  have hnoReplies : poweredReplies (resetting s.modem) false = [] := by
    unfold poweredReplies
    rw [hanswered.1]
    split <;> rfl
  rw [hnoReplies, append_nil, hanswered.2] at hsent
  rw [hanswered.1, ite_self] at hpending
  rw [hresettingFields] at hfields
  generalize ofonoModemSetPowered d (resetting s.modem) false = m at *
  rcases poweredAgain_spec d hcore (congrArg Fields.powered hfields) hgoing result with
    ⟨sim, heq, hsim⟩
  have hsent' : (poweredAgain d m result).sent =
      s.modem.sent ++ s.modem.pending.toList.map fun msg => (msg, .failed) := by
    rw [heq]
    exact hsent
  have hidle : (poweredAgain d m result).pending = none := by
    rw [heq]
    exact hpending
  have haccounts : Accounted (poweredAgain d m result) [] := by
    refine hoffAccounts.idle hpending ?_ ?_ ?_
    all_goals rw [heq]
  have hnew : (poweredAgain d m result).fields = { s.modem.fields with
      powered := if result = .ok then true else false
      online := false
      modemState := if result = .inProgress then .powerOff else .preSim } := by
    have hkept : m.fields = _ := hfields
    rw [heq]
    show Fields.mk _ m.fields.online m.fields.lockdown _ m.fields.sapType = _
    rw [hkept]
  have hwrongs := wrongs_of_refused (e := .reset result) hsent'
  have hmeets : s.modem.pending ≠ none →
      (s.found (poweredAgain d m result) (.reset result) = (poweredAgain d m result).fields ↔
        s.before.lockdown = s.modem.lockdown ∧ s.before.sapType = s.modem.sapType ∧
          (result = .inProgress → s.before.modemState = s.modem.modemState)) := by
    intro hne
    have hstate : (poweredAgain d m result).fields.modemState = .powerOff ↔
        result = .inProgress := by
      rw [hnew]
      cases result <;> simp
    have hkept : (poweredAgain d m result).fields.lockdown = s.modem.fields.lockdown ∧
        (poweredAgain d m result).fields.sapType = s.modem.fields.sapType ∧
        (poweredAgain d m result).fields.online = false := by
      rw [hnew]
      exact ⟨rfl, rfl, rfl⟩
    rw [← hstate]
    exact follow_eq_iff (h.close hne) hkept.1 hkept.2.1 hkept.2.2
  refine ⟨haccounts, fun hstill => absurd hidle hstill, ?_, ?_⟩
  · rintro ⟨hresult, hkept⟩
    refine ⟨?_, ?_⟩
    · have honline : (poweredAgain d m result).online = false := congrArg Fields.online hnew
      have hpowered : (poweredAgain d m result).powered = decide (result = .ok) := by
        rw [heq]
        cases result <;> rfl
      have hstate : (poweredAgain d m result).modemState =
          if result = .inProgress then .powerOff else .preSim := congrArg Fields.modemState hnew
      have hpp : (poweredAgain d m result).poweredPending = true := by
        rw [heq]
        exact if_neg hresult
      refine ⟨?_, ?_, ?_, hsim⟩
      · intro hoff
        refine ⟨?_, honline⟩
        rw [hstate]
        cases result with
        | ok =>
          rw [hpowered] at hoff
          cases hoff
        | inProgress => rfl
        | error => exact absurd rfl hresult
      · intro hon
        rw [hstate] at hon
        split at hon <;> cases hon
      · intro hgone
        rw [hpp] at hgone
        cases hgone
    · rw [hwrongs, Bool.and_eq_false_iff]
      by_cases hne : s.modem.pending = none
      · left
        rw [hne]
        rfl
      · right
        exact decide_eq_false (not_not.mpr ((hmeets hne).mpr (hkept hne)))
  · intro hmissed
    by_cases hresult : result = .error
    · right
      intro hoff
      have hstate := (hoff (by rw [heq, hresult]; rfl)).1
      rw [heq, hresult] at hstate
      cases hstate
    · left
      have hkept : ¬ (s.modem.pending ≠ none →
          s.before.lockdown = s.modem.lockdown ∧ s.before.sapType = s.modem.sapType ∧
            (result = .inProgress → s.before.modemState = s.modem.modemState)) :=
        fun hkept => hmissed ⟨hresult, hkept⟩
      rw [Classical.not_imp] at hkept
      rcases ne_none_iff_exists'.mp hkept.1 with ⟨msg, hmsg⟩
      rw [hwrongs, hmsg]
      refine Bool.and_eq_true_iff.mpr ⟨rfl, decide_eq_true ?_⟩
      intro hsame
      exact hkept.2 ((hmeets hkept.1).mp hsame)

/-! ## Every event -/

lemma handle_outcome (d : ModemDriver) (h : Inv s) (e : Event)
    (hm : s.modem.handle d e = some m) : Outcome s e m := by
  cases e with
  | setProperty p =>
    cases hm
    exact modemSetProperty_outcome d h p
  | setPowered powered =>
    cases hm
    exact setPowered_outcome d h powered
  | timeout id =>
    dsimp only [handle] at hm
    split at hm
    · next hid =>
        cases hm
        exact timeout_outcome h hid
    · next hid =>
        cases hm
        exact stays_outcome h (fun hmem => absurd hmem hid) h.core h.accounts rfl rfl rfl
          (.inr rfl)
  | callback i error =>
    dsimp only [handle] at hm
    split at hm
    · next hnone =>
        cases hm
        refine stays_outcome h ?_ h.core h.accounts rfl rfl rfl (.inl rfl)
        intro cb hat
        rw [hnone] at hat
        cases hat
    · next cb hat => exact callback_outcome d h hat hm
  | simState newState =>
    dsimp only [handle] at hm
    split at hm
    · cases hm
      exact stays_outcome h trivial h.core h.accounts rfl rfl rfl (.inl rfl)
    · next hsim =>
        cases hm
        have hup := up_of_sim h hsim
        exact moves_outcome h (simStateWatch_moves d h.core.sim hup newState).1 hup trivial rfl
  | simReset =>
    dsimp only [handle] at hm
    split at hm
    · cases hm
      exact stays_outcome h trivial h.core h.accounts rfl rfl rfl (.inl rfl)
    · next hsim =>
        cases hm
        exact moves_outcome h (toPreSim_moves d h.core.sim).1 (up_of_sim h hsim) trivial rfl
  | simCreate =>
    dsimp only [handle] at hm
    split at hm
    · cases hm
      exact stays_outcome h trivial h.core h.accounts rfl rfl rfl (.inl rfl)
    · next hup =>
        cases hm
        rw [not_or] at hup
        refine stays_outcome h trivial ⟨h.core.off, h.core.on, h.core.going, ?_⟩
          ⟨h.accounts.once, h.accounts.served⟩ rfl rfl rfl (.inl rfl)
        intro created hcreated
        cases hcreated
        refine ⟨?_, Nat.le_refl _⟩
        have hstate := hup.1
        cases hrank : s.modem.modemState with
        | powerOff => exact absurd hrank hstate
        | preSim => exact Nat.zero_lt_succ 0
        | offline => exact Nat.zero_lt_succ 1
        | online => exact Nat.zero_lt_succ 2
  | simRemove =>
    cases hm
    exact stays_outcome h trivial ⟨h.core.off, h.core.on, h.core.going, Core.simKept_off rfl⟩
      ⟨h.accounts.once, h.accounts.served⟩ rfl rfl rfl (.inl rfl)
  | emergency n =>
    cases hm
    exact stays_outcome h trivial ⟨h.core.off, h.core.on, h.core.going, h.core.sim⟩
      ⟨h.accounts.once, h.accounts.served⟩ rfl rfl rfl (.inl rfl)
  | lockdownDisconnect =>
    dsimp only [handle] at hm
    split at hm
    · cases hm
      refine .quiet trivial rfl ⟨h.core.off, h.core.on, h.core.going, h.core.sim⟩
        ⟨h.accounts.once, h.accounts.served⟩ ?_
      exact close_follow h (.inl rfl)
    · cases hm
      exact stays_outcome h trivial h.core h.accounts rfl rfl rfl (.inl rfl)
  | reset result =>
    cases hm
    exact reset_outcome d h result

/-- Only a callback can use a message that is not there, and not where the step is sound. -/
lemma handle_isSome (d : ModemDriver) (hsound : s.Sound e) : ∃ m, s.modem.handle d e = some m := by
  cases e with
  | callback i error =>
    dsimp only [handle]
    split
    · exact ⟨_, rfl⟩
    · next cb hat =>
        cases cb with
        | common => exact ⟨_, rfl⟩
        | online => exact ⟨_, rfl⟩
        | offline =>
          have hpending := (hsound .offline hat fun h => nomatch h).1 rfl
          rcases ne_none_iff_exists'.mp hpending with ⟨msg, hmsg⟩
          simp only [OfonoModem.callback, offlineCb, hmsg]
          split <;> exact ⟨_, rfl⟩
  | timeout id =>
    dsimp only [handle]
    split <;> exact ⟨_, rfl⟩
  | simState newState =>
    dsimp only [handle]
    split <;> exact ⟨_, rfl⟩
  | simReset =>
    dsimp only [handle]
    split <;> exact ⟨_, rfl⟩
  | simCreate =>
    dsimp only [handle]
    split <;> exact ⟨_, rfl⟩
  | lockdownDisconnect =>
    dsimp only [handle]
    split <;> exact ⟨_, rfl⟩
  | _ => exact ⟨_, rfl⟩

lemma step_eq_some {d : ModemDriver} {t : Session} (hstep : step d s e = some t) :
    ∃ m, s.modem.handle d e = some m ∧ t = s.after e m := by
  rcases map_eq_some_iff.mp hstep with ⟨m, hm, rfl⟩
  exact ⟨m, hm, rfl⟩

lemma step_sound (d : ModemDriver) (h : Inv s) (hsound : s.Sound e) :
    ∃ t, step d s e = some t ∧ Inv t := by
  rcases handle_isSome d hsound with ⟨m, hm⟩
  have houtcome := handle_outcome d h e hm
  rcases houtcome.sound hsound with ⟨hcore, hwrongs⟩
  refine ⟨s.after e m, by rw [step, hm]; rfl, hcore, houtcome.accounts, houtcome.close, ?_⟩
  show (s.wronged || s.wrongs m e) = false
  rw [h.kept, hwrongs]
  rfl

lemma step_unsound (d : ModemDriver) (h : Inv s) (hmissed : ¬ s.Sound e) {t : Session}
    (hstep : step d s e = some t) : ¬ Good t := by
  rcases step_eq_some hstep with ⟨m, hm, rfl⟩
  intro hgood
  rcases (handle_outcome d h e hm).unsound hmissed with hwrongs | hoff
  · have hkept : (s.wronged || s.wrongs m e) = false := hgood.kept
    rw [hwrongs, Bool.or_true] at hkept
    cases hkept
  · exact hoff hgood.off

end Events

lemma start_inv : Inv start := by
  refine ⟨.of_powerOff rfl rfl fun _ => rfl, ⟨?_, fun hne => absurd rfl hne⟩,
    fun hne => absurd rfl hne, rfl⟩
  intro id
  exact (if_neg (Nat.not_lt_zero id)).symm

end Session

/-- Whatever comes to a modem: a modem that is not powered is in the off state and not online,
one in the online state is online, every request has one answer or is pending with something to
answer it, no callback misses its message, and a request answered with an error has left the
fields as they were, exactly if every event is sound. -/
theorem modem_power_iff (d : ModemDriver) (events : List OfonoModem.Event) :
    Machine.Safe (Session.step d) Session.Good Session.start events ↔
      Machine.EachStep (Session.step d) Session.Sound Session.start events :=
  Machine.safe_iff (fun _ h => h.good) (fun _ _ h hsound => Session.step_sound d h hsound)
    (fun _ _ _ h hmissed hstep => Session.step_unsound d h hmissed hstep) Session.start_inv events

/-- A request to power the modem on or off for a SIM access of this type. -/
def powerRequest (powered : Bool) (type : String) (result : DriverResult) : OfonoModem.Event :=
  .setProperty ⟨"Powered", some powered, 20, type, ":1.1", true, result⟩

/-- The second request is refused, as the first is still pending, and has set the SAP type. -/
theorem refused_request_sets_type : ¬ ∀ (d : ModemDriver) (events : List OfonoModem.Event),
    Machine.Safe (Session.step d) Session.Good Session.start events := by
  intro h
  rcases (h ⟨true, false, true⟩ [powerRequest true "local" .inProgress,
    powerRequest true "remote" .ok]).finish with ⟨s, hs, hgood⟩
  have hwronged : (Machine.finish (Session.step ⟨true, false, true⟩) Session.start
      [powerRequest true "local" .inProgress, powerRequest true "remote" .ok]).map
        Session.wronged = some true := by
    decide
  rw [hs, map_some, hgood.kept] at hwronged
  cases hwronged

end Phonelets.Modem
