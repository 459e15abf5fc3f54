import Phonelets.Lib.Machine
import Phonelets.Telit.Driver

/-! # The channels of the Telit driver

What is asked of a run of the driver: the four channel fields are overwritten only when they
hold no open channel, `sap_close_io` has a channel to close, an enable that fails leaves
nothing open, and `sap_enable` returns `-EINPROGRESS` only when something is to come. And
what the events must meet for that.

That they are enough is proved by an invariant: the commands under way belong to the chat in
`data->chat`, no two of them are under way at once but for `#RSEN=0`, and where `#RSEN:`
is registered the modem of the SIM server is not on.
-/

namespace Phonelets.Telit

open List
open Driver

/-! ## What is asked of a run -/

/-- Nothing is wrong with what a mark says. -/
def Mark.Fine : Mark → Prop
  | .stored held => held = false
  | .closing hwIo => hwIo ≠ none
  | .enableFailed clear => clear = true
  | .inProgress waiting => waiting = true

instance : DecidablePred Mark.Fine := fun m => by
  cases m <;> unfold Mark.Fine <;> infer_instance

/-- Nothing that was done up to here is wrong. -/
def Good (s : Driver) : Prop := ∀ m ∈ s.marks, m.Fine

instance : DecidablePred Good := fun s => inferInstanceAs (Decidable (∀ m ∈ s.marks, m.Fine))

/-! ## When a step goes well -/

/-- The two fields hold no open line. If one does not open, nothing else may be open: the
exits do not look at it. -/
def OpensSafely (r : Results) (s : Driver) : Prop :=
  s.isOpen s.modem = false ∧
    if r.modem then s.isOpen s.chat = false ∧ (r.aux = false → s.IoClear)
    else s.chat = none ∧ s.IoClear

/-- Nothing fails once the two lines are open. -/
def Links (fd : ℕ) (r : Results) : Prop :=
  r.device = true ∧ r.hwChannel = true ∧
    if fd = 0 then r.bus = true ∧ r.owner = true else r.btChannel = true

/-- `telit_sap_enable` goes well, with the fields of the link free, or it stops before there is
anything it would leave open. -/
def SapEnablesSafely (fd : ℕ) (r : Results) (s : Driver) : Prop :=
  OpensSafely r s ∧
    (r.modem = true → r.aux = true →
      Links fd r ∧ s.hwIo = none ∧ (fd ≠ 0 → s.btIo = none))

/-- What `sap_enable` must meet. Over WiFi an error is not reported, so that none may occur. -/
def WifiSafely (k : ℕ) (r : Results) (s : Driver) : Prop :=
  r.wifi = true →
    (s.power (.sap k)).powered = false ∧ r.modem = true ∧ r.aux = true ∧ SapEnablesSafely 0 r s

/-- What the reply to a `ConnectFD` must meet. -/
def ReplySafely (k : ℕ) (fd : Option ℕ) (r : Results) (s : Driver) : Prop :=
  ∀ n ∈ fd, (s.power (.sap k)).powered = false → SapEnablesSafely n r s

/-- What `enable` of the driver of a modem must meet. -/
def EnableSafely (m : Modem) (r : Results) (s : Driver) : Prop :=
  match m with
  | .hw => OpensSafely r s
  | .sap k => WifiSafely k r s

/-- What an event must meet in the state it finds. -/
def Safe (s : Driver) : Event → Prop
  | .setPowered m powered r =>
    powered = true → (s.power m).poweredPending = false → EnableSafely m r s
  | .connectReply call fd r => ∀ k ∈ s.calls.lookup call, ReplySafely k fd r s
  | .atReply _ .cfunEnable ok | .atReply _ .rsenEnable ok => ok = true
  | .atReply _ .rsenDisable _ => s.hwIo ≠ none
  -- the modem of the SIM server is never on when the first of them comes
  | .rsenNotify _ _ _ => False
  | .timeout _ | .atReply _ .cfunDisable _ | .hangUp _ | .lineHangUp _ => True

/-! ## Marks -/

lemma good_mark (m : Mark) (s : Driver) : Good (s.mark m) ↔ m.Fine ∧ Good s :=
  forall_mem_cons

variable {s t : Driver}

lemma good_congr (h : s.marks = t.marks) : Good s ↔ Good t := by
  rw [Good, Good, h]

lemma good_enableFailed (s : Driver) : Good s.enableFailed ↔ s.Clear ∧ Good s := by
  rw [enableFailed, good_mark]
  simp [Mark.Fine]

lemma not_good_enableFailed {s : Driver} {c : ℕ} (h : s.chat = some c) : ¬ Good s.enableFailed := by
  rw [good_enableFailed]
  rintro ⟨⟨hchat, _⟩, _⟩
  rw [h] at hchat
  cases hchat

@[simp] lemma marks_send (cmd : AtCommand) (s : Driver) : (s.send cmd).marks = s.marks := by
  unfold send
  split
  · rfl
  · split <;> rfl

@[simp] lemma marks_registerRsen (s : Driver) : s.registerRsen.marks = s.marks := by
  unfold registerRsen
  split
  · rfl
  · split <;> rfl

/-! ## What the operations leave -/

lemma sourceRemove_eq (id : Option ℕ) (s : Driver) : ∃ src hw bt p, s.sourceRemove id = { s with
    sources := src, hwWatch := hw, btWatch := bt, power := p } ∧ src ⊆ s.sources ∧ ∀ k, p (.sap k) =
    s.power (.sap k) := by
  cases id with
  | none => exact ⟨_, _, _, _, rfl, fun _ h => h, fun _ => rfl⟩
  | some i =>
    cases hi : s.sources.lookup i with
    | none =>
      refine ⟨s.sources, s.hwWatch, s.btWatch, s.power, ?_, fun _ h => h, fun _ => rfl⟩
      simp only [sourceRemove, hi]
    | some w =>
      simp only [sourceRemove, hi]
      cases w <;>
        exact ⟨_, _, _, _, rfl, filter_sublist.subset,
          fun k => by simp [ofonoModemSetPowered]⟩

lemma sapCloseIo_eq (s : Driver) :
    ∃ src hw bt p, s.sapCloseIo =
        { s with
          btIo := none, hwIo := none, sources := src, hwWatch := hw, btWatch := bt, power := p
          marks := .closing s.hwIo :: s.marks } ∧
      src ⊆ s.sources ∧ ∀ k, p (.sap k) = s.power (.sap k) := by
  -- two watches are removed, with `data->hw_io` released in between
  rcases sourceRemove_eq s.btWatch { s with btIo := none } with ⟨src, hw, bt, p, heq, hsrc, hp⟩
  rcases sourceRemove_eq hw
      { s with
        btIo := none, hwIo := none, sources := src, hwWatch := hw, btWatch := bt, power := p
        marks := .closing s.hwIo :: s.marks } with ⟨src', hw', bt', p', heq', hsrc', hp'⟩
  refine ⟨src', hw', bt', p', ?_, fun q hq => hsrc (hsrc' hq), fun k => (hp' k).trans (hp k)⟩
  simp only [sapCloseIo, heq, mark]
  exact heq'

/-- A chat that is given up takes commands and notifications with it, its own or those of
its slave. -/
lemma release_eq (c : ℕ) (s : Driver) :
    ∃ refs pending rsen, s.release c = { s with refs := refs, pending := pending, rsen := rsen } ∧
      pending.Sublist s.pending ∧ rsen ⊆ s.rsen := by
  dsimp only [release]
  split
  · exact ⟨_, _, _, rfl, List.Sublist.refl _, fun _ h => h⟩
  · exact ⟨_, _, _, rfl, filter_sublist, filter_sublist.subset⟩

lemma unref_eq (c : Option ℕ) (s : Driver) :
    ∃ refs pending rsen, s.unref c = { s with refs := refs, pending := pending, rsen := rsen } ∧
      pending.Sublist s.pending ∧ rsen ⊆ s.rsen := by
  cases c with
  | none => exact ⟨_, _, _, rfl, List.Sublist.refl _, fun _ h => h⟩
  | some c =>
    rcases release_eq c s with ⟨refs, pending, rsen, heq, hpending, hrsen⟩
    simp only [unref, heq]
    split
    · exact ⟨_, _, _, rfl, hpending, hrsen⟩
    · split
      · exact ⟨_, _, _, rfl, hpending, hrsen⟩
      · next slave _ =>
        rcases release_eq slave { s with refs := refs, pending := pending, rsen := rsen } with
          ⟨refs', pending', rsen', heq', hpending', hrsen'⟩
        exact ⟨refs', pending', rsen', heq', hpending'.trans hpending,
          fun d hd => hrsen (hrsen' hd)⟩

/-! ## The invariant -/

/-- What a command under way says about the state. -/
def Expects (s : Driver) (c : ℕ) : AtCommand → Prop
  | .cfunEnable => s.chat = some c ∧ c ∉ s.hungUp ∧ s.rsen = [] ∧ s.modem ≠ none
  | .cfunDisable => s.chat = some c ∧ c ∉ s.hungUp ∧ s.rsen = []
  | .rsenEnable => s.chat = some c ∧ c ∉ s.hungUp ∧ s.sapModem ≠ none
  | .rsenDisable => True

/-- What holds of the commands and the notifications while nothing has gone wrong. -/
structure Tidy (s : Driver) : Prop where
  /-- No two commands are under way, but for `#RSEN=0`. -/
  alone : s.pending.Pairwise fun p q => p.2 = .rsenDisable ∨ q.2 = .rsenDisable
  expected : ∀ p ∈ s.pending, Expects s p.1 p.2
  /-- A registered `#RSEN:` is on the chat in use, and the SIM server it is for is not on. -/
  registered : ∀ c ∈ s.rsen, s.chat = some c ∧ c ∉ s.hungUp ∧
    ∃ k, s.sapModem = some k ∧ (s.power (.sap k)).powered = false

/-- The next number is new. -/
structure Numbered (s : Driver) : Prop where
  chat : ∀ c ∈ s.chat, c < s.next
  pending : ∀ p ∈ s.pending, p.1 < s.next
  sources : ∀ p ∈ s.sources, p.1 < s.next
  calls : ∀ p ∈ s.calls, p.1 < s.next

/-- Nothing is under way but `#RSEN=0`. -/
def Idle (s : Driver) : Prop := (∀ p ∈ s.pending, p.2 = .rsenDisable) ∧ s.rsen = []

lemma Idle.tidy {s : Driver} (h : Idle s) : Tidy s where
  alone := pairwise_of_forall_mem_list fun p hp _ _ => Or.inl (h.1 p hp)
  expected p hp := by
    rw [h.1 p hp]
    trivial
  registered c hc := by
    rw [h.2] at hc
    cases hc

lemma isOpen_some {c : ℕ} : s.isOpen (some c) = true ↔ c ∉ s.hungUp := by
  simp [isOpen]

lemma Tidy.idle (h : Tidy s) (hclosed : s.isOpen s.chat = false) : Idle s := by
  -- every command but `#RSEN=0` says that `data->chat` is open
  have hnot : ∀ c, ¬ (s.chat = some c ∧ c ∉ s.hungUp) := by
    rintro c ⟨hchat, hup⟩
    rw [hchat, isOpen_some.mpr hup] at hclosed
    cases hclosed
  constructor
  · rintro ⟨c, cmd⟩ hp
    have hexp := h.expected _ hp
    cases cmd with
    | rsenDisable => rfl
    | cfunEnable => exact absurd ⟨hexp.1, hexp.2.1⟩ (hnot c)
    | cfunDisable => exact absurd ⟨hexp.1, hexp.2.1⟩ (hnot c)
    | rsenEnable => exact absurd ⟨hexp.1, hexp.2.1⟩ (hnot c)
  · rw [eq_nil_iff_forall_not_mem]
    intro c hc
    have hreg := h.registered c hc
    exact hnot c ⟨hreg.1, hreg.2.1⟩

/-- From one state to another with the same fields, in which no more is under way and no
modem of a SIM server has come on. -/
structure Settles (s t : Driver) : Prop where
  chat : t.chat = s.chat
  modem : t.modem = s.modem
  sapModem : t.sapModem = s.sapModem
  hungUp : t.hungUp = s.hungUp
  pending : t.pending.Sublist s.pending
  rsen : t.rsen ⊆ s.rsen
  sources : t.sources ⊆ s.sources
  calls : t.calls ⊆ s.calls
  next : t.next = s.next
  power : ∀ k, (s.power (.sap k)).powered = false → (t.power (.sap k)).powered = false

lemma Settles.expects (h : Settles s t) {c : ℕ} {cmd : AtCommand}
    (hexp : Expects s c cmd) : Expects t c cmd := by
  have hrsen : s.rsen = [] → t.rsen = [] := fun hnil =>
    eq_nil_of_subset_nil (hnil ▸ h.rsen)
  cases cmd with
  | rsenDisable => trivial
  | cfunEnable =>
    simp only [Expects, h.chat, h.modem, h.hungUp] at hexp ⊢
    exact ⟨hexp.1, hexp.2.1, hrsen hexp.2.2.1, hexp.2.2.2⟩
  | cfunDisable =>
    simp only [Expects, h.chat, h.hungUp] at hexp ⊢
    exact ⟨hexp.1, hexp.2.1, hrsen hexp.2.2⟩
  | rsenEnable =>
    simp only [Expects, h.chat, h.sapModem, h.hungUp] at hexp ⊢
    exact hexp

lemma Tidy.settles (hs : Tidy s) (h : Settles s t) : Tidy t where
  alone := hs.alone.sublist h.pending
  expected p hp := h.expects (hs.expected p (h.pending.subset hp))
  registered c hc := by
    rcases hs.registered c (h.rsen hc) with ⟨hchat, hup, k, hk, hoff⟩
    rw [h.chat, h.hungUp, h.sapModem]
    exact ⟨hchat, hup, k, hk, h.power k hoff⟩

lemma Numbered.mono (h : Numbered s) (hchat : ∀ c ∈ t.chat, c < t.next)
    (hpending : t.pending ⊆ s.pending) (hsources : t.sources ⊆ s.sources)
    (hcalls : t.calls ⊆ s.calls) (hnext : s.next ≤ t.next) : Numbered t where
  chat := hchat
  pending p hp := Nat.lt_of_lt_of_le (h.pending p (hpending hp)) hnext
  sources p hp := Nat.lt_of_lt_of_le (h.sources p (hsources hp)) hnext
  calls p hp := Nat.lt_of_lt_of_le (h.calls p (hcalls hp)) hnext

lemma Numbered.settles (hs : Numbered s) (h : Settles s t) : Numbered t := by
  refine hs.mono ?_ h.pending.subset h.sources h.calls (Nat.le_of_eq h.next.symm)
  rw [h.chat, h.next]
  exact hs.chat

lemma waiting_eq_false (hs : Numbered s) (hpending : t.pending ⊆ s.pending)
    (hsources : t.sources ⊆ s.sources) (hcalls : t.calls ⊆ s.calls) : t.waiting s.next = false := by
  simp only [waiting, Bool.or_eq_false_iff, any_eq_false, decide_eq_true_eq, Nat.not_le]
  exact ⟨⟨fun p hp => hs.pending p (hpending hp), fun p hp => hs.sources p (hsources hp)⟩,
    fun p hp => hs.calls p (hcalls hp)⟩

lemma settles_sapCloseIo (s : Driver) : Settles s s.sapCloseIo := by
  rcases sapCloseIo_eq s with ⟨src, hw, bt, p, heq, hsrc, hp⟩
  rw [heq]
  exact ⟨rfl, rfl, rfl, rfl, List.Sublist.refl _, fun _ h => h, hsrc, fun _ h => h, rfl,
    fun k hk => (congrArg Power.powered (hp k)).trans hk⟩

lemma good_sapCloseIo (s : Driver) : Good s.sapCloseIo ↔ s.hwIo ≠ none ∧ Good s := by
  rcases sapCloseIo_eq s with ⟨src, hw, bt, p, heq, _⟩
  rw [heq]
  exact forall_mem_cons

/-! ## Sending -/

/-- A command is sent where no other is under way, or is `#RSEN=0`. -/
lemma Tidy.send (h : Tidy s) {cmd : AtCommand}
    (halone : ∀ p ∈ s.pending, p.2 = .rsenDisable ∨ cmd = .rsenDisable)
    (hexp : ∀ c, s.chat = some c → c ∉ s.hungUp → Expects s c cmd) : Tidy (s.send cmd) := by
  unfold Driver.send
  split
  · exact ⟨h.alone, h.expected, h.registered⟩
  · next c hchat =>
    split
    · exact h
    · next hup =>
      refine ⟨?_, ?_, h.registered⟩
      · rw [pairwise_append]
        refine ⟨h.alone, pairwise_singleton _ _, ?_⟩
        intro p hp q hq
        rw [mem_singleton.mp hq]
        exact halone p hp
      · intro p hp
        rcases mem_append.mp hp with hp | hp
        · exact h.expected p hp
        · rw [mem_singleton.mp hp]
          exact hexp c hchat hup

lemma Numbered.send (h : Numbered s) (cmd : AtCommand) : Numbered (s.send cmd) := by
  unfold Driver.send
  split
  · exact ⟨h.chat, h.pending, h.sources, h.calls⟩
  · next c hchat =>
    split
    · exact h
    · refine ⟨h.chat, ?_, h.sources, h.calls⟩
      intro p hp
      rcases mem_append.mp hp with hp | hp
      · exact h.pending p hp
      · rw [mem_singleton.mp hp]
        exact h.chat c hchat

/-! ## What only settles -/

variable {s : Driver}

lemma settles_of_fields (hchat : t.chat = s.chat) (hmodem : t.modem = s.modem)
    (hsap : t.sapModem = s.sapModem) (hup : t.hungUp = s.hungUp) (hpending : t.pending = s.pending)
    (hrsen : t.rsen = s.rsen) (hsources : t.sources = s.sources) (hcalls : t.calls = s.calls)
    (hnext : t.next = s.next) (hpower : ∀ k, (s.power (.sap k)).powered = false →
    (t.power (.sap k)).powered = false) : Settles s t :=
  ⟨hchat, hmodem, hsap, hup, hpending ▸ List.Sublist.refl _, hrsen ▸ fun _ h => h,
    hsources ▸ fun _ h => h, hcalls ▸ fun _ h => h, hnext, hpower⟩

lemma settles_mark (m : Mark) (s : Driver) : Settles s (s.mark m) :=
  settles_of_fields rfl rfl rfl rfl rfl rfl rfl rfl rfl fun _ h => h

lemma settles_crash (s : Driver) : Settles s s.crash :=
  settles_of_fields rfl rfl rfl rfl rfl rfl rfl rfl rfl fun _ h => h

lemma settles_attachDriver (k : ℕ) (s : Driver) : Settles s (s.attachDriver k) :=
  settles_of_fields rfl rfl rfl rfl rfl rfl rfl rfl rfl fun _ h => h

lemma settles_power (m : Modem) (p : Power) (s : Driver) (h : (s.power m).powered = false →
    p.powered = false) : Settles s { s with power := Function.update s.power m p } := by
  refine settles_of_fields rfl rfl rfl rfl rfl rfl rfl rfl rfl ?_
  intro k hk
  show (Function.update s.power m p (.sap k)).powered = false
  by_cases hm : Modem.sap k = m
  · subst hm
    rw [Function.update_self]
    exact h hk
  · rw [Function.update_of_ne hm]
    exact hk

lemma settles_setPoweredFalse (m : Modem) (s : Driver) :
    Settles s (s.ofonoModemSetPowered m false) :=
  settles_power m _ s fun _ => rfl

lemma settles_setPoweredPending (m : Modem) (b : Bool) (s : Driver) :
    Settles s (s.setPoweredPending m b) :=
  settles_power m _ s id

lemma settles_sourceRemove (id : Option ℕ) (s : Driver) : Settles s (s.sourceRemove id) := by
  rcases sourceRemove_eq id s with ⟨src, hw, bt, p, heq, hsrc, hp⟩
  rw [heq]
  exact ⟨rfl, rfl, rfl, rfl, List.Sublist.refl _, fun _ h => h, hsrc, fun _ h => h, rfl,
    fun k hk => (congrArg Power.powered (hp k)).trans hk⟩

lemma marks_sourceRemove (id : Option ℕ) (s : Driver) : (s.sourceRemove id).marks = s.marks := by
  rcases sourceRemove_eq id s with ⟨src, hw, bt, p, heq, _⟩
  rw [heq]

/-! ## States that nothing has gone wrong in -/

structure Inv (s : Driver) : Prop where
  good : Good s
  tidy : Tidy s
  numbered : Numbered s

lemma Inv.settles (hs : Inv s) (h : Settles s t) (hmarks : t.marks = s.marks) : Inv t :=
  ⟨(good_congr hmarks).mpr hs.good, hs.tidy.settles h, hs.numbered.settles h⟩

lemma inv_probed : Inv probed where
  good m hm := by cases hm
  tidy := ⟨List.Pairwise.nil, fun p hp => (by cases hp), fun c hc => (by cases hc)⟩
  numbered := ⟨fun c hc => (by cases hc), fun p hp => (by cases hp), fun p hp => (by cases hp),
    fun p hp => (by cases hp)⟩

end Phonelets.Telit
