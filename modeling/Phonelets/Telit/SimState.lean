import Mathlib.Data.Int.Notation
import Phonelets.Lib.Machine

/-! # The SIM status of the Telit modem

The modem reports the state of its SIM in `#QSS` lines. `switch_sim_state_status` turns them
into notifications of the SIM atom and creates the phonebook and SMS atoms, by two flags that
`cfun_enable_cb` clears.

A run counts the atoms by insertion: from a notification that a SIM is in to the one that it
is out.
-/

namespace Phonelets.Telit

open List

/-- What `switch_sim_state_status` calls: `ofono_sim_inserted_notify`,
`ofono_phonebook_create` and `ofono_sms_create`. -/
inductive SimCall where
  | simInsertedNotify (inserted : Bool)
  | phonebookCreate
  | smsCreate

/-- The two flags of `struct telit_data`. -/
structure SimFlags where
  haveSim : Bool
  smsPhonebookAdded : Bool

namespace SimFlags

/-- The flags as a successful `cfun_enable_cb` leaves them. -/
def cfunEnableCb (data : SimFlags) : SimFlags :=
  { data with haveSim := false, smsPhonebookAdded := false }

def switchSimStateStatus (data : SimFlags) (status : ℤ) : List SimCall × SimFlags :=
  if status = 0 then
    if data.haveSim = true then
      ([.simInsertedNotify false], { data with haveSim := false, smsPhonebookAdded := false })
    else ([], data)
  else if status = 1 ∨ status = 2 then
    if data.haveSim = false then ([.simInsertedNotify true], { data with haveSim := true })
    else ([], data)
  else if status = 3 then
    -- this branch neither reads nor sets `have_sim`
    if data.smsPhonebookAdded = false then
      ([.phonebookCreate, .smsCreate], { data with smsPhonebookAdded := true })
    else ([], data)
  else ([], data)

end SimFlags

/-! ## Runs -/

/-- An insertion: whether status 3 was reported in it, and the atoms that were created. -/
structure Insertion where
  ready : Bool
  phonebooks : ℕ
  smses : ℕ
  deriving DecidableEq

/-- The flags, the notifications so far, the insertions with the last one first, and the
number of atoms that were created while no SIM was in. -/
structure SimRun where
  data : SimFlags
  notified : List Bool
  insertions : List Insertion
  outside : ℕ

namespace SimRun

/-- The last notification says that a SIM is in. -/
def inserted (s : SimRun) : Bool := s.notified.getLast? == some true

/-- A change of the insertion that is going on. -/
def current (s : SimRun) (f : Insertion → Insertion) : SimRun :=
  { s with insertions := s.insertions.modifyHead f }

def hear (s : SimRun) : SimCall → SimRun
  | .simInsertedNotify b =>
    { s with
      notified := s.notified ++ [b]
      insertions := if b then ⟨false, 0, 0⟩ :: s.insertions else s.insertions }
  | .phonebookCreate =>
    if s.inserted then s.current fun i => { i with phonebooks := i.phonebooks + 1 }
    else { s with outside := s.outside + 1 }
  | .smsCreate =>
    if s.inserted then s.current fun i => { i with smses := i.smses + 1 }
    else { s with outside := s.outside + 1 }

/-- Status 3 is one of the insertion that is going on. -/
def report (s : SimRun) (status : ℤ) : SimRun :=
  if status = 3 ∧ s.inserted = true then s.current fun i => { i with ready := true } else s

def step (s : SimRun) (status : ℤ) : Option SimRun :=
  some (((s.data.switchSimStateStatus status).1.foldl hear
    { s with data := (s.data.switchSimStateStatus status).2 }).report status)

def start (data : SimFlags) : SimRun := ⟨data.cfunEnableCb, [], [], 0⟩

/-- The atoms of an insertion: one of each if it has reached status 3, and none otherwise. -/
def Insertion.Served (i : Insertion) : Prop :=
  i.phonebooks = i.ready.toNat ∧ i.smses = i.ready.toNat

structure Good (s : SimRun) : Prop where
  added : s.data.smsPhonebookAdded = true → s.data.haveSim = true
  alternate : ∀ i b, s.notified[i]? = some b → b = (i % 2 == 0)
  served : ∀ i ∈ s.insertions, Insertion.Served i
  outside : s.outside = 0

/-- With a SIM in, the flag for the atoms is that of the last insertion. -/
structure Inv (s : SimRun) : Prop where
  good : s.Good
  parity : s.notified.length % 2 = s.data.haveSim.toNat
  ready : s.data.haveSim = true →
    ∃ i rest, s.insertions = i :: rest ∧ i.ready = s.data.smsPhonebookAdded

variable {s : SimRun}

lemma Inv.inserted_eq (h : s.Inv) : s.inserted = s.data.haveSim := by
  have hparity := h.parity
  have halternate := h.good.alternate (s.notified.length - 1)
  rw [inserted, getLast?_eq_getElem?]
  cases hlen : s.notified.length with
  | zero =>
    rw [length_eq_zero_iff] at hlen
    cases hhave : s.data.haveSim with
    | false => simp [hlen]
    | true => simp [hlen, hhave] at hparity
  | succ n =>
    have hlast : s.notified[n]? = some s.notified[n] := getElem?_eq_getElem (by omega)
    rw [hlen, Nat.add_sub_cancel] at halternate
    rw [Nat.add_sub_cancel, hlast, halternate _ hlast]
    rw [hlen] at hparity
    cases hhave : s.data.haveSim with
    | false =>
      rw [hhave, Bool.toNat_false] at hparity
      have hodd : n % 2 = 1 := by omega
      simp [hodd]
    | true =>
      rw [hhave, Bool.toNat_true] at hparity
      have heven : n % 2 = 0 := by omega
      simp [heven]

lemma inv_start (data : SimFlags) : (start data).Inv where
  good := by
    refine ⟨nofun, ?_, nofun, rfl⟩
    intro i b hb
    cases hb
  parity := rfl
  ready := nofun

lemma Good.alternate_snoc (h : s.Good) {b : Bool} (hb : b = (s.notified.length % 2 == 0)) (i : ℕ)
    (c : Bool) (hc : (s.notified ++ [b])[i]? = some c) : c = (i % 2 == 0) := by
  rw [getElem?_append] at hc
  split at hc
  · exact h.alternate i c hc
  · rename_i hi
    rw [getElem?_singleton] at hc
    split at hc
    · rename_i heq
      have hi' : i = s.notified.length := by omega
      rw [hi', ← hb]
      exact (Option.some_inj.mp hc).symm
    · cases hc

lemma Inv.removed (h : s.Inv) (hhave : s.data.haveSim = true) :
    ({ s with data := ⟨false, false⟩, notified := s.notified ++ [false] } : SimRun).Inv := by
  have hparity := h.parity
  rw [hhave, Bool.toNat_true] at hparity
  refine ⟨⟨?_, ?_, h.good.served, h.good.outside⟩, ?_, ?_⟩
  · intro hadded
    cases hadded
  · exact h.good.alternate_snoc (by rw [hparity]; rfl)
  · rw [length_append, length_singleton, Bool.toNat_false]
    omega
  · intro hin
    cases hin

lemma Inv.insert (h : s.Inv) (hhave : s.data.haveSim = false) : ({ s with
      data := { s.data with haveSim := true }
      notified := s.notified ++ [true]
      insertions := ⟨false, 0, 0⟩ :: s.insertions } : SimRun).Inv := by
  have hparity := h.parity
  have hadded : s.data.smsPhonebookAdded = false := by
    cases hadded : s.data.smsPhonebookAdded with
    | false => rfl
    | true => exact absurd (h.good.added hadded) (by rw [hhave]; exact Bool.false_ne_true)
  rw [hhave, Bool.toNat_false] at hparity
  refine ⟨⟨fun _ => rfl, ?_, ?_, h.good.outside⟩, ?_, ?_⟩
  · exact h.good.alternate_snoc (by rw [hparity]; rfl)
  · intro i hi
    rcases mem_cons.mp hi with rfl | hi
    · exact ⟨rfl, rfl⟩
    · exact h.good.served i hi
  · rw [length_append, length_singleton, Bool.toNat_true]
    omega
  · intro _
    exact ⟨⟨false, 0, 0⟩, s.insertions, rfl, hadded.symm⟩

/-- Status 3 with a SIM in: the insertion gets its atoms, unless it has them. -/
lemma Inv.reach (h : s.Inv) (hhave : s.data.haveSim = true) {i : Insertion}
    {rest : List Insertion} (hinsertions : s.insertions = i :: rest) :
    ({ s with
      data := { s.data with smsPhonebookAdded := true }
      insertions := ⟨true, 1, 1⟩ :: rest } : SimRun).Inv := by
  refine ⟨⟨fun _ => hhave, h.good.alternate, ?_, h.good.outside⟩, h.parity, ?_⟩
  · intro j hj
    rcases mem_cons.mp hj with rfl | hj
    · exact ⟨rfl, rfl⟩
    · exact h.good.served j (hinsertions ▸ mem_cons_of_mem i hj)
  · intro _
    exact ⟨_, rest, rfl, rfl⟩

/-- Status 3 comes only while a SIM is in. -/
def Met (s : SimRun) (status : ℤ) : Prop := status = 3 → s.data.haveSim = true

lemma Inv.step {s : SimRun} (h : s.Inv) {status : ℤ} (hmet : s.Met status) :
    ∃ t, step s status = some t ∧ t.Inv := by
  refine ⟨_, rfl, ?_⟩
  by_cases hzero : status = 0
  · subst hzero
    cases hhave : s.data.haveSim with
    | false => simpa [SimFlags.switchSimStateStatus, hhave, report] using h
    | true =>
      simpa [SimFlags.switchSimStateStatus, hhave, report, hear] using h.removed hhave
  · by_cases hone : status = 1 ∨ status = 2
    · have hthree : status ≠ 3 := by omega
      cases hhave : s.data.haveSim with
      | false =>
        simpa [SimFlags.switchSimStateStatus, hzero, hone, hhave, report, hthree, hear]
          using h.insert hhave
      | true =>
        simpa [SimFlags.switchSimStateStatus, hzero, hone, hhave, report, hthree] using h
    · by_cases hthree : status = 3
      · have hhave := hmet hthree
        rcases h.ready hhave with ⟨i, rest, hinsertions, hready⟩
        have hserved := h.good.served i (hinsertions ▸ mem_cons_self)
        have hin : (s.notified.getLast? == some true) = true := h.inserted_eq.trans hhave
        have hreach := h.reach hhave hinsertions
        subst hthree
        cases hadded : s.data.smsPhonebookAdded with
        | false =>
          rw [Insertion.Served, hready, hadded] at hserved
          simpa [SimFlags.switchSimStateStatus, hadded, report, hear, inserted, hin, current,
            hinsertions, hserved.1, hserved.2] using hreach
        | true =>
          -- the atoms are there: nothing changes
          have hi : i = ⟨true, 1, 1⟩ := by
            rw [Insertion.Served, hready, hadded] at hserved
            cases i
            simp_all
          have hdata : { s.data with smsPhonebookAdded := true } = s.data := by
            cases hd : s.data
            simp_all
          rw [hdata, ← hi, ← hinsertions] at hreach
          simpa [SimFlags.switchSimStateStatus, hadded, report, inserted, hin, current,
            hinsertions, hi] using hreach
      · simpa [SimFlags.switchSimStateStatus, hzero, hone, hthree, report] using h

/-- Status 3 without a SIM: the flag for the atoms is set while the one for the SIM is not. -/
lemma Inv.not_good (h : s.Inv) {status : ℤ} {t : SimRun} (hmet : ¬ s.Met status)
    (ht : SimRun.step s status = some t) : ¬ t.Good := by
  intro hgood
  rw [Met, Classical.not_imp] at hmet
  rcases hmet with ⟨rfl, hhave⟩
  have hadded : s.data.smsPhonebookAdded = false := by
    cases hadded : s.data.smsPhonebookAdded with
    | false => rfl
    | true => exact absurd (h.good.added hadded) hhave
  have hin : (s.notified.getLast? == some true) = false :=
    h.inserted_eq.trans (Bool.eq_false_iff.mpr hhave)
  cases ht
  refine hhave (Eq.trans ?_ (hgood.added ?_))
  · simp [SimFlags.switchSimStateStatus, hadded, report, hear, inserted, hin]
  · simp [SimFlags.switchSimStateStatus, hadded, report, hear, inserted, hin]

/-- A run keeps all that is promised if and only if status 3 comes only while a SIM is in. -/
theorem sim_status_iff (data : SimFlags) (statuses : List ℤ) : Machine.Safe step Good (start data)
    statuses ↔ Machine.EachStep step Met (start data) statuses := by
  refine Machine.safe_iff (fun (s : SimRun) (h : s.Inv) => h.good) ?_ ?_ (inv_start data) statuses
  · intro s status h hmet
    exact h.step hmet
  · intro s status t h hmet ht
    exact h.not_good hmet ht

/-- Status 3 comes first; after the SIM has been out and in again there are no atoms. -/
theorem status_three_first :
    ¬ ∀ (data : SimFlags) (statuses : List ℤ), Machine.Safe step Good (start data) statuses := by
  intro h
  rcases (h ⟨false, false⟩ [3, 0, 1, 3]).finish with ⟨t, ht, hgood⟩
  cases ht
  have hserved := hgood.served ⟨true, 0, 0⟩ (by decide)
  exact absurd hserved.1 (by decide)

end SimRun

end Phonelets.Telit
