import Mathlib.Tactic.Common

/-! # Machines

A machine that answers every input is a step function `σ → ι → ω × σ`; `run` feeds
it a list of inputs. The rules below lift a fact about one step to whole runs: an
invariant, a condition met at every step, and a simulation between two machines
together with the converse, that the outputs differ as soon as the condition is
missed.

A machine whose actions may be disabled is a step function `σ → ι → Option σ`.
Its rule is `always_iff`: what the steps must meet for a property to hold in every
state of a run. Where `none` is a fault instead, which no run may come to, the rule is
`safe_iff`.
-/

namespace Phonelets.Machine

universe u v w x

variable {σ : Type u} {τ : Type v} {ι : Type w} {ω : Type x}

/-- The outputs of a run and the state it ends in. -/
def run (step : σ → ι → ω × σ) (s : σ) : List ι → List ω × σ
  | [] => ([], s)
  | i :: is => ((step s i).1 :: (run step (step s i).2 is).1, (run step (step s i).2 is).2)

/-- `P` holds at every step of the run, of the state before it and its input. -/
def AllSteps (step : σ → ι → ω × σ) (P : σ → ι → Prop) (s : σ) : List ι → Prop
  | [] => True
  | i :: is => P s i ∧ AllSteps step P (step s i).2 is

@[simp] lemma run_nil (step : σ → ι → ω × σ) (s : σ) : run step s [] = ([], s) := rfl

lemma run_cons (step : σ → ι → ω × σ) (s : σ) (i : ι) (is : List ι) :
    run step s (i :: is) =
      ((step s i).1 :: (run step (step s i).2 is).1, (run step (step s i).2 is).2) := rfl

lemma run_append (step : σ → ι → ω × σ) (s : σ) (is js : List ι) : run step s (is ++ js) = ((run
    step s is).1 ++ (run step (run step s is).2 js).1, (run step (run step s is).2 js).2) := by
  induction is generalizing s with
  | nil => rfl
  | cons i is ih =>
    rw [List.cons_append, run_cons, ih, run_cons]
    rfl

@[simp] lemma allSteps_nil (step : σ → ι → ω × σ) (P : σ → ι → Prop) (s : σ) :
    AllSteps step P s [] := trivial

lemma allSteps_cons (step : σ → ι → ω × σ) (P : σ → ι → Prop) (s : σ) (i : ι) (is : List ι) :
    AllSteps step P s (i :: is) ↔ P s i ∧ AllSteps step P (step s i).2 is := Iff.rfl

instance AllSteps.decidable (step : σ → ι → ω × σ) (P : σ → ι → Prop) [∀ s i, Decidable (P s i)] :
    ∀ (s : σ) (is : List ι), Decidable (AllSteps step P s is)
  | _, [] => .isTrue trivial
  | s, i :: is =>
    have := AllSteps.decidable step P (step s i).2 is
    inferInstanceAs (Decidable (P s i ∧ AllSteps step P (step s i).2 is))

lemma allSteps_true (step : σ → ι → ω × σ) (s : σ) (is : List ι) :
    AllSteps step (fun _ _ => True) s is := by
  induction is generalizing s with
  | nil => trivial
  | cons i is ih => exact ⟨trivial, ih _⟩

/-- Two conditions on the steps of a run. -/
lemma AllSteps.and {step : σ → ι → ω × σ} {P Q : σ → ι → Prop} {s : σ} {is : List ι} (hP : AllSteps
    step P s is) (hQ : AllSteps step Q s is) : AllSteps step (fun s i => P s i ∧ Q s i) s is := by
  induction is generalizing s with
  | nil => trivial
  | cons i is ih => exact ⟨⟨hP.1, hQ.1⟩, ih hP.2 hQ.2⟩

/-- A condition on the steps of a run and one on its inputs. -/
lemma AllSteps.and_inputs {step : σ → ι → ω × σ} {P : σ → ι → Prop} {Q : ι → Prop} {s : σ}
    {is : List ι} (hP : AllSteps step P s is) (hQ : ∀ i ∈ is, Q i) :
    AllSteps step (fun s i => P s i ∧ Q i) s is := by
  induction is generalizing s with
  | nil => trivial
  | cons i is ih =>
    exact ⟨⟨hP.1, hQ i List.mem_cons_self⟩, ih hP.2 fun j hj => hQ j (List.mem_cons_of_mem i hj)⟩

/-- The condition at a step inside of a run. -/
lemma AllSteps.at {step : σ → ι → ω × σ} {P : σ → ι → Prop} {s : σ} {is : List ι} {i : ι}
    {js : List ι} (h : AllSteps step P s (is ++ i :: js)) : P (run step s is).2 i := by
  induction is generalizing s with
  | nil => exact h.1
  | cons j is ih => exact ih h.2

/-- An invariant under which `P` and `Q` are the same, and which steps that meet `P` preserve. -/
lemma allSteps_iff {step : σ → ι → ω × σ} {P Q : σ → ι → Prop} {Inv : σ → Prop}
    (hiff : ∀ s i, Inv s → (P s i ↔ Q s i)) (hstep : ∀ s i, Inv s → P s i → Inv (step s i).2) {s : σ}
    (hs : Inv s) {is : List ι} : AllSteps step P s is ↔ AllSteps step Q s is := by
  induction is generalizing s with
  | nil => exact Iff.rfl
  | cons i is ih =>
    rw [allSteps_cons, allSteps_cons, ← hiff s i hs]
    exact and_congr_right fun hi => ih (hstep s i hs hi)

/-- An invariant that every step meeting `P` preserves, and under which such a step gives
a good output: then a run whose steps all meet `P` gives good outputs only. -/
lemma run_outputs {step : σ → ι → ω × σ} {P : σ → ι → Prop} {Inv : σ → Prop} {good : ω → Prop}
    (hstep : ∀ s i, Inv s → P s i → good (step s i).1 ∧ Inv (step s i).2) {s : σ} (hs : Inv s)
    {is : List ι} (hP : AllSteps step P s is) :
    (∀ o ∈ (run step s is).1, good o) ∧ Inv (run step s is).2 := by
  induction is generalizing s with
  | nil => exact ⟨by simp, hs⟩
  | cons i is ih =>
    rcases hP with ⟨hi, hrest⟩
    rcases hstep s i hs hi with ⟨hgood, hinv⟩
    rcases ih hinv hrest with ⟨hgoods, hend⟩
    refine ⟨?_, hend⟩
    intro o ho
    rcases List.mem_cons.mp ho with rfl | ho
    · exact hgood
    · exact hgoods o ho

/-- A simulation: from related states a step that meets `P` gives the same output
and related states. Then a whole run does. -/
lemma run_simulation {f : σ → ι → ω × σ} {g : τ → ι → ω × τ} {R : σ → τ → Prop} {P : σ → ι → Prop}
    (hsim : ∀ s t i, R s t → P s i → (f s i).1 = (g t i).1 ∧ R (f s i).2 (g t i).2) {s : σ} {t : τ}
    (hR : R s t) {is : List ι} (hP : AllSteps f P s is) :
    (run f s is).1 = (run g t is).1 ∧ R (run f s is).2 (run g t is).2 := by
  induction is generalizing s t with
  | nil => exact ⟨rfl, hR⟩
  | cons i is ih =>
    rcases hP with ⟨hi, hrest⟩
    rcases hsim s t i hR hi with ⟨hout, hR'⟩
    rcases ih hR' hrest with ⟨houts, hend⟩
    refine ⟨?_, hend⟩
    rw [run_cons, run_cons, hout, houts]

/-- A simulation under which the outputs are those of the other machine in another form. -/
lemma run_simulation_map {ψ : Type*} {f : σ → ι → ω × σ} {g : τ → ι → ψ × τ} {φ : ω → ψ}
    {R : σ → τ → Prop} {P : σ → ι → Prop} (hsim : ∀ s t i, R s t → P s i → (g t i).1 = φ (f s i).1 ∧
    R (f s i).2 (g t i).2) {s : σ} {t : τ} (hR : R s t) {is : List ι} (hP : AllSteps f P s is) :
    (run g t is).1 = (run f s is).1.map φ ∧ R (run f s is).2 (run g t is).2 := by
  induction is generalizing s t with
  | nil => exact ⟨rfl, hR⟩
  | cons i is ih =>
    rcases hP with ⟨hi, hrest⟩
    rcases hsim s t i hR hi with ⟨hout, hR'⟩
    rcases ih hR' hrest with ⟨houts, hend⟩
    refine ⟨?_, hend⟩
    rw [run_cons, run_cons, hout, houts, List.map_cons]

/-- If moreover a step that misses `P` gives different outputs, the outputs of two
runs agree exactly when every step meets `P`. -/
lemma run_eq_iff {f : σ → ι → ω × σ} {g : τ → ι → ω × τ} {R : σ → τ → Prop} {P : σ → ι → Prop}
    (hsim : ∀ s t i, R s t → P s i → (f s i).1 = (g t i).1 ∧ R (f s i).2 (g t i).2)
    (hdiff : ∀ s t i, R s t → ¬ P s i → (f s i).1 ≠ (g t i).1) {s : σ} {t : τ} (hR : R s t)
    (is : List ι) : (run f s is).1 = (run g t is).1 ↔ AllSteps f P s is := by
  constructor
  · intro heq
    induction is generalizing s t with
    | nil => trivial
    | cons i is ih =>
      rw [run_cons, run_cons] at heq
      rcases List.cons_eq_cons.mp heq with ⟨hout, houts⟩
      by_cases hi : P s i
      · exact ⟨hi, ih (hsim s t i hR hi).2 houts⟩
      · exact absurd hout (hdiff s t i hR hi)
  · intro hP
    exact (run_simulation hsim hR hP).1

/-! ## Actions that may be disabled -/

/-- `Good` holds in every state of the run, up to the first disabled action. -/
def Always (step : σ → ι → Option σ) (Good : σ → Prop) (s : σ) : List ι → Prop
  | [] => Good s
  | i :: is => Good s ∧ ∀ t, step s i = some t → Always step Good t is

/-- `P` holds at every step of the run, of the state before it and its action. -/
def EveryStep (step : σ → ι → Option σ) (P : σ → ι → Prop) (s : σ) : List ι → Prop
  | [] => True
  | i :: is => ∀ t, step s i = some t → P s i ∧ EveryStep step P t is

/-- An invariant that implies `Good` and is preserved by the steps that meet `P`: then a run
whose steps all meet `P` stays good. -/
lemma always_of_everyStep {step : σ → ι → Option σ} {Inv Good : σ → Prop} {P : σ → ι → Prop}
    (hgood : ∀ s, Inv s → Good s) (hstep : ∀ s i t, Inv s → P s i → step s i = some t → Inv t)
    {s : σ} (hs : Inv s) {is : List ι} (hP : EveryStep step P s is) : Always step Good s is := by
  induction is generalizing s with
  | nil => exact hgood s hs
  | cons i is ih =>
    refine ⟨hgood s hs, ?_⟩
    intro t ht
    rcases hP t ht with ⟨hi, hrest⟩
    exact ih (hstep s i t hs hi ht) hrest

/-- The rule for an invariant of all steps. -/
lemma always_of_invariant {step : σ → ι → Option σ} {Inv Good : σ → Prop} (hgood : ∀ s, Inv s → Good s)
    (hstep : ∀ s i t, Inv s → step s i = some t → Inv t) {s : σ} (hs : Inv s) (is : List ι) :
    Always step Good s is := by
  have hevery (s : σ) : EveryStep step (fun _ _ => True) s is := by
    induction is generalizing s with
    | nil => trivial
    | cons i is ih => exact fun t _ => ⟨trivial, ih t⟩
  exact always_of_everyStep hgood (fun s i t h _ => hstep s i t h) hs (hevery s)

/-- An invariant that implies `Good`, is preserved by the steps that meet `P` and
leads to a bad state by any other: then a run stays good exactly when all its
steps meet `P`. -/
lemma always_iff {step : σ → ι → Option σ} {Inv Good : σ → Prop} {P : σ → ι → Prop}
    (hgood : ∀ s, Inv s → Good s) (hstep : ∀ s i t, Inv s → P s i → step s i = some t → Inv t)
    (hbad : ∀ s i t, Inv s → ¬ P s i → step s i = some t → ¬ Good t) {s : σ} (hs : Inv s)
    (is : List ι) : Always step Good s is ↔ EveryStep step P s is := by
  refine ⟨?_, always_of_everyStep hgood hstep hs⟩
  intro halways
  induction is generalizing s with
  | nil => trivial
  | cons i is ih =>
    intro t ht
    have hlater := halways.2 t ht
    have hnow : Good t := by
      cases is with
      | nil => exact hlater
      | cons j js => exact hlater.1
    have hi : P s i := by
      by_contra hnot
      exact hbad s i t hs hnot ht hnow
    exact ⟨hi, ih (hstep s i t hs hi ht) hlater⟩

/-! ## Steps that may fault -/

/-- No step of the run faults, and `Good` holds in all its states. -/
def Safe (step : σ → ι → Option σ) (Good : σ → Prop) (s : σ) : List ι → Prop
  | [] => Good s
  | i :: is => Good s ∧ ∃ t, step s i = some t ∧ Safe step Good t is

/-- `P` holds at every step of the run, the one that faults among them. -/
def EachStep (step : σ → ι → Option σ) (P : σ → ι → Prop) (s : σ) : List ι → Prop
  | [] => True
  | i :: is => P s i ∧ ∀ t, step s i = some t → EachStep step P t is

instance EachStep.decidable (step : σ → ι → Option σ) (P : σ → ι → Prop)
    [∀ s i, Decidable (P s i)] : ∀ (s : σ) (is : List ι), Decidable (EachStep step P s is)
  | _, [] => .isTrue trivial
  | s, i :: is =>
    match hstep : step s i with
    | none =>
      decidable_of_iff (P s i)
        ⟨fun h => ⟨h, fun t ht => absurd (hstep.symm.trans ht) (Option.some_ne_none t).symm⟩,
          And.left⟩
    | some t =>
      have := EachStep.decidable step P t is
      decidable_of_iff (P s i ∧ EachStep step P t is)
        ⟨fun h => ⟨h.1, fun _ hu => Option.some_inj.mp (hstep.symm.trans hu) ▸ h.2⟩,
          fun h => ⟨h.1, h.2 t hstep⟩⟩

/-- The state at the end of a run. -/
def finish (step : σ → ι → Option σ) (s : σ) (is : List ι) : Option σ := is.foldlM step s

lemma Safe.good {step : σ → ι → Option σ} {Good : σ → Prop} {s : σ} {is : List ι}
    (h : Safe step Good s is) : Good s := by
  cases is with
  | nil => exact h
  | cons i is => exact h.1

/-- A safe run comes to its end. -/
lemma Safe.finish {step : σ → ι → Option σ} {Good : σ → Prop} {s : σ} {is : List ι}
    (h : Safe step Good s is) : ∃ t, finish step s is = some t ∧ Good t := by
  induction is generalizing s with
  | nil => exact ⟨s, rfl, h⟩
  | cons i is ih =>
    rcases h with ⟨-, t, ht, hrest⟩
    rcases ih hrest with ⟨u, hu, hgood⟩
    refine ⟨u, ?_, hgood⟩
    rw [Machine.finish, List.foldlM_cons, ht]
    exact hu

/-- An invariant that implies `Good` and that every step preserves, without a fault. -/
lemma safe_of_invariant {step : σ → ι → Option σ} {Inv Good : σ → Prop}
    (hgood : ∀ s, Inv s → Good s) (hstep : ∀ s i, Inv s → ∃ t, step s i = some t ∧ Inv t)
    {s : σ} (hs : Inv s) (is : List ι) : Safe step Good s is := by
  induction is generalizing s with
  | nil => exact hgood s hs
  | cons i is ih =>
    rcases hstep s i hs with ⟨t, ht, hinv⟩
    exact ⟨hgood s hs, t, ht, ih hinv⟩

/-- An invariant that implies `Good` and that the steps that meet `P` preserve, without a
fault. -/
lemma safe_of_eachStep {step : σ → ι → Option σ} {Inv Good : σ → Prop} {P : σ → ι → Prop}
    (hgood : ∀ s, Inv s → Good s) (hstep : ∀ s i, Inv s → P s i → ∃ t, step s i = some t ∧ Inv t)
    {s : σ} (hs : Inv s) {is : List ι} (hP : EachStep step P s is) : Safe step Good s is := by
  induction is generalizing s with
  | nil => exact hgood s hs
  | cons i is ih =>
    rcases hP with ⟨hi, hrest⟩
    rcases hstep s i hs hi with ⟨t, ht, hinv⟩
    exact ⟨hgood s hs, t, ht, ih hinv (hrest t ht)⟩

/-- An invariant that the steps that meet `P` preserve, and under which they meet `Q`. -/
lemma EachStep.of_invariant {step : σ → ι → Option σ} {Inv : σ → Prop} {P Q : σ → ι → Prop}
    (hQ : ∀ s i, Inv s → P s i → Q s i) (hstep : ∀ s i t, Inv s → P s i → step s i = some t → Inv t)
    {s : σ} (hs : Inv s) {is : List ι} (hP : EachStep step P s is) : EachStep step Q s is := by
  induction is generalizing s with
  | nil => trivial
  | cons i is ih =>
    rcases hP with ⟨hi, hrest⟩
    refine ⟨hQ s i hs hi, ?_⟩
    intro t ht
    exact ih (hstep s i t hs hi ht) (hrest t ht)

/-- An invariant that implies `Good` and is preserved by the steps that meet `P`, which do
not fault, while any other step faults or leads to a bad state: then a run is safe exactly
when all its steps meet `P`. -/
lemma safe_iff {step : σ → ι → Option σ} {Inv Good : σ → Prop} {P : σ → ι → Prop}
    (hgood : ∀ s, Inv s → Good s) (hstep : ∀ s i, Inv s → P s i → ∃ t, step s i = some t ∧ Inv t)
    (hbad : ∀ s i t, Inv s → ¬ P s i → step s i = some t → ¬ Good t) {s : σ} (hs : Inv s)
    (is : List ι) : Safe step Good s is ↔ EachStep step P s is := by
  refine ⟨?_, safe_of_eachStep hgood hstep hs⟩
  intro hsafe
  induction is generalizing s with
  | nil => trivial
  | cons i is ih =>
    rcases hsafe with ⟨-, t, ht, hrest⟩
    have hi : P s i := by
      by_contra hnot
      exact hbad s i t hs hnot ht hrest.good
    refine ⟨hi, ?_⟩
    intro u hu
    rcases hstep s i hs hi with ⟨v, hv, hinv⟩
    rw [ht, Option.some.injEq] at hu hv
    subst hu hv
    exact ih hinv hrest

end Phonelets.Machine
