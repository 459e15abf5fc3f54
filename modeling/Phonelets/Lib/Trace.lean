import Mathlib.Data.List.Induction

/-! # Logs

A log is the list of what has happened, the oldest first. `AtEach` says that every event
was in order when it happened, given what had happened before.
-/

namespace Phonelets.Trace

variable {ε : Type*} {P Q : List ε → ε → Prop} {log : List ε} {e : ε}

/-- `P` holds of every event in the log and of all that was before it. -/
def AtEach (P : List ε → ε → Prop) (log : List ε) : Prop :=
  ∀ before e after, log = before ++ e :: after → P before e

@[simp] lemma atEach_nil : AtEach P [] := by
  intro before e after h
  simp at h

/-- One more event has to be in order itself. -/
lemma atEach_snoc : AtEach P (log ++ [e]) ↔ AtEach P log ∧ P log e := by
  constructor
  · intro h
    constructor
    · intro before e' after heq
      refine h before e' (after ++ [e]) ?_
      rw [heq]
      simp
    · exact h log e [] rfl
  · intro ⟨hlog, he⟩ before e' after heq
    rcases List.eq_nil_or_concat after with rfl | ⟨after', last, rfl⟩
    · rcases List.append_inj' heq rfl with ⟨rfl, hlast⟩
      rw [List.cons_eq_cons] at hlast
      rw [← hlast.1]
      exact he
    · rw [List.concat_eq_append, ← List.cons_append, ← List.append_assoc] at heq
      exact hlog before e' after' (List.append_inj' heq rfl).1

/-- Several events that are in order whatever was before them. -/
lemma AtEach.append {es : List ε} (h : AtEach P log) (hes : ∀ before, ∀ e ∈ es, P before e) :
    AtEach P (log ++ es) := by
  induction es using List.reverseRecOn with
  | nil => simpa using h
  | append_singleton es e ih =>
    rw [← List.append_assoc, atEach_snoc]
    refine ⟨ih fun before e he => hes before e (by simp [he]), hes _ e (by simp)⟩

lemma AtEach.mono (h : AtEach P log) (hPQ : ∀ before e, P before e → Q before e) : AtEach Q log :=
  fun before e after heq => hPQ before e (h before e after heq)

end Phonelets.Trace
