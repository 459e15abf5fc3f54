import Mathlib.Data.List.Perm.Basic
import Mathlib.Data.List.Nodup

/-! # Groups

Elements of a list that have a name belong to the group of that name. `Grouped` says that a list
has the names of all groups, each once; groups are built one element at a time, and together they
hold what the list holds.
-/

namespace Phonelets.Groups

open List

variable {ε : Type*} {κ : Type*} {β : Type*}

/-- The elements of a group, in order. -/
def group [DecidableEq κ] (key : ε → Option κ) (elements : List ε) (name : κ) : List ε :=
  elements.filter fun e => key e = some name

/-- `names` are the names of the groups, each once. -/
structure Grouped (key : ε → Option κ) (names : List κ) (elements : List ε) : Prop where
  nodup : names.Nodup
  mem : ∀ name, name ∈ names ↔ ∃ e ∈ elements, key e = some name

variable {key : ε → Option κ} {names : List κ} {elements : List ε} {e : ε} {name : κ}

lemma grouped_nil : Grouped key [] [] := by
  constructor
  · exact nodup_nil
  · intro name
    constructor
    · intro hmem
      cases hmem
    · rintro ⟨e, hmem, -⟩
      cases hmem

namespace Grouped

/-- An element without a name. -/
lemma skip (h : Grouped key names elements) (he : key e = none) :
    Grouped key names (elements ++ [e]) := by
  refine ⟨h.nodup, ?_⟩
  intro name
  rw [h.mem name]
  constructor
  · rintro ⟨e', hmem, hname⟩
    exact ⟨e', mem_append_left _ hmem, hname⟩
  · rintro ⟨e', hmem, hname⟩
    rcases mem_append.mp hmem with hold | hnew
    · exact ⟨e', hold, hname⟩
    · rw [mem_singleton.mp hnew, he] at hname
      cases hname

/-- An element of a group that there is. -/
lemma join (h : Grouped key names elements) (he : key e = some name) (hname : name ∈ names) :
    Grouped key names (elements ++ [e]) := by
  refine ⟨h.nodup, ?_⟩
  intro name'
  constructor
  · intro hmem
    rcases (h.mem name').mp hmem with ⟨e', hmem', hname'⟩
    exact ⟨e', mem_append_left _ hmem', hname'⟩
  · rintro ⟨e', hmem, hname'⟩
    rcases mem_append.mp hmem with hold | hnew
    · exact (h.mem name').mpr ⟨e', hold, hname'⟩
    · rw [mem_singleton.mp hnew, he, Option.some.injEq] at hname'
      rw [← hname']
      exact hname

/-- The first element of a group. -/
lemma begin (h : Grouped key names elements) (he : key e = some name) (hname : name ∉ names) :
    Grouped key (name :: names) (elements ++ [e]) := by
  refine ⟨nodup_cons.mpr ⟨hname, h.nodup⟩, ?_⟩
  intro name'
  rw [mem_cons, h.mem name']
  constructor
  · rintro (rfl | ⟨e', hmem, hname'⟩)
    · exact ⟨e, mem_append_right _ mem_cons_self, he⟩
    · exact ⟨e', mem_append_left _ hmem, hname'⟩
  · rintro ⟨e', hmem, hname'⟩
    rcases mem_append.mp hmem with hold | hnew
    · exact .inr ⟨e', hold, hname'⟩
    · rw [mem_singleton.mp hnew, he, Option.some.injEq] at hname'
      exact .inl hname'.symm

/-- The order of the groups does not matter. -/
lemma reverse (h : Grouped key names elements) : Grouped key names.reverse elements := by
  refine ⟨nodup_reverse.mpr h.nodup, ?_⟩
  intro name
  rw [mem_reverse]
  exact h.mem name

end Grouped

variable [DecidableEq κ]

lemma group_snoc_of_ne (h : key e ≠ some name) :
    group key (elements ++ [e]) name = group key elements name := by
  rw [group, filter_append, filter_cons_of_neg]
  · exact append_nil _
  · rw [decide_eq_true_eq]
    exact h

lemma group_snoc_of_eq (h : key e = some name) :
    group key (elements ++ [e]) name = group key elements name ++ [e] := by
  rw [group, filter_append, filter_cons_of_pos]
  · rfl
  · rw [decide_eq_true_eq]
    exact h

/-- Groups hold what the elements with a name hold. -/
lemma flatMap_group_perm (f : ε → List β) (hnodup : names.Nodup) (hmem : ∀ e ∈ elements, ∀ name,
    key e = some name → name ∈ names) : (names.flatMap fun name => (group key elements name).flatMap
    f).Perm ((elements.filter fun e => (key e).isSome).flatMap f) := by
  induction elements with
  | nil =>
    have hnil : (names.flatMap fun name => (group key [] name).flatMap f) = [] := by
      apply flatMap_eq_nil_iff.mpr
      intro name _
      rfl
    rw [hnil]
    exact List.Perm.nil
  | cons e rest ih =>
    have hrest := ih fun e' he' => hmem e' (mem_cons_of_mem _ he')
    cases he : key e with
    | none =>
      have hsame : ∀ name, group key (e :: rest) name = group key rest name := by
        intro name
        rw [group, filter_cons_of_neg]
        · rfl
        · rw [he, decide_eq_true_eq]
          intro hname
          cases hname
      have hfilter : (e :: rest).filter (fun e => (key e).isSome) =
          rest.filter fun e => (key e).isSome := by
        rw [filter_cons_of_neg]
        rw [he]
        exact Bool.false_ne_true
      rw [hfilter]
      simp only [hsame]
      exact hrest
    | some name =>
      rcases append_of_mem (hmem e mem_cons_self name he) with ⟨before, after, rfl⟩
      have hself : group key (e :: rest) name = e :: group key rest name := by
        rw [group, filter_cons_of_pos]
        · rfl
        · rw [he, decide_eq_true_eq]
      have hother : ∀ names' : List κ, name ∉ names' →
          (names'.flatMap fun name => (group key (e :: rest) name).flatMap f) =
            names'.flatMap fun name => (group key rest name).flatMap f := by
        intro names' hnot
        apply flatMap_congr
        intro name' hname'
        rw [group, filter_cons_of_neg]
        · rfl
        · rw [he, decide_eq_true_eq, Option.some.injEq]
          rintro rfl
          exact hnot hname'
      rw [nodup_append, nodup_cons] at hnodup
      rcases hnodup with ⟨-, ⟨hafter, -⟩, hdisjoint⟩
      have hbefore : name ∉ before := fun hname =>
        hdisjoint name hname name mem_cons_self rfl
      rw [flatMap_append, flatMap_cons, hother before hbefore, hother after hafter,
        hself, flatMap_cons, append_assoc]
      have hfilter : (e :: rest).filter (fun e => (key e).isSome) =
          e :: rest.filter fun e => (key e).isSome := by
        rw [filter_cons_of_pos]
        rw [he]
        rfl
      rw [hfilter, flatMap_cons]
      rw [flatMap_append, flatMap_cons] at hrest
      exact (perm_append_comm_assoc _ _ _).trans (hrest.append_left (f e))

end Phonelets.Groups
