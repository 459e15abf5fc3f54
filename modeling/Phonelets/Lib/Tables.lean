import Mathlib.Data.List.AList

/-! # Tables of tables

A table from `κ` to tables from `ι` to `ν`, where an inner table goes with its last
entry. `get` sees such a table as one map from pairs of keys, and the lemmas say what
`set` and `remove` do to this map; a table without empty inner tables has an inner
table exactly under the keys that `get` finds something at.

An `Enumeration` is the order in which an iteration goes through a table: any order,
but each entry once.
-/

namespace Phonelets

open List Option

universe u v w

abbrev Tables (κ : Type u) (ι : Type v) (ν : Type w) := AList fun _ : κ => AList fun _ : ι => ν

/-- The order of one iteration. -/
structure Enumeration (α : Type u) where
  order : List α → List α
  perm : ∀ l, (order l).Perm l

namespace Enumeration

variable {α : Type u} {β : Type v}

/-- The entries as they stand. -/
def asListed : Enumeration α := ⟨id, fun _ => List.Perm.refl _⟩

@[simp] lemma mem_order (e : Enumeration α) (l : List α) (x : α) : x ∈ e.order l ↔ x ∈ l :=
  (e.perm l).mem_iff

/-- What a search finds is an entry, in whatever order it goes. -/
lemma mem_of_findSome? (e : Enumeration α) {l : List α} {f : α → Option β} {b : β}
    (h : (e.order l).findSome? f = some b) : ∃ a ∈ l, f a = some b := by
  rcases exists_of_findSome?_eq_some h with ⟨a, ha, hf⟩
  exact ⟨a, (e.mem_order l a).mp ha, hf⟩

lemma findSome?_eq_none_iff (e : Enumeration α) (l : List α) (f : α → Option β) :
    (e.order l).findSome? f = none ↔ ∀ a ∈ l, f a = none := by
  rw [List.findSome?_eq_none_iff]
  simp only [mem_order]

end Enumeration

namespace Tables

variable {κ : Type u} {ι : Type v} {ν : Type w} [DecidableEq κ] [DecidableEq ι]

/-- The entry under two keys. -/
def get (t : Tables κ ι ν) (k : κ) (i : ι) : Option ν := (t.lookup k).bind (AList.lookup i)

/-- Writes an entry, into a new inner table if there is none. -/
def set (t : Tables κ ι ν) (k : κ) (i : ι) (v : ν) : Tables κ ι ν :=
  t.insert k (((t.lookup k).getD ∅).insert i v)

/-- Removes an entry, and its inner table if it is empty then. -/
def remove (t : Tables κ ι ν) (k : κ) (i : ι) : Tables κ ι ν :=
  match t.lookup k with
  | none => t
  | some inner =>
    if (inner.erase i).entries.isEmpty then t.erase k else t.insert k (inner.erase i)

/-- The entries of one inner table that are kept, nothing if none is. -/
def keepInner (p : κ → ι → ν → Bool) (e : Sigma fun _ : κ => AList fun _ : ι => ν) :
    Option (Sigma fun _ : κ => AList fun _ : ι => ν) :=
  let entries := e.2.entries.filter fun f => p e.1 f.1 f.2
  if entries.isEmpty then none
  else some ⟨e.1, ⟨entries, e.2.nodupKeys.sublist List.filter_sublist⟩⟩

omit [DecidableEq κ] [DecidableEq ι] in
lemma keys_filterMap_keepInner (p : κ → ι → ν → Bool) (l : List (Sigma fun _ : κ =>
    AList fun _ : ι => ν)) : (l.filterMap (keepInner p)).keys.Sublist l.keys := by
  induction l with
  | nil => exact List.Sublist.slnil
  | cons e l ih =>
    rw [filterMap_cons, keys_cons]
    unfold keepInner
    split
    · exact ih.cons _
    · next e' he' =>
        simp only at he'
        split at he'
        · cases he'
        · cases he'
          rw [keys_cons]
          exact ih.cons_cons _

/-- Removes the entries that do not meet `p`, and the inner tables that are empty then. -/
def keep (p : κ → ι → ν → Bool) (t : Tables κ ι ν) : Tables κ ι ν where
  entries := t.entries.filterMap (keepInner p)
  nodupKeys := t.keys_nodup.sublist (keys_filterMap_keepInner p t.entries)

/-- No inner table is empty. -/
def NoEmpty (t : Tables κ ι ν) : Prop := ∀ k inner, t.lookup k = some inner → inner ≠ ∅

lemma get_eq_some_iff (t : Tables κ ι ν) (k : κ) (i : ι) (v : ν) :
    t.get k i = some v ↔ ∃ inner, t.lookup k = some inner ∧ inner.lookup i = some v := by
  unfold get
  rw [bind_eq_some_iff]

lemma get_eq_some_iff_mem (t : Tables κ ι ν) (k : κ) (i : ι) (v : ν) :
    t.get k i = some v ↔ ∃ inner, ⟨k, inner⟩ ∈ t.entries ∧ ⟨i, v⟩ ∈ inner.entries := by
  rw [get_eq_some_iff]
  simp only [← mem_def, AList.mem_lookup_iff]

instance (t : Tables κ ι ν) (P : κ → ι → ν → Prop) [∀ k i v, Decidable (P k i v)] :
    Decidable (∀ k i v, t.get k i = some v → P k i v) :=
  decidable_of_iff (∀ e ∈ t.entries, ∀ f ∈ e.2.entries, P e.1 f.1 f.2) (by
    simp only [get_eq_some_iff_mem]
    constructor
    · rintro h k i v ⟨inner, hinner, hv⟩
      exact h ⟨k, inner⟩ hinner ⟨i, v⟩ hv
    · rintro h ⟨k, inner⟩ he ⟨i, v⟩ hf
      exact h k i v ⟨inner, he, hf⟩)

instance (t : Tables κ ι ν) (k : κ) (P : ι → ν → Prop) [∀ i v, Decidable (P i v)] :
    Decidable (∃ i v, t.get k i = some v ∧ P i v) :=
  decidable_of_iff (∃ e ∈ t.entries, e.1 = k ∧ ∃ f ∈ e.2.entries, P f.1 f.2) (by
    simp only [get_eq_some_iff_mem]
    constructor
    · rintro ⟨⟨k', inner⟩, he, rfl, ⟨i, v⟩, hf, hP⟩
      exact ⟨i, v, ⟨inner, he, hf⟩, hP⟩
    · rintro ⟨i, v, ⟨inner, he, hf⟩, hP⟩
      exact ⟨⟨k, inner⟩, he, rfl, ⟨i, v⟩, hf, hP⟩)

instance (t : Tables κ ι ν) (k : κ) (P : ι → ν → Prop) [∀ i v, Decidable (P i v)] :
    Decidable (∀ i v, t.get k i = some v → P i v) :=
  decidable_of_iff (¬ ∃ i v, t.get k i = some v ∧ ¬ P i v) (by
    simp only [not_exists, not_and, not_not])

@[simp] lemma get_empty (k : κ) (i : ι) : (∅ : Tables κ ι ν).get k i = none := rfl

@[simp] lemma get_set_self (t : Tables κ ι ν) (k : κ) (i : ι) (v : ν) :
    (t.set k i v).get k i = some v := by
  simp [get, set]

lemma get_set_of_ne (t : Tables κ ι ν) {k k' : κ} {i i' : ι} (v : ν) (h : (k', i') ≠ (k, i)) :
    (t.set k i v).get k' i' = t.get k' i' := by
  unfold get set
  by_cases hk : k' = k
  · subst hk
    have hi : i' ≠ i := by
      rintro rfl
      exact h rfl
    rw [AList.lookup_insert, bind_some, AList.lookup_insert_ne hi]
    cases t.lookup k' <;> simp
  · rw [AList.lookup_insert_ne hk]

/-- An entry after `set` is the one written or was there before. -/
lemma get_set_eq_some {t : Tables κ ι ν} {k k' : κ} {i i' : ι} {v v' : ν} (h : (t.set k i v).get
    k' i' = some v') : (k' = k ∧ i' = i ∧ v' = v) ∨ t.get k' i' = some v' := by
  by_cases hkey : (k', i') = (k, i)
  · cases hkey
    rw [get_set_self] at h
    exact Or.inl ⟨rfl, rfl, (Option.some.inj h).symm⟩
  · rw [get_set_of_ne _ _ hkey] at h
    exact Or.inr h

lemma lookup_erase_eq_none_of_isEmpty {inner : AList fun _ : ι => ν} {i : ι} (h : (inner.erase
    i).entries.isEmpty = true) {i' : ι} (hi : i' ≠ i) : inner.lookup i' = none := by
  rw [← AList.lookup_erase_ne hi]
  have hempty : inner.erase i = ∅ := AList.ext (List.isEmpty_iff.mp h)
  rw [hempty]
  rfl

@[simp] lemma get_remove_self (t : Tables κ ι ν) (k : κ) (i : ι) :
    (t.remove k i).get k i = none := by
  unfold remove
  cases hlookup : t.lookup k with
  | none => simp [get, hlookup]
  | some inner =>
    simp only
    split
    · simp [get]
    · simp [get]

lemma get_remove_of_ne (t : Tables κ ι ν) {k k' : κ} {i i' : ι} (h : (k', i') ≠ (k, i)) :
    (t.remove k i).get k' i' = t.get k' i' := by
  unfold remove
  cases hlookup : t.lookup k with
  | none => rfl
  | some inner =>
    simp only
    by_cases hk : k' = k
    · subst hk
      have hi : i' ≠ i := by
        rintro rfl
        exact h rfl
      split
      · next hempty =>
          simp [get, hlookup, lookup_erase_eq_none_of_isEmpty hempty hi]
      · simp [get, hlookup, AList.lookup_erase_ne hi]
    · split
      · unfold get
        rw [AList.lookup_erase_ne hk]
      · unfold get
        rw [AList.lookup_insert_ne hk]

omit [DecidableEq κ] [DecidableEq ι] in
lemma mem_entries_keep {p : κ → ι → ν → Bool} {t : Tables κ ι ν} {k : κ}
    {inner : AList fun _ : ι => ν} : ⟨k, inner⟩ ∈ (t.keep p).entries ↔ ∃ old, ⟨k, old⟩ ∈ t.entries ∧
    inner.entries = old.entries.filter (fun f => p k f.1 f.2) ∧ inner ≠ ∅ := by
  unfold keep
  simp only [mem_filterMap]
  constructor
  · rintro ⟨⟨k', old⟩, hold, heq⟩
    unfold keepInner at heq
    simp only at heq
    split at heq
    · cases heq
    · next hne =>
        cases heq
        refine ⟨old, hold, rfl, ?_⟩
        intro hempty
        apply hne
        rw [List.isEmpty_iff]
        exact congrArg AList.entries hempty
  · rintro ⟨old, hold, hentries, hne⟩
    refine ⟨⟨k, old⟩, hold, ?_⟩
    unfold keepInner
    simp only [← hentries]
    rw [if_neg]
    rw [List.isEmpty_iff]
    exact fun h => hne (AList.ext h)

/-- The entries that meet the condition stay. -/
lemma get_keep (t : Tables κ ι ν) (p : κ → ι → ν → Bool) (k : κ) (i : ι) :
    (t.keep p).get k i = (t.get k i).filter (p k i) := by
  apply Option.ext
  intro v
  rw [filter_eq_some_iff, get_eq_some_iff_mem, get_eq_some_iff_mem]
  constructor
  · rintro ⟨inner, hinner, hv⟩
    rcases mem_entries_keep.mp hinner with ⟨old, hold, hentries, -⟩
    rw [hentries, mem_filter] at hv
    exact ⟨⟨old, hold, hv.1⟩, hv.2⟩
  · rintro ⟨⟨old, hold, hv⟩, hp⟩
    refine ⟨⟨old.entries.filter (fun f => p k f.1 f.2),
      old.nodupKeys.sublist filter_sublist⟩, ?_, ?_⟩
    · refine mem_entries_keep.mpr ⟨old, hold, rfl, ?_⟩
      intro hempty
      have hnil : old.entries.filter (fun f => p k f.1 f.2) = [] := congrArg AList.entries hempty
      have hmem : (⟨i, v⟩ : Sigma fun _ : ι => ν) ∈ old.entries.filter (fun f => p k f.1 f.2) :=
        mem_filter.mpr ⟨hv, hp⟩
      rw [hnil] at hmem
      cases hmem
    · exact mem_filter.mpr ⟨hv, hp⟩

omit [DecidableEq ι] in
lemma noEmpty_keep (t : Tables κ ι ν) (p : κ → ι → ν → Bool) : (t.keep p).NoEmpty := by
  intro k inner hlookup
  rcases mem_entries_keep.mp (AList.mem_lookup_iff.mp hlookup) with ⟨_, -, -, hne⟩
  exact hne

omit [DecidableEq ι] in
lemma noEmpty_empty : NoEmpty (∅ : Tables κ ι ν) := by
  intro k inner h
  cases h

lemma insert_ne_empty {inner : AList fun _ : ι => ν} (i : ι) (v : ν) : inner.insert i v ≠ ∅ := by
  intro h
  have hlookup := AList.lookup_insert (b := v) (a := i) inner
  rw [h] at hlookup
  cases hlookup

lemma NoEmpty.set {t : Tables κ ι ν} (h : t.NoEmpty) (k : κ) (i : ι) (v : ν) :
    (t.set k i v).NoEmpty := by
  intro k' inner hlookup
  unfold Tables.set at hlookup
  by_cases hk : k' = k
  · subst hk
    rw [AList.lookup_insert] at hlookup
    cases hlookup
    exact insert_ne_empty i v
  · rw [AList.lookup_insert_ne hk] at hlookup
    exact h k' inner hlookup

lemma NoEmpty.remove {t : Tables κ ι ν} (h : t.NoEmpty) (k : κ) (i : ι) :
    (t.remove k i).NoEmpty := by
  intro k' inner' hlookup'
  unfold Tables.remove at hlookup'
  cases hlookup : t.lookup k with
  | none =>
    rw [hlookup] at hlookup'
    exact h k' inner' hlookup'
  | some inner =>
    rw [hlookup] at hlookup'
    simp only at hlookup'
    by_cases hk : k' = k
    · subst hk
      split at hlookup'
      · simp at hlookup'
      · next hne =>
          rw [AList.lookup_insert] at hlookup'
          cases hlookup'
          rintro hempty
          rw [hempty] at hne
          exact hne rfl
    · split at hlookup'
      · rw [AList.lookup_erase_ne hk] at hlookup'
        exact h k' inner' hlookup'
      · rw [AList.lookup_insert_ne hk] at hlookup'
        exact h k' inner' hlookup'

/-- The tables that are there are those with an entry. -/
lemma NoEmpty.mem_iff {t : Tables κ ι ν} (h : t.NoEmpty) (k : κ) :
    k ∈ t ↔ ∃ i v, t.get k i = some v := by
  rw [← AList.lookup_isSome, isSome_iff_exists]
  constructor
  · rintro ⟨inner, hlookup⟩
    cases hentries : inner.entries with
    | nil => exact absurd (AList.ext hentries) (h k inner hlookup)
    | cons e l =>
      refine ⟨e.1, e.2, (t.get_eq_some_iff _ _ _).mpr ⟨inner, hlookup, ?_⟩⟩
      apply AList.mem_lookup_iff.mpr
      rw [hentries]
      exact mem_cons_self
  · rintro ⟨i, v, hget⟩
    rcases (t.get_eq_some_iff _ _ _).mp hget with ⟨inner, hlookup, -⟩
    exact ⟨inner, hlookup⟩

end Tables

end Phonelets
