import Mathlib.Data.List.Nodup

/-! # Items held to an ordered list of slots

The items come one after the other, and each is looked for in the slots behind the one that
the last item was placed in. An optional slot may be passed on the way, a required one may
not: an item that is not found in front of it stays out, and the cursor where it was.
-/

namespace Phonelets.Matching

open List

variable {σ τ κ : Type} [DecidableEq κ] (key : σ → κ) (required : σ → Bool) (tag : τ → κ)

/-- The slot for a key, with the slots behind it. -/
def place (k : κ) : List σ → Option (σ × List σ)
  | [] => none
  | s :: slots =>
    if k = key s then some (s, slots)
    else if required s then none
    else place k slots

/-- What becomes of a sequence of items: what is placed and where, which items stay out, and
the slots behind the cursor. -/
structure Placement (σ τ : Type) where
  placed : List (σ × τ)
  out : List τ
  behind : List σ

/-- One item after the other. -/
def run : List σ → List τ → Placement σ τ
  | slots, [] => ⟨[], [], slots⟩
  | slots, t :: ts =>
    match place key required (tag t) slots with
    | none =>
      let r := run slots ts
      { r with out := t :: r.out }
    | some (s, behind) =>
      let r := run behind ts
      { r with placed := (s, t) :: r.placed }

/-- The chosen slots in the order of the list, with no required one left out in front of the
last of them. -/
inductive Chosen : List σ → List σ → Prop where
  | done (slots : List σ) : Chosen [] slots
  | take {chosen slots : List σ} (s : σ) (h : Chosen chosen slots) :
      Chosen (s :: chosen) (s :: slots)
  | skip {chosen slots : List σ} {s : σ} (optional : required s = false)
      (h : Chosen chosen slots) : Chosen chosen (s :: slots)

/-- No slot in front of a required one has its key. -/
def Distinguished (slots : List σ) : Prop :=
  slots.Pairwise fun s s' => required s' = true → key s ≠ key s'

instance (slots : List σ) : Decidable (Distinguished key required slots) :=
  inferInstanceAs (Decidable (slots.Pairwise _))

variable {key required tag}

omit [DecidableEq κ] in
lemma Chosen.sublist {chosen slots : List σ} (h : Chosen required chosen slots) :
    chosen.Sublist slots := by
  induction h with
  | done slots => exact nil_sublist slots
  | take s h ih => exact ih.cons_cons s
  | skip optional h ih => exact ih.cons _

/-! ## One item -/

/-- The slot has the key, and in front of it are optional slots with other keys. -/
lemma place_eq_some {k : κ} {slots behind : List σ} {s : σ}
    (h : place key required k slots = some (s, behind)) : ∃ passed, slots = passed ++ s :: behind ∧
    key s = k ∧ ∀ p ∈ passed, required p = false ∧ key p ≠ k := by
  induction slots with
  | nil => cases h
  | cons s' slots ih =>
    rw [place] at h
    split at h
    · rename_i hkey
      cases h
      exact ⟨[], rfl, hkey.symm, by simp⟩
    · rename_i hkey
      split at h
      · cases h
      · rename_i hoptional
        obtain ⟨passed, rfl, hs, hpassed⟩ := ih h
        refine ⟨s' :: passed, rfl, hs, ?_⟩
        intro p hp
        rcases mem_cons.mp hp with rfl | hp
        · exact ⟨Bool.eq_false_iff.mpr hoptional, fun heq => hkey heq.symm⟩
        · exact hpassed p hp

/-- Nothing is found where no slot has the key. -/
lemma place_eq_none {k : κ} {slots : List σ} (h : ∀ s ∈ slots, key s ≠ k) :
    place key required k slots = none := by
  cases hplace : place key required k slots with
  | none => rfl
  | some found =>
    obtain ⟨passed, hslots, hkey, -⟩ := place_eq_some hplace
    have hmem : found.1 ∈ slots := by
      rw [hslots]
      simp
    exact absurd hkey (h _ hmem)

/-- Optional slots are passed up to the first with the key. -/
lemma place_append_of_optional (k : κ) {passed : List σ} (slots : List σ)
    (h : ∀ p ∈ passed, required p = false) : place key required k (passed ++ slots) =
    place key required k slots ∨ ∃ front s back, passed = front ++ s :: back ∧ key s = k ∧
    place key required k (passed ++ slots) = some (s, back ++ slots) := by
  induction passed with
  | nil => exact Or.inl rfl
  | cons p passed ih =>
    rw [cons_append, place]
    by_cases hp : k = key p
    · rw [if_pos hp]
      exact Or.inr ⟨[], p, passed, rfl, hp.symm, rfl⟩
    · rw [if_neg hp, if_neg (by simp [h p (by simp)])]
      rcases ih fun q hq => h q (mem_cons_of_mem p hq) with hnone | hfound
      · exact Or.inl hnone
      · obtain ⟨front, s, back, rfl, hkey, hplace⟩ := hfound
        exact Or.inr ⟨p :: front, s, back, rfl, hkey, hplace⟩

/-! ## A sequence of items -/

lemma run_cons_none {slots : List σ} {t : τ} {ts : List τ} (h : place key required (tag t) slots =
    none) : run key required tag slots (t :: ts) = { run key required tag slots ts with out := t ::
    (run key required tag slots ts).out } := by
  rw [run, h]

lemma run_cons_some {slots behind : List σ} {s : σ} {t : τ} {ts : List τ} (h : place key required
    (tag t) slots = some (s, behind)) : run key required tag slots (t :: ts) = { run key required
    tag behind ts with placed := (s, t) :: (run key required tag behind ts).placed } := by
  rw [run, h]

/-- Each slot is used at most once and in the order of the list. -/
lemma run_sublist (slots : List σ) (ts : List τ) : ((run key required tag slots ts).placed.map
    Prod.fst ++ (run key required tag slots ts).behind).Sublist slots := by
  induction ts generalizing slots with
  | nil => exact List.Sublist.refl slots
  | cons t ts ih =>
    cases hplace : place key required (tag t) slots with
    | none =>
      rw [run_cons_none hplace]
      exact ih slots
    | some found =>
      obtain ⟨passed, hslots, -, -⟩ := place_eq_some hplace
      rw [run_cons_some hplace, hslots]
      exact ((ih found.2).cons_cons found.1).trans (sublist_append_right _ _)

/-- Each item is in a slot with its key. -/
lemma run_key {slots : List σ} {ts : List τ} {p : σ × τ}
    (h : p ∈ (run key required tag slots ts).placed) : key p.1 = tag p.2 := by
  induction ts generalizing slots with
  | nil => cases h
  | cons t ts ih =>
    cases hplace : place key required (tag t) slots with
    | none =>
      rw [run_cons_none hplace] at h
      exact ih h
    | some found =>
      obtain ⟨-, -, hkey, -⟩ := place_eq_some hplace
      rw [run_cons_some hplace] at h
      rcases mem_cons.mp h with rfl | h
      · exact hkey
      · exact ih h

/-- A required slot is used or behind the cursor. -/
lemma run_required {slots : List σ} (ts : List τ) {s : σ} (hs : s ∈ slots)
    (hrequired : required s = true) : s ∈ (run key required tag slots ts).placed.map Prod.fst ∨
    s ∈ (run key required tag slots ts).behind := by
  induction ts generalizing slots with
  | nil => exact Or.inr hs
  | cons t ts ih =>
    cases hplace : place key required (tag t) slots with
    | none =>
      rw [run_cons_none hplace]
      exact ih hs
    | some found =>
      obtain ⟨passed, hslots, -, hpassed⟩ := place_eq_some hplace
      rw [run_cons_some hplace]
      rw [hslots, mem_append, mem_cons] at hs
      rcases hs with hs | rfl | hs
      · -- a slot that is passed is optional
        rw [(hpassed s hs).1] at hrequired
        cases hrequired
      · exact Or.inl (by simp)
      · rcases ih hs with hplaced | hbehind
        · exact Or.inl (mem_cons_of_mem _ hplaced)
        · exact Or.inr hbehind

/-- A required slot is behind the cursor exactly if one is not used. -/
lemma run_behind_iff {slots : List σ} (hnodup : slots.Nodup) (ts : List τ) :
    (∃ s ∈ (run key required tag slots ts).behind, required s = true) ↔
    ∃ s ∈ slots, required s = true ∧ s ∉ (run key required tag slots ts).placed.map Prod.fst := by
  have hsub := @run_sublist _ _ _ _ key required tag slots ts
  constructor
  · rintro ⟨s, hs, hrequired⟩
    refine ⟨s, hsub.subset (mem_append_right _ hs), hrequired, ?_⟩
    intro hplaced
    exact (nodup_append.mp (hnodup.sublist hsub)).2.2 s hplaced s hs rfl
  · rintro ⟨s, hs, hrequired, hunused⟩
    rcases @run_required _ _ _ _ key required tag slots ts s hs hrequired with hplaced | hbehind
    · exact absurd hplaced hunused
    · exact ⟨s, hbehind, hrequired⟩

/-- An item with the key of no slot stays out and changes nothing else. -/
lemma run_insert {slots : List σ} {t : τ} (h : ∀ s ∈ slots, key s ≠ tag t) (before after : List τ) :
    (run key required tag slots (before ++ t :: after)).placed = (run key required tag slots
    (before ++ after)).placed ∧ (run key required tag slots (before ++ t :: after)).behind =
    (run key required tag slots (before ++ after)).behind ∧
    ∃ front back, (run key required tag slots (before ++ t :: after)).out = front ++ t :: back ∧
    (run key required tag slots (before ++ after)).out = front ++ back := by
  induction before generalizing slots with
  | nil =>
    rw [nil_append, run_cons_none (place_eq_none h)]
    exact ⟨rfl, rfl, [], _, rfl, rfl⟩
  | cons t' before ih =>
    rw [cons_append, cons_append]
    cases hplace : place key required (tag t') slots with
    | none =>
      obtain ⟨hplaced, hbehind, front, back, hout, hout'⟩ := ih h
      rw [run_cons_none hplace, run_cons_none hplace]
      exact ⟨hplaced, hbehind, t' :: front, back, congrArg (t' :: ·) hout, congrArg (t' :: ·) hout'⟩
    | some found =>
      obtain ⟨passed, hslots, -, -⟩ := place_eq_some hplace
      have hrest : ∀ s ∈ found.2, key s ≠ tag t := by
        intro s hs
        exact h s (by simp [hslots, hs])
      obtain ⟨hplaced, hbehind, houts⟩ := ih hrest
      rw [run_cons_some hplace, run_cons_some hplace]
      exact ⟨congrArg ((found.1, t') :: ·) hplaced, hbehind, houts⟩

/-- Items that have no slot may be left away. -/
lemma run_filter {slots : List σ} {p : τ → Bool} (h : ∀ t, p t = false → ∀ s ∈ slots, key s ≠ tag t)
    (ts : List τ) :
    (run key required tag slots (ts.filter p)).placed = (run key required tag slots ts).placed ∧
    (run key required tag slots (ts.filter p)).behind = (run key required tag slots ts).behind := by
  induction ts generalizing slots with
  | nil => exact ⟨rfl, rfl⟩
  | cons t ts ih =>
    cases hp : p t with
    | false =>
      rw [filter_cons_of_neg (by simp [hp]), run_cons_none (place_eq_none (h t hp))]
      exact ih h
    | true =>
      rw [filter_cons_of_pos hp]
      cases hplace : place key required (tag t) slots with
      | none =>
        rw [run_cons_none hplace, run_cons_none hplace]
        exact ih h
      | some found =>
        obtain ⟨passed, hslots, -, -⟩ := place_eq_some hplace
        have hrest : ∀ t, p t = false → ∀ s ∈ found.2, key s ≠ tag t := by
          intro t ht s hs
          exact h t ht s (by simp [hslots, hs])
        rw [run_cons_some hplace, run_cons_some hplace]
        exact ⟨congrArg ((found.1, t) :: ·) (ih hrest).1, (ih hrest).2⟩

/-- Items with the keys of chosen slots are all placed. The slots between the cursor and the
slots that are left to choose from are optional: one of them that was chosen before has had its
item placed in front of it, so that a required one would have its key twice. -/
lemma run_of_chosen {passed slots chosen : List σ} {ts : List τ} (hdistinguished : Distinguished key
    required (passed ++ slots)) (hpassed : ∀ p ∈ passed, required p = false) (h : Chosen required
    chosen slots) (hkeys : chosen.map key = ts.map tag) : (run key required tag (passed ++ slots)
    ts).out = [] ∧ (run key required tag (passed ++ slots) ts).placed.map Prod.snd = ts := by
  induction h generalizing passed ts with
  | done slots =>
    obtain rfl : ts = [] := map_eq_nil_iff.mp hkeys.symm
    exact ⟨rfl, rfl⟩
  | @skip chosen slots s hoptional h ih =>
    rw [append_cons] at hdistinguished ⊢
    refine ih hdistinguished ?_ hkeys
    intro p hp
    rcases mem_append.mp hp with hp | hp
    · exact hpassed p hp
    · rw [mem_singleton.mp hp]
      exact hoptional
  | @take chosen slots s h ih =>
    cases ts with
    | nil => cases hkeys
    | cons t ts =>
      rw [map_cons, map_cons, List.cons.injEq] at hkeys
      rcases @place_append_of_optional _ _ _ key required (tag t) passed (s :: slots) hpassed with hhere | hfront
      · have hplace : place key required (tag t) (passed ++ s :: slots) = some (s, slots) := by
          rw [hhere, place, if_pos hkeys.1.symm]
        have hrest : Distinguished key required ([] ++ slots) :=
          (pairwise_cons.mp (pairwise_append.mp hdistinguished).2.1).2
        obtain ⟨hout, hplaced⟩ := ih hrest (by simp) hkeys.2
        rw [run_cons_some hplace]
        exact ⟨hout, congrArg (t :: ·) hplaced⟩
      · obtain ⟨front, s', back, rfl, hkey, hplace⟩ := hfront
        have hoptional : required s = false := by
          have hpair := (pairwise_append.mp hdistinguished).2.2 s' (by simp) s (by simp)
          by_contra hs
          exact hpair (by simpa using hs) (hkey.trans hkeys.1.symm)
        have hrest : Distinguished key required ((back ++ [s]) ++ slots) := by
          refine hdistinguished.sublist ?_
          rw [← append_cons, append_assoc, cons_append]
          exact (sublist_cons_self s' _).trans (sublist_append_right front _)
        obtain ⟨hout, hplaced⟩ := ih hrest (by
          intro p hp
          rcases mem_append.mp hp with hp | hp
          · exact hpassed p (by simp [hp])
          · rw [mem_singleton.mp hp]
            exact hoptional) hkeys.2
        rw [run_cons_some hplace, append_cons]
        exact ⟨hout, congrArg (t :: ·) hplaced⟩

omit [DecidableEq κ] in
/-- Two selections from a list without repeated keys are the same if their keys are. -/
lemma eq_of_map_eq {slots chosen chosen' : List σ} (hnodup : (slots.map key).Nodup)
    (h : chosen.Sublist slots) (h' : chosen'.Sublist slots)
    (hkeys : chosen.map key = chosen'.map key) : chosen = chosen' := by
  have hinj := inj_on_of_nodup_map hnodup
  induction chosen generalizing chosen' with
  | nil => exact (map_eq_nil_iff.mp hkeys.symm).symm
  | cons s chosen ih =>
    cases chosen' with
    | nil => cases hkeys
    | cons s' chosen' =>
      rw [map_cons, map_cons, List.cons.injEq] at hkeys
      obtain rfl := hinj (h.subset (by simp)) (h'.subset (by simp)) hkeys.1
      rw [ih ((sublist_cons_self s chosen).trans h)
        ((sublist_cons_self s chosen').trans h') hkeys.2]

end Phonelets.Matching
