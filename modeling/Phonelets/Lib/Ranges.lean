import Mathlib.Algebra.Order.Ring.Nat

/-! # Lists of ranges of numbers

A range is anything with a first and a last number. A list of ranges is canonical if they are
in increasing order, disjoint and not adjacent; the numbers it holds decide a canonical list.
`Walked` is the invariant of a loop that collects the canonical list of a set number by
number, with the range it has not closed yet.
-/

namespace Phonelets.Ranges

open List Option

variable {ρ : Type} (lo hi : ρ → ℕ)

/-- One of the ranges has the number. -/
def Holds (l : List ρ) (t : ℕ) : Prop := ∃ r ∈ l, lo r ≤ t ∧ t ≤ hi r

structure Canonical (l : List ρ) : Prop where
  proper : ∀ r ∈ l, lo r ≤ hi r
  apart : l.Pairwise fun r s => hi r + 1 < lo s

variable {lo hi}

@[simp] lemma holds_nil (t : ℕ) : ¬ Holds lo hi [] t := by
  rintro ⟨r, hr, -⟩
  cases hr

variable {t : ℕ}

lemma holds_cons {r : ρ} {l : List ρ} :
    Holds lo hi (r :: l) t ↔ (lo r ≤ t ∧ t ≤ hi r) ∨ Holds lo hi l t := by
  simp [Holds]

lemma holds_append {l m : List ρ} : Holds lo hi (l ++ m) t ↔ Holds lo hi l t ∨ Holds lo hi m t := by
  simp [Holds, or_and_right, exists_or]

lemma Canonical.tail {r : ρ} {l : List ρ} (h : Canonical lo hi (r :: l)) : Canonical lo hi l where
  proper s hs := h.proper s (mem_cons_of_mem r hs)
  apart := h.apart.of_cons

/-- The first range is below all others. -/
lemma Canonical.lt_of_holds_tail {r : ρ} {l : List ρ} (h : Canonical lo hi (r :: l))
    (ht : Holds lo hi l t) : hi r + 1 < t := by
  obtain ⟨s, hs, hlo, -⟩ := ht
  have hapart := rel_of_pairwise_cons h.apart hs
  omega

lemma Canonical.le_of_holds {r : ρ} {l : List ρ} (h : Canonical lo hi (r :: l))
    (ht : Holds lo hi (r :: l) t) : lo r ≤ t := by
  have hproper := h.proper r mem_cons_self
  rcases holds_cons.mp ht with hr | hl
  · exact hr.1
  · have hlt := h.lt_of_holds_tail hl
    omega

lemma Canonical.holds_first {r : ρ} {l : List ρ} (h : Canonical lo hi (r :: l)) :
    Holds lo hi (r :: l) (lo r) :=
  holds_cons.mpr (.inl ⟨le_rfl, h.proper r mem_cons_self⟩)

/-- The first range of a list that holds no more ends no later. -/
lemma Canonical.hi_le {r s : ρ} {l m : List ρ} (hr : Canonical lo hi (r :: l)) (hlo : lo r = lo s)
    (hsub : ∀ t, Holds lo hi (s :: m) t → Holds lo hi (r :: l) t) : hi s ≤ hi r := by
  by_contra hlt
  have hproper := hr.proper r mem_cons_self
  -- the number after the end of the first range is in no range of its list
  have hnext : Holds lo hi (s :: m) (hi r + 1) := holds_cons.mpr (.inl (by omega))
  rcases holds_cons.mp (hsub _ hnext) with hin | hin
  · omega
  · exact absurd (hr.lt_of_holds_tail hin) (Nat.lt_irrefl _)

/-- A canonical list is decided by its numbers. -/
lemma Canonical.unique (hext : ∀ r s : ρ, lo r = lo s → hi r = hi s → r = s) {l m : List ρ}
    (hl : Canonical lo hi l) (hm : Canonical lo hi m)
    (h : ∀ t, Holds lo hi l t ↔ Holds lo hi m t) : l = m := by
  induction l generalizing m with
  | nil =>
    cases m with
    | nil => rfl
    | cons s m => exact absurd ((h _).mpr hm.holds_first) (holds_nil _)
  | cons r l ih =>
    cases m with
    | nil => exact absurd ((h _).mp hl.holds_first) (holds_nil _)
    | cons s m =>
      have hlo : lo r = lo s :=
        le_antisymm (hl.le_of_holds ((h _).mpr hm.holds_first))
          (hm.le_of_holds ((h _).mp hl.holds_first))
      have hhi : hi r = hi s :=
        le_antisymm (hm.hi_le hlo.symm fun t => (h t).mp) (hl.hi_le hlo fun t => (h t).mpr)
      obtain rfl := hext r s hlo hhi
      congr 1
      apply ih hl.tail hm.tail
      intro t
      constructor
      · intro ht
        have hlt := hl.lt_of_holds_tail ht
        rcases holds_cons.mp ((h t).mp (holds_cons.mpr (.inr ht))) with hin | hin
        · omega
        · exact hin
      · intro ht
        have hlt := hm.lt_of_holds_tail ht
        rcases holds_cons.mp ((h t).mpr (holds_cons.mpr (.inr ht))) with hin | hin
        · omega
        · exact hin

/-! ## Collecting the ranges of a set -/

variable (lo hi) in
/-- What has been found below `k`, and the range that ends there if there is one. -/
structure Walked (set : ℕ → Prop) (k : ℕ) (found : List ρ) (current : Option ρ) : Prop where
  canonical : Canonical lo hi (found ++ current.toList)
  holds : ∀ t, Holds lo hi (found ++ current.toList) t ↔ t < k ∧ set t
  closed : ∀ r ∈ found, hi r + 1 < k
  touching : ∀ r ∈ current, hi r + 1 = k

lemma Walked.start (set : ℕ → Prop) : Walked lo hi set 0 [] none where
  canonical := ⟨fun _ h => absurd h not_mem_nil, List.Pairwise.nil⟩
  holds t := by simp
  closed := fun _ h => absurd h not_mem_nil
  touching := fun _ h => absurd h (not_mem_none _)

variable {set : ℕ → Prop} {k : ℕ} {found : List ρ}

lemma Canonical.snoc {l : List ρ} {r : ρ} (h : Canonical lo hi l) (hr : lo r ≤ hi r)
    (hlast : ∀ s ∈ l, hi s + 1 < lo r) : Canonical lo hi (l ++ [r]) where
  proper s hs := by
    rcases mem_append.mp hs with hs | hs
    · exact h.proper s hs
    · rwa [mem_singleton.mp hs]
  apart := by
    rw [pairwise_append]
    refine ⟨h.apart, pairwise_singleton _ _, ?_⟩
    intro s hs q hq
    rw [mem_singleton.mp hq]
    exact hlast s hs

/-- The range that is open gets the next number. -/
lemma Walked.extend {r r' : ρ} (h : Walked lo hi set k found (some r)) (hk : set k)
    (hlo : lo r' = lo r) (hhi : hi r' = k) : Walked lo hi set (k + 1) found (some r') := by
  have htouch := h.touching r rfl
  have hcanonical : Canonical lo hi (found ++ [r]) := h.canonical
  have hbefore := pairwise_append.mp hcanonical.apart
  have hproper := hcanonical.proper r (by simp)
  refine ⟨?_, ?_, ?_, ?_⟩
  · apply Canonical.snoc
    · exact ⟨fun s hs => hcanonical.proper s (mem_append_left _ hs), hbefore.1⟩
    · omega
    · intro s hs
      rw [hlo]
      exact hbefore.2.2 s hs r (mem_singleton_self r)
  · intro t
    have hold := h.holds t
    simp only [toList_some, holds_append, holds_cons, holds_nil, or_false] at hold ⊢
    rw [hlo, hhi]
    constructor
    · rintro (hin | hin)
      · have hset := hold.mp (.inl hin)
        exact ⟨by omega, hset.2⟩
      · rcases Nat.lt_or_ge t k with hlt | hge
        · have hset := hold.mp (.inr (by omega))
          exact ⟨by omega, hset.2⟩
        · obtain rfl : t = k := by omega
          exact ⟨by omega, hk⟩
    · rintro ⟨hlt, hset⟩
      rcases Nat.lt_or_ge t k with hbelow | hge
      · rcases hold.mpr ⟨hbelow, hset⟩ with hin | hin
        · exact .inl hin
        · exact .inr (by omega)
      · exact .inr (by omega)
  · intro s hs
    have hclosed := h.closed s hs
    omega
  · intro s hs
    cases hs
    omega

/-- A range begins. -/
lemma Walked.begin {r : ρ} (h : Walked lo hi set k found none) (hk : set k) (hlo : lo r = k)
    (hhi : hi r = k) : Walked lo hi set (k + 1) found (some r) := by
  have hcanonical : Canonical lo hi found := by simpa using h.canonical
  refine ⟨?_, ?_, ?_, ?_⟩
  · apply hcanonical.snoc
    · omega
    · intro s hs
      rw [hlo]
      exact h.closed s hs
  · intro t
    have hold := h.holds t
    simp only [toList_none, toList_some, append_nil, holds_append, holds_cons,
      holds_nil, or_false] at hold ⊢
    rw [hold, hlo, hhi]
    constructor
    · rintro (hin | hin)
      · exact ⟨by omega, hin.2⟩
      · obtain rfl : t = k := by omega
        exact ⟨by omega, hk⟩
    · rintro ⟨hlt, hset⟩
      rcases Nat.lt_or_ge t k with hbelow | hge
      · exact .inl ⟨hbelow, hset⟩
      · exact .inr (by omega)
  · intro s hs
    have hclosed := h.closed s hs
    omega
  · intro s hs
    cases hs
    omega

lemma Walked.holds_succ {current : Option ρ} (h : Walked lo hi set k found current)
    (hk : ¬ set k) (t : ℕ) : Holds lo hi (found ++ current.toList) t ↔ t < k + 1 ∧ set t := by
  rw [h.holds t]
  constructor
  · rintro ⟨hlt, hset⟩
    exact ⟨by omega, hset⟩
  · rintro ⟨hlt, hset⟩
    refine ⟨Nat.lt_of_le_of_ne (by omega) ?_, hset⟩
    rintro rfl
    exact hk hset

/-- The range that is open ends. -/
lemma Walked.close {r : ρ} (h : Walked lo hi set k found (some r)) (hk : ¬ set k) :
    Walked lo hi set (k + 1) (found ++ [r]) none where
  canonical := by simpa using h.canonical
  holds t := by simpa using h.holds_succ hk t
  closed s hs := by
    rcases mem_append.mp hs with hs | hs
    · have hclosed := h.closed s hs
      omega
    · rw [mem_singleton.mp hs]
      have htouch := h.touching r rfl
      omega
  touching := fun _ hs => absurd hs (not_mem_none _)

lemma Walked.skip (h : Walked lo hi set k found none) (hk : ¬ set k) :
    Walked lo hi set (k + 1) found none where
  canonical := h.canonical
  holds := h.holds_succ hk
  closed s hs := by
    have hclosed := h.closed s hs
    omega
  touching := fun _ hs => absurd hs (not_mem_none _)

end Phonelets.Ranges
