import Mathlib.Data.List.Perm.Subperm
import Phonelets.Lib.Decoder

/-! # Singly linked lists on the heap

The heap of a program with lists like those of GLib: the elements by their addresses, in
the order of their allocation. An element that has been freed stays in its place as one that is
not there any more, so a pointer to it is found out.
-/

namespace Phonelets

open List Option Outcome
open Outcome (orFault)

/-- An element of a list: what `data` points to, unless that has been freed, and `next`. -/
structure SLink (α : Type) where
  data : Option α
  next : Option ℕ

abbrev SHeap (α : Type) := List (Option (SLink α))

namespace SHeap

variable {α : Type}

/-- The element at an address; one that is not there is not to be read. -/
def link (h : SHeap α) (a : ℕ) : Outcome (SLink α) := orFault h[a]?.join

/-- `g_slist_prepend`: the heap and the new list. -/
def prepend (h : SHeap α) (list : Option ℕ) (x : α) : SHeap α × Option ℕ :=
  (h ++ [some ⟨some x, list⟩], some h.length)

/-- The loop of `g_slist_reverse`; the fuel bounds its turns, one for each element. -/
def reverseLoop : ℕ → SHeap α → Option ℕ → Option ℕ → Outcome (SHeap α × Option ℕ)
  | _, h, prev, none => .ok (h, prev)
  | 0, _, _, some _ => .fault
  | fuel + 1, h, prev, some a => do
      let l ← h.link a
      reverseLoop fuel (h.set a (some { l with next := prev })) (some a) l.next

/-- `g_slist_reverse`. -/
def reverse (h : SHeap α) (list : Option ℕ) : Outcome (SHeap α × Option ℕ) :=
  reverseLoop h.length h none list

/-- `g_slist_foreach (list, g_free)`. -/
def freeData : ℕ → SHeap α → Option ℕ → Outcome (SHeap α)
  | _, h, none => .ok h
  | 0, _, some _ => .fault
  | fuel + 1, h, some a => do
      let l ← h.link a
      let _ ← orFault l.data
      freeData fuel (h.set a (some { l with data := none })) l.next

/-- `g_slist_free`. -/
def freeLinks : ℕ → SHeap α → Option ℕ → Outcome (SHeap α)
  | _, h, none => .ok h
  | 0, _, some _ => .fault
  | fuel + 1, h, some a => do
      let l ← h.link a
      freeLinks fuel (h.set a none) l.next

/-- The data of all elements and then the elements. -/
def freeAll (h : SHeap α) (list : Option ℕ) : Outcome (SHeap α) := do
  let h ← freeData h.length h list
  freeLinks h.length h list

/-! ## What a pointer stands for -/

/-- From the pointer on there are the elements at these addresses, with this data. -/
inductive Spells (h : SHeap α) : Option ℕ → List ℕ → List α → Prop where
  | nil : Spells h none [] []
  | cons {a : ℕ} {next : Option ℕ} {as : List ℕ} {x : α} {xs : List α}
      (here : h[a]? = some (some ⟨some x, next⟩)) (rest : Spells h next as xs) :
      Spells h (some a) (a :: as) (x :: xs)

/-- From the pointer on there are elements at these addresses. -/
inductive Chain (h : SHeap α) : Option ℕ → List ℕ → Prop where
  | nil : Chain h none []
  | cons {a : ℕ} {l : SLink α} {as : List ℕ} (here : h[a]? = some (some l))
      (rest : Chain h l.next as) : Chain h (some a) (a :: as)

/-- From the pointer on an element is reached that has been freed. -/
inductive ReachesFreed (h : SHeap α) : Option ℕ → Prop where
  | here {a : ℕ} (freed : h[a]? = some none) : ReachesFreed h (some a)
  | next {a : ℕ} {l : SLink α} (there : h[a]? = some (some l)) (later : ReachesFreed h l.next) :
      ReachesFreed h (some a)

variable {h h' : SHeap α} {p : Option ℕ} {as : List ℕ} {xs : List α}

lemma not_reachesFreed_none : ¬ ReachesFreed h none := by
  intro hreach
  cases hreach

/-- Only the elements of a list matter to it. -/
lemma Spells.frame (hs : Spells h p as xs) (hsame : ∀ a ∈ as, h'[a]? = h[a]?) :
    Spells h' p as xs := by
  induction hs with
  | nil => exact .nil
  | cons here _ ih =>
    refine .cons ((hsame _ mem_cons_self).trans here) (ih ?_)
    exact fun a ha => hsame a (mem_cons_of_mem _ ha)

lemma Chain.frame (hc : Chain h p as) (hsame : ∀ a ∈ as, h'[a]? = h[a]?) : Chain h' p as := by
  induction hc with
  | nil => exact .nil
  | cons here _ ih =>
    refine .cons ((hsame _ mem_cons_self).trans here) (ih ?_)
    exact fun a ha => hsame a (mem_cons_of_mem _ ha)

lemma Spells.lt_length (hs : Spells h p as xs) : ∀ a ∈ as, a < h.length := by
  induction hs with
  | nil => exact fun a ha => absurd ha not_mem_nil
  | cons here _ ih =>
    rw [forall_mem_cons]
    exact ⟨(List.getElem?_eq_some_iff.mp here).1, ih⟩

/-- There are no more elements than the heap has. -/
lemma Spells.length_le (hs : Spells h p as xs) (hnodup : as.Nodup) : as.length ≤ h.length := by
  have hsub : as ⊆ List.range h.length := fun a ha => mem_range.mpr (hs.lt_length a ha)
  have hle := (hnodup.subperm hsub).length_le
  rwa [length_range] at hle

/-! ## Operations -/

lemma Spells.prepend (hs : Spells h p as xs) (hnodup : as.Nodup) (x : α) : Spells (h.prepend p x).1
    (h.prepend p x).2 (h.length :: as) (x :: xs) ∧ (h.length :: as).Nodup := by
  have hlt := hs.lt_length
  refine ⟨.cons ?_ (hs.frame ?_), nodup_cons.mpr ⟨?_, hnodup⟩⟩
  · exact getElem?_concat_length
  · intro a ha
    exact getElem?_append_left (hlt a ha)
  · intro hmem
    exact Nat.lt_irrefl _ (hlt _ hmem)

variable {fuel : ℕ}

/-- A turn of the loop moves the first element of the list to the list before it. -/
lemma reverseLoop_spells {prev : Option ℕ} {bs : List ℕ} {ys : List α}
    (hs : Spells h p as xs) (hprev : Spells h prev bs ys) (hnodup : (as ++ bs).Nodup)
    (hfuel : as.length ≤ fuel) :
    ∃ h' q, reverseLoop fuel h prev p = .ok (h', q) ∧
      Spells h' q (as.reverse ++ bs) (xs.reverse ++ ys) := by
  induction fuel generalizing h p as xs prev bs ys with
  | zero =>
    obtain rfl := eq_nil_of_length_eq_zero (Nat.le_zero.mp hfuel)
    cases hs
    exact ⟨h, prev, rfl, hprev⟩
  | succ fuel ih =>
    cases hs with
    | nil => exact ⟨h, prev, rfl, hprev⟩
    | @cons a next as x xs here rest =>
      have hlt : a < h.length := (List.getElem?_eq_some_iff.mp here).1
      have hsplit := nodup_append.mp hnodup
      obtain ⟨hout, hrest⟩ := nodup_cons.mp hsplit.1
      have hfresh : a ∉ bs := fun hb => hsplit.2.2 a mem_cons_self a hb rfl
      rw [reverseLoop, link, here, join_some, orFault_some, ok_bind]
      have hset : ∀ b, b ≠ a → (h.set a (some ⟨some x, prev⟩))[b]? = h[b]? := fun b hb =>
        getElem?_set_ne (Ne.symm hb)
      obtain ⟨h', q, hrun, hspells⟩ := ih
        (rest.frame fun b hb => hset b fun heq => hout (heq ▸ hb))
        (Spells.cons (getElem?_set_self hlt)
          (hprev.frame fun b hb => hset b fun heq => hfresh (heq ▸ hb)))
        (by
          rw [nodup_append] at hnodup ⊢
          refine ⟨hrest, nodup_cons.mpr ⟨hfresh, hsplit.2.1⟩, ?_⟩
          intro b hb c hc
          rcases mem_cons.mp hc with rfl | hc
          · rintro rfl
            exact hout hb
          · exact hsplit.2.2 b (mem_cons_of_mem a hb) c hc)
        (by rw [length_cons] at hfuel; omega)
      refine ⟨h', q, hrun, ?_⟩
      rw [reverse_cons, reverse_cons, append_assoc, append_assoc]
      exact hspells

lemma Spells.reverse (hs : Spells h p as xs) (hnodup : as.Nodup) :
    ∃ h' q, h.reverse p = .ok (h', q) ∧ Spells h' q as.reverse xs.reverse := by
  obtain ⟨h', q, hrun, hspells⟩ := reverseLoop_spells hs .nil (by rwa [append_nil])
    (hs.length_le hnodup)
  rw [append_nil, append_nil] at hspells
  exact ⟨h', q, hrun, hspells⟩

/-- The data goes and the elements stay. -/
lemma freeData_chain (hs : Spells h p as xs) (hnodup : as.Nodup) (hfuel : as.length ≤ fuel) :
    ∃ h', freeData fuel h p = .ok h' ∧ h'.length = h.length ∧ Chain h' p as ∧
      ∀ a ∉ as, h'[a]? = h[a]? := by
  induction fuel generalizing h p as xs with
  | zero =>
    obtain rfl := eq_nil_of_length_eq_zero (Nat.le_zero.mp hfuel)
    cases hs
    exact ⟨h, rfl, rfl, .nil, fun a _ => rfl⟩
  | succ fuel ih =>
    cases hs with
    | nil => exact ⟨h, rfl, rfl, .nil, fun a _ => rfl⟩
    | @cons a next as x xs here rest =>
      have hlt : a < h.length := (List.getElem?_eq_some_iff.mp here).1
      obtain ⟨hout, hrest⟩ := nodup_cons.mp hnodup
      have hset : ∀ b, b ≠ a → (h.set a (some ⟨none, next⟩))[b]? = h[b]? := fun b hb =>
        getElem?_set_ne (Ne.symm hb)
      obtain ⟨h', hrun, hlength, hchain, hsame⟩ := ih
        (rest.frame fun b hb => hset b fun heq => hout (heq ▸ hb)) hrest
        (by rw [length_cons] at hfuel; omega)
      refine ⟨h', ?_, by rw [hlength, length_set], ?_, ?_⟩
      · rw [freeData, link, here, join_some, orFault_some, ok_bind, orFault_some, ok_bind]
        exact hrun
      · exact .cons ((hsame a hout).trans (getElem?_set_self hlt)) hchain
      · intro b hb
        rw [mem_cons, not_or] at hb
        rw [hsame b hb.2, hset b hb.1]

/-- The elements go. -/
lemma freeLinks_chain (hc : Chain h p as) (hnodup : as.Nodup) (hfuel : as.length ≤ fuel) : ∃ h',
    freeLinks fuel h p = .ok h' ∧ (∀ a ∈ as, h'[a]? = some none) ∧ ∀ a ∉ as, h'[a]? = h[a]? := by
  induction fuel generalizing h p as with
  | zero =>
    obtain rfl := eq_nil_of_length_eq_zero (Nat.le_zero.mp hfuel)
    cases hc
    exact ⟨h, rfl, fun a ha => absurd ha not_mem_nil, fun a _ => rfl⟩
  | succ fuel ih =>
    cases hc with
    | nil => exact ⟨h, rfl, fun a ha => absurd ha not_mem_nil, fun a _ => rfl⟩
    | @cons a l as here rest =>
      have hlt : a < h.length := (List.getElem?_eq_some_iff.mp here).1
      obtain ⟨hout, hrest⟩ := nodup_cons.mp hnodup
      have hset : ∀ b, b ≠ a → (h.set a none)[b]? = h[b]? := fun b hb =>
        getElem?_set_ne (Ne.symm hb)
      obtain ⟨h', hrun, hfreed, hsame⟩ := ih
        (rest.frame fun b hb => hset b fun heq => hout (heq ▸ hb)) hrest
        (by rw [length_cons] at hfuel; omega)
      refine ⟨h', ?_, ?_, ?_⟩
      · rw [freeLinks, link, here, join_some, orFault_some, ok_bind]
        exact hrun
      · rw [forall_mem_cons]
        exact ⟨(hsame a hout).trans (getElem?_set_self hlt), hfreed⟩
      · intro b hb
        rw [mem_cons, not_or] at hb
        rw [hsame b hb.2, hset b hb.1]

/-- All elements of the list are freed, and no others. -/
lemma Spells.freeAll (hs : Spells h p as xs) (hnodup : as.Nodup) :
    ∃ h', h.freeAll p = .ok h' ∧ (∀ a ∈ as, h'[a]? = some none) ∧ ∀ a ∉ as, h'[a]? = h[a]? := by
  have hle := hs.length_le hnodup
  obtain ⟨h₁, hdata, hlength, hchain, hsame⟩ := freeData_chain hs hnodup hle
  have hfuel : as.length ≤ h₁.length := by omega
  obtain ⟨h₂, hlinks, hfreed, hsame'⟩ := freeLinks_chain hchain hnodup hfuel
  refine ⟨h₂, ?_, hfreed, fun a ha => (hsame' a ha).trans (hsame a ha)⟩
  rw [SHeap.freeAll, hdata, ok_bind, hlinks]

/-! ## An element is taken out -/

/-- An element is taken out of its list and freed; `prev` is the one before it, if there is one. The heap
and the list. -/
def unlink (h : SHeap α) (list prev : Option ℕ) (a : ℕ) : Outcome (SHeap α × Option ℕ) := do
  let l ← h.link a
  match prev with
  | none => .ok (h.set a none, l.next)
  | some q => do
      let k ← h.link q
      .ok ((h.set q (some { k with next := l.next })).set a none, list)

/-- The elements of a list; the fuel bounds their number. -/
def elements : ℕ → SHeap α → Option ℕ → List ℕ
  | fuel + 1, h, some a =>
    match h[a]?.join with
    | none => []
    | some l => a :: elements fuel h l.next
  | _, _, _ => []

variable {a q : ℕ} {before after : List ℕ}

lemma Chain.head_eq (hc : Chain h p as) : p = as.head? := by
  cases hc with
  | nil => rfl
  | cons => rfl

lemma Chain.lt_length (hc : Chain h p as) : ∀ a ∈ as, a < h.length := by
  induction hc with
  | nil => exact fun a ha => absurd ha not_mem_nil
  | cons here _ ih =>
    rw [forall_mem_cons]
    exact ⟨(List.getElem?_eq_some_iff.mp here).1, ih⟩

lemma Chain.length_le (hc : Chain h p as) (hnodup : as.Nodup) : as.length ≤ h.length := by
  have hsub : as ⊆ List.range h.length := fun a ha => mem_range.mpr (hc.lt_length a ha)
  have hle := (hnodup.subperm hsub).length_le
  rwa [length_range] at hle

lemma Chain.elements_eq (hc : Chain h p as) {fuel : ℕ} (hfuel : as.length ≤ fuel) :
    elements fuel h p = as := by
  induction hc generalizing fuel with
  | nil => cases fuel <;> rfl
  | cons here _ ih =>
    cases fuel with
    | zero => exact absurd hfuel (Nat.not_succ_le_zero _)
    | succ fuel =>
      rw [elements, here, join_some]
      exact congrArg _ (ih (Nat.le_of_succ_le_succ hfuel))

lemma Chain.cons_inv (hc : Chain h p (a :: as)) :
    ∃ l, h[a]? = some (some l) ∧ Chain h l.next as := by
  cases hc with
  | cons here rest => exact ⟨_, here, rest⟩

/-- An element in a list, and what is behind it. -/
lemma Chain.at (hc : Chain h p (before ++ a :: after)) :
    ∃ l, h[a]? = some (some l) ∧ l.next = after.head? := by
  induction before generalizing p with
  | nil =>
    cases hc with
    | cons here rest => exact ⟨_, here, rest.head_eq⟩
  | cons b before ih =>
    cases hc with
    | cons _ rest => exact ih rest

/-- What is the same after an element has been taken out. -/
structure Unlinked (h h' : SHeap α) (a : ℕ) (as : List ℕ) : Prop where
  freed : h'[a]? = some none
  other : ∀ (b : ℕ) (l : SLink α), b ≠ a → h[b]? = some (some l) → ∃ next, h'[b]? = some (some { l with next := next })
  gone : ∀ b : ℕ, h[b]? = some none → h'[b]? = some none
  outside : ∀ b ∉ as, h'[b]? = h[b]?

/-- The first element is taken out. -/
lemma Chain.unlink_head (hc : Chain h p (a :: after)) (hnodup : (a :: after).Nodup) :
    ∃ h' p', h.unlink p none a = .ok (h', p') ∧ Chain h' p' after ∧ Unlinked h h' a (a :: after) := by
  obtain ⟨hout, -⟩ := nodup_cons.mp hnodup
  cases hc with
  | @cons _ l _ here rest =>
    have hlt := (List.getElem?_eq_some_iff.mp here).1
    have hset : ∀ b, b ≠ a → (h.set a none)[b]? = h[b]? := fun b hb => getElem?_set_ne (Ne.symm hb)
    refine ⟨h.set a none, l.next, ?_, ?_, ⟨getElem?_set_self hlt, ?_, ?_, ?_⟩⟩
    · rw [unlink, link, here, join_some, orFault_some, ok_bind]
    · exact rest.frame fun b hb => hset b fun heq => hout (heq ▸ hb)
    · intro b l hb hl
      exact ⟨l.next, (hset b hb).trans hl⟩
    · intro b hb
      by_cases hba : b = a
      · rw [hba, here] at hb
        cases hb
      · exact (hset b hba).trans hb
    · intro b hb
      exact hset b fun heq => hb (heq ▸ mem_cons_self)

/-- An element behind another one is taken out. -/
lemma Chain.unlink_behind (hc : Chain h p (before ++ q :: a :: after))
    (hnodup : (before ++ q :: a :: after).Nodup) : ∃ h', h.unlink p (some q) a = .ok (h', p) ∧
    Chain h' p (before ++ q :: after) ∧ Unlinked h h' a (before ++ q :: a :: after) := by
  obtain ⟨k, hq, hkq⟩ := hc.at
  have hcons : before ++ q :: a :: after = (before ++ [q]) ++ a :: after := by
    rw [append_assoc]
    rfl
  obtain ⟨l, ha, hla⟩ := (hcons ▸ hc).at
  have hqlt := (List.getElem?_eq_some_iff.mp hq).1
  have halt := (List.getElem?_eq_some_iff.mp ha).1
  obtain ⟨-, htail, hapart⟩ := nodup_append.mp hnodup
  obtain ⟨hqout, htail⟩ := nodup_cons.mp htail
  obtain ⟨haout, -⟩ := nodup_cons.mp htail
  have hqa : q ≠ a := fun heq => hqout (heq ▸ mem_cons_self)
  generalize hh' : (h.set q (some { k with next := l.next })).set a none = h'
  have hfar : ∀ b, b ≠ q → b ≠ a → h'[b]? = h[b]? := by
    intro b hbq hba
    rw [← hh', getElem?_set_ne (Ne.symm hba), getElem?_set_ne (Ne.symm hbq)]
  have hnear : h'[q]? = some (some { k with next := l.next }) := by
    rw [← hh', getElem?_set_ne (Ne.symm hqa), getElem?_set_self hqlt]
  refine ⟨h', ?_, ?_, ⟨?_, ?_, ?_, ?_⟩⟩
  · rw [unlink, link, ha, join_some, orFault_some, ok_bind]
    dsimp only
    rw [link, hq, join_some, orFault_some, ok_bind, hh']
  · clear hcons
    induction before generalizing p with
    | nil =>
      obtain ⟨k', hq', rest⟩ := hc.cons_inv
      obtain ⟨l', ha', rest⟩ := rest.cons_inv
      have hp := hc.head_eq
      rw [ha, Option.some.injEq, Option.some.injEq] at ha'
      subst ha' hp
      refine .cons hnear (rest.frame fun b hb => hfar b ?_ ?_)
      · exact fun heq => hqout (heq ▸ mem_cons_of_mem _ hb)
      · exact fun heq => haout (heq ▸ hb)
    | cons b before ih =>
      cases hc with
      | cons here rest =>
        have hbq : b ≠ q := hapart b mem_cons_self q mem_cons_self
        have hba : b ≠ a := hapart b mem_cons_self a (mem_cons_of_mem _ mem_cons_self)
        refine .cons ((hfar b hbq hba).trans here) (ih rest (nodup_cons.mp hnodup).2 ?_)
        exact fun x hx => hapart x (mem_cons_of_mem _ hx)
  · rw [← hh']
    exact getElem?_set_self (by rwa [length_set])
  · intro b l' hba hb
    by_cases hbq : b = q
    · rw [hbq, hq] at hb
      cases hb
      exact ⟨l.next, hbq ▸ hnear⟩
    · exact ⟨l'.next, (hfar b hbq hba).trans hb⟩
  · intro b hb
    have hbq : b ≠ q := by
      rintro rfl
      rw [hq] at hb
      cases hb
    have hba : b ≠ a := by
      rintro rfl
      rw [ha] at hb
      cases hb
    exact (hfar b hbq hba).trans hb
  · intro b hb
    refine hfar b ?_ ?_
    · rintro rfl
      exact hb (mem_append_right _ mem_cons_self)
    · rintro rfl
      exact hb (mem_append_right _ (mem_cons_of_mem _ mem_cons_self))

end SHeap

end Phonelets
