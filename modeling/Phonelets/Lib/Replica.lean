import Mathlib.Tactic.Common

/-! # Replicas that follow changes

A client reads a table once, in full, and from then on applies every change it is told of. What
it holds under a name is the last value it was told, or else the one it has read.
-/

namespace Phonelets.Replica

open List

variable {κ ν : Type*} [DecidableEq κ]

/-- What a client holds: a value under each name that it has heard of. -/
abbrev Held (κ ν : Type*) := κ → Option ν

/-- What all clients hear: one of them, a new one, reads the table, or a value changes. -/
inductive Heard (κ ν : Type*)
  | table (dict : List (κ × ν))
  | changed (name : κ) (value : ν)

namespace Held

def change (held : Held κ ν) (c : κ × ν) : Held κ ν := Function.update held c.1 (some c.2)

def changeAll (held : Held κ ν) (changes : List (κ × ν)) : Held κ ν := changes.foldl change held

/-- What a client holds that has read the table. -/
def read (dict : List (κ × ν)) : Held κ ν := changeAll (fun _ => none) dict

/-- The client holds every value of the table. -/
def Holds (held : Held κ ν) (dict : List (κ × ν)) : Prop := ∀ p ∈ dict, held p.1 = some p.2

instance [DecidableEq ν] (held : Held κ ν) (dict : List (κ × ν)) : Decidable (held.Holds dict) :=
  inferInstanceAs (Decidable (∀ p ∈ dict, held p.1 = some p.2))

end Held

/-- The last value that the changes give for a name. -/
def said : List (κ × ν) → κ → Option ν
  | [], _ => none
  | c :: cs, name => (said cs name).or (if c.1 = name then some c.2 else none)

@[simp] lemma said_nil (name : κ) : said ([] : List (κ × ν)) name = none := rfl

lemma said_cons (c : κ × ν) (cs : List (κ × ν)) (name : κ) :
    said (c :: cs) name = (said cs name).or (if c.1 = name then some c.2 else none) := rfl

lemma said_append (cs ds : List (κ × ν)) (name : κ) :
    said (cs ++ ds) name = (said ds name).or (said cs name) := by
  induction cs with
  | nil => simp
  | cons c cs ih => rw [cons_append, said_cons, said_cons, ih, Option.or_assoc]

lemma said_eq_none {cs : List (κ × ν)} {name : κ} (h : ∀ c ∈ cs, c.1 ≠ name) :
    said cs name = none := by
  induction cs with
  | nil => rfl
  | cons c cs ih =>
    rw [said_cons, ih fun d hd => h d (mem_cons_of_mem c hd),
      if_neg (h c mem_cons_self)]
    rfl

/-- The last value that was said, or else what was held before. -/
lemma Held.changeAll_apply (held : Held κ ν) (cs : List (κ × ν)) (name : κ) :
    held.changeAll cs name = (said cs name).or (held name) := by
  induction cs generalizing held with
  | nil => rfl
  | cons c cs ih =>
    have hrest : held.changeAll (c :: cs) name = (held.change c).changeAll cs name := rfl
    rw [hrest, ih, said_cons, Option.or_assoc]
    by_cases hname : c.1 = name
    · subst hname
      simp [Held.change]
    · simp [Held.change, hname, Function.update_of_ne (Ne.symm hname)]

lemma Held.read_apply (dict : List (κ × ν)) (name : κ) : Held.read dict name = said dict name := by
  rw [Held.read, Held.changeAll_apply, Option.or_none]

/-- A table with one value under each name is held by who has read it. -/
lemma Held.holds_read {dict : List (κ × ν)} (h : (dict.map Prod.fst).Nodup) :
    (Held.read dict).Holds dict := by
  intro p hp
  rw [Held.read_apply]
  induction dict with
  | nil => simp at hp
  | cons q dict ih =>
    rw [map_cons, nodup_cons] at h
    rcases mem_cons.mp hp with rfl | hlater
    · have hlast : said dict p.1 = none := by
        refine said_eq_none ?_
        intro c hc heq
        exact h.1 (heq ▸ mem_map_of_mem hc)
      rw [said_cons, hlast, if_pos rfl]
      rfl
    · rw [said_cons, ih h.2 hlater]
      rfl

/-! ## All clients -/

def listen (clients : List (Held κ ν)) : Heard κ ν → List (Held κ ν)
  | .table dict => clients ++ [Held.read dict]
  | .changed name value => clients.map fun held => held.change (name, value)

def listenAll (clients : List (Held κ ν)) (heard : List (Heard κ ν)) : List (Held κ ν) :=
  heard.foldl listen clients

@[simp] lemma listenAll_nil (clients : List (Held κ ν)) : listenAll clients [] = clients := rfl

lemma listenAll_cons (clients : List (Held κ ν)) (h : Heard κ ν) (heard : List (Heard κ ν)) :
    listenAll clients (h :: heard) = listenAll (listen clients h) heard := rfl

lemma listenAll_append (clients : List (Held κ ν)) (heard later : List (Heard κ ν)) :
    listenAll clients (heard ++ later) = listenAll (listenAll clients heard) later :=
  foldl_append ..

/-- Changes reach every client. -/
lemma listenAll_changed (clients : List (Held κ ν)) (cs : List (κ × ν)) :
    listenAll clients (cs.map fun c => .changed c.1 c.2) = clients.map (·.changeAll cs) := by
  induction cs generalizing clients with
  | nil => simp [Held.changeAll]
  | cons c cs ih =>
    rw [map_cons, listenAll_cons, ih, listen, map_map]
    rfl

end Phonelets.Replica
