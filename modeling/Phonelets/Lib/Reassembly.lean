import Mathlib.Data.List.Infix

/-! # Stream reassembly

A receiver that appends every chunk it reads to a buffer, asks a predicate
whether the buffer is a complete message, and when it is takes the *whole*
buffer as the message. Nothing here depends on a particular message format:
`complete` is a parameter, and the results hold for any set of words that the
predicate recognises exactly.

The main result is `feedAll_eq_iff`: the receiver gets back the words of a
stream exactly when every word ends where some chunk ends.
-/

namespace Phonelets.Reassembly

open List

variable {α : Type*} (complete : List α → Bool)

/-- A word that the predicate accepts and none of whose proper prefixes it
accepts. -/
structure Exact (m : List α) : Prop where
  accepts : complete m = true
  prefix_free : ∀ q, q <+: m → q ≠ m → complete q = false

/-- One read: the message handed on, if any, and the buffer left. -/
def feed (buffer chunk : List α) : Option (List α) × List α :=
  if complete (buffer ++ chunk) then (some (buffer ++ chunk), []) else (none, buffer ++ chunk)

/-- All reads in turn: the messages handed on and the buffer left. -/
def feedAll (buffer : List α) : List (List α) → List (List α) × List α
  | [] => ([], buffer)
  | c :: cs =>
    let r := feed complete buffer c
    let rs := feedAll r.2 cs
    (r.1.toList ++ rs.1, rs.2)

/-- Every word of `ms` ends where some chunk ends. -/
def Aligned (ms chunks : List (List α)) : Prop :=
  ∀ i, ∃ j, (chunks.take j).flatten = (ms.take i).flatten

lemma feed_complete {buffer chunk : List α} (h : complete (buffer ++ chunk) = true) :
    feed complete buffer chunk = (some (buffer ++ chunk), []) := by
  simp [feed, h]

lemma feed_incomplete {buffer chunk : List α} (h : complete (buffer ++ chunk) = false) :
    feed complete buffer chunk = (none, buffer ++ chunk) := by
  simp [feed, h]

/-- Every message handed on ends at the end of a chunk. -/
lemma feedAll_aligned (buffer : List α) (chunks : List (List α)) (i : ℕ)
    (hi : i < (feedAll complete buffer chunks).1.length) : ∃ j, buffer ++ (chunks.take j).flatten =
    ((feedAll complete buffer chunks).1.take (i + 1)).flatten := by
  induction chunks generalizing buffer i with
  | nil => simp [feedAll] at hi
  | cons c cs ih =>
    cases hc : complete (buffer ++ c) with
    | true =>
      simp only [feedAll, feed_complete complete hc, Option.toList_some,
        cons_append, nil_append, length_cons] at hi ⊢
      cases i with
      | zero => exact ⟨1, by simp⟩
      | succ i =>
        rcases ih [] i (by omega) with ⟨j, hj⟩
        refine ⟨j + 1, ?_⟩
        simp only [nil_append] at hj
        simp [← hj]
    | false =>
      simp only [feedAll, feed_incomplete complete hc, Option.toList_none, nil_append] at hi ⊢
      rcases ih (buffer ++ c) i hi with ⟨j, hj⟩
      exact ⟨j + 1, by simpa using hj⟩

/-- A proper prefix of a word followed by a chunk that the alignment keeps inside
the word is again a prefix of it. -/
lemma append_prefix_of_aligned {b c m : List α} {cs : List (List α)} {j : ℕ}
    (hb : b ≠ m) (hj : b ++ ((c :: cs).take j).flatten = m) : b ++ c <+: m := by
  cases j with
  | zero => exact absurd (by simpa using hj) hb
  | succ j => exact ⟨(cs.take j).flatten, by simpa using hj⟩

/-- The receiver holding `b`, a proper prefix of the first word still to come,
hands on exactly the words when they all end at chunk ends. -/
lemma feedAll_of_aligned (hnil : complete [] = false) (chunks : List (List α)) :
    ∀ (ms : List (List α)) (b : List α), (∀ m ∈ ms, Exact complete m) → b ++ chunks.flatten =
    ms.flatten → (∀ m ∈ ms.head?, b <+: m ∧ b ≠ m) → (∀ i < ms.length, ∃ j, b ++ (chunks.take
    j).flatten = (ms.take (i + 1)).flatten) → feedAll complete b chunks = (ms, []) := by
  induction chunks with
  | nil =>
    intro ms b _ hflat hhead halign
    cases ms with
    | nil => simpa [feedAll] using hflat
    | cons m ms =>
      -- with no chunk left the first word would have to end inside `b`
      rcases halign 0 (by simp) with ⟨j, hj⟩
      exact absurd (by simpa using hj) (hhead m (by simp)).2
  | cons c cs ih =>
    intro ms b hexact hflat hhead halign
    cases ms with
    | nil =>
      have hempty : b = [] ∧ c = [] ∧ cs.flatten = [] := by simpa using hflat
      rcases hempty with ⟨rfl, rfl, hcs⟩
      have hrest := ih [] [] (by simp) (by simpa using hcs) (by simp) (by simp)
      have hc : complete ([] ++ []) = false := by simpa using hnil
      simp [feedAll, feed_incomplete complete hc, hrest]
    | cons m ms =>
      rcases hhead m (by simp) with ⟨hpre, hne⟩
      have hm := hexact m (by simp)
      rcases halign 0 (by simp) with ⟨j, hj⟩
      have hbc : b ++ c <+: m := append_prefix_of_aligned hne (by simpa using hj)
      -- a chunk end reached after the first word lies behind the current chunk
      have hlater : ∀ {x : List α} {j : ℕ},
          b ++ ((c :: cs).take j).flatten = m ++ x → b ++ c ++ (cs.take (j - 1)).flatten = m ++ x := by
        intro x j hx
        cases j with
        | zero =>
          have hle : m.length ≤ b.length := by
            have := congrArg List.length hx
            simp at this
            omega
          exact absurd (hpre.eq_of_length_le hle) hne
        | succ j => simpa using hx
      by_cases heq : b ++ c = m
      · -- the chunk ends the word: it is handed on and the buffer is empty
        have hrest : feedAll complete [] cs = (ms, []) := by
          apply ih ms [] (fun m' h => hexact m' (by simp [h]))
          · have hflat' : b ++ c ++ cs.flatten = m ++ ms.flatten := by simpa using hflat
            rw [heq] at hflat'
            simpa using hflat'
          · intro m' hm'
            refine ⟨List.nil_prefix, ?_⟩
            rintro rfl
            have hmem : [] ∈ ms := mem_of_mem_head? hm'
            have := (hexact [] (by simp [hmem])).accepts
            simp [hnil] at this
          · intro i hi
            rcases halign (i + 1) (by simpa using hi) with ⟨j', hj'⟩
            refine ⟨j' - 1, ?_⟩
            have := hlater (x := (ms.take (i + 1)).flatten) (by simpa using hj')
            rw [heq] at this
            simpa using this
        have hc : complete (b ++ c) = true := by rw [heq]; exact hm.accepts
        simp [feedAll, feed_complete complete hc, hrest, heq]
      · -- the word goes on: its longer prefix stays in the buffer
        have hc : complete (b ++ c) = false := hm.prefix_free _ hbc heq
        have hrest : feedAll complete (b ++ c) cs = (m :: ms, []) := by
          apply ih (m :: ms) (b ++ c) hexact (by simpa using hflat)
          · intro m' hm'
            obtain rfl : m = m' := by simpa using hm'
            exact ⟨hbc, heq⟩
          · intro i hi
            rcases halign i hi with ⟨j', hj'⟩
            refine ⟨j' - 1, ?_⟩
            have := hlater (x := (ms.take i).flatten) (by simpa using hj')
            simpa using this
        simp [feedAll, feed_incomplete complete hc, hrest]

/-- From an empty buffer the words of a stream come back exactly, with nothing
left over, if and only if every word ends where some chunk ends. -/
lemma feedAll_eq_iff (hnil : complete [] = false) {ms chunks : List (List α)}
    (hexact : ∀ m ∈ ms, Exact complete m) (hflat : chunks.flatten = ms.flatten) :
    feedAll complete [] chunks = (ms, []) ↔ Aligned ms chunks := by
  constructor
  · intro h i
    cases i with
    | zero => exact ⟨0, by simp⟩
    | succ i =>
      by_cases hi : i < ms.length
      · have := feedAll_aligned complete [] chunks i (by rw [h]; exact hi)
        simpa [h] using this
      · refine ⟨chunks.length, ?_⟩
        rw [take_length, take_of_length_le (by omega), hflat]
  · intro halign
    apply feedAll_of_aligned complete hnil chunks ms [] hexact (by simpa using hflat)
    · intro m hm
      refine ⟨List.nil_prefix, ?_⟩
      rintro rfl
      have := (hexact [] (mem_of_mem_head? hm)).accepts
      simp [hnil] at this
    · intro i _
      simpa using halign (i + 1)

end Phonelets.Reassembly
