import Mathlib.Data.List.Basic

/-! # Markup

Text with tags and entities, read character by character into tokens. Tags open and close
elements; markup is nested if each closing tag has the name of the element opened last.
-/

namespace Phonelets.Markup

open List Option

inductive Token where
  | opening (name : List Char)
  | closing (name : List Char)
  /-- `<name/>` -/
  | empty (name : List Char)
  | entity (c : Char)
  /-- a character that stands for itself -/
  | char (c : Char)

/-- The token of what stands between `<` and `>`. -/
def tagToken (body : List Char) : Token :=
  if body.head? = some '/' then .closing body.tail
  else if body.getLast? = some '/' then .empty body.dropLast
  else .opening (body.takeWhile (· ≠ ' '))

/-- The character of what stands between `&` and `;`. -/
def entityChar (name : List Char) : Option Char :=
  if name = "lt".toList then some '<'
  else if name = "gt".toList then some '>'
  else if name = "amp".toList then some '&'
  else none

/-- Where the reader is. -/
inductive Mode where
  | text
  | tag (body : List Char)
  | entity (name : List Char)

/-- The tokens from a mode on. -/
@[grind] def tokensFrom : Mode → List Char → Option (List Token)
  | .text, [] => some []
  | .text, c :: l =>
    if c = '<' then tokensFrom (.tag []) l
    else if c = '>' then none
    else if c = '&' then tokensFrom (.entity []) l
    else (tokensFrom .text l).map (.char c :: ·)
  | .tag _, [] => none
  | .tag body, c :: l =>
    if c = '<' then none
    else if c = '>' then (tokensFrom .text l).map (tagToken body :: ·)
    else tokensFrom (.tag (body ++ [c])) l
  | .entity _, [] => none
  | .entity name, c :: l =>
    if c = ';' then (entityChar name).bind fun e => (tokensFrom .text l).map (.entity e :: ·)
    else tokensFrom (.entity (name ++ [c])) l

def tokens (s : List Char) : Option (List Token) := tokensFrom .text s

/-- The elements that are open behind the tokens, the last one first. -/
def nest : List Token → List (List Char) → Option (List (List Char))
  | [], stack => some stack
  | .opening name :: ts, stack => nest ts (name :: stack)
  | .closing _ :: _, [] => none
  | .closing name :: ts, last :: stack => if name = last then nest ts stack else none
  | .empty _ :: ts, stack => nest ts stack
  | .entity _ :: ts, stack => nest ts stack
  | .char _ :: ts, stack => nest ts stack

/-- All elements are closed, the last one opened first. -/
def Nested (ts : List Token) : Prop := nest ts [] = some []

/-- The text of a token; `<br/>` is a line break. -/
def Token.plain : Token → List Char
  | .opening _ => []
  | .closing _ => []
  | .empty name => if name = "br".toList then ['\n'] else []
  | .entity c => [c]
  | .char c => [c]

/-- The text without the tags. -/
def plain (ts : List Token) : List Char := ts.flatMap Token.plain

/-- The characters that begin or end a tag or begin an entity. -/
def Special (c : Char) : Prop := c = '<' ∨ c = '>' ∨ c = '&'

instance : DecidablePred Special := fun c => inferInstanceAs (Decidable (c = '<' ∨ c = '>' ∨ c = '&'))

/-! ## Reading -/

/-- A character that stands for itself is none that begins a tag or an entity. -/
lemma tokensFrom_char {m : Mode} {s : List Char} {ts : List Token} {c : Char}
    (h : tokensFrom m s = some ts) (hc : .char c ∈ ts) : ¬ Special c := by
  induction m, s using tokensFrom.induct generalizing ts with
  | case1 =>
    rw [tokensFrom, Option.some.injEq] at h
    exact absurd hc (h ▸ not_mem_nil)
  | case2 l ih => exact ih (by rwa [tokensFrom, if_pos rfl] at h) hc
  | case3 l hlt =>
    rw [tokensFrom, if_neg hlt, if_pos rfl] at h
    cases h
  | case4 l hlt hgt ih =>
    rw [tokensFrom, if_neg hlt, if_neg hgt, if_pos rfl] at h
    exact ih h hc
  | case5 d l hlt hgt hamp ih =>
    rw [tokensFrom, if_neg hlt, if_neg hgt, if_neg hamp] at h
    obtain ⟨us, hus, rfl⟩ := map_eq_some_iff.mp h
    rcases mem_cons.mp hc with heq | hc
    · obtain rfl : c = d := Token.char.inj heq
      rintro (rfl | rfl | rfl)
      · exact hlt rfl
      · exact hgt rfl
      · exact hamp rfl
    · exact ih hus hc
  | case6 body =>
    cases h
  | case7 body l =>
    rw [tokensFrom, if_pos rfl] at h
    cases h
  | case8 body l hlt ih =>
    rw [tokensFrom, if_neg hlt, if_pos rfl] at h
    obtain ⟨us, hus, rfl⟩ := map_eq_some_iff.mp h
    rcases mem_cons.mp hc with heq | hc
    · unfold tagToken at heq
      split_ifs at heq
    · exact ih hus hc
  | case9 body d l hlt hgt ih =>
    rw [tokensFrom, if_neg hlt, if_neg hgt] at h
    exact ih h hc
  | case10 name =>
    cases h
  | case11 name l ih =>
    rw [tokensFrom, if_pos rfl] at h
    obtain ⟨e, -, h⟩ := bind_eq_some_iff.mp h
    obtain ⟨us, hus, rfl⟩ := map_eq_some_iff.mp h
    rcases mem_cons.mp hc with heq | hc
    · cases heq
    · exact ih hus hc
  | case12 name d l hsemi ih =>
    rw [tokensFrom, if_neg hsemi] at h
    exact ih h hc

/-- The characters are read as those tokens, whatever follows. -/
def Reads (s : List Char) (ts : List Token) : Prop :=
  ∀ rest, tokens (s ++ rest) = (tokens rest).map (ts ++ ·)

variable {s s' body name : List Char} {ts ts' : List Token} {c : Char}

lemma Reads.tokens_eq (h : Reads s ts) : tokens s = some ts := by
  have hnil := h []
  rwa [append_nil, show tokens [] = some [] from rfl, map_some, append_nil] at hnil

lemma reads_nil : Reads [] [] := fun rest => by
  cases h : tokens rest <;> simp [h]

lemma Reads.append (h : Reads s ts) (h' : Reads s' ts') : Reads (s ++ s') (ts ++ ts') := by
  intro rest
  rw [append_assoc, h, h', Option.map_map]
  simp only [Function.comp_def, append_assoc]

lemma Reads.ite {p : Prop} [Decidable p] (h : Reads s ts) (h' : Reads s' ts') :
    Reads (if p then s else s') (if p then ts else ts') := by
  split_ifs
  · exact h
  · exact h'

lemma reads_char (h : ¬ Special c) : Reads [c] [.char c] := by
  intro rest
  rw [singleton_append, tokens, tokensFrom, if_neg fun hc => h (.inl hc),
    if_neg fun hc => h (.inr (.inl hc)), if_neg fun hc => h (.inr (.inr hc))]
  rfl

lemma tokensFrom_tag {pre : List Char} (h : ∀ c ∈ body, c ≠ '<' ∧ c ≠ '>') (rest : List Char) :
    tokensFrom (.tag pre) (body ++ '>' :: rest) =
      (tokens rest).map (tagToken (pre ++ body) :: ·) := by
  induction body generalizing pre with
  | nil =>
    rw [nil_append, tokensFrom, if_neg (by decide), if_pos rfl, append_nil]
    rfl
  | cons c body ih =>
    obtain ⟨hlt, hgt⟩ := h c mem_cons_self
    rw [cons_append, tokensFrom, if_neg hlt, if_neg hgt,
      ih fun d hd => h d (mem_cons_of_mem c hd), append_assoc, singleton_append]

lemma reads_tag (body : List Char) (h : ∀ c ∈ body, c ≠ '<' ∧ c ≠ '>') :
    Reads ('<' :: (body ++ ['>'])) [tagToken body] := by
  intro rest
  rw [cons_append, append_assoc, singleton_append, tokens, tokensFrom, if_pos rfl,
    tokensFrom_tag h, nil_append]
  rfl

lemma tokensFrom_entity (pre : List Char) (h : ';' ∉ name)
    (hc : entityChar (pre ++ name) = some c) (rest : List Char) :
    tokensFrom (.entity pre) (name ++ ';' :: rest) = (tokens rest).map (.entity c :: ·) := by
  induction name generalizing pre with
  | nil =>
    rw [append_nil] at hc
    rw [nil_append, tokensFrom, if_pos rfl, hc]
    rfl
  | cons d name ih =>
    have hd : d ≠ ';' := fun heq => h (heq ▸ mem_cons_self)
    rw [cons_append, tokensFrom, if_neg hd,
      ih _ (fun hmem => h (mem_cons_of_mem d hmem)) (by rwa [append_assoc])]

lemma reads_entity (name : List Char) (h : ';' ∉ name) (hc : entityChar name = some c) :
    Reads ('&' :: (name ++ [';'])) [.entity c] := by
  intro rest
  rw [cons_append, append_assoc, singleton_append, tokens, tokensFrom,
    if_neg (by decide), if_neg (by decide), if_pos rfl, tokensFrom_entity [] h hc]
  rfl

/-! ## Nesting and text -/

lemma nest_append (ts ts' : List Token) (stack : List (List Char)) :
    nest (ts ++ ts') stack = (nest ts stack).bind (nest ts') := by
  induction ts, stack using nest.induct with
  | case1 stack => rfl
  | case2 stack name ts ih => rwa [cons_append, nest, nest]
  | case3 name ts => rfl
  | case4 ts last stack ih => rwa [cons_append, nest, nest, if_pos rfl, if_pos rfl]
  | case5 name ts last stack hne => rw [cons_append, nest, nest, if_neg hne, if_neg hne]; rfl
  | case6 stack name ts ih => rwa [cons_append, nest, nest]
  | case7 stack c ts ih => rwa [cons_append, nest, nest]
  | case8 stack c ts ih => rwa [cons_append, nest, nest]

@[simp] lemma plain_append (ts ts' : List Token) : plain (ts ++ ts') = plain ts ++ plain ts' :=
  flatMap_append

end Phonelets.Markup
