import Mathlib.Data.Int.Notation
import Mathlib.Tactic.Common

/-! # Decoders over a C buffer

A decoder in the C manner: a pointer, a length that it trusts, an offset that moves.
It comes back with a result, it gives up (`return FALSE`), or it has gone outside of
an array, which a C program does not survive in any defined way. What is in memory
and what the length says are kept apart, so a length that lies is a run too.
-/

namespace Phonelets

/-! ## Outcomes -/

inductive Outcome (α : Type) where
  | ok (a : α)
  /-- `return FALSE` -/
  | reject
  /-- a read or a write outside of an array -/
  | fault
  deriving DecidableEq

namespace Outcome

variable {α β : Type}

protected def bind : Outcome α → (α → Outcome β) → Outcome β
  | ok a, f => f a
  | reject, _ => reject
  | fault, _ => fault

instance : Monad Outcome where
  pure := ok
  bind := Outcome.bind

instance : LawfulMonad Outcome := by
  refine LawfulMonad.mk' Outcome ?_ ?_ ?_
  · intro α x
    cases x <;> rfl
  · intro α β a f
    rfl
  · intro α β γ x f g
    cases x <;> rfl

/-- `FALSE` for a function that has come back with `NULL`. -/
def orReject : Option α → Outcome α
  | some a => ok a
  | none => reject

/-- A write that must be inside of its array. -/
def orFault : Option α → Outcome α
  | some a => ok a
  | none => fault

@[simp] lemma ok_bind (a : α) (f : α → Outcome β) : (ok a >>= f) = f a := rfl

@[simp] lemma reject_bind (f : α → Outcome β) : (reject >>= f) = reject := rfl

@[simp] lemma fault_bind (f : α → Outcome β) : (fault >>= f) = fault := rfl

@[simp] lemma pure_eq_ok (a : α) : (pure a : Outcome α) = ok a := rfl

@[simp] lemma orReject_some (a : α) : orReject (some a) = ok a := rfl

@[simp] lemma orReject_none : orReject (none : Option α) = reject := rfl

lemma orReject_eq_ok {o : Option α} {a : α} : orReject o = ok a ↔ o = some a := by
  cases o <;> simp

def isOk : Outcome α → Bool
  | ok _ => true
  | _ => false

lemma isOk_iff {o : Outcome α} : o.isOk = true ↔ ∃ a, o = ok a := by
  cases o <;> simp [isOk]

@[simp] lemma orFault_some (a : α) : orFault (some a) = ok a := rfl

@[simp] lemma orFault_none : orFault (none : Option α) = fault := rfl

lemma orFault_eq_ok {o : Option α} {a : α} : orFault o = ok a ↔ o = some a := by
  cases o <;> simp

lemma bind_eq_ok {x : Outcome α} {f : α → Outcome β} {b : β} :
    (x >>= f) = ok b ↔ ∃ a, x = ok a ∧ f a = ok b := by
  cases x <;> simp

lemma bind_eq_fault {x : Outcome α} {f : α → Outcome β} :
    (x >>= f) = fault ↔ x = fault ∨ ∃ a, x = ok a ∧ f a = fault := by
  cases x <;> simp

/-- A fold over a list comes to a result if each step from the invariant does; the
invariant speaks of what has been folded so far. -/
lemma foldlM_ok {σ ι : Type} {f : σ → ι → Outcome σ} {l : List ι} (Inv : List ι → σ → Prop)
    (hstep : ∀ pre i post s, l = pre ++ i :: post → Inv pre s → ∃ s', f s i = ok s' ∧
    Inv (pre ++ [i]) s') {s : σ} (hs : Inv [] s) : ∃ s', l.foldlM f s = ok s' ∧ Inv l s' := by
  have hall : ∀ post pre s, l = pre ++ post → Inv pre s →
      ∃ s', post.foldlM f s = ok s' ∧ Inv l s' := by
    intro post
    induction post with
    | nil =>
      intro pre s hl hInv
      rw [List.append_nil] at hl
      exact ⟨s, rfl, hl ▸ hInv⟩
    | cons i post ih =>
      intro pre s hl hInv
      rcases hstep pre i post s hl hInv with ⟨s₁, hs₁, hInv₁⟩
      rcases ih (pre ++ [i]) s₁ (by simpa using hl) hInv₁ with ⟨s', hs', hInv'⟩
      refine ⟨s', ?_, hInv'⟩
      rw [List.foldlM_cons, hs₁, ok_bind, hs']
  exact hall l [] s rfl hs

end Outcome

/-! ## Decoders -/

/-- What is in memory from the offset on, and `len - offset`. -/
structure Cursor where
  rest : List UInt8
  left : ℤ
  deriving DecidableEq

def Decoder (α : Type) := Cursor → Outcome (α × Cursor)

namespace Decoder

variable {α β : Type}

protected def pure (a : α) : Decoder α := fun c => .ok (a, c)

protected def bind (d : Decoder α) (f : α → Decoder β) : Decoder β := fun c =>
  match d c with
  | .ok (a, c') => f a c'
  | .reject => .reject
  | .fault => .fault

instance : Monad Decoder where
  pure := Decoder.pure
  bind := Decoder.bind

/-- An outcome that does not look at the buffer. -/
def lift (x : Outcome α) : Decoder α := fun c =>
  match x with
  | .ok a => .ok (a, c)
  | .reject => .reject
  | .fault => .fault

/-- `if (!b) return FALSE;` -/
def check (b : Bool) : Decoder Unit := fun c => if b then .ok ((), c) else .reject

/-- One octet at the offset, unless the offset is at the length. -/
def nextOctet : Decoder UInt8 := fun c =>
  if c.left = 0 then .reject
  else
    match c.rest with
    | b :: rest => .ok (b, ⟨rest, c.left - 1⟩)
    | [] => .fault

/-- `if ((len - offset) < n) return FALSE;` -/
def need (n : ℕ) : Decoder Unit := fun c => if c.left < n then .reject else .ok ((), c)

/-- The `n` octets at the offset, which does not move. -/
def peek (n : ℕ) : Decoder (List UInt8) := fun c =>
  if n ≤ c.rest.length then .ok (c.rest.take n, c) else .fault

/-- `offset += n` -/
def skip (n : ℕ) : Decoder Unit := fun c => .ok ((), ⟨c.rest.drop n, c.left - n⟩)

/-- `(len - offset) == 0` -/
def atEnd : Decoder Bool := fun c => .ok (c.left == 0, c)

variable {c : Cursor}

lemma bind_of_ok {d : Decoder α} {f : α → Decoder β} {c' : Cursor} {a : α}
    (h : d c = .ok (a, c')) : (d >>= f) c = f a c' := by
  show (match d c with | .ok (a, c') => f a c' | .reject => .reject | .fault => .fault) = f a c'
  rw [h]

lemma bind_of_reject {d : Decoder α} {f : α → Decoder β} (h : d c = .reject) :
    (d >>= f) c = .reject := by
  show (match d c with | .ok (a, c') => f a c' | .reject => .reject | .fault => .fault) = .reject
  rw [h]

lemma bind_of_fault {d : Decoder α} {f : α → Decoder β} (h : d c = .fault) :
    (d >>= f) c = .fault := by
  show (match d c with | .ok (a, c') => f a c' | .reject => .reject | .fault => .fault) = .fault
  rw [h]

/-- A sequence has its result from one result after the other. -/
lemma bind_eq_ok {d : Decoder α} {f : α → Decoder β} {r : β × Cursor} :
    (d >>= f) c = .ok r ↔ ∃ a c', d c = .ok (a, c') ∧ f a c' = .ok r := by
  constructor
  · intro h
    rcases hd : d c with ⟨a, c'⟩ | _ | _
    · rw [bind_of_ok hd] at h
      exact ⟨a, c', rfl, h⟩
    · rw [bind_of_reject hd] at h
      cases h
    · rw [bind_of_fault hd] at h
      cases h
  · rintro ⟨a, c', hd, hf⟩
    rw [bind_of_ok hd, hf]

/-- A sequence faults in its first part, or in the second after the first. -/
lemma bind_eq_fault {d : Decoder α} {f : α → Decoder β} :
    (d >>= f) c = .fault ↔ d c = .fault ∨ ∃ a c', d c = .ok (a, c') ∧ f a c' = .fault := by
  rcases hd : d c with ⟨a, c'⟩ | _ | _
  · rw [bind_of_ok hd]
    simp
  · rw [bind_of_reject hd]
    simp
  · rw [bind_of_fault hd]
    simp

@[simp] lemma pure_apply (a : α) (c : Cursor) : (pure a : Decoder α) c = .ok (a, c) := rfl

@[simp] lemma lift_ok (a : α) (c : Cursor) : lift (.ok a) c = .ok (a, c) := rfl

@[simp] lemma lift_reject (c : Cursor) : lift (.reject : Outcome α) c = .reject := rfl

@[simp] lemma lift_fault (c : Cursor) : lift (.fault : Outcome α) c = .fault := rfl

/-! ## Reading a given list of octets -/

/-- A cursor whose length is the length of `l`, with `extra` behind it in memory. -/
def on (l extra : List UInt8) : Cursor := ⟨l ++ extra, l.length⟩

/-- The decoder takes exactly `l` off the buffer and makes `a` of it. -/
def Reads (d : Decoder α) (l : List UInt8) (a : α) : Prop :=
  ∀ m extra, d (on (l ++ m) extra) = .ok (a, on m extra)

lemma Reads.step {d : Decoder α} {l : List UInt8} {a : α} (h : Reads d l a) (f : α → Decoder β)
    (m extra : List UInt8) : (d >>= f) (on (l ++ m) extra) = f a (on m extra) :=
  bind_of_ok (h m extra)

lemma reads_nextOctet (b : UInt8) : Reads nextOctet [b] b := by
  intro m extra
  have hne : ¬ ((m.length : ℤ) + 1 = 0) := by omega
  simp [nextOctet, on, hne]

variable {n : ℕ} {extra : List UInt8}

lemma reads_need {m : List UInt8} (h : n ≤ m.length) :
    need n (on m extra) = .ok ((), on m extra) := by
  have hle : ¬ ((m.length : ℤ) < n) := by omega
  simp [need, on, hle]

lemma check_true (c : Cursor) : check true c = .ok ((), c) := rfl

lemma atEnd_nil (extra : List UInt8) : atEnd (on [] extra) = .ok (true, on [] extra) := rfl

lemma atEnd_cons (b : UInt8) (l extra : List UInt8) :
    atEnd (on (b :: l) extra) = .ok (false, on (b :: l) extra) := by
  have hne : ¬ ((l.length : ℤ) + 1 = 0) := by omega
  simp [atEnd, on, hne]

lemma nextOctet_bind_cons (f : UInt8 → Decoder α) (b : UInt8) (m extra : List UInt8) :
    (nextOctet >>= f) (on (b :: m) extra) = f b (on m extra) :=
  (reads_nextOctet b).step f m extra

lemma nextOctet_bind_nil (f : UInt8 → Decoder α) (extra : List UInt8) :
    (nextOctet >>= f) (on [] extra) = .reject :=
  bind_of_reject (by simp [nextOctet, on])

variable {l : List UInt8}

lemma need_bind {f : Unit → Decoder α} (h : n ≤ l.length) :
    (need n >>= f) (on l extra) = f () (on l extra) :=
  bind_of_ok (reads_need h)

lemma need_bind_reject {f : Unit → Decoder α}
    (h : ¬ n ≤ l.length) : (need n >>= f) (on l extra) = .reject := by
  have hlt : (l.length : ℤ) < n := by omega
  exact bind_of_reject (by simp [need, on, hlt])

lemma lift_bind_ok (a : α) (f : α → Decoder β) (c : Cursor) : (lift (.ok a) >>= f) c = f a c :=
  bind_of_ok (lift_ok a c)

lemma lift_bind_reject (f : α → Decoder β) (c : Cursor) :
    (lift (.reject : Outcome α) >>= f) c = .reject :=
  bind_of_reject (lift_reject c)

lemma lift_bind_fault_eq (f : α → Decoder β) (c : Cursor) :
    (lift (.fault : Outcome α) >>= f) c = .fault :=
  bind_of_fault (lift_fault c)

lemma peek_bind {f : List UInt8 → Decoder α} (h : n ≤ l.length) :
    (peek n >>= f) (on l extra) = f (l.take n) (on l extra) := by
  have hle : n ≤ l.length + extra.length := by omega
  refine bind_of_ok ?_
  simp [peek, on, hle, List.take_append_of_le_length h]

lemma skip_bind {f : Unit → Decoder α} (h : n ≤ l.length) :
    (skip n >>= f) (on l extra) = f () (on (l.drop n) extra) := by
  refine bind_of_ok ?_
  simp [skip, on, List.drop_append_of_le_length h]
  omega

/-! ## Where a decoder faults

With a length that does not exceed what is in memory a decoder only faults in what
it does with the octets; with a negative one nothing but a count stops it. -/

lemma nextOctet_bind_fault {f : UInt8 → Decoder α} : (nextOctet >>= f) (on l extra) = .fault ↔
      ∃ b m, l = b :: m ∧ f b (on m extra) = .fault := by
  cases l with
  | nil => simp [nextOctet_bind_nil]
  | cons b m =>
    rw [nextOctet_bind_cons]
    constructor
    · intro h
      exact ⟨b, m, rfl, h⟩
    · rintro ⟨b', m', heq, h⟩
      cases heq
      exact h

lemma need_bind_fault {f : Unit → Decoder α} :
    (need n >>= f) (on l extra) = .fault ↔ n ≤ l.length ∧ f () (on l extra) = .fault := by
  by_cases h : n ≤ l.length
  · rw [need_bind h]
    simp [h]
  · rw [need_bind_reject h]
    simp [h]

lemma check_bind_fault {b : Bool} {f : Unit → Decoder α} :
    (check b >>= f) c = .fault ↔ b = true ∧ f () c = .fault := by
  cases b with
  | true =>
    rw [bind_of_ok (check_true c)]
    simp
  | false =>
    rw [bind_of_reject rfl]
    simp

/-- A sequence whose first part is described by `F` and `R` faults in that part, or in
what comes after one of its results. -/
lemma bind_fault_of_spec {d : Decoder α} {F : Prop} {R : α → List UInt8 → Prop} (hfault : d (on l extra) = .fault ↔ F)
    (hok : ∀ a c, d (on l extra) = .ok (a, c) ↔ ∃ rest, R a rest ∧ c = on rest extra)
    {f : α → Decoder β} :
    (d >>= f) (on l extra) = .fault ↔ F ∨ ∃ a rest, R a rest ∧ f a (on rest extra) = .fault := by
  rw [bind_eq_fault, hfault]
  constructor
  · rintro (hF | ⟨a, c, hd, hf⟩)
    · exact .inl hF
    · rcases (hok a c).mp hd with ⟨rest, hR, rfl⟩
      exact .inr ⟨a, rest, hR, hf⟩
  · rintro (hF | ⟨a, rest, hR, hf⟩)
    · exact .inl hF
    · exact .inr ⟨a, on rest extra, (hok a _).mpr ⟨rest, hR, rfl⟩, hf⟩

section Negative

variable {left : ℤ}

lemma nextOctet_bind_fault_neg (hleft : left < 0) {f : UInt8 → Decoder α} {l : List UInt8} :
    (nextOctet >>= f) ⟨l, left⟩ = .fault ↔ ∀ b m, l = b :: m → f b ⟨m, left - 1⟩ = .fault := by
  have hne : left ≠ 0 := by omega
  cases l with
  | nil =>
    rw [bind_of_fault (by simp [nextOctet, hne])]
    simp
  | cons b m =>
    have hnext : nextOctet ⟨b :: m, left⟩ = .ok (b, ⟨m, left - 1⟩) := by
      simp [nextOctet, hne]
    rw [bind_of_ok hnext]
    constructor
    · intro h b' m' heq
      cases heq
      exact h
    · intro h
      exact h b m rfl

/-- Any count asked for is more than is left. -/
lemma need_bind_neg (hleft : left < 0) (n : ℕ) {f : Unit → Decoder α} {l : List UInt8} :
    (need n >>= f) ⟨l, left⟩ = .reject := by
  have hlt : left < n := by omega
  exact bind_of_reject (by simp [need, hlt])

end Negative

end Decoder

end Phonelets
