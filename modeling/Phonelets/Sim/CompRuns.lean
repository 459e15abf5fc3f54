import Phonelets.Sim.CompBuilder

/-! # Runs of a comprehension TLV builder

A caller builds a list of elements: it begins one with `next`, resizes it and writes its
value, in any order, and goes on. `Correct` says what it may rely on at every call and at
the end; `Careful` is what it takes.
-/

namespace Phonelets.Sim

inductive CompCall
  | next (cr : Bool) (tag : UInt16)
  | setLength (newLen : UInt32)
  | fill (offset : ℕ) (bytes : List UInt8)

/-- What the caller has built: finished elements, and the one it is on. -/
structure Track where
  done : List CompTlv
  current : Option (Bool × ℕ)

namespace CompState

/-- The elements so far, the last one with the octets at `comprehension_tlv_builder_get_data`. -/
def elements (s : CompState) (t : Track) : List CompTlv :=
  t.done ++ (t.current.map fun (cr, tag) => ⟨cr, tag, s.value⟩).toList

/-- The value lies in the buffer. -/
def InBuffer (s : CompState) : Prop := s.getData + s.builder.len ≤ s.builder.pdu + s.builder.max

/-- The length of the BER-TLV around the builder is the number of octets used. -/
def ParentKept (s : CompState) : Prop :=
  match s.parents with
  | [] => True
  | p :: _ => p.len = s.used

variable {s : CompState}

lemma Holds.parentKept_resize {es : List CompTlv} {e e' : CompTlv} {n : ℕ} (h : Holds s es e)
    (h' : Holds (s.resize n) es e') (hparents : (s.resize n).parents =
    resizeParents (s.resize n).used s.parents) : (s.resize n).ParentKept := by
  unfold ParentKept
  rw [hparents]
  cases hps : s.parents with
  | nil => trivial
  | cons p ps =>
    have hnested := h.nested
    rw [hps] at hnested
    rw [resizeParents_cons hnested (n := (s.resize n).used) (by rw [h'.used_eq]; exact h'.fits)]

/-- The calls a caller makes: tags that can be read back, `set_length` and writes on an
element it has begun, writes inside the value, and finished values of at most 65535 octets. -/
def Proper : List CompCall → CompState → Track → Prop
  | [], s, _ => s.builder.len ≤ 0xffff
  | .next cr tag :: cs, s, t =>
    0 < tag.toNat ∧ tag.toNat ≤ 0x7fff ∧
      if (s.next cr tag.toNat).1 then
        s.builder.len ≤ 0xffff ∧
          Proper cs (s.next cr tag.toNat).2 ⟨s.elements t, some (cr, tag.toNat)⟩
      else Proper cs (s.next cr tag.toNat).2 t
  | .setLength n :: cs, s, t => t.current.isSome ∧ Proper cs (s.setLength n.toNat).2 t
  | .fill offset bytes :: cs, s, t =>
    t.current.isSome ∧ offset + bytes.length ≤ s.builder.len ∧ Proper cs (s.fill offset bytes) t

/-- A call that returns `FALSE` changes nothing; a new element lies in the buffer and what
is before it stays; a `set_length` gives the value that many octets in the buffer, keeps
the first ones and what is before; when an element is finished its parent knows the
length; and at the end the octets used read as the elements. -/
def Correct : List CompCall → CompState → Track → Prop
  | [], s, t =>
    s.ParentKept ∧ CompReads (s.mem.slice s.builder.pdu s.used) (s.elements t)
  | .next cr tag :: cs, s, t =>
    if (s.next cr tag.toNat).1 then
      s.ParentKept ∧ (s.next cr tag.toNat).2.InBuffer ∧
        (s.next cr tag.toNat).2.mem.slice s.builder.pdu s.used = s.mem.slice s.builder.pdu s.used ∧
        Correct cs (s.next cr tag.toNat).2 ⟨s.elements t, some (cr, tag.toNat)⟩
    else (s.next cr tag.toNat).2 = s ∧ Correct cs (s.next cr tag.toNat).2 t
  | .setLength n :: cs, s, t =>
    if (s.setLength n.toNat).1 then
      (s.setLength n.toNat).2.InBuffer ∧
        (s.setLength n.toNat).2.value.length = n.toNat ∧
        (s.setLength n.toNat).2.value.take (min s.builder.len n.toNat) =
          s.value.take (min s.builder.len n.toNat) ∧
        (s.setLength n.toNat).2.mem.slice s.builder.pdu s.builder.pos =
          s.mem.slice s.builder.pdu s.builder.pos ∧
        Correct cs (s.setLength n.toNat).2 t
    else (s.setLength n.toNat).2 = s ∧ Correct cs (s.setLength n.toNat).2 t
  | .fill offset bytes :: cs, s, t => Correct cs (s.fill offset bytes) t

/-- No size wraps around 2^32 to one that fits, and inside a BER-TLV every element gets a
`set_length` that succeeds; `kept` is whether the one in hand has had one. -/
def Careful : List CompCall → CompState → Bool → Prop
  | [], _, kept => kept
  | .next cr tag :: cs, s, kept =>
    if (s.next cr tag.toNat).1 then
      kept ∧ s.used + newSize tag.toNat ≤ s.builder.max ∧
        Careful cs (s.next cr tag.toNat).2 s.parents.isEmpty
    else Careful cs (s.next cr tag.toNat).2 kept
  | .setLength n :: cs, s, kept =>
    if (s.setLength n.toNat).1 then
      s.builder.pos + (s.tagSize + lenFieldSizeNeeded n.toNat + n.toNat) ≤ s.builder.max ∧
        Careful cs (s.setLength n.toNat).2 true
    else Careful cs (s.setLength n.toNat).2 kept
  | .fill offset bytes :: cs, s, kept => Careful cs (s.fill offset bytes) kept

/-- The builder is on what the caller has built. -/
structure Follows (s : CompState) (t : Track) (kept : Bool) : Prop where
  done : ∀ e ∈ t.done, e.Valid
  current : ∀ cr tag, t.current = some (cr, tag) → tag ≤ 0x7fff ∧ ∃ v, Holds s t.done ⟨cr, tag, v⟩
  fresh : t.current = none → t.done = [] ∧ s.builder.len = 0 ∧ Stands s []
  parent : kept = true ↔ s.ParentKept

namespace Follows

variable {s : CompState} {t : Track} {kept : Bool}

lemma stands (h : Follows s t kept) : Stands s (s.elements t) := by
  rcases t with ⟨done, current⟩
  cases current with
  | none =>
    rcases h.fresh rfl with ⟨hdone, -, hstands⟩
    simp only at hdone
    rw [elements, hdone]
    exact hstands
  | some c =>
    rcases h.current c.1 c.2 rfl with ⟨-, v, hholds⟩
    rw [elements, hholds.value_eq]
    exact hholds.stands

lemma valid (h : Follows s t kept) (hlen : s.builder.len ≤ 0xffff) : ∀ e ∈ s.elements t, e.Valid := by
  rcases t with ⟨done, current⟩
  intro e he
  cases current with
  | none => exact h.done e (by simpa [elements] using he)
  | some c =>
    rcases h.current c.1 c.2 rfl with ⟨htag, v, hholds⟩
    rw [elements, List.mem_append] at he
    rcases he with he | he
    · exact h.done e he
    · have heq : e = ⟨c.1, c.2, s.value⟩ := by simpa using he
      rw [heq]
      refine ⟨hholds.tag_pos, htag, ?_⟩
      rw [value, Memory.length_slice]
      exact hlen

lemma next (h : Follows s t kept) (hkept : kept = true) {cr : Bool} {tag : ℕ} (hpos : 0 < tag) (hle
    : tag ≤ 0x7fff) (hlen : s.builder.len ≤ 0xffff) (hroom : s.used + newSize tag ≤ s.builder.max) :
    Follows (s.advance cr tag) ⟨s.elements t, some (cr, tag)⟩ s.parents.isEmpty := by
  have hholds := h.stands.advance cr hpos hroom
  refine ⟨h.valid hlen, ?_, ?_, ?_⟩
  · rintro cr' tag' heq
    cases heq
    exact ⟨hle, _, hholds⟩
  · rintro heq
    cases heq
  · have hparent := h.parent.mp hkept
    have hused : (s.advance cr tag).used = s.used + newSize tag := by
      rw [hholds.used_eq, hholds.pos_eq, ← h.stands.used_eq, length_encode, newSize_eq cr tag]
      rfl
    have hsize : 0 < newSize tag := Nat.succ_pos _
    have hparents : (s.advance cr tag).parents = s.parents := rfl
    unfold ParentKept at hparent ⊢
    rw [hparents, hused]
    cases hps : s.parents with
    | nil => simp
    | cons p ps =>
      rw [hps] at hparent
      simp only [List.isEmpty_cons, Bool.false_eq_true, false_iff]
      show ¬ p.len = s.used + newSize tag
      rw [show p.len = s.used from hparent]
      omega

variable {tag : ℕ}

lemma setLength (h : Follows s t kept) {n : ℕ} {cr : Bool} {v : List UInt8} (hcur : t.current =
    some (cr, tag)) (hholds : Holds s t.done ⟨cr, tag, v⟩) (hroom : s.builder.pos +
    (s.tagSize + lenFieldSizeNeeded n + n) ≤ s.builder.max) : Follows (s.resize n) t true := by
  rcases hholds.resize hroom with ⟨v', hholds', hlen', -, hparents⟩
  refine ⟨h.done, ?_, ?_, ?_⟩
  · rintro cr' tag' heq
    rw [hcur] at heq
    cases heq
    exact ⟨(h.current cr tag hcur).1, _, hholds'⟩
  · intro heq
    rw [hcur] at heq
    cases heq
  · simp only [true_iff]
    exact hholds.parentKept_resize hholds' hparents

lemma fill (h : Follows s t kept) {cr : Bool} {v : List UInt8} (offset : ℕ)
    (bytes : List UInt8) (hcur : t.current = some (cr, tag)) (hholds : Holds s t.done ⟨cr, tag, v⟩) :
    Follows (s.fill offset bytes) t kept := by
  rcases hholds.fill offset bytes with ⟨v', hholds', hlen'⟩
  refine ⟨h.done, ?_, ?_, ?_⟩
  · rintro cr' tag' heq
    rw [hcur] at heq
    cases heq
    exact ⟨(h.current cr tag hcur).1, _, hholds'⟩
  · intro heq
    rw [hcur] at heq
    cases heq
  · have hused : (s.fill offset bytes).used = s.used := by
      rw [hholds.used_eq, hholds'.used_eq, length_encode, length_encode, hlen']
      rfl
    unfold ParentKept
    rw [hused]
    exact h.parent

/-- A new element lies in the buffer exactly when its size did not wrap, and what is
before it stays. -/
lemma advance_inBuffer (h : Follows s t kept) (hpos : 0 < tag) (cr : Bool) :
    (s.advance cr tag).InBuffer ↔ s.used + newSize tag ≤ s.builder.max := by
  unfold InBuffer
  rw [advance_getData h.stands.used_lt hpos]
  show s.builder.pdu + (s.used + newSize tag) + 0 ≤ s.builder.pdu + s.builder.max ↔ _
  omega

lemma advance_before (h : Follows s t kept) (hpos : 0 < tag) (cr : Bool)
    (hroom : s.used + newSize tag ≤ s.builder.max) :
    (s.advance cr tag).mem.slice s.builder.pdu s.used = s.mem.slice s.builder.pdu s.used := by
  have hold := h.stands.octets.slice_eq
  have hnew := (h.stands.advance cr hpos hroom).before.slice_eq
  rw [← h.stands.used_eq] at hold hnew
  exact hnew.trans hold.symm

lemma resize_inBuffer {n : ℕ} {e : CompTlv} (hholds : Holds s t.done e) (hn : n < 2 ^ 32) :
    (s.resize n).InBuffer ↔
      s.builder.pos + (s.tagSize + lenFieldSizeNeeded n + n) ≤ s.builder.max := by
  unfold InBuffer
  rw [hholds.resize_getData hn]
  show s.builder.pdu + s.builder.pos + (s.tagSize + lenFieldSizeNeeded n) + n ≤
    s.builder.pdu + s.builder.max ↔ _
  omega

end Follows

lemma correct_iff {cs : List CompCall} {t : Track} {kept : Bool}
    (h : Follows s t kept) (hproper : Proper cs s t) : Correct cs s t ↔ Careful cs s kept := by
  induction cs generalizing s t kept with
  | nil =>
    have hreads : CompReads (s.mem.slice s.builder.pdu s.used) (s.elements t) := by
      have hslice := h.stands.octets.slice_eq
      rw [← h.stands.used_eq] at hslice
      rw [hslice]
      exact compReads_encode (h.valid hproper)
    unfold Correct Careful
    rw [h.parent]
    exact and_iff_left hreads
  | cons c cs ih =>
    cases c with
    | next cr tag =>
      rcases hproper with ⟨hpos, hle, hrest⟩
      unfold Correct Careful
      by_cases hok : (s.next cr tag.toNat).1 = true
      · rw [if_pos hok, next_true hok] at hrest
        rw [if_pos hok, if_pos hok, next_true hok, h.advance_inBuffer hpos, ← h.parent]
        constructor
        · rintro ⟨hkept, hroom, -, hcorrect⟩
          exact ⟨hkept, hroom, (ih (h.next hkept hpos hle hrest.1 hroom) hrest.2).mp hcorrect⟩
        · rintro ⟨hkept, hroom, hcareful⟩
          exact ⟨hkept, hroom, h.advance_before hpos cr hroom,
            (ih (h.next hkept hpos hle hrest.1 hroom) hrest.2).mpr hcareful⟩
      · rw [if_neg hok, next_false (by simpa using hok)] at hrest
        rw [if_neg hok, if_neg hok, next_false (by simpa using hok)]
        simp only [true_and]
        exact ih h hrest
    | setLength n =>
      rcases hproper with ⟨hsome, hrest⟩
      rcases Option.isSome_iff_exists.mp hsome with ⟨⟨cr, tag⟩, hcur⟩
      rcases h.current cr tag hcur with ⟨-, v, hholds⟩
      unfold Correct Careful
      by_cases hok : (s.setLength n.toNat).1 = true
      · rw [setLength_true hok] at hrest
        rw [if_pos hok, if_pos hok, setLength_true hok, Follows.resize_inBuffer hholds n.toNat_lt]
        constructor
        · rintro ⟨hroom, -, -, -, hcorrect⟩
          exact ⟨hroom, (ih (h.setLength hcur hholds hroom) hrest).mp hcorrect⟩
        · rintro ⟨hroom, hcareful⟩
          rcases hholds.resize hroom with ⟨v', hholds', hlen, htake, -⟩
          refine ⟨hroom, ?_, ?_, ?_, (ih (h.setLength hcur hholds hroom) hrest).mpr hcareful⟩
          · rw [hholds'.value_eq, hlen]
          · rw [hholds'.value_eq, hholds.value_eq, hholds.len_eq]
            exact htake
          · have hold := hholds.before.slice_eq
            have hnew := hholds'.before.slice_eq
            rw [← hholds.pos_eq] at hold hnew
            exact hnew.trans hold.symm
      · rw [setLength_false (by simpa using hok)] at hrest
        rw [if_neg hok, if_neg hok, setLength_false (by simpa using hok)]
        simp only [true_and]
        exact ih h hrest
    | fill offset bytes =>
      rcases hproper with ⟨hsome, -, hrest⟩
      rcases Option.isSome_iff_exists.mp hsome with ⟨⟨cr, tag⟩, hcur⟩
      rcases h.current cr tag hcur with ⟨-, v, hholds⟩
      unfold Correct Careful
      exact ih (h.fill offset bytes hcur hholds) hrest

/-! ## From the creation of a builder -/

/-- A builder on its own, or inside a BER-TLV. -/
inductive Created : CompState → Prop
  | alone {pdu size : ℕ} {mem : Memory} {s : CompState} (hsize : size < 2 ^ 32)
      (h : comprehensionTlvBuilderInit pdu size mem = some s) : Created s
  | inside {b : BerState} {s : CompState} (hready : b.Ready) (h : b.recurseComprehension = some s) :
      Created s

/-- Nothing is used yet, so the parent's length has to be zero. -/
def parentEmpty (s : CompState) : Bool :=
  match s.parents with
  | [] => true
  | p :: _ => p.len = 0

lemma init_eq {pdu size : ℕ} {mem : Memory} (h : comprehensionTlvBuilderInit pdu size mem = some
    s) : 2 ≤ size ∧ s = ⟨⟨size, 0, pdu, 0⟩, [], mem.write pdu [0]⟩ := by
  unfold comprehensionTlvBuilderInit at h
  split_ifs at h with hsize
  exact ⟨by omega, (Option.some.inj h).symm⟩

lemma used_fresh (pdu size : ℕ) (mem : Memory) (parents : List BerTlvBuilder) :
    used ⟨⟨size, 0, pdu, 0⟩, parents, mem.write pdu [0]⟩ = 0 := by
  have hzero : mem.write pdu [0] pdu = 0 := (Memory.at_cons.mp (Memory.at_write mem pdu [0])).1
  unfold used prevSize tlv
  rw [if_neg (by simpa using hzero)]

lemma follows_fresh {pdu size : ℕ} {mem : Memory} {parents : List BerTlvBuilder}
    (hnested : Nested (frame ⟨⟨size, 0, pdu, 0⟩, parents, mem.write pdu [0]⟩) parents) :
    Follows ⟨⟨size, 0, pdu, 0⟩, parents, mem.write pdu [0]⟩ ⟨[], none⟩
      (parentEmpty ⟨⟨size, 0, pdu, 0⟩, parents, mem.write pdu [0]⟩) := by
  have hused := used_fresh pdu size mem parents
  refine ⟨by simp, by simp, fun _ => ⟨rfl, rfl, hnested, hused, by rw [hused]; exact Nat.zero_le _, rfl⟩, ?_⟩
  unfold parentEmpty ParentKept
  rw [hused]
  cases parents with
  | nil => simp
  | cons p ps => simp

lemma Created.follows (h : Created s) : Follows s ⟨[], none⟩ s.parentEmpty := by
  cases h with
  | alone hsize h =>
    rcases init_eq h with ⟨-, rfl⟩
    exact follows_fresh hsize
  | @inside b _ hready h =>
    unfold BerState.recurseComprehension at h
    rw [Option.map_eq_some_iff] at h
    rcases h with ⟨c, hinit, rfl⟩
    rcases init_eq hinit with ⟨hsize, rfl⟩
    refine follows_fresh ⟨rfl, ?_, hready.nested⟩
    show b.builder.pdu + b.builder.max - b.getData + b.builder.pos + maxBerTlvHeader = b.builder.max
    unfold BerState.getData at hsize ⊢
    omega

/-- A caller may rely on a builder for every list of elements, however it resizes and
writes them, if and only if no size wraps around and, inside a BER-TLV of length zero,
every element gets a `set_length`. -/
theorem builder_correct_iff {s : CompState} (h : Created s) {cs : List CompCall}
    (hproper : Proper cs s ⟨[], none⟩) : Correct cs s ⟨[], none⟩ ↔ Careful cs s s.parentEmpty :=
  correct_iff h.follows hproper

theorem builder_correct_iff_resized : Correct [.next true 5, .setLength 130, .fill 0 [1, 2],
    .setLength 2] ⟨⟨300, 0, 0, 0⟩, [], Memory.write (fun _ => 0) 0 [0]⟩ ⟨[], none⟩ := by
  have hnext : (next true (UInt16.toNat 5) ⟨⟨300, 0, 0, 0⟩, [], Memory.write (fun _ => 0) 0 [0]⟩).1 = true := by
    decide
  have hinit : comprehensionTlvBuilderInit 0 300 (fun _ => 0) =
      some ⟨⟨300, 0, 0, 0⟩, [], Memory.write (fun _ => 0) 0 [0]⟩ := rfl
  refine (builder_correct_iff (.alone (by decide) hinit) ?_).mpr ?_
  · refine ⟨by decide, by decide, ?_⟩
    rw [if_pos hnext]
    exact ⟨by decide, rfl, rfl, by decide, rfl, show 2 ≤ 0xffff by decide⟩
  · unfold Careful
    rw [if_pos hnext]
    refine ⟨rfl, by decide, ?_⟩
    unfold Careful
    rw [if_pos (by decide)]
    refine ⟨by decide, ?_⟩
    unfold Careful Careful
    rw [if_pos (by decide)]
    exact ⟨by decide, rfl⟩

/-- Inside a BER-TLV an element begun by `next` alone is not counted. -/
theorem parent_misses_next : ∃ s : CompState, Created s ∧ s.parentEmpty = true ∧
    Proper [.next false 5] s ⟨[], none⟩ ∧ ¬ Correct [.next false 5] s ⟨[], none⟩ := by
  refine ⟨⟨⟨24, 0, 8, 0⟩, [⟨32, 0, 0, 17, .contextSpecific, .constructed, 0⟩],
    Memory.write (fun _ => 0) 8 [0]⟩, .inside (b := ⟨⟨32, 0, 0, 17, .contextSpecific, .constructed, 0⟩,
      [], fun _ => 0⟩) ⟨show 32 < 2 ^ 32 by decide, by decide⟩ rfl, rfl, ?_, ?_⟩
  · exact ⟨by decide, by decide, by rw [if_pos (by decide)]; exact ⟨by decide, Nat.zero_le _⟩⟩
  · intro h
    unfold Correct at h
    rw [if_pos (by decide)] at h
    have hparent : 0 = used (next false 5 ⟨⟨24, 0, 8, 0⟩, [⟨32, 0, 0, 17, .contextSpecific,
      .constructed, 0⟩], Memory.write (fun _ => 0) 8 [0]⟩).2 := h.2.2.2.1
    exact absurd hparent (by decide)

end CompState

end Phonelets.Sim
