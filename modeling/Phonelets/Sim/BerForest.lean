import Phonelets.Sim.BerTlv

/-! # Forests of BER-TLVs

A forest that `ber_tlv_builder_*` has built is read back by `ber_tlv_iter_*` exactly when
it is not empty, no tag is one of 31 to 127, whose header lacks an octet, and no tag is
255 before a sibling, which is the value that marks a fresh builder.
-/

namespace Phonelets.Sim

open List Option

/-! ## Building and reading -/

/-- A list of BER-TLVs: values, and elements that hold a list of their own. -/
inductive Forest
  | nil
  | leaf (dataType : DataType) (encoding : EncodingType) (tag : ℕ) (value : List UInt8)
      (rest : Forest)
  | node (dataType : DataType) (encoding : EncodingType) (tag : ℕ) (children rest : Forest)
  deriving DecidableEq

namespace Forest

/-- The forest built in order; a nested builder may have had any contents. -/
def build (uninit : BerTlvBuilder) : Forest → BerState → Option BerState
  | nil, s => some s
  | leaf c e t value rest, s =>
    ((s.next c e t).bind (BerState.setLength value.length)).bind fun s =>
      build uninit rest (s.fill value)
  | node c e t children rest, s =>
    (((s.next c e t).bind (BerState.recurse uninit)).bind (build uninit children)).bind fun s =>
      s.ascend.bind (build uninit rest)

/-- What `ber_tlv_iter_next` delivers on the octets, and inside every element with
children what it delivers after `ber_tlv_iter_recurse`, is the forest and nothing else. -/
def Reads : List UInt8 → Forest → Prop
  | os, nil => berTlvIterNext os = none
  | os, leaf c e t value rest =>
    ∃ after, berTlvIterNext os = some (⟨c, e, t, value⟩, after) ∧ Reads after rest
  | os, node c e t children rest =>
    ∃ value after, berTlvIterNext os = some (⟨c, e, t, value⟩, after) ∧
      Reads value children ∧ Reads after rest

/-- The octets that the slots for the headers and the values take. -/
def size : Forest → ℕ
  | nil => 0
  | leaf _ _ _ value rest => maxBerTlvHeader + value.length + rest.size
  | node _ _ _ children rest => maxBerTlvHeader + children.size + rest.size

/-! ## What building leaves in memory -/

/-- The octets from the first slot to the end of the last value; an element of tag 255 is
overwritten by its sibling. -/
def used : Forest → ℕ
  | nil => 0
  | leaf _ _ t value rest =>
    if t = 0xff ∧ rest ≠ nil then rest.used else maxBerTlvHeader + value.length + rest.used
  | node _ _ t children rest =>
    if t = 0xff ∧ rest ≠ nil then rest.used else maxBerTlvHeader + children.used + rest.used

/-- The memory once the forest stands at the address and the last header is written. -/
def image (uninit : BerTlvBuilder) : Forest → Memory → ℕ → Memory
  | nil, m, _ => m
  | leaf c e t value rest, m, p =>
    let m := m.write (p + maxBerTlvHeader) value
    if t = 0xff ∧ rest ≠ nil then image uninit rest m p
    else image uninit rest (m.write p (headerOctets c e t value.length))
      (p + (maxBerTlvHeader + value.length))
  | node c e t children rest, m, p =>
    let m := if children = nil then
        m.write (p + maxBerTlvHeader) (headerOctets uninit.dataType uninit.encoding 0xff 0)
      else image uninit children m (p + maxBerTlvHeader)
    if t = 0xff ∧ rest ≠ nil then image uninit rest m p
    else image uninit rest (m.write p (headerOctets c e t children.used))
      (p + (maxBerTlvHeader + children.used))

/-- The memory once a builder nested in an element is finished. -/
def inner (uninit : BerTlvBuilder) (children : Forest) (m : Memory) (p : ℕ) : Memory :=
  if children = nil then m.write p (headerOctets uninit.dataType uninit.encoding 0xff 0)
  else children.image uninit m p

lemma image_node (uninit : BerTlvBuilder) (c : DataType) (e : EncodingType) (t : ℕ)
    (children rest : Forest) (m : Memory) (p : ℕ) : (node c e t children rest).image uninit m p =
    if t = 0xff ∧ rest ≠ nil then rest.image uninit (inner uninit children m (p + maxBerTlvHeader))
    p else rest.image uninit ((inner uninit children m (p + maxBerTlvHeader)).write p
    (headerOctets c e t children.used)) (p + (maxBerTlvHeader + children.used)) := by
  rw [image]
  rfl

lemma used_le_size (f : Forest) : f.used ≤ f.size := by
  induction f with
  | nil => exact Nat.le_refl 0
  | leaf c e t value rest ih =>
    unfold used size
    split_ifs <;> omega
  | node c e t children rest ihc ih =>
    unfold used size
    split_ifs <;> omega

end Forest

/-! ## Builders inside builders -/

/-- Each builder ends where the one it was created inside of ends. -/
def Nested : BerTlvBuilder → List BerTlvBuilder → Prop
  | b, [] => b.max < 2 ^ 32
  | b, p :: ps =>
    b.pdu = p.pdu + p.pos + maxBerTlvHeader ∧ b.max + p.pos + maxBerTlvHeader = p.max ∧ Nested p ps

variable {b : BerTlvBuilder} {ps : List BerTlvBuilder}

lemma Nested.max_lt (h : Nested b ps) : b.max < 2 ^ 32 := by
  induction ps generalizing b with
  | nil => exact h
  | cons p ps ih =>
    rcases h with ⟨-, hmax, hp⟩
    have hlt := ih hp
    omega

lemma Nested.congr {b' : BerTlvBuilder} (h : Nested b ps)
    (hpdu : b'.pdu = b.pdu) (hmax : b'.max = b.max) : Nested b' ps := by
  cases ps with
  | nil => exact (congrArg (· < 2 ^ 32) hmax).mpr h
  | cons p ps => exact ⟨hpdu.trans h.1, by rw [hmax]; exact h.2.1, h.2.2⟩

variable {n : ℕ}

lemma resizeParents_cons {p : BerTlvBuilder} (h : Nested b (p :: ps)) (hn : n ≤ b.max) :
    resizeParents n (p :: ps) =
      { p with len := n } :: resizeParents (p.pos + maxBerTlvHeader + n) ps := by
  rcases h with ⟨-, hmax, hp⟩
  have hlt := hp.max_lt
  rw [resizeParents, Nat.mod_eq_of_lt (by omega), if_neg (by omega)]

lemma Nested.resize (h : Nested b ps) (hn : n ≤ b.max) : Nested b (resizeParents n ps) := by
  induction ps generalizing b n with
  | nil => exact h
  | cons p ps ih =>
    rw [resizeParents_cons h hn]
    rcases h with ⟨hpdu, hmax, hp⟩
    exact ⟨hpdu, hmax, (ih hp (by omega)).congr rfl rfl⟩

lemma resizeParents_resizeParents (h : Nested b ps) {k : ℕ} (hn : n ≤ b.max) (hk : k ≤ b.max) :
    resizeParents k (resizeParents n ps) = resizeParents k ps := by
  induction ps generalizing b n k with
  | nil => rfl
  | cons p ps ih =>
    have hres := h.resize hn
    rw [resizeParents_cons h hn] at hres ⊢
    rw [resizeParents_cons hres hk, resizeParents_cons h hk]
    rcases h with ⟨-, hmax, hp⟩
    have htail := ih hp (n := p.pos + maxBerTlvHeader + n) (k := p.pos + maxBerTlvHeader + k)
      (by omega) (by omega)
    exact congrArg _ htail

namespace BerState

/-- Where the next element begins. -/
def start (s : BerState) : ℕ :=
  if s.builder.tag ≠ 0xff then s.builder.pos + (maxBerTlvHeader + s.builder.len) else s.builder.pos

/-- The element a builder stands on fits it. -/
structure Ready (s : BerState) : Prop where
  nested : Nested s.builder s.parents
  fits : s.builder.pos + (maxBerTlvHeader + s.builder.len) ≤ s.builder.max

variable {s : BerState}

lemma settle_eq (h : s.Ready) :
    s.settle = ⟨{ s.builder with pos := s.start }, s.parents, s.settle.mem⟩ := by
  have hlt := h.nested.max_lt
  have hfits := h.fits
  unfold settle start
  split_ifs
  · rw [Nat.mod_eq_of_lt (by omega)]
  · rfl

/-- The builder on a new element with a value of `n` octets. -/
def opened (s : BerState) (c : DataType) (e : EncodingType) (t n : ℕ) : BerState :=
  ⟨⟨s.builder.max, s.start, s.builder.pdu, t, c, e, n⟩,
    resizeParents (s.start + (maxBerTlvHeader + n)) s.parents, s.settle.mem⟩

lemma Ready.opened (h : s.Ready) {n : ℕ} (hroom : s.start + (maxBerTlvHeader + n) ≤ s.builder.max)
    (c : DataType) (e : EncodingType) (t : ℕ) : (s.opened c e t n).Ready :=
  ⟨(h.nested.resize hroom).congr rfl rfl, hroom⟩

lemma next_eq (h : s.Ready) (hroom : s.start + maxBerTlvHeader ≤ s.builder.max)
    (c : DataType) (e : EncodingType) (t : ℕ) : s.next c e t = some (s.opened c e t 0) := by
  have hlt := h.nested.max_lt
  unfold next setLength
  rw [settle_eq h]
  simp only [Nat.add_zero]
  rw [Nat.mod_eq_of_lt (by omega), if_neg (by omega)]
  rfl

lemma opened_setLength (h : s.Ready) {k n : ℕ} (hk : s.start + (maxBerTlvHeader + k) ≤
    s.builder.max) (hn : s.start + (maxBerTlvHeader + n) ≤ s.builder.max) (c : DataType)
    (e : EncodingType) (t : ℕ) : (s.opened c e t k).setLength n = some (s.opened c e t n) := by
  have hlt := h.nested.max_lt
  unfold setLength opened
  dsimp only
  rw [Nat.add_assoc, Nat.mod_eq_of_lt (by omega), if_neg (by omega),
    resizeParents_resizeParents h.nested hk hn]

/-- What building a forest leaves: where it ends, what the parents know of it, and the
memory once the last header is written. -/
structure Built (uninit : BerTlvBuilder) (f : Forest) (s s' : BerState) : Prop where
  ready : s'.Ready
  pdu : s'.builder.pdu = s.builder.pdu
  max : s'.builder.max = s.builder.max
  stop : s'.builder.pos + (maxBerTlvHeader + s'.builder.len) = s.start + f.used
  parents : s'.parents = resizeParents (s.start + f.used) s.parents
  closed : s'.builder.writeHeader s'.mem =
    f.image uninit s.settle.mem (s.builder.pdu + s.start)

variable {uninit : BerTlvBuilder}

lemma build_rest {rest : Forest} {s' : BerState} {ps : List BerTlvBuilder}
    (ih : ∀ {s s' : BerState}, s.Ready → s.start + rest.size ≤ s.builder.max → rest.build uninit s =
    some s' → rest ≠ .nil → Built uninit rest s s') (hready : s.Ready) (hparents : s.parents =
    resizeParents (s.builder.pos + (maxBerTlvHeader + s.builder.len)) ps) (hps : Nested s.builder
    ps) (hfit : s.builder.pos + (maxBerTlvHeader + s.builder.len) + rest.size ≤ s.builder.max)
    (h : rest.build uninit s = some s') : s'.Ready ∧ s'.builder.pdu = s.builder.pdu ∧
    s'.builder.max = s.builder.max ∧ s'.builder.pos + (maxBerTlvHeader + s'.builder.len) =
    s.builder.pos + (if s.builder.tag = 0xff ∧ rest ≠ .nil then rest.used else maxBerTlvHeader +
    s.builder.len + rest.used) ∧ s'.parents = resizeParents (s.builder.pos + (if s.builder.tag =
    0xff ∧ rest ≠ .nil then rest.used else maxBerTlvHeader + s.builder.len + rest.used)) ps ∧
    s'.builder.writeHeader s'.mem = if s.builder.tag = 0xff ∧ rest ≠ .nil then rest.image uninit
    s.mem (s.builder.pdu + s.builder.pos) else rest.image uninit (s.builder.writeHeader s.mem)
    (s.builder.pdu + s.builder.pos + (maxBerTlvHeader + s.builder.len)) := by
  have hfits := hready.fits
  by_cases hnil : rest = .nil
  · subst hnil
    cases h
    simp only [ne_eq, not_true_eq_false, and_false, if_false, Forest.used, Nat.add_zero]
    exact ⟨hready, trivial, trivial, trivial, hparents, rfl⟩
  · have hstart : s.start = s.builder.pos +
        (if s.builder.tag = 0xff then 0 else maxBerTlvHeader + s.builder.len) := by
      unfold start
      split_ifs <;> simp_all
    have hle : s.start + rest.size ≤ s.builder.max := by
      rw [hstart]
      split_ifs <;> omega
    have hused := rest.used_le_size
    have hbuilt := ih hready hle h hnil
    have hpar := hbuilt.parents
    rw [hparents, resizeParents_resizeParents hps (by omega) (by omega)] at hpar
    refine ⟨hbuilt.ready, hbuilt.pdu, hbuilt.max, ?_, ?_, ?_⟩
    · rw [hbuilt.stop, hstart]
      split_ifs <;> simp_all
      omega
    · rw [hpar, hstart]
      congr 1
      split_ifs <;> simp_all
      omega
    · rw [hbuilt.closed, hstart]
      by_cases htag : s.builder.tag = 0xff
      · rw [if_pos htag, if_pos ⟨htag, hnil⟩, settle, if_neg (by simpa using htag), Nat.add_zero]
      · rw [if_neg htag, if_neg (fun hboth => htag hboth.1), settle, if_pos htag, Nat.add_assoc]

variable {si : BerState} {c : DataType} {e : EncodingType} {t : ℕ}

lemma recurse_opened (h : (s.opened c e t 0).recurse uninit = some si) : ∃ b :
    BerTlvBuilder, b.pos = 0 ∧ b.len = 0 ∧ b.tag = 0xff ∧ b.pdu =
    s.builder.pdu + s.start + maxBerTlvHeader ∧ b.max + s.start + maxBerTlvHeader = s.builder.max ∧
    maxBerTlvHeader ≤ b.max ∧ (b.dataType = uninit.dataType ∧ b.encoding = uninit.encoding) ∧
    si = ⟨b, (s.opened c e t 0).builder :: (s.opened c e t 0).parents, s.settle.mem⟩ := by
  unfold recurse berTlvBuilderInit at h
  by_cases hsize : (s.opened c e t 0).builder.pdu + (s.opened c e t 0).builder.max -
      (s.opened c e t 0).getData < maxBerTlvHeader
  · rw [if_pos hsize] at h
    cases h
  · rw [if_neg hsize, map_some, Option.some.injEq] at h
    have hroom : ¬ s.builder.pdu + s.builder.max - (s.builder.pdu + s.start + maxBerTlvHeader) <
      maxBerTlvHeader := hsize
    refine ⟨⟨s.builder.pdu + s.builder.max - (s.builder.pdu + s.start + maxBerTlvHeader), 0,
      s.builder.pdu + s.start + maxBerTlvHeader, 0xff, uninit.dataType, uninit.encoding, 0⟩,
      rfl, rfl, rfl, rfl, ?_, Nat.le_of_not_lt hsize, ⟨rfl, rfl⟩, h.symm⟩
    show s.builder.pdu + s.builder.max - (s.builder.pdu + s.start + maxBerTlvHeader) + s.start + _ = _
    unfold maxBerTlvHeader at hroom ⊢
    omega

lemma ascend_eq {children : Forest} {sc sa : BerState} {k : ℕ} (hready : s.Ready) (hfit : s.start
    + (maxBerTlvHeader + children.size + k) ≤ s.builder.max) (ih : ∀ {s s' : BerState}, s.Ready →
    s.start + children.size ≤ s.builder.max → children.build uninit s = some s' → children ≠ .nil →
    Built uninit children s s') (hrec : (s.opened c e t 0).recurse uninit = some si) (hchildren :
    children.build uninit si = some sc) (hascend : sc.ascend = some sa) : sa = { s.opened c e t
    children.used with mem := Forest.inner uninit children s.settle.mem (s.builder.pdu + s.start +
    maxBerTlvHeader) } := by
  have hused := children.used_le_size
  have hopen := hready.opened (show s.start + (maxBerTlvHeader + 0) ≤ s.builder.max by omega) c e t
  rcases recurse_opened hrec with ⟨b, hpos, hlen, htag, hpdu, hmax, hsize, huninit, rfl⟩
  by_cases hnil : children = .nil
  · subst hnil
    cases hchildren
    cases hascend
    rw [Forest.inner, if_pos rfl]
    show BerState.mk _ _ (b.writeHeader s.settle.mem) = _
    unfold BerTlvBuilder.writeHeader
    rw [hpos, hlen, htag, hpdu, huninit.1, huninit.2]
    rfl
  · have hsi : Ready ⟨b, (s.opened c e t 0).builder :: (s.opened c e t 0).parents, s.settle.mem⟩ :=
      ⟨⟨hpdu, hmax, hopen.nested⟩, by simp only [hpos, hlen]; omega⟩
    have hstart : start ⟨b, (s.opened c e t 0).builder :: (s.opened c e t 0).parents, s.settle.mem⟩ = 0 := by
      unfold start
      rw [if_neg (by simpa using htag)]
      exact hpos
    have hmax' : b.max + s.start + maxBerTlvHeader = s.builder.max := hmax
    have hbuilt := ih hsi (by rw [hstart]; show 0 + children.size ≤ b.max; omega) hchildren hnil
    have hparents := hbuilt.parents
    have hclosed := hbuilt.closed
    rw [hstart, resizeParents_cons hsi.nested (show 0 + children.used ≤ b.max by omega)] at hparents
    unfold ascend at hascend
    rw [hparents] at hascend
    cases hascend
    have hparents' : resizeParents (s.start + maxBerTlvHeader + (0 + children.used))
        (resizeParents (s.start + (maxBerTlvHeader + 0)) s.parents) =
          resizeParents (s.start + (maxBerTlvHeader + children.used)) s.parents := by
      rw [resizeParents_resizeParents hready.nested (by omega) (by omega), Nat.zero_add, Nat.add_assoc]
    have hmem : sc.optimize.1 =
        children.image uninit s.settle.mem (s.builder.pdu + s.start + maxBerTlvHeader) := by
      refine hclosed.trans ?_
      rw [hstart, settle, if_neg (by simpa using htag)]
      show children.image uninit s.settle.mem (b.pdu + 0) = _
      rw [hpdu, Nat.add_zero]
    show BerState.mk ⟨s.builder.max, s.start, s.builder.pdu, t, c, e, 0 + children.used⟩
      (resizeParents (s.start + maxBerTlvHeader + (0 + children.used))
        (resizeParents (s.start + (maxBerTlvHeader + 0)) s.parents)) sc.optimize.1 = _
    rw [hparents', hmem, Nat.zero_add, Forest.inner, if_neg hnil]
    rfl

lemma build_built {f : Forest} {s' : BerState} (hready : s.Ready) (hfit : s.start + f.size ≤
    s.builder.max) (h : f.build uninit s = some s') (hf : f ≠ .nil) : Built uninit f s s' := by
  induction f generalizing s s' with
  | nil => exact absurd rfl hf
  | leaf c e t value rest ih =>
    rw [Forest.size] at hfit
    have hroom : s.start + (maxBerTlvHeader + value.length) ≤ s.builder.max := by omega
    have hopen := hready.opened hroom c e t
    rw [Forest.build, next_eq hready (by omega), bind_some,
      opened_setLength hready (by omega) hroom, bind_some] at h
    have hfits : s.start + (maxBerTlvHeader + value.length) + rest.size ≤ s.builder.max := by omega
    have hready' : ((s.opened c e t value.length).fill value).Ready := ⟨hopen.nested, hopen.fits⟩
    rcases build_rest ih hready' rfl (hready.nested.congr rfl rfl) hfits h
      with ⟨hend, hpdu, hmax, hstop, hparents, hclosed⟩
    exact ⟨hend, hpdu, hmax, hstop, hparents, hclosed⟩
  | node c e t children rest ihc ih =>
    rw [Forest.size] at hfit
    have hused := children.used_le_size
    have hroom : s.start + (maxBerTlvHeader + children.used) ≤ s.builder.max := by omega
    have hopen := hready.opened hroom c e t
    rw [Forest.build, next_eq hready (by omega), bind_some] at h
    simp only [bind_eq_some_iff] at h
    rcases h with ⟨sc, ⟨si, hrec, hchildren⟩, sa, hascend, hrest⟩
    have hsa : sa = { s.opened c e t children.used with
        mem := Forest.inner uninit children s.settle.mem (s.builder.pdu + s.start + maxBerTlvHeader) } :=
      ascend_eq hready hfit ihc hrec hchildren hascend
    have hfits : s.start + (maxBerTlvHeader + children.used) + rest.size ≤ s.builder.max := by omega
    have hready' : sa.Ready := by
      rw [hsa]
      exact ⟨hopen.nested, hopen.fits⟩
    subst hsa
    rcases build_rest ih hready' rfl (hready.nested.congr rfl rfl) hfits hrest
      with ⟨hend, hpdu, hmax, hstop, hparents, hclosed⟩
    exact ⟨hend, hpdu, hmax, hstop, hparents, hclosed⟩

lemma start_le : s.start ≤ s.builder.pos + (maxBerTlvHeader + s.builder.len) := by
  unfold start
  split_ifs <;> omega

lemma recurse_isSome (hroom : s.start + (maxBerTlvHeader + maxBerTlvHeader) ≤ s.builder.max) :
    ((s.opened c e t 0).recurse uninit).isSome := by
  have hsize : ¬ s.builder.pdu + s.builder.max - (s.builder.pdu + s.start + maxBerTlvHeader) <
      maxBerTlvHeader := by omega
  unfold recurse berTlvBuilderInit
  rw [if_neg (show ¬ (s.opened c e t 0).builder.pdu + (s.opened c e t 0).builder.max -
    (s.opened c e t 0).getData < maxBerTlvHeader from hsize)]
  rfl

lemma ascend_isSome {children : Forest} {sc : BerState}
    (hready : si.Ready) (hfit : si.start + children.size ≤ si.builder.max) (hparents : si.parents ≠ [])
    (h : children.build uninit si = some sc) : sc.ascend.isSome := by
  have hne : sc.parents ≠ [] := by
    by_cases hnil : children = .nil
    · subst hnil
      cases h
      exact hparents
    · rw [(build_built hready hfit h hnil).parents]
      cases hps : si.parents with
      | nil => exact absurd hps hparents
      | cons p ps =>
        rw [resizeParents]
        split_ifs <;> exact cons_ne_nil _ _
  unfold ascend
  cases hps : sc.parents with
  | nil => exact absurd hps hne
  | cons p ps => rfl

/-- Eight octets more than the slots and values take are enough for every nested builder. -/
lemma build_isSome {uninit : BerTlvBuilder} {f : Forest} {s : BerState} (hready : s.Ready)
    (hfit : s.start + (f.size + maxBerTlvHeader) ≤ s.builder.max) : (f.build uninit s).isSome := by
  induction f generalizing s with
  | nil => rfl
  | leaf c e t value rest ih =>
    rw [Forest.size] at hfit
    have hroom : s.start + (maxBerTlvHeader + value.length) ≤ s.builder.max := by omega
    have hopen := hready.opened hroom c e t
    have hstart : ((s.opened c e t value.length).fill value).start ≤
        s.start + (maxBerTlvHeader + value.length) := start_le
    rw [Forest.build, next_eq hready (by omega), bind_some,
      opened_setLength hready (by omega) hroom, bind_some]
    refine ih ⟨hopen.nested, hopen.fits⟩ ?_
    show _ ≤ s.builder.max
    omega
  | node c e t children rest ihc ih =>
    rw [Forest.size] at hfit
    have hused := children.used_le_size
    have hopen := hready.opened
      (show s.start + (maxBerTlvHeader + children.used) ≤ s.builder.max by omega) c e t
    have hopen' := hready.opened (show s.start + (maxBerTlvHeader + 0) ≤ s.builder.max by omega) c e t
    rcases isSome_iff_exists.mp (recurse_isSome (s := s) (c := c) (e := e)
      (t := t) (by omega)) with ⟨si, hsi⟩
    rcases recurse_opened hsi with ⟨b, hpos, hlen, htag, hpdu, hmax, hsize, -, hb⟩
    have hb' : si.builder = b := by rw [hb]
    have hready' : si.Ready := by
      rw [hb]
      exact ⟨⟨hpdu, hmax, hopen'.nested⟩, by simp only [hpos, hlen]; omega⟩
    have hstart : si.start = 0 := by
      unfold start
      rw [hb', if_neg (by simpa using htag), hpos]
    have hparents : si.parents ≠ [] := by
      rw [hb]
      exact cons_ne_nil _ _
    have hroom : si.start + (children.size + maxBerTlvHeader) ≤ si.builder.max := by
      rw [hstart, hb']
      omega
    rcases isSome_iff_exists.mp (ihc hready' hroom) with ⟨sc, hsc⟩
    rcases isSome_iff_exists.mp (ascend_isSome hready' (by omega) hparents hsc) with ⟨sa, hsa⟩
    have hsa' := ascend_eq hready (k := rest.size) (by omega) build_built hsi hsc hsa
    have hle : sa.start ≤ s.start + (maxBerTlvHeader + children.used) := by
      rw [hsa']
      exact start_le
    have hmax' : sa.builder.max = s.builder.max := by
      rw [hsa']
      rfl
    rw [Forest.build, next_eq hready (by omega), bind_some, hsi, bind_some, hsc,
      bind_some, hsa, bind_some]
    refine ih ?_ (by omega)
    rw [hsa']
    exact ⟨hopen.nested, hopen.fits⟩

end BerState

namespace Forest

/-! ## Reading what was built -/

/-- The octets of a forest whose headers are all whole. -/
def blocks : Forest → List UInt8
  | nil => []
  | leaf c e t value rest => headerOctets c e t value.length ++ (value ++ rest.blocks)
  | node c e t children rest =>
    headerOctets c e t children.used ++ (children.blocks ++ rest.blocks)

/-- Tags of at most three octets, none of which begins with a stuffing octet. -/
def WellTagged : Forest → Prop
  | nil => True
  | leaf c e t _ rest =>
    t ≤ 16383 ∧ isStuffing (firstTagOctet c e t) = false ∧ rest.WellTagged
  | node c e t children rest =>
    t ≤ 16383 ∧ isStuffing (firstTagOctet c e t) = false ∧ children.WellTagged ∧ rest.WellTagged

/-- No tag from 31 to 127, and none of 255 before a sibling. -/
def Intact : Forest → Prop
  | nil => True
  | leaf _ _ t _ rest => ¬ (31 ≤ t ∧ t ≤ 127) ∧ ¬ (t = 0xff ∧ rest ≠ nil) ∧ rest.Intact
  | node _ _ t children rest =>
    ¬ (31 ≤ t ∧ t ≤ 127) ∧ ¬ (t = 0xff ∧ rest ≠ nil) ∧ children.Intact ∧ rest.Intact

variable {uninit : BerTlvBuilder} {f : Forest} {m : Memory} {p i : ℕ}

lemma length_headerOctets_le (c : DataType) (e : EncodingType) (t len : ℕ) :
    (headerOctets c e t len).length ≤ maxBerTlvHeader := by
  rw [length_headerOctets]
  split_ifs <;> decide

lemma image_below (hi : i < p) : f.image uninit m p i = m i := by
  induction f generalizing m p with
  | nil => rfl
  | leaf c e t value rest ih =>
    unfold image
    dsimp only
    split_ifs
    · rw [ih hi, Memory.write_outside _ (by omega)]
    · rw [ih (by omega), Memory.write_outside _ (by omega), Memory.write_outside _ (by omega)]
  | node c e t children rest ihc ih =>
    have hchildren : inner uninit children m (p + maxBerTlvHeader) i = m i := by
      unfold inner
      split_ifs
      · exact Memory.write_outside _ (by omega)
      · exact ihc (by omega)
    rw [image_node]
    by_cases hlost : t = 0xff ∧ rest ≠ nil
    · rw [if_pos hlost, ih hi, hchildren]
    · rw [if_neg hlost, ih (by omega), Memory.write_outside _ (by omega), hchildren]

lemma at_element {c : DataType} {e : EncodingType} {t : ℕ} {value : List UInt8} {rest : Forest}
    (hvalue : m.At (p + maxBerTlvHeader) value) (ht : ¬ (31 ≤ t ∧ t ≤ 127)) :
    (rest.image uninit (m.write p (headerOctets c e t value.length))
      (p + (maxBerTlvHeader + value.length))).At p (headerOctets c e t value.length ++ value) := by
  have hlen : (headerOctets c e t value.length).length = maxBerTlvHeader := by
    rw [length_headerOctets, if_neg ht]
    rfl
  refine (Memory.at_append.mpr ⟨Memory.at_write _ _ _, ?_⟩).congr fun i _ hi => image_below ?_
  · rw [hlen]
    exact hvalue.write (by omega)
  · rw [length_append, hlen] at hi
    omega

lemma length_blocks (h : f.Intact) : f.blocks.length = f.used := by
  induction f with
  | nil => rfl
  | leaf c e t value rest ih =>
    rw [blocks, length_append, length_append, length_headerOctets, if_neg h.1, used,
      if_neg h.2.1, ih h.2.2]
    unfold maxBerTlvHeader
    omega
  | node c e t children rest ihc ih =>
    rw [blocks, length_append, length_append, length_headerOctets, if_neg h.1, used,
      if_neg h.2.1, ihc h.2.2.1, ih h.2.2.2]
    unfold maxBerTlvHeader
    omega

lemma image_at_blocks (h : f.Intact) : (f.image uninit m p).At p f.blocks := by
  induction f generalizing m p with
  | nil => rfl
  | leaf c e t value rest ih =>
    unfold image
    dsimp only
    rw [if_neg h.2.1, blocks, ← append_assoc]
    refine Memory.at_append.mpr ⟨at_element (Memory.at_write _ _ _) h.1, ?_⟩
    rw [length_append, length_headerOctets, if_neg h.1]
    exact ih h.2.2
  | node c e t children rest ihc ih =>
    have hchildren : (inner uninit children m (p + maxBerTlvHeader)).At (p + maxBerTlvHeader)
        children.blocks := by
      unfold inner
      split_ifs with hnil
      · subst hnil
        rfl
      · exact ihc h.2.2.1
    rw [image_node, if_neg h.2.1, blocks, ← append_assoc, ← length_blocks h.2.2.1]
    refine Memory.at_append.mpr ⟨at_element hchildren h.1, ?_⟩
    rw [length_append, length_headerOctets, if_neg h.1]
    exact ih h.2.2.2

lemma reads_blocks (hf : f.WellTagged) (h : f.Intact) (hsize : f.size < 2 ^ 32) :
    Reads f.blocks f := by
  induction f with
  | nil => rfl
  | leaf c e t value rest ih =>
    rcases hf with ⟨ht, hfirst, hrest⟩
    rw [size] at hsize
    exact ⟨rest.blocks, berTlvIterNext_header ht h.1 hfirst (by omega) _,
      ih hrest h.2.2 (by omega)⟩
  | node c e t children rest ihc ih =>
    rcases hf with ⟨ht, hfirst, hchildren, hrest⟩
    rw [size] at hsize
    have hlen := length_blocks h.2.2.1
    have hused := children.used_le_size
    refine ⟨children.blocks, rest.blocks, ?_, ihc hchildren h.2.2.1 (by omega),
      ih hrest h.2.2.2 (by omega)⟩
    rw [blocks, ← hlen]
    exact berTlvIterNext_header ht h.1 hfirst (by omega) _

/-! ## What is not read back -/

lemma headerOctets_fresh (c : DataType) (e : EncodingType) :
    headerOctets c e 0xff 0 = [0xff, 0xff, 0xff, 0xff, firstTagOctet c e 0xff, 0x81, 0x7f, 0] := rfl

lemma inner_below (hi : i < p) : inner uninit f m p i = m i := by
  unfold inner
  split_ifs
  · exact Memory.write_outside _ (by omega)
  · exact image_below hi

lemma inner_beyond (h : p + f.used + 7 ≤ i → m i = 0 → f.image uninit m p i = 0)
    (hi : p + f.used + 7 ≤ i) (hm : m i = 0) : inner uninit f m p i = 0 := by
  unfold inner
  split_ifs with hnil
  · subst hnil
    rw [used, Nat.add_zero] at hi
    rcases Nat.lt_or_ge (p + 7) i with hlt | hge
    · rwa [Memory.write_outside _ (Or.inr (by rw [headerOctets_fresh, List.length]; exact hlt))]
    · rw [show i = p + 7 by omega, headerOctets_fresh]
      exact Memory.write_inside _ (show 7 < _ by simp)
  · exact h hi hm

/-- Behind the end of an intact forest only the last octet of a header is written, the
length of a nested builder that was never used. -/
lemma image_beyond (h : f.Intact) (hi : p + f.used + 7 ≤ i) (hm : m i = 0) :
    f.image uninit m p i = 0 := by
  induction f generalizing m p with
  | nil => exact hm
  | leaf c e t value rest ih =>
    rw [used, if_neg h.2.1] at hi
    have hlen := length_headerOctets_le c e t value.length
    unfold image
    dsimp only
    rw [if_neg h.2.1]
    refine ih h.2.2 (by omega) ?_
    rw [Memory.write_outside _ (by omega), Memory.write_outside _ (by omega), hm]
  | node c e t children rest ihc ih =>
    rw [used, if_neg h.2.1] at hi
    have hlen := length_headerOctets_le c e t children.used
    rw [image_node, if_neg h.2.1]
    refine ih h.2.2.2 (by omega) ?_
    rw [Memory.write_outside _ (by omega)]
    exact inner_beyond (ihc h.2.2.1) (by omega) hm

lemma slice_middle {c : DataType} {e : EncodingType} {t len k n : ℕ} {rest : Forest} (ht : 31 ≤ t ∧
    t ≤ 127) (hzero : m (p + 7) = 0) (hk : maxBerTlvHeader ≤ k) (hn : maxBerTlvHeader ≤ n) :
    ∃ tail, (rest.image uninit (m.write p (headerOctets c e t len)) (p + n)).slice p k =
    headerOctets c e t len ++ 0 :: tail := by
  have hlen : (headerOctets c e t len).length = 7 := by
    rw [length_headerOctets, if_pos ht]
  unfold maxBerTlvHeader at hk hn
  refine ⟨(rest.image uninit (m.write p (headerOctets c e t len)) (p + n)).slice (p + 8) (k - 8), ?_⟩
  have hat : (rest.image uninit (m.write p (headerOctets c e t len)) (p + n)).At p
      (headerOctets c e t len) :=
    (Memory.at_write _ _ _).congr fun i _ hi => image_below (by omega)
  have hslice := hat.slice_eq
  rw [hlen] at hslice
  have hstale : (rest.image uninit (m.write p (headerOctets c e t len)) (p + n)) (p + 7) = 0 := by
    rw [image_below (by omega), Memory.write_outside _ (by omega), hzero]
  conv => lhs; rw [show k = 7 + (k - 8 + 1) by omega]
  rw [Memory.slice_add, hslice, Memory.slice_succ, hstale]

variable {c : DataType} {e : EncodingType} {t : ℕ} {value : List UInt8} {rest : Forest}

lemma slice_element (hvalue : m.At (p + maxBerTlvHeader) value) (ht : ¬ (31 ≤ t ∧ t ≤ 127))
    (k : ℕ) : (rest.image uninit (m.write p (headerOctets c e t value.length)) (p +
    (maxBerTlvHeader + value.length))).slice p (maxBerTlvHeader + value.length + k) = headerOctets c
    e t value.length ++ (value ++ (rest.image uninit (m.write p (headerOctets c e t value.length))
    (p + (maxBerTlvHeader + value.length))).slice (p + (maxBerTlvHeader + value.length)) k) := by
  have hlen : (headerOctets c e t value.length ++ value).length = maxBerTlvHeader + value.length := by
    rw [length_append, length_headerOctets, if_neg ht]
    rfl
  have hslice := (@at_element uninit m p c e t value rest hvalue ht).slice_eq
  rw [hlen] at hslice
  rw [Memory.slice_add, hslice, append_assoc]

variable {after : List UInt8}

lemma tag_of_kept (hvalue : m.At (p + maxBerTlvHeader) value) (hlen : value.length < 2 ^ 32)
    (hkept : ¬ (t = 0xff ∧ rest ≠ nil)) (ht : t ≤ 16383)
    (hfirst : isStuffing (firstTagOctet c e t) = false) (hzero : m (p + 7) = 0) {tlv : BerTlv}
    (h : berTlvIterNext ((rest.image uninit (m.write p (headerOctets c e t value.length))
    (p + (maxBerTlvHeader + value.length))).slice p (maxBerTlvHeader + value.length + rest.used)) =
    some (tlv, after)) (htag : tlv.tag = 255) : after = [] := by
  by_cases hmiddle : 31 ≤ t ∧ t ≤ 127
  · rcases @slice_middle uninit m p c e t value.length _ _ rest
      hmiddle hzero (show maxBerTlvHeader ≤ maxBerTlvHeader + value.length + rest.used by omega)
      (show maxBerTlvHeader ≤ maxBerTlvHeader + value.length by omega) with ⟨tail, htail⟩
    rw [htail] at h
    exact absurd htag (berTlvIterNext_middle hmiddle hfirst hlen h).1
  · rw [slice_element hvalue hmiddle, berTlvIterNext_header ht hmiddle hfirst hlen] at h
    simp only [Option.some.injEq, Prod.mk.injEq] at h
    rw [← h.1] at htag
    have hnil : rest = nil := by
      by_contra hne
      exact hkept ⟨htag, hne⟩
    rw [← h.2, hnil]
    rfl

/-- Where an element of tag 255 is overwritten, its sibling is read, or the last one. -/
lemma tag_of_overwritten (hf : f ≠ nil) (htags : f.WellTagged) (hsize : f.size < 2 ^ 32)
    (hzero : m (p + 7) = 0) {tlv : BerTlv} (h : berTlvIterNext ((f.image uninit m p).slice p f.used)
    = some (tlv, after)) (htag : tlv.tag = 255) : after = [] := by
  induction f generalizing m with
  | nil => exact absurd rfl hf
  | leaf c e t value rest ih =>
    rcases htags with ⟨ht, hfirst, hrest⟩
    rw [size] at hsize
    have hzero' : m.write (p + maxBerTlvHeader) value (p + 7) = 0 := by
      rwa [Memory.write_outside _ (by unfold maxBerTlvHeader; omega)]
    rw [image, used] at h
    by_cases hlost : t = 0xff ∧ rest ≠ nil
    · rw [if_pos hlost, if_pos hlost] at h
      exact ih hlost.2 hrest (by omega) hzero' h
    · rw [if_neg hlost, if_neg hlost] at h
      exact tag_of_kept (Memory.at_write _ _ _) (by omega) hlost ht hfirst hzero' h htag
  | node c e t children rest ihc ih =>
    rcases htags with ⟨ht, hfirst, -, hrest⟩
    rw [size] at hsize
    have hused := children.used_le_size
    rw [image_node, used] at h
    have hzero' : inner uninit children m (p + maxBerTlvHeader) (p + 7) = 0 := by
      rwa [inner_below (by unfold maxBerTlvHeader; omega)]
    by_cases hlost : t = 0xff ∧ rest ≠ nil
    · rw [if_pos hlost, if_pos hlost] at h
      exact ih hlost.2 hrest (by omega) hzero' h
    · rw [if_neg hlost, if_neg hlost] at h
      have hlen : ((inner uninit children m (p + maxBerTlvHeader)).slice (p + maxBerTlvHeader)
          children.used).length = children.used := Memory.length_slice _ _ _
      rw [← hlen] at h
      exact tag_of_kept (Memory.at_slice _ _ _) (by omega) hlost ht hfirst hzero' h htag

lemma reads_empty (h : Reads [] f) : f = nil := by
  cases f with
  | nil => rfl
  | leaf c e t value rest =>
    rcases h with ⟨_, hnext, -⟩
    cases hnext
  | node c e t children rest =>
    rcases h with ⟨_, _, hnext, -⟩
    cases hnext

lemma not_reads_element {v : List UInt8} (hvalue : m.At (p + maxBerTlvHeader) value) (hlen :
    value.length < 2 ^ 32) (ht : t ≤ 16383) (hfirst : isStuffing (firstTagOctet c e t) = false)
    (hzero : m (p + 7) = 0) (hrest : ¬ (31 ≤ t ∧ t ≤ 127) → v = value → ¬ Reads ((rest.image uninit
    (m.write p (headerOctets c e t value.length)) (p + (maxBerTlvHeader + value.length))).slice
    (p + (maxBerTlvHeader + value.length)) rest.used) rest) (hv : v = [] → value.length = 0)
    (h : berTlvIterNext ((rest.image uninit (m.write p (headerOctets c e t value.length))
    (p + (maxBerTlvHeader + value.length))).slice p (maxBerTlvHeader + value.length + rest.used)) =
    some (⟨c, e, t, v⟩, after)) : ¬ Reads after rest := by
  intro hafter
  by_cases hmiddle : 31 ≤ t ∧ t ≤ 127
  · rcases @slice_middle uninit m p c e t value.length _ _ rest
      hmiddle hzero (show maxBerTlvHeader ≤ maxBerTlvHeader + value.length + rest.used by omega)
      (show maxBerTlvHeader ≤ maxBerTlvHeader + value.length by omega) with ⟨tail, htail⟩
    rw [htail] at h
    rcases (berTlvIterNext_middle hmiddle hfirst hlen h).2 rfl with ⟨hempty, hne⟩
    exact hne (hv hempty)
  · rw [slice_element hvalue hmiddle, berTlvIterNext_header ht hmiddle hfirst hlen] at h
    simp only [Option.some.injEq, Prod.mk.injEq, BerTlv.mk.injEq] at h
    rw [← h.2] at hafter
    exact hrest hmiddle h.1.2.2.2.symm hafter

lemma not_reads (htags : f.WellTagged) (hsize : f.size < 2 ^ 32) (hbad : ¬ f.Intact)
    (hzero : ∀ i, p + 7 ≤ i → m i = 0) : ¬ Reads ((f.image uninit m p).slice p f.used) f := by
  induction f generalizing m p with
  | nil => exact absurd trivial hbad
  | leaf c e t value rest ih =>
    rcases htags with ⟨ht, hfirst, hrest⟩
    rw [size] at hsize
    have hzero' : m.write (p + maxBerTlvHeader) value (p + 7) = 0 := by
      rw [Memory.write_outside _ (by unfold maxBerTlvHeader; omega), hzero _ (by omega)]
    rintro ⟨after, hnext, hafter⟩
    rw [image, used] at hnext
    by_cases hlost : t = 0xff ∧ rest ≠ nil
    · rw [if_pos hlost, if_pos hlost] at hnext
      rw [tag_of_overwritten hlost.2 hrest (by omega) hzero' hnext hlost.1] at hafter
      exact hlost.2 (reads_empty hafter)
    · rw [if_neg hlost, if_neg hlost] at hnext
      refine not_reads_element (Memory.at_write _ _ _) (by omega) ht hfirst hzero' ?_
        (congrArg List.length) hnext hafter
      intro hmiddle _
      refine ih hrest (by omega) (fun h => hbad ⟨hmiddle, hlost, h⟩) fun i hi => ?_
      have hlen := length_headerOctets_le c e t value.length
      rw [Memory.write_outside _ (by omega), Memory.write_outside _ (by omega), hzero i (by omega)]
  | node c e t children rest ihc ih =>
    rcases htags with ⟨ht, hfirst, hchildren, hrest⟩
    rw [size] at hsize
    have hused := children.used_le_size
    have hzero' : inner uninit children m (p + maxBerTlvHeader) (p + 7) = 0 := by
      rw [inner_below (by unfold maxBerTlvHeader; omega), hzero _ (by omega)]
    have hlen : ((inner uninit children m (p + maxBerTlvHeader)).slice (p + maxBerTlvHeader)
        children.used).length = children.used := Memory.length_slice _ _ _
    rintro ⟨value, after, hnext, hvalue, hafter⟩
    rw [image_node, used] at hnext
    by_cases hlost : t = 0xff ∧ rest ≠ nil
    · rw [if_pos hlost, if_pos hlost] at hnext
      rw [tag_of_overwritten hlost.2 hrest (by omega) hzero' hnext hlost.1] at hafter
      exact hlost.2 (reads_empty hafter)
    · rw [if_neg hlost, if_neg hlost, ← hlen] at hnext
      refine not_reads_element (Memory.at_slice _ _ _) (by omega) ht hfirst hzero' ?_ ?_ hnext hafter
      · intro hmiddle hv hreads
        have hintact : children.Intact := by
          by_contra hbad'
          have hinner : inner uninit children m (p + maxBerTlvHeader) =
              children.image uninit m (p + maxBerTlvHeader) :=
            if_neg fun hnil => hbad' (by rw [hnil]; trivial)
          rw [hv, hinner] at hvalue
          exact ihc hchildren (by omega) hbad' (fun i hi => hzero i (by omega)) hvalue
        refine ih hrest (by omega) (fun h => hbad ⟨hmiddle, hlost, hintact, h⟩) (fun i hi => ?_) hreads
        have hle := length_headerOctets_le c e t children.used
        rw [hlen] at hi ⊢
        rw [Memory.write_outside _ (by omega)]
        exact inner_beyond (image_beyond hintact) (by omega) (hzero i (by omega))
      · rintro rfl
        rw [hlen, reads_empty hvalue]
        rfl

/-! ## Building a forest in a buffer -/

/-- The octets that `ber_tlv_builder_optimize` returns. -/
def output (s : BerState) : List UInt8 := s.optimize.1.slice s.optimize.2.1 s.optimize.2.2

/-- The forest built from `ber_tlv_builder_init` to `ber_tlv_builder_optimize`, nothing if a
call returns `FALSE`. -/
def buildOctets (uninit : BerTlvBuilder) (pdu size : ℕ) (mem : Memory) (f : Forest) :
    Option (List UInt8) :=
  (berTlvBuilderInit uninit pdu size).bind fun b => (f.build uninit ⟨b, [], mem⟩).map output

/-- The slots and values fit a buffer of the size, and every call succeeds. -/
def Fits (size : ℕ) (f : Forest) : Prop :=
  size < 2 ^ 32 ∧ f.size ≤ size ∧ ∀ uninit pdu mem, (f.buildOctets uninit pdu size mem).isSome

lemma fits_of_room {size : ℕ} (hsize : size < 2 ^ 32) (h : f.size + maxBerTlvHeader ≤ size) :
    f.Fits size := by
  refine ⟨hsize, by omega, fun uninit pdu mem => ?_⟩
  have hready : BerState.Ready ⟨⟨size, 0, pdu, 0xff, uninit.dataType, uninit.encoding, 0⟩, [], mem⟩ :=
    ⟨hsize, by simp only; omega⟩
  have hsome := @BerState.build_isSome uninit f _ hready
    (show 0 + (f.size + maxBerTlvHeader) ≤ size by omega)
  unfold buildOctets berTlvBuilderInit
  rw [if_neg (by omega), bind_some, isSome_map]
  exact hsome

/-- Whatever the builders and the buffer held before, the forest is read back. -/
def RoundTrips (size : ℕ) (f : Forest) : Prop :=
  ∀ uninit pdu mem os, f.buildOctets uninit pdu size mem = some os → Reads os f

lemma slice_skipStuffing (mem : Memory) (pdu len : ℕ) : mem.slice (BerState.skipStuffing mem pdu
    len).1 (BerState.skipStuffing mem pdu len).2 = (mem.slice pdu len).dropWhile (· = 0xff) := by
  induction len generalizing pdu with
  | zero => rfl
  | succ len ih =>
    rw [BerState.skipStuffing, Memory.slice_succ, dropWhile_cons]
    by_cases h : mem pdu = 0xff
    · rw [if_pos h, if_pos (by simpa using h), ih]
    · rw [if_neg h, if_neg (by simpa using h), Memory.slice_succ]

lemma berTlvIterNext_dropWhile (os : List UInt8) :
    berTlvIterNext (os.dropWhile (· = 0xff)) = berTlvIterNext os := by
  induction os with
  | nil => rfl
  | cons b os ih =>
    rw [dropWhile_cons]
    split_ifs with h
    · have hstuff : isStuffing b = true := by simpa [isStuffing] using Or.inr (by simpa using h)
      rw [ih, berTlvIterNext, berTlvIterNext, dropWhile_cons, if_pos hstuff]
    · rfl

lemma reads_dropWhile (os : List UInt8) : Reads (os.dropWhile (· = 0xff)) f ↔ Reads os f := by
  cases f <;> simp only [Reads, berTlvIterNext_dropWhile]

lemma buildOctets_eq {pdu size : ℕ} {mem : Memory} {os : List UInt8} (hsize : size < 2 ^ 32)
    (hfit : f.size ≤ size) (hf : f ≠ nil) (h : f.buildOctets uninit pdu size mem = some os) :
    os = ((f.image uninit mem pdu).slice pdu f.used).dropWhile (· = 0xff) := by
  unfold buildOctets berTlvBuilderInit at h
  by_cases hroom : size < maxBerTlvHeader
  · rw [if_pos hroom] at h
    cases h
  · rw [if_neg hroom, bind_some, map_eq_some_iff] at h
    rcases h with ⟨s', hbuild, rfl⟩
    have hready : BerState.Ready ⟨⟨size, 0, pdu, 0xff, uninit.dataType, uninit.encoding, 0⟩, [], mem⟩ :=
      ⟨hsize, by simpa using Nat.le_of_not_lt hroom⟩
    have hbuilt := BerState.build_built hready
      (show 0 + f.size ≤ size by omega) hbuild hf
    have hclosed : s'.builder.writeHeader s'.mem = f.image uninit mem pdu := hbuilt.closed
    have hstop : s'.builder.pos + (maxBerTlvHeader + s'.builder.len) = 0 + f.used := hbuilt.stop
    have hpdu : s'.builder.pdu = pdu := hbuilt.pdu
    unfold output BerState.optimize
    rw [slice_skipStuffing, hclosed, hpdu, Nat.add_assoc, hstop, Nat.zero_add]

lemma not_roundTrips_nil {size : ℕ} (hsome : (buildOctets ⟨0, 0, 0, 0, .universal, .primitive, 0⟩ 0
    size (fun _ => 0) nil).isSome) : ¬ nil.RoundTrips size := by
  intro h
  unfold buildOctets berTlvBuilderInit at hsome
  by_cases hroom : size < maxBerTlvHeader
  · rw [if_pos hroom] at hsome
    cases hsome
  · rcases isSome_iff_exists.mp hsome with ⟨os, hos⟩
    have hreads := h _ _ _ os (by rw [← hos]; rfl)
    rw [if_neg hroom, bind_some, build, map_some, Option.some.injEq] at hos
    have hheader := (Memory.at_write (fun _ => 0) 0
      (headerOctets .universal .primitive 0xff 0)).slice_eq
    rw [← hos, output, BerState.optimize, slice_skipStuffing, reads_dropWhile] at hreads
    change Reads (Memory.slice (Memory.write (fun _ => 0) 0
      (headerOctets .universal .primitive 0xff 0)) 0 8) nil at hreads
    change Memory.slice _ 0 8 = _ at hheader
    rw [hheader] at hreads
    cases hreads

/-- A forest of tags of at most three octets that fits a buffer is read back, whatever the
memory held, if and only if it is not empty, no tag is one of 31 to 127 and none before a
sibling is 255. -/
theorem round_trips_iff {size : ℕ} (htags : f.WellTagged) (hfit : f.Fits size) :
    f.RoundTrips size ↔ f ≠ nil ∧ f.Intact := by
  rcases hfit with ⟨hsize, hle, hsome⟩
  constructor
  · intro h
    have hne : f ≠ nil := by
      rintro rfl
      exact not_roundTrips_nil (hsome _ _ _) h
    refine ⟨hne, ?_⟩
    by_contra hbad
    rcases isSome_iff_exists.mp (hsome ⟨0, 0, 0, 0, .universal, .primitive, 0⟩ 0 fun _ => 0)
      with ⟨os, hos⟩
    have hreads := h _ _ _ os hos
    rw [buildOctets_eq hsize hle hne hos, reads_dropWhile] at hreads
    exact not_reads htags (by omega) hbad (fun _ _ => rfl) hreads
  · rintro ⟨hne, hintact⟩ uninit pdu mem os hos
    have hblocks := (@image_at_blocks uninit _ mem pdu hintact).slice_eq
    rw [length_blocks hintact] at hblocks
    rw [buildOctets_eq hsize hle hne hos, reads_dropWhile, hblocks]
    exact reads_blocks htags hintact (by omega)

theorem round_trips_iff_record : (leaf .application .primitive 3 [7]
    (node .priv .primitive 200 (leaf .universal .primitive 2 [] nil) nil)).RoundTrips 64 := by
  refine (round_trips_iff ?_ (fits_of_room (by decide) (by decide))).mpr ⟨?_, ?_⟩
  · exact ⟨by decide, by decide, by decide, by decide, ⟨by decide, by decide, trivial⟩, trivial⟩
  · simp
  · simp [Intact]

/-- The tag octet of 31 is never written. -/
theorem tag_31_not_read_back : WellTagged (leaf .contextSpecific .primitive 31 [1] nil) ∧
    Fits 32 (leaf .contextSpecific .primitive 31 [1] nil) ∧
    ¬ RoundTrips 32 (leaf .contextSpecific .primitive 31 [1] nil) := by
  refine ⟨⟨by decide, by decide, trivial⟩, fits_of_room (by decide) (by decide), fun h => ?_⟩
  rcases h ⟨0, 0, 0, 0, .universal, .primitive, 0⟩ 0 (fun _ => 0) [0x9f, 0x01, 0x00, 0x01] rfl
    with ⟨after, hnext, -⟩
  cases hnext

end Forest

end Phonelets.Sim
