import Mathlib
import Phonelets.Lib.Bitmap
import Phonelets.Lib.Decoder
import Phonelets.Lib.Machine

/-! # Maps of ids

A range of ids and a word bitmap of those that are taken. `find_next_zero_bit` looks at the first
and the last word through masks and at the words between them as a whole. The functions over it
are held against a set of ids, call by call and over whole runs.
-/

namespace Phonelets.Util

open Outcome
open Outcome (orFault)

/-! ## The search -/

/-- `__builtin_ctzl(~word)`. -/
def ffz (word : BitVec 64) : ℕ := ((List.range 64).find? fun k => !word.getLsbD k).getD 64

variable {n : ℕ}

/-- From `found_first:` on: the bits from `size` on do not count. -/
def foundFirst (result size : ℕ) (tmp : BitVec 64) : ℕ :=
  let tmp := tmp ||| (BitVec.allOnes 64 <<< size)
  if tmp = BitVec.allOnes 64 then result + size else result + ffz tmp

/-- The `while` loop over the words and the last one, which may be a part of a word. -/
def findWords (addr : Bitmap 64 n) (p result size : ℕ) : Outcome ℕ :=
  if 64 ≤ size then do
    let tmp ← orFault addr[p]?
    if tmp ≠ BitVec.allOnes 64 then .ok (result + ffz tmp)
    else findWords addr (p + 1) (result + 64) (size - 64)
  else if size = 0 then .ok result
  else do
    let tmp ← orFault addr[p]?
    .ok (foundFirst result size tmp)
termination_by size

def findNextZeroBit (addr : Bitmap 64 n) (size offset : ℕ) : Outcome ℕ :=
  let p := offset / 64
  -- `offset & ~(BITS_PER_LONG-1)`
  let result := offset / 64 * 64
  if offset ≥ size then .ok size
  else
    let size := size - result
    let offset := offset % 64
    if offset ≠ 0 then do
      let tmp ← orFault addr[p]?
      let tmp := tmp ||| (BitVec.allOnes 64 >>> (64 - offset))
      if size < 64 then .ok (foundFirst result size tmp)
      else if tmp ≠ BitVec.allOnes 64 then .ok (result + ffz tmp)
      else findWords addr (p + 1) (result + 64) (size - 64)
    else findWords addr p result size

/-! ## The map -/

/-- `struct idmap`, with as many words as `size` needs. -/
structure Idmap where
  size : UInt32
  min : UInt32
  max : UInt32
  bits : Bitmap 64 ((size.toNat + 63) / 64)

def idmapNewFromRange (min max : UInt32) : Idmap :=
  ⟨max - min + 1, min, max, Bitmap.empty⟩

def idmapPut (m : Idmap) (id : UInt32) : Outcome Idmap :=
  let id := id - m.min
  if id > m.size then .ok m
  else if id.toNat / 64 < (m.size.toNat + 63) / 64 then .ok { m with bits := m.bits.clear id.toNat }
  else .fault

/-- `bits[offset] |= 1UL << (bit % BITS_PER_LONG)`. -/
def Idmap.set (m : Idmap) (bit : ℕ) : Outcome Idmap :=
  if bit / 64 < (m.size.toNat + 63) / 64 then .ok { m with bits := m.bits.mark bit } else .fault

def idmapAlloc (m : Idmap) : Outcome (UInt32 × Idmap) := do
  let bit ← findNextZeroBit m.bits m.size.toNat 0
  if bit ≥ m.size.toNat then .ok (m.max + 1, m)
  else
    let m' ← m.set bit
    .ok (UInt32.ofNat bit + m.min, m')

def idmapTake (m : Idmap) (id : UInt32) : Outcome Idmap :=
  let bit := id - m.min
  if bit ≥ m.size then .ok m else m.set bit.toNat

def idmapAllocNext (m : Idmap) (last : UInt32) : Outcome (UInt32 × Idmap) :=
  if last < m.min ∨ last > m.max then .ok (m.max + 1, m)
  else do
    let bit ← findNextZeroBit m.bits m.size.toNat (last - m.min + 1).toNat
    if bit ≥ m.size.toNat then idmapAlloc m
    else
      let m' ← m.set bit
      .ok (UInt32.ofNat bit + m.min, m')

/-- The calls of a user of the map. -/
inductive IdmapCall
  | alloc
  | allocNext (last : UInt32)
  | take (id : UInt32)
  | put (id : UInt32)

/-- The ids that are taken. -/
def Idmap.ids (m : Idmap) : Set ℕ :=
  {i | ∃ k < m.size.toNat, m.bits.test k = true ∧ i = m.min.toNat + k}

/-- A call, with the value that it returns. -/
def idmapCall (m : Idmap) : IdmapCall → Outcome (Option ℕ × Idmap)
  | .alloc => idmapAlloc m >>= fun r => .ok (some r.1.toNat, r.2)
  | .allocNext last => idmapAllocNext m last >>= fun r => .ok (some r.1.toNat, r.2)
  | .take id => idmapTake m id >>= fun m' => .ok (none, m')
  | .put id => idmapPut m id >>= fun m' => .ok (none, m')

/-- What can be seen of a call: what it returns and the ids that are taken after it. -/
def idmapStep (m : Idmap) (call : IdmapCall) : Outcome (Option ℕ × Set ℕ) × Idmap :=
  match idmapCall m call with
  | .ok (value, m') => (.ok (value, m'.ids), m')
  | .reject => (.reject, m)
  | .fault => (.fault, m)

/-! ## Sets of ids -/

/-- The ids `min`, …, `max`. -/
structure IdRange where
  min : UInt32
  max : UInt32
  le : min ≤ max

/-- The ids that are in the range and not in the set. -/
def IdRange.free (r : IdRange) (s : Set ℕ) : Set ℕ := Set.Icc r.min.toNat r.max.toNat \ s

open Classical in
/-- The least of the candidates joins the set; `max + 1`, as an `unsigned int`, if there is none. -/
noncomputable def IdRange.grant (r : IdRange) (s candidates : Set ℕ) : Option ℕ × Set ℕ :=
  if candidates.Nonempty then (some (sInf candidates), insert (sInf candidates) s)
  else (some ((r.max.toNat + 1) % 2 ^ 32), s)

open Classical in
/-- A call on a set of ids. -/
noncomputable def IdRange.step (r : IdRange) (s : Set ℕ) : IdmapCall → Option ℕ × Set ℕ
  | .alloc => r.grant s (r.free s)
  | .allocNext last =>
    if last < r.min ∨ last > r.max then r.grant s ∅
    else if (r.free s ∩ Set.Ioi last.toNat).Nonempty then
      r.grant s (r.free s ∩ Set.Ioi last.toNat)
    else r.grant s (r.free s ∩ Set.Iic last.toNat)
  | .take id => (none, if id.toNat ∈ Set.Icc r.min.toNat r.max.toNat then insert id.toNat s else s)
  | .put id => (none, s \ {id.toNat})

/-- The same call, as it can be seen. -/
noncomputable def IdRange.seen (r : IdRange) (s : Set ℕ) (call : IdmapCall) :
    Outcome (Option ℕ × Set ℕ) × Set ℕ := (.ok (r.step s call), (r.step s call).2)

/-- The number of ids as an `unsigned int`. -/
def IdRange.size (r : IdRange) : UInt32 := r.max - r.min + 1

/-- The map is that of a range that has less than `2 ^ 32` ids, or it is not asked for any; and
what is put back is not one step above the range, or the bitmap has bits to spare. -/
def IdRange.CallOk (r : IdRange) : IdmapCall → Prop
  | .put id => id - r.min ≠ r.size ∨ r.size.toNat % 64 ≠ 0
  | _ => r.size ≠ 0

/-! ## What the search finds -/

variable {addr : Bitmap 64 n} {p off size offset lo mid hi r : ℕ} {tmp : BitVec 64}

lemma test_word (addr : Bitmap 64 n) (p : ℕ) {j : ℕ} (hj : j < 64) :
    addr.test (64 * p + j) = (addr.word p).getLsbD j := by
  have hdiv : (64 * p + j) / 64 = p := by omega
  have hmod : (64 * p + j) % 64 = j := by omega
  rw [Bitmap.test, hdiv, hmod, Bitmap.hasBit_eq _ hj]

lemma orFault_word (addr : Bitmap 64 n) (h : p < n) : orFault addr[p]? = .ok (addr.word p) := by
  rw [Bitmap.word, Vector.getElem?_eq_getElem h]
  rfl

lemma ffz_spec (h : tmp ≠ BitVec.allOnes 64) :
    ffz tmp < 64 ∧ tmp.getLsbD (ffz tmp) = false ∧ ∀ j < ffz tmp, tmp.getLsbD j = true := by
  have hsome : ((List.range 64).find? fun k => !tmp.getLsbD k).isSome = true := by
    rw [List.find?_isSome]
    by_contra hnone
    apply h
    apply BitVec.eq_of_getLsbD_eq
    intro k hk
    rw [BitVec.getLsbD_allOnes, decide_eq_true hk]
    by_contra hclear
    exact hnone ⟨k, List.mem_range.mpr hk, by simpa using hclear⟩
  obtain ⟨k, hk⟩ := Option.isSome_iff_exists.mp hsome
  have hffz : ffz tmp = k := by rw [ffz, hk, Option.getD_some]
  rw [List.find?_range_eq_some] at hk
  rw [hffz]
  refine ⟨List.mem_range.mp hk.2.1, by simpa using hk.1, fun j hj => by simpa using hk.2.2 j hj⟩

/-- The word at `p`, with the bits below `off` set. -/
def Masked (addr : Bitmap 64 n) (p off : ℕ) (tmp : BitVec 64) : Prop :=
  ∀ j < 64, tmp.getLsbD j = (decide (j < off) || addr.test (64 * p + j))

lemma masked_word (addr : Bitmap 64 n) (p : ℕ) : Masked addr p 0 (addr.word p) := by
  intro j hj
  rw [test_word addr p hj, decide_eq_false (Nat.not_lt_zero j), Bool.false_or]

lemma masked_first (addr : Bitmap 64 n) (p : ℕ) (hoff : off < 64) :
    Masked addr p off (addr.word p ||| (BitVec.allOnes 64 >>> (64 - off))) := by
  intro j hj
  rw [BitVec.getLsbD_or, BitVec.getLsbD_ushiftRight, BitVec.getLsbD_allOnes, test_word addr p hj,
    Bool.or_comm]
  congr 1
  exact decide_eq_decide.mpr (by omega)

lemma Masked.first (h : Masked addr p off tmp) (hne : tmp ≠ BitVec.allOnes 64)
    (hhi : 64 * p + 64 ≤ hi) : addr.FirstClear (64 * p + off) hi (64 * p + ffz tmp) := by
  obtain ⟨hlt, hclear, hbelow⟩ := ffz_spec hne
  have hbit := h _ hlt
  rw [hclear] at hbit
  have hoff : ¬ ffz tmp < off := by
    intro hlt'
    rw [decide_eq_true hlt', Bool.true_or] at hbit
    cases hbit
  rw [decide_eq_false hoff, Bool.false_or] at hbit
  refine ⟨by omega, by omega, fun j hlo hj => ?_, fun _ => hbit.symm⟩
  obtain ⟨k, rfl⟩ := Nat.exists_eq_add_of_le (by omega : 64 * p ≤ j)
  have hk := h k (by omega)
  rw [hbelow k (by omega), decide_eq_false (by omega), Bool.false_or] at hk
  exact hk.symm

lemma Masked.all (h : Masked addr p off tmp) (hones : tmp = BitVec.allOnes 64) {j : ℕ}
    (hlo : 64 * p + off ≤ j) (hj : j < 64 * p + 64) : addr.test j = true := by
  obtain ⟨k, rfl⟩ := Nat.exists_eq_add_of_le (by omega : 64 * p ≤ j)
  have hk := h k (by omega)
  rw [hones, BitVec.getLsbD_allOnes, decide_eq_true (by omega), decide_eq_false (by omega),
    Bool.false_or] at hk
  exact hk.symm

lemma Masked.found_first (h : Masked addr p off tmp) (hoff : off ≤ size) (hsize : size < 64) :
    addr.FirstClear (64 * p + off) (64 * p + size) (foundFirst (64 * p) size tmp) := by
  have hbit : ∀ j < 64, (tmp ||| (BitVec.allOnes 64 <<< size)).getLsbD j =
      (tmp.getLsbD j || decide (size ≤ j)) := by
    intro j hj
    rw [BitVec.getLsbD_or, BitVec.getLsbD_shiftLeft, BitVec.getLsbD_allOnes]
    congr 1
    rw [decide_eq_true hj, decide_eq_true (by omega : j - size < 64), Bool.true_and, Bool.and_true,
      ← decide_not]
    exact decide_eq_decide.mpr not_lt
  unfold foundFirst
  dsimp only
  by_cases hones : tmp ||| (BitVec.allOnes 64 <<< size) = BitVec.allOnes 64
  · rw [if_pos hones]
    refine ⟨by omega, le_rfl, fun j hlo hj => ?_, fun hlt => absurd hlt (lt_irrefl _)⟩
    obtain ⟨k, rfl⟩ := Nat.exists_eq_add_of_le (by omega : 64 * p ≤ j)
    have hk := hbit k (by omega)
    rw [hones, BitVec.getLsbD_allOnes, decide_eq_true (by omega), decide_eq_false (by omega),
      Bool.or_false, h k (by omega), decide_eq_false (by omega), Bool.false_or] at hk
    exact hk.symm
  · rw [if_neg hones]
    obtain ⟨hlt, hclear, hbelow⟩ := ffz_spec hones
    rw [hbit _ hlt, Bool.or_eq_false_iff, decide_eq_false_iff_not, h _ hlt,
      Bool.or_eq_false_iff, decide_eq_false_iff_not] at hclear
    refine ⟨by omega, by omega, fun j hlo hj => ?_, fun _ => hclear.1.2⟩
    obtain ⟨k, rfl⟩ := Nat.exists_eq_add_of_le (by omega : 64 * p ≤ j)
    have hk := hbelow k (by omega)
    rw [hbit k (by omega), decide_eq_false (by omega), Bool.or_false, h k (by omega),
      decide_eq_false (by omega), Bool.false_or] at hk
    exact hk

lemma firstClear_append (hbefore : ∀ j, lo ≤ j → j < mid → addr.test j = true)
    (hle : lo ≤ mid) (h : addr.FirstClear mid hi r) : addr.FirstClear lo hi r := by
  refine ⟨hle.trans h.lo_le, h.le_hi, fun j hlo hj => ?_, h.clear⟩
  by_cases hmid : j < mid
  · exact hbefore j hlo hmid
  · exact h.before j (not_lt.mp hmid) hj

lemma findWords_spec (addr : Bitmap 64 n) (p size : ℕ) (h : 64 * p + size ≤ 64 * n) : ∃ r,
    findWords addr p (64 * p) size = .ok r ∧ addr.FirstClear (64 * p) (64 * p + size) r := by
  induction size using Nat.strong_induction_on generalizing p with
  | _ size ih =>
    rw [findWords]
    have hmasked := masked_word addr p
    by_cases hwhole : 64 ≤ size
    · rw [if_pos hwhole, orFault_word addr (by omega), ok_bind]
      by_cases hones : addr.word p ≠ BitVec.allOnes 64
      · rw [if_pos hones]
        exact ⟨_, rfl, hmasked.first hones (by omega)⟩
      · rw [if_neg hones]
        obtain ⟨r, hr, hfirst⟩ := ih (size - 64) (by omega) (p + 1) (by omega)
        have hend : 64 * (p + 1) + (size - 64) = 64 * p + size := by omega
        rw [hend] at hfirst
        refine ⟨r, hr, firstClear_append (fun j hlo hj => ?_) (by omega) hfirst⟩
        exact hmasked.all (not_not.mp hones) hlo (by omega)
    · rw [if_neg hwhole]
      by_cases hzero : size = 0
      · rw [if_pos hzero]
        exact ⟨_, rfl, le_rfl, by omega, fun j hlo hj => absurd hj (by omega),
          fun hlt => absurd hlt (by omega)⟩
      · rw [if_neg hzero, orFault_word addr (by omega), ok_bind]
        exact ⟨_, rfl, hmasked.found_first (Nat.zero_le _) (by omega)⟩

lemma findNextZeroBit_spec (addr : Bitmap 64 n) (hsize : size ≤ 64 * n) (hoffset : offset ≤ size) :
    ∃ r, findNextZeroBit addr size offset = .ok r ∧ addr.FirstClear offset size r := by
  unfold findNextZeroBit
  dsimp only
  by_cases hend : offset ≥ size
  · rw [if_pos hend]
    exact ⟨_, rfl, hoffset, le_rfl, fun j hlo hj => absurd hj (by omega),
      fun hlt => absurd hlt (lt_irrefl _)⟩
  · rw [if_neg hend, Nat.mul_comm (offset / 64) 64]
    have hsplit : 64 * (offset / 64) + offset % 64 = offset := Nat.div_add_mod offset 64
    have htotal : 64 * (offset / 64) + (size - 64 * (offset / 64)) = size := by omega
    by_cases hpart : offset % 64 ≠ 0
    · rw [if_pos hpart, orFault_word addr (by omega), ok_bind]
      have hmasked := masked_first addr (offset / 64) (Nat.mod_lt offset (by omega : 64 > 0))
      by_cases hlast : size - 64 * (offset / 64) < 64
      · rw [if_pos hlast]
        have hfirst := hmasked.found_first (by omega) hlast
        rw [hsplit, htotal] at hfirst
        exact ⟨_, rfl, hfirst⟩
      · rw [if_neg hlast]
        by_cases hones : addr.word (offset / 64) ||| (BitVec.allOnes 64 >>> (64 - offset % 64)) ≠
            BitVec.allOnes 64
        · rw [if_pos hones]
          have hfirst := hmasked.first hones (show 64 * (offset / 64) + 64 ≤ size by omega)
          rw [hsplit] at hfirst
          exact ⟨_, rfl, hfirst⟩
        · rw [if_neg hones]
          obtain ⟨r, hr, hfirst⟩ := findWords_spec addr (offset / 64 + 1)
            (size - 64 * (offset / 64) - 64) (by omega)
          have hnext : 64 * (offset / 64 + 1) + (size - 64 * (offset / 64) - 64) = size := by omega
          rw [hnext] at hfirst
          refine ⟨r, hr, firstClear_append (fun j hlo hj => ?_) (by omega) hfirst⟩
          exact hmasked.all (not_not.mp hones) (by omega) (by omega)
    · rw [if_neg hpart]
      obtain ⟨r, hr, hfirst⟩ := findWords_spec addr (offset / 64) (size - 64 * (offset / 64))
        (by omega)
      rw [htotal] at hfirst
      have hwhole : 64 * (offset / 64) = offset := by omega
      refine ⟨r, hr, ?_⟩
      rwa [hwhole] at hfirst

lemma findNextZeroBit_zero (addr : Bitmap 64 n) (h : size = 0) (offset : ℕ) :
    findNextZeroBit addr size offset = .ok 0 := by
  subst h
  rw [findNextZeroBit, if_pos (Nat.zero_le offset)]

/-! ## The map follows the set -/

/-- The map is one of the range, and it holds the ids of the set. -/
structure Tracks (r : IdRange) (m : Idmap) (s : Set ℕ) : Prop where
  size : m.size = r.size
  min : m.min = r.min
  max : m.max = r.max
  ids : m.ids = s

variable {r : IdRange} {m : Idmap} {s : Set ℕ} {bit : ℕ} {id last : UInt32}

lemma IdRange.size_toNat (hne : r.size ≠ 0) : r.size.toNat = r.max.toNat - r.min.toNat + 1 := by
  have hle := UInt32.le_iff_toNat_le.mp r.le
  have hmax := r.max.toNat_lt
  have hsize : r.size.toNat = (r.max.toNat - r.min.toNat + 1) % 2 ^ 32 := by
    rw [size, UInt32.toNat_add, UInt32.toNat_sub_of_le _ _ r.le]
    rfl
  have hpos : r.size.toNat ≠ 0 := fun h => hne (UInt32.toNat_inj.mp h)
  omega

lemma Tracks.size_toNat (h : Tracks r m s) (hne : r.size ≠ 0) :
    m.size.toNat = r.max.toNat - r.min.toNat + 1 := by
  rw [h.size, IdRange.size_toNat hne]

lemma Tracks.mem_free (h : Tracks r m s) (hne : r.size ≠ 0) (i : ℕ) :
    i ∈ r.free s ↔ ∃ k < m.size.toNat, i = r.min.toNat + k ∧ m.bits.test k = false := by
  have hsize := h.size_toNat hne
  have hle := UInt32.le_iff_toNat_le.mp r.le
  rw [IdRange.free, Set.mem_sdiff, Set.mem_Icc, ← h.ids, Idmap.ids, Set.mem_ofPred_eq, h.min]
  constructor
  · rintro ⟨⟨hlo, hhi⟩, hnot⟩
    refine ⟨i - r.min.toNat, by omega, by omega, ?_⟩
    by_contra htest
    exact hnot ⟨i - r.min.toNat, by omega, by simpa using htest, by omega⟩
  · rintro ⟨k, hk, rfl, htest⟩
    refine ⟨⟨by omega, by omega⟩, ?_⟩
    rintro ⟨j, -, hj, heq⟩
    obtain rfl : j = k := by omega
    rw [htest] at hj
    cases hj

lemma ids_mark (m : Idmap) (h : bit < m.size.toNat) :
    Idmap.ids { m with bits := m.bits.mark bit } = insert (m.min.toNat + bit) m.ids := by
  have hbits : bit < (m.size.toNat + 63) / 64 * 64 := by omega
  ext i
  rw [Set.mem_insert_iff]
  constructor
  · rintro ⟨k, hk, htest, rfl⟩
    rw [Bitmap.test_mark _ hbits, Bool.or_eq_true, decide_eq_true_iff] at htest
    rcases htest with rfl | htest
    · exact .inl rfl
    · exact .inr ⟨k, hk, htest, rfl⟩
  · rintro (rfl | ⟨k, hk, htest, rfl⟩)
    · refine ⟨bit, h, ?_, rfl⟩
      rw [Bitmap.test_mark _ hbits, decide_eq_true rfl, Bool.true_or]
    · refine ⟨k, hk, ?_, rfl⟩
      rw [Bitmap.test_mark _ hbits, htest, Bool.or_true]

lemma ids_clear (m : Idmap) (h : bit < (m.size.toNat + 63) / 64 * 64) :
    Idmap.ids { m with bits := m.bits.clear bit } = m.ids \ {m.min.toNat + bit} := by
  ext i
  rw [Set.mem_sdiff, Set.mem_singleton_iff]
  constructor
  · rintro ⟨k, hk, htest, rfl⟩
    rw [Bitmap.test_clear _ h, Bool.and_eq_true, Bool.not_eq_true', decide_eq_false_iff_not] at htest
    exact ⟨⟨k, hk, htest.2, rfl⟩, fun heq => htest.1 (Nat.add_left_cancel heq)⟩
  · rintro ⟨⟨k, hk, htest, rfl⟩, hne⟩
    refine ⟨k, hk, ?_, rfl⟩
    rw [Bitmap.test_clear _ h, decide_eq_false fun heq => hne (congrArg _ heq), Bool.not_false,
      Bool.true_and, htest]

lemma Tracks.set (h : Tracks r m s) (hbit : bit < m.size.toNat) :
    ∃ m', m.set bit = .ok m' ∧ Tracks r m' (insert (r.min.toNat + bit) s) := by
  have hword : bit / 64 < (m.size.toNat + 63) / 64 := by omega
  refine ⟨_, if_pos hword, h.size, h.min, h.max, ?_⟩
  rw [ids_mark m hbit, h.min, h.ids]

variable {candidates : Set ℕ}

/-- The first free id from a place on is the least of those the caller may be given. -/
lemma Tracks.grant (h : Tracks r m s) (hne : r.size ≠ 0) {lo : ℕ}
    (hfirst : m.bits.FirstClear lo m.size.toNat bit) (hbit : bit < m.size.toNat)
    (hcand : ∀ i, i ∈ candidates ↔ i ∈ r.free s ∧ r.min.toNat + lo ≤ i) :
    ∃ m', m.set bit = .ok m' ∧ r.grant s candidates =
        (some (UInt32.ofNat bit + m.min).toNat, insert (r.min.toNat + bit) s) ∧
      Tracks r m' (insert (r.min.toNat + bit) s) := by
  obtain ⟨m', hset, htracks⟩ := h.set hbit
  have hsize := h.size_toNat hne
  have hle := UInt32.le_iff_toNat_le.mp r.le
  have hmax := r.max.toNat_lt
  have hleast : IsLeast candidates (r.min.toNat + bit) := by
    constructor
    · refine (hcand _).mpr ⟨(h.mem_free hne _).mpr ⟨bit, hbit, rfl, hfirst.clear hbit⟩, ?_⟩
      exact Nat.add_le_add_left hfirst.lo_le _
    · intro i hi
      obtain ⟨hfree, hlo⟩ := (hcand i).mp hi
      obtain ⟨k, hk, rfl, htest⟩ := (h.mem_free hne i).mp hfree
      by_contra hlt
      rw [hfirst.before k (by omega) (by omega)] at htest
      cases htest
  have hvalue : (UInt32.ofNat bit + m.min).toNat = r.min.toNat + bit := by
    rw [UInt32.toNat_add, UInt32.toNat_ofNat', h.min]
    omega
  refine ⟨m', hset, ?_, htracks⟩
  rw [IdRange.grant, if_pos ⟨_, hleast.1⟩, hleast.csInf_eq, hvalue]

lemma Tracks.no_candidate (h : Tracks r m s) (hne : r.size ≠ 0) {lo : ℕ}
    (hfirst : m.bits.FirstClear lo m.size.toNat bit) (hbit : ¬ bit < m.size.toNat)
    (hcand : ∀ i, i ∈ candidates ↔ i ∈ r.free s ∧ r.min.toNat + lo ≤ i) : candidates = ∅ := by
  ext i
  refine iff_of_false (fun hi => ?_) (Set.notMem_empty i)
  obtain ⟨hfree, hlo⟩ := (hcand i).mp hi
  obtain ⟨k, hk, rfl, htest⟩ := (h.mem_free hne i).mp hfree
  rw [hfirst.before k (by omega) (by omega)] at htest
  cases htest

lemma IdRange.grant_empty (r : IdRange) (s : Set ℕ) :
    r.grant s ∅ = (some ((r.max.toNat + 1) % 2 ^ 32), s) :=
  if_neg Set.not_nonempty_empty

lemma Tracks.full (h : Tracks r m s) : (m.max + 1).toNat = (r.max.toNat + 1) % 2 ^ 32 := by
  rw [UInt32.toNat_add, h.max]
  rfl

lemma Tracks.alloc (h : Tracks r m s) (hne : r.size ≠ 0) : ∃ value m', idmapAlloc m = .ok (value,
    m') ∧ (r.grant s (r.free s)).1 = some value.toNat ∧ Tracks r m' (r.grant s (r.free s)).2 := by
  obtain ⟨bit, hfind, hfirst⟩ := findNextZeroBit_spec m.bits
    (by omega : m.size.toNat ≤ 64 * ((m.size.toNat + 63) / 64)) (Nat.zero_le _)
  have hcand : ∀ i, i ∈ r.free s ↔ i ∈ r.free s ∧ r.min.toNat + 0 ≤ i :=
    fun i => ⟨fun hi => ⟨hi, hi.1.1⟩, And.left⟩
  unfold idmapAlloc
  rw [hfind, ok_bind]
  by_cases hbit : bit < m.size.toNat
  · obtain ⟨m', hset, hgrant, htracks⟩ := h.grant hne hfirst hbit hcand
    rw [if_neg (not_le.mpr hbit), hset, hgrant]
    exact ⟨_, m', rfl, rfl, htracks⟩
  · rw [if_pos (not_lt.mp hbit), h.no_candidate hne hfirst hbit hcand, IdRange.grant_empty]
    exact ⟨_, m, rfl, congrArg some h.full.symm, h⟩

lemma Tracks.allocNext (h : Tracks r m s) (hne : r.size ≠ 0) (last : UInt32) : ∃ value m',
    idmapAllocNext m last = .ok (value, m') ∧ (r.step s (.allocNext last)).1 = some value.toNat ∧
    Tracks r m' (r.step s (.allocNext last)).2 := by
  unfold idmapAllocNext IdRange.step
  dsimp only
  have hsame : (last < m.min ∨ last > m.max) ↔ (last < r.min ∨ last > r.max) := by
    rw [h.min, h.max]
  by_cases hout : last < r.min ∨ last > r.max
  · rw [if_pos (hsame.mpr hout), if_pos hout, IdRange.grant_empty]
    exact ⟨_, m, rfl, congrArg some h.full.symm, h⟩
  · rw [if_neg fun hm => hout (hsame.mp hm), if_neg hout]
    rw [not_or, UInt32.not_lt, gt_iff_lt, UInt32.not_lt] at hout
    have hlo := UInt32.le_iff_toNat_le.mp hout.1
    have hhi := UInt32.le_iff_toNat_le.mp hout.2
    have hmax := r.max.toNat_lt
    have hsize := h.size_toNat hne
    have hsizeLt := m.size.toNat_lt
    have hoffset : (last - m.min + 1).toNat = last.toNat - r.min.toNat + 1 := by
      rw [h.min, UInt32.toNat_add, UInt32.toNat_sub_of_le _ _ hout.1]
      exact Nat.mod_eq_of_lt (by change _ + 1 < _; omega)
    obtain ⟨bit, hfind, hfirst⟩ := findNextZeroBit_spec m.bits
      (by omega : m.size.toNat ≤ 64 * ((m.size.toNat + 63) / 64))
      (by omega : (last - m.min + 1).toNat ≤ m.size.toNat)
    have hcand : ∀ i, i ∈ r.free s ∩ Set.Ioi last.toNat ↔
        i ∈ r.free s ∧ r.min.toNat + (last - m.min + 1).toNat ≤ i := by
      intro i
      rw [Set.mem_inter_iff, Set.mem_Ioi]
      exact and_congr_right fun _ => by omega
    rw [hfind, ok_bind]
    by_cases hbit : bit < m.size.toNat
    · have hmem := (hcand _).mpr ⟨(h.mem_free hne _).mpr ⟨bit, hbit, rfl, hfirst.clear hbit⟩,
        Nat.add_le_add_left hfirst.lo_le _⟩
      obtain ⟨m', hset, hgrant, htracks⟩ := h.grant hne hfirst hbit hcand
      rw [if_neg (not_le.mpr hbit), if_pos ⟨_, hmem⟩, hset, hgrant]
      exact ⟨_, m', rfl, rfl, htracks⟩
    · -- nothing is free behind `last`, so the search goes over the ids up to it
      have hnone := h.no_candidate hne hfirst hbit hcand
      have hrest : r.free s ∩ Set.Iic last.toNat = r.free s := by
        apply Set.inter_eq_left.mpr
        intro i hi
        by_contra hgt
        have hmem : i ∈ r.free s ∩ Set.Ioi last.toNat := by
          rw [Set.mem_Iic, not_le] at hgt
          exact ⟨hi, hgt⟩
        rw [hnone] at hmem
        exact hmem
      rw [if_pos (not_lt.mp hbit), hnone, if_neg Set.not_nonempty_empty, hrest]
      exact h.alloc hne

lemma Tracks.not_mem (h : Tracks r m s) (hne : r.size ≠ 0) {i : ℕ}
    (hi : ¬ (r.min.toNat ≤ i ∧ i ≤ r.max.toNat)) : i ∉ s := by
  have hsize := h.size_toNat hne
  have hle := UInt32.le_iff_toNat_le.mp r.le
  rw [← h.ids]
  rintro ⟨k, hk, -, rfl⟩
  rw [h.min] at hi
  omega

lemma Tracks.eq_empty (h : Tracks r m s) (hall : r.size = 0) : s = ∅ := by
  rw [← h.ids]
  ext i
  refine iff_of_false ?_ (Set.notMem_empty i)
  rintro ⟨k, hk, -⟩
  rw [h.size, hall] at hk
  exact absurd hk (Nat.not_lt_zero k)

lemma Tracks.sub (h : Tracks r m s) (id : UInt32) :
    (id - m.min).toNat = (2 ^ 32 - r.min.toNat + id.toNat) % 2 ^ 32 := by
  rw [h.min]
  exact UInt32.toNat_sub id r.min

lemma Tracks.take (h : Tracks r m s) (hne : r.size ≠ 0) (id : UInt32) :
    ∃ m', idmapTake m id = .ok m' ∧ Tracks r m' (r.step s (.take id)).2 := by
  have hle := UInt32.le_iff_toNat_le.mp r.le
  have hmax := r.max.toNat_lt
  have hid := id.toNat_lt
  have hsize := h.size_toNat hne
  have hsub := h.sub id
  unfold idmapTake IdRange.step
  dsimp only
  by_cases hin : id.toNat ∈ Set.Icc r.min.toNat r.max.toNat
  · obtain ⟨hlo, hhi⟩ := hin
    have hbit : (id - m.min).toNat < m.size.toNat := by omega
    have hlt : ¬ id - m.min ≥ m.size := fun hge => by
      have := UInt32.le_iff_toNat_le.mp hge
      omega
    obtain ⟨m', hset, htracks⟩ := h.set hbit
    have hvalue : r.min.toNat + (id - m.min).toNat = id.toNat := by omega
    rw [hvalue] at htracks
    rw [if_neg hlt, if_pos ⟨hlo, hhi⟩]
    exact ⟨m', hset, htracks⟩
  · have hge : id - m.min ≥ m.size := by
      rw [Set.mem_Icc] at hin
      apply UInt32.le_iff_toNat_le.mpr
      omega
    rw [if_pos hge, if_neg hin]
    exact ⟨m, rfl, h⟩

lemma Tracks.put (h : Tracks r m s) (id : UInt32) (hok : r.CallOk (.put id)) :
    ∃ m', idmapPut m id = .ok m' ∧ Tracks r m' (s \ {id.toNat}) := by
  have hle := UInt32.le_iff_toNat_le.mp r.le
  have hmax := r.max.toNat_lt
  have hid := id.toNat_lt
  have hsub := h.sub id
  unfold idmapPut
  dsimp only
  by_cases hgt : id - m.min > m.size
  · rw [if_pos hgt]
    refine ⟨m, rfl, h.size, h.min, h.max, ?_⟩
    have hlt := UInt32.lt_iff_toNat_lt.mp hgt
    by_cases hne : r.size = 0
    · rw [h.ids, h.eq_empty hne, Set.empty_sdiff]
    · have hsize := h.size_toNat hne
      rw [h.ids, Set.sdiff_singleton_eq_self (h.not_mem hne (by omega))]
  · have hle' := UInt32.le_iff_toNat_le.mp (UInt32.not_lt.mp hgt)
    have hedge : (id - m.min).toNat ≠ m.size.toNat ∨ m.size.toNat % 64 ≠ 0 := by
      rw [h.min, h.size]
      exact hok.imp_left fun hne heq => hne (UInt32.toNat_inj.mp heq)
    have hword : (id - m.min).toNat / 64 < (m.size.toNat + 63) / 64 := by omega
    have hbit : (id - m.min).toNat < (m.size.toNat + 63) / 64 * 64 := by omega
    rw [if_neg hgt, if_pos hword]
    refine ⟨_, rfl, h.size, h.min, h.max, ?_⟩
    rw [ids_clear m hbit, h.ids]
    by_cases hne : r.size = 0
    · rw [h.eq_empty hne, Set.empty_sdiff, Set.empty_sdiff]
    · have hsize := h.size_toNat hne
      have hmin : m.min.toNat = r.min.toNat := by rw [h.min]
      by_cases hin : r.min.toNat ≤ id.toNat
      · have hvalue : m.min.toNat + (id - m.min).toNat = id.toNat := by omega
        rw [hvalue]
      · rw [Set.sdiff_singleton_eq_self (h.not_mem hne (by omega)),
          Set.sdiff_singleton_eq_self (h.not_mem hne (by omega))]

/-! ## Whole runs -/

variable {call : IdmapCall}

lemma idmapStep_of_ok {value : Option ℕ} {m' : Idmap}
    (h : idmapCall m call = .ok (value, m')) : idmapStep m call = (.ok (value, m'.ids), m') := by
  rw [idmapStep, h]

lemma idmapStep_of_fault (h : idmapCall m call = .fault) : idmapStep m call = (.fault, m) := by
  rw [idmapStep, h]

lemma idmapStep_tracks (h : Tracks r m s) (hok : r.CallOk call) :
    (idmapStep m call).1 = (r.seen s call).1 ∧ Tracks r (idmapStep m call).2 (r.seen s call).2 := by
  have hgo : ∃ m', idmapCall m call = .ok ((r.step s call).1, m') ∧
      Tracks r m' (r.step s call).2 := by
    cases call with
    | alloc =>
      obtain ⟨value, m', hcall, hvalue, htracks⟩ := h.alloc hok
      refine ⟨m', ?_, htracks⟩
      rw [idmapCall, hcall, ok_bind, ← hvalue]
      rfl
    | allocNext last =>
      obtain ⟨value, m', hcall, hvalue, htracks⟩ := h.allocNext hok last
      refine ⟨m', ?_, htracks⟩
      rw [idmapCall, hcall, ok_bind, hvalue]
    | take id =>
      obtain ⟨m', hcall, htracks⟩ := h.take hok id
      refine ⟨m', ?_, htracks⟩
      rw [idmapCall, hcall]
      rfl
    | put id =>
      obtain ⟨m', hcall, htracks⟩ := h.put id hok
      refine ⟨m', ?_, htracks⟩
      rw [idmapCall, hcall]
      rfl
  obtain ⟨m', hcall, htracks⟩ := hgo
  rw [idmapStep_of_ok hcall, htracks.ids]
  exact ⟨rfl, htracks⟩

lemma tracks_new (r : IdRange) : Tracks r (idmapNewFromRange r.min r.max) ∅ := by
  refine ⟨rfl, rfl, rfl, ?_⟩
  ext i
  refine iff_of_false ?_ (Set.notMem_empty i)
  rintro ⟨k, -, htest, -⟩
  rw [idmapNewFromRange, Bitmap.test_empty] at htest
  cases htest

lemma IdRange.of_size_eq_zero (hall : r.size = 0) : r.min.toNat = 0 ∧ r.max.toNat = 2 ^ 32 - 1 := by
  have hle := UInt32.le_iff_toNat_le.mp r.le
  have hmax := r.max.toNat_lt
  have hsize : r.size.toNat = (r.max.toNat - r.min.toNat + 1) % 2 ^ 32 := by
    rw [size, UInt32.toNat_add, UInt32.toNat_sub_of_le _ _ r.le]
    rfl
  rw [hall] at hsize
  have hzero : (0 : UInt32).toNat = 0 := rfl
  omega

lemma IdRange.grant_ne_empty (r : IdRange) (s : Set ℕ)
    (h : candidates.Nonempty) : (r.grant s candidates).2 ≠ ∅ := by
  rw [grant, if_pos h]
  exact (Set.insert_nonempty _ _).ne_empty

lemma IdRange.step_ne_empty (hall : r.size = 0)
    (hcall : ∀ id, call ≠ .put id) : (r.step ∅ call).2 ≠ ∅ := by
  obtain ⟨hmin, hmax⟩ := r.of_size_eq_zero hall
  have hfree : ∀ id : UInt32, id.toNat ∈ r.free ∅ := fun id => by
    have := id.toNat_lt
    exact ⟨Set.mem_Icc.mpr ⟨by omega, by omega⟩, Set.notMem_empty _⟩
  unfold step
  cases call with
  | alloc => exact r.grant_ne_empty ∅ ⟨_, hfree 0⟩
  | allocNext last =>
    have hin : ¬ (last < r.min ∨ last > r.max) := by
      rw [UInt32.lt_iff_toNat_lt, gt_iff_lt, UInt32.lt_iff_toNat_lt]
      have := last.toNat_lt
      omega
    dsimp only
    rw [if_neg hin]
    split
    · next h => exact r.grant_ne_empty ∅ h
    · exact r.grant_ne_empty ∅ ⟨_, hfree last, Set.mem_Iic.mpr le_rfl⟩
  | take id =>
    dsimp only
    rw [if_pos (hfree id).1]
    exact (Set.insert_nonempty _ _).ne_empty
  | put id => exact absurd rfl (hcall id)

lemma idmapCall_all (hsize : m.size = 0) (hcall : ∀ id, call ≠ .put id) :
    ∃ value, idmapCall m call = .ok (value, m) := by
  have hzero : m.size.toNat = 0 := by
    rw [hsize]
    rfl
  have hend : (0 : ℕ) ≥ m.size.toNat := hzero.le
  have hfind := findNextZeroBit_zero m.bits hzero
  have halloc : idmapAlloc m = .ok (m.max + 1, m) := by
    rw [idmapAlloc, hfind, ok_bind, if_pos hend]
  cases call with
  | alloc =>
    rw [idmapCall, halloc]
    exact ⟨_, rfl⟩
  | allocNext last =>
    rw [idmapCall, idmapAllocNext]
    split
    · exact ⟨_, rfl⟩
    · rw [hfind, ok_bind, if_pos hend, halloc]
      exact ⟨_, rfl⟩
  | take id =>
    have hge : id - m.min ≥ m.size := by
      rw [hsize]
      exact UInt32.le_iff_toNat_le.mpr (Nat.zero_le _)
    rw [idmapCall, idmapTake, if_pos hge]
    exact ⟨_, rfl⟩
  | put id => exact absurd rfl (hcall id)

lemma idmapStep_differs (h : Tracks r m s) (hbad : ¬ r.CallOk call) :
    (idmapStep m call).1 ≠ (r.seen s call).1 := by
  by_cases hput : ∃ id, call = .put id
  · -- the bit one step above the range lies behind the last word
    obtain ⟨id, rfl⟩ := hput
    obtain ⟨hedge, hfull⟩ := not_or.mp hbad
    rw [not_not] at hedge hfull
    have hsub : id - m.min = m.size := by rw [h.min, h.size, hedge]
    have hsize : m.size.toNat % 64 = 0 := by rw [h.size, hfull]
    have hfault : idmapPut m id = .fault := by
      rw [idmapPut, hsub, if_neg (UInt32.not_lt.mpr (UInt32.le_refl _)), if_neg (by omega)]
    rw [idmapStep_of_fault (by rw [idmapCall, hfault]; rfl), IdRange.seen]
    intro heq
    cases heq
  · have hcall : ∀ id, call ≠ .put id := fun id heq => hput ⟨id, heq⟩
    have hall : r.size = 0 := by
      cases call with
      | put id => exact absurd rfl (hcall id)
      | alloc | allocNext | take => exact not_not.mp hbad
    have hempty := h.eq_empty hall
    subst hempty
    obtain ⟨value, hmap⟩ := idmapCall_all (h.size.trans hall) hcall
    rw [idmapStep_of_ok hmap, h.ids, IdRange.seen]
    intro heq
    have hpair : (value, (∅ : Set ℕ)) = r.step ∅ call := by
      injection heq
    exact r.step_ne_empty hall hcall (congrArg Prod.snd hpair).symm

lemma allSteps_callOk (r : IdRange) (m : Idmap) (calls : List IdmapCall) : Machine.AllSteps
    idmapStep (fun _ call => r.CallOk call) m calls ↔ ∀ call ∈ calls, r.CallOk call := by
  induction calls generalizing m with
  | nil => exact iff_of_true trivial (List.forall_mem_nil _)
  | cons call calls ih => rw [Machine.allSteps_cons, ih, List.forall_mem_cons]

/-- In every run the map is seen to behave as a set of ids, and stays inside its bitmap, exactly as
long as no id one step above a range that fills its words is put back and the range is not that of
all ids. -/
theorem idmap_run_iff (r : IdRange) (calls : List IdmapCall) :
    (Machine.run idmapStep (idmapNewFromRange r.min r.max) calls).1 =
        (Machine.run r.seen ∅ calls).1 ↔ ∀ call ∈ calls, r.CallOk call := by
  have hsim : ∀ m s call, Tracks r m s → r.CallOk call → (idmapStep m call).1 = (r.seen s call).1 ∧
      Tracks r (idmapStep m call).2 (r.seen s call).2 := fun m s call h hok => idmapStep_tracks h hok
  have hdiff : ∀ m s call, Tracks r m s → ¬ r.CallOk call →
      (idmapStep m call).1 ≠ (r.seen s call).1 := fun m s call h hbad => idmapStep_differs h hbad
  have hsteps := Machine.run_eq_iff hsim hdiff (tracks_new r) calls
  exact hsteps.trans (allSteps_callOk r _ calls)

/-- Id 65 is put back into a map of the ids 1, …, 64. -/
theorem idmap_put_outside : ¬ ∀ (r : IdRange) (calls : List IdmapCall), (Machine.run idmapStep
    (idmapNewFromRange r.min r.max) calls).1 = (Machine.run r.seen ∅ calls).1 := by
  intro hall
  have hrun := hall ⟨1, 64, by decide⟩ [.put 65]
  have hfault : idmapPut (idmapNewFromRange 1 64) 65 = .fault := by
    rw [idmapPut, if_neg (by decide), if_neg (by decide)]
  rw [Machine.run_cons, Machine.run_cons, idmapStep_of_fault (by rw [idmapCall, hfault]; rfl),
    IdRange.seen] at hrun
  have heq := (List.cons.inj hrun).1
  cases heq

end Phonelets.Util
