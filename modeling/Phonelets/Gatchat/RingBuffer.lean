import Phonelets.Lib.Ring

/-! # Ring buffers

`ringbuffer.c`: the counters `in` and `out` run on and wrap at 2 ^ 32, and their low bits are places
in the buffer, whose size is a power of two.
-/

namespace Phonelets.Gatchat

structure RingBuffer where
  buffer : List UInt8
  size : UInt32
  mask : UInt32
  «in» : UInt32
  out : UInt32

namespace RingBuffer

def maxSize : UInt32 := 262144

/-- `while (real_size < size && real_size < MAX_SIZE) real_size = real_size << 1;` -/
def realSize (size : UInt32) : ℕ → UInt32 → UInt32
  | 0, real => real
  | rounds + 1, real => if real < size ∧ real < maxSize then realSize size rounds (real <<< 1) else real

/-- `ring_buffer_new`, when there is memory; it never returns `NULL`. -/
def new (size : UInt32) : RingBuffer where
  buffer := List.replicate (realSize size 18 1).toNat 0
  size := realSize size 18 1
  mask := realSize size 18 1 - 1
  «in» := 0
  out := 0

/-- `ring_buffer_write_ptr` and `ring_buffer_read_ptr`, as places in the buffer. -/
def writePtr (buf : RingBuffer) (offset : UInt32) : ℕ := ((buf.«in» + offset) &&& buf.mask).toNat

def readPtr (buf : RingBuffer) (offset : UInt32) : ℕ := ((buf.out + offset) &&& buf.mask).toNat

/-- `ring_buffer_avail` -/
def avail (buf : RingBuffer) : UInt32 := buf.size - buf.«in» + buf.out

/-- `ring_buffer_avail_no_wrap` -/
def availNoWrap (buf : RingBuffer) : UInt32 := min buf.avail (buf.size - (buf.«in» &&& buf.mask))

/-- `ring_buffer_len` -/
def len (buf : RingBuffer) : UInt32 := buf.«in» - buf.out

/-- `ring_buffer_len_no_wrap` -/
def lenNoWrap (buf : RingBuffer) : UInt32 := min buf.len (buf.size - (buf.out &&& buf.mask))

/-- `ring_buffer_write_advance` -/
def writeAdvance (buf : RingBuffer) (len : UInt32) : RingBuffer :=
  { buf with «in» := buf.«in» + min len buf.avail }

/-- `ring_buffer_drain` -/
def drain (buf : RingBuffer) (len : UInt32) : RingBuffer :=
  let out := buf.out + min len buf.len
  if out = buf.«in» then { buf with «in» := 0, out := 0 } else { buf with out := out }

/-- `ring_buffer_reset` -/
def reset (buf : RingBuffer) : RingBuffer := { buf with «in» := 0, out := 0 }

/-! ## What is in a buffer -/

/-- The octets that have been written and not read. -/
def pending (buf : RingBuffer) : List UInt8 := Ring.window buf.buffer buf.out.toNat buf.len.toNat

/-- A buffer as it has been made, whatever has been written and read since. -/
structure Valid (buf : RingBuffer) : Prop where
  power : ∃ k ≤ 18, buf.buffer.length = 2 ^ k
  size : buf.size.toNat = buf.buffer.length
  mask : buf.mask = buf.size - 1
  fits : buf.len.toNat ≤ buf.buffer.length

variable {buf : RingBuffer} {memory : List UInt8} {n : UInt32}

lemma Valid.pos (h : buf.Valid) : 0 < buf.buffer.length := by
  obtain ⟨k, -, hk⟩ := h.power
  rw [hk]
  exact Nat.two_pow_pos k

lemma Valid.and_mask (h : buf.Valid) (n : UInt32) :
    (n &&& buf.mask).toNat = n.toNat % buf.buffer.length := by
  obtain ⟨k, hk, hlen⟩ := h.power
  have hone : (1 : UInt32) ≤ buf.size := by
    rw [UInt32.le_iff_toNat_le, h.size]
    exact h.pos
  rw [UInt32.toNat_and, h.mask, UInt32.toNat_sub_of_le _ _ hone, h.size, hlen]
  exact Nat.and_two_pow_sub_one_eq_mod _ k

lemma Valid.mod_mod (h : buf.Valid) (n : ℕ) :
    n % 2 ^ 32 % buf.buffer.length = n % buf.buffer.length := by
  obtain ⟨k, hk, hlen⟩ := h.power
  rw [hlen]
  exact Nat.mod_mod_of_dvd n (Nat.pow_dvd_pow 2 (by omega))

lemma in_eq (buf : RingBuffer) : buf.«in» = buf.out + buf.len := by
  rw [len, UInt32.add_comm, UInt32.sub_add_cancel]

lemma Valid.writePtr_eq (h : buf.Valid) (offset : UInt32) :
    buf.writePtr offset = (buf.out.toNat + buf.len.toNat + offset.toNat) % buf.buffer.length := by
  rw [writePtr, h.and_mask, in_eq, UInt32.toNat_add, UInt32.toNat_add, Nat.mod_add_mod, h.mod_mod]

lemma Valid.avail_eq (h : buf.Valid) : buf.avail.toNat = buf.buffer.length - buf.len.toNat := by
  have hle : buf.len ≤ buf.size := by
    rw [UInt32.le_iff_toNat_le, h.size]
    exact h.fits
  have heq : buf.avail = buf.size - buf.len := by
    rw [avail, len]
    grind
  rw [heq, UInt32.toNat_sub_of_le _ _ hle, h.size]

lemma toNat_min (a b : UInt32) : (min a b).toNat = min a.toNat b.toNat := by
  change (if a ≤ b then a else b).toNat = _
  split
  next h => exact (Nat.min_eq_left (UInt32.le_iff_toNat_le.mp h)).symm
  next h => exact (Nat.min_eq_right (Nat.le_of_not_le (mt UInt32.le_iff_toNat_le.mpr h))).symm

/-- An offset of a counter, and how much is behind it before the end of the array. -/
lemma Valid.offset (h : buf.Valid) (counter : UInt32) : (counter &&& buf.mask).toNat =
    counter.toNat % buf.buffer.length ∧ (buf.size - (counter &&& buf.mask)).toNat =
    buf.buffer.length - counter.toNat % buf.buffer.length := by
  have hoffset := h.and_mask counter
  have hle : counter &&& buf.mask ≤ buf.size := by
    rw [UInt32.le_iff_toNat_le, hoffset, h.size]
    exact (Nat.mod_lt _ h.pos).le
  refine ⟨hoffset, ?_⟩
  rw [UInt32.toNat_sub_of_le _ _ hle, h.size, hoffset]

lemma Valid.in_mod (h : buf.Valid) :
    buf.«in».toNat % buf.buffer.length = (buf.out.toNat + buf.len.toNat) % buf.buffer.length := by
  rw [in_eq, UInt32.toNat_add, h.mod_mod]

lemma Valid.availNoWrap_eq (h : buf.Valid) : buf.availNoWrap.toNat = min (buf.buffer.length -
    buf.len.toNat) (buf.buffer.length - (buf.out.toNat + buf.len.toNat) % buf.buffer.length) := by
  rw [availNoWrap, toNat_min, h.avail_eq, (h.offset _).2, h.in_mod]

lemma Valid.length_lt (h : buf.Valid) : buf.buffer.length < 2 ^ 32 := by
  obtain ⟨k, hk, hlen⟩ := h.power
  rw [hlen]
  exact Nat.pow_lt_pow_right (by omega) (by omega)

/-! ## What comes and goes -/

lemma length_pending (buf : RingBuffer) : buf.pending.length = buf.len.toNat :=
  Ring.length_window _ _ _

lemma pending_eq_nil (h : buf.«in» = buf.out) : buf.pending = [] := by
  rw [pending, len, h, UInt32.sub_self]
  rfl

lemma fits_of_empty (h : buf.«in» = buf.out) : buf.len.toNat ≤ buf.buffer.length := by
  rw [len, h, UInt32.sub_self]
  exact Nat.zero_le _

lemma Valid.advance (h : buf.Valid) (hn : n.toNat ≤ buf.avail.toNat)
    (hlen : memory.length = buf.buffer.length) :
    let buf' : RingBuffer := { buf with buffer := memory, «in» := buf.«in» + n }
    buf'.Valid ∧ buf'.len.toNat = buf.len.toNat + n.toNat := by
  intro buf'
  have havail := h.avail_eq
  have hfits := h.fits
  have hlt := h.length_lt
  have hadd : buf'.len = buf.len + n := by
    show buf.«in» + n - buf.out = buf.«in» - buf.out + n
    grind
  have hcount : buf'.len.toNat = buf.len.toNat + n.toNat := by
    rw [hadd, UInt32.toNat_add, Nat.mod_eq_of_lt (by omega)]
  refine ⟨⟨?_, ?_, h.mask, ?_⟩, hcount⟩
  · show ∃ k ≤ 18, memory.length = 2 ^ k
    rw [hlen]
    exact h.power
  · show buf.size.toNat = memory.length
    rw [hlen]
    exact h.size
  · rw [hcount]
    show _ ≤ memory.length
    omega

lemma buffer_drain (buf : RingBuffer) (n : UInt32) : (buf.drain n).buffer = buf.buffer := by
  unfold RingBuffer.drain
  dsimp only
  split <;> rfl

lemma Valid.drain (h : buf.Valid) (n : UInt32) :
    (buf.drain n).Valid ∧ (buf.drain n).pending = buf.pending.drop n.toNat := by
  have hfits := h.fits
  have hm : (min n buf.len).toNat = min n.toNat buf.len.toNat := toNat_min _ _
  have hdrain : buf.drain n = if buf.out + min n buf.len = buf.«in» then buf.reset
      else { buf with out := buf.out + min n buf.len } := rfl
  have hdrop : buf.pending.drop n.toNat = buf.pending.drop (min n buf.len).toNat := by
    rw [hm]
    rcases Nat.le_total n.toNat buf.len.toNat with hle | hle
    · rw [Nat.min_eq_left hle]
    · rw [Nat.min_eq_right hle, List.drop_of_length_le (by rw [length_pending]; exact hle),
        List.drop_of_length_le (length_pending buf).le]
  generalize min n buf.len = m at hm hdrain hdrop
  obtain ⟨k, hk⟩ : ∃ k, buf.len.toNat = m.toNat + k := ⟨buf.len.toNat - m.toNat, by omega⟩
  have hleft : (buf.«in» - (buf.out + m)).toNat = k := by
    have hsub : buf.«in» - (buf.out + m) = buf.len - m := by
      rw [len]
      grind
    rw [hsub, UInt32.toNat_sub_of_le _ _ (UInt32.le_iff_toNat_le.mpr (by omega)), hk,
      Nat.add_sub_cancel_left]
  have hbehind : buf.pending.drop m.toNat = Ring.window buf.buffer (buf.out.toNat + m.toNat) k := by
    rw [pending, hk, Ring.window_add, List.drop_left' (Ring.length_window _ _ _)]
  rw [hdrain, hdrop, hbehind]
  split
  next hempty =>
    have hzero : k = 0 := by
      rw [← hleft, hempty, UInt32.sub_self]
      rfl
    subst hzero
    exact ⟨⟨h.power, h.size, h.mask, fits_of_empty rfl⟩, pending_eq_nil rfl⟩
  next hmore =>
    refine ⟨⟨h.power, h.size, h.mask, ?_⟩, ?_⟩
    · show (buf.«in» - (buf.out + m)).toNat ≤ buf.buffer.length
      omega
    · -- the counter may have wrapped, the cells are the same
      show Ring.window buf.buffer (buf.out + m).toNat (buf.«in» - (buf.out + m)).toNat = _
      rw [hleft]
      refine Ring.window_congr ?_ _
      rw [UInt32.toNat_add, h.mod_mod]

end RingBuffer

end Phonelets.Gatchat
