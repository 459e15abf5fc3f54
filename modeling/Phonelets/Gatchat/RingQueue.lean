import Phonelets.Gatchat.RingBuffer

/-! # A ring buffer is a queue

The copying operations of `ringbuffer.c`, and those of its users, who store and load through
`ring_buffer_write_ptr` and `ring_buffer_read_ptr` and then advance or drain. A result `none` is an
access outside of the array.
-/

namespace Phonelets.Gatchat

open List Option

namespace RingBuffer

/-! ## The operations -/

/-- `ring_buffer_write`, with how much has been written. -/
def write (buf : RingBuffer) (data : List UInt8) : Option (UInt32 × RingBuffer) := do
  let len := min (UInt32.ofNat data.length) buf.avail
  let offset := buf.«in» &&& buf.mask
  let «end» := min len (buf.size - offset)
  let memory ← Ring.copy buf.buffer offset.toNat (data.take «end».toNat)
  let memory ← Ring.copy memory 0 ((data.drop «end».toNat).take (len - «end»).toNat)
  some (len, { buf with buffer := memory, «in» := buf.«in» + len })

/-- `ring_buffer_read` -/
def read (buf : RingBuffer) (len : UInt32) : Option (List UInt8 × RingBuffer) := do
  let len := min len buf.len
  let offset := buf.out &&& buf.mask
  let «end» := min len (buf.size - offset)
  let first ← Ring.fetch buf.buffer offset.toNat «end».toNat
  let second ← Ring.fetch buf.buffer 0 (len - «end»).toNat
  some (first ++ second, buf.drain len)

/-- A user stores the octets through `ring_buffer_write_ptr`, from an offset on. -/
def storeThrough (buf : RingBuffer) (offset : ℕ) : List UInt8 → Option RingBuffer
  | [] => some buf
  | a :: l =>
    let place := buf.writePtr (UInt32.ofNat offset)
    if place < buf.buffer.length then
      storeThrough { buf with buffer := buf.buffer.set place a } (offset + 1) l
    else none

/-- A user loads so many octets through `ring_buffer_read_ptr`, from an offset on. -/
def loadThrough (buf : RingBuffer) (offset : ℕ) : ℕ → Option (List UInt8)
  | 0 => some []
  | k + 1 =>
    buf.buffer[buf.readPtr (UInt32.ofNat offset)]?.bind fun a =>
      (buf.loadThrough (offset + 1) k).map (a :: ·)

end RingBuffer

/-- What is done with a ring buffer. Data are as long as an `unsigned int` says. -/
inductive RingOp
  | write (data : List UInt8) (fits : data.length < 2 ^ 32)
  /-- Store what there is room for and advance by the length of the data. -/
  | fill (data : List UInt8) (fits : data.length < 2 ^ 32)
  | read (len : UInt32)
  /-- Load what there is of so many octets, and drain them. -/
  | take (len : UInt32)
  | reset

/-- An operation, with what comes out. -/
def RingBuffer.step (buf : RingBuffer) : RingOp → Option (List UInt8 × RingBuffer)
  | .write data _ => (buf.write data).map fun r => ([], r.2)
  | .fill data _ =>
    (buf.storeThrough 0 (data.take buf.avail.toNat)).map fun stored =>
      ([], stored.writeAdvance (UInt32.ofNat data.length))
  | .read len => buf.read len
  | .take len =>
    (buf.loadThrough 0 (min len buf.len).toNat).map fun octets => (octets, buf.drain len)
  | .reset => some ([], buf.reset)

def RingBuffer.run (buf : RingBuffer) : List RingOp → Option (List (List UInt8) × RingBuffer)
  | [] => some ([], buf)
  | op :: ops =>
    (buf.step op).bind fun r => (r.2.run ops).map fun rest => (r.1 :: rest.1, rest.2)

/-! ## The queue -/

/-- What a queue that holds so many octets does: it takes what there is room for. -/
def queueStep (capacity : ℕ) (queue : List UInt8) : RingOp → List UInt8 × List UInt8
  | .write data _ | .fill data _ => ([], queue ++ data.take (capacity - queue.length))
  | .read len | .take len => (queue.take len.toNat, queue.drop len.toNat)
  | .reset => ([], [])

def queueRun (capacity : ℕ) (queue : List UInt8) : List RingOp → List (List UInt8) × List UInt8
  | [] => ([], queue)
  | op :: ops =>
    ((queueStep capacity queue op).1 ::
        (queueRun capacity (queueStep capacity queue op).2 ops).1,
      (queueRun capacity (queueStep capacity queue op).2 ops).2)

namespace RingBuffer

variable {buf : RingBuffer} {n : UInt32}

lemma Valid.pending_store (h : buf.Valid) {data : List UInt8} (hn : n.toNat = data.length)
    (hroom : n.toNat ≤ buf.avail.toNat) :
    let buf' : RingBuffer := { buf with
      buffer := Ring.store buf.buffer (buf.out.toNat + buf.len.toNat) data, «in» := buf.«in» + n }
    buf'.Valid ∧ buf'.pending = buf.pending ++ data := by
  intro buf'
  have havail := h.avail_eq
  have hfits := h.fits
  have hadvanced := h.advance hroom (Ring.length_store buf.buffer (buf.out.toNat + buf.len.toNat) data)
  refine ⟨hadvanced.1, ?_⟩
  rw [pending, hadvanced.2, hn]
  exact Ring.window_store (by omega)

/-- Two copies, the second one from the start of the array, are as good as going round. -/
lemma Valid.write (h : buf.Valid) {data : List UInt8} (hdata : data.length < 2 ^ 32) :
    ∃ len buf', buf.write data = some (len, buf') ∧ buf'.Valid ∧ buf'.size = buf.size ∧
      buf'.pending = buf.pending ++ data.take (buf.buffer.length - buf.pending.length) := by
  obtain ⟨hoffset, hwrap⟩ := h.offset buf.«in»
  have havail := h.avail_eq
  have hpos := h.pos
  have hlen : (min (UInt32.ofNat data.length) buf.avail).toNat = min data.length buf.avail.toNat := by
    rw [toNat_min, UInt32.toNat_ofNat_of_lt' hdata]
  generalize hcount : min (UInt32.ofNat data.length) buf.avail = len at hlen
  have hend := toNat_min len (buf.size - (buf.«in» &&& buf.mask))
  generalize hstop : min len (buf.size - (buf.«in» &&& buf.mask)) = stop at hend
  have hrest : (len - stop).toNat = len.toNat - stop.toNat :=
    UInt32.toNat_sub_of_le _ _ (UInt32.le_iff_toNat_le.mpr (by omega))
  have hmod := Nat.mod_lt buf.«in».toNat hpos
  have hfirst : Ring.copy buf.buffer (buf.«in» &&& buf.mask).toNat (data.take stop.toNat) =
      some (Ring.store buf.buffer (buf.out.toNat + buf.len.toNat) (data.take stop.toNat)) := by
    rw [hoffset, h.in_mod]
    refine Ring.copy_eq_store ?_
    rw [← h.in_mod, length_take]
    omega
  have hsecond : Ring.copy (Ring.store buf.buffer (buf.out.toNat + buf.len.toNat) (data.take stop.toNat)) 0
      ((data.drop stop.toNat).take (len - stop).toNat) =
      some (Ring.store buf.buffer (buf.out.toNat + buf.len.toNat) (data.take len.toNat)) := by
    have hsplit : data.take len.toNat =
        data.take stop.toNat ++ (data.drop stop.toNat).take (len - stop).toNat := by
      rw [hrest, ← take_add]
      congr 1
      omega
    rw [hsplit, Ring.store_append]
    by_cases hshort : len.toNat ≤ stop.toNat
    · -- nothing is left for the start of the array
      rw [hrest, Nat.sub_eq_zero_of_le hshort, take_zero]
      rfl
    · have hzero : (buf.out.toNat + buf.len.toNat + (data.take stop.toNat).length) %
          buf.buffer.length = 0 := by
        rw [← Nat.mod_add_mod, ← h.in_mod, length_take, Nat.min_eq_left (by omega), hend,
          Nat.min_eq_right (by omega), hwrap, Nat.add_sub_of_le hmod.le, Nat.mod_self]
      have hcopy := @Ring.copy_eq_store _
        (Ring.store buf.buffer (buf.out.toNat + buf.len.toNat) (data.take stop.toNat))
        ((data.drop stop.toNat).take (len - stop).toNat)
        (buf.out.toNat + buf.len.toNat + (data.take stop.toNat).length)
      rw [Ring.length_store, hzero] at hcopy
      refine hcopy ?_
      rw [length_take]
      have hfits := h.fits
      omega
  have hstored := @Valid.pending_store _ len h (data.take len.toNat) (by rw [length_take]; omega)
    (by omega)
  refine ⟨len, _, ?_, hstored.1, rfl, ?_⟩
  · unfold RingBuffer.write
    simp only [hcount, hstop, hfirst, hsecond, bind_eq_bind, bind_some]
  · rw [hstored.2, length_pending, ← havail, hlen, ← take_take]
    congr 1
    exact take_of_length_le (by rw [length_take]; omega)

/-- The octets that a user stores through the pointers go where the positions go. -/
lemma Valid.storeThrough (h : buf.Valid) (l : List UInt8) :
    ∀ {offset : ℕ}, buf.len.toNat + offset + l.length ≤ buf.buffer.length →
      buf.storeThrough offset l = some { buf with
        buffer := Ring.store buf.buffer (buf.out.toNat + buf.len.toNat + offset) l } := by
  have hlt := h.length_lt
  have hlarge := h.pos
  induction l generalizing buf with
  | nil =>
    intro offset _
    rw [RingBuffer.storeThrough, Ring.store]
  | cons a l ih =>
    intro offset hroom
    rw [length_cons] at hroom
    have hplace := h.writePtr_eq (UInt32.ofNat offset)
    rw [UInt32.toNat_ofNat_of_lt' (show offset < 2 ^ 32 by omega)] at hplace
    have hset : Valid { buf with buffer := buf.buffer.set (buf.writePtr (UInt32.ofNat offset)) a } := by
      refine ⟨?_, ?_, h.mask, ?_⟩ <;> rw [length_set]
      · exact h.power
      · exact h.size
      · exact h.fits
    have hrest := @ih _ hset (by rw [length_set]; exact hlt)
      (by rw [length_set]; exact hlarge) (offset + 1)
      (by rw [length_set]; show buf.len.toNat + _ + _ ≤ _; omega)
    rw [RingBuffer.storeThrough, if_pos (by rw [hplace]; exact Nat.mod_lt _ hlarge), hrest, Ring.store,
      hplace]
    rfl

lemma Valid.loadThrough (h : buf.Valid) (k : ℕ) : ∀ {offset : ℕ}, offset + k ≤ buf.buffer.length →
    buf.loadThrough offset k = some (Ring.window buf.buffer (buf.out.toNat + offset) k) := by
  have hlt := h.length_lt
  induction k with
  | zero => exact fun _ => rfl
  | succ k ih =>
    intro offset hroom
    have hplace : buf.readPtr (UInt32.ofNat offset) =
        (buf.out.toNat + offset) % buf.buffer.length := by
      rw [readPtr, h.and_mask, UInt32.toNat_add, h.mod_mod,
        UInt32.toNat_ofNat_of_lt' (show offset < 2 ^ 32 by omega)]
    have hcell : buf.buffer[buf.readPtr (UInt32.ofNat offset)]? =
        some (Ring.cell buf.buffer (buf.out.toNat + offset)) := by
      rw [hplace, Ring.cell, getD_eq_getElem?_getD,
        getElem?_eq_getElem (Nat.mod_lt _ h.pos), getD_some]
    rw [RingBuffer.loadThrough, hcell, bind_some, ih (by omega), Ring.window_cons]
    rfl

lemma drain_min (buf : RingBuffer) (n : UInt32) : buf.drain (min n buf.len) = buf.drain n := by
  have hmin : min (min n buf.len) buf.len = min n buf.len := by
    refine UInt32.toNat_inj.mp ?_
    rw [toNat_min, toNat_min, Nat.min_assoc, Nat.min_self]
  unfold RingBuffer.drain
  rw [hmin]

lemma drain_size (buf : RingBuffer) (n : UInt32) : (buf.drain n).size = buf.size := by
  unfold RingBuffer.drain
  dsimp only
  split <;> rfl

lemma take_pending (buf : RingBuffer) (len : UInt32) : buf.pending.take len.toNat =
    Ring.window buf.buffer buf.out.toNat (min len buf.len).toNat := by
  rw [toNat_min, ← Ring.take_window (Nat.min_le_right _ _), ← take_take]
  exact (congrArg (List.take _) (take_of_length_le (length_pending buf).le)).symm

lemma Valid.read (h : buf.Valid) (len : UInt32) :
    buf.read len = some (buf.pending.take len.toNat, buf.drain len) := by
  obtain ⟨hoffset, hwrap⟩ := h.offset buf.out
  have hfits := h.fits
  have hlen := toNat_min len buf.len
  have htake := take_pending buf len
  have hdrain := drain_min buf len
  generalize hcount : min len buf.len = taken at hlen htake hdrain
  have hend := toNat_min taken (buf.size - (buf.out &&& buf.mask))
  generalize hstop : min taken (buf.size - (buf.out &&& buf.mask)) = stop at hend
  have hmod := Nat.mod_lt buf.out.toNat h.pos
  have hrest : (taken - stop).toNat = taken.toNat - stop.toNat :=
    UInt32.toNat_sub_of_le _ _ (UInt32.le_iff_toNat_le.mpr (by omega))
  have hfirst : Ring.fetch buf.buffer (buf.out &&& buf.mask).toNat stop.toNat =
      some (Ring.window buf.buffer buf.out.toNat stop.toNat) := by
    rw [hoffset]
    exact Ring.fetch_eq_window (by omega)
  have hsecond : Ring.fetch buf.buffer 0 (taken - stop).toNat =
      some (Ring.window buf.buffer (buf.out.toNat + stop.toNat) (taken.toNat - stop.toNat)) := by
    rw [hrest]
    by_cases hshort : taken.toNat ≤ stop.toNat
    · rw [Nat.sub_eq_zero_of_le hshort]
      rfl
    · have hzero : (buf.out.toNat + stop.toNat) % buf.buffer.length = 0 := by
        rw [← Nat.mod_add_mod, hend, Nat.min_eq_right (by omega), hwrap,
          Nat.add_sub_of_le hmod.le, Nat.mod_self]
      have hfetch := @Ring.fetch_eq_window _ buf.buffer (buf.out.toNat + stop.toNat)
        (taken.toNat - stop.toNat) _
      rw [hzero] at hfetch
      exact hfetch (by omega)
  unfold RingBuffer.read
  simp only [hcount, hstop, hfirst, hsecond, bind_eq_bind, bind_some]
  rw [← Ring.window_add, Nat.add_sub_of_le (by omega), htake, hdrain]

/-! ## Runs -/

/-- The loop that looks for the size comes to a power of two that is large enough. -/
lemma realSize_spec (size : UInt32) (rounds : ℕ) :
    ∀ {j : ℕ} {real : UInt32}, j + rounds = 18 → real.toNat = 2 ^ j →
      ∃ k ≤ 18, (realSize size rounds real).toNat = 2 ^ k ∧ (size.toNat ≤ 2 ^ k ∨ k = 18) := by
  induction rounds with
  | zero =>
    intro j real hj hreal
    exact ⟨j, by omega, hreal, .inr hj⟩
  | succ rounds ih =>
    intro j real hj hreal
    rw [realSize]
    split
    next =>
      refine @ih (j + 1) _ (by omega) ?_
      rw [UInt32.toNat_shiftLeft, hreal, Nat.shiftLeft_eq, ← Nat.pow_add]
      exact Nat.mod_eq_of_lt (Nat.pow_lt_pow_right (by decide) (show j + 1 < 32 by omega))
    next hstop =>
      refine ⟨j, by omega, hreal, ?_⟩
      by_cases hsize : real < size
      · have hmax : ¬ real.toNat < 262144 := fun hlt => hstop ⟨hsize, UInt32.lt_iff_toNat_lt.mpr hlt⟩
        refine .inr ?_
        by_contra hne
        have hpow : 2 ^ j < 2 ^ 18 := Nat.pow_lt_pow_right (by decide) (by omega)
        omega
      · exact .inl (hreal ▸ UInt32.le_iff_toNat_le.mp (UInt32.not_lt.mp hsize))

lemma new_valid (size : UInt32) : (new size).Valid := by
  obtain ⟨k, hk, hreal, -⟩ := @realSize_spec size 18 0 1 rfl rfl
  refine ⟨⟨k, hk, ?_⟩, length_replicate.symm, rfl, fits_of_empty rfl⟩
  show (List.replicate _ _).length = _
  rw [length_replicate, hreal]

lemma Valid.step (h : buf.Valid) (op : RingOp) :
    ∃ out buf', buf.step op = some (out, buf') ∧ buf'.Valid ∧ buf'.size = buf.size ∧
      (out, buf'.pending) = queueStep buf.buffer.length buf.pending op := by
  cases op with
  | write data hdata =>
    obtain ⟨len, buf', hwrite, hvalid, hsize, hpending⟩ := h.write hdata
    refine ⟨[], buf', ?_, hvalid, hsize, by rw [hpending]; rfl⟩
    rw [RingBuffer.step, hwrite]
    rfl
  | fill data hdata =>
    have havail := h.avail_eq
    have hfits := h.fits
    have hstored := @Valid.storeThrough buf h (data.take buf.avail.toNat) 0
      (by rw [length_take]; omega)
    have hlen : (min (UInt32.ofNat data.length) buf.avail).toNat =
        (data.take buf.avail.toNat).length := by
      rw [toNat_min, UInt32.toNat_ofNat_of_lt' hdata, length_take, Nat.min_comm]
    have hpending := h.pending_store hlen (by rw [toNat_min]; exact Nat.min_le_right _ _)
    refine ⟨[], _, ?_, hpending.1, rfl, ?_⟩
    · rw [RingBuffer.step, hstored]
      rfl
    · rw [hpending.2, havail, ← length_pending]
      rfl
  | read len =>
    have hdrain := h.drain len
    exact ⟨_, _, h.read len, hdrain.1, drain_size buf len, by rw [hdrain.2]; rfl⟩
  | take len =>
    have hdrain := h.drain len
    have hfits := h.fits
    have hload := @Valid.loadThrough buf h (min len buf.len).toNat 0 (by rw [toNat_min]; omega)
    refine ⟨_, _, ?_, hdrain.1, drain_size buf len, by rw [hdrain.2]; rfl⟩
    rw [RingBuffer.step, hload, map_some, take_pending]
    rfl
  | reset =>
    refine ⟨[], buf.reset, rfl, ⟨h.power, h.size, h.mask, fits_of_empty rfl⟩, rfl, ?_⟩
    rw [pending_eq_nil rfl]
    rfl

lemma Valid.run (h : buf.Valid) (ops : List RingOp) :
    ∃ outs buf', buf.run ops = some (outs, buf') ∧ buf'.Valid ∧ buf'.size = buf.size ∧
      (outs, buf'.pending) = queueRun buf.size.toNat buf.pending ops := by
  induction ops generalizing buf with
  | nil => exact ⟨[], buf, rfl, h, rfl, rfl⟩
  | cons op ops ih =>
    obtain ⟨out, buf₁, hstep, hvalid, hsize, hqueue⟩ := h.step op
    obtain ⟨outs, buf₂, hrun, hvalid', hsize', hqueue'⟩ := ih hvalid
    refine ⟨out :: outs, buf₂, ?_, hvalid', hsize'.trans hsize, ?_⟩
    · rw [RingBuffer.run, hstep, bind_some, hrun]
      rfl
    · rw [queueRun, h.size, ← hqueue, ← h.size, ← hsize, ← hqueue']

/-- Whatever is done with it, a ring buffer is a queue of the capacity it was made with, and no access
is outside of its array. -/
theorem ring_buffer_queue (size : UInt32) (hsize : size ≤ maxSize) (ops : List RingOp) :
    ∃ outs buf, (new size).run ops = some (outs, buf) ∧ buf.size = (new size).size ∧ size ≤ buf.size ∧
      (outs, buf.pending) = queueRun buf.size.toNat [] ops ∧
      buf.len.toNat = buf.pending.length ∧ buf.len.toNat + buf.avail.toNat = buf.size.toNat := by
  obtain ⟨outs, buf, hrun, hvalid, hsame, hqueue⟩ := (new_valid size).run ops
  have hfits := hvalid.fits
  have havail := hvalid.avail_eq
  have hcapacity := hvalid.size
  obtain ⟨k, -, hreal, hlarge⟩ := @realSize_spec size 18 0 1 rfl rfl
  have hmax : size.toNat ≤ 2 ^ 18 := UInt32.le_iff_toNat_le.mp hsize
  refine ⟨outs, buf, hrun, hsame, ?_, ?_, (length_pending buf).symm, by omega⟩
  · rw [hsame, UInt32.le_iff_toNat_le]
    show _ ≤ (realSize size 18 1).toNat
    rw [hreal]
    rcases hlarge with hle | rfl
    · exact hle
    · exact hmax
  · rw [hqueue, hsame, pending_eq_nil rfl]

/-- A buffer for three octets holds four. -/
theorem ring_buffer_queue_three : (3 : UInt32) ≤ maxSize ∧ ∃ outs buf,
    (new 3).run [.write [1, 2, 3] (by decide), .read 2, .fill [4, 5, 6] (by decide), .take 9] =
    some (outs, buf) ∧ buf.size = (new 3).size ∧ 3 ≤ buf.size ∧ (outs, buf.pending) = queueRun
    buf.size.toNat [] [.write [1, 2, 3] (by decide), .read 2, .fill [4, 5, 6] (by decide), .take 9]
    ∧ buf.len.toNat = buf.pending.length ∧ buf.len.toNat + buf.avail.toNat = buf.size.toNat :=
  ⟨by decide, ring_buffer_queue 3 (by decide) _⟩

end RingBuffer

end Phonelets.Gatchat
