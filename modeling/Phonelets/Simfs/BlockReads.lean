import Phonelets.Simfs.QueueRuns

/-! # Reading a transparent file

The blocks of a range are read one after the other, each from the cache file or from the
driver, and copied into the buffer of the operation. `Serves` says that the operation gets its
octets however it goes on, and `serves_iff` when that is so: when the range lies in the first
block of the file. The number of octets to copy is computed as if the file was read from its
beginning, and the place for them as if the first block had given what was in front of the
range. In a range that goes further the last octet of the buffer is not written at all
(`bufoff_add_tocopy_lt`).
-/

namespace Phonelets.Simfs

open List Option

/-! ## What a read is to do -/

/-- A transparent file on the card. -/
structure TransparentFile where
  octets : Memory
  length : ℕ
  length_le : length ≤ 65535

/-- The octets that the operation is to read. -/
def SimFsOp.wanted (op : SimFsOp) (file : TransparentFile) : List UInt8 :=
  file.octets.slice op.offset op.numBytes

/-- The request is for a block of the file in which the range of the operation has octets. -/
def Request.Overlaps (op : SimFsOp) : Request → Prop
  | .readFileTransparent id start length path =>
    id = op.id ∧ path = op.path ∧ 256 ∣ start ∧ length = min 256 (op.length - start) ∧
      start < op.offset + op.numBytes ∧ op.offset < start + 256
  | _ => False

/-- What the main loop can do next for a read: an idle handler, which finds memory, or an
answer of the driver with the octets of the file. -/
inductive Progress (file : TransparentFile) (fs : SimFs) : Input → Prop
  | dispatch (sys : System) (hsource : fs.sources ≠ []) (hmemory : sys.memory = true) :
      Progress file fs (.dispatch sys)
  | reply (sys : System) {n serial id start length : ℕ} {path : List UInt8}
      (hrequest : fs.requests[n]? = some (serial, .readFileTransparent id start length path)) :
      Progress file fs (.reply n (.data (some (file.octets.slice start length))) sys)

section Serves

variable (driver : SimDriver) (clients : ℕ → List Call) (file : TransparentFile) (op : SimFsOp)

/-- Whatever comes next, and whatever clients call before it without freeing the context of the
operation: there is no fault, the driver is asked for blocks of the range only, and in the end
the operation is answered, once and with what it is to read. -/
inductive Serves : SimFs → Prop
  | answered {fs : SimFs}
      (hanswers : answers op.serial fs.log =
        [.data op.numBytes 0 (op.wanted file) file.length]) : Serves fs
  | goesOn {fs : SimFs} (hopen : answers op.serial fs.log = [])
      (hwaits : fs.sources ≠ [] ∨ fs.requests ≠ [])
      (hasked : ∀ r ∈ fs.requests, r.1 = op.serial ∧ r.2.Overlaps op)
      (hsafe : ∀ cs : List Call, .contextFree op.context ∉ cs →
        ∀ input, Progress file (cs.foldl (SimFs.call driver) fs) input →
          ∃ t, (cs.foldl (SimFs.call driver) fs).step driver clients input = some t)
      (hnext : ∀ cs : List Call, .contextFree op.context ∉ cs →
        ∀ input, Progress file (cs.foldl (SimFs.call driver) fs) input →
          ∀ t, (cs.foldl (SimFs.call driver) fs).step driver clients input = some t → Serves t) :
      Serves fs

end Serves

/-- The blocks that are in the cache are those of the file. -/
def SimFs.Agrees (fs : SimFs) (file : TransparentFile) : Prop :=
  ∀ fd ∈ fs.fd, ∀ i < file.length, fs.bitmap.test (i / 256) = true →
    (fs.cacheFile fd).octets (cacheHeaderSize + i) = file.octets i

/-- The operation is at the head of the queue and is about to read its first block. -/
structure Begun (file : TransparentFile) (op : SimFsOp) (fs : SimFs) : Prop where
  opQ : ∃ rest, fs.opQ = op :: rest
  sources : fs.sources = [.readBlock]
  requests : fs.requests = []
  writing : fs.writing = none
  unanswered : answers op.serial fs.log = []
  cb : op.cb = true
  current : op.current = op.startBlock
  length : op.length = file.length
  recordLength : op.recordLength = file.length
  bytes : 0 < op.numBytes
  within : op.offset + op.numBytes ≤ file.length
  agrees : fs.Agrees file

/-! ## One step of a read -/

section Steps

variable {driver : SimDriver} {clients : ℕ → List Call} {file : TransparentFile} {op : SimFsOp}
  {fs : SimFs} {sys : System} {rest : List SimFsOp}

lemma Serves.of_steps (hopen : answers op.serial fs.log = []) (hwaits : fs.sources ≠ [] ∨
    fs.requests ≠ []) (hasked : ∀ r ∈ fs.requests, r.1 = op.serial ∧ r.2.Overlaps op)
    (hstep : ∀ cs : List Call, .contextFree op.context ∉ cs → ∀ input, Progress file (cs.foldl
    (SimFs.call driver) fs) input → ∃ t, (cs.foldl (SimFs.call driver) fs).step driver clients
    input = some t ∧ Serves driver clients file op t) : Serves driver clients file op fs := by
  refine .goesOn hopen hwaits hasked ?_ ?_
  · intro cs hcs input hinput
    rcases hstep cs hcs input hinput with ⟨t, ht, -⟩
    exact ⟨t, ht⟩
  · intro cs hcs input hinput t ht
    rcases hstep cs hcs input hinput with ⟨u, hu, hserves⟩
    rw [ht, Option.some.injEq] at hu
    rw [hu]
    exact hserves

lemma step_dispatch {sources : List Handler} (hwriting : fs.writing = none) (hsources : fs.sources
    = .readBlock :: sources) : fs.step driver clients (.dispatch sys) = { fs with sources := sources
    }.opReadBlock driver clients sys := by
  unfold SimFs.step
  rw [hwriting, hsources]
  rfl

lemma step_reply {n serial id start length : ℕ} {path : List UInt8} {data : Option (List UInt8)}
    (hrequest : fs.requests[n]? = some (serial, .readFileTransparent id start length path)) :
    fs.step driver clients (.reply n (.data data) sys) =
      { fs with requests := fs.requests.eraseIdx n }.opReadBlockCb driver clients sys data := by
  unfold SimFs.step
  dsimp only
  rw [hrequest]
  rfl

lemma opDone_answers (hq : fs.opQ = op :: rest) :
    ∃ t, fs.opDone driver clients op = some t ∧ answers op.serial t.log =
      answers op.serial fs.log ++ [.data op.numBytes 0 op.buffer op.recordLength] := by
  unfold SimFs.opDone SimFs.invoke
  have haside := @Aside.calls op { fs with
    called := fs.called + 1
    log := .answered op.serial op.context (.data op.numBytes 0 op.buffer op.recordLength) :: fs.log }
    rest hq driver (clients fs.called)
  rcases haside.opQ with ⟨b, rest', hq', -⟩
  have hanswers := haside.answers op.serial
  unfold SimFs.endCurrent
  rw [hq']
  refine ⟨_, rfl, hanswers.trans ?_⟩
  exact if_pos rfl

lemma opReadBlock_eq (hq : fs.opQ = op :: rest) (hcb : op.cb = true) (hbytes : 0 < op.numBytes)
    (hmemory : sys.memory = true) :
    fs.opReadBlock driver clients sys =
      (fs.readCachedBlocks sys (if op.current = op.startBlock then
          { op with buffer := List.replicate op.numBytes 0 } else op)).bind fun op =>
        if op.endBlock < op.current then (fs.setHead op).opDone driver clients op
        else if driver.readFileTransparent then
          some ((fs.setHead op).request op (.readFileTransparent op.id (op.current * 256)
            (min ((op.length : ℤ) - (op.current * 256 : ℕ)) 256 % 65536).toNat op.path))
        else (fs.setHead op).opError driver clients := by
  unfold SimFs.opReadBlock
  rw [hq]
  dsimp only
  rw [if_neg (by rw [hcb]; decide)]
  have hready : ¬ (op.current = op.startBlock ∧ (op.numBytes = 0 ∨ sys.memory = false)) := by
    rintro ⟨-, hzero | hnone⟩
    · omega
    · rw [hmemory] at hnone
      exact Bool.noConfusion hnone
  rw [if_neg hready]
  rfl

/-- The callback of the driver, with octets enough, when the block can be stored. -/
lemma opReadBlockCb_eq {data buffer : List UInt8} (hq : fs.opQ = op :: rest) (hcb : op.cb = true)
    (hcopy : ¬ (op.tocopy < 0 ∨ data.length < op.dataoff + op.tocopy.toNat))
    (hbuffer : copyInto op.buffer op.bufoff ((data.drop op.dataoff).take op.tocopy.toNat) = some buffer) :
    fs.opReadBlockCb driver clients sys (some data) =
      ((fs.setHead { op with buffer := buffer }).cacheBlock sys op.current 256 data data.length).bind
        fun fs =>
          let op := { op with buffer := buffer, current := op.current + 1 }
          if op.endBlock < op.current then (fs.setHead op).opDone driver clients op
          else some ((fs.setHead op).idleAdd .readBlock) := by
  unfold SimFs.opReadBlockCb
  rw [hq]
  dsimp only
  rw [if_neg hcopy, hbuffer, bind_eq_bind, bind_some, bind_eq_bind]
  refine congrArg _ (funext fun fs' => ?_)
  rw [if_pos hcb]

end Steps

/-! ## A range in the first block -/

section FirstBlock

variable {driver : SimDriver} {clients : ℕ → List Call} {file : TransparentFile} {op : SimFsOp}
  {fs : SimFs} {sys : System} {rest : List SimFsOp}

lemma SimFsOp.first_spec (hcurrent : op.current = 0) (hbytes : 0 < op.numBytes)
    (hfirst : op.offset + op.numBytes ≤ 256) : op.startBlock = 0 ∧ op.endBlock = 0 ∧
    op.tocopy = op.numBytes ∧ op.bufoff = 0 ∧ op.dataoff = op.offset := by
  have hstart : op.startBlock = 0 := by
    unfold startBlock
    omega
  have hhere : op.current = op.startBlock := hcurrent.trans hstart.symm
  refine ⟨hstart, ?_, ?_, ?_, ?_⟩
  · unfold endBlock
    omega
  · unfold tocopy
    rw [if_pos hhere, hcurrent]
    omega
  · exact if_pos hhere
  · unfold dataoff
    rw [if_pos hhere]
    omega

lemma copyInto_all {buffer data : List UInt8} (h : data.length = buffer.length) :
    copyInto buffer 0 data = some data := by
  unfold copyInto
  rw [if_pos (by omega), Nat.zero_add, h, drop_length, append_nil]
  rfl

lemma cachedBlock_first (hcurrent : op.current = 0) (hbytes : 0 < op.numBytes)
    (hfirst : op.offset + op.numBytes ≤ 256) (hwithin : op.offset + op.numBytes ≤ file.length)
    {fd : Fd} (hfd : fs.fd = some fd) (hagrees : fs.Agrees file) (hpresent : fs.bitmap.test 0 = true)
    {data : List UInt8} (hdata : SimFs.cachedBlock sys fd (fs.cacheFile fd) op = some data) :
    data = op.wanted file := by
  rcases op.first_spec hcurrent hbytes hfirst with ⟨-, -, hcopy, -, hoff⟩
  unfold SimFs.cachedBlock at hdata
  rw [hcopy, hoff, hcurrent, Int.toNat_natCast] at hdata
  dsimp only at hdata
  split_ifs at hdata with hreads hneg hone hreadable hlen
  · omega
  · rw [← Option.some.inj hdata]
    unfold CacheFile.read at hlen ⊢
    rw [Memory.length_slice] at hlen
    rw [hlen]
    have hat : (fs.cacheFile fd).octets.At (cacheHeaderSize + 0 * 256 + op.offset) (op.wanted file) := by
      refine Memory.at_iff.mpr ?_
      intro i hi
      have hlt : i < op.numBytes := by simpa [SimFsOp.wanted] using hi
      have hblock : (op.offset + i) / 256 = 0 := by omega
      have hsame := hagrees fd hfd (op.offset + i) (by omega) (by rw [hblock]; exact hpresent)
      refine Eq.trans ?_ (hsame.trans (Memory.slice_getElem file.octets op.offset hi).symm)
      exact congrArg _ (by omega)
    have hslice := hat.slice_eq
    unfold SimFsOp.wanted at hslice ⊢
    rw [Memory.length_slice] at hslice
    exact hslice

lemma readCachedBlocks_first (hcurrent : op.current = 0) (hbytes : 0 < op.numBytes) (hfirst :
    op.offset + op.numBytes ≤ 256) (hwithin : op.offset + op.numBytes ≤ file.length) (hbuffer :
    op.buffer.length = op.numBytes) (hagrees : fs.Agrees file) : fs.readCachedBlocks sys op = some
    op ∨ fs.readCachedBlocks sys op = some { op with buffer := op.wanted file, current := 1 } := by
  rcases op.first_spec hcurrent hbytes hfirst with ⟨-, hend, -, hoff, -⟩
  unfold SimFs.readCachedBlocks
  cases hfd : fs.fd with
  | none => exact .inl rfl
  | some fd =>
    dsimp only
    rw [hend, hcurrent]
    show SimFs.readBlocks sys fs.bitmap fd _ 1 op = _ ∨ SimFs.readBlocks sys fs.bitmap fd _ 1 op = _
    unfold SimFs.readBlocks
    rw [hcurrent, if_neg (by omega)]
    by_cases hpresent : fs.bitmap.test 0 = true
    · rw [if_pos hpresent]
      cases hdata : SimFs.cachedBlock sys fd (fs.cacheFile fd) op with
      | none => exact .inl rfl
      | some data =>
        right
        have hwanted := cachedBlock_first hcurrent hbytes hfirst hwithin hfd hagrees hpresent hdata
        have hcopied : copyInto op.buffer 0 data = some data :=
          copyInto_all (by rw [hwanted, hbuffer]; exact Memory.length_slice _ _ _)
        dsimp only
        rw [hoff, hcopied, hwanted]
        rfl
    · rw [if_neg hpresent]
      exact .inl rfl

end FirstBlock

/-! ## Reads that are served -/

/-- The operation, now `o`, is at the head of the queue and has not been answered. -/
structure Midway (o : SimFsOp) (fs : SimFs) : Prop where
  opQ : ∃ rest, fs.opQ = o :: rest
  cb : o.cb = true
  writing : fs.writing = none
  unanswered : answers o.serial fs.log = []

lemma Midway.calls {o : SimFsOp} {fs : SimFs} (h : Midway o fs) (driver : SimDriver) {cs : List Call}
    (hcs : .contextFree o.context ∉ cs) :
    Midway o (cs.foldl (SimFs.call driver) fs) ∧ Aside cs o fs (cs.foldl (SimFs.call driver) fs) := by
  rcases h.opQ with ⟨rest, hq⟩
  have haside := Aside.calls hq driver cs
  rcases haside.opQ with ⟨b, rest', hq', hb⟩
  refine ⟨⟨⟨rest', ?_⟩, h.cb, haside.writing.trans h.writing, (haside.answers _).trans h.unanswered⟩,
    haside⟩
  rw [hq', hb hcs]

section Served

variable {driver : SimDriver} {clients : ℕ → List Call} {file : TransparentFile} {op : SimFsOp}
  {fs : SimFs}

lemma Midway.done {o : SimFsOp} (h : Midway o fs) (hserial : o.serial = op.serial) (hbytes :
    o.numBytes = op.numBytes) (hbuffer : o.buffer = op.wanted file) (hlength : o.recordLength =
    file.length) : ∃ t, fs.opDone driver clients o = some t ∧ Serves driver clients file op t := by
  rcases h.opQ with ⟨rest, hq⟩
  rcases @opDone_answers driver clients o fs rest hq with ⟨t, ht, hanswers⟩
  refine ⟨t, ht, .answered ?_⟩
  rw [← hserial, hanswers, h.unanswered, hbytes, hbuffer, hlength]
  rfl

lemma Midway.setHead {o p : SimFsOp} (h : Midway o fs) (hserial : p.serial = o.serial)
    (hcb : p.cb = o.cb) : Midway p (fs.setHead p) := by
  rcases h.opQ with ⟨rest, hq⟩
  refine ⟨⟨rest, ?_⟩, hcb.trans h.cb, h.writing, ?_⟩
  · unfold SimFs.setHead
    rw [hq]
    rfl
  · rw [hserial]
    exact h.unanswered

/-- The first block is asked for, and there is a buffer for it. -/
structure Asked (op : SimFsOp) (fs : SimFs) : Prop where
  midway : Midway { op with buffer := List.replicate op.numBytes 0 } fs
  sources : fs.sources = []
  requests : fs.requests =
    [(op.serial, .readFileTransparent op.id 0 (min 256 op.length) op.path)]

lemma Asked.serves (h : Asked op fs) (hcurrent : op.current = 0) (hbytes : 0 < op.numBytes)
    (hfirst : op.offset + op.numBytes ≤ 256) (hlength : op.length = file.length)
    (hrecord : op.recordLength = file.length) (hwithin : op.offset + op.numBytes ≤ file.length) :
    Serves driver clients file op fs := by
  refine .of_steps h.midway.unanswered (.inr (by rw [h.requests]; exact cons_ne_nil _ _)) ?_ ?_
  · intro r hr
    rw [h.requests, mem_singleton] at hr
    subst hr
    exact ⟨rfl, rfl, rfl, Nat.dvd_zero 256, rfl, by omega, by omega⟩
  · intro cs hcs input hinput
    rcases h.midway.calls driver hcs with ⟨hmidway, haside⟩
    have hsources := haside.sources.trans h.sources
    have hrequests := haside.requests.trans h.requests
    generalize cs.foldl (SimFs.call driver) fs = fs' at *
    cases hinput with
    | dispatch sys hsource _ => exact absurd hsources hsource
    | @reply sys n serial id start length path hn =>
      have hn' := hn
      rw [hrequests] at hn
      rcases List.getElem?_eq_some_iff.mp hn with ⟨hlt, hr⟩
      have hzero : n = 0 := Nat.lt_one_iff.mp hlt
      subst hzero
      cases hr
      rcases hmidway.opQ with ⟨rest, hq⟩
      rcases SimFsOp.first_spec hcurrent hbytes hfirst with ⟨-, hend, hcopy, hoff, hdata⟩
      -- all that is read goes into the buffer
      have hpart : ((file.octets.slice 0 (min 256 op.length)).drop op.offset).take op.numBytes =
          op.wanted file := by
        rw [Memory.drop_slice _ _ (by omega), Memory.take_slice _ _ (by omega), Nat.zero_add]
        rfl
      have hcopied : copyInto (List.replicate op.numBytes 0) op.bufoff
          (((file.octets.slice 0 (min 256 op.length)).drop op.dataoff).take op.tocopy.toNat) =
            some (op.wanted file) := by
        rw [hoff, hdata, hcopy, Int.toNat_natCast, hpart]
        refine copyInto_all ?_
        rw [length_replicate]
        exact Memory.length_slice _ _ _
      have henough : ¬ (op.tocopy < 0 ∨ (file.octets.slice 0 (min 256 op.length)).length <
          op.dataoff + op.tocopy.toNat) := by
        rw [hcopy, hdata, Memory.length_slice]
        omega
      rw [step_reply hn', @opReadBlockCb_eq driver clients
        { op with buffer := List.replicate op.numBytes 0 } { fs' with requests := fs'.requests.eraseIdx 0 }
        sys rest _ _ hq h.midway.cb henough hcopied]
      rcases SimFs.cacheBlock_cases sys op.current 256 (file.octets.slice 0 (min 256 op.length))
        (file.octets.slice 0 (min 256 op.length)).length
        (SimFs.setHead { op with buffer := op.wanted file }
          { fs' with requests := fs'.requests.eraseIdx 0 }) with
        ⟨-, hshort | ⟨-, hbig⟩, -⟩ | ⟨-, bitmap, cache, hstored⟩
      · exact absurd hshort (Nat.lt_irrefl _)
      · omega
      · rw [hstored, bind_some]
        dsimp only
        rw [if_pos (by show op.endBlock < op.current + 1; omega)]
        have hidle : Midway { op with buffer := List.replicate op.numBytes 0 }
            { fs' with requests := fs'.requests.eraseIdx 0 } :=
          ⟨hmidway.opQ, hmidway.cb, hmidway.writing, hmidway.unanswered⟩
        have hcopied := hidle.setHead (p := { op with buffer := op.wanted file }) rfl rfl
        have hcached : Midway { op with buffer := op.wanted file }
            { SimFs.setHead { op with buffer := op.wanted file }
              { fs' with requests := fs'.requests.eraseIdx 0 } with bitmap := bitmap, cache := cache } :=
          ⟨hcopied.opQ, hcopied.cb, hcopied.writing, hcopied.unanswered⟩
        exact (hcached.setHead (p := { op with buffer := op.wanted file, current := op.current + 1 })
          rfl rfl).done rfl rfl rfl hrecord

lemma Begun.serves (h : Begun file op fs) (hdriver : driver.readFileTransparent = true)
    (hfirst : op.offset + op.numBytes ≤ 256) : Serves driver clients file op fs := by
  have hbytes := h.bytes
  have hwithin := h.within
  have hcurrent : op.current = 0 := by
    rw [h.current]
    unfold SimFsOp.startBlock
    omega
  refine .of_steps h.unanswered (.inl (by rw [h.sources]; exact cons_ne_nil _ _)) ?_ ?_
  · rw [h.requests]
    exact fun _ hr => absurd hr not_mem_nil
  · intro cs hcs input hinput
    have hbefore : Midway op fs := ⟨h.opQ, h.cb, h.writing, h.unanswered⟩
    rcases hbefore.calls driver hcs with ⟨hmidway, haside⟩
    have hsources := haside.sources.trans h.sources
    have hrequests := haside.requests.trans h.requests
    have hagrees : (cs.foldl (SimFs.call driver) fs).Agrees file := by
      have hold := h.agrees
      unfold SimFs.Agrees SimFs.cacheFile at hold ⊢
      rw [haside.fd, haside.bitmap, haside.cache]
      exact hold
    generalize cs.foldl (SimFs.call driver) fs = fs' at *
    cases hinput with
    | reply sys hn =>
      rw [hrequests] at hn
      exact absurd hn nofun
    | dispatch sys _ hmemory =>
      rcases hmidway.opQ with ⟨rest, hq⟩
      rw [step_dispatch hmidway.writing hsources,
        @opReadBlock_eq driver clients op { fs' with sources := [] } sys rest hq h.cb hbytes hmemory,
        if_pos h.current]
      have hidle : Midway op { fs' with sources := [] } :=
        ⟨hmidway.opQ, hmidway.cb, hmidway.writing, hmidway.unanswered⟩
      have hend := (op.first_spec hcurrent hbytes hfirst).2.1
      rcases @readCachedBlocks_first file { op with buffer := List.replicate op.numBytes 0 }
        { fs' with sources := [] } sys hcurrent hbytes hfirst hwithin length_replicate hagrees with
        hloop | hloop
      · -- the block is not in the cache
        rw [hloop, bind_some,
          if_neg (by show ¬ op.endBlock < op.current; omega), if_pos hdriver]
        refine ⟨_, rfl, Asked.serves ⟨?_, rfl, ?_⟩ hcurrent hbytes hfirst h.length h.recordLength hwithin⟩
        · have hnew := hidle.setHead (p := { op with buffer := List.replicate op.numBytes 0 }) rfl rfl
          exact ⟨hnew.opQ, hnew.cb, hnew.writing, hnew.unanswered⟩
        · have hlength : (min ((op.length : ℤ) - (op.current * 256 : ℕ)) 256 % 65536).toNat =
              min 256 op.length := by
            omega
          show fs'.requests ++ [(op.serial, Request.readFileTransparent op.id (op.current * 256) _ op.path)] = _
          rw [hrequests, hlength, hcurrent]
          rfl
      · rw [hloop, bind_some, if_pos (by show op.endBlock < 1; omega)]
        exact (hidle.setHead (p := { op with buffer := op.wanted file, current := 1 }) rfl rfl).done
          rfl rfl rfl h.recordLength

end Served

/-! ## A range in more than one block -/

lemma SimFsOp.bufoff_add_tocopy_lt {op : SimFsOp} (hstart : op.startBlock ≤ op.current)
    (hcopy : 0 ≤ op.tocopy) (hbytes : 0 < op.numBytes) (hlong : 256 < op.offset + op.numBytes) :
    op.bufoff + op.tocopy.toNat < op.numBytes := by
  unfold tocopy at hcopy ⊢
  unfold bufoff
  unfold startBlock at *
  split_ifs at hcopy ⊢ with hfirst
  · omega
  · omega

/-- The buffer with its last octet still as it was allocated. -/
def Unwritten (op : SimFsOp) (buffer : List UInt8) : Prop :=
  buffer.length = op.numBytes ∧ buffer[op.numBytes - 1]? = some 0

lemma unwritten_replicate {op : SimFsOp} (hbytes : 0 < op.numBytes) :
    Unwritten op (List.replicate op.numBytes 0) := by
  refine ⟨length_replicate, ?_⟩
  rw [getElem?_replicate, if_pos (by omega)]

lemma Unwritten.copyInto {op : SimFsOp} {buffer buffer' data : List UInt8} {pos : ℕ}
    (h : Unwritten op buffer) (hcopied : Simfs.copyInto buffer pos data = some buffer')
    (hshort : data = [] ∨ pos + data.length < op.numBytes) : Unwritten op buffer' := by
  unfold Simfs.copyInto at hcopied
  split_ifs at hcopied with hfits
  rw [Option.some.injEq] at hcopied
  subst hcopied
  rcases hshort with rfl | hlt
  · rw [append_nil, length_nil, Nat.add_zero, take_append_drop]
    exact h
  · have hlen : (buffer.take pos ++ data).length = pos + data.length := by
      rw [length_append, length_take]
      omega
    constructor
    · rw [length_append, hlen, length_drop, ← h.1]
      omega
    · rw [getElem?_append_right (by omega), hlen, getElem?_drop, ← h.2]
      exact congrArg (buffer[·]?) (by omega)

section Long

variable {driver : SimDriver} {clients : ℕ → List Call} {file : TransparentFile} {op : SimFsOp}
  {fs : SimFs} {sys : System}

variable {buffer : List UInt8} {current : ℕ}

lemma readBlocks_unwritten (hbytes : 0 < op.numBytes) (hlong : 256 < op.offset + op.numBytes)
    {bitmap : Bitmap 8 32} {fd : Fd} {cached : CacheFile} (n : ℕ) {o : SimFsOp} (hbuffer : Unwritten
    op buffer) (hstart : op.startBlock ≤ current) (h : SimFs.readBlocks sys bitmap fd cached n { op
    with buffer := buffer, current := current } = some o) : ∃ buffer' current',
    o = { op with buffer := buffer', current := current' } ∧ Unwritten op buffer' ∧ op.startBlock ≤ current' := by
  induction n generalizing buffer current with
  | zero =>
    cases h
    exact ⟨buffer, current, rfl, hbuffer, hstart⟩
  | succ n ih =>
    unfold SimFs.readBlocks at h
    split_ifs at h with hbit hpresent
    · cases hdata : SimFs.cachedBlock sys fd cached { op with buffer := buffer, current := current } with
      | none =>
        rw [hdata] at h
        cases h
        exact ⟨buffer, current, rfl, hbuffer, hstart⟩
      | some data =>
        rw [hdata] at h
        dsimp only at h
        rcases bind_eq_some_iff.mp h with ⟨buffer', hcopied, hrest⟩
        refine ih (hbuffer.copyInto hcopied ?_) (Nat.le_succ_of_le hstart) hrest
        rcases cachedBlock_length hdata with ⟨hmin, hlen⟩
        rcases Int.lt_or_le (SimFsOp.tocopy { op with buffer := buffer, current := current }) 0 with
          hneg | hpos
        · left
          exact eq_nil_of_length_eq_zero (by omega)
        · right
          have hlt := @SimFsOp.bufoff_add_tocopy_lt { op with buffer := buffer, current := current }
            hstart hpos hbytes hlong
          exact lt_of_le_of_lt (Nat.add_le_add_left hlen _) hlt
    · cases h
      exact ⟨buffer, current, rfl, hbuffer, hstart⟩

/-- The read comes to its end, if it comes to one, with a zero in the place of its last octet. -/
inductive Spoilt (op : SimFsOp) (fs : SimFs) : Prop
  | handler {buffer : List UInt8} {current : ℕ}
      (hmidway : Midway { op with buffer := buffer, current := current } fs)
      (hsources : fs.sources = [.readBlock]) (hrequests : fs.requests = [])
      (hstart : op.startBlock ≤ current)
      (hbuffer : current = op.startBlock ∨ Unwritten op buffer)
  | driver {buffer : List UInt8} {current start length : ℕ} {path : List UInt8}
      (hmidway : Midway { op with buffer := buffer, current := current } fs)
      (hsources : fs.sources = [])
      (hrequests : fs.requests = [(op.serial, .readFileTransparent op.id start length path)])
      (hstart : op.startBlock ≤ current) (hbuffer : Unwritten op buffer)
  | answered {buffer : List UInt8} {recordLength : ℕ}
      (hanswers : answers op.serial fs.log = [.data op.numBytes 0 buffer recordLength])
      (hbuffer : Unwritten op buffer)

variable {t : SimFs}

lemma Spoilt.opDone (h : Midway { op with buffer := buffer, current := current } fs) (hbuffer :
    Unwritten op buffer) (ht : fs.opDone driver clients { op with buffer := buffer, current :=
    current } = some t) : Spoilt op t := by
  rcases h.opQ with ⟨rest, hq⟩
  rcases @opDone_answers driver clients _ fs rest hq with ⟨u, hu, hanswers⟩
  rw [ht, Option.some.injEq] at hu
  subst hu
  have hanswered : answers op.serial t.log = [.data op.numBytes 0 buffer op.recordLength] := by
    refine hanswers.trans ?_
    rw [h.unanswered]
    rfl
  exact .answered hanswered hbuffer

lemma Spoilt.opReadBlock (hdriver : driver.readFileTransparent = true) (hbytes : 0 < op.numBytes)
    (hlong : 256 < op.offset + op.numBytes) (hmemory : sys.memory = true) (h : Midway { op with buffer := buffer, current := current } fs)
    (hsources : fs.sources = []) (hrequests : fs.requests = []) (hstart : op.startBlock ≤ current)
    (hbuffer : current = op.startBlock ∨ Unwritten op buffer)
    (ht : fs.opReadBlock driver clients sys = some t) : Spoilt op t := by
  rcases h.opQ with ⟨rest, hq⟩
  rw [opReadBlock_eq hq h.cb hbytes hmemory] at ht
  have hready : ∃ ready, Unwritten op ready ∧ (if current = op.startBlock then
      { op with buffer := List.replicate op.numBytes 0, current := current }
      else { op with buffer := buffer, current := current } : SimFsOp) =
        { op with buffer := ready, current := current } := by
    split_ifs with hfirst
    · exact ⟨_, unwritten_replicate hbytes, rfl⟩
    · exact ⟨buffer, hbuffer.resolve_left hfirst, rfl⟩
  rcases hready with ⟨ready, hunwritten, hop⟩
  rcases bind_eq_some_iff.mp ht with ⟨o, hloop, hend⟩
  have hblocks : ∃ buffer' current', o = { op with buffer := buffer', current := current' } ∧
      Unwritten op buffer' ∧ op.startBlock ≤ current' := by
    have hloop' : fs.readCachedBlocks sys { op with buffer := ready, current := current } = some o := by
      rw [← hop]
      exact hloop
    unfold SimFs.readCachedBlocks at hloop'
    split at hloop'
    · cases hloop'
      exact ⟨ready, current, rfl, hunwritten, hstart⟩
    · exact readBlocks_unwritten hbytes hlong _ hunwritten hstart hloop'
  rcases hblocks with ⟨buffer', current', rfl, hunwritten', hstart'⟩
  have hnext := h.setHead (p := { op with buffer := buffer', current := current' }) rfl rfl
  dsimp only at hend
  split_ifs at hend with hlast
  · exact .opDone hnext hunwritten' hend
  · cases hend
    exact .driver ⟨hnext.opQ, hnext.cb, hnext.writing, hnext.unanswered⟩ hsources
      (congrArg (· ++ [(op.serial, Request.readFileTransparent op.id (current' * 256) _ op.path)])
        hrequests) hstart' hunwritten'

lemma Spoilt.opReadBlockCb (hbytes : 0 < op.numBytes) (hlong : 256 < op.offset + op.numBytes) {data : List UInt8}
    (h : Midway { op with buffer := buffer, current := current } fs) (hsources : fs.sources = [])
    (hrequests : fs.requests = []) (hstart : op.startBlock ≤ current) (hbuffer : Unwritten op buffer)
    (ht : fs.opReadBlockCb driver clients sys (some data) = some t) : Spoilt op t := by
  rcases h.opQ with ⟨rest, hq⟩
  set o : SimFsOp := { op with buffer := buffer, current := current }
  by_cases hcopy : o.tocopy < 0 ∨ data.length < o.dataoff + o.tocopy.toNat
  · unfold SimFs.opReadBlockCb at ht
    rw [hq] at ht
    dsimp only at ht
    rw [if_pos hcopy] at ht
    cases ht
  cases hcopied : copyInto o.buffer o.bufoff ((data.drop o.dataoff).take o.tocopy.toNat) with
  | none =>
    unfold SimFs.opReadBlockCb at ht
    rw [hq] at ht
    dsimp only at ht
    rw [if_neg hcopy, hcopied] at ht
    cases ht
  | some buffer' =>
    rw [opReadBlockCb_eq hq h.cb hcopy hcopied] at ht
    -- the copy does not come to the last octet
    have hlt := @SimFsOp.bufoff_add_tocopy_lt o hstart (by omega) hbytes hlong
    have hunwritten : Unwritten op buffer' := by
      refine hbuffer.copyInto hcopied (.inr (lt_of_le_of_lt ?_ hlt))
      rw [length_take]
      exact Nat.add_le_add_left (Nat.min_le_left _ _) _
    rcases bind_eq_some_iff.mp ht with ⟨fs', hstored, hend⟩
    have hcopied' := h.setHead (p := { op with buffer := buffer', current := current }) rfl rfl
    rcases SimFs.cacheBlock_cases sys current 256 data data.length
      (fs.setHead { op with buffer := buffer', current := current }) with
      ⟨-, -, hfault⟩ | ⟨-, bitmap, cache, hcached⟩
    · rw [hfault] at hstored
      cases hstored
    · rw [hcached] at hstored
      cases hstored
      have hstate : Midway { op with buffer := buffer', current := current }
          { fs.setHead { op with buffer := buffer', current := current } with
            bitmap := bitmap, cache := cache } :=
        ⟨hcopied'.opQ, hcopied'.cb, hcopied'.writing, hcopied'.unanswered⟩
      have hnext := hstate.setHead (p := { op with buffer := buffer', current := current + 1 }) rfl rfl
      dsimp only at hend
      split_ifs at hend with hlast
      · exact .opDone hnext hunwritten hend
      · cases hend
        refine .handler ⟨hnext.opQ, hnext.cb, hnext.writing, hnext.unanswered⟩ ?_ hrequests
          (Nat.le_succ_of_le hstart) (.inr hunwritten)
        show fs.sources ++ [_] = _
        rw [hsources]
        rfl

end Long

/-! ## When reads are served -/

section Main

variable {driver : SimDriver} {clients : ℕ → List Call} {file : TransparentFile} {op : SimFsOp}
  {fs : SimFs} {sys : System}

lemma Serves.not_spoilt (hdriver : driver.readFileTransparent = true) (hbytes : 0 < op.numBytes)
    (hlong : 256 < op.offset + op.numBytes) (hlast : file.octets (op.offset + (op.numBytes - 1)) ≠ 0)
    (h : Serves driver clients file op fs) : ¬ Spoilt op fs := by
  induction h with
  | answered hanswers =>
    rintro (⟨hmidway, -, -, -, -⟩ | ⟨hmidway, -, -, -, -⟩ | ⟨hanswers', hbuffer⟩)
    · exact absurd (hanswers.symm.trans hmidway.unanswered) (cons_ne_nil _ _)
    · exact absurd (hanswers.symm.trans hmidway.unanswered) (cons_ne_nil _ _)
    · rw [hanswers] at hanswers'
      have hsame : op.wanted file = _ := (Answer.data.inj (List.cons.inj hanswers').1).2.2.1
      have hzero := hbuffer.2
      have hlt : op.numBytes - 1 < (op.wanted file).length := by
        unfold SimFsOp.wanted
        rw [Memory.length_slice]
        omega
      rw [← hsame, getElem?_eq_getElem hlt, Option.some.injEq] at hzero
      exact hlast ((Memory.slice_getElem file.octets op.offset hlt).symm.trans hzero)
  | goesOn hopen _ _ hsafe _ ih =>
    -- the steps without any calls between them
    have hnone : Call.contextFree op.context ∉ [] := not_mem_nil
    rintro (⟨hmidway, hsources, hrequests, hstart, hbuffer⟩ |
      ⟨hmidway, hsources, hrequests, hstart, hbuffer⟩ | ⟨hanswers, -⟩)
    · have hinput := @Progress.dispatch file _ plainSystem
        (by rw [hsources]; exact cons_ne_nil _ _) rfl
      rcases hsafe [] hnone _ hinput with ⟨t, ht⟩
      refine ih [] hnone _ hinput t ht ?_
      rw [foldl_nil, step_dispatch hmidway.writing hsources] at ht
      refine Spoilt.opReadBlock hdriver hbytes hlong rfl ?_ ?_ ?_ hstart hbuffer ht
      · exact ⟨hmidway.opQ, hmidway.cb, hmidway.writing, hmidway.unanswered⟩
      · rfl
      · exact hrequests
    · have hfirst := congrArg (·[0]?) hrequests
      have hinput := @Progress.reply file _ plainSystem _ _ _ _ _ _ hfirst
      rcases hsafe [] hnone _ hinput with ⟨t, ht⟩
      refine ih [] hnone _ hinput t ht ?_
      rw [foldl_nil, step_reply hfirst] at ht
      refine Spoilt.opReadBlockCb hbytes hlong ?_ ?_ ?_ hstart hbuffer ht
      · exact ⟨hmidway.opQ, hmidway.cb, hmidway.writing, hmidway.unanswered⟩
      · exact hsources
      · exact congrArg (·.eraseIdx 0) hrequests
    · exact absurd (hopen.symm.trans hanswers).symm (cons_ne_nil _ _)

lemma Begun.spoilt (h : Begun file op fs) : Spoilt op fs :=
  .handler ⟨h.opQ, h.cb, h.writing, h.unanswered⟩ h.sources h.requests h.current.ge (.inl h.current)

end Main

/-- A file of ones. -/
def TransparentFile.ones (length : ℕ) (h : length ≤ 65535) : TransparentFile := ⟨fun _ => 1, length, h⟩

/-- A read of a transparent file that is about to begin. -/
def SimFsOp.reading (offset numBytes length : ℕ) : SimFsOp where
  serial := 0
  context := 0
  id := 0x6f07
  fileStructure := .transparent
  isRead := true
  infoOnly := false
  offset := offset
  numBytes := numBytes
  path := []
  cb := true
  buffer := []
  length := length
  recordLength := length
  current := offset / 256

/-- A file system that is about to begin it, with cache files of ones. -/
def SimFs.reading (op : SimFsOp) (fd : Option Fd) (bitmap : Bitmap 8 32) : SimFs :=
  { SimFs.new fun _ _ => some ⟨fun _ => 1, 0⟩ with
    opQ := [op], sources := [.readBlock], fd := fd, bitmap := bitmap }

lemma begun_reading {length offset numBytes : ℕ} (hlength : length ≤ 65535) (hbytes : 0 < numBytes)
    (hwithin : offset + numBytes ≤ length) (fd : Option Fd) (bitmap : Bitmap 8 32) :
    Begun (.ones length hlength) (.reading offset numBytes length)
      (.reading (.reading offset numBytes length) fd bitmap) where
  opQ := ⟨[], rfl⟩
  sources := rfl
  requests := rfl
  writing := rfl
  unanswered := rfl
  cb := rfl
  current := rfl
  length := rfl
  recordLength := rfl
  bytes := hbytes
  within := hwithin
  agrees := fun _ _ _ _ _ => rfl

/-- For a driver that reads transparent files, whatever the clients do, and whichever blocks are
in the cache: the reads of a range of a file are served, whatever the octets of the file are,
exactly when the range ends in the first 256 octets of the file. -/
theorem serves_iff {driver : SimDriver} (clients : ℕ → List Call)
    (hdriver : driver.readFileTransparent = true) {length offset numBytes : ℕ} (hlength : length ≤
    65535) (hbytes : 0 < numBytes) (hwithin : offset + numBytes ≤ length) (fd : Option Fd)
    (bitmap : Bitmap 8 32) : (∀ (file : TransparentFile) (op : SimFsOp) (fs : SimFs), file.length =
    length → op.offset = offset → op.numBytes = numBytes → fs.fd = fd → fs.bitmap = bitmap →
    Begun file op fs → Serves driver clients file op fs) ↔ offset + numBytes ≤ 256 := by
  constructor
  · intro hall
    by_contra hlong
    have hbegun := begun_reading hlength hbytes hwithin fd bitmap
    have hserves := hall _ _ _ rfl rfl rfl rfl rfl hbegun
    exact hserves.not_spoilt hdriver hbytes (Nat.not_le.mp hlong) (show (1 : UInt8) ≠ 0 by decide)
      hbegun.spoilt
  · intro hfirst file op fs _ hoffset hbytes' _ _ hbegun
    exact hbegun.serves hdriver (by rw [hoffset, hbytes']; exact hfirst)

/-- Five octets of a file of 300. -/
theorem serves_iff_ten_to_fifteen : (∀ (file : TransparentFile) (op : SimFsOp) (fs : SimFs),
    file.length = 300 → op.offset = 10 → op.numBytes = 5 → fs.fd = none → fs.bitmap = .empty →
    Begun file op fs → Serves fullDriver (fun _ => []) file op fs) ↔ 10 + 5 ≤ 256 :=
  serves_iff (fun _ => []) rfl (by omega) (by omega) (by omega) none .empty

/-- A file of 257 octets that is read from its beginning, with nothing of it in the cache: the
second block is copied over the first one. -/
theorem two_blocks_not_served : Begun (.ones 257 (by omega)) (.reading 0 257 257)
    (.reading (.reading 0 257 257) none .empty) ∧ ¬ Serves fullDriver (fun _ => [])
    (.ones 257 (by omega)) (.reading 0 257 257) (.reading (.reading 0 257 257) none .empty) := by
  have hbegun := begun_reading (show 257 ≤ 65535 by omega) (show 0 < 257 by omega)
    (show 0 + 257 ≤ 257 by omega) none .empty
  refine ⟨hbegun, fun hserves => ?_⟩
  exact hserves.not_spoilt rfl (show 0 < 257 by omega) (show 256 < 0 + 257 by omega)
    (show (1 : UInt8) ≠ 0 by decide) hbegun.spoilt

end Phonelets.Simfs
