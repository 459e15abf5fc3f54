import Phonelets.Simfs.Faults
import Phonelets.Simfs.QueueRuns

/-! # The information about a file

A read takes the length and the record length of its file from the driver or from the front of
a cache file. How many blocks or records it then counts, and where it looks for them, follows
from these numbers alone. `SimFs.InfoFits` is what they have to meet, and `file_info_safe` says
that in a run of such steps no record length of zero is divided by, the bitmap has all the
bits that are looked for and the local buffer room for the records, while a cache file gives
back the information that was stored in it.
-/

namespace Phonelets.Simfs

open List

/-! ## The front of a cache file -/

/-- The information is in the front of the file. -/
structure CacheFile.Holds (file : CacheFile) (info : FileInfo) : Prop where
  size : cacheHeaderSize ≤ file.size
  front : file.octets.At 0 ((SimFs.fileinfo info).take fileInfoSize)

/-- The header gives the information, with the length of a transparent file as its record
length, as an operation takes it from the driver. -/
structure SimFs.CacheHeader.Gives (header : SimFs.CacheHeader) (info : FileInfo) : Prop where
  errorType : header.errorType = 0
  length : header.length = info.length
  structureCode : header.structureCode = info.fileStructure.code
  recordLength : header.recordLength =
    if info.fileStructure = .transparent then info.length else info.recordLength
  fileStatus : header.fileStatus = info.fileStatus

lemma toNat_octets {n : ℕ} (h : n ≤ 65535) :
    (UInt8.ofNat (n / 256)).toNat * 256 + (UInt8.ofNat n).toNat = n := by
  rw [UInt8.toNat_ofNat', UInt8.toNat_ofNat']
  omega

variable {file : CacheFile}

lemma CacheFile.Holds.gives {info : FileInfo} (h : file.Holds info) (hlength : info.length ≤ 65535)
    (hrecord : info.recordLength ≤ 65535) : (SimFs.cacheHeader file).Gives info := by
  have hfront := h.front
  have hoctets : file.octets 0 = 0 ∧ file.octets 1 = .ofNat (info.length / 256) ∧
      file.octets 2 = .ofNat info.length ∧ file.octets 3 = info.fileStructure.code ∧
      file.octets 4 = .ofNat (info.recordLength / 256) ∧ file.octets 5 = .ofNat info.recordLength ∧
      file.octets 6 = info.fileStatus := by
    simpa [SimFs.fileinfo, fileInfoSize, Memory.at_cons, Memory.at_nil] using hfront
  rcases hoctets with ⟨h0, h1, h2, h3, h4, h5, h6⟩
  have hkind : info.fileStructure.code = FileStructure.transparent.code ↔
      info.fileStructure = .transparent :=
    ⟨FileStructure.code_inj, congrArg FileStructure.code⟩
  constructor
  case errorType => exact h0
  case length =>
    unfold SimFs.cacheHeader
    rw [h1, h2]
    exact toNat_octets hlength
  case structureCode => exact h3
  case recordLength =>
    unfold SimFs.cacheHeader
    dsimp only
    rw [h1, h2, h3, h4, h5, toNat_octets hlength, toNat_octets hrecord]
    exact if_congr hkind rfl rfl
  case fileStatus => exact h6

lemma CacheFile.holds_write (info : FileInfo) :
    (CacheFile.empty.write 0 (SimFs.fileinfo info)).Holds info := by
  have hne : SimFs.fileinfo info ≠ [] := cons_ne_nil _ _
  unfold CacheFile.write
  rw [if_neg hne]
  constructor
  · exact Nat.le_max_right _ _
  · have hat := Memory.at_write CacheFile.empty.octets 0 (SimFs.fileinfo info)
    rw [← take_append_drop fileInfoSize (SimFs.fileinfo info), Memory.at_append] at hat
    rw [take_append_drop] at hat
    exact hat.1

lemma CacheFile.Holds.write {info : FileInfo} (h : file.Holds info) {pos : ℕ}
    (hpos : fileInfoSize ≤ pos) (data : List UInt8) : (file.write pos data).Holds info := by
  unfold CacheFile.write
  split_ifs
  · exact h
  · refine ⟨le_trans h.size (Nat.le_max_left _ _), h.front.write (.inl ?_)⟩
    rw [length_take]
    omega

/-- The information that was stored last in each cache file, by the card and the file id. -/
abbrev Noted : Type := ℕ → ℕ → Option FileInfo

/-- The information is noted where the front of a cache file is written as a whole. A file that
is opened for it and gets less holds none. -/
def Noted.store (noted : Noted) (sys : System) (id : ℕ) (info : FileInfo) : Noted :=
  match sys.card with
  | none => noted
  | some card =>
    if info.cacheable ∧ sys.opens then fun c i =>
      if c = card ∧ i = id then
        if cacheHeaderSize ≤ sys.stores 0 then some info else none
      else noted c i
    else noted

def Noted.reply (noted : Noted) (sys : System) (id : ℕ) : Option FileInfo → Noted
  | none => noted
  | some info => noted.store sys id info

/-- The cache files hold what is noted of them. -/
def Recorded (noted : Noted) (cache : ℕ → ℕ → Option CacheFile) : Prop :=
  ∀ card id info, noted card id = some info → (info.length ≤ 65535 ∧ info.recordLength ≤ 65535) ∧
    ∃ file, cache card id = some file ∧ file.Holds info

variable {noted : Noted} {fs : SimFs}

lemma Recorded.setCacheFile {fd : Fd} (h : Recorded noted fs.cache) (hfile : ∀ info, (fs.cacheFile
    fd).Holds info → file.Holds info) : Recorded noted (fs.setCacheFile fd file).cache := by
  intro card id info hnoted
  rcases h card id info hnoted with ⟨hrange, old, hold, hholds⟩
  refine ⟨hrange, ?_⟩
  unfold SimFs.setCacheFile
  by_cases hsame : card = fd.card ∧ id = fd.id
  · refine ⟨file, if_pos hsame, hfile info ?_⟩
    unfold SimFs.cacheFile
    rw [← hsame.1, ← hsame.2, hold]
    exact hholds
  · exact ⟨old, (if_neg hsame).trans hold, hholds⟩

lemma cacheBlock_eq {sys : System} {block blockLen numBytes : ℕ} {data : List UInt8} {t : SimFs}
    (h : fs.cacheBlock sys block blockLen data numBytes = some t) : ∃ bitmap cache, t = { fs with
    bitmap := bitmap, cache := cache } ∧ (bitmap = fs.bitmap ∨ fs.fd.isSome ∧ block < 256 ∧ bitmap =
    fs.bitmap.mark block) ∧ ∀ noted, Recorded noted fs.cache → Recorded noted cache := by
  unfold SimFs.cacheBlock at h
  cases hfd : fs.fd with
  | none =>
    rw [hfd] at h
    cases h
    exact ⟨fs.bitmap, fs.cache, by rw [← hfd], .inl rfl, fun _ hold => hold⟩
  | some fd =>
    rw [hfd] at h
    dsimp only at h
    have hblock : fileInfoSize ≤ block * blockLen + cacheHeaderSize :=
      le_trans (by decide) (Nat.le_add_left _ _)
    split_ifs at h with hshort hstored hindex hbit
    · cases h
      refine ⟨fs.bitmap, _, by rw [← hfd]; rfl, .inl rfl, fun noted hold => hold.setCacheFile ?_⟩
      exact fun info hholds => hholds.write hblock _
    · cases h
      refine ⟨fs.bitmap, _, by rw [← hfd]; rfl, .inl rfl, fun noted hold => hold.setCacheFile ?_⟩
      exact fun info hholds => hholds.write hblock _
    · cases h
      refine ⟨_, _, by rw [← hfd]; rfl, .inr ⟨rfl, by omega, rfl⟩, fun noted hold => hold.setCacheFile ?_⟩
      exact fun info hholds => (hholds.write hblock _).write (Nat.le_add_left _ _) _

/-! ## What the information has to meet -/

/-- The blocks of the range have bits, or the block in front of those that have none is one of
which the read takes less than nothing. A length of -1 is as good as that of any block in the
cache. -/
def BlocksFit (offset numBytes : ℕ) (bitmap : Bitmap 8 32) : Prop :=
  (offset + numBytes - 1) / 256 < 256 ∨ numBytes < 65279 ∨
    numBytes = 65279 ∧ bitmap.test 255 = false

/-- The records have bits, and those that are in the cache room in the local buffer. -/
def RecordsFit (length recordLength : ℕ) (bitmap : Bitmap 8 32) : Prop :=
  length / recordLength ≤ 256 ∧
    (recordLength ≤ 256 ∨ ∀ k < length / recordLength, bitmap.test k = false)

instance (offset numBytes : ℕ) (bitmap : Bitmap 8 32) : Decidable (BlocksFit offset numBytes bitmap) :=
  inferInstanceAs (Decidable (_ ∨ _ ∨ _ ∧ _))

instance (length recordLength : ℕ) (bitmap : Bitmap 8 32) :
    Decidable (RecordsFit length recordLength bitmap) :=
  inferInstanceAs (Decidable (_ ∧ (_ ∨ _)))

/-- The information is fit for the operation, with the bitmap of the cache file if one is open. -/
def SimFsOp.Fits (op : SimFsOp) (length recordLength : ℕ) (bitmap : Option (Bitmap 8 32)) : Prop :=
  if op.fileStructure = .transparent then
    ∀ b ∈ bitmap, BlocksFit op.offset (if op.numBytes = 0 then length else op.numBytes) b
  else recordLength ≠ 0 ∧ ∀ b ∈ bitmap, RecordsFit length recordLength b

instance (op : SimFsOp) (length recordLength : ℕ) (bitmap : Option (Bitmap 8 32)) :
    Decidable (op.Fits length recordLength bitmap) :=
  if hkind : op.fileStructure = .transparent then
    -- the bitmap that there is, and not all the bitmaps that there are
    have := Option.decidableForallMem
      (p := BlocksFit op.offset (if op.numBytes = 0 then length else op.numBytes)) bitmap
    decidable_of_iff
      (∀ b ∈ bitmap, BlocksFit op.offset (if op.numBytes = 0 then length else op.numBytes) b)
      (by rw [SimFsOp.Fits, if_pos hkind])
  else
    have := Option.decidableForallMem (p := RecordsFit length recordLength) bitmap
    decidable_of_iff (recordLength ≠ 0 ∧ ∀ b ∈ bitmap, RecordsFit length recordLength b)
      (by rw [SimFsOp.Fits, if_neg hkind])

/-- The operation is about to read the contents of its file. -/
def SimFsOp.Reading (op : SimFsOp) : Prop := op.cb = true ∧ op.isRead = true ∧ op.infoOnly = false

instance (op : SimFsOp) : Decidable op.Reading := inferInstanceAs (Decidable (_ ∧ _ ∧ _))

namespace SimFs

/-- The front of a cache file is written, all of it. -/
def StoresInfo (sys : System) (info : FileInfo) : Prop :=
  sys.card.isSome = true ∧ info.cacheable = true ∧ sys.opens = true ∧ cacheHeaderSize ≤ sys.stores 0

instance (sys : System) (info : FileInfo) : Decidable (StoresInfo sys info) :=
  inferInstanceAs (Decidable (_ ∧ _ ∧ _ ∧ _))

/-- The condition on a step: information that a read takes over, from a cache file or from the
driver, is fit for it. -/
def InfoFits (fs : SimFs) : Input → Prop
  | .dispatch sys => fs.writing = none → ∀ op ∈ fs.opQ.head?, fs.sources.head? = some .opNext →
      op.Reading → ∀ found ∈ fs.cachedFile sys op, found.2.errorType = 0 →
        found.2.structureCode = op.fileStructure.code →
          op.Fits found.2.length found.2.recordLength (some found.2.bitmap)
  | .reply n (.info (some info)) sys => ∀ op ∈ fs.opQ.head?, ∀ r ∈ fs.requests[n]?,
      r.2.AnsweredBy (.info (some info)) = true → op.Reading → info.fileStructure = op.fileStructure →
        op.Fits info.length info.recordLength (if StoresInfo sys info then some .empty else none)
  | _ => True

instance (fs : SimFs) : ∀ input, Decidable (fs.InfoFits input)
  | .call _ => .isTrue trivial
  | .dispatch _ => inferInstanceAs (Decidable (_ → ∀ op ∈ _, _ → _ → ∀ found ∈ _, _))
  | .reply _ (.info none) _ => .isTrue trivial
  | .reply _ (.info (some _)) _ => inferInstanceAs (Decidable (∀ op ∈ _, ∀ r ∈ _, _))
  | .reply _ (.data _) _ => .isTrue trivial
  | .reply _ (.write _) _ => .isTrue trivial
  | .driverReturns => .isTrue trivial

/-- What is noted after the input: the driver gives the information for the head of the queue. -/
def noting (fs : SimFs) (noted : Noted) : Input → Noted
  | .reply n (.info info) sys =>
    match fs.requests[n]?, fs.opQ with
    | some (_, .readFileInfo ..), op :: _ => noted.reply sys op.id info
    | _, _ => noted
  | _ => noted

lemma noting_of_ne {fs : SimFs} {noted : Noted} {n : ℕ} {sys : System} {reply : Reply}
    (h : ∀ serial id path, fs.requests[n]? ≠ some (serial, .readFileInfo id path)) :
    fs.noting noted (.reply n reply sys) = noted := by
  cases reply with
  | info info =>
    unfold noting
    dsimp only
    split
    · rename_i hrequest _
      exact absurd hrequest (h _ _ _)
    · rfl
  | data => rfl
  | write => rfl

/-- A cache file that is accepted gives the information that is noted of it. -/
def Recovers (fs : SimFs) (noted : Noted) : Prop :=
  ∀ (sys : System) (op : SimFsOp) (fd : Fd) (header : CacheHeader),
    fs.cachedFile sys op = some (fd, header) →
      ∀ info, noted fd.card fd.id = some info → header.Gives info

end SimFs

/-- Lengths as a card gives them, in two octets. -/
def Input.InRange : Input → Prop
  | .reply _ (.info (some info)) _ => info.length ≤ 65535 ∧ info.recordLength ≤ 65535
  | _ => True

instance : ∀ input : Input, Decidable input.InRange
  | .call _ => .isTrue trivial
  | .dispatch _ => .isTrue trivial
  | .reply _ (.info none) _ => .isTrue trivial
  | .reply _ (.info (some _)) _ => inferInstanceAs (Decidable (_ ∧ _))
  | .reply _ (.data _) _ => .isTrue trivial
  | .reply _ (.write _) _ => .isTrue trivial
  | .driverReturns => .isTrue trivial

lemma Recorded.recovers (h : Recorded noted fs.cache) : fs.Recovers noted := by
  intro sys op fd header hfile info hnoted
  unfold SimFs.cachedFile at hfile
  rcases Option.bind_eq_some_iff.mp hfile with ⟨card, -, hcard⟩
  rcases Option.bind_eq_some_iff.mp hcard with ⟨file, hcached, haccepted⟩
  dsimp only at haccepted
  split_ifs at haccepted
  cases haccepted
  rcases h card op.id info hnoted with ⟨⟨hlength, hrecord⟩, file', hcached', hholds⟩
  rw [hcached, Option.some.injEq] at hcached'
  subst hcached'
  exact hholds.gives hlength hrecord

/-! ## What the head of the queue keeps of it -/

/-- What is left to read of the blocks has bits. -/
def BlocksAhead (fs : SimFs) (op : SimFsOp) : Prop :=
  fs.fd.isSome = true → op.current < 256 ∧ BlocksFit op.offset op.numBytes fs.bitmap

/-- What is left to read of the records has bits, and those in the cache have room. -/
structure RecordsAhead (fs : SimFs) (op : SimFsOp) : Prop where
  kind : op.fileStructure ≠ .transparent
  length : op.recordLength ≠ 0
  one : 1 ≤ op.current
  bits : fs.fd.isSome = true → op.total ≤ 256 ∧
    (op.recordLength ≤ 256 ∨ ∀ k, op.current ≤ k + 1 → k < op.total → fs.bitmap.test k = false)

/-- No cache file is open. -/
def NoCache (fs : SimFs) : Prop := fs.fd = none ∧ fs.bitmap = .empty

def Handler.Ahead (fs : SimFs) (op : SimFsOp) : Handler → Prop
  | .opNext => NoCache fs
  | .readBlock => BlocksAhead fs op
  | .readRecord => RecordsAhead fs op

def Request.Ahead (fs : SimFs) (op : SimFsOp) : Request → Prop
  | .readFileInfo .. => NoCache fs ∧ op.isRead = true
  | .readFileTransparent .. => BlocksAhead fs op
  | .readFileLinear .. => RecordsAhead fs op ∧ op.current ≤ op.total
  | .readFileCyclic .. => RecordsAhead fs op ∧ op.current ≤ op.total
  | _ => NoCache fs

lemma RecordsAhead.same {fs fs' : SimFs} {op : SimFsOp} (h : RecordsAhead fs op)
    (hfd : fs'.fd = fs.fd) (hbitmap : fs'.bitmap = fs.bitmap) (b : Bool) (buffer : List UInt8) :
    RecordsAhead fs' { op with cb := b, buffer := buffer } := by
  refine ⟨h.kind, h.length, h.one, ?_⟩
  rw [hfd, hbitmap]
  exact h.bits

lemma BlocksAhead.same {fs fs' : SimFs} {op : SimFsOp} (h : BlocksAhead fs op)
    (hfd : fs'.fd = fs.fd) (hbitmap : fs'.bitmap = fs.bitmap) (b : Bool) (buffer : List UInt8) :
    BlocksAhead fs' { op with cb := b, buffer := buffer } := by
  unfold BlocksAhead
  rw [hfd, hbitmap]
  exact h

lemma NoCache.same {fs fs' : SimFs} (h : NoCache fs) (hfd : fs'.fd = fs.fd)
    (hbitmap : fs'.bitmap = fs.bitmap) : NoCache fs' :=
  ⟨hfd.trans h.1, hbitmap.trans h.2⟩

lemma Handler.Ahead.same {fs fs' : SimFs} {op : SimFsOp} {handler : Handler}
    (h : handler.Ahead fs op) (hfd : fs'.fd = fs.fd) (hbitmap : fs'.bitmap = fs.bitmap) (b : Bool)
    (buffer : List UInt8) : handler.Ahead fs' { op with cb := b, buffer := buffer } := by
  cases handler with
  | opNext => exact NoCache.same h hfd hbitmap
  | readBlock => exact BlocksAhead.same h hfd hbitmap b buffer
  | readRecord => exact RecordsAhead.same h hfd hbitmap b buffer

lemma Request.Ahead.same {fs fs' : SimFs} {op : SimFsOp} {r : Request} (h : r.Ahead fs op)
    (hfd : fs'.fd = fs.fd) (hbitmap : fs'.bitmap = fs.bitmap) (b : Bool) (buffer : List UInt8) :
    r.Ahead fs' { op with cb := b, buffer := buffer } := by
  cases r with
  | readFileInfo => exact ⟨NoCache.same h.1 hfd hbitmap, h.2⟩
  | readFileTransparent => exact BlocksAhead.same h hfd hbitmap b buffer
  | readFileLinear => exact ⟨RecordsAhead.same h.1 hfd hbitmap b buffer, h.2⟩
  | readFileCyclic => exact ⟨RecordsAhead.same h.1 hfd hbitmap b buffer, h.2⟩
  | _ => exact NoCache.same h hfd hbitmap

/-- There is one idle source or one request, for the head of the queue, and what it goes on with
is within the arrays. -/
structure Bounded (noted : Noted) (fs : SimFs) : Prop where
  offsets : ∀ op ∈ fs.opQ, op.offset < 65536
  recorded : Recorded noted fs.cache
  waits : match fs.opQ with
    | [] => fs.sources = [] ∧ fs.requests = [] ∧ NoCache fs
    | op :: _ => (∃ handler, fs.sources = [handler] ∧ fs.requests = [] ∧ handler.Ahead fs op) ∨
        ∃ r, fs.sources = [] ∧ fs.requests = [(op.serial, r)] ∧ r.Ahead fs op

/-- The head of the queue is being worked on. -/
structure Busy (noted : Noted) (op : SimFsOp) (fs : SimFs) : Prop where
  opQ : ∃ rest, fs.opQ = op :: rest
  sources : fs.sources = []
  requests : fs.requests = []
  offsets : ∀ op ∈ fs.opQ, op.offset < 65536
  recorded : Recorded noted fs.cache

/-- The step faults for none of the three reasons, and what it leads to is within the arrays. -/
def Allowed (noted : Noted) : Except Fault SimFs → Prop
  | .ok t => Bounded noted t
  | .error e => e = .other

lemma offsets_call (driver : SimDriver) (c : Call)
    (h : ∀ op ∈ fs.opQ, op.offset < 65536) : ∀ op ∈ (fs.call driver c).opQ, op.offset < 65536 := by
  have hpush : ∀ new : SimFsOp, new.offset < 65536 → ∀ op ∈ (fs.push new).opQ, op.offset < 65536 := by
    intro new hnew op hop
    rcases mem_append.mp (show op ∈ fs.opQ ++ [new] from hop) with hold | hlast
    · exact h op hold
    · rw [mem_singleton.mp hlast]
      exact hnew
  cases c with
  | contextNew => exact h
  | contextFree context =>
    simp only [SimFs.call]
    split_ifs
    · intro op hop
      rcases SimFs.mem_freeOps hop with ⟨op', hmem, rfl⟩
      exact h op' hmem
    · exact h
  | readInfo context id expected =>
    simp only [SimFs.call, SimFs.readInfo]
    split_ifs
    · exact hpush _ (Nat.zero_lt_succ _)
    · exact h
    · exact h
  | read context id expected offset numBytes path =>
    simp only [SimFs.call, SimFs.read]
    split_ifs
    · exact hpush _ offset.toNat_lt
    · exact h
    · exact h
  | write context id fileStructure record data =>
    simp only [SimFs.call, SimFs.write]
    split_ifs
    · exact hpush _ (Nat.zero_lt_succ _)
    · exact h
    · exact h

namespace Busy

variable {noted : Noted} {op : SimFsOp} {fs : SimFs}

lemma setHead (h : Busy noted op fs) {p : SimFsOp} (hoffset : p.offset = op.offset) :
    Busy noted p (fs.setHead p) := by
  rcases h.opQ with ⟨rest, hq⟩
  have hnew : (fs.setHead p).opQ = p :: rest := by
    unfold SimFs.setHead
    rw [hq]
    rfl
  refine ⟨⟨rest, hnew⟩, h.sources, h.requests, ?_, h.recorded⟩
  intro o ho
  have hold := h.offsets
  rw [hq] at hold
  rw [hnew] at ho
  rcases mem_cons.mp ho with rfl | hmem
  · rw [hoffset]
    exact hold op mem_cons_self
  · exact hold o (mem_cons_of_mem _ hmem)

lemma withCache (h : Busy noted op fs) (bitmap : Bitmap 8 32) (fd : Option Fd)
    {cache : ℕ → ℕ → Option CacheFile} (hcache : Recorded noted cache) :
    Busy noted op { fs with bitmap := bitmap, fd := fd, cache := cache } :=
  ⟨h.opQ, h.sources, h.requests, h.offsets, hcache⟩

lemma idleAdd (h : Busy noted op fs) {handler : Handler} (hahead : handler.Ahead fs op) :
    Bounded noted (fs.idleAdd handler) := by
  rcases h.opQ with ⟨rest, hq⟩
  refine ⟨h.offsets, h.recorded, ?_⟩
  rw [show (fs.idleAdd handler).opQ = op :: rest from hq]
  left
  exact ⟨handler, congrArg (· ++ [handler]) h.sources, h.requests,
    @Handler.Ahead.same fs (fs.idleAdd handler) op handler hahead rfl rfl op.cb op.buffer⟩

lemma request (h : Busy noted op fs) {r : Request} (hahead : r.Ahead fs op) :
    Bounded noted (fs.request op r) := by
  rcases h.opQ with ⟨rest, hq⟩
  refine ⟨h.offsets, h.recorded, ?_⟩
  rw [show (fs.request op r).opQ = op :: rest from hq]
  right
  exact ⟨r, h.sources, congrArg (· ++ [(op.serial, r)]) h.requests,
    @Request.Ahead.same fs (fs.request op r) op r hahead rfl rfl op.cb op.buffer⟩

variable {t : SimFs}

lemma endCurrent (h : Busy noted op fs) (ht : fs.endCurrent = some t) : Bounded noted t := by
  rcases h.opQ with ⟨rest, hq⟩
  unfold SimFs.endCurrent at ht
  rw [hq] at ht
  cases ht
  refine ⟨?_, h.recorded, ?_⟩
  · intro o ho
    exact h.offsets o (hq ▸ mem_cons_of_mem _ ho)
  · cases rest with
    | nil => exact ⟨h.sources, h.requests, rfl, rfl⟩
    | cons next rest => exact .inl ⟨.opNext, congrArg (· ++ [Handler.opNext]) h.sources, h.requests, rfl, rfl⟩

lemma calls (h : Busy noted op fs) (driver : SimDriver) (cs : List Call) :
    ∃ b, Busy noted { op with cb := b } (cs.foldl (SimFs.call driver) fs) := by
  rcases h.opQ with ⟨rest, hq⟩
  have haside := Aside.calls hq driver cs
  rcases haside.opQ with ⟨b, rest', hq', -⟩
  refine ⟨b, ⟨rest', hq'⟩, haside.sources.trans h.sources, haside.requests.trans h.requests, ?_, ?_⟩
  · have hoffsets := h.offsets
    clear haside hq' hq h
    induction cs generalizing fs with
    | nil => exact hoffsets
    | cons c cs ih => exact ih (offsets_call driver c hoffsets)
  · rw [haside.cache]
    exact h.recorded

lemma invoke (h : Busy noted op fs) (driver : SimDriver) (clients : ℕ → List Call) (answer : Answer) :
    (∃ b, Busy noted { op with cb := b } (fs.invoke driver clients op answer)) ∧
      (fs.invoke driver clients op answer).fd = fs.fd ∧
      (fs.invoke driver clients op answer).bitmap = fs.bitmap := by
  rcases h.opQ with ⟨rest, hq⟩
  have hcalled : Busy noted op { fs with
      called := fs.called + 1, log := .answered op.serial op.context answer :: fs.log } :=
    ⟨h.opQ, h.sources, h.requests, h.offsets, h.recorded⟩
  have haside := @Aside.calls op { fs with
    called := fs.called + 1, log := .answered op.serial op.context answer :: fs.log } rest hq driver
    (clients fs.called)
  exact ⟨hcalled.calls driver (clients fs.called), haside.fd, haside.bitmap⟩

lemma answerEnd (h : Busy noted op fs) {driver : SimDriver} {clients : ℕ → List Call} {answer :
    Answer} (ht : (fs.invoke driver clients op answer).endCurrent = some t) : Bounded noted t := by
  rcases (h.invoke driver clients answer).1 with ⟨b, hbusy⟩
  exact hbusy.endCurrent ht

lemma opError (h : Busy noted op fs) {driver : SimDriver} {clients : ℕ → List Call}
    (ht : fs.opError driver clients = some t) : Bounded noted t := by
  rcases h.opQ with ⟨rest, hq⟩
  unfold SimFs.opError at ht
  rw [hq] at ht
  dsimp only at ht
  split_ifs at ht
  · exact h.answerEnd ht
  · exact h.endCurrent ht

end Busy

lemma allowed_orOther {r : Option SimFs} (h : ∀ t, r = some t → Bounded noted t) :
    Allowed noted (Checked.orOther r) := by
  cases r with
  | none => rfl
  | some t => exact h t rfl

variable {α : Type}

lemma ok_error {a : α} {e : Fault} (h : (Except.ok a : Except Fault α) = .error e) :
    e = .other := by
  cases h

lemma orOther_error {r : Option α} {e : Fault} (h : Checked.orOther r = .error e) : e = .other := by
  cases r with
  | none => exact (Except.error.inj h).symm
  | some a => cases h

lemma orOther_ok {r : Option α} {a : α} (h : Checked.orOther r = .ok a) : r = some a := by
  cases r with
  | none => cases h
  | some b => exact congrArg some (Except.ok.inj h)

lemma allowed_bind {r : Except Fault α} {f : α → Except Fault SimFs} (herror : ∀ e, r = .error e →
    e = .other) (hok : ∀ a, r = .ok a → Allowed noted (f a)) : Allowed noted (r >>= f) := by
  cases r with
  | error e => exact herror e rfl
  | ok a => exact hok a rfl

/-! ## The handlers and the callbacks -/

section Steps

variable {noted : Noted} {op : SimFsOp} {fs : SimFs} {sys : System} (driver : SimDriver)
  (clients : ℕ → List Call)

lemma checked_cacheBlock {block blockLen numBytes : ℕ} {data : List UInt8}
    (hblock : fs.fd.isSome = true → block < 256) : Checked.cacheBlock sys block blockLen data
    numBytes fs = Checked.orOther (fs.cacheBlock sys block blockLen data numBytes) := by
  unfold Checked.cacheBlock
  refine if_neg ?_
  rintro ⟨hfd, -, -, hindex⟩
  have hlt := hblock hfd
  omega

lemma tocopy_last (h : op.current = 255) : op.tocopy ≤ op.numBytes - 65280 := by
  unfold SimFsOp.tocopy
  rw [h]
  split_ifs
  · exact le_trans (min_le_right _ _) (by omega)
  · exact le_trans (min_le_right _ _) (by omega)

/-- A block of which something is taken is not the last one that has a bit, if it is not the
last one of the range. -/
lemma BlocksFit.succ {bitmap : Bitmap 8 32} (h : BlocksFit op.offset op.numBytes bitmap)
    (hcurrent : op.current < 256) (hmore : op.current + 1 ≤ op.endBlock) (hcopy : 0 ≤ op.tocopy ∨
    op.tocopy = -1 ∧ bitmap.test op.current = true) : op.current + 1 < 256 := by
  by_contra hlast
  have hcurrent' : op.current = 255 := by omega
  have htocopy := tocopy_last hcurrent'
  unfold SimFsOp.endBlock at hmore
  rcases h with hend | hshort | ⟨hbytes, hbit⟩
  · omega
  · omega
  · rcases hcopy with hpos | ⟨-, hpresent⟩
    · omega
    · rw [hcurrent', hbit] at hpresent
      exact Bool.false_ne_true hpresent

lemma Busy.opReadBlockCb (h : Busy noted op fs) (hahead : BlocksAhead fs op) (reply : Option
    (List UInt8)) : Allowed noted (Checked.opReadBlockCb driver clients sys reply fs) := by
  rcases h.opQ with ⟨rest, hq⟩
  unfold Checked.opReadBlockCb
  rw [hq]
  cases reply with
  | none => exact allowed_orOther fun t ht => h.opError ht
  | some data =>
    dsimp only
    by_cases hcopy : op.tocopy < 0 ∨ data.length < op.dataoff + op.tocopy.toNat
    · rw [if_pos hcopy]
      rfl
    rw [if_neg hcopy]
    refine allowed_bind (fun e he => orOther_error he) fun buffer _ => ?_
    have hhead := h.setHead (p := { op with buffer := buffer }) rfl
    have hbit : (fs.setHead { op with buffer := buffer }).fd.isSome = true → op.current < 256 :=
      fun hfd => (hahead hfd).1
    rw [checked_cacheBlock hbit]
    refine allowed_bind (fun e he => orOther_error he) fun fs' hstored => ?_
    rcases cacheBlock_eq (orOther_ok hstored) with ⟨bitmap, cache, rfl, hbitmap, hrecorded⟩
    have hcached := hhead.withCache bitmap fs.fd (hrecorded noted h.recorded)
    by_cases hcb : op.cb = true
    · rw [if_pos hcb]
      have hnext := hcached.setHead (p := { op with buffer := buffer, current := op.current + 1 }) rfl
      split_ifs with hlast
      · exact allowed_orOther fun t ht => hnext.answerEnd ht
      · refine hnext.idleAdd ?_
        intro hfd
        rcases hahead hfd with ⟨hcurrent, hfit⟩
        refine ⟨hfit.succ hcurrent (Nat.le_of_not_lt hlast) (.inl (by omega)), ?_⟩
        rcases hbitmap with hsame | ⟨-, -, hmarked⟩
        · show BlocksFit op.offset op.numBytes bitmap
          rw [hsame]
          exact hfit
        · -- the bit that is set is not the last one, as octets of the block are taken
          show BlocksFit op.offset op.numBytes bitmap
          rcases hfit with hend | hshort | ⟨hbytes, hbit⟩
          · exact .inl hend
          · exact .inr (.inl hshort)
          · have hother : 255 ≠ op.current := by
              intro heq
              have htocopy := tocopy_last heq.symm
              omega
            refine .inr (.inr ⟨hbytes, ?_⟩)
            rw [hmarked, Bitmap.test_mark _ (by omega), decide_eq_false hother]
            exact hbit
    · rw [if_neg hcb]
      exact allowed_orOther fun t ht => hcached.endCurrent ht

lemma readBlocks_ahead {bitmap : Bitmap 8 32} (fd : Fd) (file : CacheFile) (n : ℕ) (hn :
    op.endBlock + 1 - op.current = n) (hfit : BlocksFit op.offset op.numBytes bitmap) (hcurrent :
    op.current < 256 ∨ op.endBlock < op.current) : (∀ e, Checked.readBlocks sys bitmap fd file n op
    = .error e → e = .other) ∧ ∀ o, Checked.readBlocks sys bitmap fd file n op = .ok o → ∃ buffer
    current, o = { op with buffer := buffer, current := current } ∧ (current < 256 ∨ op.endBlock <
    current) := by
  induction n generalizing op with
  | zero =>
    refine ⟨fun _ => ok_error, fun o ho => ?_⟩
    cases ho
    exact ⟨op.buffer, op.current, rfl, hcurrent⟩
  | succ n ih =>
    have hlt : op.current < 256 := hcurrent.resolve_right (by omega)
    have hstop : ∀ o, Except.ok (ε := Fault) op = .ok o →
        ∃ buffer current, o = { op with buffer := buffer, current := current } ∧
          (current < 256 ∨ op.endBlock < current) := by
      intro o ho
      cases ho
      exact ⟨op.buffer, op.current, rfl, hcurrent⟩
    unfold Checked.readBlocks
    rw [if_neg (by omega)]
    by_cases hpresent : bitmap.test op.current = true
    · rw [if_pos hpresent]
      cases hdata : SimFs.cachedBlock sys fd file op with
      | none => exact ⟨fun _ => ok_error, hstop⟩
      | some data =>
        dsimp only
        cases hcopied : copyInto op.buffer op.bufoff data with
        | none =>
          refine ⟨fun e he => (Except.error.inj he).symm, fun o ho => ?_⟩
          cases ho
        | some buffer =>
          have hcopy : 0 ≤ op.tocopy ∨ op.tocopy = -1 ∧ bitmap.test op.current = true := by
            have hmin := (cachedBlock_length hdata).1
            by_cases hpos : 0 ≤ op.tocopy
            · exact .inl hpos
            · exact .inr ⟨by omega, hpresent⟩
          have hcurrent' : op.current + 1 < 256 ∨ op.endBlock < op.current + 1 := by
            by_cases hmore : op.current + 1 ≤ op.endBlock
            · exact .inl (hfit.succ hlt hmore hcopy)
            · exact .inr (Nat.lt_of_not_le hmore)
          rcases @ih { op with buffer := buffer, current := op.current + 1 }
            (by show op.endBlock + 1 - (op.current + 1) = n; omega) hfit hcurrent' with
            ⟨herror, hok⟩
          refine ⟨herror, fun o ho => ?_⟩
          rcases hok o ho with ⟨buffer', current', heq, hnext⟩
          exact ⟨buffer', current', heq, hnext⟩
    · rw [if_neg hpresent]
      exact ⟨fun _ => ok_error, hstop⟩

lemma Busy.opReadBlock (h : Busy noted op fs) (hahead : BlocksAhead fs op) :
    Allowed noted (Checked.opReadBlock driver clients sys fs) := by
  rcases h.opQ with ⟨rest, hq⟩
  unfold Checked.opReadBlock
  rw [hq]
  dsimp only
  by_cases hdead : (!op.cb) = true
  · rw [if_pos hdead]
    exact allowed_orOther fun t ht => h.endCurrent ht
  rw [if_neg hdead]
  by_cases hmemory : op.current = op.startBlock ∧ (op.numBytes = 0 ∨ sys.memory = false)
  · rw [if_pos hmemory]
    exact allowed_orOther fun t ht => (h.setHead (p := { op with buffer := [] }) rfl).opError ht
  rw [if_neg hmemory]
  generalize hop : (if op.current = op.startBlock then
    { op with buffer := List.replicate op.numBytes 0 } else op) = op₁
  have hop₁ : ∃ buffer, op₁ = { op with buffer := buffer } := by
    rw [← hop]
    split_ifs
    · exact ⟨_, rfl⟩
    · exact ⟨op.buffer, rfl⟩
  rcases hop₁ with ⟨buffer, rfl⟩
  -- the blocks that the loop leaves have bits
  have hloop : (∀ e, Checked.readCachedBlocks sys fs { op with buffer := buffer } = .error e → e = .other) ∧
      ∀ o, Checked.readCachedBlocks sys fs { op with buffer := buffer } = .ok o →
        ∃ buffer current, o = { op with buffer := buffer, current := current } ∧
          (fs.fd.isSome = true → current < 256 ∨ op.endBlock < current) := by
    unfold Checked.readCachedBlocks
    cases hfd : fs.fd with
    | none =>
      refine ⟨nofun, fun o ho => ?_⟩
      cases ho
      exact ⟨buffer, op.current, rfl, fun hsome => absurd hsome Bool.false_ne_true⟩
    | some fd =>
      rcases hahead (by rw [hfd]; rfl) with ⟨hcurrent, hfit⟩
      rcases @readBlocks_ahead { op with buffer := buffer } sys fs.bitmap fd (fs.cacheFile fd) _ rfl hfit
        (.inl hcurrent) with ⟨herror, hok⟩
      refine ⟨herror, fun o ho => ?_⟩
      rcases hok o ho with ⟨buffer', current', heq, hnext⟩
      exact ⟨buffer', current', heq, fun _ => hnext⟩
  refine allowed_bind hloop.1 fun o ho => ?_
  rcases hloop.2 o ho with ⟨buffer', current', rfl, hcurrent⟩
  have hnext := h.setHead (p := { op with buffer := buffer', current := current' }) rfl
  dsimp only
  split_ifs with hlast hdriver
  · exact allowed_orOther fun t ht => hnext.answerEnd ht
  · refine hnext.request ?_
    intro hfd
    exact ⟨(hcurrent hfd).resolve_right hlast, (hahead hfd).2⟩
  · exact allowed_orOther fun t ht => hnext.opError ht

end Steps

/-! ## Records, information and writes -/

section Steps

variable {noted : Noted} {op : SimFsOp} {fs : SimFs} {sys : System} (driver : SimDriver)
  (clients : ℕ → List Call)

lemma Busy.advance (h : Busy noted op fs) :
    Busy noted { op with current := op.current + 1 } fs.advance := by
  rcases h.opQ with ⟨rest, hq⟩
  have heq : fs.advance = fs.setHead { op with current := op.current + 1 } := by
    unfold SimFs.advance SimFs.setHead
    rw [hq]
    rfl
  rw [heq]
  exact h.setHead rfl

lemma RecordsAhead.succ {fs' : SimFs} {b : Bool} (h : RecordsAhead fs op) (hfd : fs'.fd = fs.fd)
    (hbitmap : ∀ k, op.current ≤ k → fs'.bitmap.test k = fs.bitmap.test k) :
    RecordsAhead fs' { op with cb := b, current := op.current + 1 } := by
  refine ⟨h.kind, h.length, Nat.le_add_left 1 _, ?_⟩
  rw [hfd]
  intro hsome
  rcases h.bits hsome with ⟨htotal, hroom⟩
  refine ⟨htotal, hroom.imp_right fun hnone k hk hlt => ?_⟩
  have hk' : op.current ≤ k := Nat.le_of_succ_le_succ hk
  rw [hbitmap k hk']
  exact hnone k (Nat.le_succ_of_le hk') hlt

lemma Busy.opRetrieveCb (h : Busy noted op fs) (hahead : RecordsAhead fs op)
    (hcurrent : op.current ≤ op.total) (reply : Option (List UInt8)) :
    Allowed noted (Checked.opRetrieveCb driver clients sys reply fs) := by
  rcases h.opQ with ⟨rest, hq⟩
  have hone := hahead.one
  unfold Checked.opRetrieveCb
  rw [hq]
  dsimp only
  rw [if_neg hahead.length]
  cases reply with
  | none => exact allowed_orOther fun t ht => h.opError ht
  | some data =>
    have hbit : fs.fd.isSome = true → op.current - 1 < 256 := by
      intro hfd
      have htotal := (hahead.bits hfd).1
      omega
    dsimp only
    rw [checked_cacheBlock hbit]
    refine allowed_bind (fun e he => orOther_error he) fun fs' hstored => ?_
    rcases cacheBlock_eq (orOther_ok hstored) with ⟨bitmap, cache, rfl, hbitmap, hrecorded⟩
    have hcached := h.withCache bitmap fs.fd (hrecorded noted h.recorded)
    by_cases hcb : op.cb = true
    · rw [if_pos hcb]
      rcases hcached.invoke driver clients (.data op.length op.current data op.recordLength) with
        ⟨⟨b, hworking⟩, hfd, hkept⟩
      split_ifs with hmore
      · refine hworking.advance.idleAdd (hahead.succ hfd ?_)
        intro k hk
        show (SimFs.invoke driver clients op _ _).bitmap.test k = _
        rw [hkept]
        rcases hbitmap with hsame | ⟨-, hlt, hmarked⟩
        · rw [hsame]
        · have hother : k ≠ op.current - 1 := by omega
          show bitmap.test k = _
          rw [hmarked, Bitmap.test_mark _ (by omega), decide_eq_false hother, Bool.false_or]
      · exact allowed_orOther fun t ht => hworking.endCurrent ht
    · rw [if_neg hcb]
      exact allowed_orOther fun t ht => hcached.endCurrent ht

lemma Busy.readRecords (n : ℕ) (h : Busy noted op fs) (hn : op.total + 1 - op.current = n)
    (hahead : RecordsAhead fs op) : (∀ e, Checked.readRecords driver clients sys n fs = .error e →
    e = .other) ∧ ∀ t, Checked.readRecords driver clients sys n fs = .ok t → ∃ o, Busy noted o t ∧
    RecordsAhead t o := by
  induction n generalizing op fs with
  | zero =>
    refine ⟨fun _ => ok_error, fun t ht => ?_⟩
    cases ht
    exact ⟨op, h, hahead⟩
  | succ n ih =>
    rcases h.opQ with ⟨rest, hq⟩
    have hstop : ∀ t, Except.ok (ε := Fault) fs = .ok t → ∃ o, Busy noted o t ∧ RecordsAhead t o := by
      intro t ht
      cases ht
      exact ⟨op, h, hahead⟩
    have hone := hahead.one
    unfold Checked.readRecords
    rw [hq]
    cases hfd : fs.fd with
    | none => exact ⟨fun _ => ok_error, hstop⟩
    | some fd =>
      rcases hahead.bits (by rw [hfd]; rfl) with ⟨htotal, hroom⟩
      dsimp only
      rw [if_neg (by omega)]
      by_cases hpresent : fs.bitmap.test (op.current - 1) = true
      · have hlength : op.recordLength ≤ 256 := by
          refine hroom.resolve_right fun hnone => ?_
          have hfalse := hnone (op.current - 1) (by omega) (by omega)
          exact Bool.false_ne_true (hfalse.symm.trans hpresent)
        rw [if_pos hpresent, if_neg (Nat.not_lt.mpr hlength)]
        cases hrecord : SimFs.cachedRecord sys fd (fs.cacheFile fd) op with
        | none => exact ⟨fun _ => ok_error, hstop⟩
        | some data =>
          dsimp only
          by_cases hcb : op.cb = true
          · rw [if_pos hcb]
            rcases h.invoke driver clients (.data op.length op.current data op.recordLength) with
              ⟨⟨b, hworking⟩, hfd', hbitmap⟩
            refine ih hworking.advance (by show op.total + 1 - (op.current + 1) = n; omega)
              (hahead.succ hfd' fun k _ => ?_)
            show (SimFs.invoke driver clients op _ fs).bitmap.test k = _
            rw [hbitmap]
          · rw [if_neg hcb]
            refine ⟨fun e he => (Except.error.inj he).symm, fun t ht => ?_⟩
            cases ht
      · rw [if_neg hpresent]
        exact ⟨fun _ => ok_error, hstop⟩

lemma Busy.opReadRecord (h : Busy noted op fs) (hahead : RecordsAhead fs op) :
    Allowed noted (Checked.opReadRecord driver clients sys fs) := by
  rcases h.opQ with ⟨rest, hq⟩
  unfold Checked.opReadRecord
  rw [hq]
  dsimp only
  rw [if_neg hahead.length]
  by_cases hcb : op.cb = true
  · rw [if_pos hcb]
    have hloop := @Busy.readRecords noted op fs sys driver clients _ h rfl hahead
    refine allowed_bind hloop.1 fun fs' hfs' => ?_
    rcases hloop.2 fs' hfs' with ⟨o, hworking, hahead'⟩
    rcases hworking.opQ with ⟨rest', hq'⟩
    rw [hq']
    dsimp only
    by_cases hlast : o.total < o.current
    · rw [if_pos hlast]
      exact allowed_orOther fun t ht => hworking.endCurrent ht
    rw [if_neg hlast]
    have hcurrent := Nat.le_of_not_lt hlast
    cases hkind : o.fileStructure with
    | transparent => exact absurd hkind hahead'.kind
    | fixed =>
      dsimp only
      split_ifs
      · exact hworking.request ⟨hahead', hcurrent⟩
      · exact allowed_orOther fun t ht => hworking.opError ht
    | cyclic =>
      dsimp only
      split_ifs
      · exact hworking.request ⟨hahead', hcurrent⟩
      · exact allowed_orOther fun t ht => hworking.opError ht
  · rw [if_neg hcb]
    exact allowed_orOther fun t ht => h.endCurrent ht

lemma Busy.opWriteCb (h : Busy noted op fs) {ok : Bool} {t : SimFs}
    (ht : fs.opWriteCb driver clients ok = some t) : Bounded noted t := by
  rcases h.opQ with ⟨rest, hq⟩
  unfold SimFs.opWriteCb at ht
  rw [hq] at ht
  dsimp only at ht
  by_cases hcb : op.cb = true
  · rw [if_pos hcb] at ht
    exact h.answerEnd ht
  · rw [if_neg hcb] at ht
    exact h.endCurrent ht

end Steps

section Infos

variable {noted : Noted} {op : SimFsOp} {fs : SimFs} {sys : System} (driver : SimDriver)
  (clients : ℕ → List Call)

lemma opCacheFileinfo_stores {info : FileInfo} (hrecorded : Recorded noted fs.cache) (hrange :
    info.length ≤ 65535 ∧ info.recordLength ≤ 65535) : ∃ fd cache, fs.opCacheFileinfo sys op info =
    { fs with fd := fd, cache := cache } ∧ (fs.fd = none → fd.isSome = true → SimFs.StoresInfo sys
    info) ∧ Recorded (noted.store sys op.id info) cache := by
  unfold SimFs.opCacheFileinfo Noted.store
  cases hcard : sys.card with
  | none =>
    refine ⟨fs.fd, fs.cache, rfl, fun hnone hsome => ?_, hrecorded⟩
    rw [hnone] at hsome
    cases hsome
  | some card =>
    dsimp only
    by_cases hopens : info.cacheable = true ∧ sys.opens = true
    · rw [if_pos hopens, if_pos hopens]
      have hlen : (SimFs.fileinfo info).length = cacheHeaderSize := rfl
      refine ⟨_, _, rfl, ?_, ?_⟩
      · intro _ hsome
        refine ⟨by rw [hcard]; rfl, hopens.1, hopens.2, ?_⟩
        split_ifs at hsome with hall
        · rw [length_take, hlen] at hall
          omega
        · cases hsome
      · intro c i info' hnoted
        unfold SimFs.setCacheFile
        dsimp only at hnoted
        by_cases hsame : c = card ∧ i = op.id
        · rw [if_pos hsame] at hnoted
          split_ifs at hnoted with hall
          cases hnoted
          refine ⟨hrange, _, if_pos hsame, ?_⟩
          rw [take_of_length_le (by rw [hlen]; exact hall)]
          exact CacheFile.holds_write info
        · rw [if_neg hsame] at hnoted
          rcases hrecorded c i info' hnoted with ⟨hrange', file, hfile, hholds⟩
          exact ⟨hrange', file, (if_neg hsame).trans hfile, hholds⟩
    · rw [if_neg hopens, if_neg hopens]
      refine ⟨fs.fd, fs.cache, rfl, fun hnone hsome => ?_, hrecorded⟩
      rw [hnone] at hsome
      cases hsome

/-- What the head of the queue waits for depends on it, on the bitmap and on the descriptor. -/
lemma Bounded.same (h : Bounded noted fs) {rest rest' : List SimFsOp} (hq : fs.opQ = op :: rest)
    {fs' : SimFs} (b : Bool) (buffer : List UInt8) (hq' : fs'.opQ = { op with cb := b, buffer :=
    buffer } :: rest') (hoffsets : ∀ o ∈ fs'.opQ, o.offset < 65536) (hcache : fs'.cache = fs.cache)
    (hsources : fs'.sources = fs.sources) (hrequests : fs'.requests = fs.requests) (hfd : fs'.fd =
    fs.fd) (hbitmap : fs'.bitmap = fs.bitmap) : Bounded noted fs' := by
  refine ⟨hoffsets, by rw [hcache]; exact h.recorded, ?_⟩
  have hwaits := h.waits
  rw [hq] at hwaits
  rw [hq', hsources, hrequests]
  rcases hwaits with ⟨handler, hs, hr, hahead⟩ | ⟨r, hs, hr, hahead⟩
  · exact .inl ⟨handler, hs, hr, hahead.same hfd hbitmap b buffer⟩
  · exact .inr ⟨r, hs, hr, hahead.same hfd hbitmap b buffer⟩

lemma SimFsOp.Fits.begins {bitmap : Option (Bitmap 8 32)} {length recordLength : ℕ}
    (h : op.Fits length recordLength bitmap) (hoffset : op.offset < 65536)
    (hbitmap : fs.fd.isSome = true → bitmap = some fs.bitmap) :
    (op.fileStructure = .transparent →
      BlocksAhead fs { op with
        length := length
        numBytes := if op.numBytes = 0 then length else op.numBytes
        recordLength := recordLength
        current := op.offset / 256 }) ∧
    (op.fileStructure ≠ .transparent →
      RecordsAhead
        (fs.setHead { op with length := length, recordLength := recordLength, current := 1 })
        { op with length := length, recordLength := recordLength, current := 1 }) := by
  unfold SimFsOp.Fits at h
  constructor
  · intro hkind hfd
    rw [if_pos hkind] at h
    exact ⟨by show op.offset / 256 < 256; omega, h _ (hbitmap hfd)⟩
  · intro hkind
    rw [if_neg hkind] at h
    refine ⟨hkind, h.1, le_refl 1, fun hfd => ?_⟩
    rcases h.2 _ (hbitmap hfd) with ⟨htotal, hroom⟩
    exact ⟨htotal, hroom.imp_right fun hnone k _ hlt => hnone k hlt⟩

variable {t : SimFs}

lemma Busy.opInfoCb (h : Busy noted op fs) (hcache : NoCache fs) (hread : op.isRead = true)
    (reply : Option FileInfo) (hfits : ∀ info ∈ reply, (info.length ≤ 65535 ∧ info.recordLength ≤
    65535) ∧ (op.Reading → info.fileStructure = op.fileStructure → op.Fits info.length
    info.recordLength (if SimFs.StoresInfo sys info then some .empty else none))) (ht : fs.opInfoCb
    driver clients sys reply = some t) : Bounded (noted.reply sys op.id reply) t := by
  rcases h.opQ with ⟨rest, hq⟩
  unfold SimFs.opInfoCb at ht
  rw [hq] at ht
  cases reply with
  | none => exact h.opError ht
  | some info =>
    rcases hfits info rfl with ⟨hrange, hfit⟩
    rcases @opCacheFileinfo_stores noted op fs sys info h.recorded hrange with
      ⟨fd, cache, hstored, hopen, hrecorded⟩
    dsimp only at ht ⊢
    rw [hstored] at ht
    have hbusy : Busy (noted.store sys op.id info) op { fs with fd := fd, cache := cache } :=
      ⟨h.opQ, h.sources, h.requests, h.offsets, hrecorded⟩
    by_cases hkind : info.fileStructure ≠ op.fileStructure
    · rw [if_pos hkind] at ht
      exact hbusy.opError ht
    rw [if_neg hkind] at ht
    have hsame : info.fileStructure = op.fileStructure := not_not.mp hkind
    by_cases hdead : (!op.cb) = true
    · rw [if_pos hdead] at ht
      exact hbusy.endCurrent ht
    rw [if_neg hdead, hsame] at ht
    have hoffset := h.offsets op (hq ▸ mem_cons_self)
    have hbitmap : fd.isSome = true →
        (if SimFs.StoresInfo sys info then some .empty else none) = some fs.bitmap := by
      intro hsome
      rw [if_pos (hopen hcache.1 hsome), hcache.2]
    have hreading : op.infoOnly = false → op.Reading := fun hinfo => ⟨by simpa using hdead, hread, hinfo⟩
    by_cases htransparent : op.fileStructure = .transparent
    · simp only [if_pos htransparent] at ht
      have hnew := hbusy.setHead (p := { op with
        length := info.length
        numBytes := if op.numBytes = 0 then info.length else op.numBytes
        recordLength := info.length
        current := op.offset / 256 }) rfl
      by_cases hinfo : op.infoOnly = true
      · rw [if_pos hinfo] at ht
        exact hnew.answerEnd ht
      · rw [if_neg hinfo] at ht
        cases ht
        have hfits' : op.Fits info.length info.length
            (if SimFs.StoresInfo sys info then some .empty else none) := by
          have hold := hfit (hreading (Bool.eq_false_of_not_eq_true hinfo)) hsame
          unfold SimFsOp.Fits at hold ⊢
          rw [if_pos htransparent] at hold ⊢
          exact hold
        exact hnew.idleAdd ((@SimFsOp.Fits.begins op { fs with fd := fd, cache := cache } _ _ _ hfits' hoffset
          hbitmap).1 htransparent)
    · simp only [if_neg htransparent] at ht
      have hnew := hbusy.setHead (p := { op with
        length := info.length, recordLength := info.recordLength, current := 1 }) rfl
      by_cases hinfo : op.infoOnly = true
      · rw [if_pos hinfo] at ht
        exact hnew.answerEnd ht
      · rw [if_neg hinfo] at ht
        cases ht
        have hfits' := hfit (hreading (Bool.eq_false_of_not_eq_true hinfo)) hsame
        exact hnew.idleAdd ((@SimFsOp.Fits.begins op { fs with fd := fd, cache := cache } _ _ _ hfits' hoffset
          hbitmap).2 htransparent)

lemma Busy.opCheckCached (h : Busy noted op fs) (hcb : op.cb = true) (hread : op.isRead = true)
    {fd : Fd} {header : SimFs.CacheHeader}
    (hfits : op.Reading → header.errorType = 0 → header.structureCode = op.fileStructure.code →
      op.Fits header.length header.recordLength (some header.bitmap)) (ht : fs.opCheckCached driver clients op fd header = some t) : Bounded noted t := by
  rcases h.opQ with ⟨rest, hq⟩
  have hoffset := h.offsets op (hq ▸ mem_cons_self)
  unfold SimFs.opCheckCached at ht
  extract_lets o fs₀ fs' at ht
  have hbusy : Busy noted o fs' := by
    have hnew := h.setHead (p := o) rfl
    exact ⟨hnew.opQ, hnew.sources, hnew.requests, hnew.offsets, hnew.recorded⟩
  by_cases herror : header.errorType ≠ 0 ∨ header.structureCode ≠ o.fileStructure.code
  · rw [if_pos herror] at ht
    exact hbusy.opError ht
  rw [if_neg herror] at ht
  by_cases hinfo : o.infoOnly = true
  · rw [if_pos hinfo] at ht
    exact hbusy.answerEnd ht
  rw [if_neg hinfo] at ht
  push Not at herror
  have hfit := hfits ⟨hcb, hread, Bool.eq_false_of_not_eq_true hinfo⟩ herror.1 herror.2
  have hbegins := @SimFsOp.Fits.begins op fs' _ _ _ hfit hoffset fun _ => rfl
  by_cases htransparent : o.fileStructure = .transparent
  · rw [if_pos htransparent] at ht
    cases ht
    exact (hbusy.setHead (p := { o with
      numBytes := if o.numBytes = 0 then o.length else o.numBytes, current := o.offset / 256 }) rfl).idleAdd
      (hbegins.1 htransparent)
  · rw [if_neg htransparent] at ht
    cases ht
    exact (hbusy.setHead (p := { o with current := 1 }) rfl).idleAdd (hbegins.2 htransparent)

lemma Busy.opNext (h : Busy noted op fs) (hcache : NoCache fs)
    (hfits : op.Reading → ∀ found ∈ fs.cachedFile sys op, found.2.errorType = 0 →
      found.2.structureCode = op.fileStructure.code →
        op.Fits found.2.length found.2.recordLength (some found.2.bitmap)) (ht : fs.opNext driver clients sys = some t) : Bounded noted t := by
  rcases h.opQ with ⟨rest, hq⟩
  unfold SimFs.opNext at ht
  rw [hq] at ht
  dsimp only at ht
  by_cases hdead : (!op.cb) = true
  · rw [if_pos hdead] at ht
    exact h.endCurrent ht
  rw [if_neg hdead] at ht
  have hcb : op.cb = true := by simpa using hdead
  have hstarted : Busy noted op (fs.started op) := ⟨h.opQ, h.sources, h.requests, h.offsets, h.recorded⟩
  by_cases hread : op.isRead = true
  · rw [if_pos hread] at ht
    cases hfile : (fs.started op).cachedFile sys op with
    | none =>
      rw [hfile] at ht
      cases ht
      exact hstarted.request ⟨hcache, hread⟩
    | some found =>
      rw [hfile] at ht
      rcases found with ⟨fd, header⟩
      exact hstarted.opCheckCached driver clients hcb hread
        (fun hreading => hfits hreading (fd, header) hfile) ht
  · rw [if_neg hread] at ht
    cases ht
    have hahead : (SimFs.writeRequest op).Ahead (fs.started op) op := by
      unfold SimFs.writeRequest
      cases op.fileStructure with
      | transparent => exact hcache
      | fixed => exact hcache
      | cyclic => exact hcache
    exact (hstarted.request hahead).same hq op.cb op.buffer hq h.offsets rfl rfl rfl rfl rfl

end Infos

/-! ## Runs -/

section Runs

variable {noted : Noted} {fs : SimFs} (driver : SimDriver) (clients : ℕ → List Call)

lemma Bounded.call (h : Bounded noted fs) (c : Call) : Bounded noted (fs.call driver c) := by
  have hoffsets := offsets_call driver c h.offsets
  cases hq : fs.opQ with
  | cons op rest =>
    have haside := Aside.call hq driver c
    rcases haside.opQ with ⟨b, rest', hq', -⟩
    exact h.same hq b op.buffer hq' hoffsets haside.cache haside.sources haside.requests haside.fd
      haside.bitmap
  | nil =>
    have hwaits := h.waits
    rw [hq] at hwaits
    rcases hwaits with ⟨hs, hr, hcache⟩
    have hempty : ∀ {t : SimFs}, t.opQ = [] → (∀ o ∈ t.opQ, o.offset < 65536) → t.cache = fs.cache →
        t.sources = fs.sources → t.requests = fs.requests → t.fd = fs.fd → t.bitmap = fs.bitmap →
          Bounded noted t := by
      intro t ht hoff hfile hsources hrequests hfd hbitmap
      refine ⟨hoff, by rw [hfile]; exact h.recorded, ?_⟩
      rw [ht]
      exact ⟨hsources.trans hs, hrequests.trans hr, hcache.same hfd hbitmap⟩
    rcases SimFs.call_cases driver fs c with
      heq | heq | ⟨context, -, -, heq⟩ | ⟨_, -, heq⟩ | ⟨op, -, -, -, heq⟩
    · rw [heq]
      exact h
    · rw [heq] at hoffsets ⊢
      exact hempty hq hoffsets rfl rfl rfl rfl rfl
    · rw [heq] at hoffsets ⊢
      exact hempty (congrArg (SimFs.freeOps context 0) hq) hoffsets rfl rfl rfl rfl rfl
    · rw [heq] at hoffsets ⊢
      exact hempty hq hoffsets rfl rfl rfl rfl rfl
    · -- the first operation of an empty queue schedules the handler
      rw [heq] at hoffsets ⊢
      refine ⟨hoffsets, h.recorded, ?_⟩
      have hsources : (fs.push op).sources = [.opNext] := by
        unfold SimFs.push
        rw [hq, hs]
        rfl
      rw [show (fs.push op).opQ = [op] from congrArg (· ++ [op]) hq]
      exact .inl ⟨.opNext, hsources, hr, hcache.same rfl rfl⟩

lemma Bounded.driverReturns (h : Bounded noted fs) {t : SimFs} (ht : fs.driverReturns = some t) :
    Bounded noted t := by
  unfold SimFs.driverReturns at ht
  cases hwriting : fs.writing with
  | none =>
    rw [hwriting] at ht
    cases ht
    exact h
  | some n =>
    cases hq : fs.opQ with
    | nil =>
      rw [hwriting, hq] at ht
      cases ht
    | cons op rest =>
      rw [hwriting, hq] at ht
      dsimp only at ht
      split_ifs at ht
      cases ht
      have hnew : (fs.setHead { op with buffer := [] }).opQ = { op with buffer := [] } :: rest := by
        unfold SimFs.setHead
        rw [hq]
        rfl
      refine h.same hq op.cb [] hnew ?_ rfl rfl rfl rfl rfl
      intro o ho
      have hold := h.offsets
      rw [hq] at hold
      rw [show (fs.setHead { op with buffer := [] }).opQ = _ from hnew] at ho
      rcases mem_cons.mp ho with rfl | hmem
      · exact hold op mem_cons_self
      · exact hold o (mem_cons_of_mem _ hmem)

lemma Bounded.dispatched (h : Bounded noted fs) {handler : Handler} {rest : List Handler} (hs :
    fs.sources = handler :: rest) : ∃ op, op ∈ fs.opQ.head? ∧ Busy noted op { fs with sources :=
    rest } ∧ handler.Ahead { fs with sources := rest } op := by
  have hwaits := h.waits
  by_cases hnil : fs.opQ = []
  · rw [hnil, hs] at hwaits
    exact absurd hwaits.1 (cons_ne_nil _ _)
  rcases exists_cons_of_ne_nil hnil with ⟨op, ops, hq⟩
  rw [hq, hs] at hwaits
  rcases hwaits with ⟨handler', hsources, hr, hahead⟩ | ⟨r, hsources, -, -⟩
  · rcases cons_eq_cons.mp hsources with ⟨rfl, rfl⟩
    refine ⟨op, by rw [hq]; rfl, ⟨⟨ops, hq⟩, rfl, hr, h.offsets, h.recorded⟩, ?_⟩
    exact @Handler.Ahead.same fs { fs with sources := [] } op handler hahead rfl rfl op.cb op.buffer
  · exact absurd hsources (cons_ne_nil _ _)

lemma Bounded.replied (h : Bounded noted fs) {n serial : ℕ} {r : Request}
    (hn : fs.requests[n]? = some (serial, r)) :
    ∃ op rest, fs.opQ = op :: rest ∧ Busy noted op { fs with requests := fs.requests.eraseIdx n } ∧
      r.Ahead { fs with requests := fs.requests.eraseIdx n } op := by
  have hwaits := h.waits
  by_cases hnil : fs.opQ = []
  · rw [hnil] at hwaits
    rw [hwaits.2.1] at hn
    cases hn
  rcases exists_cons_of_ne_nil hnil with ⟨op, ops, hq⟩
  rw [hq] at hwaits
  rcases hwaits with ⟨handler, -, hr, -⟩ | ⟨r', hs, hr, hahead⟩
  · rw [hr] at hn
    cases hn
  · rw [hr] at hn
    rcases List.getElem?_eq_some_iff.mp hn with ⟨hlt, hr'⟩
    have hzero : n = 0 := Nat.lt_one_iff.mp hlt
    subst hzero
    cases hr'
    refine ⟨op, ops, hq, ⟨⟨ops, hq⟩, hs, congrArg (·.eraseIdx 0) hr, h.offsets, h.recorded⟩, ?_⟩
    exact @Request.Ahead.same fs { fs with requests := fs.requests.eraseIdx 0 } op _ hahead rfl rfl
      op.cb op.buffer

lemma Bounded.step (h : Bounded noted fs) (input : Input) (hfits : fs.InfoFits input) (hrange :
    input.InRange) : Allowed (fs.noting noted input) (Checked.step driver clients fs input) := by
  cases input with
  | call c =>
    unfold Checked.step
    dsimp only
    split_ifs
    · exact h
    · exact h.call driver c
  | dispatch sys =>
    unfold Checked.step
    dsimp only
    by_cases hwriting : fs.writing.isSome = true
    · rw [if_pos hwriting]
      exact h
    rw [if_neg hwriting]
    have hnone : fs.writing = none := by simpa using hwriting
    cases hs : fs.sources with
    | nil => exact h
    | cons handler rest =>
      rcases h.dispatched hs with ⟨op, hop, hbusy, hahead⟩
      cases handler with
      | opNext =>
        refine allowed_orOther fun t ht => hbusy.opNext driver clients hahead ?_ ht
        exact hfits hnone op hop (by rw [hs]; rfl)
      | readBlock => exact hbusy.opReadBlock driver clients hahead
      | readRecord => exact hbusy.opReadRecord driver clients hahead
  | reply n reply sys =>
    unfold Checked.step
    dsimp only
    cases hn : fs.requests[n]? with
    | none =>
      rw [SimFs.noting_of_ne (by rw [hn]; nofun)]
      exact h
    | some request =>
      rcases request with ⟨serial, r⟩
      rcases h.replied hn with ⟨op, rest, hq, hbusy, hahead⟩
      dsimp only
      by_cases hkind : r.AnsweredBy reply = true
      · rw [if_pos hkind]
        cases r with
        | readFileInfo id path =>
          cases reply with
          | info info =>
            have hnoted : fs.noting noted (.reply n (.info info) sys) =
                noted.reply sys op.id info := by
              unfold SimFs.noting
              dsimp only
              rw [hn, hq]
            rw [hnoted]
            refine allowed_orOther fun t ht => hbusy.opInfoCb driver clients hahead.1 hahead.2 info ?_ ht
            intro found hfound
            cases hfound
            exact ⟨hrange, fun hreading hsame =>
              hfits op (by rw [hq]; rfl) _ hn hkind hreading hsame⟩
          | data => exact absurd hkind Bool.false_ne_true
          | write => exact absurd hkind Bool.false_ne_true
        | readFileTransparent id start length path =>
          cases reply with
          | data data => exact hbusy.opReadBlockCb driver clients hahead data
          | info => exact absurd hkind Bool.false_ne_true
          | write => exact absurd hkind Bool.false_ne_true
        | readFileLinear id record length =>
          cases reply with
          | data data => exact hbusy.opRetrieveCb driver clients hahead.1 hahead.2 data
          | info => exact absurd hkind Bool.false_ne_true
          | write => exact absurd hkind Bool.false_ne_true
        | readFileCyclic id record length =>
          cases reply with
          | data data => exact hbusy.opRetrieveCb driver clients hahead.1 hahead.2 data
          | info => exact absurd hkind Bool.false_ne_true
          | write => exact absurd hkind Bool.false_ne_true
        | _ =>
          cases reply with
          | write ok => exact allowed_orOther fun t ht => hbusy.opWriteCb driver clients ht
          | info => exact absurd hkind Bool.false_ne_true
          | data => exact absurd hkind Bool.false_ne_true
      · rw [if_neg hkind]
        cases r with
        | readFileInfo id path =>
          cases reply with
          | info info => exact absurd rfl hkind
          | data => exact h
          | write => exact h
        | _ =>
          rw [SimFs.noting_of_ne (by rw [hn]; nofun)]
          exact h
  | driverReturns => exact allowed_orOther fun t ht => h.driverReturns ht

/-- The step with what is noted of the cache files. -/
def SimFs.noteStep (s : SimFs × Noted) (input : Input) : Option (SimFs × Noted) :=
  (s.1.step driver clients input).map fun t => (t, s.1.noting s.2 input)

lemma bounded_new (cache : ℕ → ℕ → Option CacheFile) : Bounded (fun _ _ => none) (.new cache) where
  offsets := fun _ hop => absurd hop not_mem_nil
  recorded := nofun
  waits := ⟨rfl, rfl, rfl, rfl⟩

/-- For every driver, whatever the clients do and whatever is in the cache files: in a run that
takes over fit information only, no step divides by a record length of zero, looks outside of
the bitmap or reads a record that is too long for the local buffer; and a cache file whose
front was stored in the run gives back that information, whatever has been stored in it since. -/
theorem file_info_safe (cache : ℕ → ℕ → Option CacheFile) {inputs : List Input}
    (h : Machine.EachStep (SimFs.noteStep driver clients)
    (fun s input => s.1.InfoFits input ∧ input.InRange) (.new cache, fun _ _ => none) inputs) :
    Machine.EachStep (SimFs.noteStep driver clients) (fun s input => Checked.Spared (Checked.step
    driver clients s.1 input) ∧ s.1.Recovers s.2) (.new cache, fun _ _ => none) inputs := by
  refine Machine.EachStep.of_invariant (fun (s : SimFs × Noted) input (hs : Bounded s.2 s.1) hmeets => ?_) ?_
    (bounded_new cache) h
  · refine ⟨?_, hs.recorded.recovers⟩
    intro e he
    have hallowed := hs.step driver clients input hmeets.1 hmeets.2
    rw [he] at hallowed
    exact hallowed
  · intro s input t hs hmeets ht
    have hallowed := hs.step driver clients input hmeets.1 hmeets.2
    unfold SimFs.noteStep at ht
    rcases Option.map_eq_some_iff.mp ht with ⟨fs', hfs', rfl⟩
    rw [← Checked.step_toOption] at hfs'
    cases hchecked : Checked.step driver clients s.1 input with
    | error e =>
      rw [hchecked] at hfs'
      cases hfs'
    | ok u =>
      rw [hchecked] at hfs' hallowed
      cases hfs'
      exact hallowed

end Runs

/-- A file of linear records is read, with the information of the driver. -/
def readRecordsOf (info : FileInfo) : List Input :=
  [.call .contextNew, .call (.read 0 0x6f3a .fixed 0 0 noPath), .dispatch plainSystem,
    .reply 0 (.info (some info)) plainSystem, .dispatch plainSystem]

/-- Two records of one octet. -/
theorem file_info_safe_two_records : Machine.EachStep (SimFs.noteStep fullDriver fun _ => []) (fun s
    input => Checked.Spared (Checked.step fullDriver (fun _ => []) s.1 input) ∧ s.1.Recovers s.2)
    (.new fun _ _ => none, fun _ _ => none) (readRecordsOf ⟨2, .fixed, 1, (0x44, 0x44, 0x44), 1⟩) :=
  file_info_safe fullDriver (fun _ => []) _ (by decide)

/-- The driver says that the records have no octets, and the handler divides by their length. -/
theorem empty_records_divided :
    ¬ Machine.EachStep (SimFs.noteStep fullDriver fun _ => [])
      (fun s input => Checked.Spared (Checked.step fullDriver (fun _ => []) s.1 input) ∧
        s.1.Recovers s.2) (.new fun _ _ => none, fun _ _ => none)
      (readRecordsOf ⟨1, .fixed, 0, (0x44, 0x44, 0x44), 1⟩) := by
  intro h
  have hspared : Machine.EachStep (SimFs.noteStep fullDriver fun _ => [])
      (fun s input => Checked.Spared (Checked.step fullDriver (fun _ => []) s.1 input))
      (.new fun _ _ => none, fun _ _ => none) (readRecordsOf ⟨1, .fixed, 0, (0x44, 0x44, 0x44), 1⟩) :=
    Machine.EachStep.of_invariant (fun _ _ (_ : True) hboth => hboth.1) (fun _ _ _ _ _ _ => trivial)
      trivial h
  revert hspared
  decide

end Phonelets.Simfs
