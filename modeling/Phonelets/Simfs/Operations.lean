import Mathlib
import Phonelets.Lib.Bitmap
import Phonelets.Lib.Memory

/-! # Reading and writing the files of a SIM

`sim_fs` keeps a queue of operations. The head of the queue is worked on by idle handlers and
by the callbacks of the driver, and what is read of a file may be kept in a cache file on the
disk. This module is the model of the code: `SimFs` is the state between two calls from the
main loop, `step` one such call. A result `none` is a fault: a call of a NULL callback, a
division by zero, an access outside of a buffer or to an operation that has been freed.

The clients are a parameter. `clients n` is what the client does from inside of the `n`th
callback, and it can be anything. `log` is a record of what happened, newest first, which no
function reads.
-/

namespace Phonelets.Simfs

/-- `enum ofono_sim_file_structure` -/
inductive FileStructure
  | transparent
  | fixed
  | cyclic
deriving DecidableEq

/-- The octet of the structure in a cache file. -/
def FileStructure.code : FileStructure → UInt8
  | .transparent => 0
  | .fixed => 1
  | .cyclic => 3

/-- `struct sim_fs_op`. The serial numbers the operations as they are queued. -/
structure SimFsOp where
  serial : ℕ
  context : ℕ
  id : ℕ
  fileStructure : FileStructure
  isRead : Bool
  infoOnly : Bool
  offset : ℕ
  numBytes : ℕ
  path : List UInt8
  /-- The callback has not been cleared. -/
  cb : Bool
  buffer : List UInt8
  length : ℕ
  recordLength : ℕ
  current : ℕ

namespace SimFsOp

def startBlock (op : SimFsOp) : ℕ := op.offset / 256

def endBlock (op : SimFsOp) : ℕ := (op.offset + op.numBytes - 1) / 256

/-- The number of records. -/
def total (op : SimFsOp) : ℕ := op.length / op.recordLength

/-- `bufoff`: where the current block goes in the buffer. -/
def bufoff (op : SimFsOp) : ℕ :=
  if op.current = op.startBlock then 0
  else (op.current - op.startBlock - 1) * 256 + op.offset % 256

/-- `dataoff`: where the octets begin in the current block. -/
def dataoff (op : SimFsOp) : ℕ := if op.current = op.startBlock then op.offset % 256 else 0

/-- `tocopy`, `toread`: how many octets of the current block are taken. -/
def tocopy (op : SimFsOp) : ℤ :=
  if op.current = op.startBlock then
    min (256 - (op.offset % 256 : ℕ)) (op.numBytes - (op.current * 256 : ℕ))
  else min 256 (op.numBytes - (op.current * 256 : ℕ))

end SimFsOp

/-- `memcpy` into a buffer. -/
def copyInto (buffer : List UInt8) (pos : ℕ) (data : List UInt8) : Option (List UInt8) :=
  if pos + data.length ≤ buffer.length then
    some (buffer.take pos ++ data ++ buffer.drop (pos + data.length))
  else none

/-- What a callback is given: `cb(1, …)` of the three kinds of callbacks, or the error. -/
inductive Answer
  | info (fileStatus : UInt8) (length recordLength : ℕ)
  | data (length record : ℕ) (data : List UInt8) (recordLength : ℕ)
  | written
  | failed

inductive Event
  | queued (op : SimFsOp)
  | started (serial : ℕ)
  | answered (serial context : ℕ) (answer : Answer)
  /-- `sim_fs_read` without a driver to read with calls back at once. -/
  | refused (context : ℕ)
  | ended (op : SimFsOp)
  | freed (context : ℕ)

/-! ## The disk -/

/-- A cache file. Its octets behind the end are zeros. -/
structure CacheFile where
  octets : Memory
  size : ℕ

namespace CacheFile

def empty : CacheFile := ⟨fun _ => 0, 0⟩

/-- `lseek` and `read`: fewer octets at the end of the file. -/
def read (f : CacheFile) (pos len : ℕ) : List UInt8 := f.octets.slice pos (min len (f.size - pos))

/-- `lseek` and `write` -/
def write (f : CacheFile) (pos : ℕ) (data : List UInt8) : CacheFile :=
  if data = [] then f else ⟨f.octets.write pos data, max f.size (pos + data.length)⟩

end CacheFile

def cacheHeaderSize : ℕ := 39

def fileInfoSize : ℕ := 7

/-- A descriptor of an open cache file, named by the card (its IMSI and phase) and the file
id. One that `open` was given O_WRONLY for is not readable. -/
structure Fd where
  card : ℕ
  id : ℕ
  readable : Bool

instance storesNeZero : NeZero 2 := ⟨by decide⟩

/-- What the system does during one call from the main loop. -/
structure System where
  /-- The IMSI with the phase, if both are known. -/
  card : Option ℕ
  opens : Bool
  /-- `reads n`: reading block or record `n` of a cache file works, and so does reading its
  header for `n = 0`. -/
  reads : ℕ → Bool
  /-- How many octets the first and the second `write` store at the most. -/
  stores : Fin 2 → ℕ
  /-- `g_try_new0` finds the memory. -/
  memory : Bool

/-! ## Drivers and clients -/

/-- The functions that a driver has. -/
structure SimDriver where
  readFileInfo : Bool
  readFileTransparent : Bool
  readFileLinear : Bool
  readFileCyclic : Bool
  writeFileTransparent : Bool
  writeFileLinear : Bool
  writeFileCyclic : Bool

/-- The function that writes files of the structure. -/
def SimDriver.writeFile (driver : SimDriver) : FileStructure → Bool
  | .transparent => driver.writeFileTransparent
  | .fixed => driver.writeFileLinear
  | .cyclic => driver.writeFileCyclic

/-- A call of a driver function, with its arguments. -/
inductive Request
  | readFileInfo (id : ℕ) (path : List UInt8)
  | readFileTransparent (id start length : ℕ) (path : List UInt8)
  | readFileLinear (id record length : ℕ)
  | readFileCyclic (id record length : ℕ)
  | writeFileTransparent (id start : ℕ) (data : List UInt8)
  | writeFileLinear (id record : ℕ) (data : List UInt8)
  | writeFileCyclic (id : ℕ) (data : List UInt8)

/-- The file information that a driver gives. -/
structure FileInfo where
  length : ℕ
  fileStructure : FileStructure
  recordLength : ℕ
  access : UInt8 × UInt8 × UInt8
  fileStatus : UInt8

inductive SimFileAccess
  | always
  | chv1
  | chv2
  | reserved
  | adm
  | never
deriving DecidableEq

/-- `file_access_condition_decode`, of four bits -/
def fileAccessConditionDecode (bcd : UInt8) : SimFileAccess :=
  if 4 ≤ bcd ∧ bcd ≤ 14 then .adm
  else if bcd = 0 then .always
  else if bcd = 1 then .chv1
  else if bcd = 2 then .chv2
  else if bcd = 3 then .reserved
  else .never

def SimFileAccess.locked (access : SimFileAccess) : Bool := access = .adm || access = .never

/-- Files that the card holder can write are not cached. -/
def FileInfo.cacheable (info : FileInfo) : Bool :=
  let update := fileAccessConditionDecode (info.access.1 &&& 0xf)
  let rehabilitate := fileAccessConditionDecode ((info.access.2.2 >>> 4) &&& 0xf)
  let invalidate := fileAccessConditionDecode (info.access.2.2 &&& 0xf)
  update.locked && invalidate.locked && rehabilitate.locked

/-- A call of the callback of a request; `none` comes with an error. -/
inductive Reply
  | info (info : Option FileInfo)
  | data (data : Option (List UInt8))
  | write (ok : Bool)

/-- What a client can call. -/
inductive Call
  | contextNew
  | contextFree (context : ℕ)
  | readInfo (context id : ℕ) (expected : FileStructure)
  | read (context id : ℕ) (expected : FileStructure) (offset numBytes : UInt16)
      (path : {path : List UInt8 // path.length ≤ 6})
  | write (context id : ℕ) (fileStructure : FileStructure) (record : ℕ) (data : List UInt8)
deriving DecidableEq

inductive Handler
  | opNext
  | readBlock
  | readRecord
deriving DecidableEq

/-- `struct sim_fs` with the main loop's idle sources, the driver calls that have not been
answered (each with the serial of its operation) and the disk. -/
structure SimFs where
  opQ : List SimFsOp
  sources : List Handler
  requests : List (ℕ × Request)
  /-- The operation for which a write function of the driver is running. -/
  writing : Option ℕ
  bitmap : Bitmap 8 32
  fd : Option Fd
  contexts : List ℕ
  cache : ℕ → ℕ → Option CacheFile
  nextContext : ℕ
  nextOp : ℕ
  /-- The number of callbacks made. -/
  called : ℕ
  log : List Event

namespace SimFs

/-- `sim_fs_new`, with what is on the disk. -/
def new (cache : ℕ → ℕ → Option CacheFile) : SimFs where
  opQ := []
  sources := []
  requests := []
  writing := none
  bitmap := .empty
  fd := none
  contexts := []
  cache := cache
  nextContext := 0
  nextOp := 0
  called := 0
  log := []

/-! ## The calls of clients -/

/-- `g_queue_push_tail`, and the source if the queue was empty. -/
def push (op : SimFsOp) (fs : SimFs) : SimFs :=
  { fs with
    opQ := fs.opQ ++ [op]
    nextOp := fs.nextOp + 1
    sources := if (fs.opQ ++ [op]).length = 1 then fs.sources ++ [.opNext] else fs.sources
    log := .queued op :: fs.log }

def contextNew (fs : SimFs) : SimFs :=
  { fs with contexts := fs.nextContext :: fs.contexts, nextContext := fs.nextContext + 1 }

/-- The loop of `sim_fs_context_free` over the queue from its place `n` on. -/
def freeOps (context : ℕ) : ℕ → List SimFsOp → List SimFsOp
  | _, [] => []
  | n, op :: rest =>
    if op.context ≠ context then op :: freeOps context (n + 1) rest
    else if n = 0 then { op with cb := false } :: freeOps context (n + 1) rest
    else freeOps context n rest

def contextFree (context : ℕ) (fs : SimFs) : SimFs :=
  { fs with
    opQ := freeOps context 0 fs.opQ
    contexts := fs.contexts.erase context
    log := .freed context :: fs.log }

def readInfo (driver : SimDriver) (context id : ℕ) (expected : FileStructure) (fs : SimFs) : SimFs :=
  if driver.readFileInfo then
    fs.push
      { serial := fs.nextOp, context := context, id := id, fileStructure := expected
        isRead := true, infoOnly := true, offset := 0, numBytes := 0, path := [], cb := true
        buffer := [], length := 0, recordLength := 0, current := 0 }
  else fs

/-- Nothing is done after the callback that tells of a missing driver function, so what the
client does in it is what it does next. -/
def read (driver : SimDriver) (context id : ℕ) (expected : FileStructure) (offset numBytes : UInt16)
    (path : List UInt8) (fs : SimFs) : SimFs :=
  if driver.readFileInfo then
    fs.push
      { serial := fs.nextOp, context := context, id := id, fileStructure := expected
        isRead := true, infoOnly := false, offset := offset.toNat, numBytes := numBytes.toNat
        path := path, cb := true, buffer := [], length := 0, recordLength := 0, current := 0 }
  else { fs with log := .refused context :: fs.log }

def write (driver : SimDriver) (context id : ℕ) (fileStructure : FileStructure) (record : ℕ)
    (data : List UInt8) (fs : SimFs) : SimFs :=
  if driver.writeFile fileStructure then
    fs.push
      { serial := fs.nextOp, context := context, id := id, fileStructure := fileStructure
        isRead := false, infoOnly := false, offset := 0, numBytes := 0, path := [], cb := true
        buffer := data, length := data.length, recordLength := 0, current := record }
  else fs

/-- A call of a client. Only contexts that have not been freed can be named. -/
def call (driver : SimDriver) (fs : SimFs) : Call → SimFs
  | .contextNew => fs.contextNew
  | .contextFree context => if context ∈ fs.contexts then fs.contextFree context else fs
  | .readInfo context id expected =>
    if context ∈ fs.contexts then fs.readInfo driver context id expected else fs
  | .read context id expected offset numBytes path =>
    if context ∈ fs.contexts then fs.read driver context id expected offset numBytes path else fs
  | .write context id fileStructure record data =>
    if context ∈ fs.contexts then fs.write driver context id fileStructure record data else fs

/-! ## Ending an operation -/

section Handlers

variable (driver : SimDriver) (clients : ℕ → List Call)

/-- The callback of the operation, and what its client does in it. -/
def invoke (op : SimFsOp) (answer : Answer) (fs : SimFs) : SimFs :=
  (clients fs.called).foldl (call driver)
    { fs with called := fs.called + 1, log := .answered op.serial op.context answer :: fs.log }

/-- The head of the queue with something changed in it. -/
def setHead (op : SimFsOp) (fs : SimFs) : SimFs := { fs with opQ := op :: fs.opQ.tail }

/-- `fs->op_source = g_idle_add(…)` -/
def idleAdd (handler : Handler) (fs : SimFs) : SimFs :=
  { fs with sources := fs.sources ++ [handler] }

def endCurrent (fs : SimFs) : Option SimFs :=
  match fs.opQ with
  | [] => none
  | op :: rest => some
    { fs with
      opQ := rest
      sources := if 0 < rest.length then fs.sources ++ [.opNext] else fs.sources
      fd := none
      bitmap := .empty
      log := .ended op :: fs.log }

def opError (fs : SimFs) : Option SimFs :=
  match fs.opQ with
  | [] => none
  | op :: _ => if op.cb then (fs.invoke driver clients op .failed).endCurrent else fs.endCurrent

/-! ## The cache -/

/-- The file behind the descriptor. -/
def cacheFile (fs : SimFs) (fd : Fd) : CacheFile := (fs.cache fd.card fd.id).getD .empty

def setCacheFile (fd : Fd) (file : CacheFile) (fs : SimFs) : SimFs :=
  { fs with cache := fun card id =>
      if card = fd.card ∧ id = fd.id then some file else fs.cache card id }

def cacheBlock (sys : System) (block blockLen : ℕ) (data : List UInt8) (numBytes : ℕ) (fs : SimFs) :
    Option SimFs :=
  match fs.fd with
  | none => some fs
  | some fd =>
    if data.length < numBytes then none
    else
      let stored := (data.take numBytes).take (sys.stores 0)
      let file := (fs.cacheFile fd).write (block * blockLen + cacheHeaderSize) stored
      if stored.length ≠ numBytes then some (fs.setCacheFile fd file)
      -- the bitmap has room for 256 blocks
      else if 32 ≤ block / 8 then none
      else if sys.stores 1 = 0 then some (fs.setCacheFile fd file)
      else
        let marked := fs.bitmap.mark block
        let b : UInt8 := ⟨marked.word (block / 8)⟩
        some { fs.setCacheFile fd (file.write (block / 8 + fileInfoSize) [b]) with bitmap := marked }

/-- The octets of a cache file in front of its blocks. -/
def fileinfo (info : FileInfo) : List UInt8 :=
  [0, .ofNat (info.length / 256), .ofNat info.length, info.fileStructure.code,
    .ofNat (info.recordLength / 256), .ofNat info.recordLength, info.fileStatus] ++
    List.replicate (cacheHeaderSize - fileInfoSize) 0

/-- `sim_fs_op_cache_fileinfo`: a descriptor that can only be written to. -/
def opCacheFileinfo (sys : System) (op : SimFsOp) (info : FileInfo) (fs : SimFs) : SimFs :=
  match sys.card with
  | none => fs
  | some card =>
    if info.cacheable ∧ sys.opens then
      let stored := (fileinfo info).take (sys.stores 0)
      let fd : Fd := { card := card, id := op.id, readable := false }
      { fs.setCacheFile fd (CacheFile.empty.write 0 stored) with
        fd := if stored.length = cacheHeaderSize then some fd else none }
    else fs

/-- What the front of a cache file says. -/
structure CacheHeader where
  errorType : UInt8
  length : ℕ
  structureCode : UInt8
  recordLength : ℕ
  fileStatus : UInt8
  bitmap : Bitmap 8 32

/-- The header as it is read, with the length of a transparent file as its record length. -/
def cacheHeader (file : CacheFile) : CacheHeader where
  errorType := file.octets 0
  length := (file.octets 1).toNat * 256 + (file.octets 2).toNat
  structureCode := file.octets 3
  recordLength :=
    if file.octets 3 = FileStructure.transparent.code then
      (file.octets 1).toNat * 256 + (file.octets 2).toNat
    else (file.octets 4).toNat * 256 + (file.octets 5).toNat
  fileStatus := file.octets 6
  bitmap := .ofFn fun i => (file.octets (fileInfoSize + i)).toBitVec

/-- The cache file that `sim_fs_op_check_cached` accepts for the operation, opened. -/
def cachedFile (sys : System) (op : SimFsOp) (fs : SimFs) : Option (Fd × CacheHeader) := do
  let card ← sys.card
  let file ← fs.cache card op.id
  if sys.opens ∧ sys.reads 0 ∧ cacheHeaderSize ≤ file.size then
    let header := cacheHeader file
    if header.recordLength = 0 ∨ header.length < header.recordLength then none
    else some ({ card := card, id := op.id, readable := true }, header)
  else none

/-- The rest of `sim_fs_op_check_cached`. -/
def opCheckCached (op : SimFsOp) (fd : Fd) (header : CacheHeader) (fs : SimFs) : Option SimFs :=
  let op := { op with length := header.length, recordLength := header.recordLength }
  let fs := { fs.setHead op with bitmap := header.bitmap, fd := some fd }
  if header.errorType ≠ 0 ∨ header.structureCode ≠ op.fileStructure.code then
    fs.opError driver clients
  else if op.infoOnly then
    (fs.invoke driver clients op (.info header.fileStatus op.length op.recordLength)).endCurrent
  else if op.fileStructure = .transparent then
    some ((fs.setHead
      { op with
        numBytes := if op.numBytes = 0 then op.length else op.numBytes
        current := op.offset / 256 }).idleAdd .readBlock)
  else some ((fs.setHead { op with current := 1 }).idleAdd .readRecord)

/-! ## The callbacks of the driver and the idle handlers -/

def opWriteCb (ok : Bool) (fs : SimFs) : Option SimFs :=
  match fs.opQ with
  | [] => none
  | op :: _ =>
    if op.cb then
      (fs.invoke driver clients op (if ok then .written else .failed)).endCurrent
    else fs.endCurrent

/-- The callback of a transparent read that is complete. -/
def opDone (op : SimFsOp) (fs : SimFs) : Option SimFs :=
  (fs.invoke driver clients op (.data op.numBytes 0 op.buffer op.recordLength)).endCurrent

def opReadBlockCb (sys : System) (reply : Option (List UInt8)) (fs : SimFs) : Option SimFs :=
  match fs.opQ, reply with
  | [], _ => none
  | _ :: _, none => fs.opError driver clients
  | op :: _, some data =>
    if op.tocopy < 0 ∨ data.length < op.dataoff + op.tocopy.toNat then none
    else do
      let buffer ← copyInto op.buffer op.bufoff ((data.drop op.dataoff).take op.tocopy.toNat)
      let fs ← (fs.setHead { op with buffer := buffer }).cacheBlock sys op.current 256 data data.length
      if op.cb then
        let op := { op with buffer := buffer, current := op.current + 1 }
        if op.endBlock < op.current then (fs.setHead op).opDone driver clients op
        else some ((fs.setHead op).idleAdd .readBlock)
      else fs.endCurrent

/-- What of the current block is found in the cache file. A negative number of octets is not
read, and the result -1 is taken for success if that was the number. -/
def cachedBlock (sys : System) (fd : Fd) (file : CacheFile) (op : SimFsOp) : Option (List UInt8) :=
  if sys.reads op.current then
    if op.tocopy < 0 then
      if op.tocopy = -1 then some [] else none
    else if fd.readable then
      let data := file.read (cacheHeaderSize + op.current * 256 + op.dataoff) op.tocopy.toNat
      if data.length = op.tocopy.toNat then some data else none
    else none
  else none

/-- The loop of `sim_fs_op_read_block`, which `n` blocks are left for. -/
def readBlocks (sys : System) (bitmap : Bitmap 8 32) (fd : Fd) (file : CacheFile) :
    ℕ → SimFsOp → Option SimFsOp
  | 0, op => some op
  | n + 1, op =>
    if 32 ≤ op.current / 8 then none
    else if bitmap.test op.current then
      match cachedBlock sys fd file op with
      | none => some op
      | some data => do
        let buffer ← copyInto op.buffer op.bufoff data
        readBlocks sys bitmap fd file n { op with buffer := buffer, current := op.current + 1 }
    else some op

/-- The loop, if a cache file is open. -/
def readCachedBlocks (sys : System) (fs : SimFs) (op : SimFsOp) : Option SimFsOp :=
  match fs.fd with
  | none => some op
  | some fd => readBlocks sys fs.bitmap fd (fs.cacheFile fd) (op.endBlock + 1 - op.current) op

/-- A driver function is called. -/
def request (op : SimFsOp) (r : Request) (fs : SimFs) : SimFs :=
  { fs with requests := fs.requests ++ [(op.serial, r)] }

def opReadBlock (sys : System) (fs : SimFs) : Option SimFs :=
  match fs.opQ with
  | [] => none
  | op :: _ =>
    if !op.cb then fs.endCurrent
    else if op.current = op.startBlock ∧ (op.numBytes = 0 ∨ sys.memory = false) then
      (fs.setHead { op with buffer := [] }).opError driver clients
    else do
      let op := if op.current = op.startBlock then
        { op with buffer := List.replicate op.numBytes 0 } else op
      let op ← fs.readCachedBlocks sys op
      if op.endBlock < op.current then (fs.setHead op).opDone driver clients op
      else if driver.readFileTransparent then
        let readBytes := (min ((op.length : ℤ) - (op.current * 256 : ℕ)) 256 % 65536).toNat
        some ((fs.setHead op).request op
          (.readFileTransparent op.id (op.current * 256) readBytes op.path))
      else (fs.setHead op).opError driver clients

/-- `op->current += 1` -/
def advance (fs : SimFs) : SimFs :=
  { fs with opQ := fs.opQ.modifyHead fun op => { op with current := op.current + 1 } }

def opRetrieveCb (sys : System) (reply : Option (List UInt8)) (fs : SimFs) : Option SimFs :=
  match fs.opQ with
  | [] => none
  | op :: _ =>
    if op.recordLength = 0 then none
    else match reply with
      | none => fs.opError driver clients
      | some data => do
        let fs ← fs.cacheBlock sys (op.current - 1) op.recordLength data op.recordLength
        if op.cb then
          let fs := fs.invoke driver clients op (.data op.length op.current data op.recordLength)
          if op.current < op.total then some (fs.advance.idleAdd .readRecord)
          else fs.endCurrent
        else fs.endCurrent

/-- The current record, if the cache file has all of it. -/
def cachedRecord (sys : System) (fd : Fd) (file : CacheFile) (op : SimFsOp) : Option (List UInt8) :=
  let data := file.read ((op.current - 1) * op.recordLength + cacheHeaderSize) op.recordLength
  if sys.reads op.current ∧ fd.readable ∧ data.length = op.recordLength then some data else none

/-- The loop of `sim_fs_op_read_record`, which `n` records are left for. -/
def readRecords (sys : System) : ℕ → SimFs → Option SimFs
  | 0, fs => some fs
  | n + 1, fs =>
    match fs.opQ, fs.fd with
    | [], _ => none
    | _ :: _, none => some fs
    | op :: _, some fd =>
      if 32 ≤ (op.current - 1) / 8 then none
      else if fs.bitmap.test (op.current - 1) then
        -- the local buffer has room for 256 octets
        if 256 < op.recordLength then none
        else match cachedRecord sys fd (fs.cacheFile fd) op with
          | none => some fs
          | some data =>
            if op.cb then
              readRecords sys n (fs.invoke driver clients op
                (.data op.length op.current data op.recordLength)).advance
            else none
      else some fs

def opReadRecord (sys : System) (fs : SimFs) : Option SimFs :=
  match fs.opQ with
  | [] => none
  | op :: _ =>
    if op.recordLength = 0 then none
    else if op.cb then do
      let fs ← fs.readRecords driver clients sys (op.total + 1 - op.current)
      match fs.opQ with
      | [] => none
      | op :: _ =>
        if op.total < op.current then fs.endCurrent
        else match op.fileStructure with
          | .fixed =>
            if driver.readFileLinear then
              some (fs.request op (.readFileLinear op.id op.current op.recordLength))
            else fs.opError driver clients
          | .cyclic =>
            if driver.readFileCyclic then
              some (fs.request op (.readFileCyclic op.id op.current op.recordLength))
            else fs.opError driver clients
          | .transparent => some fs
    else fs.endCurrent

def opInfoCb (sys : System) (reply : Option FileInfo) (fs : SimFs) : Option SimFs :=
  match fs.opQ, reply with
  | [], _ => none
  | _ :: _, none => fs.opError driver clients
  | op :: _, some info =>
    let fs := fs.opCacheFileinfo sys op info
    if info.fileStructure ≠ op.fileStructure then fs.opError driver clients
    else if !op.cb then fs.endCurrent
    else
      let op := if info.fileStructure = .transparent then
          { op with
            length := info.length
            numBytes := if op.numBytes = 0 then info.length else op.numBytes
            recordLength := info.length
            current := op.offset / 256 }
        else { op with length := info.length, recordLength := info.recordLength, current := 1 }
      let fs := fs.setHead op
      if op.infoOnly then
        (fs.invoke driver clients op (.info info.fileStatus op.length op.recordLength)).endCurrent
      else if info.fileStructure = .transparent then some (fs.idleAdd .readBlock)
      else some (fs.idleAdd .readRecord)

/-- The driver call of a write operation. -/
def writeRequest (op : SimFsOp) : Request :=
  match op.fileStructure with
  | .transparent => .writeFileTransparent op.id 0 op.buffer
  | .fixed => .writeFileLinear op.id op.current op.buffer
  | .cyclic => .writeFileCyclic op.id op.buffer

/-- The log gets the start of an operation. -/
def started (op : SimFsOp) (fs : SimFs) : SimFs := { fs with log := .started op.serial :: fs.log }

/-- `sim_fs_op_next`. For a write it goes on in `driverReturns`. -/
def opNext (sys : System) (fs : SimFs) : Option SimFs :=
  match fs.opQ with
  | [] => none
  | op :: _ =>
    if !op.cb then fs.endCurrent
    else
      let fs := fs.started op
      if op.isRead then
        match fs.cachedFile sys op with
        | some (fd, header) => fs.opCheckCached driver clients op fd header
        | none => some (fs.request op (.readFileInfo op.id op.path))
      else some { fs.request op (writeRequest op) with writing := some op.serial }

/-- The write function of the driver returns, and the buffer of the operation is freed. -/
def driverReturns (fs : SimFs) : Option SimFs :=
  match fs.writing, fs.opQ with
  | none, _ => some fs
  | some _, [] => none
  | some serial, op :: _ =>
    if op.serial = serial then some { fs.setHead { op with buffer := [] } with writing := none }
    else none

/-! ## The main loop -/

def handle (sys : System) (fs : SimFs) : Handler → Option SimFs
  | .opNext => fs.opNext driver clients sys
  | .readBlock => fs.opReadBlock driver clients sys
  | .readRecord => fs.opReadRecord driver clients sys

/-- The callback that was passed with the request. A reply of another kind does not exist. -/
def deliver (sys : System) (fs : SimFs) : Request → Reply → Option SimFs
  | .readFileInfo .., .info info => fs.opInfoCb driver clients sys info
  | .readFileTransparent .., .data data => fs.opReadBlockCb driver clients sys data
  | .readFileLinear .., .data data => fs.opRetrieveCb driver clients sys data
  | .readFileCyclic .., .data data => fs.opRetrieveCb driver clients sys data
  | .writeFileTransparent .., .write ok => fs.opWriteCb driver clients ok
  | .writeFileLinear .., .write ok => fs.opWriteCb driver clients ok
  | .writeFileCyclic .., .write ok => fs.opWriteCb driver clients ok
  | _, _ => some fs

end Handlers

end SimFs

/-- The kinds of requests and replies that belong together. -/
def Request.AnsweredBy : Request → Reply → Bool
  | .readFileInfo .., .info _ => true
  | .readFileTransparent .., .data _ => true
  | .readFileLinear .., .data _ => true
  | .readFileCyclic .., .data _ => true
  | .writeFileTransparent .., .write _ => true
  | .writeFileLinear .., .write _ => true
  | .writeFileCyclic .., .write _ => true
  | _, _ => false

inductive Input
  | call (c : Call)
  /-- The first idle source is dispatched. -/
  | dispatch (sys : System)
  /-- The driver answers its request number `n`, also from inside of the requested function. -/
  | reply (n : ℕ) (reply : Reply) (sys : System)
  | driverReturns

/-- One call from the main loop. While a write function of the driver runs there is nothing
but its reply and its return. -/
def SimFs.step (driver : SimDriver) (clients : ℕ → List Call) (fs : SimFs) : Input → Option SimFs
  | .call c => if fs.writing.isSome then some fs else some (fs.call driver c)
  | .dispatch sys =>
    if fs.writing.isSome then some fs
    else match fs.sources with
      | [] => some fs
      | handler :: rest => { fs with sources := rest }.handle driver clients sys handler
  | .reply n reply sys =>
    match fs.requests[n]? with
    | none => some fs
    | some (_, r) =>
      if r.AnsweredBy reply then
        { fs with requests := fs.requests.eraseIdx n }.deliver driver clients sys r reply
      else some fs
  | .driverReturns => fs.driverReturns

end Phonelets.Simfs
