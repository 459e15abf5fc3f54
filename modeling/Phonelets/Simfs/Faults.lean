import Phonelets.Simfs.Queue

/-! # The faults of the handlers

The model has one result for all faults. `Checked` is the model once more with the reason for
each: a record length of zero that is divided by, a bitmap without the index, a record that is
longer than the local buffer, or any other. `step_toOption` says that nothing else has changed.
-/

namespace Phonelets.Simfs

inductive Fault
  | divideByZero
  | bitmapIndex
  | recordBuffer
  | other
deriving DecidableEq

namespace Checked

open SimFs

/-- A result that faults for none of the three reasons. -/
def orOther {α : Type} : Option α → Except Fault α
  | some a => .ok a
  | none => .error .other

/-- There is no fault, or one for none of the three reasons. -/
def Spared {α : Type} (r : Except Fault α) : Prop := ∀ e, r = .error e → e = .other

instance {α : Type} : ∀ r : Except Fault α, Decidable (Spared r)
  | .ok _ => .isTrue nofun
  | .error e =>
    decidable_of_iff (e = .other)
      ⟨fun h _ he => (Except.error.inj he).symm.trans h, fun h => h e rfl⟩

section Handlers

variable (driver : SimDriver) (clients : ℕ → List Call)

/-- `cache_block` comes to the bitmap when all octets have been stored. -/
def cacheBlock (sys : System) (block blockLen : ℕ) (data : List UInt8) (numBytes : ℕ) (fs : SimFs) :
    Except Fault SimFs :=
  if fs.fd.isSome ∧ numBytes ≤ data.length ∧ numBytes ≤ sys.stores 0 ∧ 32 ≤ block / 8 then
    .error .bitmapIndex
  else orOther (fs.cacheBlock sys block blockLen data numBytes)

def opReadBlockCb (sys : System) (reply : Option (List UInt8)) (fs : SimFs) : Except Fault SimFs :=
  match fs.opQ, reply with
  | [], _ => .error .other
  | _ :: _, none => orOther (fs.opError driver clients)
  | op :: _, some data =>
    if op.tocopy < 0 ∨ data.length < op.dataoff + op.tocopy.toNat then .error .other
    else do
      let buffer ← orOther (copyInto op.buffer op.bufoff ((data.drop op.dataoff).take op.tocopy.toNat))
      let fs ← cacheBlock sys op.current 256 data data.length (fs.setHead { op with buffer := buffer })
      if op.cb then
        let op := { op with buffer := buffer, current := op.current + 1 }
        if op.endBlock < op.current then orOther ((fs.setHead op).opDone driver clients op)
        else .ok ((fs.setHead op).idleAdd .readBlock)
      else orOther fs.endCurrent

def readBlocks (sys : System) (bitmap : Bitmap 8 32) (fd : Fd) (file : CacheFile) :
    ℕ → SimFsOp → Except Fault SimFsOp
  | 0, op => .ok op
  | n + 1, op =>
    if 32 ≤ op.current / 8 then .error .bitmapIndex
    else if bitmap.test op.current then
      match cachedBlock sys fd file op with
      | none => .ok op
      | some data => do
        let buffer ← orOther (copyInto op.buffer op.bufoff data)
        readBlocks sys bitmap fd file n { op with buffer := buffer, current := op.current + 1 }
    else .ok op

def readCachedBlocks (sys : System) (fs : SimFs) (op : SimFsOp) : Except Fault SimFsOp :=
  match fs.fd with
  | none => .ok op
  | some fd => readBlocks sys fs.bitmap fd (fs.cacheFile fd) (op.endBlock + 1 - op.current) op

def opReadBlock (sys : System) (fs : SimFs) : Except Fault SimFs :=
  match fs.opQ with
  | [] => .error .other
  | op :: _ =>
    if !op.cb then orOther fs.endCurrent
    else if op.current = op.startBlock ∧ (op.numBytes = 0 ∨ sys.memory = false) then
      orOther ((fs.setHead { op with buffer := [] }).opError driver clients)
    else do
      let op := if op.current = op.startBlock then
        { op with buffer := List.replicate op.numBytes 0 } else op
      let op ← readCachedBlocks sys fs op
      if op.endBlock < op.current then orOther ((fs.setHead op).opDone driver clients op)
      else if driver.readFileTransparent then
        let readBytes := (min ((op.length : ℤ) - (op.current * 256 : ℕ)) 256 % 65536).toNat
        .ok ((fs.setHead op).request op
          (.readFileTransparent op.id (op.current * 256) readBytes op.path))
      else orOther ((fs.setHead op).opError driver clients)

def opRetrieveCb (sys : System) (reply : Option (List UInt8)) (fs : SimFs) : Except Fault SimFs :=
  match fs.opQ with
  | [] => .error .other
  | op :: _ =>
    if op.recordLength = 0 then .error .divideByZero
    else match reply with
      | none => orOther (fs.opError driver clients)
      | some data => do
        let fs ← cacheBlock sys (op.current - 1) op.recordLength data op.recordLength fs
        if op.cb then
          let fs := fs.invoke driver clients op (.data op.length op.current data op.recordLength)
          if op.current < op.total then .ok (fs.advance.idleAdd .readRecord)
          else orOther fs.endCurrent
        else orOther fs.endCurrent

def readRecords (sys : System) : ℕ → SimFs → Except Fault SimFs
  | 0, fs => .ok fs
  | n + 1, fs =>
    match fs.opQ, fs.fd with
    | [], _ => .error .other
    | _ :: _, none => .ok fs
    | op :: _, some fd =>
      if 32 ≤ (op.current - 1) / 8 then .error .bitmapIndex
      else if fs.bitmap.test (op.current - 1) then
        if 256 < op.recordLength then .error .recordBuffer
        else match cachedRecord sys fd (fs.cacheFile fd) op with
          | none => .ok fs
          | some data =>
            if op.cb then
              readRecords sys n (fs.invoke driver clients op
                (.data op.length op.current data op.recordLength)).advance
            else .error .other
      else .ok fs

def opReadRecord (sys : System) (fs : SimFs) : Except Fault SimFs :=
  match fs.opQ with
  | [] => .error .other
  | op :: _ =>
    if op.recordLength = 0 then .error .divideByZero
    else if op.cb then do
      let fs ← readRecords driver clients sys (op.total + 1 - op.current) fs
      match fs.opQ with
      | [] => .error .other
      | op :: _ =>
        if op.total < op.current then orOther fs.endCurrent
        else match op.fileStructure with
          | .fixed =>
            if driver.readFileLinear then
              .ok (fs.request op (.readFileLinear op.id op.current op.recordLength))
            else orOther (fs.opError driver clients)
          | .cyclic =>
            if driver.readFileCyclic then
              .ok (fs.request op (.readFileCyclic op.id op.current op.recordLength))
            else orOther (fs.opError driver clients)
          | .transparent => .ok fs
    else orOther fs.endCurrent

def handle (sys : System) (fs : SimFs) : Handler → Except Fault SimFs
  | .opNext => orOther (fs.opNext driver clients sys)
  | .readBlock => opReadBlock driver clients sys fs
  | .readRecord => opReadRecord driver clients sys fs

def deliver (sys : System) (fs : SimFs) : Request → Reply → Except Fault SimFs
  | .readFileTransparent .., .data data => opReadBlockCb driver clients sys data fs
  | .readFileLinear .., .data data => opRetrieveCb driver clients sys data fs
  | .readFileCyclic .., .data data => opRetrieveCb driver clients sys data fs
  | r, reply => orOther (fs.deliver driver clients sys r reply)

def step (fs : SimFs) : Input → Except Fault SimFs
  | .call c => .ok (if fs.writing.isSome then fs else fs.call driver c)
  | .dispatch sys =>
    if fs.writing.isSome then .ok fs
    else match fs.sources with
      | [] => .ok fs
      | handler :: rest => handle driver clients sys { fs with sources := rest } handler
  | .reply n reply sys =>
    match fs.requests[n]? with
    | none => .ok fs
    | some (_, r) =>
      if r.AnsweredBy reply then
        deliver driver clients sys { fs with requests := fs.requests.eraseIdx n } r reply
      else .ok fs
  | .driverReturns => orOther fs.driverReturns

end Handlers

/-! ## Without the reasons -/

section ToOption

variable (driver : SimDriver) (clients : ℕ → List Call)

variable {α : Type}

@[simp] lemma toOption_orOther (r : Option α) : (orOther r).toOption = r := by
  cases r with
  | none => rfl
  | some => rfl

lemma toOption_bind {β : Type} (r : Except Fault α) (f : α → Except Fault β) :
    (r >>= f).toOption = r.toOption >>= fun a => (f a).toOption := by
  cases r with
  | error => rfl
  | ok => rfl

@[simp] lemma toOption_ite (p : Prop) [Decidable p] (r r' : Except Fault α) :
    (if p then r else r').toOption = if p then r.toOption else r'.toOption := by
  split_ifs
  · rfl
  · rfl

lemma cacheBlock_toOption (sys : System) (block blockLen : ℕ) (data : List UInt8) (numBytes : ℕ)
    (fs : SimFs) : (cacheBlock sys block blockLen data numBytes fs).toOption = fs.cacheBlock sys
    block blockLen data numBytes := by
  unfold cacheBlock
  by_cases hindex : fs.fd.isSome ∧ numBytes ≤ data.length ∧ numBytes ≤ sys.stores 0 ∧ 32 ≤ block / 8
  · rw [if_pos hindex]
    rcases fs.cacheBlock_cases sys block blockLen data numBytes with ⟨-, -, hfault⟩ | ⟨hfits, -⟩
    · exact hfault.symm
    · have hblock := (hfits hindex.1).2 hindex.2.2.1
      omega
  · rw [if_neg hindex]
    exact toOption_orOther _

lemma opReadBlockCb_toOption (sys : System) (reply : Option (List UInt8)) (fs : SimFs) :
    (opReadBlockCb driver clients sys reply fs).toOption = fs.opReadBlockCb driver clients sys reply := by
  unfold opReadBlockCb SimFs.opReadBlockCb
  cases fs.opQ with
  | nil => rfl
  | cons op rest =>
    cases reply with
    | none => exact toOption_orOther _
    | some data =>
      simp only [toOption_ite, toOption_bind, toOption_orOther, cacheBlock_toOption]
      rfl

lemma readBlocks_toOption (sys : System) (bitmap : Bitmap 8 32) (fd : Fd) (file : CacheFile) (n : ℕ)
    (op : SimFsOp) :
    (readBlocks sys bitmap fd file n op).toOption = SimFs.readBlocks sys bitmap fd file n op := by
  induction n generalizing op with
  | zero => rfl
  | succ n ih =>
    unfold readBlocks SimFs.readBlocks
    cases SimFs.cachedBlock sys fd file op with
    | none =>
      simp only [toOption_ite]
      rfl
    | some data =>
      simp only [toOption_ite, toOption_bind, toOption_orOther, ih]
      rfl

lemma readCachedBlocks_toOption (sys : System) (fs : SimFs) (op : SimFsOp) :
    (readCachedBlocks sys fs op).toOption = fs.readCachedBlocks sys op := by
  unfold readCachedBlocks SimFs.readCachedBlocks
  cases fs.fd with
  | none => rfl
  | some fd => exact readBlocks_toOption sys _ fd _ _ op

lemma opReadBlock_toOption (sys : System) (fs : SimFs) :
    (opReadBlock driver clients sys fs).toOption = fs.opReadBlock driver clients sys := by
  unfold opReadBlock SimFs.opReadBlock
  cases fs.opQ with
  | nil => rfl
  | cons op rest =>
    simp only [toOption_ite, toOption_bind, toOption_orOther, readCachedBlocks_toOption]
    rfl

lemma opRetrieveCb_toOption (sys : System) (reply : Option (List UInt8)) (fs : SimFs) :
    (opRetrieveCb driver clients sys reply fs).toOption = fs.opRetrieveCb driver clients sys reply := by
  unfold opRetrieveCb SimFs.opRetrieveCb
  cases fs.opQ with
  | nil => rfl
  | cons op rest =>
    cases reply with
    | none =>
      simp only [toOption_ite, toOption_orOther]
      rfl
    | some data =>
      simp only [toOption_ite, toOption_bind, toOption_orOther, cacheBlock_toOption]
      rfl

lemma readRecords_toOption (sys : System) (n : ℕ) (fs : SimFs) :
    (readRecords driver clients sys n fs).toOption = fs.readRecords driver clients sys n := by
  induction n generalizing fs with
  | zero => rfl
  | succ n ih =>
    unfold readRecords SimFs.readRecords
    cases fs.opQ with
    | nil => rfl
    | cons op rest =>
      cases fs.fd with
      | none => rfl
      | some fd =>
        dsimp only
        cases SimFs.cachedRecord sys fd (fs.cacheFile fd) op with
        | none =>
          simp only [toOption_ite]
          rfl
        | some data =>
          simp only [toOption_ite, ih]
          rfl

lemma opReadRecord_toOption (sys : System) (fs : SimFs) :
    (opReadRecord driver clients sys fs).toOption = fs.opReadRecord driver clients sys := by
  unfold opReadRecord SimFs.opReadRecord
  cases fs.opQ with
  | nil => rfl
  | cons op rest =>
    simp only [toOption_ite, toOption_bind, toOption_orOther, readRecords_toOption]
    refine congrArg (ite _ none) (congrArg (ite _ · _) (congrArg _ (funext fun fs' => ?_)))
    cases fs'.opQ with
    | nil => rfl
    | cons op' rest' =>
      simp only [toOption_ite, toOption_orOther]
      refine congrArg (ite _ _) ?_
      cases op'.fileStructure with
      | transparent => rfl
      | fixed =>
        simp only [toOption_ite, toOption_orOther]
        rfl
      | cyclic =>
        simp only [toOption_ite, toOption_orOther]
        rfl

lemma deliver_toOption (sys : System) (fs : SimFs) (r : Request) (reply : Reply) :
    (deliver driver clients sys fs r reply).toOption = fs.deliver driver clients sys r reply := by
  cases r with
  | readFileTransparent id start length path =>
    cases reply with
    | data data => exact opReadBlockCb_toOption driver clients sys data fs
    | info => rfl
    | write => rfl
  | readFileLinear id record length =>
    cases reply with
    | data data => exact opRetrieveCb_toOption driver clients sys data fs
    | info => rfl
    | write => rfl
  | readFileCyclic id record length =>
    cases reply with
    | data data => exact opRetrieveCb_toOption driver clients sys data fs
    | info => rfl
    | write => rfl
  | _ => exact toOption_orOther _

lemma step_toOption (fs : SimFs) (input : Input) :
    (step driver clients fs input).toOption = fs.step driver clients input := by
  cases input with
  | call c =>
    unfold step SimFs.step
    dsimp only
    split_ifs
    · rfl
    · rfl
  | dispatch sys =>
    unfold step SimFs.step
    dsimp only
    split_ifs
    · rfl
    · cases fs.sources with
      | nil => rfl
      | cons handler rest =>
        cases handler with
        | opNext => exact toOption_orOther _
        | readBlock => exact opReadBlock_toOption driver clients sys _
        | readRecord => exact opReadRecord_toOption driver clients sys _
  | reply n reply sys =>
    unfold step SimFs.step
    dsimp only
    cases fs.requests[n]? with
    | none => rfl
    | some request =>
      dsimp only
      rw [toOption_ite, deliver_toOption]
      rfl
  | driverReturns => exact toOption_orOther _

end ToOption

end Checked

end Phonelets.Simfs
