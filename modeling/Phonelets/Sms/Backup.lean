import Mathlib
import Phonelets.Sms.Assembly
import Phonelets.Sms.RoundTrip
import Phonelets.Util.Hex

/-! # The backup of an assembly

Every fragment of a half-assembled message has a file, in a directory for its sender,
reference and total; `sms_assembly_new` reads the files back. The files are a map from
directories and sequence numbers to contents: a directory goes with its last file.
-/

namespace Phonelets.Sms

open List Option Outcome
open Decoder

/-! ## Names and contents of the files -/

/-- `SMS_BACKUP_PATH_DIR`: the name of a directory below that of the IMSI. -/
structure BackupDir where
  straddr : List UInt8
  ref : UInt16
  max : UInt8
  deriving DecidableEq

/-- The regular files below the directory of the IMSI. -/
abbrev Files := BackupDir → ℕ → Option (List UInt8)

def Files.write (files : Files) (dir : BackupDir) (seq : ℕ) (buf : List UInt8) : Files :=
  Function.update files dir (Function.update (files dir) seq (some buf))

def Files.unlink (files : Files) (dir : BackupDir) (seq : ℕ) : Files :=
  Function.update files dir (Function.update (files dir) seq none)

/-- `sms_address_to_hex_string`. `straddr` has 25 characters; besides the terminator of
the string one more NUL is written, at `offset * 2 + 1`. -/
def smsAddressToHexString (a : SmsAddress) : Outcome (List UInt8) := do
  let pdu ← smsEncodeAddressField a false
  if pdu.length * 2 + 1 < 25 then .ok (Hex.encodeHexOwnBuf pdu) else .fault

/-- `sms_assembly_extract_address`; `pdu` has 12 octets. -/
def smsAssemblyExtractAddress (straddr : List UInt8) : Outcome SmsAddress := do
  let pdu ← .orReject (Hex.decodeHexOwnBuf straddr)
  if pdu.length > 12 then .fault
  else do
    let r ← smsDecodeAddressField false ⟨pdu, pdu.length⟩
    .ok r.1

/-- `sms_serialize` into the 177 octets of its callers. It does not look at what
`sms_encode` returns; after `FALSE` its lengths have not been set. -/
def smsSerialize (sms : Sms) : Outcome (List UInt8) :=
  match smsEncode sms with
  | .ok (pdu, tpduLen) =>
    if pdu.length + 1 ≤ 177 then .ok (UInt8.ofNat tpduLen :: pdu) else .fault
  | _ => .fault

def smsDeserialize : List UInt8 → Outcome Sms
  | [] => .reject
  | tpduLen :: pdu => smsDecode pdu false tpduLen.toNat

/-! ## Keeping the files -/

def smsAssemblyStore (files : Files) (node : AssemblyNode) (sms : Sms) (seq : UInt8) :
    Outcome Files :=
  match smsAddressToHexString node.addr with
  | .ok straddr => do
      let buf ← smsSerialize sms
      .ok (files.write ⟨straddr, node.ref, node.maxFragments⟩ seq.toNat buf)
  | .reject => .ok files
  | .fault => .fault

/-- The loop of `sms_assembly_backup_free`, from 0 to `max_fragments - 1`. -/
def unlinkFragments (files : Files) (node : AssemblyNode) (dir : BackupDir) : Files :=
  (List.range node.maxFragments.toNat).foldl (fun files seq =>
    if node.bitmap.test seq then files.unlink dir seq else files) files

def smsAssemblyBackupFree (files : Files) (node : AssemblyNode) : Outcome Files :=
  match smsAddressToHexString node.addr with
  | .ok straddr => .ok (unlinkFragments files node ⟨straddr, node.ref, node.maxFragments⟩)
  | .reject => .ok files
  | .fault => .fault

/-- A backup operation; a fragment that is being loaded is not stored (`backup`). -/
def doBackup (files : Files) (backup : Bool) : BackupOp → Outcome Files
  | .store node sms seq => if backup then smsAssemblyStore files node sms seq else .ok files
  | .free node => smsAssemblyBackupFree files node

/-- `struct sms_assembly` of an IMSI, with its files. -/
structure SmsAssembly where
  assemblyList : List AssemblyNode
  files : Files

/-- `sms_assembly_add_fragment_backup` with its effect on the files. -/
def SmsAssembly.addFragmentBackup (s : SmsAssembly) (sms : Sms) (ts : ℤ) (addr : SmsAddress)
    (ref : UInt16) (max seq : UInt8) (backup : Bool) : Outcome SmsAssembly := do
  let r := smsAssemblyAddFragmentBackup s.assemblyList sms ts addr ref max seq
  let files ← r.backup.toList.foldlM (fun files => doBackup files backup) s.files
  .ok ⟨r.assemblyList, files⟩

/-- `sms_assembly_expire` with its effect on the files. -/
def SmsAssembly.expire (s : SmsAssembly) (before : ℤ) : Outcome SmsAssembly := do
  let r := smsAssemblyExpire before s.assemblyList
  let files ← r.2.foldlM (fun files => doBackup files true) s.files
  .ok ⟨r.1, files⟩

def SmsAssembly.call (s : SmsAssembly) : AssemblyCall → Outcome SmsAssembly
  | .addFragment f => s.addFragmentBackup f.sms f.ts f.addr f.ref f.max f.seq true
  | .expire before => s.expire before

/-- One call after the other. -/
def SmsAssembly.calls (s : SmsAssembly) (cs : List AssemblyCall) : Outcome SmsAssembly :=
  cs.foldlM SmsAssembly.call s

/-! ## Reading the files back -/

/-- One turn of the loop of `sms_assembly_load`; `mtime` is what `stat` tells. -/
def SmsAssembly.loadSegment (mtime : BackupDir → ℕ → ℤ) (dir : BackupDir) (addr : SmsAddress)
    (s : SmsAssembly) (seq : ℕ) : Outcome SmsAssembly :=
  match s.files dir seq with
  | none => .ok s
  | some buf =>
    match smsDeserialize buf with
    | .ok segment =>
      s.addFragmentBackup segment (mtime dir seq) addr dir.ref dir.max (UInt8.ofNat seq) false
    | .reject => .ok s
    | .fault => .fault

/-- `sms_assembly_load`: `versionsort` puts the names `%03i` in the order of their
numbers. -/
def SmsAssembly.load (mtime : BackupDir → ℕ → ℤ) (s : SmsAssembly) (dir : BackupDir) :
    Outcome SmsAssembly :=
  match smsAssemblyExtractAddress dir.straddr with
  | .ok addr => (List.range 256).foldlM (SmsAssembly.loadSegment mtime dir addr) s
  | .reject => .ok s
  | .fault => .fault

/-- `sms_assembly_new` of an IMSI; `dirs` are the directories in the order in which they
are loaded. -/
def smsAssemblyNew (files : Files) (mtime : BackupDir → ℕ → ℤ) (dirs : List BackupDir) :
    Outcome SmsAssembly :=
  dirs.foldlM (SmsAssembly.load mtime) ⟨[], files⟩

/-! ## Files and messages under way -/

/-- The address has a name that it is read back from. -/
def AddrStorable (a : SmsAddress) : Prop :=
  ∃ straddr, smsAddressToHexString a = .ok straddr ∧ smsAssemblyExtractAddress straddr = .ok a

/-- The message has a file that it is read back from. -/
def SmsStorable (sms : Sms) : Prop :=
  ∃ buf, smsSerialize sms = .ok buf ∧ smsDeserialize buf = .ok sms

lemma extractAddress_encodeHex {pdu : List UInt8} (hlen : pdu.length ≤ 12) :
    smsAssemblyExtractAddress (Hex.encodeHexOwnBuf pdu) =
      (smsDecodeAddressField false (on pdu [])).bind fun r => .ok r.1 := by
  have hcursor : (⟨pdu, pdu.length⟩ : Cursor) = on pdu [] := by simp [on]
  unfold smsAssemblyExtractAddress
  rw [Hex.decodeHexOwnBuf_encodeHexOwnBuf, orReject_some, ok_bind,
    if_neg (by omega), hcursor]
  rfl

/-- A number of at most 18 digits, without capitals, is stored under a name that it is
read back from. -/
lemma addrStorable_of_numeric {a : SmsAddress} (hnum : a.Numeric) (hcap : a.NoCapitals)
    (hlen : a.address.bytes.length ≤ 18) : AddrStorable a := by
  rcases smsEncodeAddressField_numeric hnum false with ⟨pdu, hpdu, hat⟩
  have hle := smsEncodeAddressField_length hnum hpdu
  have hrun := (hat []).run []
  rw [append_nil, (addr_readBack_eq_iff a).mpr hcap] at hrun
  refine ⟨Hex.encodeHexOwnBuf pdu, ?_, ?_⟩
  · unfold smsAddressToHexString
    rw [hpdu, ok_bind, if_pos (by omega)]
  · rw [extractAddress_encodeHex (by omega), hrun]
    rfl

/-- The directory of the message `k` with the total `max`. -/
def IsDirOf (dir : BackupDir) (k : MessageKey) (max : UInt8) : Prop :=
  smsAddressToHexString k.1 = .ok dir.straddr ∧ dir.ref = k.2 ∧ dir.max = max

/-- The files are those of the fragments received of the messages under way. -/
structure Backs (files : Files) (a : Pending) : Prop where
  addr : ∀ k p, a k = some p → AddrStorable k.1
  sms : ∀ k p t sms, a k = some p → p.received t = some sms → SmsStorable sms
  started : ∀ k p, a k = some p → ∃ t, (p.received t).isSome
  file : ∀ dir seq buf, files dir seq = some buf ↔
    ∃ k p sms, a k = some p ∧ p.received seq = some sms ∧ IsDirOf dir k p.max ∧
      smsSerialize sms = .ok buf

variable {dir : BackupDir} {k : MessageKey}

lemma IsDirOf.unique {k' : MessageKey} {max max' : UInt8} (h : IsDirOf dir k max) (h' : IsDirOf
    dir k' max') (hk : AddrStorable k.1) (hk' : AddrStorable k'.1) : k = k' ∧ max = max' := by
  rcases hk with ⟨straddr, hhex, hback⟩
  rcases hk' with ⟨straddr', hhex', hback'⟩
  rw [h.1] at hhex
  cases hhex
  rw [h'.1] at hhex'
  cases hhex'
  rw [hback] at hback'
  refine ⟨Prod.ext (Outcome.ok.inj hback') ?_, ?_⟩
  · rw [← h.2.1, h'.2.1]
  · rw [← h.2.2, h'.2.2]

lemma IsDirOf.eq {dir' : BackupDir} {max : UInt8} (h : IsDirOf dir k max)
    (h' : IsDirOf dir' k max) : dir = dir' := by
  rcases dir with ⟨straddr, ref, m⟩
  rcases dir' with ⟨straddr', ref', m'⟩
  rcases h with ⟨hhex, rfl, rfl⟩
  rcases h' with ⟨hhex', hr, hm⟩
  simp only at hhex hhex' hr hm
  rw [hhex] at hhex'
  rw [Outcome.ok.inj hhex', hr, hm]

lemma backs_empty : Backs (fun _ _ => none) fun _ => none where
  addr := by simp
  sms := by simp
  started := by simp
  file := by simp

lemma Files.write_eq (files : Files) (dir dir' : BackupDir) (seq seq' : ℕ) (buf : List UInt8) :
    files.write dir seq buf dir' seq' =
      if dir' = dir ∧ seq' = seq then some buf else files dir' seq' := by
  unfold Files.write
  by_cases hd : dir' = dir
  · subst hd
    by_cases hs : seq' = seq <;> simp [hs]
  · simp [hd]

lemma Files.unlink_eq (files : Files) (dir dir' : BackupDir) (seq seq' : ℕ) :
    files.unlink dir seq dir' seq' = if dir' = dir ∧ seq' = seq then none else files dir' seq' := by
  unfold Files.unlink
  by_cases hd : dir' = dir
  · subst hd
    by_cases hs : seq' = seq <;> simp [hs]
  · simp [hd]

lemma unlinkFragments_eq (files : Files) (node : AssemblyNode) (dir dir' : BackupDir) (seq : ℕ) :
    unlinkFragments files node dir dir' seq = if dir' = dir ∧ seq < node.maxFragments.toNat ∧
    node.bitmap.test seq then none else files dir' seq := by
  unfold unlinkFragments
  generalize node.maxFragments.toNat = n
  induction n with
  | zero => simp
  | succ n ih =>
    rw [range_succ, foldl_append, foldl_cons, foldl_nil]
    by_cases htest : node.bitmap.test n = true
    · rw [if_pos htest, Files.unlink_eq, ih]
      by_cases hseq : seq = n
      · subst hseq
        by_cases hd : dir' = dir <;> simp [hd, htest]
      · have hlt : seq < n + 1 ↔ seq < n := by omega
        simp [hseq, hlt]
    · rw [if_neg htest, ih]
      by_cases hseq : seq = n
      · subst hseq
        simp [htest]
      · have hlt : seq < n + 1 ↔ seq < n := by omega
        simp [hlt]

/-! ### Storing a fragment -/

lemma Partial.receive_self (p : Partial) (seq : ℕ) (sms : Sms) :
    (p.receive seq sms).received seq = some sms :=
  Function.update_self _ _ _

variable {seq t : ℕ}

lemma Partial.receive_of_ne (p : Partial) (h : t ≠ seq) (sms : Sms) :
    (p.receive seq sms).received t = p.received t :=
  Function.update_of_ne h _ _

variable {p : Partial}

variable {sms : Sms}

lemma Partial.held_before {x : Option Partial} (hold : ∀ q, x = some q → q = p)
    (hnone : x = none → ∀ t, p.received t = none) {sms' : Sms} (ht : t ≠ seq)
    (h : (p.receive seq sms).received t = some sms') : x = some p ∧ p.received t = some sms' := by
  rw [Partial.receive_of_ne _ ht] at h
  cases hx : x with
  | none =>
    rw [hnone hx t] at h
    cases h
  | some q => exact ⟨by rw [hold q hx], h⟩

variable {files : Files} {a : Pending}

variable {p : Partial}

lemma Backs.file_write (h : Backs files a) (hold : ∀ q, a k = some q → q = p) (hnone : a k = none →
    ∀ t, p.received t = none) (haddr : AddrStorable k.1) (hnew : p.received seq = none)
    (hdir : IsDirOf dir k p.max) {buf : List UInt8} (hbuf : smsSerialize sms = .ok buf)
    (dir' : BackupDir) (seq' : ℕ) (buf' : List UInt8) : files.write dir seq buf dir' seq' =
    some buf' ↔ ∃ k' q sms', Function.update a k (some (p.receive seq sms)) k' = some q ∧
    q.received seq' = some sms' ∧ IsDirOf dir' k' q.max ∧ smsSerialize sms' = .ok buf' := by
  rw [Files.write_eq]
  constructor
  · intro hfile
    split at hfile
    · rename_i heq
      rcases heq with ⟨rfl, rfl⟩
      cases hfile
      exact ⟨k, _, sms, Function.update_self _ _ _, Partial.receive_self _ _ _, hdir, hbuf⟩
    · rename_i hne
      rcases (h.file dir' seq' buf').mp hfile with ⟨k', q, sms', hq, hsms', hd, hbuf'⟩
      by_cases hk : k' = k
      · -- an older file of the same message
        subst hk
        have hqp := hold q hq
        subst hqp
        have hseq : seq' ≠ seq := by
          rintro rfl
          rw [hnew] at hsms'
          cases hsms'
        refine ⟨k', _, sms', Function.update_self _ _ _, ?_, hd, hbuf'⟩
        rw [Partial.receive_of_ne _ hseq]
        exact hsms'
      · exact ⟨k', q, sms', by rw [Function.update_of_ne hk]; exact hq, hsms', hd, hbuf'⟩
  · rintro ⟨k', q, sms', hq, hsms', hd, hbuf'⟩
    by_cases hk : k' = k
    · subst hk
      rw [Function.update_self] at hq
      cases hq
      by_cases hseq : seq' = seq
      · rw [if_pos ⟨hd.eq hdir, hseq⟩]
        rw [hseq, Partial.receive_self] at hsms'
        cases hsms'
        rw [hbuf] at hbuf'
        rw [Outcome.ok.inj hbuf']
      · rw [if_neg fun hboth => hseq hboth.2]
        rcases Partial.held_before hold hnone hseq hsms' with ⟨ha, hheld⟩
        exact (h.file dir' seq' buf').mpr ⟨k', p, sms', ha, hheld, hd, hbuf'⟩
    · -- a file of another message is in another directory
      rw [Function.update_of_ne hk] at hq
      rw [if_neg ?_]
      · exact (h.file dir' seq' buf').mpr ⟨k', q, sms', hq, hsms', hd, hbuf'⟩
      · rintro ⟨rfl, -⟩
        exact hk (hd.unique hdir (h.addr k' q hq) haddr).1

variable {node : AssemblyNode}

lemma Backs.store (h : Backs files a) (hold : ∀ q, a node.key = some q → q = p) (hnone : a node.key = none → ∀ t, p.received t = none) {seq : UInt8} (hmax : node.maxFragments = p.max)
    (haddr : AddrStorable node.addr) (hsms : SmsStorable sms)
    (hnew : p.received seq.toNat = none) :
    ∃ files', smsAssemblyStore files node sms seq = .ok files' ∧
      Backs files' (Function.update a node.key (some (p.receive seq.toNat sms))) := by
  have haddr' := haddr
  rcases haddr' with ⟨straddr, hhex, -⟩
  rcases hsms with ⟨buf, hbuf, hback⟩
  have hdir : IsDirOf ⟨straddr, node.ref, node.maxFragments⟩ node.key p.max := ⟨hhex, rfl, hmax⟩
  refine ⟨files.write ⟨straddr, node.ref, node.maxFragments⟩ seq.toNat buf, ?_, ?_⟩
  · unfold smsAssemblyStore
    rw [hhex]
    simp [hbuf]
  constructor
  · intro k q hq
    by_cases hk : k = node.key
    · rw [hk]
      exact haddr
    · rw [Function.update_of_ne hk] at hq
      exact h.addr k q hq
  · intro k q t sms' hq hsms'
    by_cases hk : k = node.key
    · rw [hk, Function.update_self] at hq
      cases hq
      by_cases ht : t = seq.toNat
      · rw [ht, Partial.receive_self] at hsms'
        cases hsms'
        exact ⟨buf, hbuf, hback⟩
      · rcases Partial.held_before hold hnone ht hsms' with ⟨ha, hheld⟩
        exact h.sms _ _ _ _ ha hheld
    · rw [Function.update_of_ne hk] at hq
      exact h.sms k q t sms' hq hsms'
  · intro k q hq
    by_cases hk : k = node.key
    · rw [hk, Function.update_self] at hq
      cases hq
      exact ⟨seq.toNat, by rw [Partial.receive_self]; rfl⟩
    · rw [Function.update_of_ne hk] at hq
      exact h.started k q hq
  · exact h.file_write hold hnone haddr hnew hdir hbuf

/-! ### Removing the files of a message -/

/-- The files of a message are removed with it, unless its last fragment has one. -/
lemma Backs.free (h : Backs files a) (haddr : AddrStorable node.addr)
    (hcover : ∀ q, a node.key = some q → q.max = node.maxFragments ∧ ∀ t, (q.received t).isSome →
    t < node.maxFragments.toNat ∧ node.bitmap.test t) : ∃ files', smsAssemblyBackupFree files node =
    .ok files' ∧ Backs files' (Function.update a node.key none) := by
  have haddr' := haddr
  rcases haddr' with ⟨straddr, hhex, -⟩
  have hdir : IsDirOf ⟨straddr, node.ref, node.maxFragments⟩ node.key node.maxFragments :=
    ⟨hhex, rfl, rfl⟩
  have hkept : ∀ k q, Function.update a node.key none k = some q → k ≠ node.key ∧ a k = some q := by
    intro k q hq
    by_cases hk : k = node.key
    · rw [hk, Function.update_self] at hq
      cases hq
    · rw [Function.update_of_ne hk] at hq
      exact ⟨hk, hq⟩
  refine ⟨unlinkFragments files node ⟨straddr, node.ref, node.maxFragments⟩, ?_, ?_⟩
  · unfold smsAssemblyBackupFree
    rw [hhex]
  constructor
  · intro k q hq
    exact h.addr k q (hkept k q hq).2
  · intro k q t sms hq hsms
    exact h.sms k q t sms (hkept k q hq).2 hsms
  · intro k q hq
    exact h.started k q (hkept k q hq).2
  · intro dir' seq buf
    rw [unlinkFragments_eq]
    constructor
    · intro hfile
      split at hfile
      · cases hfile
      · rename_i hne
        rcases (h.file dir' seq buf).mp hfile with ⟨k, q, sms, hq, hsms, hd, hbuf⟩
        by_cases hk : k = node.key
        · subst hk
          rcases hcover q hq with ⟨hmax, hall⟩
          rcases hall seq (by rw [hsms]; rfl) with ⟨hlt, htest⟩
          rw [hmax] at hd
          exact absurd ⟨hd.eq hdir, hlt, htest⟩ hne
        · exact ⟨k, q, sms, by rw [Function.update_of_ne hk]; exact hq, hsms, hd, hbuf⟩
    · rintro ⟨k, q, sms, hq, hsms, hd, hbuf⟩
      rcases hkept k q hq with ⟨hk, hak⟩
      rw [if_neg ?_]
      · exact (h.file dir' seq buf).mpr ⟨k, q, sms, hak, hsms, hd, hbuf⟩
      · rintro ⟨rfl, -⟩
        exact hk (hd.unique hdir (h.addr k q hak) haddr).1

/-! ### Calls -/

/-- The steps after which the files are still those of the fragments held: what is stored
can be read back; the fragment that completes a message has the number `max`; and no
message expires that has received the fragment `max`. -/
def BackupSafe (l : List AssemblyNode) : AssemblyCall → Prop
  | .addFragment f =>
    AddrStorable f.addr ∧ SmsStorable f.sms ∧
      ∀ n ∈ l, n.key = f.key → n.maxFragments = f.max →
        (∀ s, 1 ≤ s → s ≤ f.max.toNat → s ≠ f.seq.toNat → n.bitmap.test s = true) →
        f.seq = f.max
  | .expire before => ∀ n ∈ l, n.ts ≤ before → n.bitmap.test n.maxFragments.toNat = false

variable {l : List AssemblyNode}

variable {f : Fragment}

/-- The backup operation of a fragment that is not ignored, for its node with the
fragment in it. -/
lemma addFragment_backup (h : Represents l a) (hign : ¬ a.Ignores f) :
    ∃ node, node.key = f.key ∧ node.Holds (a.received f) ∧ (addFragment l f).backup =
    some (if (a.received f).Complete then .free node else .store node f.sms f.seq) := by
  rcases addFragment_at h f with ⟨before, node, after, hholds, hkey, -, -, heq⟩
  have hmax : f.max = (a.partialOf f).max := by
    by_contra hne
    exact hign (Or.inl hne)
  have hnone : (a.partialOf f).received f.seq.toNat = none := by
    rw [← not_isSome_iff_eq_none]
    exact fun hsome => hign (Or.inr hsome)
  rcases insertFragment_spec hholds f.seq_pos (hmax ▸ f.seq_le) hnone before after f.sms with
    ⟨node', hkey', hholds', hins⟩
  refine ⟨node', hkey'.trans hkey, hholds', ?_⟩
  rw [heq, if_neg hign, hins]
  show (if (a.received f).Complete then _ else _ : AddResult).backup = _
  split <;> rfl

variable {f : Fragment}

/-- What is under way for the key of a fragment is what `partialOf` tells. -/
lemma Pending.partialOf_eq (h : a f.key = some p) : a.partialOf f = p := by
  rw [Pending.partialOf, h]
  rfl

/-- The fragment that completes a message is the one without a file: it has the number
`max`, and the files of the others are those that `sms_assembly_backup_free` removes. -/
lemma covers_of_complete (hrep : Represents l a) (hign : ¬ a.Ignores f) (hkey : node.key = f.key)
    (hholds : node.Holds (a.received f)) (hlast : ∀ n ∈ l, n.key = f.key → n.maxFragments = f.max →
    (∀ s, 1 ≤ s → s ≤ f.max.toNat → s ≠ f.seq.toNat → n.bitmap.test s = true) → f.seq = f.max) (hc :
    (a.received f).Complete) (q : Partial) (hq : a node.key = some q) : q.max = node.maxFragments ∧
    ∀ t, (q.received t).isSome → t < node.maxFragments.toNat ∧ node.bitmap.test t := by
  have hmax : (a.partialOf f).max = f.max := by
    by_contra hne
    exact hign (Or.inl (Ne.symm hne))
  rw [hkey] at hq
  have hpart := Pending.partialOf_eq hq
  have hnode : node.maxFragments = f.max := by
    rw [hholds.max, ← hmax]
    rfl
  refine ⟨?_, ?_⟩
  · rw [hnode, ← hmax, hpart]
  intro t ht
  have htne : t ≠ f.seq.toNat := by
    rintro rfl
    rw [← hpart] at ht
    exact hign (Or.inr ht)
  -- with the others there, the node in the list lacks this fragment alone
  rcases hrep.all f.key (by rw [hq]; rfl) with ⟨n, hn, hnk⟩
  rcases hrep.node n hn with ⟨p, hp, hnholds, -⟩
  rw [hnk, hq] at hp
  cases hp
  have hm : (a.received f).max = f.max := hmax
  have hseq : f.seq = f.max := by
    refine hlast n hn hnk ?_ ?_
    · rw [hnholds.max, ← hpart, hmax]
    · intro t' hpos hle hne
      have hrange : t' ∈ List.range' 1 (a.received f).max.toNat := by
        rw [hm, mem_range'_1]
        omega
      have hsome := hc t' hrange
      rw [Pending.received, Partial.receive_of_ne _ hne, hpart] at hsome
      rw [hnholds.bitmap, hsome]
  have hrange := hnholds.range t ht
  have hqmax : q.max = f.max := by rw [← hpart, hmax]
  rw [hqmax, ← hseq] at hrange
  refine ⟨?_, ?_⟩
  · rw [hnode, ← hseq]
    omega
  · rw [hholds.bitmap, Pending.received, Partial.receive_of_ne _ htne, hpart]
    exact ht

variable {s : SmsAssembly}

lemma SmsAssembly.call_addFragment_eq {op : Option BackupOp}
    (hop : (addFragment s.assemblyList f).backup = op) {files : Files}
    (hfiles : op.toList.foldlM (fun files => doBackup files true) s.files = .ok files) :
    s.call (.addFragment f) = .ok ⟨(addFragment s.assemblyList f).assemblyList, files⟩ := by
  subst hop
  show (_ >>= _) = _
  rw [show (smsAssemblyAddFragmentBackup s.assemblyList f.sms f.ts f.addr f.ref f.max f.seq) =
    addFragment s.assemblyList f from rfl, hfiles]
  rfl

lemma SmsAssembly.call_addFragment (hrep : Represents s.assemblyList a) (hback : Backs s.files a)
    (hsafe : BackupSafe s.assemblyList (.addFragment f)) : ∃ s', s.call (.addFragment f) = .ok s' ∧
    s'.assemblyList = (addFragment s.assemblyList f).assemblyList ∧
    Backs s'.files (a.step (.addFragment f)).2 := by
  rcases hsafe with ⟨haddr, hsms, hlast⟩
  rw [Pending.step_addFragment]
  by_cases hign : a.Ignores f
  · rcases addFragment_at hrep f with ⟨before, node, after, -, -, -, -, heq⟩
    rw [if_pos hign] at heq ⊢
    exact ⟨_, SmsAssembly.call_addFragment_eq (by rw [heq]) rfl, rfl, hback⟩
  · rcases addFragment_backup hrep hign with ⟨node, hkey, hholds, hop⟩
    have hnone : (a.partialOf f).received f.seq.toNat = none := by
      rw [← not_isSome_iff_eq_none]
      exact fun hsome => hign (Or.inr hsome)
    have haddr' : AddrStorable node.addr := by
      have hnode : node.addr = f.addr := congrArg Prod.fst hkey
      rw [hnode]
      exact haddr
    rw [if_neg hign]
    by_cases hc : (a.received f).Complete
    · -- the last fragment missing: the message goes, and its files with it
      rw [if_pos hc] at hop ⊢
      have hcover := covers_of_complete hrep hign hkey hholds hlast hc
      rcases hback.free haddr' hcover with ⟨files', hfree, hback'⟩
      have hfold : (some (BackupOp.free node)).toList.foldlM
          (fun files => doBackup files true) s.files = .ok files' := by
        simp [doBackup, hfree]
      rw [hkey] at hback'
      exact ⟨_, SmsAssembly.call_addFragment_eq hop hfold, rfl, hback'⟩
    · -- the fragment is kept, and stored beside those held
      rw [if_neg hc] at hop ⊢
      have hold : ∀ q, a node.key = some q → q = a.partialOf f := by
        intro q hq
        rw [hkey] at hq
        exact (Pending.partialOf_eq hq).symm
      have hfresh : a node.key = none → ∀ t, (a.partialOf f).received t = none := by
        intro ha t
        rw [hkey] at ha
        rw [Pending.partialOf, ha]
        rfl
      rcases hback.store hold hfresh hholds.max haddr' hsms hnone with ⟨files', hstore, hback'⟩
      have hfold : (some (BackupOp.store node f.sms f.seq)).toList.foldlM
          (fun files => doBackup files true) s.files = .ok files' := by
        simp [doBackup, hstore]
      rw [hkey] at hback'
      exact ⟨_, SmsAssembly.call_addFragment_eq hop hfold, rfl, hback'⟩

lemma smsAssemblyExpire_backup (before : ℤ) (l : List AssemblyNode) :
    (smsAssemblyExpire before l).2 = (l.filter fun n => ¬ n.ts > before).map .free := by
  induction l with
  | nil => rfl
  | cons n l ih =>
    unfold smsAssemblyExpire
    by_cases hn : n.ts > before
    · rw [if_pos hn, filter_cons_of_neg (by simpa using hn), ← ih]
    · rw [if_neg hn, filter_cons_of_pos (by simpa using hn), map_cons, ← ih]

/-- What is under way without the messages of some nodes. -/
def Pending.without (a : Pending) (ns : List AssemblyNode) : Pending := fun k =>
  if k ∈ ns.map AssemblyNode.key then none else a k

lemma Pending.without_nil (a : Pending) : a.without [] = a := by
  funext k
  simp [Pending.without]

lemma Pending.without_append (a : Pending) (ns : List AssemblyNode) (n : AssemblyNode) :
    a.without (ns ++ [n]) = Function.update (a.without ns) n.key none := by
  funext k
  by_cases hk : k = n.key
  · subst hk
    simp [Pending.without]
  · rw [Function.update_of_ne hk]
    simp [Pending.without, hk]

/-- The nodes that expire. -/
def expired (before : ℤ) (l : List AssemblyNode) : List AssemblyNode :=
  l.filter fun n => ¬ n.ts > before

lemma Represents.without_expired (h : Represents l a)
    (before : ℤ) : a.without (expired before l) = (a.step (.expire before)).2 := by
  funext k
  show (if k ∈ (expired before l).map AssemblyNode.key then none else a k) =
    (a k).filter fun p => p.ts > before
  cases hak : a k with
  | none => simp
  | some p =>
    rcases h.all k (by rw [hak]; rfl) with ⟨n, hn, rfl⟩
    rcases h.node n hn with ⟨q, hq, hholds, -⟩
    rw [hak] at hq
    cases hq
    by_cases hts : n.ts > before
    · have hnot : n.key ∉ (expired before l).map AssemblyNode.key := by
        intro hmem
        rcases mem_map.mp hmem with ⟨m, hm, hmk⟩
        rcases mem_filter.mp hm with ⟨hml, hmts⟩
        have heq := inj_on_of_nodup_map h.nodup hml hn hmk
        subst heq
        simp at hmts
        omega
      rw [if_neg hnot, filter_some, if_pos (by rw [← hholds.ts]; simpa using hts)]
    · have hmem : n.key ∈ (expired before l).map AssemblyNode.key :=
        mem_map.mpr ⟨n, mem_filter.mpr ⟨hn, by simpa using hts⟩, rfl⟩
      rw [if_pos hmem, filter_some, if_neg (by rw [← hholds.ts]; simpa using hts)]

lemma SmsAssembly.free_expired (hrep : Represents s.assemblyList a) (hback : Backs s.files a)
    {before : ℤ} (hsafe : BackupSafe s.assemblyList (.expire before)) : ∃ files',
    (expired before s.assemblyList).foldlM (fun files n => doBackup files true (.free n)) s.files =
    .ok files' ∧ Backs files' (a.without (expired before s.assemblyList)) := by
  refine foldlM_ok (fun ns files => Backs files (a.without ns)) ?_ ?_
  · intro pre n post files hl hfiles
    have hmem : n ∈ expired before s.assemblyList := by
      rw [hl]
      simp
    rcases mem_filter.mp hmem with ⟨hn, hts⟩
    rcases hrep.node n hn with ⟨p, hp, hholds, -⟩
    have hkeys : ((expired before s.assemblyList).map AssemblyNode.key).Nodup :=
      hrep.nodup.sublist (filter_sublist.map AssemblyNode.key)
    have hnot : n.key ∉ pre.map AssemblyNode.key := by
      rw [hl, map_append, map_cons] at hkeys
      intro hpre
      exact disjoint_of_nodup_append hkeys hpre (by simp)
    have hcover : ∀ q, a.without pre n.key = some q → q.max = n.maxFragments ∧
        ∀ t, (q.received t).isSome → t < n.maxFragments.toNat ∧ n.bitmap.test t := by
      intro q hq
      simp only [Pending.without, if_neg hnot, hp] at hq
      cases hq
      refine ⟨hholds.max.symm, ?_⟩
      intro t ht
      have hbit : n.bitmap.test t = true := by rw [hholds.bitmap, ht]
      have hle := (hholds.range t ht).2
      have hne : t ≠ n.maxFragments.toNat := by
        rintro rfl
        rw [hsafe n hn (by simpa using hts)] at hbit
        cases hbit
      rw [← hholds.max] at hle
      exact ⟨by omega, hbit⟩
    rcases hfiles.free (hback.addr _ _ hp) hcover with ⟨files', hfree, hback'⟩
    refine ⟨files', hfree, ?_⟩
    rw [Pending.without_append]
    exact hback'
  · rw [Pending.without_nil]
    exact hback

lemma SmsAssembly.call_expire (hrep : Represents s.assemblyList a) (hback : Backs s.files a)
    {before : ℤ} (hsafe : BackupSafe s.assemblyList (.expire before)) :
    ∃ s', s.call (.expire before) = .ok s' ∧ s'.assemblyList =
    (smsAssemblyExpire before s.assemblyList).1 ∧ Backs s'.files (a.step (.expire before)).2 := by
  rcases s.free_expired hrep hback hsafe with ⟨files', hfiles, hback'⟩
  refine ⟨⟨(smsAssemblyExpire before s.assemblyList).1, files'⟩, ?_, rfl, ?_⟩
  · show (_ >>= _) = _
    rw [smsAssemblyExpire_backup, foldlM_map]
    rw [expired] at hfiles
    rw [hfiles]
    rfl
  · rw [← hrep.without_expired]
    exact hback'

/-- After calls that are all safe, the nodes are those of the calls without a backup, and
the files are those of the fragments they hold. -/
lemma SmsAssembly.calls_spec (cs : List AssemblyCall) (h : Machine.AllSteps assemblyStep BackupSafe
    [] cs) : ∃ s a, SmsAssembly.calls ⟨[], fun _ _ => none⟩ cs = .ok s ∧ s.assemblyList =
    (Machine.run assemblyStep [] cs).2 ∧ Represents s.assemblyList a ∧ Backs s.files a := by
  have hfold := foldlM_ok (f := SmsAssembly.call) (l := cs) (s := ⟨[], fun _ _ => none⟩)
    (fun pre s => s.assemblyList = (Machine.run assemblyStep [] pre).2 ∧
      ∃ a, Represents s.assemblyList a ∧ Backs s.files a) ?_ ?_
  · rcases hfold with ⟨s, hs, hlist, a, hrep, hback⟩
    exact ⟨s, a, hs, hlist, hrep, hback⟩
  · rintro pre c post s rfl ⟨hlist, a, hrep, hback⟩
    have hsafe := h.at
    have hnext : (Machine.run assemblyStep [] (pre ++ [c])).2 = (assemblyStep s.assemblyList c).2 := by
      rw [Machine.run_append, hlist]
      rfl
    rw [← hlist] at hsafe
    rw [hnext]
    cases c with
    | addFragment f =>
      rcases s.call_addFragment hrep hback hsafe with ⟨s', hs', hlist', hback'⟩
      refine ⟨s', hs', hlist', _, ?_, hback'⟩
      rw [hlist']
      exact (addFragment_spec hrep f).2.1
    | expire before =>
      rcases s.call_expire hrep hback hsafe with ⟨s', hs', hlist', hback'⟩
      refine ⟨s', hs', hlist', _, ?_, hback'⟩
      rw [hlist']
      exact smsAssemblyExpire_spec hrep before
  · exact ⟨rfl, _, represents_nil, backs_empty⟩

/-! ### Loading -/

/-- The message as loaded from the files below `m`: not begun, or with the fragments
below `m` of `p`. -/
def LoadedTo (p : Partial) (m : ℕ) (x : Option Partial) : Prop :=
  (x = none ∧ ∀ t < m, p.received t = none) ∨
    ∃ q, x = some q ∧ q.max = p.max ∧ ∀ t, q.received t = if t < m then p.received t else none

variable {m : ℕ}

/-- Above the largest number there is nothing to load: a message that has been begun is
loaded whole. -/
lemma LoadedTo.all {x : Option Partial} (h : LoadedTo p m x)
    (hlt : ∀ t, (p.received t).isSome → t < m) (hstarted : ∃ t, (p.received t).isSome) :
    ∃ q, x = some q ∧ q.max = p.max ∧ q.received = p.received := by
  rcases h with ⟨-, hempty⟩ | ⟨q, hq, hqmax, hqrec⟩
  · rcases hstarted with ⟨t, ht⟩
    rw [hempty t (hlt t ht)] at ht
    cases ht
  · refine ⟨q, hq, hqmax, ?_⟩
    funext t
    rw [hqrec]
    split
    · rfl
    · rename_i hge
      symm
      rw [← not_isSome_iff_eq_none]
      exact fun ht => hge (hlt t ht)

lemma LoadedTo.skip {p : Partial} {m : ℕ} {x : Option Partial} (h : LoadedTo p m x)
    (hm : p.received m = none) : LoadedTo p (m + 1) x := by
  have hcut : ∀ t, (if t < m + 1 then p.received t else none) =
      if t < m then p.received t else none := by
    intro t
    by_cases ht : t = m
    · subst ht
      simp [hm]
    · have hiff : t < m + 1 ↔ t < m := by omega
      simp only [hiff]
  rcases h with ⟨hx, hnone⟩ | ⟨q, hx, hmax, hq⟩
  · refine .inl ⟨hx, ?_⟩
    intro t ht
    rcases Nat.lt_succ_iff_lt_or_eq.mp ht with hlt | rfl
    · exact hnone t hlt
    · exact hm
  · exact .inr ⟨q, hx, hmax, fun t => by rw [hq, hcut]⟩

variable {b : Pending}

lemma LoadedTo.receive (h : LoadedTo p m (b f.key)) (hmax : f.max = p.max) (hseq : f.seq.toNat = m)
    (hsms : p.received m = some f.sms) : ¬ b.Ignores f ∧ LoadedTo p (m + 1) (some (b.received f)) ∧
    ((b.received f).Complete → p.Complete) := by
  have hpart : (b.partialOf f).max = p.max ∧
      ∀ t, (b.partialOf f).received t = if t < m then p.received t else none := by
    unfold Pending.partialOf
    rcases h with ⟨hx, hnone⟩ | ⟨q, hx, hqmax, hq⟩
    · rw [hx]
      refine ⟨hmax, ?_⟩
      intro t
      by_cases ht : t < m
      · simp [hnone t ht]
      · simp [ht]
    · rw [hx]
      exact ⟨hqmax, hq⟩
  have hrec : ∀ t, (b.received f).received t = if t < m + 1 then p.received t else none := by
    intro t
    unfold Pending.received
    by_cases ht : t = f.seq.toNat
    · rw [ht, Partial.receive_self, hseq, if_pos (by omega), hsms]
    · rw [Partial.receive_of_ne _ ht, hpart.2]
      have hiff : t < m + 1 ↔ t < m := by omega
      simp only [hiff]
  refine ⟨?_, .inr ⟨_, rfl, hpart.1, hrec⟩, ?_⟩
  · rintro (hne | hdup)
    · exact hne (hmax.trans hpart.1.symm)
    · rw [hpart.2, hseq, if_neg (by omega)] at hdup
      cases hdup
  · intro hc t ht
    have hm : (b.received f).max = p.max := hpart.1
    have hsome := hc t (by rw [hm]; exact ht)
    rw [hrec] at hsome
    split at hsome
    · exact hsome
    · cases hsome

lemma range_eq_append {n i : ℕ} {pre post : List ℕ} (h : List.range n = pre ++ i :: post) :
    i = pre.length ∧ i < n := by
  have hi := congrArg (fun l => l[pre.length]?) h
  simp only [getElem?_append_right (Nat.le_refl _), Nat.sub_self, getElem?_cons_zero] at hi
  rcases List.getElem?_eq_some_iff.mp hi with ⟨hlt, heq⟩
  rw [length_range] at hlt
  rw [getElem_range] at heq
  exact ⟨heq.symm, by omega⟩

lemma Backs.no_file (h : Backs files a) (hk : a k = some p) (hdir : IsDirOf dir k p.max)
    (ht : p.received t = none) : files dir t = none := by
  rw [eq_none_iff_forall_ne_some]
  intro buf hbuf
  rcases (h.file dir t buf).mp hbuf with ⟨k', q, sms, hq, hsms, hd, -⟩
  rcases hd.unique hdir (h.addr _ _ hq) (h.addr _ _ hk) with ⟨rfl, -⟩
  rw [hk] at hq
  cases hq
  rw [ht] at hsms
  cases hsms

lemma SmsAssembly.loadSegment_spec (hback : Backs files a) {n : AssemblyNode}
    (hk : a n.key = some p) (hholds : n.Holds p) (hpart : ¬ p.Complete)
    (hdir : IsDirOf dir n.key p.max) (mtime : BackupDir → ℕ → ℤ) (hm : m < 256) {s : SmsAssembly}
    (hfiles : s.files = files) (hb : Represents s.assemblyList b) (hload : LoadedTo p m (b n.key)) :
    ∃ s', s.loadSegment mtime dir n.key.1 m = .ok s' ∧ s'.files = files ∧ ∃ b', Represents
    s'.assemblyList b' ∧ (∀ k, k ≠ n.key → b' k = b k) ∧ LoadedTo p (m + 1) (b' n.key) := by
  unfold SmsAssembly.loadSegment
  rw [hfiles]
  cases hsms : p.received m with
  | none =>
    rw [hback.no_file hk hdir hsms]
    exact ⟨s, rfl, hfiles, b, hb, fun _ _ => rfl, hload.skip hsms⟩
  | some sms =>
    rcases hback.sms _ _ _ _ hk hsms with ⟨buf, hbuf, hread⟩
    have hrange := hholds.range m (by rw [hsms]; rfl)
    have hseq : (UInt8.ofNat m).toNat = m := by
      rw [UInt8.toNat_ofNat']
      exact Nat.mod_eq_of_lt hm
    let f : Fragment :=
      { sms := sms, ts := mtime dir m, addr := n.addr, ref := n.ref, max := p.max
        seq := UInt8.ofNat m
        seq_pos := by rw [hseq]; exact hrange.1
        seq_le := by rw [hseq]; exact hrange.2 }
    rcases LoadedTo.receive (f := f) hload rfl hseq hsms with ⟨hign, hnext, hpart'⟩
    rcases addFragment_backup hb hign with ⟨node, -, -, hop⟩
    -- a message under way was not complete, so loading does not complete it either
    have hmore : ¬ (b.received f).Complete := fun hc => hpart (hpart' hc)
    rw [if_neg hmore] at hop
    have hstep := (addFragment_spec hb f).2.1
    rw [Pending.step_addFragment, if_neg hign, if_neg hmore] at hstep
    rw [(hback.file dir m buf).mpr ⟨_, p, sms, hk, hsms, hdir, hbuf⟩]
    simp only [hread]
    refine ⟨⟨(addFragment s.assemblyList f).assemblyList, files⟩, ?_, rfl, _, hstep, ?_, ?_⟩
    · show (_ >>= _) = _
      rw [hdir.2.1, hdir.2.2]
      rw [show smsAssemblyAddFragmentBackup s.assemblyList sms (mtime dir m) n.key.1
        n.key.2 p.max (UInt8.ofNat m) = addFragment s.assemblyList f from rfl, hop]
      simp [doBackup, hfiles]
    · intro k hkn
      have hkf : k ≠ f.key := hkn
      exact Function.update_of_ne hkf _ _
    · show LoadedTo p (m + 1) (Function.update b f.key (some (b.received f)) f.key)
      rw [Function.update_self]
      exact hnext

/-- The directory of a message is loaded into a node with all the fragments received. -/
lemma SmsAssembly.load_spec (hrep : Represents l a) (hback : Backs files a) (hk : a k = some p)
    (hdir : IsDirOf dir k p.max) {s : SmsAssembly} (hfiles : s.files = files)
    (hrep' : Represents s.assemblyList b) (hnone : b k = none) (mtime : BackupDir → ℕ → ℤ) :
    ∃ s' q, s.load mtime dir = .ok s' ∧ s'.files = files ∧ q.max = p.max ∧ q.received = p.received ∧
    Represents s'.assemblyList (Function.update b k (some q)) := by
  rcases hrep.all k (by rw [hk]; rfl) with ⟨n, hn, rfl⟩
  rcases hrep.node n hn with ⟨p', hp', hholds, hpart⟩
  rw [hk] at hp'
  cases hp'
  have hextract : smsAssemblyExtractAddress dir.straddr = .ok n.key.1 := by
    rcases hback.addr _ _ hk with ⟨straddr, hhex, hread⟩
    rw [hdir.1] at hhex
    cases hhex
    exact hread
  have hmax := p.max.toNat_lt
  have hfold := foldlM_ok (f := SmsAssembly.loadSegment mtime dir n.key.1)
    (l := List.range 256) (s := s)
    (fun pre s => s.files = files ∧ ∃ b', Represents s.assemblyList b' ∧
      (∀ k', k' ≠ n.key → b' k' = b k') ∧ LoadedTo p pre.length (b' n.key)) ?_ ?_
  · rcases hfold with ⟨s', hs', hfiles', b', hb', hothers, hload⟩
    rw [length_range] at hload
    rcases hload.all (fun t ht => (hholds.range t ht).2.trans_lt hmax) (hback.started _ _ hk) with
      ⟨q, hq, hqmax, hqrec⟩
    refine ⟨s', q, ?_, hfiles', hqmax, hqrec, ?_⟩
    · unfold SmsAssembly.load
      rw [hextract]
      exact hs'
    · have hfun : Function.update b n.key (some q) = b' := by
        funext k'
        by_cases hk' : k' = n.key
        · rw [hk', Function.update_self, hq]
        · rw [Function.update_of_ne hk', hothers k' hk']
      rw [hfun]
      exact hb'
  · rintro pre m post s hl ⟨hfiles, b', hb', hothers, hload⟩
    rcases range_eq_append hl with ⟨rfl, hlt⟩
    rcases SmsAssembly.loadSegment_spec hback hk hholds hpart hdir mtime hlt hfiles hb' hload with
      ⟨s', hs', hfiles', b'', hb'', hothers', hload'⟩
    refine ⟨s', hs', hfiles', b'', hb'', fun k' hk' => ?_, ?_⟩
    · rw [hothers' k' hk', hothers k' hk']
    · rw [length_append, length_singleton]
      exact hload'
  · exact ⟨hfiles, b, hrep', fun _ _ => rfl, .inl ⟨hnone, fun t ht => absurd ht (Nat.not_lt_zero t)⟩⟩

/-- The messages under way in `a` whose directories are among `dirs` are under way in `b`. -/
def LoadedFrom (a : Pending) (dirs : List BackupDir) (b : Pending) : Prop :=
  ∀ k, (∀ p, a k = some p → (∃ dir ∈ dirs, IsDirOf dir k p.max) →
      ∃ q, b k = some q ∧ q.max = p.max ∧ q.received = p.received) ∧
    ((∀ p, a k = some p → ∀ dir ∈ dirs, ¬ IsDirOf dir k p.max) → b k = none)

lemma loadedFrom_nil (a : Pending) : LoadedFrom a [] fun _ => none := fun k =>
  ⟨fun p _ h => by simp at h, fun _ => rfl⟩

lemma LoadedFrom.next {a b : Pending} {dirs : List BackupDir} (h : LoadedFrom a dirs b) (haddr : ∀ k
    p, a k = some p → AddrStorable k.1) {k : MessageKey} {p : Partial} (hk : a k = some p)
    {dir : BackupDir} (hdir : IsDirOf dir k p.max) {q : Partial} (hmax : q.max = p.max) (hrec :
    q.received = p.received) : LoadedFrom a (dirs ++ [dir]) (Function.update b k (some q)) := by
  intro k'
  by_cases hkk : k' = k
  · subst hkk
    rw [Function.update_self]
    constructor
    · intro p' hp' _
      rw [hk] at hp'
      cases hp'
      exact ⟨q, rfl, hmax, hrec⟩
    · intro hno
      exact absurd hdir (hno p hk dir (by simp))
  · rw [Function.update_of_ne hkk]
    constructor
    · rintro p' hp' ⟨dir', hdir', hd⟩
      refine (h k').1 p' hp' ⟨dir', ?_, hd⟩
      rcases mem_append.mp hdir' with hpre | hlast
      · exact hpre
      · -- `dir` is the directory of `k` alone
        rw [mem_singleton] at hlast
        rw [hlast] at hd
        exact absurd (hd.unique hdir (haddr _ _ hp') (haddr _ _ hk)).1 hkk
    · intro hno
      exact (h k').2 fun p' hp' dir' hdir' => hno p' hp' dir' (by simp [hdir'])

lemma Backs.dir_exists (h : Backs files a) (hk : a k = some p) : ∃ dir seq, IsDirOf dir k p.max ∧ (files dir seq).isSome := by
  rcases h.addr k p hk with ⟨straddr, hhex, -⟩
  have hdir : IsDirOf ⟨straddr, k.2, p.max⟩ k p.max := ⟨hhex, rfl, rfl⟩
  rcases h.started k p hk with ⟨t, ht⟩
  rcases isSome_iff_exists.mp ht with ⟨sms, hsms⟩
  rcases h.sms k p t sms hk hsms with ⟨buf, hbuf, -⟩
  refine ⟨_, t, hdir, ?_⟩
  rw [(h.file _ t buf).mpr ⟨k, p, sms, hk, hsms, hdir, hbuf⟩]
  rfl

/-- All the directories are loaded: the nodes are again those of the messages under way,
with other times. -/
lemma smsAssemblyNew_spec (hrep : Represents l a) (hback : Backs files a)
    (mtime : BackupDir → ℕ → ℤ) {dirs : List BackupDir} (hnodup : dirs.Nodup)
    (hdirs : ∀ dir, dir ∈ dirs ↔ ∃ seq, (files dir seq).isSome) :
    ∃ s b, smsAssemblyNew files mtime dirs = .ok s ∧ s.files = files ∧ Represents s.assemblyList b ∧
    ∀ k, (b k).map (fun q => (q.max, q.received)) = (a k).map fun p => (p.max, p.received) := by
  have hfold := foldlM_ok (f := SmsAssembly.load mtime) (l := dirs) (s := ⟨[], files⟩)
    (fun pre s => s.files = files ∧ ∃ b, Represents s.assemblyList b ∧ LoadedFrom a pre b) ?_ ?_
  · rcases hfold with ⟨s, hs, hfiles, b, hb, hall⟩
    refine ⟨s, b, hs, hfiles, hb, ?_⟩
    intro k
    rcases hall k with ⟨hloaded, habsent⟩
    cases hk : a k with
    | none =>
      rw [habsent fun p hp => by rw [hk] at hp; cases hp]
    | some p =>
      rcases hback.dir_exists hk with ⟨dir, seq, hdir, hseq⟩
      rcases hloaded p hk ⟨dir, (hdirs dir).mpr ⟨seq, hseq⟩, hdir⟩ with ⟨q, hq, hmax, hrec⟩
      rw [hq, map_some, map_some, hmax, hrec]
  · rintro pre dir post s hl ⟨hfiles, b, hb, hall⟩
    have hmem : dir ∈ dirs := by
      rw [hl]
      simp
    have hnot : dir ∉ pre := by
      rw [hl] at hnodup
      intro hpre
      exact disjoint_of_nodup_append hnodup hpre (by simp)
    rcases (hdirs dir).mp hmem with ⟨seq, hseq⟩
    rcases isSome_iff_exists.mp hseq with ⟨buf, hbuf⟩
    rcases (hback.file dir seq buf).mp hbuf with ⟨k, p, sms, hk, -, hdir, -⟩
    -- its message has no other directory, so it has not been loaded yet
    have hnone : b k = none := by
      refine (hall k).2 ?_
      intro p' hp' dir' hdir' hd
      rw [hk] at hp'
      cases hp'
      rw [hd.eq hdir] at hdir'
      exact hnot hdir'
    rcases SmsAssembly.load_spec hrep hback hk hdir hfiles hb hnone mtime with
      ⟨s', q, hs', hfiles', hmax, hrec, hb'⟩
    exact ⟨s', hs', hfiles', _, hb', hall.next hback.addr hk hdir hmax hrec⟩
  · exact ⟨rfl, _, represents_nil, loadedFrom_nil a⟩

/-- What a node has besides its time. -/
def AssemblyNode.contents (n : AssemblyNode) :
    SmsAddress × UInt16 × UInt8 × UInt8 × List Sms × (ℕ → Bool) :=
  (n.addr, n.ref, n.maxFragments, n.numFragments, n.fragmentList, n.bitmap.test)

lemma AssemblyNode.Holds.contents_eq {n m : AssemblyNode} {q : Partial} (hn : n.Holds p)
    (hm : m.Holds q) (hkey : n.key = m.key) (hmax : p.max = q.max)
    (hrec : p.received = q.received) : n.contents = m.contents := by
  have hcopies : p.copies = q.copies := by
    unfold Partial.copies
    rw [hmax, hrec]
  have hlist : n.fragmentList = m.fragmentList := by rw [hn.list, hm.list, hcopies]
  have hnum : n.numFragments = m.numFragments := by
    apply UInt8.toNat_inj.mp
    rw [hn.num, hm.num, hlist]
  have htest : n.bitmap.test = m.bitmap.test := by
    funext s
    rw [hn.bitmap, hm.bitmap, hrec]
  have haddr : n.addr = m.addr := congrArg Prod.fst hkey
  have href : n.ref = m.ref := congrArg Prod.snd hkey
  have hfrag : n.maxFragments = m.maxFragments := by rw [hn.max, hm.max, hmax]
  unfold AssemblyNode.contents
  rw [haddr, href, hfrag, hnum, hlist, htest]

lemma Represents.contents_subset {l' : List AssemblyNode} (h : Represents l a) (h' : Represents l'
    b) (hsame : ∀ k, (b k).map (fun q => (q.max, q.received)) = (a k).map fun p =>
    (p.max, p.received)) : ∀ c ∈ l.map AssemblyNode.contents, c ∈ l'.map AssemblyNode.contents := by
  intro c hc
  rcases mem_map.mp hc with ⟨n, hn, rfl⟩
  rcases h.node n hn with ⟨p, hp, hholds, -⟩
  have hk := hsame n.key
  rw [hp, Option.map_some] at hk
  rcases Option.map_eq_some_iff.mp hk with ⟨q, hq, heq⟩
  rcases h'.all n.key (by rw [hq]; rfl) with ⟨m, hm, hmk⟩
  rcases h'.node m hm with ⟨q', hq', hholds', -⟩
  rw [hmk, hq] at hq'
  cases hq'
  refine mem_map.mpr ⟨m, hm, ?_⟩
  exact hholds'.contents_eq hholds hmk (congrArg Prod.fst heq) (congrArg Prod.snd heq)

lemma Represents.contents_nodup (h : Represents l a) : (l.map AssemblyNode.contents).Nodup := by
  apply List.Nodup.of_map fun c => ((c.1, c.2.1) : MessageKey)
  rw [List.map_map]
  exact h.nodup

/-- After any calls that are all safe the files are those of the fragments held in the
nodes, and loading them gives the nodes again. -/
theorem sms_assembly_backup_run (cs : List AssemblyCall) (h : Machine.AllSteps assemblyStep
    BackupSafe [] cs) : ∃ s, SmsAssembly.calls ⟨[], fun _ _ => none⟩ cs = .ok s ∧
    s.assemblyList = (Machine.run assemblyStep [] cs).2 ∧ (∀ dir seq, (s.files dir seq).isSome ↔
    ∃ n ∈ s.assemblyList, IsDirOf dir n.key n.maxFragments ∧ n.bitmap.test seq = true) ∧
    ∀ mtime dirs, dirs.Nodup → (∀ dir, dir ∈ dirs ↔ ∃ seq, (s.files dir seq).isSome) →
    ∃ s', smsAssemblyNew s.files mtime dirs = .ok s' ∧ s'.files = s.files ∧ (s'.assemblyList.map
    AssemblyNode.contents).Perm (s.assemblyList.map AssemblyNode.contents) := by
  rcases SmsAssembly.calls_spec cs h with ⟨s, a, hs, hlist, hrep, hback⟩
  refine ⟨s, hs, hlist, ?_, ?_⟩
  · intro dir seq
    constructor
    · intro hsome
      rcases isSome_iff_exists.mp hsome with ⟨buf, hbuf⟩
      rcases (hback.file dir seq buf).mp hbuf with ⟨k, p, sms, hk, hsms, hdir, -⟩
      rcases hrep.all k (by rw [hk]; rfl) with ⟨n, hn, rfl⟩
      rcases hrep.node n hn with ⟨q, hq, hholds, -⟩
      rw [hk] at hq
      cases hq
      refine ⟨n, hn, ?_, ?_⟩
      · rw [hholds.max]
        exact hdir
      · rw [hholds.bitmap, hsms]
        rfl
    · rintro ⟨n, hn, hdir, htest⟩
      rcases hrep.node n hn with ⟨p, hp, hholds, -⟩
      rw [hholds.bitmap] at htest
      rcases isSome_iff_exists.mp htest with ⟨sms, hsms⟩
      rcases hback.sms _ _ _ _ hp hsms with ⟨buf, hbuf, -⟩
      rw [hholds.max] at hdir
      rw [(hback.file dir seq buf).mpr ⟨n.key, p, sms, hp, hsms, hdir, hbuf⟩]
      rfl
  · intro mtime dirs hnodup hdirs
    rcases smsAssemblyNew_spec hrep hback mtime hnodup hdirs with ⟨s', b, hs', hfiles, hb, hsame⟩
    refine ⟨s', hs', hfiles, ?_⟩
    rw [perm_ext_iff_of_nodup hb.contents_nodup hrep.contents_nodup]
    intro c
    constructor
    · exact Represents.contents_subset hb hrep (fun k => (hsame k).symm) c
    · exact Represents.contents_subset hrep hb hsame c

/-- A fragment of a message in two parts, in a deliver of six octets of user data. -/
def sampleFragment (seq : UInt8) (hpos : 1 ≤ seq.toNat) (hle : seq.toNat ≤ 2) : Fragment where
  sms :=
    { scAddr := .zero
      message := .deliver
        { mms := false, sri := false, udhi := true, rp := false
          oaddr := ⟨.international, NumberingPlan.isdn, ⟨[0x34, 0x34], by decide, by decide⟩⟩
          pid := 0, dcs := 4, scts := ⟨13, 4, 5, 16, 0, 0, true, 4⟩, udl := 6
          ud := ⟨[5, 0, 3, 7, 2, seq] ++ List.replicate 134 0, by simp⟩ } }
  ts := 0
  addr := ⟨.international, NumberingPlan.isdn, ⟨[0x34, 0x34], by decide, by decide⟩⟩
  ref := 7
  max := 2
  seq := seq
  seq_pos := hpos
  seq_le := hle

/-- The fragments 1 and 2, one after the other. -/
theorem sms_assembly_backup_in_order : ∃ s, SmsAssembly.calls ⟨[], fun _ _ => none⟩
    [.addFragment (sampleFragment 1 (by decide) (by decide)), .addFragment
    (sampleFragment 2 (by decide) (by decide))] = .ok s ∧ ∀ dir seq, (s.files dir seq).isSome ↔
    ∃ n ∈ s.assemblyList, IsDirOf dir n.key n.maxFragments ∧ n.bitmap.test seq = true := by
  have hsafe : Machine.AllSteps assemblyStep BackupSafe []
      [.addFragment (sampleFragment 1 (by decide) (by decide)),
        .addFragment (sampleFragment 2 (by decide) (by decide))] := by
    refine ⟨⟨⟨[0x30, 0x32, 0x39, 0x31, 0x34, 0x34], ?_, ?_⟩, ⟨[20, 0, 0x44, 2, 0x91, 0x44, 0, 4,
      0x31, 0x40, 0x50, 0x61, 0, 0, 0x40, 6, 5, 0, 3, 7, 2, 1], ?_, ?_⟩, ?_⟩,
      ⟨⟨[0x30, 0x32, 0x39, 0x31, 0x34, 0x34], ?_, ?_⟩, ⟨[20, 0, 0x44, 2, 0x91, 0x44, 0, 4,
      0x31, 0x40, 0x50, 0x61, 0, 0, 0x40, 6, 5, 0, 3, 7, 2, 2], ?_, ?_⟩, ?_⟩, trivial⟩
    case refine_5 => simp
    case refine_10 => exact fun _ _ _ _ _ => rfl
    all_goals decide
  rcases sms_assembly_backup_run _ hsafe with ⟨s, hs, -, hfiles, -⟩
  exact ⟨s, hs, hfiles⟩

/-- Whether the message is complete, whether the file of its fragment 2 is still there, and what
a new assembly holds. -/
def observed (dir : BackupDir) : Outcome SmsAssembly → Option (Bool × Bool × List (UInt16 × UInt8 × Bool))
  | .ok s =>
    match smsAssemblyNew s.files (fun _ _ => 0) [dir] with
    | .ok s' => some (s.assemblyList.isEmpty, (s.files dir 2).isSome,
        s'.assemblyList.map fun n => (n.ref, n.maxFragments, n.bitmap.test 2))
    | _ => none
  | _ => none

/-- The fragment 2 comes first: its file is still there when the message is complete, and
a new assembly holds it again. -/
theorem sms_assembly_backup_leaves_last : ∃ s s', SmsAssembly.calls ⟨[], fun _ _ => none⟩
    [.addFragment (sampleFragment 2 (by decide) (by decide)),
    .addFragment (sampleFragment 1 (by decide) (by decide))] = .ok s ∧ s.assemblyList = [] ∧
    (s.files ⟨[0x30, 0x32, 0x39, 0x31, 0x34, 0x34], 7, 2⟩ 2).isSome ∧
    smsAssemblyNew s.files (fun _ _ => 0) [⟨[0x30, 0x32, 0x39, 0x31, 0x34, 0x34], 7, 2⟩] = .ok s' ∧
    s'.assemblyList.map (fun n => (n.ref, n.maxFragments, n.bitmap.test 2)) = [(7, 2, true)] := by
  let dir : BackupDir := ⟨[0x30, 0x32, 0x39, 0x31, 0x34, 0x34], 7, 2⟩
  have hobs : observed dir (SmsAssembly.calls ⟨[], fun _ _ => none⟩
      [.addFragment (sampleFragment 2 (by decide) (by decide)),
        .addFragment (sampleFragment 1 (by decide) (by decide))]) =
      some (true, true, [(7, 2, true)]) := by
    decide +kernel
  rcases hrun : SmsAssembly.calls ⟨[], fun _ _ => none⟩
      [.addFragment (sampleFragment 2 (by decide) (by decide)),
        .addFragment (sampleFragment 1 (by decide) (by decide))] with s | _ | _
  · rw [hrun] at hobs
    simp only [observed] at hobs
    rcases hnew : smsAssemblyNew s.files (fun _ _ => 0) [dir] with s' | _ | _
    · rw [hnew] at hobs
      simp only [Option.some.injEq, Prod.mk.injEq, List.isEmpty_iff] at hobs
      exact ⟨s, s', rfl, hobs.1, hobs.2.1, hnew, hobs.2.2⟩
    · rw [hnew] at hobs
      cases hobs
    · rw [hnew] at hobs
      cases hobs
  · rw [hrun] at hobs
    cases hobs
  · rw [hrun] at hobs
    cases hobs

end Phonelets.Sms
