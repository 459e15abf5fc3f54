import Phonelets.Sms.Backup
import Phonelets.Sms.Outbox

/-! # The backup of the status reports

Every node has a file, named after the address and the message id, whose content is the
image of the node; `status_report_assembly_new` reads the files back. A call that changes
a node writes its file again, and one that removes a node removes its file: the
exceptions are a report for a message that has not been sent completely, and a message
that expires, whose key is read after it has been freed.
-/

namespace Phonelets.Sms

open List Option Outcome

/-! ## Names and contents of the files -/

/-- `SMS_SR_BACKUP_PATH_FILE`: the two parts of the name of a file in the directory of the
IMSI. -/
structure SrFileName where
  straddr : List UInt8
  msgidStr : List UInt8
  deriving DecidableEq

/-- The regular files in the directory of the IMSI. A file holds a `struct id_table_node`. -/
abbrev SrFiles := SrFileName → Option IdTableNode

def SrFiles.write (files : SrFiles) (name : SrFileName) (node : IdTableNode) : SrFiles :=
  Function.update files name (some node)

def SrFiles.unlink (files : SrFiles) (name : SrFileName) : SrFiles :=
  Function.update files name none

def srAssemblyAddFragmentBackup (files : SrFiles) (node : IdTableNode) (addr : SmsAddress)
    (msgid : MsgId) : Outcome SrFiles :=
  match smsAddressToHexString addr with
  | .ok straddr => .ok (files.write ⟨straddr, Hex.encodeHexOwnBuf msgid.octets⟩ node)
  | .reject => .ok files
  | .fault => .fault

/-- `sr_assembly_remove_fragment_backup`; `sha1` is only read once the address has a name. -/
def srAssemblyRemoveFragmentBackup (files : SrFiles) (addr : SmsAddress)
    (sha1 : Outcome MsgId) : Outcome SrFiles :=
  match smsAddressToHexString addr with
  | .ok straddr => do
      let msgid ← sha1
      return files.unlink ⟨straddr, Hex.encodeHexOwnBuf msgid.octets⟩
  | .reject => .ok files
  | .fault => .fault

def doSrBackup (files : SrFiles) : SrBackup → Outcome SrFiles
  | .add node addr msgid => do srAssemblyAddFragmentBackup files node (← addr) msgid
  | .remove addr msgid => do srAssemblyRemoveFragmentBackup files (← addr) msgid

/-! ## Expiry -/

/-- `status_report_assembly_expire`. `g_hash_table_iter_remove` frees the key that the
backup is then removed by. -/
def statusReportAssemblyExpire (order : IterOrder) (table : AssemblyTable) (before : ℤ) :
    AssemblyTable × List SrBackup :=
  (table.keep fun _ _ node => before < node.expiration,
    (order.addrs.order table.entries).flatMap fun e =>
      ((order.ids e.1).order e.2.entries).filterMap fun f =>
        if f.2.expiration ≤ before then some (.remove (smsAddressFromString e.1) .fault) else none)

/-! ## An assembly with its files -/

/-- A call of the assembly. -/
inductive SrAssemblyCall where
  | call (c : SrCall)
  | expire (order : IterOrder) (before : ℤ)

/-- `struct status_report_assembly` of an IMSI, with its files. -/
structure SrAssembly where
  table : AssemblyTable
  files : SrFiles

def SrAssembly.call (s : SrAssembly) : SrAssemblyCall → Outcome SrAssembly
  | .call (.addFragment msgid dest mr expiration total) => do
      let r := statusReportAssemblyAddFragment s.table msgid dest mr expiration total
      let files ← doSrBackup s.files r.2
      return ⟨r.1, files⟩
  | .call (.report order sr) => do
      let r := statusReportAssemblyReport order s.table sr
      let files ← r.backup.toList.foldlM doSrBackup s.files
      return ⟨r.table, files⟩
  | .expire order before => do
      let r := statusReportAssemblyExpire order s.table before
      let files ← r.2.foldlM doSrBackup s.files
      return ⟨r.1, files⟩

/-- One call after the other. -/
def SrAssembly.calls (s : SrAssembly) (cs : List SrAssemblyCall) : Outcome SrAssembly :=
  cs.foldlM SrAssembly.call s

/-- The tables alone. -/
def srAssemblyStep (table : AssemblyTable) : SrAssemblyCall → Option (MsgId × Bool) × AssemblyTable
  | .call c => statusReportStep table c
  | .expire order before => (none, (statusReportAssemblyExpire order table before).1)

/-! ## Reading the files back -/

/-- The id with the given name: `2 * SMS_MSGID_LEN` characters that are hexadecimal digits. -/
def msgIdOfHex (msgidStr : List UInt8) : Option MsgId :=
  if msgidStr.length ≠ 40 then none
  else do
    let msgid ← Hex.decodeHexOwnBuf msgidStr
    if h : msgid.length = 20 then some ⟨msgid, h⟩ else none

/-- `sr_assembly_load_backup` of a name that is two strings of hexadecimal digits. -/
def srAssemblyLoadBackup (files : SrFiles) (table : AssemblyTable) (name : SrFileName) :
    Outcome AssemblyTable :=
  match smsAssemblyExtractAddress name.straddr with
  | .ok addr =>
    match msgIdOfHex name.msgidStr with
    | none => .ok table
    | some msgid =>
      match files name with
      | none => .ok table
      | some node => .ok (table.set (smsAddressToString addr) msgid node)
  | .reject => .ok table
  | .fault => .fault

/-- `status_report_assembly_new` of an IMSI; `names` are the files in the order in which
they are loaded. -/
def statusReportAssemblyNew (files : SrFiles) (names : List SrFileName) : Outcome AssemblyTable :=
  names.foldlM (srAssemblyLoadBackup files) ∅

/-! ## Files and nodes -/

/-- The address is one that its text gives back, and so does the name of its files. -/
def AddrRecovers (a : SmsAddress) : Prop :=
  smsAddressFromString (smsAddressToString a) = .ok a ∧ AddrStorable a

/-- The file of the node under these keys. -/
def IsFileOf (name : SrFileName) (straddr : List UInt8) (msgid : MsgId) : Prop :=
  ∃ addr, smsAddressFromString straddr = .ok addr ∧
    smsAddressToHexString addr = .ok name.straddr ∧
    name.msgidStr = Hex.encodeHexOwnBuf msgid.octets

/-- Every node has its file, and there is no other file. -/
structure SrBacked (table : AssemblyTable) (files : SrFiles) : Prop where
  noEmpty : table.NoEmpty
  addr : ∀ straddr msgid node, table.get straddr msgid = some node →
    ∃ addr, smsAddressToString addr = straddr ∧ AddrRecovers addr
  file : ∀ name node, files name = some node ↔
    ∃ straddr msgid, table.get straddr msgid = some node ∧ IsFileOf name straddr msgid

lemma srBacked_empty : SrBacked ∅ fun _ => none where
  noEmpty := Tables.noEmpty_empty
  addr := by simp
  file := by simp

variable {addr : SmsAddress}

lemma AddrRecovers.isFileOf_iff (h : AddrRecovers addr) {straddr : List UInt8}
    (hex : smsAddressToHexString addr = .ok straddr) (name : SrFileName) (msgid : MsgId) : IsFileOf
    name (smsAddressToString addr) msgid ↔ name = ⟨straddr, Hex.encodeHexOwnBuf msgid.octets⟩ := by
  unfold IsFileOf
  constructor
  · rintro ⟨addr', hparse, hname, hmsgid⟩
    rw [h.1] at hparse
    cases hparse
    rw [hex] at hname
    rcases name with ⟨s, m⟩
    simp only at hname hmsgid
    rw [hmsgid, Outcome.ok.inj hname]
  · rintro rfl
    exact ⟨addr, h.1, hex, rfl⟩

lemma msgIdOfHex_encode (msgid : MsgId) :
    msgIdOfHex (Hex.encodeHexOwnBuf msgid.octets) = some msgid := by
  have hlen : (Hex.encodeHexOwnBuf msgid.octets).length = 40 := by
    rw [Hex.encodeHexOwnBuf_length, msgid.length_eq]
  unfold msgIdOfHex
  rw [if_neg (not_not_intro hlen), Hex.decodeHexOwnBuf_encodeHexOwnBuf]
  simp [msgid.length_eq]

lemma IsFileOf.unique {name : SrFileName} {straddr straddr' : List UInt8} {msgid msgid' : MsgId}
    (h : IsFileOf name straddr msgid) (h' : IsFileOf name straddr' msgid') (ha : ∃ addr,
    smsAddressToString addr = straddr ∧ AddrRecovers addr) (ha' : ∃ addr, smsAddressToString addr =
    straddr' ∧ AddrRecovers addr) : straddr = straddr' ∧ msgid = msgid' := by
  rcases ha with ⟨addr, rfl, hrec⟩
  rcases ha' with ⟨addr', rfl, hrec'⟩
  rcases hrec.2 with ⟨hexStr, hhex, hback⟩
  rcases hrec'.2 with ⟨hexStr', hhex', hback'⟩
  have hname := (hrec.isFileOf_iff hhex name msgid).mp h
  have hname' := (hrec'.isFileOf_iff hhex' name msgid').mp h'
  rw [hname] at hname'
  rcases SrFileName.mk.inj hname' with ⟨hs, hm⟩
  subst hs
  rw [hback] at hback'
  rw [Outcome.ok.inj hback']
  refine ⟨rfl, ?_⟩
  have hid := msgIdOfHex_encode msgid
  rw [hm, msgIdOfHex_encode] at hid
  exact (Option.some.inj hid).symm

variable {table : AssemblyTable} {files : SrFiles}

lemma SrBacked.write (h : SrBacked table files) (hrec : AddrRecovers addr) (msgid : MsgId) (node : IdTableNode) :
    ∃ files', srAssemblyAddFragmentBackup files node addr msgid = .ok files' ∧
      SrBacked (table.set (smsAddressToString addr) msgid node) files' := by
  rcases hrec.2 with ⟨hexStr, hhex, hback⟩
  refine ⟨files.write ⟨hexStr, Hex.encodeHexOwnBuf msgid.octets⟩ node, ?_, ?_⟩
  · unfold srAssemblyAddFragmentBackup
    rw [hhex]
  constructor
  · exact h.noEmpty.set _ _ _
  · intro s id n hn
    rcases Tables.get_set_eq_some hn with ⟨rfl, -, -⟩ | hold
    · exact ⟨addr, rfl, hrec⟩
    · exact h.addr s id n hold
  · intro name n
    unfold SrFiles.write
    by_cases hname : name = ⟨hexStr, Hex.encodeHexOwnBuf msgid.octets⟩
    · have hfile := (hrec.isFileOf_iff hhex name msgid).mpr hname
      rw [← hname, Function.update_self]
      constructor
      · intro hsome
        cases hsome
        exact ⟨_, msgid, Tables.get_set_self _ _ _ _, hfile⟩
      · rintro ⟨s, id, hget, hof⟩
        -- a file name tells the address and the id, so it is this node's
        rcases Tables.get_set_eq_some hget with ⟨-, -, rfl⟩ | hold
        · rfl
        · rcases hof.unique hfile (h.addr s id n hold) ⟨addr, rfl, hrec⟩ with ⟨rfl, rfl⟩
          rw [Tables.get_set_self] at hget
          exact hget
    · rw [Function.update_of_ne hname, h.file]
      -- every other file is that of another node, which has not changed
      have hother : ∀ s id, IsFileOf name s id → (s, id) ≠ (smsAddressToString addr, msgid) := by
        rintro s id hof heq
        cases heq
        exact hname ((hrec.isFileOf_iff hhex name msgid).mp hof)
      constructor
      · rintro ⟨s, id, hget, hof⟩
        exact ⟨s, id, by rw [Tables.get_set_of_ne _ _ (hother s id hof)]; exact hget, hof⟩
      · rintro ⟨s, id, hget, hof⟩
        rw [Tables.get_set_of_ne _ _ (hother s id hof)] at hget
        exact ⟨s, id, hget, hof⟩

lemma SrBacked.unlink (h : SrBacked table files) (hrec : AddrRecovers addr) (msgid : MsgId) :
    ∃ files', srAssemblyRemoveFragmentBackup files addr (.ok msgid) = .ok files' ∧
      SrBacked (table.remove (smsAddressToString addr) msgid) files' := by
  rcases hrec.2 with ⟨hexStr, hhex, hback⟩
  refine ⟨files.unlink ⟨hexStr, Hex.encodeHexOwnBuf msgid.octets⟩, ?_, ?_⟩
  · unfold srAssemblyRemoveFragmentBackup
    rw [hhex]
    rfl
  -- the nodes that stay are all but the one removed
  have hremoved : ∀ {s id n}, (table.remove (smsAddressToString addr) msgid).get s id = some n ↔
      (s, id) ≠ (smsAddressToString addr, msgid) ∧ table.get s id = some n := by
    intro s id n
    by_cases hkey : (s, id) = (smsAddressToString addr, msgid)
    · cases hkey
      simp
    · rw [Tables.get_remove_of_ne _ hkey]
      simp [hkey]
  constructor
  · exact h.noEmpty.remove _ _
  · intro s id n hn
    exact h.addr s id n (hremoved.mp hn).2
  · intro name n
    unfold SrFiles.unlink
    by_cases hname : name = ⟨hexStr, Hex.encodeHexOwnBuf msgid.octets⟩
    · have hfile := (hrec.isFileOf_iff hhex name msgid).mpr hname
      rw [← hname, Function.update_self]
      constructor
      · intro hsome
        cases hsome
      · rintro ⟨s, id, hget, hof⟩
        rcases hremoved.mp hget with ⟨hne, hold⟩
        rcases hof.unique hfile (h.addr s id n hold) ⟨addr, rfl, hrec⟩ with ⟨rfl, rfl⟩
        exact absurd rfl hne
    · rw [Function.update_of_ne hname, h.file]
      constructor
      · rintro ⟨s, id, hget, hof⟩
        refine ⟨s, id, hremoved.mpr ⟨?_, hget⟩, hof⟩
        rintro heq
        cases heq
        exact hname ((hrec.isFileOf_iff hhex name msgid).mp hof)
      · rintro ⟨s, id, hget, hof⟩
        exact ⟨s, id, (hremoved.mp hget).2, hof⟩

/-! ## Destinations -/

/-- Digits, with a plus before them or without. -/
def IsDestination (str : List UInt8) : Prop :=
  ∀ c ∈ if str.head? = some 0x2b then str.tail else str, 0x30 ≤ c ∧ c ≤ 0x39

instance (str : List UInt8) : Decidable (IsDestination str) :=
  List.decidableBAll (fun c => 0x30 ≤ c ∧ c ≤ 0x39) _

lemma smsAddressFromString_plus (number : List UInt8) :
    smsAddressFromString (0x2b :: number) =
      (Outcome.orFault (CString.store 21 number)).bind fun address =>
        .ok ⟨.international, NumberingPlan.isdn, address⟩ := rfl

lemma smsAddressFromString_of_ne {str : List UInt8} (h : str.head? ≠ some 0x2b) :
    smsAddressFromString str = (Outcome.orFault (CString.store 21 str)).bind fun address => .ok
    ⟨.unknown, NumberingPlan.isdn, address⟩ := by
  unfold smsAddressFromString
  split
  · exact absurd rfl h
  · rfl

lemma digit_facts (c : UInt8) (h : 0x30 ≤ c ∧ c ≤ 0x39) :
    c ≠ 0 ∧ c ≠ 0x2b ∧ toSemiOct c ≠ none ∧ ¬ (0x41 ≤ c ∧ c ≤ 0x43) := by
  revert h
  exact octet_forall (P := fun c => 0x30 ≤ c ∧ c ≤ 0x39 →
    c ≠ 0 ∧ c ≠ 0x2b ∧ toSemiOct c ≠ none ∧ ¬ (0x41 ≤ c ∧ c ≤ 0x43)) (by decide) c

lemma addrRecovers_of_destination {str : List UInt8} {dest : SmsAddress} (hstr : IsDestination str)
    (hdest : smsAddressFromString str = .ok dest) (hlen : dest.address.bytes.length ≤ 18)
    (hplus : dest.numberType = .international → dest.address.bytes ≠ []) : AddrRecovers dest := by
  -- the type of the number, and its digits
  have hshape : (dest.numberType = .international ∨ dest.numberType = .unknown) ∧
      dest.numberingPlan = NumberingPlan.isdn ∧
      ∀ c ∈ dest.address.bytes, 0x30 ≤ c ∧ c ≤ 0x39 := by
    unfold IsDestination at hstr
    by_cases hhead : str.head? = some 0x2b
    · rw [if_pos hhead] at hstr
      rcases head?_eq_some_iff.mp hhead with ⟨number, rfl⟩
      rw [smsAddressFromString_plus] at hdest
      cases hstore : CString.store 21 number with
      | none =>
        rw [hstore] at hdest
        cases hdest
      | some address =>
        rw [hstore] at hdest
        cases hdest
        exact ⟨Or.inl rfl, rfl, fun c hc => hstr c (CString.subset_of_store hstore hc)⟩
    · rw [if_neg hhead] at hstr
      rw [smsAddressFromString_of_ne hhead] at hdest
      cases hstore : CString.store 21 str with
      | none =>
        rw [hstore] at hdest
        cases hdest
      | some address =>
        rw [hstore] at hdest
        cases hdest
        exact ⟨Or.inr rfl, rfl, fun c hc => hstr c (CString.subset_of_store hstore hc)⟩
  rcases dest with ⟨numberType, plan, address⟩
  rcases hshape with ⟨htype, rfl, hdigits⟩
  have hhead : address.bytes.head? ≠ some 0x2b := by
    intro hplus'
    exact (digit_facts _ (hdigits _ (mem_of_head? hplus'))).2.1 rfl
  refine ⟨?_, addrStorable_of_numeric ⟨?_, ?_⟩ ?_ hlen⟩
  · unfold smsAddressToString
    rcases htype with rfl | rfl
    · rw [if_pos ⟨rfl, length_pos_of_ne_nil (hplus rfl), hhead⟩, smsAddressFromString_plus,
        CString.store_bytes]
      rfl
    · rw [if_neg (by simp), smsAddressFromString_of_ne hhead, CString.store_bytes]
      rfl
  · rcases htype with rfl | rfl <;> simp
  · exact fun c hc => (digit_facts c (hdigits c hc)).2.2.1
  · exact fun c hc => (digit_facts c (hdigits c hc)).2.2.2

/-! ## Calls -/

/-- A submit is to an address made from a destination. -/
def SrAssemblyCall.ToDestination : SrAssemblyCall → Prop
  | .call (.addFragment _ dest _ _ _) =>
    ∃ str, IsDestination str ∧ smsAddressFromString str = .ok dest
  | _ => True

/-- The calls after which the files are still those of the nodes: a submit is to at most 18
digits, and not to a plus alone; a report does not go to a message of which submits are
still to come; and no message expires. -/
def SrBackupSafe (table : AssemblyTable) : SrAssemblyCall → Prop
  | .call (.addFragment _ dest _ _ _) =>
    dest.address.bytes.length ≤ 18 ∧
      (dest.numberType = .international → dest.address.bytes ≠ [])
  | .call (.report order sr) =>
    srStToDelivered sr.st ≠ none →
      ∀ found ∈ lookupReported order table (smsAddressToString sr.raddr) sr.mr,
        ¬ found.2.2.sentMrs < found.2.2.totalMrs
  | .expire _ before =>
    ∀ straddr msgid node, table.get straddr msgid = some node → before < node.expiration

instance SrBackupSafe.decidable (table : AssemblyTable) : ∀ c, Decidable (SrBackupSafe table c)
  | .call (.addFragment _ dest _ _ _) =>
    inferInstanceAs (Decidable (dest.address.bytes.length ≤ 18 ∧
      (dest.numberType = .international → dest.address.bytes ≠ [])))
  | .call (.report order sr) =>
    inferInstanceAs (Decidable (srStToDelivered sr.st ≠ none →
      ∀ found ∈ lookupReported order table (smsAddressToString sr.raddr) sr.mr,
        ¬ found.2.2.sentMrs < found.2.2.totalMrs))
  | .expire _ before =>
    inferInstanceAs (Decidable (∀ straddr msgid node,
      table.get straddr msgid = some node → before < node.expiration))

variable {s : SrAssembly}

lemma SrAssembly.call_addFragment (h : SrBacked s.table s.files) {msgid : MsgId} {dest : SmsAddress}
    {mr : UInt8} {expiration : ℤ} {total : UInt8} (hdest : SrAssemblyCall.ToDestination
    (.call (.addFragment msgid dest mr expiration total))) (hsafe : SrBackupSafe s.table
    (.call (.addFragment msgid dest mr expiration total))) : ∃ s', s.call (.call (.addFragment msgid
    dest mr expiration total)) = .ok s' ∧ s'.table = (statusReportAssemblyAddFragment s.table msgid
    dest mr expiration total).1 ∧ SrBacked s'.table s'.files := by
  rcases hdest with ⟨str, hstr, hparse⟩
  have hrec := addrRecovers_of_destination hstr hparse hsafe.1 hsafe.2
  rcases h.write hrec msgid
    { (s.table.get (smsAddressToString dest) msgid).getD (newIdTableNode total) with
      mrs := ((s.table.get (smsAddressToString dest) msgid).getD (newIdTableNode total)).mrs.mark
        mr.toNat
      expiration := expiration
      sentMrs :=
        ((s.table.get (smsAddressToString dest) msgid).getD (newIdTableNode total)).sentMrs + 1 }
    with ⟨files', hfiles', hback⟩
  refine ⟨⟨_, files'⟩, ?_, rfl, hback⟩
  unfold SrAssembly.call
  simp only [statusReportAssemblyAddFragment, doSrBackup, ok_bind, hfiles', pure_eq_ok]

lemma SrBacked.settle {table : AssemblyTable} {files : SrFiles} (h : SrBacked table files)
    {straddr : List UInt8} {msgid : MsgId} {old node : IdTableNode}
    (hold : table.get straddr msgid = some old) (hsent : ¬ node.sentMrs < node.totalMrs) : ∃ files',
    (settleNode table straddr msgid node).backup.toList.foldlM doSrBackup files = .ok files' ∧
    SrBacked (settleNode table straddr msgid node).table files' := by
  rcases h.addr straddr msgid old hold with ⟨addr, rfl, hrec⟩
  unfold settleNode
  rw [if_neg hsent]
  split
  · rcases h.write hrec msgid node with ⟨files', hfiles', hback⟩
    refine ⟨files', ?_, hback⟩
    simp only [toList_some, foldlM_cons, foldlM_nil, doSrBackup, hrec.1,
      ok_bind, hfiles', pure_eq_ok]
  · rcases h.unlink hrec msgid with ⟨files', hfiles', hback⟩
    refine ⟨files', ?_, hback⟩
    simp only [toList_some, foldlM_cons, foldlM_nil, doSrBackup, hrec.1,
      ok_bind, hfiles', pure_eq_ok]

lemma SrAssembly.call_report (h : SrBacked s.table s.files) {order : IterOrder}
    {sr : SmsStatusReport} (hsafe : SrBackupSafe s.table (.call (.report order sr))) :
    ∃ s', s.call (.call (.report order sr)) = .ok s' ∧ s'.table =
    (statusReportAssemblyReport order s.table sr).table ∧ SrBacked s'.table s'.files := by
  have hresult : ∃ files',
      (statusReportAssemblyReport order s.table sr).backup.toList.foldlM doSrBackup s.files =
          .ok files' ∧
        SrBacked (statusReportAssemblyReport order s.table sr).table files' := by
    unfold statusReportAssemblyReport
    cases hst : srStToDelivered sr.st with
    | none => exact ⟨s.files, rfl, h⟩
    | some delivered =>
      simp only
      cases hlookup : lookupReported order s.table (smsAddressToString sr.raddr) sr.mr with
      | none => exact ⟨s.files, rfl, h⟩
      | some found =>
        rcases found with ⟨straddr, msgid, node⟩
        have hsent := hsafe (by rw [hst]; simp) _ hlookup
        rcases lookupReported_eq_some hlookup with ⟨old, hold, -, -, -⟩
        exact h.settle hold hsent
  rcases hresult with ⟨files', hfiles', hback⟩
  refine ⟨⟨_, files'⟩, ?_, rfl, hback⟩
  unfold SrAssembly.call
  simp only [hfiles', ok_bind, pure_eq_ok]

lemma SrAssembly.call_expire (h : SrBacked s.table s.files) {order : IterOrder} {before : ℤ}
    (hsafe : SrBackupSafe s.table (.expire order before)) :
    ∃ s', s.call (.expire order before) = .ok s' ∧ s'.table =
    (statusReportAssemblyExpire order s.table before).1 ∧ SrBacked s'.table s'.files := by
  have hops : (statusReportAssemblyExpire order s.table before).2 = [] := by
    unfold statusReportAssemblyExpire
    rw [flatMap_eq_nil_iff]
    rintro ⟨straddr, inner⟩ he
    rw [filterMap_eq_nil_iff]
    rintro ⟨msgid, node⟩ hf
    rw [Enumeration.mem_order] at he hf
    have hlater := hsafe straddr msgid node
      ((s.table.get_eq_some_iff_mem _ _ _).mpr ⟨inner, he, hf⟩)
    exact if_neg (not_le.mpr hlater)
  have hsame : ∀ straddr msgid, (statusReportAssemblyExpire order s.table before).1.get straddr msgid =
      s.table.get straddr msgid := by
    intro straddr msgid
    unfold statusReportAssemblyExpire
    rw [Tables.get_keep]
    cases hget : s.table.get straddr msgid with
    | none => rfl
    | some node =>
      rw [filter_some, if_pos (decide_eq_true (hsafe straddr msgid node hget))]
  refine ⟨⟨_, s.files⟩, ?_, rfl, ?_⟩
  · unfold SrAssembly.call
    simp only [hops, foldlM_nil, ok_bind, pure_eq_ok]
  · constructor
    · exact Tables.noEmpty_keep _ _
    · intro straddr msgid node hnode
      exact h.addr straddr msgid node (hsame straddr msgid ▸ hnode)
    · intro name node
      rw [h.file]
      simp only [hsame]

lemma SrAssembly.call_spec (h : SrBacked s.table s.files) {c : SrAssemblyCall}
    (hdest : c.ToDestination) (hsafe : SrBackupSafe s.table c) : ∃ s', s.call c = .ok s' ∧
    s'.table = (srAssemblyStep s.table c).2 ∧ SrBacked s'.table s'.files := by
  rcases c with (_ | _) | _
  · exact SrAssembly.call_addFragment h hdest hsafe
  · exact SrAssembly.call_report h hsafe
  · exact SrAssembly.call_expire h hsafe

lemma SrAssembly.calls_spec (cs : List SrAssemblyCall) (hdest : ∀ c ∈ cs, c.ToDestination) (h :
    Machine.AllSteps srAssemblyStep SrBackupSafe ∅ cs) : ∃ s, SrAssembly.calls ⟨∅, fun _ => none⟩
    cs = .ok s ∧ s.table = (Machine.run srAssemblyStep ∅ cs).2 ∧ SrBacked s.table s.files := by
  apply foldlM_ok fun pre (s : SrAssembly) =>
    s.table = (Machine.run srAssemblyStep ∅ pre).2 ∧ SrBacked s.table s.files
  · rintro pre c post s rfl ⟨htable, hback⟩
    have hsafe := h.at
    rw [← htable] at hsafe
    rcases SrAssembly.call_spec hback (hdest c (by simp)) hsafe with ⟨s', hs', htable', hback'⟩
    refine ⟨s', hs', ?_, hback'⟩
    rw [htable', Machine.run_append, htable]
    rfl
  · exact ⟨rfl, srBacked_empty⟩

/-! ## Loading -/

lemma SrBacked.load (h : SrBacked table files) {name : SrFileName} {node : IdTableNode}
    (hname : files name = some node) : ∃ straddr msgid, table.get straddr msgid = some node ∧
    (∀ name', IsFileOf name' straddr msgid ↔ name' = name) ∧
    ∀ loaded, srAssemblyLoadBackup files loaded name = .ok (loaded.set straddr msgid node) := by
  rcases (h.file name node).mp hname with ⟨straddr, msgid, hnode, hof⟩
  rcases h.addr straddr msgid node hnode with ⟨addr, rfl, hrec⟩
  rcases hrec.2 with ⟨hexStr, hhex, hback⟩
  have hiff := fun name' => hrec.isFileOf_iff hhex name' msgid
  have hthis := (hiff name).mp hof
  refine ⟨smsAddressToString addr, msgid, hnode, ?_, ?_⟩
  · intro name'
    rw [hiff, hthis]
  · intro loaded
    unfold srAssemblyLoadBackup
    rw [hname, hthis]
    simp only [hback, msgIdOfHex_encode]

lemma SrBacked.new (h : SrBacked table files) {names : List SrFileName}
    (hnames : ∀ name, name ∈ names ↔ (files name).isSome) : ∃ loaded, statusReportAssemblyNew files
    names = .ok loaded ∧ ∀ straddr msgid, loaded.get straddr msgid = table.get straddr msgid := by
  have hfold : ∃ loaded, statusReportAssemblyNew files names = .ok loaded ∧
      ∀ straddr msgid node, loaded.get straddr msgid = some node ↔
        table.get straddr msgid = some node ∧ ∃ name ∈ names, IsFileOf name straddr msgid := by
    apply foldlM_ok fun pre (loaded : AssemblyTable) => ∀ straddr msgid node,
      loaded.get straddr msgid = some node ↔
        table.get straddr msgid = some node ∧ ∃ name ∈ pre, IsFileOf name straddr msgid
    · rintro pre name post loaded rfl hloaded
      have hsome : (files name).isSome := (hnames name).mp (by simp)
      rcases isSome_iff_exists.mp hsome with ⟨node, hname⟩
      rcases h.load hname with ⟨straddr, msgid, hnode, hof, hload⟩
      refine ⟨_, hload loaded, ?_⟩
      intro s id n
      by_cases hkey : (s, id) = (straddr, msgid)
      · cases hkey
        -- the file gives its node what it has in the table
        have hexists : ∃ name' ∈ pre ++ [name], IsFileOf name' straddr msgid :=
          ⟨name, by simp, (hof name).mpr rfl⟩
        rw [Tables.get_set_self, hnode, and_iff_left hexists]
      · -- any other node is loaded as far as its own file has come
        rw [Tables.get_set_of_ne _ _ hkey, hloaded]
        simp only [mem_append, mem_singleton]
        constructor
        · rintro ⟨hget, name', hmem, hfile⟩
          exact ⟨hget, name', Or.inl hmem, hfile⟩
        · rintro ⟨hget, name', hmem | rfl, hfile⟩
          · exact ⟨hget, name', hmem, hfile⟩
          · rcases hfile.unique ((hof name').mpr rfl) (h.addr s id n hget)
              (h.addr straddr msgid node hnode) with ⟨rfl, rfl⟩
            exact absurd rfl hkey
    · simp
  rcases hfold with ⟨loaded, hloaded, hget⟩
  refine ⟨loaded, hloaded, ?_⟩
  intro straddr msgid
  apply Option.ext
  intro node
  rw [hget, and_iff_left_iff_imp]
  intro hnode
  rcases h.addr straddr msgid node hnode with ⟨addr, rfl, hrec⟩
  rcases hrec.2 with ⟨hexStr, hhex, -⟩
  have hof := (hrec.isFileOf_iff hhex ⟨hexStr, Hex.encodeHexOwnBuf msgid.octets⟩ msgid).mpr rfl
  -- every node has a file, and all files are loaded
  refine ⟨_, (hnames _).mpr ?_, hof⟩
  rw [(h.file _ node).mpr ⟨_, msgid, hnode, hof⟩]
  rfl

/-- After any calls that are all safe there is exactly one file for each node, which holds
the node, and loading the files gives the nodes again. -/
theorem status_report_backup_run (cs : List SrAssemblyCall) (hdest : ∀ c ∈ cs, c.ToDestination)
    (h : Machine.AllSteps srAssemblyStep SrBackupSafe ∅ cs) : ∃ s,
    SrAssembly.calls ⟨∅, fun _ => none⟩ cs = .ok s ∧ s.table = (Machine.run srAssemblyStep ∅ cs).2 ∧
    (∀ straddr msgid node, s.table.get straddr msgid = some node → ∃! name, s.files name = some
    node ∧ IsFileOf name straddr msgid) ∧ (∀ name node, s.files name = some node → ∃! key : List
    UInt8 × MsgId, s.table.get key.1 key.2 = some node ∧ IsFileOf name key.1 key.2) ∧ ∀ names,
    (∀ name, name ∈ names ↔ (s.files name).isSome) → ∃ loaded, statusReportAssemblyNew s.files
    names = .ok loaded ∧ ∀ straddr msgid, loaded.get straddr msgid = s.table.get straddr msgid := by
  rcases SrAssembly.calls_spec cs hdest h with ⟨s, hs, htable, hback⟩
  refine ⟨s, hs, htable, ?_, ?_, fun names hnames => hback.new hnames⟩
  · intro straddr msgid node hnode
    rcases hback.addr straddr msgid node hnode with ⟨addr, rfl, hrec⟩
    rcases hrec.2 with ⟨hexStr, hhex, -⟩
    have hof := (hrec.isFileOf_iff hhex ⟨hexStr, Hex.encodeHexOwnBuf msgid.octets⟩ msgid).mpr rfl
    refine ⟨_, ⟨(hback.file _ node).mpr ⟨_, msgid, hnode, hof⟩, hof⟩, ?_⟩
    rintro name ⟨-, hof'⟩
    exact (hrec.isFileOf_iff hhex name msgid).mp hof'
  · intro name node hname
    rcases (hback.file name node).mp hname with ⟨straddr, msgid, hnode, hof⟩
    refine ⟨(straddr, msgid), ⟨hnode, hof⟩, ?_⟩
    rintro ⟨straddr', msgid'⟩ ⟨hnode', hof'⟩
    rcases hof'.unique hof (hback.addr _ _ _ hnode') (hback.addr _ _ _ hnode) with ⟨hs, hm⟩
    simp only at hs hm
    rw [hs, hm]

lemma sampleInternational_destination :
    ∃ str, IsDestination str ∧ smsAddressFromString str = .ok sampleInternational :=
  ⟨0x2b :: sampleInternational.address.bytes, by decide, by decide⟩

/-- Two fragments, a report for one of them, and an expiry that comes too early. -/
def sampleSrCalls : List SrAssemblyCall :=
  [.call (.addFragment (Buf.zero 20) sampleInternational 1 100 2),
    .call (.addFragment (Buf.zero 20) sampleInternational 2 100 2),
    .call (.report IterOrder.asListed (sampleReport sampleNational 2 0x00)),
    .expire IterOrder.asListed 50]

theorem status_report_backup_run_reported : ∃ s, SrAssembly.calls ⟨∅, fun _ => none⟩ sampleSrCalls =
    .ok s ∧ s.table = (Machine.run srAssemblyStep ∅ sampleSrCalls).2 := by
  have hdest : ∀ c ∈ sampleSrCalls, c.ToDestination := by
    simp only [sampleSrCalls, forall_mem_cons, not_mem_nil, false_imp_iff, implies_true, and_true]
    exact ⟨sampleInternational_destination, sampleInternational_destination, trivial, trivial⟩
  rcases status_report_backup_run sampleSrCalls hdest (by decide) with ⟨s, hs, htable, -⟩
  exact ⟨s, hs, htable⟩

/-- The first of two fragments, reported before the second one has been sent. -/
def sampleStaleCalls : List SrAssemblyCall :=
  [.call (.addFragment (Buf.zero 20) sampleInternational 1 100 2),
    .call (.report IterOrder.asListed (sampleReport sampleInternational 1 0x00))]

/-- The node with the fragment sent and not reported. -/
def sampleUnreported : IdTableNode := ⟨Bitmap.empty.mark 1, 100, 2, 1, true⟩

/-- The name of its file: 12 digits of an international number, and the id. -/
def sampleFileName : SrFileName where
  straddr := Hex.encodeHexOwnBuf [12, 0x91, 0x53, 0x48, 0x10, 0x32, 0x54, 0x76]
  msgidStr := Hex.encodeHexOwnBuf (List.replicate 20 0)

/-- A report that comes before the second submit: the node does not await it any more, but
its file does. -/
theorem status_report_backup_stale : ¬ ∀ cs : List SrAssemblyCall, (∀ c ∈ cs, c.ToDestination) →
    ∃ s, SrAssembly.calls ⟨∅, fun _ => none⟩ cs = .ok s ∧ ∀ name node, s.files name = some node →
    ∃ straddr msgid, s.table.get straddr msgid = some node ∧ IsFileOf name straddr msgid := by
  intro h
  have hdest : ∀ c ∈ sampleStaleCalls, c.ToDestination := by
    simp only [sampleStaleCalls, forall_mem_cons, not_mem_nil, false_imp_iff,
      implies_true, and_true]
    exact ⟨sampleInternational_destination, trivial⟩
  rcases h sampleStaleCalls hdest with ⟨s, hs, hfiles⟩
  -- the file as it was written, which no node is
  have hstale : s.files sampleFileName = some sampleUnreported ∧
      ∀ straddr msgid node, s.table.get straddr msgid = some node →
        node ≠ sampleUnreported := by
    have heval : (SrAssembly.calls ⟨∅, fun _ => none⟩ sampleStaleCalls >>= fun s =>
        Outcome.ok (decide (s.files sampleFileName = some sampleUnreported ∧
          ∀ straddr msgid node, s.table.get straddr msgid = some node →
            node ≠ sampleUnreported))) = .ok true := by decide
    rw [hs, ok_bind] at heval
    exact of_decide_eq_true (Outcome.ok.inj heval)
  rcases hfiles _ _ hstale.1 with ⟨straddr, msgid, hnode, -⟩
  exact hstale.2 straddr msgid _ hnode rfl

end Phonelets.Sms
