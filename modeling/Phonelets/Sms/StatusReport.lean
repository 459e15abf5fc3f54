import Phonelets.Lib.Bitmap
import Phonelets.Lib.Machine
import Phonelets.Lib.Tables
import Phonelets.Sms.Address

/-! # The assembly of status reports

A message goes out in several submits, and every submit is answered by status reports
that name it by its destination and its message reference. The assembly keeps a node for
each message under way: a bitmap of the references that no report has come for, the
number of submits sent, and whether all reports so far said delivered.

The nodes are in hash tables, by the text of the address and the message id. An
iteration over a hash table goes in an order of its own, so a report carries the orders
of its iterations.
-/

namespace Phonelets.Sms

open Option

/-! ## The tables -/

/-- The comparison of `fuzzy_lookup`. -/
def fuzzyMatch (sAddr rAddr : List UInt8) : Bool :=
  if rAddr.head? = some 0x2b ∧ sAddr.head? = some 0x2b then false
  else if rAddr.head? ≠ some 0x2b ∧ sAddr.head? ≠ some 0x2b then false
  else
    (List.range (min 6 (min rAddr.length sAddr.length))).all fun i =>
      sAddr.getD (sAddr.length - i - 1) 0 == rAddr.getD (rAddr.length - i - 1) 0

/-- A message id, `SMS_MSGID_LEN` octets. -/
abbrev MsgId := Buf 20

structure IdTableNode where
  mrs : Bitmap 32 8
  expiration : ℤ
  totalMrs : UInt8
  sentMrs : UInt8
  deliverable : Bool
  deriving DecidableEq

/-- The nodes of the messages to one address. -/
abbrev IdTable := AList fun _ : MsgId => IdTableNode

/-- `assembly_table`, by the text of the address. -/
abbrev AssemblyTable := Tables (List UInt8) MsgId IdTableNode

/-- The orders in which a call iterates over the hash tables. -/
structure IterOrder where
  addrs : Enumeration (Sigma fun _ : List UInt8 => IdTable)
  ids : List UInt8 → Enumeration (Sigma fun _ : MsgId => IdTableNode)

/-- A backup operation of a call; `addr` is what `sms_address_from_string` has made, and
reading `msgid` is a fault where the key has been freed. -/
inductive SrBackup where
  | add (node : IdTableNode) (addr : Outcome SmsAddress) (msgid : MsgId)
  | remove (addr : Outcome SmsAddress) (msgid : Outcome MsgId)

/-! ## Reports -/

/-- `sr_st_to_delivered`, nothing for `FALSE`. -/
def srStToDelivered (st : UInt8) : Option Bool :=
  if 0x60 ≤ st ∧ st ≤ 0x6f then none
  else if 0x20 ≤ st ∧ st ≤ 0x2f then none
  else if st ≤ 0x1f then some true
  else if 0x40 ≤ st ∧ st ≤ 0x4f then some false
  else none

/-- The node after its reference has been marked as reported. -/
def IdTableNode.reported (node : IdTableNode) (mr : UInt8) : IdTableNode :=
  { node with mrs := node.mrs.toggle mr.toNat }

/-- `find_by_mr_and_mark`: the id and the marked node. -/
def findByMrAndMark (order : Enumeration (Sigma fun _ : MsgId => IdTableNode)) (idTable : IdTable)
    (mr : UInt8) : Option (MsgId × IdTableNode) :=
  (order.order idTable.entries).findSome? fun e =>
    if e.2.mrs.test mr.toNat then some (e.1, e.2.reported mr) else none

/-- `fuzzy_lookup`: the address, the id and the marked node. -/
def fuzzyLookup (order : IterOrder) (table : AssemblyTable) (rAddr : List UInt8) (mr : UInt8) :
    Option (List UInt8 × MsgId × IdTableNode) :=
  (order.addrs.order table.entries).findSome? fun e =>
    if fuzzyMatch e.1 rAddr then (findByMrAndMark (order.ids e.1) e.2 mr).map (Prod.mk e.1)
    else none

/-- The lookup of `status_report_assembly_report`. -/
def lookupReported (order : IterOrder) (table : AssemblyTable) (straddr : List UInt8)
    (mr : UInt8) : Option (List UInt8 × MsgId × IdTableNode) :=
  match table.lookup straddr with
  | some idTable => (findByMrAndMark (order.ids straddr) idTable mr).map (Prod.mk straddr)
  | none => fuzzyLookup order table straddr mr

/-- What a call gives back: `out_msgid` and `out_delivered` if it is `TRUE`, the tables and
what it does to the backup. -/
structure ReportResult where
  out : Option (MsgId × Bool)
  table : AssemblyTable
  backup : Option SrBackup

/-- `status_report_assembly_report` once the node takes the new report into account. -/
def settleNode (table : AssemblyTable) (straddr : List UInt8) (msgid : MsgId)
    (node : IdTableNode) : ReportResult :=
  -- the entire message has not been sent yet
  if node.sentMrs < node.totalMrs then ⟨none, table.set straddr msgid node, none⟩
  else if node.mrs.pending && node.deliverable then
    ⟨none, table.set straddr msgid node, some (.add node (smsAddressFromString straddr) msgid)⟩
  else
    ⟨some (msgid, node.deliverable), table.remove straddr msgid,
      some (.remove (smsAddressFromString straddr) (.ok msgid))⟩

/-- `status_report_assembly_report` from the node on that it has found and marked. -/
def reportNode (table : AssemblyTable) (straddr : List UInt8) (msgid : MsgId) (node : IdTableNode)
    (delivered : Bool) : ReportResult :=
  settleNode table straddr msgid { node with deliverable := node.deliverable && delivered }

def statusReportAssemblyReport (order : IterOrder) (table : AssemblyTable) (sr : SmsStatusReport) :
    ReportResult :=
  match srStToDelivered sr.st with
  | none => ⟨none, table, none⟩
  | some delivered =>
    match lookupReported order table (smsAddressToString sr.raddr) sr.mr with
    | none => ⟨none, table, none⟩
    | some (straddr, msgid, node) => reportNode table straddr msgid node delivered

/-! ## Submits -/

/-- The node of a message that has not been sent to before. -/
def newIdTableNode (totalMrs : UInt8) : IdTableNode :=
  ⟨Bitmap.empty, 0, totalMrs, 0, true⟩

def statusReportAssemblyAddFragment (table : AssemblyTable) (msgid : MsgId) (dest : SmsAddress)
    (mr : UInt8) (expiration : ℤ) (totalMrs : UInt8) : AssemblyTable × SrBackup :=
  let straddr := smsAddressToString dest
  let node := (table.get straddr msgid).getD (newIdTableNode totalMrs)
  let node := { node with
    mrs := node.mrs.mark mr.toNat, expiration := expiration, sentMrs := node.sentMrs + 1 }
  (table.set straddr msgid node, .add node (.ok dest) msgid)

/-! ## What a lookup finds -/

/-- The text begins with a plus. -/
def IsInternational (addr : List UInt8) : Prop := addr.head? = some 0x2b

/-- One number is international and the other is not, and their last six characters agree,
or as many as the shorter one has. -/
def FuzzyMatch (sAddr rAddr : List UInt8) : Prop :=
  ¬ (IsInternational sAddr ↔ IsInternational rAddr) ∧
    sAddr.reverse.take (min 6 (min sAddr.length rAddr.length)) =
      rAddr.reverse.take (min 6 (min sAddr.length rAddr.length))

instance (addr : List UInt8) : Decidable (IsInternational addr) :=
  inferInstanceAs (Decidable (_ = _))

instance (sAddr rAddr : List UInt8) : Decidable (FuzzyMatch sAddr rAddr) :=
  inferInstanceAs (Decidable (_ ∧ _))

lemma take_reverse_eq_iff {s r : List UInt8} {n : ℕ} (hs : n ≤ s.length) (hr : n ≤ r.length) :
    s.reverse.take n = r.reverse.take n ↔
      ∀ i < n, s.getD (s.length - i - 1) 0 = r.getD (r.length - i - 1) 0 := by
  have hget : ∀ (l : List UInt8), n ≤ l.length → ∀ i < n,
      (l.reverse.take n)[i]? = some (l.getD (l.length - i - 1) 0) := by
    intro l hl i hi
    have hidx : l.length - 1 - i = l.length - i - 1 := by omega
    rw [List.getElem?_take_of_lt hi, List.getElem?_reverse (by omega), hidx,
      List.getD_eq_getElem?_getD, List.getElem?_eq_getElem (by omega)]
    rfl
  constructor
  · intro h i hi
    have hi' := hget s hs i hi
    rw [h, hget r hr i hi] at hi'
    exact (Option.some.inj hi').symm
  · intro h
    apply List.ext_getElem?
    intro i
    by_cases hi : i < n
    · rw [hget s hs i hi, hget r hr i hi, h i hi]
    · rw [List.getElem?_eq_none (by simp; omega), List.getElem?_eq_none (by simp; omega)]

/-- The loop of `fuzzy_lookup` compares the last characters. -/
lemma fuzzyMatch_iff (sAddr rAddr : List UInt8) :
    fuzzyMatch sAddr rAddr = true ↔ FuzzyMatch sAddr rAddr := by
  unfold fuzzyMatch FuzzyMatch IsInternational
  rw [take_reverse_eq_iff (by omega) (by omega), min_comm rAddr.length]
  by_cases hr : rAddr.head? = some 0x2b <;> by_cases hs : sAddr.head? = some 0x2b <;>
    simp [hr, hs]

/-- The addresses whose nodes the lookup goes through: the very one that the report names,
its fuzzy matches only if there is no table for it. -/
def Eligible (table : AssemblyTable) (rAddr sAddr : List UInt8) : Prop :=
  sAddr = rAddr ∨ (rAddr ∉ table ∧ FuzzyMatch sAddr rAddr)

variable {mr : UInt8} {msgid : MsgId}

lemma findByMrAndMark_eq_some {order : Enumeration (Sigma fun _ : MsgId => IdTableNode)}
    {idTable : IdTable} {marked : IdTableNode}
    (h : findByMrAndMark order idTable mr = some (msgid, marked)) : ∃ node, idTable.lookup msgid =
    some node ∧ node.mrs.test mr.toNat = true ∧ marked = node.reported mr := by
  rcases order.mem_of_findSome? h with ⟨⟨id, node⟩, hmem, hf⟩
  simp only at hf
  split at hf
  · next htest =>
      cases hf
      exact ⟨node, AList.mem_lookup_iff.mpr hmem, htest, rfl⟩
  · cases hf

lemma findByMrAndMark_eq_none_iff (order : Enumeration (Sigma fun _ : MsgId => IdTableNode))
    (idTable : IdTable) (mr : UInt8) : findByMrAndMark order idTable mr = none ↔ ∀ msgid node,
    idTable.lookup msgid = some node → node.mrs.test mr.toNat = false := by
  unfold findByMrAndMark
  rw [order.findSome?_eq_none_iff]
  constructor
  · intro h msgid node hlookup
    have hnone := h ⟨msgid, node⟩ (AList.mem_lookup_iff.mp hlookup)
    simpa using hnone
  · rintro h ⟨msgid, node⟩ hmem
    have hfalse := h msgid node (AList.mem_lookup_iff.mpr hmem)
    simp [hfalse]

variable {order : IterOrder} {table : AssemblyTable} {rAddr sAddr : List UInt8}

/-- What the lookup finds is a node that awaits the reference, to an eligible address. -/
lemma lookupReported_eq_some {marked : IdTableNode} (h : lookupReported order table rAddr mr =
    some (sAddr, msgid, marked)) : ∃ node, table.get sAddr msgid = some node ∧
    node.mrs.test mr.toNat = true ∧ marked = node.reported mr ∧ Eligible table rAddr sAddr := by
  unfold lookupReported at h
  cases hlookup : table.lookup rAddr with
  | some idTable =>
    rw [hlookup] at h
    rcases map_eq_some_iff.mp h with ⟨⟨id, node'⟩, hfind, heq⟩
    cases heq
    rcases findByMrAndMark_eq_some hfind with ⟨node, hnode, htest, hmarked⟩
    exact ⟨node, (table.get_eq_some_iff _ _ _).mpr ⟨idTable, hlookup, hnode⟩, htest, hmarked,
      Or.inl rfl⟩
  | none =>
    rw [hlookup] at h
    rcases order.addrs.mem_of_findSome? h with ⟨⟨s, idTable⟩, hmem, hf⟩
    simp only at hf
    split at hf
    · next hmatch =>
        rcases map_eq_some_iff.mp hf with ⟨⟨id, node'⟩, hfind, heq⟩
        cases heq
        rcases findByMrAndMark_eq_some hfind with ⟨node, hnode, htest, hmarked⟩
        refine ⟨node, (table.get_eq_some_iff _ _ _).mpr ⟨idTable, ?_, hnode⟩, htest, hmarked,
          Or.inr ⟨AList.lookup_eq_none.mp hlookup, (fuzzyMatch_iff _ _).mp hmatch⟩⟩
        exact AList.mem_lookup_iff.mpr hmem
    · cases hf

lemma lookupReported_ne_none {node : IdTableNode}
    (hget : table.get sAddr msgid = some node) (htest : node.mrs.test mr.toNat = true)
    (heligible : Eligible table rAddr sAddr) : lookupReported order table rAddr mr ≠ none := by
  intro h
  rcases (table.get_eq_some_iff _ _ _).mp hget with ⟨idTable, hidTable, hnode⟩
  have hfind : ∀ enum, findByMrAndMark enum idTable mr ≠ none := by
    intro enum hnone
    rw [(findByMrAndMark_eq_none_iff enum idTable mr).mp hnone msgid node hnode] at htest
    cases htest
  unfold lookupReported at h
  rcases heligible with rfl | ⟨habsent, hmatch⟩
  · rw [hidTable] at h
    exact hfind _ (map_eq_none_iff.mp h)
  · rw [AList.lookup_eq_none.mpr habsent] at h
    have hall := (order.addrs.findSome?_eq_none_iff _ _).mp h ⟨sAddr, idTable⟩
      (AList.mem_lookup_iff.mp hidTable)
    simp only [(fuzzyMatch_iff sAddr rAddr).mpr hmatch, if_true] at hall
    exact hfind _ (map_eq_none_iff.mp hall)

lemma lookupReported_of_unique {node : IdTableNode}
    (hget : table.get sAddr msgid = some node) (htest : node.mrs.test mr.toNat = true)
    (heligible : Eligible table rAddr sAddr)
    (hunique : ∀ s id n, table.get s id = some n → n.mrs.test mr.toNat = true →
      Eligible table rAddr s → s = sAddr ∧ id = msgid) :
    lookupReported order table rAddr mr = some (sAddr, msgid, node.reported mr) := by
  cases hfound : lookupReported order table rAddr mr with
  | none => exact absurd hfound (lookupReported_ne_none hget htest heligible)
  | some found =>
    rcases found with ⟨s, id, marked⟩
    rcases lookupReported_eq_some hfound with ⟨n, hn, hbit, hmarked, hel⟩
    rcases hunique s id n hn hbit hel with ⟨rfl, rfl⟩
    rw [hget] at hn
    cases hn
    rw [hmarked]

lemma lookupReported_eq_none (h : ∀ s id n, table.get s id = some n → Eligible table rAddr s →
    n.mrs.test mr.toNat = false) : lookupReported order table rAddr mr = none := by
  cases hfound : lookupReported order table rAddr mr with
  | none => rfl
  | some found =>
    rcases found with ⟨s, id, marked⟩
    rcases lookupReported_eq_some hfound with ⟨n, hn, hbit, -, hel⟩
    rw [h s id n hn hel] at hbit
    cases hbit

/-! ## Which node a report is attributed to -/

/-- The address of the node is the one that the report names, or a fuzzy match of it. -/
def AddressMatches (sAddr rAddr : List UInt8) : Prop := sAddr = rAddr ∨ FuzzyMatch sAddr rAddr

/-- If one node only awaits the reference of a final report among those whose address matches,
then the report goes to this node, unless the node is to another address and there
are messages to the very address that the report names: then the report is dropped. -/
theorem status_report_attribution (order : IterOrder) (table : AssemblyTable) (sr : SmsStatusReport)
    {delivered : Bool} (hfinal : srStToDelivered sr.st = some delivered) {sAddr : List UInt8}
    {msgid : MsgId} {node : IdTableNode} (hget : table.get sAddr msgid = some node)
    (hawaits : node.mrs.test sr.mr.toNat = true) (hmatches : AddressMatches sAddr
    (smsAddressToString sr.raddr)) (hunique : ∀ s id n, table.get s id = some n → n.mrs.test
    sr.mr.toNat = true → AddressMatches s (smsAddressToString sr.raddr) → s = sAddr ∧ id = msgid) :
    (sAddr = smsAddressToString sr.raddr ∨ smsAddressToString sr.raddr ∉ table →
    statusReportAssemblyReport order table sr = reportNode table sAddr msgid (node.reported sr.mr)
    delivered) ∧ (¬ (sAddr = smsAddressToString sr.raddr ∨ smsAddressToString sr.raddr ∉ table) →
    statusReportAssemblyReport order table sr = ⟨none, table, none⟩) := by
  have hmatch : ∀ s, Eligible table (smsAddressToString sr.raddr) s →
      AddressMatches s (smsAddressToString sr.raddr) := by
    rintro s (h | ⟨-, h⟩)
    · exact Or.inl h
    · exact Or.inr h
  constructor
  · intro hreached
    -- the search comes to the node: no other one that awaits the reference is eligible
    have heligible : Eligible table (smsAddressToString sr.raddr) sAddr := by
      rcases hmatches with hsame | hfuzzy
      · exact Or.inl hsame
      · rcases hreached with hsame | habsent
        · exact Or.inl hsame
        · exact Or.inr ⟨habsent, hfuzzy⟩
    have hfound : lookupReported order table (smsAddressToString sr.raddr) sr.mr =
        some (sAddr, msgid, node.reported sr.mr) :=
      lookupReported_of_unique hget hawaits heligible
        fun s id n hn hbit hel => hunique s id n hn hbit (hmatch s hel)
    unfold statusReportAssemblyReport
    rw [hfinal]
    simp only [hfound]
  · intro hmissed
    -- the search stays with the table of the address itself, where the node is not
    have hnone : lookupReported order table (smsAddressToString sr.raddr) sr.mr = none := by
      apply lookupReported_eq_none
      intro s id n hn hel
      by_contra hbit
      rw [Bool.not_eq_false] at hbit
      rcases hunique s id n hn hbit (hmatch s hel) with ⟨rfl, rfl⟩
      rcases hel with hsame | ⟨habsent, -⟩
      · exact hmissed (Or.inl hsame)
      · exact hmissed (Or.inr habsent)
    unfold statusReportAssemblyReport
    rw [hfinal]
    simp only [hnone]

/-- +358401234567 -/
def sampleInternational : SmsAddress where
  numberType := .international
  numberingPlan := .isdn
  address := ⟨[0x33, 0x35, 0x38, 0x34, 0x30, 0x31, 0x32, 0x33, 0x34, 0x35, 0x36, 0x37], by decide,
    by decide⟩

/-- The same number without the code of its country. -/
def sampleNational : SmsAddress where
  numberType := .unknown
  numberingPlan := .isdn
  address := ⟨[0x30, 0x34, 0x30, 0x31, 0x32, 0x33, 0x34, 0x35, 0x36, 0x37], by decide, by decide⟩

def sampleReport (raddr : SmsAddress) (mr st : UInt8) : SmsStatusReport where
  udhi := false
  mms := true
  srq := false
  mr := mr
  raddr := raddr
  scts := ⟨10, 1, 1, 0, 0, 0, true, 0⟩
  dt := ⟨10, 1, 1, 0, 0, 0, true, 0⟩
  st := st
  pi := 0
  pid := 0
  dcs := 0
  udl := 0
  ud := Buf.zero 143

/-- The orders of the entries as they stand. -/
def IterOrder.asListed : IterOrder := ⟨Enumeration.asListed, fun _ => Enumeration.asListed⟩

/-- The node of a message whose one fragment has been sent. -/
def sampleNode (mr : UInt8) : IdTableNode :=
  ⟨Bitmap.empty.mark mr.toNat, 0, 1, 1, true⟩

lemma sampleNode_awaits (mr : UInt8) (mr' : UInt8) :
    (sampleNode mr).mrs.test mr'.toNat = decide (mr' = mr) := by
  unfold sampleNode
  rw [Bitmap.test_mark _ (by have := mr.toNat_lt; omega), Bitmap.test_empty, Bool.or_false]
  by_cases h : mr' = mr
  · simp [h]
  · simp [h, UInt8.toNat_inj]

/-- A message to the international number, reported from the national one. -/
theorem status_report_attribution_national : statusReportAssemblyReport IterOrder.asListed
    ((∅ : AssemblyTable).set (smsAddressToString sampleInternational) (Buf.zero 20) (sampleNode 7))
    (sampleReport sampleNational 7 0) = reportNode
    ((∅ : AssemblyTable).set (smsAddressToString sampleInternational) (Buf.zero 20) (sampleNode 7))
    (smsAddressToString sampleInternational) (Buf.zero 20) ((sampleNode 7).reported 7) true := by
  refine (status_report_attribution IterOrder.asListed _ (sampleReport sampleNational 7 0)
    (show srStToDelivered 0 = some true by decide) (Tables.get_set_self _ _ _ _) ?_ (Or.inr (by decide)) ?_).1
    (Or.inr (by decide))
  · exact sampleNode_awaits 7 7
  · intro s id n hn _ _
    by_contra hne
    rw [Tables.get_set_of_ne _ _ (by simpa using hne)] at hn
    cases hn

/-- The same with another message to the national number, under another reference: its table
is the only one looked into, and the report is dropped. -/
theorem status_report_attribution_shadowed : ¬ ∀ (order : IterOrder) (table : AssemblyTable)
    (sr : SmsStatusReport) (delivered : Bool) (sAddr : List UInt8) (msgid : MsgId)
    (node : IdTableNode), srStToDelivered sr.st = some delivered → table.get sAddr msgid = some
    node → node.mrs.test sr.mr.toNat = true → AddressMatches sAddr (smsAddressToString sr.raddr) →
    (∀ s id n, table.get s id = some n → n.mrs.test sr.mr.toNat = true → AddressMatches s
    (smsAddressToString sr.raddr) → s = sAddr ∧ id = msgid) → statusReportAssemblyReport order table
    sr = reportNode table sAddr msgid (node.reported sr.mr) delivered := by
  intro h
  have hattributed := h IterOrder.asListed
    (((∅ : AssemblyTable).set (smsAddressToString sampleInternational) (Buf.zero 20)
      (sampleNode 7)).set (smsAddressToString sampleNational) (Buf.zero 20) (sampleNode 8))
    (sampleReport sampleNational 7 0) true (smsAddressToString sampleInternational) (Buf.zero 20)
    (sampleNode 7) (by decide)
    (by rw [Tables.get_set_of_ne _ _ (by decide), Tables.get_set_self])
    (sampleNode_awaits 7 7) (Or.inr (by decide)) ?_
  · exact absurd (congrArg ReportResult.out hattributed) (by decide)
  · intro s id n hn hbit _
    by_cases hnational : (s, id) = (smsAddressToString sampleNational, Buf.zero 20)
    · rw [Prod.mk.injEq] at hnational
      rcases hnational with ⟨rfl, rfl⟩
      rw [Tables.get_set_self] at hn
      cases hn
      rw [show (sampleReport sampleNational 7 0).mr = 7 from rfl, sampleNode_awaits] at hbit
      cases hbit
    · rw [Tables.get_set_of_ne _ _ hnational] at hn
      by_contra hne
      rw [Tables.get_set_of_ne _ _ (by simpa using hne)] at hn
      cases hn

end Phonelets.Sms
