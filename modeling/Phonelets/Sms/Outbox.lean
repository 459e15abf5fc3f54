import Phonelets.Sms.StatusReport

/-! # What has been sent, and what the reports said

The purpose of the assembly: an outbox holds every message with the references of its
fragments no report has come for and what the reports so far said. The outbox keeps a
message for ever, with its whole history; the assembly drops the node of a message as
soon as it has told its fate.
-/

namespace Phonelets.Sms

open List

/-! ## The outbox -/

/-- A message, of which `added` fragments have been sent. -/
structure Sent where
  total : UInt8
  added : ℕ
  expiration : ℤ
  /-- the references of the fragments that no report has come for -/
  outstanding : List UInt8
  /-- whether it said delivered, for each final report so far -/
  reports : List Bool
  /-- its fate has been told -/
  returned : Bool

/-- Every message sent, by the text of its destination and its id. -/
abbrev Outbox := Tables (List UInt8) MsgId Sent

/-- The message is still under way and awaits a report for this reference. -/
def Sent.Awaits (m : Sent) (mr : UInt8) : Prop := m.returned = false ∧ mr ∈ m.outstanding

instance (m : Sent) (mr : UInt8) : Decidable (m.Awaits mr) := inferInstanceAs (Decidable (_ ∧ _))

/-- Its fate is known: all fragments have been sent and some report was a permanent failure, or
every fragment has been reported. -/
def Sent.Known (m : Sent) : Prop :=
  m.added = m.total.toNat ∧ (false ∈ m.reports ∨ m.outstanding = [])

instance (m : Sent) : Decidable m.Known := inferInstanceAs (Decidable (_ ∧ _))

/-- All reports so far said delivered. -/
def Sent.delivered (m : Sent) : Bool := m.reports.all id

def Sent.add (m : Sent) (mr : UInt8) (expiration : ℤ) : Sent :=
  { m with added := m.added + 1, outstanding := mr :: m.outstanding, expiration := expiration }

/-- One more final report. -/
def Sent.report (m : Sent) (mr : UInt8) (delivered : Bool) : Sent :=
  { m with outstanding := m.outstanding.erase mr, reports := m.reports ++ [delivered] }

/-- A message before its first fragment. -/
def Sent.new (total : UInt8) : Sent := ⟨total, 0, 0, [], [], false⟩

def Outbox.addFragment (o : Outbox) (msgid : MsgId) (dest : List UInt8) (mr : UInt8)
    (expiration : ℤ) (total : UInt8) : Outbox :=
  o.set dest msgid (((o.get dest msgid).getD (Sent.new total)).add mr expiration)

/-- The message to this very address that awaits the reference. -/
def Outbox.awaiting (o : Outbox) (rAddr : List UInt8) (mr : UInt8) : Option (MsgId × Sent) :=
  ((o.lookup rAddr).getD ∅).entries.findSome? fun e =>
    if e.2.Awaits mr then some (e.1, e.2) else none

/-- A final report: it belongs to the message that awaits it, and tells its fate if it is
known then. -/
def Outbox.report (o : Outbox) (rAddr : List UInt8) (mr : UInt8) (delivered : Bool) :
    Option (List UInt8 × MsgId × Bool) × Outbox :=
  match o.awaiting rAddr mr with
  | none => (none, o)
  | some (msgid, m) =>
    let m := m.report mr delivered
    if m.Known then (some (rAddr, msgid, m.delivered), o.set rAddr msgid { m with returned := true })
    else (none, o.set rAddr msgid m)

/-- A call of the assembly; a report goes through the tables in orders of its own. -/
inductive SrCall where
  | addFragment (msgid : MsgId) (dest : SmsAddress) (mr : UInt8) (expiration : ℤ) (total : UInt8)
  | report (order : IterOrder) (sr : SmsStatusReport)

def Outbox.step (o : Outbox) : SrCall → Option (List UInt8 × MsgId × Bool) × Outbox
  | .addFragment msgid dest mr expiration total =>
    (none, o.addFragment msgid (smsAddressToString dest) mr expiration total)
  | .report _ sr =>
    match srStToDelivered sr.st with
    | none => (none, o)
    | some delivered => o.report (smsAddressToString sr.raddr) sr.mr delivered

/-- The assembly, without a backup. -/
def statusReportStep (table : AssemblyTable) : SrCall → Option (MsgId × Bool) × AssemblyTable
  | .addFragment msgid dest mr expiration total =>
    (none, (statusReportAssemblyAddFragment table msgid dest mr expiration total).1)
  | .report order sr =>
    ((statusReportAssemblyReport order table sr).out,
      (statusReportAssemblyReport order table sr).table)

/-- What the callers keep to: a message is sent with the same total for each of its
fragments, and no two fragments under way to one address have the same reference. And
what they cannot: a final report names an address with a message under way, or at least
no message to a fuzzy match of the address awaits its reference. -/
def Outbox.Admits (o : Outbox) : SrCall → Prop
  | .addFragment msgid dest mr _ total =>
    ((∃ m, o.get (smsAddressToString dest) msgid = some m ∧ m.total = total ∧
        m.added < m.total.toNat) ∨
      o.get (smsAddressToString dest) msgid = none ∧ 0 < total.toNat) ∧
    ∀ id m, o.get (smsAddressToString dest) id = some m → ¬ m.Awaits mr
  | .report _ sr =>
    srStToDelivered sr.st ≠ none →
      (∃ id m, o.get (smsAddressToString sr.raddr) id = some m ∧ m.returned = false) ∨
      ∀ s id m, o.get s id = some m → FuzzyMatch s (smsAddressToString sr.raddr) → ¬ m.Awaits sr.mr

/-! ## What an outbox keeps to -/

/-- No message has sent more than its total, and all of it when its fate has been told; a
reference is outstanding once at an address. -/
structure Outbox.Valid (o : Outbox) : Prop where
  added_le : ∀ s id m, o.get s id = some m → m.added ≤ m.total.toNat
  nodup : ∀ s id m, o.get s id = some m → m.outstanding.Nodup
  complete : ∀ s id m, o.get s id = some m → m.returned = true → m.added = m.total.toNat
  single : ∀ s id id' m m' mr, o.get s id = some m → o.get s id' = some m' → m.Awaits mr →
    m'.Awaits mr → id = id'

lemma Outbox.valid_empty : Outbox.Valid ∅ where
  added_le := by simp
  nodup := by simp
  complete := by simp
  single := by simp

variable {o : Outbox}

variable {s : List UInt8} {msgid : MsgId} {m : Sent}

lemma Outbox.Valid.set (h : o.Valid) (hle : m.added ≤ m.total.toNat) (hnodup : m.outstanding.Nodup)
    (hcomplete : m.returned = true → m.added = m.total.toNat) (hsingle : ∀ id m' mr, o.get s id =
    some m' → m.Awaits mr → m'.Awaits mr → id = msgid) : Outbox.Valid (o.set s msgid m) := by
  constructor
  · intro s' id m' hget
    rcases Tables.get_set_eq_some hget with ⟨-, -, rfl⟩ | hold
    · exact hle
    · exact h.added_le s' id m' hold
  · intro s' id m' hget
    rcases Tables.get_set_eq_some hget with ⟨-, -, rfl⟩ | hold
    · exact hnodup
    · exact h.nodup s' id m' hold
  · intro s' id m' hget
    rcases Tables.get_set_eq_some hget with ⟨-, -, rfl⟩ | hold
    · exact hcomplete
    · exact h.complete s' id m' hold
  · intro s' id id' m₁ m₂ mr hget hget' hawaits hawaits'
    rcases Tables.get_set_eq_some hget with ⟨rfl, rfl, rfl⟩ | hold
    · rcases Tables.get_set_eq_some hget' with ⟨-, rfl, -⟩ | hold'
      · rfl
      · exact (hsingle id' m₂ mr hold' hawaits hawaits').symm
    · rcases Tables.get_set_eq_some hget' with ⟨rfl, rfl, rfl⟩ | hold'
      · exact hsingle id m₁ mr hold hawaits' hawaits
      · exact h.single s' id id' m₁ m₂ mr hold hold' hawaits hawaits'

variable {rAddr : List UInt8} {mr : UInt8} {m : Sent}

lemma Outbox.awaiting_eq_some (h : o.awaiting rAddr mr = some (msgid, m)) :
    o.get rAddr msgid = some m ∧ m.Awaits mr := by
  unfold Outbox.awaiting at h
  rcases Enumeration.asListed.mem_of_findSome? h with ⟨⟨id, m'⟩, hmem, hf⟩
  simp only at hf
  split at hf
  · next hawaits =>
      cases hf
      refine ⟨?_, hawaits⟩
      cases hlookup : o.lookup rAddr with
      | none => simp [hlookup] at hmem
      | some inner =>
        rw [hlookup] at hmem
        exact (o.get_eq_some_iff _ _ _).mpr ⟨inner, hlookup, AList.mem_lookup_iff.mpr hmem⟩
  · cases hf

lemma Outbox.awaiting_eq_none (h : o.awaiting rAddr mr = none)
    (hget : o.get rAddr msgid = some m) : ¬ m.Awaits mr := by
  intro hawaits
  rcases (o.get_eq_some_iff _ _ _).mp hget with ⟨inner, hlookup, hm⟩
  unfold Outbox.awaiting at h
  rw [hlookup] at h
  have hnone := (Enumeration.asListed.findSome?_eq_none_iff _ _).mp h ⟨msgid, m⟩
    (AList.mem_lookup_iff.mp hm)
  simp only [hawaits, if_true] at hnone
  cases hnone

lemma Outbox.report_none (h : o.awaiting rAddr mr = none) (delivered : Bool) :
    o.report rAddr mr delivered = (none, o) := by
  unfold Outbox.report
  rw [h]

lemma Outbox.report_some (h : o.awaiting rAddr mr = some (msgid, m)) (delivered : Bool) :
    o.report rAddr mr delivered =
      if (m.report mr delivered).Known then
        (some (rAddr, msgid, (m.report mr delivered).delivered),
          o.set rAddr msgid { m.report mr delivered with returned := true })
      else (none, o.set rAddr msgid (m.report mr delivered)) := by
  unfold Outbox.report
  rw [h]

variable {sr : SmsStatusReport}

lemma Outbox.step_report_final (o : Outbox) (order : IterOrder)
    {delivered : Bool} (h : srStToDelivered sr.st = some delivered) :
    o.step (.report order sr) = o.report (smsAddressToString sr.raddr) sr.mr delivered := by
  unfold Outbox.step
  simp only [h]

lemma Outbox.step_report_temporary (o : Outbox) (order : IterOrder)
    (h : srStToDelivered sr.st = none) : o.step (.report order sr) = (none, o) := by
  unfold Outbox.step
  simp only [h]

/-! ## Nodes and messages -/

/-- The node is that of the message. -/
structure IdTableNode.Holds (node : IdTableNode) (m : Sent) : Prop where
  total : node.totalMrs = m.total
  sent : node.sentMrs.toNat = m.added
  expiration : node.expiration = m.expiration
  mrs : ∀ mr : UInt8, node.mrs.test mr.toNat = decide (mr ∈ m.outstanding)
  deliverable : node.deliverable = m.delivered

lemma newIdTableNode_holds (total : UInt8) : (newIdTableNode total).Holds (Sent.new total) where
  total := rfl
  sent := rfl
  expiration := rfl
  mrs := by
    intro mr
    simp [newIdTableNode, Sent.new]
  deliverable := rfl

variable {node : IdTableNode}

lemma IdTableNode.Holds.add (h : node.Holds m)
    (hlt : m.added < m.total.toNat) (mr : UInt8) (expiration : ℤ) :
    IdTableNode.Holds { node with
      mrs := node.mrs.mark mr.toNat, expiration := expiration, sentMrs := node.sentMrs + 1 }
      (m.add mr expiration) where
  total := h.total
  sent := by
    have htotal := m.total.toNat_lt
    show (node.sentMrs + 1).toNat = m.added + 1
    rw [UInt8.toNat_add, h.sent, UInt8.toNat_one]
    omega
  expiration := rfl
  mrs := by
    intro mr'
    have hmr := mr.toNat_lt
    show (node.mrs.mark mr.toNat).test mr'.toNat = decide (mr' ∈ mr :: m.outstanding)
    rw [Bitmap.test_mark _ (by omega), h.mrs]
    simp [UInt8.toNat_inj]
  deliverable := h.deliverable

variable {mr : UInt8}

lemma IdTableNode.Holds.report (h : node.Holds m)
    (hnodup : m.outstanding.Nodup) (hmr : mr ∈ m.outstanding) (delivered : Bool) :
    IdTableNode.Holds { node.reported mr with deliverable := node.deliverable && delivered }
      (m.report mr delivered) where
  total := h.total
  sent := h.sent
  expiration := h.expiration
  mrs := by
    intro mr'
    have hlt := mr.toNat_lt
    show (node.mrs.toggle mr.toNat).test mr'.toNat = decide (mr' ∈ m.outstanding.erase mr)
    have herase : mr' ∈ m.outstanding.erase mr ↔ mr' ≠ mr ∧ mr' ∈ m.outstanding :=
      hnodup.mem_erase_iff
    rw [Bitmap.test_toggle _ (by omega), h.mrs]
    by_cases heq : mr' = mr
    · subst heq
      simp [herase, hmr]
    · simp [herase, heq, UInt8.toNat_inj]
  deliverable := by
    show (node.deliverable && delivered) = (m.reports ++ [delivered]).all id
    rw [h.deliverable]
    simp [Sent.delivered]

lemma IdTableNode.Holds.pending (h : node.Holds m) :
    node.mrs.pending = true ↔ m.outstanding ≠ [] := by
  rw [Bitmap.pending_iff]
  constructor
  · rintro ⟨i, hi, htest⟩ hempty
    have hnat : (UInt8.ofNat i).toNat = i := by
      rw [UInt8.toNat_ofNat']
      exact Nat.mod_eq_of_lt (by omega)
    have hmem := h.mrs (UInt8.ofNat i)
    rw [hnat, htest, hempty] at hmem
    simp at hmem
  · intro hne
    rcases exists_mem_of_ne_nil _ hne with ⟨mr, hmr⟩
    refine ⟨mr.toNat, ?_, ?_⟩
    · have hlt := mr.toNat_lt
      omega
    · rw [h.mrs]
      exact decide_eq_true hmr

lemma IdTableNode.Holds.deliverable_eq_false_iff
    (h : node.Holds m) : node.deliverable = false ↔ false ∈ m.reports := by
  rw [h.deliverable]
  simp [Sent.delivered]

/-! ## The assembly keeps the outbox -/

/-- The nodes are those of the messages under way. -/
structure Tracks (table : AssemblyTable) (o : Outbox) : Prop where
  noEmpty : table.NoEmpty
  node : ∀ s id m, o.get s id = some m → m.returned = false →
    ∃ node, table.get s id = some node ∧ node.Holds m
  sent : ∀ s id node, table.get s id = some node → ∃ m, o.get s id = some m ∧ m.returned = false

lemma tracks_empty : Tracks ∅ ∅ where
  noEmpty := Tables.noEmpty_empty
  node := by simp
  sent := by simp

variable {table : AssemblyTable}

variable {node : IdTableNode}

lemma Tracks.holds (h : Tracks table o) {id : MsgId} (hnode : table.get s id = some node) :
    ∃ m, o.get s id = some m ∧ m.returned = false ∧ node.Holds m := by
  rcases h.sent s id node hnode with ⟨m, hm, hret⟩
  rcases h.node s id m hm hret with ⟨node', hnode', hholds⟩
  rw [hnode] at hnode'
  cases hnode'
  exact ⟨m, hm, hret, hholds⟩

lemma Tracks.get_eq_none_iff (h : Tracks table o) (s : List UInt8) (id : MsgId) :
    table.get s id = none ↔ ∀ m, o.get s id = some m → m.returned = true := by
  constructor
  · intro hnone m hm
    by_contra hret
    rcases h.node s id m hm (Bool.not_eq_true _ ▸ hret) with ⟨node, hnode, -⟩
    rw [hnone] at hnode
    cases hnode
  · intro hall
    cases hget : table.get s id with
    | none => rfl
    | some node =>
      rcases h.sent s id node hget with ⟨m, hm, hret⟩
      rw [hall m hm] at hret
      cases hret

lemma Tracks.set (h : Tracks table o) (s : List UInt8)
    (msgid : MsgId) (hholds : node.Holds m)
    (hret : m.returned = false) : Tracks (table.set s msgid node) (o.set s msgid m) where
  noEmpty := h.noEmpty.set s msgid node
  node := by
    intro s' id m' hm' hret'
    by_cases hkey : (s', id) = (s, msgid)
    · cases hkey
      rw [Tables.get_set_self] at hm'
      cases hm'
      exact ⟨node, Tables.get_set_self _ _ _ _, hholds⟩
    · rw [Tables.get_set_of_ne _ _ hkey] at hm' ⊢
      exact h.node s' id m' hm' hret'
  sent := by
    intro s' id node' hnode'
    by_cases hkey : (s', id) = (s, msgid)
    · cases hkey
      exact ⟨m, Tables.get_set_self _ _ _ _, hret⟩
    · rw [Tables.get_set_of_ne _ _ hkey] at hnode' ⊢
      exact h.sent s' id node' hnode'

lemma Tracks.remove (h : Tracks table o) (s : List UInt8)
    (msgid : MsgId) (hret : m.returned = true) :
    Tracks (table.remove s msgid) (o.set s msgid m) where
  noEmpty := h.noEmpty.remove s msgid
  node := by
    intro s' id m' hm' hret'
    by_cases hkey : (s', id) = (s, msgid)
    · cases hkey
      rw [Tables.get_set_self] at hm'
      cases hm'
      rw [hret] at hret'
      cases hret'
    · rw [Tables.get_set_of_ne _ _ hkey] at hm'
      rw [Tables.get_remove_of_ne _ hkey]
      exact h.node s' id m' hm' hret'
  sent := by
    intro s' id node' hnode'
    by_cases hkey : (s', id) = (s, msgid)
    · cases hkey
      rw [Tables.get_remove_self] at hnode'
      cases hnode'
    · rw [Tables.get_remove_of_ne _ hkey] at hnode'
      rw [Tables.get_set_of_ne _ _ hkey]
      exact h.sent s' id node' hnode'

lemma Tracks.addFragment_to (h : Tracks table o) (hvalid : o.Valid) {dest : SmsAddress} {expiration
    : ℤ} {total : UInt8} (hfresh : ∀ id m, o.get (smsAddressToString dest) id = some m → ¬ m.Awaits
    mr) (hm : (o.get (smsAddressToString dest) msgid).getD (Sent.new total) = m) (hnode : (table.get
    (smsAddressToString dest) msgid).getD (newIdTableNode total) = node) (hholds : node.Holds m)
    (hret : m.returned = false) (hlt : m.added < m.total.toNat) (hnodup : m.outstanding.Nodup)
    (hmr : mr ∉ m.outstanding) (hsingle : ∀ id m' mr', o.get (smsAddressToString dest) id = some
    m' → m.Awaits mr' → m'.Awaits mr' → id = msgid) : Tracks (statusReportAssemblyAddFragment table
    msgid dest mr expiration total).1 (o.addFragment msgid (smsAddressToString dest) mr expiration
    total) ∧ (o.addFragment msgid (smsAddressToString dest) mr expiration total).Valid := by
  unfold statusReportAssemblyAddFragment Outbox.addFragment
  simp only [hm, hnode]
  refine ⟨h.set _ msgid (hholds.add hlt mr expiration) hret, ?_⟩
  refine hvalid.set hlt (nodup_cons.mpr ⟨hmr, hnodup⟩) ?_ ?_
  · intro hret'
    rw [show (m.add mr expiration).returned = m.returned from rfl, hret] at hret'
    cases hret'
  · -- the new reference is awaited nowhere else, the others are as before
    rintro id m' mr' hm' ⟨-, hmem⟩ hawaits
    rcases mem_cons.mp hmem with rfl | hmem
    · exact absurd hawaits (hfresh id m' hm')
    · exact hsingle id m' mr' hm' ⟨hret, hmem⟩ hawaits

lemma Tracks.addFragment (h : Tracks table o) (hvalid : o.Valid) {dest : SmsAddress} {expiration :
    ℤ} {total : UInt8} (hadmits : o.Admits (.addFragment msgid dest mr expiration total)) :
    Tracks (statusReportAssemblyAddFragment table msgid dest mr expiration total).1
    (o.addFragment msgid (smsAddressToString dest) mr expiration total) ∧
    (o.addFragment msgid (smsAddressToString dest) mr expiration total).Valid := by
  rcases hadmits with ⟨htotal, hfresh⟩
  rcases htotal with ⟨m, hm, -, hlt⟩ | ⟨hnone, hpos⟩
  · -- one more fragment of a message under way
    have hret : m.returned = false := by
      rw [← Bool.not_eq_true]
      intro hret
      have hcomplete := hvalid.complete _ _ m hm hret
      omega
    rcases h.node _ _ m hm hret with ⟨node, hnode, hholds⟩
    refine h.addFragment_to hvalid hfresh (by rw [hm]; rfl) (by rw [hnode]; rfl) hholds hret hlt
      (hvalid.nodup _ _ m hm) ?_ ?_
    · intro hmem
      exact hfresh msgid m hm ⟨hret, hmem⟩
    · intro id m' mr' hm' hawaits hawaits'
      exact (hvalid.single _ msgid id m m' mr' hm hm' hawaits hawaits').symm
  · -- the first fragment
    have hnonode : table.get (smsAddressToString dest) msgid = none := by
      rw [h.get_eq_none_iff]
      intro m hm
      rw [hnone] at hm
      cases hm
    have hm : (o.get (smsAddressToString dest) msgid).getD (Sent.new total) = Sent.new total := by
      rw [hnone]
      rfl
    have hnode : (table.get (smsAddressToString dest) msgid).getD (newIdTableNode total) =
        newIdTableNode total := by
      rw [hnonode]
      rfl
    refine h.addFragment_to hvalid hfresh hm hnode (newIdTableNode_holds total) rfl hpos
      nodup_nil not_mem_nil ?_
    rintro id m' mr' - ⟨-, hmem⟩
    cases hmem

lemma Tracks.settle {table : AssemblyTable} {o : Outbox} (h : Tracks table o) {straddr : List
    UInt8} {msgid : MsgId} {node : IdTableNode} {m : Sent} (hholds : node.Holds m) (hret :
    m.returned = false) (hle : m.added ≤ m.total.toNat) : (settleNode table straddr msgid node).out
    = (if m.Known then some (msgid, m.delivered) else none) ∧ Tracks (settleNode table straddr msgid
    node).table (o.set straddr msgid (if m.Known then { m with returned := true } else m)) := by
  have hunsentIff : node.sentMrs < node.totalMrs ↔ m.added < m.total.toNat := by
    rw [UInt8.lt_iff_toNat_lt, hholds.sent, hholds.total]
  unfold settleNode
  by_cases hunsent : node.sentMrs < node.totalMrs
  · -- not all of it has been sent
    have hunknown : ¬ m.Known := by
      rintro ⟨hall, -⟩
      have hlt := hunsentIff.mp hunsent
      omega
    rw [if_pos hunsent, if_neg hunknown, if_neg hunknown]
    exact ⟨rfl, h.set straddr msgid hholds hret⟩
  rw [if_neg hunsent]
  by_cases hexpects : (node.mrs.pending && node.deliverable) = true
  · -- more reports are expected, and none was a failure
    rcases Bool.and_eq_true_iff.mp hexpects with ⟨hpending, hdeliverable⟩
    have hunknown : ¬ m.Known := by
      rintro ⟨-, hfailed | hnone⟩
      · rw [hholds.deliverable_eq_false_iff.mpr hfailed] at hdeliverable
        cases hdeliverable
      · exact hholds.pending.mp hpending hnone
    rw [if_pos hexpects, if_neg hunknown, if_neg hunknown]
    exact ⟨rfl, h.set straddr msgid hholds hret⟩
  · have hknown : m.Known := by
      -- the code goes on just when the fate is known
      refine ⟨by rw [hunsentIff] at hunsent; omega, ?_⟩
      by_contra hneither
      rw [not_or] at hneither
      apply hexpects
      rw [Bool.and_eq_true_iff]
      refine ⟨hholds.pending.mpr hneither.2, ?_⟩
      rw [← Bool.not_eq_false]
      exact fun hfailed => hneither.1 (hholds.deliverable_eq_false_iff.mp hfailed)
    rw [if_neg hexpects, if_pos hknown, if_pos hknown, ← hholds.deliverable]
    exact ⟨rfl, h.remove straddr msgid rfl⟩

lemma Tracks.lookup_none (h : Tracks table o) {order : IterOrder} (hadmits : o.Admits (.report order
    sr)) (hfinal : srStToDelivered sr.st ≠ none) (hnone : o.awaiting (smsAddressToString sr.raddr)
    sr.mr = none) : lookupReported order table (smsAddressToString sr.raddr) sr.mr = none := by
  apply lookupReported_eq_none
  intro s id node hnode heligible
  rcases h.holds hnode with ⟨m, hm, hret, hholds⟩
  have hnotAwaits : ¬ m.Awaits sr.mr := by
    rcases heligible with rfl | ⟨habsent, hfuzzy⟩
    · exact Outbox.awaiting_eq_none hnone hm
    · rcases hadmits hfinal with ⟨id', m', hm', hret'⟩ | hno
      · -- the fuzzy search is made only where the address has no table
        rcases h.node _ id' m' hm' hret' with ⟨node', hnode', -⟩
        exact absurd ((h.noEmpty.mem_iff _).mpr ⟨id', node', hnode'⟩) habsent
      · exact hno s id m hm hfuzzy
  rw [hholds.mrs]
  exact decide_eq_false fun hmem => hnotAwaits ⟨hret, hmem⟩

lemma Tracks.lookup_some (h : Tracks table o) (hvalid : o.Valid) {rAddr : List UInt8} (hm : o.get
    rAddr msgid = some m) (hawaits : m.Awaits mr) (order : IterOrder) : ∃ node : IdTableNode,
    node.Holds m ∧ lookupReported order table rAddr mr = some (rAddr, msgid, node.reported mr) := by
  rcases h.node _ msgid m hm hawaits.1 with ⟨node, hnode, hholds⟩
  refine ⟨node, hholds, lookupReported_of_unique hnode ?_ (Or.inl rfl) ?_⟩
  · rw [hholds.mrs]
    exact decide_eq_true hawaits.2
  · intro s id node' hnode' hbit heligible
    rcases heligible with rfl | ⟨habsent, -⟩
    · refine ⟨rfl, ?_⟩
      rcases h.holds hnode' with ⟨m', hm', hret', hholds'⟩
      rw [hholds'.mrs] at hbit
      exact hvalid.single _ id msgid m' m mr hm' hm ⟨hret', of_decide_eq_true hbit⟩ hawaits
    · exact absurd ((h.noEmpty.mem_iff _).mpr ⟨msgid, node, hnode⟩) habsent

lemma Outbox.Valid.set_erase (h : o.Valid) {m' : Sent} (hm : o.get s msgid = some m)
    (hret : m.returned = false) (hadded : m'.added = m.added) (htotal : m'.total = m.total)
    (houtstanding : m'.outstanding = m.outstanding.erase mr) (hcomplete : m'.returned = true →
    m'.added = m'.total.toNat) : Outbox.Valid (o.set s msgid m') := by
  refine h.set ?_ ?_ hcomplete ?_
  · rw [hadded, htotal]
    exact h.added_le _ _ m hm
  · rw [houtstanding]
    exact (h.nodup _ _ m hm).erase _
  · rintro id m'' mr' hm'' ⟨-, hmem⟩ hawaits'
    rw [houtstanding] at hmem
    exact h.single _ id msgid m'' m mr' hm'' hm hawaits' ⟨hret, mem_of_mem_erase hmem⟩

lemma Tracks.report (h : Tracks table o) (hvalid : o.Valid) {order : IterOrder}
    (hadmits : o.Admits (.report order sr)) {delivered : Bool} (hfinal : srStToDelivered sr.st =
    some delivered) : (statusReportAssemblyReport order table sr).out =
    (o.report (smsAddressToString sr.raddr) sr.mr delivered).1.map Prod.snd ∧
    Tracks (statusReportAssemblyReport order table sr).table (o.report (smsAddressToString sr.raddr)
    sr.mr delivered).2 ∧ (o.report (smsAddressToString sr.raddr) sr.mr delivered).2.Valid := by
  cases hawaiting : o.awaiting (smsAddressToString sr.raddr) sr.mr with
  | none =>
    have hnone := h.lookup_none hadmits (by rw [hfinal]; simp) hawaiting
    have hdropped : statusReportAssemblyReport order table sr = ⟨none, table, none⟩ := by
      unfold statusReportAssemblyReport
      rw [hfinal]
      simp only [hnone]
    rw [hdropped, Outbox.report_none hawaiting]
    exact ⟨rfl, h, hvalid⟩
  | some found =>
    rcases found with ⟨msgid, m⟩
    rcases Outbox.awaiting_eq_some hawaiting with ⟨hm, hawaits⟩
    rcases h.lookup_some hvalid hm hawaits order with ⟨node, hholds, hlookup⟩
    have hnodup := hvalid.nodup _ _ m hm
    have hafter := hholds.report hnodup hawaits.2 delivered
    have hnode : (statusReportAssemblyReport order table sr) =
        settleNode table (smsAddressToString sr.raddr) msgid
          { node.reported sr.mr with deliverable := node.deliverable && delivered } := by
      unfold statusReportAssemblyReport
      rw [hfinal]
      simp only [hlookup]
      rfl
    rw [hnode]
    have hret : (m.report sr.mr delivered).returned = false := hawaits.1
    have hle : (m.report sr.mr delivered).added ≤ (m.report sr.mr delivered).total.toNat :=
      hvalid.added_le _ _ m hm
    rcases h.settle hafter hret hle with ⟨hout, htracks⟩
    rw [hout, Outbox.report_some hawaiting]
    by_cases hknown : (m.report sr.mr delivered).Known
    · rw [if_pos hknown] at htracks ⊢
      rw [if_pos hknown]
      exact ⟨rfl, htracks, hvalid.set_erase hm hawaits.1 rfl rfl rfl fun _ => hknown.1⟩
    · rw [if_neg hknown] at htracks ⊢
      rw [if_neg hknown]
      refine ⟨rfl, htracks, hvalid.set_erase hm hawaits.1 rfl rfl rfl fun hret' => ?_⟩
      rw [hret] at hret'
      cases hret'

/-! ## Every fate is told once -/

/-- The fate of the message has been told. -/
def Outbox.Told (o : Outbox) (key : List UInt8 × MsgId) : Prop :=
  ∃ m, o.get key.1 key.2 = some m ∧ m.returned = true

/-- The message that an answer is about. -/
def toldKey (answer : Option (List UInt8 × MsgId × Bool)) : Option (List UInt8 × MsgId) :=
  answer.map fun r => (r.1, r.2.1)

/-- Writing a message keeps what has been told, if it keeps what has been told of it. -/
lemma Outbox.Told.set {key : List UInt8 × MsgId} (h : o.Told key) (s : List UInt8) (id : MsgId)
    (hkeep : ∀ m', o.get s id = some m' → m'.returned = true → m.returned = true) :
    Outbox.Told (o.set s id m) key := by
  rcases key with ⟨s', id'⟩
  rcases h with ⟨m', hm', hret⟩
  by_cases hkey : (s', id') = (s, id)
  · cases hkey
    exact ⟨m, Tables.get_set_self _ _ _ _, hkeep m' hm' hret⟩
  · exact ⟨m', by rw [Tables.get_set_of_ne _ _ hkey]; exact hm', hret⟩

lemma Outbox.report_told (o : Outbox) (rAddr : List UInt8) (mr : UInt8) (delivered : Bool) :
    (∀ key, o.Told key → (o.report rAddr mr delivered).2.Told key) ∧ ∀ key, toldKey (o.report rAddr
    mr delivered).1 = some key → ¬ o.Told key ∧ (o.report rAddr mr delivered).2.Told key := by
  cases hawaiting : o.awaiting rAddr mr with
  | none =>
    rw [Outbox.report_none hawaiting]
    exact ⟨fun _ h => h, fun _ h => by cases h⟩
  | some found =>
    rcases found with ⟨msgid, m⟩
    rcases Outbox.awaiting_eq_some hawaiting with ⟨hm, hret, -⟩
    -- the message that awaits the report has not been told of
    have hnot : ∀ m', o.get rAddr msgid = some m' → m'.returned = false := by
      intro m' hm'
      rw [hm] at hm'
      cases hm'
      exact hret
    rw [Outbox.report_some hawaiting]
    by_cases hknown : (m.report mr delivered).Known
    · rw [if_pos hknown]
      constructor
      · intro key h
        exact h.set _ _ fun _ _ _ => rfl
      · intro key h
        cases h
        refine ⟨?_, ⟨_, Tables.get_set_self _ _ _ _, rfl⟩⟩
        rintro ⟨m', hm', hret'⟩
        rw [hnot m' hm'] at hret'
        cases hret'
    · rw [if_neg hknown]
      constructor
      · intro key h
        apply h.set
        intro m' hm' hret'
        rw [hnot m' hm'] at hret'
        cases hret'
      · intro key h
        cases h

/-- What has been told stays told, and an answer is about a message of which nothing has been
told before. -/
lemma Outbox.step_told (o : Outbox) (c : SrCall) : (∀ key, o.Told key → (o.step c).2.Told key) ∧
    ∀ key, toldKey (o.step c).1 = some key → ¬ o.Told key ∧ (o.step c).2.Told key := by
  cases c with
  | addFragment msgid dest mr expiration total =>
    constructor
    · intro key h
      apply h.set
      intro m' hm' hret
      rw [hm']
      exact hret
    · intro key h
      cases h
  | report order sr =>
    cases hst : srStToDelivered sr.st with
    | none =>
      rw [o.step_report_temporary order hst]
      exact ⟨fun _ h => h, fun _ h => by cases h⟩
    | some delivered =>
      rw [o.step_report_final order hst]
      exact o.report_told _ _ _

lemma Outbox.told_once (cs : List SrCall) (o : Outbox) : ((Machine.run Outbox.step o cs).1.filterMap
    toldKey).Nodup ∧ ∀ key ∈ (Machine.run Outbox.step o cs).1.filterMap toldKey, ¬ o.Told key := by
  induction cs generalizing o with
  | nil => simp
  | cons c cs ih =>
    rcases o.step_told c with ⟨hstay, htell⟩
    rcases ih (o.step c).2 with ⟨hnodup, hnew⟩
    rw [Machine.run_cons]
    simp only [filterMap_cons]
    cases hkey : toldKey (o.step c).1 with
    | none => exact ⟨hnodup, fun key hmem htold => hnew key hmem (hstay key htold)⟩
    | some key =>
      rcases htell key hkey with ⟨hfresh, htold⟩
      refine ⟨nodup_cons.mpr ⟨fun hmem => hnew key hmem htold, hnodup⟩, ?_⟩
      intro key' hmem
      rcases mem_cons.mp hmem with rfl | hmem
      · exact hfresh
      · exact fun htold' => hnew key' hmem (hstay key' htold')

/-! ## Runs -/

lemma Tracks.step {table : AssemblyTable} {o : Outbox} (h : Tracks table o ∧ o.Valid) {c : SrCall}
    (hadmits : o.Admits c) : (statusReportStep table c).1 = (o.step c).1.map Prod.snd ∧
    Tracks (statusReportStep table c).2 (o.step c).2 ∧ (o.step c).2.Valid := by
  cases c with
  | addFragment msgid dest mr expiration total =>
    exact ⟨rfl, h.1.addFragment h.2 hadmits⟩
  | report order sr =>
    cases hst : srStToDelivered sr.st with
    | none =>
      rw [o.step_report_temporary order hst]
      have hdropped : statusReportAssemblyReport order table sr = ⟨none, table, none⟩ := by
        unfold statusReportAssemblyReport
        rw [hst]
      have hstep : statusReportStep table (.report order sr) = (none, table) := by
        unfold statusReportStep
        simp only [hdropped]
      rw [hstep]
      exact ⟨rfl, h⟩
    | some delivered =>
      rw [o.step_report_final order hst]
      exact h.1.report h.2 hadmits hst

/-- Over every run, the assembly tells the fate of a message when it is known, to the report
that makes it known, and once: whatever the order in which messages are sent and
reported, and whatever the order of the hash tables. -/
theorem status_report_run (cs : List SrCall) (h : Machine.AllSteps Outbox.step Outbox.Admits ∅ cs) :
    (Machine.run statusReportStep ∅ cs).1 = (Machine.run Outbox.step ∅ cs).1.map (Option.map
    Prod.snd) ∧ Tracks (Machine.run statusReportStep ∅ cs).2 (Machine.run Outbox.step ∅ cs).2 ∧
    ((Machine.run Outbox.step ∅ cs).1.filterMap toldKey).Nodup := by
  have hsim : ∀ (o : Outbox) (table : AssemblyTable) c, Tracks table o ∧ o.Valid → o.Admits c →
      (statusReportStep table c).1 = (o.step c).1.map Prod.snd ∧
        Tracks (statusReportStep table c).2 (o.step c).2 ∧ (o.step c).2.Valid :=
    fun o table c hR hP => Tracks.step hR hP
  have hrun := Machine.run_simulation_map hsim ⟨tracks_empty, Outbox.valid_empty⟩ h
  exact ⟨hrun.1, hrun.2.1, (Outbox.told_once cs ∅).1⟩

/-- One call that the callers and the networks keep to is checked on the entries. -/
instance Outbox.decidableAdmits (o : Outbox) : ∀ c, Decidable (o.Admits c)
  | .addFragment msgid dest mr _ total =>
    have : Decidable (∃ m, o.get (smsAddressToString dest) msgid = some m ∧ m.total = total ∧
        m.added < m.total.toNat) :=
      decidable_of_iff (∃ m ∈ o.get (smsAddressToString dest) msgid, m.total = total ∧
        m.added < m.total.toNat) Iff.rfl
    have : Decidable (o.get (smsAddressToString dest) msgid = none) :=
      decidable_of_iff _ Option.isNone_iff_eq_none
    inferInstanceAs (Decidable (((∃ m, o.get (smsAddressToString dest) msgid = some m ∧
        m.total = total ∧ m.added < m.total.toNat) ∨
      o.get (smsAddressToString dest) msgid = none ∧ 0 < total.toNat) ∧
    ∀ id m, o.get (smsAddressToString dest) id = some m → ¬ m.Awaits mr))
  | .report _ sr =>
    inferInstanceAs (Decidable (srStToDelivered sr.st ≠ none →
      (∃ id m, o.get (smsAddressToString sr.raddr) id = some m ∧ m.returned = false) ∨
      ∀ s id m, o.get s id = some m → FuzzyMatch s (smsAddressToString sr.raddr) →
        ¬ m.Awaits sr.mr))

/-- Two fragments sent and reported, the second of them as failed. -/
def sampleRun : List SrCall :=
  [.addFragment (Buf.zero 20) sampleInternational 1 0 2,
    .addFragment (Buf.zero 20) sampleInternational 2 0 2,
    .report IterOrder.asListed (sampleReport sampleInternational 2 0x00),
    .report IterOrder.asListed (sampleReport sampleInternational 1 0x41)]

theorem status_report_run_failed :
    (Machine.run statusReportStep ∅ sampleRun).1 = [none, none, none, some (Buf.zero 20, false)] :=
  (status_report_run sampleRun (by decide)).1.trans (by decide)

/-- As `Admits`, but a final report may come for any fragment sent that has not been
reported. -/
def Outbox.AdmitsLate (o : Outbox) : SrCall → Prop
  | .addFragment msgid dest mr expiration total =>
    o.Admits (.addFragment msgid dest mr expiration total) ∧
      ∀ id m, o.get (smsAddressToString dest) id = some m → mr ∉ m.outstanding
  | .report _ sr =>
    srStToDelivered sr.st ≠ none →
      ∃ id m, o.get (smsAddressToString sr.raddr) id = some m ∧ sr.mr ∈ m.outstanding

instance Outbox.decidableAdmitsLate (o : Outbox) : ∀ c, Decidable (o.AdmitsLate c)
  | .addFragment msgid dest mr expiration total =>
    inferInstanceAs (Decidable (o.Admits (.addFragment msgid dest mr expiration total) ∧
      ∀ id m, o.get (smsAddressToString dest) id = some m → mr ∉ m.outstanding))
  | .report _ sr =>
    inferInstanceAs (Decidable (srStToDelivered sr.st ≠ none →
      ∃ id m, o.get (smsAddressToString sr.raddr) id = some m ∧ sr.mr ∈ m.outstanding))

/-- The failure of its first fragment has told the fate of a message to +358401234567. The
report for the second fragment then goes to a message to 0401234567 that has the same
reference, and tells a fate that no report was about. -/
theorem status_report_run_late : ¬ ∀ cs, Machine.AllSteps Outbox.step Outbox.AdmitsLate ∅ cs →
    (Machine.run statusReportStep ∅ cs).1 =
    (Machine.run Outbox.step ∅ cs).1.map (Option.map Prod.snd) := by
  intro h
  have hrun := h
    [.addFragment (Buf.zero 20) sampleInternational 1 0 2,
      .addFragment (Buf.zero 20) sampleInternational 2 0 2,
      .addFragment ⟨List.replicate 20 1, by decide⟩ sampleNational 2 0 1,
      .report IterOrder.asListed (sampleReport sampleInternational 1 0x41),
      .report IterOrder.asListed (sampleReport sampleInternational 2 0x00)] (by decide)
  exact absurd hrun (by decide)

end Phonelets.Sms
