import Mathlib.Data.List.Nodup
import Phonelets.Lib.Bitmap
import Phonelets.Lib.Machine
import Phonelets.Lib.Numbered
import Phonelets.Sms.Types

/-! # Assembling fragmented messages

`struct sms_assembly` keeps one node for each half-assembled message; a fragment is
put into the list of its node at the position that the bits before its own in the
node's bitmap tell. Seen from outside this is a map from senders and references to
the fragments received so far (`Pending`): `Represents` ties the two together and is
kept by both operations.
-/

namespace Phonelets.Sms

open List Option

/-- `struct sms_assembly_node`. -/
structure AssemblyNode where
  addr : SmsAddress
  ts : ℤ
  fragmentList : List Sms
  ref : UInt16
  maxFragments : UInt8
  numFragments : UInt8
  bitmap : Bitmap 32 8

/-- What a call does with the backup files of a node. -/
inductive BackupOp where
  | store (node : AssemblyNode) (sms : Sms) (seq : UInt8)
  | free (node : AssemblyNode)

/-- What `sms_assembly_add_fragment_backup` returns, the list it leaves, and the
backup operation it does. -/
structure AddResult where
  completed : Option (List Sms)
  assemblyList : List AssemblyNode
  backup : Option BackupOp

/-- `g_slist_insert`; a position past the end appends. -/
def gSlistInsert {α : Type} (l : List α) (x : α) (position : ℕ) : List α :=
  l.take position ++ x :: l.drop position

/-- The tests at the head of the loop of `sms_assembly_add_fragment_backup`. -/
def AssemblyNode.isFor (node : AssemblyNode) (addr : SmsAddress) (ref : UInt16) : Bool :=
  node.addr.numberType == addr.numberType && node.addr.numberingPlan == addr.numberingPlan &&
    node.addr.address == addr.address && ref == node.ref

/-- The loop itself: the first node for the sender and the reference, between the
nodes before it and those after it. -/
def findNode (addr : SmsAddress) (ref : UInt16) :
    List AssemblyNode → Option (List AssemblyNode × AssemblyNode × List AssemblyNode)
  | [] => none
  | node :: l =>
    if node.isFor addr ref then some ([], node, l)
    else (findNode addr ref l).map fun r => (node :: r.1, r.2.1, r.2.2)

/-- `g_new0` and the assignments after it. -/
def newNode (ts : ℤ) (addr : SmsAddress) (ref : UInt16) (max : UInt8) : AssemblyNode :=
  ⟨addr, ts, [], ref, max, 0, Bitmap.empty⟩

/-- The part after the label `out`. -/
def insertFragment (before : List AssemblyNode) (node : AssemblyNode) (after : List AssemblyNode)
    (sms : Sms) (seq : UInt8) (position : ℕ) : AddResult :=
  let node := { node with
    fragmentList := gSlistInsert node.fragmentList sms position
    bitmap := node.bitmap.mark seq.toNat
    numFragments := node.numFragments + 1 }
  if node.numFragments < node.maxFragments then
    ⟨none, before ++ node :: after, some (.store node sms seq)⟩
  else ⟨some node.fragmentList, before ++ after, some (.free node)⟩

def smsAssemblyAddFragmentBackup (assemblyList : List AssemblyNode) (sms : Sms) (ts : ℤ)
    (addr : SmsAddress) (ref : UInt16) (max seq : UInt8) : AddResult :=
  match findNode addr ref assemblyList with
  | some (before, node, after) =>
    if max ≠ node.maxFragments then ⟨none, assemblyList, none⟩
    else if node.bitmap.test seq.toNat then ⟨none, assemblyList, none⟩
    else insertFragment before node after sms seq (node.bitmap.rank seq.toNat)
  | none => insertFragment [] (newNode ts addr ref max) assemblyList sms seq 0

/-- `sms_assembly_expire`: the nodes that stay, and those that go. -/
def smsAssemblyExpire (before : ℤ) : List AssemblyNode → List AssemblyNode × List BackupOp
  | [] => ([], [])
  | node :: cur =>
    let r := smsAssemblyExpire before cur
    if node.ts > before then (node :: r.1, r.2) else (r.1, .free node :: r.2)

/-! ## Calls -/

/-- The arguments of `sms_assembly_add_fragment`. The sequence number is between 1
and `max`: `sms_extract_concatenation` returns no other. -/
structure Fragment where
  sms : Sms
  ts : ℤ
  addr : SmsAddress
  ref : UInt16
  max : UInt8
  seq : UInt8
  seq_pos : 1 ≤ seq.toNat
  seq_le : seq.toNat ≤ max.toNat

inductive AssemblyCall where
  | addFragment (f : Fragment)
  | expire (before : ℤ)

def addFragment (assemblyList : List AssemblyNode) (f : Fragment) : AddResult :=
  smsAssemblyAddFragmentBackup assemblyList f.sms f.ts f.addr f.ref f.max f.seq

/-- One call on the list of nodes; `expire` returns nothing. -/
def assemblyStep (assemblyList : List AssemblyNode) :
    AssemblyCall → Option (List Sms) × List AssemblyNode
  | .addFragment f =>
    ((addFragment assemblyList f).completed, (addFragment assemblyList f).assemblyList)
  | .expire before => (none, (smsAssemblyExpire before assemblyList).1)

/-! ## What an assembly is for -/

/-- What tells two messages apart. -/
abbrev MessageKey := SmsAddress × UInt16

def AssemblyNode.key (node : AssemblyNode) : MessageKey := (node.addr, node.ref)

def Fragment.key (f : Fragment) : MessageKey := (f.addr, f.ref)

/-- A message of which not every fragment has come: for each sequence number the
copy received first. -/
structure Partial where
  max : UInt8
  ts : ℤ
  received : ℕ → Option Sms

/-- The messages under way. -/
abbrev Pending := MessageKey → Option Partial

/-- The copies of the fragments `1..max` in order, those that are there. -/
def Partial.copies (p : Partial) : List Sms := (List.range' 1 p.max.toNat).filterMap p.received

/-- All fragments are there. -/
def Partial.Complete (p : Partial) : Prop := ∀ s ∈ List.range' 1 p.max.toNat, (p.received s).isSome

instance (p : Partial) : Decidable p.Complete :=
  inferInstanceAs (Decidable (∀ s ∈ List.range' 1 p.max.toNat, (p.received s).isSome))

def Partial.receive (p : Partial) (seq : ℕ) (sms : Sms) : Partial :=
  { p with received := Function.update p.received seq (some sms) }

/-- The message that the fragment is of, as far as it has come: a new one if there
is none under way. -/
def Pending.partialOf (a : Pending) (f : Fragment) : Partial :=
  (a f.key).getD ⟨f.max, f.ts, fun _ => none⟩

/-- The fragment is ignored: it is of a message with another total, or a duplicate. -/
def Pending.Ignores (a : Pending) (f : Fragment) : Prop :=
  f.max ≠ (a.partialOf f).max ∨ ((a.partialOf f).received f.seq.toNat).isSome

instance (a : Pending) (f : Fragment) : Decidable (a.Ignores f) :=
  inferInstanceAs (Decidable (_ ∨ _))

/-- The message with the fragment added. -/
def Pending.received (a : Pending) (f : Fragment) : Partial :=
  (a.partialOf f).receive f.seq.toNat f.sms

/-- The fragment is the last one missing. -/
def Pending.LastMissing (a : Pending) (f : Fragment) : Prop :=
  ¬ a.Ignores f ∧ (a.received f).Complete

instance (a : Pending) (f : Fragment) : Decidable (a.LastMissing f) :=
  inferInstanceAs (Decidable (_ ∧ _))

/-- One call on the messages under way. -/
def Pending.step (a : Pending) : AssemblyCall → Option (List Sms) × Pending
  | .addFragment f =>
    if a.Ignores f then (none, a)
    else if (a.received f).Complete then
      (some (a.received f).copies, Function.update a f.key none)
    else (none, Function.update a f.key (some (a.received f)))
  | .expire before => (none, fun k => (a k).filter fun p => p.ts > before)

/-! ## The nodes represent the messages under way -/

/-- The node holds what has come of the message: the bitmap tells which fragments,
the list has their copies in the order of the sequence numbers. -/
structure AssemblyNode.Holds (node : AssemblyNode) (p : Partial) : Prop where
  max : node.maxFragments = p.max
  ts : node.ts = p.ts
  bitmap : ∀ s, node.bitmap.test s = (p.received s).isSome
  range : ∀ s, (p.received s).isSome → 1 ≤ s ∧ s ≤ p.max.toNat
  list : node.fragmentList = p.copies
  num : node.numFragments.toNat = node.fragmentList.length

structure Represents (assemblyList : List AssemblyNode) (a : Pending) : Prop where
  nodup : (assemblyList.map AssemblyNode.key).Nodup
  node : ∀ n ∈ assemblyList, ∃ p, a n.key = some p ∧ n.Holds p ∧ ¬ p.Complete
  all : ∀ k, (a k).isSome → ∃ n ∈ assemblyList, n.key = k

lemma AssemblyNode.isFor_iff (node : AssemblyNode) (addr : SmsAddress) (ref : UInt16) :
    node.isFor addr ref = true ↔ node.key = (addr, ref) := by
  rcases addr with ⟨numberType, numberingPlan, address⟩
  simp only [AssemblyNode.isFor, AssemblyNode.key, Bool.and_eq_true, beq_iff_eq, Prod.mk.injEq]
  constructor
  · rintro ⟨⟨⟨rfl, rfl⟩, rfl⟩, rfl⟩
    exact ⟨rfl, rfl⟩
  · rintro ⟨haddr, rfl⟩
    rw [haddr]
    exact ⟨⟨⟨rfl, rfl⟩, rfl⟩, rfl⟩

variable {l before after : List AssemblyNode} {node : AssemblyNode}

lemma findNode_some {addr : SmsAddress} {ref : UInt16} (h : findNode addr ref l = some (before, node, after)) :
    l = before ++ node :: after ∧ node.key = (addr, ref) := by
  induction l generalizing before with
  | nil => cases h
  | cons n l ih =>
    unfold findNode at h
    by_cases hn : n.isFor addr ref = true
    · rw [if_pos hn] at h
      cases h
      exact ⟨rfl, (AssemblyNode.isFor_iff _ addr ref).mp hn⟩
    · rw [if_neg hn] at h
      rcases map_eq_some_iff.mp h with ⟨⟨b, m, c⟩, hfind, heq⟩
      cases heq
      rcases ih hfind with ⟨hl, hkey⟩
      exact ⟨by rw [hl, cons_append], hkey⟩

lemma findNode_none {addr : SmsAddress} {ref : UInt16}
    (h : findNode addr ref l = none) : ∀ n ∈ l, n.key ≠ (addr, ref) := by
  induction l with
  | nil => simp
  | cons n l ih =>
    unfold findNode at h
    by_cases hn : n.isFor addr ref = true
    · rw [if_pos hn] at h
      cases h
    · rw [if_neg hn] at h
      have hrest := ih (map_eq_none_iff.mp h)
      intro m hm
      rcases mem_cons.mp hm with rfl | hm
      · exact fun hkey => hn ((m.isFor_iff addr ref).mpr hkey)
      · exact hrest m hm

/-! ### The copies in order -/

lemma Partial.complete_iff (p : Partial) : p.Complete ↔ p.copies.length = p.max.toNat :=
  Numbered.complete_iff p.max.toNat p.received

lemma Partial.length_copies_le (p : Partial) : p.copies.length ≤ p.max.toNat :=
  Numbered.length_copies_le p.max.toNat p.received

variable {p : Partial}

lemma AssemblyNode.Holds.rank (h : node.Holds p) {seq : ℕ} (hpos : 1 ≤ seq) :
    node.bitmap.rank seq = ((List.range' 1 (seq - 1)).filterMap p.received).length := by
  have hzero : node.bitmap.test 0 = false := by
    rw [h.bitmap 0]
    cases hrec : p.received 0 with
    | none => rfl
    | some sms =>
      have hrange := (h.range 0 (by rw [hrec]; rfl)).1
      omega
  rw [Bitmap.rank_eq, length_filterMap_eq_countP, range_eq_range']
  have hsplit : List.range' 0 seq = 0 :: List.range' 1 (seq - 1) := by
    conv_lhs => rw [show seq = (seq - 1) + 1 by omega]
    rw [range'_succ]
  rw [hsplit, countP_cons_of_neg (by simp [hzero])]
  apply countP_congr
  intro s _
  rw [h.bitmap s]

lemma AssemblyNode.Holds.insert (h : node.Holds p) {seq : ℕ}
    (hpos : 1 ≤ seq) (hle : seq ≤ p.max.toNat) (hnone : p.received seq = none) (sms : Sms) :
    gSlistInsert node.fragmentList sms (node.bitmap.rank seq) = (p.receive seq sms).copies := by
  rw [h.rank hpos, h.list]
  exact (Numbered.copies_update hpos hle hnone sms).symm

/-! ### The node of the fragment -/

lemma newNode_holds (ts : ℤ) (addr : SmsAddress) (ref : UInt16) (max : UInt8) :
    (newNode ts addr ref max).Holds ⟨max, ts, fun _ => none⟩ where
  max := rfl
  ts := rfl
  bitmap := by
    intro s
    exact Bitmap.test_empty s
  range := by
    intro s hs
    cases hs
  list := by simp [newNode, Partial.copies]
  num := rfl

lemma AssemblyNode.Holds.add (h : node.Holds p) {seq : UInt8}
    (hpos : 1 ≤ seq.toNat) (hle : seq.toNat ≤ p.max.toNat) (hnone : p.received seq.toNat = none)
    (sms : Sms) :
    AssemblyNode.Holds { node with
      fragmentList := gSlistInsert node.fragmentList sms (node.bitmap.rank seq.toNat)
      bitmap := node.bitmap.mark seq.toNat
      numFragments := node.numFragments + 1 } (p.receive seq.toNat sms) where
  max := h.max
  ts := h.ts
  bitmap := by
    intro s
    have hseq := seq.toNat_lt
    show (node.bitmap.mark seq.toNat).test s = (Function.update p.received seq.toNat (some sms) s).isSome
    rw [Bitmap.test_mark _ (by omega), h.bitmap s]
    by_cases hs : s = seq.toNat
    · simp [hs]
    · simp [hs]
  range := by
    intro s hs
    by_cases hseq : s = seq.toNat
    · rw [hseq]
      exact ⟨hpos, hle⟩
    · have hold : (p.received s).isSome := by
        simpa [Partial.receive, hseq] using hs
      exact h.range s hold
  list := h.insert hpos hle hnone sms
  num := by
    -- the count stays in one octet: it never exceeds the total
    have hnew : (p.receive seq.toNat sms).copies.length = p.copies.length + 1 :=
      Numbered.length_copies_update hpos hle hnone sms
    have hmax := (p.receive seq.toNat sms).length_copies_le
    have hlt := (p.receive seq.toNat sms).max.toNat_lt
    have hnum := h.num
    rw [h.list] at hnum
    show (node.numFragments + 1).toNat =
      (gSlistInsert node.fragmentList sms (node.bitmap.rank seq.toNat)).length
    rw [h.insert hpos hle hnone sms, hnew, UInt8.toNat_add, hnum]
    show (p.copies.length + 1) % 256 = _
    omega

lemma AssemblyNode.Holds.numFragments_lt_iff
    (h : node.Holds p) : node.numFragments < node.maxFragments ↔ ¬ p.Complete := by
  have hle := p.length_copies_le
  have hnum := h.num
  rw [h.list] at hnum
  rw [UInt8.lt_iff_toNat_lt, hnum, h.max, p.complete_iff]
  omega

/-- After `out`: the message is handed over and its files are removed when the fragment
completes it; otherwise it stays in its place with the fragment added and stored. -/
lemma insertFragment_spec (h : node.Holds p) {seq : UInt8} (hpos : 1 ≤ seq.toNat) (hle : seq.toNat ≤
    p.max.toNat) (hnone : p.received seq.toNat = none) (before after : List AssemblyNode)
    (sms : Sms) : ∃ node', node'.key = node.key ∧ node'.Holds (p.receive seq.toNat sms) ∧
    insertFragment before node after sms seq (node.bitmap.rank seq.toNat) = if
    (p.receive seq.toNat sms).Complete then ⟨some (p.receive seq.toNat sms).copies, before ++ after,
    some (.free node')⟩ else ⟨none, before ++ node' :: after, some (.store node' sms seq)⟩ := by
  have hadd := h.add hpos hle hnone sms
  refine ⟨_, by rfl, hadd, ?_⟩
  have hlt := hadd.numFragments_lt_iff
  unfold insertFragment
  simp only at hlt ⊢
  by_cases hc : (p.receive seq.toNat sms).Complete
  · rw [if_neg fun hmore => hlt.mp hmore hc, if_pos hc]
    rw [← hadd.list]
  · rw [if_pos (hlt.mpr hc), if_neg hc]

/-! ### Putting a node in and taking it out -/

variable {a : Pending}

lemma Represents.insert {k : MessageKey} (h : Represents (before ++ after) (Function.update a k
    none)) {node : AssemblyNode} {p : Partial} (hkey : node.key = k) (hnode : node.Holds p) (hpart :
    ¬ p.Complete) : Represents (before ++ node :: after) (Function.update a k (some p)) := by
  have hother : ∀ n ∈ before ++ after, n.key ≠ k := by
    intro n hn hk
    rcases h.node n hn with ⟨q, hq, -⟩
    rw [hk, Function.update_self] at hq
    cases hq
  constructor
  · have hperm : ((before ++ node :: after).map AssemblyNode.key).Perm
        (node.key :: (before ++ after).map AssemblyNode.key) :=
      (perm_middle (a := node)).map AssemblyNode.key
    rw [hperm.nodup_iff, nodup_cons]
    refine ⟨?_, h.nodup⟩
    intro hmem
    rcases mem_map.mp hmem with ⟨n, hn, hnk⟩
    exact hother n hn (hnk.trans hkey)
  · intro n hn
    rcases mem_cons.mp (perm_middle.mem_iff.mp hn) with rfl | hn
    · exact ⟨p, by rw [hkey, Function.update_self], hnode, hpart⟩
    · rcases h.node n hn with ⟨q, hq, hholds⟩
      have hk := hother n hn
      rw [Function.update_of_ne hk] at hq
      exact ⟨q, by rw [Function.update_of_ne hk, hq], hholds⟩
  · intro k' hk'
    by_cases hkk : k' = k
    · exact ⟨node, by simp, hkey.trans hkk.symm⟩
    · rw [Function.update_of_ne hkk] at hk'
      rcases h.all k' (by rw [Function.update_of_ne hkk]; exact hk') with ⟨n, hn, hnk⟩
      exact ⟨n, perm_middle.mem_iff.mpr (mem_cons_of_mem _ hn), hnk⟩

lemma Represents.remove (h : Represents (before ++ node :: after) a) :
    Represents (before ++ after) (Function.update a node.key none) := by
  have hperm : ((before ++ node :: after).map AssemblyNode.key).Perm
      (node.key :: (before ++ after).map AssemblyNode.key) :=
    (perm_middle (a := node)).map AssemblyNode.key
  have hnodup := hperm.nodup_iff.mp h.nodup
  rcases nodup_cons.mp hnodup with ⟨hnotmem, hrest⟩
  have hother : ∀ n ∈ before ++ after, n.key ≠ node.key := by
    intro n hn hk
    exact hnotmem (mem_map.mpr ⟨n, hn, hk⟩)
  constructor
  · exact hrest
  · intro n hn
    rw [Function.update_of_ne (hother n hn)]
    exact h.node n (perm_middle.mem_iff.mpr (mem_cons_of_mem _ hn))
  · intro k hk
    by_cases hkk : k = node.key
    · rw [hkk, Function.update_self] at hk
      cases hk
    · rw [Function.update_of_ne hkk] at hk
      rcases h.all k hk with ⟨n, hn, hnk⟩
      rcases mem_cons.mp (perm_middle.mem_iff.mp hn) with rfl | hn
      · exact absurd hnk.symm hkk
      · exact ⟨n, hn, hnk⟩

lemma Represents.absent (h : Represents l a) {k : MessageKey}
    (hk : ∀ n ∈ l, n.key ≠ k) : a k = none := by
  rw [← not_isSome_iff_eq_none]
  intro hsome
  rcases h.all k hsome with ⟨n, hn, hnk⟩
  exact hk n hn hnk

lemma filter_ne_key {before after : List AssemblyNode} {k : MessageKey} (h : ∀ n ∈ before ++ after,
    n.key ≠ k) : (before ++ after).filter (fun n => n.key ≠ k) = before ++ after := by
  apply filter_eq_self.mpr
  intro n hn
  simpa using h n hn

/-! ## One call -/

/-- The first fragment of a message goes into a new node in front of the list. -/
lemma addFragment_new (h : Represents l a) {f : Fragment} (hfind : findNode f.addr f.ref l = none) :
    a.partialOf f = ⟨f.max, f.ts, fun _ => none⟩ ∧ a f.key = none ∧ addFragment l f = if a.Ignores f
    then ⟨none, l, none⟩ else insertFragment [] (newNode f.ts f.addr f.ref f.max) l f.sms f.seq
    ((newNode f.ts f.addr f.ref f.max).bitmap.rank f.seq.toNat) := by
  have habsent : a f.key = none := h.absent (findNode_none hfind)
  have hpart : a.partialOf f = ⟨f.max, f.ts, fun _ => none⟩ := by
    rw [Pending.partialOf, habsent]
    rfl
  have hacc : ¬ a.Ignores f := by
    unfold Pending.Ignores
    rw [hpart]
    simp
  have hrank : (newNode f.ts f.addr f.ref f.max).bitmap.rank f.seq.toNat = 0 := by
    rw [(newNode_holds f.ts f.addr f.ref f.max).rank f.seq_pos]
    simp
  refine ⟨hpart, habsent, ?_⟩
  unfold addFragment smsAssemblyAddFragmentBackup
  rw [hfind, if_neg hacc, hrank]

lemma addFragment_held {f : Fragment} (hholds : node.Holds (a.partialOf f))
    (hfind : findNode f.addr f.ref (before ++ node :: after) = some (before, node, after)) :
    addFragment (before ++ node :: after) f = if a.Ignores f then ⟨none, before ++ node :: after,
    none⟩ else insertFragment before node after f.sms f.seq (node.bitmap.rank f.seq.toNat) := by
  have hmax : (f.max ≠ node.maxFragments) = (f.max ≠ (a.partialOf f).max) := by rw [hholds.max]
  have htest : node.bitmap.test f.seq.toNat = ((a.partialOf f).received f.seq.toNat).isSome :=
    hholds.bitmap _
  unfold addFragment smsAssemblyAddFragmentBackup
  rw [hfind]
  -- another number of fragments, or a sequence number that is there
  simp only [hmax, htest]
  by_cases h1 : f.max ≠ (a.partialOf f).max
  · rw [if_pos h1, if_pos (show a.Ignores f from .inl h1)]
  · rw [if_neg h1]
    by_cases h2 : ((a.partialOf f).received f.seq.toNat).isSome
    · rw [if_pos h2, if_pos (show a.Ignores f from .inr h2)]
    · rw [if_neg h2, if_neg (show ¬ a.Ignores f from fun hi => hi.elim h1 h2)]

/-- Where the fragment goes: into the node of its message, or into a new node in
front of the list. -/
lemma addFragment_at (h : Represents l a) (f : Fragment) :
    ∃ before node after, node.Holds (a.partialOf f) ∧ node.key = f.key ∧
      Represents (before ++ after) (Function.update a f.key none) ∧
      before ++ after = l.filter (fun n => n.key ≠ f.key) ∧
      addFragment l f =
        if a.Ignores f then ⟨none, l, none⟩
        else insertFragment before node after f.sms f.seq (node.bitmap.rank f.seq.toNat) := by
  cases hfind : findNode f.addr f.ref l with
  | none =>
    rcases addFragment_new h hfind with ⟨hpart, habsent, hadd⟩
    refine ⟨[], newNode f.ts f.addr f.ref f.max, l, ?_, rfl, ?_, ?_, hadd⟩
    · rw [hpart]
      exact newNode_holds f.ts f.addr f.ref f.max
    · rw [← habsent, Function.update_eq_self]
      exact h
    · exact (@filter_ne_key [] l f.key (findNode_none hfind)).symm
  | some r =>
    rcases r with ⟨before, node, after⟩
    rcases findNode_some hfind with ⟨rfl, hkey⟩
    have hrest := h.remove
    rcases h.node node (by simp) with ⟨p, hp, hholds, -⟩
    have hkey' : node.key = f.key := hkey
    have hpart : a.partialOf f = p := by
      rw [Pending.partialOf, ← hkey', hp]
      rfl
    rw [hkey'] at hrest
    rw [← hpart] at hholds
    refine ⟨before, node, after, hholds, hkey, hrest, ?_, addFragment_held hholds hfind⟩
    -- the other nodes are of other messages
    have hkeys : ∀ n ∈ before ++ after, n.key ≠ f.key := by
      intro n hn hk
      rcases hrest.node n hn with ⟨q, hq, -⟩
      rw [hk, Function.update_self] at hq
      cases hq
    have hgone := filter_ne_key hkeys
    rw [filter_append] at hgone ⊢
    rw [filter_cons_of_neg (by simpa using hkey'), hgone]

lemma Pending.step_addFragment (a : Pending) (f : Fragment) :
    a.step (.addFragment f) =
      if a.Ignores f then (none, a)
      else if (a.received f).Complete then
        (some (a.received f).copies, Function.update a f.key none)
      else (none, Function.update a f.key (some (a.received f))) := rfl

/-- A call returns what the messages under way tell, and the nodes go on to
represent them; a completed message goes and takes no other node with it. -/
lemma addFragment_spec (h : Represents l a) (f : Fragment) : (addFragment l f).completed = (a.step
    (.addFragment f)).1 ∧ Represents (addFragment l f).assemblyList (a.step (.addFragment f)).2 ∧
    (a.LastMissing f → (addFragment l f).assemblyList = l.filter fun n => n.key ≠ f.key) := by
  rcases addFragment_at h f with ⟨before, node, after, hholds, hkey, hrest, hothers, heq⟩
  rw [heq, Pending.step_addFragment]
  by_cases hign : a.Ignores f
  · rw [if_pos hign, if_pos hign]
    exact ⟨rfl, h, fun hlast => absurd hign hlast.1⟩
  · rw [if_neg hign, if_neg hign]
    have hmax : f.max = (a.partialOf f).max := by
      by_contra hne
      exact hign (Or.inl hne)
    have hnone : (a.partialOf f).received f.seq.toNat = none := by
      rw [← not_isSome_iff_eq_none]
      exact fun hsome => hign (Or.inr hsome)
    have hle : f.seq.toNat ≤ (a.partialOf f).max.toNat := hmax ▸ f.seq_le
    rcases insertFragment_spec hholds f.seq_pos hle hnone before after f.sms with
      ⟨node', hkey', hholds', hins⟩
    have hins : insertFragment before node after f.sms f.seq (node.bitmap.rank f.seq.toNat) =
        if (a.received f).Complete then
          ⟨some (a.received f).copies, before ++ after, some (.free node')⟩
        else ⟨none, before ++ node' :: after, some (.store node' f.sms f.seq)⟩ := hins
    rw [hins]
    by_cases hc : (a.received f).Complete
    · rw [if_pos hc, if_pos hc]
      exact ⟨rfl, hrest, fun _ => hothers⟩
    · rw [if_neg hc, if_neg hc]
      exact ⟨rfl, hrest.insert (hkey'.trans hkey) hholds' hc, fun hlast => absurd hlast.2 hc⟩

lemma smsAssemblyExpire_eq (before : ℤ) (l : List AssemblyNode) :
    (smsAssemblyExpire before l).1 = l.filter fun n => n.ts > before := by
  induction l with
  | nil => rfl
  | cons n l ih =>
    unfold smsAssemblyExpire
    by_cases hn : n.ts > before
    · rw [if_pos hn, filter_cons_of_pos (by simpa using hn), ← ih]
    · rw [if_neg hn, filter_cons_of_neg (by simpa using hn), ← ih]

lemma smsAssemblyExpire_spec (h : Represents l a)
    (before : ℤ) : Represents (smsAssemblyExpire before l).1 (a.step (.expire before)).2 := by
  rw [smsAssemblyExpire_eq]
  constructor
  · exact h.nodup.sublist (filter_sublist.map AssemblyNode.key)
  · intro n hn
    rcases mem_filter.mp hn with ⟨hmem, hts⟩
    rcases h.node n hmem with ⟨p, hp, hholds, hpart⟩
    refine ⟨p, ?_, hholds, hpart⟩
    show (a n.key).filter _ = some p
    rw [hp, filter_some, if_pos (by rw [← hholds.ts]; exact hts)]
  · intro k hk
    rcases isSome_iff_exists.mp hk with ⟨p, hp⟩
    rcases filter_eq_some_iff.mp hp with ⟨hak, hts⟩
    rcases h.all k (by rw [hak]; rfl) with ⟨n, hn, hnk⟩
    rcases h.node n hn with ⟨q, hq, hholds, -⟩
    rw [hnk, hak] at hq
    refine ⟨n, mem_filter.mpr ⟨hn, ?_⟩, hnk⟩
    rw [hholds.ts, ← Option.some.inj hq]
    exact hts

lemma represents_nil : Represents [] fun _ => none where
  nodup := nodup_nil
  node := by simp
  all := by simp

/-! ## Whole runs -/

lemma Pending.step_fst (a : Pending) (f : Fragment) :
    (a.step (.addFragment f)).1 = if a.LastMissing f then some (a.received f).copies else none := by
  rw [Pending.step_addFragment]
  by_cases hign : a.Ignores f
  · rw [if_pos hign, if_neg fun h : a.LastMissing f => h.1 hign]
  · rw [if_neg hign]
    by_cases hc : (a.received f).Complete
    · rw [if_pos hc, if_pos (show a.LastMissing f from ⟨hign, hc⟩)]
    · rw [if_neg hc, if_neg fun h : a.LastMissing f => hc h.2]

lemma Partial.copies_map_some (h : p.Complete) :
    p.copies.map some = (List.range' 1 p.max.toNat).map p.received :=
  Numbered.map_some_copies h

lemma AssemblyNode.Holds.counts (h : node.Holds p) : node.numFragments.toNat = (List.range
    256).countP node.bitmap.test ∧ node.numFragments.toNat = node.fragmentList.length := by
  refine ⟨?_, h.num⟩
  have hrank := h.rank (show 1 ≤ 256 by decide)
  rw [Bitmap.rank_eq] at hrank
  rw [hrank, h.num, h.list]
  unfold Partial.copies
  -- no fragment beyond the total has come
  have hmax := p.max.toNat_lt
  have hbeyond : (List.range' (1 + p.max.toNat) (255 - p.max.toNat)).filterMap p.received = [] := by
    apply filterMap_eq_nil_iff.mpr
    intro s hs
    rw [← not_isSome_iff_eq_none]
    intro hsome
    have hle := (h.range s hsome).2
    have hge := (mem_range'_1.mp hs).1
    omega
  have hsplit : List.range' 1 (256 - 1) =
      List.range' 1 p.max.toNat ++ List.range' (1 + p.max.toNat) (255 - p.max.toNat) := by
    conv_lhs => rw [show 256 - 1 = p.max.toNat + (255 - p.max.toNat) by omega]
    rw [← range'_append, Nat.one_mul]
  rw [hsplit, filterMap_append, hbeyond, append_nil]

/-- Any calls from the empty assembly return what the messages under way tell, and
the nodes represent these: one node each, whose count is the number of bits in its
bitmap and of copies in its list, which are in the order of the sequence numbers. The
next fragment makes the call return a list if and only if it is the last one missing;
the list has the copy received first of each of `1..max`, and only that node goes. -/
theorem sms_assembly_run (calls : List AssemblyCall) :
    let run := Machine.run assemblyStep [] calls
    let pending := (Machine.run Pending.step (fun _ => none) calls).2
    run.1 = (Machine.run Pending.step (fun _ => none) calls).1 ∧
    (run.2.map AssemblyNode.key).Nodup ∧
    (∀ k, (pending k).isSome ↔ k ∈ run.2.map AssemblyNode.key) ∧
    (∀ n ∈ run.2, ∃ p, pending n.key = some p ∧ n.fragmentList = p.copies ∧
      n.numFragments.toNat = (List.range 256).countP n.bitmap.test ∧
      n.numFragments.toNat = n.fragmentList.length) ∧
    ∀ f : Fragment,
      ((addFragment run.2 f).completed ≠ none ↔ pending.LastMissing f) ∧
      (pending.LastMissing f →
        (addFragment run.2 f).completed.map (fun l => l.map some) =
          some ((List.range' 1 f.max.toNat).map (pending.received f).received) ∧
        (addFragment run.2 f).assemblyList = run.2.filter fun n => n.key ≠ f.key) := by
  intro run pending
  have hsim := Machine.run_simulation (f := assemblyStep) (g := Pending.step) (R := Represents)
    (P := fun _ _ => True) ?_ represents_nil (Machine.allSteps_true _ [] calls)
  · rcases hsim with ⟨houts, hrep⟩
    refine ⟨houts, hrep.nodup, ?_, ?_, ?_⟩
    · intro k
      constructor
      · intro hk
        exact mem_map.mpr (hrep.all k hk)
      · intro hk
        rcases mem_map.mp hk with ⟨n, hn, rfl⟩
        rcases hrep.node n hn with ⟨p, hp, -⟩
        exact isSome_iff_exists.mpr ⟨p, hp⟩
    · intro n hn
      rcases hrep.node n hn with ⟨p, hp, hholds, -⟩
      exact ⟨p, hp, hholds.list, hholds.counts.1, hholds.counts.2⟩
    · intro f
      rcases addFragment_spec hrep f with ⟨hcompleted, -, hothers⟩
      rw [hcompleted, Pending.step_fst]
      by_cases hlast : pending.LastMissing f
      · have hmax : (pending.received f).max = f.max := by
          by_contra hne
          exact hlast.1 (.inl (Ne.symm hne))
        rw [if_pos hlast]
        refine ⟨by simpa using hlast, fun _ => ⟨?_, hothers hlast⟩⟩
        rw [map_some, Partial.copies_map_some hlast.2, hmax]
      · rw [if_neg hlast]
        exact ⟨by simpa using hlast, fun h => absurd h hlast⟩
  · intro l a c hR _
    cases c with
    | addFragment f =>
      rcases addFragment_spec hR f with ⟨hcompleted, hrep, -⟩
      exact ⟨hcompleted, hrep⟩
    | expire before => exact ⟨rfl, smsAssemblyExpire_spec hR before⟩

end Phonelets.Sms
