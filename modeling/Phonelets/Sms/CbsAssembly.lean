import Phonelets.Lib.Linked
import Phonelets.Sms.Assembly
import Phonelets.Sms.Cbs

/-! # Assembling cell broadcast messages

`struct cbs_assembly` keeps one node for each update of a message of which not every
page has come, and for each message the update that was handed over last. Seen from
outside these are two maps (`Reception`); `Receives` ties them to the lists. The
comparison of update numbers is right only on one side of the circle they live on
(`SameSide`), and what follows holds of the runs that stay on it.
-/

namespace Phonelets.Sms

open List
open Linked (splitFind splitFind_eq_some splitFind_eq_none splitFind_find?)
open Numbered (copies Complete)

/-! ## The functions -/

structure CbsAssemblyNode where
  serial : ℕ
  bitmap : BitVec 16
  pages : List Cbs

/-- `struct cbs_assembly`, and the nodes whose list of pages `cbs_assembly_expire` has
given back twice. -/
structure CbsAssembly where
  assemblyList : List CbsAssemblyNode
  recvPlmn : List ℕ
  recvLoc : List ℕ
  recvCell : List ℕ
  freedTwice : List CbsAssemblyNode

def cbsAssemblyNew : CbsAssembly := ⟨[], [], [], [], []⟩

def cbsIsUpdateNewer (n o : ℕ) : Bool :=
  let oldUpdate := o &&& 0xf
  let newUpdate := n &&& 0xf
  if newUpdate = oldUpdate then false
  else if newUpdate ≤ (oldUpdate + 8) % 16 then true
  else false

/-- `cbs_compare_node_by_gs` returns 0. -/
def cbsCompareNodeByGs (gs : CbsGeoScope) (node : CbsAssemblyNode) : Bool :=
  (node.serial >>> 14) &&& 0x3 == gs.toNat

/-- `cbs_compare_node_by_update` returns 0. -/
def cbsCompareNodeByUpdate (serial : ℕ) (node : CbsAssemblyNode) : Bool :=
  if serial &&& 0xfffffff0 ≠ node.serial &&& 0xfffffff0 then false
  else !cbsIsUpdateNewer node.serial serial

/-- `cbs_compare_recv_by_serial` returns 0. -/
def cbsCompareRecvBySerial (newSerial oldSerial : ℕ) : Bool :=
  oldSerial &&& 0xfffffff0 == newSerial &&& 0xfffffff0

/-- `cbs_assembly_expire`: the nodes that compare equal go. Their pages are freed with
the list of them, and then this list once more (`g_free(node->pages)`). -/
def cbsAssemblyExpire (a : CbsAssembly) (func : CbsAssemblyNode → Bool) : CbsAssembly :=
  { a with
    assemblyList := a.assemblyList.filter fun node => !func node
    freedTwice := a.freedTwice ++ a.assemblyList.filter func }

def cbsAssemblyLocationChanged (a : CbsAssembly) (plmn lac ci : Bool) : CbsAssembly :=
  let lac := plmn || lac
  let ci := lac || ci
  let a := if plmn then cbsAssemblyExpire { a with recvPlmn := [] } (cbsCompareNodeByGs .plmn) else a
  let a :=
    if lac then cbsAssemblyExpire { a with recvLoc := [] } (cbsCompareNodeByGs .serviceArea) else a
  if ci then
    cbsAssemblyExpire
      (cbsAssemblyExpire { a with recvCell := [] } (cbsCompareNodeByGs .cellImmediate))
      (cbsCompareNodeByGs .cellNormal)
  else a

namespace CbsAssembly

/-- `*recv`. -/
def recv (a : CbsAssembly) : CbsGeoScope → List ℕ
  | .plmn => a.recvPlmn
  | .serviceArea => a.recvLoc
  | .cellImmediate | .cellNormal => a.recvCell

def setRecv (a : CbsAssembly) (gs : CbsGeoScope) (l : List ℕ) : CbsAssembly :=
  match gs with
  | .plmn => { a with recvPlmn := l }
  | .serviceArea => { a with recvLoc := l }
  | .cellImmediate | .cellNormal => { a with recvCell := l }

end CbsAssembly

/-- `l->data = new_serial` if there is one for the message, else `g_slist_prepend`. -/
def replaceRecv (newSerial : ℕ) (recv : List ℕ) : List ℕ :=
  match splitFind (cbsCompareRecvBySerial newSerial) recv with
  | some (before, _, after) => before ++ newSerial :: after
  | none => newSerial :: recv

/-- The part of `cbs_assembly_add_page` after the label `out`. -/
def insertPage (a : CbsAssembly) (before : List CbsAssemblyNode) (node : CbsAssemblyNode)
    (after : List CbsAssemblyNode) (c : Cbs) (position : ℕ) : Option (List Cbs) × CbsAssembly :=
  let node := { node with
    pages := gSlistInsert node.pages c position
    bitmap := node.bitmap ||| 1#16 <<< c.page.val }
  if node.pages.length < c.maxPages.val then
    (none, { a with assemblyList := before ++ node :: after })
  else
    let a := cbsAssemblyExpire { a with assemblyList := before ++ after }
      (cbsCompareNodeByUpdate c.newSerial)
    (some node.pages, a.setRecv c.gs (c.newSerial :: a.recv c.gs))

/-- `position`: the pages in the node that come before the given one. -/
def CbsAssemblyNode.position (node : CbsAssemblyNode) (page : ℕ) : ℕ :=
  (List.range' 1 (page - 1)).countP fun j => Bitmap.hasBit node.bitmap j

def cbsAssemblyAddPage (a : CbsAssembly) (c : Cbs) : Option (List Cbs) × CbsAssembly :=
  let recv := a.recv c.gs
  -- have we seen this message before, and is it newer?
  if (recv.find? (cbsCompareRecvBySerial c.newSerial)).any (fun o => !cbsIsUpdateNewer c.newSerial o)
  then (none, a)
  else if c.maxPages.val = 1 ∧ c.page.val = 1 then
    (some [c], a.setRecv c.gs (replaceRecv c.newSerial recv))
  else
    match splitFind (fun node => node.serial == c.newSerial) a.assemblyList with
    | some (before, node, after) =>
      if Bitmap.hasBit node.bitmap c.page.val then (none, a)
      else insertPage a before node after c (node.position c.page.val)
    | none => insertPage a [] ⟨c.newSerial, 0#16, []⟩ a.assemblyList c 0

/-! ## Calls -/

/-- A page as `cbs_decode` returns it. -/
def CbsPage : Type := { c : Cbs // ∃ pdu, cbsDecode pdu = some c }

inductive CbsCall where
  | addPage (c : CbsPage)
  | locationChanged (plmn lac ci : Bool)

/-- One call; `location_changed` returns nothing. -/
def cbsStep (a : CbsAssembly) : CbsCall → Option (List Cbs) × CbsAssembly
  | .addPage c => cbsAssemblyAddPage a c.val
  | .locationChanged plmn lac ci => (none, cbsAssemblyLocationChanged a plmn lac ci)

/-! ## The circle of update numbers -/

/-- One to eight higher, modulo 16. -/
def Newer (n o : Fin 16) : Prop := 1 ≤ (n.val + 16 - o.val) % 16 ∧ (n.val + 16 - o.val) % 16 ≤ 8

instance (n o : Fin 16) : Decidable (Newer n o) := inferInstanceAs (Decidable (_ ∧ _))

lemma not_newer_self (u : Fin 16) : ¬ Newer u u := by
  revert u
  decide

/-- The new number has not come past the end of the circle if the old one is in its first
half, and has come past it, or is the same, if the old one is in the second half. -/
def SameSide (n o : Fin 16) : Prop := if o.val < 8 then o ≤ n else n ≤ o

instance (n o : Fin 16) : Decidable (SameSide n o) := inferInstanceAs (Decidable (ite _ _ _))

lemma cbsIsUpdateNewer_iff (k k' : CbsKey) (n o : Fin 16) :
    (cbsIsUpdateNewer (k.serial n) (k'.serial o) = true ↔ Newer n o) ↔ SameSide n o := by
  have hmod : ∀ (k : CbsKey) (u : Fin 16), k.serial u &&& 0xf = u.val := by
    intro k u
    rw [show 0xf = 2 ^ 4 - 1 by rfl, Nat.and_two_pow_sub_one_eq_mod]
    exact k.serial_mod u
  unfold cbsIsUpdateNewer
  rw [hmod, hmod]
  revert n o
  decide

/-! ## What an assembly is for -/

/-- What a receiver of broadcasts knows: for each message the update that it has handed
over last, and for each update the pages of it that it has. -/
structure Reception where
  last : CbsKey → Option (Fin 16)
  pages : CbsKey × Fin 16 → ℕ → Option Cbs

namespace Reception

def empty : Reception := ⟨fun _ => none, fun _ _ => none⟩

/-- The update of the page is a new one. -/
def New (r : Reception) (c : Cbs) : Prop := ∀ u ∈ r.last c.key, Newer c.updateNumber u

instance (r : Reception) (c : Cbs) : Decidable (r.New c) :=
  inferInstanceAs (Decidable (∀ u ∈ r.last c.key, Newer c.updateNumber u))

/-- The pages of the update with the new one. -/
def received (r : Reception) (c : Cbs) : ℕ → Option Cbs :=
  Function.update (r.pages c.update) c.page.val (some c)

/-- The page is the last one missing of a new update. -/
def Completes (r : Reception) (c : Cbs) : Prop :=
  r.New c ∧ c.maxPages.val ≠ 1 ∧ r.pages c.update c.page.val = none ∧
    Complete c.maxPages.val (r.received c)

end Reception

/-- The change of location concerns the scope. -/
def covers (plmn lac ci : Bool) : CbsGeoScope → Bool
  | .plmn => plmn
  | .serviceArea => plmn || lac
  | .cellImmediate | .cellNormal => plmn || lac || ci

namespace Reception

/-- The page of a new update is put with the others, which are handed over when it is the
last one; the updates that it makes old go then, with the pages that have come of them. -/
def accept (r : Reception) (c : Cbs) : Option (List Cbs) × Reception :=
  if Complete c.maxPages.val (r.received c) then
    (some (copies c.maxPages.val (r.received c)),
      { last := Function.update r.last c.key (some c.updateNumber)
        pages := fun s =>
          if s.1 = c.key ∧ ¬ Newer s.2 c.updateNumber then fun _ => none else r.pages s })
  else (none, { r with pages := Function.update r.pages c.update (r.received c) })

def step (r : Reception) : CbsCall → Option (List Cbs) × Reception
  | .addPage ⟨c, _⟩ =>
    if ¬ r.New c then (none, r)
    else if c.maxPages.val = 1 then
      (some [c], { r with last := Function.update r.last c.key (some c.updateNumber) })
    else if (r.pages c.update c.page.val).isSome then (none, r)
    else r.accept c
  | .locationChanged plmn lac ci =>
    (none,
      { last := fun k => if covers plmn lac ci k.gs then none else r.last k
        pages := fun s => if covers plmn lac ci s.1.gs then fun _ => none else r.pages s })

/-- The update numbers that the call compares are on one side. -/
def Comparable (r : Reception) : CbsCall → Prop
  | .addPage ⟨c, _⟩ =>
    (∀ u ∈ r.last c.key, SameSide c.updateNumber u) ∧
      (r.Completes c → ∀ u p, (r.pages (c.key, u) p).isSome → SameSide u c.updateNumber)
  | .locationChanged _ _ _ => True

/-- The call gives up pages of an update that is not complete. -/
def Discards (r : Reception) : CbsCall → Prop
  | .addPage ⟨c, _⟩ =>
    r.Completes c ∧ ∃ u p, u ≠ c.updateNumber ∧ ¬ Newer u c.updateNumber ∧
      (r.pages (c.key, u) p).isSome
  | .locationChanged plmn lac ci => ∃ s p, covers plmn lac ci s.1.gs ∧ (r.pages s p).isSome

end Reception

/-! ## The nodes hold the pages -/

/-- The node has the pages of an update of `m` pages. -/
structure CbsAssemblyNode.Holds (node : CbsAssemblyNode) (m : ℕ) (received : ℕ → Option Cbs) : Prop where
  bitmap : ∀ p < 16, Bitmap.hasBit node.bitmap p = (received p).isSome
  page : ∀ p c, received p = some c → c.page.val = p ∧ c.maxPages.val = m ∧ 1 ≤ p ∧ p ≤ m
  list : node.pages = copies m received

namespace CbsAssemblyNode

lemma new_holds (serial m : ℕ) : (CbsAssemblyNode.mk serial 0#16 []).Holds m fun _ => none where
  bitmap := by
    intro p _
    simp [Bitmap.hasBit]
  page := by
    intro p c hc
    cases hc
  list := by simp [copies]

variable {node : CbsAssemblyNode} {m : ℕ} {received : ℕ → Option Cbs}

lemma Holds.position_eq (h : node.Holds m received) {p : ℕ} (hp : p < 16) :
    node.position p = (copies (p - 1) received).length := by
  unfold position
  rw [Numbered.length_copies]
  apply countP_congr
  intro j hj
  have hlt := (mem_range'_1.mp hj).2
  rw [h.bitmap j (by omega)]

lemma new_position (serial : ℕ) {p : ℕ} (hp : p < 16) :
    (CbsAssemblyNode.mk serial 0#16 []).position p = 0 := by
  rw [(new_holds serial 0).position_eq hp]
  simp [copies]

lemma Holds.add (h : node.Holds m received) {c : Cbs} (hmax : c.maxPages.val = m)
    (hpos : 1 ≤ c.page.val) (hle : c.page.val ≤ m) (hnone : received c.page.val = none) :
    Holds { node with
      pages := gSlistInsert node.pages c (node.position c.page.val)
      bitmap := node.bitmap ||| 1#16 <<< c.page.val } m
      (Function.update received c.page.val (some c)) where
  bitmap := by
    intro p hp
    show Bitmap.hasBit (node.bitmap ||| 1#16 <<< c.page.val) p = _
    have hold := h.bitmap p hp
    rw [Bitmap.hasBit_eq _ hp] at hold ⊢
    rw [BitVec.getLsbD_or, hold, ← BitVec.twoPow_eq, BitVec.getLsbD_twoPow]
    by_cases hpc : p = c.page.val
    · simp [hpc]
    · simp [hpc, Ne.symm hpc]
  page := by
    intro p d hd
    by_cases hpc : p = c.page.val
    · subst hpc
      rw [Function.update_self] at hd
      obtain rfl := Option.some.inj hd
      exact ⟨rfl, hmax, hpos, hle⟩
    · rw [Function.update_of_ne hpc] at hd
      exact h.page p d hd
  list := by
    rw [Numbered.copies_update hpos hle hnone c]
    show gSlistInsert node.pages c (node.position c.page.val) = _
    rw [h.position_eq c.page.isLt, h.list]
    rfl

end CbsAssemblyNode

/-- The serial number of an update. -/
def serialOf (s : CbsKey × Fin 16) : ℕ := s.1.serial s.2

variable {s : CbsKey × Fin 16}

lemma serialOf_inj {s' : CbsKey × Fin 16} (h : serialOf s = serialOf s') : s = s' :=
  Prod.ext_iff.mpr (CbsKey.serial_inj h)

lemma Cbs.newSerial_eq_serialOf (c : Cbs) : c.newSerial = serialOf c.update := c.newSerial_eq

/-- There is one node for each update with pages that are not complete; the updates agree
with `total` on how many they have. -/
structure NodesHold (total : ℕ → ℕ) (l : List CbsAssemblyNode)
    (pages : CbsKey × Fin 16 → ℕ → Option Cbs) : Prop where
  nodup : (l.map CbsAssemblyNode.serial).Nodup
  node : ∀ n ∈ l, ∃ s, n.serial = serialOf s ∧ n.Holds (total n.serial) (pages s) ∧
    ∃ p, (pages s p).isSome
  all : ∀ s p, (pages s p).isSome → ∃ n ∈ l, n.serial = serialOf s

namespace NodesHold

variable {total : ℕ → ℕ} {l before after : List CbsAssemblyNode} {node : CbsAssemblyNode}
  {pages : CbsKey × Fin 16 → ℕ → Option Cbs} {s : CbsKey × Fin 16}

lemma empty : NodesHold total [] fun _ _ => none where
  nodup := nodup_nil
  node := by simp
  all := by simp

lemma filter (h : NodesHold total l pages) {func : CbsAssemblyNode → Bool}
    {gone : CbsKey × Fin 16 → Prop} [DecidablePred gone]
    (hfunc : ∀ n ∈ l, ∀ s, n.serial = serialOf s → (func n = true ↔ gone s)) :
    NodesHold total (l.filter fun node => !func node)
      fun s => if gone s then fun _ => none else pages s where
  nodup := h.nodup.sublist (filter_sublist.map _)
  node := by
    intro n hn
    rcases mem_filter.mp hn with ⟨hmem, hkept⟩
    rcases h.node n hmem with ⟨s, hs, hholds⟩
    have hstay : ¬ gone s := fun hgone => by simp [(hfunc n hmem s hs).mpr hgone] at hkept
    refine ⟨s, hs, ?_⟩
    simpa [hstay] using hholds
  all := by
    intro s p hp
    by_cases hgone : gone s
    · simp [hgone] at hp
    · rcases h.all s p (by simpa [hgone] using hp) with ⟨n, hmem, hn⟩
      refine ⟨n, mem_filter.mpr ⟨hmem, ?_⟩, hn⟩
      have hfalse : func n ≠ true := fun htrue => hgone ((hfunc n hmem s hn).mp htrue)
      simpa using hfalse

lemma filter_eq_nil (h : NodesHold total l pages) {func : CbsAssemblyNode → Bool}
    {gone : CbsKey × Fin 16 → Prop} (hfunc : ∀ n ∈ l, ∀ s, n.serial = serialOf s → (func n = true ↔ gone s))
    (hnone : ∀ s p, gone s → ¬ (pages s p).isSome) : l.filter func = [] := by
  apply filter_eq_nil_iff.mpr
  intro n hn htrue
  rcases h.node n hn with ⟨s, hs, -, p, hp⟩
  exact hnone s p ((hfunc n hn s hs).mp htrue) hp

lemma remove (h : NodesHold total (before ++ node :: after) pages) (hserial : node.serial = serialOf s) :
    NodesHold total (before ++ after) (Function.update pages s fun _ => none) where
  nodup := h.nodup.sublist (((sublist_cons_self node after).append_left before).map _)
  node := by
    intro n hn
    have hmem : n ∈ before ++ node :: after := by
      rcases mem_append.mp hn with hn | hn
      · exact mem_append_left _ hn
      · exact mem_append_right _ (mem_cons_of_mem _ hn)
    rcases h.node n hmem with ⟨s', hs', hholds⟩
    -- no other node is of the same update
    have hne : s' ≠ s := by
      rintro rfl
      have hnodup := h.nodup
      rw [map_append, map_cons] at hnodup
      have hnot := (nodup_cons.mp (perm_middle.nodup_iff.mp hnodup)).1
      apply hnot
      rw [hserial, ← hs', ← map_append]
      exact mem_map_of_mem hn
    refine ⟨s', hs', ?_⟩
    rw [Function.update_of_ne hne]
    exact hholds
  all := by
    intro s' p hp
    by_cases heq : s' = s
    · rw [heq, Function.update_self] at hp
      simp at hp
    · rw [Function.update_of_ne heq] at hp
      rcases h.all s' p hp with ⟨n, hmem, hn⟩
      refine ⟨n, ?_, hn⟩
      rcases mem_append.mp hmem with hmem | hmem
      · exact mem_append_left _ hmem
      · rcases mem_cons.mp hmem with rfl | hmem
        · exact absurd (serialOf_inj (hn.symm.trans hserial)) heq
        · exact mem_append_right _ hmem

lemma insert (h : NodesHold total (before ++ after) (Function.update pages s fun _ => none))
    (hserial : node.serial = serialOf s) {received : ℕ → Option Cbs}
    (hnode : node.Holds (total node.serial) received) (hsome : ∃ p, (received p).isSome) :
    NodesHold total (before ++ node :: after) (Function.update pages s received) := by
  have hother : ∀ n ∈ before ++ after, ∃ s', n.serial = serialOf s' ∧ s' ≠ s ∧
      n.Holds (total n.serial) (pages s') ∧ ∃ p, (pages s' p).isSome := by
    intro n hn
    rcases h.node n hn with ⟨s', hs', hholds, hpages⟩
    have hne : s' ≠ s := by
      rintro rfl
      simp at hpages
    rw [Function.update_of_ne hne] at hholds hpages
    exact ⟨s', hs', hne, hholds, hpages⟩
  have hsplit : ∀ n, n ∈ before ++ node :: after ↔ n = node ∨ n ∈ before ++ after := by
    intro n
    simp only [mem_append, mem_cons]
    exact or_left_comm
  constructor
  · rw [map_append, map_cons, perm_middle.nodup_iff, nodup_cons, ← map_append]
    refine ⟨?_, h.nodup⟩
    intro hmem
    rcases mem_map.mp hmem with ⟨n, hn, heq⟩
    rcases hother n hn with ⟨s', hs', hne, -⟩
    exact hne (serialOf_inj (by rw [← hs', heq, hserial]))
  · intro n hn
    rcases (hsplit n).mp hn with rfl | hn
    · refine ⟨s, hserial, ?_⟩
      rw [Function.update_self]
      exact ⟨hnode, hsome⟩
    · rcases hother n hn with ⟨s', hs', hne, hholds⟩
      refine ⟨s', hs', ?_⟩
      rw [Function.update_of_ne hne]
      exact hholds
  · intro s' p hp
    by_cases heq : s' = s
    · exact ⟨node, (hsplit node).mpr (Or.inl rfl), by rw [hserial, heq]⟩
    · rw [Function.update_of_ne heq] at hp
      rcases h.all s' p (by rwa [Function.update_of_ne heq]) with ⟨n, hn, hn'⟩
      exact ⟨n, (hsplit n).mpr (Or.inr hn), hn'⟩

end NodesHold

/-! ## The lists hold the last updates -/

lemma serial_mask (s : CbsKey × Fin 16) : serialOf s &&& 0xfffffff0 = serialOf s / 16 * 16 := by
  have hlt : serialOf s < 2 ^ 32 := s.1.serial_lt s.2
  have hmask : 0xfffffff0 = (2 ^ 28 - 1) <<< 4 := by decide
  rw [hmask]
  generalize serialOf s = n at hlt
  have hshift : n / 16 * 16 = (n / 2 ^ 4) <<< 4 := (Nat.shiftLeft_eq _ 4).symm
  apply Nat.eq_of_testBit_eq
  intro i
  rw [hshift, Nat.testBit_and, Nat.testBit_shiftLeft, Nat.testBit_shiftLeft, Nat.testBit_two_pow_sub_one, Nat.testBit_div_two_pow]
  by_cases hi : 4 ≤ i
  · rw [show i - 4 + 4 = i by omega]
    by_cases hi' : i - 4 < 28
    · simp [hi, hi']
    · have hhigh : n.testBit i = false :=
        Nat.testBit_lt_two_pow (Nat.lt_of_lt_of_le hlt (Nat.pow_le_pow_right (by decide) (by omega)))
      simp [hhigh]
  · simp [hi]

/-- Two serial numbers are of one message when they agree in all but the last four bits. -/
lemma serial_mask_eq_iff (s s' : CbsKey × Fin 16) :
    serialOf s &&& 0xfffffff0 = serialOf s' &&& 0xfffffff0 ↔ s.1 = s'.1 := by
  rw [serial_mask, serial_mask]
  constructor
  · intro h
    exact CbsKey.serial_div_inj (Nat.eq_of_mul_eq_mul_right (by decide) h)
  · intro h
    have hs := s.2.isLt
    have hs' := s'.2.isLt
    congr 1
    unfold serialOf CbsKey.serial
    rw [h]
    omega

lemma cbsCompareRecvBySerial_iff (s s' : CbsKey × Fin 16) :
    cbsCompareRecvBySerial (serialOf s) (serialOf s') = true ↔ s'.1 = s.1 := by
  unfold cbsCompareRecvBySerial
  rw [beq_iff_eq, serial_mask_eq_iff]

variable {node : CbsAssemblyNode}

lemma cbsCompareNodeByUpdate_iff {s' : CbsKey × Fin 16} (hnode : node.serial = serialOf s') :
    cbsCompareNodeByUpdate (serialOf s) node = true ↔
      s'.1 = s.1 ∧ ¬ cbsIsUpdateNewer (serialOf s') (serialOf s) = true := by
  unfold cbsCompareNodeByUpdate
  rw [hnode]
  by_cases hkey : s.1 = s'.1
  · simp [(serial_mask_eq_iff s s').mpr hkey, hkey]
  · simp [mt (serial_mask_eq_iff s s').mp hkey, Ne.symm hkey]

lemma cbsCompareNodeByGs_iff (gs : CbsGeoScope)
    (hnode : node.serial = serialOf s) : cbsCompareNodeByGs gs node = true ↔ s.1.gs = gs := by
  unfold cbsCompareNodeByGs
  rw [hnode, beq_iff_eq, Nat.shiftRight_eq_div_pow, show 0x3 = 2 ^ 2 - 1 by rfl,
    Nat.and_two_pow_sub_one_eq_mod]
  unfold serialOf
  rw [s.1.serial_gs]
  constructor
  · intro h
    rw [← CbsGeoScope.ofBits_toNat s.1.gs, h, CbsGeoScope.ofBits_toNat]
  · rintro rfl
    rfl

/-- The lists have serial numbers of updates, and the first one of a message is the one
that was handed over last. -/
structure RecvHold (a : CbsAssembly) (last : CbsKey → Option (Fin 16)) : Prop where
  serial : ∀ gs, ∀ o ∈ a.recv gs, ∃ s, o = serialOf s
  find : ∀ s : CbsKey × Fin 16, (a.recv s.1.gs).find? (cbsCompareRecvBySerial (serialOf s)) =
    (last s.1).map s.1.serial

/-- Two scopes that share a list of received updates. -/
def CbsGeoScope.shares : CbsGeoScope → CbsGeoScope → Bool
  | .plmn, gs => gs == .plmn
  | .serviceArea, gs => gs == .serviceArea
  | .cellImmediate, gs | .cellNormal, gs => gs == .cellImmediate || gs == .cellNormal

namespace CbsAssembly

lemma recv_setRecv (a : CbsAssembly) (gs gs' : CbsGeoScope) (l : List ℕ) :
    (a.setRecv gs l).recv gs' = if gs.shares gs' then l else a.recv gs' := by
  cases gs <;> cases gs' <;> rfl

lemma recv_of_shares (a : CbsAssembly) {gs gs' : CbsGeoScope} (h : gs.shares gs' = true) :
    a.recv gs' = a.recv gs := by
  revert h
  cases gs <;> cases gs' <;> simp [CbsGeoScope.shares, recv]

@[simp] lemma setRecv_assemblyList (a : CbsAssembly) (gs : CbsGeoScope) (l : List ℕ) :
    (a.setRecv gs l).assemblyList = a.assemblyList := by
  cases gs <;> rfl

@[simp] lemma setRecv_freedTwice (a : CbsAssembly) (gs : CbsGeoScope) (l : List ℕ) :
    (a.setRecv gs l).freedTwice = a.freedTwice := by
  cases gs <;> rfl

end CbsAssembly

namespace RecvHold

variable {a : CbsAssembly} {last : CbsKey → Option (Fin 16)}

/-- A list in which the message of `s` has its update, and nothing else has changed. -/
lemma set (h : RecvHold a last) (s : CbsKey × Fin 16) {l : List ℕ}
    (hserial : ∀ o ∈ l, ∃ s, o = serialOf s)
    (hself : l.find? (cbsCompareRecvBySerial (serialOf s)) = some (serialOf s))
    (hother : ∀ s' : CbsKey × Fin 16, s'.1 ≠ s.1 →
      l.find? (cbsCompareRecvBySerial (serialOf s')) =
        (a.recv s.1.gs).find? (cbsCompareRecvBySerial (serialOf s'))) :
    RecvHold (a.setRecv s.1.gs l) (Function.update last s.1 (some s.2)) where
  serial := by
    intro gs o ho
    rw [CbsAssembly.recv_setRecv] at ho
    split at ho
    · exact hserial o ho
    · exact h.serial gs o ho
  find := by
    intro s'
    rw [CbsAssembly.recv_setRecv]
    by_cases hkey : s'.1 = s.1
    · have hshares : s.1.gs.shares s'.1.gs = true := by
        rw [hkey]
        cases s.1.gs <;> rfl
      -- the comparison does not look at the update
      have hcmp : cbsCompareRecvBySerial (serialOf s') = cbsCompareRecvBySerial (serialOf s) := by
        funext o
        unfold cbsCompareRecvBySerial
        rw [(serial_mask_eq_iff s' s).mpr hkey]
      rw [if_pos hshares, hcmp, hself, hkey, Function.update_self]
      rfl
    · rw [Function.update_of_ne hkey, ← h.find s']
      split
      · rename_i hshares
        rw [hother s' hkey, a.recv_of_shares hshares]
      · rfl

lemma prepend (h : RecvHold a last) (s : CbsKey × Fin 16) :
    RecvHold (a.setRecv s.1.gs (serialOf s :: a.recv s.1.gs)) (Function.update last s.1 (some s.2)) := by
  apply h.set s
  · intro o ho
    rcases mem_cons.mp ho with rfl | ho
    · exact ⟨s, rfl⟩
    · exact h.serial _ o ho
  · rw [find?_cons, (cbsCompareRecvBySerial_iff s s).mpr rfl]
  · intro s' hne
    have hfalse : cbsCompareRecvBySerial (serialOf s') (serialOf s) = false := by
      simpa using mt (cbsCompareRecvBySerial_iff s' s).mp (Ne.symm hne)
    rw [find?_cons, hfalse]

lemma replace (h : RecvHold a last) (s : CbsKey × Fin 16) : RecvHold (a.setRecv s.1.gs
    (replaceRecv (serialOf s) (a.recv s.1.gs))) (Function.update last s.1 (some s.2)) := by
  unfold replaceRecv
  cases hsplit : splitFind (cbsCompareRecvBySerial (serialOf s)) (a.recv s.1.gs) with
  | none => exact h.prepend s
  | some r =>
    rcases r with ⟨before, o, after⟩
    rcases splitFind_eq_some hsplit with ⟨hrecv, ho, hbefore⟩
    rcases h.serial s.1.gs o (by rw [hrecv]; simp) with ⟨t, rfl⟩
    have htkey := (cbsCompareRecvBySerial_iff s t).mp ho
    apply h.set s
    · intro o' ho'
      rcases mem_append.mp ho' with ho' | ho'
      · exact h.serial s.1.gs o' (by rw [hrecv]; exact mem_append_left _ ho')
      · rcases mem_cons.mp ho' with rfl | ho'
        · exact ⟨s, rfl⟩
        · exact h.serial s.1.gs o' (by rw [hrecv]; simp [ho'])
    · have hnone : before.find? (cbsCompareRecvBySerial (serialOf s)) = none :=
        find?_eq_none.mpr fun y hy => by simp [hbefore y hy]
      rw [find?_append, hnone, find?_cons, (cbsCompareRecvBySerial_iff s s).mpr rfl]
      rfl
    · intro s' hne
      have hnew : cbsCompareRecvBySerial (serialOf s') (serialOf s) = false := by
        simpa using mt (cbsCompareRecvBySerial_iff s' s).mp (Ne.symm hne)
      have hold : cbsCompareRecvBySerial (serialOf s') (serialOf t) = false := by
        simpa using mt (cbsCompareRecvBySerial_iff s' t).mp fun heq => hne (heq ▸ htkey)
      rw [hrecv, find?_append, find?_append, find?_cons, find?_cons, hnew, hold]

lemma of_recv {b : CbsAssembly} (h : RecvHold a last) (hrecv : ∀ gs, b.recv gs = a.recv gs) :
    RecvHold b last where
  serial := by
    intro gs o ho
    rw [hrecv] at ho
    exact h.serial gs o ho
  find := by
    intro s
    rw [hrecv]
    exact h.find s

end RecvHold

/-! ## The assembly does what it is for -/

structure Receives (total : ℕ → ℕ) (a : CbsAssembly) (r : Reception) : Prop where
  nodes : NodesHold total a.assemblyList r.pages
  recv : RecvHold a r.last

/-- A page of an update agrees with the others on how many there are. -/
def Agrees (total : ℕ → ℕ) (c : Cbs) : Prop :=
  c.page ≤ c.maxPages ∧ c.maxPages.val = total c.newSerial

instance (total : ℕ → ℕ) (c : Cbs) : Decidable (Agrees total c) := inferInstanceAs (Decidable (_ ∧ _))

namespace Receives

variable {total : ℕ → ℕ} {a : CbsAssembly} {r : Reception}

lemma new : Receives total cbsAssemblyNew Reception.empty where
  nodes := NodesHold.empty
  recv :=
    { serial := by
        intro gs o ho
        cases gs <;> simp [cbsAssemblyNew, CbsAssembly.recv] at ho
      find := by
        intro s
        cases s.1.gs <;> rfl }

variable {c : Cbs}

/-- The check at the head of `cbs_assembly_add_page`. -/
lemma dropped_iff (h : Receives total a r) (hside : ∀ u ∈ r.last c.key, SameSide c.updateNumber u) :
    ((a.recv c.gs).find? (cbsCompareRecvBySerial c.newSerial)).any
    (fun o => !cbsIsUpdateNewer c.newSerial o) = true ↔ ¬ r.New c := by
  have hfind := h.recv.find c.update
  rw [c.newSerial_eq_serialOf]
  have hgs : c.update.1.gs = c.gs := rfl
  rw [hgs] at hfind
  rw [hfind]
  unfold Reception.New
  have hkey : c.update.1 = c.key := rfl
  rw [hkey]
  cases hlast : r.last c.key with
  | none => simp
  | some u =>
    have hnewer := (cbsIsUpdateNewer_iff c.key c.key c.updateNumber u).mpr (hside u hlast)
    have heq : serialOf c.update = c.key.serial c.updateNumber := rfl
    simp [heq, ← hnewer]

lemma compareNode_iff {l : List CbsAssemblyNode}
    (hrest : NodesHold total l (Function.update r.pages c.update fun _ => none)) (hside : ∀ u p,
    (r.pages (c.key, u) p).isSome → SameSide u c.updateNumber) : ∀ n ∈ l, ∀ s, n.serial = serialOf s
    → (cbsCompareNodeByUpdate c.newSerial n = true ↔ s.1 = c.key ∧ ¬ Newer s.2 c.updateNumber) := by
  intro n hn s hs
  rw [c.newSerial_eq_serialOf, cbsCompareNodeByUpdate_iff hs]
  apply and_congr_right
  intro hkey
  rcases hrest.node n hn with ⟨s', hs', -, p, hp⟩
  obtain rfl : s = s' := serialOf_inj (hs.symm.trans hs')
  have hne : s ≠ c.update := by
    rintro rfl
    simp at hp
  rw [Function.update_of_ne hne] at hp
  have hkey' : s.1 = c.key := hkey
  have hsome : (r.pages (c.key, s.2) p).isSome := by rwa [← hkey']
  exact not_congr ((cbsIsUpdateNewer_iff s.1 c.key s.2 c.updateNumber).mpr (hside s.2 p hsome))

variable {before after : List CbsAssemblyNode} {node : CbsAssemblyNode}

/-- After `out`, the page completes the update: it is handed over, and the nodes that it
makes old go. -/
lemma insertPage_completes (h : Receives total a r) (hpos : 1 ≤ c.page.val)
    (hagrees : Agrees total c)
    (hnode : node.Holds (total c.newSerial) (r.pages c.update))
    (hnone : r.pages c.update c.page.val = none)
    (hrest : NodesHold total (before ++ after) (Function.update r.pages c.update fun _ => none))
    (hside : ∀ u p, (r.pages (c.key, u) p).isSome → SameSide u c.updateNumber)
    (hc : Complete c.maxPages.val (r.received c)) :
    let result := insertPage a before node after c (node.position c.page.val)
    result.1 = (r.accept c).1 ∧ Receives total result.2 (r.accept c).2 ∧
      ((¬ ∃ u p, u ≠ c.updateNumber ∧ ¬ Newer u c.updateNumber ∧ (r.pages (c.key, u) p).isSome) →
        result.2.freedTwice = a.freedTwice) := by
  rcases hagrees with ⟨hle, htotal⟩
  have hpages := (hnode.add htotal hpos (htotal ▸ hle) hnone).list
  have hlen := Numbered.length_copies_le (total c.newSerial) (r.received c)
  have hcomplete := (Numbered.complete_iff c.maxPages.val (r.received c)).mp hc
  have hfull : ¬ (copies (total c.newSerial)
      (Function.update (r.pages c.update) c.page.val (some c))).length < c.maxPages.val := by
    rw [← htotal]
    unfold Reception.received at hcomplete
    omega
  have hfunc := compareNode_iff hrest hside
  unfold insertPage Reception.accept
  dsimp only at hpages ⊢
  rw [hpages, if_neg hfull, if_pos hc]
  refine ⟨?_, ⟨?_, ?_⟩, ?_⟩
  · rw [← htotal]
    rfl
  · have hkept := hrest.filter hfunc
    -- the pages of the update itself go too, as no update is newer than itself
    have hsame : (fun s : CbsKey × Fin 16 => if s.1 = c.key ∧ ¬ Newer s.2 c.updateNumber then
          (fun _ => none) else Function.update r.pages c.update (fun _ => none) s) =
        fun s => if s.1 = c.key ∧ ¬ Newer s.2 c.updateNumber then (fun _ => none) else r.pages s := by
      funext s
      by_cases hs : s = c.update
      · have hold : s.1 = c.key ∧ ¬ Newer s.2 c.updateNumber := by
          rw [hs]
          exact ⟨rfl, not_newer_self c.updateNumber⟩
        rw [if_pos hold, if_pos hold]
      · rw [Function.update_of_ne hs]
    rw [hsame] at hkept
    simpa [cbsAssemblyExpire] using hkept
  · have hrecv := h.recv.prepend c.update
    rw [← c.newSerial_eq_serialOf] at hrecv
    refine hrecv.of_recv ?_
    intro gs
    have hgs : c.update.1.gs = c.gs := rfl
    have hsame : ∀ gs, (cbsAssemblyExpire { a with assemblyList := before ++ after }
        (cbsCompareNodeByUpdate c.newSerial)).recv gs = a.recv gs := by
      intro gs
      cases gs <;> rfl
    rw [CbsAssembly.recv_setRecv, CbsAssembly.recv_setRecv, hsame, hsame, hgs]
  · intro hkeeps
    have hnil := hrest.filter_eq_nil hfunc (by
      rintro s p ⟨hkey, hold⟩ hp
      have hne : s ≠ c.update := by
        rintro rfl
        simp at hp
      rw [Function.update_of_ne hne] at hp
      exact hkeeps ⟨s.2, p, fun hu => hne (Prod.ext hkey hu), hold, by rwa [← hkey]⟩)
    simp [cbsAssemblyExpire, hnil]

/-- After `out`, pages are missing: the node has the page more. -/
lemma insertPage_waits (h : Receives total a r) (hpos : 1 ≤ c.page.val) (hagrees : Agrees total c)
    (hserial : node.serial = c.newSerial)
    (hnode : node.Holds (total c.newSerial) (r.pages c.update))
    (hnone : r.pages c.update c.page.val = none)
    (hrest : NodesHold total (before ++ after) (Function.update r.pages c.update fun _ => none))
    (hc : ¬ Complete c.maxPages.val (r.received c)) :
    let result := insertPage a before node after c (node.position c.page.val)
    result.1 = (r.accept c).1 ∧ Receives total result.2 (r.accept c).2 ∧
      result.2.freedTwice = a.freedTwice := by
  rcases hagrees with ⟨hle, htotal⟩
  have hadd := hnode.add htotal hpos (htotal ▸ hle) hnone
  have hlen := Numbered.length_copies_le (total c.newSerial) (r.received c)
  have hcomplete := mt (Numbered.complete_iff c.maxPages.val (r.received c)).mpr hc
  have hpages := hadd.list
  have hmissing : (copies (total c.newSerial)
      (Function.update (r.pages c.update) c.page.val (some c))).length < c.maxPages.val := by
    rw [htotal] at hcomplete
    unfold Reception.received at hcomplete hlen
    omega
  unfold insertPage Reception.accept
  dsimp only at hpages ⊢
  rw [hpages, if_pos hmissing, if_neg hc]
  refine ⟨rfl, ⟨?_, ?_⟩, rfl⟩
  · rw [← hserial] at hadd
    have hput := hrest.insert (by exact hserial.trans c.newSerial_eq_serialOf) hadd
      ⟨c.page.val, by simp⟩
    rw [hpages] at hput
    exact hput
  · exact h.recv.of_recv fun gs => by cases gs <;> rfl

lemma insertPage_accepts (h : Receives total a r) (hpos : 1 ≤ c.page.val)
    (hagrees : Agrees total c)
    (hserial : node.serial = c.newSerial)
    (hnode : node.Holds (total c.newSerial) (r.pages c.update))
    (hnone : r.pages c.update c.page.val = none)
    (hrest : NodesHold total (before ++ after) (Function.update r.pages c.update fun _ => none))
    (hside : Complete c.maxPages.val (r.received c) →
      ∀ u p, (r.pages (c.key, u) p).isSome → SameSide u c.updateNumber) :
    let result := insertPage a before node after c (node.position c.page.val)
    result.1 = (r.accept c).1 ∧ Receives total result.2 (r.accept c).2 ∧
      ((Complete c.maxPages.val (r.received c) →
          ¬ ∃ u p, u ≠ c.updateNumber ∧ ¬ Newer u c.updateNumber ∧ (r.pages (c.key, u) p).isSome) →
        result.2.freedTwice = a.freedTwice) := by
  by_cases hc : Complete c.maxPages.val (r.received c)
  · rcases h.insertPage_completes hpos hagrees hnode hnone hrest (hside hc) hc with
      ⟨hout, hreceives, hfreed⟩
    exact ⟨hout, hreceives, fun hkeeps => hfreed (hkeeps hc)⟩
  · rcases h.insertPage_waits hpos hagrees hserial hnode hnone hrest hc with
      ⟨hout, hreceives, hfreed⟩
    exact ⟨hout, hreceives, fun _ => hfreed⟩

lemma no_pages (h : Receives total a r) (hsplit : splitFind (fun node => node.serial == c.newSerial)
    a.assemblyList = none) : r.pages c.update = fun _ => none := by
  funext p
  have hno : (r.pages c.update p).isSome = false := by
    rw [Bool.eq_false_iff]
    intro hp
    rcases h.nodes.all _ p hp with ⟨n, hn, hserial⟩
    have := splitFind_eq_none hsplit n hn
    simp [hserial, c.newSerial_eq_serialOf] at this
  simpa using hno

lemma insertPage_new (h : Receives total a r) (hpos : 1 ≤ c.page.val)
    (hagrees : Agrees total c) (hpages : r.pages c.update = fun _ => none)
    (hside : Complete c.maxPages.val (r.received c) →
      ∀ u p, (r.pages (c.key, u) p).isSome → SameSide u c.updateNumber) :
    let result := insertPage a [] ⟨c.newSerial, 0, []⟩ a.assemblyList c 0
    result.1 = (r.accept c).1 ∧ Receives total result.2 (r.accept c).2 ∧
      ((Complete c.maxPages.val (r.received c) →
          ¬ ∃ u p, u ≠ c.updateNumber ∧ ¬ Newer u c.updateNumber ∧ (r.pages (c.key, u) p).isSome) →
        result.2.freedTwice = a.freedTwice) := by
  have hnode := CbsAssemblyNode.new_holds c.newSerial (total c.newSerial)
  have hrest : NodesHold total ([] ++ a.assemblyList)
      (Function.update r.pages c.update fun _ => none) := by
    rw [← hpages, Function.update_eq_self]
    exact h.nodes
  have haccepts := h.insertPage_accepts hpos hagrees rfl (hpages ▸ hnode)
    (congrFun hpages c.page.val) hrest hside
  rw [CbsAssemblyNode.new_position _ c.page.isLt] at haccepts
  exact haccepts

lemma addPage (h : Receives total a r) (c : CbsPage) (hagrees : Agrees total c.val)
    (hside : r.Comparable (.addPage c)) : (cbsStep a (.addPage c)).1 = (r.step (.addPage c)).1 ∧
    Receives total (cbsStep a (.addPage c)).2 (r.step (.addPage c)).2 ∧
    (¬ r.Discards (.addPage c) → (cbsStep a (.addPage c)).2.freedTwice = a.freedTwice) := by
  rcases c with ⟨c, pdu, hdecode⟩
  have hpos := cbsDecode_pos hdecode
  rcases hside with ⟨hlast, hupdates⟩
  have hdropped := h.dropped_iff hlast
  have hle : c.page.val ≤ c.maxPages.val := hagrees.1
  unfold cbsStep cbsAssemblyAddPage Reception.step
  dsimp only
  by_cases hnew : r.New c
  · rw [if_neg fun hdrop => hdropped.mp hdrop hnew, if_neg (not_not.mpr hnew)]
    by_cases hone : c.maxPages.val = 1
    · -- the only page of its update
      rw [if_pos ⟨hone, by omega⟩, if_pos hone]
      have hrecv := h.recv.replace c.update
      rw [← c.newSerial_eq_serialOf] at hrecv
      exact ⟨rfl, ⟨by simpa using h.nodes, hrecv⟩, fun _ => by simp⟩
    · rw [if_neg fun hand => hone hand.1, if_neg hone]
      have hcompletes : r.pages c.update c.page.val = none →
          Complete c.maxPages.val (r.received c) → r.Completes c :=
        fun hnone hc => ⟨hnew, hone, hnone, hc⟩
      cases hsplit : splitFind (fun node => node.serial == c.newSerial) a.assemblyList with
      | some s =>
        rcases s with ⟨before, node, after⟩
        rcases splitFind_eq_some hsplit with ⟨hlist, hserial, -⟩
        have hserial : node.serial = c.newSerial := by simpa using hserial
        have hs := hserial.trans c.newSerial_eq_serialOf
        have hnodes := h.nodes
        rw [hlist] at hnodes
        rcases hnodes.node node (by simp) with ⟨s, hs', hnode, -⟩
        obtain rfl : s = c.update := serialOf_inj (hs'.symm.trans hs)
        rw [hserial] at hnode
        dsimp only
        rw [hnode.bitmap c.page.val c.page.isLt]
        cases hpage : r.pages c.update c.page.val with
        | some d => exact ⟨rfl, h, fun _ => rfl⟩
        | none =>
          have haccepts := h.insertPage_accepts hpos.1 hagrees hserial hnode hpage
            (hnodes.remove hs) fun hc => hupdates (hcompletes hpage hc)
          rcases haccepts with ⟨hout, hreceives, hfreed⟩
          exact ⟨hout, hreceives, fun hkeeps =>
            hfreed fun hc hgone => hkeeps ⟨hcompletes hpage hc, hgone⟩⟩
      | none =>
        have hpages := h.no_pages hsplit
        have hpage := congrFun hpages c.page.val
        rcases h.insertPage_new hpos.1 hagrees hpages fun hc => hupdates (hcompletes hpage hc) with
          ⟨hout, hreceives, hfreed⟩
        rw [hpage]
        exact ⟨hout, hreceives, fun hkeeps =>
          hfreed fun hc hgone => hkeeps ⟨hcompletes hpage hc, hgone⟩⟩
  · rw [if_pos (hdropped.mpr hnew), if_pos hnew]
    exact ⟨rfl, h, fun _ => rfl⟩

end Receives

/-- The change of location concerns the node. -/
def coversNode (plmn lac ci : Bool) (node : CbsAssemblyNode) : Bool :=
  (plmn && cbsCompareNodeByGs .plmn node) ||
    ((plmn || lac) && cbsCompareNodeByGs .serviceArea node) ||
    ((plmn || lac || ci) &&
      (cbsCompareNodeByGs .cellImmediate node || cbsCompareNodeByGs .cellNormal node))

lemma coversNode_iff (plmn lac ci : Bool) (hnode : node.serial = serialOf s) :
    coversNode plmn lac ci node = true ↔ covers plmn lac ci s.1.gs = true := by
  unfold coversNode
  simp only [Bool.or_eq_true, Bool.and_eq_true, cbsCompareNodeByGs_iff _ hnode]
  cases s.1.gs <;> simp [covers]

/-- The nodes that it concerns go, and the lists of the scopes that it concerns. -/
lemma cbsAssemblyLocationChanged_spec (a : CbsAssembly) (plmn lac ci : Bool) :
    (cbsAssemblyLocationChanged a plmn lac ci).assemblyList = a.assemblyList.filter (fun node =>
    !coversNode plmn lac ci node) ∧ (∀ gs, (cbsAssemblyLocationChanged a plmn lac ci).recv gs = if
    covers plmn lac ci gs then [] else a.recv gs) ∧ (a.assemblyList.filter (coversNode plmn lac ci)
    = [] → (cbsAssemblyLocationChanged a plmn lac ci).freedTwice = a.freedTwice) := by
  refine ⟨?_, ?_, ?_⟩
  · unfold cbsAssemblyLocationChanged cbsAssemblyExpire coversNode
    cases plmn <;> cases lac <;> cases ci <;>
      simp [filter_filter, Bool.and_comm, Bool.and_assoc, Bool.and_left_comm]
  · intro gs
    cases gs <;> cases plmn <;> cases lac <;> cases ci <;> rfl
  · intro hnil
    have hnone : ∀ node ∈ a.assemblyList, coversNode plmn lac ci node = false := by
      intro node hnode
      simpa using filter_eq_nil_iff.mp hnil node hnode
    revert hnone
    unfold cbsAssemblyLocationChanged cbsAssemblyExpire coversNode
    cases plmn <;> cases lac <;> cases ci <;>
      simp +contextual

namespace Receives

variable {total : ℕ → ℕ} {a : CbsAssembly} {r : Reception}

lemma locationChanged (h : Receives total a r) (plmn lac ci : Bool) :
    Receives total (cbsAssemblyLocationChanged a plmn lac ci) (r.step (.locationChanged plmn lac ci)).2 ∧
      (¬ r.Discards (.locationChanged plmn lac ci) →
        (cbsAssemblyLocationChanged a plmn lac ci).freedTwice = a.freedTwice) := by
  rcases cbsAssemblyLocationChanged_spec a plmn lac ci with ⟨hlist, hrecv, hfreed⟩
  have hfunc : ∀ n ∈ a.assemblyList, ∀ s, n.serial = serialOf s →
      (coversNode plmn lac ci n = true ↔ covers plmn lac ci s.1.gs = true) :=
    fun n _ s hs => coversNode_iff plmn lac ci hs
  refine ⟨⟨?_, ?_⟩, ?_⟩
  · rw [hlist]
    exact h.nodes.filter hfunc
  · constructor
    · intro gs o ho
      rw [hrecv] at ho
      split at ho
      · simp at ho
      · exact h.recv.serial gs o ho
    · intro s
      rw [hrecv]
      show _ = Option.map _ (if covers plmn lac ci s.1.gs then none else r.last s.1)
      split
      · rfl
      · exact h.recv.find s
  · intro hkeeps
    exact hfreed (h.nodes.filter_eq_nil hfunc fun s p hcovers hp => hkeeps ⟨s, p, hcovers, hp⟩)

/-- One call: what it returns is what it is for, and the lists go on holding what is
known. -/
lemma step (h : Receives total a r) (call : CbsCall)
    (hagrees : ∀ c, call = .addPage c → Agrees total c.val) (hside : r.Comparable call) :
    (cbsStep a call).1 = (r.step call).1 ∧ Receives total (cbsStep a call).2 (r.step call).2 ∧
      (¬ r.Discards call → (cbsStep a call).2.freedTwice = a.freedTwice) := by
  cases call with
  | addPage c => exact h.addPage c (hagrees c rfl) hside
  | locationChanged plmn lac ci => exact ⟨rfl, h.locationChanged plmn lac ci⟩

end Receives

/-! ## Runs -/

/-- In a run that compares update numbers on one side of the circle only, every call
returns what it is for; and if no call gives up pages, no list of pages is freed
twice. -/
theorem cbs_assembly_run (total : ℕ → ℕ) (calls : List CbsCall) (hagrees : ∀ c, .addPage c ∈ calls →
    Agrees total c.val) (hside : Machine.AllSteps Reception.step Reception.Comparable .empty calls)
    : (Machine.run cbsStep cbsAssemblyNew calls).1 = (Machine.run Reception.step .empty calls).1 ∧
    (Machine.AllSteps Reception.step (fun r call => ¬ r.Discards call) .empty calls →
    (Machine.run cbsStep cbsAssemblyNew calls).2.freedTwice = []) := by
  have hpages := hside.and_inputs (Q := fun call => ∀ c, call = .addPage c → Agrees total c.val)
    fun call hcall c heq => hagrees c (heq ▸ hcall)
  constructor
  · refine (Machine.run_simulation (R := fun r a => Receives total a r) ?_ Receives.new hpages).1.symm
    rintro r a call h ⟨hside, hagrees⟩
    rcases h.step call hagrees hside with ⟨hout, hreceives, -⟩
    exact ⟨hout.symm, hreceives⟩
  · intro hkeeps
    refine (Machine.run_simulation (R := fun r a => Receives total a r ∧ a.freedTwice = []) ?_
      ⟨Receives.new, rfl⟩ (hpages.and hkeeps)).2.2
    rintro r a call ⟨h, hnil⟩ ⟨⟨hside, hagrees⟩, hkeeps⟩
    rcases h.step call hagrees hside with ⟨hout, hreceives, hfreed⟩
    exact ⟨hout.symm, hreceives, (hfreed hkeeps).trans hnil⟩

/-- Two updates of a message that has one page. -/
theorem cbs_assembly_run_next :
    ∃ c d : CbsPage, c.val.updateNumber = 1 ∧ d.val.updateNumber = 2 ∧
      (Machine.run cbsStep cbsAssemblyNew [.addPage c, .addPage d]).1 = [some [c.val], some [d.val]] := by
  refine ⟨⟨⟨.plmn, 1, 1, 0, 0x0f, 1, 1, List.replicate 82 0x0d⟩,
      [0x40, 0x11, 0x00, 0x00, 0x0f, 0x11] ++ List.replicate 82 0x0d, by decide⟩,
    ⟨⟨.plmn, 1, 2, 0, 0x0f, 1, 1, List.replicate 82 0x0d⟩,
      [0x40, 0x12, 0x00, 0x00, 0x0f, 0x11] ++ List.replicate 82 0x0d, by decide⟩, rfl, rfl, ?_⟩
  refine (cbs_assembly_run (fun _ => 1) _ ?_ ?_).1.trans (by decide)
  · intro c hc
    rcases mem_pair.mp hc with heq | heq
    · obtain rfl := CbsCall.addPage.inj heq
      decide
    · obtain rfl := CbsCall.addPage.inj heq
      decide
  · refine ⟨⟨by simp [Reception.empty], fun hc => absurd rfl hc.2.1⟩,
      ⟨by decide, fun hc => absurd rfl hc.2.1⟩, trivial⟩

/-- After update 8 of a message its update 9 is dropped. -/
theorem cbs_assembly_run_lost : ∃ c d : CbsPage, c.val.key = d.val.key ∧ c.val.updateNumber = 8 ∧
    d.val.updateNumber = 9 ∧ Agrees (fun _ => 1) c.val ∧ Agrees (fun _ => 1) d.val ∧ (Machine.run
    cbsStep cbsAssemblyNew [.addPage c, .addPage d]).1 = [some [c.val], none] ∧ (Machine.run
    Reception.step .empty [.addPage c, .addPage d]).1 = [some [c.val], some [d.val]] := by
  refine ⟨⟨⟨.plmn, 1, 8, 0, 0x0f, 1, 1, List.replicate 82 0x0d⟩,
      [0x40, 0x18, 0x00, 0x00, 0x0f, 0x11] ++ List.replicate 82 0x0d, by decide⟩,
    ⟨⟨.plmn, 1, 9, 0, 0x0f, 1, 1, List.replicate 82 0x0d⟩,
      [0x40, 0x19, 0x00, 0x00, 0x0f, 0x11] ++ List.replicate 82 0x0d, by decide⟩, ?_⟩
  decide

/-! ## Pages that do not agree

Nothing in the code compares the number of a page with how many there are, or how many
two pages of an update say that there are. -/

namespace CbsAssembly

/-- The page goes to a node. -/
def Takes (a : CbsAssembly) (c : Cbs) : Prop :=
  ((a.recv c.gs).find? (cbsCompareRecvBySerial c.newSerial)).all (fun o => cbsIsUpdateNewer c.newSerial o) ∧
    ¬ (c.maxPages.val = 1 ∧ c.page.val = 1) ∧
    ∀ node ∈ a.assemblyList.find? fun node => node.serial == c.newSerial,
      ¬ Bitmap.hasBit node.bitmap c.page.val

/-- A page that goes to a node is one of as many as it says, and says as many as the pages
in the node. -/
def Counts (a : CbsAssembly) : CbsCall → Prop
  | .addPage ⟨c, _⟩ => a.Takes c → c.page ≤ c.maxPages ∧
      ∀ node ∈ a.assemblyList.find? fun node => node.serial == c.newSerial,
        ∀ d ∈ node.pages, d.maxPages = c.maxPages
  | .locationChanged _ _ _ => True

/-- Every node has pages of one update. -/
def Counted (a : CbsAssembly) : Prop :=
  ∀ node ∈ a.assemblyList, ∃ m received, node.Holds m received ∧ node.pages ≠ []

lemma Counted.filter {a b : CbsAssembly} (h : a.Counted) (hsub : b.assemblyList ⊆ a.assemblyList) :
    b.Counted :=
  fun node hnode => h node (hsub hnode)

end CbsAssembly

/-- The pages `1..m` of an update, each of them one of `m`. -/
def InOrder (pages : List Cbs) : Prop :=
  ∃ m, (∀ c ∈ pages, c.maxPages.val = m) ∧ pages.map (fun c => c.page.val) = List.range' 1 m

lemma insertPage_counts {a : CbsAssembly} {c : Cbs} {before after : List CbsAssemblyNode}
    {node : CbsAssemblyNode} {received : ℕ → Option Cbs} (hnode : node.Holds c.maxPages.val received)
    (hpos : 1 ≤ c.page.val) (hle : c.page ≤ c.maxPages) (hnone : received c.page.val = none)
    (hrest : ∀ n ∈ before ++ after, ∃ m received, n.Holds m received ∧ n.pages ≠ []) :
    (∀ l, (insertPage a before node after c (node.position c.page.val)).1 = some l → InOrder l) ∧
      (insertPage a before node after c (node.position c.page.val)).2.Counted := by
  have hadd := hnode.add rfl hpos hle hnone
  have hlist := hadd.list
  dsimp only at hlist
  unfold insertPage
  dsimp only
  split
  · rename_i hmissing
    refine ⟨by simp, ?_⟩
    intro n hn
    rcases mem_append.mp hn with hn | hn
    · exact hrest n (mem_append_left _ hn)
    · rcases mem_cons.mp hn with rfl | hn
      · exact ⟨_, _, hadd, by simp [gSlistInsert]⟩
      · exact hrest n (mem_append_right _ hn)
  · rename_i hfull
    constructor
    · rintro l hl
      obtain rfl := Option.some.inj hl
      have hlen := Numbered.length_copies_le c.maxPages.val
        (Function.update received c.page.val (some c))
      have hcomplete : Complete c.maxPages.val (Function.update received c.page.val (some c)) := by
        rw [Numbered.complete_iff]
        rw [hlist] at hfull
        omega
      rw [hlist]
      refine ⟨c.maxPages.val, ?_, ?_⟩
      · intro d hd
        rcases Numbered.mem_copies.mp hd with ⟨p, -, -, hp⟩
        exact (hadd.page p d hp).2.1
      · exact Numbered.map_copies (fun p d hp => (hadd.page p d hp).1) hcomplete
    · intro n hn
      rw [CbsAssembly.setRecv_assemblyList] at hn
      exact hrest n (mem_filter.mp hn).1

variable {a : CbsAssembly}

lemma insertPage_counts_held (h : a.Counted) {c : Cbs} (hpos : 1 ≤ c.page.val)
    (hle : c.page ≤ c.maxPages) {before after : List CbsAssemblyNode} {node : CbsAssemblyNode}
    (hlist : a.assemblyList = before ++ node :: after) (hbit : ¬ Bitmap.hasBit node.bitmap
    c.page.val = true) (hsame : ∀ d ∈ node.pages, d.maxPages = c.maxPages) :
    (∀ l, (insertPage a before node after c (node.position c.page.val)).1 = some l → InOrder l) ∧
    (insertPage a before node after c (node.position c.page.val)).2.Counted := by
  rcases h node (by rw [hlist]; simp) with ⟨m, received, hnode, hne⟩
  -- a page that is there already says how many there are
  rcases exists_mem_of_ne_nil _ hne with ⟨d, hd⟩
  have hm : c.maxPages.val = m := by
    have hmem := hd
    rw [hnode.list] at hmem
    rcases Numbered.mem_copies.mp hmem with ⟨p, -, -, hp⟩
    rw [← hsame d hd]
    exact (hnode.page p d hp).2.1
  subst hm
  have hnone : received c.page.val = none := by
    have := hnode.bitmap c.page.val c.page.isLt
    simpa [hbit] using this
  refine insertPage_counts hnode hpos hle hnone ?_
  intro n hn
  apply h n
  rw [hlist]
  rcases mem_append.mp hn with hn | hn
  · exact mem_append_left _ hn
  · exact mem_append_right _ (mem_cons_of_mem _ hn)

lemma insertPage_counts_new (h : a.Counted) {c : Cbs} (hpos : 1 ≤ c.page.val) (hle : c.page ≤
    c.maxPages) : (∀ l, (insertPage a [] ⟨c.newSerial, 0, []⟩ a.assemblyList c 0).1 = some l →
    InOrder l) ∧ (insertPage a [] ⟨c.newSerial, 0, []⟩ a.assemblyList c 0).2.Counted := by
  have hnode := CbsAssemblyNode.new_holds c.newSerial c.maxPages.val
  have hadd := @insertPage_counts a c [] _ _ _ hnode hpos hle rfl h
  rw [CbsAssemblyNode.new_position _ c.page.isLt] at hadd
  exact hadd

lemma cbsStep_counts (h : a.Counted) (call : CbsCall) (hcounts : a.Counts call) :
    (∀ l, (cbsStep a call).1 = some l → InOrder l) ∧ (cbsStep a call).2.Counted := by
  cases call with
  | locationChanged plmn lac ci =>
    refine ⟨by simp [cbsStep], h.filter ?_⟩
    unfold cbsStep
    dsimp only
    rw [(cbsAssemblyLocationChanged_spec a plmn lac ci).1]
    exact filter_sublist.subset
  | addPage c =>
    rcases c with ⟨c, pdu, hdecode⟩
    have hpos := (cbsDecode_pos hdecode).1
    unfold cbsStep cbsAssemblyAddPage
    dsimp only
    by_cases hdrop : ((a.recv c.gs).find? (cbsCompareRecvBySerial c.newSerial)).any
        (fun o => !cbsIsUpdateNewer c.newSerial o) = true
    · rw [if_pos hdrop]
      exact ⟨by simp, h⟩
    · rw [if_neg hdrop]
      by_cases hone : c.maxPages.val = 1 ∧ c.page.val = 1
      · rw [if_pos hone]
        refine ⟨?_, h.filter (by simp)⟩
        rintro l hl
        obtain rfl := Option.some.inj hl
        exact ⟨1, by simp [hone.1], by simp [hone.2]⟩
      · rw [if_neg hone]
        have hnewer : ((a.recv c.gs).find? (cbsCompareRecvBySerial c.newSerial)).all
            (fun o => cbsIsUpdateNewer c.newSerial o) = true := by
          revert hdrop
          cases (a.recv c.gs).find? (cbsCompareRecvBySerial c.newSerial) <;> simp
        have hfind := splitFind_find? (fun node : CbsAssemblyNode => node.serial == c.newSerial)
          a.assemblyList
        cases hsplit : splitFind (fun node => node.serial == c.newSerial) a.assemblyList with
        | some s =>
          rcases s with ⟨before, node, after⟩
          rcases splitFind_eq_some hsplit with ⟨hlist, -, -⟩
          rw [hsplit, Option.map_some] at hfind
          dsimp only
          by_cases hbit : Bitmap.hasBit node.bitmap c.page.val = true
          · rw [if_pos hbit]
            exact ⟨by simp, h⟩
          · rw [if_neg hbit]
            have htakes : a.Takes c := by
              refine ⟨hnewer, hone, ?_⟩
              rintro n hn
              rw [← hfind] at hn
              obtain rfl := Option.some.inj hn
              exact hbit
            rcases hcounts htakes with ⟨hle, hsame⟩
            exact insertPage_counts_held h hpos hle hlist hbit (hsame node (by rw [← hfind]; rfl))
        | none =>
          rw [hsplit, Option.map_none] at hfind
          have htakes : a.Takes c := ⟨hnewer, hone, by simp [← hfind]⟩
          exact insertPage_counts_new h hpos (hcounts htakes).1

/-- In a run whose pages agree with those that they are put with, what is returned is
always all pages of an update in order. -/
theorem cbs_assembly_pages_in_order (calls : List CbsCall)
    (hcounts : Machine.AllSteps cbsStep CbsAssembly.Counts cbsAssemblyNew calls) :
    ∀ l, some l ∈ (Machine.run cbsStep cbsAssemblyNew calls).1 → InOrder l := by
  have hnew : cbsAssemblyNew.Counted := by
    intro node hnode
    simp [cbsAssemblyNew] at hnode
  have hrun := (@Machine.run_outputs _ _ _ cbsStep CbsAssembly.Counts CbsAssembly.Counted
    (fun out => ∀ l, out = some l → InOrder l)
    (fun a call h hcounts => cbsStep_counts h call hcounts) _ hnew _ hcounts).1
  exact fun l hl => hrun _ hl l rfl

/-- Two pages of two, the second one first. -/
theorem cbs_assembly_pages_in_order_two : ∃ c d : CbsPage, InOrder [d.val, c.val] ∧ (Machine.run
    cbsStep cbsAssemblyNew [.addPage c, .addPage d]).1 = [none, some [d.val, c.val]] := by
  have hc : ∃ pdu, cbsDecode pdu = some ⟨.plmn, 1, 1, 0, 0x0f, 2, 2, List.replicate 82 0x0d⟩ :=
    ⟨[0x40, 0x11, 0x00, 0x00, 0x0f, 0x22] ++ List.replicate 82 0x0d, by decide⟩
  have hd : ∃ pdu, cbsDecode pdu = some ⟨.plmn, 1, 1, 0, 0x0f, 2, 1, List.replicate 82 0x0d⟩ :=
    ⟨[0x40, 0x11, 0x00, 0x00, 0x0f, 0x12] ++ List.replicate 82 0x0d, by decide⟩
  have hrun : (Machine.run cbsStep cbsAssemblyNew [.addPage ⟨_, hc⟩, .addPage ⟨_, hd⟩]).1 =
      [none, some [⟨.plmn, 1, 1, 0, 0x0f, 2, 1, List.replicate 82 0x0d⟩,
        ⟨.plmn, 1, 1, 0, 0x0f, 2, 2, List.replicate 82 0x0d⟩]] := by
    simp only [Machine.run, cbsStep]
    decide
  refine ⟨⟨_, hc⟩, ⟨_, hd⟩, ?_, hrun⟩
  refine cbs_assembly_pages_in_order [.addPage ⟨_, hc⟩, .addPage ⟨_, hd⟩] ?_ _ ?_
  · refine ⟨fun _ => ⟨by decide, by simp [cbsAssemblyNew]⟩, fun _ => ⟨by decide, ?_⟩, trivial⟩
    simp only [cbsStep]
    decide
  · rw [hrun]
    simp

/-- Page 5 of 2 and page 1 of 2 are returned as a message of two pages. -/
theorem cbs_assembly_pages_missing : ∃ c d : CbsPage, c.val.page = 5 ∧ c.val.maxPages = 2 ∧
    d.val.page = 1 ∧ d.val.maxPages = 2 ∧ (Machine.run cbsStep cbsAssemblyNew
    [.addPage c, .addPage d]).1 = [none, some [d.val, c.val]] ∧ ¬ InOrder [d.val, c.val] := by
  have hc : ∃ pdu, cbsDecode pdu = some ⟨.plmn, 1, 1, 0, 0x0f, 2, 5, List.replicate 82 0x0d⟩ :=
    ⟨[0x40, 0x11, 0x00, 0x00, 0x0f, 0x52] ++ List.replicate 82 0x0d, by decide⟩
  have hd : ∃ pdu, cbsDecode pdu = some ⟨.plmn, 1, 1, 0, 0x0f, 2, 1, List.replicate 82 0x0d⟩ :=
    ⟨[0x40, 0x11, 0x00, 0x00, 0x0f, 0x12] ++ List.replicate 82 0x0d, by decide⟩
  refine ⟨⟨_, hc⟩, ⟨_, hd⟩, rfl, rfl, rfl, rfl, ?_, ?_⟩
  · simp only [Machine.run, cbsStep]
    decide
  · rintro ⟨m, hmax, hpages⟩
    obtain rfl : 2 = m := hmax _ mem_cons_self
    have hnumbers : [1, 5] = List.range' 1 2 := hpages
    exact absurd hnumbers (by decide)

end Phonelets.Sms
