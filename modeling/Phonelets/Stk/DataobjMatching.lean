import Phonelets.Lib.Matching
import Phonelets.Sms.TextRoundTrip
import Phonelets.Stk.Dataobj

/-! # Which handler is called on which TLV

Without lists the handlers leave the iterator alone, and the loop is the placing of the TLVs
in the entries: what is said of slots and items holds of entries and TLVs.
-/

namespace Phonelets.Stk

open List
open Phonelets.Sim
open Phonelets.Sms (GConvert ucs2Codec)

namespace DataobjNode

/-- The tag of its data object. -/
def tag (node : DataobjNode) : ℕ := node.1.type.code

/-- It may not be passed over. -/
def mandatory (node : DataobjNode) : Bool := node.1.mandatory

end DataobjNode

/-- The TLVs placed in the nodes. -/
abbrev placeTlvs (l : List DataobjNode) (es : List CompTlv) :
    Matching.Placement DataobjNode CompTlv :=
  Matching.run DataobjNode.tag DataobjNode.mandatory CompTlv.tag l es

/-- The call for a TLV in a node without a list. -/
def callOf (g : GConvert) (p : DataobjNode × CompTlv) : DataobjCall :=
  ⟨p.1, p.2, handleObject g p.1.1.type p.2.value⟩

/-- The TLVs with a tag in the list. -/
def listed (entries : List DataobjHandlerEntry) (es : List CompTlv) : List CompTlv :=
  es.filter fun e => entries.any (·.type.code = e.tag)

/-- No entry in front of a mandatory one has its type. -/
abbrev Distinguished (entries : List DataobjHandlerEntry) : Prop :=
  Matching.Distinguished DataobjNode.tag DataobjNode.mandatory entries.zipIdx

variable {g : GConvert} {entries : List DataobjHandlerEntry}

lemma searchNode_eq_place (tag : ℕ) (l : List DataobjNode) :
    searchNode tag l = Matching.place DataobjNode.tag DataobjNode.mandatory tag l := by
  induction l with
  | nil => rfl
  | cons node l ih =>
    rw [searchNode, Matching.place, ih]
    rfl

variable {os : List UInt8}

variable {l : List DataobjNode}

lemma walkDataobj_none {rest : List UInt8} {tlv : CompTlv} (hnext : comprehensionTlvIterNext os =
    some (tlv, rest)) (h : searchNode tlv.tag l = none) : walkDataobj g os l = { walkDataobj g rest
    l with parseError := tlv.cr || (walkDataobj g rest l).parseError } := by
  rw [walkDataobj]
  split
  · rename_i hstop
    rw [hnext] at hstop
    cases hstop
  · rename_i hstep
    rw [hnext] at hstep
    cases hstep
    rw [h]

lemma walkDataobj_some {rest : List UInt8} {behind : List DataobjNode} {tlv : CompTlv} {node :
    DataobjNode} (hnext : comprehensionTlvIterNext os = some (tlv, rest)) (h : searchNode tlv.tag l
    = some (node, behind)) (hflat : node.1.list = false) : walkDataobj g os l = { walkDataobj g rest
    behind with parseError := (callOf g (node, tlv)).outcome matches .reject || (walkDataobj g rest
    behind).parseError, calls := callOf g (node, tlv) :: (walkDataobj g rest behind).calls } := by
  have hcall : callHandler g node.1 tlv rest = (handleObject g node.1.type tlv.value, rest) := by
    rw [callHandler, if_neg (by simp [hflat])]
  rw [walkDataobj]
  split
  · rename_i hstop
    rw [hnext] at hstop
    cases hstop
  · rename_i hstep
    rw [hnext] at hstep
    cases hstep
    rw [h]
    dsimp only
    rw [hcall]
    rfl

variable {es : List CompTlv}

lemma walkDataobj_eq (h : CompReads os es) (hflat : ∀ node ∈ l, node.1.list = false) : (walkDataobj
    g os l).calls = (placeTlvs l es).placed.map (callOf g) ∧ (walkDataobj g os l).cursor =
    (placeTlvs l es).behind ∧ (walkDataobj g os l).parseError = ((placeTlvs l es).out.any (·.cr) ||
    (placeTlvs l es).placed.any fun p => (callOf g p).outcome matches .reject) := by
  induction es generalizing os l with
  | nil =>
    obtain rfl : os = [] := h
    rw [walkDataobj]
    exact ⟨rfl, rfl, rfl⟩
  | cons e es ih =>
    obtain ⟨rest, hnext, hrest⟩ := h
    cases hsearch : searchNode e.tag l with
    | none =>
      have hplace := (searchNode_eq_place e.tag l).symm.trans hsearch
      obtain ⟨hcalls, hcursor, herror⟩ := ih hrest hflat
      rw [walkDataobj_none hnext hsearch, placeTlvs, Matching.run_cons_none hplace]
      refine ⟨hcalls, hcursor, ?_⟩
      dsimp only
      rw [herror, any_cons, Bool.or_assoc]
    | some found =>
      have hplace := (searchNode_eq_place e.tag l).symm.trans hsearch
      obtain ⟨passed, hl, -, -⟩ := Matching.place_eq_some hplace
      have hbehind : ∀ node ∈ found.2, node.1.list = false := by
        intro node hnode
        exact hflat node (by simp [hl, hnode])
      obtain ⟨hcalls, hcursor, herror⟩ := ih hrest hbehind
      rw [walkDataobj_some hnext hsearch (hflat found.1 (by simp [hl])), placeTlvs,
        Matching.run_cons_some hplace]
      refine ⟨congrArg (callOf g (found.1, e) :: ·) hcalls, hcursor, ?_⟩
      dsimp only
      rw [herror, any_cons, Bool.or_left_comm]

lemma zipIdx_flat (hflat : ∀ e ∈ entries, e.list = false) :
    ∀ node ∈ entries.zipIdx, node.1.list = false := by
  intro node hnode
  exact hflat node.1 (fst_mem_of_mem_zipIdx hnode)

lemma nodup_zipIdx (entries : List DataobjHandlerEntry) : entries.zipIdx.Nodup := by
  refine List.Nodup.of_map Prod.snd ?_
  rw [zipIdx_map_snd]
  exact nodup_range'

lemma parseDataobj_eq (h : CompReads os es) (hflat : ∀ e ∈ entries, e.list = false) :
    parseDataobj g entries os = (if (placeTlvs entries.zipIdx es).behind.any DataobjNode.mandatory
    then .missingValue else if (placeTlvs entries.zipIdx es).out.any (·.cr) ||
    (placeTlvs entries.zipIdx es).placed.any fun p => (callOf g p).outcome matches .reject then
    .dataNotUnderstood else .ok, (placeTlvs entries.zipIdx es).placed.map (callOf g)) := by
  obtain ⟨hcalls, hcursor, herror⟩ := walkDataobj_eq (g := g) h (zipIdx_flat hflat)
  unfold parseDataobj
  dsimp only
  rw [hcalls, hcursor, herror]
  rfl

/-! ## What the calls are -/

/-- Each of the TLVs is handed to the handler of an entry with its tag, in the order of both and
for each entry once at most. -/
structure CalledInOrder (g : GConvert) (entries : List DataobjHandlerEntry)
    (tlvs : List CompTlv) (calls : List DataobjCall) : Prop where
  each : calls.map DataobjCall.tlv = tlvs
  once : (calls.map DataobjCall.node).Sublist entries.zipIdx
  own : ∀ call ∈ calls, call.node.tag = call.tlv.tag
  handled : ∀ call ∈ calls, call.outcome = handleObject g call.node.1.type call.tlv.value

lemma nodes_callOf (placed : List (DataobjNode × CompTlv)) :
    (placed.map (callOf g)).map DataobjCall.node = placed.map Prod.fst := by
  rw [map_map]
  rfl

lemma tlvs_callOf (placed : List (DataobjNode × CompTlv)) :
    (placed.map (callOf g)).map DataobjCall.tlv = placed.map Prod.snd := by
  rw [map_map]
  rfl

/-- A TLV without an entry that does not ask for comprehension might as well not be there. -/
lemma parseDataobj_insert {os' : List UInt8} {before after : List CompTlv} {e : CompTlv}
    (hflat : ∀ e ∈ entries, e.list = false) (h : CompReads os (before ++ after))
    (h' : CompReads os' (before ++ e :: after)) (hcr : e.cr = false) (htag : ∀ entry ∈ entries,
    entry.type.code ≠ e.tag) : parseDataobj g entries os' = parseDataobj g entries os := by
  have hnone : ∀ node ∈ entries.zipIdx, DataobjNode.tag node ≠ e.tag := by
    intro node hnode
    exact htag node.1 (fst_mem_of_mem_zipIdx hnode)
  obtain ⟨hplaced, hbehind, front, back, hout, hout'⟩ :=
    @Matching.run_insert _ _ _ _ _ DataobjNode.mandatory _ _ e hnone before after
  rw [parseDataobj_eq h hflat, parseDataobj_eq h' hflat, hplaced, hbehind, hout, hout']
  have hsame : (front ++ e :: back).any (·.cr) = (front ++ back).any (·.cr) := by
    rw [any_append, any_append, any_cons, hcr, Bool.false_or]
  rw [hsame]

/-- TLVs for entries in their order, with none of the mandatory ones passed over, are handled. -/
lemma parseDataobj_calls {chosen : List DataobjNode} (hflat : ∀ e ∈ entries, e.list = false)
    (hdistinguished : Distinguished entries) (h : CompReads os es)
    (hchosen : Matching.Chosen DataobjNode.mandatory chosen entries.zipIdx)
    (htags : chosen.map DataobjNode.tag = (listed entries es).map CompTlv.tag) :
    CalledInOrder g entries (listed entries es) (parseDataobj g entries os).2 := by
  have hunlisted : ∀ e : CompTlv, entries.any (·.type.code = e.tag) = false →
      ∀ node ∈ entries.zipIdx, DataobjNode.tag node ≠ e.tag := by
    intro e he node hnode htag
    have hmem := fst_mem_of_mem_zipIdx hnode
    simp only [any_eq_false, decide_eq_true_eq] at he
    exact he node.1 hmem htag
  obtain ⟨hfilter, -⟩ :=
    @Matching.run_filter _ _ _ _ _ DataobjNode.mandatory _ _ _ hunlisted es
  obtain ⟨-, heach⟩ :=
    @Matching.run_of_chosen _ _ _ _ _ _ _ [] _ _ _ hdistinguished (by simp) hchosen htags
  rw [parseDataobj_eq h hflat]
  refine ⟨?_, ?_, ?_, ?_⟩
  · rw [tlvs_callOf, ← hfilter]
    exact heach
  · rw [nodes_callOf]
    exact (sublist_append_left _ _).trans (Matching.run_sublist _ _)
  · intro call hcall
    obtain ⟨p, hp, rfl⟩ := mem_map.mp hcall
    exact Matching.run_key hp
  · intro call hcall
    obtain ⟨p, -, rfl⟩ := mem_map.mp hcall
    rfl

lemma CalledInOrder.nodes_eq {tlvs : List CompTlv} {calls : List DataobjCall}
    {chosen : List DataobjNode} (h : CalledInOrder g entries tlvs calls)
    (hnodup : (entries.map (·.type.code)).Nodup) (hchosen : chosen.Sublist entries.zipIdx) (htags :
    chosen.map DataobjNode.tag = tlvs.map CompTlv.tag) : calls.map DataobjCall.node = chosen := by
  have hkeys : entries.zipIdx.map DataobjNode.tag = entries.map (·.type.code) := by
    have hfst : entries.zipIdx.map Prod.fst = entries := zipIdx_map_fst 0 entries
    nth_rewrite 2 [← hfst]
    rw [map_map]
    rfl
  refine Matching.eq_of_map_eq (hkeys ▸ hnodup) h.once hchosen ?_
  rw [htags, ← h.each, map_map, map_map]
  exact map_congr_left h.own

lemma parseDataobj_missing_iff (hflat : ∀ e ∈ entries, e.list = false) (h : CompReads os es) :
    (parseDataobj g entries os).1 = .missingValue ↔ ∃ node ∈ entries.zipIdx, DataobjNode.mandatory
    node = true ∧ node ∉ (parseDataobj g entries os).2.map DataobjCall.node := by
  rw [parseDataobj_eq h hflat, nodes_callOf, ← Matching.run_behind_iff (nodup_zipIdx entries),
    ← any_eq_true]
  split
  · rename_i hmissing
    simp [hmissing]
  · rename_i hcomplete
    split <;> simp [hcomplete]

/-- In the lists of the commands a type that is mandatory is not listed before, and all types
have handlers. -/
lemma dataobjLists_distinguished : ∀ entries ∈ dataobjLists, Distinguished entries := by
  decide

lemma dataobjLists_handlers (g : GConvert) : ∀ entries ∈ dataobjLists, ∀ e ∈ entries,
    e.list = false → (handlerForType g e.type).isSome = true := by
  have hall : (dataobjLists.all fun entries => entries.all fun e =>
      e.list || (handlerForType g e.type).isSome) = true := rfl
  intro entries hentries e he hflat
  have hentry := all_eq_true.mp (all_eq_true.mp hall entries hentries) e he
  simpa [hflat] using hentry

/-- An unlisted TLV without the CR flag changes nothing wherever it is put in. TLVs for entries
in their order are each handed to the handler once, if no mandatory entry in front of a matched
one is left out; without repeated types it is the handler of the entry they were meant for. A
value is missing exactly if a mandatory entry is not matched. -/
theorem parseDataobj_matches (g : GConvert) (entries : List DataobjHandlerEntry) (hflat : ∀ e ∈
    entries, e.list = false) : (∀ os os' before e after, CompReads os (before ++ after) → CompReads
    os' (before ++ e :: after) → e.cr = false → (∀ entry ∈ entries, entry.type.code ≠ e.tag) →
    parseDataobj g entries os' = parseDataobj g entries os) ∧ (∀ os es chosen, Distinguished entries
    → CompReads os es → Matching.Chosen DataobjNode.mandatory chosen entries.zipIdx → chosen.map
    DataobjNode.tag = (listed entries es).map CompTlv.tag → CalledInOrder g entries (listed entries
    es) (parseDataobj g entries os).2 ∧ ((entries.map (·.type.code)).Nodup → (parseDataobj g entries
    os).2.map DataobjCall.node = chosen)) ∧ (∀ os es, CompReads os es → ((parseDataobj g entries
    os).1 = .missingValue ↔ ∃ node ∈ entries.zipIdx, DataobjNode.mandatory node = true ∧ node ∉
    (parseDataobj g entries os).2.map DataobjCall.node)) ∧ ∀ entries ∈ dataobjLists, Distinguished
    entries ∧ ∀ e ∈ entries, e.list = false → (handlerForType g e.type).isSome = true := by
  refine ⟨?_, ?_, ?_, ?_⟩
  · intro os os' before e after h h' hcr htag
    exact parseDataobj_insert hflat h h' hcr htag
  · intro os es chosen hdistinguished h hchosen htags
    have hcalled := parseDataobj_calls (g := g) hflat hdistinguished h hchosen htags
    refine ⟨hcalled, fun hnodup => ?_⟩
    exact hcalled.nodes_eq hnodup hchosen.sublist htags
  · intro os es h
    exact parseDataobj_missing_iff hflat h
  · intro entries hentries
    exact ⟨dataobjLists_distinguished entries hentries, dataobjLists_handlers g entries hentries⟩

theorem parseDataobj_matches_displayText : (parseDataobj ucs2Codec parseDisplayTextEntries [0x0d,
    0x00, 0x1e, 0x02, 0x00, 0x01]).1 ≠ .missingValue := by
  have hflat : ∀ e ∈ parseDisplayTextEntries, e.list = false := by decide
  have hreads : CompReads [0x0d, 0x00, 0x1e, 0x02, 0x00, 0x01]
      [⟨false, 0x0d, []⟩, ⟨false, 0x1e, [0x00, 0x01]⟩] := ⟨_, rfl, _, rfl, rfl⟩
  obtain ⟨-, hcalled, hmissing, -⟩ :=
    parseDataobj_matches ucs2Codec parseDisplayTextEntries hflat
  have hnodes := (hcalled _ _ [(⟨.text, 3, "text"⟩, 0), (⟨.iconId, 0, "icon_id"⟩, 1)]
    (dataobjLists_distinguished _ (by decide)) hreads (.take _ (.take _ (.done _))) (by decide)).2
      (by decide)
  rw [Ne, hmissing _ _ hreads, hnodes]
  decide

/-- The TLVs follow the list, but a mandatory one is missing in front: the icon is passed over. -/
theorem parseDataobj_after_missing : ¬ ∀ (g : GConvert) (entries : List DataobjHandlerEntry),
    (∀ e ∈ entries, e.list = false) → ∀ os es (chosen : List DataobjNode), CompReads os es →
    chosen.Sublist entries.zipIdx → chosen.map DataobjNode.tag = (listed entries es).map
    CompTlv.tag → (parseDataobj g entries os).2.map DataobjCall.tlv = listed entries es := by
  intro h
  have hreads : CompReads [0x1e, 0x02, 0x00, 0x01] [⟨false, 0x1e, [0x00, 0x01]⟩] :=
    ⟨_, rfl, rfl⟩
  have hflat : ∀ e ∈ parseDisplayTextEntries, e.list = false := by decide
  have hcalls := h ucs2Codec parseDisplayTextEntries hflat _ _ [(⟨.iconId, 0, "icon_id"⟩, 1)] hreads
    (by decide) (by decide)
  rw [parseDataobj_eq hreads hflat, tlvs_callOf] at hcalls
  revert hcalls
  decide

end Phonelets.Stk
