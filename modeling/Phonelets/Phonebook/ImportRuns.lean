import Phonelets.Lib.Groups
import Phonelets.Lib.Requests
import Phonelets.Phonebook.Import

/-! # Runs of the phonebook

What an export replies is read off the entries that were reported. A second `Import` that comes
during the export is refused in the name of the first, and an entry that has but an additional
number is lost with it; `OfonoPhonebook.Sound` leaves both out.
-/

namespace Phonelets.Phonebook

open List Option
open Phonelets.Groups (group Grouped group_snoc_of_eq group_snoc_of_ne)

namespace OfonoPhonebook

/-! ## Cards -/

/-- The name under which an entry is merged. -/
def mergeName (entry : PhonebookEntry) : Option (List UInt8) :=
  (needMerge entry.text).map Prod.fst

/-- An entry with a card of its own. -/
def hasOwnCard (entry : PhonebookEntry) : Bool :=
  !isBlank entry && (mergeName entry).isNone

/-- The numbers that an entry has on its card. -/
def numbersOf (entry : PhonebookEntry) : List PhonebookNumber :=
  let category := match needMerge entry.text with
    | some (_, c) => categoryOf c
    | none => .other
  [⟨entry.number, entry.type, category⟩, ⟨entry.adnumber, entry.adtype, category⟩]

/-- A field that is there and not empty. -/
def nonEmpty (field : Option (List UInt8)) : Option (List UInt8) := field.filter (· ≠ [])

/-- The card of an entry that has one of its own. -/
def ownCard (entry : PhonebookEntry) : PhonebookPerson :=
  ⟨numbersOf entry, entryName entry, entry.group, entry.email, entry.sipUri⟩

/-- The card that entries share: all their numbers, and of every field the first that there is. -/
def sharedCard (name : List UInt8) (entries : List PhonebookEntry) : PhonebookPerson where
  numberList := entries.flatMap numbersOf
  text := name
  group := entries.findSome? fun entry => nonEmpty entry.group
  email := entries.findSome? fun entry => nonEmpty entry.email
  sipUri := entries.findSome? fun entry => nonEmpty entry.sipUri

/-- The cards of a storage: those of single entries, and one for every name. -/
def storageCards (entries : List PhonebookEntry) (names : List (List UInt8)) :
    List PhonebookPerson :=
  (entries.filter hasOwnCard).map ownCard ++
    names.map fun name => sharedCard name (group mergeName entries name)

/-- The vCards of storages, one behind the other. -/
inductive Exported : List (List PhonebookEntry) → List VCardLine → Prop
  | nil : Exported [] []
  | snoc {storages : List (List PhonebookEntry)} {vcards : List VCardLine}
      {entries : List PhonebookEntry} {names : List (List UInt8)} :
      Exported storages vcards → Grouped mergeName names entries →
      Exported (storages ++ [entries])
        (vcards ++ (storageCards entries names).flatMap printMergedEntry)

def numberLines (vcards : List VCardLine) : List VCardLine :=
  vcards.filter fun
    | .number .. => true
    | _ => false

/-- The numbers of an entry that are to be printed, each once. -/
def printedNumbers (entry : PhonebookEntry) : List VCardLine :=
  (numbersOf entry).flatMap vcardPrintfNumber

/-! ## What is promised -/

/-- What holds after every input: every message is answered once or waits for the driver, and the
reply to an `Import` has the cards of both storages, with every number that was reported. -/
structure Good (s : OfonoPhonebook) : Prop where
  messages : Requests.Accounted (s.replies.map Prod.fst) s.pending.toList s.received
  served : s.pending ≠ none → s.exporting = true
  replies : ∀ msg vcards, (msg, ImportReply.entries vcards) ∈ s.replies →
    s.reported.length = storageSupport.length ∧ Exported s.reported vcards ∧
      (numberLines vcards).Perm (s.reported.flatten.flatMap printedNumbers)

/-- No number is on an entry that is taken for a blank one. -/
def NoneLost (storages : List (List PhonebookEntry)) : Prop :=
  ∀ entry ∈ storages.flatten, isBlank entry = true → printedNumbers entry = []

/-- What an input has to meet: no second `Import` comes while one is pending, and when the last
storage has been exported no number was on a blank entry. -/
def Sound (s : OfonoPhonebook) : PhonebookInput → Prop
  | .importEntries => s.pending = none
  | .entry _ => True
  | .exported _ => s.exporting = true → s.storageIndex + 1 = storageSupport.length →
      NoneLost s.reported

/-! ## Merging -/

lemma mergeFieldGeneric_eq (str1 str2 : Option (List UInt8)) :
    mergeFieldGeneric str1 str2 = str1.or (nonEmpty str2) := by
  unfold mergeFieldGeneric nonEmpty
  cases str1 with
  | some octets => rfl
  | none =>
    cases str2 with
    | none => rfl
    | some octets => cases octets <;> rfl

variable {name : List UInt8} {c : UInt8}

lemma mergeEntry_sharedCard {entry : PhonebookEntry}
    (h : needMerge entry.text = some (name, c)) (entries : List PhonebookEntry) :
    mergeEntry entry c (sharedCard name entries) = sharedCard name (entries ++ [entry]) := by
  unfold mergeEntry sharedCard
  dsimp only
  rw [mergeFieldGeneric_eq, mergeFieldGeneric_eq, mergeFieldGeneric_eq, flatMap_append,
    findSome?_append, findSome?_append, findSome?_append]
  have hnumbers : [entry].flatMap numbersOf =
      [⟨entry.number, entry.type, categoryOf c⟩, ⟨entry.adnumber, entry.adtype, categoryOf c⟩] := by
    rw [flatMap_singleton, numbersOf, h]
  rw [hnumbers]
  simp only [findSome?_cons, findSome?_nil]
  congr 1
  · cases nonEmpty entry.group <;> rfl
  · cases nonEmpty entry.email <;> rfl
  · cases nonEmpty entry.sipUri <;> rfl

variable {names : List (List UInt8)}

lemma mergeInto_map {entry : PhonebookEntry} (card : List UInt8 → PhonebookPerson) (htext : ∀ name, (card name).text = name)
    (hnodup : names.Nodup) (hname : name ∈ names) :
    mergeInto name entry c (names.map card) =
      names.map fun name' => if name' = name then mergeEntry entry c (card name') else card name' := by
  induction names with
  | nil => cases hname
  | cons first rest ih =>
    rw [nodup_cons] at hnodup
    rw [map_cons, map_cons, mergeInto, htext]
    by_cases heq : first = name
    · rw [if_pos heq, if_pos heq]
      congr 1
      apply map_congr_left
      intro name' hname'
      rw [if_neg]
      rintro rfl
      exact hnodup.1 (heq ▸ hname')
    · rw [if_neg heq, if_neg heq, ih hnodup.2]
      rcases mem_cons.mp hname with rfl | hrest
      · exact absurd rfl heq
      · exact hrest

lemma mergeEntries_map {entry : PhonebookEntry} {entries : List PhonebookEntry}
    (h : Grouped mergeName names entries) (hentry : needMerge entry.text = some (name, c)) :
    ∃ names', Grouped mergeName names' (entries ++ [entry]) ∧
    mergeEntries (names.map fun name => sharedCard name (group mergeName entries name)) name entry
    c = names'.map fun name => sharedCard name (group mergeName (entries ++ [entry]) name) := by
  have hmerge : mergeName entry = some name := by
    rw [mergeName, hentry]
    rfl
  have hany : ((names.map fun name => sharedCard name (group mergeName entries name)).any
      fun person => person.text = name) = decide (name ∈ names) := by
    rw [List.any_map, Bool.eq_iff_iff, List.any_eq_true, decide_eq_true_eq]
    constructor
    · rintro ⟨name', hname', heq⟩
      rw [← of_decide_eq_true heq]
      exact hname'
    · intro hname
      exact ⟨name, hname, decide_eq_true rfl⟩
  unfold mergeEntries
  rw [hany]
  by_cases hname : name ∈ names
  · refine ⟨names, h.join hmerge hname, ?_⟩
    rw [if_pos (decide_eq_true hname), mergeInto_map _ (fun _ => rfl) h.nodup hname]
    apply map_congr_left
    intro name' _
    by_cases heq : name' = name
    · rw [if_pos heq, heq, mergeEntry_sharedCard hentry, group_snoc_of_eq hmerge]
    · rw [if_neg heq, group_snoc_of_ne]
      rw [hmerge]
      intro hsame
      exact heq (Option.some.inj hsame).symm
  · refine ⟨name :: names, h.begin hmerge hname, ?_⟩
    have hnone : group mergeName entries name = [] := by
      apply filter_eq_nil_iff.mpr
      intro e he heq
      exact hname ((h.mem name).mpr ⟨e, he, of_decide_eq_true heq⟩)
    rw [if_neg (fun htrue => hname (of_decide_eq_true htrue)), mergeInto, if_pos rfl, map_cons,
      group_snoc_of_eq hmerge, hnone]
    congr 1
    · exact mergeEntry_sharedCard hentry []
    · apply map_congr_left
      intro name' hname'
      rw [group_snoc_of_ne]
      rw [hmerge]
      intro hsame
      rw [Option.some.inj hsame] at hname
      exact hname hname'

/-! ## Printing -/

lemma printEntry_eq {entry : PhonebookEntry} (h : mergeName entry = none) :
    printEntry entry = printMergedEntry (ownCard entry) := by
  have hmerge : needMerge entry.text = none := by
    rw [mergeName, map_eq_none_iff] at h
    exact h
  unfold printEntry printMergedEntry ownCard numbersOf
  rw [hmerge]
  simp only [flatMap_cons, flatMap_nil, append_nil, append_assoc]

lemma numberLines_append (xs ys : List VCardLine) :
    numberLines (xs ++ ys) = numberLines xs ++ numberLines ys := filter_append ..

lemma numberLines_number (pn : PhonebookNumber) :
    numberLines (vcardPrintfNumber pn) = vcardPrintfNumber pn := by
  unfold vcardPrintfNumber
  split
  · rfl
  · split
    · rfl
    · rfl

lemma numberLines_numbers (numbers : List PhonebookNumber) :
    numberLines (numbers.flatMap vcardPrintfNumber) = numbers.flatMap vcardPrintfNumber := by
  induction numbers with
  | nil => rfl
  | cons pn rest ih => rw [flatMap_cons, numberLines_append, numberLines_number, ih]

lemma numberLines_field {line : List UInt8 → VCardLine} (h : ∀ octets, numberLines [line octets] =
    []) (field : Option (List UInt8)) : numberLines (vcardPrintfField line field) = [] := by
  unfold vcardPrintfField
  split
  · rfl
  · split
    · rfl
    · exact h _

lemma numberLines_card (person : PhonebookPerson) :
    numberLines (printMergedEntry person) = person.numberList.flatMap vcardPrintfNumber := by
  unfold printMergedEntry
  rw [numberLines_append, numberLines_append, numberLines_append, numberLines_append,
    numberLines_append, numberLines_numbers, numberLines_field (fun _ => rfl),
    numberLines_field (fun _ => rfl), numberLines_field (fun _ => rfl)]
  show [] ++ _ ++ [] ++ [] ++ [] ++ [] = _
  simp only [append_nil, nil_append]

lemma numberLines_cards (cards : List PhonebookPerson) : numberLines (cards.flatMap
    printMergedEntry) = cards.flatMap fun card => card.numberList.flatMap vcardPrintfNumber := by
  induction cards with
  | nil => rfl
  | cons card rest ih =>
    rw [flatMap_cons, numberLines_append, numberLines_card, ih, flatMap_cons]

lemma isBlank_of_mergeName {entry : PhonebookEntry}
    (h : mergeName entry = some name) : isBlank entry = false := by
  cases htext : entry.text with
  | none =>
    rw [mergeName, htext] at h
    cases h
  | some text =>
    cases text with
    | nil =>
      rw [mergeName, htext] at h
      cases h
    | cons c rest => simp [isBlank, htext]

/-- The cards of a storage have the numbers of its entries, except of those that are blank. -/
lemma numberLines_storageCards {entries : List PhonebookEntry} (h : Grouped mergeName names entries)
    : (numberLines ((storageCards entries names).flatMap printMergedEntry)).Perm
    ((entries.filter fun entry => !isBlank entry).flatMap printedNumbers) := by
  have hshared : (names.flatMap fun name =>
      (group mergeName entries name).flatMap printedNumbers).Perm
        ((entries.filter fun entry => (mergeName entry).isSome).flatMap printedNumbers) :=
    Groups.flatMap_group_perm printedNumbers h.nodup fun entry hentry name hname =>
      (h.mem name).mpr ⟨entry, hentry, hname⟩
  have hlines : numberLines ((storageCards entries names).flatMap printMergedEntry) =
      (entries.filter hasOwnCard).flatMap printedNumbers ++
        names.flatMap fun name => (group mergeName entries name).flatMap printedNumbers := by
    rw [numberLines_cards, storageCards, flatMap_append, flatMap_map, flatMap_map]
    congr 1
    apply flatMap_congr
    intro name _
    exact flatMap_assoc
  -- an entry that is not blank has a card of its own or shares one
  have hsplit : (entries.filter hasOwnCard ++
      entries.filter fun entry => (mergeName entry).isSome).Perm
        (entries.filter fun entry => !isBlank entry) := by
    have hown : entries.filter hasOwnCard =
        (entries.filter fun entry => !isBlank entry).filter fun entry =>
          !(mergeName entry).isSome := by
      rw [List.filter_filter]
      apply filter_congr
      intro entry _
      rw [hasOwnCard, Option.not_isSome, Bool.and_comm]
    have hmerged : (entries.filter fun entry => (mergeName entry).isSome) =
        (entries.filter fun entry => !isBlank entry).filter fun entry =>
          (mergeName entry).isSome := by
      rw [List.filter_filter]
      apply filter_congr
      intro entry _
      cases hname : mergeName entry with
      | none => rfl
      | some name => rw [isBlank_of_mergeName hname]; rfl
    rw [hown, hmerged]
    exact perm_append_comm.trans (filter_append_perm _ _)
  rw [hlines]
  refine (hshared.append_left _).trans ?_
  rw [← flatMap_append]
  exact hsplit.flatMap_right printedNumbers

lemma Exported.numbers {storages : List (List PhonebookEntry)} {vcards : List VCardLine}
    (h : Exported storages vcards) : (numberLines vcards).Perm
    ((storages.flatten.filter fun entry => !isBlank entry).flatMap printedNumbers) := by
  induction h with
  | nil => exact List.Perm.nil
  | @snoc storages vcards entries names _ hgrouped ih =>
    rw [numberLines_append, flatten_append, filter_append, flatMap_append, flatten_singleton]
    exact ih.append (numberLines_storageCards hgrouped)

/-- Every number that was reported is there exactly if none was on a blank entry. -/
lemma Exported.numbers_iff {storages : List (List PhonebookEntry)} {vcards : List VCardLine}
    (h : Exported storages vcards) :
    (numberLines vcards).Perm (storages.flatten.flatMap printedNumbers) ↔ NoneLost storages := by
  have hall : ((storages.flatten.filter isBlank).flatMap printedNumbers ++
      (storages.flatten.filter fun entry => !isBlank entry).flatMap printedNumbers).Perm
        (storages.flatten.flatMap printedNumbers) := by
    rw [← flatMap_append]
    exact (filter_append_perm _ _).flatMap_right printedNumbers
  have hblank : (storages.flatten.filter isBlank).flatMap printedNumbers = [] ↔
      NoneLost storages := by
    rw [flatMap_eq_nil_iff]
    constructor
    · intro hnil entry hentry hblank
      exact hnil entry (mem_filter.mpr ⟨hentry, hblank⟩)
    · intro hnone entry hentry
      rcases mem_filter.mp hentry with ⟨hmem, hblank⟩
      exact hnone entry hmem hblank
  rw [← hblank]
  constructor
  · intro hperm
    have hlength := (h.numbers.symm.trans (hperm.trans hall.symm)).length_eq
    rw [length_append] at hlength
    apply eq_nil_of_length_eq_zero
    omega
  · intro hnil
    rw [hnil, nil_append] at hall
    exact h.numbers.trans hall

/-! ## The invariant -/

/-- A storage is being exported: those before it are printed, and of its entries those that have
cards of their own. -/
structure Exporting (s : OfonoPhonebook) (storages : List (List PhonebookEntry))
    (entries : List PhonebookEntry) (names : List (List UInt8)) : Prop where
  reported : s.reported = storages ++ [entries]
  index : storages.length = s.storageIndex
  bound : s.storageIndex < storageSupport.length
  pending : s.pending ≠ none
  fresh : s.cached = false
  grouped : Grouped mergeName names entries
  mergeList : s.mergeList = names.map fun name => sharedCard name (group mergeName entries name)
  vcards : ∃ before, Exported storages before ∧
    s.vcards = before ++ ((entries.filter hasOwnCard).map ownCard).flatMap printMergedEntry

/-- Nothing is being exported, and what has been is kept. -/
structure Resting (s : OfonoPhonebook) : Prop where
  pending : s.pending = none
  mergeList : s.mergeList = []
  complete : s.cached = true →
    s.reported.length = storageSupport.length ∧ Exported s.reported s.vcards

/-- What every input preserves that has what it has to meet. -/
structure Inv (s : OfonoPhonebook) : Prop where
  messages : Requests.Accounted (s.replies.map Prod.fst) s.pending.toList s.received
  exporting : s.exporting = true → ∃ storages entries names, Exporting s storages entries names
  resting : s.exporting = false → Resting s
  answers : ∀ msg vcards, (msg, ImportReply.entries vcards) ∈ s.replies →
    s.cached = true ∧ vcards = s.vcards
  lost : s.cached = true → NoneLost s.reported

section Steps

variable {s : OfonoPhonebook} {storages : List (List PhonebookEntry)}
  {entries : List PhonebookEntry} {names : List (List UInt8)}

lemma inv_start : Inv start := by
  constructor
  · exact Requests.accounted_nil
  · intro hexporting
    cases hexporting
  · intro _
    refine ⟨rfl, rfl, ?_⟩
    intro hcached
    cases hcached
  · intro msg vcards hmem
    cases hmem
  · intro hcached
    cases hcached

lemma Inv.good (h : Inv s) : Good s := by
  constructor
  · exact h.messages
  · intro hpending
    cases hexporting : s.exporting with
    | true => rfl
    | false => exact absurd (h.resting hexporting).pending hpending
  · intro msg vcards hmem
    rcases h.answers msg vcards hmem with ⟨hcached, rfl⟩
    have hresting : Resting s := by
      apply h.resting
      cases hexporting : s.exporting with
      | false => rfl
      | true =>
        rcases h.exporting hexporting with ⟨storages, entries, names, hexporting⟩
        rw [hexporting.fresh] at hcached
        cases hcached
    rcases hresting.complete hcached with ⟨hlength, hexported⟩
    exact ⟨hlength, hexported, hexported.numbers_iff.mpr (h.lost hcached)⟩

lemma Exporting.entry (h : Exporting s storages entries names) (entry : PhonebookEntry) : ∃ names',
    Exporting (phonebookEntry (report s entry) entry) storages (entries ++ [entry]) names' := by
  have hreported : (report s entry).reported = storages ++ [entries ++ [entry]] := by
    show s.reported.dropLast ++ [s.reported.getLast?.getD [] ++ [entry]] = _
    rw [h.reported, dropLast_concat, getLast?_concat]
    rfl
  rcases h.vcards with ⟨before, hbefore, hvcards⟩
  unfold phonebookEntry
  by_cases hblank : isBlank entry = true
  · have hname : mergeName entry = none := by
      cases hname : mergeName entry with
      | none => rfl
      | some name =>
        rw [isBlank_of_mergeName hname] at hblank
        cases hblank
    have hown : ¬ hasOwnCard entry = true := by
      rw [hasOwnCard, hblank]
      exact Bool.false_ne_true
    rw [if_pos hblank]
    refine ⟨names, hreported, h.index, h.bound, h.pending, h.fresh, h.grouped.skip hname, ?_,
      before, hbefore, ?_⟩
    · refine h.mergeList.trans ?_
      apply map_congr_left
      intro name _
      rw [group_snoc_of_ne]
      rw [hname]
      intro heq
      cases heq
    · rw [filter_append, filter_cons_of_neg hown]
      show s.vcards = _
      rw [filter_nil, append_nil]
      exact hvcards
  · rw [if_neg hblank]
    split
    · next name c hmerge =>
        rcases mergeEntries_map h.grouped hmerge with ⟨names', hgrouped, hmergeList⟩
        have hown : ¬ hasOwnCard entry = true := by
          rw [hasOwnCard, mergeName, hmerge, Bool.and_eq_true]
          intro hboth
          exact absurd hboth.2 Bool.false_ne_true
        refine ⟨names', hreported, h.index, h.bound, h.pending, h.fresh, hgrouped, ?_,
          before, hbefore, ?_⟩
        · show mergeEntries s.mergeList name entry c = _
          rw [h.mergeList]
          exact hmergeList
        · rw [filter_append, filter_cons_of_neg hown]
          show s.vcards = _
          rw [filter_nil, append_nil]
          exact hvcards
    · next hmerge =>
        have hname : mergeName entry = none := by
          rw [mergeName, hmerge]
          rfl
        have hown : hasOwnCard entry = true := by
          rw [hasOwnCard, hname, Bool.eq_false_iff.mpr hblank]
          rfl
        refine ⟨names, hreported, h.index, h.bound, h.pending, h.fresh, h.grouped.skip hname, ?_,
          before, hbefore, ?_⟩
        · refine h.mergeList.trans ?_
          apply map_congr_left
          intro name _
          rw [group_snoc_of_ne]
          rw [hname]
          intro heq
          cases heq
        · show s.vcards ++ printEntry entry = _
          rw [hvcards, printEntry_eq hname, filter_append, filter_cons_of_pos hown, filter_nil,
            map_append, flatMap_append, append_assoc, map_cons, map_nil, flatMap_singleton]

lemma phonebookEntry_frame (s : OfonoPhonebook) (entry : PhonebookEntry) :
    (phonebookEntry s entry).exporting = s.exporting ∧ (phonebookEntry s entry).pending =
    s.pending ∧ (phonebookEntry s entry).replies = s.replies ∧ (phonebookEntry s entry).received =
    s.received ∧ (phonebookEntry s entry).cached = s.cached := by
  unfold phonebookEntry
  split
  · exact ⟨rfl, rfl, rfl, rfl, rfl⟩
  · split
    · exact ⟨rfl, rfl, rfl, rfl, rfl⟩
    · exact ⟨rfl, rfl, rfl, rfl, rfl⟩

lemma Inv.entry (h : Inv s) (hexporting : s.exporting = true) (entry : PhonebookEntry) :
    Inv (phonebookEntry (report s entry) entry) := by
  rcases phonebookEntry_frame (report s entry) entry with
    ⟨hexporting', hpending, hreplies, hreceived, hcached⟩
  rcases h.exporting hexporting with ⟨storages, entries, names, hstorage⟩
  have hfresh : (phonebookEntry (report s entry) entry).cached = false :=
    hcached.trans hstorage.fresh
  constructor
  · rw [hreplies, hpending, hreceived]
    exact h.messages
  · intro _
    rcases hstorage.entry entry with ⟨names', hafter⟩
    exact ⟨storages, entries ++ [entry], names', hafter⟩
  · intro hresting
    rw [hexporting'] at hresting
    exact absurd (hexporting.symm.trans hresting) (by decide)
  · intro msg vcards hmem
    rw [hreplies] at hmem
    have hbefore := (h.answers msg vcards hmem).1
    rw [hstorage.fresh] at hbefore
    cases hbefore
  · intro hafter
    rw [hfresh] at hafter
    cases hafter

lemma importEntries_of_idle (hidle : s.pending = none) (msg : ℕ) :
    importEntries s msg =
      if s.cached then { s with replies := s.replies ++ [(msg, .entries s.vcards)] }
      else
        exportPhonebook
          { s with vcards := [], storageIndex := 0, pending := some msg, reported := [] } := by
  unfold OfonoPhonebook.importEntries
  split
  · next hpending =>
      rw [hidle] at hpending
      cases hpending
  · rfl

lemma importEntries_of_pending {pending : ℕ} (hpending : s.pending = some pending) (msg : ℕ) :
    importEntries s msg = { s with replies := s.replies ++ [(pending, .busy)] } := by
  unfold OfonoPhonebook.importEntries
  split
  · next hfound =>
      rw [hpending, Option.some.injEq] at hfound
      rw [hfound]
  · next hidle =>
      rw [hpending] at hidle
      cases hidle

lemma Inv.importEntries (h : Inv s) (hidle : s.pending = none) :
    Inv (importEntries { s with received := s.received + 1 } s.received) := by
  have hresting : s.exporting = false := by
    cases hexporting : s.exporting with
    | false => rfl
    | true =>
      rcases h.exporting hexporting with ⟨storages, entries, names, hstorage⟩
      exact absurd hidle hstorage.pending
  have hmessages := h.messages
  rw [hidle] at hmessages
  have heq := @importEntries_of_idle { s with received := s.received + 1 } hidle s.received
  rw [heq]
  dsimp only
  split
  · next hcached =>
      constructor
      · show Requests.Accounted ((s.replies ++ [_]).map Prod.fst) s.pending.toList _
        rw [map_append, hidle]
        exact hmessages.answerNew
      · intro hexporting
        rw [hresting] at hexporting
        cases hexporting
      · intro hexporting
        have hbefore := h.resting hexporting
        exact ⟨hbefore.pending, hbefore.mergeList, hbefore.complete⟩
      · intro msg vcards hmem
        rcases mem_append.mp hmem with hold | hnew
        · exact h.answers msg vcards hold
        · rw [mem_singleton, Prod.mk.injEq, ImportReply.entries.injEq] at hnew
          exact ⟨hcached, hnew.2⟩
      · exact h.lost
  · next hcached =>
      have hfresh : s.cached = false := Bool.eq_false_iff.mpr hcached
      constructor
      · exact hmessages.receive
      · intro _
        exact ⟨[], [], [], rfl, rfl, Nat.zero_lt_two, some_ne_none _, hfresh,
          Groups.grouped_nil, (h.resting hresting).mergeList, [], .nil, rfl⟩
      · intro hexporting
        cases hexporting
      · intro msg vcards hmem
        have hbefore := (h.answers msg vcards hmem).1
        exact absurd hbefore hcached
      · intro hafter
        exact absurd hafter hcached

lemma Exporting.exported (h : Exporting s storages entries names) :
    Exported s.reported (s.vcards ++ s.mergeList.reverse.flatMap printMergedEntry) := by
  rcases h.vcards with ⟨before, hbefore, hvcards⟩
  have hstorage := Exported.snoc hbefore h.grouped.reverse
  rw [storageCards, flatMap_append, ← append_assoc, ← hvcards, map_reverse,
    ← h.mergeList] at hstorage
  rw [h.reported]
  exact hstorage

lemma Inv.exportedNext (h : Inv s) (hstorage : Exporting s storages entries names)
    (hmore : s.storageIndex + 1 < storageSupport.length) :
    Inv (exportPhonebookCb { s with exporting := false }) := by
  have hfound : ∃ pb, storageSupport[s.storageIndex + 1]? = some pb :=
    ⟨_, getElem?_eq_getElem hmore⟩
  rcases hfound with ⟨pb, hpb⟩
  unfold exportPhonebookCb exportPhonebook
  dsimp only
  rw [hpb]
  constructor
  · exact h.messages
  · intro _
    refine ⟨s.reported, [], [], rfl, ?_, hmore, hstorage.pending, hstorage.fresh,
      Groups.grouped_nil, rfl, _, hstorage.exported, (append_nil _).symm⟩
    rw [hstorage.reported, length_append, hstorage.index]
    rfl
  · intro hexporting
    cases hexporting
  · intro msg vcards hmem
    have hbefore := (h.answers msg vcards hmem).1
    rw [hstorage.fresh] at hbefore
    cases hbefore
  · intro hcached
    exact absurd (hstorage.fresh.symm.trans hcached) (by decide)

lemma exportPhonebookCb_last (hlast : s.storageIndex + 1 = storageSupport.length) :
    exportPhonebookCb { s with exporting := false } =
      { s with
        exporting := false
        vcards := s.vcards ++ s.mergeList.reverse.flatMap printMergedEntry
        mergeList := []
        storageIndex := s.storageIndex + 1
        pending := none
        replies := s.replies ++ s.pending.toList.map fun msg =>
          (msg, .entries (s.vcards ++ s.mergeList.reverse.flatMap printMergedEntry))
        cached := true } := by
  have hnone : storageSupport[s.storageIndex + 1]? = none := by
    rw [hlast]
    rfl
  unfold exportPhonebookCb exportPhonebook
  dsimp only
  rw [hnone]
  rfl

lemma Exporting.length (h : Exporting s storages entries names) (hlast : s.storageIndex + 1 =
    storageSupport.length) : s.reported.length = storageSupport.length := by
  rw [h.reported, length_append, h.index, ← hlast]
  rfl

lemma Inv.exportedLast (h : Inv s) (hstorage : Exporting s storages entries names)
    (hlast : s.storageIndex + 1 = storageSupport.length) (hlost : NoneLost s.reported) :
    Inv (exportPhonebookCb { s with exporting := false }) := by
  rw [exportPhonebookCb_last hlast]
  constructor
  · rcases ne_none_iff_exists'.mp hstorage.pending with ⟨msg, hmsg⟩
    have hmessages := h.messages
    rw [hmsg] at hmessages
    show Requests.Accounted ((s.replies ++ s.pending.toList.map _).map Prod.fst) [] s.received
    rw [hmsg, map_append]
    exact hmessages.answer
  · intro hexporting
    cases hexporting
  · intro _
    exact ⟨rfl, rfl, fun _ => ⟨hstorage.length hlast, hstorage.exported⟩⟩
  · intro msg vcards hmem
    rcases mem_append.mp hmem with hold | hnew
    · have hbefore := (h.answers msg vcards hold).1
      rw [hstorage.fresh] at hbefore
      cases hbefore
    · rcases mem_map.mp hnew with ⟨msg', -, heq⟩
      rw [Prod.mk.injEq, ImportReply.entries.injEq] at heq
      exact ⟨rfl, heq.2.symm⟩
  · intro _
    exact hlost

end Steps

/-! ## Runs -/

section Runs

variable {s : OfonoPhonebook}

lemma Inv.step (h : Inv s) {input : PhonebookInput} (hsound : Sound s input) :
    ∃ t, step s input = some t ∧ Inv t := by
  cases input with
  | importEntries => exact ⟨_, rfl, h.importEntries hsound⟩
  | entry entry =>
    unfold OfonoPhonebook.step
    dsimp only
    split
    · next hexporting => exact ⟨_, rfl, h.entry hexporting entry⟩
    · exact ⟨s, rfl, h⟩
  | exported error =>
    unfold OfonoPhonebook.step
    dsimp only
    split
    · next hexporting =>
        rcases h.exporting hexporting with ⟨storages, entries, names, hstorage⟩
        refine ⟨_, rfl, ?_⟩
        by_cases hlast : s.storageIndex + 1 = storageSupport.length
        · exact h.exportedLast hstorage hlast (hsound hexporting hlast)
        · have hbound := hstorage.bound
          exact h.exportedNext hstorage (by omega)
    · exact ⟨s, rfl, h⟩

/-- A second message is answered as if it were the first, which is answered again. -/
lemma not_good_importEntries (hpending : s.pending ≠ none) :
    ¬ Good (importEntries { s with received := s.received + 1 } s.received) := by
  intro hgood
  rcases ne_none_iff_exists'.mp hpending with ⟨msg, hmsg⟩
  have heq := @importEntries_of_pending { s with received := s.received + 1 } msg hmsg s.received
  rw [heq] at hgood
  have hmessages := hgood.messages
  rw [map_append] at hmessages
  have hwaits : msg ∈ s.pending.toList := by
    rw [hmsg]
    exact mem_cons_self
  exact hmessages.not_answered hwaits (mem_append_right _ mem_cons_self)

lemma not_good_exported (h : Inv s) (hexporting : s.exporting = true)
    (hlast : s.storageIndex + 1 = storageSupport.length) (hlost : ¬ NoneLost s.reported) :
    ¬ Good (exportPhonebookCb { s with exporting := false }) := by
  intro hgood
  rcases h.exporting hexporting with ⟨storages, entries, names, hstorage⟩
  rcases ne_none_iff_exists'.mp hstorage.pending with ⟨msg, hmsg⟩
  rw [exportPhonebookCb_last hlast] at hgood
  have hreply := hgood.replies msg
    (s.vcards ++ s.mergeList.reverse.flatMap printMergedEntry) (by
      apply mem_append_right
      rw [hmsg]
      exact mem_cons_self)
  exact hlost (hstorage.exported.numbers_iff.mp hreply.2.2)

/-- Every message is answered once, with the cards of all that was reported, exactly if no second
one comes while one is pending and no number is on a blank entry. -/
theorem import_run_iff (inputs : List PhonebookInput) :
    Machine.Safe step Good start inputs ↔ Machine.EachStep step Sound start inputs := by
  refine Machine.safe_iff (fun (s : OfonoPhonebook) (h : Inv s) => h.good) ?_ ?_ inv_start inputs
  · intro s input h hsound
    exact h.step hsound
  · intro s input t h hunsound ht
    cases input with
    | importEntries =>
      rw [← Option.some.inj ht]
      exact not_good_importEntries hunsound
    | entry entry => exact absurd trivial hunsound
    | exported error =>
      unfold Sound at hunsound
      rcases Classical.not_imp.mp hunsound with ⟨hexporting, hrest⟩
      rcases Classical.not_imp.mp hrest with ⟨hlast, hlost⟩
      unfold step at ht
      dsimp only at ht
      rw [if_pos hexporting] at ht
      rw [← Option.some.inj ht]
      exact not_good_exported h hexporting hlast hlost

/-- Of two messages the first is answered twice and the second not at all. -/
theorem second_import_answers_first :
    ¬ ∀ inputs : List PhonebookInput, Machine.Safe step Good start inputs := by
  intro h
  have hrun := h [.importEntries, .importEntries]
  rcases hrun.finish with ⟨t, ht, hgood⟩
  cases ht
  have htwice := hgood.messages 1
  revert htwice
  decide

end Runs

end OfonoPhonebook

end Phonelets.Phonebook
