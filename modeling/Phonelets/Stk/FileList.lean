import Phonelets.Lib.SList
import Phonelets.Stk.ValueRoundTrip

/-! # The list of a file list object

`parse_dataobj_file_list` builds the list in the caller's variable. On an object that ends
in something else than a path it frees the elements, and leaves the variable as it is.
-/

namespace Phonelets.Stk

open List Outcome
open Phonelets.Sms (readOctets)
open Outcome (orFault)

/-! ## The heap -/

/-- The loop of `parse_dataobj_file_list` with the heap and the list: also what is left. -/
def fileListHeapLoop (l : List UInt8) (heap : SHeap StkFile) (fl : Option ℕ) :
    Outcome ((SHeap StkFile × Option ℕ) × List UInt8) :=
  match _h : stkFileIterNext l with
  | none => .ok ((heap, fl), l)
  | some (file, rest) => do
      let sf ← orFault (Filled.store 8 file)
      let (heap, fl) := heap.prepend fl sf
      fileListHeapLoop rest heap fl
termination_by l.length
decreasing_by exact stkFileIterNext_length _h

/-- `parse_dataobj_file_list` with the heap and the caller's list: whether it returns `TRUE`. -/
def parseDataobjFileListHeap (data : List UInt8) (heap : SHeap StkFile) (fl : Option ℕ) :
    Outcome (Bool × SHeap StkFile × Option ℕ) :=
  if data.length < 5 then .ok (false, heap, fl)
  else do
    let octets ← readOctets data 1 (data.length - 1)
    let ((heap, fl), rest) ← fileListHeapLoop octets heap fl
    if rest.length ≠ 0 then
      -- what `*fl` points to is freed, and `*fl` still points to it
      let heap ← heap.freeAll fl
      return (false, heap, fl)
    else
      let (heap, fl) ← heap.reverse fl
      return (true, heap, fl)

/-! ## Paths -/

/-- The path of a file: a chain of file types from the master file to an elementary file, each
with a second octet of its identifier. -/
inductive FilePath : List UInt8 → Prop where
  | underMaster (a b : UInt8) : FilePath [0x3f, a, 0x2f, b]
  | underFirst (a b c : UInt8) : FilePath [0x3f, a, 0x7f, b, 0x6f, c]
  | underSecond (a b c d : UInt8) : FilePath [0x3f, a, 0x7f, b, 0x5f, c, 0x4f, d]

lemma FilePath.length {file : List UInt8} (h : FilePath file) :
    4 ≤ file.length ∧ file.length ≤ 8 := by
  cases h <;> simp

lemma FilePath.next {file : List UInt8} (h : FilePath file) (rest : List UInt8) :
    stkFileIterNext (file ++ rest) = some (file, rest) := by
  cases h <;> rfl

lemma filePathLength_cases {lastType : UInt8} {n len : ℕ} {l : List UInt8}
    (h : filePathLength lastType n l = some len) : ∃ type b rest, l = type :: b :: rest ∧
    fileTypeAfter lastType type = true ∧ ((isElementaryFile type = true ∧ len = n + 2) ∨
    (isElementaryFile type = false ∧ filePathLength type (n + 2) rest = some len)) := by
  rcases l with _ | ⟨type, _ | ⟨b, rest⟩⟩
  · cases h
  · cases h
  · rw [filePathLength] at h
    split_ifs at h with hafter helem
    · cases h
      exact ⟨type, b, rest, rfl, hafter, .inl ⟨helem, rfl⟩⟩
    · exact ⟨type, b, rest, rfl, hafter, .inr ⟨Bool.eq_false_iff.mpr helem, h⟩⟩

lemma filePath_of_next {l file rest : List UInt8} (h : stkFileIterNext l = some (file, rest)) :
    FilePath file ∧ l = file ++ rest := by
  refine ⟨?_, (stkFileIterNext_split h).1⟩
  unfold stkFileIterNext at h
  split_ifs at h with hshort hhead
  obtain ⟨len, hlen, heq⟩ := Option.map_eq_some_iff.mp h
  obtain ⟨m, a, l, rfl⟩ : ∃ m a t, l = m :: a :: t := by
    rcases l with _ | ⟨m, _ | ⟨a, t⟩⟩
    · simp at hshort
    · simp at hshort
    · exact ⟨m, a, t, rfl⟩
  obtain rfl : m = 0x3f := by simpa using hhead
  rw [Prod.mk.injEq] at heq
  obtain ⟨rfl, -⟩ := heq
  obtain ⟨type, b, l, rfl, hafter, hnext⟩ := filePathLength_cases hlen
  rcases fileTypeAfter_cases hafter with ⟨rfl, -⟩ | ⟨-, hlast⟩ | ⟨-, hlast⟩ | ⟨rfl, -⟩ | ⟨-, hlast⟩
  · obtain ⟨-, rfl⟩ := hnext.resolve_right (fun hno => Bool.noConfusion hno.1)
    exact .underMaster a b
  · cases hlast
  · cases hlast
  · obtain ⟨-, hlen⟩ := hnext.resolve_left (fun hno => Bool.noConfusion hno.1)
    obtain ⟨type, c, l, rfl, hafter, hnext⟩ := filePathLength_cases hlen
    rcases fileTypeAfter_cases hafter with ⟨-, hlast⟩ | ⟨rfl, -⟩ | ⟨-, hlast⟩ | ⟨-, hlast⟩ | ⟨rfl, -⟩
    · cases hlast
    · obtain ⟨-, rfl⟩ := hnext.resolve_right (fun hno => Bool.noConfusion hno.1)
      exact .underFirst a b c
    · cases hlast
    · cases hlast
    · obtain ⟨-, hlen⟩ := hnext.resolve_left (fun hno => Bool.noConfusion hno.1)
      obtain ⟨type, d, l, rfl, hafter, hnext⟩ := filePathLength_cases hlen
      rcases fileTypeAfter_cases hafter with ⟨-, hlast⟩ | ⟨-, hlast⟩ | ⟨rfl, -⟩ | ⟨-, hlast⟩ | ⟨-, hlast⟩
      · cases hlast
      · cases hlast
      · obtain ⟨-, rfl⟩ := hnext.resolve_right (fun hno => Bool.noConfusion hno.1)
        exact .underSecond a b c d
      · cases hlast
      · cases hlast
  · cases hlast

/-! ## Runs -/

/-- The list and what is left of the octets after the paths that they begin with. -/
lemma fileListHeapLoop_spells (l : List UInt8) {heap : SHeap StkFile} {fl : Option ℕ} {as : List ℕ}
    {xs : List StkFile} (hs : heap.Spells fl as xs) (hnodup : as.Nodup) : ∃ heap' fl' as', ∃ files :
    List StkFile, ∃ rest, fileListHeapLoop l heap fl = .ok ((heap', fl'), rest) ∧
    heap'.Spells fl' as' (files.reverse ++ xs) ∧ as'.Nodup ∧ l = files.flatMap Filled.octets ++
    rest ∧ (∀ f ∈ files, FilePath f.octets) ∧ stkFileIterNext rest = none := by
  induction l using fileListLoop.induct generalizing heap fl as xs with
  | case1 l h =>
    refine ⟨heap, fl, as, [], l, ?_, hs, hnodup, rfl, fun f hf => absurd hf not_mem_nil, h⟩
    rw [fileListHeapLoop, h]
  | case2 l file rest h ih =>
    obtain ⟨hpath, hsplit⟩ := filePath_of_next h
    obtain ⟨hspells, hnodup'⟩ := hs.prepend hnodup ⟨file, hpath.length.2⟩
    obtain ⟨heap', fl', as', files, left, hrun, hspells', hnodup'', hrest, hpaths, hend⟩ :=
      ih hspells hnodup'
    refine ⟨heap', fl', as', ⟨file, hpath.length.2⟩ :: files, left, ?_, ?_, hnodup'', ?_, ?_, hend⟩
    · rw [fileListHeapLoop, h]
      dsimp only
      rw [Filled.store_eq_some hpath.length.2, orFault_some, ok_bind]
      exact hrun
    · rw [reverse_cons, append_assoc]
      exact hspells'
    · rw [hsplit, flatMap_cons, append_assoc, ← hrest]
    · rw [forall_mem_cons]
      exact ⟨hpath, hpaths⟩

lemma paths_unique {files gs : List StkFile} {rest left : List UInt8}
    (hfiles : ∀ f ∈ files, FilePath f.octets) (hgs : ∀ g ∈ gs, FilePath g.octets)
    (hrest : stkFileIterNext rest = none) (hleft : stkFileIterNext left = none) (h : files.flatMap
    Filled.octets ++ rest = gs.flatMap Filled.octets ++ left) : files = gs ∧ rest = left := by
  induction files generalizing gs with
  | nil =>
    cases gs with
    | nil => exact ⟨rfl, h⟩
    | cons g gs =>
      rw [flatMap_nil, nil_append, flatMap_cons, append_assoc] at h
      rw [h, (hgs g mem_cons_self).next] at hrest
      cases hrest
  | cons f files ih =>
    cases gs with
    | nil =>
      rw [flatMap_nil, nil_append, flatMap_cons, append_assoc] at h
      rw [← h, (hfiles f mem_cons_self).next] at hleft
      cases hleft
    | cons g gs =>
      rw [flatMap_cons, flatMap_cons, append_assoc, append_assoc] at h
      have hnext := (hfiles f mem_cons_self).next (files.flatMap Filled.octets ++ rest)
      rw [h, (hgs g mem_cons_self).next, Option.some.injEq, Prod.mk.injEq] at hnext
      obtain rfl : g = f := Filled.ext hnext.1
      obtain ⟨rfl, hsame⟩ := ih (fun f hf => hfiles f (mem_cons_of_mem _ hf))
        (fun g hg => hgs g (mem_cons_of_mem _ hg)) hnext.2.symm
      exact ⟨rfl, hsame⟩

/-! ## What the caller is left with -/

/-- The octets are paths one after the other. -/
def IsPaths (octets : List UInt8) (files : List StkFile) : Prop :=
  files ≠ [] ∧ (∀ f ∈ files, FilePath f.octets) ∧ octets = files.flatMap Filled.octets

/-- `TRUE` for paths one after the other, which the list then holds; an empty list after
`FALSE`, and no way to an element that has been freed. -/
def ListAsPromised (octets : List UInt8) (result : Bool) (heap : SHeap StkFile)
    (fl : Option ℕ) : Prop :=
  (result = true ↔ ∃ files, IsPaths octets files) ∧
    (result = true → ∀ files, IsPaths octets files → ∃ as, heap.Spells fl as files) ∧
    (result = false → fl = none ∧ ¬ heap.ReachesFreed fl)

lemma stkFileIterNext_nil : stkFileIterNext [] = none := rfl

lemma no_path_of_short {octets : List UInt8} (h : octets.length < 4) :
    (¬ ∃ files, IsPaths octets files) ∧ ¬ ∃ file, FilePath file ∧ file <+: octets := by
  have hbegins : ¬ ∃ file, FilePath file ∧ file <+: octets := by
    rintro ⟨file, hpath, hbegins⟩
    have hle := hbegins.length_le
    have hfour := hpath.length.1
    omega
  refine ⟨?_, hbegins⟩
  rintro ⟨files, hne, hpaths, rfl⟩
  obtain ⟨f, tail, rfl⟩ := exists_cons_of_ne_nil hne
  exact hbegins ⟨f.octets, hpaths f mem_cons_self, prefix_append _ _⟩

/-- The list is as promised exactly if the octets after the count are paths one after the
other, or do not begin with a path. -/
theorem parseDataobjFileList_promise_iff (data : List UInt8) (heap : SHeap StkFile) :
    ∃ result heap' fl, parseDataobjFileListHeap data heap none = .ok (result, heap', fl) ∧
      (ListAsPromised data.tail result heap' fl ↔
        (∃ files, IsPaths data.tail files) ∨ ¬ ∃ file, FilePath file ∧ file <+: data.tail) := by
  unfold parseDataobjFileListHeap
  by_cases hshort : data.length < 5
  · have hlen : data.tail.length < 4 := by
      rw [length_tail]
      omega
    obtain ⟨hpaths, hbegins⟩ := no_path_of_short hlen
    refine ⟨false, heap, none, by rw [if_pos hshort], ?_⟩
    simp [ListAsPromised, hpaths, hbegins, SHeap.not_reachesFreed_none]
  · obtain ⟨count, octets, rfl⟩ := exists_cons_of_ne_nil (l := data) (by
      rintro rfl
      exact hshort (by simp))
    have hread : readOctets (count :: octets) 1 ((count :: octets).length - 1) = .ok octets := by
      unfold readOctets
      rw [if_pos (by rw [length_cons]; omega)]
      simp
    obtain ⟨heap', fl', as', files, rest, hrun, hspells, hnodup, hsplit, hfiles, hend⟩ :=
      fileListHeapLoop_spells octets (SHeap.Spells.nil (h := heap)) nodup_nil
    rw [append_nil] at hspells
    have hunique : ∀ gs, IsPaths octets gs → files = gs ∧ rest = [] := by
      rintro gs ⟨-, hgs, hoctets⟩
      exact paths_unique hfiles hgs hend stkFileIterNext_nil
        (by rw [← hsplit, hoctets, append_nil])
    rw [if_neg hshort, hread, ok_bind, hrun, ok_bind, tail_cons]
    dsimp only
    by_cases hrest : rest = []
    · obtain ⟨heap'', q, hreverse, hlist⟩ := hspells.reverse hnodup
      rw [reverse_reverse] at hlist
      have hpaths : IsPaths octets files := by
        refine ⟨?_, hfiles, by rw [hsplit, hrest, append_nil]⟩
        rintro rfl
        rw [hrest, flatMap_nil, append_nil] at hsplit
        rw [hsplit] at hshort
        exact hshort (by simp)
      refine ⟨true, heap'', q, ?_, ?_⟩
      · rw [if_neg (by rw [hrest]; simp), hreverse]
        rfl
      · refine iff_of_true ⟨iff_of_true rfl ⟨files, hpaths⟩, ?_, ?_⟩ (.inl ⟨files, hpaths⟩)
        · intro _ gs hgs
          obtain ⟨rfl, -⟩ := hunique gs hgs
          exact ⟨_, hlist⟩
        · intro hfalse
          cases hfalse
    · have hno : ¬ ∃ gs, IsPaths octets gs := by
        rintro ⟨gs, hgs⟩
        exact hrest (hunique gs hgs).2
      obtain ⟨heap'', hfree, -, -⟩ := hspells.freeAll hnodup
      refine ⟨false, heap'', fl', ?_, ?_⟩
      · rw [if_pos (by simpa using hrest), hfree]
        rfl
      · cases files with
        | nil =>
          -- nothing has been read, so there was nothing to free
          cases hspells
          have hbegins : ¬ ∃ file, FilePath file ∧ file <+: octets := by
            rintro ⟨file, hpath, tail, rfl⟩
            rw [flatMap_nil, nil_append] at hsplit
            rw [← hsplit, hpath.next] at hend
            cases hend
          simp [ListAsPromised, hno, hbegins, SHeap.not_reachesFreed_none]
        | cons f files =>
          have hfl : fl' ≠ none := by
            rintro rfl
            rw [reverse_cons] at hspells
            generalize hxs : files.reverse ++ [f] = xs at hspells
            cases hspells
            simp at hxs
          have hbegins : ∃ file, FilePath file ∧ file <+: octets := by
            refine ⟨f.octets, hfiles f mem_cons_self, ?_⟩
            rw [hsplit, flatMap_cons, append_assoc]
            exact prefix_append _ _
          simp [ListAsPromised, hno, hbegins, hfl]

/-- After a path and an octet that begins none, the caller's list leads to the element of the
path, which has been freed. -/
theorem parseDataobjFileList_dangling : ¬ ∀ (data : List UInt8) (heap : SHeap StkFile)
    (result : Bool) (heap' : SHeap StkFile) (fl : Option ℕ), parseDataobjFileListHeap data heap
    none = .ok (result, heap', fl) → ListAsPromised data.tail result heap' fl := by
  intro h
  have hpath : FilePath [0x3f, 0x00, 0x2f, 0x05] := .underMaster 0x00 0x05
  have hloop : fileListHeapLoop [0x3f, 0x00, 0x2f, 0x05, 0x00] [] none =
      .ok (([some ⟨some ⟨_, hpath.length.2⟩, none⟩], some 0), [0x00]) := by
    have hnext : stkFileIterNext [0x3f, 0x00, 0x2f, 0x05, 0x00] =
        some ([0x3f, 0x00, 0x2f, 0x05], [0x00]) := hpath.next [0x00]
    rw [fileListHeapLoop, hnext]
    dsimp only
    rw [Filled.store_eq_some hpath.length.2, orFault_some, ok_bind, fileListHeapLoop]
    rfl
  have hrun : parseDataobjFileListHeap [1, 0x3f, 0x00, 0x2f, 0x05, 0x00] [] none =
      .ok (false, [none], some 0) := by
    show (fileListHeapLoop [0x3f, 0x00, 0x2f, 0x05, 0x00] [] none >>= _) = _
    rw [hloop]
    rfl
  have hempty := (h _ _ _ _ _ hrun).2.2 rfl
  cases hempty.1

end Phonelets.Stk
