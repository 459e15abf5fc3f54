import Mathlib
import Phonelets.Lib.Bsearch
import Phonelets.Sim.BerFind
import Phonelets.Sim.CompLength

/-! # The answer to a SELECT of a 3G card

`sim_parse_3g_get_response` looks for the size, the identifier and the descriptor of a file in
the template that the card answers with, and for the rights in a table of known files.
-/

namespace Phonelets.Sim

open Option

/-! ## The table of files -/

/-- Who may do something with a file. -/
inductive EfPerm where
  | alw
  | pin
  | pin2
  | adm
  | nev

def EfPerm.code : EfPerm → UInt8
  | .alw => 0
  | .pin => 1
  | .pin2 => 2
  | .adm => 4
  | .nev => 15

/-- `struct sim_ef_info`, with the fields that `sim_parse_3g_get_response` reads. -/
structure SimEfInfo where
  id : ℕ
  permRead : EfPerm
  permUpdate : EfPerm

def efDb : List SimEfInfo :=
  [⟨0x2f05, .alw, .pin⟩, ⟨0x2fe2, .alw, .nev⟩, ⟨0x4f20, .pin, .adm⟩, ⟨0x5f50, .pin, .adm⟩,
    ⟨0x6f05, .alw, .pin⟩, ⟨0x6f07, .pin, .adm⟩, ⟨0x6f11, .pin, .pin⟩, ⟨0x6f13, .pin, .pin⟩,
    ⟨0x6f14, .pin, .adm⟩, ⟨0x6f15, .pin, .pin⟩, ⟨0x6f16, .pin, .adm⟩, ⟨0x6f17, .pin, .pin⟩,
    ⟨0x6f18, .pin, .adm⟩, ⟨0x6f19, .pin, .pin⟩, ⟨0x6f38, .pin, .adm⟩, ⟨0x6f3a, .pin, .pin⟩,
    ⟨0x6f3b, .pin, .pin2⟩, ⟨0x6f40, .pin, .pin⟩, ⟨0x6f45, .pin, .pin⟩, ⟨0x6f46, .alw, .adm⟩,
    ⟨0x6f48, .pin, .adm⟩, ⟨0x6f49, .pin, .adm⟩, ⟨0x6f4d, .pin, .pin2⟩, ⟨0x6f50, .pin, .pin⟩,
    ⟨0x6f56, .pin, .pin2⟩, ⟨0x6fad, .alw, .adm⟩, ⟨0x6fae, .alw, .adm⟩, ⟨0x6fb7, .alw, .adm⟩,
    ⟨0x6fc5, .alw, .adm⟩, ⟨0x6fc6, .alw, .adm⟩, ⟨0x6fc7, .pin, .pin⟩, ⟨0x6fc9, .pin, .pin⟩,
    ⟨0x6fca, .pin, .pin⟩, ⟨0x6fcb, .pin, .pin⟩, ⟨0x6fcd, .pin, .adm⟩, ⟨0x6fde, .alw, .adm⟩,
    ⟨0x7f10, .alw, .alw⟩, ⟨0x7f20, .alw, .alw⟩, ⟨0x7fff, .alw, .alw⟩]

def simEfDbLookup (id : ℕ) : Option SimEfInfo := Bsearch.bsearch SimEfInfo.id efDb id

lemma efDb_sorted : Bsearch.Sorted SimEfInfo.id efDb := by decide

/-- The table is in order: the binary search finds the entry of the file, if there is one. -/
theorem simEfDbLookup_eq (id : ℕ) : simEfDbLookup id = efDb.find? fun info => info.id = id :=
  Bsearch.bsearch_eq_find? efDb_sorted

/-! ## The answer -/

/-- What is returned through the pointers. -/
structure GetResponse where
  fileLen : ℤ
  recordLen : ℕ
  fileStructure : ℕ
  access : List UInt8
  efid : UInt16

/-- The octets of the file size, collected in 32 bits behind the first one. -/
def foldFileSize (tlv : List UInt8) : ℕ :=
  (tlv.drop 1).foldl (fun flen o => (flen <<< 8 ||| o.toNat) % 2 ^ 32) (tlv.getD 0 0).toNat

/-- The structure for the first octet of a descriptor. -/
def structureOf (fd : UInt8) : Option ℕ :=
  if fd &&& 0x3 = 1 then some 0x00
  else if fd &&& 0x3 = 2 then some 0x01
  else if fd &&& 0x3 = 6 then some 0x03
  else none

/-- Who may read and who may update a file; guessed for one that the table does not have. -/
def rightsOf (id : ℕ) : UInt8 :=
  match simEfDbLookup id with
  | none => 0x11
  | some info => info.permRead.code <<< 4 ||| info.permUpdate.code

def accessOf (id : UInt16) (str : ℕ) : List UInt8 :=
  [rightsOf id.toNat, if str = 0x03 then 0x1f else 0xff, 0x44]

/-- What is made of the three elements. -/
def getResponseOf (size fid tlv : List UInt8) (str : ℕ) : GetResponse :=
  let id := (fid.getD 0 0).toUInt16 <<< 8 ||| (fid.getD 1 0).toUInt16
  { fileLen := (foldFileSize size : ℤ).bmod (2 ^ 32)
    recordLen := if str ≠ 0x00 then (tlv.getD 3 0).toNat else 0
    fileStructure := str
    access := accessOf id str
    efid := id }

/-- `sim_parse_3g_get_response`; `none` stands for `FALSE`. -/
def simParse3gGetResponse (data : List UInt8) : Option GetResponse := do
  let fcp ← berTlvFindByTag data 0x62
  let size ← berTlvFindByTag fcp 0x80
  if size.length < 2 then none
  else do
    let fid ← berTlvFindByTag fcp 0x83
    if fid.length ≠ 2 then none
    else do
      let tlv ← berTlvFindByTag fcp 0x82
      if tlv.length ≠ 2 ∧ tlv.length ≠ 5 then none
      else if tlv.getD 1 0 ≠ 0x21 then none
      else do
        let str ← structureOf (tlv.getD 0 0)
        if str ≠ 0x00 ∧ tlv.length ≠ 5 then none
        else some (getResponseOf size fid tlv str)

/-! ## Templates -/

/-- The descriptor of a working file, shareable or not, with its structure and the length of a
record. The octets about records are there for files with records. -/
inductive WorkingEf : List UInt8 → ℕ → ℕ → Prop
  | transparent {fd : UInt8} (h : fd = 0x01 ∨ fd = 0x41) : WorkingEf [fd, 0x21] 0x00 0
  | transparentRecords {fd a b c : UInt8} (h : fd = 0x01 ∨ fd = 0x41) :
      WorkingEf [fd, 0x21, a, b, c] 0x00 0
  | linearFixed {fd a len n : UInt8} (h : fd = 0x02 ∨ fd = 0x42) :
      WorkingEf [fd, 0x21, a, len, n] 0x01 len.toNat
  | cyclic {fd a len n : UInt8} (h : fd = 0x06 ∨ fd = 0x46) :
      WorkingEf [fd, 0x21, a, len, n] 0x03 len.toNat

/-- The size, the identifier and the descriptor in the template of an answer: of several
elements with a tag the first one counts. -/
def Elements (data size fid tlv : List UInt8) : Prop :=
  ∃ fcp, firstValue 0x62 (berTlvs data) = some fcp ∧ firstValue 0x80 (berTlvs fcp) = some size ∧
    firstValue 0x83 (berTlvs fcp) = some fid ∧ firstValue 0x82 (berTlvs fcp) = some tlv

/-- The template describes a working file. -/
def Describes (data : List UInt8) (flen id str rlen : ℕ) : Prop :=
  ∃ size fid tlv, Elements data size fid tlv ∧ 2 ≤ size.length ∧ size.length ≤ 4 ∧
    fid.length = 2 ∧ flen = bigEndianValue size ∧ id = bigEndianValue fid ∧ WorkingEf tlv str rlen

/-- A described file is answered with what the template says, and nothing else is answered. -/
structure AnswersTemplate (data : List UInt8) : Prop where
  described : ∀ flen id str rlen, Describes data flen id str rlen →
    ∃ r, simParse3gGetResponse data = some r ∧ r.fileLen = flen ∧ r.efid.toNat = id ∧
      r.fileStructure = str ∧ r.recordLen = rlen
  refused : (¬ ∃ flen id str rlen, Describes data flen id str rlen) →
    simParse3gGetResponse data = none

/-- The descriptors that are taken: two bits of the first octet decide. -/
def Taken (tlv : List UInt8) : Prop :=
  (tlv.length = 2 ∨ tlv.length = 5) ∧ tlv.getD 1 0 = 0x21 ∧
    (tlv.getD 0 0 &&& 0x3 = 1 ∨ (tlv.getD 0 0 &&& 0x3 = 2 ∧ tlv.length = 5))

/-- The first octets of the descriptors of transparent and linear fixed working files. -/
def PlainDescriptor (fd : UInt8) : Prop := fd = 0x01 ∨ fd = 0x41 ∨ fd = 0x02 ∨ fd = 0x42

instance : DecidablePred PlainDescriptor := fun fd =>
  inferInstanceAs (Decidable (fd = 0x01 ∨ fd = 0x41 ∨ fd = 0x02 ∨ fd = 0x42))

/-- Where the descriptor is taken, the size fits an `int` and the file is a transparent or a
linear fixed working file. -/
def TakenPlain (data : List UInt8) : Prop :=
  ∀ size fid tlv, Elements data size fid tlv → 2 ≤ size.length → fid.length = 2 → Taken tlv →
    size.length ≤ 4 ∧ bigEndianValue size < 2 ^ 31 ∧ PlainDescriptor (tlv.getD 0 0)

/-! ## What is taken -/

variable {data size fid tlv : List UInt8} {r : GetResponse}

lemma Elements.unique {size' fid' tlv' : List UInt8} (h : Elements data size fid tlv)
    (h' : Elements data size' fid' tlv') : size = size' ∧ fid = fid' ∧ tlv = tlv' := by
  obtain ⟨fcp, hfcp, hsize, hfid, htlv⟩ := h
  obtain ⟨fcp', hfcp', hsize', hfid', htlv'⟩ := h'
  obtain rfl : fcp = fcp' := Option.some.inj (hfcp.symm.trans hfcp')
  exact ⟨Option.some.inj (hsize.symm.trans hsize'), Option.some.inj (hfid.symm.trans hfid'),
    Option.some.inj (htlv.symm.trans htlv')⟩

variable {str : ℕ}

lemma structureOf_eq_some {fd : UInt8} : structureOf fd = some str ↔
    (fd &&& 0x3 = 1 ∧ str = 0) ∨ (fd &&& 0x3 = 2 ∧ str = 1) := by
  -- two bits are never 6
  have hsix : fd &&& 0x3 ≠ 6 := by
    intro h
    have hle : (fd &&& 0x3).toNat ≤ 3 := by
      rw [UInt8.toNat_and]
      exact Nat.and_le_right
    rw [h] at hle
    exact absurd hle (by decide)
  unfold structureOf
  by_cases hone : fd &&& 0x3 = 1
  · simp [hone, eq_comm]
  · by_cases htwo : fd &&& 0x3 = 2
    · simp [htwo, eq_comm]
    · simp [hone, htwo, hsix]

lemma simParse3gGetResponse_eq_some : simParse3gGetResponse data = some r ↔
    ∃ size fid tlv str, Elements data size fid tlv ∧ 2 ≤ size.length ∧ fid.length = 2 ∧ Taken tlv ∧
      structureOf (tlv.getD 0 0) = some str ∧ r = getResponseOf size fid tlv str := by
  unfold simParse3gGetResponse Elements
  simp only [berTlvFindByTag_eq, bind_eq_bind, bind_eq_some_iff]
  constructor
  · rintro ⟨fcp, hfcp, size, hsize, h⟩
    split_ifs at h with hshort
    obtain ⟨fid, hfid, h⟩ := bind_eq_some_iff.mp h
    split_ifs at h with hlen
    obtain ⟨tlv, htlv, h⟩ := bind_eq_some_iff.mp h
    split_ifs at h with hcount hcoding
    obtain ⟨str, hstr, h⟩ := bind_eq_some_iff.mp h
    split_ifs at h with hrecords
    refine ⟨size, fid, tlv, str, ⟨fcp, hfcp, hsize, hfid, htlv⟩, by omega, not_not.mp hlen,
      ⟨by omega, not_not.mp hcoding, ?_⟩, hstr, (Option.some.inj h).symm⟩
    rcases structureOf_eq_some.mp hstr with ⟨hbits, -⟩ | ⟨hbits, rfl⟩
    · exact .inl hbits
    · exact .inr ⟨hbits, by omega⟩
  · rintro ⟨size, fid, tlv, str, ⟨fcp, hfcp, hsize, hfid, htlv⟩, hlong, hlen, htaken, hstr, rfl⟩
    obtain ⟨hcount, hcoding, hbits⟩ := htaken
    refine ⟨fcp, hfcp, size, hsize, ?_⟩
    have hrecords : ¬ (str ≠ 0x00 ∧ tlv.length ≠ 5) := by
      rintro ⟨hne, hfive⟩
      rcases structureOf_eq_some.mp hstr with ⟨-, rfl⟩ | ⟨htwo, -⟩
      · exact hne rfl
      · rcases hbits with hone | ⟨-, hfive'⟩
        · rw [hone] at htwo
          exact absurd htwo (by decide)
        · exact hfive hfive'
    rw [if_neg (by omega), hfid, bind_some, if_neg (not_not_intro hlen), htlv,
      bind_some, if_neg (by omega), if_neg (not_not_intro hcoding), hstr, bind_some,
      if_neg hrecords]

lemma foldFileSize_eq (h : 2 ≤ size.length) : foldFileSize size = bigEndianValue size % 2 ^ 32 := by
  obtain ⟨o, os, rfl⟩ := List.exists_cons_of_length_pos (by omega : 0 < size.length)
  have hfirst : (0 <<< 8 ||| o.toNat) % 2 ^ 32 = o.toNat := by
    have ho := o.toNat_lt
    rw [shiftLeft_or]
    omega
  rw [← collect_eq, collect, List.foldl_cons, hfirst]
  rfl

lemma fileLen_eq_iff (h : 2 ≤ size.length) : (getResponseOf size fid tlv str).fileLen =
    bigEndianValue size ↔ bigEndianValue size < 2 ^ 31 := by
  have hlen : (getResponseOf size fid tlv str).fileLen = (bigEndianValue size : ℤ).bmod (2 ^ 32) := by
    unfold getResponseOf
    dsimp only
    rw [foldFileSize_eq h, Int.natCast_emod, Int.emod_bmod]
  rw [hlen]
  constructor
  · intro heq
    have hlt := @Int.bmod_lt (bigEndianValue size) (2 ^ 32) (by norm_num)
    rw [heq] at hlt
    omega
  · intro hlt
    exact Int.bmod_eq_of_le (by omega) (by omega)

lemma efid_toNat (h : fid.length = 2) :
    (getResponseOf size fid tlv str).efid.toNat = bigEndianValue fid := by
  obtain ⟨a, b, rfl⟩ := List.length_eq_two.mp h
  have ha := a.toNat_lt
  have hb := b.toNat_lt
  show (a.toUInt16 <<< 8 ||| b.toUInt16).toNat = (0 * 256 + a.toNat) * 256 + b.toNat
  have hshift : a.toNat <<< 8 % 2 ^ 16 = a.toNat <<< 8 :=
    Nat.mod_eq_of_lt (by rw [Nat.shiftLeft_eq]; omega)
  rw [UInt16.toNat_or, UInt16.toNat_shiftLeft, UInt8.toNat_toUInt16, UInt8.toNat_toUInt16,
    Nat.zero_mul, Nat.zero_add, ← shiftLeft_or, ← hshift]
  rfl

/-! ## Descriptors -/

variable {str rlen : ℕ}

lemma WorkingEf.taken (h : WorkingEf tlv str rlen) : Taken tlv := by
  unfold Taken
  cases h with
  | transparent h => rcases h with rfl | rfl <;> decide
  | transparentRecords h =>
    refine ⟨.inr rfl, rfl, .inl ?_⟩
    rw [List.getD_cons_zero]
    rcases h with rfl | rfl <;> decide
  | linearFixed h | cyclic h =>
    refine ⟨.inr rfl, rfl, .inr ⟨?_, rfl⟩⟩
    rw [List.getD_cons_zero]
    rcases h with rfl | rfl <;> decide

lemma WorkingEf.plain_iff (h : WorkingEf tlv str rlen) :
    PlainDescriptor (tlv.getD 0 0) ↔ structureOf (tlv.getD 0 0) = some str := by
  cases h with
  | transparent h | transparentRecords h | linearFixed h | cyclic h =>
    rw [List.getD_cons_zero]
    rcases h with rfl | rfl <;> decide

lemma WorkingEf.recordLen_eq (h : WorkingEf tlv str rlen) :
    (getResponseOf size fid tlv str).recordLen = rlen := by
  cases h <;> rfl

lemma Taken.workingEf (h : Taken tlv) (hplain : PlainDescriptor (tlv.getD 0 0)) :
    ∃ str rlen, WorkingEf tlv str rlen := by
  obtain ⟨hcount, hcoding, hbits⟩ := h
  rcases hcount with htwo | hfive
  · obtain ⟨fd, c, rfl⟩ := List.length_eq_two.mp htwo
    obtain rfl : c = 0x21 := hcoding
    have hone : fd &&& 0x3 = 1 := hbits.resolve_right fun h => absurd h.2 (by simp)
    rcases hplain with h | h | h | h
    · exact ⟨_, _, .transparent (.inl h)⟩
    · exact ⟨_, _, .transparent (.inr h)⟩
    · obtain rfl : fd = 0x02 := h
      exact absurd hone (by decide)
    · obtain rfl : fd = 0x42 := h
      exact absurd hone (by decide)
  · obtain ⟨fd, c, a, len, n, rfl⟩ : ∃ fd c a len n, tlv = [fd, c, a, len, n] := by
      rcases tlv with _ | ⟨fd, _ | ⟨c, _ | ⟨a, _ | ⟨len, _ | ⟨n, _ | ⟨o, tlv⟩⟩⟩⟩⟩⟩ <;>
        simp at hfive ⊢
    obtain rfl : c = 0x21 := hcoding
    rcases hplain with h | h | h | h
    · exact ⟨_, _, .transparentRecords (.inl h)⟩
    · exact ⟨_, _, .transparentRecords (.inr h)⟩
    · exact ⟨_, _, .linearFixed (.inl h)⟩
    · exact ⟨_, _, .linearFixed (.inr h)⟩

/-! ## Templates that are answered -/

lemma answer_of_plain {flen id : ℕ} (h : TakenPlain data) (hdesc : Describes data flen id str rlen) :
    ∃ r, simParse3gGetResponse data = some r ∧ r.fileLen = flen ∧ r.efid.toNat = id ∧
      r.fileStructure = str ∧ r.recordLen = rlen := by
  obtain ⟨size, fid, tlv, helements, hlong, hshort, hfid, rfl, rfl, hef⟩ := hdesc
  obtain ⟨-, hfits, hplain⟩ := h size fid tlv helements hlong hfid hef.taken
  refine ⟨getResponseOf size fid tlv str, ?_, (fileLen_eq_iff hlong).mpr hfits, efid_toNat hfid, rfl,
    hef.recordLen_eq⟩
  exact simParse3gGetResponse_eq_some.mpr
    ⟨size, fid, tlv, str, helements, hlong, hfid, hef.taken, hef.plain_iff.mp hplain, rfl⟩

/-- The mask of the structure keeps two of three bits: the answers to templates are right just
where the file is transparent or linear fixed and a working file and its size fits an `int`. -/
theorem answersTemplate_iff (data : List UInt8) : AnswersTemplate data ↔ TakenPlain data := by
  constructor
  · intro h size fid tlv helements hlong hfid htaken
    obtain ⟨str, hstr⟩ : ∃ str, structureOf (tlv.getD 0 0) = some str := by
      rcases htaken.2.2 with hbits | ⟨hbits, -⟩
      · exact ⟨_, structureOf_eq_some.mpr (.inl ⟨hbits, rfl⟩)⟩
      · exact ⟨_, structureOf_eq_some.mpr (.inr ⟨hbits, rfl⟩)⟩
    have hparse : simParse3gGetResponse data = some (getResponseOf size fid tlv str) :=
      simParse3gGetResponse_eq_some.mpr
        ⟨size, fid, tlv, str, helements, hlong, hfid, htaken, hstr, rfl⟩
    have hdescribes : ∃ flen id str rlen, Describes data flen id str rlen := by
      by_contra hnone
      rw [h.refused hnone] at hparse
      cases hparse
    obtain ⟨flen, id, str', rlen, hdesc⟩ := hdescribes
    obtain ⟨r, hr, hflen, -, hstructure, -⟩ := h.described flen id str' rlen hdesc
    obtain ⟨size', fid', tlv', helements', -, hshort, -, rfl, -, hef⟩ := hdesc
    obtain ⟨rfl, rfl, rfl⟩ := helements.unique helements'
    obtain rfl := Option.some.inj (hparse.symm.trans hr)
    obtain rfl : str = str' := hstructure
    exact ⟨hshort, (fileLen_eq_iff hlong).mp hflen, hef.plain_iff.mpr hstr⟩
  · intro h
    refine ⟨fun flen id str rlen hdesc => answer_of_plain h hdesc, fun hnone => ?_⟩
    rw [eq_none_iff_forall_ne_some]
    intro r hr
    obtain ⟨size, fid, tlv, str, helements, hlong, hfid, htaken, -, -⟩ :=
      simParse3gGetResponse_eq_some.mp hr
    obtain ⟨hshort, -, hplain⟩ := h size fid tlv helements hlong hfid htaken
    obtain ⟨str, rlen, hef⟩ := htaken.workingEf hplain
    exact hnone ⟨_, _, str, rlen, size, fid, tlv, helements, hlong, hshort, hfid, rfl, rfl, hef⟩

/-- A cyclic file of 96 octets in records of 32. -/
def cyclicTemplate : List UInt8 :=
  [0x62, 0x0f, 0x80, 0x02, 0x00, 0x60, 0x83, 0x02, 0x6f, 0x40, 0x82, 0x05, 0x46, 0x21, 0x00, 0x20, 0x03]

/-- It is answered as a linear fixed one. -/
theorem cyclicTemplate_linear : ¬ ∀ data, AnswersTemplate data := by
  intro hall
  have hdesc : Describes cyclicTemplate 0x60 0x6f40 0x03 0x20 :=
    ⟨[0x00, 0x60], [0x6f, 0x40], [0x46, 0x21, 0x00, 0x20, 0x03],
      ⟨_, by rfl, by rfl, by rfl, by rfl⟩, by decide, by decide, by decide, by decide, by decide,
      .cyclic (.inr rfl)⟩
  obtain ⟨r, hr, -, -, hstructure, -⟩ := (hall cyclicTemplate).described _ _ _ _ hdesc
  have hone : (simParse3gGetResponse cyclicTemplate).map GetResponse.fileStructure = some 0x01 := by
    rfl
  rw [hr, map_some, hstructure] at hone
  cases hone

end Phonelets.Sim
