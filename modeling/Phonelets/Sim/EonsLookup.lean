import Mathlib.Data.Fintype.Option
import Phonelets.Sim.Eons

/-! # Which record of EFopl decides

The first record of the file that fits the network and the location area names the entry of
EFpnn. `sim_eons_add_opl_record` leaves out the records that name an entry which is not there,
and so a later record decides in their place.
-/

namespace Phonelets.Sim

open List Outcome
open Phonelets.Sms (GConvert)
open Phonelets.Stk (dataAt simParseMccMnc)
open Outcome (orFault)

/-! ## Records and networks -/

/-- A record as the callers add it: a number inside of EFpnn, at least eight octets of EFopl. -/
inductive EonsRecord (pnnRecords : ℕ) where
  | pnn (index : Fin pnnRecords) (tlv : List UInt8)
  | opl (contents : List UInt8) (whole : 8 ≤ contents.length)

/-- A network: an MCC of three digits and an MNC of two or three. -/
structure Plmn where
  mcc : Fin 10 × Fin 10 × Fin 10
  mnc : Fin 10 × Fin 10 × Option (Fin 10)

/-- The character of a digit, or the NUL where there is none. -/
def digitChar : Option (Fin 10) → UInt8
  | some d => UInt8.ofNat (0x30 + d.val)
  | none => 0

def Plmn.mccString (p : Plmn) : List UInt8 :=
  [digitChar p.mcc.1, digitChar p.mcc.2.1, digitChar p.mcc.2.2, 0]

def Plmn.mncString (p : Plmn) : List UInt8 :=
  [digitChar p.mnc.1, digitChar p.mnc.2.1] ++ p.mnc.2.2.elim [0] fun d => [digitChar d, 0]

/-- A semi-octet of a record fits a digit that it is, and every digit if it is `0xd`; it fits
no digit if it is `0xf`. -/
def semiOctetFits : Option (Fin 10) → ℕ → Bool
  | some d, n => n = d ∨ n = 0xd
  | none, n => n = 0xf

def octet (contents : List UInt8) (i : ℕ) : ℕ := (contents.getD i 0).toNat

/-- The PLMN of a record matches. -/
def Plmn.Fits (p : Plmn) (contents : List UInt8) : Prop :=
  semiOctetFits p.mcc.1 (octet contents 0 % 16) ∧
    semiOctetFits p.mcc.2.1 (octet contents 0 / 16) ∧
    semiOctetFits p.mcc.2.2 (octet contents 1 % 16) ∧
    semiOctetFits p.mnc.1 (octet contents 2 % 16) ∧
    semiOctetFits p.mnc.2.1 (octet contents 2 / 16) ∧
    semiOctetFits p.mnc.2.2 (octet contents 1 / 16)

instance (p : Plmn) (contents : List UInt8) : Decidable (p.Fits contents) :=
  inferInstanceAs (Decidable (_ ∧ _))

/-- The LAC range of a record is the whole range or contains the LAC. -/
def Covers (lac : Option UInt16) (contents : List UInt8) : Prop :=
  (octet contents 3 * 256 + octet contents 4 = 0 ∧
      octet contents 5 * 256 + octet contents 6 = 0xfffe) ∨
    ∃ l ∈ lac, octet contents 3 * 256 + octet contents 4 ≤ l.toNat ∧
      l.toNat ≤ octet contents 5 * 256 + octet contents 6

instance (lac : Option UInt16) (contents : List UInt8) : Decidable (Covers lac contents) :=
  inferInstanceAs (Decidable (_ ∨ _))

/-- The number of the EFpnn record that a record names. -/
def pnnRecordOf (contents : List UInt8) : ℕ := octet contents 7

/-- The contents of the records of EFopl, in file order. -/
def oplRecords {n : ℕ} (records : List (EonsRecord n)) : List (List UInt8) :=
  records.filterMap fun
    | .opl contents _ => some contents
    | .pnn _ _ => none

/-- The index of the entry that a record names, if EFpnn has such a record. -/
def namedEntry (pnnRecords : ℕ) (contents : List UInt8) : Option ℕ :=
  if 1 ≤ pnnRecordOf contents ∧ pnnRecordOf contents ≤ pnnRecords then
    some (pnnRecordOf contents - 1)
  else none

/-- The first record in file order that decides. -/
def firstMatch (plmn : Plmn) (lac : Option UInt16) (contents : List (List UInt8)) :
    Option (List UInt8) :=
  contents.find? fun c => plmn.Fits c ∧ Covers lac c

/-! ## Runs -/

section Loading

variable (g : GConvert) {n : ℕ}

def addRecord (eons : SimEons) : EonsRecord n → Outcome SimEons
  | .pnn index tlv => simEonsAddPnnRecord g eons (index.val + 1) tlv
  | .opl contents _ => simEonsAddOplRecord eons contents

/-- The records in the order of the callbacks, and then `sim_eons_optimize`. -/
def loadEons (n : ℕ) (records : List (EonsRecord n)) : Outcome SimEons := do
  let eons ← records.foldlM (addRecord g) (simEonsNew n)
  return simEonsOptimize eons

/-- Both lookups. -/
def eonsQuery (eons : SimEons) (plmn : Plmn) : Option UInt16 → Outcome (Option ℕ)
  | none => simEonsLookup eons plmn.mccString plmn.mncString
  | some lac => simEonsLookupWithLac eons plmn.mccString plmn.mncString lac

/-- An entry after a record of EFpnn for it. -/
def filledEntry (tlv : List UInt8) (oper : SimEonsOperatorInfo) : SimEonsOperatorInfo :=
  match fillOperatorInfo g tlv oper with
  | .ok (some filled) => filled
  | _ => oper

/-- The entry of a record of EFpnn after all that has been added for it. -/
def entryAfter (i : Fin n) (records : List (EonsRecord n)) : SimEonsOperatorInfo :=
  records.foldl (fun oper r =>
    match r with
    | .pnn index tlv => if index = i then filledEntry g tlv oper else oper
    | .opl _ _ => oper) {}

lemma fillOperatorInfo_ok (tlv : List UInt8) (oper : SimEonsOperatorInfo) :
    ∃ r, fillOperatorInfo g tlv oper = .ok r := by
  unfold fillOperatorInfo
  split
  · exact ⟨_, rfl⟩
  · dsimp only
    split
    · exact ⟨_, rfl⟩
    · rename_i octets _
      cases h : simStringToUtf8 g octets with
      | ok utf8 => exact ⟨_, rfl⟩
      | reject => exact ⟨_, rfl⟩
      | fault => exact absurd h (simStringToUtf8_ne_fault g octets)

/-! ### What a record of EFopl stores -/

lemma dataAt_of_lt {l : List UInt8} {i : ℕ} (h : i < l.length) : dataAt l i = .ok (l.getD i 0) := by
  rw [dataAt, getElem?_eq_getElem h, getD_eq_getElem l 0 h, orFault_some]

/-- The record of EFopl as it is stored. -/
def operatorOf (contents : List UInt8) : OplOperator :=
  let codes := simParseMccMnc (contents.getD 0 0) (contents.getD 1 0) (contents.getD 2 0)
  ⟨codes.1 ++ [0], codes.2 ++ [0], octet contents 3 <<< 8 ||| octet contents 4,
    octet contents 5 <<< 8 ||| octet contents 6, octet contents 7⟩

lemma oplOperatorAlloc_whole {contents : List UInt8} (h : 8 ≤ contents.length) :
    oplOperatorAlloc contents = .ok (operatorOf contents) := by
  unfold oplOperatorAlloc
  rw [dataAt_of_lt (by omega), dataAt_of_lt (by omega), dataAt_of_lt (by omega),
    dataAt_of_lt (by omega), dataAt_of_lt (by omega), dataAt_of_lt (by omega),
    dataAt_of_lt (by omega), dataAt_of_lt (by omega)]
  rfl

lemma lut_fits : ∀ k < 16, ∀ d : Option (Fin 10), (digitChar d ≠ simParseMccMnc.lut.getD k 0 ∧
    ¬(simParseMccMnc.lut.getD k 0 = 0x62 ∧ digitChar d ≠ 0)) ↔ semiOctetFits d k = false := by
  decide

lemma sameCode_step (d : Option (Fin 10)) {k : ℕ} (hk : k < 16) (turns : ℕ) (code oplCode : List
    UInt8) : sameCode (turns + 1) (digitChar d :: code) (simParseMccMnc.lut.getD k 0 :: oplCode) =
    if semiOctetFits d k then sameCode turns code oplCode else .ok false := by
  rw [sameCode]
  have hfits := lut_fits k hk d
  cases hd : semiOctetFits d k with
  | false => rw [if_pos (hfits.mpr hd), if_neg Bool.false_ne_true]
  | true =>
    rw [if_neg, if_pos rfl]
    intro hdiffer
    rw [hfits.mp hdiffer] at hd
    cases hd

lemma low_semiOctet (b : UInt8) : b.toNat &&& 0xf = b.toNat % 16 :=
  Nat.and_two_pow_sub_one_eq_mod b.toNat 4

lemma high_semiOctet (b : UInt8) : b.toNat >>> 4 = b.toNat / 16 :=
  Nat.shiftRight_eq_div_pow b.toNat 4

lemma high_semiOctet_lt (b : UInt8) : b.toNat / 16 < 16 := by
  have hb := b.toNat_lt
  omega

lemma sameCode_three (d₁ d₂ d₃ : Option (Fin 10)) {k₁ k₂ k₃ : ℕ} (h₁ : k₁ < 16) (h₂ : k₂ < 16)
    (h₃ : k₃ < 16) (code oplCode : List UInt8) :
    sameCode 3 (digitChar d₁ :: digitChar d₂ :: digitChar d₃ :: code) (simParseMccMnc.lut.getD k₁
    0 :: simParseMccMnc.lut.getD k₂ 0 :: simParseMccMnc.lut.getD k₃ 0 :: oplCode) =
    .ok (semiOctetFits d₁ k₁ && semiOctetFits d₂ k₂ && semiOctetFits d₃ k₃) := by
  rw [sameCode_step d₁ h₁, sameCode_step d₂ h₂, sameCode_step d₃ h₃]
  cases semiOctetFits d₁ k₁ <;> cases semiOctetFits d₂ k₂ <;> cases semiOctetFits d₃ k₃ <;> rfl

lemma mncString_eq (p : Plmn) :
    ∃ rest, p.mncString = digitChar p.mnc.1 :: digitChar p.mnc.2.1 :: digitChar p.mnc.2.2 :: rest := by
  unfold Plmn.mncString
  cases p.mnc.2.2 with
  | none => exact ⟨[], rfl⟩
  | some d => exact ⟨[0], rfl⟩

lemma sixteenBits (a b : UInt8) : a.toNat <<< 8 ||| b.toNat = a.toNat * 256 + b.toNat := by
  rw [← Nat.shiftLeft_add_eq_or_of_lt b.toNat_lt, Nat.shiftLeft_eq]

lemma oplMatches_of {mcc mnc : List UInt8} {lac : Option UInt16} {opl : OplOperator} {inMcc inMnc :
    Bool} (hmcc : sameCode 3 mcc opl.mcc = .ok inMcc) (hmnc : sameCode 3 mnc opl.mnc = .ok inMnc) :
    oplMatches mcc mnc lac opl = .ok (inMcc && inMnc && (decide (opl.lacTacLow = 0 ∧ opl.lacTacHigh
    = 0xfffe) || lac.any fun lac => opl.lacTacLow ≤ lac.toNat ∧ lac.toNat ≤ opl.lacTacHigh)) := by
  unfold oplMatches
  rw [hmcc, hmnc]
  cases inMcc with
  | false => rfl
  | true =>
    cases inMnc with
    | false => rfl
    | true =>
      by_cases hwhole : opl.lacTacLow = 0 ∧ opl.lacTacHigh = 0xfffe <;> simp [hwhole]

lemma oplMatches_operatorOf (plmn : Plmn) (lac : Option UInt16) (contents : List UInt8) :
    oplMatches plmn.mccString plmn.mncString lac (operatorOf contents) =
      .ok (decide (plmn.Fits contents ∧ Covers lac contents)) := by
  obtain ⟨rest, hmnc⟩ := mncString_eq plmn
  have hmcc : sameCode 3 plmn.mccString (operatorOf contents).mcc =
      .ok (semiOctetFits plmn.mcc.1 (octet contents 0 % 16) &&
        semiOctetFits plmn.mcc.2.1 (octet contents 0 / 16) &&
        semiOctetFits plmn.mcc.2.2 (octet contents 1 % 16)) := by
    unfold operatorOf simParseMccMnc
    simp only [low_semiOctet, high_semiOctet]
    exact sameCode_three _ _ _ (Nat.mod_lt _ (by omega)) (high_semiOctet_lt _)
      (Nat.mod_lt _ (by omega)) _ _
  have hmnc : sameCode 3 plmn.mncString (operatorOf contents).mnc =
      .ok (semiOctetFits plmn.mnc.1 (octet contents 2 % 16) &&
        semiOctetFits plmn.mnc.2.1 (octet contents 2 / 16) &&
        semiOctetFits plmn.mnc.2.2 (octet contents 1 / 16)) := by
    rw [hmnc]
    unfold operatorOf simParseMccMnc
    simp only [low_semiOctet, high_semiOctet]
    exact sameCode_three _ _ _ (Nat.mod_lt _ (by omega)) (high_semiOctet_lt _)
      (high_semiOctet_lt _) _ _
  rw [oplMatches_of hmcc hmnc, Outcome.ok.injEq, Bool.eq_iff_iff, decide_eq_true_iff]
  unfold operatorOf Plmn.Fits Covers
  simp only [sixteenBits, octet, Bool.and_eq_true, Bool.or_eq_true, decide_eq_true_iff, and_assoc,
    Option.any_eq_true]
  rfl

lemma oplSearch_operatorOf (plmn : Plmn) (lac : Option UInt16) (l : List (List UInt8)) :
    oplSearch plmn.mccString plmn.mncString lac (l.map operatorOf) =
      .ok ((firstMatch plmn lac l).map operatorOf) := by
  induction l with
  | nil => rfl
  | cons contents l ih =>
    rw [map_cons, oplSearch, oplMatches_operatorOf, ok_bind, ih]
    unfold firstMatch
    rw [find?_cons]
    by_cases h : plmn.Fits contents ∧ Covers lac contents
    · rw [if_pos (decide_eq_true h), decide_eq_true h]
      rfl
    · rw [if_neg (by simpa using h), decide_eq_false h]

/-! ### The steps -/

/-- The records that `sim_eons_add_opl_record` keeps. -/
def keptRecords (n : ℕ) (records : List (EonsRecord n)) : List (List UInt8) :=
  (oplRecords records).filter fun c => pnnRecordOf c ≤ n

/-- What the object holds after the records that have been added so far. -/
structure Loaded (records : List (EonsRecord n)) (eons : SimEons) : Prop where
  pnnMax : eons.pnnMax = n
  oplList : eons.oplList = ((keptRecords n records).map operatorOf).reverse
  entry : ∀ i : Fin n, eons.pnnList[i.val]? = some (entryAfter g i records)

lemma Loaded.new (n : ℕ) : Loaded g ([] : List (EonsRecord n)) (simEonsNew n) where
  pnnMax := rfl
  oplList := rfl
  entry i := getElem?_replicate_of_lt i.isLt

variable {g}

lemma entryAfter_snoc_pnn (i index : Fin n) (tlv : List UInt8) (records : List (EonsRecord n)) :
    entryAfter g i (records ++ [.pnn index tlv]) =
      if index = i then filledEntry g tlv (entryAfter g i records) else entryAfter g i records := by
  rw [entryAfter, foldl_append]
  rfl

lemma Loaded.addPnn {records : List (EonsRecord n)} {eons : SimEons} (h : Loaded g records eons)
    (index : Fin n) (tlv : List UInt8) : ∃ eons', addRecord g eons (.pnn index tlv) = .ok eons' ∧
    Loaded g (records ++ [.pnn index tlv]) eons' := by
  have hkept : keptRecords n (records ++ [.pnn index tlv]) = keptRecords n records := by
    unfold keptRecords oplRecords
    rw [filterMap_append]
    exact congrArg _ (append_nil _)
  obtain ⟨r, hr⟩ := fillOperatorInfo_ok g tlv (entryAfter g index records)
  have hfilled : filledEntry g tlv (entryAfter g index records) =
      r.getD (entryAfter g index records) := by
    rw [filledEntry, hr]
    cases r <;> rfl
  rw [addRecord, simEonsAddPnnRecord, if_neg (Nat.succ_ne_zero _), Nat.add_sub_cancel,
    h.entry index, orFault_some, ok_bind, hr, ok_bind]
  cases r with
  | none =>
    refine ⟨eons, rfl, h.pnnMax, hkept ▸ h.oplList, ?_⟩
    intro i
    rw [entryAfter_snoc_pnn, h.entry i]
    split
    · rename_i hi
      rw [← hi, hfilled]
      rfl
    · rfl
  | some oper =>
    refine ⟨_, rfl, h.pnnMax, hkept ▸ h.oplList, ?_⟩
    intro i
    have hlt : index.val < eons.pnnList.length := by
      rw [eons.allocated, h.pnnMax]
      exact index.isLt
    rw [entryAfter_snoc_pnn]
    change (eons.pnnList.set index.val oper)[i.val]? = _
    by_cases hi : index = i
    · rw [if_pos hi, ← hi, hfilled, getElem?_set_self hlt]
      rfl
    · rw [if_neg hi, getElem?_set_ne (Fin.val_ne_of_ne hi), h.entry i]

lemma Loaded.addOpl {records : List (EonsRecord n)} {eons : SimEons} (h : Loaded g records eons)
    {contents : List UInt8} (whole : 8 ≤ contents.length) : ∃ eons', addRecord g eons (.opl contents
    whole : EonsRecord n) = .ok eons' ∧ Loaded g (records ++ [.opl contents whole]) eons' := by
  have hentry : ∀ i : Fin n, entryAfter g i (records ++ [.opl contents whole]) =
      entryAfter g i records := by
    intro i
    rw [entryAfter, foldl_append]
    rfl
  have hopl : oplRecords (records ++ [.opl contents whole]) = oplRecords records ++ [contents] := by
    unfold oplRecords
    rw [filterMap_append]
    rfl
  rw [addRecord, simEonsAddOplRecord, oplOperatorAlloc_whole whole, ok_bind]
  by_cases hid : pnnRecordOf contents ≤ n
  · refine ⟨{ eons with oplList := operatorOf contents :: eons.oplList }, ?_, h.pnnMax, ?_, ?_⟩
    · rw [if_neg]
      · rfl
      · rw [h.pnnMax]
        exact Nat.not_lt.mpr hid
    · rw [keptRecords, hopl, filter_append, filter_cons_of_pos (by simpa using hid),
        filter_nil, map_append, reverse_append, h.oplList]
      rfl
    · intro i
      rw [hentry]
      exact h.entry i
  · refine ⟨eons, ?_, h.pnnMax, ?_, ?_⟩
    · rw [if_pos]
      · rfl
      · rw [h.pnnMax]
        exact Nat.lt_of_not_le hid
    · rw [keptRecords, hopl, filter_append, filter_cons_of_neg (by simpa using hid),
        filter_nil, append_nil, h.oplList]
      rfl
    · intro i
      rw [hentry]
      exact h.entry i

lemma loadEons_ok (records : List (EonsRecord n)) :
    ∃ eons, Loaded g records eons ∧ loadEons g n records = .ok (simEonsOptimize eons) := by
  have hstep : ∀ (pre : List (EonsRecord n)) (r : EonsRecord n) (post : List (EonsRecord n))
      (eons : SimEons), records = pre ++ r :: post → Loaded g pre eons →
      ∃ eons', addRecord g eons r = .ok eons' ∧ Loaded g (pre ++ [r]) eons' := by
    intro pre r post eons _ hpre
    cases r with
    | pnn index tlv => exact hpre.addPnn index tlv
    | opl contents whole => exact hpre.addOpl whole
  obtain ⟨eons, hrun, hloaded⟩ := foldlM_ok (Loaded g) hstep (Loaded.new g n)
  refine ⟨eons, hloaded, ?_⟩
  rw [loadEons, hrun]
  rfl

end Loading

/-! ## What decides -/

/-- The first match names a record up to the last one of EFpnn, or no record that is kept and
matches names one. -/
def DecidedByKept {n : ℕ} (records : List (EonsRecord n)) (plmn : Plmn) (lac : Option UInt16) :
    Prop :=
  (∀ c ∈ firstMatch plmn lac (oplRecords records), pnnRecordOf c ≤ n) ∨
    ∀ c ∈ firstMatch plmn lac (keptRecords n records), pnnRecordOf c = 0

variable {n : ℕ}

lemma pnnRecordOf_kept {records : List (EonsRecord n)} {plmn : Plmn} {lac : Option UInt16} {c : List
    UInt8} (h : firstMatch plmn lac (keptRecords n records) = some c) : pnnRecordOf c ≤ n := by
  have hmem := mem_of_find?_eq_some h
  simpa using (mem_filter.mp hmem).2

lemma Loaded.query {g : GConvert} {records : List (EonsRecord n)} {eons : SimEons} (h : Loaded g
    records eons) (plmn : Plmn) (lac : Option UInt16) : eonsQuery (simEonsOptimize eons) plmn lac =
    .ok ((firstMatch plmn lac (keptRecords n records)).bind (namedEntry n)) := by
  have hcommon : eonsQuery (simEonsOptimize eons) plmn lac =
      simEonsLookupCommon (simEonsOptimize eons) plmn.mccString plmn.mncString lac := by
    cases lac <;> rfl
  have hlist : (simEonsOptimize eons).oplList = (keptRecords n records).map operatorOf := by
    unfold simEonsOptimize
    rw [h.oplList, reverse_reverse]
  rw [hcommon, simEonsLookupCommon, hlist, oplSearch_operatorOf, ok_bind]
  cases hfirst : firstMatch plmn lac (keptRecords n records) with
  | none => rfl
  | some contents =>
    have hkept := pnnRecordOf_kept hfirst
    have hlength : (simEonsOptimize eons).pnnList.length = n :=
      (simEonsOptimize eons).allocated.trans h.pnnMax
    rw [Option.map_some, Option.bind_some, namedEntry]
    dsimp only
    rw [hlength]
    change (if pnnRecordOf contents = 0 then _ else
      if pnnRecordOf contents - 1 < n then _ else _) = _
    by_cases hzero : pnnRecordOf contents = 0
    · rw [if_pos hzero, if_neg (by omega)]
      rfl
    · rw [if_neg hzero, if_pos (by omega), if_pos (by omega)]
      rfl

lemma find?_filter_of_pos {α : Type} {p q : α → Bool} {l : List α} {a : α}
    (h : l.find? q = some a) (hp : p a = true) : (l.filter p).find? q = some a := by
  obtain ⟨hq, before, after, rfl, hbefore⟩ := find?_eq_some_iff_append.mp h
  rw [find?_eq_some_iff_append]
  refine ⟨hq, before.filter p, after.filter p, ?_, ?_⟩
  · rw [filter_append, filter_cons_of_pos hp]
  · intro b hb
    exact hbefore b (mem_of_mem_filter hb)

/-- The records that are left out do not change the answer exactly when the records decide
without them. -/
lemma firstMatch_kept_iff (records : List (EonsRecord n)) (plmn : Plmn) (lac : Option UInt16) :
    (firstMatch plmn lac (keptRecords n records)).bind (namedEntry n) = (firstMatch plmn lac
    (oplRecords records)).bind (namedEntry n) ↔ DecidedByKept records plmn lac := by
  unfold DecidedByKept
  cases hfirst : firstMatch plmn lac (oplRecords records) with
  | none =>
    have hnone : firstMatch plmn lac (keptRecords n records) = none := by
      rw [firstMatch, find?_eq_none] at hfirst ⊢
      intro c hc
      exact hfirst c (mem_of_mem_filter hc)
    simp [hnone]
  | some c =>
    by_cases hid : pnnRecordOf c ≤ n
    · have hsame : firstMatch plmn lac (keptRecords n records) = some c :=
        find?_filter_of_pos hfirst (by simpa using hid)
      simp [hsame, hid]
    · have hnamed : namedEntry n c = none := if_neg (by omega)
      cases hlater : firstMatch plmn lac (keptRecords n records) with
      | none => simp [hnamed]
      | some later =>
        have hle := pnnRecordOf_kept hlater
        have hentry : namedEntry n later = none ↔ pnnRecordOf later = 0 := by
          unfold namedEntry
          split
          · simp only [reduceCtorEq, false_iff]
            omega
          · simp only [true_iff]
            omega
        simp [hnamed, hid, hentry]

/-- For every sequence of records, an MCC, an MNC and an optional LAC: the answer points into
the list of the entries, which hold what has been added for them. It is the one of the first
match exactly when no later record decides for a record that was left out. -/
theorem simEonsLookup_first_iff (g : GConvert) (n : ℕ) (records : List (EonsRecord n)) (plmn : Plmn)
    (lac : Option UInt16) : ∃ eons r, loadEons g n records = .ok eons ∧
    (∀ i : Fin n, eons.pnnList[i.val]? = some (entryAfter g i records)) ∧ eonsQuery eons plmn lac =
    .ok r ∧ (∀ i ∈ r, i < n) ∧ (r = (firstMatch plmn lac (oplRecords records)).bind (namedEntry n) ↔
    DecidedByKept records plmn lac) := by
  obtain ⟨eons, hloaded, hrun⟩ := loadEons_ok (g := g) records
  refine ⟨simEonsOptimize eons, _, hrun, hloaded.entry, hloaded.query plmn lac, ?_,
    firstMatch_kept_iff records plmn lac⟩
  intro i hi
  obtain ⟨contents, -, hnamed⟩ := Option.bind_eq_some_iff.mp hi
  unfold namedEntry at hnamed
  split at hnamed
  · cases hnamed
    omega
  · cases hnamed

/-- A record for exactly this network names entry 2 of 1, and the answer is entry 1, which a
record with a wildcard names. -/
theorem simEonsLookup_skips_first : ¬ ∀ (g : GConvert) (n : ℕ) (records : List (EonsRecord n)) (plmn
    : Plmn) (lac : Option UInt16) (eons : SimEons), loadEons g n records = .ok eons → eonsQuery eons
    plmn lac = .ok ((firstMatch plmn lac (oplRecords records)).bind (namedEntry n)) := by
  intro h
  have hfirst := h ⟨fun _ => none, fun _ => none⟩ 1
    [.opl [0x42, 0xf6, 0x18, 0, 0, 0xff, 0xfe, 2] (by simp),
      .opl [0x42, 0xf6, 0x1d, 0, 0, 0xff, 0xfe, 1] (by simp)]
    ⟨(2, 4, 6), (8, 1, none)⟩ none _ rfl
  cases hfirst

end Phonelets.Sim
