import Phonelets.Sim.BerFind
import Phonelets.Stk.Handlers

/-! # Operator names of the card (EONS)

EFpnn holds names, EFopl says for which network and which location areas a record of EFpnn
holds the name. The records are added as they are read, and the list of those of EFopl is
reversed at the end.
-/

namespace Phonelets.Sim

open Phonelets.Sms (GConvert)
open Phonelets.Stk (dataAt simParseMccMnc)
open Outcome (orFault)

/-! ## Data model -/

structure SimEonsOperatorInfo where
  longname : Option (List UInt8) := none
  longCi : Bool := false
  shortname : Option (List UInt8) := none
  shortCi : Bool := false
  info : Option (List UInt8) := none

/-- `struct opl_operator`; the strings stand in arrays of four characters. -/
structure OplOperator where
  mcc : List UInt8
  mnc : List UInt8
  lacTacLow : ℕ
  lacTacHigh : ℕ
  id : ℕ

structure SimEons where
  pnnList : List SimEonsOperatorInfo
  oplList : List OplOperator
  pnnValid : Bool
  pnnMax : ℕ
  allocated : pnnList.length = pnnMax

/-- `sim_eons_new`, with a `pnn_list` of zeros. -/
def simEonsNew (pnnRecords : ℕ) : SimEons :=
  ⟨List.replicate pnnRecords {}, [], false, pnnRecords, List.length_replicate⟩

/-! ## EFpnn -/

/-- `sim_network_name_parse`: the name, and what is stored through `add_ci` if anything is. -/
def simNetworkNameParse (g : GConvert) : List UInt8 → Option (List UInt8) × Option Bool
  | [] | [_] => (none, none)
  | dcs :: name =>
    let ci := dcs.toNat &&& (1 <<< 4) ≠ 0
    match dcs.toNat &&& (7 <<< 4) with
    | 0x00 =>
      let numChar := (name.length * 8 - (dcs.toNat &&& 0x07)) / 7
      let unpacked := Septets.unpack7bitOwnBuf name 0 false numChar
      ((unpacked.bind Gsm.convertGsmToUtf8).map CString.untilNul, some ci)
    | 0x10 =>
      if name.length % 2 = 1 then
        if name.getLast? ≠ some 0xff then (none, none)
        else ((g.ucs2ToUtf8 name.dropLast).map CString.untilNul, some ci)
      else ((g.ucs2ToUtf8 name).map CString.untilNul, some ci)
    | _ => (none, some ci)

/-- A value that is there and not empty. -/
def foundValue (tlv : List UInt8) (tag : ℕ) : Option (List UInt8) :=
  (berTlvFindByTag tlv tag).filter (· ≠ [])

/-- `NULL` where the function gives up. -/
def orNull {α : Type} : Outcome α → Outcome (Option α)
  | .ok a => .ok (some a)
  | .reject => .ok none
  | .fault => .fault

def fillShortname (g : GConvert) (tlv : List UInt8) (oper : SimEonsOperatorInfo) :
    SimEonsOperatorInfo :=
  match foundValue tlv 0x45 with
  | none => oper
  | some name =>
    let (shortname, ci) := simNetworkNameParse g name
    { oper with shortname, shortCi := ci.getD oper.shortCi }

/-- What a record stores to its entry, nothing if it has no long name. -/
def fillOperatorInfo (g : GConvert) (tlv : List UInt8) (oper : SimEonsOperatorInfo) :
    Outcome (Option SimEonsOperatorInfo) :=
  match foundValue tlv 0x43 with
  | none => .ok none
  | some name =>
    let (longname, ci) := simNetworkNameParse g name
    let oper := fillShortname g tlv { oper with longname, longCi := ci.getD oper.longCi }
    match foundValue tlv 0x80 with
    | none => .ok (some oper)
    | some octets => do
        let utf8 ← orNull (simStringToUtf8 g octets)
        return some { oper with info := utf8.map CString.untilNul }

/-- An entry of the list with the names of a record. -/
def SimEons.store (eons : SimEons) (i : ℕ) (oper : SimEonsOperatorInfo) : SimEons where
  pnnList := eons.pnnList.set i oper
  oplList := eons.oplList
  pnnValid := true
  pnnMax := eons.pnnMax
  allocated := by rw [List.length_set, eons.allocated]

def simEonsAddPnnRecord (g : GConvert) (eons : SimEons) (record : ℕ) (tlv : List UInt8) :
    Outcome SimEons :=
  if record = 0 then .fault
  else do
    let oper ← orFault eons.pnnList[record - 1]?
    match ← fillOperatorInfo g tlv oper with
    | none => return eons
    | some oper => return eons.store (record - 1) oper

/-! ## EFopl -/

def oplOperatorAlloc (record : List UInt8) : Outcome OplOperator := do
  let b₀ ← dataAt record 0
  let b₁ ← dataAt record 1
  let b₂ ← dataAt record 2
  let (mcc, mnc) := simParseMccMnc b₀ b₁ b₂
  let b₃ ← dataAt record 3
  let b₄ ← dataAt record 4
  let b₅ ← dataAt record 5
  let b₆ ← dataAt record 6
  let id ← dataAt record 7
  return ⟨mcc ++ [0], mnc ++ [0], b₃.toNat <<< 8 ||| b₄.toNat, b₅.toNat <<< 8 ||| b₆.toNat, id.toNat⟩

def simEonsAddOplRecord (eons : SimEons) (contents : List UInt8) : Outcome SimEons := do
  let oper ← oplOperatorAlloc contents
  if oper.id > eons.pnnMax then return eons
  else return { eons with oplList := oper :: eons.oplList }

def simEonsOptimize (eons : SimEons) : SimEons := { eons with oplList := eons.oplList.reverse }

/-! ## Lookup -/

/-- The loop over the characters of a code, and of the code of a record. -/
def sameCode : ℕ → List UInt8 → List UInt8 → Outcome Bool
  | 0, _, _ => .ok true
  | turns + 1, c :: code, o :: oplCode =>
    if c ≠ o ∧ ¬(o = 0x62 ∧ c ≠ 0) then .ok false else sameCode turns code oplCode
  | _ + 1, _, _ => .fault

/-- The turn of the loop for one record: whether it breaks; no LAC is `have_lac == FALSE`. -/
def oplMatches (mcc mnc : List UInt8) (lac : Option UInt16) (opl : OplOperator) :
    Outcome Bool := do
  if !(← sameCode 3 mcc opl.mcc) then return false
  else if !(← sameCode 3 mnc opl.mnc) then return false
  else if opl.lacTacLow = 0 ∧ opl.lacTacHigh = 0xfffe then return true
  else return lac.any fun lac => opl.lacTacLow ≤ lac.toNat ∧ lac.toNat ≤ opl.lacTacHigh

/-- The loop of `sim_eons_lookup_common`. -/
def oplSearch (mcc mnc : List UInt8) (lac : Option UInt16) :
    List OplOperator → Outcome (Option OplOperator)
  | [] => .ok none
  | opl :: l => do
      if ← oplMatches mcc mnc lac opl then return some opl
      else oplSearch mcc mnc lac l

/-- `sim_eons_lookup_common`: the index of the entry that the result points to. -/
def simEonsLookupCommon (eons : SimEons) (mcc mnc : List UInt8) (lac : Option UInt16) :
    Outcome (Option ℕ) := do
  match ← oplSearch mcc mnc lac eons.oplList with
  | none => return none
  | some opl =>
    -- 0 is not a valid record id
    if opl.id = 0 then return none
    else if opl.id - 1 < eons.pnnList.length then return some (opl.id - 1)
    else .fault

def simEonsLookup (eons : SimEons) (mcc mnc : List UInt8) : Outcome (Option ℕ) :=
  simEonsLookupCommon eons mcc mnc none

def simEonsLookupWithLac (eons : SimEons) (mcc mnc : List UInt8) (lac : UInt16) :
    Outcome (Option ℕ) :=
  simEonsLookupCommon eons mcc mnc (some lac)

end Phonelets.Sim
