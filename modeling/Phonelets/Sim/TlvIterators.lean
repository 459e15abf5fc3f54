import Phonelets.Sim.BerFind
import Phonelets.Sim.CompTlv

/-! # The TLV iterators over a string

The three iterators of `simutil.c` as they stand in a string of octets, each moved by the function
that reads one TLV off the octets left. What holds of all three is proved from `Framed`.
-/

namespace Phonelets.Sim

open List

/-! ## Simple TLVs -/

/-- What an iterator holds about the TLV it stands on. -/
structure SimpleTlv where
  tag : UInt8
  value : List UInt8

/-- `simple_tlv_iter_next` on the octets that are left, with those left after it. -/
def simpleTlvIterNext : List UInt8 → Option (SimpleTlv × List UInt8)
  | [] => none
  | [_] => none
  | tag :: b :: rest =>
    if b = 0xff then
      match rest with
      | hi :: lo :: rest =>
        let len := hi.toNat <<< 8 ||| lo.toNat
        if rest.length < len then none else some (⟨tag, rest.take len⟩, rest.drop len)
      | _ => none
    else if rest.length < b.toNat then none
    else some (⟨tag, rest.take b.toNat⟩, rest.drop b.toNat)

lemma simpleTlvIterNext_framed {os rest : List UInt8} {tlv : SimpleTlv}
    (h : simpleTlvIterNext os = some (tlv, rest)) : Framed os tlv.value rest := by
  unfold simpleTlvIterNext at h
  split at h
  · cases h
  · cases h
  · next tag b tail =>
      split at h
      · split at h
        · next hi lo tail =>
            dsimp only at h
            split at h
            · cases h
            · cases h
              refine ⟨[], [tag], [b, hi, lo], cons_ne_nil _ _, cons_ne_nil _ _, ?_⟩
              rw [take_append_drop]
              rfl
        · cases h
      · split at h
        · cases h
        · cases h
          refine ⟨[], [tag], [b], cons_ne_nil _ _, cons_ne_nil _ _, ?_⟩
          rw [take_append_drop]
          rfl

/-! ## Iterators -/

variable {α : Type}

/-- `struct simple_tlv_iter`, `struct comprehension_tlv_iter` and `struct ber_tlv_iter` over a string:
the position, the element and the place of its value. -/
structure TlvIter (α : Type) where
  pos : ℕ
  element : Option α
  data : ℕ

/-- The iterator at the start. -/
def TlvIter.init : TlvIter α := ⟨0, none, 0⟩

/-- A call of the function that moves an iterator, with its result: the position is behind the value. -/
def TlvIter.next (pdu : List UInt8) (read : List UInt8 → Option (α × List UInt8)) (value : α → List UInt8)
    (iter : TlvIter α) : TlvIter α × Bool :=
  match read (pdu.drop iter.pos) with
  | none => (iter, false)
  | some (tlv, rest) =>
    let pos := pdu.length - rest.length
    (⟨pos, some tlv, pos - (value tlv).length⟩, true)

section Runs

variable (pdu : List UInt8) (read : List UInt8 → Option (α × List UInt8)) (value : α → List UInt8)

/-- The iterator after so many calls. -/
def TlvIter.after (calls : ℕ) : TlvIter α := (fun iter => (iter.next pdu read value).1)^[calls] TlvIter.init

/-- The iterator ends, its elements lie in the string one behind the other, and where it ends it keeps
its position and the last element. -/
structure Iterates : Prop where
  ends : ∃ calls ≤ pdu.length, ((TlvIter.after pdu read value calls).next pdu read value).2 = false
  lies : ∀ calls, ((TlvIter.after pdu read value calls).next pdu read value).2 = true →
    ∃ tlv padding tagField lengthField rest, tagField ≠ [] ∧ lengthField ≠ [] ∧
      pdu = pdu.take (TlvIter.after pdu read value calls).pos ++
        (padding ++ (tagField ++ (lengthField ++ (value tlv ++ rest)))) ∧
      (TlvIter.after pdu read value (calls + 1)).element = some tlv ∧
      (TlvIter.after pdu read value (calls + 1)).data = (TlvIter.after pdu read value calls).pos +
        padding.length + tagField.length + lengthField.length ∧
      (TlvIter.after pdu read value (calls + 1)).pos =
        (TlvIter.after pdu read value (calls + 1)).data + (value tlv).length ∧
      (TlvIter.after pdu read value calls).pos < (TlvIter.after pdu read value (calls + 1)).data
  stays : ∀ calls, ((TlvIter.after pdu read value calls).next pdu read value).2 = false →
    TlvIter.after pdu read value (calls + 1) = TlvIter.after pdu read value calls

variable {pdu read value}

lemma TlvIter.after_succ (calls : ℕ) : TlvIter.after pdu read value (calls + 1) =
    ((TlvIter.after pdu read value calls).next pdu read value).1 := by
  rw [TlvIter.after, Function.iterate_succ_apply']
  rfl

/-- A function that takes a TLV and what is in front of it off the octets moves an iterator on. -/
lemma iterates_of_framed (hread : ∀ {os rest : List UInt8} {tlv : α}, read os = some (tlv, rest) →
    Framed os (value tlv) rest) : Iterates pdu read value := by
  have hnext : ∀ iter : TlvIter α, iter.pos ≤ pdu.length →
      (iter.next pdu read value = (iter, false)) ∨
      ∃ tlv padding tagField lengthField rest, tagField ≠ [] ∧ lengthField ≠ [] ∧
        pdu = pdu.take iter.pos ++ (padding ++ (tagField ++ (lengthField ++ (value tlv ++ rest)))) ∧
        iter.next pdu read value =
          (⟨iter.pos + padding.length + tagField.length + lengthField.length + (value tlv).length, some tlv,
            iter.pos + padding.length + tagField.length + lengthField.length⟩, true) := by
    intro iter hpos
    unfold TlvIter.next
    cases htaken : read (pdu.drop iter.pos) with
    | none => exact .inl rfl
    | some r =>
      obtain ⟨tlv, rest⟩ := r
      obtain ⟨padding, tagField, lengthField, htag, hlength, hos⟩ := hread htaken
      have hlen := congrArg List.length hos
      simp only [length_append, length_drop] at hlen
      refine .inr ⟨tlv, padding, tagField, lengthField, rest, htag, hlength, ?_, ?_⟩
      · rw [← hos, take_append_drop]
      · dsimp only
        rw [show pdu.length - rest.length =
          iter.pos + padding.length + tagField.length + lengthField.length + (value tlv).length by omega,
          Nat.add_sub_cancel]
  have hinside : ∀ calls, (TlvIter.after pdu read value calls).pos ≤ pdu.length := by
    intro calls
    induction calls with
    | zero => exact Nat.zero_le _
    | succ calls ih =>
      rw [TlvIter.after_succ]
      rcases hnext _ ih with hstays | ⟨tlv, padding, tagField, lengthField, rest, -, -, hpdu, hmoves⟩
      · rw [hstays]
        exact ih
      · have hlen := congrArg List.length hpdu
        simp only [length_append, length_take] at hlen
        rw [hmoves]
        dsimp only
        omega
  constructor
  case ends =>
    -- a call that finds a TLV takes one octet at least
    by_contra hno
    push Not at hno
    have hmoved : ∀ calls ≤ pdu.length + 1, calls ≤ (TlvIter.after pdu read value calls).pos := by
      intro calls hcalls
      induction calls with
      | zero => exact Nat.zero_le _
      | succ calls ih =>
        have hbefore := ih (by omega)
        rw [TlvIter.after_succ]
        rcases hnext _ (hinside calls) with hstays | ⟨tlv, padding, tagField, _, _, htag, -, -, hmoves⟩
        · exact absurd (congrArg Prod.snd hstays) (hno calls (by omega))
        · have hpos := length_pos_iff.mpr htag
          rw [hmoves]
          dsimp only
          omega
    have hend := hmoved _ le_rfl
    have hlast := hinside (pdu.length + 1)
    omega
  case lies =>
    intro calls htrue
    rw [TlvIter.after_succ]
    rcases hnext _ (hinside calls) with hstays | ⟨tlv, padding, tagField, lengthField, rest, htag, hlength,
      hpdu, hmoves⟩
    · rw [hstays] at htrue
      cases htrue
    · have hpos := length_pos_iff.mpr htag
      rw [hmoves]
      refine ⟨tlv, padding, tagField, lengthField, rest, htag, hlength, hpdu, rfl, rfl, rfl, ?_⟩
      dsimp only
      omega
  case stays =>
    intro calls hfalse
    rw [TlvIter.after_succ]
    rcases hnext _ (hinside calls) with hstays | ⟨_, _, _, _, _, -, -, -, hmoves⟩
    · rw [hstays]
    · rw [hmoves] at hfalse
      cases hfalse

end Runs

/-- The three iterators end, and stay in the string, whatever is in it. -/
theorem tlv_iterators (pdu : List UInt8) : Iterates pdu simpleTlvIterNext SimpleTlv.value ∧ Iterates
    pdu comprehensionTlvIterNext CompTlv.value ∧ Iterates pdu berTlvIterNext BerTlv.value :=
  ⟨iterates_of_framed simpleTlvIterNext_framed, iterates_of_framed comprehensionTlvIterNext_framed,
    iterates_of_framed berTlvIterNext_framed⟩

end Phonelets.Sim
