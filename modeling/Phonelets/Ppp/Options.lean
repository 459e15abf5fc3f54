import Phonelets.Lib.Decoder

/-! # Configuration options

`ppp_option_iter_next` goes from option to option by their length octets, up to the length field of
the packet. Nothing compares either of them with what has been received. `OptionsOk` says of the
octets when a loop over the options comes to its end and stays inside of the packet.
-/

namespace Phonelets.Ppp

open Option
open Outcome (orFault)

/-! ## The iterator -/

/-- `struct ppp_option_iter`; the pointers are places in the packet. -/
structure PppOptionIter where
  max : UInt16
  pos : UInt16
  type : UInt8
  len : UInt8
  optionData : ℕ

/-- `ntohs(packet->length)`, of a packet with a header. -/
def pppcpPacketLength (packet : List UInt8) : UInt16 :=
  (packet.getD 2 0).toUInt16 <<< 8 ||| (packet.getD 3 0).toUInt16

def pppOptionIterInit (packet : List UInt8) : PppOptionIter :=
  ⟨pppcpPacketLength packet - 4, 0, 0, 0, 0⟩

/-- `ppp_option_iter_next`; a packet has its options from octet 4 on. -/
def pppOptionIterNext (packet : List UInt8) (iter : PppOptionIter) : Outcome PppOptionIter :=
  let cur := 4 + iter.pos.toNat
  let stop := 4 + iter.max.toNat
  if cur + 1 > stop then .reject
  else do
    let length ← orFault packet[cur + 1]?
    if cur + length.toNat > stop then .reject
    else
      let type ← orFault packet[cur]?
      .ok { iter with
        type := type, len := length - 2, optionData := cur + 2, pos := iter.pos + length.toUInt16 }

/-- The octets that a handler reads of an option. -/
def readData (packet : List UInt8) (offset k : ℕ) : Outcome (List UInt8) :=
  if offset + k ≤ packet.length then .ok ((packet.drop offset).take k) else .fault

/-! ## Loops over the options -/

/-- An option that a loop has visited: its place in the packet and its length octet. -/
structure VisitedOption where
  pos : ℕ
  length : ℕ

def PppOptionIter.visited (iter : PppOptionIter) : VisitedOption :=
  ⟨iter.optionData - 2, (iter.len + 2).toNat⟩

/-- What a handler comes to: the options that its loops have visited, loop by loop, and the result,
if it does not take more rounds than it has been given. -/
structure HandlerRun (α : Type) where
  loops : List (List VisitedOption)
  result : Option (Outcome α)

namespace HandlerRun

variable {α β : Type}

protected def bind (x : HandlerRun α) (f : α → HandlerRun β) : HandlerRun β :=
  match x.result with
  | some (.ok a) => ⟨x.loops ++ (f a).loops, (f a).result⟩
  | some .reject => ⟨x.loops, some .reject⟩
  | some .fault => ⟨x.loops, some .fault⟩
  | none => ⟨x.loops, none⟩

instance : Monad HandlerRun where
  pure a := ⟨[], some (.ok a)⟩
  bind := HandlerRun.bind

/-- Something without a loop. -/
def lift (x : Outcome α) : HandlerRun α := ⟨[], some x⟩

end HandlerRun

variable {σ ρ : Type}

/-- The rounds of `while (ppp_option_iter_next(&iter) == TRUE)`. The body goes on with a state or
returns from the handler. -/
def optionRounds (packet : List UInt8) (body : σ → PppOptionIter → Outcome (σ ⊕ ρ)) :
    ℕ → PppOptionIter → σ → List VisitedOption × Option (Outcome (σ ⊕ ρ))
  | 0, _, _ => ([], none)
  | fuel + 1, iter, s =>
    match pppOptionIterNext packet iter with
    | .reject => ([], some (.ok (.inl s)))
    | .fault => ([], some .fault)
    | .ok iter =>
      match body s iter with
      | .ok (.inl s) =>
        let (visited, result) := optionRounds packet body fuel iter s
        (iter.visited :: visited, result)
      | .ok (.inr r) => ([iter.visited], some (.ok (.inr r)))
      | .reject => ([iter.visited], some .reject)
      | .fault => ([iter.visited], some .fault)

/-- A loop over all options of a packet. -/
def optionLoop (packet : List UInt8) (body : σ → PppOptionIter → Outcome (σ ⊕ ρ)) (fuel : ℕ)
    (s : σ) : HandlerRun (σ ⊕ ρ) :=
  let (visited, result) := optionRounds packet body fuel (pppOptionIterInit packet) s
  ⟨[visited], result⟩

/-! ## Options that can be visited -/

/-- The visited options lie one behind the other from `p` on, their types and lengths inside of the
`n` octets. -/
def Consecutive (n p : ℕ) : List VisitedOption → Prop
  | [] => True
  | o :: os => o.pos = p ∧ 2 ≤ o.length ∧ o.pos + 2 ≤ n ∧ Consecutive n (p + o.length) os

/-- There is a result, without a read outside of the packet, and each loop has visited one option
behind the other. -/
def HandlerRun.Safe {α : Type} (packet : List UInt8) (run : HandlerRun α) : Prop :=
  ∃ a, run.result = some (.ok a) ∧ ∀ visited ∈ run.loops, Consecutive packet.length 4 visited

/-- The handler comes to an end, and is safe. -/
def RunsSafely {α : Type} (packet : List UInt8) (run : ℕ → HandlerRun α) : Prop :=
  ∃ fuel, (run fuel).Safe packet

/-- What a body reads and when it returns, by the type of an option, its `len` and the place of its
data. -/
structure OptionReader where
  reads : UInt8 → UInt8 → ℕ → Prop
  returns : UInt8 → UInt8 → ℕ → Prop

/-- The body is read off the reader. -/
structure OptionReader.Of (reader : OptionReader) (body : σ → PppOptionIter → Outcome (σ ⊕ ρ)) :
    Prop where
  goes : ∀ s iter, reader.reads iter.type iter.len iter.optionData →
    ¬ reader.returns iter.type iter.len iter.optionData → ∃ t, body s iter = .ok (.inl t)
  returns : ∀ s iter, reader.reads iter.type iter.len iter.optionData →
    reader.returns iter.type iter.len iter.optionData → ∃ r, body s iter = .ok (.inr r)
  faults : ∀ s iter, ¬ reader.reads iter.type iter.len iter.optionData → body s iter = .fault

/-- The options from octet `pos` behind the header on: each has its length octet in the packet, is
two octets long or more, and the data that are read are in the packet too; up to one that the
handler returns at, or to where no option fits any more. -/
inductive OptionsOk (packet : List UInt8) (reader : OptionReader) (max : ℕ) : ℕ → Prop where
  | done {pos : ℕ} (past : max ≤ pos) : OptionsOk packet reader max pos
  | rest {pos : ℕ} {length : UInt8} (inside : pos < max) (octet : packet[pos + 5]? = some length)
      (long : max < pos + length.toNat) : OptionsOk packet reader max pos
  | last {pos : ℕ} {type length : UInt8} (typeOctet : packet[pos + 4]? = some type)
      (octet : packet[pos + 5]? = some length) (two : 2 ≤ length.toNat)
      (fits : pos + length.toNat ≤ max) (reads : reader.reads type (length - 2) (pos + 6))
      (returns : reader.returns type (length - 2) (pos + 6)) : OptionsOk packet reader max pos
  | next {pos : ℕ} {type length : UInt8} (typeOctet : packet[pos + 4]? = some type)
      (octet : packet[pos + 5]? = some length) (two : 2 ≤ length.toNat)
      (fits : pos + length.toNat ≤ max) (reads : reader.reads type (length - 2) (pos + 6))
      (goes : ¬ reader.returns type (length - 2) (pos + 6))
      (more : OptionsOk packet reader max (pos + length.toNat)) : OptionsOk packet reader max pos

/-- The same body, as far as no option makes it return. -/
def OptionReader.through (reader : OptionReader) : OptionReader where
  reads type len data := reader.reads type len data ∧ ¬ reader.returns type len data
  returns _ _ _ := False

/-! ## One step of the iterator -/

variable {packet : List UInt8} {iter : PppOptionIter} {reader : OptionReader}
  {body : σ → PppOptionIter → Outcome (σ ⊕ ρ)} {s : σ} {length : UInt8} {max pos fuel : ℕ}
  {visited : List VisitedOption}

lemma pppOptionIterNext_past (h : iter.max.toNat ≤ iter.pos.toNat) :
    pppOptionIterNext packet iter = .reject :=
  if_pos (by omega)

lemma pppOptionIterNext_outside (h : iter.pos.toNat < iter.max.toNat)
    (hoctet : packet[iter.pos.toNat + 5]? = none) : pppOptionIterNext packet iter = .fault := by
  have hcur : 4 + iter.pos.toNat + 1 = iter.pos.toNat + 5 := by omega
  rw [pppOptionIterNext, if_neg (by omega), hcur, hoctet]
  rfl

lemma pppOptionIterNext_long (h : iter.pos.toNat < iter.max.toNat)
    (hoctet : packet[iter.pos.toNat + 5]? = some length) (hlong : iter.max.toNat <
    iter.pos.toNat + length.toNat) : pppOptionIterNext packet iter = .reject := by
  have hcur : 4 + iter.pos.toNat + 1 = iter.pos.toNat + 5 := by omega
  rw [pppOptionIterNext, if_neg (by omega), hcur, hoctet]
  exact if_pos (by omega)

/-- The state of the iterator at an option. -/
def PppOptionIter.at (iter : PppOptionIter) (type length : UInt8) : PppOptionIter where
  max := iter.max
  pos := iter.pos + length.toUInt16
  type := type
  len := length - 2
  optionData := iter.pos.toNat + 6

lemma pppOptionIterNext_fits (h : iter.pos.toNat < iter.max.toNat)
    (hoctet : packet[iter.pos.toNat + 5]? = some length)
    (hfits : iter.pos.toNat + length.toNat ≤ iter.max.toNat) : ∃ type, packet[iter.pos.toNat + 4]? =
    some type ∧ pppOptionIterNext packet iter = .ok (iter.at type length) := by
  have hcur : 4 + iter.pos.toNat + 1 = iter.pos.toNat + 5 := by omega
  have hlen : iter.pos.toNat + 5 < packet.length := by
    rw [List.getElem?_eq_some_iff] at hoctet
    exact hoctet.1
  refine ⟨packet[iter.pos.toNat + 4], List.getElem?_eq_getElem (by omega), ?_⟩
  have htype : packet[4 + iter.pos.toNat]? = some packet[iter.pos.toNat + 4] := by
    rw [Nat.add_comm 4]
    exact List.getElem?_eq_getElem (by omega)
  rw [pppOptionIterNext, if_neg (by omega), hcur, hoctet]
  change (if 4 + iter.pos.toNat + length.toNat > 4 + iter.max.toNat then _ else _) = _
  rw [if_neg (by omega), htype]
  change Outcome.ok _ = _
  rw [PppOptionIter.at, Nat.add_comm 4, Nat.add_assoc]

lemma PppOptionIter.at_pos (type : UInt8) (hfits : iter.pos.toNat + length.toNat ≤ iter.max.toNat) :
    (iter.at type length).pos.toNat = iter.pos.toNat + length.toNat := by
  have hmax := iter.max.toNat_lt
  rw [PppOptionIter.at, UInt16.toNat_add, UInt8.toNat_toUInt16]
  exact Nat.mod_eq_of_lt (by omega)

lemma PppOptionIter.at_visited (iter : PppOptionIter) (type length : UInt8) :
    (iter.at type length).visited = ⟨iter.pos.toNat + 4, length.toNat⟩ := by
  rw [visited, PppOptionIter.at, UInt8.sub_add_cancel]
  rfl

/-! ## Whole loops -/

/-- Options that can be visited are visited: the loop ends after as many rounds as there are octets
at most. -/
lemma rounds_of_optionsOk (hreader : reader.Of body)
    (hok : OptionsOk packet reader iter.max.toNat iter.pos.toNat) (hfuel : iter.max.toNat <
    fuel + iter.pos.toNat) (hpos : 0 < fuel) : ∃ visited r, optionRounds packet body fuel iter s =
    (visited, some (.ok r)) ∧ Consecutive packet.length (iter.pos.toNat + 4) visited := by
  induction fuel generalizing iter s with
  | zero => exact absurd hpos (Nat.lt_irrefl 0)
  | succ fuel ih =>
    rw [optionRounds]
    cases hok with
    | done past =>
      rw [pppOptionIterNext_past past]
      exact ⟨[], .inl s, rfl, trivial⟩
    | rest inside octet long =>
      rw [pppOptionIterNext_long inside octet long]
      exact ⟨[], .inl s, rfl, trivial⟩
    | @last _ type length typeOctet octet two fits reads returns =>
      obtain ⟨type', htype, hnext⟩ := pppOptionIterNext_fits (by omega) octet fits
      obtain rfl : type = type' := some_inj.mp (typeOctet.symm.trans htype)
      obtain ⟨r, hr⟩ := hreader.returns s (iter.at type length) reads returns
      have hlen := (List.getElem?_eq_some_iff.mp octet).1
      have hinside : iter.pos.toNat + 4 + 2 ≤ packet.length := by omega
      rw [hnext]
      dsimp only
      rw [hr]
      refine ⟨_, _, rfl, ?_⟩
      rw [PppOptionIter.at_visited]
      exact ⟨rfl, two, hinside, trivial⟩
    | @next _ type length typeOctet octet two fits reads goes more =>
      obtain ⟨type', htype, hnext⟩ := pppOptionIterNext_fits (by omega) octet fits
      obtain rfl : type = type' := some_inj.mp (typeOctet.symm.trans htype)
      obtain ⟨t, ht⟩ := hreader.goes s (iter.at type length) reads goes
      have hlen := (List.getElem?_eq_some_iff.mp octet).1
      have hinside : iter.pos.toNat + 4 + 2 ≤ packet.length := by omega
      have hat := PppOptionIter.at_pos type fits
      have hmax : (iter.at type length).max = iter.max := rfl
      rw [← hat, ← hmax] at more
      obtain ⟨visited, r, hrounds, hcons⟩ := ih (s := t) more (by rw [hat, hmax]; omega) (by omega)
      rw [hnext]
      dsimp only
      rw [ht]
      dsimp only
      rw [hrounds]
      refine ⟨_, _, rfl, ?_⟩
      rw [PppOptionIter.at_visited]
      refine ⟨rfl, two, hinside, ?_⟩
      rwa [hat, Nat.add_right_comm] at hcons

/-- A loop that ends well has visited options that can be visited, and has gone through all of them
unless it has returned. -/
lemma optionsOk_of_rounds (hreader : reader.Of body) {r : σ ⊕ ρ} (hrounds : optionRounds packet body
    fuel iter s = (visited, some (.ok r))) (hcons : Consecutive packet.length (iter.pos.toNat + 4)
    visited) : OptionsOk packet reader iter.max.toNat iter.pos.toNat ∧
    (r.isLeft = true ↔ OptionsOk packet reader.through iter.max.toNat iter.pos.toNat) := by
  induction fuel generalizing iter s visited with
  | zero => cases hrounds
  | succ fuel ih =>
    rw [optionRounds] at hrounds
    by_cases hpast : iter.max.toNat ≤ iter.pos.toNat
    · rw [pppOptionIterNext_past hpast] at hrounds
      cases hrounds
      exact ⟨.done hpast, iff_of_true rfl (.done hpast)⟩
    · rw [Nat.not_le] at hpast
      cases hoctet : packet[iter.pos.toNat + 5]? with
      | none =>
        rw [pppOptionIterNext_outside hpast hoctet] at hrounds
        cases hrounds
      | some length =>
        by_cases hfits : iter.pos.toNat + length.toNat ≤ iter.max.toNat
        · obtain ⟨type, htype, hnext⟩ := pppOptionIterNext_fits hpast hoctet hfits
          rw [hnext] at hrounds
          dsimp only at hrounds
          by_cases hreads : reader.reads type (length - 2) (iter.pos.toNat + 6)
          · by_cases hreturns : reader.returns type (length - 2) (iter.pos.toNat + 6)
            · obtain ⟨r', hr⟩ := hreader.returns s (iter.at type length) hreads hreturns
              rw [hr] at hrounds
              cases hrounds
              rw [PppOptionIter.at_visited] at hcons
              refine ⟨.last htype hoctet hcons.2.1 hfits hreads hreturns,
                iff_of_false Bool.false_ne_true ?_⟩
              -- the option at which the loop returns is in the way
              intro hthrough
              cases hthrough with
              | done past => omega
              | rest inside octet long =>
                obtain rfl := some_inj.mp (octet.symm.trans hoctet)
                omega
              | last typeOctet octet two fits reads returns => exact returns
              | next typeOctet octet two fits reads goes more =>
                obtain rfl := some_inj.mp (octet.symm.trans hoctet)
                obtain rfl := some_inj.mp (typeOctet.symm.trans htype)
                exact reads.2 hreturns
            · obtain ⟨t, ht⟩ := hreader.goes s (iter.at type length) hreads hreturns
              rw [ht] at hrounds
              dsimp only at hrounds
              generalize hrest : optionRounds packet body fuel (iter.at type length) t = run at hrounds
              obtain ⟨visited', result⟩ := run
              cases hrounds
              rw [PppOptionIter.at_visited] at hcons
              obtain ⟨-, two, hinside, hcons⟩ := hcons
              have hat := PppOptionIter.at_pos type hfits
              have hmax : (iter.at type length).max = iter.max := rfl
              obtain ⟨hok, hleft⟩ := ih hrest (by rwa [hat, Nat.add_right_comm])
              rw [hat, hmax] at hok hleft
              refine ⟨.next htype hoctet two hfits hreads hreturns hok, hleft.trans ⟨?_, ?_⟩⟩
              · exact .next htype hoctet two hfits ⟨hreads, hreturns⟩ not_false
              · intro hthrough
                cases hthrough with
                | done past => omega
                | rest inside octet long =>
                  obtain rfl := some_inj.mp (octet.symm.trans hoctet)
                  omega
                | last typeOctet octet two fits reads returns => exact returns.elim
                | next typeOctet octet two fits reads goes more =>
                  obtain rfl := some_inj.mp (octet.symm.trans hoctet)
                  exact more
          · rw [hreader.faults s (iter.at type length) hreads] at hrounds
            cases hrounds
        · rw [Nat.not_le] at hfits
          rw [pppOptionIterNext_long hpast hoctet hfits] at hrounds
          cases hrounds
          exact ⟨.rest hpast hoctet hfits, iff_of_true rfl (.rest hpast hoctet hfits)⟩

/-! ## Handlers -/

/-- The options of a packet, for a handler. -/
def PacketOptionsOk (packet : List UInt8) (reader : OptionReader) : Prop :=
  OptionsOk packet reader (pppOptionIterInit packet).max.toNat 0

/-- More rounds than any packet needs. -/
def enoughRounds : ℕ := 65536

lemma optionLoop_of_ok (hreader : reader.Of body) (hok : PacketOptionsOk packet reader) (s : σ) :
    ∃ r, (optionLoop packet body enoughRounds s).result = some (.ok r) ∧ (∀ visited ∈
    (optionLoop packet body enoughRounds s).loops, Consecutive packet.length 4 visited) ∧
    (r.isLeft = true ↔ PacketOptionsOk packet reader.through) := by
  have hfuel : (pppOptionIterInit packet).max.toNat <
      enoughRounds + (pppOptionIterInit packet).pos.toNat :=
    Nat.lt_add_right _ (pppOptionIterInit packet).max.toNat_lt
  have hpos : 0 < enoughRounds := by
    rw [enoughRounds]
    omega
  obtain ⟨visited, r, hrounds, hcons⟩ := rounds_of_optionsOk (s := s) hreader hok hfuel hpos
  refine ⟨r, ?_, ?_, (optionsOk_of_rounds hreader hrounds hcons).2⟩
  · rw [optionLoop, hrounds]
  · rw [optionLoop, hrounds]
    exact List.forall_mem_singleton.mpr hcons

lemma ok_of_optionLoop (hreader : reader.Of body) {r : σ ⊕ ρ}
    (hresult : (optionLoop packet body fuel s).result = some (.ok r)) (hcons : ∀ visited ∈
    (optionLoop packet body fuel s).loops, Consecutive packet.length 4 visited) :
    PacketOptionsOk packet reader ∧ (r.isLeft = true ↔ PacketOptionsOk packet reader.through) := by
  unfold optionLoop at hresult hcons
  generalize hrounds : optionRounds packet body fuel (pppOptionIterInit packet) s = run at hresult hcons
  obtain ⟨visited, result⟩ := run
  dsimp only at hresult hcons
  rw [hresult] at hrounds
  exact optionsOk_of_rounds hreader hrounds (List.forall_mem_singleton.mp hcons)

end Phonelets.Ppp
