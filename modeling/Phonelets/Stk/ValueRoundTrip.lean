import Phonelets.Stk.Builders
import Phonelets.Stk.HandlerBounds

/-! # Values read back

For each kind of value that is packed in a way of its own, what its handler makes of the
octets that its builder writes.
-/

namespace Phonelets.Stk

open List Outcome
open Phonelets.Sms (digitLut extractBcdNumber readOctets octet_forall SmsScts smsEncodeScts smsDecodeScts
  smsDecodeSemiOctet semiOctetOf decodeTimezone maxTimezone minTimezone semiOctet_roundTrip
  smsEncodeScts_valid smsDecodeScts_cases SctsAt)
open Outcome (orReject orFault)

@[simp] lemma dataAt_zero (a : UInt8) (l : List UInt8) : dataAt (a :: l) 0 = .ok a := rfl

@[simp] lemma dataAt_succ (a : UInt8) (l : List UInt8) (i : ℕ) : dataAt (a :: l) (i + 1) = dataAt l i := rfl

lemma readOctets_append (l m : List UInt8) : readOctets (l ++ m) l.length m.length = .ok m := by
  unfold readOctets
  rw [if_pos (by rw [length_append]), drop_left, take_length]

lemma readOctets_tail (a : UInt8) (l : List UInt8) : readOctets (a :: l) 1 l.length = .ok l :=
  readOctets_append [a] l

/-! ## Semi-octets -/

/-- The characters of semi-octets under a table. -/
def digitsUnder (table : List UInt8) (buf : List UInt8) : List UInt8 :=
  buf.flatMap fun oct =>
    [table.getD (oct.toNat &&& 0x0f) 0, table.getD ((oct.toNat &&& 0xf0) >>> 4) 0]

/-- The table has the characters, each under its semi-octet, and a NUL under the filler. -/
structure TableFor (table : List UInt8) (valid : UInt8 → Prop) : Prop where
  back : ∀ c, c ≠ 0 → (table.getD (toSemiOct c &&& 0xf) 0 = c ↔ valid c)
  filler : table.getD 0xf 0 = 0
  known : ∀ c, valid c → toSemiOct c ≠ 0xff

lemma toSemiOct_cases (c : UInt8) : toSemiOct c < 15 ∨ toSemiOct c = 0xff := by
  unfold toSemiOct
  split_ifs with hdigit
  · have hlow := UInt8.le_iff_toNat_le.mp hdigit.1
    have hhigh := UInt8.le_iff_toNat_le.mp hdigit.2
    simp at hlow hhigh
    omega
  all_goals simp

lemma semiPair_low {low high : ℕ} (hlow : low < 16 ∨ low = 0xff) (hhigh : high < 16 ∨ high = 0xff) :
    (semiPair low high).toNat &&& 0x0f = low &&& 0xf := by
  have hall : ∀ low high : Fin 16, (semiPair low.val high.val).toNat &&& 0x0f = low.val &&& 0xf := by
    decide
  have hone : ∀ n : Fin 16, (semiPair n.val 0xff).toNat &&& 0x0f = n.val &&& 0xf ∧
      (semiPair 0xff n.val).toNat &&& 0x0f = 0xff &&& 0xf := by decide
  rcases hlow with hlow | rfl
  · rcases hhigh with hhigh | rfl
    · exact hall ⟨low, hlow⟩ ⟨high, hhigh⟩
    · exact (hone ⟨low, hlow⟩).1
  · rcases hhigh with hhigh | rfl
    · exact (hone ⟨high, hhigh⟩).2
    · decide

lemma semiPair_high {low high : ℕ} (hlow : low < 16 ∨ low = 0xff) (hhigh : high < 16 ∨ high = 0xff) :
    ((semiPair low high).toNat &&& 0xf0) >>> 4 = if low = 0xff then 0xf else high &&& 0xf := by
  have hall : ∀ low high : Fin 16, ((semiPair low.val high.val).toNat &&& 0xf0) >>> 4 = high.val &&& 0xf := by
    decide
  have hone : ∀ n : Fin 16, ((semiPair n.val 0xff).toNat &&& 0xf0) >>> 4 = 0xff &&& 0xf ∧
      ((semiPair 0xff n.val).toNat &&& 0xf0) >>> 4 = 0xf := by decide
  rcases hlow with hlow | rfl
  · rw [if_neg (by omega)]
    rcases hhigh with hhigh | rfl
    · exact hall ⟨low, hlow⟩ ⟨high, hhigh⟩
    · exact (hone ⟨low, hlow⟩).1
  · rw [if_pos rfl]
    rcases hhigh with hhigh | rfl
    · exact (hone ⟨high, hhigh⟩).2
    · decide

variable {c : UInt8}

lemma untilNul_cons_eq {a : UInt8} (hc : c ≠ 0) {l m : List UInt8} :
    CString.untilNul (a :: l) = c :: m ↔ a = c ∧ CString.untilNul l = m := by
  rw [CString.untilNul_cons]
  by_cases h : a = 0
  · rw [if_pos h]
    constructor
    · intro heq
      cases heq
    · rintro ⟨rfl, -⟩
      exact absurd h hc
  · rw [if_neg h, cons_eq_cons]

lemma fillerOctet (c : UInt8) : (UInt8.ofNat (toSemiOct c ||| 0xf0)).toNat &&& 0x0f =
    toSemiOct c &&& 0xf ∧ ((UInt8.ofNat (toSemiOct c ||| 0xf0)).toNat &&& 0xf0) >>> 4 = 0xf := by
  have hall : ∀ n : Fin 15, (UInt8.ofNat (n.val ||| 0xf0)).toNat &&& 0x0f = n.val &&& 0xf ∧
      ((UInt8.ofNat (n.val ||| 0xf0)).toNat &&& 0xf0) >>> 4 = 0xf := by decide
  rcases toSemiOct_cases c with h | h
  · exact hall ⟨_, h⟩
  · rw [h]
    decide

lemma toSemiOct_bound (c : UInt8) : toSemiOct c < 16 ∨ toSemiOct c = 0xff :=
  (toSemiOct_cases c).imp (fun h => by omega) id

/-- The string of the digits is the number if and only if the table has all of them. -/
lemma digits_encode {table : List UInt8} {valid : UInt8 → Prop} (ht : TableFor table valid)
    {number : List UInt8} (hnul : 0 ∉ number) : CString.untilNul
    (digitsUnder table (simEncodeBcdNumber number)) = number ↔ ∀ c ∈ number, valid c := by
  fun_induction simEncodeBcdNumber number with
  | case1 => simp [digitsUnder, CString.untilNul]
  | case2 a =>
    have ha : a ≠ 0 := fun h => hnul (by simp [h])
    simp only [digitsUnder, flatMap_singleton, (fillerOctet a).1, (fillerOctet a).2, ht.filler]
    rw [untilNul_cons_eq ha, ht.back a ha]
    simp [CString.untilNul]
  | case3 a b l ih =>
    have ha : a ≠ 0 := fun h => hnul (by simp [h])
    have hb : b ≠ 0 := fun h => hnul (by simp [h])
    have hl : 0 ∉ l := fun h => hnul (by simp [h])
    have hdigits : digitsUnder table (semiPair (toSemiOct a) (toSemiOct b) :: simEncodeBcdNumber l) =
        table.getD (toSemiOct a &&& 0xf) 0 ::
          table.getD (if toSemiOct a = 0xff then 0xf else toSemiOct b &&& 0xf) 0 ::
            digitsUnder table (simEncodeBcdNumber l) := by
      unfold digitsUnder
      rw [flatMap_cons, semiPair_low (toSemiOct_bound a) (toSemiOct_bound b),
        semiPair_high (toSemiOct_bound a) (toSemiOct_bound b)]
      rfl
    rw [hdigits, untilNul_cons_eq ha, untilNul_cons_eq hb, ih hl, ht.back a ha]
    simp only [forall_mem_cons]
    refine and_congr_right fun hvalid => ?_
    rw [if_neg (ht.known a hvalid), ht.back b hb]

lemma length_simEncodeBcdNumber (number : List UInt8) :
    (simEncodeBcdNumber number).length = (number.length + 1) / 2 := by
  fun_induction simEncodeBcdNumber number with
  | case1 => rfl
  | case2 a => simp
  | case3 a b l ih =>
    simp only [length_cons, ih]
    omega

lemma length_digitsUnder (table buf : List UInt8) : (digitsUnder table buf).length = 2 * buf.length := by
  induction buf with
  | nil => rfl
  | cons b buf ih =>
    have hcons : digitsUnder table (b :: buf) = table.getD (b.toNat &&& 0x0f) 0 ::
        table.getD ((b.toNat &&& 0xf0) >>> 4) 0 :: digitsUnder table buf := rfl
    rw [hcons, length_cons, length_cons, length_cons, ih]
    omega

/-- What a number on the SIM may consist of. -/
def IsBcdDigit (c : UInt8) : Prop :=
  0x30 ≤ c ∧ c ≤ 0x39 ∨ c = 0x2a ∨ c = 0x23 ∨ c = 0x63 ∨ c = 0x3f ∨ c = 0x65

/-- What a code or an identity may consist of. -/
def IsDigit (c : UInt8) : Prop := 0x30 ≤ c ∧ c ≤ 0x39 ∨ c = 0x2a ∨ c = 0x23

instance (c : UInt8) : Decidable (IsBcdDigit c) := inferInstanceAs (Decidable (_ ∨ _))

instance (c : UInt8) : Decidable (IsDigit c) := inferInstanceAs (Decidable (_ ∨ _))

lemma table_bcd : TableFor simExtractBcdNumber.lut IsBcdDigit := by
  constructor
  · exact octet_forall (by decide)
  · decide
  · exact octet_forall (by decide)

lemma table_digits : TableFor digitLut IsDigit := by
  constructor
  · exact octet_forall (by decide)
  · decide
  · exact octet_forall (by decide)

/-- A number or a service comes back if it is not empty and consists of digits. -/
lemma parseBcdString_encode (tonNpi : UInt8) (number : HeapString) :
    parseBcdString (tonNpi :: simEncodeBcdNumber number.bytes) = .ok (tonNpi, number.bytes) ↔
      number.bytes ≠ [] ∧ ∀ c ∈ number.bytes, IsBcdDigit c := by
  have hlen := length_simEncodeBcdNumber number.bytes
  rw [← digits_encode table_bcd number.no_nul]
  unfold parseBcdString
  simp only [length_cons]
  by_cases hempty : number.bytes = []
  · rw [hempty] at hlen ⊢
    rw [if_pos (by rw [hlen]; decide)]
    simp
  · have hpos := length_pos_iff.mpr hempty
    rw [if_neg (by omega)]
    have hread : readOctets (tonNpi :: simEncodeBcdNumber number.bytes) 1
        ((simEncodeBcdNumber number.bytes).length + 1 - 1) = .ok (simEncodeBcdNumber number.bytes) := by
      unfold readOctets
      rw [if_pos (by simp; omega)]
      simp
    have hfit : within (((simEncodeBcdNumber number.bytes).length + 1) * 2 - 1)
        (simExtractBcdNumber (simEncodeBcdNumber number.bytes) ++ [0]) =
          .ok (simExtractBcdNumber (simEncodeBcdNumber number.bytes) ++ [0]) := by
      have hdigits : (simExtractBcdNumber (simEncodeBcdNumber number.bytes)).length =
        2 * (simEncodeBcdNumber number.bytes).length := length_digitsUnder _ _
      unfold within
      rw [if_pos (by simp [hdigits]; omega)]
    have hnul : CString.untilNul (simExtractBcdNumber (simEncodeBcdNumber number.bytes) ++ [0]) =
        CString.untilNul (digitsUnder simExtractBcdNumber.lut (simEncodeBcdNumber number.bytes)) :=
      CString.untilNul_snoc _
    unfold gTryMalloc heapString
    rw [if_neg (by omega), hread]
    simp only [dataAt, getElem?_cons_zero, orFault_some, ok_bind, hfit, pure_eq_ok, hnul,
      Outcome.ok.injEq, Prod.mk.injEq, true_and, ne_eq, hempty, not_false_eq_true]

/-! ## Identities -/

variable {l : List UInt8}

lemma simEncodeBcdNumber_append (h : l.length % 2 = 0) (m : List UInt8) :
    simEncodeBcdNumber (l ++ m) = simEncodeBcdNumber l ++ simEncodeBcdNumber m := by
  fun_induction simEncodeBcdNumber l with
  | case1 => rfl
  | case2 a => simp at h
  | case3 a b l ih =>
    rw [cons_append, cons_append, simEncodeBcdNumber, ih (by simp only [length_cons] at h; omega), cons_append]

lemma firstOctet {kind : UInt8} (hkind : toSemiOct kind < 16) (a : UInt8) :
    (semiPair (toSemiOct kind) (toSemiOct a)).toNat &&& 0x0f = toSemiOct kind ∧
      ((semiPair (toSemiOct kind) (toSemiOct a)).toNat &&& 0xf0) >>> 4 = toSemiOct a &&& 0xf := by
  rw [semiPair_low (.inl hkind) (toSemiOct_bound a), semiPair_high (.inl hkind) (toSemiOct_bound a),
    if_neg (by omega)]
  refine ⟨?_, rfl⟩
  rw [show (0xf : ℕ) = 2 ^ 4 - 1 from rfl, Nat.and_two_pow_sub_one_eq_mod, Nat.mod_eq_of_lt hkind]

lemma readOctets_middle {a : UInt8} {l m : List UInt8} {n : ℕ} (h : l.length = n) :
    readOctets (a :: (l ++ m)) 1 n = .ok l := by
  unfold readOctets
  rw [if_pos (by simp; omega)]
  simp [← h]

lemma store_bytes_eq {size : ℕ} {m : List UInt8} (h : l.length < size) :
    (∃ s : CString size, orFault (CString.store size l) = .ok s ∧ s.bytes = m) ↔ CString.untilNul l = m := by
  rcases CString.store_eq_some h with ⟨s, hs, hbytes⟩
  rw [hs, ← hbytes]
  constructor
  · rintro ⟨s', heq, rfl⟩
    cases heq
    rfl
  · rintro rfl
    exact ⟨s, rfl, rfl⟩

lemma parseDataobjImei_encode (imei : HeapString) (hlen : imei.bytes.length = 15) :
    (∃ s, parseDataobjImei (simEncodeBcdNumber (0x2a :: imei.bytes.take 1) ++ simEncodeBcdNumber
    (imei.bytes.drop 1)) = .ok s ∧ s.bytes = imei.bytes) ↔ ∀ c ∈ imei.bytes, IsDigit c := by
  rcases imei with ⟨_ | ⟨a, l⟩, hnul⟩
  · simp at hlen
  · have ha : a ≠ 0 := fun h => hnul (by simp [h])
    have hl : 0 ∉ l := fun h => hnul (by simp [h])
    have hrest := length_simEncodeBcdNumber l
    simp only [length_cons] at hlen
    simp only [take_succ_cons, take_zero, drop_succ_cons, drop_zero]
    generalize hbuf : simEncodeBcdNumber l = rest at hrest
    rcases firstOctet (show toSemiOct 0x2a < 16 by decide) a with ⟨hlow, hhigh⟩
    rw [show simEncodeBcdNumber [0x2a, a] = [semiPair (toSemiOct 0x2a) (toSemiOct a)] from rfl,
      singleton_append]
    generalize semiPair (toSemiOct 0x2a) (toSemiOct a) = first at hlow hhigh
    have hkind : first &&& 0x0f = 0x0a := UInt8.toNat_inj.mp (by rw [UInt8.toNat_and]; exact hlow)
    have hread : readOctets (first :: rest) 1 7 = .ok rest := by
      have hmiddle := @readOctets_middle first rest [] 7 (by omega)
      rwa [append_nil] at hmiddle
    unfold parseDataobjImei
    rw [if_neg (by simp only [length_cons]; omega)]
    simp only [dataAt, getElem?_cons_zero, orFault_some, ok_bind, hkind, ne_eq,
      not_true_eq_false, if_false, hread, hhigh]
    have hdigits : (extractBcdNumber rest).length = 2 * rest.length := length_digitsUnder digitLut rest
    rw [store_bytes_eq (by simp only [length_cons, hdigits]; omega), untilNul_cons_eq ha,
      table_digits.back a ha, forall_mem_cons, ← digits_encode table_digits hl, hbuf]
    rfl

lemma parseDataobjImeisv_encode (imeisv : HeapString) (hlen : imeisv.bytes.length = 16) :
    (∃ s, parseDataobjImeisv (simEncodeBcdNumber (0x33 :: imeisv.bytes.take 1) ++ simEncodeBcdNumber
    (imeisv.bytes.drop 1)) = .ok s ∧ s.bytes = imeisv.bytes) ↔ ∀ c ∈ imeisv.bytes, IsDigit c := by
  rcases imeisv with ⟨_ | ⟨a, l⟩, hnul⟩
  · simp at hlen
  · have ha : a ≠ 0 := fun h => hnul (by simp [h])
    have hl : 0 ∉ l := fun h => hnul (by simp [h])
    simp only [length_cons] at hlen
    simp only [take_succ_cons, take_zero, drop_succ_cons, drop_zero]
    have hback := digits_encode table_digits hl
    rcases eq_nil_or_concat l with rfl | ⟨m, z, rfl⟩
    · simp at hlen
    · rw [concat_eq_append] at hlen hback ⊢
      simp only [length_append, length_singleton] at hlen
      have hrest := length_simEncodeBcdNumber m
      have hsplit : simEncodeBcdNumber (m ++ [z]) =
          simEncodeBcdNumber m ++ [UInt8.ofNat (toSemiOct z ||| 0xf0)] :=
        simEncodeBcdNumber_append (by omega) [z]
      rcases firstOctet (show toSemiOct 0x33 < 16 by decide) a with ⟨hlow, hhigh⟩
      rcases fillerOctet z with ⟨hlast, hfill⟩
      rw [hsplit] at hback
      rw [show simEncodeBcdNumber [0x33, a] = [semiPair (toSemiOct 0x33) (toSemiOct a)] from rfl, hsplit,
        singleton_append, forall_mem_cons, ← hback]
      generalize semiPair (toSemiOct 0x33) (toSemiOct a) = first at hlow hhigh
      generalize UInt8.ofNat (toSemiOct z ||| 0xf0) = last at hlast hfill
      generalize simEncodeBcdNumber m = rest at hrest
      have hkind : first &&& 0x0f = 0x03 := UInt8.toNat_inj.mp (by rw [UInt8.toNat_and]; exact hlow)
      have hfiller : last >>> 4 = 0x0f := octet_forall (P := fun b => (b.toNat &&& 0xf0) >>> 4 = 0xf → b >>> 4 = 0x0f)
        (by decide) last hfill
      have hfirst : first.toNat >>> 4 = toSemiOct a &&& 0xf := by
        rw [← hhigh]
        exact octet_forall (P := fun b => b.toNat >>> 4 = (b.toNat &&& 0xf0) >>> 4) (by decide) first
      have height : (first :: (rest ++ [last]))[8]? = some last := by
        rw [getElem?_cons_succ, getElem?_append_right (by omega)]
        rw [show 7 - rest.length = 0 by omega]
        rfl
      have hread : readOctets (first :: (rest ++ [last])) 1 7 = .ok rest := readOctets_middle (by omega)
      -- the digits behind the first one, without the NUL of the filler
      have hdigits : extractBcdNumber rest ++ [digitLut.getD (last.toNat &&& 0x0f) 0] ++ [0] =
          digitsUnder digitLut (rest ++ [last]) := by
        unfold digitsUnder extractBcdNumber
        rw [flatMap_append, flatMap_singleton, hfill, table_digits.filler, append_assoc]
        rfl
      have hlength : (extractBcdNumber rest).length = 2 * rest.length := length_digitsUnder digitLut rest
      unfold parseDataobjImeisv
      rw [if_neg (by simp only [length_cons, length_append, length_nil]; omega)]
      simp only [dataAt, getElem?_cons_zero, height, orFault_some, ok_bind, hkind,
        hfiller, ne_eq, not_true_eq_false, if_false, hread, hfirst]
      rw [store_bytes_eq (by simp only [length_cons, length_append, length_nil, hlength]; omega),
        untilNul_cons_eq ha, table_digits.back a ha, ← hdigits, CString.untilNul_snoc]

/-! ## Locations -/

lemma table_mcc : TableFor simParseMccMnc.lut IsDigit := by
  constructor
  · exact octet_forall (by decide)
  · decide
  · exact octet_forall (by decide)

/-- A character of a code as it is read back. -/
def mccDigit (c : UInt8) : UInt8 := simParseMccMnc.lut.getD (toSemiOct c &&& 0xf) 0

lemma mccDigit_zero : mccDigit 0 = 0 := by decide

lemma mccDigit_eq (hc : c ≠ 0) : mccDigit c = c ↔ IsDigit c := table_mcc.back c hc

lemma mccDigit_third (c : UInt8) :
    simParseMccMnc.lut.getD (thirdDigit c &&& 0xf) 0 = mccDigit c := by
  unfold thirdDigit mccDigit
  split_ifs with hc
  · rfl
  · rw [not_not.mp hc]
    decide

/-- The three characters of a code, of which the second is in the octet of the first, are
read back if it has only digits. -/
lemma code_back (s : CString 4) : CString.untilNul [mccDigit (s.bytes.getD 0 0),
    if toSemiOct (s.bytes.getD 0 0) = 0xff then 0 else mccDigit (s.bytes.getD 1 0),
    mccDigit (s.bytes.getD 2 0)] = s.bytes ↔ ∀ c ∈ s.bytes, IsDigit c := by
  rcases s with ⟨bytes, hfits, hnul⟩
  rcases bytes with _ | ⟨a, _ | ⟨b, _ | ⟨c, _ | ⟨d, l⟩⟩⟩⟩
  · simp [mccDigit_zero, CString.untilNul_cons]
  · have ha : a ≠ 0 := fun h => hnul (by simp [h])
    simp only [getD_cons_zero, getD_cons_succ, getD_nil, mccDigit_zero, ite_self]
    rw [untilNul_cons_eq ha, forall_mem_singleton]
    exact (and_iff_left rfl).trans (mccDigit_eq ha)
  · have ha : a ≠ 0 := fun h => hnul (by simp [h])
    have hb : b ≠ 0 := fun h => hnul (by simp [h])
    simp only [getD_cons_zero, getD_cons_succ, getD_nil, mccDigit_zero]
    rw [untilNul_cons_eq ha, untilNul_cons_eq hb, forall_mem_cons, forall_mem_singleton,
      mccDigit_eq ha]
    refine and_congr_right fun hvalid => ?_
    rw [if_neg (table_mcc.known a hvalid)]
    exact (and_iff_left rfl).trans (mccDigit_eq hb)
  · have ha : a ≠ 0 := fun h => hnul (by simp [h])
    have hb : b ≠ 0 := fun h => hnul (by simp [h])
    have hc : c ≠ 0 := fun h => hnul (by simp [h])
    simp only [getD_cons_zero, getD_cons_succ]
    rw [untilNul_cons_eq ha, untilNul_cons_eq hb, untilNul_cons_eq hc, forall_mem_cons,
      forall_mem_cons, forall_mem_singleton, mccDigit_eq ha]
    refine and_congr_right fun hvalid => ?_
    rw [if_neg (table_mcc.known a hvalid)]
    exact and_congr (mccDigit_eq hb) ((and_iff_left rfl).trans (mccDigit_eq hc))
  · simp only [length_cons] at hfits
    omega

lemma simParseMccMnc_encode (mcc mnc : CString 4) : ∃ b₀ b₁ b₂, simEncodeMccMnc mcc mnc =
    [b₀, b₁, b₂] ∧ (CString.untilNul (simParseMccMnc b₀ b₁ b₂).1 = mcc.bytes ∧
    CString.untilNul (simParseMccMnc b₀ b₁ b₂).2 = mnc.bytes ↔ (∀ c ∈ mcc.bytes, IsDigit c) ∧
    ∀ c ∈ mnc.bytes, IsDigit c) := by
  refine ⟨_, _, _, rfl, ?_⟩
  have hshift : ∀ b : UInt8, b.toNat >>> 4 = (b.toNat &&& 0xf0) >>> 4 := octet_forall (by decide)
  have hthird : ∀ c, thirdDigit c < 16 ∨ thirdDigit c = 0xff := by
    intro c
    unfold thirdDigit
    split_ifs
    · exact toSemiOct_bound c
    · exact .inl (by omega)
  have hsecond : ∀ (p : Prop) [Decidable p] (x : ℕ), simParseMccMnc.lut.getD (if p then 0xf else x) 0 =
      if p then 0 else simParseMccMnc.lut.getD x 0 := by
    intro p _ x
    split_ifs
    · exact table_mcc.filler
    · rfl
  unfold simParseMccMnc
  simp only [hshift, semiPair_low (toSemiOct_bound _) (toSemiOct_bound _),
    semiPair_high (toSemiOct_bound _) (toSemiOct_bound _), semiPair_low (hthird _) (hthird _),
    semiPair_high (hthird _) (hthird _), hsecond, mccDigit_third]
  refine (and_congr_left' (code_back mcc)).trans (and_congr_right fun hmcc => ?_)
  -- the third character of the first code spoils that of the second one if it is no digit
  have hclean : thirdDigit (mcc.bytes.getD 2 0) ≠ 0xff := by
    unfold thirdDigit
    split_ifs with hc
    · refine table_mcc.known _ (hmcc _ ?_)
      by_contra hmem
      refine hc (getD_eq_default _ _ ?_)
      by_contra hlen
      refine hmem ?_
      rw [← getElem_eq_getD (h := by omega)]
      exact getElem_mem _
    · decide
  rw [if_neg hclean]
  exact code_back mnc

/-- The two octets of an `unsigned short`. -/
def shortOctets (num : UInt16) : List UInt8 := [(num >>> 8).toUInt8, num.toUInt8]

lemma short_back (num : UInt16) :
    UInt16.ofNat ((num >>> 8).toUInt8.toNat <<< 8 + num.toUInt8.toNat) = num := by
  apply UInt16.toNat_inj.mp
  have hlt := num.toNat_lt
  have hhigh : (num >>> 8).toUInt8.toNat = num.toNat / 256 := by
    rw [UInt16.toNat_toUInt8, UInt16.toNat_shiftRight]
    show num.toNat >>> 8 % 2 ^ 8 = _
    rw [Nat.shiftRight_eq_div_pow]
    omega
  have hlow : num.toUInt8.toNat = num.toNat % 256 := by rw [UInt16.toNat_toUInt8]
  rw [UInt16.toNat_ofNat', hhigh, hlow, Nat.shiftLeft_eq]
  omega

@[simp] lemma length_shortOctets (num : UInt16) : (shortOctets num).length = 2 := rfl

@[simp] lemma shortAt_octets (num : UInt16) (l : List UInt8) : shortAt (shortOctets num ++ l) 0 = .ok num := by
  unfold shortAt shortOctets dataAt
  show Outcome.ok (UInt16.ofNat _) = _
  rw [short_back]

@[simp] lemma shortAt_last (num : UInt16) : shortAt (shortOctets num) 0 = .ok num :=
  shortAt_octets num []

@[simp] lemma shortAt_skip (num : UInt16) (l : List UInt8) (i : ℕ) :
    shortAt (shortOctets num ++ l) (i + 2) = shortAt l i := rfl

@[simp] lemma shortAt_cons (a : UInt8) (l : List UInt8) (i : ℕ) : shortAt (a :: l) (i + 1) = shortAt l i := rfl

/-- A location without what its flags say is not there. -/
def SameLocation (a b : StkLocationInfo) : Prop :=
  a.mcc = b.mcc ∧ a.mnc = b.mnc ∧ a.lacTac = b.lacTac ∧ a.hasCi = b.hasCi ∧ (b.hasCi → a.ci = b.ci) ∧
    a.hasExtCi = b.hasExtCi ∧ (b.hasExtCi → a.extCi = b.extCi) ∧ a.hasEutranCi = b.hasEutranCi ∧
    (b.hasEutranCi → a.eutranCi = b.eutranCi)

/-- An `unsigned short` that is only there with its flag. -/
def shortOctetsIf (has : Bool) (num : UInt16) : List UInt8 := if has then shortOctets num else []

/-- The octets of a location. -/
def locationOctets (li : StkLocationInfo) : List UInt8 :=
  simEncodeMccMnc li.mcc li.mnc ++ (shortOctets li.lacTac ++ (shortOctetsIf li.hasCi li.ci ++
    (shortOctetsIf li.hasExtCi li.extCi ++ (shortOctetsIf li.hasEutranCi (li.eutranCi >>> 12).toUInt16 ++
      shortOctetsIf li.hasEutranCi (li.eutranCi <<< 4 ||| 0xf).toUInt16))))

lemma store_code (l : List UInt8) (h : l.length = 3) :
    ∃ s : CString 4, CString.store 4 l = some s ∧ s.bytes = CString.untilNul l :=
  CString.store_eq_some (by omega)

/-- A location comes back if its codes are digits and it has no cell of E-UTRAN, nor an
extended identity without the other one. -/
lemma parseDataobjLocationInfo_octets (li : StkLocationInfo) : (∃ li', parseDataobjLocationInfo
    (locationOctets li) = .ok li' ∧ SameLocation li' li) ↔ ((∀ c ∈ li.mcc.bytes, IsDigit c) ∧ ∀ c ∈
    li.mnc.bytes, IsDigit c) ∧ li.hasEutranCi = false ∧ (li.hasExtCi = true → li.hasCi = true) := by
  rcases simParseMccMnc_encode li.mcc li.mnc with ⟨b₀, b₁, b₂, hcode, hback⟩
  rcases store_code (simParseMccMnc b₀ b₁ b₂).1 rfl with ⟨mcc, hmcc, hmccBytes⟩
  rcases store_code (simParseMccMnc b₀ b₁ b₂).2 rfl with ⟨mnc, hmnc, hmncBytes⟩
  have hcodes : (mcc = li.mcc ∧ mnc = li.mnc) ↔
      (∀ c ∈ li.mcc.bytes, IsDigit c) ∧ ∀ c ∈ li.mnc.bytes, IsDigit c := by
    rw [← hback, CString.ext_iff, CString.ext_iff, hmccBytes, hmncBytes]
  unfold parseDataobjLocationInfo locationOctets
  rw [hcode]
  rcases li with ⟨lmcc, lmnc, lac, hasCi, ci, hasExtCi, extCi, hasEutranCi, eutranCi⟩
  rw [← hcodes]
  cases hasCi <;> cases hasExtCi <;> cases hasEutranCi <;>
    simp [shortOctetsIf, hmcc, hmnc, shortIf, SameLocation]

/-! ## Channels -/

section Channels

variable {channels : List UInt16}

/-- A channel of the list, 0 behind its end. -/
def channelAt (channels : List UInt16) (i : ℕ) : ℕ := (channels.getD i 0).toNat

lemma channelAt_le (h : ∀ c ∈ channels, c.toNat ≤ 1023) (i : ℕ) : channelAt channels i ≤ 1023 := by
  unfold channelAt
  rcases Nat.lt_or_ge i channels.length with hi | hi
  · rw [← getElem_eq_getD (h := hi)]
    exact h _ (getElem_mem hi)
  · rw [getD_eq_default _ _ hi]
    decide

/-- An octet as a number: the upper bits of one channel below the lower ones of that before. -/
lemma bcchOctet_toNat (h : ∀ c ∈ channels, c.toNat ≤ 1023) {i pos shift : ℕ}
    (hpos : (i * 8 + 7) / 10 = pos) (hshift : pos * 10 + 10 - i * 8 - 8 = shift)
    (hle : shift ≤ 10) : (bcchOctet channels i).toNat = (channelAt channels pos / 2 ^ shift +
    (if shift > 2 then channelAt channels (pos - 1) * 2 ^ (10 - shift) else 0)) % 256 := by
  have hfirst : (if pos < channels.length then (channels.getD pos 0).toNat >>> shift else 0) =
      channelAt channels pos / 2 ^ shift := by
    unfold channelAt
    split_ifs with hin
    · rw [Nat.shiftRight_eq_div_pow]
    · rw [getD_eq_default _ _ (by omega)]
      simp
  have hbound : channelAt channels pos / 2 ^ shift < 2 ^ (10 - shift) := by
    refine Nat.div_lt_of_lt_mul ?_
    rw [← Nat.pow_add, Nat.add_sub_cancel' hle]
    exact Nat.lt_succ_of_le (channelAt_le h pos)
  unfold bcchOctet
  simp only [hpos, hshift, hfirst]
  split_ifs with hmore
  · rw [Septets.or_shiftLeft hbound, UInt8.toNat_ofNat']
    rfl
  · rw [Nat.or_zero, Nat.add_zero, UInt8.toNat_ofNat']

def bcchOctets (channels : List UInt16) : List UInt8 :=
  (List.range ((channels.length * 10 + 7) / 8)).map (bcchOctet channels)

lemma bcchOctets_getElem? {j : ℕ} (hj : j < (channels.length * 10 + 7) / 8) :
    (bcchOctets channels)[j]? = some (bcchOctet channels j) := by
  unfold bcchOctets
  rw [getElem?_map, getElem?_range hj]
  rfl

/-- What is read for a channel: the bits of the one before that are in its first octet are
taken for bits of its own. -/
lemma bcchChannelAt_octets (h : ∀ c ∈ channels, c.toNat ≤ 1023) {i : ℕ} (hi : i < channels.length) :
    bcchChannelAt (bcchOctets channels) i =
      .ok (UInt16.ofNat (channelAt channels i + channelAt channels (i - 1) % 4 ^ (i % 4) * 1024)) := by
  have hself := channelAt_le h i
  have hbefore := channelAt_le h (i - 1)
  have hafter := channelAt_le h (i + 1)
  have hq : i = 4 * (i / 4) + i % 4 := (Nat.div_add_mod i 4).symm
  have hr := Nat.mod_lt i (show 4 > 0 by decide)
  unfold bcchChannelAt dataAt
  simp only [bcchOctets_getElem? (show i * 10 / 8 < (channels.length * 10 + 7) / 8 by omega),
    bcchOctets_getElem? (show i * 10 / 8 + 1 < (channels.length * 10 + 7) / 8 by omega),
    orFault_some, ok_bind, pure_eq_ok]
  congr 2
  rcases (show i % 4 = 0 ∨ i % 4 = 1 ∨ i % 4 = 2 ∨ i % 4 = 3 by omega) with hmod | hmod | hmod | hmod
  · rw [bcchOctet_toNat h (show _ = i by omega) (show _ = 2 by omega) (by omega),
      bcchOctet_toNat h (show _ = i + 1 by omega) (show _ = 4 by omega) (by omega), hmod,
      show i * 10 % 8 = 0 by omega, Nat.shiftLeft_eq, Nat.shiftRight_eq_div_pow]
    simp
    omega
  · rw [bcchOctet_toNat h (show _ = i by omega) (show _ = 4 by omega) (by omega),
      bcchOctet_toNat h (show _ = i + 1 by omega) (show _ = 6 by omega) (by omega), hmod,
      show i * 10 % 8 = 2 by omega, Nat.shiftLeft_eq, Nat.shiftRight_eq_div_pow]
    simp
    omega
  · rw [bcchOctet_toNat h (show _ = i by omega) (show _ = 6 by omega) (by omega),
      bcchOctet_toNat h (show _ = i + 1 by omega) (show _ = 8 by omega) (by omega), hmod,
      show i * 10 % 8 = 4 by omega, Nat.shiftLeft_eq, Nat.shiftRight_eq_div_pow]
    simp
    omega
  · rw [bcchOctet_toNat h (show _ = i by omega) (show _ = 8 by omega) (by omega),
      bcchOctet_toNat h (show _ = i by omega) (show _ = 0 by omega) (by omega), hmod,
      show i * 10 % 8 = 6 by omega, Nat.shiftLeft_eq, Nat.shiftRight_eq_div_pow]
    simp
    omega

lemma mapM_ok_map {α β : Type} {f : α → Outcome β} {g : α → β} {l : List α}
    (h : ∀ a ∈ l, f a = .ok (g a)) : l.mapM f = .ok (l.map g) := by
  induction l with
  | nil => rfl
  | cons a l ih =>
    rw [mapM_cons, h a (by simp), ih fun a ha => h a (by simp [ha])]
    rfl

/-- Channels in each octet of which the one before ends on an octet boundary. -/
def Separate (channels : List UInt16) : Prop :=
  ∀ i < channels.length, channelAt channels (i - 1) % 4 ^ (i % 4) = 0

/-- A list of channels comes back if it is not empty and no channel is read with bits of the
one before. -/
lemma parseDataobjBcchChannelList_octets (h : ∀ c ∈ channels, c.toNat ≤ 1023)
    (hfits : channels.length ≤ 101) : parseDataobjBcchChannelList (bcchOctets channels) =
    .ok ⟨true, channels, hfits⟩ ↔ channels ≠ [] ∧ Separate channels := by
  have hlen : (bcchOctets channels).length = (channels.length * 10 + 7) / 8 := by
    unfold bcchOctets
    rw [length_map, length_range]
  unfold parseDataobjBcchChannelList
  by_cases hempty : channels = []
  · subst hempty
    rw [if_pos (by rw [hlen]; decide)]
    simp
  · have hpos := length_pos_iff.mpr hempty
    have hnum : (channels.length * 10 + 7) / 8 * 8 / 10 = channels.length := by omega
    have hread : (List.range channels.length).mapM (bcchChannelAt (bcchOctets channels)) =
        .ok ((List.range channels.length).map fun i =>
          UInt16.ofNat (channelAt channels i + channelAt channels (i - 1) % 4 ^ (i % 4) * 1024)) :=
      mapM_ok_map fun i hi => bcchChannelAt_octets h (mem_range.mp hi)
    rw [if_neg (by omega), hlen, hnum, hread, ok_bind, dif_pos (by simpa using hfits)]
    simp only [pure_eq_ok, Outcome.ok.injEq, StkBcchChannelList.mk.injEq, true_and, hempty, ne_eq,
      not_false_eq_true]
    constructor
    · intro heq i hi
      have hself := channelAt_le h i
      have hgot := getElem_of_eq heq (i := i) (by simpa using hi)
      rw [getElem_map, getElem_range] at hgot
      have hnat := congrArg UInt16.toNat hgot
      have hsame : channels[i].toNat = channelAt channels i := by
        unfold channelAt
        rw [getElem_eq_getD]
      have hsmall : channelAt channels (i - 1) % 4 ^ (i % 4) < 64 := by
        refine Nat.lt_of_lt_of_le (Nat.mod_lt _ (by positivity)) ?_
        exact (Nat.pow_le_pow_right (by decide) (show i % 4 ≤ 3 by omega)).trans_eq rfl
      rw [UInt16.toNat_ofNat', hsame, Nat.mod_eq_of_lt (by omega)] at hnat
      omega
    · intro hsep
      refine ext_getElem (by simp) fun i h₁ h₂ => ?_
      rw [getElem_map, getElem_range, hsep i h₂]
      unfold channelAt
      rw [Nat.zero_mul, Nat.add_zero, UInt16.ofNat_toNat, getElem_eq_getD]

end Channels

/-! ## Files -/

lemma filePathLength_take {lastType : UInt8} {n len : ℕ}
    (h : filePathLength lastType n l = some len) :
    n + 2 ≤ len ∧ len ≤ n + l.length ∧ ∀ m, filePathLength lastType n (l.take (len - n) ++ m) = some len := by
  fun_induction filePathLength lastType n l with
  | case1 => cases h
  | case2 => cases h
  | case3 lastType n type b rest hnext helem =>
    cases h
    refine ⟨Nat.le_refl _, by simp only [length_cons]; omega, fun m => ?_⟩
    rw [Nat.add_sub_cancel_left]
    show filePathLength lastType n (type :: b :: m) = _
    rw [filePathLength, if_pos hnext, if_pos helem]
  | case4 lastType n type b rest hnext helem ih =>
    rcases ih h with ⟨hlow, hhigh, htake⟩
    refine ⟨by omega, by simp only [length_cons]; omega, fun m => ?_⟩
    rw [show len - n = (len - (n + 2)) + 2 by omega]
    show filePathLength lastType n (type :: b :: (rest.take _ ++ m)) = _
    rw [filePathLength, if_pos hnext, if_neg helem]
    exact htake m
  | case5 => cases h

lemma stkFileIterNext_split {file rest : List UInt8} (h : stkFileIterNext l = some (file, rest)) :
    l = file ++ rest ∧ 4 ≤ file.length ∧ ∀ m, stkFileIterNext (file ++ m) = some (file, m) := by
  unfold stkFileIterNext at h
  split_ifs at h with hshort hhead
  rcases Option.map_eq_some_iff.mp h with ⟨len, hlen, heq⟩
  have hle : len ≤ 2 + 6 := filePathLength_le hlen
  rcases filePathLength_take hlen with ⟨hlow, hhigh, htake⟩
  rw [length_drop] at hhigh
  rw [Nat.mod_eq_of_lt (by omega), Prod.mk.injEq] at heq
  rcases heq with ⟨rfl, rfl⟩
  have hfile : (l.take len).length = len := by
    rw [length_take]
    omega
  refine ⟨(take_append_drop len l).symm, by omega, fun m => ?_⟩
  have hstart : (l.take len ++ m).drop 2 = (l.drop 2).take (len - 2) ++ m := by
    rw [drop_append_of_le_length (by omega), drop_take]
  have hhead' : (l.take len ++ m).head? = some 0x3f := by
    rw [head?_append_of_ne_nil _ (by intro hnil; rw [hnil] at hfile; simp at hfile; omega),
      head?_take, if_neg (by omega)]
    exact not_not.mp hhead
  unfold stkFileIterNext
  rw [if_neg (by rw [length_append, hfile]; omega), if_neg (not_not.mpr hhead'), hstart, htake m,
    Option.map_some, Nat.mod_eq_of_lt (by omega), take_left' hfile, drop_left' hfile]

/-- A file by itself is a path in the sense of the iterator. -/
def IsPath (f : StkFile) : Prop := stkFileIterNext f.octets = some (f.octets, [])

lemma fileListLoop_flatMap (files : List StkFile) :
    fileListLoop (files.flatMap fun f => f.octets) = .ok (files, []) ↔ ∀ f ∈ files, IsPath f := by
  induction files with
  | nil =>
    rw [flatMap_nil, fileListLoop]
    simp [stkFileIterNext]
  | cons f files ih =>
    rw [flatMap_cons, forall_mem_cons, ← ih]
    constructor
    · intro h
      rcases hnext : stkFileIterNext (f.octets ++ files.flatMap fun f => f.octets) with _ | ⟨file, rest⟩
      · rw [fileListLoop, hnext] at h
        cases h
      · rcases stkFileIterNext_split hnext with ⟨hsplit, -, hpath⟩
        rw [fileListLoop, hnext] at h
        simp only at h
        rcases Outcome.bind_eq_ok.mp h with ⟨sf, hsf, hrest⟩
        rcases Outcome.bind_eq_ok.mp hrest with ⟨r, hr, heq⟩
        simp only [pure_eq_ok, Outcome.ok.injEq, Prod.mk.injEq, List.cons.injEq] at heq
        rcases heq with ⟨⟨rfl, hfiles⟩, hleft⟩
        have hfile : sf.octets = file := by
          rw [Filled.store_eq_some (stkFileIterNext_le hnext), orFault_some, Outcome.ok.injEq] at hsf
          rw [← hsf]
        rw [← hfile] at hsplit hpath
        have hr' : r = (files, []) := Prod.ext hfiles hleft
        rw [append_cancel_left hsplit, hr, hr']
        refine ⟨?_, rfl⟩
        have halone := hpath []
        rwa [append_nil] at halone
    · rintro ⟨hpath, hrest⟩
      have hnext := (stkFileIterNext_split hpath).2.2 (files.flatMap fun f => f.octets)
      rw [fileListLoop, hnext]
      simp only [Filled.store_octets, orFault_some, ok_bind, hrest, pure_eq_ok]

lemma parseDataobjFileList_octets (files : List StkFile) (count : UInt8) :
    parseDataobjFileList (count :: files.flatMap fun f => f.octets) = .ok files ↔
      files ≠ [] ∧ ∀ f ∈ files, IsPath f := by
  rw [← fileListLoop_flatMap]
  have hread : ∀ l : List UInt8, readOctets (count :: l) 1 ((count :: l).length - 1) = .ok l := by
    intro l
    unfold readOctets
    rw [if_pos (by simp only [length_cons]; omega)]
    simp
  unfold parseDataobjFileList
  rw [hread, ok_bind]
  constructor
  · intro h
    split_ifs at h with hshort
    rcases Outcome.bind_eq_ok.mp h with ⟨⟨fl, rest⟩, hloop, hend⟩
    simp only at hend
    split_ifs at hend with hrest
    have hnil : rest = [] := eq_nil_of_length_eq_zero (not_not.mp hrest)
    obtain rfl : fl = files := by simpa using hend
    refine ⟨?_, by rw [hloop, hnil]⟩
    rintro rfl
    simp at hshort
  · rintro ⟨hne, hloop⟩
    rcases exists_cons_of_ne_nil hne with ⟨f, l, rfl⟩
    have hpath := (fileListLoop_flatMap (f :: l)).mp hloop f (by simp)
    have hlen := (stkFileIterNext_split hpath).2.1
    rw [if_neg (by rw [length_cons, flatMap_cons, length_append]; omega), hloop]
    rfl

/-! ## Times -/

lemma toBcd_back : ∀ v : UInt8, smsDecodeSemiOctet (toBcd v) = v ↔ v.toNat ≤ 159 :=
  octet_forall (by decide)

lemma parseDataobjTimerValue_octets (value : StkTimerValue) :
    parseDataobjTimerValue [toBcd value.hour, toBcd value.minute, toBcd value.second] =
        .ok ⟨true, value.hour, value.minute, value.second⟩ ↔
      value.hour.toNat ≤ 159 ∧ value.minute.toNat ≤ 159 ∧ value.second.toNat ≤ 159 := by
  rw [← toBcd_back, ← toBcd_back, ← toBcd_back]
  simp [parseDataobjTimerValue]

/-- A time without what its flag says is not there. -/
def SameTime (a b : SmsScts) : Prop :=
  a.year = b.year ∧ a.month = b.month ∧ a.day = b.day ∧ a.hour = b.hour ∧ a.minute = b.minute ∧
    a.second = b.second ∧ a.hasTimezone = b.hasTimezone ∧ (b.hasTimezone → a.timezone = b.timezone)

variable {scts : SmsScts}

lemma not_sctsAt_ff {rest : List UInt8} {a b d e f : UInt8} :
    ¬ SctsAt [a, b, c, d, e, f, 0xff] scts rest := by
  rintro ⟨y, mo, d', h, mi, s, tz, heq, -, -, -, -, -, -, -, hmin, -⟩
  simp only [List.cons.injEq] at heq
  rcases heq with ⟨-, -, -, -, -, -, rfl, -⟩
  exact absurd hmin (by decide)

lemma readOctets_all {n : ℕ} (h : l.length = n) : readOctets l 0 n = .ok l := by
  unfold readOctets
  rw [if_pos (by omega), drop_zero, take_of_length_le (by omega)]

lemma ranges_of_encode {value : List UInt8} (h : smsEncodeScts scts = .ok value) : (scts.year ≤ 99 ∧
    scts.month ≤ 12 ∧ scts.day ≤ 31 ∧ scts.hour ≤ 23 ∧ scts.minute ≤ 59 ∧ scts.second ≤ 59) ∧
    (scts.hasTimezone = true → scts.timezone ≤ maxTimezone ∧ minTimezone ≤ scts.timezone) := by
  unfold smsEncodeScts at h
  by_cases htz : (scts.timezone > maxTimezone ∨ scts.timezone < minTimezone) ∧ scts.hasTimezone = true
  · rw [if_pos htz] at h
    split_ifs at h
  · split_ifs at h with hy hmo hd hh hmi hs
    all_goals
      refine ⟨⟨UInt8.not_lt.mp hy, UInt8.not_lt.mp hmo, UInt8.not_lt.mp hd, UInt8.not_lt.mp hh,
        UInt8.not_lt.mp hmi, UInt8.not_lt.mp hs⟩, fun hhas => ?_⟩
      have hrange : ¬ (scts.timezone > maxTimezone ∨ scts.timezone < minTimezone) := fun hr => htz ⟨hr, hhas⟩
      constructor <;> omega

lemma parseDataobjDatetimeTimezone_encode {value : List UInt8} (h : smsEncodeScts scts = .ok
    value) : ∃ scts', parseDataobjDatetimeTimezone value = .ok scts' ∧ SameTime scts' scts := by
  rcases ranges_of_encode h with ⟨⟨hy, hmo, hd, hh, hmi, hs⟩, htz⟩
  rcases hhas : scts.hasTimezone
  · -- the decoder gives up at the timezone, but it has read the rest
    have hback : ∀ v w : UInt8, v ≤ w → w ≤ 99 → smsDecodeSemiOctet (semiOctetOf v) = v :=
      fun v w hv hw => semiOctet_roundTrip v (UInt8.le_trans hv hw)
    have hvalue : value = [semiOctetOf scts.year, semiOctetOf scts.month, semiOctetOf scts.day,
        semiOctetOf scts.hour, semiOctetOf scts.minute, semiOctetOf scts.second, 0xff] := by
      unfold smsEncodeScts at h
      rw [if_neg (UInt8.not_lt.mpr hy), if_neg (UInt8.not_lt.mpr hmo), if_neg (UInt8.not_lt.mpr hd),
        if_neg (UInt8.not_lt.mpr hh), if_neg (UInt8.not_lt.mpr hmi), if_neg (UInt8.not_lt.mpr hs),
        if_neg (by rw [hhas]; simp)] at h
      simp only [hhas, Bool.not_false, if_true, Outcome.ok.injEq] at h
      exact h.symm
    have hrej : smsDecodeScts (Decoder.on value []) = .reject := by
      refine (smsDecodeScts_cases value []).resolve_left ?_
      rintro ⟨scts', rest, hat⟩
      rw [hvalue] at hat
      exact not_sctsAt_ff hat
    have hleft : sctsLeft value = ⟨scts.year, scts.month, scts.day, scts.hour, scts.minute, scts.second, false,
        decodeTimezone 0xff⟩ := by
      rw [hvalue]
      unfold sctsLeft
      simp only [sctsNumbers, hback _ _ hy (by decide), hback _ _ hmo (by decide), hback _ _ hd (by decide),
        hback _ _ hh (by decide), hback _ _ hmi (by decide), hback _ _ hs (by decide),
        if_neg (UInt8.not_lt.mpr hy), if_neg (UInt8.not_lt.mpr hmo), if_neg (UInt8.not_lt.mpr hd),
        if_neg (UInt8.not_lt.mpr hh), if_neg (UInt8.not_lt.mpr hmi), if_neg (UInt8.not_lt.mpr hs), if_true]
      rfl
    have hlen : value.length = 7 := by rw [hvalue]; rfl
    refine ⟨⟨scts.year, scts.month, scts.day, scts.hour, scts.minute, scts.second, false,
      decodeTimezone 0xff⟩, ?_, rfl, rfl, rfl, rfl, rfl, rfl, hhas.symm, by simp [hhas]⟩
    unfold parseDataobjDatetimeTimezone
    rw [if_neg (not_not.mpr hlen), readOctets_all hlen, ok_bind, hrej]
    exact congrArg Outcome.ok hleft
  · rcases smsEncodeScts_valid ⟨hy, hmo, hd, hh, hmi, hs, hhas, (htz hhas).1, (htz hhas).2⟩ with
      ⟨l, hl, hlen, hat⟩
    obtain rfl : l = value := by
      rw [h] at hl
      exact (Outcome.ok.inj hl).symm
    refine ⟨scts, ?_, rfl, rfl, rfl, rfl, rfl, rfl, rfl, fun _ => rfl⟩
    have hrun := (hat []).run []
    rw [append_nil] at hrun
    unfold parseDataobjDatetimeTimezone
    rw [if_neg (not_not.mpr hlen), readOctets_all hlen, ok_bind, hrun]
    rfl

end Phonelets.Stk
