import Mathlib.Data.Nat.Digits.Defs
import Mathlib.Tactic.IntervalCases

/-! # Packed septets

`pack_7bit_own_buf` and `unpack_7bit_own_buf` of `util.c`, which work on the octets
after a header of `byte_offset` octets: the first septet starts at a septet boundary
of the whole. As numbers, the octets in base 256 are the septets in base 128 after
the fill bits; both loops are proved against that.
-/

namespace Phonelets.Septets

open List

/-! ## The functions -/

/-- The loop of `pack_7bit_own_buf`: the octets finished, then `bits` and `*out`. -/
def pack7bitLoop : ℕ → ℕ → List UInt8 → List UInt8 × ℕ × ℕ
  | bits, cur, [] => ([], bits, cur)
  | bits, cur, c :: l =>
    let done :=
      if bits ≠ 7 then
        [UInt8.ofNat (cur ||| (c.toNat &&& ((1 <<< (7 - bits)) - 1)) <<< (bits + 1))]
      else []
    let cur := if bits ≠ 0 then c.toNat >>> (7 - bits) else cur
    let r := pack7bitLoop (if bits = 0 then 7 else bits - 1) cur l
    (done ++ r.1, r.2)

/-- `pack_7bit_own_buf` of the given octets, without a terminator. -/
def pack7bitOwnBuf (input : List UInt8) (byteOffset : ℕ) (ussd : Bool) : Option (List UInt8) :=
  if input.isEmpty then none
  else
    let bits := 7 - byteOffset % 7
    let totalBits := input.length * 7 + if bits ≠ 7 then bits else 0
    let r := pack7bitLoop (if bits ≠ 7 then bits - 1 else bits) 0 input
    let cur := if ussd && totalBits % 8 == 1 then r.2.2 ||| 0x0d <<< 1 else r.2.2
    let out := if r.2.1 ≠ 7 then r.1 ++ [UInt8.ofNat cur] else r.1
    if ussd && totalBits % 8 == 0 && input.getLast? == some 0x0d then some (out ++ [0x0d])
    else some out

/-- The loop of `unpack_7bit_own_buf`; `first` is `i == 0`. -/
def unpack7bitLoop (maxToUnpack : ℕ) : Bool → ℕ → ℕ → List UInt8 → List UInt8 → List UInt8
  | _, _, _, out, [] => out
  | first, bits, rest, out, b :: l =>
    if out.length < maxToUnpack then
      let cur := (b.toNat &&& ((1 <<< bits) - 1)) <<< (7 - bits) ||| rest
      let rest := (b.toNat >>> bits) &&& ((1 <<< (8 - bits)) - 1)
      let out := if !first || bits == 7 then out ++ [UInt8.ofNat cur] else out
      if out.length = maxToUnpack then out
      else if bits = 1 then unpack7bitLoop maxToUnpack false 7 0 (out ++ [UInt8.ofNat rest]) l
      else unpack7bitLoop maxToUnpack false (bits - 1) rest out l
    else out

/-- `unpack_7bit_own_buf` of the given octets, without a terminator. -/
def unpack7bitOwnBuf (input : List UInt8) (byteOffset : ℕ) (ussd : Bool) (maxToUnpack : ℕ) :
    Option (List UInt8) :=
  if input.isEmpty then none
  else
    let maxToUnpack := if ussd then input.length * 8 / 7 else maxToUnpack
    let out := unpack7bitLoop maxToUnpack true (7 - byteOffset % 7) 0 [] input
    if ussd && out.length % 8 == 0 && out.getLast? == some 0x0d then some out.dropLast
    else some out

/-! ## Octets and septets as numbers -/

/-- The number with the given digits, the first one lowest. -/
def value (base : ℕ) (l : List UInt8) : ℕ := Nat.ofDigits base (l.map UInt8.toNat)

/-- The first `m` septets of a number. -/
def septets : ℕ → ℕ → List ℕ
  | 0, _ => []
  | m + 1, v => v % 128 :: septets m (v / 128)

lemma value_nil (base : ℕ) : value base [] = 0 := rfl

lemma value_cons (base : ℕ) (b : UInt8) (l : List UInt8) :
    value base (b :: l) = b.toNat + base * value base l := by
  simp [value, Nat.ofDigits_cons]

lemma value_append (base : ℕ) (l m : List UInt8) :
    value base (l ++ m) = value base l + base ^ l.length * value base m := by
  simp [value, Nat.ofDigits_append]

variable {l : List UInt8}

lemma septets_value (h : ∀ c ∈ l, c < 128) :
    (septets l.length (value 128 l)).map UInt8.ofNat = l := by
  induction l with
  | nil => rfl
  | cons c l ih =>
    have hc : c.toNat < 128 := UInt8.lt_iff_toNat_lt.mp (h c (by simp))
    have hmod : (c.toNat + 128 * value 128 l) % 128 = c.toNat := by omega
    have hdiv : (c.toNat + 128 * value 128 l) / 128 = value 128 l := by omega
    rw [length_cons, value_cons, septets, hmod, hdiv, map_cons,
      ih fun d hd => h d (by simp [hd]), UInt8.ofNat_toNat]

lemma mask_eq_mod (n k : ℕ) : n &&& ((1 <<< k) - 1) = n % 2 ^ k := by
  rw [Nat.one_shiftLeft, Nat.and_two_pow_sub_one_eq_mod]

lemma or_shiftLeft {a b k : ℕ} (h : a < 2 ^ k) : a ||| b <<< k = a + b * 2 ^ k := by
  rw [Nat.or_comm, ← Nat.shiftLeft_add_eq_or_of_lt h, Nat.shiftLeft_eq, Nat.add_comm]

/-! ## Packing -/

/-- The bits of `*out` that are taken when the loop is at `bits`. -/
def usedBits (bits : ℕ) : ℕ := if bits = 7 then 0 else bits + 1

/-- What is in the bits of `*out` that are taken. -/
def curValue (bits cur : ℕ) : ℕ := if bits = 7 then 0 else cur

/-- One turn: the septet goes above the bits that are taken, into at most one octet
more. -/
lemma pack7bitLoop_cons {c : UInt8} (hc : c < 128) (l : List UInt8) {bits cur : ℕ}
    (hbits : bits ≤ 7) (hcur : curValue bits cur < 2 ^ usedBits bits) :
    ∃ done bits' cur', pack7bitLoop bits cur (c :: l) = (done ++ (pack7bitLoop bits' cur' l).1,
    (pack7bitLoop bits' cur' l).2) ∧ value 256 done + 256 ^ done.length * curValue bits' cur' =
    curValue bits cur + 2 ^ usedBits bits * c.toNat ∧ 8 * done.length + usedBits bits' =
    usedBits bits + 7 ∧ bits' ≤ 7 ∧ curValue bits' cur' < 2 ^ usedBits bits' := by
  have hc' : c.toNat < 128 := UInt8.lt_iff_toNat_lt.mp hc
  refine ⟨_, _, _, rfl, ?_⟩
  rcases Nat.lt_or_ge bits 7 with hlt | hge
  · have hne : bits ≠ 7 := by omega
    simp only [curValue, usedBits, if_neg hne] at hcur
    have hval : (UInt8.ofNat (cur ||| (c.toNat &&& ((1 <<< (7 - bits)) - 1)) <<< (bits + 1))).toNat =
        cur + c.toNat % 2 ^ (7 - bits) * 2 ^ (bits + 1) := by
      rw [mask_eq_mod, or_shiftLeft hcur, UInt8.toNat_ofNat']
      apply Nat.mod_eq_of_lt
      interval_cases bits <;> omega
    simp only [hne, ne_eq, not_false_eq_true, if_true, curValue, usedBits, if_false, value_cons, value_nil, hval,
      length_cons, length_nil, Nat.shiftRight_eq_div_pow]
    interval_cases bits <;> simp <;> omega
  · have h7 : bits = 7 := by omega
    subst h7
    simp [curValue, usedBits, value_nil]
    omega

/-- The octets of the loop, with the one still open, are what was there before and
the septets above it. -/
lemma pack7bitLoop_value (l : List UInt8) (hl : ∀ c ∈ l, c < 128) :
    ∀ bits cur, bits ≤ 7 → curValue bits cur < 2 ^ usedBits bits →
      let r := pack7bitLoop bits cur l
      value 256 r.1 + 256 ^ r.1.length * curValue r.2.1 r.2.2 =
          curValue bits cur + 2 ^ usedBits bits * value 128 l ∧
        8 * r.1.length + usedBits r.2.1 = usedBits bits + 7 * l.length ∧ r.2.1 ≤ 7 ∧
        curValue r.2.1 r.2.2 < 2 ^ usedBits r.2.1 := by
  induction l with
  | nil =>
    intro bits cur hbits hcur
    simp [pack7bitLoop, value_nil, hbits, hcur]
  | cons c l ih =>
    intro bits cur hbits hcur
    rcases pack7bitLoop_cons (hl c (by simp)) l hbits hcur with
      ⟨done, bits', cur', heq, hval, hlen, hbits', hcur'⟩
    rcases ih (fun d hd => hl d (by simp [hd])) bits' cur' hbits' hcur' with
      ⟨hval', hlen', hend, hopen⟩
    rw [heq]
    intro r
    refine ⟨?_, ?_, hend, hopen⟩
    · -- the next septet starts seven bits on
      have hpow : 256 ^ done.length * 2 ^ usedBits bits' = 2 ^ usedBits bits * 128 := by
        rw [show 256 = 2 ^ 8 by rfl, ← Nat.pow_mul, ← Nat.pow_add, hlen, Nat.pow_add]
      calc value 256 r.1 + 256 ^ r.1.length * curValue r.2.1 r.2.2
          = value 256 done + 256 ^ done.length *
              (value 256 (pack7bitLoop bits' cur' l).1 +
                256 ^ (pack7bitLoop bits' cur' l).1.length * curValue r.2.1 r.2.2) := by
            simp only [r, value_append, length_append, Nat.pow_add]
            ring
        _ = value 256 done + 256 ^ done.length * curValue bits' cur' +
              256 ^ done.length * 2 ^ usedBits bits' * value 128 l := by
            rw [hval']
            ring
        _ = curValue bits cur + 2 ^ usedBits bits * value 128 (c :: l) := by
            rw [hval, hpow, value_cons]
            ring
    · simp only [r, length_append, length_cons]
      omega

/-- The bits between a header of so many octets and the next septet. -/
def fillBits (byteOffset : ℕ) : ℕ := (7 - byteOffset % 7) % 7

/-- Packing puts the septets above the fill bits, into as few octets as hold them. -/
lemma pack7bitOwnBuf_value (hl : ∀ c ∈ l, c < 128) (hne : l ≠ []) (byteOffset : ℕ) : ∃ out,
    pack7bitOwnBuf l byteOffset false = some out ∧ value 256 out = 2 ^ fillBits byteOffset * value
    128 l ∧ out.length = (fillBits byteOffset + 7 * l.length + 7) / 8 := by
  have hempty : l.isEmpty = false := by simpa using hne
  generalize hstart : (if 7 - byteOffset % 7 ≠ 7 then 7 - byteOffset % 7 - 1
    else 7 - byteOffset % 7) = start
  have hlt := Nat.mod_lt byteOffset (show 7 > 0 by decide)
  -- the loop starts with an open octet that holds the fill bits
  have hused : usedBits start = fillBits byteOffset := by
    unfold usedBits fillBits
    split at hstart
    · rw [if_neg (by omega)]
      omega
    · rw [if_pos (by omega)]
      omega
  have hcur : curValue start 0 = 0 := by
    unfold curValue
    split <;> rfl
  have hbits : start ≤ 7 := by
    split at hstart <;> omega
  have hloop := pack7bitLoop_value l hl start 0 hbits (by rw [hcur]; exact Nat.two_pow_pos _)
  rw [hcur, hused, Nat.zero_add] at hloop
  generalize hr : pack7bitLoop start 0 l = r at hloop
  rcases hloop with ⟨hval, hlen, hend, hopen⟩
  -- an octet is put out at last for what is still open
  refine ⟨if r.2.1 ≠ 7 then r.1 ++ [UInt8.ofNat r.2.2] else r.1, ?_, ?_, ?_⟩
  · unfold pack7bitOwnBuf
    simp only [hempty, hstart, hr, Bool.false_and, Bool.false_eq_true, if_false]
  · by_cases h7 : r.2.1 = 7
    · simpa [h7, curValue] using hval
    · -- the open octet is the last one
      have hsmall : r.2.2 < 256 := by
        simp only [curValue, usedBits, if_neg h7] at hopen
        have hpow : 2 ^ (r.2.1 + 1) ≤ 2 ^ 8 := Nat.pow_le_pow_right (by decide) (by omega)
        omega
      have hlast : (UInt8.ofNat r.2.2).toNat = r.2.2 := by
        rw [UInt8.toNat_ofNat']
        exact Nat.mod_eq_of_lt hsmall
      simp only [curValue, if_neg h7] at hval
      rw [if_pos h7, value_append, value_cons, value_nil, hlast, Nat.mul_zero, Nat.add_zero, hval]
  · unfold usedBits at hlen
    by_cases h7 : r.2.1 = 7
    · rw [if_pos h7] at hlen
      rw [if_neg (by simpa using h7)]
      omega
    · rw [if_neg h7] at hlen
      rw [if_pos h7, length_append, length_cons, length_nil]
      omega

/-! ## Unpacking -/

lemma septets_succ (m v : ℕ) : septets (m + 1) v = v % 128 :: septets m (v / 128) := rfl

/-- The octet at hand completes the septet of which `rest` is the low part. -/
lemma unpack_cur {bits rest : ℕ} (hlo : 1 ≤ bits) (hhi : bits ≤ 7) (hrest : rest < 2 ^ (7 - bits))
    (b : UInt8) (n : ℕ) : ((b.toNat &&& ((1 <<< bits) - 1)) <<< (7 - bits) ||| rest) =
    (rest + 2 ^ (7 - bits) * (b.toNat + 256 * n)) % 128 ∧ (b.toNat >>> bits) &&&
    ((1 <<< (8 - bits)) - 1) = b.toNat / 2 ^ bits ∧ b.toNat / 2 ^ bits < 2 ^ (8 - bits) ∧ (rest +
    2 ^ (7 - bits) * (b.toNat + 256 * n)) / 128 = b.toNat / 2 ^ bits + 2 ^ (8 - bits) * n := by
  have hb := b.toNat_lt
  rw [Nat.or_comm, mask_eq_mod, mask_eq_mod, or_shiftLeft hrest, Nat.shiftRight_eq_div_pow]
  interval_cases bits <;> simp at hrest ⊢ <;> omega

/-- From the second octet on the loop takes one septet after the other off the number
of what is left. -/
lemma unpack7bitLoop_value {maxToUnpack : ℕ} (l : List UInt8) :
    ∀ bits rest out m, 1 ≤ bits → bits ≤ 7 → rest < 2 ^ (7 - bits) → out.length + m = maxToUnpack →
    7 * m ≤ (7 - bits) + 8 * l.length → unpack7bitLoop maxToUnpack false bits rest out l =
    out ++ (septets m (rest + 2 ^ (7 - bits) * value 256 l)).map UInt8.ofNat := by
  induction l with
  | nil =>
    -- `m` septets are still to come; the bits at hand and the octets left suffice for them
    intro bits rest out m hlo hhi hrest hm hlen
    have hzero : m = 0 := by
      simp only [length_nil] at hlen
      omega
    simp [unpack7bitLoop, hzero, septets]
  | cons b l ih =>
    intro bits rest out m hlo hhi hrest hm hlen
    rcases unpack_cur hlo hhi hrest b (value 256 l) with ⟨hcur, hnext, hlt, hdiv⟩
    rw [value_cons]
    simp only [length_cons] at hlen
    cases m with
    | zero =>
      -- the loop stops when it has enough, in the middle of the octets if need be
      have hfull : ¬ out.length < maxToUnpack := by omega
      simp [unpack7bitLoop, hfull, septets]
    | succ m =>
      have hroom : out.length < maxToUnpack := by omega
      have hstep : (!false || bits == 7) = true := rfl
      simp only [unpack7bitLoop, if_pos hroom, hstep, hnext, hcur, septets_succ, hdiv,
        map_cons, if_true]
      cases m with
      | zero =>
        have hfull : (out ++ [UInt8.ofNat
            ((rest + 2 ^ (7 - bits) * (b.toNat + 256 * value 256 l)) % 128)]).length =
              maxToUnpack := by
          simp only [length_append, length_cons, length_nil]
          omega
        rw [if_pos hfull]
        rfl
      | succ m =>
        have hmore : ¬ (out ++ [UInt8.ofNat
            ((rest + 2 ^ (7 - bits) * (b.toNat + 256 * value 256 l)) % 128)]).length =
              maxToUnpack := by
          simp only [length_append, length_cons, length_nil]
          omega
        rw [if_neg hmore]
        by_cases h1 : bits = 1
        · -- seven bits are left of this octet: a whole septet
          subst h1
          rw [if_pos rfl, ih 7 0 _ m (by decide) (by decide) (by decide) ?_ (by omega)]
          · have hmod : (b.toNat / 2 ^ 1 + 2 ^ (8 - 1) * value 256 l) % 128 =
                b.toNat / 2 ^ 1 := by omega
            have hrest' : (b.toNat / 2 ^ 1 + 2 ^ (8 - 1) * value 256 l) / 128 =
                0 + 2 ^ (7 - 7) * value 256 l := by omega
            rw [septets_succ, hmod, hrest', map_cons]
            simp
          · simp only [length_append, length_cons, length_nil]
            omega
        · have hbits : 7 - (bits - 1) = 8 - bits := by omega
          rw [if_neg h1, ih (bits - 1) _ _ (m + 1) (by omega) (by omega)
            (by rw [hbits]; exact hlt) ?_ (by omega), hbits]
          · simp
          · simp only [length_append, length_cons, length_nil]
            omega

lemma unpack7bitOwnBuf_value (byteOffset m : ℕ) (hm : m ≠ 0)
    (hlen : fillBits byteOffset + 7 * m ≤ 8 * l.length) : unpack7bitOwnBuf l byteOffset false m =
    some ((septets m (value 256 l / 2 ^ fillBits byteOffset)).map UInt8.ofNat) := by
  cases l with
  | nil =>
    simp only [length_nil] at hlen
    omega
  | cons b l =>
    simp only [length_cons] at hlen
    have hlt := Nat.mod_lt byteOffset (show 7 > 0 by decide)
    unfold unpack7bitOwnBuf
    simp only [isEmpty_cons, Bool.false_eq_true, if_false, Bool.false_and]
    congr 1
    by_cases h7 : byteOffset % 7 = 0
    · have hfill : fillBits byteOffset = 0 := by simp [fillBits, h7]
      -- no fill bits: the first octet is one like the others
      rw [hfill] at hlen ⊢
      have hfirst : unpack7bitLoop m true (7 - byteOffset % 7) 0 [] (b :: l) =
          unpack7bitLoop m false 7 0 [] (b :: l) := by
        rw [h7]
        rfl
      rw [hfirst, unpack7bitLoop_value (b :: l) 7 0 [] m (by decide) (by decide) (by decide)
        (by simp) (by simp only [length_cons]; omega)]
      simp
    · have hfill : fillBits byteOffset = 7 - byteOffset % 7 := by
        unfold fillBits
        omega
      rw [hfill] at hlen ⊢
      generalize hbits : 7 - byteOffset % 7 = bits at hlen ⊢
      have hlo : 1 ≤ bits := by omega
      have hhi : bits ≤ 6 := by omega
      have hb := b.toNat_lt
      have hnext : (b.toNat >>> bits) &&& ((1 <<< (8 - bits)) - 1) = b.toNat / 2 ^ bits :=
        (unpack_cur hlo (by omega) (Nat.two_pow_pos _) b 0).2.1
      have hsmall : b.toNat / 2 ^ bits < 2 ^ (8 - bits) :=
        (unpack_cur hlo (by omega) (Nat.two_pow_pos _) b 0).2.2.1
      have hdiv : value 256 (b :: l) / 2 ^ bits = b.toNat / 2 ^ bits + 2 ^ (8 - bits) * value 256 l := by
        rw [value_cons]
        clear hsmall hnext
        interval_cases bits <;> omega
      -- the first octet gives no septet, only what is above its fill bits
      have hskip : (!true || bits == 7) = false := by
        have hne : bits ≠ 7 := by omega
        simpa using hne
      have hroom : ([] : List UInt8).length < m := by
        simp only [length_nil]
        omega
      have hmore : ¬ ([] : List UInt8).length = m := by
        simp only [length_nil]
        omega
      simp only [unpack7bitLoop, if_pos hroom, hskip, Bool.false_eq_true, if_false, if_neg hmore,
        hnext, hdiv]
      by_cases h1 : bits = 1
      · subst h1
        rw [if_pos rfl]
        rcases Nat.exists_eq_succ_of_ne_zero hm with ⟨m, rfl⟩
        rw [unpack7bitLoop_value l 7 0 _ m (by decide) (by decide) (by decide)
          (by simp only [length_append, length_cons, length_nil]; omega) (by omega)]
        have hmod : (b.toNat / 2 ^ 1 + 2 ^ (8 - 1) * value 256 l) % 128 = b.toNat / 2 ^ 1 := by
          omega
        have hrest : (b.toNat / 2 ^ 1 + 2 ^ (8 - 1) * value 256 l) / 128 =
            0 + 2 ^ (7 - 7) * value 256 l := by omega
        rw [Nat.succ_eq_add_one, septets_succ, hmod, hrest, map_cons]
        simp
      · have hbits' : 7 - (bits - 1) = 8 - bits := by omega
        rw [if_neg h1, unpack7bitLoop_value l (bits - 1) _ [] m (by omega) (by omega)
          (by rw [hbits']; exact hsmall) (by simp) (by omega), hbits']
        simp

lemma unpack_pack (hl : ∀ c ∈ l, c < 128) (hne : l ≠ []) (byteOffset : ℕ) : ∃ out, pack7bitOwnBuf
    l byteOffset false = some out ∧ out.length = (fillBits byteOffset + 7 * l.length + 7) / 8 ∧
    unpack7bitOwnBuf out byteOffset false l.length = some l := by
  rcases pack7bitOwnBuf_value hl hne byteOffset with ⟨out, hout, hval, hlen⟩
  refine ⟨out, hout, hlen, ?_⟩
  have hm : l.length ≠ 0 := fun h => hne (eq_nil_of_length_eq_zero h)
  rw [unpack7bitOwnBuf_value byteOffset l.length hm (by omega), hval,
    Nat.mul_div_cancel_left _ (Nat.two_pow_pos _), septets_value hl]

/-! ## Octets that are no septets -/

lemma value_lt (l : List UInt8) : value 256 l < 256 ^ l.length := by
  induction l with
  | nil => decide
  | cons b l ih =>
    have hb := b.toNat_lt
    rw [value_cons, length_cons, Nat.pow_succ']
    omega

lemma length_septets (m v : ℕ) : (septets m v).length = m := by
  induction m generalizing v with
  | zero => rfl
  | succ m ih => rw [septets_succ, length_cons, ih]

lemma pack7bitLoop_length (l : List UInt8) : ∀ bits cur, bits ≤ 7 →
    8 * (pack7bitLoop bits cur l).1.length + usedBits (pack7bitLoop bits cur l).2.1 =
    usedBits bits + 7 * l.length ∧ (pack7bitLoop bits cur l).2.1 ≤ 7 := by
  induction l with
  | nil =>
    intro bits cur hbits
    exact ⟨by simp [pack7bitLoop], hbits⟩
  | cons c l ih =>
    intro bits cur hbits
    unfold pack7bitLoop
    simp only
    generalize (if bits ≠ 0 then c.toNat >>> (7 - bits) else cur) = cur'
    rcases ih (if bits = 0 then 7 else bits - 1) cur' (by split <;> omega) with ⟨hlen, hend⟩
    refine ⟨?_, hend⟩
    rw [length_append, Nat.mul_add, Nat.add_assoc, hlen, length_cons]
    unfold usedBits
    split_ifs <;> simp <;> omega

lemma pack7bitLoop_append (l m : List UInt8) :
    ∀ bits cur, pack7bitLoop bits cur (l ++ m) =
      ((pack7bitLoop bits cur l).1 ++
          (pack7bitLoop (pack7bitLoop bits cur l).2.1 (pack7bitLoop bits cur l).2.2 m).1,
        (pack7bitLoop (pack7bitLoop bits cur l).2.1 (pack7bitLoop bits cur l).2.2 m).2) := by
  induction l with
  | nil =>
    intro bits cur
    rfl
  | cons c l ih =>
    intro bits cur
    rw [cons_append, pack7bitLoop, ih, pack7bitLoop, append_assoc]

/-- The octets that are put out, the open one at last. -/
def closed (r : List UInt8 × ℕ × ℕ) : List UInt8 :=
  if r.2.1 ≠ 7 then r.1 ++ [UInt8.ofNat r.2.2] else r.1

lemma pack7bitOwnBuf_closed (hne : l ≠ []) :
    pack7bitOwnBuf l 0 false = some (closed (pack7bitLoop 7 0 l)) := by
  have hempty : l.isEmpty = false := by simpa using hne
  unfold pack7bitOwnBuf closed
  simp [hempty]

lemma closed_pos (hne : l ≠ []) : 0 < (closed (pack7bitLoop 7 0 l)).length := by
  have hpos := length_pos_iff.mpr hne
  rcases pack7bitLoop_length l 7 0 (by decide) with ⟨hlen, hend⟩
  rw [show usedBits 7 = 0 from rfl, Nat.zero_add] at hlen
  unfold usedBits at hlen
  unfold closed
  split at hlen
  · rename_i h7
    rw [if_neg (not_not.mpr h7)]
    omega
  · rename_i h7
    rw [if_pos h7, length_append, length_singleton]
    omega

lemma closed_append (done : List UInt8) (r : List UInt8 × ℕ × ℕ) :
    closed (done ++ r.1, r.2) = done ++ closed r := by
  unfold closed
  split <;> simp

lemma closed_low {bits cur : ℕ} (hbits : bits ≤ 7) (hcur : curValue bits cur < 2 ^ usedBits bits)
    (c : UInt8) (l : List UInt8) :
    value 256 (closed (pack7bitLoop bits cur (c :: l))) % 2 ^ usedBits bits = curValue bits cur := by
  rcases Nat.lt_or_ge bits 7 with hlt | hge
  · have hne : bits ≠ 7 := by omega
    simp only [curValue, usedBits, if_neg hne] at hcur ⊢
    unfold pack7bitLoop
    simp only [hne, ne_eq, not_false_eq_true, if_true]
    rw [closed_append, singleton_append, value_cons, mask_eq_mod, or_shiftLeft hcur, UInt8.toNat_ofNat']
    interval_cases bits <;> simp <;> omega
  · obtain rfl : bits = 7 := by omega
    simp [curValue, usedBits, Nat.mod_one]

lemma pack7bitOwnBuf_prefix {m : List UInt8} (hl : ∀ c ∈ l, c < 128) (hm : m ≠ []) : ∃ out,
    pack7bitOwnBuf (l ++ m) 0 false = some out ∧ value 256 out % 2 ^ (7 * l.length) = value 128 l ∧
    out.length = (7 * (l ++ m).length + 7) / 8 := by
  rcases exists_cons_of_ne_nil hm with ⟨c, m, rfl⟩
  refine ⟨_, pack7bitOwnBuf_closed (by simp), ?_, ?_⟩
  · have hloop := pack7bitLoop_value l hl 7 0 (by decide) (by decide)
    generalize hr : pack7bitLoop 7 0 l = r at hloop
    simp only [show curValue 7 0 = 0 from rfl, show usedBits 7 = 0 from rfl, Nat.zero_add, Nat.pow_zero,
      Nat.one_mul] at hloop
    rcases hloop with ⟨hval, hlen, hend, hopen⟩
    have hlow := closed_low hend hopen c m
    have hpow : 2 ^ (7 * l.length) = 256 ^ r.1.length * 2 ^ usedBits r.2.1 := by
      rw [show 256 = 2 ^ 8 by rfl, ← Nat.pow_mul, ← Nat.pow_add, hlen]
    have hsmall : value 256 r.1 < 256 ^ r.1.length := value_lt r.1
    rw [pack7bitLoop_append, hr, closed_append, value_append, hpow, Nat.mod_mul,
      Nat.add_mul_mod_self_left, Nat.mod_eq_of_lt hsmall, Nat.add_mul_div_left _ _ (by positivity),
      Nat.div_eq_of_lt hsmall, Nat.zero_add, hlow, hval]
  · rcases pack7bitLoop_length (l ++ c :: m) 7 0 (by decide) with ⟨hlen, hend⟩
    rw [show usedBits 7 = 0 from rfl, Nat.zero_add] at hlen
    unfold usedBits at hlen
    unfold closed
    split at hlen
    · rename_i h7
      rw [if_neg (not_not.mpr h7)]
      omega
    · rename_i h7
      rw [if_pos h7, length_append, length_singleton]
      omega

lemma septets_mod (w v : ℕ) : septets w (v % 2 ^ (7 * w)) = septets w v := by
  induction w generalizing v with
  | zero => rfl
  | succ w ih =>
    have hpow : 2 ^ (7 * (w + 1)) = 128 * 2 ^ (7 * w) := by
      rw [Nat.mul_add, Nat.pow_add, Nat.mul_comm]
    rw [septets_succ, septets_succ, hpow, Nat.mod_mul, Nat.add_mul_mod_self_left, Nat.mod_mod,
      Nat.add_mul_div_left _ _ (by decide), Nat.div_eq_of_lt (Nat.mod_lt _ (by decide)), Nat.zero_add, ih]

lemma septets_take {w m : ℕ} (h : w ≤ m) (v : ℕ) : (septets m v).take w = septets w v := by
  induction w generalizing m v with
  | zero => rfl
  | succ w ih =>
    rcases m with _ | m
    · omega
    · rw [septets_succ, septets_succ, take_succ_cons, ih (by omega)]

lemma value_mod_take {m : List UInt8} {n k : ℕ} (hk : k ≤ 8 * n) (h : l.take n = m.take n) :
    value 256 l % 2 ^ k = value 256 m % 2 ^ k := by
  have hsplit : ∀ l : List UInt8, value 256 l % 2 ^ k = value 256 (l.take n) % 2 ^ k := by
    intro l
    rcases Nat.le_total l.length n with hshort | hlong
    · rw [take_of_length_le hshort]
    · have hdvd : 2 ^ k ∣ 256 ^ (l.take n).length := by
        rw [show 256 = 2 ^ 8 by rfl, ← Nat.pow_mul, length_take, Nat.min_eq_left hlong]
        exact Nat.pow_dvd_pow 2 hk
      conv_lhs => rw [← take_append_drop n l, value_append]
      rcases hdvd with ⟨c, hc⟩
      rw [hc, Nat.mul_assoc, Nat.add_mul_mod_self_left]
  rw [hsplit l, hsplit m, h]

variable {out : List UInt8}

lemma unpack7bitOwnBuf_zero (hl : ∀ c ∈ l, c < 128) (hne : l ≠ [])
    (hval : value 256 out = value 128 l) :
    (7 * l.length ≤ 8 * out.length → unpack7bitOwnBuf out 0 false l.length = some l) ∧
      (7 * (l.length + 1) ≤ 8 * out.length →
        unpack7bitOwnBuf out 0 false (l.length + 1) = some (l ++ [0])) := by
  have hfill : fillBits 0 = 0 := rfl
  have hpos := length_pos_iff.mpr hne
  constructor
  · intro hlen
    rw [unpack7bitOwnBuf_value 0 l.length (by omega) (by omega), hfill, Nat.pow_zero, Nat.div_one, hval,
      septets_value hl]
  · intro hlen
    have hzero : value 128 (l ++ [0]) = value 128 l := by
      rw [value_append, value_cons, value_nil]
      simp
    have hlt : ∀ c ∈ l ++ [0], c < 128 := by
      intro c hc
      rcases mem_append.mp hc with hc | hc
      · exact hl c hc
      · rw [mem_singleton.mp hc]
        decide
    have hback := septets_value hlt
    rw [hzero, length_append, length_singleton] at hback
    rw [unpack7bitOwnBuf_value 0 (l.length + 1) (by omega) (by omega), hfill, Nat.pow_zero, Nat.div_one, hval,
      hback]

lemma unpack7bitOwnBuf_prefix (hl : ∀ c ∈ l, c < 128) (hval : value 256 out % 2 ^ (7 * l.length) =
    value 128 l) {m : ℕ} (hm : m ≠ 0) (hle : l.length ≤ m) (hlen : 7 * m ≤ 8 * out.length) : ∃ rest,
    unpack7bitOwnBuf out 0 false m = some (l ++ rest) ∧ rest.length = m - l.length := by
  have hfill : fillBits 0 = 0 := rfl
  refine ⟨((septets m (value 256 out)).map UInt8.ofNat).drop l.length, ?_, ?_⟩
  · rw [unpack7bitOwnBuf_value 0 m hm (by omega), hfill, Nat.pow_zero, Nat.div_one]
    have htake : ((septets m (value 256 out)).map UInt8.ofNat).take l.length = l := by
      rw [← map_take, septets_take hle, ← septets_mod, hval, septets_value hl]
    conv_lhs => rw [← take_append_drop l.length ((septets m (value 256 out)).map UInt8.ofNat), htake]
  · rw [length_drop, length_map, length_septets]

/-! ## Carriage returns

With `ussd` set, a text that leaves seven bits of its last octet is filled up with a
carriage return, and one that fills its last octet and ends with a carriage return gets
another one. -/

/-- The text ends on an octet boundary with a carriage return. -/
def EndsOnBoundary (l : List UInt8) : Prop := l.length % 8 = 0 ∧ l.getLast? = some 0x0d

instance (l : List UInt8) : Decidable (EndsOnBoundary l) :=
  inferInstanceAs (Decidable (_ ∧ _))

/-- With seven bits to spare the octets are those of the text and a carriage return. -/
lemma pack7bitOwnBuf_spare (hl : ∀ c ∈ l, c < 128) (hspare : l.length % 8 = 7) :
    ∃ out, pack7bitOwnBuf l 0 true = some out ∧ value 256 out = value 128 (l ++ [0x0d]) ∧
      8 * out.length = 7 * (l.length + 1) := by
  have hempty : l.isEmpty = false := by
    cases l with
    | nil => simp at hspare
    | cons c l => rfl
  have hloop := pack7bitLoop_value l hl 7 0 (by decide) (by decide)
  generalize hr : pack7bitLoop 7 0 l = r at hloop
  rcases hloop with ⟨hval, hlen, hend, hopen⟩
  -- one bit of the open octet is taken
  have hbits : r.2.1 = 0 := by
    unfold usedBits at hlen
    split at hlen
    · simp only [if_true] at hlen
      omega
    · simp only [if_true] at hlen
      omega
  have hcur : r.2.2 < 2 ^ 1 := by simpa [hbits, curValue, usedBits] using hopen
  have hlen' : 8 * r.1.length + 1 = 7 * l.length := by simpa [hbits, usedBits] using hlen
  have hval' : value 256 r.1 + 256 ^ r.1.length * r.2.2 = value 128 l := by
    simpa [hbits, curValue, usedBits] using hval
  have htotal : (l.length * 7 + 0) % 8 = 1 := by omega
  have hlast : (UInt8.ofNat (r.2.2 ||| 0x0d <<< 1)).toNat = r.2.2 + 0x0d * 2 ^ 1 := by
    rw [or_shiftLeft hcur, UInt8.toNat_ofNat']
    omega
  refine ⟨r.1 ++ [UInt8.ofNat (r.2.2 ||| 0x0d <<< 1)], ?_, ?_, ?_⟩
  · unfold pack7bitOwnBuf
    simp [hempty, hr, hbits, show l.length * 7 % 8 = 1 by omega]
  · -- the return comes where the next septet would
    have hpow : 256 ^ r.1.length * 2 ^ 1 = 128 ^ l.length := by
      rw [show 256 = 2 ^ 8 by rfl, show 128 = 2 ^ 7 by rfl, ← Nat.pow_mul, ← Nat.pow_mul,
        ← Nat.pow_add, hlen']
    rw [value_append, value_cons, value_nil, hlast, value_append, ← hval', ← hpow]
    simp only [value_cons, value_nil]
    have hcr : (0x0d : UInt8).toNat = 0x0d := rfl
    rw [hcr]
    ring
  · rw [length_append, length_singleton]
    omega

/-- Without seven bits to spare the octets are those of the text, and a carriage return
behind one that ends with it on an octet boundary. -/
lemma pack7bitOwnBuf_ussd (hspare : l.length % 8 ≠ 7) : pack7bitOwnBuf l 0 true =
      (pack7bitOwnBuf l 0 false).map fun out => if EndsOnBoundary l then out ++ [0x0d] else out := by
  have htotal : l.length * 7 % 8 ≠ 1 := by omega
  have hboundary : l.length * 7 % 8 = 0 ↔ l.length % 8 = 0 := by omega
  unfold pack7bitOwnBuf EndsOnBoundary
  by_cases hempty : l.isEmpty
  · simp [hempty]
  · simp only [hempty]
    by_cases hzero : l.length % 8 = 0 <;> by_cases hcr : l.getLast? = some 0x0d <;>
      simp [htotal, hboundary, hzero, hcr]

/-- Unpacking as much as possible, when the octets are those of septets that fill them: a
carriage return at the end of the last octet is taken off. -/
lemma unpack7bitOwnBuf_ussd (hl : ∀ c ∈ l, c < 128) (hne : out ≠ [])
    (hval : value 256 out = value 128 l) (hlen : l.length = out.length * 8 / 7) (m : ℕ) :
    unpack7bitOwnBuf out 0 true m = some (if EndsOnBoundary l then l.dropLast else l) := by
  have hpos : out.length ≠ 0 := fun h => hne (eq_nil_of_length_eq_zero h)
  have hplain : unpack7bitOwnBuf out 0 false (out.length * 8 / 7) = some l := by
    rw [unpack7bitOwnBuf_value 0 _ (by omega) (by simp only [fillBits]; omega), hval]
    simp only [fillBits, Nat.zero_mod, Nat.sub_zero, Nat.mod_self, Nat.pow_zero, Nat.div_one]
    rw [← hlen, septets_value hl]
  have hempty : out.isEmpty = false := by simpa using hne
  unfold unpack7bitOwnBuf EndsOnBoundary at *
  simp only [hempty, Bool.false_eq_true, if_false, Bool.false_and, Bool.true_and, if_true] at hplain ⊢
  rw [Option.some.inj hplain]
  by_cases hzero : l.length % 8 = 0 <;> by_cases hcr : l.getLast? = some 0x0d <;> simp [hzero, hcr]

/-- What was packed with `ussd` set comes back, with a second carriage return
where the text ends with one on an octet boundary. -/
lemma unpack_pack_ussd (hl : ∀ c ∈ l, c < 128) (hne : l ≠ []) : ∃ out, pack7bitOwnBuf l 0 true =
    some out ∧ out.length = (7 * l.length + 7) / 8 + (if EndsOnBoundary l then 1 else 0) ∧ ∀ m,
    unpack7bitOwnBuf out 0 true m = some (if EndsOnBoundary l then l ++ [0x0d] else l) := by
  have hpos : l.length ≠ 0 := fun h => hne (eq_nil_of_length_eq_zero h)
  have hcr : ∀ c ∈ l ++ [0x0d], c < 128 := by
    intro c hc
    rcases mem_append.mp hc with hmem | hmem
    · exact hl c hmem
    · obtain rfl := mem_singleton.mp hmem
      decide
  by_cases hspare : l.length % 8 = 7
  · rcases pack7bitOwnBuf_spare hl hspare with ⟨out, hout, hval, hlen⟩
    have hends : ¬ EndsOnBoundary l := fun h => by
      have := h.1
      omega
    refine ⟨out, hout, ?_, ?_⟩
    · rw [if_neg hends]
      omega
    · intro m
      have hfull : EndsOnBoundary (l ++ [0x0d]) := by
        constructor
        · rw [length_append, length_singleton]
          omega
        · exact getLast?_concat
      have hnil : out ≠ [] := by
        rintro rfl
        simp at hlen
      rw [unpack7bitOwnBuf_ussd hcr hnil hval (by rw [length_append, length_singleton]; omega),
        if_pos hfull, if_neg hends, dropLast_concat]
  · rcases pack7bitOwnBuf_value hl hne 0 with ⟨out, hout, hval, hlen⟩
    have hfill : fillBits 0 = 0 := rfl
    rw [hfill, Nat.pow_zero, Nat.one_mul] at hval
    rw [hfill, Nat.zero_add] at hlen
    have hnil : out ≠ [] := by
      rintro rfl
      simp only [length_nil] at hlen
      omega
    rw [pack7bitOwnBuf_ussd hspare, hout]
    by_cases hends : EndsOnBoundary l
    · have hboundary := hends.1
      simp only [hends, if_true, Option.map_some, Option.some.injEq, exists_eq_left']
      constructor
      · rw [length_append, length_singleton, hlen]
      · intro m
        have hopen : ¬ EndsOnBoundary (l ++ [0x0d]) := by
          rintro ⟨hlen', -⟩
          rw [length_append, length_singleton] at hlen'
          omega
        -- the octets before the new one end with a septet
        have hpow : 256 ^ out.length = 128 ^ l.length := by
          rw [show 256 = 2 ^ 8 by rfl, show 128 = 2 ^ 7 by rfl, ← Nat.pow_mul, ← Nat.pow_mul]
          congr 1
          omega
        have hval' : value 256 (out ++ [0x0d]) = value 128 (l ++ [0x0d]) := by
          rw [value_append, value_append, hval, hpow]
          simp [value_cons, value_nil]
        rw [unpack7bitOwnBuf_ussd hcr (by simp) hval' (by simp only [length_append, length_singleton]; omega),
          if_neg hopen]
    · simp only [hends, if_false, Option.map_some, Option.some.injEq, exists_eq_left', Nat.add_zero]
      refine ⟨hlen, fun m => ?_⟩
      have hroom : 8 * out.length ≠ 7 * l.length + 7 := by omega
      rw [unpack7bitOwnBuf_ussd hl hnil hval (by omega), if_neg hends]

end Phonelets.Septets
