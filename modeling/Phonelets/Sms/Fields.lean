import Phonelets.Sms.Address

/-! # Timestamps, validity periods and user data

The other fields that the encoders and the decoders of `smsutil.c` share.
-/

namespace Phonelets.Sms

open List
open Decoder

variable {α : Type}

/-! ## Service centre timestamps -/

def maxTimezone : ℤ := 56

def minTimezone : ℤ := -48

/-- A number below 100 in two semi-octets, the tens in the low one. -/
def semiOctetOf (v : UInt8) : UInt8 :=
  UInt8.ofNat (v.toNat / 10 &&& 0x0f ||| (v.toNat % 10 &&& 0x0f) <<< 4)

def smsEncodeScts (scts : SmsScts) : Outcome (List UInt8) :=
  if scts.year > 99 then .reject
  else if scts.month > 12 then .reject
  else if scts.day > 31 then .reject
  else if scts.hour > 23 then .reject
  else if scts.minute > 59 then .reject
  else if scts.second > 59 then .reject
  else if (scts.timezone > maxTimezone ∨ scts.timezone < minTimezone) ∧ scts.hasTimezone then .reject
  else
    let date := [semiOctetOf scts.year, semiOctetOf scts.month, semiOctetOf scts.day,
      semiOctetOf scts.hour, semiOctetOf scts.minute, semiOctetOf scts.second]
    if !scts.hasTimezone then .ok (date ++ [0xff])
    else
      let timezone := scts.timezone.natAbs
      let oct := timezone / 10 &&& 0x07 ||| (timezone % 10 &&& 0x0f) <<< 4
      .ok (date ++ [UInt8.ofNat (if scts.timezone < 0 then oct ||| 0x8 else oct)])

def smsDecodeSemiOctet (oct : UInt8) : UInt8 :=
  UInt8.ofNat ((oct.toNat &&& 0x0f) * 10 + oct.toNat >>> 4)

/-- The timezone of the last octet of a timestamp. -/
def decodeTimezone (oct : UInt8) : ℤ :=
  let timezone : ℤ := ((oct.toNat &&& 0x07) * 10 + (oct.toNat &&& 0xf0) >>> 4 : ℕ)
  if oct &&& 0x08 ≠ 0 then timezone * -1 else timezone

/-- One number of a timestamp, not above `max`. -/
def sctsOctet (max : UInt8) : Decoder UInt8 := do
  let oct ← nextOctet
  check (smsDecodeSemiOctet oct ≤ max)
  pure (smsDecodeSemiOctet oct)

def smsDecodeScts : Decoder SmsScts := do
  need 7
  let year ← sctsOctet 99
  let month ← sctsOctet 12
  let day ← sctsOctet 31
  let hour ← sctsOctet 23
  let minute ← sctsOctet 59
  let second ← sctsOctet 59
  let oct ← nextOctet
  check (decodeTimezone oct ≤ maxTimezone ∧ minTimezone ≤ decodeTimezone oct)
  pure ⟨year, month, day, hour, minute, second, true, decodeTimezone oct⟩

/-- The octets begin with the seven octets of a valid timestamp, read as `scts`. -/
def SctsAt (l : List UInt8) (scts : SmsScts) (rest : List UInt8) : Prop :=
  ∃ year month day hour minute second timezone,
    l = year :: month :: day :: hour :: minute :: second :: timezone :: rest ∧
    smsDecodeSemiOctet year ≤ 99 ∧ smsDecodeSemiOctet month ≤ 12 ∧ smsDecodeSemiOctet day ≤ 31 ∧
    smsDecodeSemiOctet hour ≤ 23 ∧ smsDecodeSemiOctet minute ≤ 59 ∧
    smsDecodeSemiOctet second ≤ 59 ∧
    decodeTimezone timezone ≤ maxTimezone ∧ minTimezone ≤ decodeTimezone timezone ∧
    scts = ⟨smsDecodeSemiOctet year, smsDecodeSemiOctet month, smsDecodeSemiOctet day,
      smsDecodeSemiOctet hour, smsDecodeSemiOctet minute, smsDecodeSemiOctet second, true,
      decodeTimezone timezone⟩

/-! ## Validity periods -/

def encodeValidityPeriod : ValidityPeriod → Outcome (List UInt8)
  | .absent => .ok []
  | .relative vp => .ok [vp]
  | .absolute scts => smsEncodeScts scts
  | .enhanced octets => .ok octets.octets

/-- `decode_validity_period`, under the two bits of `vpf`. -/
def decodeValidityPeriod (vpf : ℕ) : Decoder ValidityPeriod :=
  match vpf with
  | 0 => pure .absent
  | 1 => do
      need 7
      let octets ← peek 7
      let enhanced ← lift (.orFault ((Buf.zero 7).write 0 octets))
      skip 7
      pure (.enhanced enhanced)
  | 2 => do
      let vp ← nextOctet
      pure (.relative vp)
  | 3 => do
      let scts ← smsDecodeScts
      pure (.absolute scts)
  | _ => lift .reject

/-- The octets begin with a validity period. -/
inductive ValidityAt : ℕ → List UInt8 → ValidityPeriod → List UInt8 → Prop where
  | absent (rest : List UInt8) : ValidityAt 0 rest .absent rest
  | enhanced (octets : Buf 7) (rest : List UInt8) :
      ValidityAt 1 (octets.octets ++ rest) (.enhanced octets) rest
  | relative (vp : UInt8) (rest : List UInt8) : ValidityAt 2 (vp :: rest) (.relative vp) rest
  | absolute (l : List UInt8) (scts : SmsScts) (rest : List UInt8) (h : SctsAt l scts rest) :
      ValidityAt 3 l (.absolute scts) rest

/-! ## User data -/

def smsUdlInBytes (udLen dcs : UInt8) : ℕ :=
  let len7bit := (udLen.toNat + 1) * 7 / 8
  let len8bit := udLen.toNat
  if dcs = 0 then len7bit
  else
    match ((dcs &&& 0xc0) >>> 6).toNat with
    | 0 | 1 =>
      if dcs &&& 0x20 ≠ 0 then len8bit
      else
        match ((dcs &&& 0x0c) >>> 2).toNat with
        | 0 => len7bit
        | 1 => len8bit
        | 2 => len8bit
        | _ => 0
    | 3 =>
      match ((dcs &&& 0x30) >>> 4).toNat with
      | 0 | 1 => len7bit
      | 2 => len8bit
      | _ => if dcs &&& 0x4 ≠ 0 then len8bit else len7bit
    | _ => 0

/-- `memcpy` of `expected` octets of the message into the `ud` of a cleared structure,
after the check of what is left. -/
def decodeUd (size expected : ℕ) : Decoder (Buf size) := do
  need expected
  let octets ← peek expected
  lift (.orFault ((Buf.zero size).write 0 octets))

/-- `memcpy` of the user data into the message. -/
def encodeUd {size : ℕ} (ud : Buf size) (udOctLen : ℕ) : Outcome (List UInt8) :=
  if udOctLen ≤ size then .ok (ud.octets.take udOctLen) else .fault

/-- The message declares `expected` octets of user data, they are there, and there are
more of them than fit. -/
def UdOverrun (size expected : ℕ) (l : List UInt8) : Prop := expected ≤ l.length ∧ size < expected

/-- An octet that is there if a bit of the parameter indicator is set, zero otherwise. -/
def decodeIf (present : Bool) : Decoder UInt8 := if present then nextOctet else pure 0

/-- The octets begin with that octet. -/
def OctetIf (present : Bool) (l : List UInt8) (v : UInt8) (rest : List UInt8) : Prop :=
  if present then l = v :: rest else v = 0 ∧ rest = l

/-! ## What the decoders accept -/

lemma sctsOctet_bind_cons {max b : UInt8} (f : UInt8 → Decoder α) (m extra : List UInt8)
    (h : smsDecodeSemiOctet b ≤ max) :
    (sctsOctet max >>= f) (on (b :: m) extra) = f (smsDecodeSemiOctet b) (on m extra) := by
  refine bind_of_ok ?_
  unfold sctsOctet
  rw [nextOctet_bind_cons, decide_eq_true h, bind_of_ok (check_true _)]
  rfl

lemma sctsOctet_bind_reject {max b : UInt8} (f : UInt8 → Decoder α) (m extra : List UInt8)
    (h : ¬ smsDecodeSemiOctet b ≤ max) : (sctsOctet max >>= f) (on (b :: m) extra) = .reject := by
  refine bind_of_reject ?_
  unfold sctsOctet
  rw [nextOctet_bind_cons, decide_eq_false h]
  exact bind_of_reject rfl

variable {l : List UInt8}

lemma SctsAt.run {scts : SmsScts} {rest : List UInt8} (h : SctsAt l scts rest)
    (extra : List UInt8) : smsDecodeScts (on l extra) = .ok (scts, on rest extra) := by
  rcases h with ⟨year, month, day, hour, minute, second, timezone, rfl, hy, hmo, hd, hh, hmi, hs,
    hmax, hmin, rfl⟩
  unfold smsDecodeScts
  rw [need_bind (by simp), sctsOctet_bind_cons _ _ _ hy, sctsOctet_bind_cons _ _ _ hmo,
    sctsOctet_bind_cons _ _ _ hd, sctsOctet_bind_cons _ _ _ hh, sctsOctet_bind_cons _ _ _ hmi,
    sctsOctet_bind_cons _ _ _ hs, nextOctet_bind_cons, decide_eq_true ⟨hmax, hmin⟩,
    bind_of_ok (check_true _)]
  rfl

lemma smsDecodeScts_cases (l extra : List UInt8) :
    (∃ scts rest, SctsAt l scts rest) ∨ smsDecodeScts (on l extra) = .reject := by
  by_cases hlen : 7 ≤ l.length
  · rcases l with _ | ⟨y, _ | ⟨mo, _ | ⟨d, _ | ⟨h, _ | ⟨mi, _ | ⟨s, _ | ⟨tz, rest⟩⟩⟩⟩⟩⟩⟩ <;>
      try (simp at hlen; done)
    unfold smsDecodeScts
    rw [need_bind hlen]
    by_cases hy : smsDecodeSemiOctet y ≤ 99
    swap
    · exact .inr (sctsOctet_bind_reject _ _ _ hy)
    rw [sctsOctet_bind_cons _ _ _ hy]
    by_cases hmo : smsDecodeSemiOctet mo ≤ 12
    swap
    · exact .inr (sctsOctet_bind_reject _ _ _ hmo)
    rw [sctsOctet_bind_cons _ _ _ hmo]
    by_cases hd : smsDecodeSemiOctet d ≤ 31
    swap
    · exact .inr (sctsOctet_bind_reject _ _ _ hd)
    rw [sctsOctet_bind_cons _ _ _ hd]
    by_cases hh : smsDecodeSemiOctet h ≤ 23
    swap
    · exact .inr (sctsOctet_bind_reject _ _ _ hh)
    rw [sctsOctet_bind_cons _ _ _ hh]
    by_cases hmi : smsDecodeSemiOctet mi ≤ 59
    swap
    · exact .inr (sctsOctet_bind_reject _ _ _ hmi)
    rw [sctsOctet_bind_cons _ _ _ hmi]
    by_cases hs : smsDecodeSemiOctet s ≤ 59
    swap
    · exact .inr (sctsOctet_bind_reject _ _ _ hs)
    rw [sctsOctet_bind_cons _ _ _ hs, nextOctet_bind_cons]
    by_cases htz : decodeTimezone tz ≤ maxTimezone ∧ minTimezone ≤ decodeTimezone tz
    · exact .inl ⟨_, rest, y, mo, d, h, mi, s, tz, rfl, hy, hmo, hd, hh, hmi, hs, htz.1, htz.2, rfl⟩
    · rw [decide_eq_false htz]
      exact .inr (bind_of_reject rfl)
  · exact .inr (need_bind_reject hlen)

lemma smsDecodeScts_ok (l extra : List UInt8) (scts : SmsScts) (c : Cursor) :
    smsDecodeScts (on l extra) = .ok (scts, c) ↔ ∃ rest, SctsAt l scts rest ∧ c = on rest extra := by
  constructor
  · intro h
    rcases smsDecodeScts_cases l extra with ⟨scts', rest, hat⟩ | hrej
    · rw [hat.run extra] at h
      cases h
      exact ⟨rest, hat, rfl⟩
    · rw [hrej] at h
      cases h
  · rintro ⟨rest, hat, rfl⟩
    exact hat.run extra

lemma smsDecodeScts_ne_fault (l extra : List UInt8) : smsDecodeScts (on l extra) ≠ .fault := by
  intro h
  rcases smsDecodeScts_cases l extra with ⟨scts', rest, hat⟩ | hrej
  · rw [hat.run extra] at h
    cases h
  · rw [hrej] at h
    cases h

lemma ValidityAt.run {vpf : ℕ} {vp : ValidityPeriod} {rest : List UInt8}
    (h : ValidityAt vpf l vp rest) (extra : List UInt8) :
    decodeValidityPeriod vpf (on l extra) = .ok (vp, on rest extra) := by
  cases h with
  | absent rest => rfl
  | enhanced octets rest =>
    have hle : 7 ≤ (octets.octets ++ rest).length := by
      rw [length_append, octets.length_eq]
      omega
    have htake : (octets.octets ++ rest).take 7 = octets.octets :=
      take_left' octets.length_eq
    have hdrop : (octets.octets ++ rest).drop 7 = rest := drop_left' octets.length_eq
    rcases Buf.write_eq_some (b := Buf.zero 7)
      (show 0 + octets.octets.length ≤ 7 by rw [octets.length_eq]) with ⟨b, hb, hoct⟩
    have hbuf : b = octets := by
      apply Buf.ext
      rw [hoct, octets.length_eq, take_zero, nil_append, drop_of_length_le, append_nil]
      simp [Buf.zero]
    unfold decodeValidityPeriod
    simp only
    rw [need_bind hle, peek_bind hle, htake, hb, Outcome.orFault_some, lift_bind_ok,
      skip_bind hle, hdrop, hbuf]
    rfl
  | relative vp rest => exact nextOctet_bind_cons _ _ _ _
  | absolute _ scts rest h => exact bind_of_ok (h.run extra)

lemma decodeValidityPeriod_cases (vpf : ℕ) (l extra : List UInt8) :
    (∃ vp rest, ValidityAt vpf l vp rest) ∨ decodeValidityPeriod vpf (on l extra) = .reject := by
  match vpf with
  | 0 => exact .inl ⟨_, _, .absent l⟩
  | 1 =>
    by_cases hlen : 7 ≤ l.length
    · have hat := ValidityAt.enhanced ⟨l.take 7, by rw [length_take]; omega⟩ (l.drop 7)
      rw [take_append_drop] at hat
      exact .inl ⟨_, _, hat⟩
    · exact .inr (need_bind_reject hlen)
  | 2 =>
    rcases l with _ | ⟨vp, rest⟩
    · exact .inr (nextOctet_bind_nil _ _)
    · exact .inl ⟨_, _, .relative vp rest⟩
  | 3 =>
    rcases smsDecodeScts_cases l extra with ⟨scts, rest, hat⟩ | hrej
    · exact .inl ⟨_, _, .absolute l scts rest hat⟩
    · exact .inr (bind_of_reject hrej)
  | n + 4 => exact .inr rfl

lemma decodeValidityPeriod_ok (vpf : ℕ) (l extra : List UInt8) (vp : ValidityPeriod) (c : Cursor) :
    decodeValidityPeriod vpf (on l extra) = .ok (vp, c) ↔
      ∃ rest, ValidityAt vpf l vp rest ∧ c = on rest extra := by
  constructor
  · intro h
    rcases decodeValidityPeriod_cases vpf l extra with ⟨vp', rest, hat⟩ | hrej
    · rw [hat.run extra] at h
      cases h
      exact ⟨rest, hat, rfl⟩
    · rw [hrej] at h
      cases h
  · rintro ⟨rest, hat, rfl⟩
    exact hat.run extra

lemma decodeValidityPeriod_ne_fault (vpf : ℕ) (l extra : List UInt8) :
    decodeValidityPeriod vpf (on l extra) ≠ .fault := by
  intro h
  rcases decodeValidityPeriod_cases vpf l extra with ⟨vp', rest, hat⟩ | hrej
  · rw [hat.run extra] at h
    cases h
  · rw [hrej] at h
    cases h

lemma decodeIf_ok (present : Bool) (l extra : List UInt8) (v : UInt8) (c : Cursor) : decodeIf
    present (on l extra) = .ok (v, c) ↔ ∃ rest, OctetIf present l v rest ∧ c = on rest extra := by
  cases present with
  | true =>
    cases l with
    | nil => simp [decodeIf, OctetIf, nextOctet, on]
    | cons b m =>
      have hrun : decodeIf true (on (b :: m) extra) = .ok (b, on m extra) :=
        reads_nextOctet b m extra
      rw [hrun]
      simp only [OctetIf, if_true, Outcome.ok.injEq, Prod.mk.injEq, List.cons.injEq]
      constructor
      · rintro ⟨rfl, rfl⟩
        exact ⟨m, ⟨rfl, rfl⟩, rfl⟩
      · rintro ⟨rest, ⟨rfl, rfl⟩, rfl⟩
        exact ⟨rfl, rfl⟩
  | false =>
    show (Outcome.ok ((0 : UInt8), on l extra) = .ok (v, c)) ↔ _
    simp only [OctetIf, Bool.false_eq_true, if_false, Outcome.ok.injEq, Prod.mk.injEq]
    constructor
    · rintro ⟨rfl, rfl⟩
      exact ⟨l, ⟨rfl, rfl⟩, rfl⟩
    · rintro ⟨rest, ⟨rfl, rfl⟩, rfl⟩
      exact ⟨rfl, rfl⟩

lemma decodeIf_ne_fault (present : Bool) (l extra : List UInt8) :
    decodeIf present (on l extra) ≠ .fault := by
  cases present with
  | true =>
    cases l with
    | nil => simp [decodeIf, nextOctet, on]
    | cons b m =>
      have hrun : decodeIf true (on (b :: m) extra) = .ok (b, on m extra) :=
        reads_nextOctet b m extra
      rw [hrun]
      simp
  | false => simp [decodeIf]

variable {size : ℕ}

lemma decodeUd_run {expected : ℕ} (hleft : expected ≤ l.length) (hsize : expected ≤ size)
    (extra : List UInt8) : ∃ ud : Buf size, decodeUd size expected (on l extra) =
    .ok (ud, on l extra) ∧ ud.octets = l.take expected ++ List.replicate (size - expected) 0 := by
  have hlen : (l.take expected).length = expected := by
    rw [length_take]
    omega
  rcases Buf.write_eq_some (b := Buf.zero size)
    (show 0 + (l.take expected).length ≤ size by omega) with ⟨ud, hud, hoct⟩
  refine ⟨ud, ?_, ?_⟩
  · unfold decodeUd
    rw [need_bind hleft, peek_bind hleft, hud]
    rfl
  · rw [hoct, hlen]
    simp [Buf.zero]

lemma decodeUd_fault {expected : ℕ} (l extra : List UInt8) :
    decodeUd size expected (on l extra) = .fault ↔ UdOverrun size expected l := by
  unfold UdOverrun
  by_cases hleft : expected ≤ l.length
  · by_cases hsize : expected ≤ size
    · rcases decodeUd_run hleft hsize extra with ⟨ud, hud, -⟩
      rw [hud]
      constructor
      · intro h
        cases h
      · intro h
        omega
    · have hlen : (l.take expected).length = expected := by
        rw [length_take]
        omega
      have hrun : decodeUd size expected (on l extra) = .fault := by
        unfold decodeUd
        rw [need_bind hleft, peek_bind hleft, Buf.write_eq_none (by omega)]
        rfl
      rw [hrun]
      constructor
      · intro _
        exact ⟨hleft, by omega⟩
      · intro _
        rfl
  · have hrun : decodeUd size expected (on l extra) = .reject := need_bind_reject hleft
    rw [hrun]
    constructor
    · intro h
      cases h
    · intro h
      exact absurd h.1 hleft

/-! ## What comes back -/

/-- The fields of a timestamp are in their ranges, and it has a timezone. -/
structure SmsScts.Valid (scts : SmsScts) : Prop where
  year : scts.year ≤ 99
  month : scts.month ≤ 12
  day : scts.day ≤ 31
  hour : scts.hour ≤ 23
  minute : scts.minute ≤ 59
  second : scts.second ≤ 59
  hasTimezone : scts.hasTimezone = true
  timezone_le : scts.timezone ≤ maxTimezone
  le_timezone : minTimezone ≤ scts.timezone

lemma semiOctet_roundTrip : ∀ v : UInt8, v ≤ 99 → smsDecodeSemiOctet (semiOctetOf v) = v :=
  octet_forall (by decide)

lemma timezone_roundTrip (z : ℤ) (hmax : z ≤ maxTimezone) (hmin : minTimezone ≤ z) : decodeTimezone
    (UInt8.ofNat (if z < 0 then (z.natAbs / 10 &&& 0x07 ||| (z.natAbs % 10 &&& 0x0f) <<< 4) ||| 0x8
    else z.natAbs / 10 &&& 0x07 ||| (z.natAbs % 10 &&& 0x0f) <<< 4)) = z := by
  have hall : ∀ n < 57, ∀ neg : Bool, (neg = true → n ≠ 0) →
      decodeTimezone (UInt8.ofNat
        (if neg then (n / 10 &&& 0x07 ||| (n % 10 &&& 0x0f) <<< 4) ||| 0x8
          else n / 10 &&& 0x07 ||| (n % 10 &&& 0x0f) <<< 4)) = if neg then -(n : ℤ) else n := by
    decide
  unfold maxTimezone at hmax
  unfold minTimezone at hmin
  have h := hall z.natAbs (by omega) (decide (z < 0)) (by simp; omega)
  simp only [decide_eq_true_eq] at h
  rw [h]
  split <;> omega

lemma smsEncodeScts_valid {scts : SmsScts} (h : scts.Valid) :
    ∃ l, smsEncodeScts scts = .ok l ∧ l.length = 7 ∧ ∀ m, SctsAt (l ++ m) scts m := by
  have hback : ∀ v w : UInt8, v ≤ w → w ≤ 99 → smsDecodeSemiOctet (semiOctetOf v) = v :=
    fun v w hv hw => semiOctet_roundTrip v (UInt8.le_trans hv hw)
  have htz := timezone_roundTrip scts.timezone h.timezone_le h.le_timezone
  have hy := hback _ _ h.year (by decide)
  have hmo := hback _ _ h.month (by decide)
  have hd := hback _ _ h.day (by decide)
  have hh := hback _ _ h.hour (by decide)
  have hmi := hback _ _ h.minute (by decide)
  have hs := hback _ _ h.second (by decide)
  refine ⟨[semiOctetOf scts.year, semiOctetOf scts.month, semiOctetOf scts.day,
    semiOctetOf scts.hour, semiOctetOf scts.minute, semiOctetOf scts.second, UInt8.ofNat
      (if scts.timezone < 0 then
        (scts.timezone.natAbs / 10 &&& 0x07 ||| (scts.timezone.natAbs % 10 &&& 0x0f) <<< 4) ||| 0x8
      else scts.timezone.natAbs / 10 &&& 0x07 ||| (scts.timezone.natAbs % 10 &&& 0x0f) <<< 4)],
    ?_, rfl, ?_⟩
  · unfold smsEncodeScts
    rw [if_neg (UInt8.not_lt.mpr h.year), if_neg (UInt8.not_lt.mpr h.month), if_neg (UInt8.not_lt.mpr h.day),
      if_neg (UInt8.not_lt.mpr h.hour), if_neg (UInt8.not_lt.mpr h.minute), if_neg (UInt8.not_lt.mpr h.second),
      if_neg (by
        have hmax := h.timezone_le
        have hmin := h.le_timezone
        omega)]
    simp only [h.hasTimezone, Bool.not_true, Bool.false_eq_true, if_false]
    rfl
  · intro m
    refine ⟨_, _, _, _, _, _, _, rfl, ?_⟩
    rw [hy, hmo, hd, hh, hmi, hs, htz]
    refine ⟨h.year, h.month, h.day, h.hour, h.minute, h.second, h.timezone_le, h.le_timezone, ?_⟩
    cases scts
    simpa using h.hasTimezone

/-- The timestamp of an absolute validity period is in range. -/
def ValidityPeriod.Valid : ValidityPeriod → Prop
  | .absolute scts => scts.Valid
  | _ => True

lemma encodeValidityPeriod_valid {vp : ValidityPeriod} (h : vp.Valid) :
    ∃ l, encodeValidityPeriod vp = .ok l ∧ ∀ m, ValidityAt vp.vpf (l ++ m) vp m := by
  cases vp with
  | absent => exact ⟨[], rfl, .absent⟩
  | enhanced octets => exact ⟨_, rfl, .enhanced octets⟩
  | relative v => exact ⟨[v], rfl, .relative v⟩
  | absolute scts =>
    rcases smsEncodeScts_valid h with ⟨l, hl, -, hat⟩
    exact ⟨l, hl, fun m => .absolute _ _ _ (hat m)⟩

lemma encodeUd_ok {n : ℕ} (ud : Buf size) (h : n ≤ size) :
    encodeUd ud n = .ok (ud.octets.take n) ∧ (ud.octets.take n).length = n := by
  unfold encodeUd
  rw [if_pos h, length_take, ud.length_eq]
  exact ⟨rfl, by omega⟩

/-- The array with what is behind the first `n` octets cleared. -/
def clearUd {size : ℕ} (ud : Buf size) (n : ℕ) : Buf size :=
  ⟨ud.octets.take n ++ List.replicate (size - n) 0, by
    rw [List.length_append, List.length_take, List.length_replicate, ud.length_eq]
    omega⟩

end Phonelets.Sms
