import Mathlib

/-! # Topics of cell broadcast

Lists of topic ranges and their textual form, as in the properties and the settings of the cell
broadcast atom.
-/

namespace Phonelets.Sms

structure CbsTopicRange where
  min : ℕ
  max : ℕ
deriving DecidableEq

/-! ## Canonical lists -/

/-- A turn of the second loop of `cbs_optimize_ranges`: the ranges found so far and the one that
is being extended. -/
def optimizeTurn (set : ℕ → Bool) (found : List CbsTopicRange × Option CbsTopicRange) (i : ℕ) :
    List CbsTopicRange × Option CbsTopicRange :=
  if set i then
    match found.2 with
    | some range => (found.1, some { range with max := i })
    | none => (found.1, some ⟨i, i⟩)
  else
    match found.2 with
    | some range => (found.1 ++ [range], none)
    | none => found

def cbsOptimizeRanges (ranges : List CbsTopicRange) : List CbsTopicRange :=
  let set := fun i => ranges.any fun range => range.min ≤ i && i ≤ range.max
  let found := (List.range 1000).foldl (optimizeTurn set) ([], none)
  found.1 ++ found.2.toList

/-! ## Reading -/

/-- A decimal numeral, as an `int` that overflows as the machine's does. -/
def numeral (digits : List Char) : Int :=
  digits.foldl (fun n c => (n * 10 + (c.toNat - '0'.toNat)).bmod (2 ^ 32)) 0

/-- `skip_to_next_field`, of what is left of the string. -/
def skipToNextField : List Char → List Char
  | ',' :: str => str.dropWhile (· = ' ')
  | str => str.dropWhile (· = ' ')

/-- `next_range`, of what is left of the string: the numbers and what is behind them. -/
def nextRange (str : List Char) : Option (Int × Int × List Char) :=
  let str := str.dropWhile (· = ' ')
  let low := str.takeWhile Char.isDigit
  let rest := str.dropWhile Char.isDigit
  if low = [] then none
  else
    match rest with
    | '-' :: behind =>
      let high := behind.takeWhile Char.isDigit
      if high = [] then none
      else some (numeral low, numeral high, skipToNextField (behind.dropWhile Char.isDigit))
    | _ => some (numeral low, numeral low, skipToNextField rest)

/-- The loops of `cbs_extract_topic_ranges`; the fuel bounds their turns, each of which reads a
digit. -/
def extractLoop : ℕ → List Char → Option (List CbsTopicRange)
  | 0, _ => none
  | fuel + 1, str =>
    match nextRange str with
    | none => if str = [] then some [] else none
    | some (min, max, rest) =>
      if min < 0 ∨ 999 < min ∨ max < 0 ∨ 999 < max ∨ max < min then none
      else (extractLoop fuel rest).map fun ranges => ⟨min.toNat, max.toNat⟩ :: ranges

/-- `cbs_extract_topic_ranges`; `NULL` is the empty list. -/
def cbsExtractTopicRanges (ranges : List Char) : List CbsTopicRange :=
  match extractLoop (ranges.length + 1) ranges with
  | none => []
  | some ranges => cbsOptimizeRanges ranges

/-! ## Writing -/

/-- `%hu-%hu`, or `%hu` for a single topic. -/
def CbsTopicRange.toChars (range : CbsTopicRange) : List Char :=
  if range.min ≠ range.max then Nat.toDigits 10 range.min ++ '-' :: Nat.toDigits 10 range.max
  else Nat.toDigits 10 range.min

def cbsTopicRangesToString (ranges : List CbsTopicRange) : List Char :=
  [','].intercalate (ranges.map CbsTopicRange.toChars)

example : cbsTopicRangesToString (cbsExtractTopicRanges ['1', ',', ' ', '2', ',', '7']) =
    ['1', '-', '2', ',', '7'] := by
  decide +kernel

end Phonelets.Sms
