import Phonelets.Lib.Bitmap
import Phonelets.Lib.Ranges
import Phonelets.Sms.CbsTopics

/-! # The topics of a list of ranges

`cbs_optimize_ranges` marks the topics of all ranges in a bitmap and collects the canonical
list of what is marked.
-/

namespace Phonelets.Sms

open List

/-! ## Topics -/

/-- One of the ranges has the topic. -/
abbrev HasTopic (ranges : List CbsTopicRange) (topic : ℕ) : Prop :=
  Ranges.Holds CbsTopicRange.min CbsTopicRange.max ranges topic

/-- Ranges in increasing order, disjoint and not adjacent. -/
abbrev CanonicalTopics (ranges : List CbsTopicRange) : Prop :=
  Ranges.Canonical CbsTopicRange.min CbsTopicRange.max ranges

/-- A range of the topics that a bitmap has room for. -/
structure CbsTopicRange.Valid (range : CbsTopicRange) : Prop where
  ordered : range.min ≤ range.max
  bound : range.max ≤ 999

lemma CbsTopicRange.ext_ends (r s : CbsTopicRange) (hmin : r.min = s.min) (hmax : r.max = s.max) :
    r = s := by
  cases r
  cases s
  simp_all

/-- `cbs_topic_compare` of every range, with the topic as an `unsigned short`. -/
def cbsTopicInRange (topic : UInt32) (ranges : List CbsTopicRange) : Bool :=
  if ranges = [] then false
  else ranges.any fun range => topic.toNat % 2 ^ 16 ≥ range.min && topic.toNat % 2 ^ 16 ≤ range.max

lemma cbsTopicInRange_iff (topic : UInt32) (ranges : List CbsTopicRange) :
    cbsTopicInRange topic ranges = true ↔ HasTopic ranges (topic.toNat % 2 ^ 16) := by
  unfold cbsTopicInRange
  split
  · rename_i hempty
    rw [hempty]
    simp
  · simp [Ranges.Holds]

/-! ## The bitmap -/

/-- The loop that marks the topics of a range. -/
def markRange (bitmap : Bitmap 8 125) (range : CbsTopicRange) : Bitmap 8 125 :=
  (List.range' range.min (range.max + 1 - range.min)).foldl Bitmap.mark bitmap

/-- `cbs_optimize_ranges` with its bitmap. -/
def cbsOptimizeRangesBitmap (ranges : List CbsTopicRange) : List CbsTopicRange :=
  let bitmap := ranges.foldl markRange Bitmap.empty
  let found := (List.range 1000).foldl (optimizeTurn bitmap.test) ([], none)
  found.1 ++ found.2.toList

lemma test_foldl_mark {l : List ℕ} (hl : ∀ i ∈ l, i < 1000) (bitmap : Bitmap 8 125) (t : ℕ) :
    (l.foldl Bitmap.mark bitmap).test t = (decide (t ∈ l) || bitmap.test t) := by
  induction l generalizing bitmap with
  | nil => simp
  | cons i l ih =>
    rw [foldl_cons, ih (fun j hj => hl j (mem_cons_of_mem i hj)),
      Bitmap.test_mark bitmap (hl i mem_cons_self)]
    by_cases ht : t = i <;> simp [ht]

lemma test_markRange {range : CbsTopicRange} (h : range.Valid) (bitmap : Bitmap 8 125) (t : ℕ) :
    (markRange bitmap range).test t =
      (decide (range.min ≤ t ∧ t ≤ range.max) || bitmap.test t) := by
  have hordered := h.ordered
  have hbound := h.bound
  unfold markRange
  rw [test_foldl_mark]
  · congr 1
    rw [decide_eq_decide, mem_range'_1]
    omega
  · intro i hi
    rw [mem_range'_1] at hi
    omega

variable {ranges : List CbsTopicRange}

lemma test_foldl_markRange (h : ∀ r ∈ ranges, r.Valid) (bitmap : Bitmap 8 125) (t : ℕ) :
    (ranges.foldl markRange bitmap).test t =
      ((ranges.any fun r => r.min ≤ t && t ≤ r.max) || bitmap.test t) := by
  induction ranges generalizing bitmap with
  | nil => simp
  | cons r ranges ih =>
    rw [foldl_cons, ih (fun s hs => h s (mem_cons_of_mem r hs)),
      test_markRange (h r mem_cons_self), any_cons, ← Bool.or_assoc]
    congr 1
    rw [Bool.or_comm, Bool.decide_and]

/-- No mark is outside of the bitmap, and a topic is marked if a range has it. -/
lemma cbsOptimizeRangesBitmap_eq (h : ∀ r ∈ ranges, r.Valid) :
    cbsOptimizeRangesBitmap ranges = cbsOptimizeRanges ranges := by
  have htest : (ranges.foldl markRange Bitmap.empty).test =
      fun i => ranges.any fun r => r.min ≤ i && i ≤ r.max := by
    funext t
    rw [test_foldl_markRange h, Bitmap.test_empty, Bool.or_false]
  unfold cbsOptimizeRangesBitmap cbsOptimizeRanges
  dsimp only
  rw [htest]

/-! ## The canonical list -/

lemma optimizeTurn_walked {set : ℕ → Bool} {k : ℕ} {found : List CbsTopicRange × Option
    CbsTopicRange} (h : Ranges.Walked CbsTopicRange.min CbsTopicRange.max (fun t => set t) k found.1
    found.2) : Ranges.Walked CbsTopicRange.min CbsTopicRange.max (fun t => set t) (k + 1)
    (optimizeTurn set found k).1 (optimizeTurn set found k).2 := by
  obtain ⟨closed, current⟩ := found
  unfold optimizeTurn
  by_cases hk : set k = true
  · rw [if_pos hk]
    cases current with
    | none => exact h.begin hk rfl rfl
    | some range => exact h.extend hk rfl rfl
  · rw [if_neg hk]
    cases current with
    | none => exact h.skip hk
    | some range => exact h.close hk

lemma foldl_optimizeTurn_walked (set : ℕ → Bool) (n : ℕ) : Ranges.Walked CbsTopicRange.min
    CbsTopicRange.max (fun t => set t) n ((List.range n).foldl (optimizeTurn set) ([], none)).1
    ((List.range n).foldl (optimizeTurn set) ([], none)).2 := by
  induction n with
  | zero => exact Ranges.Walked.start _
  | succ n ih =>
    rw [range_succ, foldl_append]
    exact optimizeTurn_walked ih

lemma canonicalTopics_optimize (ranges : List CbsTopicRange) :
    CanonicalTopics (cbsOptimizeRanges ranges) :=
  (foldl_optimizeTurn_walked _ 1000).canonical

lemma hasTopic_optimize (h : ∀ r ∈ ranges, r.Valid) (t : ℕ) :
    HasTopic (cbsOptimizeRanges ranges) t ↔ HasTopic ranges t := by
  refine ((foldl_optimizeTurn_walked _ 1000).holds t).trans ?_
  simp only [any_eq_true, Bool.and_eq_true, decide_eq_true_iff]
  constructor
  · rintro ⟨-, hin⟩
    exact hin
  · rintro ⟨r, hr, hmin, hmax⟩
    have hbound := (h r hr).bound
    exact ⟨by omega, r, hr, hmin, hmax⟩

lemma optimize_canonical (h : ∀ r ∈ ranges, r.Valid)
    (hcanonical : CanonicalTopics ranges) : cbsOptimizeRanges ranges = ranges :=
  (canonicalTopics_optimize ranges).unique CbsTopicRange.ext_ends hcanonical (hasTopic_optimize h)

lemma valid_optimize (h : ∀ r ∈ ranges, r.Valid) : ∀ r ∈ cbsOptimizeRanges ranges, r.Valid := by
  intro r hr
  have hordered := (canonicalTopics_optimize ranges).proper r hr
  refine ⟨hordered, ?_⟩
  obtain ⟨s, hs, -, hmax⟩ := (hasTopic_optimize h r.max).mp ⟨r, hr, hordered, le_rfl⟩
  exact hmax.trans (h s hs).bound

lemma optimize_ne_nil (h : ∀ r ∈ ranges, r.Valid)
    (hne : ranges ≠ []) : cbsOptimizeRanges ranges ≠ [] := by
  obtain ⟨r, hr⟩ := exists_mem_of_ne_nil ranges hne
  intro hempty
  have htopic : HasTopic ranges r.min := ⟨r, hr, le_rfl, (h r hr).ordered⟩
  rw [← hasTopic_optimize h, hempty] at htopic
  exact Ranges.holds_nil _ htopic

lemma optimize_reverse (ranges : List CbsTopicRange) :
    cbsOptimizeRanges ranges.reverse = cbsOptimizeRanges ranges := by
  unfold cbsOptimizeRanges
  simp only [any_reverse]

end Phonelets.Sms
