import Mathlib.Data.List.GetD
import Mathlib.Data.List.TakeWhile
import Phonelets.Gatchat.Gsm0710

/-! # What the multiplexer finds in its buffer

The basic form finds frames that lie in the buffer and have been checked. The advanced form unquotes
what stands between two flags to the front of the buffer, and rejects what is too short by where it
ends, not by how long it is.
-/

namespace Phonelets.Gatchat

open List Outcome
open Outcome (orFault)

/-! ## Frames -/

/-- What is between two flags, with its quoting undone. -/
def unquoted : List UInt8 → List UInt8
  | [] => []
  | [b] => if b = 0x7d then [] else [b]
  | b :: c :: rest => if b = 0x7d then (c ^^^ 0x20) :: unquoted rest else b :: unquoted (c :: rest)

/-- The frame lies in the buffer, from a flag to a flag, with a header of three or four octets that
its check sequence is right for. -/
def IsBasicFrame (buf : List UInt8) (e : Extraction) (f : ExtractedFrame) : Prop :=
  ∃ first headerSize framelen : ℕ, (headerSize = 3 ∨ headerSize = 4) ∧
    f.start = first + 1 + headerSize ∧ f.length = framelen ∧ e.posn = f.start + framelen + 1 ∧
    buf.getD first 0 = 0xf9 ∧ e.posn < buf.length ∧ buf.getD e.posn 0 = 0xf9 ∧
    f.dlc = buf.getD (first + 1) 0 >>> 2 ∧ f.control = buf.getD (first + 2) 0 &&& 0xef ∧
    gsm0710CheckFcs ((buf.drop (first + 1)).take headerSize) (buf.getD (f.start + framelen) 0) = true

/-- The frame is what is between two flags of the buffer: its first two octets are the header that
the last one is right for. -/
def IsAdvancedFrame (buf : List UInt8) (e : Extraction) (f : ExtractedFrame) : Prop :=
  ∃ before content behind, buf = before ++ 0x7e :: (content ++ 0x7e :: behind) ∧ 0x7e ∉ content ∧
    e.posn = before.length + 1 + content.length ∧
    3 ≤ (unquoted content).length ∧ e.buf.take (unquoted content).length = unquoted content ∧
    f.start = 2 ∧ f.length = (unquoted content).length - 3 ∧
    f.dlc = ((unquoted content).getD 0 0 >>> 2) &&& 0x3f ∧
    f.control = (unquoted content).getD 1 0 &&& 0xef ∧
    gsm0710CheckFcs ((unquoted content).take 2) ((unquoted content).getLastD 0) = true

/-- Nothing is read outside of the buffer, the position is one in it, and a frame that is delivered
lies in the buffer and has been checked. -/
def WellExtracted (IsFrame : List UInt8 → Extraction → ExtractedFrame → Prop) (buf : List UInt8)
    (r : Outcome Extraction) : Prop :=
  ∃ e, r = .ok e ∧ e.posn ≤ buf.length ∧ e.buf.length = buf.length ∧ ∀ f, e.frame = some f →
    0 < e.posn ∧ 0 ≤ f.length ∧ f.start + f.length ≤ buf.length ∧ IsFrame buf e f

/-! ## Candidates -/

/-- What stands between two flags, from octet `i` on: `seen` is what has come since a flag. A
candidate ends at octet 4 or behind it. -/
def candidates : ℕ → Option (List UInt8) → List UInt8 → List (List UInt8)
  | _, _, [] => []
  | i, seen, b :: bs =>
    if b = 0x7e then
      match seen with
      | some content =>
        if content ≠ [] ∧ 4 ≤ i then content :: candidates (i + 1) (some []) bs
        else candidates (i + 1) (some []) bs
      | none => candidates (i + 1) (some []) bs
    else candidates (i + 1) (seen.map (· ++ [b])) bs

/-- Each candidate that is looked at has an octet behind its quoting, and one that passes the check
has three. The header is read off the front of the buffer, whatever stands there. -/
def FrontOk : List UInt8 → List (List UInt8) → Prop
  | _, [] => True
  | front, content :: more =>
    let header := (unquoted content ++ front.drop (unquoted content).length).take 2
    unquoted content ≠ [] ∧
      if gsm0710CheckFcs header ((unquoted content).getLastD 0) then 3 ≤ (unquoted content).length
      else FrontOk header more

/-! ## Undoing the quoting -/

variable {buf : List UInt8} {i posn posn2 framelen fuel : ℕ} {b : UInt8}

lemma readOctet_inside (h : i < buf.length) : readOctet buf (i : ℤ) = .ok (buf.getD i 0) := by
  rw [readOctet, if_pos (Int.natCast_nonneg i), Int.toNat_natCast, getElem?_eq_getElem h,
    getD_eq_getElem _ _ h]
  rfl

lemma readOctet_negative {i : ℤ} (h : i < 0) : readOctet buf i = .fault := if_neg (by omega)

lemma unquoted_cons (hb : b ≠ 0x7d) (t : List UInt8) : unquoted (b :: t) = b :: unquoted t := by
  cases t with
  | nil => exact if_neg hb
  | cons c t => exact if_neg hb

lemma unquoted_quoted (c : UInt8) (t : List UInt8) :
    unquoted (0x7d :: c :: t) = (c ^^^ 0x20) :: unquoted t := if_pos rfl

/-- What is in the buffer between two places. -/
def between (buf : List UInt8) (posn framelen : ℕ) : List UInt8 :=
  (buf.drop posn).take (framelen - posn)

lemma between_self (buf : List UInt8) (posn : ℕ) : between buf posn posn = [] := by
  rw [between, Nat.sub_self, take_zero]

lemma between_cons (hlen : framelen ≤ buf.length) (hposn : posn < framelen) :
    between buf posn framelen = buf.getD posn 0 :: between buf (posn + 1) framelen := by
  have hcons := drop_eq_getElem_cons (show posn < buf.length by omega)
  have hsucc : framelen - posn = framelen - (posn + 1) + 1 := by omega
  rw [between, between, hcons, hsucc, take_succ_cons, getD_eq_getElem]

lemma between_set {v : UInt8} (h : posn2 < posn) :
    between (buf.set posn2 v) posn framelen = between buf posn framelen := by
  rw [between, drop_set_of_lt h, between]

/-- The buffer with octets put at a place. -/
def overwritten (buf : List UInt8) (k : ℕ) (u : List UInt8) : List UInt8 :=
  buf.take k ++ (u ++ buf.drop (k + u.length))

lemma overwritten_nil (buf : List UInt8) (k : ℕ) : overwritten buf k [] = buf := by
  rw [overwritten, nil_append, length_nil, Nat.add_zero, take_append_drop]

variable {u : List UInt8}

lemma overwritten_cons {v : UInt8} (h : posn2 < buf.length) :
    overwritten (buf.set posn2 v) (posn2 + 1) u = overwritten buf posn2 (v :: u) := by
  have htake : (buf.set posn2 v).take (posn2 + 1) = buf.take posn2 ++ [v] := by
    rw [take_add_one, take_set_of_le (Nat.le_refl _), getElem?_set_self h]
    rfl
  have hlen : posn2 + 1 + u.length = posn2 + (v :: u).length := by
    rw [length_cons]
    omega
  rw [overwritten, htake, drop_set_of_lt (by omega), hlen, append_assoc]
  rfl

lemma unquote_eq (hlen : framelen ≤ buf.length) (hposn : posn ≤ framelen) (hbehind : posn2 < posn)
    (hfuel : framelen ≤ fuel + posn) : unquote framelen fuel buf posn posn2 =
    .ok (overwritten buf posn2 (unquoted (between buf posn framelen)), framelen,
    posn2 + (unquoted (between buf posn framelen)).length) := by
  induction fuel generalizing buf posn posn2 with
  | zero =>
    obtain rfl : posn = framelen := by omega
    rw [between_self, unquoted, overwritten_nil]
    rfl
  | succ fuel ih =>
    rw [unquote]
    by_cases hend : posn < framelen
    · rw [if_pos hend, readOctet_inside (by omega), ok_bind, between_cons hlen hend]
      by_cases hb : buf.getD posn 0 = 0x7d
      · rw [if_pos hb, hb]
        by_cases hlast : posn + 1 ≥ framelen
        · -- the quoting has nothing behind it
          obtain rfl : posn + 1 = framelen := by omega
          rw [if_pos hlast, between_self, unquoted, if_pos rfl, overwritten_nil]
          rfl
        · have hread : readOctet buf ((posn : ℤ) + 1) = .ok (buf.getD (posn + 1) 0) :=
            readOctet_inside (show posn + 1 < buf.length by omega)
          have hnext := between_cons hlen (show posn + 1 < framelen by omega)
          rw [if_neg hlast, hread, ok_bind, hnext, unquoted_quoted]
          rw [ih (by rwa [length_set]) (by omega) (by omega) (by omega),
            between_set (by omega), overwritten_cons (by omega), length_cons, Nat.add_right_comm,
            Nat.add_assoc]
      · rw [if_neg hb, unquoted_cons hb]
        rw [ih (by rwa [length_set]) (by omega) (by omega) (by omega),
          between_set (by omega), overwritten_cons (by omega), length_cons, Nat.add_right_comm,
          Nat.add_assoc]
    · obtain rfl : posn = framelen := by omega
      rw [if_neg hend, between_self, unquoted, overwritten_nil]
      rfl

/-! ## From flag to flag -/

lemma candidates_other (hb : b ≠ 0x7e) (bs : List UInt8) :
    candidates i none (b :: bs) = candidates (i + 1) none bs := if_neg hb

lemma candidates_start (i : ℕ) (bs : List UInt8) :
    candidates i none (0x7e :: bs) = candidates (i + 1) (some []) bs := if_pos rfl

lemma candidates_flags {flags : List UInt8} (h : ∀ b ∈ flags, b = 0x7e) (i : ℕ) (bs : List UInt8) :
    candidates i (some []) (flags ++ bs) = candidates (i + flags.length) (some []) bs := by
  induction flags generalizing i with
  | nil => rfl
  | cons b flags ih =>
    obtain ⟨rfl, hflags⟩ := forall_mem_cons.mp h
    rw [cons_append, candidates, if_pos rfl, if_neg fun hne => hne.1 rfl, ih hflags, length_cons, Nat.add_right_comm, Nat.add_assoc]

lemma candidates_content {content : List UInt8} (h : 0x7e ∉ content) (i : ℕ) (seen bs : List UInt8) :
    candidates i (some seen) (content ++ bs) =
      candidates (i + content.length) (some (seen ++ content)) bs := by
  induction content generalizing i seen with
  | nil => rw [append_nil]; rfl
  | cons b content ih =>
    rw [mem_cons, not_or] at h
    rw [cons_append, candidates, if_neg (Ne.symm h.1), Option.map_some, ih h.2, append_assoc,
      length_cons, Nat.add_right_comm, Nat.add_assoc]
    rfl

lemma exists_takeWhile (p : UInt8 → Bool) (l : List UInt8) :
    ∃ tail, l = l.takeWhile p ++ tail ∧ (tail = [] ∨ ∃ b t, tail = b :: t ∧ p b = false) := by
  induction l with
  | nil => exact ⟨[], rfl, .inl rfl⟩
  | cons b l ih =>
    by_cases hb : p b = true
    · obtain ⟨tail, heq, htail⟩ := ih
      refine ⟨tail, ?_, htail⟩
      rw [takeWhile_cons_of_pos hb, cons_append, ← heq]
    · refine ⟨b :: l, ?_, .inr ⟨b, l, rfl, Bool.eq_false_iff.mpr hb⟩⟩
      rw [takeWhile_cons_of_neg hb, nil_append]

/-- From a flag on: the flags that are skipped, and what stands up to the next flag, if there is
one. -/
lemma exists_content {rest : List UInt8} (h : buf.drop posn = 0x7e :: rest) :
    ∃ k content tail, skipFlags 0x7e buf posn = k ∧ posn ≤ k ∧ k < buf.length ∧ buf.drop k =
    0x7e :: (content ++ tail) ∧ 0x7e ∉ content ∧ frameEnd buf (k + 1) = k + 1 + content.length ∧
    (tail = [] ∨ content ≠ [] ∧ ∃ behind, tail = 0x7e :: behind) ∧
    candidates posn none (buf.drop posn) = candidates (k + 1) (some []) (content ++ tail) := by
  have hrest : buf.drop (posn + 1) = rest := by rw [← tail_drop, h, tail_cons]
  obtain ⟨tail₁, hflags, htail₁⟩ := exists_takeWhile (· = 0x7e) rest
  obtain ⟨tail, hcontent, htail⟩ := exists_takeWhile (· ≠ 0x7e) tail₁
  have hskip : skipFlags 0x7e buf posn = posn + (rest.takeWhile (· = 0x7e)).length := by
    rw [skipFlags, hrest]
  have hall : ∀ b ∈ rest.takeWhile (· = 0x7e), b = 0x7e := by
    intro b hb
    simpa using mem_takeWhile_imp hb
  generalize rest.takeWhile (· = 0x7e) = flags at *
  have hnone : 0x7e ∉ tail₁.takeWhile (· ≠ 0x7e) := by
    intro hb
    simpa using mem_takeWhile_imp hb
  have hend (l : List UInt8) (k : ℕ) (hk : l.drop (k + 1) = tail₁) :
      frameEnd l (k + 1) = k + 1 + (tail₁.takeWhile (· ≠ 0x7e)).length := by
    rw [frameEnd, hk]
  generalize tail₁.takeWhile (· ≠ 0x7e) = content at *
  subst hcontent hflags
  obtain ⟨n, rfl⟩ : ∃ n, flags = List.replicate n 0x7e := ⟨_, eq_replicate_of_mem hall⟩
  have hdrop : buf.drop (posn + n) = 0x7e :: (content ++ tail) := by
    have hsnoc : (0x7e : UInt8) :: (List.replicate n 0x7e ++ (content ++ tail)) =
        List.replicate n 0x7e ++ 0x7e :: (content ++ tail) := by
      rw [← cons_append, ← replicate_succ, replicate_succ', append_assoc]
      rfl
    have hlen : (List.replicate n (0x7e : UInt8)).length = n := length_replicate
    rw [← drop_drop, h, hsnoc]
    nth_rewrite 1 [← hlen]
    exact drop_left
  rw [length_replicate] at hskip
  refine ⟨posn + n, content, tail, hskip, Nat.le_add_right _ _, ?_, hdrop, hnone, ?_, ?_, ?_⟩
  · by_contra hlong
    rw [drop_eq_nil_of_le (Nat.not_lt.mp hlong)] at hdrop
    exact absurd hdrop (cons_ne_nil _ _).symm
  · refine hend buf (posn + n) ?_
    rw [← tail_drop, hdrop, tail_cons]
  · rcases htail with rfl | ⟨b, t, rfl, hb⟩
    · exact .inl rfl
    · obtain rfl : b = 0x7e := Decidable.not_not.mp (of_decide_eq_false hb)
      refine .inr ⟨?_, t, rfl⟩
      -- the flags have been skipped
      rintro rfl
      rcases htail₁ with hnil | ⟨c, t', heq, hc⟩
      · exact absurd hnil (cons_ne_nil _ _)
      · rw [nil_append, List.cons.injEq] at heq
        exact of_decide_eq_false hc heq.1.symm
  · rw [h, candidates_start, candidates_flags hall, length_replicate, Nat.add_right_comm]

/-! ## The advanced form -/

variable {orig front : List UInt8}

lemma wellExtracted_none {IsFrame : List UInt8 → Extraction → ExtractedFrame → Prop}
    (h : posn ≤ orig.length) (hlen : buf.length = orig.length) :
    WellExtracted IsFrame orig (.ok ⟨posn, none, buf⟩) := by
  refine ⟨_, rfl, h, hlen, fun f hf => ?_⟩
  cases hf

lemma not_wellExtracted_fault {IsFrame : List UInt8 → Extraction → ExtractedFrame → Prop} :
    ¬ WellExtracted IsFrame orig .fault := by
  rintro ⟨e, he, -⟩
  cases he

variable {k : ℕ}

lemma drop_congr (h : buf.drop posn = orig.drop posn) (hk : posn ≤ k) :
    buf.drop k = orig.drop k := by
  have hadd : posn + (k - posn) = k := by omega
  rw [← hadd, ← drop_drop, h, drop_drop]

lemma take_two_overwritten (buf u : List UInt8) :
    (overwritten buf 0 u).take 2 = (u ++ (buf.take 2).drop u.length).take 2 := by
  have hdrop : (buf.take 2).drop u.length = (buf.drop u.length).take (2 - u.length) :=
    drop_take
  rw [overwritten, take_zero, nil_append, Nat.zero_add, take_append, hdrop,
    take_append, take_take, Nat.min_self]

lemma length_overwritten (h : u.length ≤ buf.length) :
    (overwritten buf 0 u).length = buf.length := by
  rw [overwritten, take_zero, nil_append, Nat.zero_add, length_append, length_drop]
  omega

lemma drop_overwritten (h : u.length ≤ k) : (overwritten buf 0 u).drop k = buf.drop k := by
  have hadd : u.length + (k - u.length) = k := by omega
  rw [overwritten, take_zero, nil_append, Nat.zero_add, drop_append,
    drop_eq_nil_of_le h, nil_append, drop_drop, hadd]

lemma take_overwritten (h : k ≤ u.length) : (overwritten buf 0 u).take k = u.take k := by
  rw [overwritten, take_zero, nil_append, take_append_of_le_length h]

lemma getD_overwritten (h : i < u.length) : (overwritten buf 0 u).getD i 0 = u.getD i 0 := by
  rw [overwritten, take_zero, nil_append, getD_append _ _ _ _ h]

lemma length_unquoted_le (content : List UInt8) : (unquoted content).length ≤ content.length := by
  fun_induction unquoted content with
  | case1 => exact Nat.le_refl 0
  | case2 => exact Nat.zero_le _
  | case3 => exact Nat.le_refl 1
  | case4 c rest ih =>
    rw [length_cons, length_cons, length_cons]
    omega
  | case5 b c rest hb ih => exact Nat.succ_le_succ ih

lemma readOctet_last (hne : u ≠ []) (h : u.length ≤ buf.length) :
    readOctet (overwritten buf 0 u) ((u.length : ℤ) - 1) = .ok (u.getLastD 0) := by
  have hpos := length_pos_iff.mpr hne
  have hcast : ((u.length : ℤ) - 1) = ((u.length - 1 : ℕ) : ℤ) := by omega
  rw [hcast, readOctet_inside (by rw [length_overwritten h]; omega), getD_overwritten (by omega),
    getLastD_eq_getLast?, getLast?_eq_getElem?, getD_eq_getElem?_getD]

/-- A candidate that passes the check is delivered, and that is right when it has three octets. -/
lemma wellExtracted_candidate {before content behind : List UInt8} (horig : orig = before ++ 0x7e ::
    (content ++ 0x7e :: behind)) (hnone : 0x7e ∉ content) (hlen : buf.length = orig.length)
    (hcheck : gsm0710CheckFcs ((overwritten buf 0 (unquoted content)).take 2) ((unquoted
    content).getLastD 0) = true) : WellExtracted IsAdvancedFrame orig (.ok ⟨before.length + 1 +
    content.length, some ⟨(((overwritten buf 0 (unquoted content)).take 2).getD 0 0 >>> 2) &&& 0x3f,
    ((overwritten buf 0 (unquoted content)).take 2).getD 1 0 &&& 0xef, 2, ((unquoted content).length
    : ℤ) - 3⟩, overwritten buf 0 (unquoted content)⟩) ↔ 3 ≤ (unquoted content).length := by
  have hcontent := length_unquoted_le content
  have htotal : orig.length = before.length + 1 + content.length + 1 + behind.length := by
    rw [horig]
    simp only [length_append, length_cons]
    omega
  constructor
  · rintro ⟨e, he, -, -, hframe⟩
    cases he
    obtain ⟨-, hnonneg, -⟩ := hframe _ rfl
    dsimp only at hnonneg
    omega
  · intro hthree
    have hposn : before.length + 1 + content.length ≤ orig.length := by omega
    refine ⟨_, rfl, hposn, (length_overwritten (by omega)).trans hlen, fun f hf => ?_⟩
    cases hf
    rw [take_overwritten (by omega)] at hcheck ⊢
    have hinside : 2 + (((unquoted content).length : ℤ) - 3) ≤ orig.length := by omega
    have hdlc : ((unquoted content).take 2).getD 0 0 = (unquoted content).getD 0 0 := by
      rw [getD_eq_getElem?_getD, getElem?_take_of_lt (by omega), getD_eq_getElem?_getD]
    have hcontrol : ((unquoted content).take 2).getD 1 0 = (unquoted content).getD 1 0 := by
      rw [getD_eq_getElem?_getD, getElem?_take_of_lt (by omega), getD_eq_getElem?_getD]
    rw [hdlc, hcontrol]
    refine ⟨by dsimp only; omega, by dsimp only; omega, hinside, before, content, behind, horig, hnone,
      rfl, hthree, ?_, rfl, rfl, rfl, rfl, hcheck⟩
    dsimp only
    rw [take_overwritten (Nat.le_refl _), take_length]

lemma advancedExtractLoop_iff (hlen : buf.length = orig.length) (hrest : buf.drop posn =
    orig.drop posn) (hposn : posn ≤ buf.length) (hfuel : buf.length < fuel + posn) :
    WellExtracted IsAdvancedFrame orig (advancedExtractLoop fuel buf posn) ↔
    FrontOk (buf.take 2) (candidates posn none (buf.drop posn)) := by
  induction fuel generalizing buf posn with
  | zero => omega
  | succ fuel ih =>
    rw [advancedExtractLoop]
    by_cases hin : posn < buf.length
    · rw [if_pos hin, readOctet_inside hin, ok_bind]
      have hcons := drop_eq_getElem_cons hin
      rw [← getD_eq_getElem _ 0] at hcons
      by_cases hflag : buf.getD posn 0 = 0x7e
      · rw [if_neg (not_not_intro hflag)]
        rw [hflag] at hcons
        obtain ⟨k, content, tail, hskip, hk, hkin, hdrop, hnone, hend, htail, hcandidates⟩ :=
          exists_content hcons
        dsimp only
        rw [hskip, hend, hcandidates, candidates_content hnone, nil_append]
        have htotal : buf.length = k + (1 + (content.length + tail.length)) := by
          have hlength := congrArg List.length hdrop
          rw [length_drop, length_cons, length_append] at hlength
          omega
        rcases htail with rfl | ⟨hne, behind, rfl⟩
        · -- there is no flag any more
          rw [length_nil] at htotal
          rw [if_pos (by omega)]
          exact iff_of_true (wellExtracted_none (by omega) hlen) trivial
        · rw [length_cons] at htotal
          have hclose : buf.drop (k + 1 + content.length) = 0x7e :: behind := by
            rw [Nat.add_assoc, ← drop_drop, hdrop, Nat.add_comm 1, drop_succ_cons, drop_left]
          have hclosed : buf.drop (k + 1 + content.length) = orig.drop (k + 1 + content.length) :=
            drop_congr hrest (by omega)
          rw [if_neg (by omega), candidates, if_pos rfl]
          by_cases hshort : k + 1 + content.length < 4
          · have hearly : ¬ (content ≠ [] ∧ 4 ≤ k + 1 + content.length) := by omega
            rw [if_pos hshort, if_neg hearly, ih hlen hclosed (by omega) (by omega), hclose,
              candidates_start]
          · have hbetween : between buf (k + 1) (k + 1 + content.length) = content := by
              rw [between, ← drop_drop, hdrop, drop_succ_cons, drop_zero,
                Nat.add_sub_cancel_left, take_left]
            rw [if_neg hshort, if_pos ⟨hne, by omega⟩,
              unquote_eq (by omega) (by omega) (by omega) (by omega), hbetween, ok_bind]
            dsimp only
            have hcontent := length_unquoted_le content
            have hlen' := length_overwritten (show (unquoted content).length ≤ buf.length by omega)
            have hheader : readOctets (overwritten buf 0 (unquoted content)) 0 2 =
                .ok ((overwritten buf 0 (unquoted content)).take 2) := if_pos (by omega)
            rw [hheader, ok_bind, Nat.zero_add, FrontOk, ← take_two_overwritten]
            by_cases hempty : unquoted content = []
            · -- the octet in front of the buffer is read
              have hread : readOctet (overwritten buf 0 (unquoted content))
                  ((unquoted content).length - 1) = .fault :=
                readOctet_negative (by rw [hempty, length_nil]; omega)
              rw [hread]
              exact iff_of_false not_wellExtracted_fault fun h => h.1 hempty
            · rw [readOctet_last hempty (by omega), ok_bind]
              refine Iff.trans ?_ (and_iff_right hempty).symm
              by_cases hcheck : gsm0710CheckFcs ((overwritten buf 0 (unquoted content)).take 2)
                  ((unquoted content).getLastD 0) = true
              · have horig : orig = orig.take k ++ 0x7e :: (content ++ 0x7e :: behind) := by
                  rw [← hdrop, drop_congr hrest hk, take_append_drop]
                have hk' : (orig.take k).length = k := by
                  rw [length_take]
                  omega
                rw [if_pos hcheck, if_pos hcheck]
                have hwell := wellExtracted_candidate horig hnone hlen hcheck
                rwa [hk'] at hwell
              · rw [if_neg hcheck, if_neg hcheck, ih (hlen'.trans hlen), drop_overwritten (by omega),
                  hclose, candidates_start]
                · rw [drop_overwritten (by omega), hclosed]
                · omega
                · omega
      · rw [if_pos hflag, ih hlen (drop_congr hrest (by omega)) (by omega) (by omega), hcons,
          candidates_other hflag]
    · have hdrop : buf.drop posn = [] := drop_eq_nil_of_le (by omega)
      rw [if_neg hin, hdrop]
      exact iff_of_true (wellExtracted_none (by omega) hlen) trivial

/-! ## The basic form -/

lemma skipFlags_lt {flag : UInt8} (h : posn < buf.length) : skipFlags flag buf posn < buf.length := by
  have htake := (List.takeWhile_prefix (l := buf.drop (posn + 1)) (· = flag)).length_le
  rw [length_drop] at htake
  rw [skipFlags]
  omega

lemma getD_skipFlags {flag : UInt8} (h : buf.getD posn 0 = flag) :
    buf.getD (skipFlags flag buf posn) 0 = flag := by
  obtain ⟨tail, htail⟩ := List.takeWhile_prefix (l := buf.drop (posn + 1)) (· = flag)
  have hall : ∀ b ∈ (buf.drop (posn + 1)).takeWhile (· = flag), b = flag := by
    intro b hb
    simpa using mem_takeWhile_imp hb
  rw [skipFlags]
  generalize (buf.drop (posn + 1)).takeWhile (· = flag) = flags at *
  rcases Nat.eq_zero_or_pos flags.length with hzero | hpos
  · rw [hzero, Nat.add_zero, h]
  · -- the last of the flags
    have hlast : posn + flags.length = posn + 1 + (flags.length - 1) := by omega
    have hread : (buf.drop (posn + 1))[flags.length - 1]? = some (flags[flags.length - 1]) := by
      rw [← htail, getElem?_append_left (by omega), getElem?_eq_getElem]
    rw [getElem?_drop] at hread
    rw [hlast, getD_eq_getElem?_getD, hread, Option.getD_some]
    exact hall _ (getElem_mem _)

/-- From a flag on, with lengths that have been read: the frame lies in the buffer and is checked, or
the next round begins behind the flag. -/
lemma basicExtractAt_well {again : ℕ → Outcome Extraction} {headerSize framelen : ℕ}
    (hagain : ∀ posn, k < posn → posn ≤ buf.length → WellExtracted IsBasicFrame buf (again posn))
    (hk : k < buf.length) (hflag : buf.getD k 0 = 0xf9) (hsize : headerSize = 3 ∨ headerSize = 4) :
    WellExtracted IsBasicFrame buf (basicExtractAt buf again k headerSize framelen) := by
  rw [basicExtractAt]
  by_cases hroom : k + headerSize + 3 + framelen > buf.length
  · rw [if_pos hroom]
    exact wellExtracted_none (by omega) rfl
  · have hfcs : readOctet buf ((k : ℤ) + 1 + headerSize + framelen) =
        .ok (buf.getD (k + 1 + headerSize + framelen) 0) :=
      readOctet_inside (show k + 1 + headerSize + framelen < buf.length by omega)
    have hend : readOctet buf ((k : ℤ) + headerSize + framelen + 2) =
        .ok (buf.getD (k + headerSize + framelen + 2) 0) :=
      readOctet_inside (show k + headerSize + framelen + 2 < buf.length by omega)
    have hheader : readOctets buf (k + 1) headerSize = .ok ((buf.drop (k + 1)).take headerSize) :=
      if_pos (by omega)
    rw [if_neg hroom, hfcs, ok_bind, hheader, ok_bind]
    by_cases hcheck : gsm0710CheckFcs ((buf.drop (k + 1)).take headerSize)
        (buf.getD (k + 1 + headerSize + framelen) 0) = true
    · rw [if_pos hcheck, hend, ok_bind]
      by_cases hclose : buf.getD (k + headerSize + framelen + 2) 0 = 0xf9
      · rw [if_neg (not_not_intro hclose)]
        have hread (i : ℕ) (hi : i < headerSize) :
            ((buf.drop (k + 1)).take headerSize).getD i 0 = buf.getD (k + 1 + i) 0 := by
          rw [getD_eq_getElem?_getD, getElem?_take_of_lt hi, getElem?_drop, getD_eq_getElem?_getD]
        rw [hread 0 (by omega), hread 1 (by omega)]
        refine ⟨_, rfl, by dsimp only; omega, rfl, fun f hf => ?_⟩
        cases hf
        dsimp only
        refine ⟨by omega, by omega, by omega, k, headerSize, framelen, hsize, rfl, rfl, by dsimp only; omega,
          hflag, by dsimp only; omega, hclose, rfl, rfl, hcheck⟩
      · rw [if_pos hclose]
        exact hagain _ (by omega) (by omega)
    · rw [if_neg hcheck]
      exact hagain _ (by omega) (by omega)

lemma basicExtractLoop_well (hposn : posn ≤ buf.length) (hfuel : buf.length < fuel + posn) :
    WellExtracted IsBasicFrame buf (basicExtractLoop buf fuel posn) := by
  induction fuel generalizing posn with
  | zero => omega
  | succ fuel ih =>
    rw [basicExtractLoop]
    by_cases hin : posn < buf.length
    · rw [if_pos hin, readOctet_inside hin, ok_bind]
      by_cases hflag : buf.getD posn 0 = 0xf9
      · rw [if_neg (not_not_intro hflag)]
        dsimp only
        have hskip : skipFlags 0xf9 buf posn < buf.length := skipFlags_lt hin
        have hfirst := getD_skipFlags hflag
        have hle : posn ≤ skipFlags 0xf9 buf posn := Nat.le_add_right _ _
        generalize skipFlags 0xf9 buf posn = k at *
        have hagain (posn' : ℕ) (hk : k < posn') (hposn' : posn' ≤ buf.length) :
            WellExtracted IsBasicFrame buf (basicExtractLoop buf fuel posn') :=
          ih hposn' (by omega)
        by_cases hroom : k + 4 > buf.length
        · rw [if_pos hroom]
          exact wellExtracted_none (by omega) rfl
        · have haddress : readOctet buf ((k : ℤ) + 1) = .ok (buf.getD (k + 1) 0) :=
            readOctet_inside (show k + 1 < buf.length by omega)
          have hlength : readOctet buf ((k : ℤ) + 3) = .ok (buf.getD (k + 3) 0) :=
            readOctet_inside (show k + 3 < buf.length by omega)
          rw [if_neg hroom, haddress, ok_bind]
          by_cases hshort : buf.getD (k + 1) 0 &&& 0x01 = 0
          · rw [if_pos hshort]
            exact hagain _ (by omega) (by omega)
          · rw [if_neg hshort, hlength, ok_bind]
            by_cases hsingle : buf.getD (k + 3) 0 &&& 0x01 = 0
            · rw [if_neg (not_not_intro hsingle)]
              by_cases hroom' : k + 5 > buf.length
              · rw [if_pos hroom']
                exact wellExtracted_none (by omega) rfl
              · have hhigh : readOctet buf ((k : ℤ) + 4) = .ok (buf.getD (k + 4) 0) :=
                  readOctet_inside (show k + 4 < buf.length by omega)
                rw [if_neg hroom', hhigh, ok_bind]
                exact basicExtractAt_well hagain hskip hfirst (.inr rfl)
            · rw [if_pos hsingle]
              exact basicExtractAt_well hagain hskip hfirst (.inl rfl)
      · rw [if_pos hflag]
        exact ih (by omega) (by omega)
    · rw [if_neg hin]
      exact wellExtracted_none hposn rfl

/-! ## Feeding -/

/-- `gsm0710_basic_feed_data` and `gsm0710_advanced_feed_data`: what they return and the frames that
they hand over, if there are not more rounds than given. -/
def gsm0710FeedData (extract : List UInt8 → Outcome Extraction) :
    ℕ → List UInt8 → Option (Outcome (ℕ × List ExtractedFrame))
  | 0, _ => none
  | rounds + 1, data =>
    match extract data with
    | .fault => some .fault
    | .reject => some .reject
    | .ok e =>
      match e.frame with
      | none => some (.ok (e.posn, []))
      | some f =>
        if e.posn > 0 then
          (gsm0710FeedData extract rounds (e.buf.drop e.posn)).map fun r => do
            let (total, frames) ← r
            .ok (e.posn + total, f :: frames)
        else some (.ok (e.posn, [f]))

/-- The loop comes to its end. -/
def FeedEnds (extract : List UInt8 → Outcome Extraction) (data : List UInt8) : Prop :=
  ∃ rounds, (gsm0710FeedData extract rounds data).isSome = true

lemma feedEnds_of_length {extract : List UInt8 → Outcome Extraction}
    (hextract : ∀ data e, extract data = .ok e → e.buf.length = data.length ∧ e.posn ≤ data.length)
    (data : List UInt8) : FeedEnds extract data := by
  have hrounds (rounds : ℕ) (data : List UInt8) (h : data.length < rounds) :
      (gsm0710FeedData extract rounds data).isSome = true := by
    induction rounds generalizing data with
    | zero => omega
    | succ rounds ih =>
      rw [gsm0710FeedData]
      cases he : extract data with
      | fault => rfl
      | reject => rfl
      | ok e =>
        obtain ⟨hlen, hposn⟩ := hextract data e he
        dsimp only
        cases e.frame with
        | none => rfl
        | some f =>
          dsimp only
          by_cases hpos : e.posn > 0
          · rw [if_pos hpos, Option.isSome_map]
            refine ih _ ?_
            rw [length_drop]
            omega
          · rw [if_neg hpos]
            rfl
  exact ⟨data.length + 1, hrounds _ data (Nat.lt_succ_self _)⟩

lemma unquote_inside {buf' : List UInt8} {p q : ℕ} (hposn : posn ≤ framelen) (h : unquote framelen
    fuel buf posn posn2 = .ok (buf', p, q)) : buf'.length = buf.length ∧ p ≤ framelen := by
  induction fuel generalizing buf posn posn2 with
  | zero =>
    cases h
    exact ⟨rfl, hposn⟩
  | succ fuel ih =>
    rw [unquote] at h
    split at h
    next hend =>
      obtain ⟨b, -, h⟩ := Outcome.bind_eq_ok.mp h
      split at h
      · split at h
        · cases h
          exact ⟨rfl, hend⟩
        · obtain ⟨c, -, h⟩ := Outcome.bind_eq_ok.mp h
          obtain ⟨hlen, hp⟩ := ih (by omega) h
          exact ⟨hlen.trans length_set, hp⟩
      · obtain ⟨hlen, hp⟩ := ih hend h
        exact ⟨hlen.trans length_set, hp⟩
    next hend =>
      cases h
      exact ⟨rfl, hposn⟩

lemma advancedExtractLoop_inside {e : Extraction} (hposn : posn ≤ buf.length)
    (h : advancedExtractLoop fuel buf posn = .ok e) :
    e.buf.length = buf.length ∧ e.posn ≤ buf.length := by
  induction fuel generalizing buf posn with
  | zero => cases h
  | succ fuel ih =>
    rw [advancedExtractLoop] at h
    split at h
    next hin =>
      obtain ⟨b, -, h⟩ := Outcome.bind_eq_ok.mp h
      split at h
      · exact ih hin h
      · have hskip : skipFlags 0x7e buf posn < buf.length := skipFlags_lt hin
        dsimp only at h
        split at h
        · cases h
          exact ⟨rfl, Nat.le_of_lt hskip⟩
        next hframe =>
          split at h
          · exact ih (by omega) h
          · obtain ⟨⟨buf', p, q⟩, hunquote, h⟩ := Outcome.bind_eq_ok.mp h
            have hstart : skipFlags 0x7e buf posn + 1 ≤ frameEnd buf (skipFlags 0x7e buf posn + 1) :=
              Nat.le_add_right _ _
            obtain ⟨hlen, hp⟩ := unquote_inside hstart hunquote
            obtain ⟨header, -, h⟩ := Outcome.bind_eq_ok.mp h
            obtain ⟨fcs, -, h⟩ := Outcome.bind_eq_ok.mp h
            split at h
            · cases h
              exact ⟨hlen, by dsimp only; omega⟩
            · rw [← hlen]
              exact ih (by omega) h
    next hin =>
      cases h
      exact ⟨rfl, hposn⟩

/-! ## Both forms -/

lemma basic_well (buf : List UInt8) :
    WellExtracted IsBasicFrame buf (gsm0710BasicExtractFrame buf) :=
  basicExtractLoop_well (Nat.zero_le _) (Nat.lt_succ_self _)

/-- The basic form always finds frames of its buffer. The advanced form does just when none of the
candidates that it looks at is nothing when unquoted, or passes the check with fewer than three
octets. Feeding comes to an end with both. -/
theorem gsm0710ExtractFrame_iff (buf : List UInt8) : (WellExtracted IsBasicFrame buf
    (gsm0710BasicExtractFrame buf) ∧ FeedEnds gsm0710BasicExtractFrame buf ∧
    WellExtracted IsAdvancedFrame buf (gsm0710AdvancedExtractFrame buf) ∧
    FeedEnds gsm0710AdvancedExtractFrame buf) ↔ FrontOk (buf.take 2) (candidates 0 none buf) := by
  have hadvanced : WellExtracted IsAdvancedFrame buf (gsm0710AdvancedExtractFrame buf) ↔
      FrontOk (buf.take 2) (candidates 0 none buf) :=
    advancedExtractLoop_iff rfl rfl (Nat.zero_le _) (Nat.lt_succ_self _)
  have hbasicEnds : FeedEnds gsm0710BasicExtractFrame buf := by
    refine feedEnds_of_length (fun data e he => ?_) buf
    obtain ⟨e', he', hposn, hlen, -⟩ := basic_well data
    obtain rfl := Outcome.ok.inj (he.symm.trans he')
    exact ⟨hlen, hposn⟩
  have hadvancedEnds : FeedEnds gsm0710AdvancedExtractFrame buf :=
    feedEnds_of_length (fun data e => advancedExtractLoop_inside (Nat.zero_le _)) buf
  constructor
  · rintro ⟨-, -, hwell, -⟩
    exact hadvanced.mp hwell
  · intro hfront
    exact ⟨basic_well buf, hbasicEnds, hadvanced.mpr hfront, hadvancedEnds⟩

/-- Two octets of garbage, and a frame that is an escape: the octet in front of the buffer is read. -/
theorem gsm0710AdvancedExtractFrame_escape :
    gsm0710AdvancedExtractFrame [0, 0, 0x7e, 0x7d, 0x7e] = .fault := rfl

end Phonelets.Gatchat
