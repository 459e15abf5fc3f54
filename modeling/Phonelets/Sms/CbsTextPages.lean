import Mathlib.Data.List.DropRight
import Phonelets.Sms.CbsText

/-! # The pages behind a text

What `cbs_decode_text` should return: the pages' texts after their language prefix and header,
each without its trailing run of CR. In the 7-bit alphabet it does not come to that where there
is such a run.
-/

namespace Phonelets.Sms

open List Option Outcome
open Outcome (orFault)
open Septets (unpack7bitOwnBuf septets value fillBits)

/-! ## The text of a page -/

/-- The septets of the page that are characters of its text: they are counted from the start
of the page, and a header takes those that it shares. -/
def pageSeptets (iso639 : Bool) (cbs : Cbs) : List UInt8 :=
  (((septets 93 (value 256 cbs.ud)).drop ((takenFromCbs cbs * 8 + 6) / 7)).map UInt8.ofNat).drop
    (if iso639 then 3 else 0)

/-- Pairs of octets; one that is left over is none. -/
def octetPairs : List UInt8 → List (UInt8 × UInt8)
  | hi :: lo :: l => (hi, lo) :: octetPairs l
  | _ => []

/-- The UCS2 characters of the page. -/
def pageUcs2 (iso639 : Bool) (cbs : Cbs) : List (UInt8 × UInt8) :=
  octetPairs (cbs.ud.drop (takenFromCbs cbs + if iso639 then 2 else 0))

def pairOctets (l : List (UInt8 × UInt8)) : List UInt8 := l.flatMap fun p => [p.1, p.2]

/-- The text of the page without the CR at its end. -/
def pageText (charset : SmsCharset) (iso639 : Bool) (cbs : Cbs) : List UInt8 :=
  if charset = .sevenBit then (pageSeptets iso639 cbs).rdropWhile (· = 0x0d)
  else pairOctets ((pageUcs2 iso639 cbs).rdropWhile (· = (0x00, 0x0d)))

/-- The coding that all pages share, if it is one of text. -/
def sharedCoding (pages : List Cbs) : Option (SmsCharset × Bool) :=
  let codings := pages.map fun c => (cbsDcsDecode c.dcs).map fun i => (i.charset, i.iso639)
  codings.head?.join.filter fun k => k.1 ≠ .eightBit ∧ ∀ k' ∈ codings, k' = some k

/-- The text of the pages, `NULL` if they do not share a coding of text. -/
def cbsText (g : GConvert) (pages : List Cbs) : Option (List UInt8) :=
  (sharedCoding pages).bind fun (charset, iso639) =>
    textToUtf8 g charset (pages.flatMap (pageText charset iso639))

/-! ## Septets of a page -/

lemma septets_drop (k n v : ℕ) : (septets n v).drop k = septets (n - k) (v / 128 ^ k) := by
  induction k generalizing n v with
  | zero => rw [drop_zero, Nat.sub_zero, Nat.pow_zero, Nat.div_one]
  | succ k ih =>
    cases n with
    | zero => rw [Nat.zero_sub]; rfl
    | succ n =>
      rw [Septets.septets_succ, drop_succ_cons, ih, Nat.succ_sub_succ, Nat.div_div_eq_div_mul,
        Nat.pow_succ']

variable {t : ℕ}

lemma value_drop (l : List UInt8) (ht : t ≤ l.length) :
    value 256 (l.drop t) = value 256 l / 256 ^ t := by
  have hlength : (l.take t).length = t := by
    rw [length_take]
    omega
  have hlt := Septets.value_lt (l.take t)
  rw [hlength] at hlt
  conv_rhs => rw [← take_append_drop t l, Septets.value_append, hlength]
  rw [Nat.add_mul_div_left _ _ (by positivity), Nat.div_eq_of_lt hlt, Nat.zero_add]

lemma fillBits_eq (t : ℕ) : 8 * t + fillBits t = 7 * ((t * 8 + 6) / 7) := by
  unfold fillBits
  omega

lemma unpack_page {ud : List UInt8} (hud : ud.length = 82) (ht : t ≤ 81) :
    unpack7bitOwnBuf (ud.drop t) t false (smsTextCapacityGsm 93 t).toNat =
      some (((septets 93 (value 256 ud)).drop ((t * 8 + 6) / 7)).map UInt8.ofNat) := by
  have hfill := fillBits_eq t
  have hcapacity : (smsTextCapacityGsm 93 t).toNat = 93 - (t * 8 + 6) / 7 := by
    unfold smsTextCapacityGsm
    omega
  rw [hcapacity, septets_drop]
  rcases Nat.eq_zero_or_pos (93 - (t * 8 + 6) / 7) with hzero | hpos
  · obtain ⟨b, l, hdrop⟩ := exists_cons_of_ne_nil (l := ud.drop t) (by
      rw [← length_pos_iff, length_drop]
      omega)
    rw [hzero, hdrop]
    rfl
  · rw [Septets.unpack7bitOwnBuf_value t _ (by omega) (by rw [length_drop]; omega),
      value_drop ud (by omega), Nat.div_div_eq_div_mul]
    have hpow : 256 ^ t * 2 ^ fillBits t = 128 ^ ((t * 8 + 6) / 7) := by
      rw [show 256 = 2 ^ 8 by rfl, show 128 = 2 ^ 7 by rfl, ← Nat.pow_mul, ← Nat.pow_mul, ← Nat.pow_add,
        hfill]
    rw [hpow]

/-! ## The loop over septets -/

variable {l : List UInt8}

lemma strspnCr_lt (h : strspnCr l = .ok t) : t < l.length := by
  induction l generalizing t with
  | nil => cases h
  | cons c l ih =>
    rw [strspnCr] at h
    split at h
    · obtain ⟨t', ht', heq⟩ := Outcome.bind_eq_ok.mp h
      cases heq
      exact Nat.succ_lt_succ (ih ht')
    · cases h
      exact Nat.succ_pos _

lemma strspnCr_cases (l : List UInt8) : strspnCr l = .fault ∨ ∃ t, strspnCr l = .ok t := by
  induction l with
  | nil => exact .inl rfl
  | cons c l ih =>
    rw [strspnCr]
    split
    · rcases ih with hl | ⟨t, hl⟩ <;> rw [hl]
      · exact .inl rfl
      · exact .inr ⟨t + 1, rfl⟩
    · exact .inr ⟨0, rfl⟩

lemma strspnCr_ok (hne : l ≠ []) (h : l.getLast? ≠ some 0x0d) : ∃ t, strspnCr l = .ok t := by
  induction l with
  | nil => exact absurd rfl hne
  | cons c l ih =>
    rw [strspnCr]
    split
    · rename_i hc
      have hl : l ≠ [] := by
        rintro rfl
        exact h (by rw [hc]; rfl)
      rw [getLast?_cons_of_ne_nil hl] at h
      obtain ⟨t, ht⟩ := ih hl h
      rw [ht]
      exact ⟨t + 1, rfl⟩
    · exact ⟨0, rfl⟩

variable {size : ℕ} {buf : List UInt8}

lemma putOctet_ok (h : buf.length < size) (octet : UInt8) :
    putOctet size buf octet = .ok (buf ++ [octet]) := if_pos h

lemma copySeptets_step (size : ℕ) {c : UInt8} {l : List UInt8}
    (ht : c = 0x0d → strspnCr (c :: l) = .ok t) (buf : List UInt8) :
    copySeptets size (c :: l) buf = (putOctet size buf c >>= fun buf => copySeptets size l buf) := by
  rw [copySeptets]
  split
  · rename_i hc
    have hrun := ht hc
    rw [hrun, ok_bind, if_neg (Nat.ne_of_lt (strspnCr_lt hrun))]
  · rfl

lemma copySeptets_ok (h : l.getLast? ≠ some 0x0d)
    (hfits : buf.length + l.length ≤ size) : copySeptets size l buf = .ok (buf ++ l) := by
  induction l generalizing buf with
  | nil => rw [copySeptets, append_nil]
  | cons c l ih =>
    rw [length_cons] at hfits
    have hput : putOctet size buf c = .ok (buf ++ [c]) := putOctet_ok (by omega) c
    obtain ⟨t, ht⟩ := strspnCr_ok (cons_ne_nil c l) h
    rw [copySeptets_step size (fun _ => ht), hput, ok_bind, ih]
    · rw [append_assoc]
      rfl
    · intro hlast
      cases l with
      | nil => cases hlast
      | cons d l => exact h hlast
    · rw [length_append, length_singleton]
      omega

/-- At the end of a text that ends in CR the search goes on behind what has been written. -/
lemma copySeptets_fault (h : l.getLast? = some 0x0d)
    (buf : List UInt8) : copySeptets size l buf = .fault := by
  induction l generalizing buf with
  | nil => cases h
  | cons c l ih =>
    cases l with
    | nil =>
      cases h
      rfl
    | cons d l =>
      have hrest : ∀ buf, copySeptets size (d :: l) buf = .fault := ih h
      have hput : (putOctet size buf c >>= fun buf => copySeptets size (d :: l) buf) = .fault := by
        unfold putOctet
        split
        · exact hrest _
        · rfl
      rcases strspnCr_cases (c :: d :: l) with hrun | ⟨t, hrun⟩
      · rw [copySeptets, hrun]
        split
        · rfl
        · exact hput
      · rw [copySeptets_step size (fun _ => hrun), hput]

/-! ## The loop over UCS2 characters -/

lemma rdropWhile_cons {α : Type} (p : α → Bool) (a : α) (l : List α) :
    (a :: l).rdropWhile p = if p a ∧ l.all p then [] else a :: l.rdropWhile p := by
  by_cases hl : l.all p = true
  · have hnil : l.rdropWhile p = [] := rdropWhile_eq_nil_iff.mpr (all_eq_true.mp hl)
    have hdrop : l.reverse.dropWhile p = [] := reverse_eq_nil_iff.mp hnil
    rw [hnil, List.rdropWhile, reverse_cons, dropWhile_append, hdrop]
    by_cases ha : p a = true <;> simp [ha, hl]
  · have hdrop : (l.reverse.dropWhile p).isEmpty = false := by
      rw [isEmpty_eq_false_iff]
      intro hnil
      apply hl
      have hall := dropWhile_eq_nil_iff.mp hnil
      exact all_eq_true.mpr fun b hb => hall b (mem_reverse.mpr hb)
    rw [if_neg (fun hall => hl hall.2), List.rdropWhile, reverse_cons, dropWhile_append,
      hdrop]
    simp [List.rdropWhile]

lemma onlyCr_pairs (l : List (UInt8 × UInt8)) :
    onlyCr (pairOctets l) = l.all (· = (0x00, 0x0d)) := by
  induction l with
  | nil => rfl
  | cons p l ih =>
    have hcons : pairOctets (p :: l) = p.1 :: p.2 :: pairOctets l := rfl
    rw [hcons, onlyCr, ih, all_cons]
    congr 1
    rw [Bool.eq_iff_iff]
    simp [Prod.ext_iff, and_comm]

lemma copyUcs2_pairs (l : List (UInt8 × UInt8)) {buf : List UInt8}
    (hfits : buf.length + 2 * l.length ≤ size) : copyUcs2 size (pairOctets l) buf =
    .ok (buf ++ pairOctets (l.rdropWhile (· = (0x00, 0x0d)))) := by
  induction l generalizing buf with
  | nil => rw [rdropWhile_nil]; exact congrArg _ (append_nil buf).symm
  | cons p l ih =>
    have hcons : ∀ l, pairOctets (p :: l) = p.1 :: p.2 :: pairOctets l := fun _ => rfl
    have hpair : (p.1 = 0x00 ∧ p.2 = 0x0d ∧ onlyCr (pairOctets l) = true) ↔
        (decide (p = (0x00, 0x0d)) = true ∧ l.all (· = (0x00, 0x0d)) = true) := by
      rw [onlyCr_pairs, decide_eq_true_iff, Prod.ext_iff, and_assoc]
    rw [length_cons] at hfits
    rw [hcons, copyUcs2, rdropWhile_cons, if_congr hpair rfl rfl]
    split
    · exact congrArg _ (append_nil buf).symm
    · rw [putOctet_ok (by omega), ok_bind, putOctet_ok (by
        rw [length_append, length_singleton]
        omega), ok_bind, ih (by
        rw [length_append, length_append, length_singleton, length_singleton]
        omega), hcons]
      simp

lemma pairOctets_octetPairs (l : List UInt8) :
    pairOctets (octetPairs l) = l.take (2 * (l.length / 2)) := by
  fun_induction octetPairs l with
  | case1 hi lo l ih =>
    have hlength : 2 * ((hi :: lo :: l).length / 2) = 2 * (l.length / 2) + 2 := by
      rw [length_cons, length_cons]
      omega
    have hcons : pairOctets ((hi, lo) :: octetPairs l) = hi :: lo :: pairOctets (octetPairs l) := rfl
    rw [hcons, ih, hlength, take_succ_cons, take_succ_cons]
  | case2 l hshort =>
    rcases l with _ | ⟨b, _ | ⟨c, l⟩⟩
    · rfl
    · simp [pairOctets]
    · exact absurd rfl (hshort b c l)

/-! ## A page -/

/-- The 7-bit page has a text, and it does not end in CR. -/
def Unpadded (charset : SmsCharset) (iso639 : Bool) (cbs : Cbs) : Prop :=
  charset = .sevenBit →
    takenFromCbs cbs ≠ 82 ∧ (pageSeptets iso639 cbs).getLast? ≠ some 0x0d

lemma takenFromCbs_le (cbs : Cbs) : takenFromCbs cbs ≤ 82 := by
  unfold takenFromCbs smsUdhIterInitFromCbs
  dsimp only
  split
  · rename_i iter hiter
    split_ifs at hiter with h₁ h₂ h₃ h₄
    cases hiter
    unfold UdhIter.getUdhLength
    dsimp only
    omega
  · omega

lemma length_pageSeptets (iso639 : Bool) (cbs : Cbs) :
    (pageSeptets iso639 cbs).length ≤ 93 - if iso639 then 3 else 0 := by
  unfold pageSeptets
  rw [length_drop, length_map, length_drop, Septets.length_septets]
  omega

lemma length_pairOctets (l : List (UInt8 × UInt8)) : (pairOctets l).length = 2 * l.length := by
  unfold pairOctets
  rw [length_flatMap]
  simp [Nat.mul_comm]

lemma length_pageUcs2 {cbs : Cbs} (hud : cbs.ud.length = 82) (iso639 : Bool) :
    2 * (pageUcs2 iso639 cbs).length ≤ 82 - if iso639 then 2 else 0 := by
  unfold pageUcs2
  rw [← length_pairOctets, pairOctets_octetPairs, length_take, length_drop, hud]
  omega

lemma length_pageText {cbs : Cbs} (hud : cbs.ud.length = 82) (charset : SmsCharset)
    (iso639 : Bool) : (pageText charset iso639 cbs).length ≤ pageCapacity charset iso639 := by
  unfold pageText pageCapacity
  split
  · exact (List.rdropWhile_prefix _ _).length_le.trans (length_pageSeptets iso639 cbs)
  · rw [length_pairOctets]
    have hle := (List.rdropWhile_prefix (· = (0x00, 0x0d)) (pageUcs2 iso639 cbs)).length_le
    have hpage := length_pageUcs2 hud iso639
    omega

lemma copyPage_spec {charset : SmsCharset} {iso639 : Bool} {cbs : Cbs} (hud : cbs.ud.length = 82)
    (hfits : buf.length + pageCapacity charset iso639 ≤ size) : (Unpadded charset iso639 cbs →
    copyPage charset iso639 size buf cbs = .ok (buf ++ pageText charset iso639 cbs)) ∧
    (¬ Unpadded charset iso639 cbs → copyPage charset iso639 size buf cbs = .fault) := by
  have htaken := takenFromCbs_le cbs
  unfold Unpadded copyPage pageText
  by_cases hcharset : charset = .sevenBit
  · subst hcharset
    simp only [forall_const, if_true]
    by_cases h82 : takenFromCbs cbs = 82
    · have hempty : cbs.ud.drop (takenFromCbs cbs) = [] := drop_of_length_le (by omega)
      constructor
      · intro h
        exact absurd h82 h.1
      · intro _
        rw [hempty]
        rfl
    · rw [unpack_page hud (by omega), orFault_some, ok_bind]
      change (_ → copySeptets size (pageSeptets iso639 cbs) buf = _) ∧
        (_ → copySeptets size (pageSeptets iso639 cbs) buf = _)
      constructor
      · rintro ⟨-, hlast⟩
        have hself : (pageSeptets iso639 cbs).rdropWhile (· = 0x0d) = pageSeptets iso639 cbs := by
          rw [rdropWhile_eq_self_iff]
          intro hne hcr
          apply hlast
          rw [getLast?_eq_getLast_of_ne_nil hne]
          exact congrArg some (of_decide_eq_true hcr)
        rw [hself]
        apply copySeptets_ok hlast
        have hlength := length_pageSeptets iso639 cbs
        unfold pageCapacity at hfits
        rw [if_pos rfl] at hfits
        omega
      · intro h
        apply copySeptets_fault
        by_contra hlast
        exact h ⟨h82, hlast⟩
  · simp only [hcharset, false_implies, not_true_eq_false, if_false, true_implies, and_true]
    generalize hlead : (if iso639 then 2 else 0) = d
    have hstart : (if iso639 then takenFromCbs cbs + 2 else takenFromCbs cbs) =
        takenFromCbs cbs + d := by
      rw [← hlead]
      split <;> rfl
    have hd : d = 0 ∨ d = 2 := by
      rw [← hlead]
      split
      · exact .inr rfl
      · exact .inl rfl
    -- the offsets bound just the whole characters of the page
    have hpage : (cbs.ud.take (takenFromCbs cbs + (82 - takenFromCbs cbs) >>> 1 * 2)).drop
        (takenFromCbs cbs + d) = pairOctets (pageUcs2 iso639 cbs) := by
      unfold pageUcs2
      rw [hlead, pairOctets_octetPairs, drop_take, length_drop, hud, Nat.shiftRight_eq_div_pow]
      congr 1
      omega
    have hlength := length_pageUcs2 hud iso639
    unfold pageCapacity at hfits
    rw [if_neg hcharset] at hfits
    rw [hstart, hpage]
    exact copyUcs2_pairs _ (by omega)

/-! ## All pages -/

section Pages

variable {charset : SmsCharset} {iso639 : Bool}

lemma copyPages_spec {size : ℕ} {pages : List Cbs} (hud : ∀ c ∈ pages, c.ud.length = 82)
    {buf : List UInt8} (hfits : buf.length + pages.length * pageCapacity charset iso639 ≤ size) :
    ((∀ c ∈ pages, Unpadded charset iso639 c) → pages.foldlM (copyPage charset iso639 size) buf =
    .ok (buf ++ pages.flatMap (pageText charset iso639))) ∧ ((¬ ∀ c ∈ pages,
    Unpadded charset iso639 c) → pages.foldlM (copyPage charset iso639 size) buf = .fault) := by
  induction pages generalizing buf with
  | nil =>
    refine ⟨fun _ => ?_, fun h => absurd (fun c hc => absurd hc not_mem_nil) h⟩
    rw [foldlM_nil, flatMap_nil, append_nil]
    rfl
  | cons c pages ih =>
    rw [forall_mem_cons] at hud
    rw [length_cons, Nat.succ_mul] at hfits
    have hpage : buf.length + pageCapacity charset iso639 ≤ size := by omega
    obtain ⟨hok, hfault⟩ := copyPage_spec hud.1 hpage
    have htext := length_pageText hud.1 charset iso639
    have hrest : (buf ++ pageText charset iso639 c).length +
        pages.length * pageCapacity charset iso639 ≤ size := by
      rw [length_append]
      omega
    obtain ⟨hall, hnot⟩ := ih hud.2 hrest
    rw [forall_mem_cons, foldlM_cons]
    constructor
    · rintro ⟨hc, hpages⟩
      rw [hok hc, ok_bind, hall hpages, flatMap_cons, append_assoc]
    · intro h
      by_cases hc : Unpadded charset iso639 c
      · rw [hok hc, ok_bind]
        exact hnot fun hpages => h ⟨hc, hpages⟩
      · rw [hfault hc]
        rfl

/-- The first loop lets pages through that share the coding, and adds up what they need. -/
lemma codingLoop_spec (hcharset : charset ≠ .eightBit) (pages : List Cbs) (bufsize : ℕ)
    (lang : CbsLanguage) : ((∀ c ∈ pages, (cbsDcsDecode c.dcs).map
    (fun i => (i.charset, i.iso639)) = some (charset, iso639)) → ∃ lang', codingLoop charset iso639
    pages bufsize lang = some (bufsize + pages.length * pageCapacity charset iso639, lang')) ∧
    ((¬ ∀ c ∈ pages, (cbsDcsDecode c.dcs).map (fun i => (i.charset, i.iso639)) =
    some (charset, iso639)) → codingLoop charset iso639 pages bufsize lang = none) := by
  induction pages generalizing bufsize lang with
  | nil =>
    refine ⟨fun _ => ⟨lang, ?_⟩, fun h => absurd (fun c hc => absurd hc not_mem_nil) h⟩
    rw [codingLoop, length_nil, Nat.zero_mul, Nat.add_zero]
  | cons c pages ih =>
    rw [forall_mem_cons, codingLoop]
    cases hdecode : cbsDcsDecode c.dcs with
    | none => simp
    | some info =>
      obtain ⟨hall, hnot⟩ := ih (bufsize + pageCapacity charset iso639) info.language
      rw [map_some, bind_some, Option.some.injEq, Prod.mk.injEq]
      by_cases hch : info.charset = charset
      · by_cases hiso : info.iso639 = iso639
        · rw [if_neg (not_not_intro hch), if_neg (not_not_intro hiso), if_neg (hch ▸ hcharset)]
          constructor
          · rintro ⟨-, hpages⟩
            obtain ⟨lang', hrun⟩ := hall hpages
            refine ⟨lang', hrun.trans ?_⟩
            rw [length_cons, Nat.succ_mul]
            congr 2
            omega
          · intro h
            exact hnot fun hpages => h ⟨⟨hch, hiso⟩, hpages⟩
        · rw [if_neg (not_not_intro hch), if_pos hiso]
          exact ⟨fun h => absurd h.1.2 hiso, fun _ => rfl⟩
      · rw [if_pos hch]
        exact ⟨fun h => absurd h.1.1 hch, fun _ => rfl⟩

lemma codingLoop_eightBit {pages : List Cbs} (hne : pages ≠ []) (bufsize : ℕ)
    (lang : CbsLanguage) : codingLoop .eightBit iso639 pages bufsize lang = none := by
  obtain ⟨c, l, rfl⟩ := exists_cons_of_ne_nil hne
  rw [codingLoop]
  cases cbsDcsDecode c.dcs with
  | none => rfl
  | some info =>
    rw [bind_some]
    split_ifs <;> simp_all

end Pages

lemma sharedCoding_cons {first : Cbs} {info : CbsDcsInfo} (hfirst : cbsDcsDecode first.dcs =
    some info) (rest : List Cbs) : sharedCoding (first :: rest) = if info.charset ≠ .eightBit ∧
    ∀ c ∈ first :: rest, (cbsDcsDecode c.dcs).map (fun i => (i.charset, i.iso639)) =
    some (info.charset, info.iso639) then some (info.charset, info.iso639) else none := by
  unfold sharedCoding
  simp only [map_cons, head?_cons, hfirst, Option.map_some, Option.join_some,
    forall_mem_cons, List.forall_mem_map, true_and]
  rw [Option.filter_some]
  simp only [decide_eq_true_iff, true_and]

lemma cbsDecodeText_spec (g : GConvert) {pages : List Cbs} (hud : ∀ c ∈ pages, c.ud.length = 82) :
    ((∀ charset iso639, sharedCoding pages = some (charset, iso639) → ∀ c ∈ pages,
    Unpadded charset iso639 c) → ∃ lang, cbsDecodeText g pages = .ok (cbsText g pages, lang)) ∧
    ((¬ ∀ charset iso639, sharedCoding pages = some (charset, iso639) →
    ∀ c ∈ pages, Unpadded charset iso639 c) → cbsDecodeText g pages = .fault) := by
  have hrejected : sharedCoding pages = none → cbsDecodeText g pages = .ok (none, none) →
      ((∀ charset iso639, sharedCoding pages = some (charset, iso639) →
          ∀ c ∈ pages, Unpadded charset iso639 c) →
        ∃ lang, cbsDecodeText g pages = .ok (cbsText g pages, lang)) ∧
      ((¬ ∀ charset iso639, sharedCoding pages = some (charset, iso639) →
          ∀ c ∈ pages, Unpadded charset iso639 c) →
        cbsDecodeText g pages = .fault) := by
    intro hcoding hrun
    have htext : cbsText g pages = none := by
      rw [cbsText, hcoding]
      rfl
    refine ⟨fun _ => ⟨none, by rw [hrun, htext]⟩, fun h => absurd ?_ h⟩
    intro charset iso639 hsome
    rw [hcoding] at hsome
    cases hsome
  cases pages with
  | nil => exact hrejected rfl rfl
  | cons first rest =>
    cases hfirst : cbsDcsDecode first.dcs with
    | none =>
      apply hrejected
      · simp [sharedCoding, hfirst]
      · rw [cbsDecodeText, hfirst]
    | some info =>
      have hcoding := sharedCoding_cons hfirst rest
      by_cases hcharset : info.charset = .eightBit
      · rw [if_neg fun h => h.1 hcharset] at hcoding
        apply hrejected hcoding
        rw [cbsDecodeText, hfirst]
        dsimp only
        rw [hcharset, codingLoop_eightBit (cons_ne_nil _ _)]
      · obtain ⟨hall, hnot⟩ := @codingLoop_spec _ info.iso639 hcharset (first :: rest) 0
          info.language
        by_cases hshared : ∀ c ∈ first :: rest,
            (cbsDcsDecode c.dcs).map (fun i => (i.charset, i.iso639)) =
              some (info.charset, info.iso639)
        · rw [if_pos ⟨hcharset, hshared⟩] at hcoding
          obtain ⟨lang, hloop⟩ := hall hshared
          have hfits : ([] : List UInt8).length + (first :: rest).length *
              pageCapacity info.charset info.iso639 ≤
                0 + (first :: rest).length * pageCapacity info.charset info.iso639 := by
            rw [length_nil]
          obtain ⟨hcopied, hfault⟩ := copyPages_spec hud hfits
          have hcondition : (∀ charset iso639, sharedCoding (first :: rest) = some (charset, iso639)
              → ∀ c ∈ first :: rest, Unpadded charset iso639 c) ↔
              ∀ c ∈ first :: rest, Unpadded info.charset info.iso639 c := by
            rw [hcoding]
            constructor
            · intro h
              exact h _ _ rfl
            · intro h charset iso639 heq
              cases heq
              exact h
          rw [hcondition, cbsDecodeText, hfirst]
          dsimp only
          rw [hloop]
          dsimp only
          constructor
          · intro h
            rw [hcopied h, cbsText, hcoding]
            exact ⟨_, rfl⟩
          · intro h
            rw [hfault h]
            rfl
        · rw [if_neg fun h => hshared h.2] at hcoding
          apply hrejected hcoding
          rw [cbsDecodeText, hfirst]
          dsimp only
          rw [hnot hshared]

def CbsPage.cbs (page : CbsPage) : Cbs := page.1

lemma CbsPage.length_ud (page : CbsPage) : page.cbs.ud.length = 82 := by
  obtain ⟨c, pdu, hdecode⟩ := page
  unfold cbsDecode at hdecode
  split at hdecode
  · cases hdecode
  · rename_i hlength
    cases hdecode
    unfold CbsPage.cbs
    dsimp only
    rw [length_take, length_drop]
    omega

/-- The pages' texts come back exactly if no page in the 7-bit alphabet has a header of all its
octets or a text that ends in CR. -/
theorem cbsDecodeText_iff (g : GConvert) (pages : List CbsPage) : (∃ lang,
    cbsDecodeText g (pages.map CbsPage.cbs) = .ok (cbsText g (pages.map CbsPage.cbs), lang)) ↔
    ∀ charset iso639, sharedCoding (pages.map CbsPage.cbs) = some (charset, iso639) →
    ∀ c ∈ pages, Unpadded charset iso639 c.cbs := by
  have hud : ∀ c ∈ pages.map CbsPage.cbs, c.ud.length = 82 := by
    rw [List.forall_mem_map]
    exact fun c _ => c.length_ud
  obtain ⟨hok, hfault⟩ := cbsDecodeText_spec g hud
  simp only [List.forall_mem_map] at hok hfault
  constructor
  · rintro ⟨lang, hrun⟩
    by_contra h
    rw [hfault h] at hrun
    cases hrun
  · exact hok

/-- A page of which the last character is a CR. -/
def paddedPage : Cbs where
  gs := .cellImmediate
  messageCode := 0
  updateNumber := 0
  messageIdentifier := 0
  dcs := 0x01
  maxPages := 1
  page := 1
  ud := List.replicate 80 0 ++ [0xd0, 0x00]

lemma septets_getLast? (n v : ℕ) : (septets (n + 1) v).getLast? = some (v / 128 ^ n % 128) := by
  rw [getLast?_eq_getElem?, Septets.length_septets, Nat.add_sub_cancel, ← head?_drop,
    septets_drop, Nat.add_sub_cancel_left]
  rfl

lemma paddedPage_last : (pageSeptets false paddedPage).getLast? = some 0x0d := by
  have hvalue : value 256 paddedPage.ud = 256 ^ 80 * 0xd0 := by
    simp [paddedPage, value, Nat.ofDigits_cons]
  have htaken : takenFromCbs paddedPage = 0 := rfl
  unfold pageSeptets
  rw [htaken, hvalue]
  simp only [Bool.false_eq_true, if_false, drop_zero, Nat.zero_mul, Nat.zero_add,
    getLast?_map, Nat.reduceDiv, septets_getLast?]
  norm_num
  rfl

theorem cbsDecodeText_padded : ¬ ∀ (g : GConvert) (pages : List CbsPage), ∃ lang,
    cbsDecodeText g (pages.map CbsPage.cbs) = .ok (cbsText g (pages.map CbsPage.cbs), lang) := by
  intro h
  obtain ⟨lang, hrun⟩ := h ⟨fun _ => none, fun _ => none⟩
    [⟨paddedPage, [0, 0, 0, 0, 0x01, 0x11] ++ paddedPage.ud, rfl⟩]
  have hpages : ∀ c ∈ [paddedPage], c.ud.length = 82 := by simp [paddedPage]
  have hunread := (cbsDecodeText_spec ⟨fun _ => none, fun _ => none⟩ hpages).2 (by
    intro hunpadded
    exact (hunpadded .sevenBit false rfl paddedPage mem_cons_self rfl).2 paddedPage_last)
  cases hunread.symm.trans hrun

end Phonelets.Sms
