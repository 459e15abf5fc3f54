import Mathlib
import Phonelets.Lib.Markup

/-! # Texts with attributes as HTML

`stk_text_to_html` gives each character of a text a format, the last attribute that covers it,
and closes and opens elements where the format changes. The formats are an array with one place
more than the text has characters, which no attribute reaches.
-/

namespace Phonelets.Stk

open List
open Markup (Token Reads Nested Special nest plain tokens)

/-! ## The code -/

def htmlColors : List (List Char) :=
  ["#000000".toList, "#808080".toList, "#C11B17".toList, "#FBB117".toList, "#347235".toList,
    "#307D7E".toList, "#0000A0".toList, "#C031C7".toList, "#C0C0C0".toList, "#FFFFFF".toList,
    "#FF0000".toList, "#FFFF00".toList, "#00FF00".toList, "#00FFFF".toList, "#0000FF".toList,
    "#FF00FF".toList]

/-- An entry of `html_colors`, for a number of four bits. -/
def htmlColor (i : UInt8) : List Char := htmlColors[i.toNat]?.getD []

namespace StkTextFormat

def alignMask : UInt8 := 0x03

def fontMask : UInt8 := 0x0c

def styleMask : UInt8 := 0xf0

/-- `STK_TEXT_FORMAT_INIT`, the format of a character without an attribute. -/
def init : UInt16 := 0x9003

def leftAlign : UInt8 := 0x00

def centerAlign : UInt8 := 0x01

def rightAlign : UInt8 := 0x02

def noAlign : UInt8 := 0x03

def fontSizeLarge : UInt8 := 0x04

def fontSizeSmall : UInt8 := 0x08

def styleBold : UInt8 := 0x10

def styleItalic : UInt8 := 0x20

def styleUnderlined : UInt8 := 0x40

def styleStrikethrough : UInt8 := 0x80

end StkTextFormat

open StkTextFormat

def endFormat (attr : UInt16) : List Char :=
  let code := attr.toUInt8
  let color := (attr >>> 8).toUInt8
  (if code &&& ~~~alignMask ≠ 0 ∨ color ≠ 0 then "</span>".toList else []) ++
    (if code &&& alignMask ≠ noAlign then "</div>".toList else [])

/-- The style attribute of a `div`, from the value on. -/
def alignStyle (align : UInt8) : List Char :=
  if align = rightAlign then "text-align: right;\">".toList
  else if align = centerAlign then "text-align: center;\">".toList
  else if align = leftAlign then "text-align: left;\">".toList
  else []

/-- The style attribute of a `span`, between the quotation marks. -/
def spanStyle (font style color : UInt8) : List Char :=
  (if font = fontSizeLarge then "font-size: big;".toList
    else if font = fontSizeSmall then "font-size: small;".toList else []) ++
  ((if style &&& styleBold ≠ 0 then "font-weight: bold;".toList else []) ++
  ((if style &&& styleItalic ≠ 0 then "font-style: italic;".toList else []) ++
  ((if style &&& styleUnderlined ≠ 0 then "text-decoration: underline;".toList else []) ++
  ((if style &&& styleStrikethrough ≠ 0 then "text-decoration: line-through;".toList else []) ++
  ("color: ".toList ++ (htmlColor (color &&& 0x0f) ++ (";background-color: ".toList ++
    (htmlColor ((color >>> 4) &&& 0x0f) ++ ";".toList))))))))

def startFormat (attr : UInt16) : List Char :=
  let code := attr.toUInt8
  let color := (attr >>> 8).toUInt8
  let align := code &&& alignMask
  let font := code &&& fontMask
  let style := code &&& styleMask
  (if align ≠ noAlign then "<div style=\"".toList else []) ++ (alignStyle align ++
    (if font = 0 ∧ style = 0 ∧ color = 0 then []
    else "<span style=\"".toList ++ (spanStyle font style color ++ "\">".toList)))

/-- One attribute: the characters it covers get its format. `start` and `end` have 16 bits. -/
def applyAttribute (textLen : ℕ) (formats : List UInt16) (start len codeWord colorWord : UInt16) :
    List UInt16 :=
  let code := codeWord.toUInt8
  let color := colorWord.toUInt8
  let stop := if len = 0 then UInt16.ofNat textLen else start + len
  if start > stop ∨ stop.toNat > textLen then formats
  else
    let align := if start = 0 then noAlign
      else (formats[start.toNat - 1]?.getD init).toUInt8 &&& alignMask
    -- an alignment that is the one before is not set again
    let code := if code &&& alignMask = align then code ||| noAlign else code
    let attr := code.toUInt16 ||| color.toUInt16 <<< 8
    (List.range' start.toNat (stop.toNat - start.toNat)).foldl (fun f j => f.set j attr) formats

/-- All attributes, each of four words. -/
def applyAttributes (textLen : ℕ) : List UInt16 → List UInt16 → List UInt16
  | start :: len :: code :: color :: rest, formats =>
    applyAttributes textLen rest (applyAttribute textLen formats start len code color)
  | _, formats => formats

/-- `attrs_len`, an `int`. -/
def attrsLen (numAttrs : ℕ) : ℤ := ((numAttrs : ℤ) * 4).bmod (2 ^ 32)

/-- What is printed where the format changes from `prev` to `attr`. -/
def changeFormat (prev attr : UInt16) : List Char :=
  if attr ≠ prev then
    (if prev ≠ init then endFormat prev else []) ++ (if attr ≠ init then startFormat attr else [])
  else []

/-- What is printed for a character. -/
def charHtml (c : Char) : List Char :=
  if c = '\n' then "<br/>".toList
  else if c = '\r' then "<br/>".toList
  else if c = '<' then "&lt;".toList
  else if c = '>' then "&gt;".toList
  else if c = '&' then "&amp;".toList
  else [c]

/-- The loop over the characters, from position `pos` on. -/
def htmlLoop (formats : List UInt16) (pos : ℕ) (prev : UInt16) : List Char → List Char
  | [] => changeFormat prev (formats[pos]?.getD init)
  -- the line feed is passed over, with its format
  | '\r' :: '\n' :: text =>
    let attr := formats[pos]?.getD init
    changeFormat prev attr ++ (charHtml '\r' ++ htmlLoop formats (pos + 2) attr text)
  | c :: text =>
    let attr := formats[pos]?.getD init
    changeFormat prev attr ++ (charHtml c ++ htmlLoop formats (pos + 1) attr text)

/-- `stk_text_to_html` of the characters of a text, with `attrs` of `num_attrs` attributes. -/
def stkTextToHtml (text : List Char) (attrs : List UInt16) : List Char :=
  let formats := List.replicate (text.length + 1) init
  let used := attrs.take (attrsLen (attrs.length / 4)).toNat
  htmlLoop (applyAttributes text.length used formats) 0 init text

/-! ## The formats -/

variable {textLen : ℕ} {formats : List UInt16}

/-- Formats for the characters, and none at the end of the text. -/
structure Formats (textLen : ℕ) (formats : List UInt16) : Prop where
  length_eq : formats.length = textLen + 1
  last : formats[textLen]? = some init

lemma formats_replicate (textLen : ℕ) : Formats textLen (List.replicate (textLen + 1) init) where
  length_eq := length_replicate
  last := by rw [getElem?_replicate, if_pos (Nat.lt_succ_self textLen)]

lemma Formats.set {j : ℕ} (h : Formats textLen formats) (hj : j < textLen) (attr : UInt16) :
    Formats textLen (formats.set j attr) where
  length_eq := by rw [length_set, h.length_eq]
  last := by rw [getElem?_set_ne hj.ne, h.last]

lemma Formats.foldl {js : List ℕ} (h : Formats textLen formats) (hjs : ∀ j ∈ js, j < textLen)
    (attr : UInt16) : Formats textLen (js.foldl (fun f j => f.set j attr) formats) := by
  induction js generalizing formats with
  | nil => exact h
  | cons j js ih =>
    exact ih (h.set (hjs j mem_cons_self) attr) fun i hi => hjs i (mem_cons_of_mem j hi)

lemma Formats.applyAttribute (h : Formats textLen formats) (start len code color : UInt16) :
    Formats textLen (applyAttribute textLen formats start len code color) := by
  unfold Stk.applyAttribute
  dsimp only
  generalize (if len = 0 then UInt16.ofNat textLen else start + len) = stop
  split_ifs with hskip
  · exact h
  all_goals
    refine h.foldl (fun j hj => ?_) _
    rw [mem_range'_1] at hj
    omega

lemma Formats.applyAttributes {attrs : List UInt16} (h : Formats textLen formats) :
    Formats textLen (applyAttributes textLen attrs formats) := by
  induction attrs, formats using applyAttributes.induct textLen with
  | case1 start len code color rest formats ih =>
    rw [Stk.applyAttributes]
    exact ih (h.applyAttribute start len code color)
  | case2 attrs formats hshort =>
    rwa [Stk.applyAttributes.eq_2 _ _ _ hshort]

/-! ## Elements -/

/-- There is more than an alignment. -/
def hasSpan (attr : UInt16) : Prop := attr.toUInt8 &&& ~~~alignMask ≠ 0 ∨ (attr >>> 8).toUInt8 ≠ 0

instance : DecidablePred hasSpan := fun attr =>
  inferInstanceAs (Decidable (attr.toUInt8 &&& ~~~alignMask ≠ 0 ∨ (attr >>> 8).toUInt8 ≠ 0))

/-- There is an alignment. -/
def hasDiv (attr : UInt16) : Prop := attr.toUInt8 &&& alignMask ≠ noAlign

instance : DecidablePred hasDiv := fun attr =>
  inferInstanceAs (Decidable (attr.toUInt8 &&& alignMask ≠ noAlign))

/-- The elements that stand open within a format, the inner one first. -/
def openElements (attr : UInt16) : List (List Char) :=
  if attr = init then []
  else (if hasSpan attr then ["span".toList] else []) ++ (if hasDiv attr then ["div".toList] else [])

/-- What opens and what closes them. -/
def startTokens (attr : UInt16) : List Token :=
  (if hasDiv attr then [.opening "div".toList] else []) ++
    (if hasSpan attr then [.opening "span".toList] else [])

def endTokens (attr : UInt16) : List Token :=
  (if hasSpan attr then [.closing "span".toList] else []) ++
    (if hasDiv attr then [.closing "div".toList] else [])

/-- `start_format` and `end_format` look at the same bits. -/
lemma hasSpan_iff (attr : UInt16) : hasSpan attr ↔ ¬ (attr.toUInt8 &&& fontMask = 0 ∧
    attr.toUInt8 &&& styleMask = 0 ∧ (attr >>> 8).toUInt8 = 0) := by
  have hmask : ~~~alignMask = fontMask ||| styleMask := by decide
  have hor : ∀ code : UInt8, code &&& (fontMask ||| styleMask) =
      code &&& fontMask ||| code &&& styleMask := by
    intro code
    rw [← UInt8.toNat_inj, UInt8.toNat_and, UInt8.toNat_or, UInt8.toNat_or, UInt8.toNat_and,
      UInt8.toNat_and, Nat.and_or_distrib_left]
  unfold hasSpan
  simp only [hmask, hor, ne_eq, UInt8.or_eq_zero_iff, not_and_or, or_assoc]

lemma align_cases (code : UInt8) : code &&& alignMask = leftAlign ∨ code &&& alignMask =
    centerAlign ∨ code &&& alignMask = rightAlign ∨ code &&& alignMask = noAlign := by
  have hle : (code &&& alignMask).toNat ≤ 3 := by
    rw [UInt8.toNat_and]
    exact Nat.and_le_right
  simp only [← UInt8.toNat_inj]
  have hvalues : leftAlign.toNat = 0 ∧ centerAlign.toNat = 1 ∧ rightAlign.toNat = 2 ∧
      noAlign.toNat = 3 := by decide
  omega

/-- A tag without the characters that end it. -/
def Plain (s : List Char) : Prop := ∀ c ∈ s, c ≠ '<' ∧ c ≠ '>'

variable {s : List Char}

lemma Plain.append {t : List Char} (hs : Plain s) (ht : Plain t) : Plain (s ++ t) := by
  intro c hc
  rcases mem_append.mp hc with hc | hc
  · exact hs c hc
  · exact ht c hc

lemma Plain.ite {p : Prop} [Decidable p] {t : List Char} (hs : Plain s) (ht : Plain t) :
    Plain (if p then s else t) := by
  split_ifs
  · exact hs
  · exact ht

lemma plain_of_all (h : (s.all fun c => c != '<' && c != '>') = true) : Plain s := by
  intro c hc
  have hboth := all_eq_true.mp h c hc
  rw [Bool.and_eq_true, bne_iff_ne, bne_iff_ne] at hboth
  exact hboth

lemma plain_nil : Plain [] := fun _ hc => absurd hc not_mem_nil

lemma htmlColors_plain : ∀ s ∈ htmlColors, Plain s := by
  intro s hs
  apply plain_of_all
  revert s
  simp only [htmlColors, String.reduceToList]
  decide

lemma htmlColor_plain (i : UInt8) : Plain (htmlColor i) := by
  unfold htmlColor
  cases h : htmlColors[i.toNat]? with
  | none => exact plain_nil
  | some s => exact htmlColors_plain s (mem_of_getElem? h)

lemma spanStyle_plain (font style color : UInt8) : Plain (spanStyle font style color) := by
  unfold spanStyle
  refine .append (.ite ?_ (.ite ?_ plain_nil)) (.append (.ite ?_ plain_nil)
    (.append (.ite ?_ plain_nil) (.append (.ite ?_ plain_nil) (.append (.ite ?_ plain_nil)
      (.append ?_ (.append (htmlColor_plain _) (.append ?_ (.append (htmlColor_plain _) ?_))))))))
  all_goals
    apply plain_of_all
    simp only [String.reduceToList]
    decide

lemma spanTag_reads {style : List Char} (h : Plain style) :
    Reads ("<span style=\"".toList ++ (style ++ "\">".toList)) [.opening "span".toList] := by
  have hbody : Plain ("span style=\"".toList ++ (style ++ [Char.ofNat 34])) := by
    refine .append ?_ (.append h ?_)
    · simp [Plain]
    · simp [Plain]
  have htoken : Markup.tagToken ("span style=\"".toList ++ (style ++ [Char.ofNat 34])) =
      .opening "span".toList := by
    unfold Markup.tagToken
    rw [← append_assoc, getLast?_concat]
    rfl
  have hreads := Markup.reads_tag _ hbody
  rw [htoken] at hreads
  simpa using hreads

lemma alignTag_reads {align : UInt8} (h : align = leftAlign ∨ align = centerAlign ∨
    align = rightAlign ∨ align = noAlign) :
    Reads ((if align ≠ noAlign then "<div style=\"".toList else []) ++ alignStyle align)
      (if align ≠ noAlign then [.opening "div".toList] else []) := by
  rcases h with rfl | rfl | rfl | rfl
  · exact Markup.reads_tag "div style=\"text-align: left;\"".toList
      (plain_of_all (by simp only [String.reduceToList]; decide))
  · exact Markup.reads_tag "div style=\"text-align: center;\"".toList
      (plain_of_all (by simp only [String.reduceToList]; decide))
  · exact Markup.reads_tag "div style=\"text-align: right;\"".toList
      (plain_of_all (by simp only [String.reduceToList]; decide))
  · exact Markup.reads_nil

lemma startFormat_reads (attr : UInt16) : Reads (startFormat attr) (startTokens attr) := by
  unfold startFormat startTokens
  dsimp only
  rw [← append_assoc]
  refine .append ?_ ?_
  · exact alignTag_reads (align_cases attr.toUInt8)
  · by_cases hspan : hasSpan attr
    · rw [if_neg ((hasSpan_iff attr).mp hspan), if_pos hspan]
      exact spanTag_reads (spanStyle_plain _ _ _)
    · rw [if_pos (not_not.mp (mt (hasSpan_iff attr).mpr hspan)), if_neg hspan]
      exact Markup.reads_nil

lemma endFormat_reads (attr : UInt16) : Reads (endFormat attr) (endTokens attr) := by
  have hspan : Reads "</span>".toList [.closing "span".toList] :=
    Markup.reads_tag "/span".toList (by simp)
  have hdiv : Reads "</div>".toList [.closing "div".toList] :=
    Markup.reads_tag "/div".toList (by simp)
  exact .append (hspan.ite Markup.reads_nil) (hdiv.ite Markup.reads_nil)

/-- Between two characters: the elements of the one format are closed and those of the other
are opened. -/
lemma changeFormat_reads (prev attr : UInt16) : ∃ ts, Reads (changeFormat prev attr) ts ∧
    nest ts (openElements prev) = some (openElements attr) ∧ plain ts = [] := by
  by_cases hne : attr = prev
  · subst hne
    refine ⟨[], ?_, rfl, rfl⟩
    rw [changeFormat, if_neg (not_not_intro rfl)]
    exact Markup.reads_nil
  have hend : ∃ ts, Reads (if prev ≠ init then endFormat prev else []) ts ∧
      nest ts (openElements prev) = some [] ∧ plain ts = [] := by
    by_cases hinit : prev = init
    · rw [if_neg (not_not_intro hinit), openElements, if_pos hinit]
      exact ⟨[], Markup.reads_nil, rfl, rfl⟩
    · rw [if_pos hinit, openElements, if_neg hinit]
      refine ⟨endTokens prev, endFormat_reads prev, ?_, ?_⟩
      · unfold endTokens
        split_ifs <;> rfl
      · unfold endTokens
        split_ifs <;> rfl
  have hstart : ∃ ts, Reads (if attr ≠ init then startFormat attr else []) ts ∧
      nest ts [] = some (openElements attr) ∧ plain ts = [] := by
    by_cases hinit : attr = init
    · rw [if_neg (not_not_intro hinit), openElements, if_pos hinit]
      exact ⟨[], Markup.reads_nil, rfl, rfl⟩
    · rw [if_pos hinit, openElements, if_neg hinit]
      refine ⟨startTokens attr, startFormat_reads attr, ?_, ?_⟩
      · unfold startTokens
        split_ifs <;> rfl
      · unfold startTokens
        split_ifs <;> rfl
  obtain ⟨ts, hreads, hnest, hplain⟩ := hend
  obtain ⟨us, hreads', hnest', hplain'⟩ := hstart
  refine ⟨ts ++ us, ?_, ?_, ?_⟩
  · rw [changeFormat, if_pos hne]
    exact hreads.append hreads'
  · rw [Markup.nest_append, hnest, Option.bind_some, hnest']
  · rw [Markup.plain_append, hplain, hplain', nil_append]

/-! ## Characters -/

/-- The text with CR LF, CR and LF as a newline each. -/
def foldNewlines : List Char → List Char
  | [] => []
  | '\r' :: '\n' :: text => '\n' :: foldNewlines text
  | c :: text => (if c = '\r' then '\n' else c) :: foldNewlines text

lemma charHtml_reads (c : Char) : ∃ t, Reads (charHtml c) [t] ∧ (∀ s, nest [t] s = some s) ∧
    plain [t] = [if c = '\r' then '\n' else c] := by
  have hbreak : Reads "<br/>".toList [.empty "br".toList] :=
    Markup.reads_tag "br/".toList (by simp)
  by_cases hlf : c = '\n'
  · subst hlf
    exact ⟨_, hbreak, fun s => rfl, rfl⟩
  by_cases hcr : c = '\r'
  · subst hcr
    exact ⟨_, hbreak, fun s => rfl, rfl⟩
  by_cases hlt : c = '<'
  · subst hlt
    exact ⟨.entity '<', Markup.reads_entity "lt".toList (by simp) rfl, fun s => rfl, rfl⟩
  by_cases hgt : c = '>'
  · subst hgt
    exact ⟨.entity '>', Markup.reads_entity "gt".toList (by simp) rfl, fun s => rfl, rfl⟩
  by_cases hamp : c = '&'
  · subst hamp
    exact ⟨.entity '&', Markup.reads_entity "amp".toList (by simp) rfl, fun s => rfl, rfl⟩
  rw [charHtml, if_neg hlf, if_neg hcr, if_neg hlt, if_neg hgt, if_neg hamp, if_neg hcr]
  refine ⟨.char c, Markup.reads_char ?_, fun s => rfl, rfl⟩
  rintro (h | h | h)
  · exact hlt h
  · exact hgt h
  · exact hamp h

/-! ## The whole text -/

lemma charHtml_step {us : List Token} {attr : UInt16} (prev : UInt16) (c : Char) (hus : Reads s us)
    (hnest : nest us (openElements attr) = some []) : ∃ ts,
    Reads (changeFormat prev attr ++ (charHtml c ++ s)) ts ∧ nest ts (openElements prev) = some [] ∧
    plain ts = (if c = '\r' then '\n' else c) :: plain us := by
  obtain ⟨ts, hts, hnest', hplain⟩ := changeFormat_reads prev attr
  obtain ⟨t, ht, hsame, hchar⟩ := charHtml_reads c
  refine ⟨ts ++ ([t] ++ us), hts.append (ht.append hus), ?_, ?_⟩
  · rw [Markup.nest_append, hnest', Option.bind_some, Markup.nest_append, hsame, Option.bind_some,
      hnest]
  · rw [Markup.plain_append, Markup.plain_append, hplain, hchar]
    rfl

/-- The text from a position on, with what is open there: all of it is closed at the end. -/
lemma htmlLoop_reads {formats : List UInt16} {pos : ℕ} {prev : UInt16} {text : List Char}
    (hlast : formats[pos + text.length]? = some init) : ∃ ts, Reads (htmlLoop formats pos prev text)
    ts ∧ nest ts (openElements prev) = some [] ∧ plain ts = foldNewlines text := by
  induction text using foldNewlines.induct generalizing pos prev with
  | case1 =>
    obtain ⟨ts, hts, hnest, hplain⟩ := changeFormat_reads prev init
    refine ⟨ts, ?_, hnest, hplain⟩
    rw [htmlLoop, show formats[pos]? = some init from hlast]
    exact hts
  | case2 text ih =>
    have hnext : formats[pos + 2 + text.length]? = some init := by
      rwa [Nat.add_assoc, Nat.add_comm 2]
    obtain ⟨us, hus, hnest, hplain⟩ := @ih _ (formats[pos]?.getD init) hnext
    rw [foldNewlines, ← hplain]
    exact charHtml_step prev '\r' hus hnest
  | case3 c text hcrlf ih =>
    have hnext : formats[pos + 1 + text.length]? = some init := by
      rwa [Nat.add_assoc, Nat.add_comm 1]
    obtain ⟨us, hus, hnest, hplain⟩ := @ih _ (formats[pos]?.getD init) hnext
    rw [foldNewlines.eq_3 _ _ hcrlf, htmlLoop.eq_3 _ _ _ _ _ hcrlf, ← hplain]
    exact charHtml_step prev c hus hnest

/-- What is made of a text and its attributes is read as nested markup. Its characters are those
of the text, with `<`, `>` and `&` as entities and with line breaks for its newlines. -/
theorem stkTextToHtml_nested (text : List Char) (attrs : List UInt16) :
    ∃ ts, tokens (stkTextToHtml text attrs) = some ts ∧ Nested ts ∧
      (∀ c, .char c ∈ ts → ¬ Special c) ∧ plain ts = foldNewlines text := by
  have hlast : (applyAttributes text.length (attrs.take (attrsLen (attrs.length / 4)).toNat)
      (List.replicate (text.length + 1) init))[0 + text.length]? = some init := by
    rw [Nat.zero_add]
    exact (formats_replicate text.length).applyAttributes.last
  obtain ⟨ts, hts, hnest, hplain⟩ := @htmlLoop_reads _ 0 init text hlast
  have htokens : tokens (stkTextToHtml text attrs) = some ts := hts.tokens_eq
  exact ⟨ts, htokens, hnest, fun c hc => Markup.tokensFrom_char htokens hc, hplain⟩

end Phonelets.Stk
