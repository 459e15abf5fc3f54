import Phonelets.Gatchat.ResultIter
import Phonelets.Lib.Machine

/-! # Runs on an AT result

The strings that have been handed over stand in the buffer up to the cursor, and from the cursor on the
buffer is a copy of the chars: every call keeps this, and so what one call hands over is not touched by
another.
-/

namespace Phonelets.Gatchat

open List Outcome

/-! ## Fields -/

def fieldMarks : Fields.Marks UInt8 := ⟨openingParen, closingParen, quotationMark⟩

/-- How long the field at the front is: it ends at a comma, or at the end of the list it is in. Commas in
quotes or in a list are part of it. -/
def fieldLength (rest : List UInt8) : ℕ :=
  Fields.passed fieldMarks (fun c => c = comma || c = closingParen) 0 false rest

/-- A comma, and the spaces behind it. -/
def separatorLength : List UInt8 → ℕ
  | [] => 0
  | c :: cs => if c = comma then (cs.takeWhile (· = space)).length + 1 else ((c :: cs).takeWhile (· = space)).length

/-- The text of the field at the front: what is between its quotes, or what stands before the next comma
or the end of the list. -/
def fieldContent : List UInt8 → List UInt8
  | [] => []
  | c :: cs =>
    if c = quotationMark then cs.takeWhile (· ≠ quotationMark)
    else (c :: cs).takeWhile fun c => c ≠ comma && c ≠ closingParen

/-- Octets as two hex digits each. -/
inductive HexText : List UInt8 → List UInt8 → Prop
  | nil : HexText [] []
  | cons {a b digits octets} (ha : isXdigit a) (hb : isXdigit b) (h : HexText digits octets) :
      HexText (a :: b :: digits) ((xdigitValue a * 16 + xdigitValue b) :: octets)

/-! ## What is asked of a call -/

/-- What the caller finds where it has been pointed to. -/
def IterValue.read (buf : List UInt8) : IterValue → Option (List UInt8)
  | .text str => if 0 ∈ buf.drop str then some (CString.untilNul (buf.drop str)) else none
  | .octets str length =>
    if 0 ≤ str ∧ 0 ≤ length ∧ str + length ≤ buf.length then
      some ((buf.drop str.toNat).take length.toNat)
    else none
  | _ => none

def GAtResultIter.line (iter : GAtResultIter) : Option (List UInt8) :=
  match iter.l with
  | .node (some line) _ => some line.bytes
  | _ => none

/-- A call, and what has been handed over on the line before it. -/
structure CallRecord where
  before : GAtResultIter
  call : IterCall
  value : Option IterValue
  after : GAtResultIter
  held : List (IterValue × List UInt8)

/-- What a call has to meet. -/
structure CallMeets (r : CallRecord) : Prop where
  position : ∀ chars, r.after.line = some chars → r.after.linePos ≤ chars.length
  refused : r.value = none → r.after.linePos = r.before.linePos
  text : ∀ str chars, r.value = some (.text str) → r.before.line = some chars →
    (IterValue.text str).read r.after.buf = some (fieldContent (chars.drop r.before.linePos))
  octets : ∀ str length chars, r.value = some (.octets str length) → r.before.line = some chars →
    ∃ octets, (IterValue.octets str length).read r.after.buf = some octets ∧
      HexText (fieldContent (chars.drop r.before.linePos)) octets
  skipped : r.call = .skipNext → ∀ chars, r.before.line = some chars →
    if r.value = none then chars.drop r.before.linePos = []
    else r.after.linePos = r.before.linePos + fieldLength (chars.drop r.before.linePos) +
      separatorLength (chars.drop (r.before.linePos + fieldLength (chars.drop r.before.linePos)))
  kept : ∀ h ∈ r.held, h.1.read r.after.buf = some h.2

/-- An iterator, and the strings its user has: where they are and what they are. -/
structure IterSession where
  iter : GAtResultIter
  held : List (IterValue × List UInt8)

/-- The strings of a line are gone when there is another. -/
def IterCall.heldAt (held : List (IterValue × List UInt8)) (value : Option IterValue) :
    IterCall → List (IterValue × List UInt8)
  | .next _ => if value = none then held else []
  | _ => held

/-- A call; nothing is left behind a fault. -/
def IterSession.step : Option IterSession → IterCall → Option CallRecord × Option IterSession
  | none, _ => (none, none)
  | some s, call =>
    match s.iter.call call with
    | .ok (value, iter) =>
      let held := call.heldAt s.held value
      let new := value.toList.filterMap fun v => (v.read iter.buf).map fun content => (v, content)
      (some ⟨s.iter, call, value, iter, held⟩, some ⟨iter, new ++ held⟩)
    | _ => (none, none)

/-- The condition on a hex string: an omitted one finds the caller's length 0; any other is digits only,
or has an odd number of them in front. -/
def HexOk (length : ℤ) (rest : List UInt8) : Prop :=
  if rest.head? = some comma then length = 0
  else (∀ c ∈ fieldContent rest, isXdigit c) ∨
    ((if rest.head? = some quotationMark then rest.drop 1 else rest).takeWhile isXdigit).length % 2 = 1

/-- The condition on a call: there is a line to go on from, and a field that is skipped does not end with
the list it is in. -/
def CallOk (iter : GAtResultIter) : IterCall → Prop
  | .next _ => iter.l ≠ .null
  | .nextHexstring length => ∀ chars, iter.line = some chars → HexOk length (chars.drop iter.linePos)
  | .skipNext => ∀ chars, iter.line = some chars →
      chars[iter.linePos + fieldLength (chars.drop iter.linePos)]? ≠ some closingParen
  | _ => True

def SessionOk : Option IterSession → IterCall → Prop
  | none, _ => True
  | some s, call => CallOk s.iter call

/-! ## Positions -/

variable {chars content : List UInt8} {pos stop str i : ℕ} {p : UInt8 → Bool} {c : UInt8}

lemma le_scanTo (p : UInt8 → Bool) (chars : List UInt8) (i : ℕ) : i ≤ scanTo p chars i := Nat.le_add_right _ _

lemma scanTo_le (p : UInt8 → Bool) (h : i ≤ chars.length) : scanTo p chars i ≤ chars.length := by
  have hle := (List.takeWhile_prefix p (l := chars.drop i)).length_le
  rw [length_drop] at hle
  rw [scanTo]
  omega

variable {l : List UInt8}

lemma not_of_getElem?_length_takeWhile (h : l[(l.takeWhile p).length]? = some c) : p c = false := by
  induction l with
  | nil => cases h
  | cons d ds ih =>
    by_cases hd : p d
    · rw [takeWhile_cons_of_pos hd] at h
      exact ih h
    · rw [takeWhile_cons_of_neg hd] at h
      cases h
      exact eq_false_of_ne_true hd

lemma scanTo_stop (h : chars[scanTo p chars i]? = some c) : p c = false := by
  rw [scanTo, ← getElem?_drop] at h
  exact not_of_getElem?_length_takeWhile h

lemma le_skipToNextField (chars : List UInt8) (pos : ℕ) : pos ≤ skipToNextField chars pos := by
  unfold skipToNextField
  split
  · exact (Nat.le_succ pos).trans (le_scanTo _ _ _)
  · exact le_scanTo _ _ _

lemma lt_skipToNextField (h : chars[pos]? = some comma) : pos < skipToNextField chars pos := by
  rw [skipToNextField, if_pos h]
  exact le_scanTo _ _ _

lemma skipToNextField_le (h : pos ≤ chars.length) : skipToNextField chars pos ≤ chars.length := by
  unfold skipToNextField
  split
  next hcomma => exact scanTo_le _ (List.getElem?_eq_some_iff.mp hcomma).1
  next => exact scanTo_le _ h

lemma lineAt_eq (h : pos ≤ chars.length) :
    ∃ c, lineAt chars pos = .ok c ∧ (chars[pos]? = some c ∨ pos = chars.length ∧ c = 0) := by
  rcases Nat.lt_or_eq_of_le h with hlt | rfl
  · refine ⟨chars[pos], ?_, .inl (getElem?_eq_getElem hlt)⟩
    rw [lineAt, getElem?_append_left hlt, getElem?_eq_getElem hlt]
    rfl
  · refine ⟨0, ?_, .inr ⟨rfl, rfl⟩⟩
    rw [lineAt, getElem?_append_right (Nat.le_refl _), Nat.sub_self]
    rfl

lemma readNumber_eq (h : 0 ∈ l) (i : ℕ) (value : Int32) :
    ∃ stop value', readNumber l i value = .ok (stop, value') ∧ i ≤ stop ∧
      stop + 1 ≤ i + l.length ∧ (i < stop → ∀ c, l[0]? = some c → isDigit c) := by
  induction l generalizing i value with
  | nil => cases h
  | cons c cs ih =>
    rw [readNumber]
    by_cases hdigit : isDigit c
    · have hne : c ≠ 0 := by
        rintro rfl
        cases hdigit
      have hmem : 0 ∈ cs := (mem_cons.mp h).resolve_left hne.symm
      obtain ⟨stop, value', hread, hle, hlen, -⟩ := ih hmem (i + 1) _
      rw [if_pos hdigit]
      refine ⟨stop, value', hread, by omega, ?_, ?_⟩
      · rw [length_cons]
        omega
      · intro _ d hd
        cases hd
        exact hdigit
    · rw [if_neg hdigit]
      refine ⟨i, value, rfl, Nat.le_refl i, ?_, fun hlt => absurd hlt (Nat.lt_irrefl i)⟩
      rw [length_cons]
      omega

/-- `skip_until` comes back from where it has been called: what it has passed is what the lists and the
quotes say. -/
lemma skipUntil_eq {delim : UInt8} (hdelim : delim ≠ quotationMark ∧ delim ≠ openingParen)
    {fuel : ℕ} (hle : i ≤ chars.length) (hfuel : chars.length - i < fuel) : skipUntil chars fuel i
    delim = some (i + Fields.passed fieldMarks (· = delim) 0 false (chars.drop i)) := by
  induction fuel generalizing i delim with
  | zero => omega
  | succ fuel ih =>
    rw [skipUntil]
    rcases Nat.lt_or_eq_of_le hle with hlt | rfl
    · rw [getElem?_eq_getElem hlt, drop_eq_getElem_cons hlt]
      dsimp only
      rw [Fields.passed]
      -- what is behind quotes or a list that ends at `j`
      have hbehind (k : ℕ) (hk : k ≤ (chars.drop (i + 1)).length) :
          skipUntil chars fuel (if i + 1 + k < chars.length then i + 1 + k + 1 else i + 1 + k) delim =
            some (i + (k + Fields.behind (Fields.passed fieldMarks (· = delim) 0 false)
              (chars.drop (i + 1)) k + 1)) := by
        rw [length_drop] at hk
        rw [Fields.behind, length_drop, drop_drop, ← Nat.add_assoc (i + 1) k 1]
        by_cases hend : i + 1 + k < chars.length
        · rw [if_pos hend, if_pos (by omega), ih hdelim (by omega) (by omega)]
          exact congrArg some (by omega)
        · rw [if_neg hend, if_neg (by omega), ih hdelim (by omega) (by omega),
            drop_of_length_le (by omega), Fields.passed_nil]
          exact congrArg some (by omega)
      by_cases hstop : chars[i] = delim
      · rw [if_pos hstop, if_pos (decide_eq_true hstop)]
        rfl
      · have hgoes : ¬ decide (chars[i] = delim) = true := by simpa using hstop
        rw [if_neg hstop, if_neg hgoes]
        by_cases hquote : chars[i] = quotationMark
        · rw [if_pos hquote, if_pos (show chars[i] = fieldMarks.quote from hquote),
            Fields.passed_quoted]
          exact hbehind _ (List.takeWhile_prefix _).length_le
        · rw [if_neg hquote, if_neg (show ¬ chars[i] = fieldMarks.quote from hquote)]
          by_cases hopen : chars[i] = openingParen
          · rw [if_neg (not_not_intro hopen), if_pos (show chars[i] = fieldMarks.opening from hopen),
              Fields.passed_list, ih (by decide) hlt (by omega)]
            exact hbehind _ (Fields.passed_le _ _ _ _ _)
          · rw [if_pos hopen, if_neg (show ¬ chars[i] = fieldMarks.opening from hopen),
              ih hdelim (show i + 1 ≤ chars.length from hlt) (by omega)]
            exact congrArg some (by omega)
    · rw [getElem?_eq_none (Nat.le_refl _), drop_length, Fields.passed_nil]
      rfl

/-! ## The buffer -/

/-- The octets are in the buffer from a place on. -/
def Holds (buf : List UInt8) (str : ℕ) (content : List UInt8) : Prop :=
  ∀ k < content.length, buf[str + k]? = content[k]?

/-- The cursor is where no string ends before a comma: at the end of a list, or of the line. -/
def AtClose (chars : List UInt8) (pos : ℕ) : Prop := chars[pos]? = some closingParen ∨ chars.length ≤ pos

/-- A string that has been handed over is in front of the cursor; only its NUL may be at the cursor, if
there is nothing there to be written over. -/
def Kept (chars buf : List UInt8) (pos : ℕ) : IterValue × List UInt8 → Prop
  | (.text str, content) => Holds buf str content ∧ buf[str + content.length]? = some 0 ∧ 0 ∉ content ∧
      (str + content.length < pos ∨ str + content.length = pos ∧ AtClose chars pos)
  | (.octets str length, content) => ∃ place : ℕ, str = place ∧ length = content.length ∧
      Holds buf place content ∧ place + content.length ≤ pos ∧ pos ≤ buf.length
  | _ => False

variable {buf buf' : List UInt8} {pos' : ℕ}

lemma Holds.take_drop (h : Holds buf str content) :
    (buf.drop str).take content.length = content := by
  refine ext_getElem? fun k => ?_
  rw [getElem?_take]
  split
  next hk => rw [getElem?_drop, h k hk]
  next hk => rw [getElem?_eq_none (Nat.le_of_not_lt hk)]

lemma Kept.read {v : IterValue} (h : Kept chars buf pos (v, content)) : v.read buf = some content := by
  cases v with
  | text str =>
    obtain ⟨hholds, hnul, hno, -⟩ := h
    obtain ⟨hlt, hget⟩ := List.getElem?_eq_some_iff.mp hnul
    have hsplit : buf.drop str = content ++ 0 :: buf.drop (str + content.length + 1) := by
      rw [← take_append_drop content.length (buf.drop str), hholds.take_drop, drop_drop,
        drop_eq_getElem_cons hlt, hget]
    rw [IterValue.read, hsplit, if_pos (mem_append_right _ mem_cons_self),
      CString.untilNul_append_nul hno]
  | octets str length =>
    obtain ⟨place, rfl, rfl, hholds, hle, hbuf⟩ := h
    rw [IterValue.read, if_pos (by omega), Int.toNat_natCast, Int.toNat_natCast, hholds.take_drop]
  | done => exact h.elim
  | number => exact h.elim
  | range => exact h.elim
  | rawLine => exact h.elim

/-- What a call does: it moves the cursor on, and what it writes is behind the strings there are and in
front of the new cursor. -/
structure Advance (chars : List UInt8) (iter iter' : GAtResultIter) : Prop where
  l : iter'.l = iter.l
  length : iter'.buf.length = iter.buf.length
  moves : iter.linePos ≤ iter'.linePos
  place : iter'.linePos ≤ chars.length
  below : ∀ i < iter.linePos, iter'.buf[i]? = iter.buf[i]?
  here : AtClose chars iter.linePos →
    iter'.buf[iter.linePos]? = iter.buf[iter.linePos]? ∨ iter'.buf[iter.linePos]? = some 0
  above : ∀ i, iter'.linePos ≤ i → i < chars.length → (i = iter'.linePos → chars[i]? ≠ some closingParen) →
    iter'.buf[i]? = iter.buf[i]?

variable {iter iter' : GAtResultIter}

lemma Advance.kept (h : Advance chars iter iter') (hbuf : chars.length ≤ iter.buf.length)
    {held : IterValue × List UInt8} (hkept : Kept chars iter.buf iter.linePos held) :
    Kept chars iter'.buf iter'.linePos held := by
  have hmoves := h.moves
  have hplace := h.place
  obtain ⟨v, content⟩ := held
  have hholds {str : ℕ} (hlow : str + content.length ≤ iter.linePos) (hold : Holds iter.buf str content) :
      Holds iter'.buf str content := by
    intro k hk
    rw [h.below _ (by omega), hold k hk]
  cases v with
  | text str =>
    obtain ⟨hold, hnul, hno, hend | ⟨hend, hclose⟩⟩ := hkept
    · refine ⟨hholds hend.le hold, ?_, hno, .inl (by omega)⟩
      rw [h.below _ hend, hnul]
    · refine ⟨hholds hend.le hold, ?_, hno, ?_⟩
      · rw [hend] at hnul ⊢
        rcases h.here hclose with hsame | hzero
        · rw [hsame, hnul]
        · exact hzero
      · rcases Nat.lt_or_eq_of_le hmoves with hlt | heq
        · exact .inl (by omega)
        · exact .inr ⟨by omega, heq ▸ hclose⟩
  | octets str length =>
    obtain ⟨place, hstr, hlength, hold, hend, -⟩ := hkept
    refine ⟨place, hstr, hlength, hholds hend hold, by omega, ?_⟩
    rw [h.length]
    omega
  | done => exact hkept
  | number => exact hkept
  | range => exact hkept
  | rawLine => exact hkept

/-- On a line: the buffer is a copy of it from the cursor on, where it is not the end of a list. -/
structure OnLine (iter : GAtResultIter) (chars : List UInt8) : Prop where
  node : ∃ data next, iter.l = .node (some data) next ∧ data.bytes = chars
  nul : 0 ∉ chars
  short : chars.length ≤ resultLineLengthMax
  whole : iter.buf.length = resultLineLengthMax + 1
  place : iter.linePos ≤ chars.length
  copy : ∀ i, iter.linePos ≤ i → i < chars.length → (i = iter.linePos → chars[i]? ≠ some closingParen) →
    iter.buf[i]? = chars[i]?

lemma OnLine.advance (hon : OnLine iter chars) (h : Advance chars iter iter') : OnLine iter' chars where
  node := by rw [h.l]; exact hon.node
  nul := hon.nul
  short := hon.short
  whole := by rw [h.length, hon.whole]
  place := h.place
  copy := by
    intro i hle hlt hclose
    have hmoves := h.moves
    rw [h.above i hle hlt hclose]
    refine hon.copy i (by omega) hlt ?_
    intro heq
    exact hclose (by omega)

lemma OnLine.withLine (hon : OnLine iter chars) (parse : List UInt8 → IterResult) :
    iter.withLine parse = parse chars := by
  obtain ⟨data, next, hl, rfl⟩ := hon.node
  rw [GAtResultIter.withLine, hl]

lemma Advance.of_move (hle : iter.linePos ≤ pos) (hplace : pos ≤ chars.length) :
    Advance chars iter { iter with linePos := pos } where
  l := rfl
  length := rfl
  moves := hle
  place := hplace
  below := fun _ _ => rfl
  here := fun _ => .inl rfl
  above := fun _ _ _ _ => rfl

lemma OnLine.store (hon : OnLine iter chars) (h : pos ≤ chars.length) (c : UInt8) :
    iter.store pos c = .ok { iter with buf := iter.buf.set pos c } := by
  have hshort := hon.short
  refine if_pos ?_
  rw [hon.whole]
  omega

/-- A string is ended and the cursor moves: it is behind the NUL, or it is at an end. -/
lemma OnLine.ended (hon : OnLine iter chars) (hle : iter.linePos ≤ stop) (hmove : stop ≤ pos)
    (hplace : pos ≤ chars.length) (hclose : stop = pos → AtClose chars pos) :
    Advance chars iter { iter with buf := iter.buf.set stop 0, linePos := pos } where
  l := rfl
  length := length_set
  moves := hle.trans hmove
  place := hplace
  below := by
    intro i hi
    exact getElem?_set_ne (by omega)
  here := by
    intro _
    by_cases heq : stop = iter.linePos
    · right
      have hlt : stop < iter.buf.length := by
        have hshort := hon.short
        rw [hon.whole]
        omega
      rw [← heq]
      exact getElem?_set_self hlt
    · exact .inl (getElem?_set_ne heq)
  above := by
    intro i hi hlt hno
    refine getElem?_set_ne ?_
    rintro rfl
    have heq : stop = pos := Nat.le_antisymm hmove hi
    rcases hclose heq with hparen | hend
    · exact hno heq (heq ▸ hparen)
    · exact absurd hlt (Nat.not_lt.mpr (heq ▸ hend))

lemma getElem?_takeWhile {k : ℕ} (hk : k < (l.takeWhile p).length) :
    (l.takeWhile p)[k]? = l[k]? := by
  conv_rhs => rw [← takeWhile_append_dropWhile (p := p) (l := l)]
  rw [getElem?_append_left hk]

lemma OnLine.holds (hon : OnLine iter chars) (hle : iter.linePos ≤ str)
    (hclose : str = iter.linePos → chars[str]? ≠ some closingParen) (p : UInt8 → Bool) :
    Holds iter.buf str ((chars.drop str).takeWhile p) := by
  intro k hk
  have hlen := (List.takeWhile_prefix p (l := chars.drop str)).length_le
  rw [length_drop] at hlen
  rw [getElem?_takeWhile hk, getElem?_drop]
  refine hon.copy _ (by omega) (by omega) ?_
  intro heq
  have hk0 : k = 0 := by omega
  subst hk0
  exact hclose heq

lemma Holds.set (h : Holds buf str content) (hend : str + content.length ≤ stop) :
    Holds (buf.set stop 0) str content := by
  intro k hk
  rw [getElem?_set_ne (by omega), h k hk]

/-- What a call has handed over is kept, and is the content of its field. -/
def Shows (chars : List UInt8) (iter iter' : GAtResultIter) : Option IterValue → Prop
  | some (.text str) => Kept chars iter'.buf iter'.linePos (.text str, fieldContent (chars.drop iter.linePos))
  | some (.octets str length) => ∃ octets, Kept chars iter'.buf iter'.linePos (.octets str length, octets) ∧
      HexText (fieldContent (chars.drop iter.linePos)) octets
  | _ => True

/-- What a call on a line comes to. -/
structure FieldParsed (chars : List UInt8) (iter iter' : GAtResultIter) (value : Option IterValue) : Prop where
  advance : Advance chars iter iter'
  refused : value = none → iter'.linePos = iter.linePos
  hands : Shows chars iter iter' value

lemma OnLine.refuses (hon : OnLine iter chars) : FieldParsed chars iter iter none where
  advance := Advance.of_move (Nat.le_refl _) hon.place
  refused := fun _ => rfl
  hands := trivial

lemma OnLine.text (hon : OnLine iter chars) (hle : iter.linePos ≤ str)
    (hno : str = iter.linePos → chars[str]? ≠ some closingParen) (p : UInt8 → Bool)
    (hfield : fieldContent (chars.drop iter.linePos) = (chars.drop str).takeWhile p)
    (hmove : scanTo p chars str ≤ pos) (hplace : pos ≤ chars.length)
    (hclose : scanTo p chars str = pos → AtClose chars pos) :
    FieldParsed chars iter { iter with buf := iter.buf.set (scanTo p chars str) 0, linePos := pos }
      (some (.text str)) where
  advance := hon.ended (hle.trans (le_scanTo p chars str)) hmove hplace hclose
  refused := by
    intro h
    cases h
  hands := by
    have hlt : scanTo p chars str < iter.buf.length := by
      have hshort := hon.short
      rw [hon.whole]
      omega
    change Kept chars (iter.buf.set (scanTo p chars str) 0) pos (.text str, _)
    rw [hfield]
    refine ⟨(hon.holds hle hno p).set (Nat.le_refl _), getElem?_set_self hlt, ?_, ?_⟩
    · intro hmem
      exact hon.nul (mem_of_mem_drop ((List.takeWhile_prefix p).subset hmem))
    · rcases Nat.lt_or_eq_of_le hmove with hlt | heq
      · exact .inl hlt
      · exact .inr ⟨heq, hclose heq⟩

/-! ## The parsers -/

lemma drop_eq_cons (h : chars[pos]? = some c) : chars.drop pos = c :: chars.drop (pos + 1) := by
  obtain ⟨hlt, hget⟩ := List.getElem?_eq_some_iff.mp h
  rw [drop_eq_getElem_cons hlt, hget]

lemma fieldContent_quoted (h : chars[pos]? = some quotationMark) :
    fieldContent (chars.drop pos) = (chars.drop (pos + 1)).takeWhile (· ≠ quotationMark) := by
  rw [drop_eq_cons h, fieldContent, if_pos rfl]

lemma fieldContent_plain (h : chars[pos]? ≠ some quotationMark) : fieldContent (chars.drop pos) =
    (chars.drop pos).takeWhile fun c => c ≠ comma && c ≠ closingParen := by
  cases hdrop : chars.drop pos with
  | nil => rfl
  | cons c cs =>
    have hhead : chars[pos]? = some c := by
      rw [← Nat.add_zero pos, ← getElem?_drop, hdrop]
      rfl
    refine if_neg ?_
    rintro rfl
    exact h hhead

lemma OnLine.omitted (hon : OnLine iter chars) (h : chars[iter.linePos]? = some comma) :
    FieldParsed chars iter { iter with
      buf := iter.buf.set iter.linePos 0
      linePos := skipToNextField chars iter.linePos } (some (.text iter.linePos)) := by
  have hscan : scanTo (fun c => c ≠ comma && c ≠ closingParen) chars iter.linePos = iter.linePos := by
    rw [scanTo, drop_eq_cons h]
    rfl
  have htext := hon.text (Nat.le_refl _) (fun _ => by rw [h]; decide) _
    (fieldContent_plain (by rw [h]; decide)) (by rw [hscan]; exact le_skipToNextField chars _)
    (skipToNextField_le hon.place) (fun heq => absurd heq (by
      rw [hscan]
      exact (lt_skipToNextField h).ne))
  rwa [hscan] at htext

lemma OnLine.nextUnquotedString (hon : OnLine iter chars) :
    ∃ value iter', iter.nextUnquotedString = .ok (value, iter') ∧ FieldParsed chars iter iter' value := by
  rw [GAtResultIter.nextUnquotedString, hon.withLine]
  obtain ⟨c, hread, hc⟩ := lineAt_eq hon.place
  dsimp only
  rw [hread, ok_bind]
  by_cases hcomma : c = comma
  · have hat : chars[iter.linePos]? = some comma := by
      rcases hc with h | ⟨-, rfl⟩
      · rw [h, hcomma]
      · cases hcomma
    rw [if_pos hcomma, hon.store hon.place]
    exact ⟨_, _, rfl, hon.omitted hat⟩
  · rw [if_neg hcomma]
    by_cases hother : c = quotationMark ∨ c = closingParen
    · rw [if_pos hother]
      exact ⟨_, _, rfl, hon.refuses⟩
    · have hat (d : UInt8) (hd : d ≠ c) : chars[iter.linePos]? ≠ some d := by
        rcases hc with h | ⟨h, -⟩
        · rw [h]
          exact fun heq => hd (Option.some.inj heq).symm
        · rw [h, getElem?_eq_none (Nat.le_refl _)]
          intro heq
          cases heq
      rw [not_or] at hother
      rw [if_neg (not_or.mpr hother), hon.store (scanTo_le _ hon.place)]
      refine ⟨_, _, rfl, hon.text (Nat.le_refl _) (fun _ => hat _ (Ne.symm hother.2)) _
        (fieldContent_plain (hat _ (Ne.symm hother.1))) (le_skipToNextField chars _)
        (skipToNextField_le (scanTo_le _ hon.place)) ?_⟩
      -- the cursor stays only where there is no comma
      intro heq
      rw [← heq]
      cases hstop : chars[scanTo (fun c => c ≠ comma && c ≠ closingParen) chars iter.linePos]? with
      | none => exact .inr (List.getElem?_eq_none_iff.mp hstop)
      | some d =>
        have hd := scanTo_stop hstop
        rw [Bool.and_eq_false_iff, decide_eq_false_iff_not, decide_eq_false_iff_not, not_not, not_not] at hd
        rcases hd with rfl | rfl
        · exact absurd heq (lt_skipToNextField hstop).ne
        · exact .inl hstop

lemma OnLine.nextString (hon : OnLine iter chars) :
    ∃ value iter', iter.nextString = .ok (value, iter') ∧ FieldParsed chars iter iter' value := by
  rw [GAtResultIter.nextString, hon.withLine]
  obtain ⟨c, hread, hc⟩ := lineAt_eq hon.place
  dsimp only
  rw [hread, ok_bind]
  by_cases hcomma : c = comma
  · have hat : chars[iter.linePos]? = some comma := by
      rcases hc with h | ⟨-, rfl⟩
      · rw [h, hcomma]
      · cases hcomma
    rw [if_pos hcomma, hon.store hon.place]
    exact ⟨_, _, rfl, hon.omitted hat⟩
  · rw [if_neg hcomma]
    by_cases hquote : c = quotationMark
    · have hat : chars[iter.linePos]? = some quotationMark := by
        rcases hc with h | ⟨-, rfl⟩
        · rw [h, hquote]
        · cases hquote
      have hplace : iter.linePos + 1 ≤ chars.length := (List.getElem?_eq_some_iff.mp hat).1
      have hscan := scanTo_le (· ≠ quotationMark) hplace
      obtain ⟨d, hend, hd⟩ := lineAt_eq hscan
      rw [if_neg (not_not_intro hquote), hend, ok_bind]
      by_cases hclosed : d = quotationMark
      · have hbehind : chars[scanTo (· ≠ quotationMark) chars (iter.linePos + 1)]? = some quotationMark := by
          rcases hd with h | ⟨-, rfl⟩
          · rw [h, hclosed]
          · cases hclosed
        have hlt := (List.getElem?_eq_some_iff.mp hbehind).1
        rw [if_neg (not_not_intro hclosed), hon.store hscan]
        exact ⟨_, _, rfl, hon.text (Nat.le_succ _) (fun heq => absurd heq (Nat.succ_ne_self _)) _
          (fieldContent_quoted hat) ((Nat.le_succ _).trans (le_skipToNextField chars _))
          (skipToNextField_le hlt) fun heq => absurd heq
            (Nat.lt_of_lt_of_le (Nat.lt_succ_self _) (le_skipToNextField chars _)).ne⟩
      · rw [if_pos hclosed]
        exact ⟨_, _, rfl, hon.refuses⟩
    · rw [if_pos hquote]
      exact ⟨_, _, rfl, hon.refuses⟩

/-! ### Hex strings -/

/-- The octets that two digits each stand for. -/
def hexOctets : List UInt8 → List UInt8
  | a :: b :: digits => (xdigitValue a * 16 + xdigitValue b) :: hexOctets digits
  | _ => []

lemma length_hexOctets (digits : List UInt8) : (hexOctets digits).length = digits.length / 2 := by
  fun_induction hexOctets digits with
  | case1 a b digits ih =>
    rw [length_cons, length_cons, length_cons, ih]
    omega
  | case2 digits h =>
    cases digits with
    | nil => rfl
    | cons a digits =>
      cases digits with
      | nil => exact (Nat.div_eq_of_lt (Nat.lt_succ_self 1)).symm
      | cons b digits => exact absurd rfl (h a b digits)

lemma hexText_hexOctets {digits : List UInt8} (hdigits : ∀ c ∈ digits, isXdigit c)
    (heven : digits.length % 2 ≠ 1) : HexText digits (hexOctets digits) := by
  fun_induction hexOctets digits with
  | case1 a b digits ih =>
    rw [forall_mem_cons, forall_mem_cons] at hdigits
    refine .cons hdigits.1 hdigits.2.1 (ih hdigits.2.2 ?_)
    rw [length_cons, length_cons] at heven
    omega
  | case2 digits h =>
    cases digits with
    | nil => exact .nil
    | cons a digits =>
      cases digits with
      | nil => exact absurd rfl heven
      | cons b digits => exact absurd rfl (h a b digits)

lemma storeHex_eq (iter : GAtResultIter) (bufpos : ℕ) (digits : List UInt8) (hroom : bufpos +
    (hexOctets digits).length ≤ iter.buf.length) : ∃ buf, iter.storeHex bufpos digits = .ok { iter
    with buf := buf } ∧ buf.length = iter.buf.length ∧ (∀ i, i < bufpos ∨ bufpos + (hexOctets
    digits).length ≤ i → buf[i]? = iter.buf[i]?) ∧ Holds buf bufpos (hexOctets digits) := by
  induction digits using hexOctets.induct generalizing iter bufpos with
  | case1 a b digits ih =>
    rw [hexOctets, length_cons] at hroom ⊢
    have hlt : bufpos < iter.buf.length := by omega
    have hstore : iter.store bufpos (xdigitValue a * 16 + xdigitValue b) =
        .ok { iter with buf := iter.buf.set bufpos (xdigitValue a * 16 + xdigitValue b) } := if_pos hlt
    obtain ⟨buf, hall, hlen, hsame, hholds⟩ :=
      ih { iter with buf := iter.buf.set bufpos (xdigitValue a * 16 + xdigitValue b) } (bufpos + 1) (by
        rw [length_set]
        omega)
    refine ⟨buf, ?_, ?_, ?_, ?_⟩
    · rw [GAtResultIter.storeHex, hstore]
      exact hall
    · rw [hlen, length_set]
    · intro i hi
      rw [hsame i (by omega)]
      exact getElem?_set_ne (by omega)
    · intro k hk
      cases k with
      | zero =>
        rw [hsame _ (.inl (by omega))]
        exact getElem?_set_self hlt
      | succ k =>
        rw [getElem?_cons_succ, ← hholds k (by
          rw [length_cons] at hk
          omega), Nat.add_assoc, Nat.add_comm 1]
  | case2 digits h =>
    have hnone : hexOctets digits = [] := by
      rw [hexOctets]
      exact h
    have hstore : iter.storeHex bufpos digits = .ok iter := by
      rw [GAtResultIter.storeHex]
      exact h
    refine ⟨iter.buf, hstore, rfl, fun _ _ => rfl, ?_⟩
    rw [hnone]
    intro k hk
    cases hk

lemma takeWhile_eq_of_all {q : UInt8 → Bool} (himp : ∀ c, p c → q c)
    (hall : ∀ c ∈ l.takeWhile q, p c) : l.takeWhile q = l.takeWhile p := by
  induction l with
  | nil => rfl
  | cons c cs ih =>
    by_cases hq : q c
    · rw [takeWhile_cons_of_pos hq] at hall ⊢
      rw [forall_mem_cons] at hall
      rw [takeWhile_cons_of_pos hall.1, ih hall.2]
    · rw [takeWhile_cons_of_neg hq, takeWhile_cons_of_neg fun hp => hq (himp c hp)]

lemma not_special_of_isXdigit (h : isXdigit c) :
    c ≠ comma ∧ c ≠ closingParen ∧ c ≠ quotationMark := by
  refine ⟨?_, ?_, ?_⟩
  · rintro rfl
    cases h
  · rintro rfl
    cases h
  · rintro rfl
    cases h

lemma fieldContent_hex {start : ℕ} (hstart : start = if chars[pos]? = some quotationMark then pos +
    1 else pos) (hall : ∀ c ∈ fieldContent (chars.drop pos), isXdigit c) :
    fieldContent (chars.drop pos) = (chars.drop start).takeWhile isXdigit := by
  subst hstart
  split
  next hquote =>
    rw [fieldContent_quoted hquote] at hall ⊢
    exact takeWhile_eq_of_all (fun c hc => decide_eq_true (not_special_of_isXdigit hc).2.2) hall
  next hquote =>
    rw [fieldContent_plain hquote] at hall ⊢
    refine takeWhile_eq_of_all (fun c hc => ?_) hall
    exact Bool.and_eq_true_iff.mpr ⟨decide_eq_true (not_special_of_isXdigit hc).1,
      decide_eq_true (not_special_of_isXdigit hc).2.1⟩

lemma OnLine.hex (hon : OnLine iter chars) {start n : ℕ} (hstart : start =
      if chars[iter.linePos]? = some quotationMark then iter.linePos + 1 else iter.linePos)
    (hall : ∀ c ∈ fieldContent (chars.drop iter.linePos), isXdigit c)
    (hle : start ≤ chars.length) (heven : (scanTo isXdigit chars start - start) % 2 ≠ 1)
    (hn : n = (scanTo isXdigit chars start - start) / 2)
    (hmove : scanTo isXdigit chars start ≤ pos) (hplace : pos ≤ chars.length) :
    ∃ iter', iter.storeHex iter.linePos ((chars.drop start).take (scanTo isXdigit chars start - start)) =
        .ok iter' ∧
      FieldParsed chars iter { iter' with linePos := pos }
        (some (.octets ((iter.linePos + n : ℕ) - (n : ℤ)) n)) := by
  have hshort := hon.short
  have hscan := scanTo_le isXdigit hle
  have hlow : iter.linePos ≤ start := by
    rw [hstart]
    split
    · exact Nat.le_succ _
    · exact Nat.le_refl _
  have hlength : scanTo isXdigit chars start - start = ((chars.drop start).takeWhile isXdigit).length := by
    rw [scanTo, Nat.add_sub_cancel_left]
  have htake : (chars.drop start).take (scanTo isXdigit chars start - start) =
      (chars.drop start).takeWhile isXdigit := by
    rw [hlength]
    exact (prefix_iff_eq_take.mp (List.takeWhile_prefix _)).symm
  rw [hlength] at heven hn
  rw [htake]
  have hoctets : (hexOctets ((chars.drop start).takeWhile isXdigit)).length = n := by
    rw [length_hexOctets, hn]
  have hroom : iter.linePos + n ≤ scanTo isXdigit chars start := by
    have hadd : start + ((chars.drop start).takeWhile isXdigit).length = scanTo isXdigit chars start := rfl
    omega
  obtain ⟨buf, hstore, hlen, hsame, hholds⟩ := storeHex_eq iter iter.linePos
    ((chars.drop start).takeWhile isXdigit) (by
      rw [hoctets, hon.whole]
      omega)
  rw [hoctets] at hsame
  refine ⟨_, hstore, ⟨⟨rfl, hlen, ?_, hplace, ?_, ?_, ?_⟩, ?_, ?_⟩⟩
  · exact (hlow.trans (le_scanTo _ _ _)).trans hmove
  · exact fun i hi => hsame i (.inl hi)
  · -- at an end there are no digits
    intro hclose
    have hnone : (chars.drop start).takeWhile isXdigit = [] := by
      rcases hclose with hparen | hend
      · rw [hparen, if_neg (by decide)] at hstart
        rw [hstart, drop_eq_cons hparen]
        rfl
      · rw [drop_of_length_le (hend.trans hlow)]
        rfl
    rw [hnone] at hn
    refine .inl (hsame _ (.inr ?_))
    rw [hn]
    exact Nat.le_refl _
  · intro i hi _ _
    exact hsame i (.inr ((hroom.trans hmove).trans hi))
  · intro h
    cases h
  · refine ⟨hexOctets ((chars.drop start).takeWhile isXdigit), ⟨iter.linePos, ?_, ?_, hholds, ?_, ?_⟩, ?_⟩
    · omega
    · rw [hoctets]
    · rw [hoctets]
      exact hroom.trans hmove
    · change pos ≤ buf.length
      rw [hlen, hon.whole]
      omega
    · have hfield := fieldContent_hex hstart hall
      rw [hfield] at hall ⊢
      exact hexText_hexOctets hall heven

lemma OnLine.nextHexstring (hon : OnLine iter chars) {length : ℤ}
    (hok : HexOk length (chars.drop iter.linePos)) :
    ∃ value iter', iter.nextHexstring length = .ok (value, iter') ∧ FieldParsed chars iter iter' value := by
  rw [GAtResultIter.nextHexstring, hon.withLine]
  obtain ⟨c, hread, hc⟩ := lineAt_eq hon.place
  have hat (d : UInt8) (hd : d ≠ 0) : chars[iter.linePos]? = some d ↔ c = d := by
    rcases hc with h | ⟨h, rfl⟩
    · rw [h, Option.some.injEq]
    · rw [h, getElem?_eq_none (Nat.le_refl _)]
      exact iff_of_false (by intro heq; cases heq) hd.symm
  have hhead : (chars.drop iter.linePos).head? = chars[iter.linePos]? := head?_drop
  rw [HexOk, hhead, drop_drop] at hok
  dsimp only
  rw [hread, ok_bind]
  by_cases hcomma : c = comma
  · have hcom := (hat comma (by decide)).mpr hcomma
    rw [if_pos hcom] at hok
    subst hok
    rw [if_pos hcomma, hon.store hon.place]
    have homitted := hon.omitted hcom
    refine ⟨_, _, rfl, ⟨homitted.advance, ?_, ?_⟩⟩
    · intro h
      cases h
    · have hmoves := homitted.advance.moves
      have hplace := homitted.advance.place
      have hshort := hon.short
      refine ⟨[], ⟨iter.linePos, ?_, rfl, ?_, hmoves, ?_⟩, ?_⟩
      · rw [Int.sub_zero]
      · intro k hk
        cases hk
      · change skipToNextField chars iter.linePos ≤ (iter.buf.set iter.linePos 0).length
        rw [length_set, hon.whole]
        exact hplace.trans (by omega)
      · rw [fieldContent_plain (by rw [hcom]; decide), drop_eq_cons hcom]
        exact .nil
  · rw [if_neg hcomma]
    have hcom : chars[iter.linePos]? ≠ some comma := fun h => hcomma ((hat comma (by decide)).mp h)
    rw [if_neg hcom] at hok
    have hstart : (if c = quotationMark then iter.linePos + 1 else iter.linePos) =
        if chars[iter.linePos]? = some quotationMark then iter.linePos + 1 else iter.linePos :=
      if_congr (hat quotationMark (by decide)).symm rfl rfl
    rw [hstart]
    generalize hs : (if chars[iter.linePos]? = some quotationMark then iter.linePos + 1 else iter.linePos) =
      start
    have hle : start ≤ chars.length := by
      rw [← hs]
      split
      next hquote => exact (List.getElem?_eq_some_iff.mp hquote).1
      next => exact hon.place
    by_cases hodd : (scanTo isXdigit chars start - start) % 2 = 1
    · rw [if_pos hodd]
      exact ⟨_, _, rfl, hon.refuses⟩
    · have hdrop : (if chars[iter.linePos]? = some quotationMark then chars.drop (iter.linePos + 1)
          else chars.drop iter.linePos) = chars.drop start := by
        rw [← hs]
        split
        · rfl
        · rfl
      have hlength : ((chars.drop start).takeWhile isXdigit).length = scanTo isXdigit chars start - start := by
        rw [scanTo, Nat.add_sub_cancel_left]
      rw [hdrop, hlength] at hok
      have hall := hok.resolve_right hodd
      have hscan := scanTo_le isXdigit hle
      obtain ⟨d, hend, hd⟩ := lineAt_eq hscan
      have hbehind : (if d = quotationMark then scanTo isXdigit chars start + 1
          else scanTo isXdigit chars start) ≤ chars.length := by
        split
        next hquote =>
          rcases hd with h | ⟨-, rfl⟩
          · exact (List.getElem?_eq_some_iff.mp h).1
          · cases hquote
        next => exact hscan
      have hmove : scanTo isXdigit chars start ≤ if d = quotationMark then scanTo isXdigit chars start + 1
          else scanTo isXdigit chars start := by
        split
        · exact Nat.le_succ _
        · exact Nat.le_refl _
      obtain ⟨iter', hstore, hparsed⟩ := hon.hex hs.symm hall hle hodd rfl
        (hmove.trans (le_skipToNextField chars _)) (skipToNextField_le hbehind)
      rw [if_neg hodd, hstore, ok_bind, hend, ok_bind]
      exact ⟨_, _, rfl, hparsed⟩

/-! ### The others write nothing -/

lemma FieldParsed.of_move {value : IterValue} (hle : iter.linePos ≤ pos)
    (hplace : pos ≤ chars.length) (hvalue : Shows chars iter { iter with linePos := pos } (some value)) :
    FieldParsed chars iter { iter with linePos := pos } (some value) where
  advance := Advance.of_move hle hplace
  refused := by
    intro h
    cases h
  hands := hvalue

lemma readNumber_line (hplace : pos ≤ chars.length) (value : Int32) :
    ∃ stop value', readNumber ((chars ++ [0]).drop pos) pos value = .ok (stop, value') ∧
      pos ≤ stop ∧ stop ≤ chars.length := by
  have hnul : 0 ∈ (chars ++ [0]).drop pos := by
    rw [drop_append_of_le_length hplace]
    exact mem_append_right _ mem_cons_self
  obtain ⟨stop, value', hread, hle, hlen⟩ := readNumber_eq hnul pos value
  rw [length_drop, length_append, length_singleton] at hlen
  exact ⟨stop, value', hread, hle, by omega⟩

lemma OnLine.nextNumber (hon : OnLine iter chars) :
    ∃ value iter', iter.nextNumber = .ok (value, iter') ∧ FieldParsed chars iter iter' value := by
  rw [GAtResultIter.nextNumber, hon.withLine]
  obtain ⟨stop, value, hread, hle, hlen⟩ := readNumber_line hon.place 0
  dsimp only
  rw [hread, ok_bind]
  dsimp only
  split
  · exact ⟨_, _, rfl, hon.refuses⟩
  · exact ⟨_, _, rfl, FieldParsed.of_move (hle.trans (le_skipToNextField chars stop)) (skipToNextField_le hlen) trivial⟩

lemma OnLine.nextNumberDefault (hon : OnLine iter chars) (dflt : Int32) :
    ∃ value iter', iter.nextNumberDefault dflt = .ok (value, iter') ∧ FieldParsed chars iter iter' value := by
  rw [GAtResultIter.nextNumberDefault, hon.withLine]
  dsimp only
  split
  · exact ⟨_, _, rfl, FieldParsed.of_move (le_skipToNextField chars _) (skipToNextField_le hon.place) trivial⟩
  · exact hon.nextNumber

lemma OnLine.nextRange (hon : OnLine iter chars) :
    ∃ value iter', iter.nextRange = .ok (value, iter') ∧ FieldParsed chars iter iter' value := by
  rw [GAtResultIter.nextRange, hon.withLine]
  have hspaces := scanTo_le (· = space) hon.place
  have hfront := le_scanTo (· = space) chars iter.linePos
  obtain ⟨stop, low, hread, hle, hlen⟩ := readNumber_line hspaces 0
  dsimp only
  rw [hread, ok_bind]
  dsimp only
  split
  · exact ⟨_, _, rfl, hon.refuses⟩
  · obtain ⟨c, hat, hc⟩ := lineAt_eq hlen
    rw [hat, ok_bind]
    split
    · exact ⟨_, _, rfl, FieldParsed.of_move ((hfront.trans hle).trans (le_skipToNextField chars stop))
        (skipToNextField_le hlen) trivial⟩
    next hdash =>
      have hlt : stop + 1 ≤ chars.length := by
        rcases hc with h | ⟨-, rfl⟩
        · exact (List.getElem?_eq_some_iff.mp h).1
        · exact absurd (by decide) hdash
      obtain ⟨stop', high, hread', hle', hlen'⟩ := readNumber_line hlt 0
      rw [hread', ok_bind]
      dsimp only
      split
      · exact ⟨_, _, rfl, hon.refuses⟩
      · refine ⟨_, _, rfl, FieldParsed.of_move ?_ (skipToNextField_le hlen') trivial⟩
        exact (by omega : iter.linePos ≤ stop').trans (le_skipToNextField chars stop')

lemma OnLine.openList (hon : OnLine iter chars) :
    ∃ value iter', iter.openList = .ok (value, iter') ∧ FieldParsed chars iter iter' value := by
  rw [GAtResultIter.openList, hon.withLine]
  split
  next hopen =>
    have hlt := (List.getElem?_eq_some_iff.mp hopen).1
    exact ⟨_, _, rfl, FieldParsed.of_move ((Nat.le_succ _).trans (le_scanTo _ _ _)) (scanTo_le _ hlt) trivial⟩
  next => exact ⟨_, _, rfl, hon.refuses⟩

lemma OnLine.closeList (hon : OnLine iter chars) :
    ∃ value iter', iter.closeList = .ok (value, iter') ∧ FieldParsed chars iter iter' value := by
  rw [GAtResultIter.closeList, hon.withLine]
  split
  next hclose =>
    have hlt := (List.getElem?_eq_some_iff.mp hclose).1
    exact ⟨_, _, rfl, FieldParsed.of_move ((Nat.le_succ _).trans (le_skipToNextField chars _))
      (skipToNextField_le hlt) trivial⟩
  next => exact ⟨_, _, rfl, hon.refuses⟩

lemma fieldLength_eq (hok : chars[pos + fieldLength (chars.drop pos)]? ≠ some closingParen) :
    Fields.passed fieldMarks (· = comma) 0 false (chars.drop pos) = fieldLength (chars.drop pos) := by
  refine Fields.passed_congr ?_ 0 false (chars.drop pos) ?_
  · intro c hc
    rw [hc, Bool.true_or]
  · intro c hc hstop
    rw [getElem?_drop] at hc
    rw [Bool.or_eq_true_iff] at hstop
    refine hstop.resolve_right ?_
    intro hparen
    rw [of_decide_eq_true hparen] at hc
    exact hok hc

lemma skipToNextField_eq (chars : List UInt8) (pos : ℕ) :
    skipToNextField chars pos = pos + separatorLength (chars.drop pos) := by
  rw [skipToNextField]
  cases hat : chars[pos]? with
  | none =>
    have hlen := List.getElem?_eq_none_iff.mp hat
    rw [if_neg (by intro h; cases h), scanTo, drop_of_length_le hlen]
    rfl
  | some c =>
    rw [drop_eq_cons hat, separatorLength]
    by_cases hcomma : c = comma
    · rw [if_pos hcomma, if_pos (congrArg some hcomma), scanTo, Nat.add_assoc, Nat.add_comm 1]
    · rw [if_neg hcomma, if_neg fun h => hcomma (Option.some.inj h), scanTo, drop_eq_cons hat]

lemma OnLine.skipNext (hon : OnLine iter chars) (hok : chars[iter.linePos +
    fieldLength (chars.drop iter.linePos)]? ≠ some closingParen) : ∃ value iter', iter.skipNext =
    .ok (value, iter') ∧ FieldParsed chars iter iter' value ∧ if value = none then chars.drop
    iter.linePos = [] else iter'.linePos = iter.linePos + fieldLength (chars.drop iter.linePos) +
    separatorLength (chars.drop (iter.linePos + fieldLength (chars.drop iter.linePos))) := by
  have hskip := skipUntil_eq (show comma ≠ quotationMark ∧ comma ≠ openingParen by decide) hon.place
    (show chars.length - iter.linePos < chars.length + 1 by omega)
  have hlen := Fields.passed_le fieldMarks (fun c => c = comma || c = closingParen) 0 false
    (chars.drop iter.linePos)
  rw [fieldLength_eq hok] at hskip
  rw [← fieldLength, length_drop] at hlen
  have hplace := hon.place
  have hle : iter.linePos + fieldLength (chars.drop iter.linePos) ≤ chars.length := by omega
  obtain ⟨c, hread, hc⟩ := lineAt_eq hle
  rw [GAtResultIter.skipNext, hon.withLine, hskip, orFault_some, ok_bind, hread, ok_bind]
  by_cases hnothing : iter.linePos + fieldLength (chars.drop iter.linePos) = iter.linePos ∧ c ≠ comma
  · rw [if_pos hnothing]
    refine ⟨_, _, rfl, hon.refuses, ?_⟩
    rw [if_pos rfl]
    have hzero : fieldLength (chars.drop iter.linePos) = 0 := by omega
    -- an octet that nothing is passed of is a comma
    cases hrest : chars.drop iter.linePos with
    | nil => rfl
    | cons d ds =>
      have hd : chars[iter.linePos]? = some d := by
        rw [← Nat.add_zero iter.linePos, ← getElem?_drop, hrest]
        rfl
      have hpassed := fieldLength_eq hok
      rw [hzero, hrest] at hpassed
      have hcomma : d = comma := by
        simpa using Fields.stop_of_passed_eq_zero hpassed
      rw [hnothing.1, hd] at hc
      rcases hc with h | ⟨h, -⟩
      · exact absurd ((Option.some.inj h).symm.trans hcomma) hnothing.2
      · rw [h, drop_length] at hrest
        cases hrest
  · rw [if_neg hnothing]
    refine ⟨_, _, rfl, FieldParsed.of_move ((Nat.le_add_right _ _).trans (le_skipToNextField chars _))
      (skipToNextField_le hle) trivial, ?_⟩
    rw [if_neg (by intro h; cases h)]
    exact skipToNextField_eq chars _

lemma OnLine.rawLine (hon : OnLine iter chars) :
    ∃ value iter', iter.rawLine = .ok (value, iter') ∧ FieldParsed chars iter iter' value := by
  rw [GAtResultIter.rawLine, hon.withLine]
  exact ⟨_, _, rfl, FieldParsed.of_move (Nat.le_refl _) hon.place trivial⟩

/-! ### Another line -/

lemma copyLine_eq (iter : GAtResultIter) (h : chars.length + 1 ≤ iter.buf.length) :
    ∃ buf, iter.copyLine chars = .ok { iter with buf := buf } ∧ buf.length = iter.buf.length ∧
      ∀ i, i < chars.length → buf[i]? = chars[i]? := by
  refine ⟨_, if_pos h, ?_, ?_⟩
  · rw [length_append, length_cons, length_drop]
    omega
  · intro i hi
    exact getElem?_append_left hi

/-- A line, or none: then only what has been handed over matters. -/
structure Fresh (iter iter' : GAtResultIter) (value : Option IterValue) : Prop where
  another : value ≠ none → ∃ chars, OnLine iter' chars
  ended : value = none → iter'.l = .null ∧ iter'.buf = iter.buf ∧ iter'.linePos = iter.linePos
  silent : value = none ∨ value = some .done

lemma nextLine_eq (hwhole : iter.buf.length = resultLineLengthMax + 1) (front : List UInt8)
    (lines : List HeapString) :
    ∃ value iter', iter.nextLine front lines = .ok (value, iter') ∧ Fresh iter iter' value := by
  induction lines generalizing iter with
  | nil => exact ⟨_, _, rfl, fun h => absurd rfl h, fun _ => ⟨rfl, rfl, rfl⟩, .inl rfl⟩
  | cons line lines ih =>
    -- the line is copied with the cursor behind the prefix
    have hcopy (pos : ℕ) (hshort : line.bytes.length ≤ resultLineLengthMax)
        (hpos : pos ≤ line.bytes.length) :
        ∃ value iter', (do
            let iter ← GAtResultIter.copyLine ⟨.node (some line) lines, iter.buf, pos⟩ line.bytes
            .ok (some .done, iter) : IterResult) = .ok (value, iter') ∧ Fresh iter iter' value := by
      obtain ⟨buf, hstore, hlen, hsame⟩ :=
        copyLine_eq ⟨.node (some line) lines, iter.buf, pos⟩
          (show line.bytes.length + 1 ≤ iter.buf.length by rw [hwhole]; omega)
      rw [hstore]
      refine ⟨_, _, rfl, fun _ => ⟨line.bytes, ⟨line, lines, rfl, rfl⟩, line.no_nul, hshort, ?_, hpos, ?_⟩,
        fun h => ?_, .inr rfl⟩
      · exact hlen.trans hwhole
      · exact fun i _ hlt _ => hsame i hlt
      · cases h
    obtain ⟨value, iter', hnext, hfresh⟩ :=
      @ih ⟨.node (some line) lines, iter.buf, iter.linePos⟩ hwhole
    rw [GAtResultIter.nextLine]
    dsimp only
    by_cases hlong : line.bytes.length > resultLineLengthMax
    · rw [if_pos hlong]
      exact ⟨value, iter', hnext, hfresh.another, hfresh.ended, hfresh.silent⟩
    · rw [if_neg hlong]
      by_cases hfront : front.length = 0
      · rw [if_pos hfront]
        exact hcopy 0 (Nat.le_of_not_lt hlong) (Nat.zero_le _)
      · rw [if_neg hfront]
        by_cases hother : front.isPrefixOf line.bytes = false
        · rw [if_pos hother]
          exact ⟨value, iter', hnext, hfresh.another, hfresh.ended, hfresh.silent⟩
        · rw [if_neg hother]
          rw [Bool.not_eq_false, isPrefixOf_iff_prefix] at hother
          exact hcopy _ (Nat.le_of_not_lt hlong) (scanTo_le _ hother.length_le)

/-! ## Runs -/

lemma OnLine.call (hon : OnLine iter chars) {call : IterCall} (hcall : ∀ front, call ≠ .next front)
    (hok : CallOk iter call) : ∃ value iter', iter.call call = .ok (value, iter') ∧
    FieldParsed chars iter iter' value ∧ (call = .skipNext → if value = none then chars.drop
    iter.linePos = [] else iter'.linePos = iter.linePos + fieldLength (chars.drop iter.linePos) +
    separatorLength (chars.drop (iter.linePos + fieldLength (chars.drop iter.linePos)))) := by
  have hline : iter.line = some chars := by
    obtain ⟨data, next, hl, rfl⟩ := hon.node
    rw [GAtResultIter.line, hl]
  have hplain {other : IterCall} (hother : other ≠ .skipNext)
      (h : ∃ value iter', iter.call other = .ok (value, iter') ∧ FieldParsed chars iter iter' value) :
      ∃ value iter', iter.call other = .ok (value, iter') ∧ FieldParsed chars iter iter' value ∧
        (other = .skipNext → if value = none then chars.drop iter.linePos = []
          else iter'.linePos = iter.linePos + fieldLength (chars.drop iter.linePos) +
            separatorLength (chars.drop (iter.linePos + fieldLength (chars.drop iter.linePos)))) := by
    obtain ⟨value, iter', hcalled, hparsed⟩ := h
    exact ⟨value, iter', hcalled, hparsed, fun h => absurd h hother⟩
  cases call with
  | next front => exact absurd rfl (hcall front)
  | rawLine => exact hplain (by decide) hon.rawLine
  | nextUnquotedString => exact hplain (by decide) hon.nextUnquotedString
  | nextString => exact hplain (by decide) hon.nextString
  | nextHexstring length =>
    exact hplain (by intro h; cases h) (hon.nextHexstring (hok chars hline))
  | nextNumber => exact hplain (by decide) hon.nextNumber
  | nextNumberDefault dflt => exact hplain (by intro h; cases h) (hon.nextNumberDefault dflt)
  | nextRange => exact hplain (by decide) hon.nextRange
  | skipNext =>
    obtain ⟨value, iter', hcalled, hparsed, hskipped⟩ := hon.skipNext (hok chars hline)
    exact ⟨value, iter', hcalled, hparsed, fun _ => hskipped⟩
  | openList => exact hplain (by decide) hon.openList
  | closeList => exact hplain (by decide) hon.closeList

/-- A session: on a line whose strings are kept, or behind the last line, where nothing is written any
more. -/
def SessionInv : Option IterSession → Prop
  | none => False
  | some s => (∃ chars, OnLine s.iter chars ∧ ∀ h ∈ s.held, Kept chars s.iter.buf s.iter.linePos h) ∨
      s.iter.l = .null ∧ ∀ h ∈ s.held, h.1.read s.iter.buf = some h.2

lemma step_eq {s : IterSession} {call : IterCall} {value : Option IterValue}
    (h : s.iter.call call = .ok (value, iter')) : IterSession.step (some s) call = (some
    ⟨s.iter, call, value, iter', call.heldAt s.held value⟩, some ⟨iter', (value.toList.filterMap fun
    v => (v.read iter'.buf).map fun content => (v, content)) ++ call.heldAt s.held value⟩) := by
  rw [IterSession.step, h]

lemma heldAt_eq {call : IterCall} (hcall : ∀ front, call ≠ .next front)
    (held : List (IterValue × List UInt8)) (value : Option IterValue) : call.heldAt held value = held := by
  cases call with
  | next front => exact absurd rfl (hcall front)
  | _ => rfl

variable {held : List (IterValue × List UInt8)} {call : IterCall}

lemma OnLine.line_eq (hon : OnLine iter chars) : iter.line = some chars := by
  obtain ⟨data, next, hl, rfl⟩ := hon.node
  rw [GAtResultIter.line, hl]

lemma OnLine.meets (hon : OnLine iter chars) (hheld : ∀ h ∈ held, Kept chars iter.buf iter.linePos h)
    (hcall : ∀ front, call ≠ .next front) (hok : CallOk iter call) :
    (∃ r, (IterSession.step (some ⟨iter, held⟩) call).1 = some r ∧ CallMeets r) ∧
      SessionInv (IterSession.step (some ⟨iter, held⟩) call).2 := by
  obtain ⟨value, iter', hcalled, hparsed, hskipped⟩ := hon.call hcall hok
  have hon' := hon.advance hparsed.advance
  have hshort := hon.short
  have hkept : ∀ h ∈ held, Kept chars iter'.buf iter'.linePos h := by
    intro h hh
    exact hparsed.advance.kept (by rw [hon.whole]; omega) (hheld h hh)
  have hands := hparsed.hands
  rw [step_eq hcalled, heldAt_eq hcall]
  refine ⟨⟨_, rfl, ⟨?_, hparsed.refused, ?_, ?_, ?_, ?_⟩⟩, .inl ⟨chars, hon', ?_⟩⟩
  · intro chars' hline
    rw [hon'.line_eq] at hline
    cases hline
    exact hon'.place
  · intro str chars' hvalue hline
    rw [hon.line_eq] at hline
    cases hline
    dsimp only at hvalue
    rw [hvalue] at hands
    exact Kept.read hands
  · intro str length chars' hvalue hline
    rw [hon.line_eq] at hline
    cases hline
    dsimp only at hvalue
    rw [hvalue] at hands
    obtain ⟨octets, hoctets, htext⟩ := hands
    exact ⟨octets, hoctets.read, htext⟩
  · intro hskip chars' hline
    rw [hon.line_eq] at hline
    cases hline
    exact hskipped hskip
  · intro h hh
    exact (hkept h hh).read
  · intro h hh
    rcases mem_append.mp hh with hnew | hold
    · -- what has just been handed over
      rw [mem_filterMap] at hnew
      obtain ⟨v, hv, hread⟩ := hnew
      rw [Option.mem_toList] at hv
      rw [hv] at hands
      obtain ⟨content, hcontent, rfl⟩ := Option.map_eq_some_iff.mp hread
      cases v with
      | text str =>
        have htext : Kept chars iter'.buf iter'.linePos
            (.text str, fieldContent (chars.drop iter.linePos)) := hands
        have hsame := htext.read
        rw [hcontent] at hsame
        cases hsame
        exact htext
      | octets str length =>
        obtain ⟨octets, hoctets, -⟩ := hands
        have hsame := hoctets.read
        rw [hcontent] at hsame
        cases hsame
        exact hoctets
      | done => cases hcontent
      | number => cases hcontent
      | range => cases hcontent
      | rawLine => cases hcontent
    · exact hkept h hold

lemma OnLine.meets_next (hon : OnLine iter chars)
    (hheld : ∀ h ∈ held, Kept chars iter.buf iter.linePos h) (front : List UInt8) :
    (∃ r, (IterSession.step (some ⟨iter, held⟩) (.next front)).1 = some r ∧ CallMeets r) ∧
      SessionInv (IterSession.step (some ⟨iter, held⟩) (.next front)).2 := by
  obtain ⟨data, lines, hl, -⟩ := hon.node
  obtain ⟨value, iter', hnext, hfresh⟩ := nextLine_eq hon.whole front lines
  have hcalled : iter.call (.next front) = .ok (value, iter') := by
    rw [GAtResultIter.call, GAtResultIter.next, hl]
    exact hnext
  rw [step_eq hcalled]
  rcases hfresh.silent with rfl | rfl
  · obtain ⟨hnull, hbuf, hpos⟩ := hfresh.ended rfl
    have hkept : ∀ h ∈ held, h.1.read iter'.buf = some h.2 := by
      intro h hh
      rw [hbuf]
      exact (hheld h hh).read
    have hnone : iter'.line = none := by rw [GAtResultIter.line, hnull]
    refine ⟨⟨_, rfl, ⟨?_, fun _ => hpos, ?_, ?_, ?_, hkept⟩⟩, .inr ⟨hnull, hkept⟩⟩
    · intro chars' hline
      rw [hnone] at hline
      cases hline
    · intro str chars' hvalue
      cases hvalue
    · intro str length chars' hvalue
      cases hvalue
    · intro hskip
      cases hskip
  · obtain ⟨chars', hon'⟩ := hfresh.another (by intro h; cases h)
    refine ⟨⟨_, rfl, ⟨?_, ?_, ?_, ?_, ?_, ?_⟩⟩, .inl ⟨chars', hon', ?_⟩⟩
    · intro other hline
      rw [hon'.line_eq] at hline
      cases hline
      exact hon'.place
    · intro hvalue
      cases hvalue
    · intro str other hvalue
      cases hvalue
    · intro str length other hvalue
      cases hvalue
    · intro hskip
      cases hskip
    · intro h hh
      cases hh
    · intro h hh
      cases hh

lemma call_null (hnull : iter.l = .null) (hcall : ∀ front, call ≠ .next front) :
    iter.call call = .ok (none, iter) := by
  have hline (parse : List UInt8 → IterResult) : iter.withLine parse = .ok (none, iter) := by
    rw [GAtResultIter.withLine, hnull]
  cases call with
  | next front => exact absurd rfl (hcall front)
  | _ =>
    simp only [GAtResultIter.call, GAtResultIter.rawLine, GAtResultIter.nextUnquotedString,
      GAtResultIter.nextString, GAtResultIter.nextHexstring, GAtResultIter.nextNumber,
      GAtResultIter.nextNumberDefault, GAtResultIter.nextRange, GAtResultIter.skipNext,
      GAtResultIter.openList, GAtResultIter.closeList, hline]

lemma meets_null (hnull : iter.l = .null) (hheld : ∀ h ∈ held, h.1.read iter.buf = some h.2)
    (hcall : ∀ front, call ≠ .next front) : (∃ r, (IterSession.step (some ⟨iter, held⟩) call).1 =
    some r ∧ CallMeets r) ∧ SessionInv (IterSession.step (some ⟨iter, held⟩) call).2 := by
  have hnone : iter.line = none := by rw [GAtResultIter.line, hnull]
  rw [step_eq (call_null hnull hcall), heldAt_eq hcall]
  refine ⟨⟨_, rfl, ⟨?_, fun _ => rfl, ?_, ?_, ?_, hheld⟩⟩, .inr ⟨hnull, hheld⟩⟩
  · intro chars hline
    rw [hnone] at hline
    cases hline
  · intro str chars hvalue
    cases hvalue
  · intro str length chars hvalue
    cases hvalue
  · intro _ chars hline
    rw [hnone] at hline
    cases hline

/-- The step: a call that meets the condition does what it has to, and so may the next one. -/
lemma SessionInv.step {s : Option IterSession} (hinv : SessionInv s) (hok : SessionOk s call) :
    (∃ r, (IterSession.step s call).1 = some r ∧ CallMeets r) ∧
      SessionInv (IterSession.step s call).2 := by
  cases s with
  | none => exact hinv.elim
  | some s =>
    by_cases hnext : ∃ front, call = .next front
    · obtain ⟨front, rfl⟩ := hnext
      rcases hinv with ⟨chars, hon, hheld⟩ | ⟨hnull, -⟩
      · exact hon.meets_next hheld front
      · exact absurd hnull hok
    · have hcall : ∀ front, call ≠ .next front := fun front h => hnext ⟨front, h⟩
      rcases hinv with ⟨chars, hon, hheld⟩ | ⟨hnull, hheld⟩
      · exact hon.meets hheld hcall hok
      · exact meets_null hnull hheld hcall

/-- The run: after a successful `g_at_result_iter_next`, calls that each meet the condition do what they
have to, whatever the lines are and whatever has been in the buffer. -/
theorem gAtResultIter_calls (lines : List HeapString) {buf : List UInt8}
    (hbuf : buf.length = resultLineLengthMax + 1) {front : List UInt8} (hnext :
    (GAtResultIter.init lines buf).next front = .ok (some .done, iter)) {calls : List IterCall}
    (hok : Machine.AllSteps IterSession.step SessionOk (some ⟨iter, []⟩) calls) : ∀ r ∈ (Machine.run
    IterSession.step (some ⟨iter, []⟩) calls).1, ∃ meets, r = some meets ∧ CallMeets meets := by
  have hinit : (GAtResultIter.init lines buf).next front =
      (GAtResultIter.init lines buf).nextLine front lines := rfl
  obtain ⟨value, iter', hcalled, hfresh⟩ :=
    @nextLine_eq (GAtResultIter.init lines buf) hbuf front lines
  rw [← hinit, hnext] at hcalled
  cases hcalled
  obtain ⟨chars, hon⟩ := hfresh.another (by intro h; cases h)
  have hstart : SessionInv (some ⟨iter, []⟩) := .inl ⟨chars, hon, fun h hh => by cases hh⟩
  have hstep (s : Option IterSession) (call : IterCall) (hinv : SessionInv s) (hok : SessionOk s call) :=
    SessionInv.step hinv hok
  exact (Machine.run_outputs hstep hstart hok).1

lemma next_only (line : HeapString) (hshort : line.bytes.length ≤ resultLineLengthMax) :
    (GAtResultIter.init [line] (List.replicate (resultLineLengthMax + 1) 0)).next [] =
      .ok (some .done, ⟨.node (some line) [], line.bytes ++
        0 :: (List.replicate (resultLineLengthMax + 1) 0).drop (line.bytes.length + 1), 0⟩) := by
  have hroom : line.bytes.length + 1 ≤ (List.replicate (resultLineLengthMax + 1) (0 : UInt8)).length := by
    rw [length_replicate]
    omega
  rw [GAtResultIter.next, GAtResultIter.init]
  dsimp only
  rw [GAtResultIter.nextLine]
  dsimp only
  rw [if_neg (Nat.not_lt.mpr hshort), if_pos length_nil, GAtResultIter.copyLine, if_pos hroom]
  rfl

/-- The line `7,"a"`. -/
def exampleLine : HeapString := ⟨[0x37, 0x2c, 0x22, 0x61, 0x22], by decide⟩

theorem gAtResultIter_calls_example : exampleLine.bytes.length < resultLineLengthMax ∧
    ∀ r ∈ (Machine.run IterSession.step (some ⟨⟨.node (some exampleLine) [], exampleLine.bytes ++
        0 :: (List.replicate (resultLineLengthMax + 1) 0).drop (exampleLine.bytes.length + 1), 0⟩, []⟩)
        [.nextNumber, .nextString]).1, ∃ meets, r = some meets ∧ CallMeets meets :=
  ⟨by decide, gAtResultIter_calls [exampleLine] length_replicate
    (next_only exampleLine (show 5 ≤ 2048 by decide)) ⟨trivial, trivial, trivial⟩⟩

/-- The line of a comma. -/
def omittedLine : HeapString := ⟨[0x2c], by decide⟩

/-- An omitted hex string leaves the caller's length, which is 4 here: it is in front of the buffer. -/
theorem gAtResultIter_omitted_hex : (GAtResultIter.init [omittedLine]
    (List.replicate (resultLineLengthMax + 1) 0)).next [] = .ok (some .done, ⟨.node
    (some omittedLine) [], [0x2c] ++ 0 :: (List.replicate (resultLineLengthMax + 1) 0).drop 2, 0⟩) ∧
    ¬ ∀ r ∈ (Machine.run IterSession.step (some ⟨⟨.node (some omittedLine) [], [0x2c] ++ 0 ::
    (List.replicate (resultLineLengthMax + 1) 0).drop 2, 0⟩, []⟩) [.nextHexstring 4]).1, ∃ meets,
    r = some meets ∧ CallMeets meets := by
  refine ⟨next_only omittedLine (show 1 ≤ 2048 by decide), ?_⟩
  intro hall
  generalize (List.replicate (resultLineLengthMax + 1) (0 : UInt8)).drop 2 = rest at hall
  have hstep : IterSession.step (some ⟨⟨.node (some omittedLine) [], [0x2c] ++ 0 :: rest, 0⟩, []⟩)
      (.nextHexstring 4) = (some ⟨⟨.node (some omittedLine) [], [0x2c] ++ 0 :: rest, 0⟩, .nextHexstring 4,
        some (.octets (-4) 4), ⟨.node (some omittedLine) [], 0 :: 0 :: rest, 1⟩, []⟩,
        (IterSession.step (some ⟨⟨.node (some omittedLine) [], [0x2c] ++ 0 :: rest, 0⟩, []⟩)
          (.nextHexstring 4)).2) := rfl
  rw [Machine.run_cons, hstep] at hall
  obtain ⟨meets, hsome, hmeets⟩ := hall _ mem_cons_self
  cases hsome
  obtain ⟨octets, hread, -⟩ := hmeets.octets (-4) 4 [0x2c] rfl rfl
  cases hread

end Phonelets.Gatchat
