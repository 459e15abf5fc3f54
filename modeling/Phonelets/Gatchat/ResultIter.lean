import Phonelets.Lib.CArray
import Phonelets.Lib.Decoder
import Phonelets.Lib.Fields

/-! # The fields of an AT result

`gatresult.c`: parsers that share a cursor in the chars and a copy of it, in which they end the
strings they hand over and write the octets of a hex string. Positions are natural numbers, and a
parser that has returned `FALSE` has `none`.
-/

namespace Phonelets.Gatchat

/-- `G_AT_RESULT_LINE_LENGTH_MAX` -/
def resultLineLengthMax : ℕ := 2048

/-- `iter->l`: `NULL`, or a node with its data and the lines behind it. The data of `pre` is
`NULL`. -/
inductive ResultNode
  | null
  | node (data : Option HeapString) (next : List HeapString)

structure GAtResultIter where
  l : ResultNode
  buf : List UInt8
  linePos : ℕ

/-- What a call has come back with besides `TRUE`: pointers are places in `iter->buf`, which may be
in front of it. -/
inductive IterValue
  | done
  | text (str : ℕ)
  | octets (str length : ℤ)
  | number (number : Int32)
  | range (min max : Int32)
  | rawLine (chars : List UInt8)

abbrev IterResult : Type := Outcome (Option IterValue × GAtResultIter)

/-! ## Reading a line -/

def comma : UInt8 := 0x2c
def space : UInt8 := 0x20
def quotationMark : UInt8 := 0x22
def openingParen : UInt8 := 0x28
def closingParen : UInt8 := 0x29

/-- `line[i]`, where the octet behind the line is its NUL. -/
def lineAt (chars : List UInt8) (i : ℕ) : Outcome UInt8 := .orFault (chars ++ [0])[i]?

/-- `while (i < len && p(line[i])) i += 1;` -/
def scanTo (p : UInt8 → Bool) (chars : List UInt8) (i : ℕ) : ℕ := i + ((chars.drop i).takeWhile p).length

def skipToNextField (chars : List UInt8) (pos : ℕ) : ℕ :=
  scanTo (· = space) chars (if chars[pos]? = some comma then pos + 1 else pos)

def isDigit (c : UInt8) : Bool := 0x30 ≤ c && c ≤ 0x39

/-- `g_ascii_isxdigit` -/
def isXdigit (c : UInt8) : Bool := isDigit c || 0x41 ≤ c && c ≤ 0x46 || 0x61 ≤ c && c ≤ 0x66

def xdigitValue (c : UInt8) : UInt8 :=
  if isDigit c then c - 0x30 else if c ≤ 0x46 then c - 0x37 else c - 0x57

/-- `while (line[end] >= '0' && line[end] <= '9')`, in the memory from `end` on: `end` and `value` behind
the digits. -/
def readNumber : List UInt8 → ℕ → Int32 → Outcome (ℕ × Int32)
  | [], _, _ => .fault
  | c :: cs, i, value =>
    if isDigit c then readNumber cs (i + 1) (value * 10 + (c - 0x30).toUInt32.toInt32)
    else .ok (i, value)

/-- `skip_until`; each round and each call of itself takes one of the fuel. -/
def skipUntil (chars : List UInt8) : ℕ → ℕ → UInt8 → Option ℕ
  | 0, _, _ => none
  | fuel + 1, i, delim =>
    match chars[i]? with
    | none => some i
    | some c =>
      if c = delim then some i
      else if c = quotationMark then
        let j := scanTo (· ≠ quotationMark) chars (i + 1)
        skipUntil chars fuel (if j < chars.length then j + 1 else j) delim
      else if c ≠ openingParen then skipUntil chars fuel (i + 1) delim
      else
        match skipUntil chars fuel (i + 1) closingParen with
        | none => none
        | some j => skipUntil chars fuel (if j < chars.length then j + 1 else j) delim

namespace GAtResultIter

/-- `iter->buf[i] = c` -/
def store (iter : GAtResultIter) (i : ℕ) (c : UInt8) : Outcome GAtResultIter :=
  if i < iter.buf.length then .ok { iter with buf := iter.buf.set i c } else .fault

/-- The line, and `FALSE` when there is none. -/
def withLine (iter : GAtResultIter) (parse : List UInt8 → IterResult) : IterResult :=
  match iter.l with
  | .null => .ok (none, iter)
  | .node none _ => .fault
  | .node (some line) _ => parse line.bytes

/-- `iter->line_pos = skip_to_next_field(line, end, len);` -/
def moveTo (iter : GAtResultIter) (chars : List UInt8) (pos : ℕ) : GAtResultIter :=
  { iter with linePos := skipToNextField chars pos }

/-! ## The parsers -/

/-- `g_at_result_iter_init` -/
def init (lines : List HeapString) (buf : List UInt8) : GAtResultIter where
  l := .node none lines
  buf := buf
  linePos := 0

/-- `strcpy(iter->buf, line)` -/
def copyLine (iter : GAtResultIter) (chars : List UInt8) : Outcome GAtResultIter :=
  if chars.length + 1 ≤ iter.buf.length then
    .ok { iter with buf := chars ++ 0 :: iter.buf.drop (chars.length + 1) }
  else .fault

/-- The loop of `g_at_result_iter_next`. -/
def nextLine (iter : GAtResultIter) (front : List UInt8) : List HeapString → IterResult
  | [] => .ok (none, { iter with l := .null })
  | line :: next =>
    let iter := { iter with l := .node (some line) next }
    if line.bytes.length > resultLineLengthMax then nextLine iter front next
    else if front.length = 0 then do
      let iter ← copyLine { iter with linePos := 0 } line.bytes
      .ok (some .done, iter)
    else if front.isPrefixOf line.bytes = false then nextLine iter front next
    else do
      let iter ← copyLine { iter with linePos := scanTo (· = space) line.bytes front.length } line.bytes
      .ok (some .done, iter)

/-- `g_at_result_iter_next`, where no prefix is the empty one. -/
def next (iter : GAtResultIter) (front : List UInt8) : IterResult :=
  match iter.l with
  | .null => .fault
  | .node _ next => iter.nextLine front next

/-- `g_at_result_iter_raw_line` -/
def rawLine (iter : GAtResultIter) : IterResult :=
  iter.withLine fun chars => .ok (some (.rawLine (chars.drop iter.linePos)), iter)

/-- `g_at_result_iter_next_unquoted_string` -/
def nextUnquotedString (iter : GAtResultIter) : IterResult :=
  iter.withLine fun chars => do
    let pos := iter.linePos
    let c ← lineAt chars pos
    if c = comma then do
      let iter ← iter.store pos 0
      .ok (some (.text pos), iter.moveTo chars pos)
    else if c = quotationMark ∨ c = closingParen then .ok (none, iter)
    else do
      let stop := scanTo (fun c => c ≠ comma && c ≠ closingParen) chars pos
      let iter ← iter.store stop 0
      .ok (some (.text pos), iter.moveTo chars stop)

/-- `g_at_result_iter_next_string` -/
def nextString (iter : GAtResultIter) : IterResult :=
  iter.withLine fun chars => do
    let pos := iter.linePos
    let c ← lineAt chars pos
    if c = comma then do
      let iter ← iter.store pos 0
      .ok (some (.text pos), iter.moveTo chars pos)
    else if c ≠ quotationMark then .ok (none, iter)
    else do
      let stop := scanTo (· ≠ quotationMark) chars (pos + 1)
      let d ← lineAt chars stop
      if d ≠ quotationMark then .ok (none, iter)
      else do
        let iter ← iter.store stop 0
        .ok (some (.text (pos + 1)), iter.moveTo chars (stop + 1))

/-- `sscanf(line + pos, "%02hhx", bufpos++)` for each two digits. -/
def storeHex (iter : GAtResultIter) (bufpos : ℕ) : List UInt8 → Outcome GAtResultIter
  | a :: b :: digits => do
      let iter ← iter.store bufpos (xdigitValue a * 16 + xdigitValue b)
      storeHex iter (bufpos + 1) digits
  | _ => .ok iter

/-- `g_at_result_iter_next_hexstring`; `length` is what the caller's variable has before. -/
def nextHexstring (iter : GAtResultIter) (length : ℤ) : IterResult :=
  iter.withLine fun chars => do
    let pos := iter.linePos
    let c ← lineAt chars pos
    if c = comma then do
      let iter ← iter.store pos 0
      .ok (some (.octets ((pos : ℤ) - length) length), iter.moveTo chars pos)
    else do
      let start := if c = quotationMark then pos + 1 else pos
      let stop := scanTo isXdigit chars start
      if (stop - start) % 2 = 1 then .ok (none, iter)
      else do
        let length := (stop - start) / 2
        let iter ← iter.storeHex pos ((chars.drop start).take (stop - start))
        let d ← lineAt chars stop
        .ok (some (.octets ((pos + length : ℕ) - (length : ℤ)) length),
          iter.moveTo chars (if d = quotationMark then stop + 1 else stop))

/-- `g_at_result_iter_next_number` -/
def nextNumber (iter : GAtResultIter) : IterResult :=
  iter.withLine fun chars => do
    let pos := iter.linePos
    let (stop, value) ← readNumber ((chars ++ [0]).drop pos) pos 0
    if pos = stop then .ok (none, iter)
    else .ok (some (.number value), iter.moveTo chars stop)

/-- `g_at_result_iter_next_number_default` -/
def nextNumberDefault (iter : GAtResultIter) (dflt : Int32) : IterResult :=
  iter.withLine fun chars =>
    let pos := skipToNextField chars iter.linePos
    if pos ≠ iter.linePos then .ok (some (.number dflt), { iter with linePos := pos })
    else iter.nextNumber

/-- `g_at_result_iter_next_range` -/
def nextRange (iter : GAtResultIter) : IterResult :=
  iter.withLine fun chars => do
    let pos := scanTo (· = space) chars iter.linePos
    let (stop, low) ← readNumber ((chars ++ [0]).drop pos) pos 0
    if pos = stop then .ok (none, iter)
    else do
      let c ← lineAt chars stop
      if c ≠ 0x2d then .ok (some (.range low low), iter.moveTo chars stop)
      else do
        let pos := stop + 1
        let (stop, high) ← readNumber ((chars ++ [0]).drop pos) pos 0
        if pos = stop then .ok (none, iter)
        else .ok (some (.range low high), iter.moveTo chars stop)

/-- `g_at_result_iter_skip_next` -/
def skipNext (iter : GAtResultIter) : IterResult :=
  iter.withLine fun chars => do
    let skippedTo ← .orFault (skipUntil chars (chars.length + 1) iter.linePos comma)
    let c ← lineAt chars skippedTo
    if skippedTo = iter.linePos ∧ c ≠ comma then .ok (none, iter)
    else .ok (some .done, iter.moveTo chars skippedTo)

/-- `g_at_result_iter_open_list` -/
def openList (iter : GAtResultIter) : IterResult :=
  iter.withLine fun chars =>
    if chars[iter.linePos]? = some openingParen then
      .ok (some .done, { iter with linePos := scanTo (· = space) chars (iter.linePos + 1) })
    else .ok (none, iter)

/-- `g_at_result_iter_close_list` -/
def closeList (iter : GAtResultIter) : IterResult :=
  iter.withLine fun chars =>
    if chars[iter.linePos]? = some closingParen then .ok (some .done, iter.moveTo chars (iter.linePos + 1))
    else .ok (none, iter)

end GAtResultIter

/-- The calls on an iterator, with what the caller puts in. -/
inductive IterCall
  | next (front : List UInt8)
  | rawLine
  | nextUnquotedString
  | nextString
  | nextHexstring (length : ℤ)
  | nextNumber
  | nextNumberDefault (dflt : Int32)
  | nextRange
  | skipNext
  | openList
  | closeList
deriving DecidableEq

def GAtResultIter.call (iter : GAtResultIter) : IterCall → IterResult
  | .next front => iter.next front
  | .rawLine => iter.rawLine
  | .nextUnquotedString => iter.nextUnquotedString
  | .nextString => iter.nextString
  | .nextHexstring length => iter.nextHexstring length
  | .nextNumber => iter.nextNumber
  | .nextNumberDefault dflt => iter.nextNumberDefault dflt
  | .nextRange => iter.nextRange
  | .skipNext => iter.skipNext
  | .openList => iter.openList
  | .closeList => iter.closeList

end Phonelets.Gatchat
