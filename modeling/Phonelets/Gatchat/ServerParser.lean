import Mathlib.Data.List.Basic

/-! # The commands of a command line

`parse_extended_command` and `parse_basic_command` of the AT server, without the call of the
command's handler: they say how much of the line a command takes and what is passed to the
handler. An octet is a character here. `steps` is the whole line, command by command, and
`parse_consumed` is why there is an end to it.
-/

namespace Phonelets.Gatchat

/-- The character that ends a string. -/
def nul : Char := '\x00'

def quote : Char := '\x22'

/-- `GAtServerRequestType` -/
inductive RequestType
  | commandOnly
  | query
  | support
  | set
deriving DecidableEq

/-- What `at_command_notify` is called with. -/
structure AtCommand where
  name : List Char
  type : RequestType
  text : List Char
deriving DecidableEq

/-- What is found at the front of a line, and how much of the line it takes. -/
inductive Parsed
  | command (consumed : ℕ) (command : AtCommand)
  /-- The parser itself sends the error. -/
  | refused (consumed : ℕ)
  /-- No command: 0 is consumed. -/
  | nothing
deriving DecidableEq

/-- `buf[i]` -/
def charAt (buf : List Char) (i : ℕ) : Char := buf.getD i nul

def isExtendedCommandPrefix (c : Char) : Bool := c = '+' || c = '*' || c = '!' || c = '%'

/-- The valid characters of an extended command's name, `valid_extended_chars`. -/
def isExtendedChar (c : Char) : Bool := c.isUpper || c.isDigit || "!%-./:_".toList.contains c

def isSeparator (c : Char) : Bool := c = ';' || c = '?' || c = '='

/-- The loop of `parse_extended_command` up to the end of the command: its type, where its
text begins and where it ends. -/
def scanExtended (inString seenEquals : Bool) (type : RequestType) (cmdStart i : ℕ) (previous : Char) :
    List Char → Option (RequestType × ℕ × ℕ)
  | [] => some (type, cmdStart, i)
  | c :: rest =>
    if c = ';' && !inString then some (type, cmdStart, i)
    else if c = quote then scanExtended (!inString) seenEquals type cmdStart (i + 1) c rest
    else if inString then scanExtended inString seenEquals type cmdStart (i + 1) c rest
    else if c = '?' then
      if seenEquals && previous ≠ '=' then none
      else if charAt rest 0 ≠ nul && charAt rest 0 ≠ ';' then none
      else
        scanExtended inString seenEquals (if seenEquals then .support else .query) (cmdStart + 1)
          (i + 1) c rest
    else if c = '=' then
      if seenEquals then none
      else scanExtended inString true .set (cmdStart + 1) (i + 1) c rest
    else scanExtended inString seenEquals type cmdStart (i + 1) c rest

def parseExtendedCommand (buf : List Char) : Parsed :=
  let prefixLen := (buf.takeWhile fun c => !isSeparator c).length
  if 17 < prefixLen ∨ prefixLen < 2 then .nothing
  else
    let name := (buf.take prefixLen).map Char.toUpper
    if !(name.drop 1).all isExtendedChar then .nothing
    else if charAt name 1 ≤ 'A' ∨ 'Z' ≤ charAt name 1 then .nothing
    else match scanExtended false false .commandOnly prefixLen prefixLen (charAt buf (prefixLen - 1))
        (buf.drop prefixLen) with
      | none => .nothing
      | some (type, cmdStart, i) => .command (i + 1) ⟨name, type, (buf.take i).drop cmdStart⟩

def getBasicPrefixSize (buf : List Char) : ℕ :=
  if (charAt buf 0).isAlpha then
    if (charAt buf 0).toUpper = 'S' then
      let size := 1 + ((buf.drop 1).takeWhile Char.isDigit).length
      if size = 1 then 0
      else if 2 < size ∧ charAt buf 1 = '0' then 0
      else size
    else 1
  else if charAt buf 0 = '&' then
    if (charAt buf 1).isAlpha then 2 else 0
  else 0

/-- The part of `parse_basic_command` up to `done`, for a name of the given size. -/
def scanBasic (buf : List Char) (size : ℕ) : RequestType × ℕ × ℕ :=
  if (charAt buf 0).toUpper = 'D' then
    let i := size + ((buf.drop size).takeWhile (· ≠ ';')).length
    (.set, size, if charAt buf i = ';' then i + 1 else i)
  else
    let seenEquals := charAt buf size = '='
    let start := if seenEquals then size + 1 else size
    if charAt buf start = '?' then
      (if seenEquals then .support else .query, start + 1, start + 1)
    else
      let digits := ((buf.drop start).takeWhile Char.isDigit).length
      (if 0 < digits then .set else .commandOnly, start, start + digits)

def parseBasicCommand (buf : List Char) : Parsed :=
  let size := getBasicPrefixSize buf
  if size = 0 then .nothing
  else
    let first := (charAt buf 0).toUpper
    let scan := scanBasic buf size
    -- the rest of the line is ignored after these three
    let consumed :=
      if first = 'A' ∨ first = 'Z' ∨ first = 'D' then buf.length
      else if charAt buf scan.2.2 = ';' then scan.2.2 + 1
      else scan.2.2
    if size ≤ 3 then
      .command consumed
        ⟨first :: (buf.drop 1).take (size - 1), scan.1, (buf.take scan.2.2).drop scan.2.1⟩
    else .refused consumed

/-- One round of the loop of `server_parse_line`. -/
def parse (buf : List Char) : Parsed :=
  if isExtendedCommandPrefix (charAt buf 0) then parseExtendedCommand buf else parseBasicCommand buf

/-- How far the parse position moves. -/
def Parsed.consumed : Parsed → ℕ
  | .command consumed _ => consumed
  | .refused consumed => consumed
  | .nothing => 0

/-! ## The position moves on -/

lemma size_le_scanBasic (buf : List Char) (size : ℕ) : size ≤ (scanBasic buf size).2.2 := by
  unfold scanBasic
  by_cases hdial : (charAt buf 0).toUpper = 'D'
  · rw [if_pos hdial]
    dsimp only
    split_ifs <;> omega
  · rw [if_neg hdial]
    dsimp only
    split_ifs <;> dsimp only <;> omega

lemma parseExtendedCommand_consumed (buf : List Char) :
    parseExtendedCommand buf = .nothing ∨ 0 < (parseExtendedCommand buf).consumed := by
  unfold parseExtendedCommand
  dsimp only
  split_ifs
  · exact .inl rfl
  · exact .inl rfl
  · exact .inl rfl
  · split
    · exact .inl rfl
    · exact .inr (Nat.succ_pos _)

lemma parseBasicCommand_consumed {buf : List Char} (h : buf ≠ []) :
    parseBasicCommand buf = .nothing ∨ 0 < (parseBasicCommand buf).consumed := by
  unfold parseBasicCommand
  dsimp only
  by_cases hsize : getBasicPrefixSize buf = 0
  · rw [if_pos hsize]
    exact .inl rfl
  · rw [if_neg hsize]
    right
    have hscan := size_le_scanBasic buf (getBasicPrefixSize buf)
    have hlen := List.length_pos_iff.mpr h
    split_ifs <;> dsimp only [Parsed.consumed] <;> omega

lemma parse_consumed {buf : List Char} (h : buf ≠ []) (hp : parse buf ≠ .nothing) :
    0 < (parse buf).consumed := by
  unfold parse at *
  split_ifs at *
  · exact (parseExtendedCommand_consumed buf).resolve_left hp
  · exact (parseBasicCommand_consumed h).resolve_left hp

/-- What a line comes to: a command, or the error that ends it. -/
inductive Step
  | command (command : AtCommand)
  | refused
  | bad
deriving DecidableEq

set_option linter.unusedVariables false in
/-- All the steps of a line, from its front. -/
def steps (buf : List Char) : List Step :=
  if h : buf = [] then []
  else
    match hp : parse buf with
    | .nothing => [.bad]
    | .refused consumed => .refused :: steps (buf.drop consumed)
    | .command consumed command => .command command :: steps (buf.drop consumed)
termination_by buf.length
decreasing_by
  all_goals
    have hlen := List.length_pos_iff.mpr h
    have hmoves := parse_consumed h (by rw [hp]; nofun)
    rw [hp] at hmoves
    rw [List.length_drop]
    exact Nat.sub_lt hlen hmoves

end Phonelets.Gatchat
