import Phonelets.Gatchat.ServerParser

/-! # The AT server

What arrives is cut into lines by `server_feed`, and `server_parse_line` gives the commands of
a line to their handlers, one after the other, until it has to wait for a handler that has
not sent its final result. The handlers are a parameter: `notify n` is what the handler of the
`n`th command does. `lines` is a record of what came of each line, newest first, which no
function reads. A result `none` is a fault: a line that does not fit into its buffer.

A final result counts as sent here when `send_final_common` is called for it, also where the
quiet setting keeps its text back.
-/

namespace Phonelets.Gatchat

/-- `GAtServerResult` -/
inductive ServerResult
  | ok
  | connect
  | ring
  | noCarrier
  | error
  | noDialtone
  | busy
  | noAnswer
  | extError
deriving DecidableEq

/-- A final result: what `g_at_server_send_final` or `g_at_server_send_ext_final` is called with. -/
inductive Final
  | code (result : ServerResult)
  | ext (result : List Char)
deriving DecidableEq

/-- What becomes of a command: it has no handler, or its handler sends the final result
before it returns, or later. -/
inductive Reply
  | missing
  | now (final : Final)
  | later

inductive ParserState
  | idle
  | a
  | command
  | garbage

inductive ParserResult
  | command
  | emptyCommand
  | repeatLast
  | garbage
  | unsure

/-- What a line is: a command line with the text behind AT, an empty line, a repetition with
nothing to repeat, or a line that no memory was found for. -/
inductive LineKind
  | command (line : List Char)
  | empty
  | nothingToRepeat
  | lost
deriving DecidableEq

/-- What came of a line: the steps taken, their results and the final results sent. -/
structure Line where
  kind : LineKind
  taken : List Step
  results : List Final
  finals : List Final
deriving DecidableEq

/-- `struct _GAtServer`, with the characters of the line that is being read. -/
structure GAtServer where
  parserState : ParserState
  readSoFar : List Char
  lastLine : Option (List Char)
  curPos : ℕ
  lastResult : ServerResult
  finalSent : Bool
  finalAsync : Bool
  /-- The number of commands that handlers were looked up for. -/
  notified : ℕ
  lines : List Line

/-- What holds while a chunk is read: the characters that S3 and S5 are set to, and whether
there is memory for a line. -/
structure Settings where
  s3 : Char
  s5 : Char
  memory : Bool

namespace GAtServer

/-- `g_at_server_new` -/
def new : GAtServer where
  parserState := .idle
  readSoFar := []
  lastLine := none
  curPos := 0
  lastResult := .ok
  finalSent := false
  finalAsync := false
  notified := 0
  lines := []

/-! ## The record of the lines -/

/-- A new line has been read. -/
def newLine (kind : LineKind) (server : GAtServer) : GAtServer :=
  { server with lines := { kind := kind, taken := [], results := [], finals := [] } :: server.lines }

def take (step : Step) (server : GAtServer) : GAtServer :=
  { server with lines := server.lines.modifyHead fun l => { l with taken := l.taken ++ [step] } }

def result (final : Final) (server : GAtServer) : GAtServer :=
  { server with lines := server.lines.modifyHead fun l => { l with results := l.results ++ [final] } }

/-! ## Final results -/

def sendFinalCommon (final : Final) (server : GAtServer) : GAtServer :=
  { server with
    finalAsync := false
    lines := server.lines.modifyHead fun l => { l with finals := l.finals ++ [final] } }

/-- `g_at_server_send_final`, with what goes on after an OK that was waited for. -/
def sendFinal (resume : GAtServer → GAtServer) (result : ServerResult) (server : GAtServer) : GAtServer :=
  if server.finalSent then server
  else
    let server := { server with finalSent := true, lastResult := result }
    if result = .ok then
      if server.finalAsync then resume server else server
    else server.sendFinalCommon (.code result)

/-- `g_at_server_send_ext_final` -/
def sendExtFinal (text : List Char) (server : GAtServer) : GAtServer :=
  { server with finalSent := true, lastResult := .extError }.sendFinalCommon (.ext text)

/-- A handler sends its final result. -/
def answer (resume : GAtServer → GAtServer) (final : Final) (server : GAtServer) : GAtServer :=
  match final with
  | .code result => (server.result final).sendFinal resume result
  | .ext text => (server.result final).sendExtFinal text

/-! ## A line -/

/-- The parser sends an error for a step. While it runs `final_async` is not set, and so
there is nothing to resume. -/
def refuse (step : Step) (server : GAtServer) : GAtServer :=
  ((server.take step).result (.code .error)).sendFinal id .error

def atCommandNotify (notify : ℕ → AtCommand → Reply) (command : AtCommand) (server : GAtServer) :
    GAtServer :=
  let next := { server with notified := server.notified + 1 }
  match notify server.notified command with
  | .missing => next.refuse (.command command)
  | .now final => (next.take (.command command)).answer id final
  | .later => next.take (.command command)

/-- What `parse_extended_command` and `parse_basic_command` do about what they find. -/
def perform (notify : ℕ → AtCommand → Reply) (parsed : Parsed) (server : GAtServer) : GAtServer :=
  match parsed with
  | .command _ command => server.atCommandNotify notify command
  | .refused _ => server.refuse .refused
  | .nothing => server.refuse .bad

set_option linter.unusedVariables false in
/-- `server_parse_line` -/
def parseLine (notify : ℕ → AtCommand → Reply) (line : List Char) (server : GAtServer) : GAtServer :=
  if h : line.drop server.curPos = [] then server.sendFinalCommon (.code .ok)
  else
    let parsed := parse (line.drop server.curPos)
    let performed := { server with finalSent := false, finalAsync := false }.perform notify parsed
    if hp : parsed = .nothing then performed
    else
      let moved : GAtServer := { performed with curPos := server.curPos + parsed.consumed }
      if !moved.finalSent then { moved with finalAsync := true }
      else if moved.lastResult ≠ .ok then moved
      else parseLine notify line moved
termination_by line.length - server.curPos
decreasing_by
  have hlen := List.length_pos_iff.mpr h
  have hconsumed : 0 < (parse (line.drop server.curPos)).consumed := parse_consumed h hp
  rw [List.length_drop] at hlen
  show line.length - (server.curPos + (parse (line.drop server.curPos)).consumed) <
    line.length - server.curPos
  omega

/-! ## Reading -/

/-- One character in `server_feed`. -/
def feedChar (s3 : Char) (state : ParserState) (byte : Char) : ParserState × ParserResult :=
  match state with
  | .idle =>
    if byte = s3 then (.idle, .emptyCommand)
    else if byte = '\n' then (.idle, .garbage)
    else if byte = 'A' ∨ byte = 'a' then (.a, .unsure)
    else if byte ≠ ' ' ∧ byte ≠ '\t' then (.garbage, .unsure)
    else (.idle, .unsure)
  | .a =>
    if byte = s3 then (.idle, .garbage)
    else if byte = '/' then (.idle, .repeatLast)
    else if byte = 'T' ∨ byte = 't' then (.command, .unsure)
    else (.garbage, .unsure)
  | .command => if byte = s3 then (.idle, .command) else (.command, .unsure)
  | .garbage => if byte = s3 ∨ byte = '~' then (.idle, .garbage) else (.garbage, .unsure)

/-- The characters of a chunk up to the first line in it, garbage dropped: the state of the
parser, the characters of the line and what it is. -/
def feed (s3 : Char) (state : ParserState) (readSoFar : List Char) :
    List Char → ParserState × List Char × ParserResult
  | [] => (state, readSoFar, .unsure)
  | byte :: rest =>
    match feedChar s3 state byte with
    | (state, .unsure) => feed s3 state (readSoFar ++ [byte]) rest
    | (state, .garbage) => feed s3 state [] rest
    | (state, result) => (state, readSoFar ++ [byte], result)

def isBlank (c : Char) : Bool := c = ' ' || c = '\t'

def toggle (inString : Bool) (c : Char) : Bool := if c = quote then !inString else inString

/-- The first loop of `extract_line`: `strip_front`, `line_length` and `in_string`. -/
def measureLine (inString : Bool) (stripFront lineLength : ℕ) : List Char → ℕ × ℕ × Bool
  | [] => (stripFront, lineLength, inString)
  | c :: rest =>
    if !toggle inString c && isBlank c then
      measureLine (toggle inString c) (if lineLength = 0 then stripFront + 1 else stripFront) lineLength
        rest
    else measureLine (toggle inString c) stripFront (lineLength + 1) rest

/-- The second loop, into a buffer of the given size. -/
def fillLine (s3 s5 : Char) (size : ℕ) (inString : Bool) (line : List Char) :
    List Char → Option (List Char)
  | [] => if line.length < size then some line else none
  | c :: rest =>
    if c = s5 then fillLine s3 s5 size (toggle inString c) line.dropLast rest
    else if isBlank c && !toggle inString c then fillLine s3 s5 size (toggle inString c) line rest
    else if c ≠ s3 then
      if line.length < size then fillLine s3 s5 size (toggle inString c) (line ++ [c]) rest else none
    else fillLine s3 s5 size (toggle inString c) line rest

/-- `extract_line`: the string behind AT, if there is memory for it. -/
def extractLine (settings : Settings) (buf : List Char) : Option (Option (List Char)) :=
  let measured := measureLine false 0 0 buf
  -- `line_length - 3 + 1` octets
  if measured.2.1 ≤ 2 ∨ settings.memory = false then some none
  else
    (fillLine settings.s3 settings.s5 (measured.2.1 - 2) measured.2.2 []
      (buf.drop (measured.1 + 2))).map fun line => some (line.takeWhile (· ≠ nul))

def newBytes (notify : ℕ → AtCommand → Reply) (settings : Settings) (bytes : List Char)
    (server : GAtServer) : Option GAtServer :=
  if server.finalAsync then some server
  else
    let (state, buf, result) := feed settings.s3 server.parserState server.readSoFar bytes
    match result with
    | .unsure => some { server with parserState := state, readSoFar := buf }
    | .garbage => some { server with parserState := state, readSoFar := buf }
    | .emptyCommand =>
      some (({ server with parserState := state, readSoFar := [] }.newLine .empty).sendFinal id .ok)
    | .command =>
      match extractLine settings buf with
      | none => none
      | some none =>
        some (({ server with
          parserState := state, readSoFar := [], lastLine := none, curPos := 0 }.newLine .lost).sendFinal
            id .error)
      | some (some line) =>
        some (({ server with
          parserState := state, readSoFar := [], lastLine := some line, curPos := 0 }.newLine
            (.command line)).parseLine notify line)
    | .repeatLast =>
      match server.lastLine with
      | none =>
        some (({ server with parserState := state, readSoFar := [], curPos := 0 }.newLine
          .nothingToRepeat).sendFinal id .ok)
      | some line =>
        some (({ server with parserState := state, readSoFar := [], curPos := 0 }.newLine
          (.command line)).parseLine notify line)

/-- The handler that the server waits for sends its final result. -/
def lateFinal (notify : ℕ → AtCommand → Reply) (final : Final) (server : GAtServer) : GAtServer :=
  if server.finalAsync then
    match server.lastLine with
    | none => server
    | some line => server.answer (parseLine notify line) final
  else server

end GAtServer

/-- What can happen next. Handlers send one final result, so there is none when nobody waits
for it. -/
inductive ServerInput
  | bytes (settings : Settings) (bytes : List Char)
  | final (final : Final)

def GAtServer.step (notify : ℕ → AtCommand → Reply) (server : GAtServer) : ServerInput → Option GAtServer
  | .bytes settings bytes => server.newBytes notify settings bytes
  | .final final => some (server.lateFinal notify final)

end Phonelets.Gatchat
