import Phonelets.Gatchat.Server
import Phonelets.Lib.Machine

/-! # Every command line is answered

`Line.Answered` says what a line is to come to: its commands are performed in order up to the
first whose result is not OK, and there is one final result. `answered_iff` finds the lines
for which the server keeps to that.
-/

namespace Phonelets.Gatchat

open List

/-- The result that lets a line go on. -/
def Final.ok : Final := .code .ok

/-- The line is answered: one final result, for a command line that of the last step that was
taken, which is the first whose result is not OK, or OK after all the steps. -/
def Line.Answered (l : Line) : Prop :=
  match l.kind with
  | .command line =>
    l.taken <+: steps line ∧ l.results.length = l.taken.length ∧
      (l.taken = steps line ∧ (∀ r ∈ l.results, r = .ok) ∧ l.finals = [.ok] ∨
        ∃ rs final, l.results = rs ++ [final] ∧ (∀ r ∈ rs, r = .ok) ∧ final ≠ .ok ∧ l.finals = [final])
  | _ => ∃ final, l.finals = [final]

/-- The line waits for the result of the last step that was taken. -/
def Line.Waiting (l : Line) : Prop :=
  ∃ line, l.kind = .command line ∧ l.taken <+: steps line ∧ l.results.length + 1 = l.taken.length ∧
    (∀ r ∈ l.results, r = .ok) ∧ l.finals = []

/-- All lines have been answered, but for the last one when its final result is outstanding. -/
def GAtServer.Good (server : GAtServer) : Prop :=
  (∀ l ∈ server.lines.tail, l.Answered) ∧
    ∀ l ∈ server.lines.head?, if server.finalAsync then l.Waiting else l.Answered

/-- The condition on an input: the line is not empty, a repetition has something to repeat, a
command line fits into the buffer that was measured for it, and when there is no memory for
it the last line was not answered with a final result of a handler. -/
def GAtServer.Sound (server : GAtServer) : ServerInput → Prop
  | .bytes settings bytes =>
    server.finalAsync = false →
      let (_, buf, result) := feed settings.s3 server.parserState server.readSoFar bytes
      (result = .emptyCommand → False) ∧
        (result = .repeatLast → server.lastLine ≠ none) ∧
        (result = .command → extractLine settings buf ≠ none ∧
          (extractLine settings buf = some none → server.finalSent = false))
  | .final _ => True

/-! ## Steps of a line -/

/-- The step of a line that is found at its front. -/
def Parsed.step : Parsed → Step
  | .command _ c => .command c
  | .refused _ => .refused
  | .nothing => .bad

lemma steps_eq_nil {buf : List Char} (h : buf = []) : steps buf = [] := by
  rw [steps, dif_pos h]

lemma steps_eq_cons {buf : List Char} (h : buf ≠ []) : steps buf = (parse buf).step ::
    if parse buf = .nothing then [] else steps (buf.drop (parse buf).consumed) := by
  rw [steps, dif_neg h]
  split
  · next heq => simp [heq, Parsed.step]
  · next heq => simp [heq, Parsed.step, Parsed.consumed]
  · next heq => simp [heq, Parsed.step, Parsed.consumed]

/-- Steps have been taken and went well, and those that are left are at the parse position. -/
structure Underway (line : List Char) (l : Line) (rest : List Line) (server : GAtServer) : Prop where
  lines : server.lines = l :: rest
  kind : l.kind = .command line
  left : steps line = l.taken ++ steps (line.drop server.curPos)
  results : ∀ r ∈ l.results, r = .ok
  length : l.results.length = l.taken.length
  finals : l.finals = []

/-- What came of a line: it has been answered or waits. -/
def Settled (line : List Char) (rest : List Line) (server : GAtServer) : Prop :=
  ∃ l, server.lines = l :: rest ∧
    (server.finalAsync = false ∧ l.Answered ∨
      server.finalAsync = true ∧ server.finalSent = false ∧ l.Waiting ∧ l.kind = .command line ∧
        steps line = l.taken ++ steps (line.drop server.curPos))

/-- The outcome of a step that was taken: it is not yet known, or OK, or the final result of
the line. -/
def Outcome (l : Line) (rest : List Line) (step : Step) (server : GAtServer) : Prop :=
  server.finalAsync = false ∧
    (server.finalSent = false ∧ server.lines = { l with taken := l.taken ++ [step] } :: rest ∨
      server.finalSent = true ∧ server.lastResult = .ok ∧
        server.lines = { l with taken := l.taken ++ [step], results := l.results ++ [.ok] } :: rest ∨
      server.finalSent = true ∧ server.lastResult ≠ .ok ∧ ∃ final, final ≠ .ok ∧
        server.lines = { l with
          taken := l.taken ++ [step], results := l.results ++ [final]
          finals := l.finals ++ [final] } :: rest)

section

variable {server : GAtServer} {l : Line} {rest : List Line}

lemma Underway.next {line : List Char} (h : Underway line l rest server)
    (hmore : line.drop server.curPos ≠ []) : steps line = (l.taken ++
    [(parse (line.drop server.curPos)).step]) ++ if parse (line.drop server.curPos) = .nothing then
    [] else steps (line.drop (server.curPos + (parse (line.drop server.curPos)).consumed)) := by
  rw [h.left, steps_eq_cons hmore, append_assoc, drop_drop]
  rfl

lemma Underway.answered {line : List Char} (h : Underway line l rest server)
    {step : Step} {more : List Step} (hsteps : steps line = l.taken ++ [step] ++ more) (final : Final)
    (hfinal : final ≠ .ok) :
    Line.Answered { l with
      taken := l.taken ++ [step], results := l.results ++ [final], finals := l.finals ++ [final] } := by
  unfold Line.Answered
  dsimp only
  rw [h.kind]
  refine ⟨⟨more, hsteps.symm⟩, ?_, .inr ⟨l.results, final, rfl, h.results, hfinal, ?_⟩⟩
  · rw [length_append, length_append, h.length]
    rfl
  · rw [h.finals]
    rfl

end

namespace GAtServer

variable {server : GAtServer} {l : Line} {rest : List Line}

lemma answer_outcome (final : Final) (step : Step) (hlines : server.lines = l :: rest)
    (hsent : server.finalSent = false) (hasync : server.finalAsync = false) :
    Outcome l rest step ((server.take step).answer id final) := by
  unfold Outcome
  cases final with
  | ext text =>
    refine ⟨rfl, .inr (.inr ⟨rfl, nofun, .ext text, nofun, ?_⟩)⟩
    simp [answer, sendExtFinal, sendFinalCommon, result, take, hlines]
  | code r =>
    by_cases hr : r = .ok
    · subst hr
      simp [answer, sendFinal, result, take, hlines, hsent, hasync, Final.ok]
    · simp [answer, sendFinal, sendFinalCommon, result, take, hlines, hsent, hr, Final.ok]

lemma refuse_outcome (step : Step) (hlines : server.lines = l :: rest) (hsent : server.finalSent =
    false) (hasync : server.finalAsync = false) : Outcome l rest step (server.refuse step) :=
  answer_outcome (.code .error) step hlines hsent hasync

lemma perform_outcome (notify : ℕ → AtCommand → Reply) (parsed : Parsed) (hlines : server.lines =
    l :: rest) (hsent : server.finalSent = false) (hasync : server.finalAsync = false) :
    Outcome l rest parsed.step (server.perform notify parsed) := by
  cases parsed with
  | refused consumed => exact refuse_outcome .refused hlines hsent hasync
  | nothing => exact refuse_outcome .bad hlines hsent hasync
  | command consumed command =>
    show Outcome l rest (.command command) (server.atCommandNotify notify command)
    unfold atCommandNotify
    cases notify server.notified command with
    | missing => exact refuse_outcome _ hlines hsent hasync
    | now final => exact answer_outcome final _ hlines hsent hasync
    | later =>
      refine ⟨hasync, .inl ⟨hsent, ?_⟩⟩
      simp [take, hlines]

lemma sendFinal_lastLine (result : ServerResult) : (server.sendFinal id result).lastLine = server.lastLine := by
  unfold sendFinal
  dsimp only
  split_ifs <;> rfl

lemma perform_lastLine (notify : ℕ → AtCommand → Reply) (parsed : Parsed) :
    (server.perform notify parsed).lastLine = server.lastLine := by
  cases parsed with
  | refused consumed => exact sendFinal_lastLine _
  | nothing => exact sendFinal_lastLine _
  | command consumed command =>
    unfold perform atCommandNotify
    dsimp only
    split
    · exact sendFinal_lastLine _
    · next final _ =>
        cases final with
        | code result => exact sendFinal_lastLine _
        | ext text => rfl
    · rfl

lemma parseLine_settled (notify : ℕ → AtCommand → Reply) (line : List Char) (server : GAtServer)
    (l : Line) (h : Underway line l rest server) : Settled line rest
    (server.parseLine notify line) ∧ (server.parseLine notify line).lastLine = server.lastLine := by
  fun_induction GAtServer.parseLine notify line server generalizing l with
  | case1 server hend =>
    refine ⟨⟨{ l with finals := l.finals ++ [.ok] }, ?_, .inl ⟨rfl, ?_⟩⟩, rfl⟩
    · simp [sendFinalCommon, h.lines, Final.ok]
    · have hall : l.taken = steps line := by
        rw [h.left, hend, steps_eq_nil rfl, append_nil]
      unfold Line.Answered
      rw [h.kind]
      refine ⟨hall ▸ prefix_refl _, h.length, .inl ⟨hall, h.results, ?_⟩⟩
      rw [h.finals]
      rfl
  | case2 server hmore parsed performed hnothing =>
    have hnext := h.next hmore
    have hlast : performed.lastLine = server.lastLine := perform_lastLine notify parsed
    have hperformed : performed =
        ({ server with finalSent := false, finalAsync := false } : GAtServer).refuse .bad := by
      show ({ server with finalSent := false, finalAsync := false } : GAtServer).perform notify parsed = _
      rw [hnothing]
      rfl
    have hbad : parsed.step = .bad := by rw [hnothing]; rfl
    have hanswered := h.answered hnext (.code .error) nofun
    refine ⟨⟨_, ?_, .inl ⟨?_, hanswered⟩⟩, hlast⟩
    · rw [hperformed]
      simp [refuse, sendFinal, sendFinalCommon, result, take, h.lines, hbad, parsed]
    · rw [hperformed]
      rfl
  | case3 server hmore parsed performed hsome moved hwait =>
    have hnext := h.next hmore
    rw [if_neg hsome] at hnext
    have hlast : performed.lastLine = server.lastLine := perform_lastLine notify parsed
    have hout : Outcome l rest parsed.step performed := perform_outcome notify parsed h.lines rfl rfl
    have hsent : performed.finalSent = false := by simpa using hwait
    rcases hout with ⟨-, ⟨-, hlines⟩ | ⟨htrue, -⟩ | ⟨htrue, -⟩⟩
    · refine ⟨⟨_, hlines, .inr ⟨rfl, hsent, ⟨line, h.kind, ⟨_, hnext.symm⟩, ?_, h.results, h.finals⟩,
        h.kind, hnext⟩⟩, hlast⟩
      rw [length_append, h.length]
      rfl
    · exact absurd (hsent.symm.trans htrue) Bool.false_ne_true
    · exact absurd (hsent.symm.trans htrue) Bool.false_ne_true
  | case4 server hmore parsed performed hsome moved hsent hresult =>
    have hnext := h.next hmore
    have hlast : performed.lastLine = server.lastLine := perform_lastLine notify parsed
    have hout : Outcome l rest parsed.step performed := perform_outcome notify parsed h.lines rfl rfl
    have hsent' : performed.finalSent = true := by simpa using hsent
    rcases hout with ⟨hasync, ⟨hfalse, -⟩ | ⟨-, hok, -⟩ | ⟨-, -, final, hfinal, hlines⟩⟩
    · exact absurd (hfalse.symm.trans hsent') Bool.false_ne_true
    · exact absurd hok hresult
    · exact ⟨⟨_, hlines, .inl ⟨hasync, h.answered hnext _ hfinal⟩⟩, hlast⟩
  | case5 server hmore parsed performed hsome moved hsent hresult ih =>
    have hnext := h.next hmore
    rw [if_neg hsome] at hnext
    have hlast : performed.lastLine = server.lastLine := perform_lastLine notify parsed
    have hout : Outcome l rest parsed.step performed := perform_outcome notify parsed h.lines rfl rfl
    have hsent' : performed.finalSent = true := by simpa using hsent
    rcases hout with ⟨hasync, ⟨hfalse, -⟩ | ⟨-, -, hlines⟩ | ⟨-, hnot, -⟩⟩
    · exact absurd (hfalse.symm.trans hsent') Bool.false_ne_true
    · have hrest : Underway line { l with
          taken := l.taken ++ [parsed.step], results := l.results ++ [.ok] } rest moved := by
        refine ⟨hlines, h.kind, hnext, ?_, ?_, h.finals⟩
        · intro r hr
          rcases mem_append.mp hr with hr | hr
          · exact h.results r hr
          · exact mem_singleton.mp hr
        · rw [length_append, length_append, h.length]
          rfl
      rcases ih _ hrest with ⟨hsettled, hline⟩
      exact ⟨hsettled, hline.trans hlast⟩
    · exact absurd (not_not.mp hresult) hnot

/-! ## Runs -/

/-- Every line has been answered, or waits for a handler with the parse position behind the
steps that were taken. -/
structure Inv (server : GAtServer) : Prop where
  good : server.Good
  waits : server.finalAsync = true → server.finalSent = false ∧ ∃ line l rest,
    server.lastLine = some line ∧ server.lines = l :: rest ∧ l.Waiting ∧ l.kind = .command line ∧
      steps line = l.taken ++ steps (line.drop server.curPos)

lemma inv_of_settled {line : List Char} (h : Settled line rest server)
    (hline : server.lastLine = some line) (hrest : ∀ l ∈ rest, l.Answered) : Inv server := by
  rcases h with ⟨l, hlines, ⟨hasync, hanswered⟩ | ⟨hasync, hsent, hwaiting, hkind, hleft⟩⟩
  · refine ⟨⟨?_, ?_⟩, fun htrue => absurd (hasync.symm.trans htrue) Bool.false_ne_true⟩
    · rw [hlines]
      exact hrest
    · intro l' hl'
      rw [hlines, head?_cons, Option.mem_some_iff] at hl'
      subst hl'
      rw [hasync, if_neg Bool.false_ne_true]
      exact hanswered
  · refine ⟨⟨?_, ?_⟩, fun _ => ⟨hsent, line, l, rest, hline, hlines, hwaiting, hkind, hleft⟩⟩
    · rw [hlines]
      exact hrest
    · intro l' hl'
      rw [hlines, head?_cons, Option.mem_some_iff] at hl'
      subst hl'
      rw [hasync, if_pos rfl]
      exact hwaiting

lemma Inv.answered (h : Inv server) (hasync : server.finalAsync = false) :
    ∀ l ∈ server.lines, l.Answered := by
  intro l hl
  cases hlines : server.lines with
  | nil =>
    rw [hlines] at hl
    cases hl
  | cons head rest =>
    rw [hlines] at hl
    rcases mem_cons.mp hl with rfl | hl
    · have hhead := h.good.2 l (by rw [hlines]; rfl)
      rwa [hasync, if_neg Bool.false_ne_true] at hhead
    · exact h.good.1 l (by rw [hlines]; exact hl)

lemma inv_of_answered (hasync : server.finalAsync = false) (h : ∀ l ∈ server.lines, l.Answered) :
    Inv server := by
  refine ⟨⟨fun l hl => h l (mem_of_mem_tail hl), ?_⟩,
    fun htrue => absurd (hasync.symm.trans htrue) Bool.false_ne_true⟩
  intro l hl
  rw [hasync, if_neg Bool.false_ne_true]
  exact h l (mem_of_mem_head? hl)

lemma parseLine_inv (notify : ℕ → AtCommand → Reply) {line : List Char} (hline : server.lastLine =
    some line) (hpos : server.curPos = 0) (hrest : ∀ l ∈ server.lines, l.Answered) :
    Inv ((server.newLine (.command line)).parseLine notify line) := by
  have hbegin : Underway line { kind := .command line, taken := [], results := [], finals := [] }
      server.lines (server.newLine (.command line)) := by
    refine ⟨rfl, rfl, ?_, nofun, rfl, rfl⟩
    show steps line = steps (line.drop server.curPos)
    rw [hpos, drop_zero]
  rcases parseLine_settled notify line _ _ hbegin with ⟨hsettled, hsame⟩
  exact inv_of_settled hsettled (hsame.trans hline) hrest

lemma Inv.lateFinal (h : Inv server) (notify : ℕ → AtCommand → Reply) (final : Final) :
    Inv (server.lateFinal notify final) := by
  unfold GAtServer.lateFinal
  by_cases hasync : server.finalAsync = true
  · rw [if_pos hasync]
    rcases h.waits hasync with ⟨hsent, line, l, rest, hline, hlines, hwaiting, hkind, hleft⟩
    rcases hwaiting with ⟨line', hkind', hpre, hlen, hok, hfinals⟩
    have hsame : line' = line := LineKind.command.inj (hkind'.symm.trans hkind)
    subst hsame
    have hrest : ∀ l ∈ rest, l.Answered := by
      intro l' hl'
      exact h.good.1 l' (by rw [hlines]; exact hl')
    have hresult : (server.result final).lines = { l with results := l.results ++ [final] } :: rest := by
      simp [result, hlines]
    have hlength : (l.results ++ [final]).length = l.taken.length := by
      rw [length_append]
      exact hlen
    have hanswered : final ≠ .ok → Line.Answered
        { l with results := l.results ++ [final], finals := l.finals ++ [final] } := by
      intro hfinal
      unfold Line.Answered
      dsimp only
      rw [hkind, hfinals]
      exact ⟨hpre, hlength, .inr ⟨l.results, final, rfl, hok, hfinal, rfl⟩⟩
    rw [hline]
    dsimp only [answer]
    cases final with
    | ext text =>
      refine inv_of_answered rfl ?_
      intro l' hl'
      unfold sendExtFinal sendFinalCommon at hl'
      dsimp only at hl'
      rw [hresult, modifyHead_cons] at hl'
      rcases mem_cons.mp hl' with rfl | hl'
      · exact hanswered nofun
      · exact hrest l' hl'
    | code r =>
      dsimp only
      unfold sendFinal
      rw [if_neg (by rw [show (server.result (.code r)).finalSent = server.finalSent from rfl, hsent]; decide)]
      dsimp only
      by_cases hr : r = .ok
      · subst hr
        rw [if_pos rfl, if_pos (show (server.result (.code .ok)).finalAsync = true from hasync)]
        have hunderway : Underway line' { l with results := l.results ++ [.code .ok] } rest
            { server.result (.code .ok) with finalSent := true, lastResult := .ok } := by
          refine ⟨hresult, hkind, hleft, ?_, hlength, hfinals⟩
          intro r hr
          rcases mem_append.mp hr with hr | hr
          · exact hok r hr
          · exact mem_singleton.mp hr
        rcases parseLine_settled notify line' _ _ hunderway with ⟨hsettled, hlast⟩
        exact inv_of_settled hsettled (hlast.trans hline) hrest
      · rw [if_neg hr]
        refine inv_of_answered rfl ?_
        intro l' hl'
        unfold sendFinalCommon at hl'
        dsimp only at hl'
        rw [hresult, modifyHead_cons] at hl'
        rcases mem_cons.mp hl' with rfl | hl'
        · exact hanswered fun heq => hr (Final.code.inj heq)
        · exact hrest l' hl'
  · rw [if_neg hasync]
    exact h

/-- Nothing is sent for an OK that nobody waits for, nor after a final result. -/
lemma sendFinal_silent (r : ServerResult) (hsilent : r = .ok ∨ server.finalSent = true) :
    (server.sendFinal id r).lines = server.lines ∧
      (server.sendFinal id r).finalAsync = server.finalAsync := by
  unfold sendFinal
  by_cases hsent : server.finalSent = true
  · rw [if_pos hsent]
    exact ⟨rfl, rfl⟩
  · rw [if_neg hsent]
    have hok := hsilent.resolve_right hsent
    subst hok
    rw [if_pos rfl]
    dsimp only
    split_ifs <;> exact ⟨rfl, rfl⟩

lemma not_good_of_silent {kind : LineKind} (hkind : ∀ line, kind ≠ .command line)
    (hasync : server.finalAsync = false)
    (hlines : server.lines = { kind := kind, taken := [], results := [], finals := [] } :: rest) :
    ¬ server.Good := by
  intro hgood
  have hhead := hgood.2 _ (by rw [hlines]; rfl)
  rw [hasync, if_neg Bool.false_ne_true] at hhead
  unfold Line.Answered at hhead
  cases kind with
  | command line => exact hkind line rfl
  | _ =>
    rcases hhead with ⟨final, hfinal⟩
    exact absurd hfinal nofun

lemma sendFinal_bad {kind : LineKind} (hkind : ∀ line, kind ≠ .command line) {r : ServerResult}
    (hsilent : r = .ok ∨ server.finalSent = true) (hasync : server.finalAsync = false) :
    ¬ ((server.newLine kind).sendFinal id r).Good := by
  have hnone := @sendFinal_silent (server.newLine kind) r hsilent
  exact not_good_of_silent hkind (hnone.2.trans hasync) hnone.1

lemma Inv.newBytes (h : Inv server) (notify : ℕ → AtCommand → Reply) (settings : Settings)
    (bytes : List Char) (hsound : server.Sound (.bytes settings bytes)) :
    ∃ server', server.newBytes notify settings bytes = some server' ∧ Inv server' := by
  unfold GAtServer.newBytes
  by_cases hasync : server.finalAsync = true
  · rw [if_pos hasync]
    exact ⟨server, rfl, h⟩
  rw [if_neg hasync]
  have hasync' := eq_false_of_ne_true hasync
  have hanswered := h.answered hasync'
  have hcond := hsound hasync'
  rcases hfeed : feed settings.s3 server.parserState server.readSoFar bytes with ⟨state, buf, result⟩
  rw [hfeed] at hcond
  rcases hcond with ⟨hempty, hrepeat, hcommand⟩
  dsimp only
  cases result with
  | unsure => exact ⟨_, rfl, inv_of_answered hasync' hanswered⟩
  | garbage => exact ⟨_, rfl, inv_of_answered hasync' hanswered⟩
  | emptyCommand => exact absurd rfl hempty
  | repeatLast =>
    cases hline : server.lastLine with
    | none => exact absurd hline (hrepeat rfl)
    | some line => exact ⟨_, rfl, parseLine_inv notify rfl rfl hanswered⟩
  | command =>
    rcases hcommand rfl with ⟨hfits, hlost⟩
    dsimp only
    rcases hline : extractLine settings buf with _ | (_ | line)
    · exact absurd hline hfits
    · refine ⟨_, rfl, inv_of_answered ?_ ?_⟩
      · simp [sendFinal, sendFinalCommon, newLine, hlost hline]
      · intro l hl
        simp only [sendFinal, sendFinalCommon, newLine, hlost hline] at hl
        simp only [Bool.false_eq_true, if_false, reduceCtorEq, modifyHead_cons, mem_cons] at hl
        rcases hl with rfl | hl
        · exact ⟨_, rfl⟩
        · exact hanswered l hl
    · exact ⟨_, rfl, parseLine_inv notify rfl rfl hanswered⟩

lemma Inv.newBytes_bad (_ : Inv server) (notify : ℕ → AtCommand → Reply) (settings : Settings)
    (bytes : List Char) (hunsound : ¬ server.Sound (.bytes settings bytes)) {server' : GAtServer}
    (hstep : server.newBytes notify settings bytes = some server') : ¬ server'.Good := by
  unfold Sound at hunsound
  rw [Classical.not_imp] at hunsound
  rcases hunsound with ⟨hasync, hmissed⟩
  unfold GAtServer.newBytes at hstep
  rw [if_neg (by rw [hasync]; exact Bool.false_ne_true)] at hstep
  rcases hfeed : feed settings.s3 server.parserState server.readSoFar bytes with ⟨state, buf, result⟩
  rw [hfeed] at hmissed hstep
  dsimp only at hmissed hstep
  cases result with
  | unsure => exact absurd ⟨nofun, nofun, nofun⟩ hmissed
  | garbage => exact absurd ⟨nofun, nofun, nofun⟩ hmissed
  | emptyCommand =>
    rw [Option.some.injEq] at hstep
    subst hstep
    exact sendFinal_bad (by nofun) (.inl rfl) hasync
  | repeatLast =>
    cases hline : server.lastLine with
    | some line => exact absurd ⟨nofun, fun _ => by rw [hline]; nofun, nofun⟩ hmissed
    | none =>
      rw [hline] at hstep
      dsimp only at hstep
      rw [Option.some.injEq] at hstep
      subst hstep
      exact sendFinal_bad (by nofun) (.inl rfl) hasync
  | command =>
    dsimp only at hstep
    rcases hline : extractLine settings buf with _ | (_ | line)
    · rw [hline] at hstep
      cases hstep
    · have hsent : server.finalSent = true := by
        by_contra hnot
        have hfalse := eq_false_of_ne_true hnot
        exact hmissed ⟨nofun, nofun, fun _ => ⟨by rw [hline]; nofun, fun _ => hfalse⟩⟩
      rw [hline] at hstep
      dsimp only at hstep
      rw [Option.some.injEq] at hstep
      subst hstep
      exact sendFinal_bad (by nofun) (.inr hsent) hasync
    · refine absurd ⟨nofun, nofun, fun _ => ⟨by rw [hline]; nofun, ?_⟩⟩ hmissed
      intro hnone
      rw [hline] at hnone
      cases hnone

end GAtServer

/-- Whatever the handlers do and however the octets arrive: the parse position moves on with
every command, and every line gets exactly one final result, that of the first command that
does not end with OK or OK after all of them, the commands performed once each and in order,
exactly when every line is one that the server does not forget to answer or to measure. -/
theorem answered_iff (notify : ℕ → AtCommand → Reply) (inputs : List ServerInput) :
    (∀ buf, buf ≠ [] → parse buf ≠ .nothing → 0 < (parse buf).consumed) ∧
      (Machine.Safe (GAtServer.step notify) GAtServer.Good .new inputs ↔
        Machine.EachStep (GAtServer.step notify) GAtServer.Sound .new inputs) := by
  refine ⟨fun _ hbuf hp => parse_consumed hbuf hp, ?_⟩
  refine Machine.safe_iff (fun _ h => GAtServer.Inv.good h) ?_ ?_ ?_ inputs
  · intro server input h hsound
    cases input with
    | bytes settings bytes => exact h.newBytes notify settings bytes hsound
    | final final => exact ⟨_, rfl, h.lateFinal notify final⟩
  · intro server input server' h hunsound hstep
    cases input with
    | bytes settings bytes => exact h.newBytes_bad notify settings bytes hunsound hstep
    | final final => exact absurd trivial hunsound
  · exact GAtServer.inv_of_answered rfl nofun

/-- A carriage return is all that arrives. -/
theorem empty_line_unanswered :
    ¬ Machine.Safe (GAtServer.step fun _ _ => .later) GAtServer.Good .new
      [.bytes { s3 := '\r', s5 := '\x08', memory := true } ['\r']] := by
  intro hsafe
  rcases hsafe with ⟨-, server, hstep, hgood⟩
  have hlines : server.lines = [{ kind := .empty, taken := [], results := [], finals := [] }] ∧
      server.finalAsync = false := by
    rw [← Option.some.inj hstep]
    decide
  exact GAtServer.not_good_of_silent (by nofun) hlines.2 hlines.1 hgood

end Phonelets.Gatchat
