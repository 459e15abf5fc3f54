import Mathlib.Data.Char
import Mathlib.Data.List.GetD
import Mathlib.Data.List.TakeWhile
import Phonelets.Gatchat.ServerParser

/-! # Extended commands and their handlers

`parse_extended_command` with the call of `at_command_notify`. The line is the array that it
stands in, with the NUL behind it; the end of a command is made a NUL for the call and put back.

The parser asks for a first letter between `A` and `Z`, both left out, and the end of the line ends
a command also within a string: these are the two ways in which it and the form of V.250 differ.
-/

namespace Phonelets.Gatchat

/-- What comes of a call: the array of the line, the handlers notified and with what, whether
there was an error for want of a handler, and how much of the line is consumed. -/
structure ExtendedRun (σ : Type) where
  line : List Char
  notified : List (σ × RequestType × List Char)
  unknown : Bool
  consumed : ℕ
deriving DecidableEq

/-- The string at the front of an array. -/
def cString (line : List Char) : List Char := line.takeWhile (· ≠ nul)

/-- `parse_extended_command` up to the end of the command: the prefix in upper case, the type,
`cmd_start` and `i`. -/
def recognizeExtended (buf : List Char) : Option (List Char × RequestType × ℕ × ℕ) :=
  let prefixLen := (buf.takeWhile fun c => !isSeparator c).length
  if 17 < prefixLen ∨ prefixLen < 2 then none
  else
    let name := (buf.take prefixLen).map Char.toUpper
    if !(name.drop 1).all isExtendedChar then none
    else if charAt name 1 ≤ 'A' ∨ 'Z' ≤ charAt name 1 then none
    else
      (scanExtended false false .commandOnly prefixLen prefixLen (charAt buf (prefixLen - 1))
        (buf.drop prefixLen)).map fun scanned => (name, scanned)

variable {σ : Type} (commandList : List Char → Option σ)

/-- `parse_extended_command` -/
def runExtendedCommand (buf : List Char) : ExtendedRun σ :=
  let line := buf ++ [nul]
  match recognizeExtended buf with
  | none => ⟨line, [], false, 0⟩
  | some (name, type, cmdStart, i) =>
    let tmp := charAt line i
    let scratched := line.set i nul
    let node := commandList name
    ⟨scratched.set i tmp, node.toList.map (·, type, cString (scratched.drop cmdStart)),
      node.isNone, i + 1⟩

/-- The parser of the line, which leaves the handlers out, finds the same. -/
lemma parseExtendedCommand_eq (buf : List Char) : parseExtendedCommand buf =
    match recognizeExtended buf with
    | none => .nothing
    | some (name, type, cmdStart, i) => .command (i + 1) ⟨name, type, (buf.take i).drop cmdStart⟩ := by
  unfold parseExtendedCommand recognizeExtended
  dsimp only
  split_ifs
  · rfl
  · rfl
  · rfl
  · split
    next hscan => rw [hscan]; rfl
    next hscan => rw [hscan]; rfl

/-! ## The form of V.250 -/

/-- A prefix and 1 to 16 valid characters, the first of them a letter. -/
structure ExtendedName (name : List Char) : Prop where
  mark : isExtendedCommandPrefix (charAt name 0) = true
  length : 2 ≤ name.length ∧ name.length ≤ 17
  letter : 'A' ≤ (charAt name 1).toUpper ∧ (charAt name 1).toUpper ≤ 'Z'
  valid : ∀ c ∈ name.drop 1, isExtendedChar c.toUpper = true

/-- The first letter is one that the parser leaves out. -/
def EndLetter (name : List Char) : Prop :=
  (charAt name 1).toUpper = 'A' ∨ (charAt name 1).toUpper = 'Z'

/-- Whether a string is open behind the arguments; they have no separator outside strings. -/
def openString : Bool → List Char → Option Bool
  | inString, [] => some inString
  | inString, c :: rest =>
    if c = quote then openString (!inString) rest
    else if !inString && isSeparator c then none
    else openString inString rest

/-- What follows the name: the type and the argument text. -/
inductive Suffix : List Char → RequestType → List Char → Prop
  | commandOnly : Suffix [] .commandOnly []
  | query : Suffix ['?'] .query []
  | support : Suffix ['=', '?'] .support []
  | set (args : List Char) (h : openString false args = some false) : Suffix ('=' :: args) .set args

/-- A command ends before a semicolon and at the end of the line. -/
def Ends (rest : List Char) : Prop := rest = [] ∨ ∃ next, rest = ';' :: next

/-- A command of the form stands at the front of the line. -/
structure ExtendedForm (buf name suffix : List Char) (type : RequestType) (args : List Char) : Prop where
  named : ExtendedName name
  follows : Suffix suffix type args
  line : ∃ rest, buf = name ++ suffix ++ rest ∧ Ends rest

/-- The line is a command but for the end of its last string. -/
structure Unterminated (buf name args : List Char) : Prop where
  named : ExtendedName name
  unclosed : openString false args = some true
  line : buf = name ++ '=' :: args

/-- The handler of a command of the form is notified of it, the line is as it was and the command
and its separator are consumed; anything else is an error. -/
structure ReadsExtended (buf : List Char) : Prop where
  form : ∀ name suffix type args, ExtendedForm buf name suffix type args →
    runExtendedCommand commandList buf =
      ⟨buf ++ [nul], (commandList (name.map Char.toUpper)).toList.map (·, type, args),
        (commandList (name.map Char.toUpper)).isNone, name.length + suffix.length + 1⟩
  other : (∀ name suffix type args, ¬ ExtendedForm buf name suffix type args) →
    runExtendedCommand commandList buf = ⟨buf ++ [nul], [], false, 0⟩

/-! ## What follows the name -/

variable {buf name suffix args rest : List Char} {type : RequestType} {start i : ℕ}

/-- What the parser takes behind a name: what the form has there, or an unclosed string. -/
def Follows (suffix : List Char) (type : RequestType) (args rest : List Char) : Prop :=
  Suffix suffix type args ∧ Ends rest ∨
    type = .set ∧ suffix = '=' :: args ∧ openString false args = some true ∧ rest = []

/-- The argument text is the end of what follows the name. -/
lemma Follows.split (h : Follows suffix type args rest) : ∃ front, suffix = front ++ args := by
  rcases h with ⟨hsuffix, -⟩ | ⟨-, rfl, -, -⟩
  · cases hsuffix with
    | commandOnly => exact ⟨[], rfl⟩
    | query => exact ⟨['?'], rfl⟩
    | support => exact ⟨['=', '?'], rfl⟩
    | set args _ => exact ⟨['='], rfl⟩
  · exact ⟨['='], rfl⟩

lemma Follows.ends (h : Follows suffix type args rest) : Ends rest := by
  rcases h with ⟨-, hends⟩ | ⟨-, -, -, rfl⟩
  · exact hends
  · exact .inl rfl

/-- In the arguments a question mark is never behind the equals sign. -/
lemma scan_args {inString : Bool} {previous : Char} (hprev : inString = true ∨ previous ≠ '=')
    {unclosed : Bool} (hargs : openString inString args = some unclosed) (hends : Ends rest)
    (hrest : unclosed = true → rest = []) :
    scanExtended inString true .set start i previous (args ++ rest) =
      some (.set, start, i + args.length) := by
  induction args generalizing inString previous i with
  | nil =>
    cases hargs
    rcases hends with rfl | ⟨next, rfl⟩
    · rfl
    · cases unclosed with
      | false => rfl
      | true => exact absurd (hrest rfl) (List.cons_ne_nil _ _)
  | cons c args ih =>
    rw [openString] at hargs
    rw [List.cons_append, scanExtended, List.length_cons, Nat.add_comm args.length, ← Nat.add_assoc]
    by_cases hquote : c = quote
    · subst hquote
      rw [if_pos rfl] at hargs
      rw [if_neg (by simp [show quote ≠ ';' by decide]), if_pos rfl]
      exact ih (.inr (by decide)) hargs
    · rw [if_neg hquote] at hargs
      split_ifs at hargs with hsep
      cases inString with
      | true =>
        rw [if_neg (by simp), if_neg hquote, if_pos rfl]
        exact ih (.inl rfl) hargs
      | false =>
        have hplain : c ≠ ';' ∧ c ≠ '?' ∧ c ≠ '=' := by
          simpa [isSeparator, and_assoc] using hsep
        rw [if_neg (by simp [hplain.1]), if_neg hquote, if_neg (by simp), if_neg hplain.2.1,
          if_neg hplain.2.2]
        exact ih (.inr hplain.2.2) hargs

lemma args_of_scan {inString : Bool} {previous : Char} (hprev : inString = true ∨ previous ≠ '=')
    {tail : List Char} (h : scanExtended inString true .set start i previous tail ≠ none) :
    ∃ args rest unclosed, tail = args ++ rest ∧ openString inString args = some unclosed ∧
      Ends rest ∧ (unclosed = true → rest = []) := by
  induction tail generalizing inString previous i with
  | nil => exact ⟨[], [], inString, rfl, rfl, .inl rfl, fun _ => rfl⟩
  | cons c tail ih =>
    have hgo : ∀ {next : Bool}, (next = true ∨ c ≠ '=') →
        scanExtended next true .set start (i + 1) c tail ≠ none →
        (∀ args, openString inString (c :: args) = openString next args) →
        ∃ args rest unclosed, c :: tail = args ++ rest ∧ openString inString args = some unclosed ∧
          Ends rest ∧ (unclosed = true → rest = []) := by
      intro next hnext hscan hopen
      obtain ⟨args, rest, unclosed, rfl, hargs, hends, hrest⟩ := ih hnext hscan
      exact ⟨c :: args, rest, unclosed, rfl, (hopen args).trans hargs, hends, hrest⟩
    rw [scanExtended] at h
    by_cases hsemi : (c = ';' && !inString) = true
    · obtain ⟨rfl, rfl⟩ : c = ';' ∧ inString = false := by simpa using hsemi
      exact ⟨[], ';' :: tail, false, rfl, rfl, .inr ⟨tail, rfl⟩, nofun⟩
    · rw [if_neg hsemi] at h
      by_cases hquote : c = quote
      · rw [if_pos hquote] at h
        refine hgo (.inr ?_) h fun args => ?_
        · rw [hquote]
          decide
        · rw [openString, if_pos hquote]
      · rw [if_neg hquote] at h
        cases inString with
        | true =>
          refine hgo (.inl rfl) h fun args => ?_
          rw [openString, if_neg hquote]
          rfl
        | false =>
          have hprevious : previous ≠ '=' := hprev.resolve_left Bool.false_ne_true
          rw [if_neg Bool.false_ne_true] at h
          by_cases hquery : c = '?'
          · rw [if_pos hquery, if_pos (by simpa using hprevious)] at h
            exact absurd rfl h
          · rw [if_neg hquery] at h
            by_cases hequals : c = '='
            · rw [if_pos hequals, if_pos rfl] at h
              exact absurd rfl h
            · rw [if_neg hequals] at h
              refine hgo (.inr hequals) h fun args => ?_
              have hplain : isSeparator c = false := by
                simpa [isSeparator, hquery, hequals] using hsemi
              rw [openString, if_neg hquote, hplain]
              rfl

/-- The character before is looked at for a question mark only. -/
lemma scan_previous {tail : List Char} (h : charAt tail 0 ≠ '?') (inString seenEquals : Bool)
    (previous previous' : Char) :
    scanExtended inString seenEquals type start i previous tail =
      scanExtended inString seenEquals type start i previous' tail := by
  cases tail with
  | nil => rfl
  | cons c tail =>
    have hc : c ≠ '?' := h
    rw [scanExtended, scanExtended, if_neg hc, if_neg hc]

/-- A question mark asks at the end of a command only. -/
lemma ends_iff (hnul : nul ∉ rest) :
    Ends rest ↔ ¬ (decide (charAt rest 0 ≠ nul) && decide (charAt rest 0 ≠ ';')) = true := by
  cases rest with
  | nil => exact ⟨fun _ => by decide, fun _ => .inl rfl⟩
  | cons c rest =>
    have hc : c ≠ nul := fun hc => hnul (hc ▸ List.mem_cons_self)
    have hhead : charAt (c :: rest) 0 = c := rfl
    simp [Ends, hhead, hc]

lemma Ends.scan (h : Ends rest) (seenEquals : Bool) (previous : Char) :
    scanExtended false seenEquals type start i previous rest = some (type, start, i) := by
  rcases h with rfl | ⟨next, rfl⟩
  · rfl
  · rfl

lemma Ends.charAt_ne (h : Ends rest) : charAt rest 0 ≠ '?' := by
  rcases h with rfl | ⟨next, rfl⟩
  · decide
  · show (';' : Char) ≠ '?'
    decide

/-- The equals sign behind a name. -/
lemma scan_equals (previous : Char) {tail : List Char} :
    scanExtended false false type start i previous ('=' :: tail) =
      scanExtended false true .set (start + 1) (i + 1) '=' tail := by
  rw [scanExtended, if_neg (by decide), if_neg (by decide), if_neg Bool.false_ne_true,
    if_neg (by decide), if_pos rfl, if_neg Bool.false_ne_true]

/-- A question mark, behind a name or its equals sign. -/
lemma scan_query {seenEquals : Bool} {previous : Char} (hnul : nul ∉ rest)
    (hprev : seenEquals = true → previous = '=') (hends : Ends rest) :
    scanExtended false seenEquals type start i previous ('?' :: rest) =
      some (if seenEquals then .support else .query, start + 1, i + 1) := by
  have hasked : ¬ (seenEquals && decide (previous ≠ '=')) = true := by
    cases seenEquals <;> simp_all
  rw [scanExtended, if_neg (by decide), if_neg (by decide), if_neg Bool.false_ne_true, if_pos rfl,
    if_neg hasked, if_neg ((ends_iff hnul).mp hends)]
  exact hends.scan seenEquals '?'

lemma ends_of_scan_query {seenEquals : Bool} {previous : Char} (hnul : nul ∉ rest)
    (h : scanExtended false seenEquals type start i previous ('?' :: rest) ≠ none) : Ends rest := by
  rw [scanExtended, if_neg (by decide), if_neg (by decide), if_neg Bool.false_ne_true, if_pos rfl] at h
  refine (ends_iff hnul).mpr fun hnext => ?_
  rw [if_pos hnext, ite_self] at h
  exact h rfl

/-- The scan behind a name of `n` characters. -/
lemma Follows.scan (h : Follows suffix type args rest) (hnul : nul ∉ rest) (n : ℕ)
    (previous : Char) :
    ∃ start, scanExtended false false .commandOnly n n previous (suffix ++ rest) =
        some (type, start, n + suffix.length) ∧ start + args.length = n + suffix.length := by
  have hset : ∀ {unclosed : Bool} {args : List Char}, openString false args = some unclosed →
      Ends rest → (unclosed = true → rest = []) →
      scanExtended false false .commandOnly n n previous ('=' :: args ++ rest) =
        some (.set, n + 1, n + 1 + args.length) := by
    intro unclosed args hargs hends hrest
    have hhead : charAt (args ++ rest) 0 ≠ '?' := by
      cases args with
      | nil => exact hends.charAt_ne
      | cons c args =>
        show c ≠ '?'
        rintro rfl
        cases hargs
    rw [List.cons_append, scan_equals, scan_previous hhead false true '=' ';']
    exact scan_args (.inr (by decide)) hargs hends hrest
  rcases h with ⟨hsuffix, hends⟩ | ⟨rfl, rfl, hargs, rfl⟩
  · cases hsuffix with
    | commandOnly => exact ⟨n, hends.scan false previous, rfl⟩
    | query => exact ⟨n + 1, scan_query hnul nofun hends, rfl⟩
    | support =>
      refine ⟨n + 2, ?_, rfl⟩
      rw [List.cons_append, scan_equals]
      exact scan_query hnul (fun _ => rfl) hends
    | set args hargs =>
      refine ⟨n + 1, ?_, ?_⟩
      · rw [hset hargs hends nofun, List.length_cons, Nat.add_comm args.length, Nat.add_assoc]
      · rw [List.length_cons]
        omega
  · refine ⟨n + 1, ?_, ?_⟩
    · rw [hset hargs (.inl rfl) fun _ => rfl, List.length_cons, Nat.add_comm args.length, Nat.add_assoc]
    · rw [List.length_cons]
      omega

lemma follows_of_scan {tail : List Char} {n : ℕ} {previous : Char} (hnul : nul ∉ tail)
    (htail : ∀ c ∈ tail.head?, isSeparator c = true)
    (h : scanExtended false false .commandOnly n n previous tail ≠ none) :
    ∃ suffix type args rest, tail = suffix ++ rest ∧ Follows suffix type args rest := by
  cases tail with
  | nil => exact ⟨[], .commandOnly, [], [], rfl, .inl ⟨.commandOnly, .inl rfl⟩⟩
  | cons c tail =>
    have hc : (c = ';' ∨ c = '?') ∨ c = '=' := by simpa [isSeparator] using htail c rfl
    have htailnul : nul ∉ tail := fun hmem => hnul (List.mem_cons_of_mem c hmem)
    rcases hc with (rfl | rfl) | rfl
    · exact ⟨[], .commandOnly, [], ';' :: tail, rfl, .inl ⟨.commandOnly, .inr ⟨tail, rfl⟩⟩⟩
    · exact ⟨['?'], .query, [], tail, rfl, .inl ⟨.query, ends_of_scan_query htailnul h⟩⟩
    · rw [scan_equals] at h
      by_cases hquery : charAt tail 0 = '?'
      · cases tail with
        | nil => exact absurd hquery (by decide)
        | cons d tail =>
          obtain rfl : d = '?' := hquery
          have hends := ends_of_scan_query (fun hmem => htailnul (List.mem_cons_of_mem _ hmem)) h
          exact ⟨['=', '?'], .support, [], tail, rfl, .inl ⟨.support, hends⟩⟩
      · rw [scan_previous hquery false true '=' ';'] at h
        obtain ⟨args, rest, unclosed, rfl, hargs, hends, hrest⟩ := args_of_scan (.inr (by decide)) h
        cases unclosed with
        | false => exact ⟨'=' :: args, .set, args, rest, rfl, .inl ⟨.set args hargs, hends⟩⟩
        | true => exact ⟨'=' :: args, .set, args, rest, rfl, .inr ⟨rfl, rfl, hargs, hrest rfl⟩⟩

/-! ## The name -/

/-- No character of a name ends it. -/
lemma not_isSeparator_of_valid {c : Char} (h : isExtendedChar c.toUpper = true) :
    isSeparator c = false := by
  refine Bool.eq_false_iff.mpr fun hsep => ?_
  have hc : (c = ';' ∨ c = '?') ∨ c = '=' := by simpa [isSeparator] using hsep
  rcases hc with (rfl | rfl) | rfl
  all_goals exact absurd h (by decide)

lemma not_isSeparator_of_mark {c : Char} (h : isExtendedCommandPrefix c = true) :
    isSeparator c = false := by
  have hc : ((c = '+' ∨ c = '*') ∨ c = '!') ∨ c = '%' := by simpa [isExtendedCommandPrefix] using h
  rcases hc with ((rfl | rfl) | rfl) | rfl
  all_goals decide

lemma ExtendedName.not_isSeparator (h : ExtendedName name) : ∀ c ∈ name, isSeparator c = false := by
  intro c hc
  cases name with
  | nil => cases hc
  | cons mark name =>
    rcases List.mem_cons.mp hc with rfl | hc
    · exact not_isSeparator_of_mark h.mark
    · exact not_isSeparator_of_valid (h.valid c hc)

lemma ExtendedName.mark_append (h : ExtendedName name) (tail : List Char) :
    isExtendedCommandPrefix (charAt (name ++ tail) 0) = true := by
  rw [charAt, List.getD_append _ _ _ _ (by have := h.length; omega)]
  exact h.mark

/-- What follows a name begins with a separator. -/
lemma Follows.head (h : Follows suffix type args rest) :
    ∀ c ∈ (suffix ++ rest).head?, isSeparator c = true := by
  have hequals : ∀ tail : List Char, ∀ c ∈ ('=' :: tail).head?, isSeparator c = true := by
    intro tail c hc
    cases hc
    rfl
  rcases h with ⟨hsuffix, hends⟩ | ⟨-, rfl, -, -⟩
  · cases hsuffix with
    | commandOnly =>
      rcases hends with rfl | ⟨next, rfl⟩
      · nofun
      · rintro c ⟨⟩
        rfl
    | query =>
      rintro c ⟨⟩
      rfl
    | support => exact hequals _
    | set args _ => exact hequals _
  · exact hequals _

lemma takeWhile_name {tail : List Char} (h : ∀ c ∈ name, isSeparator c = false)
    (htail : ∀ c ∈ tail.head?, isSeparator c = true) :
    (name ++ tail).takeWhile (fun c => !isSeparator c) = name := by
  rw [List.takeWhile_append_of_pos fun c hc => by rw [h c hc]; rfl]
  cases tail with
  | nil => rw [List.takeWhile_nil, List.append_nil]
  | cons c tail => rw [List.takeWhile_cons_of_neg (by rw [htail c rfl]; decide), List.append_nil]

lemma charAt_map_toUpper (h : 2 ≤ name.length) :
    charAt (name.map Char.toUpper) 1 = (charAt name 1).toUpper := by
  match name, h with
  | _ :: _ :: _, _ => rfl

/-- What the parser asks of a name that stands in front of a separator. -/
lemma recognize_name {tail : List Char} (hsep : ∀ c ∈ name, isSeparator c = false)
    (htail : ∀ c ∈ tail.head?, isSeparator c = true)
    (hmark : isExtendedCommandPrefix (charAt (name ++ tail) 0) = true) :
    (ExtendedName name ∧ ¬ EndLetter name ∧ recognizeExtended (name ++ tail) =
      (scanExtended false false .commandOnly name.length name.length
        (charAt (name ++ tail) (name.length - 1)) tail).map fun scanned =>
          (name.map Char.toUpper, scanned)) ∨
    ((ExtendedName name → EndLetter name) ∧ recognizeExtended (name ++ tail) = none) := by
  unfold recognizeExtended
  dsimp only
  rw [takeWhile_name hsep htail, List.take_left, List.drop_left]
  split_ifs with hlen hvalid hletter
  · refine .inr ⟨fun h => ?_, rfl⟩
    have hlength := h.length
    omega
  · refine .inr ⟨fun h => absurd hvalid ?_, rfl⟩
    rw [← List.map_drop, List.all_map, Bool.not_eq_true', Bool.not_eq_false]
    exact List.all_eq_true.mpr h.valid
  · refine .inr ⟨fun h => ?_, rfl⟩
    rw [charAt_map_toUpper h.length.1] at hletter
    rcases hletter with hle | hle
    · exact .inl (le_antisymm hle h.letter.1)
    · exact .inr (le_antisymm h.letter.2 hle)
  · rw [charAt_map_toUpper (by omega), not_or, not_le, not_le] at hletter
    refine .inl ⟨⟨?_, by omega, ⟨le_of_lt hletter.1, le_of_lt hletter.2⟩, ?_⟩, ?_, rfl⟩
    · rw [charAt, List.getD_append _ _ _ _ (by omega)] at hmark
      exact hmark
    · rw [← List.map_drop, List.all_map, Bool.not_eq_true', Bool.not_eq_false] at hvalid
      exact List.all_eq_true.mp hvalid
    · rintro (heq | heq)
      · exact absurd heq (ne_of_gt hletter.1)
      · exact absurd heq (ne_of_lt hletter.2)

/-! ## The commands of a line -/

lemma set_length_append (front tail : List Char) (c d : Char) :
    (front ++ c :: tail).set front.length d = front ++ d :: tail := by
  simp

/-- The handler gets the argument text, and the line is as it was. -/
lemma run_of_follows (hnul : nul ∉ buf) (hbuf : buf = name ++ suffix ++ rest)
    (hname : ExtendedName name) (hend : ¬ EndLetter name) (h : Follows suffix type args rest) :
    runExtendedCommand commandList buf =
      ⟨buf ++ [nul], (commandList (name.map Char.toUpper)).toList.map (·, type, args),
        (commandList (name.map Char.toUpper)).isNone, name.length + suffix.length + 1⟩ := by
  have hrecognized := ((recognize_name hname.not_isSeparator h.head
    (hname.mark_append _)).resolve_right
    fun hno => hend (hno.1 hname)).2.2
  rw [← List.append_assoc, ← hbuf] at hrecognized
  have hrest : nul ∉ rest := fun hmem => hnul (hbuf ▸ List.mem_append_right _ hmem)
  obtain ⟨start, hscan, hstart⟩ := h.scan hrest name.length (charAt buf (name.length - 1))
  rw [hscan, Option.map_some] at hrecognized
  obtain ⟨front, rfl⟩ := h.split
  obtain ⟨c, tail, htail⟩ : ∃ c tail, rest ++ [nul] = c :: tail := by
    cases rest with
    | nil => exact ⟨nul, [], rfl⟩
    | cons c rest => exact ⟨c, rest ++ [nul], rfl⟩
  have hline : buf ++ [nul] = (name ++ front ++ args) ++ c :: tail := by
    rw [hbuf, List.append_assoc _ rest, htail, ← List.append_assoc name front]
  have hi : name.length + (front ++ args).length = (name ++ front ++ args).length := by
    rw [List.append_assoc]
    exact List.length_append.symm
  have hstart' : start = (name ++ front).length := by
    rw [List.length_append] at hstart ⊢
    omega
  have hargs : ∀ c ∈ args, c ≠ nul := by
    rintro c hc rfl
    exact hnul (hbuf ▸ by simp [hc])
  have htext : cString (args ++ nul :: tail) = args := by
    rw [cString, List.takeWhile_append_of_pos fun c hc => decide_eq_true (hargs c hc),
      List.takeWhile_cons_of_neg (by simp), List.append_nil]
  have hc : charAt ((name ++ front ++ args) ++ c :: tail) (name ++ front ++ args).length = c := by
    rw [charAt, List.getD_append_right _ _ _ _ le_rfl, Nat.sub_self]
    rfl
  unfold runExtendedCommand
  rw [hrecognized, hi, hline, hstart']
  dsimp only
  rw [hc, set_length_append, set_length_append, List.append_assoc (name ++ front) args (nul :: tail),
    List.drop_left, htext]

/-- A command with a first letter that the parser leaves out is an error. -/
lemma run_of_endLetter (hbuf : buf = name ++ suffix ++ rest) (hname : ExtendedName name)
    (hend : EndLetter name) (h : Follows suffix type args rest) :
    runExtendedCommand commandList buf = ⟨buf ++ [nul], [], false, 0⟩ := by
  have hrecognized := ((recognize_name hname.not_isSeparator h.head
    (hname.mark_append _)).resolve_left
    fun hyes => hyes.2.1 hend).2
  rw [← List.append_assoc, ← hbuf] at hrecognized
  rw [runExtendedCommand, hrecognized]

/-- Whatever is taken for a command has a name and what follows a name. -/
lemma run_of_other (hnul : nul ∉ buf) (hmark : isExtendedCommandPrefix (charAt buf 0) = true)
    (h : ∀ name suffix type args rest, buf = name ++ suffix ++ rest → ExtendedName name →
      Follows suffix type args rest → EndLetter name) :
    runExtendedCommand commandList buf = ⟨buf ++ [nul], [], false, 0⟩ := by
  have hnone : recognizeExtended buf = none := by
    have hsep : ∀ c ∈ buf.takeWhile (fun c => !isSeparator c), isSeparator c = false := by
      intro c hc
      simpa using List.mem_takeWhile_imp hc
    have htail : ∀ c ∈ (buf.dropWhile fun c => !isSeparator c).head?, isSeparator c = true := by
      intro c hc
      have hhead := List.head?_dropWhile_not (fun c => !isSeparator c) buf
      rw [Option.mem_def.mp hc] at hhead
      simpa using hhead
    have hbuf := @List.takeWhile_append_dropWhile _ (fun c => !isSeparator c) buf
    generalize buf.takeWhile (fun c => !isSeparator c) = name at hsep hbuf
    generalize buf.dropWhile (fun c => !isSeparator c) = tail at htail hbuf
    subst hbuf
    rcases recognize_name hsep htail hmark with ⟨hname, hend, hrecognized⟩ | ⟨-, hrecognized⟩
    · rw [hrecognized, Option.map_eq_none_iff]
      by_contra hscan
      obtain ⟨suffix, type, args, rest, rfl, hfollows⟩ := follows_of_scan
        (fun hmem => hnul (List.mem_append_right _ hmem)) htail hscan
      exact hend (h name suffix type args rest (List.append_assoc _ _ _).symm hname hfollows)
    · exact hrecognized
  rw [runExtendedCommand, hnone]

lemma name_unique {name' suffix' args' rest' : List Char} {type' : RequestType}
    (hname : ExtendedName name) (hname' : ExtendedName name') (h : Follows suffix type args rest)
    (h' : Follows suffix' type' args' rest')
    (heq : name ++ suffix ++ rest = name' ++ suffix' ++ rest') : name = name' := by
  rw [List.append_assoc, List.append_assoc] at heq
  rw [← takeWhile_name hname.not_isSeparator h.head, heq, takeWhile_name hname'.not_isSeparator h'.head]

/-- The parser reads a line as V.250 has it unless a command of the form begins with `A` or `Z`, or
a string of the last command is not closed. -/
theorem readsExtended_iff (hnul : nul ∉ buf) (hmark : isExtendedCommandPrefix (charAt buf 0) = true) :
    ReadsExtended commandList buf ↔
      (∀ name suffix type args, ExtendedForm buf name suffix type args → ¬ EndLetter name) ∧
        ∀ name args, Unterminated buf name args → EndLetter name := by
  constructor
  · intro h
    refine ⟨fun name suffix type args hform hend => ?_, fun name args hopen => ?_⟩
    · obtain ⟨rest, hbuf, hends⟩ := hform.line
      have hrun := h.form name suffix type args hform
      rw [run_of_endLetter commandList hbuf hform.named hend (.inl ⟨hform.follows, hends⟩)] at hrun
      cases congrArg ExtendedRun.consumed hrun
    · by_contra hend
      have hfollows : Follows ('=' :: args) .set args [] := .inr ⟨rfl, rfl, hopen.unclosed, rfl⟩
      have hbuf : buf = name ++ '=' :: args ++ [] := hopen.line.trans (List.append_nil _).symm
      have hrun := run_of_follows commandList hnul hbuf hopen.named hend hfollows
      -- the whole line is consumed, and no command of the form is as long
      by_cases hform : ∃ name suffix type args, ExtendedForm buf name suffix type args
      · obtain ⟨name', suffix, type, args', hform⟩ := hform
        obtain ⟨rest, hbuf', hends⟩ := hform.line
        have hrun' := (h.form name' suffix type args' hform).symm.trans hrun
        have hconsumed : name'.length + suffix.length + 1 = name.length + (args.length + 1) + 1 :=
          congrArg ExtendedRun.consumed hrun'
        have hsame := name_unique hopen.named hform.named hfollows (.inl ⟨hform.follows, hends⟩)
          (hbuf.symm.trans hbuf')
        subst hsame
        rw [hopen.line, List.append_assoc, List.append_cancel_left_eq] at hbuf'
        have hsuffix : suffix = '=' :: args := by
          have htake := congrArg (List.take suffix.length) hbuf'
          rw [List.take_left, List.take_of_length_le (by rw [List.length_cons]; omega)] at htake
          exact htake.symm
        have hopened := hopen.unclosed
        subst hsuffix
        rcases hform.follows with - | - | - | ⟨_, hclosed⟩
        · cases hopened
        · rw [hclosed] at hopened
          cases hopened
      · push Not at hform
        rw [h.other hform] at hrun
        cases congrArg ExtendedRun.consumed hrun
  · intro h
    constructor
    case form =>
      intro name suffix type args hform
      obtain ⟨rest, hbuf, hends⟩ := hform.line
      exact run_of_follows commandList hnul hbuf hform.named (h.1 name suffix type args hform)
        (.inl ⟨hform.follows, hends⟩)
    case other =>
      intro hnone
      refine run_of_other commandList hnul hmark fun name suffix type args rest hbuf hname hfollows => ?_
      rcases hfollows with ⟨hsuffix, hends⟩ | ⟨-, rfl, hargs, rfl⟩
      · exact absurd ⟨hname, hsuffix, rest, hbuf, hends⟩ (hnone name suffix type args)
      · exact h.2 name args ⟨hname, hargs, hbuf.trans (List.append_nil _)⟩

/-- A semicolon in a string does not end the command. -/
theorem readsExtended_iff_string :
    ReadsExtended (fun _ => some 0) "+CB=\"a;b\";+CC?".toList ↔
      (∀ name suffix type args, ExtendedForm "+CB=\"a;b\";+CC?".toList name suffix type args →
        ¬ EndLetter name) ∧
        ∀ name args, Unterminated "+CB=\"a;b\";+CC?".toList name args → EndLetter name :=
  readsExtended_iff _ (by decide) (by decide)

theorem zone_query_not_read : ¬ ReadsExtended (fun _ => some 0) "+ZON?".toList := by
  intro h
  have hname : ExtendedName "+ZON".toList :=
    ⟨by decide, by decide, by decide, List.all_eq_true.mp (by rfl)⟩
  have hrun := h.form "+ZON".toList ['?'] .query [] ⟨hname, .query, [], rfl, .inl rfl⟩
  exact absurd (congrArg ExtendedRun.consumed hrun) (by decide)

end Phonelets.Gatchat
