import Phonelets.Ss.Common

/-! # Control strings

`parse_ss_control_string` cuts the dialled string in place. It looks for the last `#` from the
right, and from the left it splits off the service code and four pieces of information; what it
asks of the rest is only that nothing is left behind the fifth field.
-/

namespace Phonelets.Ss

open List

/-! ## Strings in a buffer -/

def nul : Char := Char.ofNat 0

/-- A C string that the program is handed. -/
structure CText where
  chars : List Char
  noNul : nul ∉ chars

/-- The string at a pointer. -/
def cstr (buf : List Char) (p : ℕ) : List Char := (buf.drop p).takeWhile (· ≠ nul)

def strlen (buf : List Char) (p : ℕ) : ℕ := (cstr buf p).length

/-- The first place of the character, or of the end of the string. -/
def strchrnul (buf : List Char) (p : ℕ) (c : Char) : ℕ := p + ((cstr buf p).takeWhile (· ≠ c)).length

/-- The last place of the character. -/
def strrchr (buf : List Char) (p : ℕ) (c : Char) : Option ℕ :=
  ((cstr buf p).reverse.idxOf? c).map fun k => p + (strlen buf p - 1 - k)

/-! ## The parser -/

/-- The buffer and what the out parameters point to, as far as they have been set. -/
structure SsFields where
  buf : List Char
  ssType : Option SsControlType
  sc : Option ℕ
  sia : Option ℕ
  sib : Option ℕ
  sic : Option ℕ
  sid : Option ℕ
  dn : Option ℕ

/-- `NEXT_FIELD`: the destination, the buffer and the new position. -/
def nextField (buf : List Char) (str : ℕ) : ℕ × List Char × ℕ :=
  let stop := strchrnul buf str '*'
  if buf.getD stop nul ≠ nul then (str, buf.set stop nul, stop + 1) else (str, buf, stop)

def ssControlType (c0 c1 : Char) : SsControlType :=
  if c0 = '*' ∧ c1 = '*' then .registration
  else if c0 = '#' ∧ c1 = '#' then .erasure
  else if c0 = '*' ∧ c1 = '#' then .query
  else if c0 = '*' then .activation
  else .deactivation

/-- The fields behind the prefix, once the last `#` has been cut away. -/
def parseSsFields (out : SsFields) (c : ℕ) : Bool × SsFields :=
  let (sc, buf, c) := nextField out.buf c
  let out := { out with buf := buf, sc := some sc }
  if strlen buf sc < 2 ∨ strlen buf sc > 3 then (false, out)
  else if (cstr buf sc).any (fun d => !d.isDigit) then (false, out)
  else
    let (sia, buf, c) := nextField buf c
    let (sib, buf, c) := nextField buf c
    let (sic, buf, c) := nextField buf c
    let (sid, buf, c) := nextField buf c
    let out := { out with buf := buf, sia := some sia, sib := some sib, sic := some sic, sid := some sid }
    (buf.getD c nul = nul, out)

/-- What follows the prefix. -/
def parseSsParts (out : SsFields) (cur : ℕ) : Bool × SsFields :=
  match strrchr out.buf cur '#' with
  | none => (false, out)
  | some c =>
    let out := { out with dn := some (c + 1), buf := out.buf.set c nul }
    if strlen out.buf (c + 1) > 0 ∧
        !validPhoneNumberFormat (String.ofList (cstr out.buf (c + 1))) then (false, out)
    else parseSsFields out cur

def parseSsControlString (str : CText) : Bool × SsFields :=
  let out : SsFields := ⟨str.chars ++ [nul], none, none, none, none, none, none, none⟩
  let c0 := out.buf.getD 0 nul
  let c1 := out.buf.getD 1 nul
  if strlen out.buf 0 < 4 then (false, out)
  else if c0 ≠ '*' ∧ c0 ≠ '#' then (false, out)
  else if c1 ≠ '*' ∧ c1 ≠ '#' ∧ (c1 > '9' ∨ c1 < '0') then (false, out)
  else if c0 = '#' ∧ c1 = '*' then (false, out)
  else
    let cur := if c1 = '#' ∨ c1 = '*' then 2 else 1
    parseSsParts { out with ssType := some (ssControlType c0 c1) } cur

/-! ## The form of a control string -/

/-- The parts of a control string as they are written. -/
structure ControlText where
  type : SsControlType
  sc : List Char
  si : List (List Char)
  dn : List Char

/-- What a control string of the type begins with. -/
def typePrefix : SsControlType → List Char
  | .activation => ['*']
  | .deactivation => ['#']
  | .query => ['*', '#']
  | .registration => ['*', '*']
  | .erasure => ['#', '#']

/-- A field and further ones, each behind an asterisk. -/
def starred (first : List Char) (more : List (List Char)) : List Char :=
  first ++ more.flatMap ('*' :: ·)

/-- The string is put together of the parts, and the parts are what they have to be; how many
pieces of information there are is left open. -/
structure WrittenAs (s : List Char) (t : ControlText) : Prop where
  chars : s = typePrefix t.type ++ (starred t.sc t.si ++ '#' :: t.dn)
  scLength : t.sc.length = 2 ∨ t.sc.length = 3
  scDigits : ∀ c ∈ t.sc, c.isDigit = true
  si : ∀ f ∈ t.si, '*' ∉ f
  dnHash : '#' ∉ t.dn
  dnNumber : t.dn = [] ∨ validPhoneNumberFormat (String.ofList t.dn) = true

/-- A control string: up to four pieces of information. -/
def ControlString (s : List Char) (t : ControlText) : Prop := WrittenAs s t ∧ t.si.length ≤ 4

/-- Four pieces of information, and one more asterisk right in front of the last `#`. -/
def FifthEmpty (s : List Char) : Prop :=
  ∃ t, WrittenAs s t ∧ t.si.length = 5 ∧ t.si.getLast? = some []

/-- The out parameters hold the parts, the missing ones as empty strings. -/
def SsFields.Hold (out : SsFields) (t : ControlText) : Prop :=
  out.ssType = some t.type ∧ out.sc.map (cstr out.buf) = some t.sc ∧
    out.sia.map (cstr out.buf) = some (t.si.getD 0 []) ∧
    out.sib.map (cstr out.buf) = some (t.si.getD 1 []) ∧
    out.sic.map (cstr out.buf) = some (t.si.getD 2 []) ∧
    out.sid.map (cstr out.buf) = some (t.si.getD 3 []) ∧ out.dn.map (cstr out.buf) = some t.dn

/-- The parser takes the control strings and nothing else, and takes them apart. -/
def ParsesRight (s : CText) : Prop :=
  ((parseSsControlString s).1 = true ↔ ∃ t, ControlString s.chars t) ∧
    ∀ t, ControlString s.chars t → (parseSsControlString s).2.Hold t

/-! ## Reading in the buffer -/

/-- The string at `q` is `f`. -/
def ReadsAt (buf : List Char) (q : ℕ) (f : List Char) : Prop :=
  ∃ before behind, buf = before ++ (f ++ nul :: behind) ∧ before.length = q ∧ nul ∉ f

variable {buf r dn f first : List Char} {p k q : ℕ} {more : List (List Char)} {c : Char}

lemma takeWhile_ne_cons (h : c ∉ f) (behind : List Char) :
    (f ++ c :: behind).takeWhile (· ≠ c) = f := by
  rw [takeWhile_append_of_pos, takeWhile_cons_of_neg (by simp), append_nil]
  intro d hd
  simpa using fun hdc : d = c => h (hdc ▸ hd)

lemma dropWhile_ne_cons (h : c ∉ f) (behind : List Char) :
    (f ++ c :: behind).dropWhile (· ≠ c) = c :: behind := by
  rw [dropWhile_append_of_pos, dropWhile_cons_of_neg (by simp)]
  intro d hd
  simpa using fun hdc : d = c => h (hdc ▸ hd)

lemma takeWhile_ne_of_not_mem (h : c ∉ f) : f.takeWhile (· ≠ c) = f := by
  rw [takeWhile_eq_self_iff]
  intro d hd
  simpa using fun hdc : d = c => h (hdc ▸ hd)

lemma dropWhile_ne_of_not_mem (h : c ∉ f) : f.dropWhile (· ≠ c) = [] := by
  rw [dropWhile_eq_nil_iff]
  intro d hd
  simpa using fun hdc : d = c => h (hdc ▸ hd)

lemma ReadsAt.cstr_eq (h : ReadsAt buf q f) : cstr buf q = f := by
  obtain ⟨before, behind, rfl, rfl, hf⟩ := h
  rw [cstr, drop_left, takeWhile_ne_cons hf]

variable {pre a : List Char}

lemma strrchr_eq_some {b tail : List Char} (hc : c ∉ b) (ha : nul ∉ a ++ c :: b) :
    strrchr (pre ++ (a ++ c :: b ++ nul :: tail)) pre.length c = some (pre.length + a.length) := by
  have hread : cstr (pre ++ (a ++ c :: b ++ nul :: tail)) pre.length = a ++ c :: b :=
    ReadsAt.cstr_eq ⟨pre, tail, rfl, rfl, ha⟩
  have hidx : (a ++ c :: b).reverse.idxOf? c = some b.length := by
    rw [reverse_append, reverse_cons, append_assoc, List.idxOf?,
      findIdx?_append, findIdx?_eq_none_iff.mpr]
    · simp [findIdx?_cons]
    · intro d hd
      simpa using fun hdc : d = c => hc (hdc ▸ mem_reverse.mp hd)
  rw [strrchr, strlen, hread, hidx, Option.map_some, length_append, length_cons]
  congr 2
  omega

lemma strrchr_eq_none {tail : List Char} (hc : c ∉ a) (ha : nul ∉ a) :
    strrchr (pre ++ (a ++ nul :: tail)) pre.length c = none := by
  have hread : cstr (pre ++ (a ++ nul :: tail)) pre.length = a :=
    ReadsAt.cstr_eq ⟨pre, tail, rfl, rfl, ha⟩
  rw [strrchr, hread, List.idxOf?, findIdx?_eq_none_iff.mpr, Option.map_none]
  intro d hd
  simpa using fun hdc : d = c => hc (hdc ▸ mem_reverse.mp hd)

/-! ## Fields one after the other -/

/-- The text up to the next asterisk, and the text behind it. -/
def field (r : List Char) : List Char := r.takeWhile (· ≠ '*')
def rest (r : List Char) : List Char := (r.dropWhile (· ≠ '*')).tail

/-- The position `p` is where the text `r` begins; the text ends with a NUL, and `dn` is behind. -/
structure Walk (buf : List Char) (p : ℕ) (r dn : List Char) (k : ℕ) : Prop where
  shape : ∃ pre, buf = pre ++ (r ++ nul :: (dn ++ [nul])) ∧ pre.length = p
  behind : p + r.length + 1 = k
  noNul : nul ∉ r

/-- A string that what is still to be done leaves as it is: it ends before the position, or
nothing is left to be cut. -/
def Settled (buf : List Char) (p : ℕ) (r : List Char) (q : ℕ) (f : List Char) : Prop :=
  ReadsAt buf q f ∧ (q + f.length < p ∨ r = [])

lemma starred_cons (first f : List Char) (more : List (List Char)) :
    starred first (f :: more) = first ++ '*' :: starred f more := by
  simp [starred]

@[simp] lemma starred_nil (first : List Char) : starred first [] = first := append_nil _

lemma field_starred (h : '*' ∉ first) : field (starred first more) = first := by
  cases more with
  | nil => rw [starred_nil, field, takeWhile_ne_of_not_mem h]
  | cons f more => rw [starred_cons, field, takeWhile_ne_cons h]

lemma rest_starred_nil (h : '*' ∉ first) : rest (starred first []) = [] := by
  rw [starred_nil, rest, dropWhile_ne_of_not_mem h, tail_nil]

lemma rest_starred_cons (h : '*' ∉ first) : rest (starred first (f :: more)) = starred f more := by
  rw [starred_cons, rest, dropWhile_ne_cons h, tail_cons]

lemma exists_starred (r : List Char) :
    ∃ first more, r = starred first more ∧ '*' ∉ first ∧ ∀ f ∈ more, '*' ∉ f := by
  induction r with
  | nil => exact ⟨[], [], rfl, not_mem_nil, forall_mem_nil _⟩
  | cons c r ih =>
    obtain ⟨first, more, rfl, hfirst, hmore⟩ := ih
    by_cases hc : c = '*'
    · subst hc
      exact ⟨[], first :: more, rfl, not_mem_nil, forall_mem_cons.mpr ⟨hfirst, hmore⟩⟩
    · refine ⟨c :: first, more, rfl, ?_, hmore⟩
      rw [mem_cons, not_or]
      exact ⟨fun h => hc h.symm, hfirst⟩

/-- `NEXT_FIELD` cuts the next field out and leaves the strings alone that were cut before. -/
lemma nextField_walk (h : Walk buf p r dn k) : ∃ buf' p', nextField buf p = (p, buf', p') ∧
    Walk buf' p' (rest r) dn k ∧ Settled buf' p' (rest r) p (field r) ∧ ∀ q f, Settled buf p r q f →
    Settled buf' p' (rest r) q f := by
  obtain ⟨⟨pre, rfl, rfl⟩, hk, hnul⟩ := h
  have hread : cstr (pre ++ (r ++ nul :: (dn ++ [nul]))) pre.length = r :=
    ReadsAt.cstr_eq ⟨pre, _, rfl, rfl, hnul⟩
  obtain ⟨first, more, rfl, hfirst, -⟩ := exists_starred r
  unfold nextField strchrnul
  rw [hread]
  have hfield : field (starred first more) = first := field_starred hfirst
  unfold field at hfield
  rw [hfield]
  cases more with
  | nil =>
    -- the field ends where the text ends, and nothing is cut
    have hstop : (pre ++ (starred first [] ++ nul :: (dn ++ [nul]))).getD
        (pre.length + first.length) nul = nul := by
      rw [starred_nil, getD_append_right _ _ _ _ (by omega), Nat.add_sub_cancel_left,
        getD_append_right _ _ _ _ le_rfl, Nat.sub_self]
      rfl
    have hnil := rest_starred_nil hfirst
    refine ⟨_, _, if_neg (not_not_intro hstop), ⟨⟨pre ++ first, ?_, length_append⟩, ?_, ?_⟩,
      ⟨⟨pre, dn ++ [nul], ?_, rfl, ?_⟩, .inr hnil⟩, ?_⟩
    · rw [hnil, starred_nil, append_assoc]
      rfl
    · rw [starred_nil] at hk
      rw [hnil, length_nil]
      omega
    · rw [hnil]
      exact not_mem_nil
    · rw [field_starred hfirst, starred_nil]
    · rwa [field_starred hfirst, ← starred_nil first]
    · rintro q f ⟨hreads, -⟩
      exact ⟨hreads, .inr hnil⟩
  | cons g more =>
    rw [starred_cons] at hk hnul ⊢
    have hstop : (pre ++ (first ++ '*' :: starred g more ++ nul :: (dn ++ [nul]))).getD
        (pre.length + first.length) nul = '*' := by
      rw [getD_append_right _ _ _ _ (by omega), Nat.add_sub_cancel_left, append_assoc,
        getD_append_right _ _ _ _ le_rfl, Nat.sub_self]
      rfl
    have hset : (pre ++ (first ++ '*' :: starred g more ++ nul :: (dn ++ [nul]))).set
        (pre.length + first.length) nul =
          pre ++ (first ++ nul :: starred g more ++ nul :: (dn ++ [nul])) := by
      rw [set_append_right _ _ (by omega), Nat.add_sub_cancel_left, append_assoc,
        set_append_right _ _ le_rfl, Nat.sub_self, append_assoc]
      rfl
    have hne : '*' ≠ nul := by decide
    have hrest : rest (first ++ '*' :: starred g more) = starred g more := by
      rw [← starred_cons, rest_starred_cons hfirst]
    have hfieldEq : field (first ++ '*' :: starred g more) = first := by
      rw [← starred_cons, field_starred hfirst]
    rw [length_append, length_cons] at hk
    rw [hrest, hfieldEq]
    rw [mem_append, mem_cons, not_or, not_or] at hnul
    refine ⟨_, _, if_pos (by rw [hstop]; exact hne), ⟨⟨pre ++ (first ++ [nul]), ?_, ?_⟩, ?_, hnul.2.2⟩,
      ⟨⟨pre, starred g more ++ nul :: (dn ++ [nul]), ?_, rfl, hnul.1⟩, .inl (by omega)⟩, ?_⟩
    · rw [hset]
      simp
    · rw [length_append, length_append]
      rfl
    · omega
    · rw [hset]
      simp
    · rintro q f ⟨⟨before, behind, heq, rfl, hf⟩, hend⟩
      rcases hend with hend | hend
      · -- the string and the NUL behind it lie before the position
        refine ⟨?_, .inl (by omega)⟩
        have hpre : before ++ (f ++ [nul]) <+: pre := by
          have hbefore : before ++ (f ++ [nul]) <+:
              pre ++ (first ++ '*' :: starred g more ++ nul :: (dn ++ [nul])) :=
            ⟨behind, by rw [heq]; simp⟩
          refine prefix_of_prefix_length_le hbefore (prefix_append _ _) ?_
          rw [length_append, length_append, length_singleton]
          omega
        obtain ⟨m, rfl⟩ := hpre
        refine ⟨before, m ++ (first ++ nul :: starred g more ++ nul :: (dn ++ [nul])), ?_, rfl, hf⟩
        rw [hset]
        simp
      · exact absurd hend (by simp)

lemma Walk.reads_dn (h : Walk buf p r dn k) (hdn : nul ∉ dn) : cstr buf k = dn := by
  obtain ⟨⟨pre, rfl, rfl⟩, rfl, hnul⟩ := h
  refine ReadsAt.cstr_eq ⟨pre ++ (r ++ [nul]), [], by simp, ?_, hdn⟩
  rw [length_append, length_append, length_singleton, Nat.add_assoc]

lemma Walk.getD_eq_nul (h : Walk buf p r dn k) : buf.getD p nul = nul ↔ r = [] := by
  obtain ⟨⟨pre, rfl, rfl⟩, -, hnul⟩ := h
  rw [getD_append_right _ _ _ _ le_rfl, Nat.sub_self]
  cases r with
  | nil => exact iff_of_true rfl rfl
  | cons d r =>
    refine iff_of_false (fun hd => hnul ?_) (cons_ne_nil _ _)
    rw [← hd]
    exact mem_cons_self

/-- What the code asks of the text in front of the last `#`. -/
def FieldsOk (r : List Char) : Prop :=
  ((field r).length = 2 ∨ (field r).length = 3) ∧ (∀ d ∈ field r, d.isDigit = true) ∧
    rest (rest (rest (rest (rest r)))) = []

/-- The fields of the text `r`, as the out parameters give them. -/
def fieldsOf (type : SsControlType) (r dn : List Char) : ControlText :=
  ⟨type, field r, [field (rest r), field (rest (rest r)), field (rest (rest (rest r))),
    field (rest (rest (rest (rest r))))], dn⟩

variable {type : SsControlType}

lemma parseSsFields_spec (out : SsFields) (h : Walk out.buf p r dn k) (hdn : nul ∉ dn)
    (htype : out.ssType = some type) (hk : out.dn = some k) : ((parseSsFields out p).1 = true ↔
    FieldsOk r) ∧ (FieldsOk r → (parseSsFields out p).2.Hold (fieldsOf type r dn)) := by
  obtain ⟨buf1, p1, hnext1, h1, hset1, -⟩ := nextField_walk h
  obtain ⟨buf2, p2, hnext2, h2, hset2, hkeep2⟩ := nextField_walk h1
  obtain ⟨buf3, p3, hnext3, h3, hset3, hkeep3⟩ := nextField_walk h2
  obtain ⟨buf4, p4, hnext4, h4, hset4, hkeep4⟩ := nextField_walk h3
  obtain ⟨buf5, p5, hnext5, h5, hset5, hkeep5⟩ := nextField_walk h4
  have hsc := hset1.1.cstr_eq
  unfold parseSsFields
  rw [hnext1]
  dsimp only
  rw [strlen, hsc]
  by_cases hlen : (field r).length < 2 ∨ (field r).length > 3
  · rw [if_pos hlen]
    have hnot : ¬ FieldsOk r := fun hok => by
      have := hok.1
      omega
    exact ⟨iff_of_false Bool.false_ne_true hnot, fun hok => absurd hok hnot⟩
  · rw [if_neg hlen]
    by_cases hany : (field r).any (fun d => !d.isDigit) = true
    · rw [if_pos hany]
      have hnot : ¬ FieldsOk r := fun hok => by
        obtain ⟨d, hd, hdigit⟩ := any_eq_true.mp hany
        rw [hok.2.1 d hd] at hdigit
        cases hdigit
      exact ⟨iff_of_false Bool.false_ne_true hnot, fun hok => absurd hok hnot⟩
    · rw [if_neg hany, hnext2]
      dsimp only
      rw [hnext3]
      dsimp only
      rw [hnext4]
      dsimp only
      rw [hnext5]
      dsimp only
      constructor
      · rw [decide_eq_true_iff, h5.getD_eq_nul]
        constructor
        · intro hnil
          refine ⟨by omega, fun d hd => ?_, hnil⟩
          by_contra hdigit
          exact hany (any_eq_true.mpr ⟨d, hd, by simpa using hdigit⟩)
        · exact fun hok => hok.2.2
      · intro _
        -- each string stays as it was cut through the cuts behind it
        have hread1 := (hkeep5 _ _ (hkeep4 _ _ (hkeep3 _ _ (hkeep2 _ _ hset1)))).1.cstr_eq
        have hread2 := (hkeep5 _ _ (hkeep4 _ _ (hkeep3 _ _ hset2))).1.cstr_eq
        have hread3 := (hkeep5 _ _ (hkeep4 _ _ hset3)).1.cstr_eq
        have hread4 := (hkeep5 _ _ hset4).1.cstr_eq
        refine ⟨htype, congrArg some hread1, congrArg some hread2, congrArg some hread3,
          congrArg some hread4, congrArg some hset5.1.cstr_eq, ?_⟩
        rw [hk]
        exact congrArg some (h5.reads_dn hdn)

/-! ## The prefix and the last `#` -/

/-- What the code asks of the text behind the last `#`. -/
def DnOk (dn : List Char) : Prop :=
  dn = [] ∨ validPhoneNumberFormat (String.ofList dn) = true

lemma parseSsParts_spec (out : SsFields) (pre : List Char) (hbuf : out.buf = pre ++
    (r ++ '#' :: dn ++ nul :: [])) (htype : out.ssType = some type) (hnul : nul ∉ r ++ '#' :: dn)
    (hhash : '#' ∉ dn) : ((parseSsParts out pre.length).1 = true ↔ DnOk dn ∧ FieldsOk r) ∧
    (DnOk dn → FieldsOk r → (parseSsParts out pre.length).2.Hold (fieldsOf type r dn)) := by
  have hfind : strrchr out.buf pre.length '#' = some (pre.length + r.length) := by
    rw [hbuf]
    exact strrchr_eq_some hhash hnul
  rw [mem_append, mem_cons, not_or, not_or] at hnul
  have hcut : out.buf.set (pre.length + r.length) nul = pre ++ (r ++ nul :: (dn ++ [nul])) := by
    rw [hbuf, set_append_right _ _ (by omega), Nat.add_sub_cancel_left, append_assoc,
      set_append_right _ _ le_rfl, Nat.sub_self]
    rfl
  have hwalk : Walk (out.buf.set (pre.length + r.length) nul) pre.length r dn
      (pre.length + r.length + 1) := ⟨⟨pre, hcut, rfl⟩, rfl, hnul.1⟩
  have hdn := hwalk.reads_dn hnul.2.2
  obtain ⟨hiff, hhold⟩ := parseSsFields_spec
    { out with dn := some (pre.length + r.length + 1), buf := out.buf.set (pre.length + r.length) nul }
    hwalk hnul.2.2 htype rfl
  unfold parseSsParts
  rw [hfind]
  dsimp only
  rw [strlen, hdn]
  by_cases hok : DnOk dn
  · have hif : ¬ (dn.length > 0 ∧ (!validPhoneNumberFormat (String.ofList dn)) = true) := by
      rintro ⟨hpos, hbad⟩
      rcases hok with rfl | hvalid
      · exact absurd hpos (Nat.lt_irrefl 0)
      · rw [hvalid] at hbad
        cases hbad
    rw [if_neg hif]
    exact ⟨hiff.trans ⟨fun h => ⟨hok, h⟩, And.right⟩, fun _ => hhold⟩
  · have hif : dn.length > 0 ∧ (!validPhoneNumberFormat (String.ofList dn)) = true := by
      unfold DnOk at hok
      rw [not_or] at hok
      exact ⟨length_pos_iff.mpr hok.1, by simpa using hok.2⟩
    rw [if_pos hif]
    exact ⟨iff_of_false Bool.false_ne_true fun h => hok h.1, fun h => absurd h hok⟩

lemma parseSsParts_eq_false {out : SsFields} (hbuf : out.buf = pre ++ (r ++ nul :: []))
    (hnul : nul ∉ r) (hhash : '#' ∉ r) : (parseSsParts out pre.length).1 = false := by
  have hfind : strrchr out.buf pre.length '#' = none := by
    rw [hbuf]
    exact strrchr_eq_none hhash hnul
  unfold parseSsParts
  rw [hfind]

lemma ssControlType_other {c0 c1 : Char} (hhash : c1 ≠ '#') (hstar : c1 ≠ '*') :
    ssControlType c0 c1 = if c0 = '*' then .activation else .deactivation := by
  rw [ssControlType, if_neg fun h => hstar h.2, if_neg fun h => hhash h.2,
    if_neg fun h => hhash h.2]

lemma read_start (s : CText) : cstr (s.chars ++ [nul]) 0 = s.chars :=
  ReadsAt.cstr_eq ⟨[], [], rfl, rfl, s.noNul⟩

/-- A string that is taken begins with the prefix of its type, and the rest is left to the parts. -/
lemma parse_of_true {s : CText} (h : (parseSsControlString s).1 = true) :
    ∃ type body, s.chars = typePrefix type ++ body ∧ parseSsControlString s = parseSsParts
    ⟨s.chars ++ [nul], some type, none, none, none, none, none, none⟩ (typePrefix type).length := by
  unfold parseSsControlString at h ⊢
  dsimp only at h ⊢
  rw [strlen, read_start] at h ⊢
  by_cases hlen : s.chars.length < 4
  · rw [if_pos hlen] at h
    cases h
  · obtain ⟨c0, tail, hs⟩ := exists_cons_of_length_pos (by omega : 0 < s.chars.length)
    rw [hs, length_cons] at hlen
    obtain ⟨c1, tail, rfl⟩ := exists_cons_of_length_pos (by omega : 0 < tail.length)
    have hc0 : (s.chars ++ [nul]).getD 0 nul = c0 := by rw [hs]; rfl
    have hc1 : (s.chars ++ [nul]).getD 1 nul = c1 := by rw [hs]; rfl
    rw [hc0, hc1] at h ⊢
    split_ifs at h ⊢ with hshort h0 h1 h2 hcur
    · -- two characters of the prefix
      rcases hcur with rfl | rfl
      · by_cases hstar : c0 = '*'
        · subst hstar
          exact ⟨.query, tail, hs, rfl⟩
        · have hhash : c0 = '#' := by
            by_contra hne
            exact h0 ⟨hstar, hne⟩
          subst hhash
          exact ⟨.erasure, tail, hs, rfl⟩
      · by_cases hstar : c0 = '*'
        · subst hstar
          exact ⟨.registration, tail, hs, rfl⟩
        · have hhash : c0 = '#' := by
            by_contra hne
            exact h0 ⟨hstar, hne⟩
          exact absurd ⟨hhash, rfl⟩ h2
    · rw [not_or] at hcur
      by_cases hstar : c0 = '*'
      · subst hstar
        refine ⟨.activation, c1 :: tail, hs, ?_⟩
        rw [ssControlType_other hcur.1 hcur.2]
        rfl
      · have hhash : c0 = '#' := by
          by_contra hne
          exact h0 ⟨hstar, hne⟩
        subst hhash
        refine ⟨.deactivation, c1 :: tail, hs, ?_⟩
        rw [ssControlType_other hcur.1 hcur.2]
        rfl

lemma parse_of_typePrefix {s : CText} {d : Char} {body : List Char}
    (hs : s.chars = typePrefix type ++ d :: body) (hd : d.isDigit = true)
    (hlen : 4 ≤ s.chars.length) : parseSsControlString s = parseSsParts
    ⟨s.chars ++ [nul], some type, none, none, none, none, none, none⟩ (typePrefix type).length := by
  have hstar : d ≠ '*' := by
    rintro rfl
    exact absurd hd (by decide)
  have hhash : d ≠ '#' := by
    rintro rfl
    exact absurd hd (by decide)
  have hrange : ¬ (d > '9' ∨ d < '0') := by
    rw [Char.isDigit, Bool.and_eq_true, decide_eq_true_iff, decide_eq_true_iff] at hd
    rw [not_or, not_lt, not_lt]
    exact ⟨hd.2, hd.1⟩
  unfold parseSsControlString
  dsimp only
  rw [strlen, read_start, if_neg (by omega)]
  cases type with
  | activation =>
    have hc1 : (s.chars ++ [nul]).getD 1 nul = d := by rw [hs]; rfl
    have hc0 : (s.chars ++ [nul]).getD 0 nul = '*' := by rw [hs]; rfl
    rw [hc0, hc1, if_neg (by decide), if_neg fun h => hrange h.2.2, if_neg fun h => hstar h.2,
       
      if_neg fun h => h.elim hhash hstar, ssControlType_other hhash hstar]
    rfl
  | deactivation =>
    have hc1 : (s.chars ++ [nul]).getD 1 nul = d := by rw [hs]; rfl
    have hc0 : (s.chars ++ [nul]).getD 0 nul = '#' := by rw [hs]; rfl
    rw [hc0, hc1, if_neg (by decide), if_neg fun h => hrange h.2.2, if_neg fun h => hstar h.2,
       
      if_neg fun h => h.elim hhash hstar, ssControlType_other hhash hstar]
    rfl
  | query =>
    have hc1 : (s.chars ++ [nul]).getD 1 nul = '#' := by rw [hs]; rfl
    have hc0 : (s.chars ++ [nul]).getD 0 nul = '*' := by rw [hs]; rfl
    rw [hc0, hc1]
    rfl
  | registration =>
    have hc1 : (s.chars ++ [nul]).getD 1 nul = '*' := by rw [hs]; rfl
    have hc0 : (s.chars ++ [nul]).getD 0 nul = '*' := by rw [hs]; rfl
    rw [hc0, hc1]
    rfl
  | erasure =>
    have hc1 : (s.chars ++ [nul]).getD 1 nul = '#' := by rw [hs]; rfl
    have hc0 : (s.chars ++ [nul]).getD 0 nul = '#' := by rw [hs]; rfl
    rw [hc0, hc1]
    rfl

/-! ## How many fields there are -/

lemma iterate_rest_eq_nil_iff {n : ℕ} (hfirst : '*' ∉ first) (hmore : ∀ f ∈ more, '*' ∉ f) :
    rest^[n] (starred first more) = [] ↔
      more.length < n ∨ more.length = n ∧ (first :: more).getLast? = some [] := by
  induction n generalizing first more with
  | zero =>
    cases more with
    | nil => simp
    | cons f more => simp [starred_cons]
  | succ n ih =>
    rw [Function.iterate_succ_apply]
    cases more with
    | nil =>
      have hnil := @ih [] [] not_mem_nil (forall_mem_nil _)
      rw [rest_starred_nil hfirst]
      rw [starred_nil] at hnil
      refine iff_of_true (hnil.mpr ?_) (.inl (Nat.succ_pos n))
      rcases Nat.eq_zero_or_pos n with rfl | hpos
      · exact .inr ⟨rfl, rfl⟩
      · exact .inl hpos
    | cons f more =>
      obtain ⟨hf, hmore⟩ := forall_mem_cons.mp hmore
      rw [rest_starred_cons hfirst, ih hf hmore, getLast?_cons_cons, length_cons,
        Nat.succ_lt_succ_iff, Nat.succ_inj]

lemma field_iterate_rest (n : ℕ) (hfirst : '*' ∉ first) (hmore : ∀ f ∈ more, '*' ∉ f) :
    field (rest^[n] (rest (starred first more))) = more.getD n [] := by
  induction n generalizing first more with
  | zero =>
    cases more with
    | nil =>
      rw [rest_starred_nil hfirst]
      rfl
    | cons f more =>
      obtain ⟨hf, -⟩ := forall_mem_cons.mp hmore
      rw [rest_starred_cons hfirst]
      exact field_starred hf
  | succ n ih =>
    rw [Function.iterate_succ_apply]
    cases more with
    | nil =>
      have hnil := @ih [] [] not_mem_nil (forall_mem_nil _)
      rw [rest_starred_nil hfirst]
      exact hnil
    | cons f more =>
      obtain ⟨hf, hmore⟩ := forall_mem_cons.mp hmore
      rw [rest_starred_cons hfirst]
      exact ih hf hmore

/-- Up to four pieces of information, or a fifth one that is empty. -/
def CountOk (si : List (List Char)) : Prop :=
  si.length ≤ 4 ∨ si.length = 5 ∧ si.getLast? = some []

lemma fieldsOk_starred (hfirst : '*' ∉ first) (hmore : ∀ f ∈ more, '*' ∉ f) :
    FieldsOk (starred first more) ↔ (first.length = 2 ∨ first.length = 3) ∧
      (∀ d ∈ first, d.isDigit = true) ∧ CountOk more := by
  have hiter := iterate_rest_eq_nil_iff (n := 5) hfirst hmore
  have hcount : (more.length < 5 ∨ more.length = 5 ∧ (first :: more).getLast? = some []) ↔
      CountOk more := by
    refine or_congr Nat.lt_succ_iff (and_congr_right fun hfive => ?_)
    obtain ⟨f, more, rfl⟩ := exists_cons_of_length_pos (by omega : 0 < more.length)
    rw [getLast?_cons_cons]
  rw [FieldsOk, field_starred hfirst]
  exact and_congr_right fun _ => and_congr_right fun _ => hiter.trans hcount

variable {s : List Char} {t : ControlText}

lemma WrittenAs.hold_of_fieldsOf {out : SsFields} (ht : WrittenAs s t) (hsc : '*' ∉ t.sc)
    (h : out.Hold (fieldsOf t.type (starred t.sc t.si) t.dn)) : out.Hold t := by
  obtain ⟨htype, h0, h1, h2, h3, h4, hdn⟩ := h
  refine ⟨htype, ?_, ?_, ?_, ?_, ?_, hdn⟩
  · rw [h0]
    exact congrArg some (field_starred hsc)
  · rw [h1]
    exact congrArg some (field_iterate_rest 0 hsc ht.si)
  · rw [h2]
    exact congrArg some (field_iterate_rest 1 hsc ht.si)
  · rw [h3]
    exact congrArg some (field_iterate_rest 2 hsc ht.si)
  · rw [h4]
    exact congrArg some (field_iterate_rest 3 hsc ht.si)

/-! ## What is taken -/

lemma WrittenAs.star_sc (ht : WrittenAs s t) : '*' ∉ t.sc :=
  fun h => absurd (ht.scDigits '*' h) (by decide)

lemma WrittenAs.parse {s : CText} (ht : WrittenAs s.chars t) (hcount : CountOk t.si) :
    (parseSsControlString s).1 = true ∧ (parseSsControlString s).2.Hold t := by
  have hsc := ht.star_sc
  obtain ⟨d, sc, hd⟩ := exists_cons_of_length_pos
    (by rcases ht.scLength with h | h <;> omega : 0 < t.sc.length)
  have hbody : s.chars = typePrefix t.type ++ d :: (sc ++ t.si.flatMap ('*' :: ·) ++ '#' :: t.dn) := by
    rw [ht.chars, starred, hd]
    rfl
  have hdigit : d.isDigit = true := ht.scDigits d (hd ▸ mem_cons_self)
  have hlen : 4 ≤ s.chars.length := by
    have hprefix : 1 ≤ (typePrefix t.type).length := by cases t.type <;> decide
    have hsclen := ht.scLength
    have hchars := congrArg List.length ht.chars
    rw [starred, length_append, length_append, length_append, length_cons] at hchars
    omega
  have hnul : nul ∉ starred t.sc t.si ++ '#' :: t.dn := fun h =>
    s.noNul (by rw [ht.chars]; exact mem_append_right _ h)
  have hok : FieldsOk (starred t.sc t.si) :=
    (fieldsOk_starred hsc ht.si).mpr ⟨ht.scLength, ht.scDigits, hcount⟩
  obtain ⟨hiff, hhold⟩ := parseSsParts_spec
    ⟨s.chars ++ [nul], some t.type, none, none, none, none, none, none⟩ (typePrefix t.type)
    (r := starred t.sc t.si) (by rw [ht.chars]; simp) rfl hnul ht.dnHash
  rw [parse_of_typePrefix hbody hdigit hlen]
  exact ⟨hiff.mpr ⟨ht.dnNumber, hok⟩, ht.hold_of_fieldsOf hsc (hhold ht.dnNumber hok)⟩

lemma exists_last (h : c ∈ s) : ∃ a b, s = a ++ c :: b ∧ c ∉ b := by
  obtain ⟨b, a, hs, hb⟩ := eq_append_cons_of_mem (mem_reverse.mpr h)
  refine ⟨a.reverse, b.reverse, ?_, fun hmem => hb (mem_reverse.mp hmem)⟩
  rw [← reverse_reverse s, hs]
  simp

lemma parse_iff (s : CText) :
    (parseSsControlString s).1 = true ↔ ∃ t, WrittenAs s.chars t ∧ CountOk t.si := by
  constructor
  · intro h
    obtain ⟨type, body, hs, hparse⟩ := parse_of_true h
    rw [hparse] at h
    have hnul : nul ∉ body := fun hmem => s.noNul (by rw [hs]; exact mem_append_right _ hmem)
    by_cases hhash : '#' ∈ body
    · obtain ⟨r, dn, rfl, hdn⟩ := exists_last hhash
      obtain ⟨hiff, -⟩ := parseSsParts_spec
        ⟨s.chars ++ [nul], some type, none, none, none, none, none, none⟩ (typePrefix type)
        (r := r) (by rw [hs]; simp) rfl hnul hdn
      obtain ⟨hnumber, hok⟩ := hiff.mp h
      obtain ⟨first, more, rfl, hfirst, hmore⟩ := exists_starred r
      obtain ⟨hlength, hdigits, hcount⟩ := (fieldsOk_starred hfirst hmore).mp hok
      exact ⟨⟨type, first, more, dn⟩, ⟨hs, hlength, hdigits, hmore, hdn, hnumber⟩, hcount⟩
    · rw [parseSsParts_eq_false (r := body) (by rw [hs, append_assoc]) hnul hhash] at h
      cases h
  · rintro ⟨t, ht, hcount⟩
    exact (ht.parse hcount).1

lemma WrittenAs.takeWhile_digit (h : WrittenAs s t) :
    s.takeWhile (fun c => !c.isDigit) = typePrefix t.type := by
  obtain ⟨d, sc, hd⟩ := exists_cons_of_length_pos
    (by rcases h.scLength with h | h <;> omega : 0 < t.sc.length)
  have hdigit : d.isDigit = true := h.scDigits d (hd ▸ mem_cons_self)
  rw [h.chars, starred, hd, takeWhile_append_of_pos]
  · rw [cons_append, cons_append, takeWhile_cons_of_neg, append_nil]
    rw [hdigit]
    exact Bool.false_ne_true
  · intro c hc
    cases htype : t.type with
    | activation | deactivation | query | registration | erasure =>
      rw [htype] at hc
      simp only [typePrefix, mem_cons, not_mem_nil, or_false, or_self] at hc
      rcases hc with rfl | rfl <;> rfl

lemma eq_of_last {b a' b' : List Char} (hb : c ∉ b) (hb' : c ∉ b')
    (h : a ++ c :: b = a' ++ c :: b') : a = a' := by
  have hrev : ∀ {a b : List Char}, c ∉ b → (a ++ c :: b).reverse.takeWhile (· ≠ c) = b.reverse := by
    intro a b hb
    rw [reverse_append, reverse_cons, append_assoc]
    exact takeWhile_ne_cons (fun hmem => hb (mem_reverse.mp hmem)) _
  have hbb : b = b' := by
    rw [← reverse_inj, ← hrev (a := a) hb, ← hrev (a := a') hb', h]
  rw [hbb] at h
  exact append_cancel_right h

lemma count_starred (hfirst : '*' ∉ first) (hmore : ∀ f ∈ more, '*' ∉ f) :
    (starred first more).count '*' = more.length := by
  induction more generalizing first with
  | nil => rw [starred_nil, count_eq_zero_of_not_mem hfirst, length_nil]
  | cons f more ih =>
    obtain ⟨hf, hmore⟩ := forall_mem_cons.mp hmore
    rw [starred_cons, count_append, count_eq_zero_of_not_mem hfirst,
      count_cons_self, ih hf hmore, length_cons, Nat.zero_add]

lemma WrittenAs.length_si {t' : ControlText} (h : WrittenAs s t)
    (h' : WrittenAs s t') : t.si.length = t'.si.length := by
  have hprefix : typePrefix t.type = typePrefix t'.type := by
    rw [← h.takeWhile_digit, ← h'.takeWhile_digit]
  have hbody : starred t.sc t.si ++ '#' :: t.dn = starred t'.sc t'.si ++ '#' :: t'.dn := by
    have hs := h.chars
    rw [h'.chars, hprefix] at hs
    exact (append_cancel_left hs).symm
  have hfields := eq_of_last h.dnHash h'.dnHash hbody
  rw [← count_starred h.star_sc h.si, ← count_starred h'.star_sc h'.si, hfields]

/-- The parser is right but for a fifth piece of information that is empty. -/
theorem parseSsControlString_iff (s : CText) : ParsesRight s ↔ ¬ FifthEmpty s.chars := by
  constructor
  · rintro ⟨hiff, -⟩ ⟨t, ht, hfive, hlast⟩
    obtain ⟨t', ht', hfour⟩ := hiff.mp ((parse_iff s).mpr ⟨t, ht, .inr ⟨hfive, hlast⟩⟩)
    have := ht.length_si ht'
    omega
  · intro hnot
    refine ⟨(parse_iff s).trans ⟨?_, ?_⟩, fun t ht => (ht.1.parse (.inl ht.2)).2⟩
    · rintro ⟨t, ht, hfour | ⟨hfive, hlast⟩⟩
      · exact ⟨t, ht, hfour⟩
      · exact absurd ⟨t, ht, hfive, hlast⟩ hnot
    · rintro ⟨t, ht, hfour⟩
      exact ⟨t, ht, .inl hfour⟩

/-- `*21*****#` is taken, with a fifth piece of information. -/
theorem parseSsControlString_fifth_empty :
    ¬ ∀ s, (parseSsControlString s).1 = true ↔ ∃ t, ControlString s.chars t := by
  intro hall
  have hnul : nul ∉ ['*', '2', '1', '*', '*', '*', '*', '*', '#'] := by
    simp [nul]
  obtain ⟨s, hs⟩ : ∃ s : CText, s.chars = ['*', '2', '1', '*', '*', '*', '*', '*', '#'] :=
    ⟨⟨_, hnul⟩, rfl⟩
  have hwritten : WrittenAs s.chars ⟨.activation, ['2', '1'], [[], [], [], [], []], []⟩ :=
    ⟨hs, .inl rfl, forall_mem_cons.mpr ⟨rfl, forall_mem_singleton.mpr rfl⟩, by simp,
      not_mem_nil, .inl rfl⟩
  obtain ⟨t, ht, hfour⟩ := (hall s).mp (hwritten.parse (.inr ⟨rfl, rfl⟩)).1
  have hlen := hwritten.length_si ht
  rw [← hlen] at hfour
  exact absurd hfour (by decide)

end Phonelets.Ss
