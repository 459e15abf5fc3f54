import Phonelets.Rsap.Protocol

/-! # Well-formed RSAP messages

The grammar of the format comment of `RSAPMessageProtocol`, as data: a parameter
carries its value and its padding, a message its parameters. On encoded messages
`isMessageComplete` is exact (it accepts the message and none of its proper
prefixes) and `printMessage` walks exactly the parameters.
-/

namespace Phonelets.Rsap

open List

/-- A parameter on the wire; the value and its padding fill a multiple of four. -/
structure Param where
  id : ℕ
  rsv : ℕ
  value : List ℕ
  padding : List ℕ
  padded : value.length + padding.length = ceil4 value.length

def Param.encode (p : Param) : List ℕ :=
  [p.id, p.rsv, p.value.length >>> 8, p.value.length &&& 0xFF] ++ (p.value ++ p.padding)

/-- A message on the wire. -/
structure Message where
  id : ℕ
  rsv1 : ℕ
  rsv2 : ℕ
  params : List Param

def Message.encode (m : Message) : List ℕ :=
  [m.id, m.params.length, m.rsv1, m.rsv2] ++ m.params.flatMap Param.encode

@[simp] lemma Param.length_encode (p : Param) : p.encode.length = 4 + ceil4 p.value.length := by
  simp only [Param.encode, length_append, length_cons, length_nil]
  rw [p.padded]

/-! ## The recogniser on a message -/

/-- `isMessageCompleteLoop`, read off what is left of the message. -/
def paramsComplete : ℕ → List ℕ → Bool
  | 0, _ => true
  | n + 1, l =>
    if l.length < 4 then false
    else
      let fullLen := ceil4 ((l.getD 2 0 <<< 8) + l.getD 3 0)
      if l.length < 4 + fullLen then false else paramsComplete n (l.drop (4 + fullLen))

lemma isMessageCompleteLoop_eq (message : List ℕ) (n currentPos : ℕ)
    (h : currentPos ≤ message.length) :
    isMessageCompleteLoop message n currentPos = paramsComplete n (message.drop currentPos) := by
  induction n generalizing currentPos with
  | zero => rfl
  | succ n ih =>
    have hlen : (message.drop currentPos).length = message.length - currentPos := by simp
    have hget : ∀ i, (message.drop currentPos).getD i 0 = message.getD (currentPos + i) 0 := by
      intro i
      simp [getD_eq_getElem?_getD, getElem?_drop]
    simp only [isMessageCompleteLoop, paramsComplete, hlen, hget, drop_drop]
    by_cases h4 : message.length < currentPos + 4
    · have h4' : message.length - currentPos < 4 := by omega
      rw [if_pos h4, if_pos h4']
    · have h4' : ¬ message.length - currentPos < 4 := by omega
      simp only [if_neg h4, if_neg h4']
      generalize
        ceil4 ((message.getD (currentPos + 2) 0 <<< 8) + message.getD (currentPos + 3) 0) = full
      by_cases hf : message.length < currentPos + 4 + full
      · have hf' : message.length - currentPos < 4 + full := by omega
        rw [if_pos hf, if_pos hf']
      · have hf' : ¬ message.length - currentPos < 4 + full := by omega
        rw [if_neg hf, if_neg hf', ih _ (by omega), Nat.add_assoc]

/-- On a cut of the parameters of a message the recogniser answers whether
anything was cut off. -/
lemma paramsComplete_take (ps : List Param) (k : ℕ) : paramsComplete ps.length
    ((ps.flatMap Param.encode).take k) = decide ((ps.flatMap Param.encode).length ≤ k) := by
  induction ps generalizing k with
  | nil => simp [paramsComplete]
  | cons p ps ih =>
    have hp := p.length_encode
    generalize hR : ps.flatMap Param.encode = rest at ih
    simp only [flatMap_cons, hR, length_cons, paramsComplete, length_take, length_append, hp]
    by_cases h4 : k < 4
    · rw [if_pos (by omega)]
      simp
      omega
    · rw [if_neg (by omega)]
      -- the four octets of the parameter header are all inside the cut
      have hget : ∀ i, i < 4 → ((p.encode ++ rest).take k).getD i 0 = p.encode.getD i 0 := by
        intro i hi
        simp only [getD_eq_getElem?_getD]
        rw [getElem?_take_of_lt (by omega), getElem?_append_left (by omega)]
      have hfull : ceil4 ((((p.encode ++ rest).take k).getD 2 0 <<< 8) +
          ((p.encode ++ rest).take k).getD 3 0) = ceil4 p.value.length := by
        rw [hget 2 (by omega), hget 3 (by omega)]
        show ceil4 (((p.value.length >>> 8) <<< 8) + (p.value.length &&& 0xFF)) = _
        rw [shift_shift]
      rw [hfull]
      by_cases hk : k < 4 + ceil4 p.value.length
      · rw [if_pos (by omega)]
        simp
        omega
      · rw [if_neg (by omega)]
        have hdrop : ((p.encode ++ rest).take k).drop (4 + ceil4 p.value.length) =
            rest.take (k - (4 + ceil4 p.value.length)) := by
          rw [← hp, drop_take, drop_left]
        rw [hdrop, ih]
        simp
        omega

lemma isMessageComplete_take (m : Message) (k : ℕ) :
    isMessageComplete (m.encode.take k) = decide (m.encode.length ≤ k) := by
  have hlen : m.encode.length = 4 + (m.params.flatMap Param.encode).length := by
    simp [Message.encode]
    omega
  unfold isMessageComplete
  by_cases h4 : k < 4
  · rw [if_pos (by simp; omega)]
    simp
    omega
  · rw [if_neg (by simp; omega)]
    have hcount : (m.encode.take k).getD 1 0 = m.params.length := by
      rw [getD_eq_getElem?_getD, getElem?_take_of_lt (by omega)]
      rfl
    rw [hcount]
    by_cases h0 : m.params.length = 0
    · have hnil : m.params = [] := eq_nil_of_length_eq_zero h0
      simp [hnil, Message.encode]
      omega
    · have hdrop : (m.encode.take k).drop 4 = (m.params.flatMap Param.encode).take (k - 4) := by
        rw [drop_take]
        rfl
      simp only [h0, if_false]
      rw [isMessageCompleteLoop_eq _ _ _ (by simp; omega), hdrop, paramsComplete_take]
      exact decide_eq_decide.mpr (by omega)

/-- `isMessageComplete` accepts a message and none of its proper prefixes. -/
lemma exact_encode (m : Message) : Reassembly.Exact isMessageComplete m.encode where
  accepts := by
    have h := isMessageComplete_take m m.encode.length
    rw [take_length] at h
    simpa using h
  prefix_free := by
    intro q hq hne
    have hlt : q.length < m.encode.length :=
      lt_of_le_of_ne hq.length_le fun h => hne (hq.eq_of_length h)
    have h := isMessageComplete_take m q.length
    rw [prefix_iff_eq_take.mp hq]
    rw [h]
    simpa using hlt

lemma isMessageComplete_nil : isMessageComplete [] = false := rfl

/-! ## The walk over a message -/

/-- What the walk reports of one parameter. -/
def Param.report (p : Param) : Except PyErr PrintedParameter := do
  let name ← lookup parameterID p.id
  return ⟨name, p.value, p.value.length⟩

/-- What `printMessage` reports of a message. -/
def Message.report (m : Message) : Except PyErr Printed := do
  let name ← lookup messageID m.id
  let params ← m.params.mapM Param.report
  return ⟨name, m.params.length, params⟩

lemma printMessageLoop_drop (message : List ℕ) (k n currentPos : ℕ) :
    printMessageLoop (message.drop k) n currentPos = printMessageLoop message n (k + currentPos) := by
  induction n generalizing currentPos with
  | zero => rfl
  | succ n ih =>
    simp only [printMessageLoop, index_drop, slice_drop, ih, Nat.add_assoc]

lemma index_append_left (l r : List ℕ) (i : ℕ) (h : i < l.length) : index (l ++ r) i = index l i := by
  simp [index, getElem?_append_left h]

lemma printMessageLoop_cons (p : Param) (rest : List ℕ) (n : ℕ) :
    printMessageLoop (p.encode ++ rest) (n + 1) 0 = (do
      let x ← p.report
      let xs ← printMessageLoop rest n 0
      return x :: xs) := by
  have hp := p.length_encode
  have hhi : index (p.encode ++ rest) (0 + 2) = .ok (p.value.length >>> 8) := by
    rw [index_append_left _ _ _ (by omega)]
    rfl
  have hlo : index (p.encode ++ rest) (0 + 3) = .ok (p.value.length &&& 0xFF) := by
    rw [index_append_left _ _ _ (by omega)]
    rfl
  have hid : index (p.encode ++ rest) 0 = .ok p.id := by
    rw [index_append_left _ _ _ (by omega)]
    rfl
  have hval : slice (p.encode ++ rest) (0 + 4) (0 + 4 + p.value.length) = p.value := by
    rw [show 0 + 4 + p.value.length = p.value.length + 4 by omega]
    simp [slice, Param.encode]
  have hnext : printMessageLoop (p.encode ++ rest) n (0 + 4 + ceil4 p.value.length) =
      printMessageLoop rest n 0 := by
    have h := printMessageLoop_drop (p.encode ++ rest) p.encode.length n 0
    rw [drop_left] at h
    rw [h, hp]
    simp
  simp only [printMessageLoop, hhi, hlo, hid, bind, Except.bind, shift_shift, hval, hnext]
  unfold Param.report
  cases lookup parameterID p.id <;> rfl

lemma printMessageLoop_params (ps : List Param) :
    printMessageLoop (ps.flatMap Param.encode) ps.length 0 = ps.mapM Param.report := by
  induction ps with
  | nil => rfl
  | cons p ps ih =>
    rw [flatMap_cons, length_cons, printMessageLoop_cons, ih, mapM_cons]

/-- `printMessage` of an encoded message reports its parameters, or fails on the
first id that is not in the tables. -/
lemma printMessage_encode (m : Message) : printMessage m.encode = m.report := by
  have h := printMessageLoop_drop m.encode 4 m.params.length 0
  have hdrop : m.encode.drop 4 = m.params.flatMap Param.encode := rfl
  rw [hdrop, printMessageLoop_params] at h
  have h0 : index m.encode 0 = .ok m.id := rfl
  have h1 : index m.encode 1 = .ok m.params.length := rfl
  simp only [printMessage, Message.report, h0, h1, bind, Except.bind]
  rw [← h]

/-! ### Ids that are not in the tables -/

/-- The ids of the message and of its parameters are in the tables of the protocol. -/
def Message.Known (m : Message) : Prop :=
  (messageID m.id).isSome ∧ ∀ p ∈ m.params, (parameterID p.id).isSome

variable {k : ℕ}

lemma parameterName_of_parameterID {n : ParameterName} (h : parameterID k = some n) :
    parameterName n = k := by
  unfold parameterID at h
  split at h <;> simp_all <;> subst h <;> rfl

lemma lookup_ok {β : Type} {d : ℕ → Option β} {x : β} (h : d k = some x) : lookup d k = .ok x := by
  simp [lookup, h]

lemma lookup_error {β : Type} {d : ℕ → Option β} (h : d k = none) :
    lookup d k = .error .keyError := by
  simp [lookup, h]

variable {p : Param}

lemma Param.report_ok {n : ParameterName} (h : parameterID p.id = some n) :
    p.report = .ok ⟨n, p.value, p.value.length⟩ := by
  simp [Param.report, lookup_ok h, bind, Except.bind, pure, Except.pure]

lemma Param.report_error (h : parameterID p.id = none) : p.report = .error .keyError := by
  simp [Param.report, lookup_error h, bind, Except.bind]

lemma mapM_report_ok (ps : List Param) (h : ∀ p ∈ ps, (parameterID p.id).isSome) :
    ∃ rs, ps.mapM Param.report = .ok rs ∧ rs.map (fun q => (parameterName q.name, q.paramVal)) =
    ps.map (fun p => (p.id, p.value)) ∧ ∀ q ∈ rs, q.paramLen = q.paramVal.length := by
  induction ps with
  | nil => exact ⟨[], rfl, rfl, by simp⟩
  | cons p ps ih =>
    rcases ih fun q hq => h q (by simp [hq]) with ⟨rs, hrs, hmap, hlen⟩
    rcases Option.isSome_iff_exists.mp (h p (by simp)) with ⟨n, hn⟩
    refine ⟨⟨n, p.value, p.value.length⟩ :: rs, ?_, ?_, ?_⟩
    · simp [mapM_cons, Param.report_ok hn, hrs, bind, Except.bind, pure, Except.pure]
    · simp [hmap, parameterName_of_parameterID hn]
    · simpa using hlen

/-- An unknown parameter id ends the walk with a `KeyError`. -/
lemma mapM_report_error (ps : List Param) (h : ¬ ∀ p ∈ ps, (parameterID p.id).isSome) :
    ps.mapM Param.report = .error .keyError := by
  induction ps with
  | nil => simp at h
  | cons p ps ih =>
    rw [mapM_cons]
    cases hn : parameterID p.id with
    | none => simp [Param.report_error hn, bind, Except.bind]
    | some n =>
      have hrest : ¬ ∀ q ∈ ps, (parameterID q.id).isSome := by
        intro hall
        apply h
        intro q hq
        rcases mem_cons.mp hq with rfl | hq
        · simp [hn]
        · exact hall q hq
      simp [Param.report_ok hn, ih hrest, bind, Except.bind]

variable {m : Message}

lemma printMessage_of_known (h : m.Known) : ∃ r, printMessage m.encode = .ok r ∧
    r.params.map (fun q => (parameterName q.name, q.paramVal)) =
    m.params.map (fun p => (p.id, p.value)) ∧ ∀ q ∈ r.params, q.paramLen = q.paramVal.length := by
  rcases mapM_report_ok m.params h.2 with ⟨rs, hrs, hmap, hlen⟩
  rcases Option.isSome_iff_exists.mp h.1 with ⟨n, hn⟩
  refine ⟨⟨n, m.params.length, rs⟩, ?_, hmap, hlen⟩
  rw [printMessage_encode]
  simp [Message.report, lookup_ok hn, hrs, bind, Except.bind, pure, Except.pure]

lemma printMessage_of_unknown (h : ¬ m.Known) : printMessage m.encode = .error .keyError := by
  rw [printMessage_encode]
  cases hn : messageID m.id with
  | none => simp [Message.report, lookup_error hn, bind, Except.bind]
  | some n =>
    have hps : ¬ ∀ p ∈ m.params, (parameterID p.id).isSome := by
      intro hall
      exact h ⟨by simp [hn], hall⟩
    simp [Message.report, lookup_ok hn, mapM_report_error m.params hps, bind, Except.bind]

/-! ## The APDU of a request -/

/-- `extractAPDU_REQ` of a request whose first parameter is the command. -/
lemma extractApduReq_encode (hid : m.id = 0x05) {ps : List Param} (hps : m.params = p :: ps)
    (hp : p.id = 0x04 ∨ p.id = 0x10) : extractApduReq m.encode = .ok (some p.value) := by
  have hsplit : m.encode =
      [0x05, ps.length + 1, m.rsv1, m.rsv2, p.id, p.rsv, p.value.length >>> 8,
        p.value.length &&& 0xFF] ++ (p.value ++ (p.padding ++ ps.flatMap Param.encode)) := by
    simp [Message.encode, Param.encode, hid, hps]
  have hval := slice_append [0x05, ps.length + 1, m.rsv1, m.rsv2, p.id, p.rsv,
    p.value.length >>> 8, p.value.length &&& 0xFF] p.value (p.padding ++ ps.flatMap Param.encode)
  have hparam : parameterID p.id = some .commandApdu ∨
      parameterID p.id = some .commandApdu7816 := by
    rcases hp with hp | hp
    · exact .inl (by rw [hp]; rfl)
    · exact .inr (by rw [hp]; rfl)
  rw [hsplit]
  rcases hparam with h | h
  · simp [extractApduReq, index, lookup, messageID, h, bind, Except.bind, pure, Except.pure,
      shift_shift]
    exact hval
  · simp [extractApduReq, index, lookup, messageID, h, bind, Except.bind, pure, Except.pure,
      shift_shift]
    exact hval

lemma extractApduReq_other {n : MessageName} (hid : messageID m.id = some n)
    (hn : n ≠ .transferApduReq) : extractApduReq m.encode = .error .nameError := by
  have h0 : index m.encode 0 = .ok m.id := rfl
  simp [extractApduReq, h0, lookup_ok hid, hn, bind, Except.bind, throw, throwThe,
    MonadExceptOf.throw]

end Phonelets.Rsap
