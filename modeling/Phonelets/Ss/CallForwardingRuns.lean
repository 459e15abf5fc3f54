import Phonelets.Lib.Machine
import Phonelets.Lib.Requests
import Phonelets.Ss.CallForwarding

/-! # Runs of the call forwarding atom

Beside the atom a session keeps the voice condition of each type in the last successful query for
voice calls, the types that have been queried, the requests that have been answered and what every
client holds. All of them are right after every event as long as every answer to a query

* has at most one active entry for voice calls, because every entry is signalled,
* gives the condition on record if the query was for classes without voice calls,
* does not complete `GetProperties` while another type has never been queried, and
* finds nothing that a client sees to be hidden or shown: unconditional forwarding hides the other
  types, but the signals for that are sent only with an indicator on the SIM and under names that no
  property has, and a hidden type is signalled as if it were shown.
-/

namespace Phonelets.Ss

open List Option
open Replica

/-! ## The condition for voice calls -/

/-- An entry of an answer that is active for voice calls. -/
def CfCondition.activeVoice (entry : CfCondition) : Bool := entry.status ≠ 0 && entry.cls.voice

def CfCondition.asVoice (entry : CfCondition) : CfCondition :=
  { entry with cls := bearerClassVoice }

/-- What an answer says for voice calls; the last entry counts. -/
def voiceCondition (list : List CfCondition) : Option CfCondition :=
  ((list.filter CfCondition.activeVoice).map CfCondition.asVoice).getLast?

/-- The conditions of other classes. -/
def Others (l : List CfCondition) : Prop := ∀ c ∈ l, 1 < c.cls.toNat

variable {c : CfCondition} {l : List CfCondition}

lemma Others.insert (hc : 1 < c.cls.toNat) (hl : Others l) : Others (cfCondInsert c l) := by
  intro d hd
  rcases (mem_orderedInsert _).mp hd with rfl | hd
  · exact hc
  · exact hl d hd

/-- Conditions for voice calls come first in a list. -/
structure Split (l voices others : List CfCondition) : Prop where
  eq : l = voices ++ others
  voices : ∀ c ∈ voices, c.cls = bearerClassVoice
  others : Others others

variable {voices others : List CfCondition}

lemma Split.insert_voice (h : Split l voices others) {c : CfCondition}
    (hc : c.cls = bearerClassVoice) : Split (cfCondInsert c l) (c :: voices) others := by
  have hfront : cfCondInsert c l = c :: l := by
    cases l with
    | nil => rfl
    | cons d l =>
      refine orderedInsert_cons_of_le _ l ?_
      have hmem : d ∈ voices ++ others := h.eq ▸ mem_cons_self
      rw [hc]
      rcases mem_append.mp hmem with hvoice | hother
      · rw [h.voices d hvoice]
      · exact Nat.le_of_lt (h.others d hother)
  refine ⟨by rw [hfront, h.eq]; rfl, ?_, h.others⟩
  intro d hd
  rcases mem_cons.mp hd with rfl | hd
  · exact hc
  · exact h.voices d hd

lemma Split.insert_other (h : Split l voices others) {c : CfCondition} (hc : 1 < c.cls.toNat) :
    Split (cfCondInsert c l) voices (cfCondInsert c others) := by
  refine ⟨?_, h.voices, h.others.insert hc⟩
  have hvoices := h.voices
  rw [h.eq]
  clear h
  induction voices with
  | nil => rfl
  | cons d voices ih =>
    have hbehind : ¬ c.cls.toNat ≤ d.cls.toNat := by
      rw [hvoices d mem_cons_self]
      exact Nat.not_le.mpr hc
    rw [cons_append, cons_append, ← ih fun e he => hvoices e (mem_cons_of_mem d he)]
    exact orderedInsert_of_not_le _ _ hbehind

lemma bearerClasses_eq (mask : ClassMask) : ∃ rest : List ClassMask, (∀ cls ∈ rest, 1 < cls.toNat) ∧
    bearerClasses mask = (if mask.voice then [bearerClassVoice] else []) ++ rest := by
  refine ⟨([2, 4, 8, 16, 32, 64, 128] : List ClassMask).filter mask.has, ?_, ?_⟩
  · intro cls hcls
    have hmem := (mem_filter.mp hcls).1
    simp only [mem_cons, not_mem_nil, or_false] at hmem
    rcases hmem with rfl | rfl | rfl | rfl | rfl | rfl | rfl <;> decide
  · rw [bearerClasses, filter_cons]
    show (if mask.voice = true then _ else _) = _
    split <;> rfl

lemma Split.insert_others {classes : List ClassMask} (hclasses : ∀ cls ∈ classes, 1 < cls.toNat)
    (entry : CfCondition) {l voices others : List CfCondition} (h : Split l voices others) :
    ∃ others', Split (classes.foldl (fun l cls =>
      if entry.status = 0 then l else cfCondInsert { entry with cls := cls } l) l)
        voices others' := by
  induction classes generalizing l others with
  | nil => exact ⟨others, h⟩
  | cons cls classes ih =>
    have hrest : ∀ c ∈ classes, 1 < c.toNat :=
      fun c hc => hclasses c (mem_cons_of_mem cls hc)
    rw [foldl_cons]
    by_cases hstatus : entry.status = 0
    · rw [if_pos hstatus]
      exact ih hrest h
    · rw [if_neg hstatus]
      exact ih hrest
        (h.insert_other (c := { entry with cls := cls }) (hclasses cls mem_cons_self))

lemma Split.create {list l voices others : List CfCondition} (h : Split l voices others) :
    ∃ others', Split (list.foldl (fun l entry =>
      (bearerClasses entry.cls).foldl (fun l cls =>
        if entry.status = 0 then l else cfCondInsert { entry with cls := cls } l) l) l)
      (((list.filter CfCondition.activeVoice).map CfCondition.asVoice).reverse ++ voices)
      others' := by
  induction list generalizing l voices others with
  | nil => exact ⟨others, h⟩
  | cons entry list ih =>
    rcases bearerClasses_eq entry.cls with ⟨rest, hrest, hclasses⟩
    rw [foldl_cons, hclasses, foldl_append]
    by_cases hactive : entry.activeVoice = true
    · have hstatus : entry.status ≠ 0 := by
        intro hzero
        simp [CfCondition.activeVoice, hzero] at hactive
      have hvoice : entry.cls.voice = true := by
        rw [CfCondition.activeVoice, Bool.and_eq_true] at hactive
        exact hactive.2
      rw [if_pos hvoice, foldl_cons, foldl_nil, if_neg hstatus,
        filter_cons_of_pos hactive, map_cons, reverse_cons, append_assoc]
      rcases Split.insert_others hrest entry (h.insert_voice (c := entry.asVoice) rfl) with
        ⟨others', hsplit⟩
      exact ih hsplit
    · rw [filter_cons_of_neg hactive]
      have hkept : (if entry.cls.voice = true then [bearerClassVoice] else []).foldl
          (fun l cls =>
            if entry.status = 0 then l else cfCondInsert { entry with cls := cls } l) l = l := by
        rw [CfCondition.activeVoice, Bool.and_eq_true, not_and_or] at hactive
        rcases hactive with hstatus | hvoice
        · have hzero : entry.status = 0 := by simpa using hstatus
          cases entry.cls.voice with
          | true => exact if_pos hzero
          | false => rfl
        · rw [if_neg hvoice]
          rfl
      rw [hkept]
      rcases Split.insert_others hrest entry h with ⟨others', hsplit⟩
      exact ih hsplit

/-- A list with at most one condition for voice calls, which comes first. -/
def Tidy (l : List CfCondition) : Prop :=
  Split l (cfCondFind l bearerClassVoice).toList (l.drop (cfCondFind l bearerClassVoice).toList.length)

lemma Split.find_nil (h : Split l [] others) : cfCondFind l bearerClassVoice = none := by
  rw [cfCondFind, h.eq, nil_append, find?_eq_none]
  intro c hc hvoice
  have hlt := h.others c hc
  rw [of_decide_eq_true hvoice] at hlt
  exact absurd hlt (by decide)

lemma Split.find_cons
    (h : Split l (c :: voices) others) : cfCondFind l bearerClassVoice = some c := by
  rw [cfCondFind, h.eq, cons_append]
  exact find?_cons_of_pos (decide_eq_true (h.voices c mem_cons_self))

lemma Split.tidy {l others : List CfCondition} {cond : Option CfCondition}
    (h : Split l cond.toList others) : cfCondFind l bearerClassVoice = cond ∧ Tidy l := by
  have hfind : cfCondFind l bearerClassVoice = cond := by
    cases cond with
    | none => exact h.find_nil
    | some c => exact h.find_cons
  refine ⟨hfind, ?_⟩
  rw [Tidy, hfind]
  have hothers : l.drop cond.toList.length = others := by
    rw [h.eq, drop_left]
  rw [hothers]
  exact h

lemma split_nil : Split [] [] [] :=
  ⟨rfl, fun _ hc => absurd hc not_mem_nil, fun _ hc => absurd hc not_mem_nil⟩

lemma tidy_nil : Tidy [] := split_nil

/-- An answer with at most one active entry for voice calls becomes a tidy list, and what is found
in it is what the answer says. -/
lemma create_tidy {list : List CfCondition}
    (hone : (list.filter CfCondition.activeVoice).length ≤ 1) : cfCondFind (cfCondListCreate list)
    bearerClassVoice = voiceCondition list ∧ Tidy (cfCondListCreate list) := by
  rcases @Split.create list [] [] [] split_nil with ⟨others, hsplit⟩
  rw [append_nil] at hsplit
  refine @Split.tidy _ others _ ?_
  have hvoices : ((list.filter CfCondition.activeVoice).map CfCondition.asVoice).reverse =
      (voiceCondition list).toList := by
    rw [voiceCondition]
    generalize list.filter CfCondition.activeVoice = actives at hone
    match actives, hone with
    | [], _ => rfl
    | [_], _ => rfl
  rw [← hvoices]
  exact hsplit

/-! ## What the properties say -/

/-- The number of a condition, or that of none. -/
def textOf : Option CfCondition → CfValue
  | some c => c.text
  | none => .string ""

/-- The time of a condition, or that of none. -/
def timeOf : Option CfCondition → CfValue
  | some c => toUInt16 c.time
  | none => toUInt16 defaultNoReplyTimeout

/-- What `GetProperties` says when these are the conditions for voice calls. -/
def voiceForwards (recorded : ℕ → Option CfCondition) (indicator : Bool) :
    List (String × CfValue) :=
  let shown (type : ℕ) : Option CfCondition :=
    if (recorded cfUnconditional).isSome then none else recorded type
  [("VoiceUnconditional", textOf (recorded cfUnconditional)),
    ("VoiceBusy", textOf (shown cfBusy)),
    ("VoiceNoReply", textOf (shown cfNoReply)),
    ("VoiceNoReplyTimeout", timeOf (shown cfNoReply)),
    ("VoiceNotReachable", textOf (shown cfNotReachable)),
    ("ForwardingFlagOnSim", .boolean (indicator && (recorded cfUnconditional).isSome))]

lemma Others.gt (h : Others (c :: l)) : c.cls > bearerClassVoice := h c mem_cons_self

lemma Others.tail (h : Others (c :: l)) : Others l :=
  fun d hd => h d (mem_cons_of_mem c hd)

lemma not_gt_of_voice (hc : c.cls = bearerClassVoice) : ¬ c.cls > bearerClassVoice := by
  rw [hc]
  exact BitVec.lt_irrefl _

namespace CallForwarding

/-- The condition on record for voice calls. -/
def recorded (cf : CallForwarding) (type : ℕ) : Option CfCondition :=
  cfCondFind (cf.cfConditions type) bearerClassVoice

def AllTidy (cf : CallForwarding) : Prop := ∀ type, Tidy (cf.cfConditions type)

lemma propertyAppend_tidy {typeName : String} {l : List CfCondition} (h : Tidy l) :
    propertyAppendCfConditions typeName [bearerClassVoice] l =
      propertyAppendCfCondition bearerClassVoice typeName
        (textOf (cfCondFind l bearerClassVoice)) (timeOf (cfCondFind l bearerClassVoice)) := by
  have hsplit : Split l _ _ := h
  have hdrop : l.dropWhile (·.cls < bearerClassVoice) = l := by
    cases l with
    | nil => rfl
    | cons c l =>
      refine dropWhile_cons_of_neg ?_
      rw [decide_eq_true_eq]
      have hmem : c ∈ _ ++ _ := hsplit.eq ▸ mem_cons_self
      rcases mem_append.mp hmem with hvoice | hother
      · rw [hsplit.voices c hvoice]
        exact BitVec.lt_irrefl _
      · exact Nat.not_lt.mpr (Nat.le_of_lt (hsplit.others c hother))
  rw [propertyAppendCfConditions, propertyAppendCfConditions, append_nil, hdrop]
  cases hfind : cfCondFind l bearerClassVoice with
  | some c =>
    rw [hfind] at hsplit
    rw [hsplit.eq]
    exact if_pos (hsplit.voices c (by simp))
  | none =>
    cases l with
    | nil => rfl
    | cons c l =>
      have hne : c.cls ≠ bearerClassVoice := by
        intro heq
        simp [cfCondFind, heq] at hfind
      exact if_neg hne

lemma getPropertiesReply_eq {cf : CallForwarding} (h : cf.AllTidy) :
    cf.getPropertiesReply = voiceForwards cf.recorded cf.hasIndicator := by
  have hcfu : cf.isCfuEnabled = (cf.recorded cfUnconditional).isSome := rfl
  have hfirst := @propertyAppend_tidy (cfTypeLut cfUnconditional) _ (h cfUnconditional)
  -- the other types, hidden or not
  have hother : ∀ type ≠ cfUnconditional,
      propertyAppendCfConditions (cfTypeLut type) [bearerClassVoice]
        (if cf.isCfuEnabled = true ∧ type ≠ cfUnconditional then [] else cf.cfConditions type) =
      propertyAppendCfCondition bearerClassVoice (cfTypeLut type)
        (textOf (if (cf.recorded cfUnconditional).isSome then none else cf.recorded type))
        (timeOf (if (cf.recorded cfUnconditional).isSome then none else cf.recorded type)) := by
    intro type htype
    rw [hcfu]
    by_cases hmask : (cf.recorded cfUnconditional).isSome = true
    · rw [if_pos ⟨hmask, htype⟩, if_pos hmask]
      exact propertyAppend_tidy tidy_nil
    · rw [if_neg fun h => hmask h.1, if_neg hmask]
      exact propertyAppend_tidy (h type)
  rw [getPropertiesReply, bearerClasses_voice, flatMap_cons, flatMap_cons,
    flatMap_cons, flatMap_cons, flatMap_nil, hother cfBusy (by decide),
    hother cfNoReply (by decide), hother cfNotReachable (by decide), if_neg (by simp), hfirst]
  simp [propertyAppendCfCondition, voiceForwards, cfTypeLut, cfUnconditional, cfBusy, cfNoReply,
    cfNotReachable, recorded, hcfu]

/-! ## What the signals say -/

/-- The signals when one condition for voice calls takes the place of another. -/
def condChanges (type : ℕ) : Option CfCondition → Option CfCondition → List (String × CfValue)
  | none, none => []
  | some oc, none =>
    ("Voice" ++ cfTypeLut type, .string "") ::
      if type = cfNoReply ∧ oc.time ≠ defaultNoReplyTimeout then
        [("Voice" ++ cfTypeLut type ++ "Timeout", toUInt16 defaultNoReplyTimeout)]
      else []
  | none, some lc =>
    ("Voice" ++ cfTypeLut type, lc.text) ::
      if type = cfNoReply ∧ lc.time ≠ defaultNoReplyTimeout then
        [("Voice" ++ cfTypeLut type ++ "Timeout", toUInt16 lc.time)]
      else []
  | some oc, some lc =>
    (if oc.phoneNumber ≠ lc.phoneNumber then [("Voice" ++ cfTypeLut type, lc.text)] else []) ++
      if type = cfNoReply ∧ oc.time ≠ lc.time then
        [("Voice" ++ cfTypeLut type ++ "Timeout", toUInt16 lc.time)]
      else []

variable {type : ℕ} {l : List CfCondition}

lemma newCondSignals_others (h : Others l)
    (old : List CfCondition) : newCondSignals type l old = ([], old) := by
  induction l with
  | nil => rfl
  | cons c l ih => rw [newCondSignals, if_pos h.gt, ih h.tail]

lemma oldCondSignals_others (h : Others l) : oldCondSignals type l = [] := by
  induction l with
  | nil => rfl
  | cons c l ih => rw [oldCondSignals, if_pos h.gt, ih h.tail]

/-- A tidy list has other conditions only, or one for voice calls before them. -/
lemma Tidy.cases (h : Tidy l) : (cfCondFind l bearerClassVoice = none ∧ Others l) ∨
      ∃ c rest, cfCondFind l bearerClassVoice = some c ∧ c.cls = bearerClassVoice ∧
        l = c :: rest ∧ Others rest := by
  have hsplit : Split l _ _ := h
  cases hfound : cfCondFind l bearerClassVoice with
  | none =>
    rw [hfound] at hsplit
    left
    refine ⟨rfl, ?_⟩
    rw [hsplit.eq]
    exact hsplit.others
  | some c =>
    rw [hfound] at hsplit
    right
    exact ⟨c, _, rfl, hsplit.voices c (by simp), hsplit.eq, hsplit.others⟩

/-- The two loops of `setNewCondList`, on tidy lists. -/
lemma listSignals_tidy (type : ℕ) {old l : List CfCondition} (hold : Tidy old) (hl : Tidy l) :
    (newCondSignals type l old).1 ++ oldCondSignals type (newCondSignals type l old).2 =
      condChanges type (cfCondFind old bearerClassVoice) (cfCondFind l bearerClassVoice) := by
  rcases Tidy.cases hl with ⟨hnew, hothers⟩ | ⟨lc, rest, hnew, hlc, rfl, hothers⟩
  · rw [newCondSignals_others hothers, hnew]
    rcases Tidy.cases hold with ⟨hfound, hothers'⟩ | ⟨oc, left, hfound, hoc, rfl, hothers'⟩
    · rw [oldCondSignals_others hothers', hfound]
      rfl
    · rw [hfound, oldCondSignals, if_neg (not_gt_of_voice hoc), oldCondSignals_others hothers',
        hoc, bearerClassToString_voice, append_nil]
      rfl
  · rw [hnew, newCondSignals, if_neg (not_gt_of_voice hlc), hlc, bearerClassToString_voice]
    rcases Tidy.cases hold with ⟨hfound, hothers'⟩ | ⟨oc, left, hfound, hoc, rfl, hothers'⟩
    · rw [hfound, newCondSignals_others hothers old]
      dsimp only
      rw [oldCondSignals_others hothers']
      simp [condChanges]
    · have herase : (oc :: left).eraseP (fun c => c.cls = bearerClassVoice) = left := by
        simp [hoc]
      rw [hfound, herase, newCondSignals_others hothers]
      dsimp only
      rw [oldCondSignals_others hothers']
      simp [condChanges]

/-- A condition that no client sees, shown or hidden. -/
def Unseen (type : ℕ) (cond : Option CfCondition) : Prop :=
  textOf cond = textOf none ∧ (type = cfNoReply → timeOf cond = timeOf none)

instance (type : ℕ) (cond : Option CfCondition) : Decidable (Unseen type cond) :=
  inferInstanceAs (Decidable (_ ∧ _))

/-- While a type is hidden nothing is signalled for it, except what a hidden type shows. -/
def HiddenTold (type : ℕ) (old : Option CfCondition) : Option CfCondition → Prop
  | none => True
  | some lc =>
    (old.map (·.phoneNumber) = some lc.phoneNumber ∨ lc.text = textOf none) ∧
      (type = cfNoReply → old.map (·.time) = some lc.time ∨ toUInt16 lc.time = timeOf none)

instance (type : ℕ) (old new : Option CfCondition) : Decidable (HiddenTold type old new) := by
  unfold HiddenTold
  split <;> infer_instance

/-- The signals take the clients to the new condition of a type. -/
def Told (recorded : ℕ → Option CfCondition) (type : ℕ) (new : Option CfCondition) : Prop :=
  if type = cfUnconditional then
    (recorded cfUnconditional).isSome = new.isSome ∨
      ∀ i ∈ [cfBusy, cfNoReply, cfNotReachable], Unseen i (recorded i)
  else (recorded cfUnconditional).isSome → HiddenTold type (recorded type) new

instance (recorded : ℕ → Option CfCondition) (type : ℕ) (new : Option CfCondition) :
    Decidable (Told recorded type new) := by
  unfold Told
  infer_instance

variable {name : String}

lemma said_singleton {c : String × CfValue} (h : c.1 = name) : said [c] name = some c.2 := by
  rw [said_cons, if_pos h]
  rfl

lemma said_if_ne {p : Prop} [Decidable p] {c : String × CfValue}
    (h : c.1 ≠ name) : said (if p then [c] else []) name = none := by
  refine said_eq_none ?_
  intro d hd
  split at hd
  · rw [mem_singleton.mp hd]
    exact h
  · exact absurd hd not_mem_nil

lemma attr_ne_timeout (htype : type ≤ 3) :
    "Voice" ++ cfTypeLut type ++ "Timeout" ≠ "Voice" ++ cfTypeLut type := by
  interval_cases type <;> decide

lemma said_number_eq (htype : type ≤ 3) (old new : Option CfCondition) :
    said (condChanges type old new) ("Voice" ++ cfTypeLut type) =
      if old.map (·.phoneNumber) = new.map (·.phoneNumber) then none else some (textOf new) := by
  have hne := attr_ne_timeout htype
  rcases old with _ | oc <;> rcases new with _ | lc
  · rfl
  · rw [condChanges, said_cons, said_if_ne hne, if_pos rfl]
    rfl
  · rw [condChanges, said_cons, said_if_ne hne, if_pos rfl]
    rfl
  · rw [condChanges, said_append, said_if_ne hne, none_or, ite_not, Option.map_some,
      Option.map_some]
    by_cases hphone : oc.phoneNumber = lc.phoneNumber
    · rw [if_pos hphone, if_pos (congrArg some hphone), said_nil]
    · rw [if_neg hphone, if_neg fun heq => hphone (some_inj.mp heq), said_singleton rfl]
      rfl

lemma said_number (htype : type ≤ 3) (old new : Option CfCondition) :
    (said (condChanges type old new) ("Voice" ++ cfTypeLut type)).or (some (textOf old)) =
      some (textOf new) := by
  rw [said_number_eq htype]
  split
  next hsame =>
    have htext : ∀ cond : Option CfCondition, textOf cond = ((cond.map (·.phoneNumber)).map
        fun ph => CfValue.string (phoneNumberToString ph)).getD (.string "") := by
      rintro (_ | c) <;> rfl
    rw [none_or, htext, htext, hsame]
  next => rfl

/-- The time of a condition in seconds. -/
def secondsOf (cond : Option CfCondition) : ℤ := (cond.map (·.time)).getD defaultNoReplyTimeout

lemma timeOf_eq (cond : Option CfCondition) : timeOf cond = toUInt16 (secondsOf cond) := by
  cases cond <;> rfl

lemma said_time_eq (old new : Option CfCondition) :
    said (condChanges cfNoReply old new) "VoiceNoReplyTimeout" =
      if secondsOf old = secondsOf new then none else some (timeOf new) := by
  have hne : "Voice" ++ cfTypeLut cfNoReply ≠ "VoiceNoReplyTimeout" := by decide
  have hname : "Voice" ++ cfTypeLut cfNoReply ++ "Timeout" = "VoiceNoReplyTimeout" := by decide
  have hif : ∀ (p : Prop) [Decidable p] (v : CfValue),
      said (if cfNoReply = cfNoReply ∧ ¬ p then
        [("Voice" ++ cfTypeLut cfNoReply ++ "Timeout", v)] else []) "VoiceNoReplyTimeout" =
          if p then none else some v := by
    intro p _ v
    by_cases hp : p
    · rw [if_neg fun h => h.2 hp, if_pos hp, said_nil]
    · rw [if_pos ⟨rfl, hp⟩, if_neg hp, said_singleton hname]
  rcases old with _ | oc <;> rcases new with _ | lc
  · rfl
  · rw [condChanges, said_cons, if_neg hne, or_none, hif]
    exact if_congr eq_comm rfl rfl
  · rw [condChanges, said_cons, if_neg hne, or_none, hif]
    rfl
  · rw [condChanges, said_append, hif, said_if_ne hne, or_none]
    rfl

lemma said_time (old new : Option CfCondition) :
    (said (condChanges cfNoReply old new) "VoiceNoReplyTimeout").or (some (timeOf old)) =
      some (timeOf new) := by
  rw [said_time_eq]
  split
  next hsame => rw [none_or, timeOf_eq, timeOf_eq, hsame]
  next => rfl

lemma said_other (hname : "Voice" ++ cfTypeLut type ≠ name)
    (htime : type = cfNoReply → "Voice" ++ cfTypeLut type ++ "Timeout" ≠ name)
    (old new : Option CfCondition) : said (condChanges type old new) name = none := by
  have hif : ∀ (p : Prop) [Decidable p] (v : CfValue),
      said (if type = cfNoReply ∧ p then [("Voice" ++ cfTypeLut type ++ "Timeout", v)] else [])
        name = none := by
    intro p _ v
    by_cases htype : type = cfNoReply
    · exact said_if_ne (htime htype)
    · rw [if_neg fun h => htype h.1]
      rfl
  cases old with
  | none =>
    cases new with
    | none => rfl
    | some lc =>
      rw [condChanges, said_cons, hif, if_neg hname]
      rfl
  | some oc =>
    cases new with
    | none =>
      rw [condChanges, said_cons, hif, if_neg hname]
      rfl
    | some lc =>
      rw [condChanges, said_append, hif, said_if_ne hname]
      rfl

variable {new : Option CfCondition}

lemma said_hidden_number (htype : type ≤ 3) {old : Option CfCondition}
    (h : HiddenTold type old new) :
    (said (condChanges type old new) ("Voice" ++ cfTypeLut type)).or (some (textOf none)) =
      some (textOf none) := by
  rw [said_number_eq htype]
  split
  next => rfl
  next hother =>
    cases new with
    | none => rfl
    | some lc => exact congrArg some (h.1.resolve_left hother)

lemma said_hidden_time {old : Option CfCondition} (h : HiddenTold cfNoReply old new) :
    (said (condChanges cfNoReply old new) "VoiceNoReplyTimeout").or (some (timeOf none)) =
      some (timeOf none) := by
  rw [said_time_eq]
  split
  next => rfl
  next hother =>
    cases new with
    | none => rfl
    | some lc =>
      refine congrArg some ((h.2 rfl).resolve_left fun hsame => hother ?_)
      rw [secondsOf, hsame]
      rfl

/-- What a client is shown of a type that unconditional forwarding may hide. -/
def shown (recorded : ℕ → Option CfCondition) (type : ℕ) : Option CfCondition :=
  if (recorded cfUnconditional).isSome then none else recorded type

lemma holds_voiceForwards {held : Held String CfValue} {recorded : ℕ → Option CfCondition}
    {indicator : Bool} :
    held.Holds (voiceForwards recorded indicator) ↔
      held "VoiceUnconditional" = some (textOf (recorded cfUnconditional)) ∧
        held "VoiceBusy" = some (textOf (shown recorded cfBusy)) ∧
        held "VoiceNoReply" = some (textOf (shown recorded cfNoReply)) ∧
        held "VoiceNoReplyTimeout" = some (timeOf (shown recorded cfNoReply)) ∧
        held "VoiceNotReachable" = some (textOf (shown recorded cfNotReachable)) ∧
        held "ForwardingFlagOnSim" =
          some (.boolean (indicator && (recorded cfUnconditional).isSome)) := by
  simp [Held.Holds, voiceForwards, shown]

lemma holds_read_voiceForwards (recorded : ℕ → Option CfCondition) (indicator : Bool) :
    (Held.read (voiceForwards recorded indicator)).Holds (voiceForwards recorded indicator) :=
  Held.holds_read (by simp [voiceForwards])

lemma said_masks (cf : CallForwarding) (newCfu : Bool) {name : String}
    (hname : name ∉ ["Busy", "NoReply", "NotReachable", "ForwardingFlagOnSim"]) :
    said (cf.maskSignals newCfu) name = none := by
  refine said_eq_none ?_
  intro c hc heq
  refine hname ?_
  rw [← heq]
  rcases mem_append.mp hc with hmask | hflag
  · rcases mem_filterMap.mp hmask with ⟨i, hi, hsome⟩
    rcases map_eq_some_iff.mp hsome with ⟨lc, -, rfl⟩
    simp only [mem_cons, not_mem_nil, or_false] at hi
    have hnames : ∀ i ∈ [cfBusy, cfNoReply, cfNotReachable],
        cfTypeLut i ∈ ["Busy", "NoReply", "NotReachable", "ForwardingFlagOnSim"] := by
      decide
    exact hnames i (by simpa using hi)
  · rw [mem_singleton.mp hflag]
    simp

lemma said_flag (cf : CallForwarding) (newCfu : Bool) :
    said (cf.maskSignals newCfu) "ForwardingFlagOnSim" = some (.boolean newCfu) := by
  rw [maskSignals, said_append, said_singleton rfl]
  rfl

/-- The signals of a new list and those that mask: what is held under a name that a type has. -/
lemma changeAll_masks (held : Held String CfValue) (changes : List (String × CfValue))
    (cf : CallForwarding) (oldCfu newCfu : Bool) {name : String}
    (hname : name ∉ ["Busy", "NoReply", "NotReachable", "ForwardingFlagOnSim"]) :
    held.changeAll (changes ++ if newCfu ≠ oldCfu then cf.maskSignals newCfu else []) name =
      (said changes name).or (held name) := by
  rw [Held.changeAll_apply, said_append]
  split
  · rw [said_masks cf newCfu hname, none_or]
  · rw [said_nil, none_or]

lemma changeAll_flag (held : Held String CfValue) {changes : List (String × CfValue)}
    (hchanges : said changes "ForwardingFlagOnSim" = none) (cf : CallForwarding)
    {oldCfu newCfu : Bool} (hheld : held "ForwardingFlagOnSim" = some (.boolean oldCfu)) :
    held.changeAll (changes ++ if newCfu ≠ oldCfu then cf.maskSignals newCfu else [])
      "ForwardingFlagOnSim" = some (.boolean newCfu) := by
  rw [Held.changeAll_apply, said_append, hchanges]
  split
  · rw [said_flag]
    rfl
  · rename_i hsame
    rw [not_not.mp hsame, said_nil, none_or, none_or, hheld]

lemma shown_update_unconditional {recorded : ℕ → Option CfCondition} {new : Option CfCondition}
    (htold : Told recorded cfUnconditional new) {type : ℕ} (htype : type ∈ [cfBusy, cfNoReply,
    cfNotReachable]) : textOf (shown (Function.update recorded cfUnconditional new) type) =
    textOf (shown recorded type) ∧ (type = cfNoReply → timeOf (shown
    (Function.update recorded cfUnconditional new) type) = timeOf (shown recorded type)) := by
  have hne : type ≠ cfUnconditional := by
    simp only [mem_cons, not_mem_nil, or_false] at htype
    rcases htype with rfl | rfl | rfl <;> decide
  rw [Told, if_pos rfl] at htold
  unfold shown
  rw [Function.update_self, Function.update_of_ne hne]
  rcases htold with hsame | hunseen
  · rw [hsame]
    exact ⟨rfl, fun _ => rfl⟩
  · -- hidden or not, nothing is to be seen
    rcases hunseen type htype with ⟨htext, htime⟩
    constructor
    · split <;> split <;> simp [htext]
    · intro hreply
      split <;> split <;> simp [htime hreply]

lemma shown_update_of_ne {recorded : ℕ → Option CfCondition} {i : ℕ}
    (htype : type ≠ cfUnconditional) (hne : i ≠ type) (new : Option CfCondition) :
    shown (Function.update recorded type new) i = shown recorded i := by
  unfold shown
  rw [Function.update_of_ne htype.symm, Function.update_of_ne hne]

/-- The signals for a type other than the unconditional one, as the clients see them. -/
lemma said_shown_number {recorded : ℕ → Option CfCondition} (hle : type ≤ 3)
    (htype : type ≠ cfUnconditional) (htold : Told recorded type new) :
    (said (condChanges type (recorded type) new) ("Voice" ++ cfTypeLut type)).or
        (some (textOf (shown recorded type))) =
      some (textOf (shown (Function.update recorded type new) type)) := by
  rw [Told, if_neg htype] at htold
  unfold shown
  rw [Function.update_of_ne htype.symm, Function.update_self]
  split
  · rename_i hmask
    exact said_hidden_number hle (htold hmask)
  · exact said_number hle (recorded type) new

lemma said_shown_time {recorded : ℕ → Option CfCondition} (htold : Told recorded cfNoReply new) :
    (said (condChanges cfNoReply (recorded cfNoReply) new) "VoiceNoReplyTimeout").or
        (some (timeOf (shown recorded cfNoReply))) =
      some (timeOf (shown (Function.update recorded cfNoReply new) cfNoReply)) := by
  have hne : cfNoReply ≠ cfUnconditional := by decide
  rw [Told, if_neg hne] at htold
  unfold shown
  rw [Function.update_of_ne hne.symm, Function.update_self]
  split
  · rename_i hmask
    exact said_hidden_time (htold hmask)
  · exact said_time (recorded cfNoReply) new

/-- A client that holds what is on record holds it after a new list, once it has followed the
signals. -/
lemma told_holds {cf : CallForwarding} {recorded : ℕ → Option CfCondition} {indicator : Bool}
    (htype : type ≤ 3) (htold : Told recorded type new) {held : Held String CfValue}
    (hheld : held.Holds (voiceForwards recorded indicator)) {oldCfu newCfu : Bool}
    (hold : oldCfu = (indicator && (recorded cfUnconditional).isSome))
    (hnew : newCfu = (indicator && (Function.update recorded type new cfUnconditional).isSome)) :
    (held.changeAll (condChanges type (recorded type) new ++ if newCfu ≠ oldCfu then cf.maskSignals
    newCfu else [])).Holds (voiceForwards (Function.update recorded type new) indicator) := by
  rcases holds_voiceForwards.mp hheld with ⟨hun, hbusy, hreply, htime, hreach, hflag⟩
  rw [← hold] at hflag
  have hsaid : said (condChanges type (recorded type) new) "ForwardingFlagOnSim" = none := by
    refine said_other ?_ ?_ _ _
    · interval_cases type <;> decide
    · rintro rfl
      decide
  rw [holds_voiceForwards, changeAll_masks held _ cf _ _ (by decide),
    changeAll_masks held _ cf _ _ (by decide),
    changeAll_masks held _ cf _ _ (by decide),
    changeAll_masks held _ cf _ _ (by decide),
    changeAll_masks held _ cf _ _ (by decide), changeAll_flag held hsaid cf hflag, hun,
    hbusy, hreply, htime, hreach, ← hnew]
  have hother : ∀ name ∈ ["VoiceUnconditional", "VoiceBusy", "VoiceNoReply",
      "VoiceNoReplyTimeout", "VoiceNotReachable"], "Voice" ++ cfTypeLut type ≠ name →
      (type = cfNoReply → "VoiceNoReplyTimeout" ≠ name) →
      said (condChanges type (recorded type) new) name = none := by
    intro name _ hname hreply
    refine said_other hname ?_ _ _
    rintro rfl
    exact hreply rfl
  interval_cases type
  · -- unconditional forwarding itself, which may hide or show the others
    have hshown := @shown_update_unconditional recorded new htold
    rw [hother "VoiceBusy" (by simp) (by decide) (by decide),
      hother "VoiceNoReply" (by simp) (by decide) (by decide),
      hother "VoiceNoReplyTimeout" (by simp) (by decide) (by decide),
      hother "VoiceNotReachable" (by simp) (by decide) (by decide)]
    refine ⟨?_, ?_, ?_, ?_, ?_, rfl⟩
    · exact (said_number (by decide) (recorded 0) new).trans (by
        show _ = some (textOf (Function.update recorded 0 new 0))
        rw [Function.update_self])
    · exact congrArg some (@hshown cfBusy (by simp)).1.symm
    · exact congrArg some (@hshown cfNoReply (by simp)).1.symm
    · exact congrArg some ((@hshown cfNoReply (by simp)).2 rfl).symm
    · exact congrArg some (@hshown cfNotReachable (by simp)).1.symm
  · have hne : (1 : ℕ) ≠ cfUnconditional := by decide
    rw [hother "VoiceUnconditional" (by simp) (by decide) (by simp),
      hother "VoiceNoReply" (by simp) (by decide) (by simp),
      hother "VoiceNoReplyTimeout" (by simp) (by decide) (by decide),
      hother "VoiceNotReachable" (by simp) (by decide) (by simp),
      Function.update_of_ne hne.symm, shown_update_of_ne hne (i := cfNoReply) (by decide),
      shown_update_of_ne hne (i := cfNotReachable) (by decide)]
    exact ⟨rfl, said_shown_number (by decide) hne htold, rfl, rfl, rfl, rfl⟩
  · have hne : (2 : ℕ) ≠ cfUnconditional := by decide
    rw [hother "VoiceUnconditional" (by simp) (by decide) (by simp),
      hother "VoiceBusy" (by simp) (by decide) (by simp),
      hother "VoiceNotReachable" (by simp) (by decide) (by simp),
      Function.update_of_ne hne.symm, shown_update_of_ne hne (i := cfBusy) (by decide),
      shown_update_of_ne hne (i := cfNotReachable) (by decide)]
    exact ⟨rfl, rfl, said_shown_number (by decide) hne htold, said_shown_time htold, rfl, rfl⟩
  · have hne : (3 : ℕ) ≠ cfUnconditional := by decide
    rw [hother "VoiceUnconditional" (by simp) (by decide) (by simp),
      hother "VoiceBusy" (by simp) (by decide) (by simp),
      hother "VoiceNoReply" (by simp) (by decide) (by simp),
      hother "VoiceNoReplyTimeout" (by simp) (by decide) (by decide),
      Function.update_of_ne hne.symm, shown_update_of_ne hne (i := cfBusy) (by decide),
      shown_update_of_ne hne (i := cfNoReply) (by decide)]
    exact ⟨rfl, rfl, rfl, rfl, said_shown_number (by decide) hne htold, rfl⟩

end CallForwarding

/-! ## Sessions -/

/-- The query that an output asks. -/
def CfOutput.asked : CfOutput → Option (ℕ × ClassMask)
  | .query type cls => some (type, cls)
  | _ => none

/-- The message that an output answers. -/
def CfOutput.replied : CfOutput → Option ℕ
  | .reply msg _ => some msg
  | _ => none

def CfOutput.heard : CfOutput → Option (Heard String CfValue)
  | .reply _ (.properties dict) => some (.table dict)
  | .propertyChanged name value => some (.changed name value)
  | _ => none

/-- The indicator on the SIM is written. -/
def CfOutput.writes : CfOutput → Bool
  | .writeCfis .. | .writeCphsCff _ => true
  | _ => false

/-- The atom with what the network and the clients know: how many requests have come and which have
been answered, the query that is out, for each type the voice condition in the last successful
query for voice calls and whether it has been queried at all, the classes of the queries after
which the indicator was written, and what every client holds. -/
structure CfSession where
  cf : CallForwarding
  received : ℕ
  answered : List ℕ
  asking : Option (ℕ × ClassMask)
  known : ℕ → Option CfCondition
  queried : ℕ → Bool
  written : List ClassMask
  clients : List (Held String CfValue)

namespace CfSession

open CallForwarding

def start (cphsCff : Bool) (cfisRecordId : ℕ) : CfSession where
  cf := .start cphsCff cfisRecordId
  received := 0
  answered := []
  asking := none
  known := fun _ => none
  queried := fun _ => false
  written := []
  clients := []

/-- The query that an event answers successfully, with the answer. -/
def success (s : CfSession) : CfEvent → Option (ℕ × ClassMask × List CfCondition)
  | .queryDone error list =>
    if error.type = .noError then s.asking.map fun q => (q.1, q.2, list) else none
  | _ => none

def knownAfter (s : CfSession) (e : CfEvent) : ℕ → Option CfCondition :=
  match s.success e with
  | some (type, cls, list) =>
    if cls.voice then Function.update s.known type (voiceCondition list) else s.known
  | none => s.known

def queriedAfter (s : CfSession) (e : CfEvent) : ℕ → Bool :=
  match s.success e with
  | some (type, _, _) => Function.update s.queried type true
  | none => s.queried

/-- The query that is out after the driver has called back. -/
def askingAfter (s : CfSession) : CfEvent → Option (ℕ × ClassMask)
  | .queryDone .. => none
  | _ => s.asking

/-- What an event and its outputs do to the session. -/
def observe (s : CfSession) (e : CfEvent) (outputs : List CfOutput) (cf : CallForwarding) :
    CfSession where
  cf := cf
  received := if isRequest e then s.received + 1 else s.received
  answered := s.answered ++ outputs.filterMap CfOutput.replied
  asking := (outputs.findSome? CfOutput.asked).or (s.askingAfter e)
  known := s.knownAfter e
  queried := s.queriedAfter e
  written :=
    if outputs.any CfOutput.writes then s.written ++ [(s.asking.map (·.2)).getD 0] else s.written
  clients := listenAll s.clients (outputs.filterMap CfOutput.heard)

def step (driver : CfDriver) (s : CfSession) (e : CfEvent) : Option CfSession :=
  some (s.observe e (s.cf.handle driver s.received e).1 (s.cf.handle driver s.received e).2)

/-- What is promised at every moment. -/
structure Good (s : CfSession) : Prop where
  /-- The condition on record is the one in the last successful query for voice calls. -/
  record : ∀ type ≤ 3, cfCondFind (s.cf.cfConditions type) bearerClassVoice = s.known type
  /-- The indicator is written after such queries only. -/
  written : ∀ cls ∈ s.written, cls.voice = true
  /-- The cache is valid only if all types have been queried. -/
  cached : s.cf.cached = true → ∀ type ≤ 3, s.queried type = true
  /-- The clients hold what `GetProperties` would return. -/
  clients : ∀ held ∈ s.clients, held.Holds s.cf.getPropertiesReply
  /-- Every request has been answered once, or it waits. -/
  replies : Requests.Accounted s.answered s.cf.pending.toList s.received
  /-- One waits only while the driver has a call out. -/
  driven : s.cf.pending.isSome = s.cf.call.isSome

/-- What a successful answer to a query has to meet. -/
def Met (s : CfSession) (e : CfEvent) : Prop :=
  ∀ type cls list, s.success e = some (type, cls, list) →
    (list.filter CfCondition.activeVoice).length ≤ 1 ∧
    (cls.voice = true ∨ voiceCondition list = s.cf.recorded type) ∧
    (s.cf.call = some .getQuery → type = cfNotReachable → ∀ i < 3, s.queried i = true) ∧
    (s.clients ≠ [] → Told s.cf.recorded type (voiceCondition list))

instance (s : CfSession) (e : CfEvent) : Decidable (s.Met e) :=
  match hsuccess : s.success e with
  | none => .isTrue fun _ _ _ h => absurd (hsuccess.symm.trans h) (Option.some_ne_none _).symm
  | some (type, cls, list) =>
    letI : Decidable ((s.cf.call = some .getQuery → type = cfNotReachable →
        ∀ i < 3, s.queried i = true) ∧
        (s.clients ≠ [] → Told s.cf.recorded type (voiceCondition list))) := inferInstance
    letI : Decidable ((cls.voice = true ∨ voiceCondition list = s.cf.recorded type) ∧
        (s.cf.call = some .getQuery → type = cfNotReachable → ∀ i < 3, s.queried i = true) ∧
        (s.clients ≠ [] → Told s.cf.recorded type (voiceCondition list))) := instDecidableAnd
    decidable_of_iff ((list.filter CfCondition.activeVoice).length ≤ 1 ∧
      (cls.voice = true ∨ voiceCondition list = s.cf.recorded type) ∧
      (s.cf.call = some .getQuery → type = cfNotReachable → ∀ i < 3, s.queried i = true) ∧
      (s.clients ≠ [] → Told s.cf.recorded type (voiceCondition list))) (by
        constructor
        · intro h type' cls' list' hsome
          cases hsuccess.symm.trans hsome
          exact h
        · intro h
          exact h type cls list hsuccess)

/-! ## The invariant -/

/-- The class of the queries that a callback waits for. -/
def askedClass (cf : CallForwarding) : CfCallback → Option ClassMask
  | .getQuery | .setQuery => some bearerClassDefault
  | .ssSetQuery => cf.ssReq.map ssQueryClass
  | .setProperty | .disableConditional | .disableAll | .ssControl => none

/-- The chain that a callback is part of, or that it begins, stays inside of the types. -/
def InBounds (cf : CallForwarding) : CfCallback → Prop
  | .getQuery => cf.queryNext ≤ 3
  | .disableConditional | .disableAll => True
  | .setProperty | .ssControl | .setQuery | .ssSetQuery =>
    cf.queryNext ≤ cf.queryEnd ∧ cf.queryEnd ≤ 3

/-- What the atom knows is right. -/
structure Truth (s : CfSession) : Prop where
  tidy : s.cf.AllTidy
  record : s.cf.recorded = s.known
  written : ∀ cls ∈ s.written, cls.voice = true
  cached : s.cf.cached = true → ∀ type ≤ 3, s.queried type = true
  clients : ∀ held ∈ s.clients, held.Holds (voiceForwards s.cf.recorded s.cf.hasIndicator)

/-- The requests and the calls of the driver are in order. -/
structure Work (s : CfSession) : Prop where
  replies : Requests.Accounted s.answered s.cf.pending.toList s.received
  driven : s.cf.pending.isSome = s.cf.call.isSome
  asking : s.asking =
    s.cf.call.bind fun c => (askedClass s.cf c).map fun cls => (s.cf.queryNext, cls)
  bounds : ∀ c, s.cf.call = some c → InBounds s.cf c
  req : s.cf.call = some .ssControl ∨ s.cf.call = some .ssSetQuery → s.cf.ssReq.isSome

structure Inv (s : CfSession) : Prop where
  truth : s.Truth
  work : s.Work

lemma Inv.good {s : CfSession} (h : s.Inv) : s.Good := by
  refine ⟨?_, h.truth.written, h.truth.cached, ?_, h.work.replies, h.work.driven⟩
  · intro type _
    exact congrFun h.truth.record type
  · intro held hheld
    rw [getPropertiesReply_eq h.truth.tidy]
    exact h.truth.clients held hheld

lemma inv_start (cphsCff : Bool) (cfisRecordId : ℕ) : (start cphsCff cfisRecordId).Inv := by
  constructor
  · refine ⟨fun _ => tidy_nil, rfl, ?_, ?_, ?_⟩
    · intro cls hcls
      exact absurd hcls not_mem_nil
    · intro hcached
      exact absurd hcached Bool.false_ne_true
    · intro held hheld
      exact absurd hheld not_mem_nil
  · refine ⟨Requests.accounted_nil, rfl, rfl, ?_, ?_⟩
    · intro c hc
      exact absurd hc nofun
    · intro hreq
      rcases hreq with hreq | hreq <;> exact absurd hreq nofun

/-! ## What the atom knows -/

variable {s : CfSession} {driver : CfDriver}

/-- The same lists, and the same indicator. -/
structure SameRecord (cf cf' : CallForwarding) : Prop where
  lists : cf'.cfConditions = cf.cfConditions
  indicator : cf'.hasIndicator = cf.hasIndicator
  cached : cf'.cached = true → cf.cached = true

variable {cf : CallForwarding}

variable {cf' : CallForwarding}

lemma SameRecord.recorded (h : SameRecord cf cf') : cf'.recorded = cf.recorded := by
  funext type
  rw [CallForwarding.recorded, h.lists]
  rfl

lemma SameRecord.refl (cf : CallForwarding) : SameRecord cf cf := ⟨rfl, rfl, id⟩

/-- Clients hear nothing, or one of them reads the properties. -/
def Reads (cf : CallForwarding) (outputs : List CfOutput) : Prop :=
  outputs.filterMap CfOutput.heard = [] ∨
    outputs.filterMap CfOutput.heard = [.table cf.getPropertiesReply]

variable {e : CfEvent} {outputs : List CfOutput}

lemma Truth.keep (h : s.Truth)
    (hsame : SameRecord s.cf cf') (hnone : s.success e = none) (hreads : Reads cf' outputs)
    (hwrites : outputs.any CfOutput.writes = false) : (s.observe e outputs cf').Truth := by
  have htidy : cf'.AllTidy := by
    intro type
    rw [hsame.lists]
    exact h.tidy type
  refine ⟨htidy, ?_, ?_, ?_, ?_⟩
  · show cf'.recorded = s.knownAfter e
    rw [knownAfter, hnone, hsame.recorded]
    exact h.record
  · show ∀ cls ∈ (if outputs.any CfOutput.writes then _ else s.written), cls.voice = true
    rw [hwrites]
    exact h.written
  · intro hcached
    show ∀ type ≤ 3, s.queriedAfter e type = true
    rw [queriedAfter, hnone]
    exact h.cached (hsame.cached hcached)
  · show ∀ held ∈ listenAll s.clients (outputs.filterMap CfOutput.heard),
      held.Holds (voiceForwards cf'.recorded cf'.hasIndicator)
    rw [hsame.recorded, hsame.indicator]
    rcases hreads with hnothing | hread
    · rw [hnothing]
      exact h.clients
    · rw [hread, getPropertiesReply_eq htidy, hsame.recorded, hsame.indicator]
      intro held hheld
      rcases mem_append.mp hheld with hold | hnew
      · exact h.clients held hold
      · rw [mem_singleton.mp hnew]
        exact holds_read_voiceForwards _ _

/-! ## A new list -/

variable {l : List CfCondition}

lemma newListSignals_eq (h : cf.AllTidy) (hl : Tidy l) (type : ℕ) : cf.newListSignals type l =
      (condChanges type (cf.recorded type) (cfCondFind l bearerClassVoice),
        decide (type = cfUnconditional ∧
          condChanges type (cf.recorded type) (cfCondFind l bearerClassVoice) ≠ []),
        if (cf.hasIndicator && (Function.update cf.recorded type
              (cfCondFind l bearerClassVoice) cfUnconditional).isSome) ≠
            (cf.hasIndicator && (cf.recorded cfUnconditional).isSome) then
          maskSignals { cf with cfConditions := Function.update cf.cfConditions type l }
            (cf.hasIndicator && (Function.update cf.recorded type
              (cfCondFind l bearerClassVoice) cfUnconditional).isSome)
        else [],
        { cf with cfConditions := Function.update cf.cfConditions type l }) := by
  have hloops := listSignals_tidy type (h type) hl
  have hfound : cfCondFind (Function.update cf.cfConditions type l cfUnconditional)
      bearerClassVoice = Function.update cf.recorded type (cfCondFind l bearerClassVoice)
        cfUnconditional := by
    by_cases htype : cfUnconditional = type
    · rw [← htype, Function.update_self, Function.update_self]
    · rw [Function.update_of_ne htype, Function.update_of_ne htype]
      rfl
  rw [newListSignals]
  dsimp only
  rw [hloops]
  unfold isCfuEnabled
  dsimp only
  rw [hfound]
  rfl

lemma recorded_newList (cf : CallForwarding) (type : ℕ) (l : List CfCondition) :
    CallForwarding.recorded { cf with cfConditions := Function.update cf.cfConditions type l } =
      Function.update cf.recorded type (cfCondFind l bearerClassVoice) := by
  funext i
  show cfCondFind (Function.update cf.cfConditions type l i) bearerClassVoice = _
  by_cases hi : i = type
  · rw [hi, Function.update_self, Function.update_self]
  · rw [Function.update_of_ne hi, Function.update_of_ne hi]
    rfl

lemma heard_signals (changes : List (String × CfValue)) :
    (signals changes).filterMap CfOutput.heard = changes.map fun c => .changed c.1 c.2 := by
  rw [signals, filterMap_map, ← filterMap_eq_map]
  rfl

lemma mem_simSetCfIndicator {o : CfOutput}
    (ho : o ∈ cf.simSetCfIndicator) : o.heard = none ∧ o.replied = none ∧ o.asked = none := by
  unfold simSetCfIndicator at ho
  dsimp only at ho
  split at ho
  · rw [mem_singleton.mp ho]
    exact ⟨rfl, rfl, rfl⟩
  · split at ho
    · rw [mem_singleton.mp ho]
      exact ⟨rfl, rfl, rfl⟩
    · exact absurd ho not_mem_nil

lemma heard_setNewCondList (cf : CallForwarding) (type : ℕ) (l : List CfCondition) :
    (cf.setNewCondList type l).1.filterMap CfOutput.heard = ((cf.newListSignals type l).1 ++
    (cf.newListSignals type l).2.2.1).map fun c => .changed c.1 c.2 := by
  have hsim : ∀ (b : Bool) (cf : CallForwarding),
      (if b = true then cf.simSetCfIndicator else []).filterMap CfOutput.heard = [] := by
    intro b cf
    rw [filterMap_eq_nil_iff]
    intro o ho
    split at ho
    · exact (mem_simSetCfIndicator ho).1
    · exact absurd ho not_mem_nil
  rw [setNewCondList]
  dsimp only
  rw [filterMap_append, filterMap_append, hsim, heard_signals, heard_signals,
    append_nil, map_append]

variable {type : ℕ}

lemma mem_setNewCondList {o : CfOutput}
    (ho : o ∈ (cf.setNewCondList type l).1) : o.replied = none ∧ o.asked = none := by
  rw [setNewCondList] at ho
  dsimp only at ho
  rcases mem_append.mp ho with ho | ho
  · rcases mem_append.mp ho with ho | ho
    · rcases mem_map.mp ho with ⟨c, -, rfl⟩
      exact ⟨rfl, rfl⟩
    · split at ho
      · exact (mem_simSetCfIndicator ho).2
      · exact absurd ho not_mem_nil
  · rcases mem_map.mp ho with ⟨c, -, rfl⟩
    exact ⟨rfl, rfl⟩

lemma writes_setNewCondList (h : (cf.setNewCondList type l).1.any CfOutput.writes = true) :
    (cf.newListSignals type l).2.1 = true := by
  have hsignals : ∀ changes, (signals changes).any CfOutput.writes = false := by
    intro changes
    rw [signals, List.any_map, List.any_eq_false]
    intro c _
    exact Bool.false_ne_true
  rw [setNewCondList] at h
  dsimp only at h
  rw [any_append, any_append, hsignals, hsignals, Bool.false_or, Bool.or_false] at h
  by_contra hnot
  rw [if_neg hnot] at h
  exact absurd h Bool.false_ne_true

lemma condChanges_self (type : ℕ) (cond : Option CfCondition) :
    condChanges type cond cond = [] := by
  cases cond with
  | none => rfl
  | some c => simp [condChanges]

variable {cls : ClassMask} {list : List CfCondition}

lemma Truth.newList (h : s.Truth) {type : ℕ} (hsuccess : s.success e = some (type, cls, list))
    (htype : type ≤ 3) (hasking : (s.asking.map (·.2)).getD 0 = cls) (hmet : s.Met e)
    (hlists : cf'.cfConditions = Function.update s.cf.cfConditions type (cfCondListCreate list))
    (hindicator : cf'.hasIndicator = s.cf.hasIndicator) (hcached : cf'.cached = true →
    s.cf.cached = true ∨ s.cf.call = some .getQuery ∧ type = cfNotReachable) (hheard : ∃ tail,
    (tail = [] ∨ tail = [.table cf'.getPropertiesReply]) ∧ outputs.filterMap CfOutput.heard =
    (s.cf.setNewCondList type (cfCondListCreate list)).1.filterMap CfOutput.heard ++ tail)
    (hwrites : outputs.any CfOutput.writes = true → (s.cf.setNewCondList type
    (cfCondListCreate list)).1.any CfOutput.writes = true) : (s.observe e outputs cf').Truth := by
  rcases hmet type cls list hsuccess with ⟨hone, hclass, hlast, htold⟩
  rcases create_tidy hone with ⟨hfind, htidy⟩
  have heq := newListSignals_eq h.tidy htidy type
  rw [hfind] at heq
  have hrecorded : cf'.recorded = Function.update s.cf.recorded type (voiceCondition list) := by
    have hsame : cf'.recorded = CallForwarding.recorded { s.cf with
        cfConditions := Function.update s.cf.cfConditions type (cfCondListCreate list) } := by
      funext i
      rw [CallForwarding.recorded, hlists]
      rfl
    rw [hsame, recorded_newList, hfind]
  have htidy' : cf'.AllTidy := by
    intro i
    rw [hlists]
    by_cases hi : i = type
    · rw [hi, Function.update_self]
      exact htidy
    · rw [Function.update_of_ne hi]
      exact h.tidy i
  refine ⟨htidy', ?_, ?_, ?_, ?_⟩
  · show cf'.recorded = s.knownAfter e
    rw [knownAfter, hsuccess, hrecorded, h.record]
    dsimp only
    split
    · rfl
    · rename_i hvoice
      rcases hclass with hvoice' | hsame
      · exact absurd hvoice' hvoice
      · rw [hsame, h.record, Function.update_eq_self]
  · show ∀ cls ∈ (if outputs.any CfOutput.writes then
      s.written ++ [(s.asking.map (·.2)).getD 0] else s.written), cls.voice = true
    intro cls' hcls'
    split at hcls'
    · rename_i hany
      rcases mem_append.mp hcls' with hold | hnew
      · exact h.written cls' hold
      · rw [mem_singleton.mp hnew, hasking]
        -- nothing is written where the condition stays the same
        rcases hclass with hvoice | hsame
        · exact hvoice
        · have hupdate := writes_setNewCondList (hwrites hany)
          rw [heq, hsame] at hupdate
          rcases of_decide_eq_true hupdate with ⟨-, hchanges⟩
          exact absurd (condChanges_self _ _) hchanges
    · exact h.written cls' hcls'
  · intro hvalid
    show ∀ i ≤ 3, s.queriedAfter e i = true
    rw [queriedAfter, hsuccess]
    dsimp only
    intro i hi
    by_cases hthis : i = type
    · rw [hthis, Function.update_self]
    · rw [Function.update_of_ne hthis]
      rcases hcached hvalid with hbefore | ⟨hget, hreach⟩
      · exact h.cached hbefore i hi
      · refine hlast hget hreach i ?_
        rw [hreach, cfNotReachable] at hthis
        omega
  · show ∀ held ∈ listenAll s.clients (outputs.filterMap CfOutput.heard),
      held.Holds (voiceForwards cf'.recorded cf'.hasIndicator)
    rcases hheard with ⟨tail, htail, hall⟩
    rw [hall, listenAll_append, heard_setNewCondList, listenAll_changed]
    have hold : ∀ held ∈ s.clients.map
        (·.changeAll ((s.cf.newListSignals type (cfCondListCreate list)).1 ++
          (s.cf.newListSignals type (cfCondListCreate list)).2.2.1)),
        held.Holds (voiceForwards cf'.recorded cf'.hasIndicator) := by
      intro held hheld
      rcases mem_map.mp hheld with ⟨before, hbefore, rfl⟩
      rw [heq, hrecorded, hindicator]
      exact told_holds htype (htold (ne_nil_of_mem hbefore)) (h.clients before hbefore) rfl
        rfl
    rcases htail with rfl | rfl
    · exact hold
    · rw [getPropertiesReply_eq htidy']
      intro held hheld
      rcases mem_append.mp hheld with hfollows | hnew
      · exact hold held hfollows
      · rw [mem_singleton.mp hnew]
        exact holds_read_voiceForwards _ _

/-! ## What a request comes to -/

/-- How a request may go: it is answered at once and nothing else happens, or it waits for the
driver, if no other one does. -/
inductive CfOutcome (cf : CallForwarding) (msg : ℕ) : List CfOutput × CallForwarding → Prop
  | answered (r : CfReply) (hreads : Reads cf [.reply msg r]) : CfOutcome cf msg ([.reply msg r], cf)
  | taken (o : CfOutput) (cf' : CallForwarding) (c : CfCallback) (hfree : cf.pending = none)
      (hsame : SameRecord cf cf') (hpending : cf'.pending = some msg) (hcall : cf'.call = some c)
      (hbounds : InBounds cf' c) (hreq : c = .ssControl ∨ c = .ssSetQuery → cf'.ssReq.isSome)
      (hasked : o.asked = (askedClass cf' c).map fun cls => (cf'.queryNext, cls))
      (hquiet : o.replied = none ∧ o.heard = none ∧ o.writes = false) :
      CfOutcome cf msg ([o], cf')

lemma CfOutcome.refuse (cf : CallForwarding) (msg : ℕ) (error : DbusError) :
    CfOutcome cf msg ([.reply msg (.error error)], cf) := .answered _ (.inl rfl)

lemma CfOutcome.guard {p : Prop} [Decidable p] {error : DbusError}
    {did : List CfOutput × CallForwarding} (h : ¬ p → CfOutcome cf msg did) :
    CfOutcome cf msg (if p then ([.reply msg (.error error)], cf) else did) := by
  split
  next => exact .refuse cf msg error
  next hp => exact h hp

lemma pending_none {b : Bool} (h : ¬ (cf.pending.isSome || b) = true) : cf.pending = none := by
  cases hpending : cf.pending with
  | none => rfl
  | some msg =>
    rw [hpending] at h
    exact absurd rfl h

lemma cfGetProperties_outcome (cf : CallForwarding) (msg : ℕ) (online ussdBusy : Bool) :
    CfOutcome cf msg (cf.cfGetProperties driver msg online ussdBusy) := by
  unfold cfGetProperties
  split
  · exact .answered _ (.inr rfl)
  · split
    · exact .refuse cf msg _
    · split
      · exact .refuse cf msg _
      · rename_i hfree
        refine .taken _ _ .getQuery (pending_none hfree) ⟨rfl, rfl, id⟩ rfl rfl ?_ ?_ rfl
          ⟨rfl, rfl, rfl⟩
        · exact Nat.zero_le 3
        · exact nofun

lemma setPropertyRequest_outcome (hfree : cf.pending = none)
    (msg : ℕ) {type : ℕ} (htype : type ≤ 3) (cls : ClassMask) (ph : PhoneNumber) (timeout : ℤ) :
    CfOutcome cf msg (cf.setPropertyRequest driver msg type cls ph timeout) := by
  unfold setPropertyRequest
  dsimp only
  split
  · exact .refuse cf msg _
  · split
    · exact .refuse cf msg _
    · refine .taken _ _ .setProperty hfree ⟨rfl, rfl, id⟩ rfl rfl ⟨Nat.le_refl type, htype⟩ ?_ ?_ ?_
      · exact nofun
      · split <;> rfl
      · split <;> exact ⟨rfl, rfl, rfl⟩

lemma cfConditionEnabledProperty_le {property : String}
    (h : cfConditionEnabledProperty property = some (type, cls)) : type ≤ 3 := by
  rcases exists_of_findSome?_eq_some h with ⟨cls', -, hfound⟩
  rcases map_eq_some_iff.mp hfound with ⟨type', htype, heq⟩
  have hmem := mem_of_find?_eq_some htype
  rw [Prod.mk.injEq] at heq
  rw [← heq.1]
  simp only [mem_cons, not_mem_nil, or_false] at hmem
  rcases hmem with rfl | rfl | rfl | rfl <;> decide

lemma cfSetProperty_outcome (cf : CallForwarding) (msg : ℕ) (online ussdBusy : Bool) (args : Option
    CfSetPropertyArgs) : CfOutcome cf msg (cf.cfSetProperty driver msg online ussdBusy args) := by
  unfold cfSetProperty
  refine .guard fun _ => .guard fun hbusy => ?_
  have hfree := pending_none hbusy
  split
  · exact .refuse cf msg _
  · split
    · -- the time of the type that has one
      split
      · refine .guard fun _ => ?_
        split
        · exact .refuse cf msg _
        · exact setPropertyRequest_outcome hfree msg (by decide) _ _ _
      · exact .refuse cf msg _
    · split
      · rename_i hproperty
        split
        · exact .guard fun _ => .guard fun _ => setPropertyRequest_outcome hfree msg
            (cfConditionEnabledProperty_le hproperty) _ _ _
        · exact .refuse cf msg _
      · exact .refuse cf msg _

lemma cfDisableAll_outcome (cf : CallForwarding) (msg : ℕ) (ussdBusy : Bool)
    (type : Option String) : CfOutcome cf msg (cf.cfDisableAll driver msg ussdBusy type) := by
  unfold cfDisableAll
  refine .guard fun _ => .guard fun hbusy => ?_
  have hfree := pending_none hbusy
  split
  · exact .refuse cf msg _
  · split
    · exact .taken _ _ .disableAll hfree ⟨rfl, rfl, id⟩ rfl rfl trivial nofun rfl ⟨rfl, rfl, rfl⟩
    · split
      · exact .taken _ _ .disableConditional hfree ⟨rfl, rfl, id⟩ rfl rfl trivial nofun rfl
          ⟨rfl, rfl, rfl⟩
      · exact .refuse cf msg _

lemma cfTypeOfService_le {sc : String} (h : cfTypeOfService sc = some type) : type ≤ 5 := by
  unfold cfTypeOfService at h
  repeat' split at h
  all_goals first
    | exact absurd h (some_ne_none _).symm
    | (rw [← some_inj.mp h]; decide)

lemma ssControlTaken_outcome (hfree : cf.pending = none) (msg : ℕ)
    (type : SsControlType) {cfType : ℕ} (htype : cfType ≤ 5) (cls : ClassMask) (sia : String)
    (timeout : ℤ) : CfOutcome cf msg (cf.ssControlTaken msg type cfType cls sia timeout) := by
  -- the bounds of the chain
  obtain ⟨next, stop, hle, hstop, heq⟩ : ∃ next stop, next ≤ stop ∧ stop ≤ 3 ∧
      (if cfType = cfAll then (cfUnconditional, cfNotReachable)
        else if cfType = cfAllConditional then (cfBusy, cfNotReachable)
        else (cfType, cfType)) = (next, stop) := by
    by_cases hall : cfType = cfAll
    · exact ⟨0, 3, by decide, by decide, by rw [if_pos hall]; rfl⟩
    · by_cases hcond : cfType = cfAllConditional
      · exact ⟨1, 3, by decide, by decide, by rw [if_neg hall, if_pos hcond]; rfl⟩
      · refine ⟨cfType, cfType, Nat.le_refl cfType, ?_, by rw [if_neg hall, if_neg hcond]⟩
        rw [cfAll] at hall
        rw [cfAllConditional] at hcond
        omega
  unfold ssControlTaken
  rw [heq]
  dsimp only
  cases type with
  | query =>
    exact .taken _ _ .ssSetQuery hfree ⟨rfl, rfl, id⟩ rfl rfl ⟨hle, hstop⟩ (fun _ => rfl) rfl
      ⟨rfl, rfl, rfl⟩
  | registration | activation | deactivation | erasure =>
    exact .taken _ _ .ssControl hfree ⟨rfl, rfl, id⟩ rfl rfl ⟨hle, hstop⟩ (fun _ => rfl) rfl
      ⟨rfl, rfl, rfl⟩

lemma cfSsControl_outcome (cf : CallForwarding) (msg : ℕ) (c : SsControl) {cfType : ℕ}
    (htype : cfType ≤ 5) : CfOutcome cf msg (cf.cfSsControl driver msg c cfType) := by
  unfold cfSsControl
  split
  · exact .refuse cf msg _
  · rename_i hbusy
    have hfree : cf.pending = none := by simpa using hbusy
    dsimp only
    generalize (if c.type = .activation ∧ c.sia.length > 0 then SsControlType.registration
      else c.type) = type
    refine .guard fun _ => .guard fun _ => ?_
    split
    · exact .refuse cf msg _
    · split
      · exact .refuse cf msg _
      · exact .guard fun _ => ssControlTaken_outcome hfree msg _ htype _ _ _

lemma inBounds_called {c : CfCallback} (hcall : cf.call = some c) (hbounds : InBounds cf c) :
    ∀ c', cf.call = some c' → InBounds cf c' := by
  intro c' hc'
  rwa [some_inj.mp (hc'.symm.trans hcall)]

lemma request_called {c : CfCallback} (hcall : cf.call = some c)
    (hreq : c = .ssControl ∨ c = .ssSetQuery → cf.ssReq.isSome)
    (hwhich : cf.call = some .ssControl ∨ cf.call = some .ssSetQuery) : cf.ssReq.isSome := by
  rw [hcall, some_inj, some_inj] at hwhich
  exact hreq hwhich

lemma Inv.request (h : s.Inv) (he : isRequest e = true) {did : List CfOutput × CallForwarding}
    (hdid : CfOutcome s.cf s.received did) : (s.observe e did.1 did.2).Inv := by
  have hne : ∀ error list, e ≠ .queryDone error list := by
    rintro error list rfl
    exact Bool.false_ne_true he
  have hnone : s.success e = none := by
    cases e with
    | queryDone error list => exact absurd rfl (hne error list)
    | _ => rfl
  have hasking : s.askingAfter e = s.asking := by
    cases e with
    | queryDone error list => exact absurd rfl (hne error list)
    | _ => rfl
  cases hdid with
  | answered r hreads =>
    constructor
    · exact h.truth.keep (SameRecord.refl s.cf) hnone hreads rfl
    · refine ⟨?_, h.work.driven, hasking.trans h.work.asking, h.work.bounds, h.work.req⟩
      dsimp only [observe]
      rw [if_pos he]
      exact h.work.replies.answerNew
  | taken o cf' c hfree hsame hpending hcall hbounds hreq hasked hquiet =>
    have hidle : s.cf.call = none := by
      have hdriven := h.work.driven
      rw [hfree] at hdriven
      exact isSome_eq_false_iff.mp hdriven.symm |> isNone_iff_eq_none.mp
    constructor
    · refine h.truth.keep hsame hnone (.inl ?_) ?_
      · exact filterMap_cons_none hquiet.2.1
      · simp [hquiet.2.2]
    · refine ⟨?_, ?_, ?_, ?_, ?_⟩
      · dsimp only [observe]
        have hreplies := h.work.replies
        rw [hfree] at hreplies
        rw [if_pos he, filterMap_cons_none hquiet.1, filterMap_nil, append_nil, hpending]
        exact hreplies.receive
      · show cf'.pending.isSome = cf'.call.isSome
        rw [hpending, hcall]
        rfl
      · show ([o].findSome? CfOutput.asked).or (s.askingAfter e) =
          cf'.call.bind fun c => (askedClass cf' c).map fun cls => (cf'.queryNext, cls)
        have hnothing : s.asking = none := by
          rw [h.work.asking, hidle]
          rfl
        rw [hasking, hnothing, or_none, hcall, bind_some, ← hasked]
        simp
      · exact inBounds_called hcall hbounds
      · exact request_called hcall hreq

/-! ## The driver calls back -/

variable {msg : ℕ}

lemma Work.finish (h : s.Work) (he : isRequest e = false)
    (hmsg : s.cf.pending = some msg) (hasking : s.askingAfter e = none) (hpending : cf'.pending = none)
    (hcall : cf'.call = none) (hreplied : outputs.filterMap CfOutput.replied = [msg])
    (hasked : outputs.findSome? CfOutput.asked = none) : (s.observe e outputs cf').Work := by
  refine ⟨?_, ?_, ?_, ?_, ?_⟩
  · dsimp only [observe]
    have hreplies := h.replies
    rw [hmsg] at hreplies
    rw [he, hreplied, hpending]
    exact hreplies.answer
  · show cf'.pending.isSome = cf'.call.isSome
    rw [hpending, hcall]
    rfl
  · show (outputs.findSome? CfOutput.asked).or (s.askingAfter e) = cf'.call.bind _
    rw [hasked, hasking, hcall]
    rfl
  · intro c hc
    exact absurd (hcall.symm.trans hc) (some_ne_none c).symm
  · intro hwhich
    rcases hwhich with hwhich | hwhich <;> exact absurd (hcall.symm.trans hwhich) nofun

lemma Work.goOn (h : s.Work) (he : isRequest e = false) (hmsg : s.cf.pending = some msg) (hpending
    : cf'.pending = some msg) {c : CfCallback} (hcall : cf'.call = some c) (hclass : askedClass cf'
    c = some cls) (hreplied : outputs.filterMap CfOutput.replied = []) (hasked : outputs.findSome?
    CfOutput.asked = some (cf'.queryNext, cls)) (hbounds : InBounds cf' c) (hreq : c = .ssControl ∨
    c = .ssSetQuery → cf'.ssReq.isSome) : (s.observe e outputs cf').Work := by
  refine ⟨?_, ?_, ?_, ?_, ?_⟩
  · dsimp only [observe]
    rw [he, hreplied, append_nil, hpending, ← hmsg]
    exact h.replies
  · show cf'.pending.isSome = cf'.call.isSome
    rw [hpending, hcall]
    rfl
  · show (outputs.findSome? CfOutput.asked).or (s.askingAfter e) =
      cf'.call.bind fun c => (askedClass cf' c).map fun cls => (cf'.queryNext, cls)
    rw [hasked, hcall, bind_some, hclass]
    rfl
  · exact inBounds_called hcall hbounds
  · exact request_called hcall hreq

lemma Inv.ignored (h : s.Inv) (he : isRequest e = false) (hnone : s.success e = none)
    (hasking : s.askingAfter e = s.asking) : (s.observe e [] s.cf).Inv := by
  constructor
  · exact h.truth.keep (SameRecord.refl s.cf) hnone (.inl rfl) rfl
  · refine ⟨?_, h.work.driven, hasking.trans h.work.asking, h.work.bounds, h.work.req⟩
    dsimp only [observe]
    rw [he, filterMap_nil, append_nil]
    exact h.work.replies

lemma Work.waits (h : s.Work) {c : CfCallback} (hc : s.cf.call = some c) :
    ∃ msg, s.cf.pending = some msg := by
  have hdriven := h.driven
  rw [hc] at hdriven
  exact isSome_iff_exists.mp hdriven

lemma Inv.failed (h : s.Inv) {e : CfEvent} (he : isRequest e = false)
    (hnone : s.success e = none) {msg : ℕ} (hmsg : s.cf.pending = some msg)
    (hasking : s.askingAfter e = none) {cf' : CallForwarding} (hsame : SameRecord s.cf cf')
    (hpending : cf'.pending = some msg) (hcall : cf'.call = none) (error : DbusError) :
    (s.observe e (cf'.pendingReply (.error error)).1 (cf'.pendingReply (.error error)).2).Inv := by
  unfold pendingReply
  rw [hpending]
  constructor
  · exact h.truth.keep ⟨hsame.lists, hsame.indicator, hsame.cached⟩ hnone (.inl rfl) rfl
  · exact h.work.finish he hmsg hasking rfl hcall rfl rfl

variable {error : OfonoError}

lemma Inv.queries (h : s.Inv) (hmsg : s.cf.pending = some msg) (hsame : SameRecord s.cf cf') (hpending : cf'.pending = some msg)
    (hbounds : cf'.queryNext ≤ cf'.queryEnd ∧ cf'.queryEnd ≤ 3) :
    (s.observe (.setDone error) cf'.setQueryNextCfCond.1 cf'.setQueryNextCfCond.2).Inv := by
  constructor
  · exact h.truth.keep ⟨hsame.lists, hsame.indicator, hsame.cached⟩ rfl (.inl rfl) rfl
  · refine h.work.goOn rfl hmsg hpending rfl rfl rfl rfl hbounds ?_
    exact nofun

lemma Inv.setDone (h : s.Inv) (error : OfonoError) : (s.observe (.setDone error) (s.cf.handle driver
    s.received (.setDone error)).1 (s.cf.handle driver s.received (.setDone error)).2).Inv := by
  have hasking := h.work.asking
  have hreturned : SameRecord s.cf s.cf.returned := ⟨rfl, rfl, id⟩
  cases hcall : s.cf.call with
  | none =>
    simp only [CallForwarding.handle, hcall]
    exact h.ignored rfl rfl rfl
  | some c =>
    rcases h.work.waits hcall with ⟨msg, hmsg⟩
    have hbounds := h.work.bounds c hcall
    rw [hcall] at hasking
    cases c with
    | setProperty =>
      simp only [CallForwarding.handle, hcall, setPropertyCallback]
      split
      · exact h.failed (e := .setDone error) rfl rfl hmsg hasking hreturned hmsg rfl _
      · exact h.queries hmsg hreturned hmsg hbounds
    | disableConditional =>
      simp only [CallForwarding.handle, hcall, disableConditionalCallback]
      split
      · exact h.failed (e := .setDone error) rfl rfl hmsg hasking hreturned hmsg rfl _
      · refine h.queries hmsg ?_ hmsg ?_
        · exact ⟨rfl, rfl, id⟩
        · show cfBusy ≤ cfNotReachable ∧ cfNotReachable ≤ 3
          decide
    | disableAll =>
      simp only [CallForwarding.handle, hcall, disableAllCallback]
      split
      · exact h.failed (e := .setDone error) rfl rfl hmsg hasking hreturned hmsg rfl _
      · refine h.queries hmsg ?_ hmsg ?_
        · exact ⟨rfl, rfl, id⟩
        · show cfUnconditional ≤ cfNotReachable ∧ cfNotReachable ≤ 3
          decide
    | ssControl =>
      rcases isSome_iff_exists.mp (h.work.req (.inl hcall)) with ⟨req, hreq⟩
      simp only [CallForwarding.handle, hcall, hreq, cfSsControlCallback]
      split
      · exact @failed s h (.setDone error) rfl rfl msg hmsg hasking
          { s.cf.returned with ssReq := none } ⟨rfl, rfl, id⟩ hmsg rfl _
      · constructor
        · exact h.truth.keep ⟨rfl, rfl, id⟩ rfl (.inl rfl) rfl
        · exact h.work.goOn rfl hmsg hmsg rfl rfl rfl rfl hbounds fun _ => rfl
    | getQuery | setQuery | ssSetQuery =>
      simp only [CallForwarding.handle, hcall]
      exact h.ignored rfl rfl rfl

/-- The lists with the answer to the query that is out, and the signals for it. -/
abbrev newLists (s : CfSession) (list : List CfCondition) : ℕ → List CfCondition :=
  Function.update s.cf.cfConditions s.cf.queryNext (cfCondListCreate list)

abbrev newSignals (s : CfSession) (list : List CfCondition) : List CfOutput :=
  (s.cf.setNewCondList s.cf.queryNext (cfCondListCreate list)).1

lemma success_eq (hasking : s.asking = some (type, cls)) (hok : error.type = .noError) :
    s.success (.queryDone error list) = some (type, cls, list) := by
  rw [success, if_pos hok, hasking]
  rfl

lemma success_error (herror : error.type ≠ .noError) : s.success (.queryDone error list) = none :=
  if_neg herror

lemma Inv.nextQuery (h : s.Inv) (cf' : CallForwarding) (hok : error.type = .noError) (hmet : s.Met
    (.queryDone error list)) {c : CfCallback} (hcall : s.cf.call = some c) (hclass : askedClass s.cf
    c = some cls) (htype : s.cf.queryNext ≤ 3) (hlists : cf'.cfConditions = s.newLists list)
    (hindicator : cf'.hasIndicator = s.cf.hasIndicator) (hcached : cf'.cached = true → s.cf.cached =
    true ∨ s.cf.call = some .getQuery ∧ s.cf.queryNext = cfNotReachable) (hpending : cf'.pending =
    s.cf.pending) (hcall' : cf'.call = some c) (hclass' : askedClass cf' c = some cls) (hbounds :
    InBounds cf' c) (hreq : c = .ssControl ∨ c = .ssSetQuery → cf'.ssReq.isSome) : (s.observe
    (.queryDone error list) (s.newSignals list ++ [.query cf'.queryNext cls]) cf').Inv := by
  have hasking : s.asking = some (s.cf.queryNext, cls) := by
    rw [h.work.asking, hcall, bind_some, hclass]
    rfl
  rcases h.work.waits hcall with ⟨msg, hmsg⟩
  constructor
  · refine h.truth.newList (success_eq hasking hok) htype (by rw [hasking]; rfl) hmet hlists
      hindicator hcached ⟨[], .inl rfl, ?_⟩ ?_
    · rw [filterMap_append]
      rfl
    · rw [any_append]
      intro hany
      rcases Bool.or_eq_true_iff.mp hany with hany | hany
      · exact hany
      · exact absurd hany Bool.false_ne_true
  · refine h.work.goOn rfl hmsg (hpending.trans hmsg) hcall' hclass' ?_ ?_ hbounds hreq
    · rw [filterMap_append, filterMap_eq_nil_iff.mpr fun o ho => (mem_setNewCondList ho).1]
      rfl
    · rw [findSome?_append,
        List.findSome?_eq_none_iff.mpr fun o ho => (mem_setNewCondList ho).2]
      rfl

/-- The last list of a chain is taken and the message is answered, before or after the signals. -/
lemma Inv.lastQuery (h : s.Inv) (cf' : CallForwarding) (hok : error.type = .noError)
    (hmet : s.Met (.queryDone error list)) {c : CfCallback} (hcall : s.cf.call = some c)
    (hclass : askedClass s.cf c = some cls) (htype : s.cf.queryNext ≤ 3) (hlists : cf'.cfConditions
    = s.newLists list) (hindicator : cf'.hasIndicator = s.cf.hasIndicator) (hcached : cf'.cached =
    true → s.cf.cached = true ∨ s.cf.call = some .getQuery ∧ s.cf.queryNext = cfNotReachable)
    (hpending : cf'.pending = none) (hcall' : cf'.call = none) (houtputs : ∃ msg r, s.cf.pending =
    some msg ∧ ((CfOutput.reply msg r).heard = none ∧ outputs = [.reply msg r] ++ s.newSignals list
    ∨ r = .properties cf'.getPropertiesReply ∧ outputs = s.newSignals list ++ [.reply msg r])) :
    (s.observe (.queryDone error list) outputs cf').Inv := by
  have hasking : s.asking = some (s.cf.queryNext, cls) := by
    rw [h.work.asking, hcall, bind_some, hclass]
    rfl
  have hreplied : (s.newSignals list).filterMap
      CfOutput.replied = [] :=
    filterMap_eq_nil_iff.mpr fun o ho => (mem_setNewCondList ho).1
  have hasked : (s.newSignals list).findSome?
      CfOutput.asked = none :=
    List.findSome?_eq_none_iff.mpr fun o ho => (mem_setNewCondList ho).2
  rcases houtputs with ⟨msg, r, hmsg, ⟨hheard, rfl⟩ | ⟨rfl, rfl⟩⟩
  · constructor
    · refine h.truth.newList (success_eq hasking hok) htype (by rw [hasking]; rfl) hmet hlists
        hindicator hcached ⟨[], .inl rfl, ?_⟩ ?_
      · rw [filterMap_append, filterMap_cons_none hheard, append_nil]
        rfl
      · rw [any_append]
        intro hany
        rcases Bool.or_eq_true_iff.mp hany with hany | hany
        · exact absurd hany Bool.false_ne_true
        · exact hany
    · refine h.work.finish rfl hmsg rfl hpending hcall' ?_ ?_
      · rw [filterMap_append, hreplied]
        rfl
      · rw [findSome?_append, hasked]
        rfl
  · constructor
    · refine h.truth.newList (success_eq hasking hok) htype (by rw [hasking]; rfl) hmet hlists
        hindicator hcached ⟨_, .inr rfl, ?_⟩ ?_
      · rw [filterMap_append]
        rfl
      · rw [any_append]
        intro hany
        rcases Bool.or_eq_true_iff.mp hany with hany | hany
        · exact hany
        · exact absurd hany Bool.false_ne_true
    · refine h.work.finish rfl hmsg rfl hpending hcall' ?_ ?_
      · rw [filterMap_append, hreplied]
        rfl
      · rw [findSome?_append, hasked]
        rfl

/-- `setNewCondList` sees the lists and the indicator only. -/
lemma newSignals_eq {cf' : CallForwarding} (list : List CfCondition)
    (hlists : cf'.cfConditions = s.cf.cfConditions) (hcphs : cf'.cphsCff = s.cf.cphsCff)
    (hcfis : cf'.cfisRecordId = s.cf.cfisRecordId) : s.newSignals list =
      (cf'.setNewCondList s.cf.queryNext (cfCondListCreate list)).1 := by
  rcases s with ⟨⟨_, _, _, _, _, _, _, _, _⟩, _, _, _, _, _, _, _⟩
  rcases cf' with ⟨_, _, _, _, _, _, _, _, _⟩
  dsimp only at hlists hcphs hcfis
  subst hlists hcphs hcfis
  rfl

lemma setNewCondList_snd (cf : CallForwarding) (type : ℕ) (l : List CfCondition) :
    (cf.setNewCondList type l).2 =
      { cf with cfConditions := Function.update cf.cfConditions type l } := rfl

lemma Inv.getQueried (h : s.Inv) (hcall : s.cf.call = some .getQuery) (error : OfonoError)
    (list : List CfCondition) (hmet : s.Met (.queryDone error list)) :
    (s.observe (.queryDone error list) (s.cf.returned.getQueryCfCallback error list).1
      (s.cf.returned.getQueryCfCallback error list).2).Inv := by
  rcases h.work.waits hcall with ⟨msg, hmsg⟩
  have hbounds : s.cf.queryNext ≤ 3 := h.work.bounds _ hcall
  have hreq : ∀ req : Prop, CfCallback.getQuery = .ssControl ∨ CfCallback.getQuery = .ssSetQuery →
      req := by
    intro req hwhich
    rcases hwhich with hwhich | hwhich <;> exact absurd hwhich nofun
  have hmore : s.cf.queryNext ≠ cfNotReachable → s.cf.queryNext + 1 ≤ 3 := by
    rw [cfNotReachable]
    omega
  unfold getQueryCfCallback
  by_cases hok : error.type = .noError
  · rw [if_pos hok]
    dsimp only [setNewCondList_snd]
    have hsame := @newSignals_eq s s.cf.returned list rfl rfl rfl
    by_cases hlast : s.cf.queryNext = cfNotReachable
    · rw [if_pos (show s.cf.returned.queryNext = cfNotReachable from hlast)]
      unfold pendingReply
      rw [show s.cf.returned.pending = some msg from hmsg]
      dsimp only
      refine h.lastQuery { s.cf with
        cfConditions := s.newLists list
        cached := s.cf.cached || s.cf.queryNext == cfNotReachable
        pending := none
        call := none } hok hmet hcall rfl hbounds rfl rfl ?_ rfl rfl ⟨msg, _, hmsg, .inr ⟨rfl, ?_⟩⟩
      · intro _
        exact .inr ⟨hcall, hlast⟩
      · rw [hsame]
        rfl
    · rw [if_neg (show ¬ s.cf.returned.queryNext = cfNotReachable from hlast)]
      have hcached : (s.cf.cached || s.cf.queryNext == cfNotReachable) = s.cf.cached := by
        rw [beq_eq_false_iff_ne.mpr hlast, Bool.or_false]
      have hnext := h.nextQuery { s.cf with
        cfConditions := s.newLists list
        cached := s.cf.cached || s.cf.queryNext == cfNotReachable
        call := some .getQuery
        queryNext := s.cf.queryNext + 1 } hok hmet hcall rfl hbounds rfl rfl
        (fun hvalid => .inl (hcached ▸ hvalid)) rfl rfl rfl (hmore hlast) (hreq _)
      rw [hsame] at hnext
      exact hnext
  · rw [if_neg hok]
    dsimp only
    by_cases hlast : s.cf.queryNext = cfNotReachable
    · rw [if_pos (show s.cf.returned.queryNext = cfNotReachable from hlast)]
      unfold pendingReply
      rw [show s.cf.returned.pending = some msg from hmsg]
      constructor
      · exact h.truth.keep ⟨rfl, rfl, id⟩ (success_error hok) (.inr rfl) rfl
      · exact h.work.finish rfl hmsg rfl rfl rfl rfl rfl
    · rw [if_neg (show ¬ s.cf.returned.queryNext = cfNotReachable from hlast)]
      constructor
      · exact h.truth.keep ⟨rfl, rfl, id⟩ (success_error hok) (.inl rfl) rfl
      · exact h.work.goOn rfl hmsg hmsg rfl rfl rfl rfl (hmore hlast) (hreq _)

lemma Inv.setQueried (h : s.Inv) (hcall : s.cf.call = some .setQuery) (error : OfonoError)
    (list : List CfCondition) (hmet : s.Met (.queryDone error list)) :
    (s.observe (.queryDone error list) (s.cf.returned.setQueryCfCallback error list).1
      (s.cf.returned.setQueryCfCallback error list).2).Inv := by
  rcases h.work.waits hcall with ⟨msg, hmsg⟩
  have hbounds : s.cf.queryNext ≤ s.cf.queryEnd ∧ s.cf.queryEnd ≤ 3 := h.work.bounds _ hcall
  have hsame := @newSignals_eq s s.cf.returned list rfl rfl rfl
  unfold setQueryCfCallback
  by_cases hok : error.type = .noError
  · rw [if_neg (not_not.mpr hok)]
    by_cases hlast : s.cf.queryNext = s.cf.queryEnd
    · rw [if_pos (show s.cf.returned.queryNext = s.cf.returned.queryEnd from hlast)]
      unfold pendingReply
      rw [show s.cf.returned.pending = some msg from hmsg]
      dsimp only [setNewCondList_snd]
      refine h.lastQuery { s.cf with
        cfConditions := s.newLists list
        pending := none
        call := none } hok hmet hcall rfl (Nat.le_trans hbounds.1 hbounds.2) rfl rfl .inl rfl rfl
        ⟨msg, .done, hmsg, .inl ⟨rfl, ?_⟩⟩
      rw [hsame]
      rfl
    · rw [if_neg (show ¬ s.cf.returned.queryNext = s.cf.returned.queryEnd from hlast)]
      dsimp only [setNewCondList_snd]
      have hnext := h.nextQuery { s.cf with
        cfConditions := s.newLists list
        call := some .setQuery
        queryNext := s.cf.queryNext + 1 } hok hmet hcall rfl (Nat.le_trans hbounds.1 hbounds.2) rfl
        rfl .inl rfl rfl rfl
        ⟨Nat.succ_le_of_lt (Nat.lt_of_le_of_ne hbounds.1 hlast), hbounds.2⟩ nofun
      rw [hsame] at hnext
      exact hnext
  · rw [if_pos hok]
    exact @failed s h (.queryDone error list) rfl (success_error hok) msg hmsg rfl
      { s.cf.returned with cached := false } ⟨rfl, rfl, fun hcached => absurd hcached nofun⟩ hmsg
      rfl _

lemma Inv.ssQueried (h : s.Inv) (hcall : s.cf.call = some .ssSetQuery) {req : CfSsRequest} (hreq :
    s.cf.ssReq = some req) (error : OfonoError) (list : List CfCondition) (hmet : s.Met (.queryDone
    error list)) : (s.observe (.queryDone error list) (s.cf.returned.ssSetQueryCfCallback req error
    list).1 (s.cf.returned.ssSetQueryCfCallback req error list).2).Inv := by
  rcases h.work.waits hcall with ⟨msg, hmsg⟩
  have hbounds : s.cf.queryNext ≤ s.cf.queryEnd ∧ s.cf.queryEnd ≤ 3 := h.work.bounds _ hcall
  have hclass : askedClass s.cf .ssSetQuery = some (ssQueryClass req) := by
    rw [askedClass, hreq]
    rfl
  unfold ssSetQueryCfCallback
  by_cases hok : error.type = .noError
  · rw [if_neg (not_not.mpr hok)]
    dsimp only
    by_cases hlast : s.cf.queryNext = s.cf.queryEnd
    · rw [if_pos (show s.cf.returned.queryNext = s.cf.returned.queryEnd from hlast)]
      unfold pendingReply
      rw [show s.cf.returned.pending = some msg from hmsg]
      dsimp only [setNewCondList_snd]
      refine h.lastQuery { s.cf with
        cfConditions := s.newLists list
        pending := none
        call := none
        ssReq := none } hok hmet hcall hclass (Nat.le_trans hbounds.1 hbounds.2) rfl rfl .inl rfl rfl
        ⟨msg, cfSsControlReply { req with
          cfList := Function.update req.cfList s.cf.queryNext (cfCondListCreate list) },
          hmsg, .inl ⟨rfl, ?_⟩⟩
      rw [@newSignals_eq s { s.cf.returned with pending := none, ssReq := none } list rfl rfl rfl]
      rfl
    · rw [if_neg (show ¬ s.cf.returned.queryNext = s.cf.returned.queryEnd from hlast)]
      dsimp only [setNewCondList_snd]
      have hnext := h.nextQuery { s.cf with
        cfConditions := s.newLists list
        call := some .ssSetQuery
        ssReq := some { req with
          cfList := Function.update req.cfList s.cf.queryNext (cfCondListCreate list) }
        queryNext := s.cf.queryNext + 1 } hok hmet hcall hclass (Nat.le_trans hbounds.1 hbounds.2)
        rfl rfl .inl rfl rfl rfl
        ⟨Nat.succ_le_of_lt (Nat.lt_of_le_of_ne hbounds.1 hlast), hbounds.2⟩ fun _ => rfl
      rw [@newSignals_eq s s.cf.returned list rfl rfl rfl] at hnext
      exact hnext
  · rw [if_pos hok]
    exact @failed s h (.queryDone error list) rfl (success_error hok) msg hmsg rfl
      { s.cf.returned with cached := false } ⟨rfl, rfl, fun hcached => absurd hcached nofun⟩ hmsg
      rfl _

lemma Inv.queryDone (h : s.Inv) (error : OfonoError) (list : List CfCondition) (hmet : s.Met
    (.queryDone error list)) : (s.observe (.queryDone error list) (s.cf.handle driver s.received
    (.queryDone error list)).1 (s.cf.handle driver s.received (.queryDone error list)).2).Inv := by
  have hignored : s.asking = none → (s.observe (.queryDone error list) [] s.cf).Inv := by
    intro hasking
    refine h.ignored rfl ?_ hasking.symm
    rw [success, hasking]
    split <;> rfl
  have hasking := h.work.asking
  cases hcall : s.cf.call with
  | none =>
    rw [hcall] at hasking
    simp only [CallForwarding.handle, hcall]
    exact hignored hasking
  | some c =>
    rw [hcall] at hasking
    cases c with
    | getQuery =>
      simp only [CallForwarding.handle, hcall]
      exact h.getQueried hcall error list hmet
    | setQuery =>
      simp only [CallForwarding.handle, hcall]
      exact h.setQueried hcall error list hmet
    | ssSetQuery =>
      rcases isSome_iff_exists.mp (h.work.req (.inr hcall)) with ⟨req, hreq⟩
      simp only [CallForwarding.handle, hcall, hreq]
      exact h.ssQueried hcall hreq error list hmet
    | setProperty | disableConditional | disableAll | ssControl =>
      simp only [CallForwarding.handle, hcall]
      exact hignored hasking

lemma Inv.step (h : s.Inv) {e : CfEvent} (hmet : s.Met e) :
    (s.observe e (s.cf.handle driver s.received e).1 (s.cf.handle driver s.received e).2).Inv := by
  cases e with
  | getProperties online ussdBusy =>
    exact h.request rfl (cfGetProperties_outcome s.cf s.received online ussdBusy)
  | setProperty online ussdBusy args =>
    exact h.request rfl (cfSetProperty_outcome s.cf s.received online ussdBusy args)
  | disableAll ussdBusy type =>
    exact h.request rfl (cfDisableAll_outcome s.cf s.received ussdBusy type)
  | ssControl c =>
    cases htype : cfTypeOfService c.sc with
    | none =>
      have he : isRequest (.ssControl c) = false := by
        rw [isRequest, htype]
        rfl
      simp only [CallForwarding.handle, htype]
      exact h.ignored he rfl rfl
    | some cfType =>
      have he : isRequest (.ssControl c) = true := by
        rw [isRequest, htype]
        rfl
      simp only [CallForwarding.handle, htype]
      exact h.request he (cfSsControl_outcome s.cf s.received c (cfTypeOfService_le htype))
  | setDone error => exact h.setDone error
  | queryDone error list => exact h.queryDone error list hmet

end CfSession

end Phonelets.Ss
