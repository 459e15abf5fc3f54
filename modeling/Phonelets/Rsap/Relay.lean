import Mathlib.Data.List.Nodup
import Mathlib.Data.List.Range
import Phonelets.Lib.Machine

/-! # The relay of `processAPDU` calls

`processAPDU` puts its request into `reqQueue` and takes whatever comes out of
`respQueue`; `apduProcessor` moves requests through `process` from one queue to the
other. Nothing ties a response to its call, so a call is given a number here, the
index of its request, and the queues carry it along. A call gets its own response
as long as the responses are taken in the order in which the requests were put.
-/

namespace Phonelets.Rsap

open List

variable {σ : Type}

/-- The two queues and the threads around them. `waiting` are the calls between
`reqQueue.put` and `respQueue.get`, in the order of their puts; `processing` is the
request that `apduProcessor` has in hand, `alive` whether its loop still runs. The
log `returned` keeps, for each call that is over, the response it got. -/
structure Relay (σ : Type) where
  requests : List (List ℕ)
  reqQueue : List (ℕ × List ℕ)
  processing : Option (ℕ × List ℕ)
  respQueue : List (ℕ × List ℕ)
  waiting : List ℕ
  returned : List (ℕ × (ℕ × List ℕ))
  client : σ
  alive : Bool

/-- Before the first call. -/
def Relay.init (client : σ) : Relay σ := ⟨[], [], none, [], [], [], client, true⟩

/-- The atomic steps: the two halves of `processAPDU` and those of a turn of
`apduProcessor`. -/
inductive RelayAction where
  | put (inCommand : List ℕ)
  | take
  | respond
  | get (caller : ℕ)

/-- One step. `process` answers a request or raises; an exception ends the loop of
`apduProcessor`. A `get` from an empty queue blocks. -/
def Relay.step (process : σ → List ℕ → Option (List ℕ) × σ) (s : Relay σ) :
    RelayAction → Option (Relay σ)
  | .put inCommand =>
    let relay := inCommand.map (· &&& 0xFF)
    let call := s.requests.length
    some { s with
      requests := s.requests ++ [relay]
      reqQueue := s.reqQueue ++ [(call, relay)]
      waiting := s.waiting ++ [call] }
  | .take =>
    match s.alive, s.processing, s.reqQueue with
    | true, none, request :: rest => some { s with reqQueue := rest, processing := some request }
    | _, _, _ => none
  | .respond =>
    match s.processing with
    | none => none
    | some (call, relay) =>
      match process s.client relay with
      | (some resp, client) =>
        some { s with
          processing := none
          respQueue := s.respQueue ++ [(call, resp)]
          client := client }
      | (none, client) => some { s with processing := none, client := client, alive := false }
  | .get caller =>
    match s.respQueue with
    | [] => none
    | resp :: rest =>
      if caller ∈ s.waiting then
        some { s with
          respQueue := rest
          waiting := s.waiting.erase caller
          returned := s.returned ++ [(caller, resp)] }
      else none

/-- The responses made so far, each with the call whose request it answers. -/
def Relay.answers (s : Relay σ) : List (ℕ × List ℕ) := s.returned.map Prod.snd ++ s.respQueue

/-- The requests that are not answered yet, the one in hand first. -/
def Relay.pending (s : Relay σ) : List (ℕ × List ℕ) := s.processing.toList ++ s.reqQueue

/-- Each call that returned got the response computed from its own request, by a
server that is given the requests one after the other; each request has exactly one
response or is still on its way, and then `apduProcessor` can go on. -/
structure Relay.Served (process : σ → List ℕ → Option (List ℕ) × σ) (client₀ : σ)
    (s : Relay σ) : Prop where
  own : ∀ e ∈ s.returned, e.2.1 = e.1 ∧
    (Machine.run process client₀ s.requests).1[e.1]? = some (some e.2.2)
  one : ∀ call < s.requests.length,
    (s.answers.map Prod.fst).count call + (s.pending.map Prod.fst).count call = 1
  goesOn : s.pending ≠ [] → (s.step process .take).isSome ∨ (s.step process .respond).isSome

/-- The response is taken by the caller that has waited longest, and `process` does
not raise. -/
def Relay.Orderly (process : σ → List ℕ → Option (List ℕ) × σ) (s : Relay σ) :
    RelayAction → Prop
  | .put _ => True
  | .take => True
  | .respond => ∀ request ∈ s.processing, (process s.client request.2).1.isSome
  | .get caller => s.waiting.head? = some caller

/-! ## The queues keep the order -/

/-- What orderly steps keep: both the responses and the callers come in the order
of the requests, and the responses are those of the sequential server. -/
structure Relay.Inv (process : σ → List ℕ → Option (List ℕ) × σ) (client₀ : σ)
    (s : Relay σ) : Prop where
  alive : s.alive = true
  calls : s.answers.map Prod.fst ++ s.pending.map Prod.fst = List.range s.requests.length
  callers : s.returned.map Prod.fst ++ s.waiting = List.range s.requests.length
  handled : ∃ done, done ++ s.pending.map Prod.snd = s.requests ∧
    Machine.run process client₀ done = (s.answers.map (some ∘ Prod.snd), s.client)

variable {process : σ → List ℕ → Option (List ℕ) × σ} {client₀ : σ}

lemma Relay.inv_init : (Relay.init client₀).Inv process client₀ where
  alive := rfl
  calls := rfl
  callers := rfl
  handled := ⟨[], rfl, rfl⟩

/-! ### What a step does -/

lemma Relay.step_take {s t : Relay σ} (h : s.step process .take = some t) :
    ∃ request rest, s.processing = none ∧ s.reqQueue = request :: rest ∧
      t = { s with reqQueue := rest, processing := some request } := by
  unfold Relay.step at h
  dsimp only at h
  split at h
  · rename_i request rest _ hnone hqueue
    exact ⟨request, rest, hnone, hqueue, (Option.some.inj h).symm⟩
  · cases h

lemma Relay.step_respond {s t : Relay σ} (h : s.step process .respond = some t) :
    ∃ call relay, s.processing = some (call, relay) ∧
      ((∃ resp client, process s.client relay = (some resp, client) ∧
        t = { s with
          processing := none
          respQueue := s.respQueue ++ [(call, resp)]
          client := client }) ∨
      ∃ client, process s.client relay = (none, client) ∧
        t = { s with processing := none, client := client, alive := false }) := by
  unfold Relay.step at h
  dsimp only at h
  split at h
  · cases h
  · rename_i call relay hproc
    refine ⟨call, relay, hproc, ?_⟩
    split at h
    · rename_i resp client hresp
      exact .inl ⟨resp, client, hresp, (Option.some.inj h).symm⟩
    · rename_i client hresp
      exact .inr ⟨client, hresp, (Option.some.inj h).symm⟩

lemma Relay.step_get {s t : Relay σ} {caller : ℕ} (h : s.step process (.get caller) = some t) :
    ∃ resp rest, s.respQueue = resp :: rest ∧ caller ∈ s.waiting ∧
      t = { s with
        respQueue := rest
        waiting := s.waiting.erase caller
        returned := s.returned ++ [(caller, resp)] } := by
  unfold Relay.step at h
  dsimp only at h
  split at h
  · cases h
  · rename_i resp rest hqueue
    split at h
    · rename_i hmem
      exact ⟨resp, rest, hqueue, hmem, (Option.some.inj h).symm⟩
    · cases h

lemma Relay.inv_step {s t : Relay σ} {a : RelayAction} (hinv : s.Inv process client₀)
    (ha : s.Orderly process a) (h : s.step process a = some t) : t.Inv process client₀ := by
  rcases hinv with ⟨halive, hcalls, hcallers, done, hdone, hrun⟩
  cases a with
  | put inCommand =>
    rw [← Option.some.inj h]
    -- the new call gets the next number, behind all the others in every queue
    refine ⟨halive, ?_, ?_, done, ?_, hrun⟩
    · simp only [Relay.answers, Relay.pending, map_append, map_cons, map_nil,
        length_append, length_cons, length_nil, range_succ] at hcalls ⊢
      rw [← hcalls]
      simp only [append_assoc]
    · simp only [length_append, length_cons, length_nil, range_succ]
      rw [← append_assoc, hcallers]
    · simp only [Relay.pending, map_append, map_cons, map_nil] at hdone ⊢
      rw [← hdone]
      simp only [append_assoc]
  | take =>
    rcases Relay.step_take h with ⟨request, rest, hnone, hqueue, rfl⟩
    -- a request that is taken is still one to be answered
    have hpending : ({ s with reqQueue := rest, processing := some request } : Relay σ).pending =
        s.pending := by
      simp [Relay.pending, hnone, hqueue]
    exact ⟨halive, by rw [hpending]; exact hcalls, hcallers, done, by rw [hpending]; exact hdone,
      hrun⟩
  | respond =>
    rcases Relay.step_respond h with ⟨call, relay, hproc, ⟨resp, client, hresp, rfl⟩ | ⟨client, hresp, -⟩⟩
    · have hpending : s.pending = (call, relay) :: s.reqQueue := by
        simp [Relay.pending, hproc]
      -- the response joins the answers at the end, where its request leaves at the front
      rw [hpending] at hcalls hdone
      refine ⟨halive, ?_, hcallers, done ++ [relay], ?_, ?_⟩
      · simp only [Relay.answers, Relay.pending, map_append, map_cons, map_nil,
          Option.toList_none, nil_append] at hcalls ⊢
        rw [← hcalls]
        simp only [append_assoc, cons_append, nil_append]
      · rw [← hdone]
        simp [Relay.pending]
      · rw [Machine.run_append, hrun]
        simp [Machine.run_cons, hresp, Relay.answers]
    · -- `process` raised: excluded
      have hsome := ha (call, relay) hproc
      rw [hresp] at hsome
      cases hsome
  | get caller =>
    rcases Relay.step_get h with ⟨resp, rest, hqueue, -, rfl⟩
    rcases head?_eq_some_iff.mp ha with ⟨others, hwaiting⟩
    have hanswers : ({ s with
        -- the caller that has waited longest takes the response that is first
        respQueue := rest
        waiting := s.waiting.erase caller
        returned := s.returned ++ [(caller, resp)] } : Relay σ).answers = s.answers := by
      simp [Relay.answers, hqueue]
    refine ⟨halive, by rw [hanswers]; exact hcalls, ?_, done, hdone, by rw [hanswers]; exact hrun⟩
    rw [← hcallers, hwaiting, erase_cons_head]
    simp

lemma eq_of_append_eq_range {l l' m m' : List ℕ} {n : ℕ} (h : l ++ m = List.range n)
    (h' : l' ++ m' = List.range n) (hlen : l.length = l'.length) : l = l' ∧ m = m' :=
  append_inj (h.trans h'.symm) hlen

lemma Relay.Inv.returned_eq {s : Relay σ} (hinv : s.Inv process client₀) :
    s.returned.map Prod.fst = s.returned.map (fun e => e.2.1) ∧
      s.waiting = s.respQueue.map Prod.fst ++ s.pending.map Prod.fst := by
  have hcalls := hinv.calls
  rw [Relay.answers, map_append, map_map, append_assoc] at hcalls
  exact eq_of_append_eq_range hinv.callers hcalls (by simp)

lemma Relay.Inv.served {s : Relay σ} (hinv : s.Inv process client₀) :
    s.Served process client₀ where
  own := by
    intro e he
    have hown : e.1 = e.2.1 := map_inj_left.mp hinv.returned_eq.1 e he
    refine ⟨hown.symm, ?_⟩
    rcases hinv.handled with ⟨done, hdone, hrun⟩
    rcases getElem_of_mem he with ⟨i, hi, rfl⟩
    -- the caller of the `i`th return is `i`
    have hcaller : s.returned[i].1 = i := by
      have hget : (s.returned.map Prod.fst ++ s.waiting)[i]? = (List.range s.requests.length)[i]? := by
        rw [hinv.callers]
      rw [getElem?_append_left (by simpa using hi), getElem?_map,
        getElem?_eq_getElem hi] at hget
      rw [Option.map_some] at hget
      have hlt := (List.getElem?_eq_some_iff.mp hget.symm).1
      rw [getElem?_eq_getElem hlt, getElem_range] at hget
      exact Option.some.inj hget
    rw [hcaller, ← hdone, Machine.run_append, hrun]
    have hlen : i < (s.answers.map (some ∘ Prod.snd)).length := by
      simp [Relay.answers]
      omega
    rw [getElem?_append_left hlen]
    simp [Relay.answers, getElem?_append_left, hi]
  one := by
    intro call hcall
    rw [← count_append, hinv.calls]
    exact count_eq_one_of_mem nodup_range (mem_range.mpr hcall)
  goesOn := by
    intro hne
    cases hproc : s.processing with
    | some request =>
      right
      simp only [Relay.step, hproc]
      split <;> rfl
    | none =>
      left
      cases hqueue : s.reqQueue with
      | nil => simp [Relay.pending, hproc, hqueue] at hne
      | cons request rest => simp [Relay.step, hinv.alive, hproc, hqueue]

lemma Relay.not_served_step {s t : Relay σ} {a : RelayAction} (hinv : s.Inv process client₀)
    (ha : ¬ s.Orderly process a) (h : s.step process a = some t) : ¬ t.Served process client₀ := by
  intro hserved
  cases a with
  | put inCommand => exact ha trivial
  | take => exact ha trivial
  | respond =>
    rcases Relay.step_respond h with ⟨call, relay, hproc, ⟨resp, client, hresp, -⟩ | ⟨client, hresp, rfl⟩⟩
    · apply ha
      intro request hrequest
      rw [hproc] at hrequest
      rw [← Option.some.inj hrequest, hresp]
      rfl
    · -- the request in hand is gone without a response
      have hcalls := hinv.calls
      have hpending : s.pending = (call, relay) :: s.reqQueue := by
        simp [Relay.pending, hproc]
      rw [hpending, map_cons] at hcalls
      have hmem : call ∈ List.range s.requests.length := by
        rw [← hcalls]
        simp
      have hcount := count_eq_one_of_mem nodup_range hmem
      have hone := hserved.one call (mem_range.mp hmem)
      rw [← hcalls, count_append, count_cons_self] at hcount
      simp only [Relay.answers, Relay.pending, Option.toList_none, nil_append] at hone hcount
      omega
  | get caller =>
    rcases Relay.step_get h with ⟨resp, rest, hqueue, -, rfl⟩
    have hown := (hserved.own (caller, resp) (by simp)).1
    apply ha
    show s.waiting.head? = some caller
    rw [hinv.returned_eq.2, hqueue, map_cons, cons_append, head?_cons]
    exact congrArg some hown

/-- In a run of any number of calls, interleaved in any way, every call gets its own
response and every request exactly one, in every state, if and only if each `get` is
done by the caller that has waited longest and `process` never raises. -/
theorem processAPDU_served_iff (process : σ → List ℕ → Option (List ℕ) × σ) (client₀ : σ)
    (acts : List RelayAction) :
    Machine.Always (Relay.step process) (Relay.Served process client₀) (Relay.init client₀) acts ↔
      Machine.EveryStep (Relay.step process) (Relay.Orderly process) (Relay.init client₀) acts :=
  Machine.always_iff (fun _ hinv => hinv.served) (fun _ _ _ hinv ha h => Relay.inv_step hinv ha h)
    (fun _ _ _ hinv ha h => Relay.not_served_step hinv ha h) Relay.inv_init acts

/-- Two calls, and the second takes the first response. -/
theorem processAPDU_swaps_responses : ¬ ∀ (process : Unit → List ℕ → Option (List ℕ) × Unit)
    (acts : List RelayAction), (∀ client request, (process client request).1.isSome) →
    Machine.Always (Relay.step process) (Relay.Served process ()) (Relay.init ()) acts := by
  intro h
  have hrun := h (fun _ request => (some request, ()))
    [.put [1], .put [2], .take, .respond, .get 1] (fun _ _ => rfl)
  have hlast := (((((hrun.2 _ rfl).2 _ rfl).2 _ rfl).2 _ rfl).2 _ rfl).own (1, 0, [1]) (by simp [Relay.init])
  exact absurd hlast.1 (by decide)

end Phonelets.Rsap
