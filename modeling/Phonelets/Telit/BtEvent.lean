import Mathlib.Algebra.Order.BigOperators.Group.List
import Mathlib.Algebra.Order.Ring.Nat
import Phonelets.Rsap.Builder

/-! # The relay from the Bluetooth SIM server to the modem

`bt_event_cb` of `telit.c` writes what it reads from the Bluetooth socket to the port of
the modem, except the answer to the connection, which the modem has not asked for. It
tells that answer by the first octets of a read.

An octet may be more than its value here: the callback looks at values and moves octets,
so that octets marked with the message they come from show what becomes of them.
-/

namespace Phonelets.Telit

open List
open Rsap

/-! ## The callback -/

inductive GIOStatus where
  | error | normal | eof | again
  deriving DecidableEq

/-- Neither of the two that a callback goes on after. -/
def GIOStatus.isBad (st : GIOStatus) : Bool := st != .normal && st != .again

/-- What `bt_event_cb` is called for: the condition, and what its read and its write return. -/
structure BtEvent (α : Type) where
  inCondition : Bool
  status : GIOStatus
  buf : List α
  fits : buf.length ≤ 300
  writeStatus : GIOStatus

variable {α β : Type}

/-- The test for a `CONNECT_RESP`. -/
def startsConnectResp (buf : List ℕ) : Bool :=
  decide (3 ≤ buf.length) && buf.getD 0 0 == 0x01 && buf.getD 1 0 == 0x01 && buf.getD 2 0 == 0x00

/-- `bt_event_cb`: what it writes to `hw_io`, and whether it stays installed. -/
def btEventCb (value : α → ℕ) (e : BtEvent α) : List α × Bool :=
  if e.inCondition then
    if 0 < e.buf.length then
      if startsConnectResp (e.buf.map value) then ([], true)
      else if e.writeStatus.isBad then (e.buf, false)
      else (e.buf, !e.status.isBad)
    else ([], !e.status.isBad)
  else ([], false)

/-- What the events write, up to the one that removes the callback. -/
def btRelay (value : α → ℕ) : List (BtEvent α) → List α
  | [] => []
  | e :: es =>
    (btEventCb value e).1 ++ if (btEventCb value e).2 then btRelay value es else []

/-- The event with other octets. -/
def BtEvent.map (f : α → β) (e : BtEvent α) : BtEvent β where
  inCondition := e.inCondition
  status := e.status
  buf := e.buf.map f
  fits := by rw [List.length_map]; exact e.fits
  writeStatus := e.writeStatus

lemma btEventCb_map (f : α → β) (value : β → ℕ) (e : BtEvent α) : btEventCb value (e.map f) =
    ((btEventCb (value ∘ f) e).1.map f, (btEventCb (value ∘ f) e).2) := by
  unfold btEventCb BtEvent.map
  simp only [length_map, map_map]
  split
  · split
    · split
      · rfl
      · split <;> rfl
    · rfl
  · rfl

lemma btRelay_map (f : α → β) (value : β → ℕ) (es : List (BtEvent α)) :
    btRelay value (es.map (BtEvent.map f)) = (btRelay (value ∘ f) es).map f := by
  induction es with
  | nil => rfl
  | cons e es ih =>
    rw [map_cons, btRelay, btRelay, btEventCb_map, ih, map_append]
    cases (btEventCb (value ∘ f) e).2 <;> rfl

/-! ## Complete reads and writes -/

/-- There is something to read or at least no error, and the write is complete. -/
def BtEvent.Complete (e : BtEvent α) : Prop :=
  e.inCondition = true ∧ e.status.isBad = false ∧ e.writeStatus.isBad = false

lemma btEventCb_complete (value : α → ℕ) {e : BtEvent α} (h : e.Complete) :
    btEventCb value e = (if startsConnectResp (e.buf.map value) then [] else e.buf, true) := by
  rcases h with ⟨hin, hstatus, hwrite⟩
  unfold btEventCb
  rw [if_pos hin, hstatus, hwrite]
  cases hbuf : e.buf with
  | nil => rfl
  | cons o l =>
    rw [if_pos (by simp)]
    split <;> rfl

lemma btRelay_complete (value : α → ℕ) {es : List (BtEvent α)} (h : ∀ e ∈ es, e.Complete) : btRelay
    value es = es.flatMap fun e => if startsConnectResp (e.buf.map value) then [] else e.buf := by
  induction es with
  | nil => rfl
  | cons e es ih =>
    rw [btRelay, btEventCb_complete value (h e mem_cons_self),
      ih fun e' he' => h e' (mem_cons_of_mem e he'), flatMap_cons]
    rfl

/-! ## What becomes of the messages -/

/-- The octets of a message, each with whether it is one of a `CONNECT_RESP`. -/
def marked (m : Message) : List (ℕ × Bool) :=
  m.encode.map fun b => (b, m.id == messageName .connectResp)

/-- Terms that are pairwise at most the others, with the same sum, are the others. -/
lemma eq_of_sum_map_eq {ι : Type} {f g : ι → ℕ} {l : List ι} (hle : ∀ i ∈ l, f i ≤ g i)
    (hsum : (l.map f).sum = (l.map g).sum) : ∀ i ∈ l, f i = g i := by
  induction l with
  | nil => simp
  | cons i l ih =>
    rw [map_cons, map_cons, sum_cons, sum_cons] at hsum
    have hi := hle i mem_cons_self
    have hrest : (l.map f).sum ≤ (l.map g).sum :=
      sum_le_sum fun j hj => hle j (mem_cons_of_mem i hj)
    intro j hj
    rcases mem_cons.mp hj with rfl | hj
    · omega
    · exact ih (fun k hk => hle k (mem_cons_of_mem i hk)) (by omega) j hj

/-- Chunks that are kept or dropped whole keep exactly the elements that do not meet `p` when
`p` tells the chunks that are dropped. -/
lemma flatMap_drop_eq_filter_iff {ι : Type} (chunk : ι → List α) (dropped : ι → Bool) (p : α → Bool)
    (l : List ι) : (l.flatMap fun i => if dropped i then [] else chunk i) = (l.flatMap chunk).filter
    (fun o => !p o) ↔ ∀ i ∈ l, ∀ o ∈ chunk i, p o = dropped i := by
  rw [filter_flatMap]
  constructor
  · intro h
    -- what is kept does not meet `p`
    have hkept : ∀ i ∈ l, dropped i = false → ∀ o ∈ chunk i, p o = false := by
      intro i hi hd o ho
      have hmem : o ∈ l.flatMap fun i => if dropped i then [] else chunk i :=
        mem_flatMap.mpr ⟨i, hi, by rw [hd]; exact ho⟩
      rw [h, mem_flatMap] at hmem
      rcases hmem with ⟨j, -, hj⟩
      simpa using (mem_filter.mp hj).2
    have hlength := congrArg List.length h
    -- a chunk that keeps less than the filter could not be made up for by another one
    rw [length_flatMap, length_flatMap] at hlength
    have hsame := eq_of_sum_map_eq ?_ hlength
    · intro i hi o ho
      cases hd : dropped i with
      | false => exact hkept i hi hd o ho
      | true =>
        have hnone := hsame i hi
        rw [hd, if_pos rfl, length_nil] at hnone
        have hnil := eq_nil_of_length_eq_zero hnone.symm
        by_contra hp
        have hmem : o ∈ (chunk i).filter fun o => !p o :=
          mem_filter.mpr ⟨ho, by simpa using hp⟩
        rw [hnil] at hmem
        cases hmem
    · intro i hi
      cases hd : dropped i with
      | true => simp
      | false =>
        rw [filter_eq_self.mpr]
        · rfl
        · intro o ho
          rw [hkept i hi hd o ho]
          rfl
  · intro h
    apply flatMap_congr
    intro i hi
    cases hd : dropped i with
    | true =>
      rw [if_pos rfl, filter_eq_nil_iff.mpr]
      intro o ho
      rw [h i hi o ho, hd]
      simp
    | false =>
      rw [if_neg (by simp), filter_eq_self.mpr]
      intro o ho
      rw [h i hi o ho, hd]
      rfl

lemma filter_marked (ms : List Message) : (ms.flatMap marked).filter (fun o => !o.2) =
    (ms.filter fun m => m.id != messageName .connectResp).flatMap marked := by
  induction ms with
  | nil => rfl
  | cons m ms ih =>
    rw [flatMap_cons, filter_append, ih, filter_cons]
    by_cases hm : m.id = messageName .connectResp
    · have hnone : (marked m).filter (fun o => !o.2) = [] := by
        rw [filter_eq_nil_iff]
        intro o ho
        rcases mem_map.mp ho with ⟨b, -, rfl⟩
        simp [hm]
      rw [hnone, if_neg (by simp [hm]), nil_append]
    · have hall : (marked m).filter (fun o => !o.2) = marked m := by
        rw [filter_eq_self]
        intro o ho
        rcases mem_map.mp ho with ⟨b, -, rfl⟩
        simp [hm]
      rw [hall, if_pos (by simp [hm]), flatMap_cons]

lemma map_fst_marked (ms : List Message) :
    (ms.flatMap marked).map Prod.fst = ms.flatMap Message.encode := by
  rw [map_flatMap]
  apply flatMap_congr
  intro m _
  rw [marked, map_map]
  exact map_id _

/-- However the stream of messages is cut into reads: the octets written to the modem are
those of all messages but the `CONNECT_RESP`s exactly when an octet is one of a
`CONNECT_RESP` if and only if its read begins like one. -/
theorem bt_relay_iff (ms : List Message) (events : List (BtEvent (ℕ × Bool)))
    (hcomplete : ∀ e ∈ events, e.Complete) (hcut : events.flatMap BtEvent.buf = ms.flatMap marked) :
    btRelay id (events.map (BtEvent.map Prod.fst)) = (btRelay Prod.fst events).map Prod.fst ∧
    (btRelay Prod.fst events = (ms.filter fun m => m.id != messageName .connectResp).flatMap marked
    ↔ ∀ e ∈ events, ∀ o ∈ e.buf, o.2 = startsConnectResp (e.buf.map Prod.fst)) ∧ ((∀ e ∈ events,
    ∀ o ∈ e.buf, o.2 = startsConnectResp (e.buf.map Prod.fst)) → btRelay id (events.map (BtEvent.map
    Prod.fst)) = (ms.filter fun m => m.id != messageName .connectResp).flatMap Message.encode) := by
  have hiff : btRelay Prod.fst events =
        (ms.filter fun m => m.id != messageName .connectResp).flatMap marked ↔
      ∀ e ∈ events, ∀ o ∈ e.buf, o.2 = startsConnectResp (e.buf.map Prod.fst) := by
    rw [btRelay_complete Prod.fst hcomplete, ← filter_marked, ← hcut]
    exact flatMap_drop_eq_filter_iff BtEvent.buf
      (fun e => startsConnectResp (e.buf.map Prod.fst)) Prod.snd events
  refine ⟨btRelay_map Prod.fst id events, hiff, ?_⟩
  intro htold
  rw [btRelay_map Prod.fst id events, ← map_fst_marked, ← hiff.mpr htold]
  rfl

instance (e : BtEvent α) : Decidable e.Complete := inferInstanceAs (Decidable (_ ∧ _ ∧ _))

/-- An event that reads the octets of some messages, and the write of which is complete. -/
def readOf (octets : List α) (fits : octets.length ≤ 300) : BtEvent α :=
  ⟨true, .normal, octets, fits, .normal⟩

/-- The `CONNECT_RESP` and the `STATUS_IND` that answer a connection, in two reads. -/
theorem bt_relay_apart : btRelay Prod.fst [readOf (marked (Message.ofValues 0x01 [(0x01, [0x00])]))
    (by decide), readOf (marked (Message.ofValues 0x11 [(0x08, [0x01])])) (by decide)] = marked
    (Message.ofValues 0x11 [(0x08, [0x01])]) :=
  (bt_relay_iff [Message.ofValues 0x01 [(0x01, [0x00])], Message.ofValues 0x11 [(0x08, [0x01])]]
    [readOf (marked (Message.ofValues 0x01 [(0x01, [0x00])])) (by decide),
      readOf (marked (Message.ofValues 0x11 [(0x08, [0x01])])) (by decide)]
    (by decide) (by decide)).2.1.mpr (by decide)

/-- In one read both are dropped. -/
theorem bt_relay_together : ¬ ∀ (ms : List Message) (events : List (BtEvent ℕ)),
    (∀ e ∈ events, e.Complete) → events.flatMap BtEvent.buf = ms.flatMap Message.encode → btRelay id
    events = (ms.filter fun m => m.id != messageName .connectResp).flatMap Message.encode := by
  intro h
  have hrelay := h
    [Message.ofValues 0x01 [(0x01, [0x00])], Message.ofValues 0x11 [(0x08, [0x01])]]
    [readOf (generateConnectResp ++ generateStatusInd) (by decide)] (by decide) (by decide)
  exact absurd hrelay (by decide)

end Phonelets.Telit
