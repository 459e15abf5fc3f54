import Phonelets.Gatchat.MuxDispatch

/-! # Runs of the dispatch

Where the walks of `dispatch_sources` stand: each on an element of its list, behind which is what it has
still to look at. A watch that moves within the condition takes no element away that another walk stands
on, so all of them go on.
-/

namespace Phonelets.Gatchat

open List Option
open SHeap (Chain Unlinked)
open MuxDispatch (waitsFor Move)

variable {links links' : SHeap GAtMuxWatch} {channels : List DlcChannel} {lists : ℕ → List ℕ}
  {as pend : List ℕ} {a b q ch : ℕ} {p : Option ℕ} {walk : Walk} {turn : Turn}

/-! ## Walks -/

/-- The element before the cursor is the one before it in the list, or it is gone. -/
def StandsAt (links : SHeap GAtMuxWatch) (as : List ℕ) (a : ℕ) : Option ℕ → Prop
  | none => as.head? = some a
  | some q => links[q]? = some none ∨ [q, a] <:+: as

/-- A walk in its list, with what it has still to look at. -/
structure WalkOk (links : SHeap GAtMuxWatch) (lists : ℕ → List ℕ) (walk : Walk) (pend : List ℕ) : Prop where
  place : ∃ before, lists walk.channel = before ++ (if walk.calling then walk.c.toList else []) ++ pend
  ahead : walk.calling = false → walk.c = pend.head?
  stands : ∀ a, walk.c = some a → StandsAt links (lists walk.channel) a walk.p
  there : walk.calling = true → walk.c ≠ none

/-- The turn that is going on: what the walk has still to look at, and what has been seen. -/
structure Current (links : SHeap GAtMuxWatch) (turn : Turn) (pend : List ℕ) : Prop where
  seen : ∀ a ∈ turn.watches, a ∈ turn.called ∨ a ∈ turn.removed ∨ a ∈ pend
  fresh : ∀ a ∈ pend, a ∉ turn.called
  watch : ∀ a ∈ pend, waitsFor links gIoIn a = true ↔ a ∈ turn.watches

/-- The lists without an element. -/
def without (lists : ℕ → List ℕ) (ch a d : ℕ) : List ℕ := if d = ch then (lists ch).erase a else lists d

lemma without_self (lists : ℕ → List ℕ) (ch a : ℕ) : without lists ch a ch = (lists ch).erase a := if_pos rfl

lemma without_other {d : ℕ} (h : d ≠ ch) (lists : ℕ → List ℕ) (a : ℕ) : without lists ch a d = lists d :=
  if_neg h

lemma WalkOk.mem (h : WalkOk links lists walk pend) (hc : walk.c = some a) : a ∈ lists walk.channel := by
  obtain ⟨before, hplace⟩ := h.place
  rw [hplace]
  cases hcalling : walk.calling with
  | true =>
    rw [if_pos rfl, hc]
    exact mem_append_left _ (mem_append_right _ mem_cons_self)
  | false =>
    have hahead := h.ahead hcalling
    rw [hc] at hahead
    exact mem_append_right _ (mem_of_head? hahead.symm)

lemma infix_erase {x y : ℕ} (h : [x, y] <:+: as) (hx : x ≠ a) (hy : y ≠ a) : [x, y] <:+: as.erase a := by
  obtain ⟨u, v, rfl⟩ := h
  by_cases hu : a ∈ u
  · refine ⟨u.erase a, v, ?_⟩
    rw [append_assoc, append_assoc, erase_append_left _ hu]
  · refine ⟨u, v.erase a, ?_⟩
    rw [append_assoc, append_assoc, erase_append_right _ hu]
    change _ = u ++ (x :: y :: v).erase a
    rw [erase_cons_tail (by simpa using hx), erase_cons_tail (by simpa using hy)]
    rfl

lemma WalkOk.unlinked (h : WalkOk links lists walk pend) (hnodup : (lists walk.channel).Nodup)
    (hother : walk.channel ≠ ch → a ∉ lists walk.channel) (hcalling : walk.calling = true)
    (hc : walk.c ≠ some a) (hun : Unlinked links links' a as) :
    WalkOk links' (without lists ch a) walk (pend.erase a) := by
  obtain ⟨before, hplace⟩ := h.place
  rw [if_pos hcalling] at hplace
  obtain ⟨b, hb⟩ := ne_none_iff_exists'.mp (h.there hcalling)
  have hba : b ≠ a := fun heq => hc (by rw [hb, heq])
  rw [hb] at hplace
  have hlist : without lists ch a walk.channel = (lists walk.channel).erase a := by
    by_cases hch : walk.channel = ch
    · rw [hch, without_self]
    · rw [without_other hch, erase_of_not_mem (hother hch)]
  refine ⟨?_, ?_, ?_, h.there⟩
  · rw [hlist, if_pos hcalling, hb, hplace]
    rw [hplace] at hnodup
    obtain ⟨-, -, hapart⟩ := nodup_append.mp hnodup
    by_cases hbefore : a ∈ before ++ (some b).toList
    · have hpend : a ∉ pend := fun hmem => hapart a hbefore a hmem rfl
      have hin : a ∈ before := by
        rcases mem_append.mp hbefore with hin | hin
        · exact hin
        · exact absurd (mem_singleton.mp hin).symm hba
      refine ⟨before.erase a, ?_⟩
      rw [erase_of_not_mem hpend, erase_append_left _ hbefore, erase_append_left _ hin]
    · refine ⟨before, ?_⟩
      rw [erase_append_right _ hbefore]
  · intro hfalse
    rw [hcalling] at hfalse
    cases hfalse
  · intro d hd
    rw [hlist]
    rw [hb] at hd
    cases hd
    have hstands := h.stands b hb
    cases hp : walk.p with
    | none =>
      rw [hp] at hstands
      change (lists walk.channel).head? = some b at hstands
      change ((lists walk.channel).erase a).head? = some b
      cases hl : lists walk.channel with
      | nil =>
        rw [hl] at hstands
        cases hstands
      | cons x xs =>
        rw [hl] at hstands
        cases hstands
        rw [erase_cons_tail (by simpa using hba)]
        rfl
    | some q =>
      rw [hp] at hstands
      rcases hstands with hfreed | hin
      · exact .inl (hun.gone q hfreed)
      · by_cases hqa : q = a
        · exact .inl (hqa ▸ hun.freed)
        · exact .inr (infix_erase hin hqa hba)

lemma waitsFor_unlinked (hun : Unlinked links links' a as) (hb : b ≠ a)
    (hlive : ∃ watch next, links[b]? = some (some ⟨some watch, next⟩)) (condition : UInt32) :
    waitsFor links' condition b = waitsFor links condition b := by
  obtain ⟨watch, next, hget⟩ := hlive
  obtain ⟨next', hget'⟩ := hun.other b _ hb hget
  rw [waitsFor, waitsFor, hget, hget']
  rfl

lemma Current.unlinked (h : Current links turn pend) (hun : Unlinked links links' a as)
    (hnodup : pend.Nodup) (hlive : ∀ b ∈ pend, ∃ watch next, links[b]? = some (some ⟨some watch, next⟩)) :
    Current links' { turn with removed := turn.removed ++ [a] } (pend.erase a) where
  seen := by
    intro b hb
    rcases h.seen b hb with hcalled | hremoved | hpend
    · exact .inl hcalled
    · exact .inr (.inl (mem_append_left _ hremoved))
    · by_cases hba : b = a
      · exact .inr (.inl (mem_append_right _ (mem_singleton.mpr hba)))
      · exact .inr (.inr ((mem_erase_of_ne hba).mpr hpend))
  fresh := by
    intro b hb
    exact h.fresh b (mem_of_mem_erase hb)
  watch := by
    intro b hb
    have hba : b ≠ a := (hnodup.mem_erase_iff.mp hb).1
    have hmem := mem_of_mem_erase hb
    rw [waitsFor_unlinked hun hba (hlive b hmem)]
    exact h.watch b hmem

/-! ## The invariant -/

variable {mux mux' : MuxDispatch} {turns : List Turn}

/-- The walks that are going on, the last one first. -/
def MuxDispatch.walks (mux : MuxDispatch) : List Walk := mux.closes ++ mux.turn.toList

lemma top_eq (mux : MuxDispatch) : mux.top = mux.walks.head? := by
  rw [MuxDispatch.top, MuxDispatch.walks]
  cases mux.closes with
  | nil => cases mux.turn <;> rfl
  | cons => rfl

/-- The open channels that wait for their turn are there, and none of them is being closed. -/
structure Waiting (mux : MuxDispatch) : Prop where
  numbers : ∀ channel ∈ mux.channels, 1 ≤ channel.dlc
  index : 1 ≤ mux.index
  isOpen : ∀ i, mux.index ≤ i → mux.newdata.test i = true →
    ∃ ch, mux.dlcs.getD (i - 1) none = some ch ∧ ch < mux.channels.length
  closing : ∀ w ∈ mux.closes, ∀ channel, mux.channels[w.channel]? = some channel →
    ¬ (mux.index ≤ channel.dlc ∧ mux.newdata.test channel.dlc = true)

/-- All walks stand in their lists, and all but the last are waiting for a watch to return. -/
structure Walking (mux : MuxDispatch) (lists : ℕ → List ℕ) : Prop where
  ok : ∀ w ∈ mux.walks, (∃ pend, WalkOk mux.links lists w pend) ∧ w.channel < mux.channels.length
  waits : ∀ w ∈ mux.walks.tail, w.calling = true
  inside : mux.turn = none → mux.closes = []

structure MuxInv (mux : MuxDispatch) (lists : ℕ → List ℕ) : Prop where
  meets : DispatchMeets mux
  memory : Lists mux.links mux.channels lists
  waiting : Waiting mux
  walking : Walking mux lists
  current : ∀ w, mux.turn = some w → ∃ pend t ts, mux.turns = t :: ts ∧
    WalkOk mux.links lists w pend ∧ Current mux.links t pend

/-! ## The walk goes on -/

variable {before : List ℕ}

lemma WalkOk.pass (hplace : lists walk.channel = before ++ a :: pend) {next : Option ℕ} (hnext : next = pend.head?) :
    WalkOk links lists ⟨walk.channel, some a, next, false⟩ pend where
  place := ⟨before ++ [a], by
    rw [if_neg Bool.false_ne_true, append_nil, append_assoc]
    exact hplace⟩
  ahead := fun _ => hnext
  stands := by
    intro b hb
    change next = some b at hb
    rw [hnext] at hb
    obtain ⟨tail, rfl⟩ := head?_eq_some_iff.mp hb
    exact .inr ⟨before, tail, by
      change before ++ [a, b] ++ tail = lists walk.channel
      rw [hplace, append_assoc]
      rfl⟩
  there := by
    intro hcalling
    cases hcalling

lemma MuxInv.setClose (hinv : MuxInv mux lists) {closes : List Walk}
    (hcloses : mux.closes = walk :: closes) (walk' : Walk) (hch : walk'.channel = walk.channel)
    (hok : WalkOk mux.links lists walk' pend) : MuxInv { mux with closes := walk' :: closes } lists where
  meets := ⟨hinv.meets.safe, hinv.meets.order, hinv.meets.once, hinv.meets.done⟩
  memory := hinv.memory
  waiting := by
    refine ⟨hinv.waiting.numbers, hinv.waiting.index, hinv.waiting.isOpen, ?_⟩
    intro w hw channel hchannel
    have hold := hinv.waiting.closing
    rw [hcloses] at hold
    rcases mem_cons.mp hw with rfl | hw
    · exact hold walk mem_cons_self channel (hch ▸ hchannel)
    · exact hold w (mem_cons_of_mem _ hw) channel hchannel
  walking := by
    have hold := hinv.walking
    have hwalks : mux.walks = walk :: (closes ++ mux.turn.toList) := by
      rw [MuxDispatch.walks, hcloses]
      rfl
    have hokay := hold.ok
    have hwaits := hold.waits
    rw [hwalks] at hokay hwaits
    refine ⟨?_, hwaits, ?_⟩
    · intro w hw
      rcases mem_cons.mp hw with rfl | hw
      · exact ⟨⟨pend, hok⟩, hch ▸ (hokay walk mem_cons_self).2⟩
      · exact hokay w (mem_cons_of_mem _ hw)
    · intro hnone
      have := hold.inside hnone
      rw [hcloses] at this
      cases this
  current := hinv.current

/-- The walk within `received_data` has a new state, and something has been seen of the turn. -/
lemma MuxInv.setTurn (hinv : MuxInv mux lists) (hcloses : mux.closes = [])
    (hturn : mux.turn = some walk) (hturns : mux.turns = turn :: turns) (walk' : Walk) (turn' : Turn)
    (hch : walk'.channel = walk.channel) (hok : WalkOk mux.links lists walk' pend) (hdlc : turn'.dlc = turn.dlc) (honce : turn'.Once) (hcurrent : Current mux.links turn' pend) :
    MuxInv { mux with turn := some walk', turns := turn' :: turns } lists where
  meets := by
    have hmeets := hinv.meets
    refine ⟨hmeets.safe, ?_, ?_, ?_⟩
    · have horder := hmeets.order
      rw [hturns, map_cons] at horder
      change (turn'.dlc :: turns.map Turn.dlc).reverse = _
      rw [hdlc]
      exact horder
    · have hold := hmeets.once
      rw [hturns] at hold
      exact forall_mem_cons.mpr ⟨honce, fun t ht => hold t (mem_cons_of_mem _ ht)⟩
    · have hdone := hmeets.done
      rw [hturn, hturns] at hdone
      exact hdone
  memory := hinv.memory
  waiting := ⟨hinv.waiting.numbers, hinv.waiting.index, hinv.waiting.isOpen, hinv.waiting.closing⟩
  walking := by
    have hwalks : mux.walks = [walk] := by
      rw [MuxDispatch.walks, hcloses, hturn]
      rfl
    have hokay := hinv.walking.ok
    rw [hwalks] at hokay
    have hwalks' : MuxDispatch.walks { mux with turn := some walk', turns := turn' :: turns } = [walk'] := by
      rw [MuxDispatch.walks]
      dsimp only
      rw [hcloses]
      rfl
    refine ⟨?_, ?_, fun _ => hcloses⟩
    · rw [hwalks']
      exact forall_mem_singleton.mpr
        ⟨⟨pend, hok⟩, hch ▸ (hokay walk mem_cons_self).2⟩
    · rw [hwalks']
      intro w hw
      cases hw
  current := by
    intro w hw
    cases hw
    exact ⟨pend, turn', turns, rfl, hok, hcurrent⟩

/-! ### Reading, closing and the end of a walk -/

lemma MuxInv.fromTop (hinv : MuxInv mux lists) (htop : mux.top = some walk) :
    (∃ pend, WalkOk mux.links lists walk pend) ∧ walk.channel < mux.channels.length := by
  rw [top_eq] at htop
  exact hinv.walking.ok walk (mem_of_head? htop)

lemma getElem?_modify_inv {α : Type} {l : List α} {f : α → α} {i j : ℕ} {x' : α}
    (h : (l.modify i f)[j]? = some x') : ∃ x, l[j]? = some x ∧ x' = if i = j then f x else x := by
  rw [getElem?_modify] at h
  obtain ⟨x, hx, rfl⟩ := map_eq_some_iff.mp h
  refine ⟨x, hx, ?_⟩
  split
  · rfl
  · rfl

lemma MuxInv.read (hinv : MuxInv mux lists) (channel count : ℕ) :
    MuxInv (mux.channelRead channel count) lists := by
  have hget (ch : ℕ) (c' : DlcChannel) (h : (mux.channelRead channel count).channels[ch]? = some c') :
      ∃ c, mux.channels[ch]? = some c ∧ c'.sources = c.sources ∧ c'.dlc = c.dlc := by
    obtain ⟨c, hc, rfl⟩ := getElem?_modify_inv h
    refine ⟨c, hc, ?_⟩
    split
    · exact ⟨rfl, rfl⟩
    · exact ⟨rfl, rfl⟩
  have hlength : (mux.channelRead channel count).channels.length = mux.channels.length :=
    length_modify _ _ _
  refine ⟨⟨hinv.meets.safe, hinv.meets.order, hinv.meets.once, hinv.meets.done⟩, ?_, ?_, ?_, hinv.current⟩
  · refine ⟨?_, hinv.memory.nodup, hinv.memory.apart, hinv.memory.live⟩
    intro ch c' hc'
    obtain ⟨c, hc, hsources, -⟩ := hget ch c' hc'
    rw [hsources]
    exact hinv.memory.chain ch c hc
  · refine ⟨?_, hinv.waiting.index, ?_, ?_⟩
    · intro c' hc'
      obtain ⟨ch, hch⟩ := getElem?_of_mem hc'
      obtain ⟨c, hc, -, hdlc⟩ := hget ch c' hch
      rw [hdlc]
      exact hinv.waiting.numbers c (mem_of_getElem? hc)
    · rw [hlength]
      exact hinv.waiting.isOpen
    · intro w hw c' hc'
      obtain ⟨c, hc, -, hdlc⟩ := hget _ c' hc'
      rw [hdlc]
      exact hinv.waiting.closing w hw c hc
  · refine ⟨?_, hinv.walking.waits, hinv.walking.inside⟩
    rw [hlength]
    exact hinv.walking.ok

lemma Lists.sources_eq (h : Lists mux.links mux.channels lists) (hch : ch < mux.channels.length) :
    Chain mux.links (mux.sources ch) (lists ch) := by
  rw [MuxDispatch.sources, getElem?_eq_getElem hch]
  exact h.chain ch _ (getElem?_eq_getElem hch)

lemma WalkOk.start (hchain : Chain links p (lists ch)) :
    WalkOk links lists ⟨ch, none, p, false⟩ (lists ch) where
  place := ⟨[], rfl⟩
  ahead := fun _ => hchain.head_eq
  stands := by
    intro a ha
    change p = some a at ha
    rw [hchain.head_eq] at ha
    exact ha
  there := by
    intro hcalling
    cases hcalling

lemma MuxInv.close (hinv : MuxInv mux lists) (htop : mux.top = some walk) (hcalling : walk.calling = true)
    (hch : ch < mux.channels.length) (hok : MoveOk mux (.close ch)) :
    MuxInv (mux.channelClose ch) lists where
  meets := ⟨hinv.meets.safe, hinv.meets.order, hinv.meets.once, hinv.meets.done⟩
  memory := hinv.memory
  waiting := by
    refine ⟨hinv.waiting.numbers, hinv.waiting.index, hinv.waiting.isOpen, ?_⟩
    intro w hw channel hchannel
    rcases mem_cons.mp hw with rfl | hw
    · exact hok channel hchannel
    · exact hinv.waiting.closing w hw channel hchannel
  walking := by
    refine ⟨?_, ?_, ?_⟩
    · intro w hw
      rcases mem_cons.mp hw with rfl | hw
      · exact ⟨⟨lists ch, WalkOk.start (hinv.memory.sources_eq hch)⟩, hch⟩
      · exact hinv.walking.ok w hw
    · intro w hw
      change w ∈ mux.walks at hw
      rw [top_eq] at htop
      obtain ⟨rest, hrest⟩ := head?_eq_some_iff.mp htop
      have hwaits := hinv.walking.waits
      rw [hrest] at hw hwaits
      rcases mem_cons.mp hw with rfl | hw
      · exact hcalling
      · exact hwaits w hw
    · intro hnone
      have hold : mux.turn = none := hnone
      rw [top_eq, MuxDispatch.walks, hinv.walking.inside hold, hold] at htop
      cases htop
  current := hinv.current

/-- `dispatch_sources` returns: in `received_data` the turn is over, in `channel_close` the channel is
closed. -/
lemma MuxInv.endWalk (hinv : MuxInv mux lists) (htop : mux.top = some walk) (hc : walk.c = none) :
    MuxInv mux.endWalk lists := by
  have hmeets := hinv.meets
  rw [MuxDispatch.endWalk]
  cases hcloses : mux.closes with
  | nil =>
    have hturn : mux.turn = some walk := by
      rw [MuxDispatch.top, hcloses] at htop
      exact htop
    obtain ⟨pend, t, ts, hturns, hwalk, hcurrent⟩ := hinv.current walk hturn
    have hidle : walk.calling = false := by
      cases hcalling : walk.calling with
      | false => rfl
      | true => exact absurd hc (hwalk.there hcalling)
    have hpend : pend = [] := by
      have hahead := hwalk.ahead hidle
      rw [hc] at hahead
      exact head?_eq_none_iff.mp hahead.symm
    have hdone : t.Done := by
      intro a ha
      rcases hcurrent.seen a ha with hcalled | hremoved | hleft
      · exact .inl hcalled
      · exact .inr hremoved
      · rw [hpend] at hleft
        cases hleft
    refine ⟨⟨hmeets.safe, hmeets.order, hmeets.once, ?_⟩, hinv.memory,
      ⟨hinv.waiting.numbers, hinv.waiting.index, hinv.waiting.isOpen, ?_⟩, ⟨?_, ?_, ?_⟩, ?_⟩
    · have hold := hmeets.done
      rw [hturn, hturns] at hold
      change ∀ turn ∈ mux.turns, turn.Done
      rw [hturns]
      exact forall_mem_cons.mpr ⟨hdone, hold⟩
    · intro w hw
      cases hw
    · intro w hw
      cases hw
    · intro w hw
      cases hw
    · exact fun _ => rfl
    · intro w hw
      cases hw
  | cons v closes =>
    have hwalks : mux.walks = v :: (closes ++ mux.turn.toList) := by
      rw [MuxDispatch.walks, hcloses]
      rfl
    have hokay := hinv.walking.ok
    have hwaits := hinv.walking.waits
    rw [hwalks] at hokay hwaits
    have hlt := (hokay v mem_cons_self).2
    obtain ⟨c, hget⟩ : ∃ c, mux.channels[v.channel]? = some c := ⟨_, getElem?_eq_getElem hlt⟩
    have hclosing := hinv.waiting.closing
    rw [hcloses] at hclosing
    have hno := hclosing v mem_cons_self _ hget
    have hpos := hinv.waiting.numbers c (mem_of_getElem? hget)
    dsimp only
    rw [hget]
    refine ⟨⟨hmeets.safe, hmeets.order, hmeets.once, hmeets.done⟩, hinv.memory,
      ⟨hinv.waiting.numbers, hinv.waiting.index, ?_, ?_⟩, ⟨?_, ?_, ?_⟩, hinv.current⟩
    · -- the channel that is closed now does not wait for its turn
      intro i hi htest
      obtain ⟨ch, hch, hchlt⟩ := hinv.waiting.isOpen i hi htest
      refine ⟨ch, ?_, hchlt⟩
      have hne : c.dlc - 1 ≠ i - 1 := by
        intro heq
        have hindex := hinv.waiting.index
        have hi' : mux.index ≤ i := hi
        have hsame : c.dlc = i := by omega
        exact hno (hsame ▸ ⟨hi, htest⟩)
      change (mux.dlcs.set _ none).getD (i - 1) none = some ch
      rw [getD_eq_getElem?_getD, getElem?_set_ne hne, ← getD_eq_getElem?_getD, hch]
    · exact fun w hw => hclosing w (mem_cons_of_mem _ hw)
    · exact fun w hw => hokay w (mem_cons_of_mem _ hw)
    · exact fun w hw => hwaits w (mem_of_mem_tail hw)
    · intro hnone
      have hempty := hinv.walking.inside hnone
      rw [hcloses] at hempty
      cases hempty

/-! ### Calling a watch -/

lemma WalkOk.front (h : WalkOk links lists walk pend) (hidle : walk.calling = false) (hc : walk.c =
    some a) : ∃ before rest, pend = a :: rest ∧ lists walk.channel = before ++ a :: rest := by
  obtain ⟨before, hplace⟩ := h.place
  have hahead := h.ahead hidle
  rw [hc] at hahead
  obtain ⟨rest, rfl⟩ := head?_eq_some_iff.mp hahead.symm
  rw [hidle, if_neg Bool.false_ne_true, append_nil] at hplace
  exact ⟨before, rest, rfl, hplace⟩

lemma WalkOk.under (h : WalkOk links lists walk pend) (hcalling : walk.calling = true)
    (hc : walk.c = some a) : ∃ before, lists walk.channel = before ++ a :: pend := by
  obtain ⟨before, hplace⟩ := h.place
  rw [hcalling, if_pos rfl, hc, append_assoc] at hplace
  exact ⟨before, hplace⟩

lemma WalkOk.call (h : WalkOk links lists walk (a :: pend)) (hidle : walk.calling = false)
    (hc : walk.c = some a) : WalkOk links lists { walk with calling := true } pend where
  place := by
    obtain ⟨before, rest, hrest, hplace⟩ := h.front hidle hc
    cases hrest
    refine ⟨before, ?_⟩
    rw [if_pos rfl, hc, append_assoc]
    exact hplace
  ahead := by
    intro hfalse
    cases hfalse
  stands := h.stands
  there := by
    intro _ hnone
    rw [hc] at hnone
    cases hnone

lemma MuxInv.elementAt (hinv : MuxInv mux lists) (hch : ch < mux.channels.length)
    (hplace : lists ch = before ++ a :: pend) :
    ∃ watch next, mux.links[a]? = some (some ⟨some watch, next⟩) ∧ next = pend.head? := by
  have hmem : a ∈ lists ch := by
    rw [hplace]
    exact mem_append_right _ mem_cons_self
  obtain ⟨watch, next, hget⟩ := hinv.memory.live ch a hmem
  have hchain := hinv.memory.sources_eq hch
  rw [hplace] at hchain
  obtain ⟨l, hl, hnext⟩ := hchain.at
  rw [hget] at hl
  cases hl
  exact ⟨watch, next, hget, hnext⟩

lemma Current.call (h : Current links turn (a :: pend)) (hnodup : a ∉ pend) :
    Current links { turn with called := turn.called ++ [a] } pend where
  seen := by
    intro b hb
    rcases h.seen b hb with hcalled | hremoved | hpend
    · exact .inl (mem_append_left _ hcalled)
    · exact .inr (.inl hremoved)
    · rcases mem_cons.mp hpend with rfl | hpend
      · exact .inl (mem_append_right _ mem_cons_self)
      · exact .inr (.inr hpend)
  fresh := by
    intro b hb hcalled
    rcases mem_append.mp hcalled with hcalled | hcalled
    · exact h.fresh b (mem_cons_of_mem _ hb) hcalled
    · rw [mem_singleton.mp hcalled] at hb
      exact hnodup hb
  watch := fun b hb => h.watch b (mem_cons_of_mem _ hb)

lemma Current.skip (h : Current links turn (a :: pend)) (hno : waitsFor links gIoIn a = false) :
    Current links turn pend where
  seen := by
    intro b hb
    rcases h.seen b hb with hcalled | hremoved | hpend
    · exact .inl hcalled
    · exact .inr (.inl hremoved)
    · rcases mem_cons.mp hpend with rfl | hpend
      · rw [(h.watch b mem_cons_self).mpr hb] at hno
        cases hno
      · exact .inr (.inr hpend)
  fresh := fun b hb => h.fresh b (mem_cons_of_mem _ hb)
  watch := fun b hb => h.watch b (mem_cons_of_mem _ hb)

lemma Turn.Once.call (h : turn.Once) (hcurrent : Current links turn (a :: pend)) (hwaits :
    waitsFor links gIoIn a = true) : Turn.Once { turn with called := turn.called ++ [a] } := by
  have hfresh := hcurrent.fresh a mem_cons_self
  refine ⟨?_, ?_⟩
  · refine nodup_append.mpr ⟨h.1, nodup_cons.mpr ⟨not_mem_nil, nodup_nil⟩, ?_⟩
    intro b hb c hc heq
    rw [mem_singleton] at hc
    exact hfresh (hc ▸ heq ▸ hb)
  · intro b hb
    rcases mem_append.mp hb with hb | hb
    · exact h.2 b hb
    · rw [mem_singleton.mp hb]
      exact (hcurrent.watch a mem_cons_self).mp hwaits

lemma goOn_eq (hc : walk.c = some a) {l : SLink GAtMuxWatch} (hget : mux.links[a]? = some (some l)) :
    mux.goOn walk =
      if waitsFor mux.links (if mux.closes = [] then gIoIn else gIoNval) a then
        if mux.closes = [] then
          (mux.setTop { walk with calling := true }).seen fun t => { t with called := t.called ++ [a] }
        else mux.setTop { walk with calling := true }
      else mux.setTop { walk with p := some a, c := l.next } := by
  rw [MuxDispatch.goOn]
  split
  next hnone =>
    rw [hc] at hnone
    cases hnone
  next b hb =>
    rw [hc] at hb
    cases hb
    rw [hget, join_some]

lemma goOn_none (hc : walk.c = none) : mux.goOn walk = mux.endWalk := by
  rw [MuxDispatch.goOn]
  split
  next => rfl
  next b hb =>
    rw [hc] at hb
    cases hb

lemma MuxInv.goOn (hinv : MuxInv mux lists) (htop : mux.top = some walk) (hidle : walk.calling = false)
    (hc : walk.c = some a) : MuxInv (mux.goOn walk) lists := by
  obtain ⟨⟨pend, hwalk⟩, hlt⟩ := hinv.fromTop htop
  cases hcloses : mux.closes with
  | nil =>
    have hturn : mux.turn = some walk := by
      rw [MuxDispatch.top, hcloses] at htop
      exact htop
    obtain ⟨pend, t, ts, hturns, hwalk, hcurrent⟩ := hinv.current walk hturn
    obtain ⟨before, rest, rfl, hplace⟩ := hwalk.front hidle hc
    obtain ⟨watch, next, hget, hnext⟩ := hinv.elementAt hlt hplace
    have hnodup := hinv.memory.nodup walk.channel
    rw [hplace] at hnodup
    have hout : a ∉ rest := (nodup_cons.mp (nodup_append.mp hnodup).2.1).1
    have honce : t.Once := by
      have hall := hinv.meets.once
      rw [hturns] at hall
      exact hall t mem_cons_self
    rw [goOn_eq hc hget, if_pos hcloses, if_pos hcloses, MuxDispatch.setTop, MuxDispatch.setTop,
      hcloses]
    dsimp only
    by_cases hwaits : waitsFor mux.links gIoIn a = true
    · rw [if_pos hwaits, MuxDispatch.seen, hturns]
      have hset := hinv.setTurn hcloses hturn hturns { walk with calling := true }
        { t with called := t.called ++ [a] } rfl (hwalk.call hidle hc) rfl (honce.call hcurrent hwaits)
        (hcurrent.call hout)
      rw [hcloses] at hset
      exact hset
    · rw [if_neg hwaits]
      rw [Bool.not_eq_true] at hwaits
      have hset := hinv.setTurn hcloses hturn hturns ⟨walk.channel, some a, next, false⟩ t rfl
        (WalkOk.pass hplace hnext) rfl honce (hcurrent.skip hwaits)
      rw [hcloses, ← hturns, ← hidle] at hset
      exact hset
  | cons v closes =>
    have hv : v = walk := by
      rw [MuxDispatch.top, hcloses] at htop
      exact Option.some.inj htop
    subst hv
    obtain ⟨before, rest, rfl, hplace⟩ := hwalk.front hidle hc
    obtain ⟨watch, next, hget, hnext⟩ := hinv.elementAt hlt hplace
    have hsome : mux.closes ≠ [] := by
      rw [hcloses]
      exact cons_ne_nil _ _
    rw [goOn_eq hc hget, if_neg hsome, if_neg hsome, MuxDispatch.setTop, MuxDispatch.setTop, hcloses]
    dsimp only
    split
    · exact hinv.setClose hcloses { v with calling := true } rfl (hwalk.call hidle hc)
    · have hset := hinv.setClose hcloses ⟨v.channel, some a, next, false⟩ rfl (WalkOk.pass hplace hnext)
      rw [← hidle] at hset
      exact hset

/-! ### A watch returns -/

lemma MuxInv.kept (hinv : MuxInv mux lists) (htop : mux.top = some walk) (hcalling : walk.calling = true)
    (hc : walk.c = some a) : MuxInv (mux.returned walk a true) lists := by
  obtain ⟨⟨pend, hwalk⟩, hlt⟩ := hinv.fromTop htop
  cases hcloses : mux.closes with
  | nil =>
    have hturn : mux.turn = some walk := by
      rw [MuxDispatch.top, hcloses] at htop
      exact htop
    obtain ⟨pend, t, ts, hturns, hwalk, hcurrent⟩ := hinv.current walk hturn
    obtain ⟨before, hplace⟩ := hwalk.under hcalling hc
    obtain ⟨watch, next, hget, hnext⟩ := hinv.elementAt hlt hplace
    have honce : t.Once := by
      have hall := hinv.meets.once
      rw [hturns] at hall
      exact hall t mem_cons_self
    rw [MuxDispatch.returned, hget, join_some]
    dsimp only
    rw [if_pos rfl, MuxDispatch.setTop, hcloses]
    have hset := hinv.setTurn hcloses hturn hturns ⟨walk.channel, some a, next, false⟩ t rfl
      (WalkOk.pass hplace hnext) rfl honce hcurrent
    rw [hcloses, ← hturns] at hset
    exact hset
  | cons v closes =>
    have hv : v = walk := by
      rw [MuxDispatch.top, hcloses] at htop
      exact Option.some.inj htop
    subst hv
    obtain ⟨before, hplace⟩ := hwalk.under hcalling hc
    obtain ⟨watch, next, hget, hnext⟩ := hinv.elementAt hlt hplace
    rw [MuxDispatch.returned, hget, join_some]
    dsimp only
    rw [if_pos rfl, MuxDispatch.setTop, hcloses]
    exact hinv.setClose hcloses ⟨v.channel, some a, next, false⟩ rfl (WalkOk.pass hplace hnext)

lemma MuxInv.unlink (hinv : MuxInv mux lists) (hch : ch < mux.channels.length) (hplace : lists ch =
    before ++ a :: pend) (hstands : StandsAt mux.links (lists ch) a p) (hthere : ∀ q, p = some q →
    mux.links[q]? ≠ some none) : ∃ links' sources', SHeap.unlink mux.links (mux.sources ch) p a =
    .ok (links', sources') ∧ Chain links' sources' (before ++ pend) ∧ Unlinked mux.links links' a
    (lists ch) ∧ ∀ b, pend.head? = some b → StandsAt links' (before ++ pend) b p := by
  have hchain := hinv.memory.sources_eq hch
  have hnodup := hinv.memory.nodup ch
  rw [hplace] at hchain hnodup hstands
  rw [hplace]
  obtain ⟨-, -, hapart⟩ := nodup_append.mp hnodup
  have hout : a ∉ before := fun hmem => hapart a hmem a mem_cons_self rfl
  cases p with
  | none =>
    have hfirst : before = [] := by
      cases before with
      | nil => rfl
      | cons x xs =>
        cases hstands
        exact absurd mem_cons_self hout
    subst hfirst
    obtain ⟨links', sources', hunlink, hrest, hun⟩ := hchain.unlink_head hnodup
    exact ⟨links', sources', hunlink, hrest, hun, fun b hb => hb⟩
  | some q =>
    obtain ⟨u, v, huv⟩ := hstands.resolve_left (hthere q rfl)
    have hsplit : before = u ++ [q] ∧ pend = v := by
      have hsame : (u ++ [q]) ++ a :: v = before ++ a :: pend := by
        rw [← huv, append_assoc, append_assoc]
        rfl
      rw [← hsame] at hnodup
      obtain ⟨-, htail, hapart'⟩ := nodup_append.mp hnodup
      have hout' : a ∉ u ++ [q] := fun hmem => hapart' a hmem a mem_cons_self rfl
      obtain ⟨hbefore, -, hpend⟩ :=
        (append_cons_inj_of_notMem hout' (nodup_cons.mp htail).1).mp hsame
      exact ⟨hbefore.symm, hpend.symm⟩
    obtain ⟨rfl, rfl⟩ := hsplit
    rw [append_assoc] at hchain hnodup
    obtain ⟨links', hunlink, hrest, hun⟩ := hchain.unlink_behind hnodup
    refine ⟨links', _, hunlink, ?_, ?_, ?_⟩
    · rw [append_assoc]
      exact hrest
    · rw [append_assoc]
      exact hun
    · intro b hb
      obtain ⟨tail, rfl⟩ := head?_eq_some_iff.mp hb
      exact .inr ⟨u, tail, by rw [append_assoc, append_assoc]; rfl⟩

lemma Lists.unlink (h : Lists links channels lists) {sources : Option ℕ} (ha : a ∈ lists ch)
    (hchain : Chain links' sources ((lists ch).erase a)) (hun : Unlinked links links' a (lists ch)) :
    Lists links' (channels.modify ch fun c => { c with sources := sources }) (without lists ch a) where
  chain := by
    intro d c' hc'
    obtain ⟨c, hc, rfl⟩ := getElem?_modify_inv hc'
    by_cases hd : ch = d
    · subst hd
      rw [if_pos rfl, without_self]
      exact hchain
    · rw [if_neg hd, without_other (Ne.symm hd)]
      refine (h.chain d c hc).frame fun b hb => hun.outside b fun hmem => hd ?_
      exact h.apart ch d b hmem hb
  nodup := by
    intro d
    by_cases hd : d = ch
    · rw [hd, without_self]
      exact (h.nodup ch).erase a
    · rw [without_other hd]
      exact h.nodup d
  apart := by
    intro d d' b hb hb'
    have hsub (e : ℕ) (hb : b ∈ without lists ch a e) : b ∈ lists e := by
      by_cases he : e = ch
      · rw [he, without_self] at hb
        exact he ▸ mem_of_mem_erase hb
      · rwa [without_other he] at hb
    exact h.apart d d' b (hsub d hb) (hsub d' hb')
  live := by
    intro d b hb
    have hboth : b ∈ lists d ∧ b ≠ a := by
      by_cases hd : d = ch
      · rw [hd, without_self, (h.nodup ch).mem_erase_iff] at hb
        exact ⟨hd ▸ hb.2, hb.1⟩
      · rw [without_other hd] at hb
        exact ⟨hb, fun heq => hd (h.apart d ch b hb (heq ▸ ha))⟩
    obtain ⟨watch, next, hget⟩ := h.live d b hboth.1
    obtain ⟨next', hget'⟩ := hun.other b _ hboth.2 hget
    exact ⟨watch, next', hget'⟩

lemma Waiting.modify (h : Waiting mux) (f : DlcChannel → DlcChannel) (hf : ∀ c, (f c).dlc = c.dlc)
    (closes : List Walk) (hcloses : ∀ w ∈ closes, ∃ v ∈ mux.closes, w.channel = v.channel)
    (links : SHeap GAtMuxWatch) (ch : ℕ) (turn : Option Walk) (turns : List Turn) :
    Waiting { mux with
      links := links, channels := mux.channels.modify ch f, closes := closes, turn := turn,
      turns := turns } := by
  have hdlc {d : ℕ} {c' : DlcChannel} (hc' : (mux.channels.modify ch f)[d]? = some c') :
      ∃ c, mux.channels[d]? = some c ∧ c'.dlc = c.dlc := by
    obtain ⟨c, hc, rfl⟩ := getElem?_modify_inv hc'
    refine ⟨c, hc, ?_⟩
    split
    · exact hf c
    · rfl
  refine ⟨?_, h.index, ?_, ?_⟩
  · intro c' hc'
    obtain ⟨d, hd⟩ := getElem?_of_mem hc'
    obtain ⟨c, hc, heq⟩ := hdlc hd
    rw [heq]
    exact h.numbers c (mem_of_getElem? hc)
  · dsimp only
    rw [length_modify]
    exact h.isOpen
  · intro w hw c' hc'
    obtain ⟨c, hc, heq⟩ := hdlc hc'
    obtain ⟨v, hv, hch⟩ := hcloses w hw
    rw [heq]
    exact h.closing v hv c (hch ▸ hc)

lemma MuxInv.topTurn (hinv : MuxInv mux lists) (htop : mux.top = some walk) :
    ∃ pend, WalkOk mux.links lists walk pend ∧
      (mux.closes = [] → ∃ t ts, mux.turns = t :: ts ∧ Current mux.links t pend) := by
  cases hcloses : mux.closes with
  | nil =>
    have hturn : mux.turn = some walk := by
      rw [MuxDispatch.top, hcloses] at htop
      exact htop
    obtain ⟨pend, t, ts, hturns, hwalk, hcurrent⟩ := hinv.current walk hturn
    exact ⟨pend, hwalk, fun _ => ⟨t, ts, hturns, hcurrent⟩⟩
  | cons v closes =>
    obtain ⟨⟨pend, hwalk⟩, -⟩ := hinv.fromTop htop
    exact ⟨pend, hwalk, fun h => by cases h⟩

/-- A watch that returns `FALSE`: its element goes, and the walks go on. -/
lemma MuxInv.removed (hinv : MuxInv mux lists) (htop : mux.top = some walk) (hcalling : walk.calling = true)
    (hc : walk.c = some a) (hok : MoveOk mux (.ret false)) :
    MuxInv (mux.returned walk a false) (without lists walk.channel a) := by
  have hlt := (hinv.fromTop htop).2
  obtain ⟨pend, hwalk, htopTurn⟩ := hinv.topTurn htop
  obtain ⟨hothers, hthere⟩ := hok walk htop
  obtain ⟨before, hplace⟩ := hwalk.under hcalling hc
  obtain ⟨watch, next, hget, hnext⟩ := hinv.elementAt hlt hplace
  obtain ⟨links', sources', hunlink, hrest, hun, hstands⟩ :=
    hinv.unlink hlt hplace (hwalk.stands a hc) hthere
  have hmem := hwalk.mem hc
  have hnodup := hinv.memory.nodup walk.channel
  rw [hplace] at hnodup
  obtain ⟨-, htail, hapart⟩ := nodup_append.mp hnodup
  have hbehind : a ∉ pend := (nodup_cons.mp htail).1
  have herase : (lists walk.channel).erase a = before ++ pend := by
    have hout : a ∉ before := fun hin => hapart a hin a mem_cons_self rfl
    rw [hplace, erase_append_right _ hout, erase_cons_head]
  have hmemory := hinv.memory.unlink hmem (herase ▸ hrest) hun
  -- the walk that goes on, and the others
  have hwalk' : WalkOk links' (without lists walk.channel a) ⟨walk.channel, walk.p, next, false⟩ pend := by
    refine ⟨⟨before, ?_⟩, fun _ => hnext, ?_, ?_⟩
    · rw [without_self, herase, if_neg Bool.false_ne_true, append_nil]
    · intro b hb
      change next = some b at hb
      rw [without_self, herase]
      exact hstands b (hnext ▸ hb)
    · intro hfalse
      cases hfalse
  have hother {w : Walk} (hw : w ∈ mux.walks.tail) {rest : List ℕ} (h : WalkOk mux.links lists w rest) :
      WalkOk links' (without lists walk.channel a) w (rest.erase a) := by
    have hne : w.c ≠ walk.c := hothers w hw
    refine h.unlinked (hinv.memory.nodup _) ?_ (hinv.walking.waits w hw) (hc ▸ hne) hun
    exact fun hch hin => hch (hinv.memory.apart _ _ a hin hmem)
  have hlive {w : Walk} {rest : List ℕ} (h : WalkOk mux.links lists w rest) :
      rest.Nodup ∧ ∀ b ∈ rest, ∃ watch next, mux.links[b]? = some (some ⟨some watch, next⟩) := by
    obtain ⟨front, hfront⟩ := h.place
    have hw := hinv.memory.nodup w.channel
    rw [hfront] at hw
    refine ⟨(nodup_append.mp hw).2.1, fun b hb => hinv.memory.live w.channel b ?_⟩
    rw [hfront]
    exact mem_append_right _ hb
  have hmeets := hinv.meets
  have honce {t : Turn} {ts : List Turn} (hturns : mux.turns = t :: ts) :
      ∀ turn ∈ { t with removed := t.removed ++ [a] } :: ts, turn.Once := by
    have hall := hmeets.once
    rw [hturns, forall_mem_cons] at hall
    exact forall_mem_cons.mpr ⟨hall.1, hall.2⟩
  have horder {t : Turn} {ts : List Turn} (hturns : mux.turns = t :: ts) :
      (({ t with removed := t.removed ++ [a] } :: ts).map Turn.dlc).reverse =
        (List.range' 1 (mux.index - 1)).filter fun i => mux.newdata.test i := by
    have hold := hmeets.order
    rw [hturns] at hold
    exact hold
  rw [MuxDispatch.returned, hget, join_some]
  dsimp only
  rw [if_neg Bool.false_ne_true, hunlink]
  dsimp only
  rw [MuxDispatch.setTop, MuxDispatch.seen]
  cases hcloses : mux.closes with
  | nil =>
    have hturn : mux.turn = some walk := by
      rw [MuxDispatch.top, hcloses] at htop
      exact htop
    obtain ⟨t, ts, hturns, hcurrent⟩ := htopTurn hcloses
    have hcurrent' := hcurrent.unlinked hun (hlive hwalk).1 (hlive hwalk).2
    rw [erase_of_not_mem hbehind] at hcurrent'
    have hdone := hmeets.done
    rw [hturn, hturns] at hdone
    dsimp only
    rw [hturns]
    refine ⟨⟨hmeets.safe, horder hturns, honce hturns, hdone⟩, hmemory,
      hinv.waiting.modify (fun c => { c with sources := sources' }) (fun _ => rfl) [] ?_ _ _ _ _,
      ⟨?_, ?_, ?_⟩, ?_⟩
    · intro w hw
      cases hw
    · refine forall_mem_singleton.mpr ⟨⟨pend, hwalk'⟩, ?_⟩
      exact (length_modify _ _ _).symm ▸ hlt
    · intro w hw
      cases hw
    · exact fun _ => rfl
    · intro w hw
      cases hw
      exact ⟨pend, _, ts, rfl, hwalk', hcurrent'⟩
  | cons v closes =>
    have hv : v = walk := by
      rw [MuxDispatch.top, hcloses] at htop
      exact Option.some.inj htop
    subst hv
    have hwalks : mux.walks = v :: (closes ++ mux.turn.toList) := by
      rw [MuxDispatch.walks, hcloses]
      rfl
    obtain ⟨w₀, hturn⟩ : ∃ w₀, mux.turn = some w₀ := by
      refine ne_none_iff_exists'.mp fun hnone => ?_
      have hempty := hinv.walking.inside hnone
      rw [hcloses] at hempty
      cases hempty
    obtain ⟨rest, t, ts, hturns, hwalk₀, hcurrent⟩ := hinv.current w₀ hturn
    have hin : w₀ ∈ mux.walks.tail := by
      rw [hwalks, hturn]
      exact mem_append_right _ mem_cons_self
    have hcurrent' := hcurrent.unlinked hun (hlive hwalk₀).1 (hlive hwalk₀).2
    have hdone := hmeets.done
    have hokay := hinv.walking.ok
    have hwaits := hinv.walking.waits
    rw [hturn, hturns] at hdone
    rw [hwalks] at hokay hother hwaits
    dsimp only
    rw [hturns]
    refine ⟨⟨hmeets.safe, horder hturns, honce hturns, ?_⟩, hmemory,
      hinv.waiting.modify (fun c => { c with sources := sources' }) (fun _ => rfl)
        (⟨v.channel, v.p, next, false⟩ :: closes) ?_ _ _ _ _, ⟨?_, hwaits, ?_⟩, ?_⟩
    · dsimp only
      rw [hturn]
      exact hdone
    · intro w hw
      rw [hcloses]
      rcases mem_cons.mp hw with rfl | hw
      · exact ⟨v, mem_cons_self, rfl⟩
      · exact ⟨w, mem_cons_of_mem _ hw, rfl⟩
    · intro w hw
      dsimp only
      rw [length_modify]
      rcases mem_cons.mp hw with rfl | hw
      · exact ⟨⟨pend, hwalk'⟩, hlt⟩
      · obtain ⟨⟨rest', hrest'⟩, hwlt⟩ := hokay w (mem_cons_of_mem _ hw)
        exact ⟨⟨_, hother hw hrest'⟩, hwlt⟩
    · intro hnone
      have hold : mux.turn = none := hnone
      rw [hturn] at hold
      cases hold
    · intro w hw
      have hold : mux.turn = some w := hw
      rw [hturn] at hold
      cases hold
      exact ⟨rest.erase a, _, ts, rfl, hother (hwalks ▸ hin) hwalk₀, hcurrent'⟩

/-! ## The loop over the channels -/

lemma range'_filter_succ (f : ℕ → Bool) {n : ℕ} (hn : 1 ≤ n) :
    (List.range' 1 n).filter f = (List.range' 1 (n - 1)).filter f ++ if f n then [n] else [] := by
  obtain ⟨m, rfl⟩ := Nat.exists_eq_add_of_le' hn
  rw [Nat.add_sub_cancel, range'_concat, filter_append, Nat.one_mul, Nat.add_comm 1 m]
  refine congrArg _ ?_
  rw [filter_cons]
  rfl

lemma MuxInv.nextChannel (hinv : MuxInv mux lists) (htop : mux.top = none)
    (hnext : mux.nextChannel = some mux') : MuxInv mux' lists := by
  have hmeets := hinv.meets
  have hnone : mux.turn = none := by
    cases hturn : mux.turn with
    | none => rfl
    | some w =>
      rw [MuxDispatch.top, hturn] at htop
      cases hcloses : mux.closes with
      | nil =>
        rw [hcloses] at htop
        cases htop
      | cons =>
        rw [hcloses] at htop
        cases htop
  have hcloses := hinv.walking.inside hnone
  have hdone := hmeets.done
  rw [if_pos hnone] at hdone
  rw [MuxDispatch.nextChannel] at hnext
  by_cases hend : mux.index > maxChannels
  · rw [if_pos hend] at hnext
    cases hnext
  · rw [if_neg hend] at hnext
    have hrange := range'_filter_succ (fun i => mux.newdata.test i) hinv.waiting.index
    by_cases htest : mux.newdata.test mux.index = false
    · rw [if_pos htest] at hnext
      cases hnext
      refine ⟨⟨hmeets.safe, ?_, hmeets.once, hmeets.done⟩, hinv.memory,
        ⟨hinv.waiting.numbers, Nat.le_succ_of_le hinv.waiting.index, ?_, ?_⟩,
        ⟨hinv.walking.ok, hinv.walking.waits, hinv.walking.inside⟩, hinv.current⟩
      · rw [htest, if_neg Bool.false_ne_true, append_nil] at hrange
        exact hmeets.order.trans hrange.symm
      · exact fun i hi => hinv.waiting.isOpen i (Nat.le_of_succ_le hi)
      · intro w hw
        change w ∈ mux.closes at hw
        rw [hcloses] at hw
        cases hw
    · rw [if_neg htest] at hnext
      rw [Bool.not_eq_false] at htest
      obtain ⟨ch, hch, hlt⟩ := hinv.waiting.isOpen mux.index (Nat.le_refl _) htest
      rw [hch] at hnext
      cases hnext
      have hchain := hinv.memory.sources_eq hlt
      have helements := hchain.elements_eq (hchain.length_le (hinv.memory.nodup ch))
      have hstart := WalkOk.start hchain
      have hwalks : ∀ turns : List Turn, MuxDispatch.walks { mux with
          index := mux.index + 1, turn := some ⟨ch, none, mux.sources ch, false⟩, turns := turns } =
            [⟨ch, none, mux.sources ch, false⟩] := by
        intro turns
        rw [MuxDispatch.walks]
        dsimp only
        rw [hcloses]
        rfl
      refine ⟨⟨hmeets.safe, ?_, ?_, hdone⟩, hinv.memory,
        ⟨hinv.waiting.numbers, Nat.le_succ_of_le hinv.waiting.index, ?_, ?_⟩, ⟨?_, ?_, ?_⟩, ?_⟩
      · rw [htest, if_pos rfl] at hrange
        rw [map_cons, reverse_cons, hmeets.order]
        exact hrange.symm
      · refine forall_mem_cons.mpr ⟨⟨nodup_nil, ?_⟩, hmeets.once⟩
        intro a ha
        cases ha
      · exact fun i hi => hinv.waiting.isOpen i (Nat.le_of_succ_le hi)
      · intro w hw
        change w ∈ mux.closes at hw
        rw [hcloses] at hw
        cases hw
      · rw [hwalks]
        exact forall_mem_singleton.mpr ⟨⟨_, hstart⟩, hlt⟩
      · rw [hwalks]
        intro w hw
        cases hw
      · exact fun _ => hcloses
      · intro w hw
        cases hw
        refine ⟨lists ch, _, mux.turns, rfl, hstart, ?_, ?_, ?_⟩
        · intro a ha
          exact .inr (.inr (helements ▸ (mem_filter.mp ha).1))
        · intro a _ ha
          cases ha
        · intro a ha
          rw [helements, mem_filter]
          exact ⟨fun h => ⟨ha, h⟩, fun h => h.2⟩

/-- The step: whatever comes next keeps the invariant, if it meets the condition. -/
lemma MuxInv.step (hinv : MuxInv mux lists) {move : Move} (hok : MoveOk mux move)
    (hstep : mux.step move = some mux') : ∃ lists', MuxInv mux' lists' := by
  rw [MuxDispatch.step, if_neg (by rw [hinv.meets.safe]; exact Bool.false_ne_true)] at hstep
  cases htop : mux.top with
  | none =>
    rw [htop] at hstep
    dsimp only at hstep
    split at hstep
    · exact ⟨lists, hinv.nextChannel htop hstep⟩
    · cases hstep
  | some walk =>
    rw [htop] at hstep
    dsimp only at hstep
    cases hcalling : walk.calling with
    | false =>
      rw [hcalling] at hstep
      cases move with
      | go =>
        cases hstep
        cases hc : walk.c with
        | none =>
          rw [goOn_none hc]
          exact ⟨lists, hinv.endWalk htop hc⟩
        | some a => exact ⟨lists, hinv.goOn htop hcalling hc⟩
      | read => cases hstep
      | close => cases hstep
      | ret => cases hstep
    | true =>
      obtain ⟨⟨pend, hwalk⟩, -⟩ := hinv.fromTop htop
      obtain ⟨a, hc⟩ := ne_none_iff_exists'.mp (hwalk.there hcalling)
      rw [hcalling, hc] at hstep
      cases move with
      | go => cases hstep
      | read channel count =>
        cases hstep
        exact ⟨lists, hinv.read channel count⟩
      | close channel =>
        dsimp only at hstep
        split at hstep
        next hlt =>
          cases hstep
          exact ⟨lists, hinv.close htop hcalling hlt hok⟩
        next => cases hstep
      | ret keep =>
        cases hstep
        cases keep with
        | true => exact ⟨lists, hinv.kept htop hcalling hc⟩
        | false => exact ⟨_, hinv.removed htop hcalling hc hok⟩

/-! ## What is delivered -/

/-- While the driver delivers: an open channel is marked. -/
structure Fed (mux : MuxDispatch) (lists : ℕ → List ℕ) : Prop where
  memory : Lists mux.links mux.channels lists
  numbers : ∀ channel ∈ mux.channels, 1 ≤ channel.dlc
  slots : ∀ i ch : ℕ, mux.dlcs[i]? = some (some ch) → ch < mux.channels.length
  marked : ∀ i, mux.newdata.test i = true → ∃ ch, mux.dlcs.getD (i - 1) none = some ch
  idle : mux.index = 1 ∧ mux.turn = none ∧ mux.closes = [] ∧ mux.turns = [] ∧ mux.faulted = false

lemma Fed.feedDlcData (h : Fed mux lists) (fed : ℕ × List UInt8) : Fed (mux.feedDlcData fed) lists := by
  rw [MuxDispatch.feedDlcData]
  by_cases hrange : fed.1 < 1 ∨ fed.1 > maxChannels
  · rw [if_pos hrange]
    exact h
  · rw [if_neg hrange]
    rw [maxChannels] at hrange
    cases hslot : mux.dlcs.getD (fed.1 - 1) none with
    | none => exact h
    | some ch =>
      have hget {d : ℕ} {c' : DlcChannel}
          (hc' : (mux.channels.modify ch fun c =>
            { c with
              buffer := c.buffer ++ fed.2.take (muxChannelBufferSize - c.buffer.length)
              condition := c.condition ||| gIoIn })[d]? = some c') :
          ∃ c, mux.channels[d]? = some c ∧ c'.sources = c.sources ∧ c'.dlc = c.dlc := by
        obtain ⟨c, hc, rfl⟩ := getElem?_modify_inv hc'
        refine ⟨c, hc, ?_⟩
        split
        · exact ⟨rfl, rfl⟩
        · exact ⟨rfl, rfl⟩
      dsimp only
      refine ⟨⟨?_, h.memory.nodup, h.memory.apart, h.memory.live⟩, ?_, ?_, ?_, h.idle⟩
      · intro d c' hc'
        obtain ⟨c, hc, hsources, -⟩ := hget hc'
        rw [hsources]
        exact h.memory.chain d c hc
      · intro c' hc'
        obtain ⟨d, hd⟩ := getElem?_of_mem hc'
        obtain ⟨c, hc, -, hdlc⟩ := hget hd
        rw [hdlc]
        exact h.numbers c (mem_of_getElem? hc)
      · dsimp only
        rw [length_modify]
        exact h.slots
      · intro i hi
        rw [Bitmap.test_mark _ (by omega), Bool.or_eq_true_iff] at hi
        rcases hi with heq | hold
        · rw [of_decide_eq_true heq]
          exact ⟨ch, hslot⟩
        · exact h.marked i hold

lemma Fed.foldl (h : Fed mux lists) (fed : List (ℕ × List UInt8)) :
    Fed (fed.foldl MuxDispatch.feedDlcData mux) lists := by
  induction fed generalizing mux with
  | nil => exact h
  | cons f fed ih => exact ih (h.feedDlcData f)

/-- A channel for each watch, with its number, and all of them open. -/
def MuxDispatch.opened (watches : List GAtMuxWatch) : MuxDispatch where
  links := watches.map fun watch => some ⟨some watch, none⟩
  channels := (List.range watches.length).map fun ch => ⟨0, [], some ch, ch + 1⟩
  dlcs := (List.range watches.length).map some
  newdata := Bitmap.empty
  index := 1
  turn := none
  closes := []
  turns := []
  faulted := false

end Phonelets.Gatchat
