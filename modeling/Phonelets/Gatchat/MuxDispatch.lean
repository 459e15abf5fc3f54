import Phonelets.Gatchat.Gsm0710Packet
import Phonelets.Lib.Bitmap
import Phonelets.Lib.Machine
import Phonelets.Lib.SList

/-! # Dispatching what a multiplexer has received

`received_data` of `gatmux.c` calls the watches of each channel that got data, and a watch may close
channels, its own among them, while the list it stands in is being walked. A call of a watch is a state of
its own here, in which whoever it belongs to moves: it reads, closes a channel or returns.
-/

namespace Phonelets.Gatchat

def gIoNval : UInt32 := 32

structure GAtMuxWatch where
  condition : UInt32

/-- `struct _GAtMuxChannel`: the octets in its buffer, and the first element of its sources. -/
structure DlcChannel where
  condition : UInt32
  buffer : List UInt8
  sources : Option ℕ
  dlc : ℕ

/-- `dispatch_sources`: `p` and `c` in the list of the channel; `calling` says that the watch of `c` has
been called and has not returned. -/
structure Walk where
  channel : ℕ
  p : Option ℕ
  c : Option ℕ
  calling : Bool

/-- What has been seen of a channel whose turn has come: the watches for `G_IO_IN` it had then, and of them
those that have been called for `G_IO_IN`, and all elements that have been taken out of a list since. -/
structure Turn where
  dlc : ℕ
  channel : ℕ
  watches : List ℕ
  called : List ℕ
  removed : List ℕ

/-- The channels of a multiplexer with the elements of their lists; `dlcs` are the open ones. In
`received_data` channel `index` is the next to look at, `turn` is the call of `dispatch_sources` for the one
before, and `closes` are the calls of `channel_close` inside of it, the last one first, each with its call of
`dispatch_sources`. -/
structure MuxDispatch where
  links : SHeap GAtMuxWatch
  channels : List DlcChannel
  dlcs : List (Option ℕ)
  newdata : Bitmap 8 8
  index : ℕ
  turn : Option Walk
  closes : List Walk
  turns : List Turn
  faulted : Bool

namespace MuxDispatch

/-! ## What is delivered -/

/-- `g_at_mux_feed_dlc_data`; the buffer takes what it has room for. -/
def feedDlcData (mux : MuxDispatch) (fed : ℕ × List UInt8) : MuxDispatch :=
  if fed.1 < 1 ∨ fed.1 > maxChannels then mux
  else
    match mux.dlcs.getD (fed.1 - 1) none with
    | none => mux
    | some channel =>
      { mux with
        channels := mux.channels.modify channel fun c =>
          { c with
            buffer := c.buffer ++ fed.2.take (muxChannelBufferSize - c.buffer.length)
            condition := c.condition ||| gIoIn }
        newdata := mux.newdata.mark fed.1 }

def sources (mux : MuxDispatch) (channel : ℕ) : Option ℕ := mux.channels[channel]?.bind DlcChannel.sources

/-- The call of `dispatch_sources` that is running. -/
def top (mux : MuxDispatch) : Option Walk := mux.closes.head?.or mux.turn

def setTop (mux : MuxDispatch) (walk : Walk) : MuxDispatch :=
  match mux.closes with
  | [] => { mux with turn := some walk }
  | _ :: closes => { mux with closes := walk :: closes }

def fault (mux : MuxDispatch) : MuxDispatch := { mux with faulted := true }

def seen (mux : MuxDispatch) (f : Turn → Turn) : MuxDispatch :=
  match mux.turns with
  | [] => mux
  | turn :: turns => { mux with turns := f turn :: turns }

/-- The element has a watch for the condition. -/
def waitsFor (links : SHeap GAtMuxWatch) (condition : UInt32) (a : ℕ) : Bool :=
  match links[a]?.join.bind SLink.data with
  | none => false
  | some watch => condition &&& watch.condition ≠ 0

/-- The loop over the channels in `received_data`, which does not look whether the channel is still
there. -/
def nextChannel (mux : MuxDispatch) : Option MuxDispatch :=
  if mux.index > maxChannels then none
  else if mux.newdata.test mux.index = false then some { mux with index := mux.index + 1 }
  else
    match mux.dlcs.getD (mux.index - 1) none with
    | none => some mux.fault
    | some channel =>
      let watches := (SHeap.elements mux.links.length mux.links (mux.sources channel)).filter
        (waitsFor mux.links gIoIn)
      some { mux with
        index := mux.index + 1
        turn := some ⟨channel, none, mux.sources channel, false⟩
        turns := ⟨mux.index, channel, watches, [], []⟩ :: mux.turns }

/-- The end of `dispatch_sources`, and of `channel_close` if it has been called there. -/
def endWalk (mux : MuxDispatch) : MuxDispatch :=
  match mux.closes with
  | [] => { mux with turn := none }
  | walk :: closes =>
    match mux.channels[walk.channel]? with
    | none => mux.fault
    | some channel => { mux with dlcs := mux.dlcs.set (channel.dlc - 1) none, closes := closes }

/-- The loop of `dispatch_sources` up to the call of a watch. -/
def goOn (mux : MuxDispatch) (walk : Walk) : MuxDispatch :=
  match walk.c with
  | none => mux.endWalk
  | some a =>
    match mux.links[a]?.join with
    | none => mux.fault
    | some l =>
      if waitsFor mux.links (if mux.closes = [] then gIoIn else gIoNval) a then
        let called := mux.setTop { walk with calling := true }
        if mux.closes = [] then called.seen fun t => { t with called := t.called ++ [a] } else called
      else mux.setTop { walk with p := some a, c := l.next }

/-- The loop from the return of a watch on: one that returns `FALSE` is destroyed and taken out. -/
def returned (mux : MuxDispatch) (walk : Walk) (a : ℕ) (keep : Bool) : MuxDispatch :=
  match mux.links[a]?.join with
  | none => mux.fault
  | some l =>
    if keep then mux.setTop { walk with p := some a, c := l.next, calling := false }
    else
      match SHeap.unlink mux.links (mux.sources walk.channel) walk.p a with
      | .ok (links, sources) =>
        let freed := { mux with
          links := links
          channels := mux.channels.modify walk.channel fun c => { c with sources := sources } }
        (freed.setTop { walk with c := l.next, calling := false }).seen fun t =>
          { t with removed := t.removed ++ [a] }
      | _ => mux.fault

/-- `channel_close`, up to its `dispatch_sources`. -/
def channelClose (mux : MuxDispatch) (channel : ℕ) : MuxDispatch :=
  { mux with closes := ⟨channel, none, mux.sources channel, false⟩ :: mux.closes }

/-- `channel_read`; the octets up to the end of the ring are `count` at most. -/
def channelRead (mux : MuxDispatch) (channel count : ℕ) : MuxDispatch :=
  { mux with channels := mux.channels.modify channel fun c => { c with buffer := c.buffer.drop count } }

/-- What may come next: the code goes on, or the watch that has been called does something. -/
inductive Move
  | go
  | read (channel count : ℕ)
  | close (channel : ℕ)
  | ret (keep : Bool)
deriving DecidableEq

def step (mux : MuxDispatch) (move : Move) : Option MuxDispatch :=
  if mux.faulted then none
  else
    match mux.top with
    | none => if move = .go then mux.nextChannel else none
    | some walk =>
      match walk.calling, walk.c, move with
      | false, _, .go => some (mux.goOn walk)
      | true, some _, .read channel count => some (mux.channelRead channel count)
      | true, some _, .close channel =>
        if channel < mux.channels.length then some (mux.channelClose channel) else none
      | true, some a, .ret keep => some (mux.returned walk a keep)
      | _, _, _ => none

end MuxDispatch

/-! ## What is asked of a walk -/

/-- A turn that is over: each watch for `G_IO_IN` the channel had has been called once, unless it has been
taken out before. -/
def Turn.Done (turn : Turn) : Prop := ∀ a ∈ turn.watches, a ∈ turn.called ∨ a ∈ turn.removed

/-- None is called twice, and no other is called. -/
def Turn.Once (turn : Turn) : Prop := turn.called.Nodup ∧ ∀ a ∈ turn.called, a ∈ turn.watches

/-- What has to hold in every state: no closed channel has been dispatched and nothing that has been freed
has been used, each channel before `index` that got data has had its turn, in their order, and its watches
have been called once. -/
structure DispatchMeets (mux : MuxDispatch) : Prop where
  safe : mux.faulted = false
  order : (mux.turns.map Turn.dlc).reverse =
    (List.range' 1 (mux.index - 1)).filter fun i => mux.newdata.test i
  once : ∀ turn ∈ mux.turns, turn.Once
  done : ∀ turn ∈ (if mux.turn = none then mux.turns else mux.turns.tail), turn.Done

/-- The condition on what a watch does: it does not close a channel that got data and waits for its turn, and
when one returns `FALSE`, no other walk stands on its element, and the element before it is still there. -/
def MoveOk (mux : MuxDispatch) : MuxDispatch.Move → Prop
  | .close channel => ∀ c, mux.channels[channel]? = some c →
      ¬ (mux.index ≤ c.dlc ∧ mux.newdata.test c.dlc = true)
  | .ret false => ∀ walk, mux.top = some walk →
      (∀ other ∈ (mux.closes ++ mux.turn.toList).tail, other.c ≠ walk.c) ∧
        ∀ q, walk.p = some q → mux.links[q]? ≠ some none
  | _ => True

/-- The lists of the channels: each is one, with watches that are there, and they have nothing in common. -/
structure Lists (links : SHeap GAtMuxWatch) (channels : List DlcChannel) (lists : ℕ → List ℕ) : Prop where
  chain : ∀ ch channel, channels[ch]? = some channel → SHeap.Chain links channel.sources (lists ch)
  nodup : ∀ ch, (lists ch).Nodup
  apart : ∀ ch ch' a, a ∈ lists ch → a ∈ lists ch' → ch = ch'
  live : ∀ ch, ∀ a ∈ lists ch, ∃ watch next, links[a]? = some (some ⟨some watch, next⟩)

/-- A multiplexer: its lists are in order, and an open channel has its number. -/
structure MuxDispatch.Valid (mux : MuxDispatch) : Prop where
  lists : ∃ lists, Lists mux.links mux.channels lists
  numbers : ∀ channel ∈ mux.channels, 1 ≤ channel.dlc
  isOpen : ∀ i ch : ℕ, mux.dlcs[i]? = some (some ch) → ch < mux.channels.length

end Phonelets.Gatchat
