import Phonelets.Rsap.Server

/-! # Message boundaries in `Server.process`

`process` is fed the chunks that a serial line happens to deliver. Its buffer is
a reassembly buffer over `isMessageComplete`, which is exact on messages, so
the messages it hands to `handle` are those of the stream exactly when each of
them ends at the end of a chunk.
-/

namespace Phonelets.Rsap

/-- The message that `accept` found complete, if any. -/
def acceptedMessage : EStateM.Result PyErr Server (Option (List ℕ)) → Option (List ℕ)
  | .ok message _ => message
  | .error _ _ => none

/-- The messages that `process` of `simserver.py` takes as complete and handles
while it is called with the chunks in turn. -/
def handledMessages (card : Card) (s : Server) : List (List ℕ) → List (List ℕ)
  | [] => []
  | c :: cs =>
    (acceptedMessage ((accept c).run s)).toList ++
      handledMessages card (after ((Simserver.process card c).run s)) cs

lemma simserver_handle_keeps_buffer (card : Card) (message : List ℕ) :
    Keeps Server.buffer (Simserver.handle card message) := by
  refine Keeps.bind (Keeps.call _ _) fun _ => Keeps.get fun _ =>
    Keeps.bind (Keeps.call _ _) fun _ => Keeps.bind (Keeps.call _ _) fun mID => ?_
  dsimp only
  split
  · refine Keeps.bind (Keeps.modify ?_) fun _ => handleStep_keeps_buffer _ _ _
    intro s
    rfl
  · exact handleStep_keeps_buffer _ _ _

/-- On octets a call of `process` does to the buffer what `feed` does. -/
lemma simserver_process_buffer (card : Card) {c : List ℕ} (h : ∀ b ∈ c, b < 256) (s : Server) :
    (after ((Simserver.process card c).run s)).buffer =
      (Reassembly.feed isMessageComplete s.buffer c).2 := by
  simp only [Simserver.process, EStateM.run_bind, accept_run h]
  cases (Reassembly.feed isMessageComplete s.buffer c).1 with
  | none => rfl
  | some message => exact simserver_handle_keeps_buffer card message _

/-- A run of `process` refines the reassembly of the chunks. -/
lemma handledMessages_eq_feedAll (card : Card) (chunks : List (List ℕ)) : ∀ s :
    Server, (∀ c ∈ chunks, ∀ b ∈ c, b < 256) → handledMessages card s chunks = (Reassembly.feedAll
    isMessageComplete s.buffer chunks).1 ∧ (Machine.run (stepOf (Simserver.process card)) s
    chunks).2.buffer = (Reassembly.feedAll isMessageComplete s.buffer chunks).2 := by
  induction chunks with
  | nil =>
    intro s _
    exact ⟨rfl, rfl⟩
  | cons c cs ih =>
    intro s hoct
    have hc := hoct c (by simp)
    have hbuf := simserver_process_buffer card hc s
    rcases ih (after ((Simserver.process card c).run s)) fun d hd => hoct d (by simp [hd])
      with ⟨hmsgs, hend⟩
    rw [hbuf] at hmsgs hend
    constructor
    · simp only [handledMessages, Reassembly.feedAll, hmsgs, accept_run hc, acceptedMessage]
    · exact hend

/-- Cut a stream of messages into chunks in any way: `process` handles exactly
the messages, each with its own octets, and ends with an empty buffer if and only
if every message ends where some chunk ends. -/
theorem process_handles_messages_iff (card : Card) (ms : List Message) (hoct : ∀ m ∈ ms, ∀ b ∈
    m.encode, b < 256) (chunks : List (List ℕ)) (hcut : chunks.flatten = (ms.map
    Message.encode).flatten) (s : Server) (hs : s.buffer = []) : (handledMessages card s chunks =
    ms.map Message.encode ∧ (Machine.run (stepOf (Simserver.process card)) s chunks).2.buffer = [])
    ↔ ∀ i, ∃ j, (chunks.take j).flatten = ((ms.map Message.encode).take i).flatten := by
  have hchunks : ∀ c ∈ chunks, ∀ b ∈ c, b < 256 := by
    intro c hc b hb
    have hmem : b ∈ chunks.flatten := List.mem_flatten.mpr ⟨c, hc, hb⟩
    rw [hcut] at hmem
    rcases List.mem_flatten.mp hmem with ⟨l, hl, hbl⟩
    rcases List.mem_map.mp hl with ⟨m, hm, rfl⟩
    exact hoct m hm b hbl
  rcases handledMessages_eq_feedAll card chunks s hchunks with ⟨hmsgs, hend⟩
  have hexact : ∀ l ∈ ms.map Message.encode, Reassembly.Exact isMessageComplete l := by
    intro l hl
    rcases List.mem_map.mp hl with ⟨m, -, rfl⟩
    exact exact_encode m
  have hiff := Reassembly.feedAll_eq_iff isMessageComplete isMessageComplete_nil hexact hcut
  rw [hmsgs, hend, hs, ← Prod.mk.injEq]
  exact hiff

/-- A stream of one `TRANSFER_ATR_REQ` delivered octet by octet. -/
theorem process_handles_messages_bytewise : handledMessages ⟨[], fun _ => ⟨[], 0x90, 0⟩⟩ Server.init
    [[7], [0], [0], [0]] = [[7, 0, 0, 0]] ∧ (Machine.run (stepOf (Simserver.process
    ⟨[], fun _ => ⟨[], 0x90, 0⟩⟩)) Server.init [[7], [0], [0], [0]]).2.buffer = [] := by
  refine (process_handles_messages_iff ⟨[], fun _ => ⟨[], 0x90, 0⟩⟩ [⟨7, 0, 0, []⟩] ?_
    [[7], [0], [0], [0]] rfl Server.init rfl).mpr ?_
  · intro m hm b hb
    rw [List.mem_singleton.mp hm] at hb
    revert b
    decide
  · intro i
    cases i with
    | zero => exact ⟨0, rfl⟩
    | succ i =>
      refine ⟨4, ?_⟩
      rw [List.take_of_length_le (l := List.map _ _) (by simp)]
      rfl

/-- Two `TRANSFER_ATR_REQ` in one chunk are handled as one message of eight octets. -/
theorem process_joins_messages : ¬ ∀ (card : Card) (ms : List Message), (∀ m ∈ ms, ∀ b ∈ m.encode,
    b < 256) → ∀ chunks : List (List ℕ), chunks.flatten = (ms.map Message.encode).flatten →
    handledMessages card Server.init chunks = ms.map Message.encode ∧
    (Machine.run (stepOf (Simserver.process card)) Server.init chunks).2.buffer = [] := by
  intro h
  have hoct : ∀ m ∈ [(⟨7, 0, 0, []⟩ : Message), ⟨7, 0, 0, []⟩], ∀ b ∈ m.encode, b < 256 := by
    intro m hm b hb
    simp only [List.mem_cons, List.not_mem_nil, or_false, or_self] at hm
    rw [hm] at hb
    revert b
    decide
  have hone := (h ⟨[], fun _ => ⟨[], 0x90, 0⟩⟩ [⟨7, 0, 0, []⟩, ⟨7, 0, 0, []⟩] hoct
    [[7, 0, 0, 0, 7, 0, 0, 0]] rfl).1
  have hhandled : handledMessages ⟨[], fun _ => ⟨[], 0x90, 0⟩⟩ Server.init
      [[7, 0, 0, 0, 7, 0, 0, 0]] = [[7, 0, 0, 0, 7, 0, 0, 0]] := rfl
  rw [hhandled] at hone
  exact absurd hone (by decide)

end Phonelets.Rsap
