import Mathlib.Data.List.Basic
import Mathlib.Tactic.IntervalCases
import Phonelets.Gatchat.Gsm0710
import Phonelets.Lib.CArray

/-! # The control channel of the multiplexer

What `gsm0710_packet` does with a frame from the peer. On DLC 0 it is a command, and it is answered
in a frame whose buffer has been sized for the frames of this side.
-/

namespace Phonelets.Gatchat

open List
open Outcome (orFault)

/-! ## Data model -/

def gIoIn : UInt32 := 1
def gIoOut : UInt32 := 4

/-- `struct _GAtMuxChannel`: the octets in its buffer, and for each of the sources what it waits
for. -/
structure GAtMuxChannel where
  condition : UInt32
  buffer : List UInt8
  sources : List UInt32
  throttled : Bool

/-- `struct _GAtMux` with the data of its driver, and what has been written to the serial channel.
There are `MAX_CHANNELS` DLCs, numbered from 1 on. -/
structure GAtMux where
  dlcs : ℕ → Option GAtMuxChannel
  newdata : ℕ → UInt8
  writeWatch : Bool
  frameSize : ℕ
  written : List (List UInt8)

def maxChannels : ℕ := 61
def muxChannelBufferSize : ℕ := 4096

def GAtMux.setDlc (mux : GAtMux) (dlc : ℕ) (channel : GAtMuxChannel) : GAtMux :=
  { mux with dlcs := fun d => if d = dlc then some channel else mux.dlcs d }

def gAtMuxRawWrite (mux : GAtMux) (data : List UInt8) : GAtMux :=
  { mux with written := mux.written ++ [data] }

def wakeupWriter (mux : GAtMux) : GAtMux := { mux with writeWatch := true }

/-! ## Commands -/

/-- `g_at_mux_feed_dlc_data`; the buffer takes what it has room for. -/
def gAtMuxFeedDlcData (mux : GAtMux) (dlc : ℕ) (data : List UInt8) : GAtMux :=
  if dlc < 1 ∨ dlc > maxChannels then mux
  else
    match mux.dlcs dlc with
    | none => mux
    | some channel =>
      let room := muxChannelBufferSize - channel.buffer.length
      let offset := dlc / 8
      let bit := dlc % 8
      { mux.setDlc dlc { channel with
          buffer := channel.buffer ++ data.take room
          condition := channel.condition ||| gIoIn } with
        newdata := fun i => if i = offset then mux.newdata i ||| UInt8.ofNat (1 <<< bit)
          else mux.newdata i }

/-- `G_AT_MUX_DLC_STATUS_RTR` -/
def dlcStatusRtr : UInt8 := 0x04

def gAtMuxSetDlcStatus (mux : GAtMux) (dlc : ℕ) (status : UInt8) : GAtMux :=
  if dlc < 1 ∨ dlc > maxChannels then mux
  else
    match mux.dlcs dlc with
    | none => mux
    | some channel =>
      if status &&& dlcStatusRtr ≠ 0 then
        let mux := mux.setDlc dlc { channel with throttled := false }
        if channel.sources.any (· &&& gIoOut ≠ 0) then wakeupWriter mux else mux
      else mux.setDlc dlc { channel with throttled := true }

abbrev GAtMuxWriteFrame : Type := GAtMux → UInt8 → UInt8 → List UInt8 → Outcome GAtMux

/-- A status message: it is answered after it has been taken. -/
def gsm0710StatusMessage (writeFrame : GAtMuxWriteFrame) (mux : GAtMux) (data : List UInt8) :
    Outcome GAtMux :=
  let mux :=
    if 2 ≤ data.length then
      let dlc := ((data.getD 0 0 &&& 0xfc) >>> 2).toNat
      if 1 ≤ dlc ∧ dlc ≤ 63 then gAtMuxSetDlcStatus mux dlc (data.getD 1 0) else mux
    else mux
  let len := min data.length 31
  let resp := gsm0710StatusAck :: (UInt8.ofNat (len <<< 1) ||| 0x01) :: data.take len
  writeFrame mux 0 gsm0710Data resp

/-- `gsm0710_packet`, which calls itself for a status message inside of a frame. -/
def gsm0710Packet (writeFrame : GAtMuxWriteFrame) (mux : GAtMux) (dlc : ℕ) (control : UInt8)
    (data : List UInt8) : Outcome GAtMux :=
  if control = gsm0710Data ∨ control = gsm0710DataAlt then
    if 1 ≤ dlc ∧ dlc ≤ 63 then .ok (gAtMuxFeedDlcData mux dlc data)
    else if dlc = 0 then
      if 2 ≤ data.length ∧ data.getD 0 0 = gsm0710StatusSet then
        gsm0710StatusMessage writeFrame mux (data.drop 2)
      else if 2 ≤ data.length ∧ data.getD 0 0 = 0x43 then
        writeFrame mux 0 gsm0710Data (0x41 :: data.drop 1)
      else .ok mux
    else .ok mux
  else if control = gsm0710StatusAck ∧ dlc = 0 then gsm0710StatusMessage writeFrame mux data
  else .ok mux

def gsm0710BasicWriteFrame : GAtMuxWriteFrame := fun mux dlc control data => do
  let frame ← orFault (Filled.store (mux.frameSize + 7) (gsm0710BasicFillFrame dlc control data))
  .ok (gAtMuxRawWrite mux frame.octets)

def gsm0710AdvancedWriteFrame : GAtMuxWriteFrame := fun mux dlc control data => do
  let frame ← orFault (Filled.store (mux.frameSize * 2 + 7) (gsm0710AdvancedFillFrame dlc control data))
  .ok (gAtMuxRawWrite mux frame.octets)

/-! ## Commands from the peer -/

/-- What the peer sends on DLC 0. -/
inductive Command where
  | status (message : List UInt8)
  | test (data : List UInt8)
  | other

/-- The command in a frame. -/
def command (control : UInt8) (data : List UInt8) : Command :=
  if control = gsm0710Data ∨ control = gsm0710DataAlt then
    if 2 ≤ data.length ∧ data.getD 0 0 = gsm0710StatusSet then .status (data.drop 2)
    else if 2 ≤ data.length ∧ data.getD 0 0 = 0x43 then .test data
    else .other
  else if control = gsm0710StatusAck then .status data
  else .other

/-- The status that a command gives to a DLC. -/
def Command.statusOf : Command → ℕ → Option UInt8
  | .status (address :: value :: _), dlc =>
    if (address >>> 2).toNat = dlc ∧ 1 ≤ dlc ∧ dlc ≤ maxChannels then some value else none
  | _, _ => none

/-- Each open DLC is throttled as the command says, if it says something of it, or as before. -/
def ThrottledBy (command : Command) (mux mux' : GAtMux) : Prop :=
  ∀ dlc, (mux'.dlcs dlc).map (·.throttled) =
    (mux.dlcs dlc).map fun channel =>
      match command.statusOf dlc with
      | some status => status &&& dlcStatusRtr = 0
      | none => channel.throttled

/-- The octets that the advanced form quotes. -/
def quoted (data : List UInt8) : ℕ := data.countP fun b => b = 0x7e ∨ b = 0x7d

/-- The answers of the basic form fit. -/
def BasicFits (frameSize : ℕ) : Command → Prop
  | .status message => min message.length 31 + 2 ≤ frameSize + 1
  | .test data => if data.length ≤ 127 then data.length ≤ frameSize + 1 else data.length ≤ frameSize
  | .other => True

/-- The answers of the advanced form fit. -/
def AdvancedFits (frameSize : ℕ) : Command → Prop
  | .status message => min message.length 31 + 2 + quoted (message.take 31) ≤ 2 * frameSize + 2
  | .test data => data.length + quoted (data.drop 1) ≤ 2 * frameSize + 2
  | .other => True

/-! ## Status -/

variable {mux mux' : GAtMux} {control : UInt8} {data : List UInt8}

lemma setDlcStatus_dlcs (mux : GAtMux) (dlc : ℕ) (status : UInt8) (d : ℕ) : (gAtMuxSetDlcStatus mux
    dlc status).frameSize = mux.frameSize ∧ ((gAtMuxSetDlcStatus mux dlc status).dlcs d).map
    (·.throttled) = (mux.dlcs d).map fun channel => if dlc = d ∧ 1 ≤ d ∧
    d ≤ maxChannels then decide (status &&& dlcStatusRtr = 0) else channel.throttled := by
  unfold gAtMuxSetDlcStatus
  by_cases hdlc : dlc < 1 ∨ dlc > maxChannels
  · have hno : ¬ (dlc = d ∧ 1 ≤ d ∧ d ≤ maxChannels) := by omega
    rw [if_pos hdlc]
    simp only [if_neg hno, and_self]
  · rw [if_neg hdlc]
    cases hchannel : mux.dlcs dlc with
    | none =>
      refine ⟨rfl, ?_⟩
      by_cases hd : dlc = d
      · subst hd
        dsimp only
        rw [hchannel]
        rfl
      · simp only [hd, false_and, if_false]
    | some channel =>
      have hset (t : Bool) : (mux.setDlc dlc { channel with throttled := t }).frameSize = mux.frameSize ∧
          ((mux.setDlc dlc { channel with throttled := t }).dlcs d).map (·.throttled) =
            (mux.dlcs d).map fun channel =>
              if dlc = d ∧ 1 ≤ d ∧ d ≤ maxChannels then t else channel.throttled := by
        refine ⟨rfl, ?_⟩
        dsimp only [GAtMux.setDlc]
        by_cases hd : dlc = d
        · subst hd
          have hin : 1 ≤ dlc ∧ dlc ≤ maxChannels := by omega
          simp only [hchannel, if_true, Option.map_some, true_and, if_pos hin]
        · simp only [Ne.symm hd, hd, if_false, false_and]
      by_cases hrtr : status &&& dlcStatusRtr = 0
      · simp only [hrtr, ne_eq, not_true_eq_false, if_false, decide_true]
        exact hset true
      · simp only [hrtr, ne_eq, not_false_eq_true, if_true, decide_false]
        split
        · exact hset false
        · exact hset false

lemma and_fc_shiftRight (a : UInt8) : (a &&& 0xfc) >>> 2 = a >>> 2 := by
  apply UInt8.toBitVec_inj.mp
  rw [UInt8.toBitVec_shiftRight, UInt8.toBitVec_shiftRight, UInt8.toBitVec_and]
  ext i hi
  interval_cases i <;> simp

/-- What a status message is answered with. -/
def statusAnswer (message : List UInt8) : List UInt8 :=
  gsm0710StatusAck :: (UInt8.ofNat (min message.length 31 <<< 1) ||| 0x01) ::
    message.take (min message.length 31)

lemma statusMessage_eq (writeFrame : GAtMuxWriteFrame) (mux : GAtMux) (message : List UInt8) :
    ∃ taken, gsm0710StatusMessage writeFrame mux message =
        writeFrame taken 0 gsm0710Data (statusAnswer message) ∧
      taken.frameSize = mux.frameSize ∧ ThrottledBy (.status message) mux taken := by
  have hsame (h : ∀ dlc, (Command.status message).statusOf dlc = none) :
      ThrottledBy (.status message) mux mux := by
    intro d
    rw [h d]
  rcases message with _ | ⟨address, _ | ⟨status, rest⟩⟩
  · exact ⟨mux, rfl, rfl, hsame fun _ => rfl⟩
  · exact ⟨mux, rfl, rfl, hsame fun _ => rfl⟩
  · by_cases hdlc : 1 ≤ (address >>> 2).toNat ∧ (address >>> 2).toNat ≤ 63
    · refine ⟨gAtMuxSetDlcStatus mux (address >>> 2).toNat status, ?_, ?_, ?_⟩
      · have htwo : 2 ≤ (address :: status :: rest).length := by simp
        have haddress : (address :: status :: rest).getD 0 0 = address := rfl
        rw [gsm0710StatusMessage, if_pos htwo, haddress, and_fc_shiftRight, if_pos hdlc]
        rfl
      · exact (setDlcStatus_dlcs mux _ status 0).1
      · intro d
        rw [(setDlcStatus_dlcs mux _ status d).2]
        refine Option.map_congr fun channel _ => ?_
        dsimp only [Command.statusOf]
        split_ifs <;> rfl
    · refine ⟨mux, ?_, rfl, hsame fun d => if_neg ?_⟩
      · have haddress : (address :: status :: rest).getD 0 0 = address := rfl
        rw [gsm0710StatusMessage, haddress, and_fc_shiftRight, if_neg hdlc, ite_self]
        rfl
      · rw [maxChannels]
        omega

/-! ## Answers -/

/-- An answer is written when it fits, and outside of the buffer when it does not. -/
structure WritesIf (writeFrame : GAtMuxWriteFrame) (fits : ℕ → List UInt8 → Prop) : Prop where
  ok : ∀ mux resp, fits mux.frameSize resp →
    ∃ mux', writeFrame mux 0 gsm0710Data resp = .ok mux' ∧ mux'.dlcs = mux.dlcs
  fault : ∀ mux resp, ¬ fits mux.frameSize resp → writeFrame mux 0 gsm0710Data resp = .fault

lemma writesIf_of_store (size : ℕ → ℕ) (fill : List UInt8 → List UInt8) :
    WritesIf (fun mux _ _ data => do
      let frame ← orFault (Filled.store (size mux.frameSize) (fill data))
      .ok (gAtMuxRawWrite mux frame.octets)) fun frameSize resp =>
        (fill resp).length ≤ size frameSize where
  ok mux resp h := by
    rw [Filled.store_eq_some h]
    exact ⟨_, rfl, rfl⟩
  fault mux resp h := by
    rw [Filled.store_eq_none (Nat.not_le.mp h)]
    rfl

/-- The answer to a command fits. -/
def AnswerFits (fits : ℕ → List UInt8 → Prop) (frameSize : ℕ) : Command → Prop
  | .status message => fits frameSize (statusAnswer message)
  | .test data => fits frameSize (0x41 :: data.drop 1)
  | .other => True

lemma gsm0710Packet_command (writeFrame : GAtMuxWriteFrame) (mux : GAtMux) (control : UInt8)
    (data : List UInt8) : gsm0710Packet writeFrame mux 0 control data =
      match command control data with
      | .status message => gsm0710StatusMessage writeFrame mux message
      | .test data => writeFrame mux 0 gsm0710Data (0x41 :: data.drop 1)
      | .other => .ok mux := by
  unfold gsm0710Packet command
  have hdlc : ¬ (1 ≤ 0 ∧ 0 ≤ 63) := by omega
  rw [if_neg hdlc, if_pos rfl]
  by_cases hcontrol : control = gsm0710Data ∨ control = gsm0710DataAlt
  · rw [if_pos hcontrol, if_pos hcontrol]
    by_cases hstatus : 2 ≤ data.length ∧ data.getD 0 0 = gsm0710StatusSet
    · rw [if_pos hstatus, if_pos hstatus]
    · rw [if_neg hstatus, if_neg hstatus]
      by_cases htest : 2 ≤ data.length ∧ data.getD 0 0 = 0x43
      · rw [if_pos htest, if_pos htest]
      · rw [if_neg htest, if_neg htest]
  · rw [if_neg hcontrol, if_neg hcontrol]
    by_cases hstatus : control = gsm0710StatusAck
    · rw [if_pos ⟨hstatus, rfl⟩, if_pos hstatus]
    · rw [if_neg fun h => hstatus h.1, if_neg hstatus]

lemma ThrottledBy.congr {command : Command} {mux'' : GAtMux} (h : ThrottledBy command mux mux')
    (hdlcs : mux''.dlcs = mux'.dlcs) : ThrottledBy command mux mux'' := by
  intro d
  rw [hdlcs]
  exact h d

lemma throttledBy_of_none {command : Command} (h : ∀ dlc, command.statusOf dlc = none) (mux : GAtMux) :
    ThrottledBy command mux mux := by
  intro d
  rw [h d]

/-- The frame is answered, and the channels throttled as it says, just when the answer fits. -/
lemma gsm0710Packet_answered {writeFrame : GAtMuxWriteFrame} {fits : ℕ → List UInt8 → Prop}
    (hwrites : WritesIf writeFrame fits) (mux : GAtMux) (control : UInt8) (data : List UInt8) :
    (∃ mux', gsm0710Packet writeFrame mux 0 control data = .ok mux' ∧ ThrottledBy
    (command control data) mux mux') ↔ AnswerFits fits mux.frameSize (command control data) := by
  rw [gsm0710Packet_command]
  have hwritten {taken : GAtMux} {c : Command} {resp : List UInt8} (hsize : taken.frameSize = mux.frameSize)
      (hthrottled : ThrottledBy c mux taken) :
      (∃ mux', writeFrame taken 0 gsm0710Data resp = .ok mux' ∧ ThrottledBy c mux mux') ↔
        fits mux.frameSize resp := by
    rw [← hsize]
    constructor
    · rintro ⟨mux', hok, -⟩
      by_contra hfits
      rw [hwrites.fault taken resp hfits] at hok
      cases hok
    · intro hfits
      obtain ⟨mux', hok, hdlcs⟩ := hwrites.ok taken resp hfits
      exact ⟨mux', hok, hthrottled.congr hdlcs⟩
  cases command control data with
  | status message =>
    obtain ⟨taken, heq, hsize, hthrottled⟩ := statusMessage_eq writeFrame mux message
    dsimp only
    rw [heq]
    exact hwritten hsize hthrottled
  | test data => exact hwritten rfl (throttledBy_of_none (fun _ => rfl) mux)
  | other => exact iff_of_true ⟨mux, rfl, throttledBy_of_none (fun _ => rfl) mux⟩ trivial

/-! ## How long the answers are -/

lemma length_basicFillFrame (dlc type : UInt8) (data : List UInt8) : (gsm0710BasicFillFrame dlc type
    data).length = data.length + if data.length ≤ 127 then 6 else 7 := by
  unfold gsm0710BasicFillFrame basicHeader
  split
  · simp
  · simp

lemma length_flatMap_quoteOctet (data : List UInt8) :
    (data.flatMap quoteOctet).length = data.length + quoted data := by
  induction data with
  | nil => rfl
  | cons b data ih =>
    rw [flatMap_cons, length_append, ih, quoted, quoted, countP_cons, quoteOctet, length_cons]
    by_cases hb : b = 0x7e ∨ b = 0x7d
    · have hneg : ¬ (b ≠ 0x7e ∧ b ≠ 0x7d) := by tauto
      simp only [if_neg hneg, hb, decide_true, if_true, length_cons, length_nil]
      omega
    · have hpos : b ≠ 0x7e ∧ b ≠ 0x7d := not_or.mp hb
      simp only [if_pos hpos, hb, decide_false, Bool.false_eq_true, if_false, length_cons,
        length_nil]
      omega

lemma length_advancedFillFrame (data : List UInt8) :
    (gsm0710AdvancedFillFrame 0 gsm0710Data data).length = data.length + quoted data + 5 := by
  have htype : quoteOctet gsm0710Data = [gsm0710Data] := rfl
  have hcrc : (quoteOctet (gsm0710Fcs [gsm0710Address 0, gsm0710Data])).length = 1 := rfl
  simp only [gsm0710AdvancedFillFrame, htype, length_cons, length_append, hcrc,
    length_flatMap_quoteOctet, length_nil]
  omega

lemma length_statusAnswer (message : List UInt8) :
    (statusAnswer message).length = min message.length 31 + 2 := by
  simp [statusAnswer]

lemma quoted_statusAnswer (message : List UInt8) :
    quoted (statusAnswer message) = quoted (message.take 31) := by
  have hlen : ∀ n ≤ 31, ¬ (UInt8.ofNat (n <<< 1) ||| 0x01 = 0x7e ∨
      UInt8.ofNat (n <<< 1) ||| 0x01 = 0x7d) := by decide
  have htake : message.take (min message.length 31) = message.take 31 := by
    rw [Nat.min_comm, ← take_take, take_length]
  have hack : ¬ (gsm0710StatusAck = 0x7e ∨ gsm0710StatusAck = 0x7d) := by decide
  simp only [quoted, statusAnswer, htake, countP_cons, hack,
    hlen _ (Nat.min_le_right message.length 31), decide_false, Bool.false_eq_true, if_false]
  rfl

lemma two_le_of_test {d : List UInt8} (h : command control data = .test d) : 2 ≤ d.length := by
  unfold command at h
  split at h
  · split at h
    · cases h
    · split at h
      next htest =>
        cases h
        exact htest.1
      · cases h
  · split at h
    · cases h
    · cases h

lemma answerFits_basic (mux : GAtMux) (control : UInt8) (data : List UInt8) : AnswerFits
    (fun frameSize resp => (gsm0710BasicFillFrame 0 gsm0710Data resp).length ≤ frameSize + 7)
    mux.frameSize (command control data) ↔ BasicFits mux.frameSize (command control data) := by
  cases hcommand : command control data with
  | status message =>
    have hshort : min message.length 31 + 2 ≤ 127 := by omega
    simp only [AnswerFits, BasicFits, length_basicFillFrame, length_statusAnswer, if_pos hshort]
    omega
  | test d =>
    have htwo := two_le_of_test hcommand
    have hlen : (0x41 :: d.drop 1).length = d.length := by
      rw [length_cons, length_drop]
      omega
    simp only [AnswerFits, BasicFits, length_basicFillFrame, hlen]
    split
    · omega
    · omega
  | other => exact Iff.rfl

lemma answerFits_advanced (mux : GAtMux) (control : UInt8) (data : List UInt8) : AnswerFits
    (fun frameSize resp => (gsm0710AdvancedFillFrame 0 gsm0710Data resp).length ≤ frameSize * 2 + 7)
    mux.frameSize (command control data) ↔ AdvancedFits mux.frameSize (command control data) := by
  cases hcommand : command control data with
  | status message =>
    simp only [AnswerFits, AdvancedFits, length_advancedFillFrame, length_statusAnswer,
      quoted_statusAnswer]
    omega
  | test d =>
    have htwo := two_le_of_test hcommand
    have hlen : (0x41 :: d.drop 1).length = d.length := by
      rw [length_cons, length_drop]
      omega
    have hquoted : quoted (0x41 :: d.drop 1) = quoted (d.drop 1) :=
      countP_cons_of_neg (by decide)
    simp only [AnswerFits, AdvancedFits, length_advancedFillFrame, hlen, hquoted]
    omega
  | other => exact Iff.rfl

/-- A frame on the control channel is answered inside of the buffer, and throttles the channels as it
says, just when the answer is not longer than what the frame size allows. -/
theorem gsm0710Packet_control_iff (mux : GAtMux) (control : UInt8) (data : List UInt8) :
    ((∃ mux', gsm0710Packet gsm0710BasicWriteFrame mux 0 control data = .ok mux' ∧
    ThrottledBy (command control data) mux mux') ↔ BasicFits mux.frameSize (command control data)) ∧
    ((∃ mux', gsm0710Packet gsm0710AdvancedWriteFrame mux 0 control data = .ok mux' ∧ ThrottledBy
    (command control data) mux mux') ↔ AdvancedFits mux.frameSize (command control data)) := by
  have hbasic : WritesIf gsm0710BasicWriteFrame fun frameSize resp =>
      (gsm0710BasicFillFrame 0 gsm0710Data resp).length ≤ frameSize + 7 :=
    have h := writesIf_of_store (· + 7) (gsm0710BasicFillFrame 0 gsm0710Data)
    ⟨h.ok, h.fault⟩
  have hadvanced : WritesIf gsm0710AdvancedWriteFrame fun frameSize resp =>
      (gsm0710AdvancedFillFrame 0 gsm0710Data resp).length ≤ frameSize * 2 + 7 :=
    have h := writesIf_of_store (· * 2 + 7) (gsm0710AdvancedFillFrame 0 gsm0710Data)
    ⟨h.ok, h.fault⟩
  exact ⟨(gsm0710Packet_answered hbasic mux control data).trans (answerFits_basic mux control data),
    (gsm0710Packet_answered hadvanced mux control data).trans (answerFits_advanced mux control data)⟩

/-- A multiplexer with frames of 31 octets and no open channel. -/
def idleMux : GAtMux := ⟨fun _ => none, fun _ => 0, false, 31, []⟩

/-- A test command of 33 octets comes back in a frame of one octet too much. -/
theorem gsm0710Packet_long_test :
    gsm0710Packet gsm0710BasicWriteFrame idleMux 0 gsm0710Data (0x43 :: List.replicate 32 0) = .fault :=
  rfl

end Phonelets.Gatchat
