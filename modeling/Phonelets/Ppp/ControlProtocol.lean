import Phonelets.Lib.Machine

/-! # PPP control protocols

The automaton of RFC 1661 as `ppp_cp.c` runs it for a driver (LCP, IPCP): its table, the two
restart timers, the packets it sends and the packets it takes. `Automaton` is the part of it
that the table works on.
-/

namespace Phonelets.Ppp

/-! ## Data model -/

inductive PppcpState where
  | initial | starting | closed | stopped | closing | stopping
  | reqsent | ackrcvd | acksent | opened
  deriving DecidableEq

/-- `enum actions`, but for `INV`. -/
inductive CpAction where
  | irc | zrc | tlu | tld | tls | tlf | scr | sca | scn | str | sta | scj | ser
  deriving DecidableEq

inductive PppcpEventType where
  | up | down | «open» | close | toPlus | toMinus | rcrPlus | rcrMinus
  | rca | rcn | rtr | rta | ruc | rxjPlus | rxjMinus | rxr
  deriving DecidableEq

/-- An entry of the table: the actions and the new state, nothing for `INV`. -/
abbrev Transition : Type := Option (List CpAction × PppcpState)

def PppcpState.index : PppcpState → ℕ
  | initial => 0
  | starting => 1
  | closed => 2
  | stopped => 3
  | closing => 4
  | stopping => 5
  | reqsent => 6
  | ackrcvd => 7
  | acksent => 8
  | opened => 9

section Table

open PppcpState CpAction

/-- An entry without actions, and one with some. -/
def goes (new : PppcpState) : Transition := some ([], new)

def act (actions : List CpAction) (new : PppcpState) : Transition := some (actions, new)

def inv : Transition := none

/-- `cp_transitions`: a row for each event, a column for each state. -/
def cpTransitions : PppcpEventType → List Transition
  | .up => [goes closed, act [irc, scr] reqsent, inv, inv, inv, inv, inv, inv, inv, inv]
  | .down => [inv, inv, goes initial, act [tls] starting, goes initial, goes starting, goes starting,
      goes starting, goes starting, act [tld] starting]
  | .«open» => [act [tls] starting, goes starting, act [irc, scr] reqsent, goes stopped, goes stopping,
      goes stopping, goes reqsent, goes ackrcvd, goes acksent, goes opened]
  | .close => [goes initial, act [tlf] initial, goes closed, goes closed, goes closing, goes closing,
      act [irc, str] closing, act [irc, str] closing, act [irc, str] closing, act [tld, irc, str] closing]
  | .toPlus => [inv, inv, inv, inv, act [str] closing, act [str] stopping, act [scr] reqsent,
      act [scr] reqsent, act [scr] acksent, inv]
  | .toMinus => [inv, inv, inv, inv, act [tlf] closed, act [tlf] stopped, act [tlf] stopped,
      act [tlf] stopped, act [tlf] stopped, inv]
  | .rcrPlus => [inv, inv, act [sta] closed, act [irc, scr, sca] acksent, goes closing, goes stopping,
      act [sca] acksent, act [sca, tlu] opened, act [sca] acksent, act [tld, scr, sca] acksent]
  | .rcrMinus => [inv, inv, act [sta] closed, act [irc, scr, scn] reqsent, goes closing, goes stopping,
      act [scn] reqsent, act [scn] ackrcvd, act [scn] reqsent, act [tld, scr, scn] reqsent]
  | .rca => [inv, inv, act [sta] closed, act [sta] stopped, goes closing, goes stopping, act [irc] ackrcvd,
      act [scr] reqsent, act [irc, tlu] opened, act [tld, scr] reqsent]
  | .rcn => [inv, inv, act [sta] closed, act [sta] stopped, goes closing, goes stopping,
      act [irc, scr] reqsent, act [scr] reqsent, act [irc, scr] acksent, act [tld, scr] reqsent]
  | .rtr => [inv, inv, act [sta] closed, act [sta] stopped, act [sta] closing, act [sta] stopping,
      act [sta] reqsent, act [sta] reqsent, act [sta] reqsent, act [tld, zrc, sta] stopping]
  | .rta => [inv, inv, goes closed, goes stopped, act [tlf] closed, act [tlf] stopped, goes reqsent,
      goes reqsent, goes acksent, act [tld, scr] reqsent]
  | .ruc => [inv, inv, act [scj] closed, act [scj] stopped, act [scj] closing, act [scj] stopping,
      act [scj] reqsent, act [scj] ackrcvd, act [scj] acksent, act [scj] opened]
  | .rxjPlus => [inv, inv, goes closed, goes stopped, goes closing, goes stopping, goes reqsent, goes reqsent,
      goes acksent, goes opened]
  | .rxjMinus => [inv, inv, act [tlf] closed, act [tlf] stopped, act [tlf] closed, act [tlf] stopped,
      act [tlf] stopped, act [tlf] stopped, act [tlf] stopped, act [tld, irc, str] stopping]
  | .rxr => [inv, inv, goes closed, goes stopped, goes closing, goes stopping, goes reqsent, goes ackrcvd,
      goes acksent, act [ser] opened]

/-- `cp_transitions[type][state]` -/
def cpTransition (type : PppcpEventType) (state : PppcpState) : Transition :=
  (cpTransitions type).getD state.index none

end Table

/-- `struct pppcp_timer_data`; `armed` is whether there is a source. Nothing reads the last two
fields: the requests since the counter was initialised, and whether it was ever decremented
at zero. -/
structure PppcpTimerData where
  restartCounter : UInt32
  maxCounter : UInt32
  armed : Bool
  requests : ℕ
  below : Bool

/-- `struct pppcp_packet`, with the data up to its length. -/
structure PppcpPacket where
  code : UInt8
  identifier : UInt8
  data : List UInt8

/-- The octets of a packet, its length field the size it has. -/
def PppcpPacket.octets (packet : PppcpPacket) : List UInt8 :=
  let length := packet.data.length + 4
  packet.code :: packet.identifier :: UInt8.ofNat (length >>> 8) :: UInt8.ofNat length :: packet.data

inductive RcrResult where
  | accept | reject | nak
  deriving DecidableEq

/-- `struct pppcp_proto`, whose data are in `π`. A callback that is `NULL` is one that changes
nothing and accepts; a driver may set the local options from a callback, and `rcr` may write
the options for a peer. The codes are those of `packet_ops`. -/
structure PppcpProto (π : Type) where
  supportedCodes : UInt16
  known : ∀ code : ℕ, supportedCodes.toNat.testBit code = true → 1 ≤ code ∧ code ≤ 11
  rcr : π → PppcpPacket → RcrResult × Option (List UInt8) × π
  rca : π → PppcpPacket → π
  rcnNak : π → PppcpPacket → π × Option (List UInt8)
  rcnRej : π → PppcpPacket → π × Option (List UInt8)
  thisLayerDown : π → π × Option (List UInt8)

/-- What a protocol does to its surroundings: a packet with the length that is passed to
`ppp_transmit`, or a layer that is told. -/
inductive Effect where
  | transmit (packet : PppcpPacket) (infolen : ℕ)
  | thisLayerStarted | thisLayerUp | thisLayerDown | thisLayerFinished
  | illegalEvent

/-- The state and the timers. -/
structure Automaton where
  state : PppcpState
  configTimerData : PppcpTimerData
  terminateTimerData : PppcpTimerData

/-- `struct pppcp_data`, with what it has done so far, the last thing first. -/
structure PppcpData (π : Type) extends Automaton where
  maxFailure : UInt32
  failureCounter : UInt32
  configIdentifier : UInt8
  terminateIdentifier : UInt8
  rejectIdentifier : UInt8
  localOptions : List UInt8
  peerOptions : List UInt8
  sendReject : Bool
  priv : π
  done : List Effect

/-! ## Timers -/

namespace PppcpTimerData

/-- `pppcp_stop_timer` -/
def stop (timer : PppcpTimerData) : PppcpTimerData := { timer with armed := false }

/-- `pppcp_start_timer` -/
def start (timer : PppcpTimerData) : PppcpTimerData := { timer with armed := true }

def isFirstRequest (timer : PppcpTimerData) : Bool := timer.restartCounter = timer.maxCounter

/-- `pppcp_initialize_restart_count` -/
def initializeRestartCount (timer : PppcpTimerData) : PppcpTimerData :=
  { timer with restartCounter := timer.maxCounter, requests := 0 }

/-- `pppcp_zero_restart_count` -/
def zeroRestartCount (timer : PppcpTimerData) : PppcpTimerData := { timer with restartCounter := 0 }

/-- A request has been sent: the counter is decremented and the timer started. -/
def requestSent (timer : PppcpTimerData) : PppcpTimerData :=
  start { timer with
    restartCounter := timer.restartCounter - 1
    requests := timer.requests + 1
    below := timer.below || timer.restartCounter = 0 }

end PppcpTimerData

/-! ## Actions -/

namespace PppcpData

variable {π : Type}

/-- `PPPCP_CODE_TYPE_CONFIGURE_REQUEST` and so on. -/
def configureRequest : UInt8 := 1
def configureAck : UInt8 := 2
def configureNak : UInt8 := 3
def configureReject : UInt8 := 4
def terminateRequest : UInt8 := 5
def terminateAck : UInt8 := 6
def codeReject : UInt8 := 7
def echoReply : UInt8 := 10

def note (effect : Effect) (data : PppcpData π) : PppcpData π := { data with done := effect :: data.done }

/-- `ppp_transmit` of a packet with its own length. -/
def transmit (packet : PppcpPacket) : PppcpData π → PppcpData π :=
  note (.transmit packet packet.octets.length)

def newIdentity (prev : UInt8) : UInt8 := prev + 1

/-- `pppcp_set_local_options` -/
def setLocalOptions (options : List UInt8) (data : PppcpData π) : PppcpData π :=
  { data with localOptions := options }

/-- `pppcp_send_configure_request` -/
def sendConfigureRequest (data : PppcpData π) : PppcpData π :=
  let identifier :=
    if data.configTimerData.isFirstRequest then newIdentity data.configIdentifier else data.configIdentifier
  let data := { data with configIdentifier := identifier }
  let data := data.transmit ⟨configureRequest, identifier, data.localOptions⟩
  { data with configTimerData := data.configTimerData.requestSent }

/-- `pppcp_send_configure_ack` -/
def sendConfigureAck (request : PppcpPacket) (data : PppcpData π) : PppcpData π :=
  transmit ⟨configureAck, request.identifier, request.data⟩ { data with failureCounter := 0 }

/-- `pppcp_send_configure_nak` -/
def sendConfigureNak (request : PppcpPacket) (data : PppcpData π) : PppcpData π :=
  let data :=
    if data.failureCounter ≥ data.maxFailure then
      data.transmit ⟨configureReject, request.identifier, request.data⟩
    else if data.sendReject then data.transmit ⟨configureReject, request.identifier, data.peerOptions⟩
    else
      transmit ⟨configureNak, request.identifier, data.peerOptions⟩
        { data with failureCounter := data.failureCounter + 1 }
  { data with peerOptions := [] }

/-- `pppcp_send_terminate_request` -/
def sendTerminateRequest (data : PppcpData π) : PppcpData π :=
  let identifier :=
    if data.terminateTimerData.isFirstRequest then newIdentity data.terminateIdentifier
    else data.terminateIdentifier
  let data := { data with terminateIdentifier := identifier }
  let data := data.transmit ⟨terminateRequest, identifier, []⟩
  { data with terminateTimerData := data.terminateTimerData.requestSent }

/-- `pppcp_send_terminate_ack`, which transmits as many octets as the request has. -/
def sendTerminateAck (request : PppcpPacket) (data : PppcpData π) : PppcpData π :=
  let data := data.note (.transmit ⟨terminateAck, request.identifier, []⟩ request.octets.length)
  { data with terminateTimerData := data.terminateTimerData.start }

/-- `pppcp_send_code_reject` -/
def sendCodeReject (rejected : PppcpPacket) (data : PppcpData π) : PppcpData π :=
  data.transmit ⟨codeReject, newIdentity data.rejectIdentifier, rejected.octets⟩

/-- `pppcp_send_echo_reply` -/
def sendEchoReply (request : PppcpPacket) (data : PppcpData π) : PppcpData π :=
  data.transmit ⟨echoReply, request.identifier, [0, 0, 0, 0]⟩

/-- `pppcp_transition_state` -/
def transitionState (newState : PppcpState) (data : PppcpData π) : PppcpData π :=
  let data :=
    match newState with
    | .initial | .starting | .closed | .stopped | .opened =>
      { data with
        configTimerData := data.configTimerData.stop
        terminateTimerData := data.terminateTimerData.stop }
    | .closing | .stopping | .reqsent | .ackrcvd | .acksent => data
  { data with state := newState }

/-- The driver has been told that the layer is down and may have set the options. -/
def layerDown (proto : PppcpProto π) (data : PppcpData π) : PppcpData π :=
  let (priv, options) := proto.thisLayerDown data.priv
  note .thisLayerDown { data with priv := priv, localOptions := options.getD data.localOptions }

/-- The restart counts that the actions ask for. -/
def countAction (actions : List CpAction) (newState : PppcpState) (data : PppcpData π) : PppcpData π :=
  if .irc ∈ actions then
    if newState = .closing ∨ newState = .stopping then
      { data with terminateTimerData := data.terminateTimerData.initializeRestartCount }
    else { data with configTimerData := data.configTimerData.initializeRestartCount }
  else if .zrc ∈ actions then
    { data with terminateTimerData := data.terminateTimerData.zeroRestartCount }
  else data

/-- The packets that the actions ask for. -/
def sendAction (actions : List CpAction) (packet : PppcpPacket) (data : PppcpData π) : PppcpData π :=
  let data := if .scr ∈ actions then data.sendConfigureRequest else data
  let data :=
    if .sca ∈ actions then data.sendConfigureAck packet
    else if .scn ∈ actions then data.sendConfigureNak packet
    else data
  let data :=
    if .str ∈ actions then data.sendTerminateRequest
    else if .sta ∈ actions then data.sendTerminateAck packet
    else data
  let data := if .scj ∈ actions then data.sendCodeReject packet else data
  if .ser ∈ actions then data.sendEchoReply packet else data

/-- The layer that the actions tell. -/
def layerAction (proto : PppcpProto π) (actions : List CpAction) (data : PppcpData π) : PppcpData π :=
  if .tls ∈ actions then data.note .thisLayerStarted
  else if .tlu ∈ actions then data.note .thisLayerUp
  else if .tld ∈ actions then data.layerDown proto
  else if .tlf ∈ actions then data.note .thisLayerFinished
  else data

/-- `pppcp_generate_event` -/
def generateEvent (proto : PppcpProto π) (type : PppcpEventType) (packet : PppcpPacket)
    (data : PppcpData π) : PppcpData π :=
  match cpTransition type data.state with
  | none => data.note .illegalEvent
  | some (actions, newState) =>
    (((data.countAction actions newState).sendAction actions packet).transitionState newState).layerAction
      proto actions

/-- The packet of an event that comes without one. -/
def noPacket : PppcpPacket := ⟨0, 0, []⟩

/-! ## Packets -/

/-- `pppcp_process_configure_request` -/
def processConfigureRequest (proto : PppcpProto π) (packet : PppcpPacket) (data : PppcpData π) :
    PppcpEventType × PppcpData π :=
  if data.failureCounter ≥ data.maxFailure then (.rcrMinus, data)
  else
    let (result, options, priv) := proto.rcr data.priv packet
    let data := { data with priv := priv, peerOptions := options.getD data.peerOptions }
    match result with
    | .reject => (.rcrMinus, { data with sendReject := true })
    | .nak => (.rcrMinus, { data with sendReject := false })
    | .accept => (.rcrPlus, data)

/-- `pppcp_process_configure_ack`; nothing is a packet that is discarded. -/
def processConfigureAck (proto : PppcpProto π) (packet : PppcpPacket) (data : PppcpData π) :
    Option PppcpEventType × PppcpData π :=
  if packet.identifier ≠ data.configIdentifier ∨ data.localOptions ≠ packet.data then (none, data)
  else (some .rca, { data with priv := proto.rca data.priv packet })

/-- `pppcp_process_configure_nak` and `pppcp_process_configure_reject` with the callback of
each. -/
def processConfigureNak (rcn : π → PppcpPacket → π × Option (List UInt8)) (packet : PppcpPacket)
    (data : PppcpData π) : Option PppcpEventType × PppcpData π :=
  if packet.identifier ≠ data.configIdentifier then (none, data)
  else
    let (priv, options) := rcn data.priv packet
    (some .rcn, { data with priv := priv, localOptions := options.getD data.localOptions })

/-- The event of a packet, from `packet_ops` if its code is supported. -/
def packetEvent (proto : PppcpProto π) (packet : PppcpPacket) (data : PppcpData π) :
    Option PppcpEventType × PppcpData π :=
  if !proto.supportedCodes.toNat.testBit packet.code.toNat then (some .ruc, data)
  else
    match packet.code.toNat with
    | 1 => (processConfigureRequest proto packet data).map some id
    | 2 => processConfigureAck proto packet data
    | 3 => processConfigureNak proto.rcnNak packet data
    | 4 => processConfigureNak proto.rcnRej packet data
    | 5 => (some .rtr, data)
    | 6 => (some .rta, data)
    | 7 => (some .rxjMinus, data)
    | 8 => (some .rxjMinus, data)
    | 9 => (some .rxr, data)
    | _ => (none, data)

/-- `pppcp_process_packet` -/
def processPacket (proto : PppcpProto π) (packet : PppcpPacket) (data : PppcpData π) : PppcpData π :=
  match packetEvent proto packet data with
  | (none, data) => data
  | (some type, data) => data.generateEvent proto type packet

/-! ## Runs -/

/-- `pppcp_timeout` of one of the timers, which is disarmed by it. -/
def timeoutEvent (timer : PppcpTimerData) : PppcpEventType :=
  if timer.restartCounter > 0 then .toPlus else .toMinus

/-- `pppcp_new` -/
def new (dormant : Bool) (maxFailure : UInt32) (priv : π) : PppcpData π where
  state := if dormant then .stopped else .initial
  configTimerData := ⟨0, 10, false, 0, false⟩
  terminateTimerData := ⟨0, 2, false, 0, false⟩
  maxFailure := if maxFailure ≠ 0 then maxFailure else 5
  failureCounter := 0
  configIdentifier := 0
  terminateIdentifier := 0
  rejectIdentifier := 0
  localOptions := []
  peerOptions := []
  sendReject := false
  priv := priv
  done := []

end PppcpData

/-- What happens to a protocol. -/
inductive PppcpInput where
  | up | down | «open» | close
  | packet (packet : PppcpPacket)
  | configTimeout | terminateTimeout
  | localOptions (options : List UInt8)

/-- One input, which a timer gives only while it is armed. -/
def pppcpStep {π : Type} (proto : PppcpProto π) (data : PppcpData π) :
    PppcpInput → Option (PppcpData π)
  | .up => some (data.generateEvent proto .up PppcpData.noPacket)
  | .down => some (data.generateEvent proto .down PppcpData.noPacket)
  | .«open» => some (data.generateEvent proto .«open» PppcpData.noPacket)
  | .close => some (data.generateEvent proto .close PppcpData.noPacket)
  | .packet packet => some (data.processPacket proto packet)
  | .configTimeout =>
    if data.configTimerData.armed then
      some (PppcpData.generateEvent proto (PppcpData.timeoutEvent data.configTimerData)
        PppcpData.noPacket { data with configTimerData := data.configTimerData.stop })
    else none
  | .terminateTimeout =>
    if data.terminateTimerData.armed then
      some (PppcpData.generateEvent proto (PppcpData.timeoutEvent data.terminateTimerData)
        PppcpData.noPacket { data with terminateTimerData := data.terminateTimerData.stop })
    else none
  | .localOptions options => some (data.setLocalOptions options)

end Phonelets.Ppp
