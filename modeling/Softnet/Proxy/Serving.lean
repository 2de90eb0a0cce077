import Softnet.Lib.Accounts
import Softnet.Lib.Octets
import Softnet.Manager.Service
import Softnet.Proxy.Endpoint
import Softnet.Proxy.ReturnTraffic

/-!
# The loop of a proxy

`Proxy::run` in `lib/proxy/mod.rs`: one loop that takes frames of the VM in bursts, frames of
the host in batches, policy commands and the ticks of a timer, whichever is ready first.  What
the sockets, `vmnet` and the timer answer is part of the step that asks them.

The loop refines the runs of a proxy that all decisions were analysed for: its proxy has handled
exactly the packets and the commands that the loop took, in their order.
-/

namespace Softnet

open Transition

/-- Where the loop is. -/
inductive ServingPhase where
  | selecting
  /-- After a frame of the VM; so many more are taken before the loop selects again. -/
  | bursting (remaining : Nat)
  /-- The frames of a batch that are still to be processed. -/
  | batching (frames : List (Option EthernetFrame))
  | ended (result : Except ErrorChain Unit)

/-- A proxy in its loop, with the time of its last reading of the clock. -/
structure Serving where
  endpoint : Endpoint
  clock : Instant
  phase : ServingPhase

/-- What the loop takes, with every answer that it gets; a frame may be too short to be one. -/
inductive Cause where
  | vmFrame (frame : Option EthernetFrame) (now : Instant) (answers : WriteAnswers)
  | vmFailed (error : IoError) (peerAddr : Except IoError Unit)
  | vmDrained
  | burstOver
  | hostBatch (frames : List (Option EthernetFrame)) (now : Instant)
  | hostFailed (error : ErrorChain)
  | hostFrame
      (frame : Option EthernetFrame) (now : Instant) (answer peerAddr : Except IoError Unit)
  | batchOver
  | command (command : Command) (order : HashOrder) (now : Instant)
  | commandsClosed
  | ticked (peerAddr : Except IoError Unit)

/-- One step of the loop: what it takes, and what it writes and reports. -/
structure Turn where
  cause : Cause
  effects : List Effect

/-- How the loop ends after an error of the VM's socket. -/
def vmFailure (error : IoError) (peerAddr : Except IoError Unit) : Except ErrorChain Unit :=
  match VM.isDisconnect error peerAddr with
  | .error unknown => .error [unknown.text]
  -- Treat peer closure as normal VM shutdown
  | .ok true => .ok ()
  | .ok false => .error [error.text]

/-- How the loop ends after a frame of the host could not be processed. -/
def hostFrameFailure (error : ProxyError) (peerAddr : Except IoError Unit) :
    Except ErrorChain Unit :=
  match error.io with
  | none => .error error.chain
  | some ioError =>
      match VM.isDisconnect ioError peerAddr with
      | .error unknown => .error [unknown.text]
      | .ok true => .ok ()
      | .ok false => .error error.chain

/-- Where the loop is after a tick. -/
def ServingPhase.afterTick (peerAddr : Except IoError Unit) : ServingPhase :=
  match VM.isConnected peerAddr with
  | .error error => .ended (.error [error.text])
  | .ok false => .ended (.ok ())
  | .ok true => .selecting

/-- How many frames are taken after the first one of a burst. -/
def burstRemainder : Nat := 127

namespace Serving

def afterVmFrame
    (crates : Crates)
    (dhcpCrates : DhcpCrates)
    (s : Serving)
    (frame : Option EthernetFrame)
    (now : Instant)
    (answers : WriteAnswers)
    (next : ServingPhase) :
    Serving × List Effect :=
  match frame with
  | none => (⟨s.endpoint, now, next⟩, [])
  | some frame =>
      match s.endpoint.processFrameFromVm crates dhcpCrates frame now answers with
      | (endpoint, effects, .ok ()) => (⟨endpoint, now, next⟩, effects)
      | (endpoint, effects, .error error) =>
          (⟨endpoint, now, .ended (.error error.chain)⟩, effects)

def afterHostFrame
    (s : Serving)
    (frame : Option EthernetFrame)
    (now : Instant)
    (answer peerAddr : Except IoError Unit)
    (next : ServingPhase) :
    Serving × List Effect :=
  match frame with
  | none => (⟨s.endpoint, now, next⟩, [])
  | some frame =>
      match s.endpoint.processFrameFromHost frame now answer with
      | (endpoint, effects, .ok ()) => (⟨endpoint, now, next⟩, effects)
      | (endpoint, effects, .error error) =>
          (⟨endpoint, now, .ended (hostFrameFailure error peerAddr)⟩, effects)

/-- The proxy handles a command, and its reply is sent to whoever asked. -/
def afterCommand
    (crates : Crates)
    (s : Serving)
    (command : Command)
    (order : HashOrder)
    (now : Instant) :
    Serving :=
  { s with
    endpoint :=
      { s.endpoint with proxy := s.endpoint.proxy.handle crates (command.event order now) }
    clock := now }

end Serving

inductive ServingStep (crates : Crates) (dhcpCrates : DhcpCrates) :
    Serving → Turn → Serving → Prop
  | vmRead
      {s : Serving} {frame : Option EthernetFrame} {now : Instant} {answers : WriteAnswers}
      (selecting : s.phase = .selecting)
      (later : s.clock ≤ now) :
      ServingStep crates dhcpCrates s
        ⟨.vmFrame frame now answers,
          (s.afterVmFrame crates dhcpCrates frame now answers (.bursting burstRemainder)).2⟩
        (s.afterVmFrame crates dhcpCrates frame now answers (.bursting burstRemainder)).1
  | vmReadFailed
      {s : Serving} {error : IoError} {peerAddr : Except IoError Unit}
      (selecting : s.phase = .selecting) :
      ServingStep crates dhcpCrates s ⟨.vmFailed error peerAddr, []⟩
        { s with phase := .ended (vmFailure error peerAddr) }
  | burstRead
      {s : Serving} {remaining : Nat} {frame : Option EthernetFrame} {now : Instant}
      {answers : WriteAnswers}
      (bursting : s.phase = .bursting (remaining + 1))
      (later : s.clock ≤ now) :
      ServingStep crates dhcpCrates s
        ⟨.vmFrame frame now answers,
          (s.afterVmFrame crates dhcpCrates frame now answers (.bursting remaining)).2⟩
        (s.afterVmFrame crates dhcpCrates frame now answers (.bursting remaining)).1
  -- End this burst once all queued packets have been drained
  | burstDrained
      {s : Serving} {remaining : Nat}
      (bursting : s.phase = .bursting (remaining + 1))
      (error : IoError)
      (drained : error.kind = .wouldBlock) :
      ServingStep crates dhcpCrates s ⟨.vmDrained, []⟩ { s with phase := .selecting }
  | burstFailed
      {s : Serving} {remaining : Nat} {error : IoError} {peerAddr : Except IoError Unit}
      (bursting : s.phase = .bursting (remaining + 1))
      (failed : error.kind ≠ .wouldBlock) :
      ServingStep crates dhcpCrates s ⟨.vmFailed error peerAddr, []⟩
        { s with phase := .ended (vmFailure error peerAddr) }
  | burstOver
      {s : Serving}
      (bursting : s.phase = .bursting 0) :
      ServingStep crates dhcpCrates s ⟨.burstOver, []⟩ { s with phase := .selecting }
  | hostRead
      {s : Serving} {frames : List (Option EthernetFrame)} {now : Instant}
      (selecting : s.phase = .selecting)
      (later : s.clock ≤ now) :
      ServingStep crates dhcpCrates s ⟨.hostBatch frames now, []⟩
        { s with clock := now, phase := .batching frames }
  | hostReadFailed
      {s : Serving} {error : ErrorChain}
      (selecting : s.phase = .selecting) :
      ServingStep crates dhcpCrates s ⟨.hostFailed error, []⟩
        { s with phase := .ended (.error error) }
  -- The clock is not read again within a batch, but other loops of the process set it as well
  | hostFrame
      {s : Serving} {frame : Option EthernetFrame} {rest : List (Option EthernetFrame)}
      {now : Instant} {answer peerAddr : Except IoError Unit}
      (batching : s.phase = .batching (frame :: rest))
      (later : s.clock ≤ now) :
      ServingStep crates dhcpCrates s
        ⟨.hostFrame frame now answer peerAddr,
          (s.afterHostFrame frame now answer peerAddr (.batching rest)).2⟩
        (s.afterHostFrame frame now answer peerAddr (.batching rest)).1
  | batchOver
      {s : Serving}
      (batching : s.phase = .batching []) :
      ServingStep crates dhcpCrates s ⟨.batchOver, []⟩ { s with phase := .selecting }
  | commandHandled
      {s : Serving} {command : Command} {order : HashOrder} {now : Instant}
      (selecting : s.phase = .selecting)
      (later : s.clock ≤ now) :
      ServingStep crates dhcpCrates s ⟨.command command order now, []⟩
        (s.afterCommand crates command order now)
  | commandsClosed
      {s : Serving}
      (selecting : s.phase = .selecting) :
      ServingStep crates dhcpCrates s ⟨.commandsClosed, []⟩
        { s with phase := .ended (.ok ()) }
  | ticked
      {s : Serving} {peerAddr : Except IoError Unit}
      (selecting : s.phase = .selecting) :
      ServingStep crates dhcpCrates s ⟨.ticked peerAddr, []⟩
        { s with phase := .afterTick peerAddr }

/-- What has happened since `Proxy::run` was called on a proxy that `Proxy::new` returned. -/
def ServingRun
    (crates : Crates)
    (dhcpCrates : DhcpCrates)
    (proxy : Proxy)
    (subnetMask : Ipv4Address)
    (searchDomains : List Name)
    (start : Instant)
    (history : List (Step Serving Turn))
    (s : Serving) :
    Prop :=
  proxy.Fresh crates start ∧
    Run (ServingStep crates dhcpCrates)
      ⟨.new proxy subnetMask searchDomains, start, .selecting⟩ history s

/-! ## What one step can do -/

section Steps

variable {crates : Crates}
variable {dhcpCrates : DhcpCrates}
variable {s s' : Serving}
variable {turn : Turn}

/-- A frame of the VM is processed, or was too short to be one. -/
inductive VmTurn (crates : Crates) (dhcpCrates : DhcpCrates) (s : Serving) (next : ServingPhase) :
    Option EthernetFrame → Instant → WriteAnswers → Serving → List Effect → Prop
  | short
      {now : Instant} {answers : WriteAnswers} :
      VmTurn crates dhcpCrates s next none now answers ⟨s.endpoint, now, next⟩ []
  | processed
      {frame : EthernetFrame} {now : Instant} {answers : WriteAnswers} {endpoint : Endpoint}
      {effects : List Effect}
      (outcome :
        Endpoint.VmOutcome crates dhcpCrates s.endpoint frame now answers
          (endpoint, effects, .ok ())) :
      VmTurn crates dhcpCrates s next (some frame) now answers ⟨endpoint, now, next⟩ effects
  | failed
      {frame : EthernetFrame} {now : Instant} {answers : WriteAnswers} {endpoint : Endpoint}
      {effects : List Effect} {error : ProxyError}
      (outcome :
        Endpoint.VmOutcome crates dhcpCrates s.endpoint frame now answers
          (endpoint, effects, .error error)) :
      VmTurn crates dhcpCrates s next (some frame) now answers
        ⟨endpoint, now, .ended (.error error.chain)⟩ effects

theorem Serving.afterVmFrame_turn
    (crates : Crates)
    (dhcpCrates : DhcpCrates)
    (s : Serving)
    (frame : Option EthernetFrame)
    (now : Instant)
    (answers : WriteAnswers)
    (next : ServingPhase) :
    VmTurn crates dhcpCrates s next frame now answers
      (s.afterVmFrame crates dhcpCrates frame now answers next).1
      (s.afterVmFrame crates dhcpCrates frame now answers next).2 := by
  cases frame with
  | none => exact .short
  | some frame =>
      have houtcome :=
        s.endpoint.processFrameFromVm_outcome crates dhcpCrates frame now answers
      unfold Serving.afterVmFrame
      dsimp only
      generalize s.endpoint.processFrameFromVm crates dhcpCrates frame now answers = result
        at houtcome
      obtain ⟨endpoint, effects, _ | _⟩ := result
      · exact .failed houtcome
      · exact .processed houtcome

/-- A frame of the host is processed, or was too short to be one. -/
inductive HostTurn (s : Serving) (next : ServingPhase) :
    Option EthernetFrame → Instant → Except IoError Unit → Except IoError Unit →
    Serving → List Effect → Prop
  | short
      {now : Instant} {answer peerAddr : Except IoError Unit} :
      HostTurn s next none now answer peerAddr ⟨s.endpoint, now, next⟩ []
  | processed
      {frame : EthernetFrame} {now : Instant} {answer peerAddr : Except IoError Unit}
      {endpoint : Endpoint} {effects : List Effect}
      (outcome : Endpoint.HostOutcome s.endpoint frame now answer (endpoint, effects, .ok ())) :
      HostTurn s next (some frame) now answer peerAddr ⟨endpoint, now, next⟩ effects
  | failed
      {frame : EthernetFrame} {now : Instant} {answer peerAddr : Except IoError Unit}
      {endpoint : Endpoint} {effects : List Effect} {error : ProxyError}
      (outcome :
        Endpoint.HostOutcome s.endpoint frame now answer (endpoint, effects, .error error)) :
      HostTurn s next (some frame) now answer peerAddr
        ⟨endpoint, now, .ended (hostFrameFailure error peerAddr)⟩ effects

theorem Serving.afterHostFrame_turn
    (s : Serving)
    (frame : Option EthernetFrame)
    (now : Instant)
    (answer peerAddr : Except IoError Unit)
    (next : ServingPhase) :
    HostTurn s next frame now answer peerAddr
      (s.afterHostFrame frame now answer peerAddr next).1
      (s.afterHostFrame frame now answer peerAddr next).2 := by
  cases frame with
  | none => exact .short
  | some frame =>
      have houtcome := s.endpoint.processFrameFromHost_outcome frame now answer
      unfold Serving.afterHostFrame
      dsimp only
      generalize s.endpoint.processFrameFromHost frame now answer = result at houtcome
      obtain ⟨endpoint, effects, _ | _⟩ := result
      · exact .failed houtcome
      · exact .processed houtcome

theorem VmTurn.cases
    {next : ServingPhase} {frame : Option EthernetFrame} {now : Instant}
    {answers : WriteAnswers} {effects : List Effect}
    (h : VmTurn crates dhcpCrates s next frame now answers s' effects) :
    s'.clock = now ∧
      (frame = none ∧ s'.endpoint = s.endpoint ∧ effects = [] ∨
        ∃ taken result, frame = some taken ∧
          Endpoint.VmOutcome crates dhcpCrates s.endpoint taken now answers
            (s'.endpoint, effects, result)) := by
  cases h with
  | short => exact ⟨rfl, .inl ⟨rfl, rfl, rfl⟩⟩
  | processed outcome => exact ⟨rfl, .inr ⟨_, _, rfl, outcome⟩⟩
  | failed outcome => exact ⟨rfl, .inr ⟨_, _, rfl, outcome⟩⟩

theorem HostTurn.cases
    {next : ServingPhase} {frame : Option EthernetFrame} {now : Instant}
    {answer peerAddr : Except IoError Unit} {effects : List Effect}
    (h : HostTurn s next frame now answer peerAddr s' effects) :
    s'.clock = now ∧
      (frame = none ∧ s'.endpoint = s.endpoint ∧ effects = [] ∨
        ∃ taken result, frame = some taken ∧
          Endpoint.HostOutcome s.endpoint taken now answer
            (s'.endpoint, effects, result)) := by
  cases h with
  | short => exact ⟨rfl, .inl ⟨rfl, rfl, rfl⟩⟩
  | processed outcome => exact ⟨rfl, .inr ⟨_, _, rfl, outcome⟩⟩
  | failed outcome => exact ⟨rfl, .inr ⟨_, _, rfl, outcome⟩⟩

/-- The step takes no frame and no command. -/
def Cause.isIdle : Cause → Bool
  | .vmFrame _ _ _ | .hostFrame _ _ _ _ | .command _ _ _ => false
  | _ => true

/-- Every step takes a frame of either side, handles a command, or leaves the proxy alone. -/
inductive TurnOutcome (crates : Crates) (dhcpCrates : DhcpCrates) (s : Serving) :
    Turn → Serving → Prop
  | vm
      {frame : Option EthernetFrame} {now : Instant} {answers : WriteAnswers}
      {next : ServingPhase} {s' : Serving} {effects : List Effect}
      (later : s.clock ≤ now)
      (taken : VmTurn crates dhcpCrates s next frame now answers s' effects) :
      TurnOutcome crates dhcpCrates s ⟨.vmFrame frame now answers, effects⟩ s'
  | host
      {frame : Option EthernetFrame} {now : Instant} {answer peerAddr : Except IoError Unit}
      {next : ServingPhase} {s' : Serving} {effects : List Effect}
      (later : s.clock ≤ now)
      (taken : HostTurn s next frame now answer peerAddr s' effects) :
      TurnOutcome crates dhcpCrates s ⟨.hostFrame frame now answer peerAddr, effects⟩ s'
  | command
      {command : Command} {order : HashOrder} {now : Instant}
      (later : s.clock ≤ now) :
      TurnOutcome crates dhcpCrates s ⟨.command command order now, []⟩
        (s.afterCommand crates command order now)
  | idle
      {cause : Cause} {s' : Serving}
      (nothing : cause.isIdle = true)
      (same : s'.endpoint = s.endpoint)
      (later : s.clock ≤ s'.clock) :
      TurnOutcome crates dhcpCrates s ⟨cause, []⟩ s'

theorem ServingStep.outcome
    (h : ServingStep crates dhcpCrates s turn s') :
    TurnOutcome crates dhcpCrates s turn s' := by
  cases h with
  | vmRead selecting later => exact .vm later (s.afterVmFrame_turn _ _ _ _ _ _)
  | burstRead bursting later => exact .vm later (s.afterVmFrame_turn _ _ _ _ _ _)
  | hostFrame batching later => exact .host later (s.afterHostFrame_turn _ _ _ _ _)
  | commandHandled selecting later => exact .command later
  | hostRead selecting later => exact .idle rfl rfl later
  | vmReadFailed | burstDrained | burstFailed | burstOver | hostReadFailed | batchOver
  | commandsClosed | ticked => exact .idle rfl rfl le_rfl

end Steps

/-! ## Refinement -/

section Refinement

variable {crates : Crates}
variable {dhcpCrates : DhcpCrates}
variable {s s' : Serving}
variable {turn : Turn}
variable {c : Clocked}

/-- A frame of the VM whose IPv4 packet is judged. -/
def EthernetFrame.isJudged (frame : EthernetFrame) (vmMacAddress : EthernetAddress) : Bool :=
  frame.srcAddr == vmMacAddress && frame.ethertype == .ipv4 && frame.ipv4Parses &&
    frame.ipv4.headerLen == ipv4HeaderLenWithoutOptions

/-- What the proxy of this VM handles when the loop takes something. -/
def Cause.events (vmMacAddress : EthernetAddress) : Cause → List Event
  | .vmFrame (some frame) now _ =>
      if frame.isJudged vmMacAddress then
        [.packet .fromVm frame.dstAddr frame.ipv4 now]
      else
        []
  | .hostFrame (some frame) now _ _ =>
      if frame.ethertype = .ipv4 ∧ frame.ipv4Parses then
        [.packet .fromHost frame.dstAddr frame.ipv4 now]
      else
        []
  | .command policy order now => [policy.event order now]
  | _ => []

theorem Cause.length_events_le (cause : Cause) (vmMacAddress : EthernetAddress) :
    (cause.events vmMacAddress).length ≤ 1 := by
  unfold Cause.events
  split
  · split <;> simp
  · split <;> simp
  · simp
  · simp

theorem Cause.events_of_isIdle
    {cause : Cause}
    (h : cause.isIdle = true)
    (vmMacAddress : EthernetAddress) :
    cause.events vmMacAddress = [] := by
  cases cause <;> first | rfl | cases h

/-- An IPv4 packet of one side is written to the other side, at the time at which it was taken. -/
def Turn.Transmits (turn : Turn) (pkt : Ipv4Packet) (now : Instant) : FlowDirection → Prop
  | .fromVm =>
      ∃ frame answers result,
        turn.cause = .vmFrame (some frame) now answers ∧ frame.ipv4 = pkt ∧
        .toHost frame result ∈ turn.effects
  | .fromHost =>
      ∃ frame answer peerAddr result,
        turn.cause = .hostFrame (some frame) now answer peerAddr ∧ frame.ipv4 = pkt ∧
        .toVm (.frame frame) result ∈ turn.effects

/-- The proxy of the loop, at or after the time of the last event that it handled. -/
structure Serving.Abstracts (s : Serving) (c : Clocked) : Prop where
  proxy : c.proxy = s.endpoint.proxy
  clock : c.clock ≤ s.clock

theorem Proxy.allowedFromVm_of_isJudged
    (crates : Crates)
    {p : Proxy} {frame : EthernetFrame}
    (h : frame.isJudged p.vmMacAddress = true)
    (now : Instant) :
    p.allowedFromVm crates frame now =
      p.decidePacket crates .fromVm frame.dstAddr frame.ipv4 now := by
  simp only [EthernetFrame.isJudged, Bool.and_eq_true, beq_iff_eq] at h
  obtain ⟨⟨⟨hsource, htype⟩, hparses⟩, hheader⟩ := h
  simp [Proxy.allowedFromVm, Proxy.decidePacket, hsource, htype, hparses, hheader]

/-- A frame that is not judged changes nothing, and is forwarded only if it is ARP. -/
theorem Proxy.allowedFromVm_of_not_isJudged
    {p : Proxy} {frame : EthernetFrame}
    (h : frame.isJudged p.vmMacAddress = false)
    (now : Instant) :
    (p.allowedFromVm crates frame now).1 = p ∧
      ((p.allowedFromVm crates frame now).2 = some () → frame.ethertype = .arp) := by
  unfold Proxy.allowedFromVm
  split
  · exact ⟨rfl, by simp⟩
  · next hsource =>
      split
      · next htype => split <;> exact ⟨rfl, fun _ => htype⟩
      · next htype =>
          split
          · exact ⟨rfl, by simp⟩
          · split
            · exact ⟨rfl, by simp⟩
            · simp_all [EthernetFrame.isJudged]
      · exact ⟨rfl, by simp⟩

theorem Proxy.allowedFromHost_of_ipv4
    (crates : Crates)
    (p : Proxy)
    {frame : EthernetFrame}
    (h : frame.ethertype = .ipv4 ∧ frame.ipv4Parses = true)
    (now : Instant) :
    p.allowedFromHost frame now =
      p.decidePacket crates .fromHost frame.dstAddr frame.ipv4 now := by
  simp [Proxy.allowedFromHost, Proxy.decidePacket, h.1, h.2]

theorem Proxy.allowedFromHost_of_not_ipv4
    {p : Proxy} {frame : EthernetFrame}
    (h : ¬ (frame.ethertype = .ipv4 ∧ frame.ipv4Parses = true))
    (now : Instant) :
    (p.allowedFromHost frame now).1 = p ∧
      ((p.allowedFromHost frame now).2 = some () → frame.ethertype = .arp) := by
  unfold Proxy.allowedFromHost
  split
  · next htype => exact ⟨rfl, fun _ => htype⟩
  · split
    · exact ⟨rfl, by simp⟩
    · simp_all
  · exact ⟨rfl, by simp⟩

/-- The events of a history that were let through were written to the other side by this turn. -/
def Turn.Records (crates : Crates) (turn : Turn) (steps : List (Step Clocked Event)) : Prop :=
  ∀ t ∈ steps, ∀ direction destinationMac pkt now,
    t.label = .packet direction destinationMac pkt now →
    (t.pre.proxy.decidePacket crates direction destinationMac pkt now).2 = some () →
    turn.Transmits pkt now direction

/-- One step of the loop is at most one event of its proxy. -/
def Simulated
    (crates : Crates)
    (c : Clocked)
    (vmMacAddress : EthernetAddress)
    (turn : Turn)
    (s' : Serving) :
    Prop :=
  ∃ steps c',
    Run (EventStep crates) c steps c' ∧ s'.Abstracts c' ∧
    steps.map (·.label) = turn.cause.events vmMacAddress ∧ turn.Records crates steps

/-- A turn that is no event for the proxy. -/
theorem Simulated.of_no_event
    {vmMacAddress : EthernetAddress}
    (habstracts : s.Abstracts c)
    (hproxy : s'.endpoint.proxy = s.endpoint.proxy)
    (hclock : s.clock ≤ s'.clock)
    (hevents : turn.cause.events vmMacAddress = []) :
    Simulated crates c vmMacAddress turn s' :=
  ⟨[], c, .nil, ⟨habstracts.proxy.trans hproxy.symm, habstracts.clock.trans hclock⟩,
    by simp [hevents], by simp [Turn.Records]⟩

/-- A turn that is one event for the proxy. -/
theorem Simulated.of_event
    {vmMacAddress : EthernetAddress}
    (event : Event)
    (habstracts : s.Abstracts c)
    (hlater : s.clock ≤ event.time)
    (hproxy : s'.endpoint.proxy = s.endpoint.proxy.handle crates event)
    (hclock : event.time ≤ s'.clock)
    (hevents : turn.cause.events vmMacAddress = [event])
    (hrecords : ∀ direction destinationMac pkt now,
      event = .packet direction destinationMac pkt now →
      (s.endpoint.proxy.decidePacket crates direction destinationMac pkt now).2 = some () →
      turn.Transmits pkt now direction) :
    Simulated crates c vmMacAddress turn s' := by
  have hstep : EventStep crates c event ⟨c.proxy.handle crates event, event.time⟩ :=
    .handle (habstracts.clock.trans hlater)
  refine ⟨_, _, Run.nil.snoc hstep, ⟨?_, hclock⟩, by simp [hevents], ?_⟩
  · rw [hproxy, ← habstracts.proxy]
  · intro t ht direction destinationMac pkt now hlabel hadmitted
    obtain rfl : t = ⟨c, event, ⟨c.proxy.handle crates event, event.time⟩⟩ := by
      simpa using ht
    refine hrecords direction destinationMac pkt now hlabel ?_
    rwa [← habstracts.proxy]

theorem VmTurn.simulated
    {next : ServingPhase} {frame : Option EthernetFrame} {now : Instant}
    {answers : WriteAnswers} {effects : List Effect}
    (h : VmTurn crates dhcpCrates s next frame now answers s' effects)
    (habstracts : s.Abstracts c)
    (later : s.clock ≤ now) :
    Simulated crates c s.endpoint.proxy.vmMacAddress ⟨.vmFrame frame now answers, effects⟩ s' := by
  obtain ⟨rfl, ⟨rfl, hsame, rfl⟩ | ⟨taken, result, rfl, outcome⟩⟩ := h.cases
  · exact .of_no_event habstracts (congrArg Endpoint.proxy hsame) later rfl
  · have hproxy := outcome.proxy_eq
    cases hjudged : taken.isJudged s.endpoint.proxy.vmMacAddress with
    | false =>
        rw [(Proxy.allowedFromVm_of_not_isJudged hjudged _).1] at hproxy
        exact .of_no_event habstracts hproxy later (by simp [Cause.events, hjudged])
    | true =>
        have hdecided := Proxy.allowedFromVm_of_isJudged crates hjudged s'.clock
        rw [hdecided] at hproxy
        refine .of_event (.packet .fromVm taken.dstAddr taken.ipv4 s'.clock) habstracts later
          hproxy le_rfl (by simp [Cause.events, hjudged]) ?_
        intro direction destinationMac pkt now hevent hadmitted
        cases hevent
        have heffects := outcome.effects_of_allowed (by rw [hdecided]; exact hadmitted)
        exact ⟨taken, answers, answers.host, rfl, rfl, by simp_all⟩

theorem HostTurn.simulated
    {next : ServingPhase} {frame : Option EthernetFrame} {now : Instant}
    {answer peerAddr : Except IoError Unit} {effects : List Effect}
    (h : HostTurn s next frame now answer peerAddr s' effects)
    (habstracts : s.Abstracts c)
    (later : s.clock ≤ now) :
    Simulated crates c s.endpoint.proxy.vmMacAddress
      ⟨.hostFrame frame now answer peerAddr, effects⟩ s' := by
  obtain ⟨rfl, ⟨rfl, hsame, rfl⟩ | ⟨taken, result, rfl, outcome⟩⟩ := h.cases
  · exact .of_no_event habstracts (congrArg Endpoint.proxy hsame) later rfl
  · have hproxy := outcome.proxy_eq
    by_cases hipv4 : taken.ethertype = .ipv4 ∧ taken.ipv4Parses = true
    · have hdecided := Proxy.allowedFromHost_of_ipv4 crates s.endpoint.proxy hipv4 s'.clock
      rw [hdecided] at hproxy
      refine .of_event (.packet .fromHost taken.dstAddr taken.ipv4 s'.clock) habstracts later
        hproxy le_rfl (by simp [Cause.events, hipv4]) ?_
      intro direction destinationMac pkt now hevent hadmitted
      cases hevent
      have hwritten := outcome.toVm_mem_of_allowed (by rw [hdecided]; exact hadmitted)
      exact ⟨taken, answer, peerAddr, answer, rfl, rfl, hwritten⟩
    · rw [(Proxy.allowedFromHost_of_not_ipv4 hipv4 _).1] at hproxy
      exact .of_no_event habstracts hproxy later (by simp [Cause.events, hipv4])

theorem ServingStep.simulated
    (h : ServingStep crates dhcpCrates s turn s')
    (habstracts : s.Abstracts c) :
    Simulated crates c s.endpoint.proxy.vmMacAddress turn s' := by
  cases h.outcome with
  | vm later taken => exact taken.simulated habstracts later
  | host later taken => exact taken.simulated habstracts later
  | @command command order now later =>
      refine .of_event (command.event order now) habstracts ?_ rfl ?_ rfl ?_
      · cases command <;> exact later
      · cases command <;> exact le_rfl
      · intro direction destinationMac pkt now habsurd
        cases command <;> cases habsurd
  | idle nothing same later =>
      exact .of_no_event habstracts (congrArg Endpoint.proxy same) later
        (Cause.events_of_isIdle nothing _)

end Refinement

/-! ## A small exchange -/

section Exchange

def MessageType.number : MessageType → UInt8
  | .discover => 1
  | .offer => 2
  | .request => 3
  | .decline => 4
  | .ack => 5
  | .nak => 6
  | .release => 7
  | .inform => 8
  | .other number => number

/-- The octets of an option on the wire. -/
def DhcpOption.octets (option : DhcpOption) : List UInt8 :=
  let field := fun (code : UInt8) (bytes : List UInt8) =>
    code :: UInt8.ofNat bytes.length :: bytes
  let addresses := fun addresses : List Ipv4Address =>
    addresses.flatMap fun address => Octets.octets 4 address.toNat
  match option with
  | .subnetMask address => field 1 (addresses [address])
  | .router routers => field 3 (addresses routers)
  | .domainNameServer servers => field 6 (addresses servers)
  | .requestedIpAddress address => field 50 (addresses [address])
  | .addressLeaseTime seconds => field 51 (Octets.octets 4 seconds.toNat)
  | .messageType kind => field 53 [kind.number]
  | .serverIdentifier address => field 54 (addresses [address])
  | .clientIdentifier bytes => field 61 bytes
  | .domainSearch domains => field 119 (domains.flatMap fun domain =>
      ((domain.splitOn ".").flatMap fun label =>
        UInt8.ofNat label.utf8ByteSize :: label.toUTF8.toList) ++ [0])
  | .other number bytes => field number bytes

/-- The octets of a message, with the options that clients and servers send here. -/
def Message.octets (message : Message) : List UInt8 :=
  let opcode : UInt8 := match message.opcode with
    | .bootRequest => 1
    | .bootReply => 2
    | .unknown number => number
  let htype : UInt8 := match message.htype with
    | .eth => 1
    | .other number => number
  let options := [OptionCode.messageType, .serverIdentifier, .clientIdentifier,
    .requestedIpAddress, .subnetMask, .router, .domainNameServer, .addressLeaseTime,
    .domainSearch].filterMap message.opts.get
  [opcode, htype, message.hlen, 0] ++ Octets.octets 4 message.xid.toNat ++ [0, 0] ++
    Octets.octets 2 message.flags.toNat ++ Octets.octets 4 message.ciaddr.toNat ++
    Octets.octets 4 message.yiaddr.toNat ++ [0, 0, 0, 0] ++
    Octets.octets 4 message.giaddr.toNat ++ message.chaddrField ++ List.replicate 192 0 ++
    [0x63, 0x82, 0x53, 0x63] ++ options.flatMap DhcpOption.octets ++ [255]

/-- A discovery of the VM `10.0.0.2`. -/
def discovery : Message :=
  (Message.default.setChaddr (macOctets 0x020000000002)).insert (.messageType .discover)

/-- Messages are written on the wire, and the discovery is read from it. -/
def discoveringCrates : DhcpCrates where
  udpParses _ _ := true
  fromBytes bytes := if bytes = discovery.octets then some discovery else none
  toVec message := .ok message.octets

def workingSockets : WriteAnswers :=
  ⟨.ok (), .ok ()⟩

/-- A frame of the VM `10.0.0.2`. -/
def frameOfVm (pkt : Ipv4Packet) : EthernetFrame :=
  ⟨0x020000000002, 0, .ipv4, none, pkt, true⟩

def frameForVm (pkt : Ipv4Packet) : EthernetFrame :=
  ⟨0, 0x020000000002, .ipv4, none, pkt, true⟩

def Proxy.enterLoop (proxy : Proxy) : Serving :=
  ⟨.new proxy 0xffffff00 [], 0, .selecting⟩

/-- The loop selects, and a packet of the VM is there. -/
def Serving.takeFromVm (s : Serving) (pkt : Ipv4Packet) (now : Instant) : Step Serving Turn :=
  let (s', effects) := s.afterVmFrame plainCrates discoveringCrates (some (frameOfVm pkt)) now
    workingSockets (.bursting burstRemainder)
  ⟨s, ⟨.vmFrame (some (frameOfVm pkt)) now workingSockets, effects⟩, s'⟩

theorem Serving.run_takeFromVm
    {s : Serving} {now : Instant}
    (selecting : s.phase = .selecting)
    (pkt : Ipv4Packet)
    (later : s.clock ≤ now) :
    Run (ServingStep plainCrates discoveringCrates) s [s.takeFromVm pkt now]
      (s.takeFromVm pkt now).post :=
  Run.nil.snoc (.vmRead selecting later)

/-- The last frame of a batch. -/
def Serving.takeFromHost
    (s : Serving)
    (pkt : Ipv4Packet)
    (answer : Except IoError Unit) :
    Step Serving Turn :=
  let (s', effects) :=
    s.afterHostFrame (some (frameForVm pkt)) s.clock answer (.ok ()) (.batching [])
  ⟨s, ⟨.hostFrame (some (frameForVm pkt)) s.clock answer (.ok ()), effects⟩, s'⟩

/-- The VM asks the gateway. -/
def requestTaken : Step Serving Turn :=
  askingVm.enterLoop.takeFromVm vmDatagram 5

/-- Then its socket is drained, and the host has a batch. -/
def replyRead : List (Step Serving Turn) :=
  let s := requestTaken.post
  [⟨s, ⟨.vmDrained, []⟩, { s with phase := .selecting }⟩,
    ⟨{ s with phase := .selecting }, ⟨.hostBatch [some (frameForVm hostDatagram)] 6, []⟩,
      { s with clock := 6, phase := .batching [some (frameForVm hostDatagram)] }⟩]

/-- The gateway's reply is taken, and the VM's socket answers the write. -/
def replyTaken (answer : Except IoError Unit) : Step Serving Turn :=
  { requestTaken.post with
    clock := 6, phase := .batching [some (frameForVm hostDatagram)] }.takeFromHost
      hostDatagram answer

def exchange (answer : Except IoError Unit) : List (Step Serving Turn) :=
  requestTaken :: (replyRead ++ [replyTaken answer])

theorem exchange_run (answer : Except IoError Unit) :
    ServingRun plainCrates discoveringCrates askingVm 0xffffff00 [] 0 (exchange answer)
      (replyTaken answer).post :=
  ⟨askingVm_fresh,
    (((Run.nil.snoc (.vmRead rfl (Nat.zero_le _))).snoc
      (.burstDrained rfl ⟨.wouldBlock, none, ""⟩ rfl)).snoc
      (.hostRead rfl (by decide))).snoc (.hostFrame rfl (Nat.le_refl 6))⟩

end Exchange

end Softnet
