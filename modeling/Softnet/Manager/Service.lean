import Softnet.Interface
import Softnet.Manager.Initialization

/-!
# A manager at work

The model of `Manager::run`, `dispatch`, `shutdown` and `ProxyHandle` in `lib/manager.rs`,
around the model of `initialize`.

* Somebody holds the manager and calls `initialize`, `run` and `shutdown`, one at a time,
  and may drop each of these futures where it waits.
* The control task sends requests, and ends when it likes.
* The worker of a batch owns the proxies it has built until it hands them over; a worker
  that is over drops those it still has.
* The task of a VM owns its proxy and the receiver of its commands.  It finalizes and drops
  the proxy when `Proxy::run` is over.

A proxy owns the interface of its VM (`VmSide`), which is stopped by whoever disposes of
the proxy.  As in `main`, nothing but `shutdown` follows a failed activation or a future that
was dropped; such a manager is *condemned*.

A task of the same identity is aborted at once when another takes its place.  Outside of the
model: what the control task reads and writes, and what is logged about its end.
-/

namespace Softnet

/-! ## Requests -/

/-- `Command`, without its reply channel. -/
inductive Command where
  | policyGet
  | policySet (allow block : List Rule)

/-- What a command is for the proxy that handles it. -/
def Command.event (order : HashOrder) (now : Instant) : Command → Event
  | .policyGet => .policyGet now
  | .policySet allow block => .policySet order allow block now

/-- What the proxy replies to a command. -/
def Command.reply
    (crates : Crates)
    (order : HashOrder)
    (now : Instant)
    (proxy : Proxy) :
    Command → Policy
  | .policyGet => proxy.policyGet
  | .policySet allow block => (proxy.policySet crates order allow block now).2

/-- `Request`; `GetPolicy` and `SetPolicy` are a target and a command for it. -/
inductive Request where
  | initializeVms (vmNetType : NetType) (vms : List VmConfig)
  | policy (vmId : Option Uuid) (command : Command)

inductive Reply where
  | initialized (vms : List InitializedVm)
  | policy (policy : Policy)

inductive CallError where
  | invalidParams (error : ErrorChain)
  | failed (error : ErrorChain)

def InitializationError.chain : InitializationError → ErrorChain
  | .invalidParams error | .rejected error | .activationFailed error => error

/-- What `dispatch` answers to a request whose initialization fails. -/
def InitializationError.callError : InitializationError → CallError
  | .invalidParams error => .invalidParams error
  | .rejected error => .failed error
  -- The error itself goes to the caller of `run`
  | .activationFailed error => .failed [": ".intercalate error]

/-- `proxy_handle`. -/
def Manager.proxyHandle (texts : Texts) (manager : Manager) (id : Option Uuid) :
    Except ErrorChain VmRef := do
  let id ←
    (id.or manager.defaultVmId).elim
      (.error ["vmId is required unless initialized with exactly one VM"]) .ok
  (manager.proxyHandles.lookup id).elim (.error ["unknown VM " ++ texts.uuidText id]) .ok

/-- The manager after `reap_task`. -/
def Manager.reap (manager : Manager) (id : Uuid) : Manager :=
  { manager with
    proxyHandles := manager.proxyHandles.erase id
    proxyTasks := manager.proxyTasks.erase id }

/-- The result of `reap_task`. -/
def reapResult (texts : Texts) (id : Uuid) : JoinResult → Except ErrorChain Unit
  | .error error => .error ["Softnet VM " ++ texts.uuidText id ++ " task failed", error.message]
  | .ok (.error error) => .error (("Softnet VM " ++ texts.uuidText id ++ " stopped") :: error)
  | .ok (.ok ()) => .ok ()

/-- `proxy_tasks.is_empty()`. -/
def Manager.hasNoTasks (manager : Manager) : Bool :=
  manager.proxyTasks.keys = ∅

/-! ## The side of a VM -/

/-- What belongs to a VM besides its task: waiting commands, and the interface of its proxy. -/
structure VmSide where
  commands : Option Command
  interface : Option Interface

def VmSide.empty : VmSide :=
  ⟨none, none⟩

/-- The receiver of the commands is dropped. -/
def VmSide.hangUp (side : VmSide) : VmSide :=
  { side with commands := none }

/-- The proxy is dropped. -/
def VmSide.dropProxy (answers : FinalizeAnswers) (side : VmSide) : VmSide :=
  { side with interface := side.interface.map (·.drop answers) }

/-- The task holds the receiver of its commands. -/
def VmTask.acceptsCommands (task : VmTask) : Bool :=
  match task.phase with
  | .awaitingProxy | .awaitingStart _ | .forwarding _ => true
  | .cleaning _ _ | .finished _ => false

/-- The task has its proxy, or will find it in its channel. -/
def VmTask.ownsProxy (task : VmTask) : Bool :=
  match task.proxyChannel, task.phase with
  | .sent _, _ | _, .awaitingStart _ | _, .forwarding _ | _, .cleaning _ _ => true
  | _, .awaitingProxy | _, .finished _ => false

/-- The task is aborted with all that it holds. -/
def VmSide.abort (answers : FinalizeAnswers) (task : VmTask) (side : VmSide) : VmSide :=
  if task.ownsProxy then side.hangUp.dropProxy answers else side.hangUp

/-- What a step of a VM means for whoever waits for its reply. -/
inductive VmSign where
  | quiet
  | handled (command : Command) (policy : Policy)
  | hungUp

/-- The steps of the task of a VM with its commands and its interface. -/
inductive VmStep (crates : Crates) : VmTask → VmSide → VmSign → VmTask → VmSide → Prop
  | proxyReceived
      {task : VmTask} {side : VmSide} {proxy : Clocked}
      (phase : task.phase = .awaitingProxy)
      (received : task.proxyChannel.receive = some (some proxy)) :
      VmStep crates task side .quiet
        { task with proxyChannel := .closed, phase := .awaitingStart proxy } side
  | proxyNeverComes
      {task : VmTask} {side : VmSide}
      (phase : task.phase = .awaitingProxy)
      (received : task.proxyChannel.receive = some none) :
      VmStep crates task side .hungUp (.finish (.ok (.ok ()))) side.hangUp
  | startReceived
      {task : VmTask} {side : VmSide} {proxy : Clocked}
      (phase : task.phase = .awaitingStart proxy)
      (received : task.startChannel.receive = some (some ())) :
      VmStep crates task side .quiet
        { task with startChannel := .closed, phase := .forwarding proxy } side
  | startNeverComes
      {task : VmTask} {side : VmSide} {proxy : Clocked}
      (phase : task.phase = .awaitingStart proxy)
      (received : task.startChannel.receive = some none) :
      VmStep crates task side .hungUp
        { task with startChannel := .closed, phase := .cleaning proxy (.ok (.ok ())) } side.hangUp
  | packetHandled
      {task : VmTask} {side : VmSide} {proxy proxy' : Clocked} {direction : FlowDirection}
      {destinationMac : EthernetAddress} {pkt : Ipv4Packet} {now : Instant}
      (phase : task.phase = .forwarding proxy)
      (handled : EventStep crates proxy (.packet direction destinationMac pkt now) proxy') :
      VmStep crates task side .quiet { task with phase := .forwarding proxy' } side
  | commandHandled
      {task : VmTask} {side : VmSide} {proxy proxy' : Clocked} {command : Command}
      {order : HashOrder} {now : Instant}
      (phase : task.phase = .forwarding proxy)
      (received : side.commands = some command)
      (handled : EventStep crates proxy (command.event order now) proxy') :
      VmStep crates task side (.handled command (command.reply crates order now proxy.proxy))
        { task with phase := .forwarding proxy' } { side with commands := none }
  -- `Proxy::run` returns or panics
  | runEnded
      {task : VmTask} {side : VmSide} {proxy : Clocked}
      (phase : task.phase = .forwarding proxy)
      (result : JoinResult) :
      VmStep crates task side .hungUp { task with phase := .cleaning proxy result } side.hangUp
  | cleanedUp
      {task : VmTask} {side : VmSide} {proxy : Clocked} {result : JoinResult}
      {interface : Interface}
      (phase : task.phase = .cleaning proxy result)
      (owned : side.interface = some interface)
      (answers later : FinalizeAnswers) :
      VmStep crates task side .quiet
        (.finish (concludeRun result (.ok (interface.finalize answers).2)))
        { side with interface := some ((interface.finalize answers).1.drop later) }
  -- The cleanup never begins, and the proxy is dropped with it
  | cleanupLost
      {task : VmTask} {side : VmSide} {proxy : Clocked} {result : JoinResult}
      (phase : task.phase = .cleaning proxy result)
      (error : JoinError)
      (answers : FinalizeAnswers) :
      VmStep crates task side .quiet
        (.finish (concludeRun result (.error error))) (side.dropProxy answers)

/-- The positions of the proxies that the worker owns. -/
def Worker.owned : Worker → List Nat
  | .building _ proxies => List.range proxies.length
  | .handing next proxies => List.range' next proxies.length
  | .unspawned | .creating | .finished _ => []

/-- What a step of the worker of batch `b` does to the interfaces. -/
def sidesAfterWorker
    (sides : VmRef → VmSide)
    (b : Nat)
    (before : Batch)
    (milestone : Milestone)
    (after : Batch)
    (answers : Nat → FinalizeAnswers)
    (vm : VmRef) :
    VmSide :=
  if vm.batch = b then
    if milestone = .proxyBuilt vm.index then
      { sides vm with interface := some .new }
    -- A worker that is over drops what it still owns
    else if after.worker.isWorking = false ∧ vm.index ∈ before.worker.owned then
      (sides vm).dropProxy (answers vm.index)
    else
      sides vm
  else
    sides vm

/-! ## The holder of the manager -/

/-- What follows `finish_control`. -/
inductive Goal where
  | keepRunning
  | endRun (result : Except ErrorChain Unit)
  | shutDown

/-- Where whoever holds the manager is. -/
inductive Activity where
  | idle
  /-- In `initialize`, called directly. -/
  | initializing
  /-- In the `select!` of `run`. -/
  | running
  /-- In `initialize`, called by `dispatch`. -/
  | dispatching
  /-- A command waits for room in the channel of the VM. -/
  | offering (vm : VmRef) (vmId : Option Uuid) (command : Command)
  | acknowledging (vm : VmRef) (reply : Oneshot Policy)
  | finishingControl (drained : Bool) (goal : Goal)
  /-- `run` has its result. -/
  | leaving (result : Except ErrorChain Unit)
  | joiningWorker
  | joiningTasks (result : Except ErrorChain Unit)

namespace Activity

/-- A future is dropped here; the one of `initialize` has its own rule. -/
def awaits : Activity → Bool
  | .running | .offering _ _ _ | .acknowledging _ _ | .finishingControl _ _ | .joiningWorker
  | .joiningTasks _ => true
  | .idle | .initializing | .dispatching | .leaving _ => false

/-- What whoever waits for a reply finds after a step of the VM. -/
def hear (vm : VmRef) (sign : VmSign) : Activity → Activity
  | .acknowledging target reply =>
      if target = vm then
        match sign with
        | .quiet => .acknowledging target reply
        | .handled _ policy => .acknowledging target (reply.afterSend policy)
        | .hungUp => .acknowledging target reply.dropSender
      else
        .acknowledging target reply
  | activity => activity

/-- After a step of `initialize`. -/
def afterCall (activity : Activity) : Milestone → Activity
  | .cancelled => .idle
  | .returnedOk _ =>
      match activity with
      | .dispatching => .running
      | _ => .idle
  | .returnedErr error =>
      match activity with
      | .dispatching => .finishingControl false (.endRun (.error error.chain))
      | _ => .idle
  | _ => activity

/-- After `run` has reaped a task. -/
def afterReap (result : Except ErrorChain Unit) (last : Bool) : Activity :=
  match result with
  | .error error => .leaving (.error error)
  -- `run` ends with the last proxy, even if the control task goes on
  | .ok () => if last then .finishingControl false (.endRun (.ok ())) else .running

end Activity

def Goal.next : Goal → Activity
  | .keepRunning => .running
  | .endRun result => .leaving result
  | .shutDown => .joiningWorker

/-- `shutdown` closes every command channel after `finish_control`. -/
def Goal.manager (manager : Manager) : Goal → Manager
  | .keepRunning | .endRun _ => manager
  | .shutDown => { manager with proxyHandles := ∅ }

/-- A call of `initialize` that fails or is dropped. -/
def Milestone.condemns : Milestone → Bool
  | .returnedErr _ | .cancelled => true
  | .silent | .proxyBuilt _ | .handedOver _ | .privilegesDropped | .enteredRun _
  | .returnedOk _ => false

inductive ControlTask where
  | serving
  | ended
deriving DecidableEq

/-- A manager, everything it has set up, and whoever uses it. -/
structure Service where
  world : World
  sides : VmRef → VmSide
  control : Option ControlTask
  callsClosed : Bool
  queued : Option Request
  activity : Activity
  condemned : Bool

def Service.new (control : Option ControlTask) : Service :=
  ⟨.new, fun _ => .empty, control, false, none, .idle, false⟩

/-- What a step is, seen from outside. -/
inductive Occurrence where
  | internal
  /-- The host of this VM is constructed. -/
  | built (vm : VmRef)
  | answered (result : Except CallError Reply)
  /-- The command of a request for `vmId` is in the channel of this VM. -/
  | delivered (vmId : Option Uuid) (vm : VmRef) (command : Command)
  | handled (vm : VmRef) (command : Command)
  | reaped (vmId : Uuid)
  | initializeReturned (result : Except InitializationError (List InitializedVm))
  | runReturned (result : Except ErrorChain Unit)
  | shutdownReturned (result : Except ErrorChain Unit)
  | cancelled

def Occurrence.ofWorker (b : Nat) : Milestone → Occurrence
  | .proxyBuilt index => .built ⟨b, index⟩
  | _ => .internal

def Occurrence.ofVm (vm : VmRef) : VmSign → Occurrence
  | .handled command _ => .handled vm command
  | .quiet | .hungUp => .internal

def Occurrence.ofCall (activity : Activity) : Milestone → Occurrence
  | .cancelled => .cancelled
  | .returnedOk vms =>
      match activity with
      | .dispatching => .answered (.ok (.initialized vms))
      | _ => .initializeReturned (.ok vms)
  | .returnedErr error =>
      match activity with
      | .dispatching => .answered (.error error.callError)
      | _ => .initializeReturned (.error error)
  | _ => .internal

/-- The call of a validated request begins. -/
def World.call (w : World) (plan : Plan) : World :=
  { w with batches := w.batches ++ [.new plan], busy := some w.batches.length }

/-- The task of this VM in a world. -/
def World.task? (w : World) (vm : VmRef) : Option VmTask :=
  w.batches[vm.batch]?.bind (·.tasks[vm.index]?)

/-- The world with another task of this VM. -/
def World.setTask (w : World) (vm : VmRef) (task : VmTask) : World :=
  { w with
    batches := w.batches.modify vm.batch fun batch =>
      { batch with tasks := batch.tasks.set vm.index task } }

def World.setManager (w : World) (manager : Manager) : World :=
  { w with manager := manager }

section Steps

variable (crates : Crates)
variable (texts : Texts)

/-- The steps of the holder of the manager outside of `initialize`. -/
inductive HolderStep : Service → Occurrence → Service → Prop
  | initializeRejected
      {s : Service} {surroundings : Surroundings} {netType : NetType} {vms : List VmConfig}
      {error : InitializationError}
      (idle : s.activity = .idle)
      (sane : s.condemned = false)
      (prepared : s.world.manager.prepare texts surroundings netType vms = .error error) :
      HolderStep s (.initializeReturned (.error error)) s
  | initializeCalled
      {s : Service} {surroundings : Surroundings} {netType : NetType} {vms : List VmConfig}
      {plan : Plan}
      (idle : s.activity = .idle)
      (sane : s.condemned = false)
      (prepared : s.world.manager.prepare texts surroundings netType vms = .ok plan) :
      HolderStep s .internal
        { s with world := s.world.call plan, activity := .initializing }
  -- `run`
  | runStarted
      {s : Service}
      (idle : s.activity = .idle)
      (sane : s.condemned = false) :
      HolderStep s .internal { s with activity := .running }
  | reaped
      {s : Service} {vmId : Uuid} {vm : VmRef} {task : VmTask} {result : JoinResult}
      (running : s.activity = .running)
      (tracked : s.world.manager.proxyTasks.lookup vmId = some vm)
      (spawned : s.world.task? vm = some task)
      (ended : task.phase = .finished result) :
      HolderStep s (.reaped vmId)
        { s with
          world := s.world.setManager (s.world.manager.reap vmId)
          activity := .afterReap (reapResult texts vmId result)
            (s.world.manager.reap vmId).hasNoTasks }
  | controlGone
      {s : Service}
      (running : s.activity = .running)
      (ended : s.control = some .ended) :
      HolderStep s .internal
        { s with control := none, activity := .finishingControl false .keepRunning }
  | requestRejected
      {s : Service} {surroundings : Surroundings} {netType : NetType} {vms : List VmConfig}
      {error : InitializationError}
      (running : s.activity = .running)
      (received : s.queued = some (.initializeVms netType vms))
      (prepared : s.world.manager.prepare texts surroundings netType vms = .error error) :
      HolderStep s (.answered (.error error.callError)) { s with queued := none }
  | requestCalled
      {s : Service} {surroundings : Surroundings} {netType : NetType} {vms : List VmConfig}
      {plan : Plan}
      (running : s.activity = .running)
      (received : s.queued = some (.initializeVms netType vms))
      (prepared : s.world.manager.prepare texts surroundings netType vms = .ok plan) :
      HolderStep s .internal
        { s with world := s.world.call plan, queued := none, activity := .dispatching }
  | misaddressed
      {s : Service} {vmId : Option Uuid} {command : Command} {error : ErrorChain}
      (running : s.activity = .running)
      (received : s.queued = some (.policy vmId command))
      (refused : s.world.manager.proxyHandle texts vmId = .error error) :
      HolderStep s (.answered (.error (.invalidParams error))) { s with queued := none }
  | addressed
      {s : Service} {vmId : Option Uuid} {command : Command} {vm : VmRef}
      (running : s.activity = .running)
      (received : s.queued = some (.policy vmId command))
      (found : s.world.manager.proxyHandle texts vmId = .ok vm) :
      HolderStep s .internal
        { s with queued := none, activity := .offering vm vmId command }
  | accepted
      {s : Service} {vmId : Option Uuid} {command : Command} {vm : VmRef} {task : VmTask}
      (offering : s.activity = .offering vm vmId command)
      (spawned : s.world.task? vm = some task)
      (held : task.acceptsCommands = true)
      (room : (s.sides vm).commands = none) :
      HolderStep s (.delivered vmId vm command)
        { s with
          sides := Function.update s.sides vm { s.sides vm with commands := some command }
          activity := .acknowledging vm .waiting }
  | unaccepted
      {s : Service} {vmId : Option Uuid} {command : Command} {vm : VmRef} {task : VmTask}
      (offering : s.activity = .offering vm vmId command)
      (spawned : s.world.task? vm = some task)
      (dropped : task.acceptsCommands = false) :
      HolderStep s
        (.answered (.error (.failed
          ["VM proxy task stopped before accepting command", "channel closed"])))
        { s with activity := .running }
  | acknowledged
      {s : Service} {vm : VmRef} {policy : Policy}
      (waiting : s.activity = .acknowledging vm (.sent policy)) :
      HolderStep s (.answered (.ok (.policy policy))) { s with activity := .running }
  | unacknowledged
      {s : Service} {vm : VmRef}
      (waiting : s.activity = .acknowledging vm .abandoned) :
      HolderStep s
        (.answered (.error (.failed
          ["VM proxy task stopped before acknowledging command", "channel closed"])))
        { s with activity := .running }
  -- No proxy task, no control task, no request
  | ranOut
      {s : Service}
      (running : s.activity = .running)
      (tasks : s.world.manager.hasNoTasks = true)
      (control : s.control = none)
      (queued : s.queued = none) :
      HolderStep s .internal { s with activity := .finishingControl false (.endRun (.ok ())) }
  | runReturned
      {s : Service} {result : Except ErrorChain Unit}
      (leaving : s.activity = .leaving result) :
      HolderStep s (.runReturned result) { s with activity := .idle }
  -- `finish_control`
  | callsDrained
      {s : Service} {goal : Goal}
      (finishing : s.activity = .finishingControl false goal) :
      HolderStep s .internal
        { s with
          callsClosed := true
          queued := none
          activity := .finishingControl true goal }
  | controlJoined
      {s : Service} {goal : Goal}
      (finishing : s.activity = .finishingControl true goal)
      (ended : s.control ≠ some .serving) :
      HolderStep s .internal
        { s with
          world := s.world.setManager (goal.manager s.world.manager)
          control := none
          activity := goal.next }
  -- `shutdown`; the control task is aborted, so that it ends when it likes
  | shutdownStarted
      {s : Service}
      (idle : s.activity = .idle) :
      HolderStep s .internal { s with activity := .finishingControl false .shutDown }
  | noWorker
      {s : Service}
      (joining : s.activity = .joiningWorker)
      (none_left : s.world.manager.initialization = none) :
      HolderStep s .internal { s with activity := .joiningTasks (.ok ()) }
  | workerJoined
      {s : Service} {b : Nat} {batch : Batch} {result : JoinResult}
      (joining : s.activity = .joiningWorker)
      (retained : s.world.manager.initialization = some b)
      (present : s.world.batches[b]? = some batch)
      (ended : batch.worker = .finished result) :
      HolderStep s .internal
        { s with
          world := s.world.setManager { s.world.manager with initialization := none }
          activity := .joiningTasks (finishInitialization result) }
  | taskJoined
      {s : Service} {vmId : Uuid} {vm : VmRef} {task : VmTask} {result : JoinResult}
      {outcome : Except ErrorChain Unit}
      (joining : s.activity = .joiningTasks outcome)
      (tracked : s.world.manager.proxyTasks.lookup vmId = some vm)
      (spawned : s.world.task? vm = some task)
      (ended : task.phase = .finished result) :
      HolderStep s (.reaped vmId)
        { s with
          world := s.world.setManager (s.world.manager.reap vmId)
          -- The first failure is kept
          activity := .joiningTasks (outcome.bind fun _ => reapResult texts vmId result) }
  | shutdownReturned
      {s : Service} {outcome : Except ErrorChain Unit}
      (joining : s.activity = .joiningTasks outcome)
      (tasks : s.world.manager.hasNoTasks = true) :
      HolderStep s (.shutdownReturned outcome) { s with activity := .idle }
  | cancelled
      {s : Service}
      (waiting : s.activity.awaits = true) :
      HolderStep s .cancelled { s with activity := .idle, condemned := true }

/-- The task of this VM is over. -/
def World.HasFinished (w : World) (vm : VmRef) : Prop :=
  ∃ task result, w.task? vm = some task ∧ task.phase = .finished result

/-- The steps of a manager, of whoever holds it, and of everything it has set up. -/
inductive ServiceStep : Service → Occurrence → Service → Prop
  | holder
      {s s' : Service} {occurrence : Occurrence}
      (step : HolderStep texts s occurrence s') :
      ServiceStep s occurrence s'
  | call
      {s : Service} {b : Nat} {batch batch' : Batch} {milestone : Milestone}
      {manager' : Manager}
      (holder : s.world.busy = some b)
      (present : s.world.batches[b]? = some batch)
      (step : CallStep b s.world.manager batch milestone manager' batch')
      -- A task takes the place of another one only when that one is over
      (free : ∀ vm old,
        batch.call = .registering →
        batch.plan.vms[batch.tasks.length]? = some vm →
        s.world.manager.proxyTasks.lookup vm.vmId = some old →
        s.world.HasFinished old) :
      ServiceStep s (.ofCall s.activity milestone)
        { s with
          world :=
            { manager := manager'
              batches := s.world.batches.set b batch'
              busy := if batch'.call.inProgress then some b else none }
          activity := s.activity.afterCall milestone
          condemned := s.condemned || milestone.condemns }
  -- `JoinMap::spawn` aborts the task of the same identity
  | replaced
      {s : Service} {b : Nat} {batch : Batch} {next : ConfiguredVm} {vm : VmRef}
      {task : VmTask}
      (holder : s.world.busy = some b)
      (present : s.world.batches[b]? = some batch)
      (registering : batch.call = .registering)
      (registered : batch.plan.vms[batch.tasks.length]? = some next)
      (tracked : s.world.manager.proxyTasks.lookup next.vmId = some vm)
      (spawned : s.world.task? vm = some task)
      (held : task.acceptsCommands = true)
      (error : JoinError)
      (answers : FinalizeAnswers) :
      ServiceStep s .internal
        { s with
          world := s.world.setTask vm (.finish (.error error))
          sides := Function.update s.sides vm ((s.sides vm).abort answers task) }
  | worker
      {s : Service} {b : Nat} {batch batch' : Batch} {milestone : Milestone}
      (present : s.world.batches[b]? = some batch)
      (step : WorkerStep crates texts batch milestone batch')
      (answers : Nat → FinalizeAnswers) :
      ServiceStep s (.ofWorker b milestone)
        { s with
          world := s.world.update b batch'
          sides := sidesAfterWorker s.sides b batch milestone batch' answers }
  | vm
      {s : Service} {vm : VmRef} {task task' : VmTask} {sign : VmSign} {side' : VmSide}
      (spawned : s.world.task? vm = some task)
      (step : VmStep crates task (s.sides vm) sign task' side') :
      ServiceStep s (.ofVm vm sign)
        { s with
          world := s.world.setTask vm task'
          sides := Function.update s.sides vm side'
          activity := s.activity.hear vm sign }
  | requestSent
      {s : Service}
      (serving : s.control = some .serving)
      (opened : s.callsClosed = false)
      (room : s.queued = none)
      (request : Request) :
      ServiceStep s .internal { s with queued := some request }
  | controlEnded
      {s : Service}
      (serving : s.control = some .serving) :
      ServiceStep s .internal { s with control := some .ended }

end Steps

end Softnet
