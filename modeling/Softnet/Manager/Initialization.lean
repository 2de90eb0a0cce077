import Softnet.Dhcp.Server
import Softnet.Lib.Oneshot
import Softnet.Network
import Softnet.Proxy.Runs
import Mathlib.Data.Finmap

/-!
# Initializing a batch of VMs

The model of `Manager::initialize` in `lib/manager.rs`.  A call runs in four
parties at once.

* The future of the call validates the batch, registers one task for each VM,
  starts the blocking worker and waits for it.  Then it drops the privileges of
  the process and sends every task its start signal.
* The worker creates the network and every proxy, and hands the proxies over.
* A task of a VM waits for its proxy, then for its start signal, and only then
  enters `Proxy::run`.
* Whoever holds the future may drop it where it waits.

The parties meet in two one-shot channels for each VM: the worker holds the
senders of the proxies, the future those of the start signals.  Each step below
is one that a single party takes; the steps of different parties interleave in
any order.  A manager may be called again after a failed or cancelled call, so a
world keeps every batch that was ever registered, and a batch goes on after its
call is over.

Outside of the model: the control socket, the identity the process takes when it
drops its privileges, and the sockets of the VMs.
-/

namespace Softnet

/-- One VM of a request, without its packet socket. -/
structure VmConfig where
  vmMacAddress : EthernetAddress
  name : Option Name
  allow : List Rule
  block : List Rule
  exposedPorts : List ExposedPort

structure InitializedVm where
  vmId : Uuid
  vmMacAddress : EthernetAddress
deriving DecidableEq

inductive InitializationError where
  | invalidParams (error : ErrorChain)
  | rejected (error : ErrorChain)
  | activationFailed (error : ErrorChain)
deriving DecidableEq, Repr

/-! ## The manager and the validation of a request -/

/-- A VM by the batch that registered it and its position there. -/
structure VmRef where
  batch : Nat
  index : Nat
deriving DecidableEq

/--
The fields of the manager that initialization reads or writes.  A handle or a task
stands for the VM it belongs to, and the retained worker for its batch.
-/
structure Manager where
  proxyHandles : Finmap (fun _ : Uuid => VmRef)
  proxyTasks : Finmap (fun _ : Uuid => VmRef)
  initialization : Option Nat
  initialized : Bool
  defaultVmId : Option Uuid

def Manager.new : Manager :=
  ⟨∅, ∅, none, false, none⟩

/-- What the system answers while a request is validated. -/
structure Surroundings where
  /-- The subnet that `subnet_finder::find_available_subnet` returns. -/
  findAvailableSubnet : (prefixLen : Nat) → Except ErrorChain Ipv4Net
  /-- `VM::new` for the descriptor of the VM at this index. -/
  vmNew : (index : Nat) → Except ErrorChain Unit
  /-- `Uuid::now_v7` for the VM at this index. -/
  nowV7 : (index : Nat) → Uuid
  dnsServerNew : List (Name × Ipv4Address) → Except ErrorChain DnsServer

/-- A VM with the address and the identity it was given. -/
structure ConfiguredVm where
  config : VmConfig
  vmIp : Ipv4Address
  vmId : Uuid

/-- What the validated part of a call hands to the rest of it. -/
structure Plan where
  netType : NetType
  subnet : Ipv4Net
  vms : List ConfiguredVm
  dnsServer : Option DnsServer

/-- The reply of a call that succeeds. -/
def Plan.initialized (plan : Plan) : List InitializedVm :=
  plan.vms.map fun vm => ⟨vm.vmId, vm.config.vmMacAddress⟩

/-- The MAC addresses of a batch are checked in order against those before. -/
def checkMacAddresses
    (texts : Texts)
    (seen : List EthernetAddress) :
    List VmConfig → Except InitializationError Unit
  | [] => .ok ()
  | vm :: vms =>
      if vm.vmMacAddress = dhcpServerMac then
        .error (.rejected
          ["VM MAC address " ++ texts.macText vm.vmMacAddress ++
            " is reserved for the DHCP server"])
      else if vm.vmMacAddress ∈ seen then
        .error (.rejected
          ["VM MAC address " ++ texts.macText vm.vmMacAddress ++ " is already in use"])
      else
        checkMacAddresses texts (vm.vmMacAddress :: seen) vms

/-- Prepares the socket and the address of each VM from `index` on. -/
def configureVms
    (surroundings : Surroundings)
    (subnet : Ipv4Net)
    (index : Nat) :
    List VmConfig → Except InitializationError (List ConfiguredVm)
  | [] => .ok []
  | config :: configs => do
      (context "failed to initialize proxy"
        (context ("failed to prepare VM at index " ++ toString index)
          (surroundings.vmNew index))).mapError .rejected
      -- The first usable address is the gateway's
      let vmIp ←
        (nthHost subnet (index + 1)).elim
          (.error (.rejected
            ["failed to initialize proxy", "shared VM subnet has no available addresses"]))
          .ok
      let rest ← configureVms surroundings subnet (index + 1) configs
      return ⟨config, vmIp, surroundings.nowV7 index⟩ :: rest

/-- `initialize` up to the registration of the first VM task. -/
def Manager.prepare
    (texts : Texts)
    (surroundings : Surroundings)
    (manager : Manager)
    (netType : NetType)
    (vms : List VmConfig) :
    Except InitializationError Plan := do
  if manager.initialized then
    throw (.rejected ["Softnet is already initialized"])
  if vms.isEmpty ∨ maxVms < vms.length then
    throw (.rejected
      ["initialization requires between 1 and " ++ toString maxVms ++ " VMs"])
  checkMacAddresses texts [] vms
  let subnet ←
    (context "failed to initialize proxy"
      (surroundings.findAvailableSubnet subnetPrefixLen)).mapError .rejected
  let configured ← configureVms surroundings subnet 0 vms
  let dnsRecords := configured.filterMap fun vm => vm.config.name.map (·, vm.vmIp)
  let dnsServer ←
    if dnsRecords.isEmpty then
      pure none
    else
      ((surroundings.dnsServerNew dnsRecords).map some).mapError .invalidParams
  return ⟨netType, subnet, configured, dnsServer⟩

/-! ## The parties of a batch -/

/-- `JoinError` of `tokio`, by its text: the joined task panicked or was cancelled. -/
structure JoinError where
  message : String
deriving DecidableEq, Repr

/-- What joining a task gives. -/
abbrev JoinResult : Type := Except JoinError (Except ErrorChain Unit)

/-- Where the task of a VM is; a proxy it owns comes with the time of its last event. -/
inductive TaskPhase where
  | awaitingProxy
  | awaitingStart (proxy : Clocked)
  | forwarding (proxy : Clocked)
  | cleaning (proxy : Clocked) (result : JoinResult)
  | finished (result : JoinResult)

structure VmTask where
  proxyChannel : Oneshot Clocked
  startChannel : Oneshot Unit
  phase : TaskPhase

def VmTask.spawned : VmTask :=
  ⟨.waiting, .waiting, .awaitingProxy⟩

/-- A task that is over holds no receiver any more. -/
def VmTask.finish (result : JoinResult) : VmTask :=
  ⟨.closed, .closed, .finished result⟩

/-- `ProxyHandle::run` once the cleanup is joined. -/
def concludeRun (result cleanup : JoinResult) : JoinResult :=
  match cleanup, result with
  | .error error, _ => .ok (.error ["VM proxy cleanup task failed", error.message])
  | .ok cleanup, .ok (.ok ()) => .ok cleanup
  | .ok _, .ok (.error error) => .ok (.error error)
  -- The panic of `Proxy::run` goes on after the cleanup
  | .ok _, .error panic => .error panic

/-- Where the blocking worker is. -/
inductive Worker where
  | unspawned
  | creating
  | building (network : Network) (proxies : List Clocked)
  | handing (next : Nat) (proxies : List Clocked)
  | finished (result : JoinResult)

/-- The worker runs. -/
def Worker.isWorking : Worker → Bool
  | .unspawned | .finished _ => false
  | .creating | .building _ _ | .handing _ _ => true

/-- Where the future of the call is. -/
inductive CallPhase where
  | registering
  | awaiting
  | droppingPrivileges
  | starting (next : Nat)
  | returned (result : Except InitializationError (List InitializedVm))
  | cancelled

/-- The future of the call still holds the manager. -/
def CallPhase.inProgress : CallPhase → Bool
  | .registering | .awaiting | .droppingPrivileges | .starting _ => true
  | .returned _ | .cancelled => false

structure Batch where
  plan : Plan
  call : CallPhase
  worker : Worker
  tasks : List VmTask

def Batch.new (plan : Plan) : Batch :=
  ⟨plan, .registering, .unspawned, []⟩

/-- What a step of a batch amounts to, seen from outside. -/
inductive Milestone where
  | silent
  | proxyBuilt (index : Nat)
  | handedOver (index : Nat)
  | privilegesDropped
  | enteredRun (index : Nat)
  | returnedOk (vms : List InitializedVm)
  | returnedErr (error : InitializationError)
  | cancelled
deriving DecidableEq

section Parties

variable (crates : Crates)
variable (texts : Texts)

/-! ### The tasks -/

/-- The steps of the task of the VM at `index`. -/
inductive TaskStep (index : Nat) : VmTask → Milestone → VmTask → Prop
  | proxyReceived
      {task : VmTask} {proxy : Clocked}
      (phase : task.phase = .awaitingProxy)
      (received : task.proxyChannel.receive = some (some proxy)) :
      TaskStep index task .silent
        { task with proxyChannel := .closed, phase := .awaitingStart proxy }
  | proxyNeverComes
      {task : VmTask}
      (phase : task.phase = .awaitingProxy)
      (received : task.proxyChannel.receive = some none) :
      TaskStep index task .silent (.finish (.ok (.ok ())))
  | startReceived
      {task : VmTask} {proxy : Clocked}
      (phase : task.phase = .awaitingStart proxy)
      (received : task.startChannel.receive = some (some ())) :
      TaskStep index task (.enteredRun index)
        { task with startChannel := .closed, phase := .forwarding proxy }
  | startNeverComes
      {task : VmTask} {proxy : Clocked}
      (phase : task.phase = .awaitingStart proxy)
      (received : task.startChannel.receive = some none) :
      TaskStep index task .silent
        { task with startChannel := .closed, phase := .cleaning proxy (.ok (.ok ())) }
  | served
      {task : VmTask} {proxy proxy' : Clocked} {event : Event}
      (phase : task.phase = .forwarding proxy)
      (handled : EventStep crates proxy event proxy') :
      TaskStep index task .silent { task with phase := .forwarding proxy' }
  -- `Proxy::run` returns or panics
  | runEnded
      {task : VmTask} {proxy : Clocked}
      (phase : task.phase = .forwarding proxy)
      (result : JoinResult) :
      TaskStep index task .silent { task with phase := .cleaning proxy result }
  | cleanedUp
      {task : VmTask} {proxy : Clocked} {result : JoinResult}
      (phase : task.phase = .cleaning proxy result)
      (cleanup : JoinResult) :
      TaskStep index task .silent (.finish (concludeRun result cleanup))
  -- A task is aborted with the runtime, with the manager, or for a task of the same identity
  | aborted
      {task : VmTask}
      (phase : ∀ result, task.phase ≠ .finished result)
      (error : JoinError) :
      TaskStep index task .silent (.finish (.error error))

/-! ### The worker -/

def Plan.reservations (plan : Plan) : List (EthernetAddress × Ipv4Address) :=
  plan.vms.map fun vm => (vm.config.vmMacAddress, vm.vmIp)

def Plan.portForwardings (plan : Plan) : List (Ipv4Address × ExposedPort) :=
  plan.vms.flatMap fun vm => vm.config.exposedPorts.map fun port => (vm.vmIp, port)

/-- The worker is over; the senders it still holds are dropped. -/
def Batch.stopWorker (batch : Batch) (result : JoinResult) : Batch :=
  { batch with
    worker := .finished result
    tasks := batch.tasks.map fun task =>
      { task with proxyChannel := task.proxyChannel.dropSender } }

/-- `Proxy::new` for one VM of the batch. -/
def ConfiguredVm.newProxy
    (vm : ConfiguredVm)
    (plan : Plan)
    (network : Network)
    (order : HashOrder)
    (interface : Except String Nat)
    (now : Instant) :
    Except String Proxy :=
  Proxy.new crates order interface vm.config.vmMacAddress vm.vmIp network
    vm.config.allow vm.config.block plan.dnsServer now

/-- The steps of the blocking worker. -/
inductive WorkerStep : Batch → Milestone → Batch → Prop
  | networkCreated
      {batch : Batch} {vmnet : Vmnet} {network : Network}
      (phase : batch.worker = .creating)
      (created :
        Network.new crates texts vmnet batch.plan.netType batch.plan.subnet
          batch.plan.reservations batch.plan.portForwardings = .ok network) :
      WorkerStep batch .silent { batch with worker := .building network [] }
  | networkFailed
      {batch : Batch} {vmnet : Vmnet} {error : ErrorChain}
      (phase : batch.worker = .creating)
      (failed :
        Network.new crates texts vmnet batch.plan.netType batch.plan.subnet
          batch.plan.reservations batch.plan.portForwardings = .error error) :
      WorkerStep batch .silent (batch.stopWorker (.ok (.error error)))
  | proxyBuilt
      {batch : Batch} {network : Network} {proxies : List Clocked} {vm : ConfiguredVm}
      {order : HashOrder} {interface : Except String Nat} {now : Instant} {proxy : Proxy}
      (phase : batch.worker = .building network proxies)
      (next : batch.plan.vms[proxies.length]? = some vm)
      (built : vm.newProxy crates batch.plan network order interface now = .ok proxy) :
      WorkerStep batch (.proxyBuilt proxies.length)
        { batch with worker := .building network (proxies ++ [⟨proxy, now⟩]) }
  | proxyFailed
      {batch : Batch} {network : Network} {proxies : List Clocked} {vm : ConfiguredVm}
      {order : HashOrder} {interface : Except String Nat} {now : Instant} {message : String}
      (phase : batch.worker = .building network proxies)
      (next : batch.plan.vms[proxies.length]? = some vm)
      (failed : vm.newProxy crates batch.plan network order interface now = .error message) :
      WorkerStep batch .silent
        (batch.stopWorker
          (.ok (.error
            ["failed to initialize VM at index " ++ toString proxies.length ++
              " (" ++ texts.uuidText vm.vmId ++ ")", message])))
  -- The entire batch is finished before any VM task is given its proxy
  | allBuilt
      {batch : Batch} {network : Network} {proxies : List Clocked}
      (phase : batch.worker = .building network proxies)
      (complete : proxies.length = batch.plan.vms.length) :
      WorkerStep batch .silent { batch with worker := .handing 0 proxies }
  | handedOver
      {batch : Batch} {next : Nat} {proxy : Clocked} {proxies : List Clocked}
      {task : VmTask} {channel : Oneshot Clocked}
      (phase : batch.worker = .handing next (proxy :: proxies))
      (receiver : batch.tasks[next]? = some task)
      (sent : task.proxyChannel.send proxy = .ok channel) :
      WorkerStep batch (.handedOver next)
        { batch with
          worker := .handing (next + 1) proxies
          tasks := batch.tasks.set next { task with proxyChannel := channel } }
  | handoverFailed
      {batch : Batch} {next : Nat} {proxy : Clocked} {proxies : List Clocked}
      {task : VmTask}
      (phase : batch.worker = .handing next (proxy :: proxies))
      (receiver : batch.tasks[next]? = some task)
      (refused : task.proxyChannel.send proxy = .error proxy) :
      WorkerStep batch .silent
        (batch.stopWorker (.ok (.error ["VM task stopped during initialization"])))
  | completed
      {batch : Batch} {next : Nat}
      (phase : batch.worker = .handing next []) :
      WorkerStep batch .silent { batch with worker := .finished (.ok (.ok ())) }
  -- The worker panics, or is cancelled before it begins
  | panicked
      {batch : Batch}
      (phase : batch.worker.isWorking = true)
      (error : JoinError) :
      WorkerStep batch .silent (batch.stopWorker (.error error))

/-! ### The future of the call -/

/-- The call is over without success; the start senders it holds are dropped. -/
def Batch.stopCall (batch : Batch) (call : CallPhase) : Batch :=
  { batch with
    call := call
    tasks := batch.tasks.map fun task =>
      { task with startChannel := task.startChannel.dropSender } }

/-- The call returns this error. -/
def Batch.fail (batch : Batch) (error : ErrorChain) : Batch :=
  batch.stopCall (.returned (.error (.activationFailed error)))

/-- One start signal is sent; a task that is gone is passed over. -/
def Batch.start (batch : Batch) (next : Nat) (task : VmTask) : Batch :=
  { batch with
    call := .starting (next + 1)
    tasks := batch.tasks.set next
      { task with startChannel := task.startChannel.afterSend () } }

/-- A handle and a task are entered under the identity of the VM. -/
def Manager.register (manager : Manager) (vmId : Uuid) (vm : VmRef) : Manager :=
  { manager with
    proxyHandles := manager.proxyHandles.insert vmId vm
    proxyTasks := manager.proxyTasks.insert vmId vm }

/-- Only a single-VM batch has an implicit policy target. -/
def Plan.defaultVmId (plan : Plan) : Option Uuid :=
  match plan.vms with
  | [vm] => some vm.vmId
  | _ => none

/-- `finish_initialization`, once the worker is joined. -/
def finishInitialization : JoinResult → Except ErrorChain Unit
  | .error error => .error ["VM network initialization task failed", error.message]
  | .ok result => result

/-- The steps of the future of the call that registered batch `b`. -/
inductive CallStep (b : Nat) : Manager → Batch → Milestone → Manager → Batch → Prop
  | registered
      {manager : Manager} {batch : Batch} {vm : ConfiguredVm}
      (phase : batch.call = .registering)
      (next : batch.plan.vms[batch.tasks.length]? = some vm) :
      CallStep b manager batch .silent
        (manager.register vm.vmId ⟨b, batch.tasks.length⟩)
        { batch with tasks := batch.tasks ++ [.spawned] }
  | workerSpawned
      {manager : Manager} {batch : Batch}
      (phase : batch.call = .registering)
      (complete : batch.tasks.length = batch.plan.vms.length) :
      CallStep b manager batch .silent
        { manager with initialization := some b }
        { batch with call := .awaiting, worker := .creating }
  | joined
      {manager : Manager} {batch : Batch} {result : JoinResult}
      (phase : batch.call = .awaiting)
      (worker : batch.worker = .finished result)
      (succeeded : finishInitialization result = .ok ()) :
      CallStep b manager batch .silent
        { manager with initialization := none }
        { batch with call := .droppingPrivileges }
  | workerFailed
      {manager : Manager} {batch : Batch} {result : JoinResult} {error : ErrorChain}
      (phase : batch.call = .awaiting)
      (worker : batch.worker = .finished result)
      (failed : finishInitialization result = .error error) :
      CallStep b manager batch
        (.returnedErr (.activationFailed ("failed to initialize proxy" :: error)))
        { manager with initialization := none }
        (batch.fail ("failed to initialize proxy" :: error))
  -- The retained worker stays with the manager
  | cancelled
      {manager : Manager} {batch : Batch}
      (phase : batch.call = .awaiting) :
      CallStep b manager batch .cancelled manager (batch.stopCall .cancelled)
  | privilegesDropped
      {manager : Manager} {batch : Batch}
      (phase : batch.call = .droppingPrivileges) :
      CallStep b manager batch .privilegesDropped
        { manager with initialized := true, defaultVmId := batch.plan.defaultVmId }
        { batch with call := .starting 0 }
  | privilegesKept
      {manager : Manager} {batch : Batch}
      (phase : batch.call = .droppingPrivileges)
      (error : ErrorChain) :
      CallStep b manager batch
        (.returnedErr (.activationFailed ("failed to drop privileges" :: error)))
        manager
        (batch.fail ("failed to drop privileges" :: error))
  | started
      {manager : Manager} {batch : Batch} {next : Nat} {task : VmTask}
      (phase : batch.call = .starting next)
      (receiver : batch.tasks[next]? = some task) :
      CallStep b manager batch .silent manager (batch.start next task)
  | returned
      {manager : Manager} {batch : Batch} {next : Nat}
      (phase : batch.call = .starting next)
      (complete : next = batch.tasks.length) :
      CallStep b manager batch (.returnedOk batch.plan.initialized) manager
        { batch with call := .returned (.ok batch.plan.initialized) }

/-! ## The world of a manager -/

/--
A manager, every batch it ever registered, and the batch whose call holds the manager
now.  A call borrows the manager, so that no two calls overlap.
-/
structure World where
  manager : Manager
  batches : List Batch
  busy : Option Nat

def World.new : World :=
  ⟨.new, [], none⟩

/-- The world after one party of batch `b` has left it as `batch`. -/
def World.update (w : World) (b : Nat) (batch : Batch) : World :=
  { w with batches := w.batches.set b batch }

/-- What a step of a world is about. -/
inductive Happening where
  | rejected (error : InitializationError)
  | called
  | batch (b : Nat) (milestone : Milestone)
  | housekeeping

/-- The steps of the manager, of its callers and of all parties of all batches. -/
inductive WorldStep : World → Happening → World → Prop
  | rejected
      {w : World} {surroundings : Surroundings} {netType : NetType} {vms : List VmConfig}
      {error : InitializationError}
      (free : w.busy = none)
      (prepared : w.manager.prepare texts surroundings netType vms = .error error) :
      WorldStep w (.rejected error) w
  | called
      {w : World} {surroundings : Surroundings} {netType : NetType} {vms : List VmConfig}
      {plan : Plan}
      (free : w.busy = none)
      (prepared : w.manager.prepare texts surroundings netType vms = .ok plan) :
      WorldStep w .called
        { w with batches := w.batches ++ [.new plan], busy := some w.batches.length }
  | call
      {w : World} {b : Nat} {batch batch' : Batch} {milestone : Milestone}
      {manager' : Manager}
      (holder : w.busy = some b)
      (present : w.batches[b]? = some batch)
      (step : CallStep b w.manager batch milestone manager' batch') :
      WorldStep w (.batch b milestone)
        { manager := manager'
          batches := w.batches.set b batch'
          busy := if batch'.call.inProgress then some b else none }
  | worker
      {w : World} {b : Nat} {batch batch' : Batch} {milestone : Milestone}
      (present : w.batches[b]? = some batch)
      (step : WorkerStep crates texts batch milestone batch') :
      WorldStep w (.batch b milestone) (w.update b batch')
  | task
      {w : World} {b index : Nat} {batch : Batch} {task task' : VmTask}
      {milestone : Milestone}
      (present : w.batches[b]? = some batch)
      (spawned : batch.tasks[index]? = some task)
      (step : TaskStep crates index task milestone task') :
      WorldStep w (.batch b milestone)
        (w.update b { batch with tasks := batch.tasks.set index task' })
  -- `reap_task`, from `run` or from `shutdown`
  | reaped
      {w : World} {vmId : Uuid} {vm : VmRef} {batch : Batch} {task : VmTask}
      {result : JoinResult}
      (free : w.busy = none)
      (tracked : w.manager.proxyTasks.lookup vmId = some vm)
      (present : w.batches[vm.batch]? = some batch)
      (spawned : batch.tasks[vm.index]? = some task)
      (ended : task.phase = .finished result) :
      WorldStep w .housekeeping
        { w with
          manager :=
            { w.manager with
              proxyHandles := w.manager.proxyHandles.erase vmId
              proxyTasks := w.manager.proxyTasks.erase vmId } }
  -- `shutdown` closes every command channel
  | handlesCleared
      {w : World}
      (free : w.busy = none) :
      WorldStep w .housekeeping
        { w with manager := { w.manager with proxyHandles := ∅ } }
  -- `shutdown` joins a worker that a cancelled call left behind
  | workerJoined
      {w : World} {b : Nat} {batch : Batch} {result : JoinResult}
      (free : w.busy = none)
      (retained : w.manager.initialization = some b)
      (present : w.batches[b]? = some batch)
      (ended : batch.worker = .finished result) :
      WorldStep w .housekeeping
        { w with manager := { w.manager with initialization := none } }

end Parties

end Softnet
