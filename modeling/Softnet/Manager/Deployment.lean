import Softnet.Manager.AllOrNothing

/-!
# The proxy of each VM

A proxy is owned by one party at a time: by the worker that builds it, by the
channel it is sent through, and by the task that runs it and cleans it up.
`BatchStep.carries_cases` says how ownership can move in one step.  It follows
that every task runs the proxy that was built for its own VM, and that the
proxy has done nothing since but handle its events: what is proved about
the reached states of a proxy holds for every proxy that a manager runs.
-/

namespace Softnet

open Transition

section Ownership

variable {crates : Crates}
variable {texts : Texts}
variable {b index : Nat}
variable {batch batch' : Batch}
variable {milestone : Milestone}
variable {s : Clocked}

/-- The worker owns `s` as the proxy of the VM at `index`. -/
def Worker.Carries (worker : Worker) (index : Nat) (s : Clocked) : Prop :=
  match worker with
  | .building _ proxies => proxies[index]? = some s
  | .handing next proxies => next ≤ index ∧ proxies[index - next]? = some s
  | .unspawned | .creating | .finished _ => False

/-- The task owns `s`, or will find it in its channel. -/
def VmTask.Carries (task : VmTask) (s : Clocked) : Prop :=
  task.proxyChannel = .sent s ∨
    match task.phase with
    | .awaitingStart proxy | .forwarding proxy | .cleaning proxy _ => proxy = s
    | .awaitingProxy | .finished _ => False

/-- Somebody owns `s` as the proxy of the VM at `index`. -/
def Batch.Carries (batch : Batch) (index : Nat) (s : Clocked) : Prop :=
  batch.worker.Carries index s ∨ ∃ task, batch.tasks[index]? = some task ∧ task.Carries s

/-- `s` was built just now for this VM. -/
def ConfiguredVm.Builds (crates : Crates) (vm : ConfiguredVm) (plan : Plan) (s : Clocked) : Prop :=
  ∃ network order interface,
    vm.newProxy crates plan network order interface s.clock = .ok s.proxy

/-- `s` was built just now for this VM, on the network that the worker created. -/
def Batch.Builds (crates : Crates) (batch : Batch) (vm : ConfiguredVm) (s : Clocked) : Prop :=
  ∃ network proxies order interface,
    batch.worker = .building network proxies ∧
    vm.newProxy crates batch.plan network order interface s.clock = .ok s.proxy

theorem Batch.Builds.builds
    {vm : ConfiguredVm}
    (h : batch.Builds crates vm s) :
    vm.Builds crates batch.plan s := by
  obtain ⟨network, _, order, interface, _, hnew⟩ := h
  exact ⟨network, order, interface, hnew⟩

theorem VmTask.not_carries_finish (result : JoinResult) :
    ¬ (VmTask.finish result).Carries s := by
  simp [VmTask.finish, VmTask.Carries]

/-- A task keeps its proxy, lets it handle an event, or gives it up. -/
theorem TaskStep.carries_cases
    {task task' : VmTask}
    (h : TaskStep crates index task milestone task')
    (hcarries : task'.Carries s) :
    task.Carries s ∨ ∃ before event, task.Carries before ∧ EventStep crates before event s := by
  cases h with
  | proxyReceived phase received =>
      rcases hcarries with habsurd | hproxy
      · cases habsurd
      · cases hproxy
        exact .inl (.inl (Oneshot.eq_sent_of_receive received))
  | served phase handled =>
      rcases hcarries with hchannel | hproxy
      · exact .inl (.inl hchannel)
      · cases hproxy
        exact .inr ⟨_, _, .inr (by simp [phase]), handled⟩
  | startReceived phase | startNeverComes phase | runEnded phase =>
      rcases hcarries with hchannel | hproxy
      · exact .inl (.inl hchannel)
      · exact .inl (.inr (by simpa [phase] using hproxy))
  | proxyNeverComes | cleanedUp | aborted =>
      exact absurd hcarries (VmTask.not_carries_finish _)

/-- Tasks changed in their channels only carry what they carried. -/
theorem exists_carries_of_map
    {tasks : List VmTask} {f : VmTask → VmTask}
    (hf : ∀ task, (f task).Carries s → task.Carries s)
    (h : ∃ task, (tasks.map f)[index]? = some task ∧ task.Carries s) :
    ∃ task, tasks[index]? = some task ∧ task.Carries s := by
  obtain ⟨task', hget, hcarries⟩ := h
  rw [List.getElem?_map] at hget
  obtain ⟨task, htask, rfl⟩ := Option.map_eq_some_iff.mp hget
  exact ⟨task, htask, hf task hcarries⟩

theorem Batch.Carries.of_stopWorker
    {result : JoinResult}
    (h : (batch.stopWorker result).Carries index s) :
    batch.Carries index s := by
  rcases h with habsurd | htask
  · cases habsurd
  · refine .inr (exists_carries_of_map ?_ htask)
    rintro task (hchannel | hphase)
    · exact .inl (Oneshot.dropSender_eq_sent_iff.mp hchannel)
    · exact .inr hphase

theorem Batch.Carries.of_stopCall
    {call : CallPhase}
    (h : (batch.stopCall call).Carries index s) :
    batch.Carries index s := by
  rcases h with hworker | htask
  · exact .inl hworker
  · refine .inr (exists_carries_of_map ?_ htask)
    exact fun _ hcarries => hcarries

/-- The call owns no proxy. -/
theorem CallStep.carries
    {manager manager' : Manager}
    (h : CallStep b manager batch milestone manager' batch')
    (hcarries : batch'.Carries index s) :
    batch.Carries index s := by
  cases h with
  | registered phase next =>
      rcases hcarries with hworker | ⟨task, hget, htask⟩
      · exact .inl hworker
      · rcases getElem?_concat_cases hget with hget | ⟨_, rfl⟩
        · exact .inr ⟨task, hget, htask⟩
        · simp [VmTask.spawned, VmTask.Carries] at htask
  | workerSpawned =>
      rcases hcarries with habsurd | htask
      · cases habsurd
      · exact .inr htask
  | started phase receiver =>
      rcases hcarries with hworker | ⟨task, hget, htask⟩
      · exact .inl hworker
      · rcases getElem?_set_cases hget with ⟨rfl, rfl⟩ | ⟨_, hget⟩
        · exact .inr ⟨_, receiver, htask⟩
        · exact .inr ⟨task, hget, htask⟩
  | workerFailed | privilegesKept | cancelled => exact hcarries.of_stopCall
  | joined | privilegesDropped | returned => exact hcarries

/-- The worker builds the proxy of a VM for that VM, and hands it to the task of that VM. -/
theorem WorkerStep.carries_cases
    (h : WorkerStep crates texts batch milestone batch')
    (hcarries : batch'.Carries index s) :
    batch.Carries index s ∨
      ∃ vm, batch.plan.vms[index]? = some vm ∧ batch.Builds crates vm s := by
  cases h with
  | networkCreated =>
      rcases hcarries with habsurd | htask
      · cases habsurd
      · exact .inl (.inr htask)
  | proxyBuilt phase next built =>
      rcases hcarries with hworker | htask
      · rcases getElem?_concat_cases hworker with hold | ⟨rfl, rfl⟩
        · exact .inl (.inl (by simpa [phase, Worker.Carries] using hold))
        · exact .inr ⟨_, next, _, _, _, _, phase, built⟩
      · exact .inl (.inr htask)
  | allBuilt phase complete =>
      rcases hcarries with ⟨_, hworker⟩ | htask
      · exact .inl (.inl (by simpa [phase, Worker.Carries] using hworker))
      · exact .inl (.inr htask)
  | @handedOver next proxy proxies _ _ phase receiver sent =>
      rcases hcarries with ⟨hle, hworker⟩ | ⟨task, hget, htask⟩
      · have hlist : (proxy :: proxies)[index - next]? = some s := by
          rwa [show index - next = index - (next + 1) + 1 by omega, List.getElem?_cons_succ]
        exact .inl (.inl (by rw [phase]; exact ⟨by omega, hlist⟩))
      · rcases getElem?_set_cases hget with ⟨rfl, rfl⟩ | ⟨_, hget⟩
        · rcases htask with hchannel | hphase
          · obtain rfl : proxy = s := by
              simpa [Oneshot.eq_sent_of_send sent] using hchannel
            exact .inl (.inl (by rw [phase]; simp [Worker.Carries]))
          · exact .inl (.inr ⟨_, receiver, .inr hphase⟩)
        · exact .inl (.inr ⟨task, hget, htask⟩)
  | completed =>
      rcases hcarries with habsurd | htask
      · cases habsurd
      · exact .inl (.inr htask)
  | networkFailed | proxyFailed | handoverFailed | panicked => exact .inl hcarries.of_stopWorker

/-- In one step a proxy is built, moves to its next owner, or handles an event. -/
theorem BatchStep.carries_cases
    (h : BatchStep crates texts b batch milestone batch')
    (hcarries : batch'.Carries index s) :
    batch.Carries index s ∨
      (∃ vm, batch.plan.vms[index]? = some vm ∧ batch.Builds crates vm s) ∨
      ∃ before event, batch.Carries index before ∧ EventStep crates before event s := by
  cases h with
  | call step => exact .inl (step.carries hcarries)
  | worker step =>
      rcases step.carries_cases hcarries with hsame | hbuilt
      · exact .inl hsame
      · exact .inr (.inl hbuilt)
  | task spawned step =>
      rcases hcarries with hworker | ⟨task, hget, htask⟩
      · exact .inl (.inl hworker)
      · rcases getElem?_set_cases hget with ⟨rfl, rfl⟩ | ⟨_, hget⟩
        · rcases step.carries_cases htask with hsame | ⟨before, event, hbefore, handled⟩
          · exact .inl (.inr ⟨_, spawned, hsame⟩)
          · exact .inr (.inr ⟨before, event, .inr ⟨_, spawned, hbefore⟩, handled⟩)
        · exact .inl (.inr ⟨task, hget, htask⟩)

end Ownership

section Runs

variable {crates : Crates}
variable {texts : Texts}
variable {b index : Nat}
variable {w : World}
variable {batch : Batch}
variable {vm : ConfiguredVm}
variable {s : Clocked}
variable {history : List (Step World Happening)}

/-- A proxy of this VM that has handled its events, and nothing else, since it was built. -/
structure ConfiguredVm.Owns (crates : Crates) (vm : ConfiguredVm) (s : Clocked) : Prop where
  reaches : ∃ events, Reaches crates events s
  vmMacAddress : s.proxy.vmMacAddress = vm.config.vmMacAddress
  vmIp : s.proxy.host.vmIp = vm.vmIp

/-- No event changes which VM a proxy serves. -/
theorem Proxy.handle_identity
    (p : Proxy)
    (crates : Crates)
    (event : Event) :
    (p.handle crates event).host = p.host ∧
      (p.handle crates event).vmMacAddress = p.vmMacAddress := by
  cases event with
  | packet direction destinationMac pkt now =>
      obtain ⟨flows, hframe, _⟩ :=
        (p.decidePacket_outcome crates direction destinationMac pkt now).frame
      simp only [Proxy.handle]
      rw [hframe]
      exact ⟨rfl, rfl⟩
  | policySet order allow block now =>
      simp only [Proxy.handle, Proxy.policySet]
      split <;> exact ⟨rfl, rfl⟩
  | policyGet now => exact ⟨rfl, rfl⟩

theorem ConfiguredVm.Owns.step
    {before : Clocked} {event : Event}
    (h : vm.Owns crates before)
    (handled : EventStep crates before event s) :
    vm.Owns crates s := by
  obtain ⟨events, hreaches⟩ := h.reaches
  obtain ⟨hhost, hmac⟩ := before.proxy.handle_identity crates event
  refine ⟨⟨_, hreaches.append (Run.nil.snoc handled)⟩, ?_, ?_⟩
  · rw [handled.proxy_eq, hmac, h.vmMacAddress]
  · rw [handled.proxy_eq, hhost, h.vmIp]

theorem Proxy.identity_of_new
    {order : HashOrder} {interface : Except String Nat} {vmMacAddress : EthernetAddress}
    {vmIp : Ipv4Address} {network : Network} {allow block : List Rule}
    {dnsServer : Option DnsServer} {now : Instant} {p : Proxy}
    (h :
      Proxy.new crates order interface vmMacAddress vmIp network allow block dnsServer now =
        .ok p) :
    p.vmMacAddress = vmMacAddress ∧ p.host.vmIp = vmIp := by
  cases interface with
  | error message => cases h
  | ok maxPacketSize =>
      cases h
      exact ⟨rfl, rfl⟩

theorem ConfiguredVm.Builds.owns
    {plan : Plan}
    (h : vm.Builds crates plan s) :
    vm.Owns crates s := by
  obtain ⟨network, order, interface, hnew⟩ := h
  obtain ⟨hmac, hip⟩ := Proxy.identity_of_new hnew
  exact ⟨⟨[], s.proxy, s.clock, ⟨_, _, _, _, _, _, _, _, hnew⟩, Run.nil⟩, hmac, hip⟩

/-- Every proxy of the batch belongs to the VM at whose position it is found. -/
def Batch.Deployed (crates : Crates) (batch : Batch) : Prop :=
  ∀ index vm s, batch.plan.vms[index]? = some vm → batch.Carries index s → vm.Owns crates s

theorem Batch.deployed_new (plan : Plan) : (Batch.new plan).Deployed crates := by
  rintro index vm s _ (habsurd | ⟨task, habsurd, _⟩)
  · cases habsurd
  · cases habsurd

theorem BatchStep.deployed
    {batch' : Batch} {milestone : Milestone}
    (h : BatchStep crates texts b batch milestone batch')
    (hbatch : batch.Deployed crates) :
    batch'.Deployed crates := by
  intro index vm s hvm hcarries
  rw [h.plan_eq] at hvm
  rcases h.carries_cases hcarries with
    hsame | ⟨builder, hbuilder, hbuilt⟩ | ⟨before, event, hbefore, handled⟩
  · exact hbatch index vm s hvm hsame
  · obtain rfl := Option.some.inj (hbuilder.symm.trans hvm)
    exact hbuilt.builds.owns
  · exact (hbatch index vm before hvm hbefore).step handled

theorem WorldRun.deployed
    (run : WorldRun crates texts history w)
    (hget : w.batches[b]? = some batch) :
    batch.Deployed crates := by
  refine run.invariant
    (I := fun w => ∀ (b : Nat) (batch : Batch), w.batches[b]? = some batch → batch.Deployed crates)
    (by simp [World.new]) ?_ b batch hget
  exact fun _ _ _ hw h =>
    h.forall_batches (fun plan _ => Batch.deployed_new plan) (fun _ _ _ _ step => step.deployed) hw

/-- Whatever a manager went through, a task forwards with the proxy of its own VM. -/
theorem WorldRun.forwarding_owns
    {task : VmTask}
    (run : WorldRun crates texts history w)
    (hget : w.batches[b]? = some batch)
    (hspawned : batch.tasks[index]? = some task)
    (hforwarding : task.phase = .forwarding s) :
    ∃ vm, batch.plan.vms[index]? = some vm ∧ vm.Owns crates s := by
  have hlt : index < batch.plan.vms.length := by
    have htasks := (run.sound.batches b batch hget).tasks_le
    have hindex := (List.getElem?_eq_some_iff.mp hspawned).1
    simp only [Batch.startChannels, List.length_map] at htasks
    omega
  have hcarries : task.Carries s := .inr (by simp [hforwarding])
  exact ⟨_, List.getElem?_eq_getElem hlt,
    run.deployed hget index _ s (List.getElem?_eq_getElem hlt) (.inr ⟨task, hspawned, hcarries⟩)⟩

end Runs

end Softnet
