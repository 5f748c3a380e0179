import Arp.Lib.Machine
import Arp.Server.Lifecycle

/-!
# Joining and leaving a TCP group

`ProxyManager` treats a registration and a removal as one action each.  For a
member of a load-balancer group both are sequences of short critical sections: a
client that joins looks the group up or founds it, adds its backend, starts the
accept loop and enters the member; one that leaves takes the backend out and, if
none is left, signals the loop, waits for it for up to three seconds, gives the
port back and only then takes the group out of the table.

The machine below takes one step per critical section, for any number of tasks.
`Sound` says what its users rely on.  It fails if a client joins while the group
is being closed, and holds in every run in which no such steps meet (`Apart`).  A
task nobody interrupts does what `registerProxy` and `unregisterKey` say.
-/

namespace Arp.Server.Groups

open Arp.Common Arp.Lib ProxyManager

/-- Where the accept loop of a group is. -/
inductive Loop where
  /-- `ensure_started` has not been called. -/
  | idle
  /-- Spawned; it has not subscribed to the shutdown signal yet. -/
  | starting
  | running
  /-- The shutdown signal is waiting for it. -/
  | signalled
  | stopped
deriving DecidableEq, Repr

namespace Loop

/-- The loop accepts connections, or is about to. -/
def Live (loop : Loop) : Prop := loop = starting ∨ loop = running ∨ loop = signalled

instance (loop : Loop) : Decidable loop.Live := inferInstanceAs (Decidable (_ ∨ _ ∨ _))

/-- `ensure_started`: the flag decides whether a loop is spawned. -/
def ensureStarted (loop : Loop) (started : Bool) : Loop := if started then loop else starting

/-- A broadcast reaches those who have subscribed. -/
def signal : Loop → Loop
  | running => signalled
  | loop => loop

end Loop

/-- Store a new group. -/
def found (pm : ProxyManager) (gid : String) (port : UInt16) : ProxyManager :=
  { pm with
    groups := pm.groups ++ [⟨gid, port, false, []⟩]
    tcpGroups := pm.tcpGroups.insert gid pm.groups.length }

/-- A client on its way into a group. -/
structure Joiner where
  runId : RunId
  groupId : String
  remotePort : UInt16
  backend : GroupedBackend
deriving DecidableEq, Repr

/-- Where a task is in `register_proxy` or in `GroupedMemberProxy::close`. -/
inductive Task where
  /-- About to look the group up. -/
  | finding (joiner : Joiner)
  /-- There was no group; about to test the port of a new one. -/
  | allocating (joiner : Joiner)
  /-- The port was free; about to insert it. -/
  | inserting (joiner : Joiner)
  /-- About to bind the port and to store the new group. -/
  | founding (joiner : Joiner) (port : UInt16)
  | adding (ref : Nat) (joiner : Joiner)
  | starting (ref : Nat) (joiner : Joiner)
  | entering (ref : Nat) (joiner : Joiner)
  /-- The member has been taken out of the manager; its backend is still there. -/
  | retaining (ref : Nat) (backendId : String)
  /-- No backend was left; about to send the shutdown signal. -/
  | signalling (ref : Nat)
  /-- Waiting for the loop to end, or for the three seconds. -/
  | releasing (ref : Nat)
  /-- About to take the group out of the table. -/
  | forgetting (ref : Nat)
  /-- A proxy outside groups has found a port free and is about to insert it. -/
  | reserving (port : UInt16)
deriving DecidableEq, Repr

/-- The manager with the accept loops and the tasks at work. -/
structure State where
  manager : ProxyManager
  loop : Nat → Loop
  /-- How often `remove_backend` has released the port of a group. -/
  releases : Nat → Nat
  tasks : Table Nat Task
  /-- The ports proxies outside groups hold. -/
  others : Finset UInt16

namespace State

/-- A manager without proxies. -/
def new (vhostManager : VhostManager) (allowPorts : List PortRange) : State :=
  ⟨.new vhostManager allowPorts, fun _ ↦ .idle, fun _ ↦ 0, ∅, ∅⟩

/-- What a task does next; nothing if it is done. -/
def become (s : State) (t : Nat) : Option Task → State
  | some task => { s with tasks := s.tasks.insert t task }
  | none => { s with tasks := s.tasks.erase t }

/-- Change a group. -/
def onGroup (s : State) (ref : Nat) (f : GroupedTcpProxy → GroupedTcpProxy) : State :=
  { s with manager.groups := s.manager.groups.modify ref f }

/-- The port can be allocated, as `allocate_tcp_port` tests it. -/
def isFree (s : State) (port : UInt16) : Bool :=
  s.manager.resources.isPortAllowed port && port ∉ s.manager.resources.tcpPorts

/-- `allocate_tcp_port` after the test. -/
def insertPort (s : State) (port : UInt16) : State :=
  { s with manager.resources :=
    { s.manager.resources with tcpPorts := insert port s.manager.resources.tcpPorts } }

/-- The next critical section of a task.  `bind` is the error of the operating
system if binding the port of a new group fails. -/
def advance (s : State) (t : Nat) (bind : Option String) : Task → Option State
  | .finding joiner =>
    match s.manager.tcpGroups.lookup joiner.groupId with
    | some ref => some (s.become t (some (.adding ref joiner)))
    | none => some (s.become t (some (.allocating joiner)))
  | .allocating joiner =>
    some (s.become t (if s.isFree joiner.remotePort then some (.inserting joiner) else none))
  | .inserting joiner =>
    some ((s.insertPort joiner.remotePort).become t (some (.founding joiner joiner.remotePort)))
  | .founding joiner port =>
    match bind with
    | none =>
      some ({ s with manager := found s.manager joiner.groupId port }.become t
        (some (.adding s.manager.groups.length joiner)))
    | some _ => some ({ s with manager := s.manager.releasePort port }.become t none)
  | .adding ref joiner =>
    some ((s.onGroup ref (·.addBackend joiner.backend)).become t (some (.starting ref joiner)))
  | .starting ref joiner =>
    s.manager.groups[ref]?.map fun g ↦
      { s.onGroup ref .ensureStarted with
        loop := Function.update s.loop ref ((s.loop ref).ensureStarted g.started) }.become t
          (some (.entering ref joiner))
  | .entering ref joiner =>
    s.manager.groups[ref]?.map fun g ↦
      { s with
        manager := s.manager.enter joiner.backend.backendId
          (.grouped ⟨joiner.backend.proxyName, ref, joiner.backend.backendId⟩)
          ⟨joiner.runId, joiner.backend.proxyName, "tcp", portAddr g.remotePort⟩ }.become t none
  | .retaining ref backendId =>
    s.manager.groups[ref]?.map fun g ↦
      (s.onGroup ref (·.dropBackend backendId)).become t
        (if (g.dropBackend backendId).backends.isEmpty then some (.signalling ref) else none)
  | .signalling ref =>
    some ({ s with loop := Function.update s.loop ref (s.loop ref).signal }.become t
      (some (.releasing ref)))
  | .releasing ref =>
    s.manager.groups[ref]?.map fun g ↦
      { s with
        manager := s.manager.releasePort g.remotePort
        releases := Function.update s.releases ref (s.releases ref + 1) }.become t
          (some (.forgetting ref))
  | .forgetting ref =>
    s.manager.groups[ref]?.map fun g ↦
      { s with manager.tcpGroups := s.manager.tcpGroups.erase g.groupId }.become t none
  | .reserving port =>
    some ({ s.insertPort port with others := insert port s.others }.become t none)

end State

/-- What can happen next. -/
inductive Event where
  /-- A task starts `register_proxy` for a member of a group. -/
  | join (task : Nat) (runId : RunId) (msg : NewProxyMsg) (tx : ReqSender)
  /-- A task takes a member out of the manager and starts to close it. -/
  | leave (task : Nat) (key : String)
  | advance (task : Nat) (bind : Option String)
  /-- A spawned loop takes the listener and subscribes to the shutdown signal. -/
  | subscribe (ref : Nat)
  /-- A loop reads the shutdown signal. -/
  | stop (ref : Nat)
  /-- A loop ends on an accept error that is not transient. -/
  | acceptFails (ref : Nat)
  /-- A proxy outside groups tests a port that it is to allocate, or releases one. -/
  | take (task : Nat) (port : UInt16)
  | give (port : UInt16)

/-- One step. -/
def step (s : State) : Event → Option State
  | .join t runId msg tx =>
    if t ∈ s.tasks then none
    else
      (groupOf msg).map fun gid ↦
        let key := proxyKey runId.val msg.proxyName
        if key ∈ s.manager.proxies ∨ msg.remotePort = 0 then s
        else s.become t (some (.finding ⟨runId, gid, msg.remotePort, backendOf key msg tx⟩))
  | .leave t key =>
    if t ∈ s.tasks then none
    else
      match s.manager.proxies.lookup key with
      | some (.grouped member) =>
        some ({ s with manager := s.manager.remove key }.become t
          (some (.retaining member.grouped member.backendId)))
      | _ => none
  | .advance t bind => (s.tasks.lookup t).bind (s.advance t bind)
  | .subscribe ref =>
    if s.loop ref = .starting then some { s with loop := Function.update s.loop ref .running }
    else none
  | .stop ref =>
    if s.loop ref = .signalled then some { s with loop := Function.update s.loop ref .stopped }
    else none
  | .acceptFails ref =>
    if s.loop ref = .running then some { s with loop := Function.update s.loop ref .stopped }
    else none
  | .take t port =>
    if t ∈ s.tasks then none
    else some (s.become t (if s.isFree port then some (.reserving port) else none))
  | .give port =>
    if port ∈ s.others then
      some { s with manager := s.manager.releasePort port, others := s.others.erase port }
    else none

/-! ## What users rely on -/

/-- What a task holds, and how it holds on to a group. -/
structure Marks where
  /-- A port that is allocated for a group about to be stored. -/
  port : Option UInt16 := none
  /-- A backend of a group that is not entered in the manager, or not any more. -/
  backend : Option (Nat × String) := none
  /-- The group a backend is about to be added to. -/
  adding : Option Nat := none
  /-- The group a member is about to be entered for. -/
  entering : Option Nat := none
  /-- The group that is being closed, and how often its port has been released. -/
  closing : Option (Nat × Nat) := none
deriving DecidableEq, Repr

/-- The marks of a task. -/
def Task.marks : Task → Marks
  | finding _ | allocating _ | inserting _ | reserving _ => {}
  | founding _ port => { port := some port }
  | adding ref _ => { adding := some ref }
  | starting ref joiner => { backend := some (ref, joiner.backend.backendId) }
  | entering ref joiner =>
    { backend := some (ref, joiner.backend.backendId), entering := some ref }
  | retaining ref backendId => { backend := some (ref, backendId) }
  | signalling ref | releasing ref => { closing := some (ref, 0) }
  | forgetting ref => { closing := some (ref, 1) }

/-- The marks are those of a task that works on a group. -/
def Marks.WorksOn (ref : Nat) (m : Marks) : Prop :=
  m.backend.map Prod.fst = some ref ∨ m.adding = some ref ∨ m.closing.map Prod.fst = some ref

namespace State

/-- A member of a group is registered. -/
def Registered (s : State) (ref : Nat) : Prop :=
  ∃ key member, s.manager.proxies.lookup key = some (.grouped member) ∧ member.grouped = ref

/-- No task is as described. -/
def NoTask (s : State) (p : Task → Prop) : Prop :=
  ∀ t task, s.tasks.lookup t = some task → ¬p task

instance (s : State) (p : Task → Prop) [DecidablePred p] : Decidable (s.NoTask p) :=
  decidable_of_iff (∀ e ∈ s.tasks.entries, ¬p e.2) <| by
    constructor
    · intro h t task htask
      exact h ⟨t, task⟩ (AList.mem_lookup_iff.mp htask)
    · intro h e he
      exact h e.1 e.2 (AList.mem_lookup_iff.mpr he)

end State

/-- What users rely on: every registered member has a group with an accept loop
that is stored under its id and whose port is allocated, and the port of a group
is released exactly once, after its last member left. -/
structure Sound (s : State) : Prop where
  served : ∀ key member, s.manager.proxies.lookup key = some (.grouped member) →
    ∃ g, s.manager.groups[member.grouped]? = some g ∧ (s.loop member.grouped).Live ∧
      s.manager.tcpGroups.lookup g.groupId = some member.grouped ∧
      g.remotePort ∈ s.manager.resources.tcpPorts
  once : ∀ ref, s.releases ref ≤ 1
  afterLast : ∀ ref, 0 < s.releases ref → ¬s.Registered ref
  released : ∀ ref < s.manager.groups.length, ¬s.Registered ref →
    (s.NoTask fun task ↦ task.marks.WorksOn ref) → s.releases ref = 1

/-- Steps of a task that do not meet those of another: no group is found while it
is being closed, no port is inserted that another task has inserted since it was
tested, no group is stored under an id in use, no backend is added and no member is
entered under an id in use, and the last backend is not taken out while another is
about to be added. -/
def Apart (s : State) : Task → Prop
  | .finding joiner => ∀ ref ∈ s.manager.tcpGroups.lookup joiner.groupId,
      s.NoTask fun task ↦ task.marks.closing.map Prod.fst = some ref
  | .inserting joiner => joiner.remotePort ∉ s.manager.resources.tcpPorts
  | .reserving port => port ∉ s.manager.resources.tcpPorts
  | .founding joiner _ => joiner.groupId ∉ s.manager.tcpGroups
  | .adding ref joiner => ∀ g ∈ s.manager.groups[ref]?, joiner.backend.backendId ∉ g.backendIds
  | .entering _ joiner => joiner.backend.backendId ∉ s.manager.proxies
  | .retaining ref backendId => ∀ g ∈ s.manager.groups[ref]?,
      (g.dropBackend backendId).backends = [] → s.NoTask fun task ↦ task.marks.adding = some ref
  | _ => True

instance (s : State) (task : Task) : Decidable (Apart s task) := by
  cases task <;> unfold Apart <;> infer_instance

/-- Tasks keep apart, and no listener fails for good while its group is in use. -/
def Orderly (s : State) : Event → Prop
  | .advance t _ => ∀ task ∈ s.tasks.lookup t, Apart s task
  | .acceptFails ref => (∀ g ∈ s.manager.groups[ref]?, g.backends = []) ∧
      s.NoTask fun task ↦ task.marks.adding = some ref
  | _ => True

instance (s : State) (e : Event) : Decidable (Orderly s e) := by
  cases e <;> unfold Orderly <;> infer_instance

end Arp.Server.Groups
