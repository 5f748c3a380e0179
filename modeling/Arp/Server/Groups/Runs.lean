import Arp.Server.Groups.Steps

/-!
# Runs of joining and leaving clients

A task that is not interrupted does what the manager's own functions say: joining
is `registerProxy` and leaving is `unregisterKey` (`run_join`, `run_leave`).  In
every run whose steps keep apart, members are served and ports are released once;
a client that joins a group while it is being closed is the case that is left out.
-/

namespace Arp.Server.Groups

open Arp.Common Arp.Lib Arp.Lib.Text ProxyManager

/-! ## One task on its own -/

/-- A joiner adds its backend, starts the loop and enters its member at once. -/
def enterMember (pm : ProxyManager) (ref : Nat) (joiner : Joiner) : ProxyManager :=
  (pm.joinGroup ref joiner.backend).2.enter joiner.backend.backendId
    (.grouped ⟨joiner.backend.proxyName, ref, joiner.backend.backendId⟩)
    ⟨joiner.runId, joiner.backend.proxyName, "tcp",
      portAddr ((pm.groups[ref]?.map GroupedTcpProxy.remotePort).getD 0)⟩

/-- All of a registration at once. -/
def joinAtOnce (pm : ProxyManager) (joiner : Joiner) (bind : Option String) : ProxyManager :=
  match pm.tcpGroups.lookup joiner.groupId with
  | some ref => enterMember pm ref joiner
  | none =>
    match ResourceController.bindPort bind (pm.resources.allocateTcpPort joiner.remotePort) with
    | (.error _, rc) => { pm with resources := rc }
    | (.ok port, rc) =>
      enterMember (found { pm with resources := rc } joiner.groupId port) pm.groups.length joiner

/-- `register_proxy` without its messages. -/
theorem registerProxy_eq_joinAtOnce (U : UnicodeData) {pm : ProxyManager} {runId : RunId}
    {msg : NewProxyMsg} {tx : ReqSender} {bind : Option String} {gid : String}
    (hgid : groupOf msg = some gid) (hkey : proxyKey runId.val msg.proxyName ∉ pm.proxies)
    (hport : msg.remotePort ≠ 0) :
    (pm.registerProxy U runId msg tx bind).2 = joinAtOnce pm
      ⟨runId, gid, msg.remotePort, backendOf (proxyKey runId.val msg.proxyName) msg tx⟩ bind := by
  unfold groupOf at hgid
  split at hgid
  · next h =>
      obtain ⟨htype, hgroup⟩ := h
      obtain rfl := Option.some.inj hgid
      rw [registerProxy, if_neg hkey, setup, joinAtOnce]
      simp only [htype, hgroup, Bool.false_eq_true, if_false]
      rw [setupGrouped, if_neg hport]
      dsimp only
      cases pm.tcpGroups.lookup (groupId msg (parseLbGroup msg).1 (parseLbGroup msg).2) with
      | some ref => rfl
      | none =>
          dsimp only
          rcases ResourceController.bindPort bind (pm.resources.allocateTcpPort msg.remotePort) with
            ⟨_ | port, rc⟩
          · rfl
          · rfl
  · cases hgid

section Alone

variable {s s' : State} {t ref : Nat} {bind : Option String} {task : Task} {joiner : Joiner}

@[simp] theorem State.lookup_become (s : State) (t : Nat) (task : Option Task) :
    (s.become t task).tasks.lookup t = task := by
  cases task with
  | some task => exact AList.lookup_insert _
  | none => exact AList.lookup_erase _ _

/-- A task takes some steps on its own. -/
def Alone (t : Nat) (bind : Option String) (s s' : State) : Prop :=
  ∃ n, Machine.run step s (.replicate n (.advance t bind)) = some s'

theorem Alone.refl (s : State) : Alone t bind s s := ⟨0, rfl⟩

theorem Alone.step {s₁ : State} (htask : s.tasks.lookup t = some task)
    (hadvance : s.advance t bind task = some s₁) (h : Alone t bind s₁ s') : Alone t bind s s' := by
  obtain ⟨n, hn⟩ := h
  refine ⟨n + 1, ?_⟩
  rw [List.replicate_succ, Machine.run_cons]
  show ((s.tasks.lookup t).bind (s.advance t bind)).bind _ = _
  rw [htask, Option.bind_some, hadvance, Option.bind_some, hn]

/-- From adding the backend to entering the member. -/
theorem alone_adding (bind : Option String) {g : GroupedTcpProxy}
    (htask : s.tasks.lookup t = some (.adding ref joiner))
    (hg : s.manager.groups[ref]? = some g) :
    ∃ s', Alone t bind s s' ∧ s'.tasks.lookup t = none ∧
      s'.manager = enterMember s.manager ref joiner := by
  refine ⟨_, .step htask rfl (.step (State.lookup_become _ _ _) (by
      simp only [State.advance, State.manager_become, State.onGroup, List.getElem?_modify_eq, hg]
      rfl) (.step (State.lookup_become _ _ _) (by
      simp only [State.advance, State.manager_become, List.getElem?_modify_eq, hg]
      rfl) (.refl _))), State.lookup_become _ _ _, ?_⟩
  simp [enterMember, joinGroup, hg, List.modify_modify_eq, remotePort_addBackend,
    GroupedTcpProxy.ensureStarted, Function.comp_def]

/-- From storing the group to entering the member. -/
theorem alone_founding {port : UInt16} (htask : s.tasks.lookup t = some (.founding joiner port)) :
    ∃ s', Alone t none s s' ∧ s'.tasks.lookup t = none ∧ s'.manager =
      enterMember (found s.manager joiner.groupId port) s.manager.groups.length joiner := by
  obtain ⟨s', halone, hdone⟩ := alone_adding none
    (State.lookup_become { s with manager := found s.manager joiner.groupId port } t
      (some (.adding s.manager.groups.length joiner)))
    (getElem?_found_self s.manager joiner.groupId port)
  exact ⟨s', .step htask rfl halone, hdone⟩

/-- From looking the group up to entering the member, or to an error. -/
theorem alone_finding (bind : Option String) (hs : Coherent s)
    (htask : s.tasks.lookup t = some (.finding joiner)) :
    ∃ s', Alone t bind s s' ∧ s'.tasks.lookup t = none ∧
      s'.manager = joinAtOnce s.manager joiner bind := by
  unfold joinAtOnce
  cases hfind : s.manager.tcpGroups.lookup joiner.groupId with
  | some ref =>
      obtain ⟨g, hg, -⟩ := hs.stored _ ref hfind
      obtain ⟨s', halone, hdone⟩ := alone_adding bind
        (State.lookup_become s t (some (.adding ref joiner))) (by rw [State.manager_become, hg])
      refine ⟨s', .step htask (by rw [State.advance, hfind]) halone, ?_⟩
      rwa [State.manager_become] at hdone
  | none =>
      cases hfree : s.isFree joiner.remotePort with
      | false =>
          obtain ⟨e, halloc⟩ := ResourceController.allocateTcpPort_error hfree
          refine ⟨_, .step htask (by rw [State.advance, hfind]) (.step (State.lookup_become _ _ _)
            rfl (.refl _)), ?_, ?_⟩
          · rw [State.lookup_become, State.isFree, State.manager_become, ← State.isFree, hfree]
            rfl
          · simp [ResourceController.bindPort, halloc]
      | true =>
          obtain ⟨hallowed, hnot⟩ : _ ∧ _ := by simpa [State.isFree] using hfree
          rw [ResourceController.allocateTcpPort_ok hallowed hnot]
          have htest : (s.become t (some (.allocating joiner))).advance t bind
              (.allocating joiner) = some ((s.become t (some (.allocating joiner))).become t
                (some (.inserting joiner))) := by
            rw [State.advance, State.isFree, State.manager_become, ← State.isFree, hfree]
            rfl
          cases bind with
          | some e =>
              refine ⟨_, .step htask (by rw [State.advance, hfind]) (.step
                (State.lookup_become _ _ _) htest (.step (State.lookup_become _ _ _) rfl
                (.step (State.lookup_become _ _ _) rfl (.refl _)))), State.lookup_become _ _ _, ?_⟩
              simp [ResourceController.bindPort, releasePort, State.insertPort]
          | none =>
              obtain ⟨s', halone, hdone⟩ := alone_founding (State.lookup_become
                (((s.become t (some (.allocating joiner))).become t
                  (some (.inserting joiner))).insertPort joiner.remotePort) t
                (some (.founding joiner joiner.remotePort)))
              exact ⟨s', .step htask (by rw [State.advance, hfind]) (.step
                (State.lookup_become _ _ _) htest (.step (State.lookup_become _ _ _) rfl halone)),
                hdone⟩

/-- A client that joins without being interrupted registers as `registerProxy`
says. -/
theorem run_join (U : UnicodeData) (hs : Coherent s) (ht : t ∉ s.tasks) {runId : RunId}
    {msg : NewProxyMsg} {tx : ReqSender} {gid : String} (hgid : groupOf msg = some gid)
    (hkey : proxyKey runId.val msg.proxyName ∉ s.manager.proxies) (hport : msg.remotePort ≠ 0) :
    ∃ n s', Machine.run step s (.join t runId msg tx :: .replicate n (.advance t bind)) = some s' ∧
      s'.tasks.lookup t = none ∧
      s'.manager = (s.manager.registerProxy U runId msg tx bind).2 := by
  obtain ⟨joiner, hjoiner⟩ : ∃ joiner, joiner = (⟨runId, gid, msg.remotePort,
      backendOf (proxyKey runId.val msg.proxyName) msg tx⟩ : Joiner) := ⟨_, rfl⟩
  have hstart : step s (.join t runId msg tx) = some (s.become t (some (.finding joiner))) := by
    simp only [step, if_neg ht, hgid, Option.map_some]
    rw [if_neg (by simpa using ⟨hkey, hport⟩), hjoiner]
  have hblank : ((some (.finding joiner) : Option Task).map Task.marks).getD {} = s.marks t :=
    (State.marks_of_notMem ht).symm
  obtain ⟨s', ⟨n, hrun⟩, hdone, hmanager⟩ := alone_finding bind (hs.become hblank)
    (State.lookup_become s t (some (.finding joiner)))
  refine ⟨n, s', ?_, hdone, ?_⟩
  · rw [Machine.run_cons, hstart, Option.bind_some, hrun]
  · rw [hmanager, State.manager_become, registerProxy_eq_joinAtOnce U hgid hkey hport, hjoiner]

/-- A member that leaves without being interrupted leaves as `unregisterKey` says. -/
theorem run_leave (hs : Coherent s) (ht : t ∉ s.tasks) {key : String}
    {member : GroupedMemberProxy} (hkey : s.manager.proxies.lookup key = some (.grouped member)) :
    ∃ n s', Machine.run step s (.leave t key :: .replicate n (.advance t bind)) = some s' ∧
      s'.tasks.lookup t = none ∧ s'.manager = s.manager.unregisterKey key := by
  have hentry : s.memberOf (.entry key) = some (member.grouped, member.backendId) := by
    simp only [State.memberOf, hkey]
  obtain ⟨g, hg, -⟩ := hs.opened_of_member hentry
  have hstart : step s (.leave t key) = some ({ s with manager := s.manager.remove key }.become t
      (some (.retaining member.grouped member.backendId))) := by
    simp only [step, if_neg ht, hkey]
  have hset : s.manager.groups.modify member.grouped (·.dropBackend member.backendId) =
      s.manager.groups.set member.grouped (g.dropBackend member.backendId) := by
    rw [List.modify_eq_set_getElem?, hg]
    rfl
  suffices h : ∃ s', Alone t bind ({ s with manager := s.manager.remove key }.become t
      (some (.retaining member.grouped member.backendId))) s' ∧ s'.tasks.lookup t = none ∧
      s'.manager = s.manager.unregisterKey key by
    obtain ⟨s', ⟨n, hrun⟩, hdone⟩ := h
    exact ⟨n, s', by rw [Machine.run_cons, hstart, Option.bind_some, hrun], hdone⟩
  have hclose : s.manager.unregisterKey key =
      (s.manager.remove key).leaveGroup member.grouped member.backendId := by
    simp only [unregisterKey, hkey, close]
  have hg' : (s.manager.remove key).groups[member.grouped]? = some g := hg
  rw [hclose, leaveGroup, hg']
  dsimp only
  by_cases hempty : (g.dropBackend member.backendId).backends.isEmpty = true
  · rw [if_pos hempty]
    refine ⟨_, .step (State.lookup_become _ _ _) (by
      simp only [State.advance, State.manager_become, hg', Option.map_some, if_pos hempty]; rfl)
      (.step (State.lookup_become _ _ _) rfl (.step (State.lookup_become _ _ _) (by
        simp only [State.advance, State.manager_become, State.onGroup, List.getElem?_modify_eq, hg']
        rfl) (.step (State.lookup_become _ _ _) (by
        simp only [State.advance, State.manager_become, releasePort, List.getElem?_modify_eq, hg']
        rfl) (.refl _)))), State.lookup_become _ _ _, ?_⟩
    simpa [releasePort, ProxyManager.remove, GroupedTcpProxy.dropBackend] using hset
  · rw [if_neg hempty]
    refine ⟨_, .step (State.lookup_become _ _ _) (by
      simp only [State.advance, State.manager_become, hg', Option.map_some, if_neg hempty]; rfl)
      (.refl _), State.lookup_become _ _ _, ?_⟩
    simp [State.onGroup, hset, ProxyManager.remove]

end Alone

/-! ## Every run -/

/-- In every run of joining and leaving clients whose steps keep apart, members
are served by a stored group that accepts, and every group releases its port once,
after its last member left. -/
theorem sound_of_orderly {vhostManager : VhostManager} {allowPorts : List PortRange}
    {events : List Event} {s : State}
    (horderly : Machine.Along step Orderly (.new vhostManager allowPorts) events)
    (hrun : Machine.run step (.new vhostManager allowPorts) events = some s) : Sound s :=
  (Machine.along_invariant coherent_step horderly hrun (.new vhostManager allowPorts)).sound

/-- A member for the web group on port 10080. -/
def web (proxyName : String) : NewProxyMsg :=
  message proxyName "tcp" 10080 "" (.object [("group", .string "web")])

/-- The first steps of a client that registers a member of the web group. -/
def joinWeb (t : Nat) (proxyName : String) (steps : Nat) : List Event :=
  .join t run1 (web proxyName) 1 :: .replicate steps (.advance t none)

/-- A server without proxies. -/
def emptyServer : State := .new (.new .ascii "" 80 443) []

/-- Two clients join at the same time and leave one after the other; a third one
founds the group anew. -/
def takeTurns : List Event :=
  joinWeb 0 "a" 4 ++ joinWeb 1 "b" 4 ++ .replicate 3 (.advance 0 none) ++
    [.subscribe 0, .leave 1 "run-1:a", .advance 1 none, .leave 0 "run-1:b", .take 2 10081,
      .advance 2 none] ++
    .replicate 2 (.advance 0 none) ++ [.stop 0] ++ .replicate 2 (.advance 0 none) ++
    joinWeb 1 "c" 7

/-- Nobody meets anybody in `takeTurns`: the first group is closed, the second one
serves its member. -/
theorem takeTurns_sound :
    ∃ s, Machine.run step emptyServer takeTurns = some s ∧
      s.manager.proxies.keys = ["run-1:c"] ∧ s.releases 0 = 1 ∧ s.releases 1 = 0 ∧ Sound s := by
  refine Machine.exists_run (fun s ↦ (s.manager.proxies.keys, s.releases 0, s.releases 1))
    (["run-1:c"], 1, 0) (by decide) fun s hs hstate ↦ ?_
  obtain ⟨hkeys, hzero, hone⟩ := Prod.mk.inj hstate |>.imp_right Prod.mk.inj
  exact ⟨hkeys, hzero, hone, sound_of_orderly (by decide) hs⟩

/-- The last member leaves; before the group is taken out of the table, a client
finds it and joins. -/
def joinWhileClosing : List Event :=
  joinWeb 0 "a" 7 ++ [.subscribe 0, .leave 0 "run-1:a", .advance 0 none] ++ joinWeb 1 "b" 4 ++
    [.advance 0 none, .stop 0] ++ .replicate 2 (.advance 0 none)

/-- The client that joins a group that is being closed is registered with a group
that is stored nowhere, has no port and does not accept; when it leaves, the port
is released a second time. -/
theorem joined_while_closing :
    (∃ s, Machine.run step emptyServer joinWhileClosing = some s ∧
      s.manager.proxies.lookup "run-1:b" = some (.grouped ⟨"b", 0, "run-1:b"⟩) ∧
      s.loop 0 = .stopped ∧ s.manager.tcpGroups.keys = [] ∧
      s.manager.resources.tcpPorts = ∅ ∧ ¬Sound s) ∧
    ∃ s, Machine.run step emptyServer
        (joinWhileClosing ++ .leave 0 "run-1:b" :: .replicate 4 (.advance 0 none)) = some s ∧
      s.releases 0 = 2 := by
  constructor
  · refine Machine.exists_run (fun s ↦ (s.manager.proxies.lookup "run-1:b", s.loop 0,
      s.manager.tcpGroups.keys, s.manager.resources.tcpPorts))
      (some (.grouped ⟨"b", 0, "run-1:b"⟩), .stopped, [], ∅) (by decide) fun s hs hstate ↦ ?_
    obtain ⟨hmember, hstate⟩ := Prod.mk.inj hstate
    obtain ⟨hloop, hkeys, hports⟩ := Prod.mk.inj hstate |>.imp_right Prod.mk.inj
    refine ⟨hmember, hloop, hkeys, hports, fun hsound ↦ ?_⟩
    obtain ⟨g, -, -, -, hport⟩ := hsound.served _ _ hmember
    rw [hports] at hport
    exact Finset.notMem_empty _ hport
  · exact Machine.exists_run (fun s ↦ s.releases 0) 2 (by decide) fun _ _ htwice ↦ htwice

end Arp.Server.Groups
