import Arp.Server.Admission

/-!
# What a registered proxy holds

A registered proxy keeps what its message asked for until it is removed: its key,
and its port or its place in its group.  `Served` says so of one message; it is
established by the registration and kept by every other call.

Two more facts about whole runs are needed for this, and `Lawful` adds them to
the invariant: ports in use are allowed ports, and a group's id tells its port.
-/

namespace Arp.Server.ProxyManager

open Arp.Common Arp.Lib Arp.Lib.Text

/-! ## Configuration -/

/-- Both managers have the same configuration. -/
structure SameConfig (pm pm' : ProxyManager) : Prop where
  allowPorts : pm'.resources.allowPorts = pm.resources.allowPorts
  subdomainHost : pm'.vhostManager.subdomainHost = pm.vhostManager.subdomainHost
  vhostPort : ∀ scheme, pm'.vhostManager.port scheme = pm.vhostManager.port scheme

namespace SameConfig

variable {U : UnicodeData} {pm pm' pm'' : ProxyManager}

theorem refl (pm : ProxyManager) : SameConfig pm pm := ⟨rfl, rfl, fun _ ↦ rfl⟩

theorem trans (h : SameConfig pm pm') (h' : SameConfig pm' pm'') : SameConfig pm pm'' where
  allowPorts := h'.allowPorts.trans h.allowPorts
  subdomainHost := h'.subdomainHost.trans h.subdomainHost
  vhostPort scheme := (h'.vhostPort scheme).trans (h.vhostPort scheme)

theorem isPortAllowed (h : SameConfig pm pm') (port : UInt16) :
    pm'.resources.isPortAllowed port = pm.resources.isPortAllowed port := by
  rw [ResourceController.isPortAllowed, h.allowPorts, ← ResourceController.isPortAllowed]

/-- Whether a message is acceptable depends on the configuration only. -/
theorem acceptable (h : SameConfig pm pm') {msg : NewProxyMsg} (hacc : Acceptable U pm msg) :
    Acceptable U pm' msg where
  supported := hacc.supported
  secret := hacc.secret
  domains scheme htype := by
    have hcollect : pm'.vhostManager.collectDomains U msg =
        pm.vhostManager.collectDomains U msg := by
      rw [VhostManager.collectDomains, h.subdomainHost, ← VhostManager.collectDomains]
    rw [h.vhostPort, hcollect]
    exact hacc.domains scheme htype
  port hopens hfixed := by
    rw [h.isPortAllowed]
    exact hacc.port hopens hfixed
  group := hacc.group

/-- Building a proxy keeps the configuration. -/
theorem of_built {runId : RunId} {msg : NewProxyMsg} {tx : ReqSender} {key : String}
    {proxy : ProxyObject} (hb : Built U pm runId msg tx key proxy pm') : SameConfig pm pm' := by
  cases hb with
  | tcp port rc htype hgroup hopen => exact ⟨hopen.allowPorts, rfl, fun _ ↦ rfl⟩
  | udp port rc htype hopen => exact ⟨hopen.allowPorts, rfl, fun _ ↦ rfl⟩
  | founded gid port rc htype hgid hport hgroup hopen =>
      exact ⟨hopen.allowPorts, rfl, fun _ ↦ rfl⟩
  | xtcpRelay port rc htype hsk hfresh hrelay hopen =>
      exact ⟨hopen.allowPorts, rfl, fun _ ↦ rfl⟩
  | vhost scheme domains =>
      refine ⟨rfl, ?_, fun scheme' ↦ ?_⟩
      · cases scheme <;> rfl
      · cases scheme <;> cases scheme' <;> rfl
  | _ => exact ⟨rfl, rfl, fun _ ↦ rfl⟩

/-- Entering what was built keeps the configuration. -/
theorem enter {runId : RunId} {msg : NewProxyMsg} {tx : ReqSender} {key : String}
    {proxy : ProxyObject} (hb : Built U pm runId msg tx key proxy pm') (record : ProxyRecord) :
    SameConfig pm (pm'.enter key proxy record) :=
  ⟨(of_built hb).allowPorts, (of_built hb).subdomainHost, (of_built hb).vhostPort⟩

/-- Closing an object keeps the configuration. -/
theorem close (pm : ProxyManager) (proxy : ProxyObject) : SameConfig pm (pm.close proxy) := by
  cases proxy with
  | grouped member =>
      simp only [ProxyManager.close, leaveGroup]
      split
      · exact refl pm
      · split <;> exact ⟨rfl, rfl, fun _ ↦ rfl⟩
  | vhost scheme routeKey =>
      refine ⟨rfl, ?_, fun scheme' ↦ ?_⟩
      · cases scheme <;> rfl
      · cases scheme <;> cases scheme' <;> rfl
  | xtcp name relayProxy => cases relayProxy <;> exact ⟨rfl, rfl, fun _ ↦ rfl⟩
  | _ => exact ⟨rfl, rfl, fun _ ↦ rfl⟩

/-- Removing a proxy keeps the configuration. -/
theorem unregisterKey (pm : ProxyManager) (key : String) :
    SameConfig pm (pm.unregisterKey key) := by
  unfold ProxyManager.unregisterKey
  split
  · have hremove : SameConfig pm (pm.remove key) := ⟨rfl, rfl, fun _ ↦ rfl⟩
    exact hremove.trans (close _ _)
  · exact refl pm

end SameConfig

/-! ## Lawful managers -/

/-- The id of a group tells its port. -/
def Named (g : GroupedTcpProxy) : Prop :=
  ∃ rest, g.groupId.toList = "tcp:".toList ++ ((toString g.remotePort).toList ++ ':' :: rest)

/-- A message with a group is of type `tcp`, and its id is made of its port, group and key. -/
theorem groupOf_eq_groupId {msg : NewProxyMsg} {gid : String} (h : groupOf msg = some gid) :
    msg.proxyType = "tcp" ∧ gid = groupId msg (parseLbGroup msg).1 (parseLbGroup msg).2 := by
  unfold groupOf at h
  split at h
  · next hgroup => exact ⟨hgroup.1, (Option.some.inj h).symm⟩
  · cases h

/-- The id of the group a message asks for tells the port it asks for. -/
theorem groupOf_eq_some {msg : NewProxyMsg} {gid : String} (h : groupOf msg = some gid) :
    msg.proxyType = "tcp" ∧
      ∃ rest, gid.toList = "tcp:".toList ++ ((toString msg.remotePort).toList ++ ':' :: rest) := by
  obtain ⟨htype, rfl⟩ := groupOf_eq_groupId h
  refine ⟨htype, (parseLbGroup msg).1.toList ++ ':' :: (parseLbGroup msg).2.toList, ?_⟩
  simp [groupId, htype]

/-- A group that is found by a message has the port the message asks for. -/
theorem Named.remotePort_eq {g : GroupedTcpProxy} (h : Named g) {msg : NewProxyMsg}
    (hgid : groupOf msg = some g.groupId) : g.remotePort = msg.remotePort := by
  obtain ⟨rest, hrest⟩ := h
  obtain ⟨-, rest', hrest'⟩ := groupOf_eq_some hgid
  rw [hrest, List.append_cancel_left_eq] at hrest'
  have hcolon : ∀ port : UInt16, ':' ∉ (toString port).toList := fun port ↦
    notMem_toString (by decide) port.toNat
  have htext := (append_cons_inj (hcolon _) (hcolon _) hrest').1
  exact UInt16.toNat_inj.mp (toString_inj (String.toList_inj.mp htext))

/-- The invariant, with allowed ports and named groups. -/
structure Lawful (pm : ProxyManager) : Prop extends Consistent pm where
  named : ∀ g ∈ pm.groups, Named g
  allowed : ∀ port ∈ pm.resources.tcpPorts, pm.resources.isPortAllowed port = true

namespace Lawful

variable {U : UnicodeData} {pm pm' : ProxyManager} {runId : RunId} {msg : NewProxyMsg}
  {tx : ReqSender} {key : String} {proxy : ProxyObject}

theorem of_onlyCursor (h : Lawful pm) (hc : OnlyCursor pm pm') : Lawful pm' := by
  obtain ⟨cursor, rfl⟩ := hc
  exact ⟨h.toConsistent.of_onlyCursor ⟨cursor, rfl⟩, h.named, h.allowed⟩

/-- Opening an allowed port keeps ports allowed. -/
theorem allowed_of_opened (h : Lawful pm) {port : UInt16} {rc : ResourceController}
    (hopen : pm.resources.Opened (.ok port) rc) :
    ∀ p ∈ rc.tcpPorts, rc.isPortAllowed p = true := by
  obtain ⟨-, hallowed, hports⟩ := hopen.of_ok port rfl
  intro p hp
  rw [ResourceController.isPortAllowed, hopen.allowPorts, ← ResourceController.isPortAllowed]
  rw [hports, Finset.mem_insert] at hp
  rcases hp with rfl | hp
  · exact hallowed
  · exact h.allowed p hp

/-- Entering what was built. -/
theorem enter (h : Lawful pm) (hkey : key ∉ pm.proxies)
    (hname : key = proxyKey runId.val msg.proxyName)
    (hb : Built U pm runId msg tx key proxy pm') (addr : String) :
    Lawful (pm'.enter key proxy ⟨runId, msg.proxyName, msg.proxyType, addr⟩) := by
  refine ⟨h.toConsistent.enter hkey hname hb, ?_, ?_⟩
  · cases hb with
    | joined gid ref htype hgid hport hgroup =>
        refine forall_mem_modify h.named (fun g hg ↦ ?_) ref
        obtain ⟨rest, hrest⟩ := hg
        refine ⟨rest, ?_⟩
        simpa only [GroupedTcpProxy.ensureStarted, groupId_addBackend, remotePort_addBackend]
          using hrest
    | founded gid port rc htype hgid hport hgroup hopen hfixed =>
        intro g hg
        rcases List.mem_append.mp hg with hg | hg
        · exact h.named g hg
        · obtain rfl := List.mem_singleton.mp hg
          subst hfixed
          exact (groupOf_eq_some hgid).2
    | _ => exact h.named
  · cases hb with
    | tcp port rc htype hgroup hopen => exact h.allowed_of_opened hopen
    | udp port rc htype hopen => exact h.allowed_of_opened hopen
    | founded gid port rc htype hgid hport hgroup hopen => exact h.allowed_of_opened hopen
    | xtcpRelay port rc htype hsk hfresh hrelay hopen => exact h.allowed_of_opened hopen
    | _ => exact h.allowed

/-- Closing an object lets groups keep their ids and ports. -/
theorem named_close (pm : ProxyManager) (hnamed : ∀ g ∈ pm.groups, Named g) (proxy : ProxyObject) :
    ∀ g ∈ (pm.close proxy).groups, Named g := by
  cases proxy with
  | grouped member =>
      simp only [close, leaveGroup]
      split
      · exact hnamed
      · next g hg =>
          have hdrop : Named (g.dropBackend member.backendId) :=
            hnamed g (List.mem_of_getElem? hg)
          have hset : ∀ g' ∈ pm.groups.set member.grouped (g.dropBackend member.backendId),
              Named g' := by
            intro g' hg'
            rcases List.mem_or_eq_of_mem_set hg' with hold | rfl
            · exact hnamed g' hold
            · exact hdrop
          split
          · exact hset
          · exact hset
  | xtcp name relayProxy => cases relayProxy <;> exact hnamed
  | _ => exact hnamed

/-- Closing an object takes no port. -/
theorem tcpPorts_close_subset (pm : ProxyManager) (proxy : ProxyObject) :
    (pm.close proxy).resources.tcpPorts ⊆ pm.resources.tcpPorts := by
  cases proxy with
  | tcp proxy => exact Finset.erase_subset _ _
  | udp proxy => exact Finset.erase_subset _ _
  | grouped member =>
      simp only [close, leaveGroup]
      split
      · exact Finset.Subset.refl _
      · split
        · exact Finset.erase_subset _ _
        · exact Finset.Subset.refl _
  | xtcp name relayProxy =>
      cases relayProxy with
      | none => exact Finset.Subset.refl _
      | some relay => exact Finset.erase_subset _ _
  | _ => exact Finset.Subset.refl _

/-- Removing a proxy. -/
theorem unregisterKey (h : Lawful pm) (key : String) : Lawful (pm.unregisterKey key) := by
  refine ⟨h.toConsistent.unregisterKey key, ?_, ?_⟩
  · unfold ProxyManager.unregisterKey
    split
    · exact named_close (pm.remove key) h.named _
    · exact h.named
  · intro port hport
    rw [(SameConfig.unregisterKey pm key).isPortAllowed]
    refine h.allowed port ?_
    unfold ProxyManager.unregisterKey at hport
    split at hport
    · exact tcpPorts_close_subset (pm.remove key) _ hport
    · exact hport

end Lawful

/-! ## Ports over time -/

/-- Who holds the port of a message: the group it asks for, or the proxy itself. -/
def holderFor (key : String) (msg : NewProxyMsg) : Holder :=
  match groupOf msg with
  | some gid => .group gid
  | none => .proxy key

section Ports

variable {U : UnicodeData} {pm pm' : ProxyManager} {runId : RunId} {msg : NewProxyMsg}
  {tx : ReqSender} {key : String} {proxy : ProxyObject}

/-- Entering a proxy changes no port, as it needs none or joins a group, or gives a
fresh port to the one who holds the port of the message. -/
theorem portOf_enter (h : Consistent pm) (hkey : key ∉ pm.proxies)
    (hb : Built U pm runId msg tx key proxy pm') (record : ProxyRecord) :
    ((OpensPort msg → ∃ gid ref, groupOf msg = some gid ∧ pm.tcpGroups.lookup gid = some ref) ∧
        (pm'.enter key proxy record).portOf = pm.portOf) ∨
      ∃ port, OpensPort msg ∧ pm.resources.Grants msg.remotePort port ∧
        pm.resources.isPortAllowed port = true ∧ port ∉ pm.resources.tcpPorts ∧
        pm.portOf (holderFor key msg) = none ∧
        (pm'.enter key proxy record).portOf =
          Function.update pm.portOf (holderFor key msg) (some port) := by
  have hnone : pm.portOf (.proxy key) = none := Consistent.holderPort_eq_none hkey
  -- A proxy without a port of its own that joins no new group.
  have hkeep : proxy.port = none →
      holderPort (pm.proxies.insert key proxy) pm.tcpGroups pm.groups = pm.portOf := by
    intro hport
    rw [holderPort_insert, hport]
    exact update_none hnone
  -- A proxy with a fresh port of its own.
  have htake : ∀ port rc, groupOf msg = none → OpensPort msg →
      pm.resources.Opened (.ok port) rc → pm.resources.Grants msg.remotePort port →
      proxy.port = some port → ∃ p, OpensPort msg ∧ pm.resources.Grants msg.remotePort p ∧
        pm.resources.isPortAllowed p = true ∧ p ∉ pm.resources.tcpPorts ∧
        pm.portOf (holderFor key msg) = none ∧
        holderPort (pm.proxies.insert key proxy) pm.tcpGroups pm.groups =
          Function.update pm.portOf (holderFor key msg) (some p) := by
    intro port rc hgroup hopens hopen hgrants hport
    obtain ⟨hfree, hallowed, -⟩ := hopen.of_ok port rfl
    have hholder : holderFor key msg = .proxy key := by rw [holderFor, hgroup]
    refine ⟨port, hopens, hgrants, hallowed, hfree, hholder ▸ hnone, ?_⟩
    rw [holderPort_insert, hport, hholder]
    rfl
  cases hb with
  | tcp port rc htype hgroup hopen hgrants =>
      exact .inr (htake port rc hgroup (.inl htype) hopen hgrants rfl)
  | udp port rc htype hopen hgrants =>
      have hgroup : groupOf msg = none :=
        groupOf_eq_none (by rcases htype with htype | htype <;> simp [htype])
      have hopens : OpensPort msg := by
        rcases htype with htype | htype
        · exact .inr (.inl htype)
        · exact .inr (.inr (.inl htype))
      exact .inr (htake port rc hgroup hopens hopen hgrants rfl)
  | joined gid ref htype hgid hport hgroup =>
      refine .inl ⟨fun _ ↦ ⟨gid, ref, hgid, hgroup⟩, ?_⟩
      rw [portOf, enter]
      exact (GroupsOk.holderPort_join _ _ _ _ _).trans (hkeep rfl)
  | founded gid port rc htype hgid hport hgroup hopen hfixed =>
      obtain ⟨hfree, hallowed, -⟩ := hopen.of_ok port rfl
      have hholder : holderFor key msg = .group gid := by rw [holderFor, hgid]
      have hgrants : pm.resources.Grants msg.remotePort port := by
        rw [ResourceController.Grants, if_neg hport]
        exact hfixed
      refine .inr ⟨port, .inl htype, hgrants, hallowed, hfree, ?_, ?_⟩
      · rw [hholder]
        simp [portOf, holderPort, findGroup, hgroup]
      · have hfound := h.groups.holderPort_found (pm.proxies.insert key
          (.grouped ⟨msg.proxyName, pm.groups.length, key⟩)) gid
          ⟨gid, port, true, [backendOf key msg tx]⟩
        rw [portOf, enter, hholder]
        exact hfound.trans (by rw [hkeep rfl])
  | stcp htype => exact .inl ⟨fun hopens ↦ by simp [OpensPort, htype] at hopens, hkeep rfl⟩
  | vhost scheme domains htype =>
      refine .inl ⟨fun hopens ↦ ?_, hkeep rfl⟩
      cases scheme <;> simp [OpensPort, htype, Scheme.text] at hopens
  | xtcp htype hsk hfresh hrelay =>
      exact .inl ⟨fun hopens ↦ by simp [OpensPort, htype, hrelay] at hopens, hkeep rfl⟩
  | xtcpRelay port rc htype hsk hfresh hrelay hopen hgrants =>
      exact .inr (htake port rc (groupOf_eq_none (by simp [htype]))
        (.inr (.inr (.inr ⟨htype, hrelay⟩))) hopen hgrants rfl)

/-- Removing a proxy gives nobody a port. -/
theorem portOf_unregisterKey (h : Consistent pm) {holder : Holder} {port : UInt16}
    (hport : (pm.unregisterKey key).portOf holder = some port) :
    pm.portOf holder = some port := by
  have herase : ∀ x, Function.update pm.portOf (.proxy key) none x = some port →
      pm.portOf x = some port := by
    intro x hx
    by_cases hk : x = .proxy key
    · rw [hk, Function.update_self] at hx
      cases hx
    · rwa [Function.update_of_ne hk] at hx
  have hremove : holderPort (pm.proxies.erase key) pm.tcpGroups pm.groups holder = some port →
      pm.portOf holder = some port := by
    rw [holderPort_erase]
    exact herase holder
  unfold unregisterKey at hport
  split at hport
  · next proxy hp =>
      cases proxy with
      | grouped member =>
          obtain ⟨record, -, -, -, hid⟩ := h.described.record_of_proxy hp
          have hmember : memberIn pm.proxies key = some member.grouped := by
            simp [memberIn, hp, ProxyObject.group]
          obtain ⟨g, hg, hown, -⟩ := h.groups.of_member hmember
          simp only [close, leaveGroup, remove, hg, hid] at hport
          split at hport
          · have hleave := h.groups.holderPort_leave_last (pm.proxies.erase key) hg hown key
            simp only [portOf, releasePort] at hport
            rw [hleave] at hport
            by_cases hx : holder = .group g.groupId
            · rw [hx, Function.update_self] at hport
              cases hport
            · rw [Function.update_of_ne hx] at hport
              exact hremove hport
          · have hleave := h.groups.holderPort_leave (pm.proxies.erase key) hg hown key
            simp only [portOf] at hport
            rw [hleave] at hport
            exact hremove hport
      | xtcp name relayProxy => cases relayProxy <;> exact hremove hport
      | _ => exact hremove hport
  · exact hport

end Ports

/-! ## What was registered is acceptable -/

section Acceptable

variable {U : UnicodeData} {pm pm' : ProxyManager} {runId : RunId} {msg : NewProxyMsg}
  {tx : ReqSender} {key : String} {proxy : ProxyObject}

/-- A fixed port that was opened is allowed. -/
theorem allowed_of_grants {port : UInt16} {rc : ResourceController}
    (hopen : pm.resources.Opened (.ok port) rc)
    (hgrants : pm.resources.Grants msg.remotePort port) (hfixed : msg.remotePort ≠ 0) :
    pm.resources.isPortAllowed msg.remotePort = true := by
  rw [ResourceController.Grants, if_neg hfixed] at hgrants
  rw [← hgrants]
  exact (hopen.of_ok port rfl).2.1

/-- A group that is joined has the port of the message. -/
theorem portOf_joined (h : Lawful pm) {gid : String} {ref : Nat} (hgid : groupOf msg = some gid)
    (hgroup : pm.tcpGroups.lookup gid = some ref) :
    pm.portOf (.group gid) = some msg.remotePort := by
  obtain ⟨g, hg, rfl, -⟩ := h.groups.resolve gid ref hgroup
  have hport := (h.named g (List.mem_of_getElem? hg)).remotePort_eq hgid
  simp [portOf, holderPort, findGroup, hgroup, hg, hport]

/-- Only messages the configuration admits are built. -/
theorem Built.acceptable (h : Lawful pm) (hb : Built U pm runId msg tx key proxy pm') :
    Acceptable U pm msg where
  supported := hb.supported
  secret htype := by
    cases hb with
    | stcp _ hsk => exact hsk
    | xtcp _ hsk => exact hsk
    | xtcpRelay _ _ _ hsk => exact hsk
    | vhost scheme _ htype' => cases scheme <;> simp_all [Scheme.text]
    | udp _ _ htype' => rcases htype' with htype' | htype' <;> simp_all
    | _ => simp_all
  domains scheme htype := by
    cases hb with
    | vhost scheme' domains htype' hport hdomains =>
        obtain rfl : scheme = scheme' := Scheme.text_injective (htype.symm.trans htype')
        exact ⟨hport, domains, hdomains⟩
    | _ => cases scheme <;> simp_all [Scheme.text]
  port hopens hfixed := by
    cases hb with
    | tcp port rc htype hgroup hopen hgrants => exact allowed_of_grants hopen hgrants hfixed
    | udp port rc htype hopen hgrants => exact allowed_of_grants hopen hgrants hfixed
    | joined gid ref htype hgid hport hgroup =>
        exact h.allowed _ ((h.ports.mem_iff _).mpr ⟨_, portOf_joined h hgid hgroup⟩)
    | founded gid port rc htype hgid hport hgroup hopen heq =>
        exact heq ▸ (hopen.of_ok port rfl).2.1
    | xtcpRelay port rc htype hsk hfresh hrelay hopen hgrants =>
        exact allowed_of_grants hopen hgrants hfixed
    | vhost scheme _ htype => cases scheme <;> simp_all [OpensPort, Scheme.text]
    | _ => simp_all [OpensPort]
  group hgroup := by
    cases hb with
    | joined gid ref htype hgid hport => exact hport
    | founded gid port rc htype hgid hport => exact hport
    | tcp port rc htype hnone => exact absurd hnone hgroup
    | udp port rc htype =>
        exact absurd (groupOf_eq_none (by rcases htype with htype | htype <;> simp [htype])) hgroup
    | vhost scheme _ htype =>
        exact absurd (groupOf_eq_none (by cases scheme <;> simp [htype, Scheme.text])) hgroup
    | stcp htype => exact absurd (groupOf_eq_none (by simp [htype])) hgroup
    | xtcp htype => exact absurd (groupOf_eq_none (by simp [htype])) hgroup
    | xtcpRelay port rc htype => exact absurd (groupOf_eq_none (by simp [htype])) hgroup

end Acceptable

theorem lawful_start (U : UnicodeData) (subdomainHost : String)
    (vhostHttpPort vhostHttpsPort : UInt16) (allowPorts : List PortRange) :
    Lawful (start U subdomainHost vhostHttpPort vhostHttpsPort allowPorts) :=
  ⟨consistent_start U _ _ _ _, fun _ hg ↦ absurd hg List.not_mem_nil,
    fun port hport ↦ absurd hport (Finset.notMem_empty port)⟩

/-! ## Served messages -/

/-- The run has registered the message and holds what it asks for. -/
structure Served (U : UnicodeData) (pm : ProxyManager) (runId : RunId) (msg : NewProxyMsg) :
    Prop where
  key : proxyKey runId.val msg.proxyName ∈ pm.proxies
  acceptable : Acceptable U pm msg
  port : OpensPort msg → msg.remotePort ≠ 0 →
    pm.portOf (holderFor (proxyKey runId.val msg.proxyName) msg) = some msg.remotePort
  member : ∀ gid, groupOf msg = some gid →
    ∃ ref, memberIn pm.proxies (proxyKey runId.val msg.proxyName) = some ref ∧
      pm.tcpGroups.lookup gid = some ref

/-- A key is a backend of a group exactly if it is registered as a member of it. -/
theorem keptBackends_ne_nil_iff {pm : ProxyManager} (h : Consistent pm) {key gid : String} :
    keptBackends (· == key) pm.tcpGroups pm.groups gid ≠ [] ↔
      ∃ ref, memberIn pm.proxies key = some ref ∧ pm.tcpGroups.lookup gid = some ref := by
  cases href : pm.tcpGroups.lookup gid with
  | none => simp [keptBackends, findGroup, href]
  | some ref =>
      obtain ⟨g, hg, -, -, hids⟩ := h.groups.resolve gid ref href
      have hmem : key ∈ g.backendIds ↔ ∃ b ∈ g.backends, b.backendId = key := List.mem_map
      rw [hids key] at hmem
      simp [keptBackends, findGroup, href, hg, List.filter_eq_nil_iff, hmem]

namespace Served

variable {U : UnicodeData} {pm pm' : ProxyManager} {runId : RunId} {msg : NewProxyMsg}

/-- A message is served from its registration on. -/
theorem of_built (h : Lawful pm) {tx : ReqSender} {proxy : ProxyObject}
    (hkey : proxyKey runId.val msg.proxyName ∉ pm.proxies)
    (hb : Built U pm runId msg tx (proxyKey runId.val msg.proxyName) proxy pm')
    (record : ProxyRecord) :
    Served U (pm'.enter (proxyKey runId.val msg.proxyName) proxy record) runId msg where
  key := AList.mem_insert _ |>.mpr (.inl rfl)
  acceptable := (SameConfig.enter hb record).acceptable (hb.acceptable h)
  port hopens hfixed := by
    rcases portOf_enter h.toConsistent hkey hb record with
      ⟨hjoined, hsame⟩ | ⟨port, -, hgrants, -, -, -, hupdate⟩
    · obtain ⟨gid, ref, hgid, hgroup⟩ := hjoined hopens
      rw [hsame, holderFor, hgid]
      exact portOf_joined h hgid hgroup
    · rw [ResourceController.Grants, if_neg hfixed] at hgrants
      rw [hupdate, Function.update_self, hgrants]
  member gid hgid := by
    have htcp := (groupOf_eq_some hgid).1
    cases hb with
    | joined gid' ref htype hgid' hport hgroup =>
        rw [hgid] at hgid'
        obtain rfl := Option.some.inj hgid'
        refine ⟨ref, ?_, hgroup⟩
        rw [enter, memberIn_insert, Function.update_self]
        rfl
    | founded gid' port rc htype hgid' =>
        rw [hgid] at hgid'
        obtain rfl := Option.some.inj hgid'
        refine ⟨pm.groups.length, ?_, AList.lookup_insert _⟩
        rw [enter, memberIn_insert, Function.update_self]
        rfl
    | tcp port rc htype hgroup => rw [hgroup] at hgid; cases hgid
    | udp port rc htype => rcases htype with htype | htype <;> simp [htype] at htcp
    | vhost scheme domains htype => cases scheme <;> simp [htype, Scheme.text] at htcp
    | stcp htype => simp [htype] at htcp
    | xtcp htype => simp [htype] at htcp
    | xtcpRelay port rc htype => simp [htype] at htcp

/-- The port cursor is nothing a proxy holds. -/
theorem of_onlyCursor (hs : Served U pm runId msg) (hcursor : OnlyCursor pm pm') :
    Served U pm' runId msg := by
  obtain ⟨cursor, rfl⟩ := hcursor
  obtain ⟨hkey, hacceptable, hport, hmember⟩ := hs
  have hconfig : SameConfig pm
      { pm with resources := { pm.resources with nextDynamicPort := cursor } } :=
    ⟨rfl, rfl, fun _ ↦ rfl⟩
  exact ⟨hkey, hconfig.acceptable hacceptable, hport, hmember⟩

/-- Registering another proxy takes nothing from it. -/
theorem enter_other (hs : Served U pm runId msg) (h : Consistent pm) {other : RunId}
    {msg' : NewProxyMsg} {tx : ReqSender} {key' : String} {proxy : ProxyObject}
    (hkey : key' ∉ pm.proxies) (hb : Built U pm other msg' tx key' proxy pm')
    (record : ProxyRecord) : Served U (pm'.enter key' proxy record) runId msg where
  key := by
    rw [enter, hb.proxies_eq]
    exact AList.mem_insert _ |>.mpr (.inr hs.key)
  acceptable := (SameConfig.enter hb record).acceptable hs.acceptable
  port hopens hfixed := by
    have hport := hs.port hopens hfixed
    rcases portOf_enter h hkey hb record with ⟨-, hsame⟩ | ⟨port, -, -, -, -, hnone, hupdate⟩
    · rw [hsame]
      exact hport
    · rw [hupdate, Function.update_of_ne]
      · exact hport
      · rintro heq
        rw [heq, hnone] at hport
        cases hport
  member gid hgid := by
    obtain ⟨ref, hmember, hgroup⟩ := hs.member gid hgid
    refine ⟨ref, ?_, ?_⟩
    · rw [enter, hb.proxies_eq, memberIn_insert, Function.update_of_ne]
      · exact hmember
      · rintro rfl
        exact hkey hs.key
    · cases hb with
      | founded gid' port rc htype hgid' hport hnone =>
          refine (AList.lookup_insert_ne ?_).trans hgroup
          rintro rfl
          rw [hgroup] at hnone
          cases hnone
      | _ => exact hgroup

/-- Removing another proxy takes nothing from it. -/
theorem unregisterKey_other (hs : Served U pm runId msg) (h : Consistent pm) {key' : String}
    (hne : key' ≠ proxyKey runId.val msg.proxyName) :
    Served U (pm.unregisterKey key') runId msg := by
  have hframe : Untouched (· == proxyKey runId.val msg.proxyName) pm (pm.unregisterKey key') :=
    untouched_unregisterKey h (by simpa using hne)
  have hlookup := hframe.proxies (proxyKey runId.val msg.proxyName) (by simp)
  refine ⟨?_, (SameConfig.unregisterKey pm key').acceptable hs.acceptable, fun hopens hfixed ↦ ?_,
    fun gid hgid ↦ ?_⟩
  · rw [← AList.lookup_isSome, hlookup, AList.lookup_isSome]
    exact hs.key
  · have hport := hs.port hopens hfixed
    cases hgid : groupOf msg with
    | none =>
        simp only [holderFor, hgid, portOf, holderPort] at hport ⊢
        rw [hlookup]
        exact hport
    | some gid =>
        simp only [holderFor, hgid] at hport ⊢
        rw [hframe.groupPorts gid ((keptBackends_ne_nil_iff h).mpr (hs.member gid hgid))]
        exact hport
  · rw [← keptBackends_ne_nil_iff (h.unregisterKey key'), hframe.backends gid]
    exact (keptBackends_ne_nil_iff h).mpr (hs.member gid hgid)

end Served

/-! ## Histories -/

/-- The messages a run registers in a history. -/
def registeredBy (runId : RunId) (calls : List Call) : List NewProxyMsg :=
  calls.filterMap fun call ↦
    match call with
    | .registerProxy r msg _ _ => if r = runId then some msg else none
    | _ => none

/-- The run registers proxies, with success, and removes none.  Other runs do what
they want. -/
def OnlyRegisters (U : UnicodeData) (runId : RunId) (pm : ProxyManager) : Call → Prop
  | .registerProxy r msg tx bind => r = runId → (pm.registerProxy U r msg tx bind).1.isOk = true
  | .unregisterProxy r _ => r ≠ runId
  | .unregisterRunProxies r _ => r ≠ runId

instance (U : UnicodeData) (runId : RunId) (pm : ProxyManager) (call : Call) :
    Decidable (OnlyRegisters U runId pm call) :=
  match call with
  | .registerProxy r _ _ _ => inferInstanceAs (Decidable (r = runId → _))
  | .unregisterProxy r _ => inferInstanceAs (Decidable (r ≠ runId))
  | .unregisterRunProxies r _ => inferInstanceAs (Decidable (r ≠ runId))

/-- The run holds what these messages ask for, under different names. -/
structure Holds (U : UnicodeData) (runId : RunId) (pm : ProxyManager) (msgs : List NewProxyMsg) :
    Prop where
  lawful : Lawful pm
  served : ∀ msg ∈ msgs, Served U pm runId msg
  names : (msgs.map NewProxyMsg.proxyName).Nodup

namespace Holds

variable {U : UnicodeData} {pm pm' : ProxyManager} {runId : RunId} {msgs : List NewProxyMsg}

/-- Removing a proxy of another run. -/
theorem unregisterKey (h : Holds U runId pm msgs) {other : RunId} (hother : other ≠ runId)
    (name : String) : Holds U runId (pm.unregisterKey (proxyKey other.val name)) msgs where
  lawful := h.lawful.unregisterKey _
  served msg hmsg := (h.served msg hmsg).unregisterKey_other h.lawful.toConsistent fun heq ↦
    hother (proxyKey_inj.mp heq).1
  names := h.names

/-- Removing several proxies of another run. -/
theorem foldl_unregisterKey (h : Holds U runId pm msgs) {other : RunId} (hother : other ≠ runId)
    (keys : List String) (hkeys : ∀ key ∈ keys, ∃ name, key = proxyKey other.val name) :
    Holds U runId (keys.foldl ProxyManager.unregisterKey pm) msgs := by
  induction keys generalizing pm with
  | nil => exact h
  | cons key rest ih =>
      obtain ⟨⟨name, rfl⟩, hrest⟩ := List.forall_mem_cons.mp hkeys
      exact ih (h.unregisterKey hother name) hrest

/-- One call of such a history. -/
theorem step (h : Holds U runId pm msgs) {call : Call} (hok : OnlyRegisters U runId pm call)
    (hstep : ProxyManager.step U pm call = some pm') :
    Holds U runId pm' (msgs ++ registeredBy runId [call]) := by
  cases call with
  | unregisterProxy other name =>
      obtain rfl := Option.some.inj hstep
      rw [registeredBy, List.filterMap_cons_none rfl, List.filterMap_nil, List.append_nil]
      exact h.unregisterKey hok name
  | unregisterRunProxies other order =>
      rw [registeredBy, List.filterMap_cons_none rfl, List.filterMap_nil, List.append_nil]
      simp only [ProxyManager.step] at hstep
      split at hstep
      · obtain rfl := Option.some.inj hstep
        refine h.foldl_unregisterKey hok _ fun key hkey ↦ ?_
        exact startsWith_run_iff.mp (List.mem_filter.mp hkey).2
      · cases hstep
  | registerProxy other msg tx bind =>
      obtain rfl := Option.some.inj hstep
      rcases registerProxy_cases U pm other msg tx bind with
        ⟨e, pm', hr, hcursor⟩ | ⟨addr, proxy, pm', hr, hkey, hbuilt⟩
      · have hother : other ≠ runId := by
          intro heq
          have hsuccess := hok heq
          rw [hr] at hsuccess
          cases hsuccess
        simp only [registeredBy, hother, if_false, List.filterMap_cons_none, List.filterMap_nil,
          List.append_nil, hr]
        exact ⟨h.lawful.of_onlyCursor hcursor, fun m hm ↦ (h.served m hm).of_onlyCursor hcursor,
          h.names⟩
      · rw [hr]
        have hold : ∀ m ∈ msgs, Served U (pm'.enter (proxyKey other.val msg.proxyName) proxy
            ⟨other, msg.proxyName, msg.proxyType, addr⟩) runId m := fun m hm ↦
          (h.served m hm).enter_other h.lawful.toConsistent hkey hbuilt _
        have hlawful := h.lawful.enter hkey rfl hbuilt addr
        by_cases hother : other = runId
        · subst hother
          have hnew : registeredBy other [.registerProxy other msg tx bind] = [msg] := by
            simp [registeredBy]
          rw [hnew]
          refine ⟨hlawful, fun m hm ↦ ?_, ?_⟩
          · rcases List.mem_append.mp hm with hm | hm
            · exact hold m hm
            · obtain rfl := List.mem_singleton.mp hm
              exact Served.of_built h.lawful hkey hbuilt _
          · rw [List.map_append, List.nodup_append]
            refine ⟨h.names, List.nodup_singleton _, ?_⟩
            -- The key was fresh, so the name is new.
            intro name hname name' hname' heq
            obtain ⟨m, hm, rfl⟩ := List.mem_map.mp hname
            obtain rfl := List.mem_singleton.mp hname'
            exact hkey (heq ▸ (h.served m hm).key)
        · simp only [registeredBy, hother, if_false, List.filterMap_cons_none, List.filterMap_nil,
            List.append_nil]
          exact ⟨hlawful, hold, h.names⟩

/-- Whole histories. -/
theorem run (h : Holds U runId pm msgs) {calls : List Call}
    (hok : Machine.Along (ProxyManager.step U) (OnlyRegisters U runId) pm calls)
    (hrun : Machine.run (ProxyManager.step U) pm calls = some pm') :
    Holds U runId pm' (msgs ++ registeredBy runId calls) := by
  induction calls generalizing pm msgs with
  | nil =>
      obtain rfl := Option.some.inj hrun
      rw [registeredBy, List.filterMap_nil, List.append_nil]
      exact h
  | cons call rest ih =>
      obtain ⟨pm₁, hstep, hrest⟩ := (Machine.run_cons_eq_some _).mp hrun
      have hsplit : registeredBy runId (call :: rest) =
          registeredBy runId [call] ++ registeredBy runId rest := by
        rw [registeredBy, ← List.singleton_append, List.filterMap_append]
        rfl
      rw [hsplit, ← List.append_assoc]
      exact ih (h.step hok.1 hstep) (hok.2 _ hstep) hrest

/-- A server that has just started holds nothing. -/
theorem start (subdomainHost : String) (vhostHttpPort vhostHttpsPort : UInt16)
    (allowPorts : List PortRange) :
    Holds U runId
      (ProxyManager.start U subdomainHost vhostHttpPort vhostHttpsPort allowPorts) [] where
  lawful := lawful_start U subdomainHost vhostHttpPort vhostHttpsPort allowPorts
  served _ hmsg := absurd hmsg List.not_mem_nil
  names := List.nodup_nil

end Holds

end Arp.Server.ProxyManager
