import Arp.Server.Consistency

/-!
# The life of a registered proxy

`Consistent` puts the parts of the invariant together.  It holds of a new
manager, is kept by `register_proxy` whatever is asked for and however a bind
ends, and by removing any proxy; so it holds after every sequence of calls.

`Untouched` is the frame of a removal: what it leaves alone of the proxies that
stay.  With the invariant it says what `unregister_run_proxies` does: the run is
gone from every table, and every other run's entries are as before.
-/

namespace Arp.Server.ProxyManager

open Arp.Common Arp.Lib Arp.Lib.Text

/-- The port of a holder in a manager. -/
def portOf (pm : ProxyManager) : Holder → Option UInt16 :=
  holderPort pm.proxies pm.tcpGroups pm.groups

/-- The group a key is registered in. -/
def memberIn (proxies : Table String ProxyObject) (key : String) : Option Nat :=
  (proxies.lookup key).bind ProxyObject.group

/-- Records describe proxies: both tables have the same keys, and the record of a
key describes its proxy. -/
def Described (pm : ProxyManager) : Prop :=
  ∀ key, Option.Rel (Describes key) (pm.proxies.lookup key) (pm.records.lookup key)

namespace Described

variable {pm : ProxyManager} {key : String} {proxy : ProxyObject} {record : ProxyRecord}

/-- Proxies and records have the same keys. -/
theorem mem_iff (h : Described pm) : key ∈ pm.proxies ↔ key ∈ pm.records := by
  have hrel := h key
  rw [Table.mem_iff_lookup, Table.mem_iff_lookup]
  cases hp : pm.proxies.lookup key <;> cases hr : pm.records.lookup key <;> rw [hp, hr] at hrel
  · simp
  · cases hrel
  · cases hrel
  · simp

/-- The record of a registered proxy. -/
theorem record_of_proxy (h : Described pm) (hp : pm.proxies.lookup key = some proxy) :
    ∃ record, pm.records.lookup key = some record ∧ Describes key proxy record := by
  have hrel := h key
  rw [hp] at hrel
  cases hr : pm.records.lookup key with
  | none => rw [hr] at hrel; cases hrel
  | some record =>
      rw [hr] at hrel
      cases hrel with
      | some hd => exact ⟨record, rfl, hd⟩

/-- Entering a proxy with its record. -/
theorem enter (h : Described pm) (hd : Describes key proxy record) :
    Described (pm.enter key proxy record) := by
  intro k
  rw [ProxyManager.enter, Table.lookup_insert_ite, Table.lookup_insert_ite]
  split
  · next hk => subst hk; exact .some hd
  · exact h k

/-- Entering what was built: the record describes it. -/
theorem enter_built (h : Described pm) {U : UnicodeData} {pm' : ProxyManager} {runId : RunId}
    {msg : NewProxyMsg} {tx : ReqSender} (addr : String)
    (hname : key = proxyKey runId.val msg.proxyName)
    (hb : Built U pm runId msg tx key proxy pm') :
    Described (pm'.enter key proxy ⟨runId, msg.proxyName, msg.proxyType, addr⟩) := by
  cases hb with
  | tcp port rc htype => exact h.enter ⟨hname, htype⟩
  | udp port rc htype => exact h.enter ⟨hname, htype⟩
  | joined gid ref htype => exact h.enter ⟨hname, htype, rfl⟩
  | founded gid port rc htype => exact h.enter ⟨hname, htype, rfl⟩
  | stcp htype => exact h.enter ⟨hname, htype, rfl⟩
  | vhost scheme domains htype => exact h.enter ⟨hname, htype, rfl⟩
  | xtcp htype => exact h.enter ⟨hname, htype, rfl⟩
  | xtcpRelay port rc htype => exact h.enter ⟨hname, htype, rfl⟩

/-- Removing a proxy with its record. -/
theorem remove (h : Described pm) (key : String) : Described (pm.remove key) := by
  intro k
  rw [ProxyManager.remove, Table.lookup_erase_ite, Table.lookup_erase_ite]
  split
  · exact .none
  · exact h k

end Described

/-- The tables agree with each other. -/
structure Consistent (pm : ProxyManager) : Prop where
  described : Described pm
  stcp : RegistryOk StcpProxyInfo.runId pm.stcpRegistry pm.records "stcp"
  xtcp : RegistryOk XtcpProxyInfo.runId pm.xtcpRegistry pm.records "xtcp"
  routes : ∀ scheme, RoutesOk (pm.vhostManager.table scheme) pm.records scheme.text
  ports : Owned pm.resources.tcpPorts pm.portOf
  groups : GroupsOk pm.tcpGroups pm.groups (memberIn pm.proxies)

namespace Consistent

variable {pm pm' : ProxyManager} {key : String} {proxy : ProxyObject} {record : ProxyRecord}

/-- Only the cursor differs, and nothing in the invariant looks at it. -/
theorem of_onlyCursor (h : Consistent pm) (hc : OnlyCursor pm pm') : Consistent pm' := by
  obtain ⟨cursor, rfl⟩ := hc
  exact ⟨h.described, h.stcp, h.xtcp, h.routes, h.ports, h.groups⟩

end Consistent

/-! ## Membership -/

theorem memberIn_insert (proxies : Table String ProxyObject) (key : String)
    (proxy : ProxyObject) :
    memberIn (proxies.insert key proxy) =
      Function.update (memberIn proxies) key proxy.group := by
  funext k
  unfold memberIn
  rw [Table.lookup_insert_ite]
  split
  · next hk => rw [hk, Function.update_self]; rfl
  · next hk => rw [Function.update_of_ne hk]

theorem memberIn_erase (proxies : Table String ProxyObject) (key : String) :
    memberIn (proxies.erase key) = Function.update (memberIn proxies) key none := by
  funext k
  unfold memberIn
  rw [Table.lookup_erase_ite]
  split
  · next hk => rw [hk, Function.update_self]; rfl
  · next hk => rw [Function.update_of_ne hk]

/-- Setting what is unset to nothing changes nothing. -/
theorem update_none {α β : Type} [DecidableEq α] {f : α → Option β} {a : α} (h : f a = none) :
    Function.update f a none = f := by
  rw [← h, Function.update_eq_self]

/-! ## Registering -/

namespace Consistent

variable {U : UnicodeData} {pm pm' : ProxyManager} {runId : RunId} {msg : NewProxyMsg}
  {tx : ReqSender} {key addr : String} {proxy : ProxyObject}

theorem holderPort_eq_none (hkey : key ∉ pm.proxies) :
    holderPort pm.proxies pm.tcpGroups pm.groups (.proxy key) = none := by
  simp [holderPort, AList.lookup_eq_none.mpr hkey]

theorem memberIn_eq_none (hkey : key ∉ pm.proxies) : memberIn pm.proxies key = none := by
  simp [memberIn, AList.lookup_eq_none.mpr hkey]

/-- A new proxy with a fresh port of its own. -/
theorem ports_take (h : Consistent pm) (hkey : key ∉ pm.proxies) {port : UInt16}
    {rc : ResourceController} (hopen : pm.resources.Opened (.ok port) rc)
    (hport : proxy.port = some port) :
    Owned rc.tcpPorts (holderPort (pm.proxies.insert key proxy) pm.tcpGroups pm.groups) := by
  obtain ⟨hfree, -, hports⟩ := hopen.of_ok port rfl
  rw [holderPort_insert, hports, hport]
  exact h.ports.take hfree (holderPort_eq_none hkey)

/-- A new proxy without a port of its own. -/
theorem ports_keep (h : Consistent pm) (hkey : key ∉ pm.proxies) (hport : proxy.port = none) :
    Owned pm.resources.tcpPorts
      (holderPort (pm.proxies.insert key proxy) pm.tcpGroups pm.groups) := by
  rw [holderPort_insert, hport]
  exact (update_none (holderPort_eq_none hkey)).symm ▸ h.ports

/-- A new proxy that founds a group with a fresh port. -/
theorem ports_found (h : Consistent pm) (hkey : key ∉ pm.proxies)
    {rc : ResourceController} {g : GroupedTcpProxy} (hproxy : proxy.port = none)
    (hgroup : pm.tcpGroups.lookup g.groupId = none)
    (hopen : pm.resources.Opened (.ok g.remotePort) rc) :
    Owned rc.tcpPorts (holderPort (pm.proxies.insert key proxy)
      (pm.tcpGroups.insert g.groupId pm.groups.length) (pm.groups ++ [g])) := by
  obtain ⟨hfree, -, hports⟩ := hopen.of_ok g.remotePort rfl
  rw [h.groups.holderPort_found, holderPort_insert, hproxy, hports,
    update_none (holderPort_eq_none hkey)]
  refine h.ports.take hfree ?_
  simp [portOf, holderPort, findGroup, hgroup]

/-- A new proxy in no group. -/
theorem groups_keep (h : Consistent pm) (hkey : key ∉ pm.proxies) (hgroup : proxy.group = none) :
    GroupsOk pm.tcpGroups pm.groups (memberIn (pm.proxies.insert key proxy)) := by
  rw [memberIn_insert, hgroup, update_none (memberIn_eq_none hkey)]
  exact h.groups

/-- Entering what was built keeps the manager consistent. -/
theorem enter (h : Consistent pm) (hkey : key ∉ pm.proxies)
    (hname : key = proxyKey runId.val msg.proxyName)
    (hb : Built U pm runId msg tx key proxy pm') :
    Consistent (pm'.enter key proxy ⟨runId, msg.proxyName, msg.proxyType, addr⟩) := by
  have hrec : key ∉ pm.records := fun hmem ↦ hkey (h.described.mem_iff.mpr hmem)
  have hdescribed := h.described.enter_built addr hname hb
  cases hb with
  | tcp port rc htype hgroup hopen hgrants =>
      exact
        { described := hdescribed
          stcp := h.stcp.enter_other hrec (by simp [htype])
          xtcp := h.xtcp.enter_other hrec (by simp [htype])
          routes := fun scheme ↦ (h.routes scheme).enter hrec
          ports := h.ports_take hkey hopen rfl
          groups := h.groups_keep hkey rfl }
  | udp port rc htype hopen hgrants =>
      have hne : msg.proxyType ≠ "stcp" ∧ msg.proxyType ≠ "xtcp" := by
        rcases htype with htype | htype <;> simp [htype]
      exact
        { described := hdescribed
          stcp := h.stcp.enter_other hrec hne.1
          xtcp := h.xtcp.enter_other hrec hne.2
          routes := fun scheme ↦ (h.routes scheme).enter hrec
          ports := h.ports_take hkey hopen rfl
          groups := h.groups_keep hkey rfl }
  | joined gid ref htype hgid hport hgroup =>
      exact
        { described := hdescribed
          stcp := h.stcp.enter_other hrec (by simp [htype])
          xtcp := h.xtcp.enter_other hrec (by simp [htype])
          routes := fun scheme ↦ (h.routes scheme).enter hrec
          ports := by
            rw [portOf]
            exact (GroupsOk.holderPort_join _ _ _ _ _).symm ▸ h.ports_keep hkey rfl
          groups := by
            rw [enter, memberIn_insert]
            exact h.groups.join hgroup (memberIn_eq_none hkey) rfl }
  | founded gid port rc htype hgid hport hgroup hopen hfixed =>
      exact
        { described := hdescribed
          stcp := h.stcp.enter_other hrec (by simp [htype])
          xtcp := h.xtcp.enter_other hrec (by simp [htype])
          routes := fun scheme ↦ (h.routes scheme).enter hrec
          ports := h.ports_found (g := ⟨gid, port, true, _⟩) hkey rfl hgroup hopen
          groups := by
            rw [enter, memberIn_insert]
            exact h.groups.found (memberIn_eq_none hkey) rfl hgroup rfl }
  | stcp htype hsk hfresh =>
      subst hname
      exact
        { described := hdescribed
          stcp := h.stcp.enter_same hfresh htype
          xtcp := h.xtcp.enter_other hrec (by simp [htype])
          routes := fun scheme ↦ (h.routes scheme).enter hrec
          ports := h.ports_keep hkey rfl
          groups := h.groups_keep hkey rfl }
  | vhost scheme domains htype hport hdomains =>
      exact
        { described := hdescribed
          stcp := h.stcp.enter_other hrec (by cases scheme <;> simp [htype, Scheme.text])
          xtcp := h.xtcp.enter_other hrec (by cases scheme <;> simp [htype, Scheme.text])
          routes := by
            intro scheme'
            by_cases hs : scheme' = scheme
            · subst hs
              simp only [enter, VhostManager.table_ensureListenerStarted,
                VhostManager.table_setTable]
              exact (h.routes scheme').enter_routes hrec htype domains rfl
            · simp only [enter, VhostManager.table_ensureListenerStarted,
                VhostManager.table_setTable_of_ne _ _ hs]
              exact (h.routes scheme').enter hrec
          ports := h.ports_keep hkey rfl
          groups := h.groups_keep hkey rfl }
  | xtcp htype hsk hfresh hrelay =>
      subst hname
      exact
        { described := hdescribed
          stcp := h.stcp.enter_other hrec (by simp [htype])
          xtcp := h.xtcp.enter_same hfresh htype
          routes := fun scheme ↦ (h.routes scheme).enter hrec
          ports := h.ports_keep hkey rfl
          groups := h.groups_keep hkey rfl }
  | xtcpRelay port rc htype hsk hfresh hrelay hopen hgrants =>
      subst hname
      exact
        { described := hdescribed
          stcp := h.stcp.enter_other hrec (by simp [htype])
          xtcp := h.xtcp.enter_same hfresh htype
          routes := fun scheme ↦ (h.routes scheme).enter hrec
          ports := h.ports_take hkey hopen rfl
          groups := h.groups_keep hkey rfl }

end Consistent

/-! ## Removing -/

namespace Consistent

variable {pm : ProxyManager} {key type : String} {proxy : ProxyObject} {record : ProxyRecord}

theorem not_hasType {records : Table String ProxyRecord} (hr : records.lookup key = some record)
    (hne : record.proxyType ≠ type) : ¬HasType records key type := by
  rintro ⟨record', hr', htype⟩
  rw [hr] at hr'
  exact hne (Option.some.inj hr' ▸ htype)

theorem stcp_remove (h : Consistent pm) (hr : pm.records.lookup key = some record)
    (hne : record.proxyType ≠ "stcp") :
    RegistryOk StcpProxyInfo.runId pm.stcpRegistry (pm.records.erase key) "stcp" :=
  h.stcp.remove_other (not_hasType hr hne)

theorem xtcp_remove (h : Consistent pm) (hr : pm.records.lookup key = some record)
    (hne : record.proxyType ≠ "xtcp") :
    RegistryOk XtcpProxyInfo.runId pm.xtcpRegistry (pm.records.erase key) "xtcp" :=
  h.xtcp.remove_other (not_hasType hr hne)

/-- Removing a proxy of no virtual host changes no route. -/
theorem routes_remove (h : Consistent pm) (hr : pm.records.lookup key = some record)
    (hhttp : record.proxyType ≠ "http") (hhttps : record.proxyType ≠ "https") (scheme : Scheme) :
    RoutesOk (pm.vhostManager.table scheme) (pm.records.erase key) scheme.text := by
  refine (h.routes scheme).remove_other (not_hasType hr ?_)
  cases scheme with
  | http => exact hhttp
  | https => exact hhttps

/-- Removing a proxy with a port of its own gives the port back. -/
theorem ports_release (h : Consistent pm) (hp : pm.proxies.lookup key = some proxy)
    {port : UInt16} (hport : proxy.port = some port) :
    Owned (pm.resources.tcpPorts.erase port)
      (holderPort (pm.proxies.erase key) pm.tcpGroups pm.groups) := by
  rw [holderPort_erase]
  refine h.ports.release ?_
  simp [portOf, holderPort, hp, hport]

/-- Removing a proxy without a port of its own changes no port. -/
theorem holderPort_remove (hp : pm.proxies.lookup key = some proxy) (hport : proxy.port = none) :
    holderPort (pm.proxies.erase key) pm.tcpGroups pm.groups = pm.portOf := by
  rw [holderPort_erase]
  refine update_none ?_
  simp [holderPort, hp, hport]

theorem ports_remove (h : Consistent pm) (hp : pm.proxies.lookup key = some proxy)
    (hport : proxy.port = none) :
    Owned pm.resources.tcpPorts
      (holderPort (pm.proxies.erase key) pm.tcpGroups pm.groups) := by
  rw [holderPort_remove hp hport]
  exact h.ports

/-- Removing a proxy that is in no group changes no membership. -/
theorem groups_remove (h : Consistent pm) (hp : pm.proxies.lookup key = some proxy)
    (hgroup : proxy.group = none) :
    GroupsOk pm.tcpGroups pm.groups (memberIn (pm.proxies.erase key)) := by
  have hmember : memberIn pm.proxies key = none := by simp [memberIn, hp, hgroup]
  rw [memberIn_erase, update_none hmember]
  exact h.groups

/-- A member of a group is removed and closed. -/
theorem remove_grouped (h : Consistent pm) {member : GroupedMemberProxy}
    (hp : pm.proxies.lookup key = some (.grouped member)) :
    Consistent ((pm.remove key).close (.grouped member)) := by
  obtain ⟨record, hr, hkey, htype, hid⟩ := h.described.record_of_proxy hp
  have hmember : memberIn pm.proxies key = some member.grouped := by
    simp [memberIn, hp, ProxyObject.group]
  obtain ⟨g, hg, hown, -⟩ := h.groups.of_member hmember
  have hstcp := h.stcp_remove hr (by simp [htype])
  have hxtcp := h.xtcp_remove hr (by simp [htype])
  have hroutes := h.routes_remove hr (by simp [htype]) (by simp [htype])
  have hports := holderPort_remove hp rfl
  simp only [close, leaveGroup, remove, hg, hid]
  split
  · next hlast =>
      rw [List.isEmpty_iff] at hlast
      refine ⟨h.described.remove key, hstcp, hxtcp, hroutes, ?_, ?_⟩
      · have hrelease := h.ports.release (h := .group g.groupId) (r := g.remotePort)
          (by simp [portOf, holderPort, findGroup, hown, hg])
        simpa only [portOf, releasePort, ResourceController.releaseTcpPort,
          h.groups.holderPort_leave_last _ hg hown, hports] using hrelease
      · simp only [releasePort]
        rw [memberIn_erase]
        exact h.groups.leave_last hmember hg hlast
  · next hrest =>
      rw [List.isEmpty_iff] at hrest
      refine ⟨h.described.remove key, hstcp, hxtcp, hroutes, ?_, ?_⟩
      · simpa only [portOf, h.groups.holderPort_leave _ hg hown, hports] using h.ports
      · rw [memberIn_erase]
        exact h.groups.leave hmember hg hrest

/-- Removing and closing a proxy keeps the manager consistent. -/
theorem unregisterKey (h : Consistent pm) (key : String) : Consistent (pm.unregisterKey key) := by
  unfold ProxyManager.unregisterKey
  split
  · next proxy hp =>
      obtain ⟨record, hr, hkey, hd⟩ := h.described.record_of_proxy hp
      cases proxy with
      | tcp proxy =>
          exact
            { described := h.described.remove key
              stcp := h.stcp_remove hr (by simp [hd])
              xtcp := h.xtcp_remove hr (by simp [hd])
              routes := h.routes_remove hr (by simp [hd]) (by simp [hd])
              ports := h.ports_release hp rfl
              groups := h.groups_remove hp rfl }
      | udp proxy =>
          exact
            { described := h.described.remove key
              stcp := h.stcp_remove hr (by rcases hd with hd | hd <;> simp [hd])
              xtcp := h.xtcp_remove hr (by rcases hd with hd | hd <;> simp [hd])
              routes := h.routes_remove hr (by rcases hd with hd | hd <;> simp [hd])
                (by rcases hd with hd | hd <;> simp [hd])
              ports := h.ports_release hp rfl
              groups := h.groups_remove hp rfl }
      | grouped member => exact h.remove_grouped hp
      | stcp name =>
          obtain ⟨htype, rfl⟩ := hd
          subst hkey
          exact
            { described := h.described.remove _
              stcp := h.stcp.remove_same ⟨record, hr, htype⟩
              xtcp := h.xtcp_remove hr (by simp [htype])
              routes := h.routes_remove hr (by simp [htype]) (by simp [htype])
              ports := h.ports_remove hp rfl
              groups := h.groups_remove hp rfl }
      | vhost scheme routeKey =>
          obtain ⟨htype, rfl⟩ := hd
          exact
            { described := h.described.remove _
              stcp := h.stcp_remove hr (by cases scheme <;> simp [htype, Scheme.text])
              xtcp := h.xtcp_remove hr (by cases scheme <;> simp [htype, Scheme.text])
              routes := by
                intro scheme'
                by_cases hs : scheme' = scheme
                · subst hs
                  simp only [close, remove, VhostManager.unregisterRoute,
                    VhostManager.table_setTable]
                  exact (h.routes scheme').remove_routes
                · simp only [close, remove, VhostManager.unregisterRoute,
                    VhostManager.table_setTable_of_ne _ _ hs]
                  exact (h.routes scheme').remove_other (not_hasType hr
                    (by cases scheme <;> cases scheme' <;> simp_all [Scheme.text]))
              ports := h.ports_remove hp rfl
              groups := h.groups_remove hp rfl }
      | xtcp name relayProxy =>
          obtain ⟨htype, rfl⟩ := hd
          subst hkey
          have hstcp := h.stcp_remove hr (by simp [htype])
          have hxtcp := h.xtcp.remove_same ⟨record, hr, htype⟩
          have hroutes := h.routes_remove hr (by simp [htype]) (by simp [htype])
          have hgroups := h.groups_remove hp rfl
          cases relayProxy with
          | none =>
              exact ⟨h.described.remove _, hstcp, hxtcp, hroutes, h.ports_remove hp rfl, hgroups⟩
          | some relay =>
              exact ⟨h.described.remove _, hstcp, hxtcp, hroutes, h.ports_release hp rfl, hgroups⟩
  · exact h

end Consistent

/-! ## The frame of a removal -/

/-- The backends of a group that belong to kept keys. -/
def keptBackends (keep : String → Bool) (tcpGroups : Table String Nat)
    (groups : List GroupedTcpProxy) (groupId : String) : List GroupedBackend :=
  match findGroup tcpGroups groups groupId with
  | some g => g.backends.filter fun b ↦ keep b.backendId
  | none => []

/-- Everything that belongs to kept keys is the same in both managers: proxies
and records, entries of the registries, routes with their order, backends of
groups with their order, and the ports of groups that have such backends. -/
structure Untouched (keep : String → Bool) (pm pm' : ProxyManager) : Prop where
  proxies : ∀ key, keep key = true → pm'.proxies.lookup key = pm.proxies.lookup key
  records : ∀ key, keep key = true → pm'.records.lookup key = pm.records.lookup key
  stcp : ∀ name info, keep (proxyKey info.runId.val name) = true →
    (pm'.stcpRegistry.lookup name = some info ↔ pm.stcpRegistry.lookup name = some info)
  xtcp : ∀ name info, keep (proxyKey info.runId.val name) = true →
    (pm'.xtcpRegistry.lookup name = some info ↔ pm.xtcpRegistry.lookup name = some info)
  routes : ∀ scheme domain,
    ((pm'.vhostManager.table scheme).routesOf domain).filter (fun r ↦ keep r.routeKey) =
      ((pm.vhostManager.table scheme).routesOf domain).filter fun r ↦ keep r.routeKey
  backends : ∀ groupId, keptBackends keep pm'.tcpGroups pm'.groups groupId =
    keptBackends keep pm.tcpGroups pm.groups groupId
  groupPorts : ∀ groupId, keptBackends keep pm.tcpGroups pm.groups groupId ≠ [] →
    pm'.portOf (.group groupId) = pm.portOf (.group groupId)

namespace Untouched

variable {keep : String → Bool} {pm pm' pm'' : ProxyManager}

theorem refl (keep : String → Bool) (pm : ProxyManager) : Untouched keep pm pm where
  proxies _ _ := rfl
  records _ _ := rfl
  stcp _ _ _ := Iff.rfl
  xtcp _ _ _ := Iff.rfl
  routes _ _ := rfl
  backends _ := rfl
  groupPorts _ _ := rfl

theorem trans (h : Untouched keep pm pm') (h' : Untouched keep pm' pm'') :
    Untouched keep pm pm'' where
  proxies key hk := (h'.proxies key hk).trans (h.proxies key hk)
  records key hk := (h'.records key hk).trans (h.records key hk)
  stcp name info hk := (h'.stcp name info hk).trans (h.stcp name info hk)
  xtcp name info hk := (h'.xtcp name info hk).trans (h.xtcp name info hk)
  routes scheme domain := (h'.routes scheme domain).trans (h.routes scheme domain)
  backends groupId := (h'.backends groupId).trans (h.backends groupId)
  groupPorts groupId hne := by
    rw [h'.groupPorts groupId (by rwa [h.backends]), h.groupPorts groupId hne]

end Untouched

section Frame

variable {keep : String → Bool} {pm : ProxyManager} {key : String}

/-- A table does not change at kept keys when another key leaves it. -/
theorem lookup_erase_of_keep {V : Type} (t : Table String V) (hkey : keep key = false) {k : String}
    (hk : keep k = true) : (t.erase key).lookup k = t.lookup k := by
  rw [Table.lookup_erase_ite, if_neg]
  rintro rfl
  rw [hkey] at hk
  cases hk

/-- The entry of a removed proxy is the only one its registry loses. -/
theorem RegistryOk.lookup_erase {ρ : Type} {owner : ρ → RunId} {registry : Table String ρ}
    {records : Table String ProxyRecord} {type : String}
    (h : RegistryOk owner registry records type)
    {runId : RunId} {name : String} (htype : HasType records (proxyKey runId.val name) type)
    (hkey : keep (proxyKey runId.val name) = false) (name' : String) (info : ρ)
    (hkeep : keep (proxyKey (owner info).val name') = true) :
    (registry.erase name).lookup name' = some info ↔ registry.lookup name' = some info := by
  rw [Table.lookup_erase_ite]
  split
  · next hn =>
      subst hn
      refine iff_of_false (by simp) fun hinfo ↦ ?_
      obtain ⟨info', hinfo', rfl⟩ := (h name' runId).mpr htype
      rw [hinfo] at hinfo'
      obtain rfl := Option.some.inj hinfo'
      rw [hkey] at hkeep
      cases hkeep
  · rfl

/-- A member that leaves changes none of the kept backends. -/
theorem filter_dropBackend (g : GroupedTcpProxy) (hkey : keep key = false) :
    (g.dropBackend key).backends.filter (fun b ↦ keep b.backendId) =
      g.backends.filter fun b ↦ keep b.backendId := by
  rw [GroupedTcpProxy.dropBackend, List.filter_filter]
  refine List.filter_congr fun b _ ↦ ?_
  by_cases hb : b.backendId = key
  · simp [hb, hkey]
  · simp [hb]

/-- Unregistering the routes of a key changes none of the kept routes. -/
theorem filter_unregisterRoute (vm : VhostManager) (scheme : Scheme) (hkey : keep key = false)
    (scheme' : Scheme) (domain : String) :
    (((vm.unregisterRoute key scheme).table scheme').routesOf domain).filter
        (fun r ↦ keep r.routeKey) =
      ((vm.table scheme').routesOf domain).filter fun r ↦ keep r.routeKey := by
  by_cases hs : scheme' = scheme
  · subst hs
    rw [VhostManager.unregisterRoute, VhostManager.table_setTable,
      RouteTable.routesOf_unregisterRoute, List.filter_filter]
    refine List.filter_congr fun r _ ↦ ?_
    by_cases hr : r.routeKey = key
    · simp [hr, hkey]
    · simp [hr]
  · rw [VhostManager.unregisterRoute, VhostManager.table_setTable_of_ne _ _ hs]

/-- A member of a group leaves without a trace for kept keys. -/
theorem untouched_remove_grouped (h : Consistent pm) {member : GroupedMemberProxy}
    (hp : pm.proxies.lookup key = some (.grouped member)) (hkey : keep key = false) :
    Untouched keep pm ((pm.remove key).close (.grouped member)) := by
  obtain ⟨record, -, -, -, hid⟩ := h.described.record_of_proxy hp
  have hmember : memberIn pm.proxies key = some member.grouped := by
    simp [memberIn, hp, ProxyObject.group]
  obtain ⟨g, hg, hown, -⟩ := h.groups.of_member hmember
  have hfind : findGroup pm.tcpGroups pm.groups g.groupId = some g := by
    simp [findGroup, hown, hg]
  simp only [close, leaveGroup, remove, hg, hid]
  split
  · next hlast =>
      rw [List.isEmpty_iff] at hlast
      -- Nobody else was in the group, so none of its backends is kept.
      have hnone : g.backends.filter (fun b ↦ keep b.backendId) = [] := by
        rw [← filter_dropBackend g hkey, hlast]
        rfl
      have hbackends : ∀ gid, keptBackends keep (pm.tcpGroups.erase g.groupId)
          (pm.groups.set member.grouped (g.dropBackend key)) gid =
          keptBackends keep pm.tcpGroups pm.groups gid := by
        intro gid
        simp only [keptBackends, h.groups.findGroup_erase_set hg hown]
        by_cases hgid : gid = g.groupId
        · subst hgid
          simp only [if_true, hfind, hnone]
        · simp only [if_neg hgid]
      refine ⟨fun k hk ↦ lookup_erase_of_keep _ hkey hk, fun k hk ↦ lookup_erase_of_keep _ hkey hk,
        fun _ _ _ ↦ Iff.rfl, fun _ _ _ ↦ Iff.rfl, fun _ _ ↦ rfl, hbackends, fun gid hne ↦ ?_⟩
      have hgid : gid ≠ g.groupId := by
        rintro rfl
        simp only [keptBackends, hfind, hnone] at hne
        exact hne rfl
      simp only [portOf, holderPort, releasePort, h.groups.findGroup_erase_set hg hown,
        if_neg hgid]
  · have hbackends : ∀ gid, keptBackends keep pm.tcpGroups
          (pm.groups.set member.grouped (g.dropBackend key)) gid =
          keptBackends keep pm.tcpGroups pm.groups gid := by
        intro gid
        simp only [keptBackends, h.groups.findGroup_set hg hown]
        by_cases hgid : gid = g.groupId
        · subst hgid
          simp only [if_true, hfind, filter_dropBackend g hkey]
        · simp only [if_neg hgid]
    refine ⟨fun k hk ↦ lookup_erase_of_keep _ hkey hk, fun k hk ↦ lookup_erase_of_keep _ hkey hk,
      fun _ _ _ ↦ Iff.rfl, fun _ _ _ ↦ Iff.rfl, fun _ _ ↦ rfl, hbackends, fun gid _ ↦ ?_⟩
    have hports := h.groups.holderPort_leave pm.proxies hg hown key
    exact congrFun hports (.group gid)

/-- Removing a proxy that is not kept leaves everything that is kept alone. -/
theorem untouched_unregisterKey (h : Consistent pm) (hkey : keep key = false) :
    Untouched keep pm (pm.unregisterKey key) := by
  unfold unregisterKey
  split
  · next proxy hp =>
      obtain ⟨record, hr, hname, hd⟩ := h.described.record_of_proxy hp
      -- What every removal does, whatever `close` adds to it.
      have hremove : Untouched keep pm (pm.remove key) :=
        { Untouched.refl keep pm with
          proxies := fun k hk ↦ lookup_erase_of_keep _ hkey hk
          records := fun k hk ↦ lookup_erase_of_keep _ hkey hk }
      cases proxy with
      | tcp proxy => exact { hremove with }
      | udp proxy => exact { hremove with }
      | grouped member => exact untouched_remove_grouped h hp hkey
      | stcp name =>
          obtain ⟨htype, rfl⟩ := hd
          subst hname
          exact { hremove with stcp := h.stcp.lookup_erase ⟨record, hr, htype⟩ hkey }
      | vhost scheme routeKey =>
          obtain ⟨htype, rfl⟩ := hd
          exact { hremove with routes := fun scheme' domain ↦ filter_unregisterRoute _ _ hkey _ _ }
      | xtcp name relayProxy =>
          obtain ⟨htype, rfl⟩ := hd
          subst hname
          cases relayProxy with
          | none => exact { hremove with xtcp := h.xtcp.lookup_erase ⟨record, hr, htype⟩ hkey }
          | some relay =>
              exact { hremove with xtcp := h.xtcp.lookup_erase ⟨record, hr, htype⟩ hkey }
  · exact .refl keep pm

end Frame

/-! ## Removing the proxies of a run -/

/-- Removing listed keys, none of them kept. -/
theorem foldl_unregisterKey {keep : String → Bool} {pm : ProxyManager} (h : Consistent pm)
    (keys : List String) (hkeys : ∀ key ∈ keys, keep key = false) :
    Consistent (keys.foldl unregisterKey pm) ∧ Untouched keep pm (keys.foldl unregisterKey pm) := by
  induction keys generalizing pm with
  | nil => exact ⟨h, .refl keep pm⟩
  | cons key rest ih =>
      obtain ⟨hc, hu⟩ := ih (h.unregisterKey key) fun k hk ↦ hkeys k (List.mem_cons_of_mem _ hk)
      exact ⟨hc, (untouched_unregisterKey h (hkeys key List.mem_cons_self)).trans hu⟩

/-- Removed keys are gone. -/
theorem lookup_foldl_unregisterKey (pm : ProxyManager) (keys : List String) (k : String) :
    (keys.foldl unregisterKey pm).proxies.lookup k =
      if k ∈ keys then none else pm.proxies.lookup k := by
  induction keys generalizing pm with
  | nil => rfl
  | cons key rest ih =>
      rw [List.foldl_cons, ih, lookup_proxies_unregisterKey]
      by_cases hk : k = key
      · simp [hk]
      · simp [hk]

/-- Nothing in the manager mentions the run. -/
structure Forgotten (runId : RunId) (pm : ProxyManager) : Prop where
  proxies : ∀ name, proxyKey runId.val name ∉ pm.proxies
  records : ∀ name, proxyKey runId.val name ∉ pm.records
  stcp : ∀ name info, pm.stcpRegistry.lookup name = some info → info.runId ≠ runId
  xtcp : ∀ name info, pm.xtcpRegistry.lookup name = some info → info.runId ≠ runId
  routes : ∀ scheme domain, ∀ route ∈ (pm.vhostManager.table scheme).routesOf domain,
    ∀ name, route.routeKey ≠ proxyKey runId.val name
  backends : ∀ groupId g, findGroup pm.tcpGroups pm.groups groupId = some g →
    ∀ name, proxyKey runId.val name ∉ g.backendIds

/-- In a consistent manager a run without proxies is not mentioned at all. -/
theorem Consistent.forgotten {pm : ProxyManager} (h : Consistent pm) {runId : RunId}
    (hproxies : ∀ name, proxyKey runId.val name ∉ pm.proxies) : Forgotten runId pm := by
  have hrecords : ∀ name, proxyKey runId.val name ∉ pm.records := fun name hmem ↦
    hproxies name (h.described.mem_iff.mpr hmem)
  refine ⟨hproxies, hrecords, ?_, ?_, ?_, ?_⟩
  · rintro name info hinfo rfl
    exact not_hasType_of_not_mem (hrecords name) ((h.stcp name _).mp ⟨info, hinfo, rfl⟩)
  · rintro name info hinfo rfl
    exact not_hasType_of_not_mem (hrecords name) ((h.xtcp name _).mp ⟨info, hinfo, rfl⟩)
  · intro scheme domain route hroute name hkey
    have htype := h.routes scheme domain route hroute
    rw [hkey] at htype
    exact not_hasType_of_not_mem (hrecords name) htype
  · intro groupId g hfind name hmem
    obtain ⟨ref, href, hg⟩ := Option.bind_eq_some_iff.mp hfind
    obtain ⟨g', hg', -, -, hids⟩ := h.groups.resolve groupId ref href
    rw [hg] at hg'
    obtain rfl := Option.some.inj hg'
    have hmember := (hids _).mp hmem
    rw [Consistent.memberIn_eq_none (hproxies name)] at hmember
    cases hmember

/-- The keys of all other runs. -/
def otherRuns (runId : RunId) (key : String) : Bool := !startsWith key (runId.val ++ ":")

/-- `unregister_run_proxies` forgets the run and leaves all others alone. -/
theorem unregisterRunProxies_spec {pm : ProxyManager} (h : Consistent pm) {runId : RunId}
    {order : List String} (horder : order.Perm pm.proxies.keys) :
    Consistent (pm.unregisterRunProxies runId order) ∧
      Forgotten runId (pm.unregisterRunProxies runId order) ∧
      Untouched (otherRuns runId) pm (pm.unregisterRunProxies runId order) := by
  have hkeys : ∀ key ∈ runKeys runId order, otherRuns runId key = false := by
    intro key hkey
    simp only [otherRuns, (List.mem_filter.mp hkey).2, Bool.not_true]
  obtain ⟨hc, hu⟩ := foldl_unregisterKey h (runKeys runId order) hkeys
  refine ⟨hc, hc.forgotten fun name ↦ ?_, hu⟩
  rw [← AList.lookup_eq_none, lookup_foldl_unregisterKey]
  split
  · rfl
  · next hnot =>
      -- A key of the run that is not collected was not registered.
      have hstart : startsWith (proxyKey runId.val name) (runId.val ++ ":") = true :=
        startsWith_run_iff.mpr ⟨name, rfl⟩
      refine AList.lookup_eq_none.mpr fun hmem ↦ hnot (List.mem_filter.mpr ⟨?_, hstart⟩)
      exact horder.mem_iff.mpr (AList.mem_keys.mp hmem)

/-! ## Whole runs -/

/-- The calls that change the manager; a walk over the proxies comes with its
order. -/
inductive Call where
  | registerProxy (runId : RunId) (msg : NewProxyMsg) (tx : ReqSender) (bind : Option String)
  | unregisterProxy (runId : RunId) (proxyName : String)
  | unregisterRunProxies (runId : RunId) (order : List String)

/-- One call. -/
def step (U : UnicodeData) (pm : ProxyManager) : Call → Option ProxyManager
  | .registerProxy runId msg tx bind => some (pm.registerProxy U runId msg tx bind).2
  | .unregisterProxy runId proxyName => some (pm.unregisterProxy runId proxyName)
  | .unregisterRunProxies runId order =>
    if order.Perm pm.proxies.keys then some (pm.unregisterRunProxies runId order) else none

/-- The managers of a server that has just started. -/
def start (U : UnicodeData) (subdomainHost : String) (vhostHttpPort vhostHttpsPort : UInt16)
    (allowPorts : List PortRange) : ProxyManager :=
  new (VhostManager.new U subdomainHost vhostHttpPort vhostHttpsPort) allowPorts

theorem consistent_start (U : UnicodeData) (subdomainHost : String)
    (vhostHttpPort vhostHttpsPort : UInt16) (allowPorts : List PortRange) :
    Consistent (start U subdomainHost vhostHttpPort vhostHttpsPort allowPorts) := by
  have hempty : ∀ key type, ¬HasType ∅ key type := fun key type ↦
    not_hasType_of_not_mem (AList.notMem_empty key)
  refine ⟨fun key ↦ .none, ?_, ?_, ?_, ⟨?_, ?_⟩, ⟨?_, ?_⟩⟩
  · exact fun name runId ↦ iff_of_false (by simp [start, new]) (hempty _ _)
  · exact fun name runId ↦ iff_of_false (by simp [start, new]) (hempty _ _)
  · intro scheme domain route hroute
    cases scheme <;> exact absurd hroute List.not_mem_nil
  · intro port
    refine iff_of_false (Finset.notMem_empty port) ?_
    rintro ⟨x, hx⟩
    cases x <;> cases hx
  · intro x y port hx
    cases x <;> cases hx
  · intro groupId ref href
    cases href
  · intro key ref href
    cases href

/-- Every call keeps the manager consistent. -/
theorem consistent_step {U : UnicodeData} (pm : ProxyManager) (call : Call) (pm' : ProxyManager)
    (h : Consistent pm) (hstep : step U pm call = some pm') : Consistent pm' := by
  cases call with
  | registerProxy runId msg tx bind =>
      obtain rfl := Option.some.inj hstep
      rcases registerProxy_cases U pm runId msg tx bind with
        ⟨e, pm', hr, hcursor⟩ | ⟨addr, proxy, pm', hr, hkey, hbuilt⟩
      · rw [hr]
        exact h.of_onlyCursor hcursor
      · rw [hr]
        exact h.enter hkey rfl hbuilt
  | unregisterProxy runId proxyName =>
      obtain rfl := Option.some.inj hstep
      exact h.unregisterKey _
  | unregisterRunProxies runId order =>
      simp only [step] at hstep
      split at hstep
      · next horder =>
          obtain rfl := Option.some.inj hstep
          exact (unregisterRunProxies_spec h horder).1
      · cases hstep

/-- After every sequence of calls, however the binds end: proxies and records
have the same keys and the tables agree; and removing the proxies of a run then
forgets the run and leaves every other run alone. -/
theorem tables_agree {U : UnicodeData} {subdomainHost : String}
    {vhostHttpPort vhostHttpsPort : UInt16} {allowPorts : List PortRange} {calls : List Call}
    {pm : ProxyManager}
    (hrun : Machine.run (step U) (start U subdomainHost vhostHttpPort vhostHttpsPort allowPorts)
      calls = some pm) :
    (∀ key, key ∈ pm.proxies ↔ key ∈ pm.records) ∧ Consistent pm ∧
      ∀ runId order pm', step U pm (.unregisterRunProxies runId order) = some pm' →
        Forgotten runId pm' ∧ Untouched (otherRuns runId) pm pm' := by
  have h : Consistent pm := Machine.run_invariant consistent_step hrun
    (consistent_start U subdomainHost vhostHttpPort vhostHttpsPort allowPorts)
  refine ⟨fun key ↦ h.described.mem_iff, h, fun runId order pm' hstep ↦ ?_⟩
  simp only [step] at hstep
  split at hstep
  · next horder =>
      obtain rfl := Option.some.inj hstep
      exact (unregisterRunProxies_spec h horder).2
  · cases hstep

/-- Two runs with proxies of several types, one of them in a group. -/
def severalProxies : List Call :=
  let lbGroup := Json.object [("group", .string "web"), ("group_key", .string "k")]
  [.registerProxy run1 (message "ssh" "tcp" 10022 "" .null) 1 none,
    .registerProxy run1 (message "lb" "tcp" 10080 "" lbGroup) 1 none,
    .registerProxy run2 (message "lb" "tcp" 10080 "" lbGroup) 2 none,
    .registerProxy run1 (message "db" "stcp" 0 "secret" .null) 1 none,
    .registerProxy run2 (message "cam" "xtcp" 0 "secret" .null) 2 none,
    .registerProxy run2 (message "site" "http" 0 "" .null) 2 none,
    .registerProxy run2 (message "dns" "udp" 10053 "" .null) 2 (some "address in use"),
    .unregisterProxy run1 "ssh"]

/-- After `severalProxies` the first run is removed. -/
theorem tables_agree_severalProxies :
    ∃ pm pm', Machine.run (step .ascii) (start .ascii "" 80 443 []) severalProxies = some pm ∧
      step .ascii pm (.unregisterRunProxies ⟨"run-1", by decide⟩ pm.proxies.keys) = some pm' ∧
      pm'.resources.tcpPorts = {10000, 10080} ∧ Consistent pm ∧
      Forgotten ⟨"run-1", by decide⟩ pm' ∧
      Untouched (otherRuns ⟨"run-1", by decide⟩) pm pm' := by
  have hports : ((Machine.run (step .ascii) (start .ascii "" 80 443 []) severalProxies).bind
      fun pm ↦ step .ascii pm (.unregisterRunProxies ⟨"run-1", by decide⟩ pm.proxies.keys)).map
        (fun pm ↦ pm.resources.tcpPorts) = some {10000, 10080} := by decide
  obtain ⟨pm', hpm', hports⟩ := Option.map_eq_some_iff.mp hports
  obtain ⟨pm, hpm, hstep⟩ := Option.bind_eq_some_iff.mp hpm'
  obtain ⟨-, hc, hrest⟩ := tables_agree hpm
  exact ⟨pm, pm', hpm, hstep, hports, hc, hrest _ _ _ hstep⟩

end Arp.Server.ProxyManager
