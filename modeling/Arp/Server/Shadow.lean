import Arp.Server.Holdings

/-!
# Proxies that are still closing

A task takes a proxy out of the tables before it closes it, so for a while the
proxy holds its port, its registry entry or its place in a group without being
registered.  The *full* manager is the one in which a proxy counts as registered
until its `close` has ended: `Shadow` relates it to the manager of the server, and
the full one stays lawful.

`Since` says what the full manager can look like while the proxies of an old run
leave and a new run registers the same messages, and `Since.available` what this
means for the next message: if the old proxy of the message has gone from the full
manager, nothing the message asks for is taken.
-/

namespace Arp.Server

open Arp.Common Arp.Lib Arp.Lib.Text

namespace ProxyManager

/-! ## Proxies that are still closing -/

/-- The manager with other tables of proxies and records. -/
def withTables (pm : ProxyManager) (proxies : Table String ProxyObject)
    (records : Table String ProxyRecord) : ProxyManager :=
  { pm with proxies := proxies, records := records }

/-- Closing an object does not look at proxies and records. -/
theorem close_withTables (pm : ProxyManager) (proxies : Table String ProxyObject)
    (records : Table String ProxyRecord) (proxy : ProxyObject) :
    (pm.withTables proxies records).close proxy = (pm.close proxy).withTables proxies records := by
  cases proxy with
  | grouped member =>
      simp only [close, leaveGroup, withTables]
      split
      · rfl
      · split <;> rfl
  | xtcp name relayProxy => cases relayProxy <;> rfl
  | _ => rfl

/-- Building a proxy does not look at proxies and records. -/
theorem Built.withTables {U : UnicodeData} {pm pm' : ProxyManager} {runId : RunId}
    {msg : NewProxyMsg} {tx : ReqSender} {key : String} {proxy : ProxyObject}
    (hb : Built U pm runId msg tx key proxy pm') (proxies : Table String ProxyObject)
    (records : Table String ProxyRecord) :
    Built U (pm.withTables proxies records) runId msg tx key proxy
      (pm'.withTables proxies records) := by
  cases hb with
  | tcp port rc htype hgroup hopen hgrants => exact .tcp port rc htype hgroup hopen hgrants
  | udp port rc htype hopen hgrants => exact .udp port rc htype hopen hgrants
  | joined gid ref htype hgid hport hgroup => exact .joined gid ref htype hgid hport hgroup
  | founded gid port rc htype hgid hport hgroup hopen hfixed =>
      exact .founded gid port rc htype hgid hport hgroup hopen hfixed
  | stcp htype hsk hfresh => exact .stcp htype hsk hfresh
  | vhost scheme domains htype hport hdomains => exact .vhost scheme domains htype hport hdomains
  | xtcp htype hsk hfresh hrelay => exact .xtcp htype hsk hfresh hrelay
  | xtcpRelay port rc htype hsk hfresh hrelay hopen hgrants =>
      exact .xtcpRelay port rc htype hsk hfresh hrelay hopen hgrants

/-- The full manager has the proxies of the manager and those that two tasks are
closing; otherwise both are the same. -/
structure Shadow (full pm : ProxyManager) (old new : Option (String × ProxyObject)) : Prop where
  rest : pm = full.withTables pm.proxies pm.records
  lookup : ∀ key proxy, full.proxies.lookup key = some proxy ↔
    pm.proxies.lookup key = some proxy ∨ old = some (key, proxy) ∨ new = some (key, proxy)
  old_gone : ∀ key proxy, old = some (key, proxy) → key ∉ pm.proxies
  new_gone : ∀ key proxy, new = some (key, proxy) → key ∉ pm.proxies
  apart : ∀ key proxy proxy', old = some (key, proxy) → new ≠ some (key, proxy')

namespace Shadow

variable {full pm pm' : ProxyManager} {old new : Option (String × ProxyObject)} {key : String}
  {proxy : ProxyObject}

/-- Without closing proxies a manager is its own shadow. -/
theorem refl (pm : ProxyManager) : Shadow pm pm none none where
  rest := rfl
  lookup key proxy := by simp
  old_gone key proxy h := by cases h
  new_gone key proxy h := by cases h
  apart key proxy proxy' h := by cases h

theorem symm (h : Shadow full pm old new) : Shadow full pm new old where
  rest := h.rest
  lookup key proxy := by rw [h.lookup, or_comm (a := old = _)]
  old_gone := h.new_gone
  new_gone := h.old_gone
  apart key proxy proxy' hnew hold := h.apart key proxy' proxy hold hnew

theorem mem_of_mem (h : Shadow full pm old new) (hkey : key ∈ pm.proxies) : key ∈ full.proxies := by
  obtain ⟨proxy, hproxy⟩ := Table.mem_iff_lookup.mp hkey
  exact Table.mem_of_lookup ((h.lookup key proxy).mpr (.inl hproxy))

/-- A task takes a proxy out and starts closing it. -/
theorem take (h : Shadow full pm none new) (hproxy : pm.proxies.lookup key = some proxy) :
    Shadow full (pm.remove key) (some (key, proxy)) new where
  rest := congrArg (fun q ↦ q.withTables (pm.proxies.erase key) (pm.records.erase key)) h.rest
  lookup k p := by
    rw [h.lookup, remove, Table.lookup_erase_ite]
    by_cases hk : k = key
    · subst hk
      have hnew : new ≠ some (k, p) := fun hnew ↦
        h.new_gone k p hnew (Table.mem_of_lookup hproxy)
      simp [hproxy, hnew]
    · have hne : ¬key = k := fun heq ↦ hk heq.symm
      simp [hk, hne]
  old_gone k p hold := by
    obtain ⟨rfl, rfl⟩ := Prod.mk.inj (Option.some.inj hold)
    exact fun hmem ↦ (AList.mem_erase.mp hmem).1 rfl
  new_gone k p hnew hmem := h.new_gone k p hnew (AList.mem_erase.mp hmem).2
  apart k p p' hold hnew := by
    obtain ⟨rfl, rfl⟩ := Prod.mk.inj (Option.some.inj hold)
    exact h.new_gone _ p' hnew (Table.mem_of_lookup hproxy)

/-- A task has closed a proxy: now it is gone from the full manager, too. -/
theorem close (h : Shadow full pm (some (key, proxy)) new) :
    Shadow (full.unregisterKey key) (pm.close proxy) none new where
  rest := by
    have hfull : full.proxies.lookup key = some proxy := (h.lookup key proxy).mpr (.inr (.inl rfl))
    rw [unregisterKey, hfull]
    show pm.close proxy = ((full.withTables _ _).close proxy).withTables _ _
    rw [close_withTables, h.rest, close_withTables]
    rfl
  lookup k p := by
    rw [lookup_proxies_unregisterKey, (proxies_close pm proxy).1]
    split
    · next hk =>
        subst hk
        have hpm : pm.proxies.lookup k = none := AList.lookup_eq_none.mpr (h.old_gone k proxy rfl)
        simp [hpm, h.apart k proxy p rfl]
    · next hk =>
        have hne : ¬key = k := fun heq ↦ hk heq.symm
        rw [h.lookup]
        simp [hne]
  old_gone k p hold := by cases hold
  new_gone k p hnew := by
    rw [(proxies_close pm proxy).1]
    exact h.new_gone k p hnew
  apart k p p' hold := by cases hold

/-- A new proxy is entered while another is closing. -/
theorem enter {U : UnicodeData} {runId : RunId} {msg : NewProxyMsg} {tx : ReqSender}
    (h : Shadow full pm old none) (hkey : key ∉ full.proxies)
    (hb : Built U pm runId msg tx key proxy pm') (record : ProxyRecord) :
    Shadow ((pm'.withTables full.proxies full.records).enter key proxy record)
      (pm'.enter key proxy record) old none where
  rest := rfl
  lookup k p := by
    simp only [ProxyManager.enter, withTables, hb.proxies_eq, Table.lookup_insert_ite]
    split
    · next hk =>
        subst hk
        have hold : old ≠ some (k, p) := fun hold ↦
          hkey (Table.mem_of_lookup ((h.lookup k p).mpr (.inr (.inl hold))))
        simp [hold]
    · exact h.lookup k p
  old_gone k p hold hmem := by
    rw [ProxyManager.enter, hb.proxies_eq, AList.mem_insert] at hmem
    rcases hmem with rfl | hmem
    · exact hkey (Table.mem_of_lookup ((h.lookup k p).mpr (.inr (.inl hold))))
    · exact h.old_gone k p hold hmem
  new_gone k p hnew := by cases hnew
  apart k p p' _ hnew := by cases hnew

/-- Forgetting an XTCP name that is not there changes nothing. -/
theorem forgetXtcp (h : Shadow full pm old new) {name : String} (hname : name ∉ full.xtcpRegistry) :
    Shadow full (pm.forgetXtcp name) old new := by
  have hregistry : pm.xtcpRegistry = full.xtcpRegistry := by rw [h.rest]; rfl
  have hsame : pm.forgetXtcp name = pm := by
    have herase : pm.xtcpRegistry.erase name = pm.xtcpRegistry := by
      rw [hregistry]
      exact AList.ext (List.kerase_of_notMem_keys hname)
    rw [ProxyManager.forgetXtcp, herase]
  rw [hsame]
  exact h

/-- What is available in the full manager is available. -/
theorem available (h : Shadow full pm old new) {runId : RunId} {msg : NewProxyMsg}
    (hav : Available full runId msg) : Available pm runId msg := by
  have hkey : proxyKey runId.val msg.proxyName ∉ pm.proxies := fun hmem ↦
    hav.key (h.mem_of_mem hmem)
  rw [h.rest]
  exact ⟨hkey, hav.stcp, hav.xtcp, hav.port, hav.dynamic⟩

theorem sameConfig (h : Shadow full pm old new) : SameConfig full pm := by
  rw [h.rest]
  exact ⟨rfl, rfl, fun _ ↦ rfl⟩

end Shadow

/-! ## What has happened since -/

/-- The ports the messages ask for by number. -/
def fixedPorts (msgs : List NewProxyMsg) : List UInt16 :=
  (msgs.map NewProxyMsg.remotePort).filter (· ≠ 0)

/-- The holder has the port it had before, or the one it asked for since, or a
dynamic one that none of the messages asks for. -/
def Accounted (before : ProxyManager) (newRun : RunId) (msgs served : List NewProxyMsg)
    (holder : Holder) (port : UInt16) : Prop :=
  before.portOf holder = some port ∨
    (∃ msg ∈ served, OpensPort msg ∧ msg.remotePort ≠ 0 ∧
      holder = holderFor (proxyKey newRun.val msg.proxyName) msg ∧ msg.remotePort = port) ∨
    port ∉ fixedPorts msgs

/-- The full manager some time after `before`: proxies of before have left, the new
run has registered the messages `served`, and all ports are accounted for. -/
structure Since (before : ProxyManager) (newRun : RunId) (msgs served : List NewProxyMsg)
    (full : ProxyManager) : Prop where
  lawful : Lawful full
  config : SameConfig before full
  keys : ∀ key ∈ full.proxies,
    key ∈ before.proxies ∨ ∃ msg ∈ served, key = proxyKey newRun.val msg.proxyName
  ports : ∀ holder port, full.portOf holder = some port →
    Accounted before newRun msgs served holder port

theorem Accounted.append {before : ProxyManager} {newRun : RunId} {msgs served : List NewProxyMsg}
    {holder : Holder} {port : UInt16} (h : Accounted before newRun msgs served holder port)
    (msg : NewProxyMsg) : Accounted before newRun msgs (served ++ [msg]) holder port := by
  rcases h with hold | ⟨m, hm, hrest⟩ | hdynamic
  · exact .inl hold
  · exact .inr (.inl ⟨m, List.mem_append_left _ hm, hrest⟩)
  · exact .inr (.inr hdynamic)

namespace Since

variable {U : UnicodeData} {before full pm' : ProxyManager} {oldRun newRun : RunId}
  {msgs served : List NewProxyMsg} {msg : NewProxyMsg} {key : String}

theorem refl (h : Lawful before) : Since before newRun msgs [] before where
  lawful := h
  config := .refl before
  keys _ hkey := .inl hkey
  ports _ _ hport := .inl hport

/-- A proxy leaves. -/
theorem unregisterKey (h : Since before newRun msgs served full) (key : String) :
    Since before newRun msgs served (full.unregisterKey key) where
  lawful := h.lawful.unregisterKey key
  config := h.config.trans (.unregisterKey full key)
  keys k hk := by
    refine h.keys k ?_
    rw [← AList.lookup_isSome, lookup_proxies_unregisterKey] at hk
    split at hk
    · cases hk
    · exact AList.lookup_isSome.mp hk
  ports holder port hport := h.ports holder port (portOf_unregisterKey h.lawful.toConsistent hport)

/-- The new run registers a message. -/
theorem enter (h : Since before newRun msgs served full) {tx : ReqSender} {proxy : ProxyObject}
    {addr : String} (hkey : proxyKey newRun.val msg.proxyName ∉ full.proxies)
    (hb : Built U full newRun msg tx (proxyKey newRun.val msg.proxyName) proxy pm')
    (hdynamic : OpensPort msg → msg.remotePort = 0 →
      ∀ port ∈ ResourceController.cursorPorts 1000 full.resources.nextDynamicPort,
        full.resources.isPortAllowed port = true → port ∉ full.resources.tcpPorts →
        port ∉ fixedPorts msgs) :
    Since before newRun msgs (served ++ [msg])
      (pm'.enter (proxyKey newRun.val msg.proxyName) proxy
        ⟨newRun, msg.proxyName, msg.proxyType, addr⟩) where
  lawful := h.lawful.enter hkey rfl hb addr
  config := h.config.trans (.enter hb _)
  keys k hk := by
    rw [ProxyManager.enter, hb.proxies_eq, AList.mem_insert] at hk
    rcases hk with rfl | hk
    · exact .inr ⟨msg, by simp, rfl⟩
    · rcases h.keys k hk with hold | ⟨m, hm, rfl⟩
      · exact .inl hold
      · exact .inr ⟨m, List.mem_append_left _ hm, rfl⟩
  ports holder port hport := by
    rcases portOf_enter h.lawful.toConsistent hkey hb
      ⟨newRun, msg.proxyName, msg.proxyType, addr⟩ with
      ⟨-, hsame⟩ | ⟨granted, hopens, hgrants, hallowed, hfree, -, hupdate⟩
    · rw [hsame] at hport
      exact (h.ports holder port hport).append msg
    · rw [hupdate] at hport
      by_cases hholder : holder = holderFor (proxyKey newRun.val msg.proxyName) msg
      · rw [hholder, Function.update_self] at hport
        obtain rfl := Option.some.inj hport
        rw [ResourceController.Grants] at hgrants
        split at hgrants
        · next hzero => exact .inr (.inr (hdynamic hopens hzero _ hgrants hallowed hfree))
        · next hfixed =>
            exact .inr (.inl ⟨msg, by simp, hopens, hfixed, hholder, hgrants.symm⟩)
      · rw [Function.update_of_ne hholder] at hport
        exact (h.ports holder port hport).append msg

/-- Once the old run's proxy has gone, nobody has the name in the full manager. -/
theorem nobody_has (h : Since before newRun msgs served full)
    (hsole : ∀ run : RunId, proxyKey run.val msg.proxyName ∈ before.proxies → run = oldRun)
    (hgone : proxyKey oldRun.val msg.proxyName ∉ full.proxies)
    (hfresh : msg.proxyName ∉ served.map NewProxyMsg.proxyName) (run : RunId) :
    proxyKey run.val msg.proxyName ∉ full.proxies := by
  intro hkey
  rcases h.keys _ hkey with hbefore | ⟨m, hm, heq⟩
  · obtain rfl := hsole run hbefore
    exact hgone hkey
  · exact hfresh (List.mem_map.mpr ⟨m, hm, (proxyKey_inj.mp heq).2.symm⟩)

/-- The name of a registry entry belongs to somebody. -/
theorem notMem_registry {ρ : Type} {owner : ρ → RunId} {registry : Table String ρ} {type : String}
    (h : Lawful full) (hregistry : RegistryOk owner registry full.records type) {name : String}
    (hnobody : ∀ run : RunId, proxyKey run.val name ∉ full.proxies) : name ∉ registry := by
  intro hmem
  obtain ⟨info, hinfo⟩ := Table.mem_iff_lookup.mp hmem
  obtain ⟨record, hrecord, -⟩ := (hregistry name (owner info)).mp ⟨info, hinfo, rfl⟩
  exact hnobody (owner info) (h.described.mem_iff.mpr (Table.mem_of_lookup hrecord))

/-- A proxy that has a port is registered. -/
theorem mem_of_portOf_proxy {pm : ProxyManager} {port : UInt16}
    (h : pm.portOf (.proxy key) = some port) : key ∈ pm.proxies := by
  obtain ⟨proxy, hproxy, -⟩ := Option.bind_eq_some_iff.mp h
  exact Table.mem_of_lookup hproxy

/-- A group that has a port is in the table. -/
theorem mem_of_portOf_group {pm : ProxyManager} {gid : String} {port : UInt16}
    (h : pm.portOf (.group gid) = some port) : gid ∈ pm.tcpGroups := by
  obtain ⟨g, hg, -⟩ := Option.map_eq_some_iff.mp h
  obtain ⟨ref, href, -⟩ := Option.bind_eq_some_iff.mp hg
  exact Table.mem_of_lookup href

/-- A port the message asks for is free, or held by the group the message asks for. -/
theorem port_available (h : Since before newRun msgs served full)
    (hholds : Holds U oldRun before msgs) (hmsg : msg ∈ msgs) (hserved : ∀ m ∈ served, m ∈ msgs)
    (hfresh : msg.proxyName ∉ served.map NewProxyMsg.proxyName)
    (hgone : proxyKey oldRun.val msg.proxyName ∉ full.proxies) (hopens : OpensPort msg)
    (hfixed : msg.remotePort ≠ 0) {holder : Holder}
    (hport : full.portOf holder = some msg.remotePort) :
    ∃ gid, groupOf msg = some gid ∧ gid ∈ full.tcpGroups := by
  have hown := (hholds.served msg hmsg).port hopens hfixed
  have hunique := hholds.lawful.ports.unique
  rcases h.ports holder _ hport with hbefore | ⟨m, hm, hopens', hfixed', rfl, heq⟩ | hdynamic
  · -- The holder is the one that had the port before.
    have hsame := hunique _ _ _ hbefore hown
    cases hgid : groupOf msg with
    | none =>
        rw [holderFor, hgid] at hsame
        rw [hsame] at hport
        exact absurd (mem_of_portOf_proxy hport) hgone
    | some gid =>
        rw [holderFor, hgid] at hsame
        rw [hsame] at hport
        exact ⟨gid, rfl, mem_of_portOf_group hport⟩
  · -- A message served since had the port before, so it asks for the same group.
    have hthen := (hholds.served m (hserved m hm)).port hopens' hfixed'
    rw [heq] at hthen
    have hsame := hunique _ _ _ hthen hown
    cases hgid' : groupOf m with
    | none =>
        cases hgid : groupOf msg with
        | none =>
            simp only [holderFor, hgid, hgid', Holder.proxy.injEq] at hsame
            exact absurd (List.mem_map.mpr ⟨m, hm, (proxyKey_inj.mp hsame).2⟩) hfresh
        | some gid => simp [holderFor, hgid, hgid'] at hsame
    | some gid =>
        cases hgid : groupOf msg with
        | none => simp [holderFor, hgid, hgid'] at hsame
        | some gid' =>
            simp only [holderFor, hgid, hgid', Holder.group.injEq] at hsame hport
            subst hsame
            exact ⟨gid, rfl, mem_of_portOf_group hport⟩
  · refine absurd (List.mem_filter.mpr ⟨List.mem_map.mpr ⟨msg, hmsg, rfl⟩, ?_⟩) hdynamic
    simpa using hfixed

/-- Once the old run's proxy has gone, all that its message asks for is available,
provided a dynamic port is left if it asks for one. -/
theorem available (h : Since before newRun msgs served full)
    (hholds : Holds U oldRun before msgs) (hmsg : msg ∈ msgs) (hserved : ∀ m ∈ served, m ∈ msgs)
    (hfresh : msg.proxyName ∉ served.map NewProxyMsg.proxyName)
    (hsole : ∀ run : RunId, proxyKey run.val msg.proxyName ∈ before.proxies → run = oldRun)
    (hgone : proxyKey oldRun.val msg.proxyName ∉ full.proxies)
    (hdynamic : OpensPort msg → msg.remotePort = 0 →
      ∃ port ∈ ResourceController.cursorPorts 1000 full.resources.nextDynamicPort,
        full.resources.isPortAllowed port = true ∧ port ∉ full.resources.tcpPorts) :
    Available full newRun msg := by
  have hnobody := h.nobody_has hsole hgone hfresh
  refine ⟨hnobody newRun, fun _ ↦ notMem_registry h.lawful h.lawful.stcp hnobody,
    fun _ ↦ notMem_registry h.lawful h.lawful.xtcp hnobody, fun hopens hfixed ↦ ?_, hdynamic⟩
  by_cases hmem : msg.remotePort ∈ full.resources.tcpPorts
  · obtain ⟨holder, hport⟩ := (h.lawful.ports.mem_iff _).mp hmem
    exact .inr (h.port_available hholds hmsg hserved hfresh hgone hopens hfixed hport)
  · exact .inl hmem

end Since

end ProxyManager

end Arp.Server
