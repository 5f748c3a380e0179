import Arp.Client.Proxies
import Arp.Server.Holdings

/-!
# Who answers a request for a work connection

The server asks a client for work connections by proxy name, and the client looks
the name up among its own objects.  A link puts the two managers of one run side
by side: a configuration is registered with the server first and, once the server
has accepted it, with the client.

For every type but one the names agree.  The relay of an XTCP proxy is a TCP proxy
with a name of its own, `<name>__relay`, which no registration gives to the
client; so it is served only if the client has another proxy of that name, by
accident or as a workaround (`reached_iff`).
-/

namespace Arp.Server

open Arp.Common Arp.Lib Arp.Lib.Text

/-! ## The names the server asks for -/

/-- The names under which work connections are requested for the proxy of a key:
what its handlers put into `ReqWorkConn` and `StartWorkConn`. -/
inductive ProxyManager.Requests (pm : ProxyManager) (key : String) : String → Prop
  | tcp (proxy : TcpProxy) (hproxy : pm.proxies.lookup key = some (.tcp proxy)) :
      Requests pm key proxy.name
  | udp (proxy : UdpProxy) (hproxy : pm.proxies.lookup key = some (.udp proxy)) :
      Requests pm key proxy.name
  | grouped (member : GroupedMemberProxy) (g : GroupedTcpProxy) (backend : GroupedBackend)
      (hproxy : pm.proxies.lookup key = some (.grouped member))
      (hgroup : pm.groups[member.grouped]? = some g) (hbackend : backend ∈ g.backends)
      (hid : backend.backendId = member.backendId) : Requests pm key backend.proxyName
  /-- A visitor asks for the name, and the registry sends the request to the run. -/
  | stcp (name : String) (hproxy : pm.proxies.lookup key = some (.stcp name)) :
      Requests pm key name
  | vhost (scheme : Scheme) (routeKey domain : String) (route : VhostRoute)
      (hproxy : pm.proxies.lookup key = some (.vhost scheme routeKey))
      (hroute : route ∈ (pm.vhostManager.table scheme).routesOf domain)
      (hkey : route.routeKey = routeKey) : Requests pm key route.proxyName
  | relay (name : String) (relay : TcpProxy)
      (hproxy : pm.proxies.lookup key = some (.xtcp name (some relay))) :
      Requests pm key relay.name

/-- The key is that of a run and this name. -/
def KeyOf (name key : String) : Prop := ∃ runId : RunId, key = proxyKey runId.val name

theorem KeyOf.eq {name name' : String} {runId : RunId} (h : KeyOf name (proxyKey runId.val name')) :
    name = name' := by
  obtain ⟨r, hr⟩ := h
  exact (proxyKey_inj.mp hr).2.symm

/-- The names an object carries are those of its key. -/
def ProxyObject.Labelled (key : String) : ProxyObject → Prop
  | tcp proxy => KeyOf proxy.name key
  | udp proxy => KeyOf proxy.name key
  | grouped member => member.backendId = key
  | stcp name => KeyOf name key
  | vhost _ routeKey => routeKey = key
  | xtcp name relayProxy => KeyOf name key ∧ ∀ relay ∈ relayProxy, relay.name = name ++ "__relay"

/-- Proxies, routes and backends carry the names of their keys. -/
structure Labelled (pm : ProxyManager) : Prop where
  objects : ∀ key proxy, pm.proxies.lookup key = some proxy → proxy.Labelled key
  routes : ∀ scheme domain, ∀ route ∈ (pm.vhostManager.table scheme).routesOf domain,
    KeyOf route.proxyName route.routeKey
  backends : ∀ g ∈ pm.groups, ∀ b ∈ g.backends, KeyOf b.proxyName b.backendId

namespace Labelled

open ProxyManager

variable {U : UnicodeData} {pm pm' : ProxyManager} {runId : RunId} {msg : NewProxyMsg}
  {tx : ReqSender} {key : String} {proxy : ProxyObject}

/-- Joining a group adds a backend with the name of its key. -/
theorem addBackend {g : GroupedTcpProxy} {b : GroupedBackend}
    (h : ∀ b ∈ g.backends, KeyOf b.proxyName b.backendId) (hb : KeyOf b.proxyName b.backendId) :
    ∀ b' ∈ ((g.addBackend b).ensureStarted).backends, KeyOf b'.proxyName b'.backendId := by
  unfold GroupedTcpProxy.addBackend GroupedTcpProxy.ensureStarted
  split
  · exact h
  · intro b' hb'
    rcases List.mem_append.mp hb' with hb' | hb'
    · exact h b' hb'
    · rw [List.mem_singleton.mp hb']
      exact hb

/-- What is built for a message carries the message's name. -/
theorem labelled_of_built (hkey : key = proxyKey runId.val msg.proxyName)
    (hb : Built U pm runId msg tx key proxy pm') : proxy.Labelled key := by
  have hof : KeyOf msg.proxyName key := ⟨runId, hkey⟩
  cases hb with
  | tcp | udp | stcp => exact hof
  | joined | founded | vhost => rfl
  | xtcp => exact ⟨hof, fun relay hrelay ↦ absurd hrelay (by simp)⟩
  | xtcpRelay =>
      refine ⟨hof, fun relay hrelay ↦ ?_⟩
      obtain rfl := Option.some.inj hrelay
      rfl

/-- Building a proxy keeps routes and backends labelled. -/
theorem of_built (h : Labelled pm) (hkey : key = proxyKey runId.val msg.proxyName)
    (hb : Built U pm runId msg tx key proxy pm') : Labelled pm' := by
  have hof : KeyOf msg.proxyName key := ⟨runId, hkey⟩
  cases hb with
  | tcp | udp | stcp | xtcp | xtcpRelay => exact ⟨h.objects, h.routes, h.backends⟩
  | joined gid ref =>
      refine ⟨h.objects, h.routes, ?_⟩
      exact forall_mem_modify h.backends (fun g hg ↦ addBackend hg hof) ref
  | founded gid port rc =>
      refine ⟨h.objects, h.routes, fun g hg b hmem ↦ ?_⟩
      rcases List.mem_append.mp hg with hg | hg
      · exact h.backends g hg b hmem
      · rw [List.mem_singleton.mp hg] at hmem
        rw [List.mem_singleton.mp hmem]
        exact hof
  | vhost scheme domains =>
      refine ⟨h.objects, fun scheme' domain route hroute ↦ ?_, h.backends⟩
      rw [VhostManager.table_ensureListenerStarted] at hroute
      by_cases hs : scheme' = scheme
      · subst hs
        rw [VhostManager.table_setTable] at hroute
        rcases RouteTable.mem_routesOf_addRoutes hroute with hold | ⟨rfl, -⟩
        · exact h.routes _ domain route hold
        · exact hof
      · rw [VhostManager.table_setTable_of_ne _ _ hs] at hroute
        exact h.routes _ domain route hroute

/-- Entering a labelled object. -/
theorem enter (h : Labelled pm) (hproxy : proxy.Labelled key) (record : ProxyRecord) :
    Labelled (pm.enter key proxy record) := by
  refine ⟨fun k p hp ↦ ?_, h.routes, h.backends⟩
  rw [ProxyManager.enter, Table.lookup_insert_ite] at hp
  split at hp
  · next hk =>
      obtain rfl := Option.some.inj hp
      exact hk ▸ hproxy
  · exact h.objects k p hp

theorem registerProxy (h : Labelled pm) (U : UnicodeData) (runId : RunId) (msg : NewProxyMsg)
    (tx : ReqSender) (bind : Option String) :
    Labelled (pm.registerProxy U runId msg tx bind).2 := by
  rcases registerProxy_cases U pm runId msg tx bind with
    ⟨e, pm', hr, cursor, rfl⟩ | ⟨addr, proxy, pm', hr, hkey, hbuilt⟩
  · rw [hr]
    exact ⟨h.objects, h.routes, h.backends⟩
  · rw [hr]
    exact (h.of_built rfl hbuilt).enter (labelled_of_built rfl hbuilt) _

/-- Closing an object leaves routes and backends with their names. -/
theorem close (h : Labelled pm) (proxy : ProxyObject) : Labelled (pm.close proxy) := by
  refine ⟨?_, ?_, ?_⟩
  · rw [(proxies_close pm proxy).1]
    exact h.objects
  · cases proxy with
    | vhost scheme routeKey =>
        intro scheme' domain route hroute
        simp only [ProxyManager.close, VhostManager.unregisterRoute] at hroute
        by_cases hs : scheme' = scheme
        · subst hs
          rw [VhostManager.table_setTable, RouteTable.routesOf_unregisterRoute] at hroute
          exact h.routes _ domain route (List.mem_filter.mp hroute).1
        · rw [VhostManager.table_setTable_of_ne _ _ hs] at hroute
          exact h.routes _ domain route hroute
    | grouped member =>
        simp only [ProxyManager.close, leaveGroup]
        split
        · exact h.routes
        · split <;> exact h.routes
    | xtcp name relayProxy => cases relayProxy <;> exact h.routes
    | _ => exact h.routes
  · cases proxy with
    | grouped member =>
        simp only [ProxyManager.close, leaveGroup]
        split
        · exact h.backends
        · next g hg =>
            have hset : ∀ g' ∈ pm.groups.set member.grouped (g.dropBackend member.backendId),
                ∀ b ∈ g'.backends, KeyOf b.proxyName b.backendId := by
              intro g' hg' b hb
              rcases List.mem_or_eq_of_mem_set hg' with hold | rfl
              · exact h.backends g' hold b hb
              · exact h.backends g (List.mem_of_getElem? hg) b (List.mem_filter.mp hb).1
            split <;> exact hset
    | xtcp name relayProxy => cases relayProxy <;> exact h.backends
    | _ => exact h.backends

theorem remove (h : Labelled pm) (key : String) : Labelled (pm.remove key) := by
  refine ⟨fun k proxy hp ↦ ?_, h.routes, h.backends⟩
  rw [ProxyManager.remove, Table.lookup_erase_ite] at hp
  split at hp
  · cases hp
  · exact h.objects k proxy hp

theorem unregisterKey (h : Labelled pm) (key : String) : Labelled (pm.unregisterKey key) := by
  unfold ProxyManager.unregisterKey
  split
  · exact (h.remove key).close _
  · exact h

theorem forgetXtcp (h : Labelled pm) (name : String) : Labelled (pm.forgetXtcp name) :=
  ⟨h.objects, h.routes, h.backends⟩

theorem start (U : UnicodeData) (subdomainHost : String) (vhostHttpPort vhostHttpsPort : UInt16)
    (allowPorts : List PortRange) :
    Labelled (ProxyManager.start U subdomainHost vhostHttpPort vhostHttpsPort allowPorts) := by
  refine ⟨fun key proxy hp ↦ ?_, fun scheme domain route hroute ↦ ?_, fun g hg ↦ ?_⟩
  · cases hp
  · cases scheme <;> cases hroute
  · cases hg

/-- The names asked for are that of the proxy or, for the relay of an XTCP proxy,
the one derived from it. -/
theorem eq_of_requests (h : Labelled pm) {name name' : String}
    (hreq : pm.Requests (proxyKey runId.val name) name') :
    (name' = name ∧ ∀ n r, pm.proxies.lookup (proxyKey runId.val name) ≠ some (.xtcp n r)) ∨
      name' = name ++ "__relay" ∧ ∃ n relay,
        pm.proxies.lookup (proxyKey runId.val name) = some (.xtcp n (some relay)) := by
  cases hreq with
  | tcp proxy hproxy => exact .inl ⟨(h.objects _ _ hproxy).eq, by simp [hproxy]⟩
  | udp proxy hproxy => exact .inl ⟨(h.objects _ _ hproxy).eq, by simp [hproxy]⟩
  | grouped member g backend hproxy hgroup hbackend hid =>
      have hkey := h.backends g (List.mem_of_getElem? hgroup) backend hbackend
      rw [hid, show member.backendId = _ from h.objects _ _ hproxy] at hkey
      exact .inl ⟨hkey.eq, by simp [hproxy]⟩
  | stcp _ hproxy => exact .inl ⟨(h.objects _ _ hproxy).eq, by simp [hproxy]⟩
  | vhost scheme routeKey domain route hproxy hroute hk =>
      have hkey := h.routes scheme domain route hroute
      rw [hk, show routeKey = _ from h.objects _ _ hproxy] at hkey
      exact .inl ⟨hkey.eq, by simp [hproxy]⟩
  | relay n relay hproxy =>
      obtain ⟨hkey, hrelay⟩ := h.objects _ _ hproxy
      exact .inr ⟨by rw [hrelay relay rfl, hkey.eq], n, relay, hproxy⟩

end Labelled

end Arp.Server

namespace Arp.EndToEnd

open Arp.Common Arp.Lib Arp.Lib.Text Arp.Client Arp.Server

/-! ## Links -/

/-- The two managers of one run.  `registered` is the history of the link: the
configuration last registered with both sides under a name and not closed since. -/
structure Link where
  server : Server.ProxyManager
  client : Client.ProxyManager
  registered : Table String ProxyConfig

/-- The run of a link and what does not change in it. -/
structure Link.Params where
  U : UnicodeData
  runId : RunId
  tx : ReqSender
  tcpMux : Bool

namespace Link

/-- What happens on a link.  The rest of the server's world may register proxies
of other runs, and remove any proxy for any reason. -/
inductive Event where
  /-- `register_proxies` or `register_proxy_dynamic`, up to the answer. -/
  | register (config : ProxyConfig) (bind : Option String) (now : Nat)
  /-- `handle_close_proxy_cmd`. -/
  | close (name : String)
  /-- A work connection is started. -/
  | work (msg : StartWorkConnMsg) (now : Nat) (probe : Bool)
  | otherRegisters (runId : RunId) (msg : NewProxyMsg) (tx : ReqSender) (bind : Option String)
  | serverRemoves (key : String)
  | serverForgets (name : String)

/-- One event.  Only valid configurations are registered: the client checks them
when it starts. -/
def step (P : Params) (l : Link) : Event → Option Link
  | .register config bind now =>
    if config.validate = .ok () then
      match l.server.registerProxy P.U P.runId (newProxyMsg P.tcpMux config) P.tx bind with
      | (.ok _, server) => some
        { server := server
          client := l.client.registerProxy (effectiveConfig P.tcpMux config) now
          registered := l.registered.insert config.name config }
      | (.error _, server) => some { l with server := server }
    else none
  | .close name => some
    { server := l.server.unregisterProxy P.runId name
      client := l.client.unregisterProxy name
      registered := l.registered.erase name }
  | .work msg now probe => some { l with client := (l.client.startWorkConn msg now probe).2 }
  | .otherRegisters runId msg tx bind =>
    if runId = P.runId then none
    else some { l with server := (l.server.registerProxy P.U runId msg tx bind).2 }
  | .serverRemoves key => some { l with server := l.server.unregisterKey key }
  | .serverForgets name => some { l with server := l.server.forgetXtcp name }

/-- A new server, and a client that may have objects of earlier runs. -/
def start (P : Params) (subdomainHost : String) (vhostHttpPort vhostHttpsPort : UInt16)
    (allowPorts : List PortRange) (client : Client.ProxyManager) : Link where
  server := .start P.U subdomainHost vhostHttpPort vhostHttpsPort allowPorts
  client := client
  registered := ∅

/-! ## What a link keeps -/

/-- The object is of the kind a configuration asks for. -/
def MadeFor (config : ProxyConfig) : ProxyObject → Prop
  | .xtcp _ relayProxy => config.proxyType = .xtcp ∧ relayProxy.isSome = config.fallbackToRelay
  | _ => config.proxyType ≠ .xtcp

theorem display_eq_xtcp {type : ProxyType} : type.display = "xtcp" ↔ type = .xtcp :=
  ProxyType.display_injective.eq_iff' rfl

/-- What the server builds for the message of a configuration is of its kind. -/
theorem madeFor_of_built {U : UnicodeData} {pm pm' : Server.ProxyManager} {runId : RunId}
    {tx : ReqSender} {key : String} {tcpMux : Bool} {config : ProxyConfig} {proxy : ProxyObject}
    (hb : ProxyManager.Built U pm runId (newProxyMsg tcpMux config) tx key proxy pm') :
    MadeFor config proxy := by
  have hne : ∀ {text}, config.proxyType.display = text → text ≠ "xtcp" →
      config.proxyType ≠ .xtcp := by
    rintro text rfl
    exact mt display_eq_xtcp.mpr
  cases hb with
  | tcp port rc htype | joined gid ref htype | founded gid port rc htype | stcp htype =>
      exact hne htype (by decide)
  | udp port rc htype =>
      rcases htype with htype | htype
      · exact hne htype (by decide)
      · exact hne htype (by decide)
  | vhost scheme domains htype =>
      refine hne htype ?_
      cases scheme <;> decide
  | xtcp htype hsk hfresh hrelay => exact ⟨display_eq_xtcp.mp htype, hrelay.symm⟩
  | xtcpRelay port rc htype hsk hfresh hrelay => exact ⟨display_eq_xtcp.mp htype, hrelay.symm⟩

/-- The client's object of a registered configuration. -/
def HasObject (tcpMux : Bool) (client : Client.ProxyManager) (config : ProxyConfig) : Prop :=
  ∃ now proxy, client.getProxy config.name = some proxy ∧
    (ClientProxy.ofConfig (effectiveConfig tcpMux config) now).SameButHealth proxy

/-- The invariant of a link: labels, and for each registered configuration its
object on the client and, while the server has one, its object there. -/
structure Linked (P : Params) (l : Link) : Prop where
  labelled : Labelled l.server
  named : ∀ name config, l.registered.lookup name = some config → config.name = name
  client : ∀ name config, l.registered.lookup name = some config →
    HasObject P.tcpMux l.client config
  server : ∀ name config, l.registered.lookup name = some config → ∀ proxy,
    l.server.proxies.lookup (proxyKey P.runId.val name) = some proxy → MadeFor config proxy

namespace Linked

variable {P : Params} {l : Link}

/-- A change at the server that adds nothing to the proxies of the run. -/
theorem withServer (h : Linked P l) {server : Server.ProxyManager} (hlabelled : Labelled server)
    (hproxies : ∀ name proxy, server.proxies.lookup (proxyKey P.runId.val name) = some proxy →
      l.server.proxies.lookup (proxyKey P.runId.val name) = some proxy) :
    Linked P { l with server := server } :=
  ⟨hlabelled, h.named, h.client, fun name config hreg proxy hp ↦
    h.server name config hreg proxy (hproxies name proxy hp)⟩

theorem unregisterKey (h : Linked P l) (key : String) :
    Linked P { l with server := l.server.unregisterKey key } := by
  refine h.withServer (h.labelled.unregisterKey key) fun name proxy hp ↦ ?_
  rw [ProxyManager.lookup_proxies_unregisterKey] at hp
  split at hp
  · cases hp
  · exact hp

/-- Handling a work connection keeps the objects. -/
theorem work (h : Linked P l) (msg : StartWorkConnMsg) (now : Nat) (probe : Bool) :
    Linked P { l with client := (l.client.startWorkConn msg now probe).2 } := by
  refine ⟨h.labelled, h.named, fun name config hreg ↦ ?_, h.server⟩
  obtain ⟨now', proxy, hproxy, hsame⟩ := h.client name config hreg
  unfold Client.ProxyManager.startWorkConn
  split
  · exact ⟨now', proxy, hproxy, hsame⟩
  · split
    · exact ⟨now', proxy, hproxy, hsame⟩
    · next other hother =>
        by_cases hn : config.name = msg.proxyName
        · rw [← hn, hproxy] at hother
          obtain rfl := Option.some.inj hother
          refine ⟨now', _, ?_, hsame.handleWorkConn now probe⟩
          rw [Client.ProxyManager.getProxy, hn]
          exact AList.lookup_insert _
        · refine ⟨now', proxy, ?_, hsame⟩
          rw [Client.ProxyManager.getProxy]
          exact (AList.lookup_insert_ne hn).trans hproxy

/-- Both sides close a proxy. -/
theorem close (h : Linked P l) (name : String) :
    Linked P
      { server := l.server.unregisterProxy P.runId name
        client := l.client.unregisterProxy name
        registered := l.registered.erase name } := by
  have hkept : ∀ n config, (l.registered.erase name).lookup n = some config →
      n ≠ name ∧ l.registered.lookup n = some config := by
    intro n config hreg
    rw [Table.lookup_erase_ite] at hreg
    split at hreg
    · cases hreg
    · next hne => exact ⟨hne, hreg⟩
  have hserver := h.unregisterKey (proxyKey P.runId.val name)
  refine ⟨hserver.labelled, fun n config hreg ↦ h.named n config (hkept n config hreg).2,
    fun n config hreg ↦ ?_, fun n config hreg ↦ hserver.server n config (hkept n config hreg).2⟩
  obtain ⟨hne, hreg⟩ := hkept n config hreg
  obtain ⟨now, proxy, hproxy, hsame⟩ := h.client n config hreg
  rw [← h.named n config hreg] at hne
  exact ⟨now, proxy, (AList.lookup_erase_ne hne).trans hproxy, hsame⟩

/-- A registration of another run. -/
theorem otherRegisters (h : Linked P l) {runId : RunId} (hrun : runId ≠ P.runId)
    (msg : NewProxyMsg) (tx : ReqSender) (bind : Option String) :
    Linked P { l with server := (l.server.registerProxy P.U runId msg tx bind).2 } := by
  refine h.withServer (h.labelled.registerProxy P.U runId msg tx bind) fun name proxy hp ↦ ?_
  rcases ProxyManager.registerProxy_cases P.U l.server runId msg tx bind with
    ⟨e, pm', hr, cursor, rfl⟩ | ⟨addr, other, pm', hr, -, hbuilt⟩
  · rw [hr] at hp
    exact hp
  · rw [hr, ProxyManager.enter, Table.lookup_insert_ite] at hp
    have hne : proxyKey P.runId.val name ≠ proxyKey runId.val msg.proxyName := fun heq ↦
      hrun (proxyKey_inj.mp heq).1.symm
    rw [if_neg hne, hbuilt.proxies_eq] at hp
    exact hp

/-- A configuration that the server accepts is registered with both sides. -/
theorem register (h : Linked P l) {config : ProxyConfig} {proxy : ProxyObject}
    {pm' : Server.ProxyManager} {record : ProxyRecord} (now : Nat)
    (hbuilt : ProxyManager.Built P.U l.server P.runId (newProxyMsg P.tcpMux config) P.tx
      (proxyKey P.runId.val config.name) proxy pm') :
    Linked P
      { server := pm'.enter (proxyKey P.runId.val config.name) proxy record
        client := l.client.registerProxy (effectiveConfig P.tcpMux config) now
        registered := l.registered.insert config.name config } := by
  have hname : (ClientProxy.ofConfig (effectiveConfig P.tcpMux config) now).name = config.name :=
    ClientProxy.name_ofConfig _ now
  refine ⟨(h.labelled.of_built rfl hbuilt).enter (Labelled.labelled_of_built rfl hbuilt) _,
    fun n other hreg ↦ ?_, fun n other hreg ↦ ?_, fun n other hreg p hp ↦ ?_⟩
  · rw [Table.lookup_insert_ite] at hreg
    split at hreg
    · next hn => rw [hn, Option.some.inj hreg]
    · exact h.named n other hreg
  · rw [Table.lookup_insert_ite] at hreg
    split at hreg
    · obtain rfl := Option.some.inj hreg
      refine ⟨now, _, ?_, .refl _⟩
      rw [Client.ProxyManager.getProxy, Client.ProxyManager.registerProxy, hname]
      exact AList.lookup_insert _
    · next hn =>
        obtain ⟨now', old, hold, hsame⟩ := h.client n other hreg
        refine ⟨now', old, ?_, hsame⟩
        rw [← h.named n other hreg] at hn
        rw [Client.ProxyManager.getProxy, Client.ProxyManager.registerProxy, hname]
        exact (AList.lookup_insert_ne hn).trans hold
  · rw [ProxyManager.enter, Table.lookup_insert_ite] at hp
    rw [Table.lookup_insert_ite] at hreg
    by_cases hn : n = config.name
    · rw [if_pos hn] at hreg
      rw [if_pos (by rw [hn])] at hp
      obtain rfl := Option.some.inj hreg
      obtain rfl := Option.some.inj hp
      exact madeFor_of_built hbuilt
    · have hne : proxyKey P.runId.val n ≠ proxyKey P.runId.val config.name := fun heq ↦
        hn (proxyKey_inj.mp heq).2
      rw [if_neg hn] at hreg
      rw [if_neg hne, hbuilt.proxies_eq] at hp
      exact h.server n other hreg p hp

end Linked

/-- Every event keeps the invariant of a link. -/
theorem linked_step {P : Params} (l : Link) (e : Event) (l' : Link) (h : Linked P l)
    (hstep : step P l e = some l') : Linked P l' := by
  cases e with
  | register config bind now =>
      simp only [step] at hstep
      split at hstep
      · rcases ProxyManager.registerProxy_cases P.U l.server P.runId
            (newProxyMsg P.tcpMux config) P.tx bind with
          ⟨e, pm', hr, cursor, rfl⟩ | ⟨addr, proxy, pm', hr, -, hbuilt⟩
        · rw [hr] at hstep
          obtain rfl := Option.some.inj hstep
          exact h.withServer ⟨h.labelled.objects, h.labelled.routes, h.labelled.backends⟩
            fun _ _ hp ↦ hp
        · rw [hr] at hstep
          obtain rfl := Option.some.inj hstep
          exact h.register now hbuilt
      · cases hstep
  | close name =>
      obtain rfl := Option.some.inj hstep
      exact h.close name
  | work msg now probe =>
      obtain rfl := Option.some.inj hstep
      exact h.work msg now probe
  | otherRegisters runId msg tx bind =>
      simp only [step] at hstep
      split at hstep
      · cases hstep
      · next hrun =>
          obtain rfl := Option.some.inj hstep
          exact h.otherRegisters hrun msg tx bind
  | serverRemoves key =>
      obtain rfl := Option.some.inj hstep
      exact h.unregisterKey key
  | serverForgets name =>
      obtain rfl := Option.some.inj hstep
      exact h.withServer (h.labelled.forgetXtcp name) fun _ _ hp ↦ hp

theorem linked_start (P : Params) (subdomainHost : String) (vhostHttpPort vhostHttpsPort : UInt16)
    (allowPorts : List PortRange) (client : Client.ProxyManager) :
    Linked P (start P subdomainHost vhostHttpPort vhostHttpsPort allowPorts client) :=
  ⟨.start P.U subdomainHost vhostHttpPort vhostHttpsPort allowPorts,
    fun _ _ hreg ↦ (by cases hreg), fun _ _ hreg ↦ (by cases hreg), fun _ _ hreg ↦ (by cases hreg)⟩

/-! ## Which requests are answered -/

/-- The client has another TCP object under the name of the relay, with the local
endpoint of the configuration. -/
def HasRelay (client : Client.ProxyManager) (config : ProxyConfig) : Prop :=
  ∃ relay : Client.TcpProxy, client.getProxy (config.name ++ "__relay") = some (.tcp relay) ∧
    relay.localIp = config.localIp ∧ relay.localPort = config.localPort

theorem reaches_relay_iff {client : Client.ProxyManager} {config : ProxyConfig}
    (htype : config.proxyType = .xtcp) :
    client.Reaches (config.name ++ "__relay") (.ofConfig config) ↔ HasRelay client config := by
  have hservice : LocalService.ofConfig config = .tcp config.localIp config.localPort := by
    simp only [LocalService.ofConfig, htype]
  rw [Client.ProxyManager.reaches_iff, hservice]
  constructor
  · rintro ⟨proxy, hget, hserved⟩
    cases proxy with
    | tcp relay =>
        have hsame : relay.service = _ := Option.some.inj hserved
        obtain ⟨hip, hport⟩ := LocalService.tcp.inj hsame
        exact ⟨relay, hget, hip, hport⟩
    | udp proxy => cases hserved
    | xtcp proxy => cases hserved
  · rintro ⟨relay, hget, hip, hport⟩
    exact ⟨.tcp relay, hget, by rw [ClientProxy.served, TcpProxy.service, hip, hport]⟩

/-- An object of another type serves what its configuration names. -/
theorem HasObject.reaches {tcpMux : Bool} {client : Client.ProxyManager} {config : ProxyConfig}
    (h : HasObject tcpMux client config) (htype : config.proxyType ≠ .xtcp) :
    client.Reaches config.name (.ofConfig config) := by
  obtain ⟨now, proxy, hget, hsame⟩ := h
  refine Client.ProxyManager.reaches_iff.mpr ⟨proxy, hget, ?_⟩
  have hservice : LocalService.ofConfig (effectiveConfig tcpMux config) = .ofConfig config := rfl
  rw [hsame.served_eq, ClientProxy.served_ofConfig, hservice]
  exact if_neg htype

/-- In every state of a link, for every configuration registered with both sides:
every work connection the server asks for on its behalf reaches the configured
local service, exactly if the configuration does not ask for an XTCP relay or the
client has another TCP proxy under the relay's name with the same local endpoint. -/
theorem reached_iff {P : Params} {subdomainHost : String} {vhostHttpPort vhostHttpsPort : UInt16}
    {allowPorts : List PortRange} {client : Client.ProxyManager} {events : List Event} {l : Link}
    (hrun : Machine.run (step P)
      (start P subdomainHost vhostHttpPort vhostHttpsPort allowPorts client) events = some l)
    {config : ProxyConfig} (hreg : l.registered.lookup config.name = some config)
    (hkey : proxyKey P.runId.val config.name ∈ l.server.proxies) :
    (∀ name, l.server.Requests (proxyKey P.runId.val config.name) name →
      l.client.Reaches name (.ofConfig config)) ↔
      (config.proxyType = .xtcp → config.fallbackToRelay = true → HasRelay l.client config) := by
  have h : Linked P l := Machine.run_invariant linked_step hrun
    (linked_start P subdomainHost vhostHttpPort vhostHttpsPort allowPorts client)
  obtain ⟨proxy, hproxy⟩ := Table.mem_iff_lookup.mp hkey
  have hmade := h.server _ _ hreg proxy hproxy
  constructor
  · intro hreach htype hrelay
    -- The object is an XTCP proxy with a relay, which asks under its own name.
    cases proxy with
    | xtcp n relayProxy =>
        obtain ⟨relay, rfl⟩ := Option.isSome_iff_exists.mp (hmade.2.trans hrelay)
        have hname : relay.name = config.name ++ "__relay" := by
          obtain ⟨hof, hrelay⟩ := h.labelled.objects _ _ hproxy
          rw [hrelay relay rfl, hof.eq]
        have hreaches := hreach relay.name (.relay n relay hproxy)
        rw [hname] at hreaches
        exact (reaches_relay_iff htype).mp hreaches
    | _ => exact absurd htype hmade
  · intro hrelay name hreq
    rcases h.labelled.eq_of_requests hreq with ⟨rfl, hne⟩ | ⟨rfl, n, relay, hlookup⟩
    · refine (h.client _ _ hreg).reaches ?_
      cases proxy with
      | xtcp n r => exact absurd hproxy (hne n r)
      | _ => exact hmade
    · rw [hproxy] at hlookup
      obtain rfl := Option.some.inj hlookup
      exact (reaches_relay_iff hmade.1).mpr (hrelay hmade.1 hmade.2.symm)

/-- A proxy of the given type for a camera in the local network. -/
def camera (name : String) (proxyType : ProxyType) : ProxyConfig where
  name := name
  proxyType := proxyType
  localIp := "192.168.0.9"
  localPort := 554
  remotePort := 0
  useEncryption := false
  useCompression := false
  customDomains := []
  subdomain := ""
  locations := []
  hostHeaderRewrite := ""
  sk := "secret"
  fallbackToRelay := true
  multiplexer := ""
  loadBalancer := ⟨"", ""⟩

/-- The link of a first run with `tcp_mux` on. -/
def firstRun : Params := ⟨.ascii, ProxyManager.run1, 1, true⟩

/-- With a TCP proxy of the relay's name beside it, an XTCP proxy is served. -/
theorem reached_beside_relay : ∃ l,
    Machine.run (step firstRun) (start firstRun "" 80 443 [] ⟨∅⟩)
      [.register (camera "cam" .xtcp) none 0, .register (camera "cam__relay" .tcp) none 0] =
        some l ∧
    ∀ name, l.server.Requests (proxyKey firstRun.runId.val "cam") name →
      l.client.Reaches name (.tcp "192.168.0.9" 554) := by
  refine Machine.exists_run (fun l ↦
      (l.registered.lookup "cam", l.server.proxies.keys, l.client.getProxy "cam__relay"))
    (some (camera "cam" .xtcp), ["run-1:cam__relay", "run-1:cam"],
      some (.tcp (.new (effectiveConfig true (camera "cam__relay" .tcp)) 0)))
    (by decide) fun l hl hfacts ↦ ?_
  obtain ⟨hreg, hkeys, hrelay⟩ := Prod.mk.inj hfacts |>.imp_right Prod.mk.inj
  have hkey : proxyKey firstRun.runId.val (camera "cam" .xtcp).name ∈ l.server.proxies := by
    rw [AList.mem_keys, hkeys]
    decide
  exact (reached_iff hl hreg hkey).mpr fun _ _ ↦ ⟨_, hrelay, rfl, rfl⟩

/-- The relay of an XTCP proxy asks for work connections under a name the client
does not know. -/
theorem relay_unknown : ∃ l,
    Machine.run (step firstRun) (start firstRun "" 80 443 [] ⟨∅⟩)
      [.register (camera "cam" .xtcp) none 0] = some l ∧
    l.registered.lookup "cam" = some (camera "cam" .xtcp) ∧
    (camera "cam" .xtcp).validate = .ok () ∧
    l.server.Requests (proxyKey firstRun.runId.val "cam") "cam__relay" ∧
    l.client.getProxy "cam__relay" = none ∧
    ¬l.client.Reaches "cam__relay" (.ofConfig (camera "cam" .xtcp)) := by
  refine Machine.exists_run (fun l ↦ (l.registered.lookup "cam",
      l.server.proxies.lookup "run-1:cam", l.client.getProxy "cam__relay"))
    (some (camera "cam" .xtcp), some (.xtcp "cam" (some ⟨"cam__relay", 10000⟩)), none)
    (by decide) fun l hl hfacts ↦ ?_
  obtain ⟨hreg, hproxy, hunknown⟩ := Prod.mk.inj hfacts |>.imp_right Prod.mk.inj
  refine ⟨hreg, by decide, .relay "cam" ⟨"cam__relay", 10000⟩ hproxy, hunknown, ?_⟩
  rintro ⟨proxy, hproxy, -⟩
  rw [hunknown] at hproxy
  cases hproxy

end Link

end Arp.EndToEnd
