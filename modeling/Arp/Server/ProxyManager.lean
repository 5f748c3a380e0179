import Arp.Server.Resource
import Arp.Server.Stcp

/-!
# The proxy manager

Registered proxies are kept under composite keys, with a record beside each.
Depending on its type a proxy also has a port, an entry in the STCP or XTCP
registry under its bare name, routes at the virtual hosts, or a place among the
backends of a TCP group.  `register_proxy` sets all of this up; `close` of the
proxy's object takes its share down again.

Groups are shared objects: their members and the group table refer to them, so
they live in a list of their own and references are positions in it.

Registration is defined in the source's order.  What a successful registration
does is said once, by `Built`; every invariant is derived from it.
-/

namespace Arp.Server

open Arp.Common Arp.Lib Arp.Lib.Text

/-! ## Proxy objects -/

/-- `TcpProxy`. -/
structure TcpProxy where
  name : String
  remotePort : UInt16
deriving DecidableEq, Repr

/-- `UdpProxy`. -/
structure UdpProxy where
  name : String
  remotePort : UInt16
deriving DecidableEq, Repr

/-- `GroupedMemberProxy`; `grouped` refers to its group. -/
structure GroupedMemberProxy where
  name : String
  grouped : Nat
  backendId : String
deriving DecidableEq, Repr

/-- The objects behind `dyn Proxy`. -/
inductive ProxyObject where
  | tcp (proxy : TcpProxy)
  | udp (proxy : UdpProxy)
  | grouped (proxy : GroupedMemberProxy)
  /-- `StcpServerProxy`. -/
  | stcp (name : String)
  /-- `HttpProxy` and `HttpsProxy`. -/
  | vhost (scheme : Scheme) (routeKey : String)
  /-- `XtcpProxy`, with the relay proxy if it has one. -/
  | xtcp (name : String) (relayProxy : Option TcpProxy)
deriving DecidableEq, Repr

/-- The port an object holds by itself. -/
def ProxyObject.port : ProxyObject → Option UInt16
  | tcp proxy => some proxy.remotePort
  | udp proxy => some proxy.remotePort
  | xtcp _ relayProxy => relayProxy.map TcpProxy.remotePort
  | grouped _ | stcp _ | vhost _ _ => none

/-- The group an object is a member of. -/
def ProxyObject.group : ProxyObject → Option Nat
  | grouped proxy => some proxy.grouped
  | _ => none

/-- `GroupedBackend`. -/
structure GroupedBackend where
  backendId : String
  proxyName : String
  workConnReqTx : ReqSender
  stcp : Bool
  secret : String
deriving DecidableEq, Repr

/-- `GroupedTcpProxy`. -/
structure GroupedTcpProxy where
  groupId : String
  remotePort : UInt16
  started : Bool
  backends : List GroupedBackend
deriving DecidableEq, Repr

namespace GroupedTcpProxy

/-- The ids of the backends. -/
def backendIds (g : GroupedTcpProxy) : List String := g.backends.map GroupedBackend.backendId

/-- `GroupedTcpProxy::add_backend`. -/
def addBackend (g : GroupedTcpProxy) (backend : GroupedBackend) : GroupedTcpProxy :=
  if g.backends.any (·.backendId == backend.backendId) then g
  else { g with backends := g.backends ++ [backend] }

/-- `GroupedTcpProxy::ensure_started`. -/
def ensureStarted (g : GroupedTcpProxy) : GroupedTcpProxy := { g with started := true }

/-- The `retain` of `GroupedTcpProxy::remove_backend`. -/
def dropBackend (g : GroupedTcpProxy) (backendId : String) : GroupedTcpProxy :=
  { g with backends := g.backends.filter (·.backendId != backendId) }

end GroupedTcpProxy

/-! ## The manager -/

/-- `ProxyRecord`. -/
structure ProxyRecord where
  runId : RunId
  proxyName : String
  proxyType : String
  remoteAddr : String
deriving DecidableEq, Repr

/-- `XtcpProxyInfo`. -/
structure XtcpProxyInfo where
  runId : RunId
  sk : String
  relayAddr : String
deriving DecidableEq, Repr

/-- `ProxyManager`, together with the resource controller its proxies hold. -/
structure ProxyManager where
  proxies : Table String ProxyObject
  records : Table String ProxyRecord
  vhostManager : VhostManager
  tcpGroups : Table String Nat
  groups : List GroupedTcpProxy
  xtcpRegistry : Table String XtcpProxyInfo
  stcpRegistry : Table String StcpProxyInfo
  resources : ResourceController

namespace ProxyManager

/-- `ProxyManager::new`, with a new resource controller. -/
def new (vhostManager : VhostManager) (allowPorts : List PortRange) : ProxyManager where
  proxies := ∅
  records := ∅
  vhostManager := vhostManager
  tcpGroups := ∅
  groups := []
  xtcpRegistry := ∅
  stcpRegistry := ∅
  resources := .new allowPorts

/-- The text field `field` of a JSON object, trimmed; empty if there is none. -/
def textField (fields : List (String × Json)) (field : String) : String :=
  match (fields.lookup field).bind Json.asStr with
  | some text => trim text
  | none => ""

/-- `parse_lb_group`. -/
def parseLbGroup (msg : NewProxyMsg) : String × String :=
  match msg.extra.asObject with
  | none => ("", "")
  | some obj =>
    let group := textField obj "group"
    let groupKey := textField obj "group_key"
    match (obj.lookup "load_balancer").bind Json.asObject with
    | none => (group, groupKey)
    | some lb =>
      (if group.isEmpty then textField lb "group" else group,
        if groupKey.isEmpty then textField lb "group_key" else groupKey)

/-- The address a listener is reported under. -/
def portAddr (port : UInt16) : String := "0.0.0.0:" ++ toString port

/-- The id of a group. -/
def groupId (msg : NewProxyMsg) (lbGroup lbGroupKey : String) : String :=
  msg.proxyType ++ ":" ++ toString msg.remotePort ++ ":" ++ lbGroup ++ ":" ++ lbGroupKey

/-- The id of the group a message asks for, if it asks for one. -/
def groupOf (msg : NewProxyMsg) : Option String :=
  if msg.proxyType = "tcp" ∧ (parseLbGroup msg).1.isEmpty = false then
    some (groupId msg (parseLbGroup msg).1 (parseLbGroup msg).2)
  else none

/-- What setting up a proxy gives: its object and address, or an error. -/
abbrev Setup := Result (ProxyObject × String) × ProxyManager

/-- Open a listener and make the proxy that has it. -/
def setupListener (pm : ProxyManager) (remotePort : UInt16) (bind : Option String)
    (proxy : UInt16 → ProxyObject × String) : Setup :=
  match pm.resources.openPort remotePort bind with
  | (.ok port, rc) => (.ok (proxy port), { pm with resources := rc })
  | (.error e, rc) => (.error e, { pm with resources := rc })

/-- The backend a message describes. -/
def backendOf (key : String) (msg : NewProxyMsg) (tx : ReqSender) : GroupedBackend where
  backendId := key
  proxyName := msg.proxyName
  workConnReqTx := tx
  stcp := msg.proxyType == "stcp"
  secret := msg.sk

/-- Join a group: add the backend, start the group's loop, and make the member. -/
def joinGroup (pm : ProxyManager) (ref : Nat) (backend : GroupedBackend) : Setup :=
  (.ok (.grouped ⟨backend.proxyName, ref, backend.backendId⟩,
      portAddr ((pm.groups[ref]?.map GroupedTcpProxy.remotePort).getD 0)),
    { pm with groups := pm.groups.modify ref fun g ↦ (g.addBackend backend).ensureStarted })

/-- A TCP proxy with a load-balancer group joins the group of its id, which it
founds if there is none. -/
def setupGrouped (pm : ProxyManager) (key : String) (msg : NewProxyMsg) (tx : ReqSender)
    (lbGroup lbGroupKey : String) (bind : Option String) : Setup :=
  if msg.remotePort = 0 then
    (.error (.proxy "tcp/stcp load_balancer.group requires fixed remote_port"), pm)
  else
    let gid := groupId msg lbGroup lbGroupKey
    match pm.tcpGroups.lookup gid with
    | some ref => pm.joinGroup ref (backendOf key msg tx)
    | none =>
      match ResourceController.bindPort bind (pm.resources.allocateTcpPort msg.remotePort) with
      | (.error e, rc) => (.error e, { pm with resources := rc })
      | (.ok port, rc) =>
        let founded : ProxyManager := { pm with
          resources := rc
          groups := pm.groups ++ [⟨gid, port, false, []⟩]
          tcpGroups := pm.tcpGroups.insert gid pm.groups.length }
        founded.joinGroup pm.groups.length (backendOf key msg tx)

/-- An STCP proxy has an entry in the registry and no listener. -/
def setupStcp (pm : ProxyManager) (runId : RunId) (msg : NewProxyMsg) (tx : ReqSender) : Setup :=
  if isBlank msg.sk then (.error (.proxy "stcp proxy requires sk"), pm)
  else if msg.proxyName ∈ pm.stcpRegistry then
    (.error (.proxy ("stcp proxy " ++ msg.proxyName ++ " already exists")), pm)
  else
    (.ok (.stcp msg.proxyName, "stcp"),
      { pm with stcpRegistry := pm.stcpRegistry.insert msg.proxyName ⟨runId, msg.sk, tx⟩ })

/-- An HTTP or HTTPS proxy has routes at the virtual hosts. -/
def setupVhost (U : UnicodeData) (pm : ProxyManager) (scheme : Scheme) (runId : RunId)
    (msg : NewProxyMsg) (tx : ReqSender) : Setup :=
  match pm.vhostManager.register U scheme runId.val msg tx with
  | .ok (remoteAddr, vm) =>
    (.ok (.vhost scheme (proxyKey runId.val msg.proxyName), remoteAddr),
      { pm with vhostManager := vm })
  | .error e => (.error e, pm)

/-- The entry of an XTCP proxy in the registry. -/
def registerXtcp (pm : ProxyManager) (runId : RunId) (msg : NewProxyMsg) (relayAddr : String) :
    ProxyManager :=
  { pm with xtcpRegistry := pm.xtcpRegistry.insert msg.proxyName ⟨runId, msg.sk, relayAddr⟩ }

/-- An XTCP proxy has an entry in the registry and, on request, a relay: a TCP
proxy on the side, named after it. -/
def setupXtcp (pm : ProxyManager) (runId : RunId) (msg : NewProxyMsg) (bind : Option String) :
    Setup :=
  if isBlank msg.sk then (.error (.proxy "xtcp proxy requires sk"), pm)
  else if msg.proxyName ∈ pm.xtcpRegistry then
    (.error (.proxy ("xtcp proxy " ++ msg.proxyName ++ " already exists")), pm)
  else if msg.fallbackToRelay then
    match pm.resources.openPort msg.remotePort bind with
    | (.error e, rc) => (.error e, { pm with resources := rc })
    | (.ok port, rc) =>
      (.ok (.xtcp msg.proxyName (some ⟨msg.proxyName ++ "__relay", port⟩),
          "xtcp(relay=" ++ portAddr port ++ ")"),
        { pm with resources := rc }.registerXtcp runId msg (portAddr port))
  else (.ok (.xtcp msg.proxyName none, "xtcp"), pm.registerXtcp runId msg "")

/-- The proxy a message asks for: the `match` of `register_proxy` on the type. -/
def setup (U : UnicodeData) (pm : ProxyManager) (runId : RunId) (msg : NewProxyMsg)
    (tx : ReqSender) (bind : Option String) : Setup :=
  match msg.proxyType with
  | "tcp" =>
    let (lbGroup, lbGroupKey) := parseLbGroup msg
    if lbGroup.isEmpty then
      pm.setupListener msg.remotePort bind fun port ↦
        (.tcp ⟨msg.proxyName, port⟩, portAddr port)
    else pm.setupGrouped (proxyKey runId.val msg.proxyName) msg tx lbGroup lbGroupKey bind
  | "stcp" => pm.setupStcp runId msg tx
  | "http" => pm.setupVhost U .http runId msg tx
  | "https" => pm.setupVhost U .https runId msg tx
  | "udp" | "sudp" =>
    pm.setupListener msg.remotePort bind fun port ↦ (.udp ⟨msg.proxyName, port⟩, portAddr port)
  | "xtcp" => pm.setupXtcp runId msg bind
  | other => (.error (.proxy ("Unsupported proxy type: " ++ other)), pm)

/-- Enter a proxy and its record under their key. -/
def enter (pm : ProxyManager) (key : String) (proxy : ProxyObject) (record : ProxyRecord) :
    ProxyManager :=
  { pm with proxies := pm.proxies.insert key proxy, records := pm.records.insert key record }

/-- `ProxyManager::register_proxy`, with the outcome `bind` of binding a socket if
it comes to that. -/
def registerProxy (U : UnicodeData) (pm : ProxyManager) (runId : RunId) (msg : NewProxyMsg)
    (tx : ReqSender) (bind : Option String) : Result String × ProxyManager :=
  let key := proxyKey runId.val msg.proxyName
  if key ∈ pm.proxies then
    (.error (.proxy ("Proxy " ++ msg.proxyName ++ " already exists")), pm)
  else
    match pm.setup U runId msg tx bind with
    | (.error e, pm) => (.error e, pm)
    | (.ok (proxy, remoteAddr), pm) =>
      (.ok remoteAddr, pm.enter key proxy ⟨runId, msg.proxyName, msg.proxyType, remoteAddr⟩)

/-! ## What registration does -/

/-- The managers agree on everything but the port cursor. -/
def OnlyCursor (pm pm' : ProxyManager) : Prop :=
  ∃ cursor, pm' = { pm with resources := { pm.resources with nextDynamicPort := cursor } }

theorem OnlyCursor.refl (pm : ProxyManager) : OnlyCursor pm pm :=
  ⟨pm.resources.nextDynamicPort, rfl⟩

/-- Everything a successful `setup` can do: the object it makes and the manager
it leaves.  `key` is the key the proxy will be entered under. -/
inductive Built (U : UnicodeData) (pm : ProxyManager) (runId : RunId) (msg : NewProxyMsg)
    (tx : ReqSender) (key : String) : ProxyObject → ProxyManager → Prop
  | tcp (port : UInt16) (rc : ResourceController) (htype : msg.proxyType = "tcp")
      (hgroup : groupOf msg = none) (hopen : pm.resources.Opened (.ok port) rc)
      (hgrants : pm.resources.Grants msg.remotePort port) :
      Built U pm runId msg tx key (.tcp ⟨msg.proxyName, port⟩) { pm with resources := rc }
  | udp (port : UInt16) (rc : ResourceController)
      (htype : msg.proxyType = "udp" ∨ msg.proxyType = "sudp")
      (hopen : pm.resources.Opened (.ok port) rc)
      (hgrants : pm.resources.Grants msg.remotePort port) :
      Built U pm runId msg tx key (.udp ⟨msg.proxyName, port⟩) { pm with resources := rc }
  | joined (gid : String) (ref : Nat) (htype : msg.proxyType = "tcp")
      (hgid : groupOf msg = some gid) (hport : msg.remotePort ≠ 0)
      (hgroup : pm.tcpGroups.lookup gid = some ref) :
      Built U pm runId msg tx key (.grouped ⟨msg.proxyName, ref, key⟩) { pm with
        groups := pm.groups.modify ref fun g ↦
          (g.addBackend (backendOf key msg tx)).ensureStarted }
  | founded (gid : String) (port : UInt16) (rc : ResourceController)
      (htype : msg.proxyType = "tcp") (hgid : groupOf msg = some gid)
      (hport : msg.remotePort ≠ 0) (hgroup : pm.tcpGroups.lookup gid = none)
      (hopen : pm.resources.Opened (.ok port) rc) (hfixed : port = msg.remotePort) :
      Built U pm runId msg tx key (.grouped ⟨msg.proxyName, pm.groups.length, key⟩) { pm with
        resources := rc
        groups := pm.groups ++ [⟨gid, port, true, [backendOf key msg tx]⟩]
        tcpGroups := pm.tcpGroups.insert gid pm.groups.length }
  | stcp (htype : msg.proxyType = "stcp") (hsk : isBlank msg.sk = false)
      (hfresh : msg.proxyName ∉ pm.stcpRegistry) :
      Built U pm runId msg tx key (.stcp msg.proxyName)
        { pm with stcpRegistry := pm.stcpRegistry.insert msg.proxyName ⟨runId, msg.sk, tx⟩ }
  | vhost (scheme : Scheme) (domains : List String) (htype : msg.proxyType = scheme.text)
      (hport : pm.vhostManager.port scheme ≠ 0)
      (hdomains : pm.vhostManager.collectDomains U msg = .ok domains) :
      Built U pm runId msg tx key (.vhost scheme key) { pm with
        vhostManager := (pm.vhostManager.setTable scheme
          ((pm.vhostManager.table scheme).addRoutes domains
            ⟨key, msg.proxyName, tx⟩)).ensureListenerStarted scheme }
  | xtcp (htype : msg.proxyType = "xtcp") (hsk : isBlank msg.sk = false)
      (hfresh : msg.proxyName ∉ pm.xtcpRegistry) (hrelay : msg.fallbackToRelay = false) :
      Built U pm runId msg tx key (.xtcp msg.proxyName none) (pm.registerXtcp runId msg "")
  | xtcpRelay (port : UInt16) (rc : ResourceController) (htype : msg.proxyType = "xtcp")
      (hsk : isBlank msg.sk = false) (hfresh : msg.proxyName ∉ pm.xtcpRegistry)
      (hrelay : msg.fallbackToRelay = true) (hopen : pm.resources.Opened (.ok port) rc)
      (hgrants : pm.resources.Grants msg.remotePort port) :
      Built U pm runId msg tx key
        (.xtcp msg.proxyName (some ⟨msg.proxyName ++ "__relay", port⟩))
        ({ pm with resources := rc }.registerXtcp runId msg (portAddr port))

/-- The types `register_proxy` knows. -/
def supportedTypes : List String := ["tcp", "stcp", "http", "https", "udp", "sudp", "xtcp"]

section Built

variable {U : UnicodeData} {pm pm' : ProxyManager} {runId : RunId} {msg : NewProxyMsg}
  {tx : ReqSender} {key : String} {proxy : ProxyObject}
  (h : Built U pm runId msg tx key proxy pm')

include h

/-- A proxy is built only for a type that is known. -/
theorem Built.supported : msg.proxyType ∈ supportedTypes := by
  cases h with
  | udp port rc htype => rcases htype with htype | htype <;> simp [supportedTypes, htype]
  | vhost scheme domains htype => cases scheme <;> simp [supportedTypes, htype, Scheme.text]
  | _ => simp_all [supportedTypes]

/-- Building a proxy enters nothing yet. -/
theorem Built.proxies_eq : pm'.proxies = pm.proxies := by
  cases h <;> rfl

/-- A port that a registration has added is allowed by the server, and the one that
was asked for. -/
theorem Built.newPort {port : UInt16} (hport : port ∈ pm'.resources.tcpPorts)
    (hnew : port ∉ pm.resources.tcpPorts) :
    pm.resources.isPortAllowed port = true ∧ pm.resources.Grants msg.remotePort port := by
  have hopened : ∀ {p rc}, pm.resources.Opened (.ok p) rc → port ∈ rc.tcpPorts →
      port = p ∧ pm.resources.isPortAllowed p = true := by
    intro p rc hopen hmem
    obtain ⟨-, hallowed, hports⟩ := hopen.of_ok p rfl
    rw [hports] at hmem
    exact ⟨(Finset.mem_insert.mp hmem).resolve_right hnew, hallowed⟩
  cases h with
  | tcp p rc htype hgroup hopen hgrants =>
      obtain ⟨rfl, hallowed⟩ := hopened hopen hport
      exact ⟨hallowed, hgrants⟩
  | udp p rc htype hopen hgrants =>
      obtain ⟨rfl, hallowed⟩ := hopened hopen hport
      exact ⟨hallowed, hgrants⟩
  | founded gid p rc htype hgid hfixed hgroup hopen heq =>
      obtain ⟨rfl, hallowed⟩ := hopened hopen hport
      refine ⟨hallowed, ?_⟩
      rw [ResourceController.Grants, if_neg hfixed]
      exact heq
  | xtcpRelay p rc htype hsk hfresh hrelay hopen hgrants =>
      obtain ⟨rfl, hallowed⟩ := hopened hopen hport
      exact ⟨hallowed, hgrants⟩
  | joined | stcp | vhost | xtcp => exact absurd hport hnew

end Built

/-- The outcome of a setup: it moved the cursor at most, or it built a proxy. -/
inductive BuildsOrFails (U : UnicodeData) (pm : ProxyManager) (runId : RunId)
    (msg : NewProxyMsg) (tx : ReqSender) (key : String) : Setup → Prop
  | fails {e : Error} {pm' : ProxyManager} (h : OnlyCursor pm pm') :
      BuildsOrFails U pm runId msg tx key (.error e, pm')
  | builds {proxy : ProxyObject} {addr : String} {pm' : ProxyManager}
      (h : Built U pm runId msg tx key proxy pm') :
      BuildsOrFails U pm runId msg tx key (.ok (proxy, addr), pm')

section Setup

variable {U : UnicodeData} {pm : ProxyManager} {runId : RunId} {msg : NewProxyMsg}
  {tx : ReqSender} {bind : Option String} {key : String}

/-- A failed attempt to open a port moves the cursor at most. -/
theorem onlyCursor_of_opened {rc : ResourceController} {e : Error}
    (h : pm.resources.Opened (.error e) rc) : OnlyCursor pm { pm with resources := rc } :=
  ⟨rc.nextDynamicPort, by rw [← h.eq_of_error]⟩

/-- Opening a listener builds, if a proxy with a fresh port does. -/
theorem setupListener_spec (proxy : UInt16 → ProxyObject × String)
    (hbuilt : ∀ port rc, pm.resources.Opened (.ok port) rc →
      pm.resources.Grants msg.remotePort port →
      Built U pm runId msg tx key (proxy port).1 { pm with resources := rc }) :
    BuildsOrFails U pm runId msg tx key (pm.setupListener msg.remotePort bind proxy) := by
  have hopen := ResourceController.opened_openPort pm.resources msg.remotePort bind
  unfold setupListener
  rcases ho : pm.resources.openPort msg.remotePort bind with ⟨e | port, rc⟩
  · rw [ho] at hopen
    exact .fails (onlyCursor_of_opened hopen)
  · rw [ho] at hopen
    exact .builds (hbuilt port rc hopen (ResourceController.openPort_grants (by rw [ho])))

theorem setupGrouped_spec {lbGroup lbGroupKey : String} (htype : msg.proxyType = "tcp")
    (hgid : groupOf msg = some (groupId msg lbGroup lbGroupKey)) :
    BuildsOrFails U pm runId msg tx key
      (pm.setupGrouped key msg tx lbGroup lbGroupKey bind) := by
  unfold setupGrouped
  split
  · exact .fails (.refl pm)
  · next hport =>
    dsimp only
    split
    · next ref hgroup => exact .builds (.joined _ ref htype hgid hport hgroup)
    · next hgroup =>
        have hopen := ResourceController.opened_bindPort bind
          (ResourceController.opened_allocateTcpPort pm.resources msg.remotePort)
        rcases ho : ResourceController.bindPort bind (pm.resources.allocateTcpPort msg.remotePort)
          with ⟨e | port, rc⟩
        · rw [ho] at hopen
          exact .fails (onlyCursor_of_opened hopen)
        · rw [ho] at hopen
          have hfixed : port = msg.remotePort :=
            ResourceController.bindPort_allocateTcpPort (by rw [ho])
          have hbuilt : Built U pm runId msg tx key _ _ :=
            .founded (groupId msg lbGroup lbGroupKey) port rc htype hgid hport hgroup hopen hfixed
          refine .builds ?_
          rw [modify_length_append]
          exact hbuilt

theorem setupStcp_spec (htype : msg.proxyType = "stcp") :
    BuildsOrFails U pm runId msg tx key (pm.setupStcp runId msg tx) := by
  unfold setupStcp
  split
  · exact .fails (.refl pm)
  · next hsk =>
      split
      · exact .fails (.refl pm)
      · next hfresh => exact .builds (.stcp htype (Bool.eq_false_iff.mpr hsk) hfresh)

theorem setupVhost_spec (scheme : Scheme) (htype : msg.proxyType = scheme.text) :
    BuildsOrFails U pm runId msg tx (proxyKey runId.val msg.proxyName)
      (pm.setupVhost U scheme runId msg tx) := by
  unfold setupVhost
  split
  · next remoteAddr vm hvm =>
      obtain ⟨domains, hport, hdomains, -, rfl⟩ := VhostManager.register_eq_ok hvm
      exact .builds (.vhost scheme domains htype hport hdomains)
  · exact .fails (.refl pm)

theorem setupXtcp_spec (htype : msg.proxyType = "xtcp") :
    BuildsOrFails U pm runId msg tx key (pm.setupXtcp runId msg bind) := by
  have hopen := ResourceController.opened_openPort pm.resources msg.remotePort bind
  unfold setupXtcp
  split
  · exact .fails (.refl pm)
  · next hsk =>
      rw [Bool.not_eq_true] at hsk
      split
      · exact .fails (.refl pm)
      · next hfresh =>
          split
          · next hrelay =>
              rcases ho : pm.resources.openPort msg.remotePort bind with ⟨e | port, rc⟩
              · rw [ho] at hopen
                exact .fails (onlyCursor_of_opened hopen)
              · rw [ho] at hopen
                exact .builds (.xtcpRelay port rc htype hsk hfresh hrelay hopen
                  (ResourceController.openPort_grants (by rw [ho])))
          · next hrelay => exact .builds (.xtcp htype hsk hfresh (Bool.eq_false_iff.mpr hrelay))

/-- What `setup` can do. -/
theorem setup_spec : BuildsOrFails U pm runId msg tx (proxyKey runId.val msg.proxyName)
    (pm.setup U runId msg tx bind) := by
  unfold setup
  split
  · next htype =>
      dsimp only
      split
      · next hempty =>
          exact setupListener_spec _ fun port rc ↦ .tcp port rc htype (by simp [groupOf, hempty])
      · next hne => exact setupGrouped_spec htype (by simp [groupOf, htype, hne])
  · next htype => exact setupStcp_spec htype
  · next htype => exact setupVhost_spec .http htype
  · next htype => exact setupVhost_spec .https htype
  · next htype => exact setupListener_spec _ fun port rc ↦ .udp port rc (.inl htype)
  · next htype => exact setupListener_spec _ fun port rc ↦ .udp port rc (.inr htype)
  · next htype => exact setupXtcp_spec htype
  · exact .fails (.refl pm)

/-- `register_proxy` moves the cursor at most, or enters a proxy it has built
under a fresh key. -/
theorem registerProxy_cases (U : UnicodeData) (pm : ProxyManager) (runId : RunId)
    (msg : NewProxyMsg) (tx : ReqSender) (bind : Option String) :
    (∃ e pm', pm.registerProxy U runId msg tx bind = (.error e, pm') ∧ OnlyCursor pm pm') ∨
      ∃ addr proxy pm', pm.registerProxy U runId msg tx bind =
          (.ok addr, pm'.enter (proxyKey runId.val msg.proxyName) proxy
            ⟨runId, msg.proxyName, msg.proxyType, addr⟩) ∧
        proxyKey runId.val msg.proxyName ∉ pm.proxies ∧
        Built U pm runId msg tx (proxyKey runId.val msg.proxyName) proxy pm' := by
  unfold registerProxy
  dsimp only
  split
  · exact .inl ⟨_, _, rfl, .refl pm⟩
  · next hkey =>
      have hspec : BuildsOrFails U pm runId msg tx _ (pm.setup U runId msg tx bind) := setup_spec
      generalize pm.setup U runId msg tx bind = result at hspec
      cases hspec with
      | fails hcursor => exact .inl ⟨_, _, rfl, hcursor⟩
      | builds hbuilt => exact .inr ⟨_, _, _, rfl, hkey, hbuilt⟩

/-- A registration that fails leaves everything as it was but for the port cursor,
whatever it had reserved before. -/
theorem registerProxy_error_keeps {pm' : ProxyManager} {e : Error}
    (h : pm.registerProxy U runId msg tx bind = (.error e, pm')) :
    pm'.proxies = pm.proxies ∧ pm'.records = pm.records ∧
      pm'.stcpRegistry = pm.stcpRegistry ∧ pm'.xtcpRegistry = pm.xtcpRegistry ∧
      pm'.tcpGroups = pm.tcpGroups ∧ pm'.groups = pm.groups ∧
      (∀ scheme, pm'.vhostManager.table scheme = pm.vhostManager.table scheme) ∧
      pm'.resources.tcpPorts = pm.resources.tcpPorts := by
  rcases registerProxy_cases U pm runId msg tx bind with
    ⟨e', pm₁, hfails, cursor, hsame⟩ | ⟨addr, proxy, pm₁, hok, -, -⟩
  · obtain rfl : pm₁ = pm' := (Prod.mk.inj (hfails.symm.trans h)).2
    subst hsame
    exact ⟨rfl, rfl, rfl, rfl, rfl, rfl, fun _ ↦ rfl, rfl⟩
  · cases (Prod.mk.inj (hok.symm.trans h)).1

end Setup

/-- A server that has just been started, for examples. -/
def idle : ProxyManager := .new (.new .ascii "" 80 443) []

theorem colon_notMem_run1 : ':' ∉ "run-1".toList := by decide

theorem colon_notMem_run2 : ':' ∉ "run-2".toList := by decide

theorem colon_notMem_run3 : ':' ∉ "run-3".toList := by decide

/-- Three runs, for examples. -/
def run1 : RunId := ⟨"run-1", colon_notMem_run1⟩

@[inherit_doc run1]
def run2 : RunId := ⟨"run-2", colon_notMem_run2⟩

@[inherit_doc run1]
def run3 : RunId := ⟨"run-3", colon_notMem_run3⟩

/-- A message that asks for a proxy of the given type. -/
def message (proxyName proxyType : String) (remotePort : UInt16) (sk : String) (extra : Json) :
    NewProxyMsg where
  proxyName := proxyName
  proxyType := proxyType
  useEncryption := false
  useCompression := false
  localIp := "127.0.0.1"
  localPort := 22
  remotePort := remotePort
  customDomains := ["www.example.com"]
  subdomain := ""
  locations := []
  hostHeaderRewrite := ""
  sk := sk
  multiplexer := ""
  fallbackToRelay := true
  extra := extra

/-- The bind is refused after the port was reserved: the port is free again, and only the
cursor has moved. -/
theorem registerProxy_error_keeps_refused :
    ∃ pm', idle.registerProxy .ascii run1 (message "web" "tcp" 0 "" .null) 1
        (some "Address already in use") = (.error (.io "Address already in use"), pm') ∧
      pm'.resources.nextDynamicPort = 10001 ∧ pm'.proxies = idle.proxies ∧
      pm'.resources.tcpPorts = idle.resources.tcpPorts := by
  refine ⟨_, rfl, rfl, ?_⟩
  have hkept := registerProxy_error_keeps (rfl : idle.registerProxy .ascii run1
    (message "web" "tcp" 0 "" .null) 1 (some "Address already in use") = _)
  exact ⟨hkept.1, hkept.2.2.2.2.2.2.2⟩

/-! ## Closing -/

/-- Give a port back. -/
def releasePort (pm : ProxyManager) (port : UInt16) : ProxyManager :=
  { pm with resources := pm.resources.releaseTcpPort port }

/-- `GroupedMemberProxy::close`: the backend leaves its group; the last one gives
the port back and takes the group out of the table. -/
def leaveGroup (pm : ProxyManager) (ref : Nat) (backendId : String) : ProxyManager :=
  match pm.groups[ref]? with
  | none => pm
  | some g =>
    let left : ProxyManager := { pm with groups := pm.groups.set ref (g.dropBackend backendId) }
    if (g.dropBackend backendId).backends.isEmpty then
      { left.releasePort g.remotePort with tcpGroups := left.tcpGroups.erase g.groupId }
    else left

/-- `Proxy::close`. -/
def close (pm : ProxyManager) : ProxyObject → ProxyManager
  | .tcp proxy => pm.releasePort proxy.remotePort
  | .udp proxy => pm.releasePort proxy.remotePort
  | .grouped proxy => pm.leaveGroup proxy.grouped proxy.backendId
  | .stcp name => { pm with stcpRegistry := pm.stcpRegistry.erase name }
  | .vhost scheme routeKey =>
    { pm with vhostManager := pm.vhostManager.unregisterRoute routeKey scheme }
  | .xtcp name relayProxy =>
    let closed := match relayProxy with
      | some relay => pm.releasePort relay.remotePort
      | none => pm
    { closed with xtcpRegistry := closed.xtcpRegistry.erase name }

/-- Closing an object leaves the tables of proxies and records alone. -/
theorem proxies_close (pm : ProxyManager) (proxy : ProxyObject) :
    (pm.close proxy).proxies = pm.proxies ∧ (pm.close proxy).records = pm.records := by
  cases proxy with
  | grouped member =>
      simp only [close, leaveGroup]
      split
      · exact ⟨rfl, rfl⟩
      · split <;> exact ⟨rfl, rfl⟩
  | xtcp name relayProxy => cases relayProxy <;> exact ⟨rfl, rfl⟩
  | _ => exact ⟨rfl, rfl⟩

/-- Take a proxy and its record out of their tables. -/
def remove (pm : ProxyManager) (key : String) : ProxyManager :=
  { pm with proxies := pm.proxies.erase key, records := pm.records.erase key }

/-- Remove the proxy of a key, if there is one, and close it. -/
def unregisterKey (pm : ProxyManager) (key : String) : ProxyManager :=
  match pm.proxies.lookup key with
  | some proxy => (pm.remove key).close proxy
  | none => pm

/-- After a removal exactly the removed key is missing. -/
theorem lookup_proxies_unregisterKey (pm : ProxyManager) (key k : String) :
    (pm.unregisterKey key).proxies.lookup k =
      if k = key then none else pm.proxies.lookup k := by
  unfold unregisterKey
  split
  · rw [(proxies_close _ _).1]
    exact Table.lookup_erase_ite pm.proxies key k
  · next hp =>
      split
      · next hk => subst hk; exact hp
      · rfl

/-- `ProxyManager::unregister_proxy`. -/
def unregisterProxy (pm : ProxyManager) (runId : RunId) (proxyName : String) : ProxyManager :=
  pm.unregisterKey (proxyKey runId.val proxyName)

/-- The keys of a run among the keys of a walk over the proxies. -/
def runKeys (runId : RunId) (order : List String) : List String :=
  order.filter fun key ↦ startsWith key (runId.val ++ ":")

/-- `ProxyManager::unregister_run_proxies`, for a walk over the proxies in the
given order. -/
def unregisterRunProxies (pm : ProxyManager) (runId : RunId) (order : List String) :
    ProxyManager :=
  (runKeys runId order).foldl unregisterKey pm

/-- The part of a key before its first colon. -/
def ownerOf (key : String) : String := .ofList (key.toList.takeWhile (· ≠ ':'))

/-- Take a name out of the XTCP registry. -/
def forgetXtcp (pm : ProxyManager) (name : String) : ProxyManager :=
  { pm with xtcpRegistry := pm.xtcpRegistry.erase name }

/-- `ProxyManager::evict_proxy_by_name`, for a walk over the proxies in the given
order: the owner of the evicted proxy, if one was found. -/
def evictProxyByName (pm : ProxyManager) (order : List String) (proxyName : String) :
    Option String × ProxyManager :=
  match order.find? fun key ↦ endsWith key (":" ++ proxyName) with
  | none => (none, pm)
  | some key => (some (ownerOf key), (pm.unregisterKey key).forgetXtcp proxyName)

end ProxyManager

end Arp.Server
