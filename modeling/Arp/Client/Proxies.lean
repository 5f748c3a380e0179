import Arp.Client.Control
import Arp.Lib.Table

/-!
# The client's proxies

The client keeps one object per registered proxy, under the proxy's name.  A
`ReqWorkConn` is followed if the object is available, and a work connection is
handed to the object of the name that `StartWorkConn` carries.  TCP and UDP
objects forward it to their local service; an XTCP object refuses it.

Instants are in nanoseconds.  Whether a probe of the local endpoint succeeds in
time is decided by the world and passed in.
-/

namespace Arp.Client

open Arp.Common Arp.Lib Arp.Lib.Text

/-! ## Proxy objects -/

/-- A local endpoint work connections are forwarded to. -/
inductive LocalService where
  | tcp (ip : String) (port : UInt16)
  | udp (ip : String) (port : UInt16)
deriving DecidableEq, Repr

/-- The local service a configuration names. -/
def LocalService.ofConfig (config : ProxyConfig) : LocalService :=
  match config.proxyType with
  | .udp | .sudp => udp config.localIp config.localPort
  | _ => tcp config.localIp config.localPort

/-- A second, in nanoseconds. -/
def second : Nat := 1000000000

/-- The mutable part of a `TcpProxy`: what its last health checks found. -/
structure Health where
  lastCheck : Nat
  failed : UInt32
  healthy : Bool
deriving DecidableEq, Repr

/-- `TcpProxy`. -/
structure TcpProxy where
  name : String
  localIp : String
  localPort : UInt16
  tcpMux : Bool
  stcp : Bool
  secret : String
  healthCheckEnable : Bool
  healthCheckTimeout : UInt64
  healthCheckInterval : UInt64
  healthCheckMaxFailed : UInt32
  health : Health
deriving DecidableEq, Repr

/-- `UdpProxy`. -/
structure UdpProxy where
  name : String
  localIp : String
  localPort : UInt16
  useCompression : Bool
  useEncryption : Bool
  secret : String
deriving DecidableEq, Repr

/-- `XtcpProxy`. -/
structure XtcpProxy where
  name : String
  localIp : String
  localPort : UInt16
deriving DecidableEq, Repr

/-- What a handler does with a work connection: which framing it speaks on it and
where it forwards to. -/
inductive Serving where
  | mux (service : LocalService)
  | stcp (service : LocalService) (secret : String)
  | plain (service : LocalService)
  | udp (service : LocalService)
deriving DecidableEq, Repr

/-- Where a work connection ends up. -/
def Serving.service : Serving → LocalService
  | mux service | stcp service _ | plain service | udp service => service

namespace TcpProxy

/-- `TcpProxy::new`. -/
def new (config : ProxyConfig) (now : Nat) : TcpProxy :=
  -- An STCP provider is a plain TCP proxy on the client.
  let stcp := false
  { name := config.name
    localIp := config.localIp
    localPort := config.localPort
    tcpMux := selectsMux config.multiplexer && !stcp
    stcp := stcp
    secret := config.sk
    healthCheckEnable := config.healthCheck.enable
    healthCheckTimeout := max config.healthCheck.timeoutSeconds 2
    healthCheckInterval := max config.healthCheck.intervalSeconds 5
    healthCheckMaxFailed := max config.healthCheck.maxFailed 1
    health := ⟨now - 3600 * second, 0, true⟩ }

/-- `TcpProxy::is_available`. -/
def isAvailable (p : TcpProxy) : Bool := !p.healthCheckEnable || p.health.healthy

/-- The start of every complaint about the local endpoint. -/
def unhealthyText (p : TcpProxy) : String :=
  "proxy " ++ p.name ++ " local endpoint " ++ p.localIp ++ ":" ++ toString p.localPort ++
    " is unhealthy"

/-- `TcpProxy::check_health` at instant `now`; `probe` is the outcome of
connecting to the local endpoint, if it comes to that. -/
def checkHealth (p : TcpProxy) (now : Nat) (probe : Bool) : Result Unit × Health :=
  if !p.healthCheckEnable then (.ok (), p.health)
  else if now - p.health.lastCheck < p.healthCheckInterval.toNat * second then
    (if p.health.healthy then .ok () else .error (.proxy p.unhealthyText), p.health)
  else if probe then (.ok (), ⟨now, 0, true⟩)
  else
    let failed := p.health.failed + 1
    let healthy := if failed ≥ p.healthCheckMaxFailed then false else p.health.healthy
    (if healthy then .ok ()
      else .error (.proxy (p.unhealthyText ++ " (failed=" ++ toString failed ++ ")")),
      ⟨now, failed, healthy⟩)

/-- The local endpoint. -/
def service (p : TcpProxy) : LocalService := .tcp p.localIp p.localPort

/-- `TcpProxy::handle_work_conn`, up to where it starts to forward. -/
def handleWorkConn (p : TcpProxy) (now : Nat) (probe : Bool) : Result Serving × Health :=
  match p.checkHealth now probe with
  | (.error e, health) => (.error e, health)
  | (.ok (), health) =>
    (.ok (if p.tcpMux then .mux p.service
      else if p.stcp then .stcp p.service p.secret
      else .plain p.service), health)

end TcpProxy

/-- `UdpProxy::new`. -/
def UdpProxy.new (config : ProxyConfig) : UdpProxy where
  name := config.name
  localIp := config.localIp
  localPort := config.localPort
  useCompression := config.useCompression
  useEncryption := config.useEncryption || config.proxyType == .sudp
  secret := config.sk

/-- `XtcpProxy::new`. -/
def XtcpProxy.new (config : ProxyConfig) : XtcpProxy where
  name := config.name
  localIp := config.localIp
  localPort := config.localPort

/-- The objects behind `dyn ClientProxy`. -/
inductive ClientProxy where
  | tcp (proxy : TcpProxy)
  | udp (proxy : UdpProxy)
  | xtcp (proxy : XtcpProxy)
deriving DecidableEq, Repr

namespace ClientProxy

/-- `ClientProxy::name`. -/
def name : ClientProxy → String
  | tcp proxy => proxy.name
  | udp proxy => proxy.name
  | xtcp proxy => proxy.name

/-- `ClientProxy::is_available`. -/
def isAvailable : ClientProxy → Bool
  | tcp proxy => proxy.isAvailable
  | udp _ | xtcp _ => true

/-- `ClientProxy::handle_work_conn`, with the object as it is afterwards. -/
def handleWorkConn (now : Nat) (probe : Bool) : ClientProxy → Result Serving × ClientProxy
  | tcp proxy =>
    let (result, health) := proxy.handleWorkConn now probe
    (result, tcp { proxy with health := health })
  | udp proxy => (.ok (.udp (.udp proxy.localIp proxy.localPort)), udp proxy)
  | xtcp proxy =>
    (.error (.proxy "xtcp does not handle server work connection directly"), xtcp proxy)

/-- The object `register_proxy` makes for a configuration. -/
def ofConfig (config : ProxyConfig) (now : Nat) : ClientProxy :=
  match config.proxyType with
  | .tcp | .stcp | .http | .https => tcp (.new config now)
  | .udp | .sudp => udp (.new config)
  | .xtcp => xtcp (.new config)

end ClientProxy

/-! ## The manager -/

/-- `ProxyManager`. -/
structure ProxyManager where
  proxies : Table String ClientProxy

namespace ProxyManager

/-- `ProxyManager::register_proxy`. -/
def registerProxy (pm : ProxyManager) (config : ProxyConfig) (now : Nat) : ProxyManager :=
  let proxy := ClientProxy.ofConfig config now
  ⟨pm.proxies.insert proxy.name proxy⟩

/-- `ProxyManager::get_proxy`. -/
def getProxy (pm : ProxyManager) (name : String) : Option ClientProxy := pm.proxies.lookup name

/-- `ProxyManager::is_proxy_available`. -/
def isProxyAvailable (pm : ProxyManager) (name : String) : Bool :=
  ((pm.proxies.lookup name).map ClientProxy.isAvailable).getD false

/-- `ProxyManager::unregister_proxy`. -/
def unregisterProxy (pm : ProxyManager) (name : String) : ProxyManager :=
  ⟨pm.proxies.erase name⟩

/-- Whether `run_message_loop` opens a work connection on a `ReqWorkConn`. -/
def followsReqWorkConn (pm : ProxyManager) (runId proxyName : String) : Bool :=
  (proxyName.isEmpty || pm.isProxyAvailable proxyName) && !isBlank runId

/-- What `create_work_conn_static` does on the `StartWorkConn` it receives: the
handler's answer, and the manager with the handler's new state. -/
def startWorkConn (pm : ProxyManager) (msg : StartWorkConnMsg) (now : Nat) (probe : Bool) :
    Result Serving × ProxyManager :=
  if msg.error ≠ "" then (.error (.proxy msg.error), pm)
  else
    match pm.getProxy msg.proxyName with
    | none => (.error (.proxy ("Unknown proxy: " ++ msg.proxyName)), pm)
    | some proxy =>
      let (result, proxy) := proxy.handleWorkConn now probe
      (result, ⟨pm.proxies.insert msg.proxyName proxy⟩)

end ProxyManager

/-! ## What the objects serve -/

namespace ClientProxy

/-- The local service an object forwards work connections to; none if it refuses
them. -/
def served : ClientProxy → Option LocalService
  | tcp proxy => some proxy.service
  | udp proxy => some (.udp proxy.localIp proxy.localPort)
  | xtcp _ => none

/-- Nothing the health checks have found, or find at this instant, stands against
a work connection. -/
def HealthPermits (now : Nat) (probe : Bool) : ClientProxy → Prop
  | tcp proxy => proxy.isAvailable = true ∧ (proxy.checkHealth now probe).1 = .ok ()
  | udp _ | xtcp _ => True

/-- Two objects that differ at most in what their health checks have found. -/
def SameButHealth : ClientProxy → ClientProxy → Prop
  | tcp p, tcp q => ∃ health, q = { p with health := health }
  | p, q => p = q

theorem name_ofConfig (config : ProxyConfig) (now : Nat) :
    (ofConfig config now).name = config.name := by
  unfold ofConfig
  split <;> rfl

/-- The handler of an object that serves, health permitting, forwards to its
service. -/
theorem handleWorkConn_of_served {proxy : ClientProxy} {service : LocalService} {now : Nat}
    {probe : Bool} (hserved : proxy.served = some service)
    (hhealth : proxy.HealthPermits now probe) :
    ∃ serving, (proxy.handleWorkConn now probe).1 = .ok serving ∧ serving.service = service := by
  cases proxy with
  | tcp p =>
      obtain ⟨-, hcheck⟩ := hhealth
      obtain rfl := Option.some.inj hserved
      rcases hc : p.checkHealth now probe with ⟨result, health⟩
      rw [hc] at hcheck
      obtain rfl : result = .ok () := hcheck
      simp only [handleWorkConn, TcpProxy.handleWorkConn, hc]
      refine ⟨_, rfl, ?_⟩
      split
      · rfl
      · split <;> rfl
  | udp p =>
      obtain rfl := Option.some.inj hserved
      exact ⟨_, rfl, rfl⟩
  | xtcp p => cases hserved

theorem isAvailable_of_healthPermits {proxy : ClientProxy} {now : Nat} {probe : Bool}
    (h : proxy.HealthPermits now probe) : proxy.isAvailable = true := by
  cases proxy with
  | tcp p => exact h.1
  | udp p => rfl
  | xtcp p => rfl

namespace SameButHealth

theorem refl (proxy : ClientProxy) : SameButHealth proxy proxy := by
  cases proxy with
  | tcp p => exact ⟨p.health, rfl⟩
  | udp p => rfl
  | xtcp p => rfl

/-- Handling a work connection changes the health at most. -/
theorem handleWorkConn {proxy proxy' : ClientProxy} (h : SameButHealth proxy proxy') (now : Nat)
    (probe : Bool) : SameButHealth proxy (proxy'.handleWorkConn now probe).2 := by
  cases proxy with
  | tcp p =>
      cases proxy' with
      | tcp q =>
          obtain ⟨health, rfl⟩ := h
          exact ⟨_, rfl⟩
      | udp q => cases h
      | xtcp q => cases h
  | udp p => obtain rfl : ClientProxy.udp p = proxy' := h; rfl
  | xtcp p => obtain rfl : ClientProxy.xtcp p = proxy' := h; rfl

theorem served_eq {proxy proxy' : ClientProxy} (h : SameButHealth proxy proxy') :
    proxy'.served = proxy.served := by
  cases proxy with
  | tcp p =>
      cases proxy' with
      | tcp q => obtain ⟨health, rfl⟩ := h; rfl
      | udp q => cases h
      | xtcp q => cases h
  | udp p => obtain rfl : ClientProxy.udp p = proxy' := h; rfl
  | xtcp p => obtain rfl : ClientProxy.xtcp p = proxy' := h; rfl

end SameButHealth

/-- The object of a configuration serves the service the configuration names,
unless it is an XTCP object. -/
theorem served_ofConfig {config : ProxyConfig} {now : Nat} :
    (ofConfig config now).served =
      if config.proxyType = .xtcp then none else some (.ofConfig config) := by
  cases htype : config.proxyType <;> simp only [ofConfig, htype] <;>
    simp [served, LocalService.ofConfig, htype, TcpProxy.service, TcpProxy.new, UdpProxy.new]

end ClientProxy

/-- The names after a registration. -/
theorem ProxyManager.mem_registerProxy {pm : ProxyManager} {config : ProxyConfig} {now : Nat}
    {name : String} : name ∈ (pm.registerProxy config now).proxies ↔
      name = config.name ∨ name ∈ pm.proxies := by
  rw [registerProxy, AList.mem_insert, ClientProxy.name_ofConfig]

/-- The names after a proxy was closed. -/
theorem ProxyManager.mem_unregisterProxy {pm : ProxyManager} {proxyName name : String} :
    name ∈ (pm.unregisterProxy proxyName).proxies ↔ name ≠ proxyName ∧ name ∈ pm.proxies := by
  rw [unregisterProxy, AList.mem_erase]

/-- Work connections for a name reach a local service: the name is that of an
object that serves it, so that, health permitting, requests for them are followed
and the handler they are given to forwards to the service. -/
def ProxyManager.Reaches (pm : ProxyManager) (name : String) (service : LocalService) : Prop :=
  ∃ proxy, pm.getProxy name = some proxy ∧ proxy.served = some service ∧
    ∀ now probe, proxy.HealthPermits now probe →
      (∀ runId, isBlank runId = false → pm.followsReqWorkConn runId name = true) ∧
      ∀ msg, msg.proxyName = name → msg.error = "" →
        ∃ serving, (pm.startWorkConn msg now probe).1 = .ok serving ∧ serving.service = service

/-- Work connections reach what the object of their name serves. -/
theorem ProxyManager.reaches_iff {pm : ProxyManager} {name : String} {service : LocalService} :
    pm.Reaches name service ↔
      ∃ proxy, pm.getProxy name = some proxy ∧ proxy.served = some service := by
  constructor
  · rintro ⟨proxy, hget, hserved, -⟩
    exact ⟨proxy, hget, hserved⟩
  · rintro ⟨proxy, hget, hserved⟩
    refine ⟨proxy, hget, hserved, fun now probe hhealth ↦ ⟨fun runId hrun ↦ ?_, ?_⟩⟩
    · have havailable : pm.isProxyAvailable name = true := by
        rw [isProxyAvailable, show pm.proxies.lookup name = some proxy from hget]
        exact ClientProxy.isAvailable_of_healthPermits hhealth
      rw [followsReqWorkConn, havailable, hrun]
      simp
    · rintro msg rfl herror
      obtain ⟨serving, hserving, hservice⟩ := ClientProxy.handleWorkConn_of_served hserved hhealth
      refine ⟨serving, ?_, hservice⟩
      rw [startWorkConn, if_neg (not_not.mpr herror), hget]
      exact hserving

end Arp.Client
