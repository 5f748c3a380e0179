import Arp.Client.Proxies
import Arp.Server.ProxyManager

/-!
# What is spoken on a work connection

Client and server decide independently how bytes are framed on the work
connections of a proxy: the client by the multiplexer its object was configured
with, the server by the kind of object it made, and by the multiplexer only if
that is a TCP proxy of its own.  A default is chosen so that both agree; an
explicit multiplexer is handed to both whatever the type is.
-/

namespace Arp

open Common Lib.Text

/-- How bytes are framed on a work connection. -/
inductive Framing where
  /-- `tcp_mux` frames. -/
  | mux
  /-- Request and response frames of UDP packets. -/
  | udpMux
  /-- Encrypted, length-prefixed frames. -/
  | stcp
  /-- The bytes themselves. -/
  | raw
deriving DecidableEq, Repr

namespace Client

/-- The framing `handle_work_conn` of an object speaks; none if it refuses work
connections. -/
def ClientProxy.framing : ClientProxy → Option Framing
  | tcp proxy => some (if proxy.tcpMux then .mux else if proxy.stcp then .stcp else .raw)
  | udp _ => some .udpMux
  | xtcp _ => none

end Client

namespace Server

/-- The framing of a `TcpProxy` made from a message: the flags of `TcpProxy::new`
and the choice its accept loop makes by them. -/
def TcpProxy.framing (msg : NewProxyMsg) : Framing :=
  let stcp := msg.proxyType == "stcp"
  let tcpMux := selectsMux msg.multiplexer && !stcp
  if tcpMux then .mux else if stcp then .stcp else .raw

/-- The framing `GroupedTcpProxy::handle_client` speaks with a backend. -/
def GroupedBackend.framing (backend : GroupedBackend) : Framing :=
  if backend.stcp then .stcp else .raw

/-- The message the relay of an XTCP proxy is made from. -/
def relayMsg (msg : NewProxyMsg) : NewProxyMsg :=
  { msg with
    proxyName := msg.proxyName ++ "__relay", proxyType := "tcp", sk := "", multiplexer := "" }

/-- The framing the server speaks on the work connections of an object that was
made from a message under a key. -/
def ProxyObject.framing (msg : NewProxyMsg) (key : String) (tx : ReqSender) :
    ProxyObject → Framing
  | tcp _ => TcpProxy.framing msg
  | udp _ => .udpMux
  | grouped _ => (ProxyManager.backendOf key msg tx).framing
  | stcp _ | vhost _ _ => .raw
  | xtcp _ _ => TcpProxy.framing (relayMsg msg)

/-- The group the server reads from the message of a configuration. -/
theorem parseLbGroup_newProxyMsg (tcpMux : Bool) (config : ProxyConfig) :
    ProxyManager.parseLbGroup (Client.newProxyMsg tcpMux config) =
      (trim config.loadBalancer.group, trim config.loadBalancer.groupKey) := by
  rfl

/-- A configuration of type TCP asks the server for a group exactly if its group
is not blank. -/
theorem groupOf_newProxyMsg {tcpMux : Bool} {config : ProxyConfig}
    (htype : config.proxyType.display = "tcp") :
    (ProxyManager.groupOf (Client.newProxyMsg tcpMux config)).isSome =
      !isBlank config.loadBalancer.group := by
  rw [ProxyManager.groupOf, parseLbGroup_newProxyMsg, isBlank]
  cases (trim config.loadBalancer.group).isEmpty <;> simp [Client.newProxyMsg, htype]

end Server

namespace EndToEnd

open Client Server
open Server.ProxyManager (idle run1)

/-- A multiplexer is asked for on a proxy whose work connections the server does
not multiplex: an STCP, HTTP or HTTPS proxy, or a TCP proxy in a group. -/
def MuxUnserved (config : ProxyConfig) : Prop :=
  selectsMux config.multiplexer = true ∧
    (config.proxyType = .stcp ∨ config.proxyType = .http ∨ config.proxyType = .https ∨
      config.proxyType = .tcp ∧ isBlank config.loadBalancer.group = false)

/-- Where the default does not apply, the multiplexer is the configured one. -/
theorem effectiveMultiplexer_eq {tcpMux : Bool} {config : ProxyConfig}
    (h : config.proxyType ≠ .tcp ∨ isBlank config.loadBalancer.group = false) :
    effectiveMultiplexer tcpMux config = config.multiplexer := by
  unfold effectiveMultiplexer
  rcases h with h | h <;> simp [h]

/-- The client's framing of everything that is neither UDP nor XTCP. -/
theorem framing_ofConfig_tcp {tcpMux : Bool} {config : ProxyConfig} (now : Nat)
    (htype : config.proxyType = .tcp ∨ config.proxyType = .stcp ∨ config.proxyType = .http ∨
      config.proxyType = .https) :
    (ClientProxy.ofConfig (effectiveConfig tcpMux config) now).framing =
      some (if selectsMux (effectiveMultiplexer tcpMux config) then .mux else .raw) := by
  rcases htype with h | h | h | h <;>
    simp [ClientProxy.ofConfig, h, ClientProxy.framing, TcpProxy.new, effectiveConfig]

/-- The server speaks raw bytes to a client that multiplexes exactly if the
configuration says so. -/
theorem raw_agrees_iff {tcpMux : Bool} {config : ProxyConfig} (now : Nat)
    (htype : config.proxyType = .stcp ∨ config.proxyType = .http ∨ config.proxyType = .https ∨
      config.proxyType = .tcp ∧ isBlank config.loadBalancer.group = false) :
    (ClientProxy.ofConfig (effectiveConfig tcpMux config) now).framing = some .raw ↔
      ¬MuxUnserved config := by
  have htcp : config.proxyType = .tcp ∨ config.proxyType = .stcp ∨ config.proxyType = .http ∨
      config.proxyType = .https := by
    rcases htype with h | h | h | ⟨h, -⟩ <;> simp [h]
  have heff : effectiveMultiplexer tcpMux config = config.multiplexer := by
    refine effectiveMultiplexer_eq ?_
    rcases htype with h | h | h | ⟨-, h⟩ <;> simp [h]
  rw [framing_ofConfig_tcp now htcp, heff, MuxUnserved]
  cases selectsMux config.multiplexer <;> simp [htype]

/-- A member of a group is served raw. -/
theorem grouped_agrees_iff {tcpMux : Bool} {config : ProxyConfig} {key gid : String}
    {tx : ReqSender} {member : GroupedMemberProxy} (now : Nat)
    (htype : config.proxyType.display = "tcp")
    (hgid : ProxyManager.groupOf (newProxyMsg tcpMux config) = some gid) :
    (ClientProxy.ofConfig (effectiveConfig tcpMux config) now).framing =
        some ((ProxyObject.grouped member).framing (newProxyMsg tcpMux config) key tx) ↔
      ¬MuxUnserved config := by
  have hgroup : (ProxyManager.groupOf (newProxyMsg tcpMux config)).isSome = _ :=
    groupOf_newProxyMsg htype
  have hraw : (ProxyObject.grouped member).framing (newProxyMsg tcpMux config) key tx = .raw := by
    simp [ProxyObject.framing, ProxyManager.backendOf, GroupedBackend.framing, newProxyMsg, htype]
  rw [hraw]
  refine raw_agrees_iff now (.inr (.inr (.inr ⟨ProxyType.display_injective htype, ?_⟩)))
  rw [hgid] at hgroup
  simpa using hgroup

/-- For every configuration that is not XTCP and that the server accepts, with
`tcp_mux` on or off: both sides speak the same framing on its work connections,
exactly if it does not ask for a multiplexer where the server has none. -/
theorem framing_agrees_iff {U : UnicodeData} {pm pm' : Server.ProxyManager} {runId : RunId}
    {tx : ReqSender} {bind : Option String} {tcpMux : Bool} {config : ProxyConfig} {addr : String}
    (hxtcp : config.proxyType ≠ .xtcp)
    (haccepted : pm.registerProxy U runId (newProxyMsg tcpMux config) tx bind = (.ok addr, pm'))
    (now : Nat) :
    ∃ proxy, pm'.proxies.lookup (proxyKey runId.val config.name) = some proxy ∧
      ((ClientProxy.ofConfig (effectiveConfig tcpMux config) now).framing =
          some (proxy.framing (newProxyMsg tcpMux config) (proxyKey runId.val config.name) tx) ↔
        ¬MuxUnserved config) := by
  rcases ProxyManager.registerProxy_cases U pm runId (newProxyMsg tcpMux config) tx bind with
    ⟨e, _, hr, -⟩ | ⟨addr', proxy, built, hr, -, hbuilt⟩
  · rw [haccepted] at hr
    cases hr
  · rw [haccepted] at hr
    obtain ⟨-, rfl⟩ := Prod.mk.inj hr
    refine ⟨proxy, AList.lookup_insert _, ?_⟩
    cases hbuilt with
    | tcp port rc htype hgroup =>
        -- The flag is computed from the same multiplexer on both sides.
        have htcp : config.proxyType = .tcp := ProxyType.display_injective htype
        have hblank : (ProxyManager.groupOf (newProxyMsg tcpMux config)).isSome = _ :=
          groupOf_newProxyMsg htype
        rw [hgroup] at hblank
        rw [framing_ofConfig_tcp now (.inl htcp)]
        refine iff_of_true ?_ ?_
        · simp [ProxyObject.framing, Server.TcpProxy.framing, newProxyMsg, htcp, ProxyType.display]
        · simp_all [MuxUnserved]
    | udp port rc htype =>
        have hudp : config.proxyType = .udp ∨ config.proxyType = .sudp :=
          htype.imp (@ProxyType.display_injective _ .udp) (@ProxyType.display_injective _ .sudp)
        refine iff_of_true ?_ ?_
        · have heff : (effectiveConfig tcpMux config).proxyType = config.proxyType := rfl
          rcases hudp with h | h <;> simp [ClientProxy.ofConfig, heff, h, ClientProxy.framing,
            ProxyObject.framing]
        · rcases hudp with h | h <;> simp [MuxUnserved, h]
    | joined gid ref htype hgid => exact grouped_agrees_iff now htype hgid
    | founded gid port rc htype hgid => exact grouped_agrees_iff now htype hgid
    | stcp htype => exact raw_agrees_iff now (.inl (ProxyType.display_injective htype))
    | vhost scheme domains htype =>
        refine raw_agrees_iff now ?_
        cases scheme with
        | http => exact .inr (.inl (ProxyType.display_injective htype))
        | https => exact .inr (.inr (.inl (ProxyType.display_injective htype)))
    | xtcp htype => exact (hxtcp (ProxyType.display_injective htype)).elim
    | xtcpRelay port rc htype => exact (hxtcp (ProxyType.display_injective htype)).elim

/-- A web site behind the virtual host, with a multiplexer. -/
def site (multiplexer : String) : ProxyConfig where
  name := "site"
  proxyType := .http
  localIp := "127.0.0.1"
  localPort := 8080
  remotePort := 0
  useEncryption := false
  useCompression := false
  customDomains := ["www.example.com"]
  subdomain := ""
  locations := []
  hostHeaderRewrite := ""
  sk := ""
  fallbackToRelay := true
  multiplexer := multiplexer
  loadBalancer := ⟨"", ""⟩

/-- Without a multiplexer of its own the site is spoken to in the same way on both
sides, although `tcp_mux` is on. -/
theorem framing_agrees_site : ∃ addr pm' proxy,
    idle.registerProxy .ascii run1 (newProxyMsg true (site "")) 1 none =
      (.ok addr, pm') ∧
    pm'.proxies.lookup (proxyKey run1.val "site") = some proxy ∧
    (ClientProxy.ofConfig (effectiveConfig true (site "")) 0).framing =
      some (proxy.framing (newProxyMsg true (site "")) (proxyKey run1.val "site") 1) := by
  have haccepted : (idle.registerProxy .ascii run1 (newProxyMsg true (site "")) 1
      none).1 = .ok "http://www.example.com:80" := by decide
  obtain ⟨proxy, hproxy, hiff⟩ := framing_agrees_iff
    (show (site "").proxyType ≠ .xtcp by decide) (Prod.ext haccepted rfl) 0
  exact ⟨_, _, proxy, Prod.ext haccepted rfl, hproxy,
    hiff.mpr fun h ↦ absurd h.1 (by decide)⟩

/-- With a multiplexer the client reads the server's raw bytes as mux frames. -/
theorem site_misframed : (site "mux").validate = .ok () ∧ ∃ addr pm' proxy,
    idle.registerProxy .ascii run1 (newProxyMsg true (site "mux")) 1 none =
      (.ok addr, pm') ∧
    pm'.proxies.lookup (proxyKey run1.val "site") = some proxy ∧
    (ClientProxy.ofConfig (effectiveConfig true (site "mux")) 0).framing = some .mux ∧
    proxy.framing (newProxyMsg true (site "mux")) (proxyKey run1.val "site") 1 = .raw := by
  have haccepted : (idle.registerProxy .ascii run1 (newProxyMsg true (site "mux")) 1
      none).1 = .ok "http://www.example.com:80" := by decide
  refine ⟨by decide, _, _, .vhost .http (proxyKey run1.val "site"),
    Prod.ext haccepted rfl, ?_, by decide, rfl⟩
  decide

end EndToEnd

end Arp
