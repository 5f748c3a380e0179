import Arp.Common.Error
import Arp.Lib.Text

/-!
# Configuration

The parts of the configuration that the modelled code reads, with the checks
`validate` makes on them before either side starts.
-/

namespace Arp.Common

open Arp.Lib.Text

/-- `ProxyType`. -/
inductive ProxyType where
  | tcp
  | http
  | https
  | udp
  | stcp
  | sudp
  | xtcp
deriving DecidableEq, Repr

/-- `Display for ProxyType`: the spelling used on the wire. -/
def ProxyType.display : ProxyType → String
  | tcp => "tcp"
  | http => "http"
  | https => "https"
  | udp => "udp"
  | stcp => "stcp"
  | sudp => "sudp"
  | xtcp => "xtcp"

theorem ProxyType.display_injective : Function.Injective ProxyType.display := by
  intro a b h
  cases a <;> cases b <;> simp_all [display]

/-- `PortRange`. -/
structure PortRange where
  start : UInt16
  stop : UInt16
  single : UInt16
deriving DecidableEq, Repr

/-- `AuthRule`. -/
structure AuthRule where
  token : String
  allowProxyTypes : List String
  allowPorts : List PortRange
  allowDomainSuffixes : List String
  allowSubdomainPrefixes : List String
  maxPoolCount : UInt32
deriving DecidableEq, Repr

/-- `AuthConfig`. -/
structure AuthConfig where
  method : String
  token : String
  additionalTokens : List String
  rules : List AuthRule
deriving DecidableEq, Repr

namespace AuthConfig

/-- The loop of `AuthConfig::validate` over the rules, from index `idx` on. -/
def validateRules (idx : Nat) : List AuthRule → Result Unit
  | [] => .ok ()
  | rule :: rest =>
    if isBlank rule.token then
      .error (.config ("auth.rules[" ++ toString idx ++ "].token cannot be empty"))
    else validateRules (idx + 1) rest

/-- `AuthConfig::validate`. -/
def validate (config : AuthConfig) : Result Unit :=
  match config.method with
  | "token" =>
    if isBlank config.token && config.additionalTokens.isEmpty && config.rules.isEmpty then
      .error (.config "token auth requires token, additional_tokens, or rules")
    else validateRules 0 config.rules
  | other => .error (.config ("unsupported auth.method: " ++ other))

/-- The loop accepts exactly the lists in which every rule has a token. -/
theorem validateRules_eq_ok {idx : Nat} {rules : List AuthRule} :
    validateRules idx rules = .ok () ↔ ∀ rule ∈ rules, isBlank rule.token = false := by
  induction rules generalizing idx with
  | nil => simp [validateRules]
  | cons rule rest ih =>
      cases h : isBlank rule.token <;> simp [validateRules, h, ih]

/-- An accepted configuration has a token in every rule. -/
theorem isBlank_of_validate {config : AuthConfig} (h : config.validate = .ok ())
    {rule : AuthRule} (hr : rule ∈ config.rules) : isBlank rule.token = false := by
  unfold validate at h
  split at h
  · split at h
    · cases h
    · exact validateRules_eq_ok.mp h rule hr
  · cases h

end AuthConfig

/-- `LoadBalancerConfig`. -/
structure LoadBalancerConfig where
  group : String
  groupKey : String
deriving DecidableEq, Repr

/-- `HealthCheckConfig`. -/
structure HealthCheckConfig where
  enable : Bool := false
  timeoutSeconds : UInt64 := 0
  maxFailed : UInt32 := 0
  intervalSeconds : UInt64 := 0
deriving DecidableEq, Repr

/-- `ProxyConfig`. -/
structure ProxyConfig where
  name : String
  proxyType : ProxyType
  localIp : String
  localPort : UInt16
  remotePort : UInt16
  useEncryption : Bool
  useCompression : Bool
  customDomains : List String
  subdomain : String
  locations : List String
  hostHeaderRewrite : String
  sk : String
  fallbackToRelay : Bool
  multiplexer : String
  loadBalancer : LoadBalancerConfig
  healthCheck : HealthCheckConfig := {}
deriving DecidableEq, Repr

/-- The names of the mux tunnel; any other multiplexer means none. -/
def selectsMux (multiplexer : String) : Bool :=
  multiplexer == "tcp_mux" || multiplexer == "mux" || multiplexer == "smux" ||
    multiplexer == "yamux"

/-- `ProxyConfig::validate`. -/
def ProxyConfig.validate (config : ProxyConfig) : Result Unit :=
  if config.name.isEmpty then
    .error (.config "proxy name cannot be empty")
  else if config.localPort = 0 then
    .error (.config ("proxy " ++ config.name ++ " local_port cannot be 0"))
  else if (config.proxyType = .http ∨ config.proxyType = .https) ∧
      config.customDomains.isEmpty ∧ isBlank config.subdomain then
    .error (.config ("proxy " ++ config.name ++ " of type " ++ config.proxyType.display ++
      " requires custom_domains or subdomain"))
  else if config.useEncryption ∧ isBlank config.sk then
    .error (.config ("proxy " ++ config.name ++ " enables encryption but sk is empty"))
  else if (config.proxyType = .stcp ∨ config.proxyType = .sudp ∨ config.proxyType = .xtcp) ∧
      isBlank config.sk then
    .error (.config ("proxy " ++ config.name ++ " of type " ++ config.proxyType.display ++
      " requires sk"))
  else .ok ()

/-- What `validate` asks of a configuration. -/
structure ProxyConfig.Accepted (config : ProxyConfig) : Prop where
  name : config.name ≠ ""
  localPort : config.localPort ≠ 0
  domains : config.proxyType = .http ∨ config.proxyType = .https →
    config.customDomains ≠ [] ∨ isBlank config.subdomain = false
  encryption : config.useEncryption = true → isBlank config.sk = false
  secret : config.proxyType = .stcp ∨ config.proxyType = .sudp ∨ config.proxyType = .xtcp →
    isBlank config.sk = false

theorem ProxyConfig.validate_eq_ok {config : ProxyConfig} :
    config.validate = .ok () ↔ config.Accepted := by
  rw [validate, ite_error_eq_ok, ite_error_eq_ok, ite_error_eq_ok, ite_error_eq_ok,
    ite_error_eq_ok]
  constructor
  · rintro ⟨hname, hport, hdomains, hencryption, hsecret, -⟩
    refine ⟨by simpa using hname, hport, fun htype ↦ ?_, fun henc ↦ ?_, fun htype ↦ ?_⟩
    · by_contra hnone
      simp only [not_or, not_not, Bool.not_eq_false] at hnone
      exact hdomains ⟨htype, by simpa using hnone.1, hnone.2⟩
    · exact Bool.eq_false_iff.mpr fun hblank ↦ hencryption ⟨henc, hblank⟩
    · exact Bool.eq_false_iff.mpr fun hblank ↦ hsecret ⟨htype, hblank⟩
  · intro h
    refine ⟨by simpa using h.name, h.localPort, ?_, ?_, ?_, rfl⟩
    · rintro ⟨htype, hempty, hblank⟩
      rcases h.domains htype with hsome | hsub
      · exact hsome (by simpa using hempty)
      · rw [hblank] at hsub
        cases hsub
    · rintro ⟨henc, hblank⟩
      rw [h.encryption henc] at hblank
      cases hblank
    · rintro ⟨htype, hblank⟩
      rw [h.secret htype] at hblank
      cases hblank

/-! ## The client's configuration -/

/-- `TransportProtocol`. -/
inductive TransportProtocol where
  | tcp
  | kcp
  | quic
  | websocket
deriving DecidableEq, Repr

/-- `Display for TransportProtocol`. -/
def TransportProtocol.display : TransportProtocol → String
  | tcp => "tcp"
  | kcp => "kcp"
  | quic => "quic"
  | websocket => "websocket"

/-- The part of `TlsConfig` a client reads. -/
structure TlsConfig where
  enable : Bool
  trustedCaFile : String
  serverName : String
deriving DecidableEq, Repr

/-- `TransportConfig`. -/
structure TransportConfig where
  protocol : TransportProtocol
  tcpMux : Bool
  tls : TlsConfig
deriving DecidableEq, Repr

/-- `ClientConfig`. -/
structure ClientConfig where
  serverAddr : String
  serverPort : UInt16
  auth : AuthConfig
  transport : TransportConfig
  adminPort : UInt16
  proxies : List ProxyConfig
deriving DecidableEq, Repr

/-- `ClientConfig::validate`.  Which texts parse as an IP address is up to the standard
library. -/
def ClientConfig.validate (isIpAddr : String → Bool) (config : ClientConfig) : Result Unit :=
  let proto := config.transport.protocol
  let tls := config.transport.tls
  let protoLabel := if proto = .websocket then "websocket + tls" else proto.display
  if config.serverAddr.isEmpty then .error (.config "server_addr cannot be empty")
  else match config.auth.validate with
  | .error e => .error e
  | .ok () =>
    if config.serverPort = 0 then .error (.config "server_port cannot be 0")
    else if (proto = .quic ∨ (proto = .websocket ∧ tls.enable) ∨ (proto = .tcp ∧ tls.enable)) ∧
        isBlank tls.trustedCaFile then
      .error (.config (protoLabel ++ " transport requires transport.tls.trusted_ca_file"))
    else if (proto = .quic ∨ (proto = .websocket ∧ tls.enable)) ∧ isIpAddr config.serverAddr ∧
        isBlank tls.serverName then
      .error (.config (protoLabel ++
        " transport with IP server_addr requires transport.tls.server_name"))
    else config.proxies.forM ProxyConfig.validate

/-- The multiplexer is not looked at. -/
theorem ProxyConfig.validate_multiplexer (config : ProxyConfig) (multiplexer : String) :
    { config with multiplexer := multiplexer }.validate = config.validate := rfl

/-- The loop over the proxies accepts exactly the lists of accepted proxies. -/
theorem ProxyConfig.forM_validate_eq_ok {proxies : List ProxyConfig} :
    proxies.forM validate = .ok () ↔ ∀ proxy ∈ proxies, proxy.validate = .ok () := by
  induction proxies with
  | nil => simp [pure, Except.pure]
  | cons proxy rest ih =>
      rw [List.forall_mem_cons, ← ih, List.forM]
      cases h : proxy.validate <;> simp [bind, Except.bind]

/-- The proxies of an accepted configuration are accepted. -/
theorem ClientConfig.validate_proxies {isIpAddr : String → Bool} {config : ClientConfig}
    (h : config.validate isIpAddr = .ok ()) :
    ∀ proxy ∈ config.proxies, proxy.validate = .ok () := by
  obtain ⟨-, h⟩ := ite_error_eq_ok.mp h
  split at h
  · cases h
  · rw [ite_error_eq_ok, ite_error_eq_ok, ite_error_eq_ok] at h
    exact ProxyConfig.forM_validate_eq_ok.mp h.2.2.2

end Arp.Common
