import Arp.Common.Config
import Arp.Common.Message

/-!
# The client's side of proxy registration

`register_proxies` walks the configured proxies: it sends a `NewProxy` message
for each and waits for one message on the control connection, which has to be
the answer.  The walk is modelled by its position, with one function for what
the client does on what it receives.
-/

namespace Arp.Client

open Arp.Common Arp.Lib.Text

/-- The multiplexer a proxy is registered with: ungrouped TCP proxies use the
mux tunnel by default. -/
def effectiveMultiplexer (tcpMux : Bool) (config : ProxyConfig) : String :=
  let hasLbGroup := !isBlank config.loadBalancer.group
  if config.multiplexer.isEmpty && tcpMux && config.proxyType == .tcp && !hasLbGroup then
    "tcp_mux"
  else config.multiplexer

/-- The message `register_proxies` builds for a proxy. -/
def newProxyMsg (tcpMux : Bool) (config : ProxyConfig) : NewProxyMsg where
  proxyName := config.name
  proxyType := config.proxyType.display
  useEncryption := config.useEncryption
  useCompression := config.useCompression
  localIp := config.localIp
  localPort := config.localPort
  remotePort := config.remotePort
  customDomains := config.customDomains
  subdomain := config.subdomain
  locations := config.locations
  hostHeaderRewrite := config.hostHeaderRewrite
  sk := config.sk
  multiplexer := effectiveMultiplexer tcpMux config
  fallbackToRelay := config.fallbackToRelay
  extra := .object [("load_balancer", .object
    [("group", .string config.loadBalancer.group),
      ("group_key", .string config.loadBalancer.groupKey)])]

/-- The configuration the client's proxy manager is given on success. -/
def effectiveConfig (tcpMux : Bool) (config : ProxyConfig) : ProxyConfig :=
  { config with multiplexer := effectiveMultiplexer tcpMux config }

/-- Where `register_proxies` is: about to send for the first of the remaining
proxies, waiting for the answer to one, or returned. -/
inductive RegisterPc where
  | sending (rest : List ProxyConfig)
  | waiting (config : ProxyConfig) (rest : List ProxyConfig)
  | returned (result : Result Unit)

/-- What `register_proxies` does with the message it receives while it waits:
the position it continues at, and the configuration it hands to the proxy
manager, if any. -/
def onReply (tcpMux : Bool) (config : ProxyConfig) (rest : List ProxyConfig) :
    Message → RegisterPc × Option ProxyConfig
  | .newProxyResp resp =>
    if resp.error = "" then (.sending rest, some (effectiveConfig tcpMux config))
    else (.returned (.error (.proxy resp.error)), none)
  | other =>
    (.returned (.error (.protocol ("Expected NewProxyResp, got '" ++
      other.typeByte.toString ++ "'"))), none)

end Arp.Client
