import Arp.Server.Lifecycle

/-!
# When a registration succeeds

`register_proxy` can refuse a message for two kinds of reasons.  The message may
not be acceptable to the server at all: an unknown type, no secret, no domain, a
port outside the allowed ranges.  Or what it asks for may not be available at the
moment: the key, the name in a registry, or the port is taken.  A message that is
acceptable and available is registered if the bind succeeds, and a message that
was registered once stays acceptable, as that depends on the configuration only.
-/

namespace Arp.Server.ProxyManager

open Arp.Common Arp.Lib Arp.Lib.Text

/-- The proxy of this message has a listener of its own or of its group. -/
def OpensPort (msg : NewProxyMsg) : Prop :=
  msg.proxyType = "tcp" ∨ msg.proxyType = "udp" ∨ msg.proxyType = "sudp" ∨
    msg.proxyType = "xtcp" ∧ msg.fallbackToRelay = true

instance (msg : NewProxyMsg) : Decidable (OpensPort msg) :=
  inferInstanceAs (Decidable (_ ∨ _))

/-- The server's configuration admits the message. -/
structure Acceptable (U : UnicodeData) (pm : ProxyManager) (msg : NewProxyMsg) : Prop where
  supported : msg.proxyType ∈ supportedTypes
  secret : msg.proxyType = "stcp" ∨ msg.proxyType = "xtcp" → isBlank msg.sk = false
  domains : ∀ scheme : Scheme, msg.proxyType = scheme.text →
    pm.vhostManager.port scheme ≠ 0 ∧ ∃ domains, pm.vhostManager.collectDomains U msg = .ok domains
  port : OpensPort msg → msg.remotePort ≠ 0 →
    pm.resources.isPortAllowed msg.remotePort = true
  group : groupOf msg ≠ none → msg.remotePort ≠ 0

/-- Nothing the message asks for is taken. -/
structure Available (pm : ProxyManager) (runId : RunId) (msg : NewProxyMsg) : Prop where
  key : proxyKey runId.val msg.proxyName ∉ pm.proxies
  stcp : msg.proxyType = "stcp" → msg.proxyName ∉ pm.stcpRegistry
  xtcp : msg.proxyType = "xtcp" → msg.proxyName ∉ pm.xtcpRegistry
  port : OpensPort msg → msg.remotePort ≠ 0 →
    msg.remotePort ∉ pm.resources.tcpPorts ∨ ∃ gid, groupOf msg = some gid ∧ gid ∈ pm.tcpGroups
  dynamic : OpensPort msg → msg.remotePort = 0 →
    ∃ port ∈ ResourceController.cursorPorts 1000 pm.resources.nextDynamicPort,
      pm.resources.isPortAllowed port = true ∧ port ∉ pm.resources.tcpPorts

section Success

variable {U : UnicodeData} {pm : ProxyManager} {runId : RunId} {msg : NewProxyMsg}

/-- The port the message asks for can be opened. -/
theorem openPort_ok (hacc : Acceptable U pm msg) (hav : Available pm runId msg)
    (hopens : OpensPort msg) (hgroup : groupOf msg = none) :
    ∃ port rc, pm.resources.openPort msg.remotePort none = (.ok port, rc) := by
  refine ResourceController.openPort_ok (fun hfixed ↦ ⟨hacc.port hopens hfixed, ?_⟩)
    (hav.dynamic hopens)
  rcases hav.port hopens hfixed with hfree | ⟨gid, hgid, -⟩
  · exact hfree
  · rw [hgroup] at hgid
    cases hgid

theorem groupOf_eq_none (htype : msg.proxyType ≠ "tcp") : groupOf msg = none := by
  rw [groupOf, if_neg fun h ↦ htype h.1]

theorem setupListener_ok (hacc : Acceptable U pm msg) (hav : Available pm runId msg)
    (hopens : OpensPort msg) (hgroup : groupOf msg = none)
    (proxy : UInt16 → ProxyObject × String) :
    ∃ result pm', pm.setupListener msg.remotePort none proxy = (.ok result, pm') := by
  obtain ⟨port, rc, ho⟩ := openPort_ok hacc hav hopens hgroup
  rw [setupListener, ho]
  exact ⟨_, _, rfl⟩

theorem setupGrouped_ok (hacc : Acceptable U pm msg) (hav : Available pm runId msg)
    (htype : msg.proxyType = "tcp") {lbGroup lbGroupKey : String}
    (hgid : groupOf msg = some (groupId msg lbGroup lbGroupKey)) (key : String)
    (tx : ReqSender) :
    ∃ result pm', pm.setupGrouped key msg tx lbGroup lbGroupKey none = (.ok result, pm') := by
  have hport : msg.remotePort ≠ 0 := hacc.group (by simp [hgid])
  rw [setupGrouped, if_neg hport]
  dsimp only
  split
  · exact ⟨_, _, rfl⟩
  · next hnone =>
      have hfree : msg.remotePort ∉ pm.resources.tcpPorts := by
        rcases hav.port (.inl htype) hport with hfree | ⟨gid, hgid', hmem⟩
        · exact hfree
        · rw [hgid] at hgid'
          obtain rfl := Option.some.inj hgid'
          exact absurd hmem (AList.lookup_eq_none.mp hnone)
      rw [ResourceController.allocateTcpPort_ok (hacc.port (.inl htype) hport) hfree]
      exact ⟨_, _, rfl⟩

theorem setupStcp_ok (hacc : Acceptable U pm msg) (hav : Available pm runId msg)
    (htype : msg.proxyType = "stcp") (tx : ReqSender) :
    ∃ result pm', pm.setupStcp runId msg tx = (.ok result, pm') := by
  rw [setupStcp, hacc.secret (.inl htype), if_neg Bool.false_ne_true, if_neg (hav.stcp htype)]
  exact ⟨_, _, rfl⟩

theorem setupVhost_ok (hacc : Acceptable U pm msg) (scheme : Scheme)
    (htype : msg.proxyType = scheme.text) (runId : RunId) (tx : ReqSender) :
    ∃ result pm', pm.setupVhost U scheme runId msg tx = (.ok result, pm') := by
  obtain ⟨hport, domains, hdomains⟩ := hacc.domains scheme htype
  obtain ⟨addr, vm, hvm⟩ := VhostManager.register_ok hport hdomains runId.val tx
  rw [setupVhost, hvm]
  exact ⟨_, _, rfl⟩

theorem setupXtcp_ok (hacc : Acceptable U pm msg) (hav : Available pm runId msg)
    (htype : msg.proxyType = "xtcp") :
    ∃ result pm', pm.setupXtcp runId msg none = (.ok result, pm') := by
  rw [setupXtcp, hacc.secret (.inr htype), if_neg Bool.false_ne_true, if_neg (hav.xtcp htype)]
  split
  · next hrelay =>
      have hopens : OpensPort msg := .inr (.inr (.inr ⟨htype, hrelay⟩))
      obtain ⟨port, rc, ho⟩ :=
        openPort_ok hacc hav hopens (groupOf_eq_none (by simp [htype]))
      rw [ho]
      exact ⟨_, _, rfl⟩
  · exact ⟨_, _, rfl⟩

theorem setup_ok (hacc : Acceptable U pm msg) (hav : Available pm runId msg) (tx : ReqSender) :
    ∃ result pm', pm.setup U runId msg tx none = (.ok result, pm') := by
  have hsupported := hacc.supported
  unfold setup
  split
  · next htype =>
      dsimp only
      split
      · next hempty =>
          exact setupListener_ok hacc hav (.inl htype) (by simp [groupOf, hempty]) _
      · next hne => exact setupGrouped_ok hacc hav htype (by simp [groupOf, htype, hne]) _ tx
  · next htype => exact setupStcp_ok hacc hav htype tx
  · next htype => exact setupVhost_ok hacc .http htype runId tx
  · next htype => exact setupVhost_ok hacc .https htype runId tx
  · next htype =>
      exact setupListener_ok hacc hav (.inr (.inl htype)) (groupOf_eq_none (by simp [htype])) _
  · next htype =>
      exact setupListener_ok hacc hav (.inr (.inr (.inl htype)))
        (groupOf_eq_none (by simp [htype])) _
  · next htype => exact setupXtcp_ok hacc hav htype
  · simp_all [supportedTypes]

/-- A message that is acceptable and available is registered. -/
theorem registerProxy_ok (hacc : Acceptable U pm msg) (hav : Available pm runId msg)
    (tx : ReqSender) : ∃ addr pm', pm.registerProxy U runId msg tx none = (.ok addr, pm') := by
  obtain ⟨⟨proxy, addr⟩, pm', hs⟩ := setup_ok hacc hav tx
  simp only [registerProxy, if_neg hav.key, hs]
  exact ⟨_, _, rfl⟩

end Success

end Arp.Server.ProxyManager
