import Arp.Server.Hosts
import Arp.Server.ProxyManager

/-!
# Which hosts and ports a confined token can capture

A rule may confine its token to some domain suffixes.  The check compares the
custom domains with the suffixes as plain text, after trimming, dropping
trailing dots and lower-casing; the routes are installed under the host part of
the same text, without brackets and without a port.  Neither the difference
between the two nor the boundary between labels is checked.

The main result on hosts: every installed domain lies under an allowed suffix if the custom
domains name hosts without port and brackets, and the suffixes start at a label (`Straight`).

A rule may also confine its token to some ports.  Here nothing comes between the check
and the allocation: a confined message names its port, and that port is the only one a
registration can add.
-/

namespace Arp.Server

open Arp.Common Arp.Lib Arp.Lib.Text
open ProxyManager (run1)

/-! ## Confinement -/

/-- A host lies under a suffix: it is the suffix, or ends in a dot and the
suffix, so that the suffix starts at a label. -/
def Under (suffix host : List Char) : Prop := host = suffix ∨ '.' :: suffix <:+ host

instance (suffix host : List Char) : Decidable (Under suffix host) :=
  inferInstanceAs (Decidable (_ ∨ _))

/-- Some allowed suffix of the rule covers the host. -/
def Covered (U : UnicodeData) (rule : AuthRule) (host : List Char) : Prop :=
  ∃ suffix ∈ rule.allowDomainSuffixes, Under (TokenAuth.normalizeHost U suffix).toList host

instance (U : UnicodeData) (rule : AuthRule) (host : List Char) :
    Decidable (Covered U rule host) :=
  inferInstanceAs (Decidable (∃ suffix ∈ _, _))

/-- The manager has a route of the proxy for this domain. -/
def Installed (vm : VhostManager) (scheme : Scheme) (key domain : String) : Prop :=
  ∃ r ∈ (vm.table scheme).routesOf domain, r.routeKey = key

/-- Every domain that a message with custom domains installs is covered by the
rule its token is under. -/
def Confined (U : UnicodeData) (rule : AuthRule) (msg : NewProxyMsg) (vm : VhostManager)
    (scheme : Scheme) (key : String) : Prop :=
  ∀ domain ∈ VhostManager.customDomains U msg, Installed vm scheme key domain →
    Covered U rule domain.toList

namespace VhostManager

/-- Every custom domain of a registered message is installed. -/
theorem installed_of_register {U : UnicodeData} {vm vm' : VhostManager} {scheme : Scheme}
    {runId addr : String} {msg : NewProxyMsg} {tx : ReqSender}
    (h : vm.register U scheme runId msg tx = .ok (addr, vm')) {domain : String}
    (hd : domain ∈ customDomains U msg) :
    Installed vm' scheme (proxyKey runId msg.proxyName) domain := by
  obtain ⟨domains, -, hc, -, rfl⟩ := register_eq_ok h
  unfold Installed
  rw [table_ensureListenerStarted, table_setTable]
  exact RouteTable.exists_route_addRoutes ((mem_collectDomains hc).mpr (.inl hd))

theorem mem_customDomains {U : UnicodeData} {msg : NewProxyMsg} {domain : String} :
    domain ∈ customDomains U msg ↔
      domain ≠ "" ∧ ∃ c ∈ msg.customDomains, normalizeHost U c = domain := by
  simp [customDomains, and_comm]

end VhostManager

/-- A custom domain that the check and the routes read alike: its trimmed text has no colon
and no bracket in front, and an allowed suffix that ends it starts at a label. -/
structure Straight (U : UnicodeData) (rule : AuthRule) (c : String) : Prop where
  noColon : ':' ∉ (trim c).toList
  noBracket : (trim c).toList.head? ≠ some '['
  label : ∀ suffix ∈ rule.allowDomainSuffixes, ∀ rest,
    (TokenAuth.normalizeHost U c).toList = rest ++ (TokenAuth.normalizeHost U suffix).toList →
      rest = [] ∨ rest.getLast? = some '.'

/-- A suffix that ends a host at the start of a label covers it. -/
theorem under_append_of_label {suffix rest : List Char}
    (h : rest = [] ∨ rest.getLast? = some '.') : Under suffix (rest ++ suffix) := by
  rcases h with rfl | h
  · exact .inl rfl
  · obtain ⟨l, rfl⟩ := List.getLast?_eq_some_iff.mp h
    exact .inr ⟨l, by simp⟩

/-- Without a colon and without a bracket in front, the route is installed for the very text
that the check compares. -/
theorem toList_normalizeHost_of_straight {U : UnicodeData} (hU : U.Lawful) {rule : AuthRule}
    {c : String} (h : Straight U rule c) :
    (normalizeHost U c).toList = (TokenAuth.normalizeHost U c).toList := by
  have hpre : bareHost c.toList <+: (trim c).toList := by
    rw [trim, String.toList_ofList]
    exact List.rdropWhile_prefix _ _
  have hlow : Lowered U (bareHost c.toList) (TokenAuth.normalizeHost U c).toList := by
    rw [toList_tokenAuth_normalizeHost]
    exact lowered_lowerChars [] _
  rw [toList_normalizeHost, ← hostText_iff, hostText_self]
  constructor
  · rw [ne_eq, hlow.head?_eq_some hU (by decide)]
    intro hhead
    obtain ⟨l, hl⟩ := List.head?_eq_some_iff.mp hhead
    obtain ⟨l', hl'⟩ := hpre
    refine h.noBracket ?_
    rw [← hl', hl]
    rfl
  · have hcolon : ':' ∉ (TokenAuth.normalizeHost U c).toList := by
      rw [hlow.mem_iff hU (by decide)]
      exact fun hc ↦ h.noColon (hpre.subset hc)
    rw [List.count_eq_zero.mpr hcolon]
    decide

/-- For a message accepted under a confining rule and registered: if its custom domains are
straight, the domains it installs are confined to the allowed suffixes. -/
theorem confined_of_straight {U : UnicodeData} (hU : U.Lawful) {auth : TokenAuth} {key : String}
    {poolCount : UInt32} {rule : AuthRule} {msg : NewProxyMsg} {vm vm' : VhostManager}
    {scheme : Scheme} {runId addr : String} {tx : ReqSender}
    (hrule : auth.matchingRule key = some rule) (hne : rule.allowDomainSuffixes ≠ [])
    (hauth : auth.authorizeProxy U key poolCount msg = .ok ())
    (hreg : vm.register U scheme runId msg tx = .ok (addr, vm'))
    (hstraight : ∀ c ∈ msg.customDomains, Straight U rule c) :
    (∀ domain ∈ VhostManager.customDomains U msg,
      Installed vm' scheme (proxyKey runId msg.proxyName) domain) ∧
      Confined U rule msg vm' scheme (proxyKey runId msg.proxyName) := by
  refine ⟨fun domain hd ↦ VhostManager.installed_of_register hreg hd, fun domain hd _ ↦ ?_⟩
  obtain ⟨-, c, hc, rfl⟩ := VhostManager.mem_customDomains.mp hd
  obtain ⟨suffix, hs, rest, hrest⟩ := TokenAuth.checkDomains_eq_ok.mp
    (TokenAuth.checkDomains_of_authorizeProxy hrule hne hauth) c hc
  refine ⟨suffix, hs, ?_⟩
  rw [toList_normalizeHost_of_straight hU (hstraight c hc), ← hrest]
  exact under_append_of_label ((hstraight c hc).label suffix hs rest hrest.symm)

/-! ## A confined tenant -/

/-- An authenticator with one rule, confined to `example.com`. -/
def tenantAuth : TokenAuth where
  token := "root-token"
  additionalTokens := []
  rules := [⟨"tenant-token", ["http"], [], ["example.com"], [], 0⟩]

/-- The rule of `tenantAuth`. -/
def tenantRule : AuthRule := ⟨"tenant-token", ["http"], [], ["example.com"], [], 0⟩

/-- A server with HTTP virtual hosts on port 8080. -/
def tenantVhosts : VhostManager := .new .ascii "" 8080 0

/-- The manager after `tenantMsg domain` was registered for `host`. -/
def tenantVhostsAfter (host : String) : VhostManager :=
  { tenantVhosts with
    http := tenantVhosts.http.addRoutes [host] ⟨"run1:web", "web", 0⟩
    httpListenerStarted := true }

theorem confined_tenant :
    Installed (tenantVhostsAfter "app.example.com") .http (proxyKey "run1" "web")
        "app.example.com" ∧
      Confined .ascii tenantRule (tenantMsg "App.Example.com")
        (tenantVhostsAfter "app.example.com") .http (proxyKey "run1" "web") := by
  have hstraight : ∀ c ∈ (tenantMsg "App.Example.com").customDomains,
      Straight .ascii tenantRule c := by
    intro c hc
    obtain rfl := List.mem_singleton.mp hc
    refine ⟨by decide, by decide, fun suffix hs rest hrest ↦ .inr ?_⟩
    obtain rfl := List.mem_singleton.mp hs
    have hsplit : "app.".toList ++ "example.com".toList = rest ++ "example.com".toList := hrest
    rw [← List.append_cancel_right hsplit]
    rfl
  have h := @confined_of_straight .ascii UnicodeData.ascii_lawful tenantAuth "tenant-token" 1
    tenantRule (tenantMsg "App.Example.com") tenantVhosts (tenantVhostsAfter "app.example.com")
    .http "run1" "http://app.example.com:8080" 0 rfl (by decide) rfl rfl hstraight
  exact ⟨h.1 "app.example.com" (by decide), h.2⟩

/-- A tenant confined to `example.com` captures `evil.com`: the check sees a
text that ends in the suffix, the route is installed for what stands before the
colon. -/
theorem tenant_captures_evil :
    tenantAuth.matchingRule "tenant-token" = some tenantRule ∧
      tenantAuth.authorizeProxy .ascii "tenant-token" 1 (tenantMsg "evil.com:.example.com") =
        .ok () ∧
      tenantVhosts.registerHttp .ascii "run1" (tenantMsg "evil.com:.example.com") 0 =
        .ok ("http://evil.com:8080", tenantVhostsAfter "evil.com") ∧
      ¬ Confined .ascii tenantRule (tenantMsg "evil.com:.example.com")
        (tenantVhostsAfter "evil.com") .http (proxyKey "run1" "web") := by
  refine ⟨rfl, rfl, rfl, fun h ↦ ?_⟩
  have hcov := h "evil.com" (by decide) ⟨⟨"run1:web", "web", 0⟩, by decide, rfl⟩
  exact absurd hcov (by decide)

/-! ## Ports -/

/-- A registration under a rule that confines ports adds no port outside the ranges of
the rule, nor outside those of the server. -/
theorem ports_within_ranges {U : UnicodeData} {auth : TokenAuth} {key : String}
    {poolCount : UInt32} {rule : AuthRule} {msg : NewProxyMsg} {pm pm' : ProxyManager}
    {runId : RunId} {tx : ReqSender} {bind : Option String} {addr : String}
    (hrule : auth.matchingRule key = some rule) (hne : rule.allowPorts ≠ [])
    (hauth : auth.authorizeProxy U key poolCount msg = .ok ())
    (hreg : pm.registerProxy U runId msg tx bind = (.ok addr, pm')) :
    ∀ port ∈ pm'.resources.tcpPorts, port ∉ pm.resources.tcpPorts →
      (∃ range ∈ rule.allowPorts, range.Contains port) ∧
        ∃ range ∈ pm.resources.allowPorts, range.1 ≤ port ∧ port ≤ range.2 := by
  intro port hport hnew
  have hvalid := TokenAuth.validateRuleProxy_of_authorizeProxy hrule hauth
  obtain ⟨-, -, hports, -⟩ := TokenAuth.validateRuleProxy_eq_ok hvalid
  obtain ⟨hfixed, hrange⟩ := TokenAuth.checkPorts_eq_ok hne hports
  rcases ProxyManager.registerProxy_cases U pm runId msg tx bind with
    ⟨e, pm₁, herror, -⟩ | ⟨proxy, addr', pm₁, hok, -, hbuilt⟩
  · cases herror.symm.trans hreg
  · obtain ⟨-, rfl⟩ := Prod.mk.inj (hok.symm.trans hreg)
    obtain ⟨hallowed, hgrants⟩ := hbuilt.newPort hport hnew
    rw [ResourceController.Grants, if_neg hfixed] at hgrants
    exact ⟨hgrants ▸ hrange, ResourceController.isPortAllowed_iff.mp hallowed⟩

/-- An authenticator with one rule, confined to the ports 6000 to 6010. -/
def portAuth : TokenAuth where
  token := "root-token"
  additionalTokens := []
  rules := [⟨"tenant-token", ["tcp"], [⟨6000, 6010, 0⟩], [], [], 0⟩]

/-- A TCP proxy on port 6005. -/
def portMsg : NewProxyMsg :=
  { tenantMsg "" with
    proxyName := "db", proxyType := "tcp", remotePort := 6005, customDomains := [] }

/-- A server that allows the ports 6000 to 7000. -/
def portManager : ProxyManager := .new tenantVhosts [⟨6000, 7000, 0⟩]

/-- A tenant confined to some ports registers one of them. -/
theorem ports_within_ranges_tenant :
    (6005 : UInt16) ∈
        (portManager.registerProxy .ascii run1 portMsg 0 none).2.resources.tcpPorts ∧
      (∃ range ∈ [PortRange.mk 6000 6010 0], range.Contains 6005) ∧
      ∃ range ∈ portManager.resources.allowPorts, range.1 ≤ 6005 ∧ 6005 ≤ range.2 := by
  have hmem : (6005 : UInt16) ∈
      (portManager.registerProxy .ascii run1 portMsg 0 none).2.resources.tcpPorts := by
    decide +kernel
  exact ⟨hmem, @ports_within_ranges .ascii portAuth "tenant-token" 1 _ portMsg portManager _
    run1 0 none "0.0.0.0:6005" rfl (by decide) rfl rfl 6005 hmem (by decide)⟩

end Arp.Server
