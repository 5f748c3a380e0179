import Arp.Server.Sessions

/-!
# Taking a name over

What a takeover may do to others.  A refused request should leave everything as
it was, and an eviction should take out the owner's proxy and nothing else.
Neither holds without a condition:

* the takeover comes before authorization and registration, so a refused request
  may already have evicted (`refused_unchanged_iff`);
* an eviction goes by the end of the composite key, and names may contain colons
  (`evicts_only_iff`).
-/

namespace Arp.Server

open Arp.Common Arp.Lib Arp.Lib.Text
open ProxyManager (run1 run2 run3)

/-- The key of a proxy ends with a colon and its name. -/
theorem endsWith_proxyKey (runId proxyName : String) :
    endsWith (proxyKey runId proxyName) (":" ++ proxyName) = true := by
  rw [endsWith_iff]
  exact ⟨runId.toList, by simp [toList_proxyKey]⟩

/-- A registered name is found by an eviction of that name. -/
theorem exists_find_of_mem {pm : ProxyManager} {order : List String}
    (horder : order.Perm pm.proxies.keys) {runId proxyName : String}
    (hkey : proxyKey runId proxyName ∈ pm.proxies) :
    ∃ key, (order.find? fun key ↦ endsWith key (":" ++ proxyName)) = some key ∧
      key ∈ pm.proxies ∧ endsWith key (":" ++ proxyName) = true := by
  have hmem : proxyKey runId proxyName ∈ order := horder.mem_iff.mpr (AList.mem_keys.mp hkey)
  have hsome : (order.find? fun key ↦ endsWith key (":" ++ proxyName)).isSome = true :=
    List.find?_isSome.mpr ⟨_, hmem, endsWith_proxyKey runId proxyName⟩
  obtain ⟨key, hfind⟩ := Option.isSome_iff_exists.mp hsome
  have hend := List.find?_some hfind
  refine ⟨key, hfind, AList.mem_keys.mpr ?_, hend⟩
  exact horder.mem_iff.mp (List.mem_of_find?_eq_some hfind)

/-! ## Refused requests -/

namespace Shared

/-- Proxies, records, registries, ports, routes, groups and controls are the same;
only the cursor for dynamic ports may have moved. -/
def Unchanged (s s' : Shared) : Prop :=
  ProxyManager.OnlyCursor s.manager s'.manager ∧ s'.controls = s.controls

/-- Another live control of the same client has registered the name. -/
def HeldByTwin (s : Shared) (runId : RunId) (control : Control) (proxyName : String) : Prop :=
  control.clientId ≠ "" ∧ ∃ other twin, other ≠ runId ∧ s.controls.lookup other = some twin ∧
    twin.clientId = control.clientId ∧ proxyKey other.val proxyName ∈ s.manager.proxies

variable {U : UnicodeData} {s : Shared} {runId : RunId} {control : Control} {msg : NewProxyMsg}
  {walk : Walk} {bind : Option String}

/-- If the end of the handler replies with an error, nothing has changed. -/
theorem unchanged_authorizeAndRegister
    (herror : (s.authorizeAndRegister U runId control msg bind).1.error ≠ "") :
    Unchanged s (s.authorizeAndRegister U runId control msg bind).2 := by
  rcases authorizeAndRegister_cases U s runId control msg bind with
    ⟨e, pm', hr, hcursor⟩ | ⟨addr, proxy, pm', hr, -, -⟩
  · rw [hr]
    exact ⟨hcursor, rfl⟩
  · rw [hr] at herror
    exact absurd rfl herror

/-- The handler takes a name over only from another control of the same client. -/
theorem heldByTwin_of_takeOver {owner : ProxyOwner}
    (hjudge : judge runId control (s.findProxyOwner walk.controls msg.proxyName) =
      .takeOver owner) :
    s.HeldByTwin runId control msg.proxyName := by
  obtain ⟨hfind, hother, hne, hclient⟩ := judge_eq_takeOver hjudge
  obtain ⟨twin, htwin, hid, hkey⟩ := findProxyOwner_eq_some hfind
  exact ⟨hclient ▸ hne, owner.runId, twin, hother, htwin, hid ▸ hclient, hkey⟩

/-- A request of a type that is not known is refused. -/
theorem error_of_unsupported (htype : msg.proxyType ∉ ProxyManager.supportedTypes) :
    (s.authorizeAndRegister U runId control msg bind).1.error ≠ "" := by
  rcases authorizeAndRegister_cases U s runId control msg bind with
    ⟨e, pm', hr, -⟩ | ⟨addr, proxy, pm', hr, -, hbuilt⟩
  · rw [hr]
    exact e.display_ne_empty
  · exact absurd hbuilt.supported htype

/-- A walk that meets the given control first. -/
def walkFrom (s : Shared) (first : RunId) : Walk where
  controls := first :: s.controls.keys.erase first
  proxies := s.manager.proxies.keys

theorem walkFrom_covers {first : RunId} (hfirst : first ∈ s.controls) :
    (s.walkFrom first).Covers s :=
  ⟨(List.perm_cons_erase (AList.mem_keys.mp hfirst)).symm, .refl _⟩

/-- A walk that meets a twin first leads to a takeover from it. -/
theorem judge_walkFrom {other : RunId} {twin : Control} {proxyName : String}
    (hother : other ≠ runId) (htwin : s.controls.lookup other = some twin)
    (hclient : twin.clientId = control.clientId) (hne : control.clientId ≠ "")
    (hkey : proxyKey other.val proxyName ∈ s.manager.proxies) :
    judge runId control (s.findProxyOwner (s.walkFrom other).controls proxyName) =
      .takeOver ⟨other, twin.clientId⟩ := by
  rw [walkFrom, findProxyOwner_cons htwin hkey, judge, if_neg hother,
    if_pos ⟨hclient ▸ hne, hclient⟩]

/-- A takeover of a registered name takes some proxy out. -/
theorem exists_not_mem_takeOver (owner : ProxyOwner) {order : List String} {proxyName : String}
    (horder : order.Perm s.manager.proxies.keys) {other : String}
    (hkey : proxyKey other proxyName ∈ s.manager.proxies) :
    ∃ key ∈ s.manager.proxies, key ∉ (s.takeOver owner order proxyName).manager.proxies := by
  obtain ⟨key, hfind, hmem, -⟩ := exists_find_of_mem horder hkey
  refine ⟨key, hmem, ?_⟩
  rw [← AList.lookup_eq_none]
  have hgone := ProxyManager.lookup_proxies_unregisterKey s.manager key key
  rw [if_pos rfl] at hgone
  simpa [takeOver, ProxyManager.evictProxyByName, hfind, shutdownRun,
    ProxyManager.forgetXtcp] using hgone

/-- Without a change the proxies are the same. -/
theorem Unchanged.proxies {s' : Shared} (h : Unchanged s s') :
    s'.manager.proxies = s.manager.proxies := by
  obtain ⟨⟨cursor, hcursor⟩, -⟩ := h
  rw [hcursor]

/-- A refused request after a takeover of a registered name has changed the
proxies. -/
theorem not_unchanged_of_takeOver {owner : ProxyOwner} (hcovers : walk.Covers s)
    (hjudge : judge runId control (s.findProxyOwner walk.controls msg.proxyName) = .takeOver owner)
    {other : String} (hkey : proxyKey other msg.proxyName ∈ s.manager.proxies)
    (herror : (s.handleNewProxy U runId control msg walk bind).1.error ≠ "") :
    ¬Unchanged s (s.handleNewProxy U runId control msg walk bind).2 := by
  obtain ⟨key, hmem, hgone⟩ := exists_not_mem_takeOver owner hcovers.2 hkey
  have hhandler : s.handleNewProxy U runId control msg walk bind =
      (s.takeOver owner walk.proxies msg.proxyName).authorizeAndRegister U runId control msg
        bind := by
    simp only [handleNewProxy, hjudge]
  intro hunchanged
  rw [hhandler] at hunchanged herror
  have hafter := (unchanged_authorizeAndRegister herror).proxies
  rw [hunchanged.proxies] at hafter
  rw [← hafter] at hgone
  exact hgone hmem

/-- Every refused request for a name leaves everything as it was, exactly if no
other live control of the same client has the name registered. -/
theorem refused_unchanged_iff (U : UnicodeData) (s : Shared) (runId : RunId) (control : Control)
    (proxyName : String) :
    (∀ msg walk bind, msg.proxyName = proxyName → walk.Covers s →
        (s.handleNewProxy U runId control msg walk bind).1.error ≠ "" →
        Unchanged s (s.handleNewProxy U runId control msg walk bind).2) ↔
      ¬s.HeldByTwin runId control proxyName := by
  constructor
  · rintro hunchanged ⟨hne, other, twin, hother, htwin, hclient, hkey⟩
    -- Ask for the name with an unknown type: the takeover happens, the request fails.
    let msg := ProxyManager.message proxyName "unsupported" 0 "" .null
    have htype : msg.proxyType ∉ ProxyManager.supportedTypes := by
      show "unsupported" ∉ ProxyManager.supportedTypes
      decide
    have hcovers : (s.walkFrom other).Covers s := walkFrom_covers (Table.mem_of_lookup htwin)
    have hjudge : judge runId control
        (s.findProxyOwner (s.walkFrom other).controls msg.proxyName) = _ :=
      judge_walkFrom hother htwin hclient hne hkey
    have herror : (s.handleNewProxy U runId control msg (s.walkFrom other) none).1.error ≠ "" := by
      simp only [handleNewProxy, hjudge]
      exact error_of_unsupported htype
    exact not_unchanged_of_takeOver hcovers hjudge hkey herror
      (hunchanged msg (s.walkFrom other) none rfl hcovers herror)
  · intro hfree msg walk bind hname hcovers herror
    subst hname
    unfold handleNewProxy at herror ⊢
    split at herror
    · exact ⟨.refl s.manager, rfl⟩
    · exact unchanged_authorizeAndRegister herror
    · next owner hjudge => exact absurd (heldByTwin_of_takeOver hjudge) hfree

/-- A server with a token whose holders may register HTTP proxies only.  A client
with the main token has registered a proxy, and a holder of the other token has
logged in under the same client id. -/
def tenantLogin : Option Service :=
  Machine.run (Service.step .ascii)
    (.start ⟨"main-token", [], [⟨"tenant-token", ["http"], [], [], [], 0⟩]⟩
      (ProxyManager.start .ascii "" 80 443 []))
    [.login run1 ⟨"office", "main-token", 1, 1⟩,
      .act run1 (.newProxy (ProxyManager.message "ssh" "tcp" 10022 "" .null) [run1]),
      .act run1 (.register none),
      .login run2 ⟨"office", "tenant-token", 1, 2⟩]

/-- The tenant asks for the name of that proxy, with a type it may not register. -/
def tenantRequest (s : Service) : NewProxyRespMsg × Shared :=
  s.handleNewProxy .ascii run2 ⟨"office", "tenant-token", 1, 2⟩
    (ProxyManager.message "ssh" "tcp" 10022 "" .null) (s.walkFrom run1) none

/-- The tenant is not authorized, but the proxy is gone and its control shut down. -/
theorem refused_tenant_evicts : ∃ s, tenantLogin = some s ∧
    (s.walkFrom run1).Covers s.toShared ∧
    (tenantRequest s).1.error =
      "Authentication failed: proxy type tcp is not allowed for this token" ∧
    s.manager.proxies.keys = ["run-1:ssh"] ∧ (tenantRequest s).2.manager.proxies.keys = [] ∧
    (tenantRequest s).2.controls.keys = [run2] ∧
    ¬Unchanged s.toShared (tenantRequest s).2 := by
  have hrun : tenantLogin.map (fun s ↦ ((tenantRequest s).1.error, s.manager.proxies.keys,
      (tenantRequest s).2.manager.proxies.keys)) =
      some ("Authentication failed: proxy type tcp is not allowed for this token", ["run-1:ssh"],
        []) := by decide
  have hlive : tenantLogin.map (fun s ↦ (s.controls.keys, (tenantRequest s).2.controls.keys)) =
      some ([run2, run1], [run2]) := by decide
  obtain ⟨s, hs, hvalues⟩ := Option.map_eq_some_iff.mp hrun
  simp only [hs, Option.map_some, Option.some.injEq, Prod.mk.injEq] at hvalues hlive
  obtain ⟨herror, hbefore, hafter⟩ := hvalues
  refine ⟨s, hs, walkFrom_covers ?_, herror, hbefore, hafter, hlive.2, fun hunchanged ↦ ?_⟩
  · rw [AList.mem_keys, hlive.1]
    decide
  · rw [hunchanged.proxies, hbefore] at hafter
    cases hafter

end Shared

/-! ## Evictions -/

namespace ProxyManager

/-- Exactly the proxy of `key` is evicted: it is removed and closed, all other
proxies stay, and so do the registry entries of proxies that stay. -/
structure EvictsOnly (pm : ProxyManager) (key : String) (pm' : ProxyManager) : Prop where
  proxies : ∀ k, pm'.proxies.lookup k = if k = key then none else pm.proxies.lookup k
  closed : ∃ proxy xtcpRegistry, pm.proxies.lookup key = some proxy ∧
    pm' = { (pm.remove key).close proxy with xtcpRegistry := xtcpRegistry }
  stcp : ∀ k record, k ≠ key → pm.records.lookup k = some record →
    record.proxyType = "stcp" →
    pm'.stcpRegistry.lookup record.proxyName = pm.stcpRegistry.lookup record.proxyName
  xtcp : ∀ k record, k ≠ key → pm.records.lookup k = some record →
    record.proxyType = "xtcp" →
    pm'.xtcpRegistry.lookup record.proxyName = pm.xtcpRegistry.lookup record.proxyName

variable {pm : ProxyManager} {owner : RunId} {proxyName : String} {order : List String}

/-- Closing an object changes the STCP registry at its own name at most. -/
theorem lookup_stcpRegistry_close {proxy : ProxyObject} {name : String}
    (hname : ∀ m, proxy = .stcp m → name ≠ m) :
    (pm.close proxy).stcpRegistry.lookup name = pm.stcpRegistry.lookup name := by
  cases proxy with
  | stcp m => exact AList.lookup_erase_ne (hname m rfl)
  | grouped member =>
      simp only [close, leaveGroup]
      split
      · rfl
      · split <;> rfl
  | xtcp m relayProxy => cases relayProxy <;> rfl
  | _ => rfl

/-- Closing an object changes the XTCP registry at its own name at most. -/
theorem lookup_xtcpRegistry_close {proxy : ProxyObject} {name : String}
    (hname : ∀ m relay, proxy = .xtcp m relay → name ≠ m) :
    (pm.close proxy).xtcpRegistry.lookup name = pm.xtcpRegistry.lookup name := by
  cases proxy with
  | xtcp m relayProxy => cases relayProxy <;> exact AList.lookup_erase_ne (hname m _ rfl)
  | grouped member =>
      simp only [close, leaveGroup]
      split
      · rfl
      · split <;> rfl
  | _ => rfl

/-- If only the owner's key ends with the name, only the owner's proxy is evicted. -/
theorem evictsOnly_of_sole (h : pm.Described) (hkey : proxyKey owner.val proxyName ∈ pm.proxies)
    (hsole : ∀ key ∈ pm.proxies, endsWith key (":" ++ proxyName) = true →
      key = proxyKey owner.val proxyName)
    (horder : order.Perm pm.proxies.keys) :
    EvictsOnly pm (proxyKey owner.val proxyName) (pm.evictProxyByName order proxyName).2 := by
  obtain ⟨key, hfind, hmem, hend⟩ := exists_find_of_mem horder hkey
  obtain rfl := hsole key hmem hend
  obtain ⟨proxy, hproxy⟩ := Table.mem_iff_lookup.mp hmem
  obtain ⟨record, -, hname, hdescribes⟩ := h.record_of_proxy hproxy
  obtain ⟨-, hown⟩ := proxyKey_inj.mp hname
  -- A proxy that stays has another name.
  have hother : ∀ k r, k ≠ proxyKey owner.val proxyName → pm.records.lookup k = some r →
      r.proxyName ≠ proxyName := by
    rintro k r hk hr rfl
    have hp : k ∈ pm.proxies := h.mem_iff.mpr (Table.mem_of_lookup hr)
    obtain ⟨p, hp'⟩ := Table.mem_iff_lookup.mp hp
    obtain ⟨r', hr', hkr, -⟩ := h.record_of_proxy hp'
    rw [hr] at hr'
    obtain rfl := Option.some.inj hr'
    exact hk (hsole k hp (hkr ▸ endsWith_proxyKey _ _))
  have hevict : (pm.evictProxyByName order proxyName).2 =
      ((pm.remove (proxyKey owner.val proxyName)).close proxy).forgetXtcp proxyName := by
    simp only [evictProxyByName, hfind, unregisterKey, hproxy]
  rw [hevict]
  refine ⟨fun k ↦ ?_, ⟨proxy, _, hproxy, rfl⟩, fun k r hk hr _ ↦ ?_, fun k r hk hr _ ↦ ?_⟩
  · rw [forgetXtcp, (proxies_close _ _).1]
    exact Table.lookup_erase_ite pm.proxies _ k
  · refine lookup_stcpRegistry_close fun m hm ↦ ?_
    subst hm
    rw [hdescribes.2, ← hown]
    exact hother k r hk hr
  · rw [forgetXtcp, AList.lookup_erase_ne (hother k r hk hr)]
    refine lookup_xtcpRegistry_close fun m relay hm ↦ ?_
    subst hm
    rw [hdescribes.2, ← hown]
    exact hother k r hk hr

/-- A walk that meets another key with that end first evicts the other proxy. -/
theorem not_evictsOnly {key : String} (hmem : key ∈ pm.proxies)
    (hend : endsWith key (":" ++ proxyName) = true) (hne : key ≠ proxyKey owner.val proxyName) :
    ¬EvictsOnly pm (proxyKey owner.val proxyName)
      (pm.evictProxyByName (key :: pm.proxies.keys.erase key) proxyName).2 := by
  intro honly
  have hfind : ((key :: pm.proxies.keys.erase key).find? fun k ↦ endsWith k (":" ++ proxyName)) =
      some key := by
    rw [List.find?_cons, hend]
  have hkept := honly.proxies key
  simp only [if_neg hne, evictProxyByName, hfind] at hkept
  have hgone := lookup_proxies_unregisterKey pm key key
  rw [if_pos rfl] at hgone
  exact AList.lookup_eq_none.mp (hkept.symm.trans hgone) hmem

end ProxyManager

namespace Service

/-- In every reachable state and for a registered name: whatever the order of the
walk, an eviction of the name takes out the owner's proxy and nothing else,
exactly if no other registered key ends with a colon and the name. -/
theorem evicts_only_iff {U : UnicodeData} {authenticator : TokenAuth} {subdomainHost : String}
    {vhostHttpPort vhostHttpsPort : UInt16} {allowPorts : List PortRange} {events : List Event}
    {s : Service}
    (hrun : Machine.run (step U) (start authenticator
      (ProxyManager.start U subdomainHost vhostHttpPort vhostHttpsPort allowPorts)) events = some s)
    {owner : RunId} {proxyName : String}
    (hkey : proxyKey owner.val proxyName ∈ s.manager.proxies) :
    (∀ order : List String, order.Perm s.manager.proxies.keys →
        s.manager.EvictsOnly (proxyKey owner.val proxyName)
          (s.manager.evictProxyByName order proxyName).2) ↔
      ∀ key ∈ s.manager.proxies, endsWith key (":" ++ proxyName) = true →
        key = proxyKey owner.val proxyName := by
  have h : s.manager.Described := Machine.run_invariant described_step hrun
    (ProxyManager.consistent_start U _ _ _ _).described
  constructor
  · intro honly key hmem hend
    by_contra hne
    exact ProxyManager.not_evictsOnly hmem hend hne
      (honly _ (List.perm_cons_erase (AList.mem_keys.mp hmem)).symm)
  · intro hsole order horder
    exact ProxyManager.evictsOnly_of_sole h hkey hsole horder

/-- Clients `office` and `home` have a proxy each, and `office` logs in again. -/
def secondLogin (proxyName : String) : Option Service :=
  Machine.run (step .ascii)
    (start ⟨"token", [], []⟩ (ProxyManager.start .ascii "" 80 443 []))
    [.login run1 ⟨"office", "token", 1, 1⟩,
      .act run1 (.newProxy (ProxyManager.message "web" "tcp" 10080 "" .null) [run1]),
      .act run1 (.register none),
      .login run3 ⟨"home", "token", 1, 3⟩,
      .act run3 (.newProxy (ProxyManager.message proxyName "stcp" 0 "secret" .null) [run1, run3]),
      .act run3 (.register none),
      .login run2 ⟨"office", "token", 1, 2⟩]

/-- The other client's proxy is called `db`: evicting `web` leaves it alone. -/
theorem evicts_only_web : ∃ s, secondLogin "db" = some s ∧
    s.manager.proxies.keys = ["run-3:db", "run-1:web"] ∧
    ∀ order : List String, order.Perm s.manager.proxies.keys →
      s.manager.EvictsOnly "run-1:web" (s.manager.evictProxyByName order "web").2 := by
  have hrun : (secondLogin "db").map (fun s ↦ s.manager.proxies.keys) =
      some ["run-3:db", "run-1:web"] := by decide
  obtain ⟨s, hs, hkeys⟩ := Option.map_eq_some_iff.mp hrun
  have hkey : proxyKey run1.val "web" ∈ s.manager.proxies := by
    rw [AList.mem_keys, hkeys]
    decide
  refine ⟨s, hs, hkeys, (evicts_only_iff hs hkey).mpr ?_⟩
  intro key hmem
  rw [AList.mem_keys, hkeys] at hmem
  revert key
  decide

/-- The other client's proxy is called `x:web`: the second login of `office` takes
`web` over from its first one, and a walk that meets the other client's proxy
first evicts that one. -/
theorem evicts_other_client : ∃ s, secondLogin "x:web" = some s ∧
    Shared.judge run2 ⟨"office", "token", 1, 2⟩ (s.findProxyOwner s.controls.keys "web") =
      .takeOver ⟨run1, "office"⟩ ∧
    s.manager.proxies.keys = ["run-3:x:web", "run-1:web"] ∧
    (s.manager.evictProxyByName ["run-3:x:web", "run-1:web"] "web").2.proxies.keys =
      ["run-1:web"] ∧
    (s.manager.evictProxyByName ["run-3:x:web", "run-1:web"] "web").2.stcpRegistry.keys = [] := by
  have hrun : (secondLogin "x:web").map (fun s ↦ (s.manager.proxies.keys,
      (s.manager.evictProxyByName ["run-3:x:web", "run-1:web"] "web").2.proxies.keys,
      (s.manager.evictProxyByName ["run-3:x:web", "run-1:web"] "web").2.stcpRegistry.keys)) =
      some (["run-3:x:web", "run-1:web"], ["run-1:web"], []) := by decide
  have hjudge : (secondLogin "x:web").map (fun s ↦ Shared.judge run2 ⟨"office", "token", 1, 2⟩
      (s.findProxyOwner s.controls.keys "web")) = some (.takeOver ⟨run1, "office"⟩) := by decide
  obtain ⟨s, hs, hvalues⟩ := Option.map_eq_some_iff.mp hrun
  simp only [hs, Option.map_some, Option.some.injEq, Prod.mk.injEq] at hvalues hjudge
  exact ⟨s, hs, hjudge, hvalues⟩

end Service

end Arp.Server
