import Arp.Common.Message
import Arp.Lib.Table
import Arp.Lib.Text

/-!
# Virtual hosts

HTTP and HTTPS proxies share one listener each and are told apart by host
name.  A route table sends a domain to the list of routes registered for it, in
registration order, with a round-robin counter beside it.  A route belongs to
the registered proxy whose composite key it carries.
-/

namespace Arp.Server

open Arp.Common Arp.Lib Arp.Lib.Text

/-- The identity of the sending half of a control's work-connection request
channel. -/
abbrev ReqSender := Nat

/-- A run id.  The server makes them from UUIDs, so there is no colon in one. -/
abbrev RunId := { s : String // ':' ∉ s.toList }

/-- `format!("{}:{}", run_id, proxy_name)`: the key of a registered proxy. -/
def proxyKey (runId proxyName : String) : String := runId ++ ":" ++ proxyName

/-- `VhostRoute`. -/
structure VhostRoute where
  routeKey : String
  proxyName : String
  workConnReqTx : ReqSender
deriving DecidableEq, Repr

/-- The routes of one listener and their round-robin counters: `http_routes`
with `http_rr`, or `https_routes` with `https_rr`. -/
structure RouteTable where
  routes : Table String (List VhostRoute)
  rr : Table String UInt64

/-- The two kinds of virtual host. -/
inductive Scheme where
  | http
  | https
deriving DecidableEq, Repr

/-- The spelling of a scheme, which is also the proxy type it serves. -/
def Scheme.text : Scheme → String
  | http => "http"
  | https => "https"

theorem Scheme.text_injective : Function.Injective Scheme.text := by
  intro a b h
  cases a <;> cases b <;> simp_all [text]

/-! ## Host names -/

/-- `vhost::normalize_host`. -/
def normalizeHost (U : UnicodeData) (host : String) : String :=
  let trimmed := toLowercase U (trimEndMatches (trim host) '.')
  match trimmed.toList with
  | '[' :: stripped => trimEndMatches (.ofList stripped) ']'
  | _ =>
    match rsplitOnce trimmed ':' with
    | some (name, _) => if ':' ∈ name.toList then trimmed else name
    | none => trimmed

/-! ## Route tables -/

namespace RouteTable

/-- One turn of the loop of `add_routes`: a domain gets the route unless it
already has one with that key. -/
def addRoute (route : VhostRoute) (t : RouteTable) (domain : String) : RouteTable :=
  let entry := (t.routes.lookup domain).getD []
  { routes := t.routes.insert domain
      (if entry.any (·.routeKey == route.routeKey) then entry else entry ++ [route])
    rr := if domain ∈ t.rr then t.rr else t.rr.insert domain 0 }

/-- `VhostManager::add_routes`. -/
def addRoutes (t : RouteTable) (domains : List String) (route : VhostRoute) : RouteTable :=
  domains.foldl (addRoute route) t

/-- One turn of the loop of `unregister_route`: the routes with the key leave
the domain, and the domain leaves the table with its last route. -/
def dropRoute (routeKey : String) (t : RouteTable) (domain : String) : RouteTable :=
  match t.routes.lookup domain with
  | some entry =>
    let kept := entry.filter (·.routeKey != routeKey)
    if kept.isEmpty then { routes := t.routes.erase domain, rr := t.rr.erase domain }
    else { t with routes := t.routes.insert domain kept }
  | none => { routes := t.routes.erase domain, rr := t.rr.erase domain }

/-- The domains `unregister_route` collects: those with a route of that key. -/
def domainsOf (t : RouteTable) (routeKey : String) : List String :=
  t.routes.keys.filter fun domain ↦
    ((t.routes.lookup domain).getD []).any (·.routeKey == routeKey)

/-- `VhostManager::unregister_route` on the table of its proxy type. -/
def unregisterRoute (t : RouteTable) (routeKey : String) : RouteTable :=
  (t.domainsOf routeKey).foldl (dropRoute routeKey) t

/-- The routes of a domain; none if the domain is not in the table. -/
def routesOf (t : RouteTable) (domain : String) : List VhostRoute :=
  (t.routes.lookup domain).getD []

/-! ### Entries -/

/-- Append a route to an entry, unless the entry has one of its key. -/
def extend (route : VhostRoute) (entry : List VhostRoute) : List VhostRoute :=
  if entry.any (·.routeKey == route.routeKey) then entry else entry ++ [route]

/-- What is left of an entry without the routes of a key; no entry if nothing is. -/
def keep (routeKey : String) (entry : List VhostRoute) : Option (List VhostRoute) :=
  if (entry.filter (·.routeKey != routeKey)).isEmpty then none
  else some (entry.filter (·.routeKey != routeKey))

theorem extend_of_mem {route r : VhostRoute} {entry : List VhostRoute} (hr : r ∈ entry)
    (hkey : r.routeKey = route.routeKey) : extend route entry = entry := by
  apply if_pos
  rw [List.any_eq_true]
  exact ⟨r, hr, beq_iff_eq.mpr hkey⟩

theorem extend_of_forall_ne {route : VhostRoute} {entry : List VhostRoute}
    (h : ∀ r ∈ entry, r.routeKey ≠ route.routeKey) : extend route entry = entry ++ [route] := by
  apply if_neg
  intro hany
  obtain ⟨r, hr, hkey⟩ := List.any_eq_true.mp hany
  exact h r hr (beq_iff_eq.mp hkey)

theorem exists_mem_extend (route : VhostRoute) (entry : List VhostRoute) :
    ∃ r ∈ extend route entry, r.routeKey = route.routeKey := by
  by_cases h : ∃ r ∈ entry, r.routeKey = route.routeKey
  · obtain ⟨r, hr, hkey⟩ := h
    rw [extend_of_mem hr hkey]
    exact ⟨r, hr, hkey⟩
  · rw [extend_of_forall_ne fun r hr hkey ↦ h ⟨r, hr, hkey⟩]
    exact ⟨route, List.mem_append_right _ (List.mem_singleton_self route), rfl⟩

theorem mem_extend_of_mem {route r : VhostRoute} {entry : List VhostRoute} (hr : r ∈ entry) :
    r ∈ extend route entry := by
  unfold extend
  split
  · exact hr
  · exact List.mem_append_left _ hr

theorem mem_of_mem_extend {route r : VhostRoute} {entry : List VhostRoute}
    (hr : r ∈ extend route entry) : r ∈ entry ∨ r = route := by
  unfold extend at hr
  split at hr
  · exact .inl hr
  · exact (List.mem_append.mp hr).imp id List.mem_singleton.mp

theorem extend_extend (route : VhostRoute) (entry : List VhostRoute) :
    extend route (extend route entry) = extend route entry := by
  obtain ⟨r, hr, hkey⟩ := exists_mem_extend route entry
  exact extend_of_mem hr hkey

theorem filter_eq_self_of_forall_ne {routeKey : String} {entry : List VhostRoute}
    (h : ∀ r ∈ entry, r.routeKey ≠ routeKey) :
    entry.filter (·.routeKey != routeKey) = entry :=
  List.filter_eq_self.mpr fun r hr ↦ bne_iff_ne.mpr (h r hr)

theorem keep_of_forall_ne {routeKey : String} {entry : List VhostRoute} (hne : entry ≠ [])
    (h : ∀ r ∈ entry, r.routeKey ≠ routeKey) : keep routeKey entry = some entry := by
  rw [keep, filter_eq_self_of_forall_ne h, if_neg]
  rwa [List.isEmpty_iff]

theorem getD_bind_keep (routeKey : String) (entry : Option (List VhostRoute)) :
    (entry.bind (keep routeKey)).getD [] = (entry.getD []).filter (·.routeKey != routeKey) := by
  cases entry with
  | none => rfl
  | some entry =>
      rw [Option.bind_some, Option.getD_some, keep]
      split
      · next hempty => exact (List.isEmpty_iff.mp hempty).symm
      · rfl

/-- Routes that are gone need not be taken out again. -/
theorem bind_keep_keep (routeKey : String) (entry : Option (List VhostRoute)) :
    (entry.bind (keep routeKey)).bind (keep routeKey) = entry.bind (keep routeKey) := by
  cases entry with
  | none => rfl
  | some entry =>
      rw [Option.bind_some]
      unfold keep
      split
      · rfl
      · next hne =>
          have hsame : (entry.filter (·.routeKey != routeKey)).filter (·.routeKey != routeKey) =
              entry.filter (·.routeKey != routeKey) :=
            List.filter_eq_self.mpr fun r hr ↦ (List.mem_filter.mp hr).2
          rw [Option.bind_some, hsame, if_neg hne]

/-! ### Lookups -/

section Lookup

variable (t : RouteTable) (route : VhostRoute) (routeKey domain d : String)

theorem lookup_addRoute : (t.addRoute route domain).routes.lookup d =
    if d = domain then some (extend route (t.routesOf d)) else t.routes.lookup d := by
  rw [addRoute, Table.lookup_insert_ite]
  split
  · next hd =>
      subst hd
      rfl
  · rfl

theorem lookup_rr_addRoute : (t.addRoute route domain).rr.lookup d =
    if d = domain then some ((t.rr.lookup d).getD 0) else t.rr.lookup d := by
  unfold addRoute
  dsimp only
  split
  · next hmem =>
      split
      · next hd =>
          subst hd
          obtain ⟨count, hcount⟩ := Option.isSome_iff_exists.mp (AList.lookup_isSome.mpr hmem)
          rw [hcount, Option.getD_some]
      · rfl
  · next hnot =>
      rw [Table.lookup_insert_ite]
      split
      · next hd =>
          subst hd
          rw [AList.lookup_eq_none.mpr hnot, Option.getD_none]
      · rfl

theorem lookup_dropRoute : (t.dropRoute routeKey domain).routes.lookup d =
    if d = domain then (t.routes.lookup d).bind (keep routeKey) else t.routes.lookup d := by
  unfold dropRoute
  cases hentry : t.routes.lookup domain with
  | none =>
      rw [Table.lookup_erase_ite]
      split
      · next hd => rw [hd, hentry, Option.bind_none]
      · rfl
  | some entry =>
      dsimp only
      split
      · next hempty =>
          rw [Table.lookup_erase_ite]
          split
          · next hd => rw [hd, hentry, Option.bind_some, keep, if_pos hempty]
          · rfl
      · next hrest =>
          rw [Table.lookup_insert_ite]
          split
          · next hd => rw [hd, hentry, Option.bind_some, keep, if_neg hrest]
          · rfl

theorem lookup_rr_dropRoute : (t.dropRoute routeKey domain).rr.lookup d =
    if d = domain ∧ (t.routes.lookup d).bind (keep routeKey) = none then none
    else t.rr.lookup d := by
  unfold dropRoute
  by_cases hd : d = domain
  · subst hd
    cases hentry : t.routes.lookup d with
    | none => rw [Table.lookup_erase_ite, if_pos rfl, if_pos ⟨rfl, rfl⟩]
    | some entry =>
        rw [Option.bind_some, keep]
        dsimp only
        split
        · rw [Table.lookup_erase_ite, if_pos rfl, if_pos ⟨rfl, rfl⟩]
        · rw [if_neg]
          rintro ⟨-, hnone⟩
          cases hnone
  · rw [if_neg fun h ↦ hd h.1]
    cases t.routes.lookup domain with
    | none => rw [Table.lookup_erase_ite, if_neg hd]
    | some entry =>
        dsimp only
        split
        · rw [Table.lookup_erase_ite, if_neg hd]
        · rfl

theorem lookup_addRoutes (domains : List String) : (t.addRoutes domains route).routes.lookup d =
    if d ∈ domains then some (extend route (t.routesOf d)) else t.routes.lookup d := by
  induction domains generalizing t with
  | nil => rw [if_neg List.not_mem_nil]; rfl
  | cons domain rest ih =>
      rw [addRoutes, List.foldl_cons, ← addRoutes, ih, routesOf, lookup_addRoute]
      by_cases hd : d = domain
      · subst hd
        rw [if_pos rfl, Option.getD_some, extend_extend, if_pos List.mem_cons_self, ite_self]
      · rw [if_neg hd, ← routesOf]
        simp [hd]

theorem lookup_rr_addRoutes (domains : List String) : (t.addRoutes domains route).rr.lookup d =
    if d ∈ domains then some ((t.rr.lookup d).getD 0) else t.rr.lookup d := by
  induction domains generalizing t with
  | nil => rw [if_neg List.not_mem_nil]; rfl
  | cons domain rest ih =>
      rw [addRoutes, List.foldl_cons, ← addRoutes, ih, lookup_rr_addRoute]
      by_cases hd : d = domain
      · subst hd
        rw [if_pos rfl, Option.getD_some, ite_self, if_pos List.mem_cons_self]
      · simp [hd]

theorem lookup_foldl_dropRoute (domains : List String) :
    (domains.foldl (dropRoute routeKey) t).routes.lookup d =
      if d ∈ domains then (t.routes.lookup d).bind (keep routeKey) else t.routes.lookup d := by
  induction domains generalizing t with
  | nil => rw [if_neg List.not_mem_nil]; rfl
  | cons domain rest ih =>
      rw [List.foldl_cons, ih, lookup_dropRoute]
      by_cases hd : d = domain
      · subst hd
        rw [if_pos rfl, bind_keep_keep, ite_self, if_pos List.mem_cons_self]
      · simp [hd]

theorem lookup_rr_foldl_dropRoute (domains : List String) :
    (domains.foldl (dropRoute routeKey) t).rr.lookup d =
      if d ∈ domains ∧ (t.routes.lookup d).bind (keep routeKey) = none then none
      else t.rr.lookup d := by
  induction domains generalizing t with
  | nil =>
      rw [if_neg fun h ↦ List.not_mem_nil h.1]
      rfl
  | cons domain rest ih =>
      rw [List.foldl_cons, ih, lookup_dropRoute, lookup_rr_dropRoute]
      by_cases hd : d = domain
      · subst hd
        rw [if_pos rfl, bind_keep_keep]
        by_cases hnone : (t.routes.lookup d).bind (keep routeKey) = none <;> simp [hnone]
      · simp [hd]

end Lookup

/-! ### Routes of a domain -/

theorem routesOf_addRoutes (t : RouteTable) (route : VhostRoute) (domains : List String)
    (d : String) : (t.addRoutes domains route).routesOf d =
      if d ∈ domains then extend route (t.routesOf d) else t.routesOf d := by
  rw [routesOf, lookup_addRoutes]
  split
  · rfl
  · rfl

/-- Every route of a domain is an old one or the new one at a listed domain. -/
theorem mem_routesOf_addRoutes {route : VhostRoute} {domains : List String} {t : RouteTable}
    {d : String} {r : VhostRoute} (h : r ∈ (t.addRoutes domains route).routesOf d) :
    r ∈ t.routesOf d ∨ r = route ∧ d ∈ domains := by
  rw [routesOf_addRoutes] at h
  split at h
  · next hd => exact (mem_of_mem_extend h).imp_right fun hnew ↦ ⟨hnew, hd⟩
  · exact .inl h

/-- Every listed domain has a route with the key once `add_routes` is done. -/
theorem exists_route_addRoutes {route : VhostRoute} {domains : List String} {t : RouteTable}
    {d : String} (hd : d ∈ domains) :
    ∃ r ∈ (t.addRoutes domains route).routesOf d, r.routeKey = route.routeKey := by
  rw [routesOf_addRoutes, if_pos hd]
  exact exists_mem_extend route _

/-- A domain has no route of a key unless `unregister_route` collects it. -/
theorem mem_domainsOf {t : RouteTable} {k d : String} {r : VhostRoute} (hr : r ∈ t.routesOf d)
    (hk : r.routeKey = k) : d ∈ t.domainsOf k := by
  have hd : d ∈ t.routes := by
    by_contra hd
    rw [routesOf, AList.lookup_eq_none.mpr hd] at hr
    cases hr
  refine List.mem_filter.mpr ⟨hd, List.any_eq_true.mpr ⟨r, hr, ?_⟩⟩
  simpa using hk

/-- `unregister_route` filters the routes of every domain. -/
theorem routesOf_unregisterRoute (t : RouteTable) (k d : String) :
    (t.unregisterRoute k).routesOf d = (t.routesOf d).filter (·.routeKey != k) := by
  rw [routesOf, unregisterRoute, lookup_foldl_dropRoute]
  split
  · exact getD_bind_keep k _
  · next hd => exact (filter_eq_self_of_forall_ne fun r hr hk ↦ hd (mem_domainsOf hr hk)).symm

end RouteTable

/-! ## The manager -/

/-- `VhostManager`. -/
structure VhostManager where
  subdomainHost : String
  vhostHttpPort : UInt16
  vhostHttpsPort : UInt16
  http : RouteTable
  https : RouteTable
  httpListenerStarted : Bool
  httpsListenerStarted : Bool

namespace VhostManager

/-- `VhostManager::new`. -/
def new (U : UnicodeData) (subdomainHost : String) (vhostHttpPort vhostHttpsPort : UInt16) :
    VhostManager where
  subdomainHost := toLowercase U (trimEndMatches (trim subdomainHost) '.')
  vhostHttpPort := vhostHttpPort
  vhostHttpsPort := vhostHttpsPort
  http := ⟨∅, ∅⟩
  https := ⟨∅, ∅⟩
  httpListenerStarted := false
  httpsListenerStarted := false

/-- The domains taken from the custom domains of a message. -/
def customDomains (U : UnicodeData) (msg : NewProxyMsg) : List String :=
  (msg.customDomains.map (normalizeHost U)).filter fun d ↦ !d.isEmpty

/-- `VhostManager::collect_domains`. -/
def collectDomains (U : UnicodeData) (vm : VhostManager) (msg : NewProxyMsg) :
    Result (List String) :=
  let finish (domains : List String) : Result (List String) :=
    let domains := dedupAdjacent (domains.insertionSort (· ≤ ·))
    if domains.isEmpty then
      .error (.proxy "http/https proxy requires custom_domains or subdomain")
    else .ok domains
  if isBlank msg.subdomain then finish (customDomains U msg)
  else if vm.subdomainHost.isEmpty then
    .error (.proxy "subdomain is set but server subdomain_host is empty")
  else
    finish (customDomains U msg ++
      [toLowercase U (trim msg.subdomain) ++ "." ++ vm.subdomainHost])

/-- The port of a scheme. -/
def port (vm : VhostManager) : Scheme → UInt16
  | .http => vm.vhostHttpPort
  | .https => vm.vhostHttpsPort

/-- The route table of a scheme. -/
def table (vm : VhostManager) : Scheme → RouteTable
  | .http => vm.http
  | .https => vm.https

/-- Replace the route table of a scheme. -/
def setTable (vm : VhostManager) : Scheme → RouteTable → VhostManager
  | .http, t => { vm with http := t }
  | .https, t => { vm with https := t }

/-- `ensure_http_listener_started` and `ensure_https_listener_started`: the
flag is set once; the task it starts is not part of the table. -/
def ensureListenerStarted (vm : VhostManager) : Scheme → VhostManager
  | .http => { vm with httpListenerStarted := true }
  | .https => { vm with httpsListenerStarted := true }

/-- The refusal when the port of a scheme is not configured. -/
def disabledText : Scheme → String
  | .http => "vhost_http_port is 0, HTTP vhost proxy is disabled"
  | .https => "vhost_https_port is 0, HTTPS vhost proxy is disabled"

/-- The common body of `register_http` and `register_https`. -/
def register (U : UnicodeData) (vm : VhostManager) (scheme : Scheme) (runId : String)
    (msg : NewProxyMsg) (tx : ReqSender) : Result (String × VhostManager) := do
  if vm.port scheme = 0 then
    throw (.proxy (disabledText scheme))
  let domains ← vm.collectDomains U msg
  let table := (vm.table scheme).addRoutes domains ⟨proxyKey runId msg.proxyName, msg.proxyName, tx⟩
  return (scheme.text ++ "://" ++ domains.headD "" ++ ":" ++ toString (vm.port scheme),
    (vm.setTable scheme table).ensureListenerStarted scheme)

/-- `VhostManager::register_http`. -/
def registerHttp (U : UnicodeData) (vm : VhostManager) (runId : String) (msg : NewProxyMsg)
    (tx : ReqSender) : Result (String × VhostManager) := vm.register U .http runId msg tx

/-- `VhostManager::register_https`. -/
def registerHttps (U : UnicodeData) (vm : VhostManager) (runId : String) (msg : NewProxyMsg)
    (tx : ReqSender) : Result (String × VhostManager) := vm.register U .https runId msg tx

/-- `VhostManager::unregister_route`. -/
def unregisterRoute (vm : VhostManager) (routeKey : String) (scheme : Scheme) : VhostManager :=
  vm.setTable scheme ((vm.table scheme).unregisterRoute routeKey)

/-! ### What the operations do to the tables -/

@[simp] theorem table_setTable (vm : VhostManager) (scheme : Scheme) (t : RouteTable) :
    (vm.setTable scheme t).table scheme = t := by cases scheme <;> rfl

theorem table_setTable_of_ne (vm : VhostManager) {scheme scheme' : Scheme} (t : RouteTable)
    (h : scheme' ≠ scheme) : (vm.setTable scheme t).table scheme' = vm.table scheme' := by
  cases scheme <;> cases scheme' <;> first | rfl | exact absurd rfl h

@[simp] theorem table_ensureListenerStarted (vm : VhostManager) (scheme scheme' : Scheme) :
    (vm.ensureListenerStarted scheme).table scheme' = vm.table scheme' := by
  cases scheme <;> cases scheme' <;> rfl

/-- A successful registration has collected domains and added its route to
each of them. -/
theorem register_eq_ok {U : UnicodeData} {vm vm' : VhostManager} {scheme : Scheme}
    {runId addr : String} {msg : NewProxyMsg} {tx : ReqSender}
    (h : vm.register U scheme runId msg tx = .ok (addr, vm')) :
    ∃ domains, vm.port scheme ≠ 0 ∧ vm.collectDomains U msg = .ok domains ∧
      addr = scheme.text ++ "://" ++ domains.headD "" ++ ":" ++ toString (vm.port scheme) ∧
      vm' = (vm.setTable scheme ((vm.table scheme).addRoutes domains
        ⟨proxyKey runId msg.proxyName, msg.proxyName, tx⟩)).ensureListenerStarted scheme := by
  simp only [register, bind, Except.bind] at h
  split at h
  · cases h
  · next hport =>
      cases hc : vm.collectDomains U msg with
      | error e => simp [hc] at h
      | ok domains =>
          simp only [hc, pure, Except.pure, Except.ok.injEq, Prod.mk.injEq] at h
          exact ⟨domains, hport, rfl, h.1.symm, h.2.symm⟩

/-- With a port and domains a registration succeeds. -/
theorem register_ok {U : UnicodeData} {vm : VhostManager} {scheme : Scheme} {msg : NewProxyMsg}
    {domains : List String} (hport : vm.port scheme ≠ 0)
    (hdomains : vm.collectDomains U msg = .ok domains) (runId : String) (tx : ReqSender) :
    ∃ addr vm', vm.register U scheme runId msg tx = .ok (addr, vm') := by
  simp only [register, if_neg hport, hdomains]
  exact ⟨_, _, rfl⟩

end VhostManager

end Arp.Server
