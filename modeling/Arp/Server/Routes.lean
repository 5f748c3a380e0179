import Arp.Lib.Machine
import Arp.Server.ProxyManager

/-!
# Route tables over whole runs

A domain is in a route table as long as it has a route, and has a round-robin counter as
long as it is in the table.  `register_http` and `register_https` append a route to each of
their domains that has none of its key yet; `unregister_route` takes the routes of a key
out everywhere, and domains out that are left without any.

The order of the routes of a domain is said in terms of the calls: `Book` notes down, for
each domain and key, the call since which the key has been registered for the domain.  It
reads the messages and the configuration, never the tables.
-/

namespace Arp.Server

open Arp.Common Arp.Lib Arp.Lib.Text

namespace RouteTable

/-! ## Well-formed tables -/

/-- The call since which a key has been registered for a domain, if it is. -/
abbrev Stamps := String → String → Option Nat

/-- Domains have routes and counters, no domain has two routes of a key, and the routes of
a domain are those of the keys registered for it, in the order of their registrations. -/
structure Sound (t : RouteTable) (since : Stamps) : Prop where
  nonempty : ∀ domain entry, t.routes.lookup domain = some entry → entry ≠ []
  counters : ∀ domain, domain ∈ t.rr ↔ domain ∈ t.routes
  distinct : ∀ domain, ((t.routesOf domain).map VhostRoute.routeKey).Nodup
  present : ∀ domain key,
    (∃ route ∈ t.routesOf domain, route.routeKey = key) ↔ (since domain key).isSome
  ordered : ∀ domain, (t.routesOf domain).Pairwise fun route route' ↦
    ∃ m n, since domain route.routeKey = some m ∧ since domain route'.routeKey = some n ∧ m < n

/-- The tables hold the same. -/
structure Same (t t' : RouteTable) : Prop where
  routes : ∀ domain, t.routes.lookup domain = t'.routes.lookup domain
  rr : ∀ domain, t.rr.lookup domain = t'.rr.lookup domain

/-- A registration of a key for domains, by the call with the given number. -/
def Stamps.register (since : Stamps) (clock : Nat) (domains : List String) (key : String) :
    Stamps := fun d k ↦
  if d ∈ domains ∧ k = key then some ((since d k).getD clock) else since d k

/-- A key is unregistered everywhere. -/
def Stamps.unregister (since : Stamps) (key : String) : Stamps := fun d k ↦
  if k = key then none else since d k

namespace Sound

variable {t : RouteTable} {since : Stamps}

/-- Every domain is gone through, as those that are not collected lose nothing. -/
theorem lookup_unregisterRoute (h : Sound t since) (routeKey d : String) :
    (t.unregisterRoute routeKey).routes.lookup d =
      (t.routes.lookup d).bind (keep routeKey) := by
  rw [RouteTable.unregisterRoute, lookup_foldl_dropRoute]
  split
  · rfl
  · next hnot =>
      cases hentry : t.routes.lookup d with
      | none => rfl
      | some entry =>
          rw [Option.bind_some, keep_of_forall_ne (h.nonempty d entry hentry)]
          intro r hr hkey
          refine hnot (mem_domainsOf ?_ hkey)
          rw [routesOf, hentry]
          exact hr

theorem lookup_rr_unregisterRoute (h : Sound t since) (routeKey d : String) :
    (t.unregisterRoute routeKey).rr.lookup d =
      if (t.unregisterRoute routeKey).routes.lookup d = none then none else t.rr.lookup d := by
  have hlookup := h.lookup_unregisterRoute routeKey d
  rw [RouteTable.unregisterRoute, lookup_foldl_dropRoute] at hlookup
  rw [RouteTable.unregisterRoute, lookup_rr_foldl_dropRoute, lookup_foldl_dropRoute, hlookup]
  by_cases hmem : d ∈ t.domainsOf routeKey
  · simp only [hmem, true_and]
  · rw [if_neg fun hboth ↦ hmem hboth.1]
    split
    · next hnone =>
        rw [if_neg hmem] at hlookup
        rw [← hlookup, AList.lookup_eq_none] at hnone
        rw [AList.lookup_eq_none, h.counters]
        exact hnone
    · rfl

/-- What a registration does for a domain: nothing, or its route is appended with the
number of the call. -/
theorem register_cases (h : Sound t since) (clock : Nat) (domains : List String)
    (route : VhostRoute) (d : String) :
    ((t.addRoutes domains route).routesOf d = t.routesOf d ∧
        since.register clock domains route.routeKey d = since d) ∨
      (∀ r ∈ t.routesOf d, r.routeKey ≠ route.routeKey) ∧
        (t.addRoutes domains route).routesOf d = t.routesOf d ++ [route] ∧
        since.register clock domains route.routeKey d =
          Function.update (since d) route.routeKey (some clock) := by
  rw [routesOf_addRoutes]
  unfold Stamps.register
  by_cases hd : d ∈ domains
  · simp only [hd, true_and, if_true]
    by_cases hkey : ∃ r ∈ t.routesOf d, r.routeKey = route.routeKey
    · left
      have hsome := (h.present d route.routeKey).mp hkey
      obtain ⟨r, hr, heq⟩ := hkey
      refine ⟨extend_of_mem hr heq, ?_⟩
      funext k
      split
      · next hk =>
          subst hk
          obtain ⟨n, hn⟩ := Option.isSome_iff_exists.mp hsome
          rw [hn, Option.getD_some]
      · rfl
    · right
      have hnone : since d route.routeKey = none := by
        rw [← Option.not_isSome_iff_eq_none, ← h.present]
        exact hkey
      have hne : ∀ r ∈ t.routesOf d, r.routeKey ≠ route.routeKey := fun r hr heq ↦ hkey ⟨r, hr, heq⟩
      refine ⟨hne, extend_of_forall_ne hne, ?_⟩
      funext k
      rw [Function.update_apply]
      split
      · next hk => rw [hk, hnone, Option.getD_none]
      · rfl
  · left
    simp only [hd, false_and, if_false, and_self]

/-- Registrations keep tables sound; the numbers of calls increase. -/
theorem addRoutes (h : Sound t since) {clock : Nat}
    (hclock : ∀ d k n, since d k = some n → n < clock) (domains : List String)
    (route : VhostRoute) :
    Sound (t.addRoutes domains route) (since.register clock domains route.routeKey) where
  nonempty d entry hentry := by
    rw [lookup_addRoutes] at hentry
    split at hentry
    · obtain rfl := Option.some.inj hentry
      obtain ⟨r, hr, -⟩ := exists_mem_extend route (t.routesOf d)
      exact List.ne_nil_of_mem hr
    · exact h.nonempty d entry hentry
  counters d := by
    rw [← AList.lookup_isSome, ← AList.lookup_isSome, lookup_addRoutes, lookup_rr_addRoutes]
    split
    · rfl
    · rw [AList.lookup_isSome, AList.lookup_isSome]
      exact h.counters d
  distinct d := by
    rcases h.register_cases clock domains route d with ⟨hsame, -⟩ | ⟨hne, hnew, -⟩
    · rw [hsame]
      exact h.distinct d
    · rw [hnew, List.map_append, List.nodup_append]
      refine ⟨h.distinct d, List.nodup_singleton _, ?_⟩
      intro k hk k' hk' heq
      obtain ⟨r, hr, rfl⟩ := List.mem_map.mp hk
      obtain rfl := List.mem_singleton.mp hk'
      exact hne r hr heq
  present d k := by
    rcases h.register_cases clock domains route d with ⟨hsame, hstamps⟩ | ⟨-, hnew, hstamps⟩
    · rw [hsame, hstamps]
      exact h.present d k
    · rw [hnew, hstamps, Function.update_apply]
      split
      · next hk =>
          subst hk
          exact iff_of_true ⟨route, List.mem_append_right _ (List.mem_singleton_self _), rfl⟩ rfl
      · next hk =>
          rw [← h.present]
          constructor
          · rintro ⟨r, hr, rfl⟩
            rcases List.mem_append.mp hr with hold | hlast
            · exact ⟨r, hold, rfl⟩
            · obtain rfl := List.mem_singleton.mp hlast
              exact absurd rfl hk
          · rintro ⟨r, hr, hkey⟩
            exact ⟨r, List.mem_append_left _ hr, hkey⟩
  ordered d := by
    rcases h.register_cases clock domains route d with ⟨hsame, hstamps⟩ | ⟨hne, hnew, hstamps⟩
    · rw [hsame, hstamps]
      exact h.ordered d
    · rw [hnew, hstamps, List.pairwise_append]
      refine ⟨?_, List.pairwise_singleton _ _, ?_⟩
      · refine (h.ordered d).imp_of_mem ?_
        intro r r' hr hr' hlt
        rw [Function.update_of_ne (hne r hr), Function.update_of_ne (hne r' hr')]
        exact hlt
      · intro r hr r' hr'
        obtain rfl := List.mem_singleton.mp hr'
        -- An old route was registered by an earlier call.
        obtain ⟨m, hm⟩ := Option.isSome_iff_exists.mp ((h.present d r.routeKey).mp ⟨r, hr, rfl⟩)
        rw [Function.update_of_ne (hne r hr), Function.update_self]
        exact ⟨m, clock, hm, rfl, hclock d r.routeKey m hm⟩

/-- Unregistering a key keeps tables sound. -/
theorem unregisterRoute (h : Sound t since) (routeKey : String) :
    Sound (t.unregisterRoute routeKey) (since.unregister routeKey) where
  nonempty d entry hentry := by
    rw [h.lookup_unregisterRoute, Option.bind_eq_some_iff] at hentry
    obtain ⟨old, -, hkept⟩ := hentry
    unfold keep at hkept
    split at hkept
    · cases hkept
    · next hne =>
        obtain rfl := Option.some.inj hkept
        rwa [List.isEmpty_iff] at hne
  counters d := by
    rw [← AList.lookup_isSome, h.lookup_rr_unregisterRoute, ← AList.lookup_isSome]
    split
    · next hnone =>
        rw [hnone]
        exact iff_of_false Bool.false_ne_true Bool.false_ne_true
    · next hsome =>
        -- A domain that is still there was there before.
        have hold : (t.routes.lookup d).isSome := by
          rw [h.lookup_unregisterRoute] at hsome
          cases hentry : t.routes.lookup d with
          | none =>
              rw [hentry] at hsome
              exact absurd rfl hsome
          | some entry => rfl
        rw [AList.lookup_isSome, h.counters, ← AList.lookup_isSome]
        exact iff_of_true hold (Option.isSome_iff_ne_none.mpr hsome)
  distinct d := by
    rw [routesOf_unregisterRoute]
    exact (h.distinct d).sublist (List.filter_sublist.map _)
  present d k := by
    rw [routesOf_unregisterRoute, Stamps.unregister]
    split
    · next hk =>
        refine iff_of_false ?_ (by simp)
        rintro ⟨r, hr, hkey⟩
        exact bne_iff_ne.mp (List.mem_filter.mp hr).2 (hkey.trans hk)
    · next hk =>
        rw [← h.present]
        constructor
        · rintro ⟨r, hr, hkey⟩
          exact ⟨r, (List.mem_filter.mp hr).1, hkey⟩
        · rintro ⟨r, hr, rfl⟩
          exact ⟨r, List.mem_filter.mpr ⟨hr, bne_iff_ne.mpr hk⟩, rfl⟩
  ordered d := by
    rw [routesOf_unregisterRoute]
    refine ((h.ordered d).filter _).imp_of_mem ?_
    intro r r' hr hr' hlt
    have hkey := bne_iff_ne.mp (List.mem_filter.mp hr).2
    have hkey' := bne_iff_ne.mp (List.mem_filter.mp hr').2
    rw [Stamps.unregister, if_neg hkey, Stamps.unregister, if_neg hkey']
    exact hlt

/-- A key that was not registered leaves no trace when it is unregistered again. -/
theorem unregister_addRoutes (h : Sound t since) {clock : Nat}
    (hclock : ∀ d k n, since d k = some n → n < clock) (domains : List String)
    {route : VhostRoute} (hfresh : ∀ d, ∀ r ∈ t.routesOf d, r.routeKey ≠ route.routeKey) :
    Same ((t.addRoutes domains route).unregisterRoute route.routeKey) t := by
  have hadded := h.addRoutes hclock domains route
  have hroutes : ∀ d, ((t.addRoutes domains route).unregisterRoute route.routeKey).routes.lookup d =
      t.routes.lookup d := by
    intro d
    rw [hadded.lookup_unregisterRoute, lookup_addRoutes]
    cases hentry : t.routes.lookup d with
    | none =>
        -- The domain came and goes with the route.
        split
        · have hnil : t.routesOf d = [] := by
            rw [routesOf, hentry]
            rfl
          rw [extend_of_forall_ne (hfresh d), hnil, List.nil_append, Option.bind_some, keep]
          simp
        · rfl
    | some entry =>
        have hrest : t.routesOf d = entry := by
          rw [routesOf, hentry]
          rfl
        have hne := hfresh d
        rw [hrest] at hne
        have hself := filter_eq_self_of_forall_ne hne
        have hentry' := h.nonempty d entry hentry
        split
        · rw [hrest, extend_of_forall_ne hne, Option.bind_some, keep, List.filter_append, hself]
          simp [hentry']
        · rw [Option.bind_some, keep_of_forall_ne hentry' hne]
  refine ⟨hroutes, fun d ↦ ?_⟩
  rw [hadded.lookup_rr_unregisterRoute, hroutes, lookup_rr_addRoutes]
  split
  · next hnone =>
      rw [AList.lookup_eq_none] at hnone
      rw [eq_comm, AList.lookup_eq_none, h.counters]
      exact hnone
  · next hsome =>
      -- The domain was in the table, so its counter was left alone.
      rw [AList.lookup_eq_none, not_not, ← h.counters, ← AList.lookup_isSome] at hsome
      obtain ⟨count, hcount⟩ := Option.isSome_iff_exists.mp hsome
      rw [hcount, Option.getD_some, ite_self]

end Sound

end RouteTable

/-! ## Calls of the manager -/

/-- The scheme of a proxy type, if the type has one. -/
def Scheme.ofText : String → Option Scheme
  | "http" => some .http
  | "https" => some .https
  | _ => none

@[simp] theorem Scheme.ofText_text (scheme : Scheme) : ofText scheme.text = some scheme := by
  cases scheme <;> rfl

theorem Scheme.eq_text_of_ofText {proxyType : String} {scheme : Scheme}
    (h : ofText proxyType = some scheme) : proxyType = scheme.text := by
  unfold ofText at h
  split at h
  · obtain rfl := Option.some.inj h
    rfl
  · obtain rfl := Option.some.inj h
    rfl
  · cases h

namespace VhostManager

/-- The calls that change the route tables. -/
inductive Call where
  /-- `register_http` or `register_https`. -/
  | register (scheme : Scheme) (runId : String) (msg : NewProxyMsg) (tx : ReqSender)
  | unregisterRoute (routeKey proxyType : String)

/-- The scheme whose table a call works on. -/
def Call.scheme : Call → Option Scheme
  | register scheme _ _ _ => some scheme
  | unregisterRoute _ proxyType => Scheme.ofText proxyType

/-- One call.  A registration that is refused changes nothing, and neither does a proxy
type without a table. -/
def apply (U : UnicodeData) (vm : VhostManager) : Call → VhostManager
  | .register scheme runId msg tx =>
    match vm.register U scheme runId msg tx with
    | .ok (_, vm') => vm'
    | .error _ => vm
  | .unregisterRoute routeKey proxyType =>
    match Scheme.ofText proxyType with
    | some scheme => vm.unregisterRoute routeKey scheme
    | none => vm

/-- The domains a message is registered for; none if it is refused. -/
def admitted (U : UnicodeData) (vm : VhostManager) (scheme : Scheme) (msg : NewProxyMsg) :
    List String :=
  match vm.collectDomains U msg with
  | .ok domains => if vm.port scheme = 0 then [] else domains
  | .error _ => []

section Tables

variable (U : UnicodeData) (vm : VhostManager)

/-- A registration adds its route to the domains it is admitted for. -/
theorem table_register (scheme : Scheme) (runId : String) (msg : NewProxyMsg) (tx : ReqSender) :
    (vm.apply U (.register scheme runId msg tx)).table scheme =
      (vm.table scheme).addRoutes (vm.admitted U scheme msg)
        ⟨proxyKey runId msg.proxyName, msg.proxyName, tx⟩ := by
  unfold apply
  dsimp only
  cases hr : vm.register U scheme runId msg tx with
  | ok result =>
      obtain ⟨addr, vm'⟩ := result
      obtain ⟨domains, hport, hdomains, -, rfl⟩ := register_eq_ok hr
      rw [table_ensureListenerStarted, table_setTable]
      simp only [admitted, hdomains, if_neg hport]
  | error e =>
      have hnone : vm.admitted U scheme msg = [] := by
        unfold admitted
        split
        · next domains hdomains =>
            apply if_pos
            by_contra hport
            obtain ⟨addr, vm', hok⟩ := register_ok hport hdomains runId tx
            rw [hr] at hok
            cases hok
        · rfl
      rw [hnone]
      rfl

theorem table_unregisterRoute (scheme : Scheme) (routeKey : String) :
    (vm.apply U (.unregisterRoute routeKey scheme.text)).table scheme =
      (vm.table scheme).unregisterRoute routeKey := by
  simp only [apply, Scheme.ofText_text, unregisterRoute, table_setTable]

/-- A call leaves the tables of other schemes alone. -/
theorem table_of_scheme_ne {call : Call} {scheme : Scheme} (hne : call.scheme ≠ some scheme) :
    (vm.apply U call).table scheme = vm.table scheme := by
  cases call with
  | register scheme' runId msg tx =>
      have hother : scheme ≠ scheme' := by
        rintro rfl
        exact hne rfl
      unfold apply
      dsimp only
      cases hr : vm.register U scheme' runId msg tx with
      | ok result =>
          obtain ⟨addr, vm'⟩ := result
          obtain ⟨domains, -, -, -, rfl⟩ := register_eq_ok hr
          rw [table_ensureListenerStarted, table_setTable_of_ne _ _ hother]
      | error e => rfl
  | unregisterRoute routeKey proxyType =>
      unfold apply
      dsimp only
      cases hscheme : Scheme.ofText proxyType with
      | none => rfl
      | some scheme' =>
          have hother : scheme ≠ scheme' := by
            rintro rfl
            exact hne hscheme
          exact table_setTable_of_ne _ _ hother

end Tables

/-! ## Whole runs -/

/-- The manager, with the number of calls so far and the call since which a key has been
registered for a domain of a scheme. -/
structure Book where
  manager : VhostManager
  clock : Nat
  since : Scheme → RouteTable.Stamps

namespace Book

/-- What a call notes down. -/
def note (U : UnicodeData) (b : Book) : Call → Scheme → RouteTable.Stamps
  | .register scheme runId msg _ =>
    Function.update b.since scheme ((b.since scheme).register b.clock
      (b.manager.admitted U scheme msg) (proxyKey runId msg.proxyName))
  | .unregisterRoute routeKey proxyType =>
    match Scheme.ofText proxyType with
    | some scheme => Function.update b.since scheme ((b.since scheme).unregister routeKey)
    | none => b.since

/-- One call. -/
def step (U : UnicodeData) (b : Book) (call : Call) : Option Book :=
  some ⟨b.manager.apply U call, b.clock + 1, b.note U call⟩

/-- A manager without routes. -/
def start (U : UnicodeData) (subdomainHost : String) (vhostHttpPort vhostHttpsPort : UInt16) :
    Book :=
  ⟨.new U subdomainHost vhostHttpPort vhostHttpsPort, 0, fun _ _ _ ↦ none⟩

/-- The tables are sound, and what is noted down has happened. -/
structure Sound (b : Book) : Prop where
  tables : ∀ scheme, (b.manager.table scheme).Sound (b.since scheme)
  past : ∀ scheme d k n, b.since scheme d k = some n → n < b.clock

theorem sound_start (U : UnicodeData) (subdomainHost : String)
    (vhostHttpPort vhostHttpsPort : UInt16) :
    (start U subdomainHost vhostHttpPort vhostHttpsPort).Sound where
  tables scheme := by
    have hempty : (start U subdomainHost vhostHttpPort vhostHttpsPort).manager.table scheme =
        ⟨∅, ∅⟩ := by
      cases scheme <;> rfl
    rw [hempty]
    refine ⟨?_, fun d ↦ Iff.rfl, fun d ↦ List.nodup_nil, fun d k ↦ ?_, fun d ↦ .nil⟩
    · intro d entry hentry
      cases hentry
    · refine iff_of_false ?_ Bool.false_ne_true
      rintro ⟨r, hr, -⟩
      cases hr
  past scheme d k n hn := by cases hn

/-- A call concerns one scheme, and what it notes down for a domain and a key is its own
number or was noted down before. -/
theorem past_update {since : Scheme → RouteTable.Stamps} {clock : Nat} {scheme : Scheme}
    {stamps : RouteTable.Stamps} (h : ∀ scheme d k n, since scheme d k = some n → n < clock)
    (hstamps : ∀ d k n, stamps d k = some n → n = clock ∨ since scheme d k = some n) :
    ∀ scheme' d k n, Function.update since scheme stamps scheme' d k = some n → n < clock + 1 := by
  intro scheme' d k n hn
  by_cases heq : scheme' = scheme
  · subst heq
    rw [Function.update_self] at hn
    rcases hstamps d k n hn with rfl | hold
    · exact Nat.lt_succ_self n
    · exact Nat.lt_succ_of_lt (h scheme' d k n hold)
  · rw [Function.update_of_ne heq] at hn
    exact Nat.lt_succ_of_lt (h scheme' d k n hn)

/-- A call of a scheme keeps all tables sound if it keeps its own sound. -/
theorem Sound.tables_update (U : UnicodeData) {b : Book} (h : b.Sound) (call : Call)
    {scheme : Scheme} (hcall : call.scheme = some scheme) {stamps : RouteTable.Stamps}
    (hown : ((b.manager.apply U call).table scheme).Sound stamps) (scheme' : Scheme) :
    ((b.manager.apply U call).table scheme').Sound
      (Function.update b.since scheme stamps scheme') := by
  by_cases heq : scheme' = scheme
  · subst heq
    rw [Function.update_self]
    exact hown
  · rw [Function.update_of_ne heq, table_of_scheme_ne]
    · exact h.tables scheme'
    · rw [hcall]
      exact fun hsome ↦ heq (Option.some.inj hsome).symm

theorem sound_step {U : UnicodeData} (b : Book) (call : Call) (b' : Book) (h : b.Sound)
    (hstep : b.step U call = some b') : b'.Sound := by
  obtain rfl := Option.some.inj hstep
  cases call with
  | register scheme runId msg tx =>
      constructor
      · refine h.tables_update U (.register scheme runId msg tx) rfl ?_
        rw [table_register]
        exact (h.tables scheme).addRoutes (h.past scheme) _ _
      · refine past_update h.past ?_
        intro d k n hn
        unfold RouteTable.Stamps.register at hn
        split at hn
        · cases hold : b.since scheme d k with
          | none =>
              rw [hold, Option.getD_none] at hn
              exact .inl (Option.some.inj hn).symm
          | some m =>
              rw [hold, Option.getD_some] at hn
              exact .inr hn
        · exact .inr hn
  | unregisterRoute routeKey proxyType =>
      unfold note
      dsimp only
      cases hscheme : Scheme.ofText proxyType with
      | none =>
          refine ⟨fun scheme ↦ ?_, fun scheme d k n hn ↦ ?_⟩
          · rw [table_of_scheme_ne]
            · exact h.tables scheme
            · rw [Call.scheme, hscheme]
              exact (Option.some_ne_none scheme).symm
          · exact Nat.lt_succ_of_lt (h.past scheme d k n hn)
      | some scheme =>
          obtain rfl : proxyType = scheme.text := Scheme.eq_text_of_ofText hscheme
          constructor
          · refine h.tables_update U (.unregisterRoute routeKey scheme.text) hscheme ?_
            rw [table_unregisterRoute]
            exact (h.tables scheme).unregisterRoute routeKey
          · refine past_update h.past ?_
            intro d k n hn
            unfold RouteTable.Stamps.unregister at hn
            split at hn
            · cases hn
            · exact .inr hn

/-- After every sequence of calls: the tables are sound; a call leaves the table of the
other scheme alone; unregistering a key takes its routes out of its table and leaves the
other routes of every domain as they were; and registering a key that has no route and
unregistering it again restores the table. -/
theorem route_tables_sound {U : UnicodeData} {subdomainHost : String}
    {vhostHttpPort vhostHttpsPort : UInt16} {calls : List Call} {b : Book}
    (hrun : Machine.run (step U) (start U subdomainHost vhostHttpPort vhostHttpsPort) calls =
      some b) :
    (∀ scheme, (b.manager.table scheme).Sound (b.since scheme)) ∧
      (∀ call scheme, call.scheme ≠ some scheme →
        (b.manager.apply U call).table scheme = b.manager.table scheme) ∧
      (∀ routeKey (scheme : Scheme) domain,
        ((b.manager.apply U (.unregisterRoute routeKey scheme.text)).table scheme).routesOf domain =
          ((b.manager.table scheme).routesOf domain).filter (·.routeKey != routeKey)) ∧
      ∀ (scheme : Scheme) runId msg tx,
        (∀ domain, ∀ route ∈ (b.manager.table scheme).routesOf domain,
          route.routeKey ≠ proxyKey runId msg.proxyName) →
        (((b.manager.apply U (.register scheme runId msg tx)).apply U
          (.unregisterRoute (proxyKey runId msg.proxyName) scheme.text)).table scheme).Same
            (b.manager.table scheme) := by
  have h : b.Sound := Machine.run_invariant sound_step hrun
    (sound_start U subdomainHost vhostHttpPort vhostHttpsPort)
  refine ⟨h.tables, fun call scheme hne ↦ table_of_scheme_ne U b.manager hne, ?_, ?_⟩
  · intro routeKey scheme domain
    rw [table_unregisterRoute, RouteTable.routesOf_unregisterRoute]
  · intro scheme runId msg tx hfresh
    rw [table_unregisterRoute, table_register]
    exact (h.tables scheme).unregister_addRoutes (h.past scheme) _ hfresh

/-- Two proxies share a domain over HTTP and one of them is at HTTPS too; the first is
registered once more, and then leaves HTTP. -/
def sharedDomain : List Call :=
  let site := ProxyManager.message "site" "http" 0 "" .null
  [.register .http "run-1" site 1, .register .http "run-2" site 2,
    .register .https "run-1" site 1, .register .http "run-1" site 3,
    .unregisterRoute "run-1:site" "http", .register .http "run-1" site 4]

/-- The first proxy comes back after the second. -/
theorem route_tables_sound_sharedDomain :
    ∃ b, Machine.run (step .ascii) (start .ascii "" 80 443) sharedDomain = some b ∧
      (b.manager.table .http).routesOf "www.example.com" =
        [⟨"run-2:site", "site", 2⟩, ⟨"run-1:site", "site", 4⟩] ∧
      (b.manager.table .https).routesOf "www.example.com" = [⟨"run-1:site", "site", 1⟩] ∧
      (b.manager.table .http).Sound (b.since .http) := by
  refine Machine.exists_run (fun b ↦ ((b.manager.table .http).routesOf "www.example.com",
      (b.manager.table .https).routesOf "www.example.com"))
    ([⟨"run-2:site", "site", 2⟩, ⟨"run-1:site", "site", 4⟩], [⟨"run-1:site", "site", 1⟩])
    (by decide) fun b hrun hroutes ↦ ?_
  obtain ⟨hhttp, hhttps⟩ := Prod.mk.inj hroutes
  exact ⟨hhttp, hhttps, (route_tables_sound hrun).1 .http⟩

end Book

end VhostManager

end Arp.Server
