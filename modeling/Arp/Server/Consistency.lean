import Arp.Lib.Ownership
import Arp.Lib.Machine
import Arp.Server.ProxyManager

/-!
# Consistency of the proxy manager

The manager spreads a registered proxy over several tables, and the `close`
methods find its share again by composite key, bare name, route key, port or
group.  This file says what the tables have to do with each other when the calls
run one at a time, and proves that they keep it up.

The invariant comes in parts that look at few tables each: records describe
proxies, a registry lists the records of its type, routes belong to records of
their scheme, ports are divided among their holders, and groups list their
members.  Each part has a rule for entering and a rule for removing a proxy; the
proofs about `register_proxy` and `close` only put the rules together.
-/

namespace Arp.Server

open Arp.Common Arp.Lib Arp.Lib.Text

/-! ## Keys -/

theorem toList_proxyKey (runId proxyName : String) :
    (proxyKey runId proxyName).toList = runId.toList ++ ':' :: proxyName.toList := by
  simp [proxyKey]

/-- No character of a run id is a colon. -/
theorem ne_colon_of_mem (r : RunId) : ∀ c ∈ r.val.toList, decide (c ≠ ':') = true := fun _ hc ↦
  decide_eq_true fun h ↦ r.property (h ▸ hc)

/-- The run id of a key is what stands before the first colon. -/
theorem ownerOf_proxyKey (r : RunId) (n : String) :
    ProxyManager.ownerOf (proxyKey r.val n) = r.val := by
  rw [ProxyManager.ownerOf, toList_proxyKey, List.takeWhile_append_of_pos (ne_colon_of_mem r)]
  simp

/-- A key tells its run and its name, as run ids contain no colon. -/
theorem proxyKey_inj {r r' : RunId} {n n' : String} :
    proxyKey r.val n = proxyKey r'.val n' ↔ r = r' ∧ n = n' := by
  constructor
  · intro h
    have hlist := congrArg String.toList h
    rw [toList_proxyKey, toList_proxyKey] at hlist
    obtain ⟨hr, hn⟩ := append_cons_inj r.property r'.property hlist
    exact ⟨Subtype.ext (String.toList_inj.mp hr), String.toList_inj.mp hn⟩
  · rintro ⟨rfl, rfl⟩
    rfl

/-- The keys of a run are those that start with its id and a colon. -/
theorem startsWith_run_iff {key : String} {r : RunId} :
    startsWith key (r.val ++ ":") = true ↔ ∃ n, key = proxyKey r.val n := by
  rw [startsWith_iff]
  constructor
  · rintro ⟨t, ht⟩
    refine ⟨.ofList t, String.toList_inj.mp ?_⟩
    simpa [proxyKey] using ht.symm
  · rintro ⟨n, rfl⟩
    exact ⟨n.toList, by simp [toList_proxyKey]⟩

namespace ProxyManager

/-! ## Records -/

/-- There is a record of this type under the key. -/
def HasType (records : Table String ProxyRecord) (key type : String) : Prop :=
  ∃ record, records.lookup key = some record ∧ record.proxyType = type

section HasType

variable {records : Table String ProxyRecord} {key key' type : String} {record : ProxyRecord}

theorem hasType_insert :
    HasType (records.insert key record) key' type ↔
      if key' = key then record.proxyType = type else HasType records key' type := by
  unfold HasType
  rw [Table.lookup_insert_ite]
  split
  · simp
  · rfl

theorem hasType_erase :
    HasType (records.erase key) key' type ↔ key' ≠ key ∧ HasType records key' type := by
  unfold HasType
  rw [Table.lookup_erase_ite]
  split
  · next h => simp [h]
  · next h => simp [h]

theorem not_hasType_of_not_mem (hkey : key ∉ records) : ¬HasType records key type := by
  rintro ⟨record, hrecord, -⟩
  exact hkey (Table.mem_of_lookup hrecord)

/-- Entering a record under a fresh key keeps the others. -/
theorem HasType.insert (h : HasType records key' type) (hkey : key ∉ records) :
    HasType (records.insert key record) key' type := by
  rw [hasType_insert, if_neg]
  · exact h
  · rintro rfl
    exact not_hasType_of_not_mem hkey h

end HasType

/-- The record of a key describes the object of the key. -/
def Describes (key : String) (proxy : ProxyObject) (record : ProxyRecord) : Prop :=
  key = proxyKey record.runId.val record.proxyName ∧
    match proxy with
    | .tcp _ => record.proxyType = "tcp"
    | .udp _ => record.proxyType = "udp" ∨ record.proxyType = "sudp"
    | .grouped member => record.proxyType = "tcp" ∧ member.backendId = key
    | .stcp name => record.proxyType = "stcp" ∧ name = record.proxyName
    | .vhost scheme routeKey => record.proxyType = scheme.text ∧ routeKey = key
    | .xtcp name _ => record.proxyType = "xtcp" ∧ name = record.proxyName

/-! ## Registries -/

/-- A registry lists the records of its type: it maps a name to a run exactly if
the run has registered that name with this type. -/
def RegistryOk {ρ : Type} (owner : ρ → RunId) (registry : Table String ρ)
    (records : Table String ProxyRecord) (type : String) : Prop :=
  ∀ name runId, (∃ info, registry.lookup name = some info ∧ owner info = runId) ↔
    HasType records (proxyKey runId.val name) type

namespace RegistryOk

variable {ρ : Type} {owner : ρ → RunId} {registry : Table String ρ}
  {records : Table String ProxyRecord} {type key name : String} {record : ProxyRecord}

/-- Entering a record of another type. -/
theorem enter_other (h : RegistryOk owner registry records type) (hkey : key ∉ records)
    (htype : record.proxyType ≠ type) :
    RegistryOk owner registry (records.insert key record) type := by
  intro name runId
  rw [h, hasType_insert]
  split
  · next heq =>
      rw [heq]
      exact iff_of_false (not_hasType_of_not_mem hkey) htype
  · rfl

/-- Entering a record of this type together with its entry. -/
theorem enter_same (h : RegistryOk owner registry records type) {info : ρ}
    (hname : name ∉ registry) (htype : record.proxyType = type) :
    RegistryOk owner (registry.insert name info)
      (records.insert (proxyKey (owner info).val name) record) type := by
  intro name' runId
  rw [hasType_insert, Table.lookup_insert_ite]
  by_cases hn : name' = name
  · subst hn
    rw [if_pos rfl]
    -- The name was free, so no other run has registered it with this type.
    have hfree : ¬HasType records (proxyKey runId.val name') type := fun ht ↦ by
      obtain ⟨i, hi, -⟩ := (h name' runId).mpr ht
      exact hname (Table.mem_of_lookup hi)
    by_cases hr : owner info = runId
    · subst hr
      simp [htype]
    · have hne : proxyKey runId.val name' ≠ proxyKey (owner info).val name' := fun heq ↦
        hr (proxyKey_inj.mp heq).1.symm
      rw [if_neg hne]
      refine iff_of_false ?_ hfree
      rintro ⟨i, hi, ho⟩
      exact hr (Option.some.inj hi ▸ ho)
  · have hne : proxyKey runId.val name' ≠ proxyKey (owner info).val name := fun heq ↦
      hn (proxyKey_inj.mp heq).2
    rw [if_neg hn, if_neg hne]
    exact h name' runId

/-- Removing a record of another type. -/
theorem remove_other (h : RegistryOk owner registry records type)
    (htype : ¬HasType records key type) :
    RegistryOk owner registry (records.erase key) type := by
  intro name runId
  rw [h, hasType_erase]
  refine ⟨fun ht ↦ ⟨?_, ht⟩, fun ht ↦ ht.2⟩
  rintro rfl
  exact htype ht

/-- Removing a record of this type together with its entry. -/
theorem remove_same (h : RegistryOk owner registry records type) {runId : RunId}
    (htype : HasType records (proxyKey runId.val name) type) :
    RegistryOk owner (registry.erase name) (records.erase (proxyKey runId.val name)) type := by
  obtain ⟨info, hinfo, rfl⟩ := (h name runId).mpr htype
  intro name' runId'
  rw [hasType_erase, Table.lookup_erase_ite]
  by_cases hn : name' = name
  · subst hn
    rw [if_pos rfl]
    refine iff_of_false (by simp) ?_
    rintro ⟨hne, ht⟩
    obtain ⟨info', hinfo', rfl⟩ := (h name' runId').mpr ht
    rw [hinfo] at hinfo'
    obtain rfl := Option.some.inj hinfo'
    exact hne rfl
  · rw [if_neg hn, h name' runId']
    exact ⟨fun ht ↦ ⟨fun heq ↦ hn (proxyKey_inj.mp heq).2, ht⟩, fun ht ↦ ht.2⟩

end RegistryOk

/-! ## Routes -/

/-- Every route belongs to a record of the type. -/
def RoutesOk (table : RouteTable) (records : Table String ProxyRecord) (type : String) : Prop :=
  ∀ domain, ∀ route ∈ table.routesOf domain, HasType records route.routeKey type

namespace RoutesOk

variable {table : RouteTable} {records : Table String ProxyRecord} {type key : String}
  {record : ProxyRecord}

/-- Entering a record adds no route. -/
theorem enter (h : RoutesOk table records type) (hkey : key ∉ records) :
    RoutesOk table (records.insert key record) type :=
  fun domain route hroute ↦ (h domain route hroute).insert hkey

/-- Entering a record of the type together with its routes. -/
theorem enter_routes (h : RoutesOk table records type) (hkey : key ∉ records)
    (htype : record.proxyType = type) (domains : List String) {route : VhostRoute}
    (hroute : route.routeKey = key) :
    RoutesOk (table.addRoutes domains route) (records.insert key record) type := by
  intro domain r hr
  rcases RouteTable.mem_routesOf_addRoutes hr with hr | ⟨rfl, -⟩
  · exact (h domain r hr).insert hkey
  · rw [hroute, hasType_insert, if_pos rfl]
    exact htype

/-- Removing a record of another type. -/
theorem remove_other (h : RoutesOk table records type) (htype : ¬HasType records key type) :
    RoutesOk table (records.erase key) type := by
  intro domain route hroute
  refine hasType_erase.mpr ⟨?_, h domain route hroute⟩
  rintro rfl
  exact htype (h domain route hroute)

/-- Removing a record together with its routes. -/
theorem remove_routes (h : RoutesOk table records type) :
    RoutesOk (table.unregisterRoute key) (records.erase key) type := by
  intro domain route hroute
  rw [RouteTable.routesOf_unregisterRoute, List.mem_filter] at hroute
  exact hasType_erase.mpr ⟨by simpa using hroute.2, h domain route hroute.1⟩

end RoutesOk

/-! ## Ports -/

/-- Who can hold a port: a proxy by itself, or a group. -/
inductive Holder where
  | proxy (key : String)
  | group (groupId : String)
deriving DecidableEq

/-- The group of an id. -/
def findGroup (tcpGroups : Table String Nat) (groups : List GroupedTcpProxy) (groupId : String) :
    Option GroupedTcpProxy :=
  (tcpGroups.lookup groupId).bind fun ref ↦ groups[ref]?

/-- The port of a holder. -/
def holderPort (proxies : Table String ProxyObject) (tcpGroups : Table String Nat)
    (groups : List GroupedTcpProxy) : Holder → Option UInt16
  | .proxy key => (proxies.lookup key).bind ProxyObject.port
  | .group groupId => (findGroup tcpGroups groups groupId).map GroupedTcpProxy.remotePort

section Holders

variable {proxies : Table String ProxyObject} {tcpGroups : Table String Nat}
  {groups groups' : List GroupedTcpProxy} {key : String} {proxy : ProxyObject}

/-- Entering a proxy under a fresh key gives the key the port of the proxy. -/
theorem holderPort_insert :
    holderPort (proxies.insert key proxy) tcpGroups groups =
      Function.update (holderPort proxies tcpGroups groups) (.proxy key) proxy.port := by
  funext h
  cases h with
  | group groupId => rw [Function.update_of_ne (by simp)]; rfl
  | proxy key' =>
      simp only [holderPort, Table.lookup_insert_ite]
      split
      · next heq => rw [heq, Function.update_self]; rfl
      · next hne => rw [Function.update_of_ne (by simpa using hne)]; rfl

/-- Removing a proxy takes its port from the key. -/
theorem holderPort_erase :
    holderPort (proxies.erase key) tcpGroups groups =
      Function.update (holderPort proxies tcpGroups groups) (.proxy key) none := by
  funext h
  cases h with
  | group groupId => rw [Function.update_of_ne (by simp)]; rfl
  | proxy key' =>
      simp only [holderPort, Table.lookup_erase_ite]
      split
      · next heq => rw [heq, Function.update_self]; rfl
      · next hne => rw [Function.update_of_ne (by simpa using hne)]; rfl

/-- The holders do not notice a change of groups that keeps the ports. -/
theorem holderPort_congr
    (h : ∀ ref : Nat, groups'[ref]?.map GroupedTcpProxy.remotePort =
      groups[ref]?.map GroupedTcpProxy.remotePort) :
    holderPort proxies tcpGroups groups' = holderPort proxies tcpGroups groups := by
  funext x
  cases x with
  | proxy key => rfl
  | group groupId =>
      simp only [holderPort, findGroup]
      cases tcpGroups.lookup groupId with
      | none => rfl
      | some ref => exact h ref

end Holders

/-! ## Groups -/

/-- The group table holds groups with members, and a group lists the keys of its
members; `member` gives the group of a key. -/
structure GroupsOk (tcpGroups : Table String Nat) (groups : List GroupedTcpProxy)
    (member : String → Option Nat) : Prop where
  resolve : ∀ groupId ref, tcpGroups.lookup groupId = some ref →
    ∃ g, groups[ref]? = some g ∧ g.groupId = groupId ∧ g.backends ≠ [] ∧
      ∀ key, key ∈ g.backendIds ↔ member key = some ref
  listed : ∀ key ref, member key = some ref → ∃ groupId, tcpGroups.lookup groupId = some ref

theorem backendIds_addBackend {g : GroupedTcpProxy} {b : GroupedBackend}
    (h : b.backendId ∉ g.backendIds) :
    (g.addBackend b).backendIds = g.backendIds ++ [b.backendId] := by
  have hany : ¬g.backends.any (·.backendId == b.backendId) = true := by
    simpa [GroupedTcpProxy.backendIds] using h
  simp [GroupedTcpProxy.addBackend, GroupedTcpProxy.backendIds, hany]

theorem groupId_addBackend (g : GroupedTcpProxy) (b : GroupedBackend) :
    (g.addBackend b).groupId = g.groupId := by
  unfold GroupedTcpProxy.addBackend
  split <;> rfl

theorem remotePort_addBackend (g : GroupedTcpProxy) (b : GroupedBackend) :
    (g.addBackend b).remotePort = g.remotePort := by
  unfold GroupedTcpProxy.addBackend
  split <;> rfl

theorem mem_backendIds_dropBackend {g : GroupedTcpProxy} {key k : String} :
    k ∈ (g.dropBackend key).backendIds ↔ k ∈ g.backendIds ∧ k ≠ key := by
  simp only [GroupedTcpProxy.backendIds, GroupedTcpProxy.dropBackend, List.mem_map,
    List.mem_filter, bne_iff_ne, ne_eq]
  constructor
  · rintro ⟨b, ⟨hb, hne⟩, rfl⟩
    exact ⟨⟨b, hb, rfl⟩, hne⟩
  · rintro ⟨⟨b, hb, rfl⟩, hne⟩
    exact ⟨b, ⟨hb, hne⟩, rfl⟩

theorem backends_ne_nil {g : GroupedTcpProxy} {key : String} (h : key ∈ g.backendIds) :
    g.backends ≠ [] := by
  intro hnil
  rw [GroupedTcpProxy.backendIds, hnil] at h
  cases h

namespace GroupsOk

variable {tcpGroups : Table String Nat} {groups : List GroupedTcpProxy}
  {member : String → Option Nat} {groupId key : String} {ref : Nat} {g : GroupedTcpProxy}
  {b : GroupedBackend}

/-- The group of a member is in the table under its own id, and lists the member. -/
theorem of_member (h : GroupsOk tcpGroups groups member) (hkey : member key = some ref) :
    ∃ g, groups[ref]? = some g ∧ tcpGroups.lookup g.groupId = some ref ∧ key ∈ g.backendIds := by
  obtain ⟨groupId, hgroup⟩ := h.listed key ref hkey
  obtain ⟨g, hg, rfl, -, hmem⟩ := h.resolve groupId ref hgroup
  exact ⟨g, hg, hgroup, (hmem key).mpr hkey⟩

/-- References in the table resolve. -/
theorem lt_length (h : GroupsOk tcpGroups groups member)
    (hgroup : tcpGroups.lookup groupId = some ref) : ref < groups.length := by
  obtain ⟨g, hg, -⟩ := h.resolve groupId ref hgroup
  exact (List.getElem?_eq_some_iff.mp hg).1

/-- Different ids have different groups. -/
theorem groupId_eq (h : GroupsOk tcpGroups groups member) (hg : groups[ref]? = some g)
    (hgroup : tcpGroups.lookup groupId = some ref) : g.groupId = groupId := by
  obtain ⟨g', hg', hid, -⟩ := h.resolve groupId ref hgroup
  rw [hg] at hg'
  rw [Option.some.inj hg', hid]

/-- A new member joins a group. -/
theorem join (h : GroupsOk tcpGroups groups member)
    (hgroup : tcpGroups.lookup groupId = some ref) (hkey : member key = none)
    (hb : b.backendId = key) :
    GroupsOk tcpGroups (groups.modify ref fun g ↦ (g.addBackend b).ensureStarted)
      (Function.update member key (some ref)) where
  resolve groupId' ref' hgroup' := by
    obtain ⟨g, hg, hid, hne, hmem⟩ := h.resolve groupId' ref' hgroup'
    by_cases hr : ref = ref'
    · subst hr
      have hfresh : b.backendId ∉ g.backendIds := by
        rw [hb, hmem, hkey]
        simp
      have hids : (g.addBackend b).ensureStarted.backendIds = g.backendIds ++ [key] := by
        rw [← hb]
        exact backendIds_addBackend hfresh
      refine ⟨(g.addBackend b).ensureStarted, by simp [hg], ?_, ?_, ?_⟩
      · rw [← hid]
        exact groupId_addBackend g b
      · exact backends_ne_nil (show key ∈ _ by simp [hids])
      · intro k
        rw [hids, List.mem_append, List.mem_singleton, hmem]
        by_cases hk : k = key
        · simp [hk]
        · simp [hk]
    · refine ⟨g, by simp [hr, hg], hid, hne, fun k ↦ ?_⟩
      rw [hmem]
      by_cases hk : k = key
      · simp [hk, hkey, hr]
      · simp [hk]
  listed k r hk := by
    by_cases hkk : k = key
    · rw [hkk, Function.update_self] at hk
      exact ⟨groupId, hgroup.trans hk⟩
    · rw [Function.update_of_ne hkk] at hk
      exact h.listed k r hk

/-- A new member founds a group. -/
theorem found (h : GroupsOk tcpGroups groups member) (hkey : member key = none)
    (hg : g.groupId = groupId) (hgroup : tcpGroups.lookup groupId = none)
    (hids : g.backendIds = [key]) :
    GroupsOk (tcpGroups.insert groupId groups.length) (groups ++ [g])
      (Function.update member key (some groups.length)) where
  resolve groupId' ref' hgroup' := by
    rw [Table.lookup_insert_ite] at hgroup'
    split at hgroup'
    · next hid =>
        obtain rfl := Option.some.inj hgroup'
        refine ⟨g, by simp, hg.trans hid.symm, backends_ne_nil (show key ∈ _ by simp [hids]), ?_⟩
        intro k
        rw [hids, List.mem_singleton]
        by_cases hk : k = key
        · simp [hk]
        · rw [Function.update_of_ne hk]
          refine iff_of_false hk fun hm ↦ ?_
          -- No member refers beyond the end of the list.
          obtain ⟨gid, hgid⟩ := h.listed k _ hm
          exact absurd (h.lt_length hgid) (Nat.lt_irrefl _)
    · next hid =>
        obtain ⟨g', hg', hid', hne, hmem⟩ := h.resolve groupId' ref' hgroup'
        have hlt := h.lt_length hgroup'
        refine ⟨g', by rw [List.getElem?_append_left hlt, hg'], hid', hne, fun k ↦ ?_⟩
        rw [hmem]
        by_cases hk : k = key
        · simp [hk, hkey, hlt.ne']
        · simp [hk]
  listed k r hk := by
    by_cases hkk : k = key
    · rw [hkk, Function.update_self] at hk
      exact ⟨groupId, by rw [Table.lookup_insert_ite, if_pos rfl, hk]⟩
    · rw [Function.update_of_ne hkk] at hk
      obtain ⟨gid, hgid⟩ := h.listed k r hk
      refine ⟨gid, ?_⟩
      rw [Table.lookup_insert_ite, if_neg, hgid]
      rintro rfl
      rw [hgroup] at hgid
      cases hgid

/-- A member leaves a group in which others stay. -/
theorem leave (h : GroupsOk tcpGroups groups member) (hkey : member key = some ref)
    (hg : groups[ref]? = some g) (hrest : (g.dropBackend key).backends ≠ []) :
    GroupsOk tcpGroups (groups.set ref (g.dropBackend key)) (Function.update member key none) where
  resolve groupId' ref' hgroup' := by
    obtain ⟨g', hg', hid, hne, hmem⟩ := h.resolve groupId' ref' hgroup'
    by_cases hr : ref = ref'
    · subst hr
      rw [hg] at hg'
      obtain rfl := Option.some.inj hg'
      have hlt := (List.getElem?_eq_some_iff.mp hg).1
      refine ⟨g.dropBackend key, by simp [hlt], hid, hrest, fun k ↦ ?_⟩
      rw [mem_backendIds_dropBackend, hmem]
      by_cases hk : k = key
      · simp [hk]
      · simp [hk]
    · refine ⟨g', by simp [hr, hg'], hid, hne, fun k ↦ ?_⟩
      rw [hmem]
      by_cases hk : k = key
      · simp [hk, hkey, hr]
      · simp [hk]
  listed k r hk := by
    by_cases hkk : k = key
    · rw [hkk, Function.update_self] at hk
      cases hk
    · rw [Function.update_of_ne hkk] at hk
      exact h.listed k r hk

/-- The last member leaves a group, and the group leaves the table. -/
theorem leave_last (h : GroupsOk tcpGroups groups member) (hkey : member key = some ref)
    (hg : groups[ref]? = some g) (hrest : (g.dropBackend key).backends = []) :
    GroupsOk (tcpGroups.erase g.groupId) (groups.set ref (g.dropBackend key))
      (Function.update member key none) := by
  obtain ⟨g', hg', hown, -⟩ := h.of_member hkey
  rw [hg] at hg'
  obtain rfl := Option.some.inj hg'
  refine ⟨fun groupId' ref' hgroup' ↦ ?_, fun k r hk ↦ ?_⟩
  · rw [Table.lookup_erase_ite] at hgroup'
    split at hgroup'
    · cases hgroup'
    · next hid' =>
        obtain ⟨g', hg', hid, hne, hmem⟩ := h.resolve groupId' ref' hgroup'
        have hr : ref ≠ ref' := by
          rintro rfl
          exact hid' (h.groupId_eq hg hgroup').symm
        refine ⟨g', by simp [hr, hg'], hid, hne, fun k ↦ ?_⟩
        rw [hmem]
        by_cases hk : k = key
        · simp [hk, hkey, hr]
        · simp [hk]
  · by_cases hkk : k = key
    · rw [hkk, Function.update_self] at hk
      cases hk
    · rw [Function.update_of_ne hkk] at hk
      obtain ⟨gid, hgid⟩ := h.listed k r hk
      refine ⟨gid, ?_⟩
      rw [Table.lookup_erase_ite, if_neg, hgid]
      rintro rfl
      -- Another member of the same group would still be listed.
      rw [hown] at hgid
      obtain rfl := Option.some.inj hgid
      obtain ⟨g', hg', -, hin⟩ := h.of_member hk
      rw [hg] at hg'
      obtain rfl := Option.some.inj hg'
      exact backends_ne_nil (mem_backendIds_dropBackend.mpr ⟨hin, hkk⟩) hrest

/-- A member that joins changes no port. -/
theorem holderPort_join (proxies : Table String ProxyObject) (tcpGroups : Table String Nat)
    (groups : List GroupedTcpProxy) (ref : Nat) (b : GroupedBackend) :
    holderPort proxies tcpGroups
        (groups.modify ref fun g ↦ (g.addBackend b).ensureStarted) =
      holderPort proxies tcpGroups groups := by
  refine holderPort_congr fun r ↦ ?_
  rw [List.getElem?_modify]
  cases groups[r]? with
  | none => rfl
  | some g =>
      by_cases hr : ref = r
      · simpa [hr, GroupedTcpProxy.ensureStarted] using remotePort_addBackend g b
      · simp [hr]

/-- A founded group holds its port. -/
theorem holderPort_found (h : GroupsOk tcpGroups groups member)
    (proxies : Table String ProxyObject) (groupId : String) (g : GroupedTcpProxy) :
    holderPort proxies (tcpGroups.insert groupId groups.length) (groups ++ [g]) =
      Function.update (holderPort proxies tcpGroups groups) (.group groupId)
        (some g.remotePort) := by
  funext x
  cases x with
  | proxy key => rw [Function.update_of_ne (by simp)]; rfl
  | group gid =>
      simp only [holderPort, findGroup, Table.lookup_insert_ite]
      split
      · next hid => simp [hid]
      · next hid =>
          rw [Function.update_of_ne (by simpa using hid)]
          simp only [holderPort, findGroup]
          cases hl : tcpGroups.lookup gid with
          | none => rfl
          | some ref => simp [List.getElem?_append_left (h.lt_length hl)]

/-- Replacing a group changes what its own id finds, and nothing else. -/
theorem findGroup_set (h : GroupsOk tcpGroups groups member) (hg : groups[ref]? = some g)
    (hown : tcpGroups.lookup g.groupId = some ref) (g' : GroupedTcpProxy) (gid : String) :
    findGroup tcpGroups (groups.set ref g') gid =
      if gid = g.groupId then some g' else findGroup tcpGroups groups gid := by
  have hlt := (List.getElem?_eq_some_iff.mp hg).1
  unfold findGroup
  split
  · next hid =>
      subst hid
      simp [hown, hlt]
  · next hid =>
      cases hl : tcpGroups.lookup gid with
      | none => rfl
      | some r =>
          have hr : ref ≠ r := by
            rintro rfl
            exact hid (h.groupId_eq hg hl).symm
          simp [hr]

/-- Taking a group out of the table is not noticed under other ids. -/
theorem findGroup_erase_set (h : GroupsOk tcpGroups groups member) (hg : groups[ref]? = some g)
    (hown : tcpGroups.lookup g.groupId = some ref) (g' : GroupedTcpProxy) (gid : String) :
    findGroup (tcpGroups.erase g.groupId) (groups.set ref g') gid =
      if gid = g.groupId then none else findGroup tcpGroups groups gid := by
  have hset := h.findGroup_set hg hown g' gid
  unfold findGroup at hset ⊢
  rw [Table.lookup_erase_ite]
  split
  · rfl
  · next hid => rwa [if_neg hid] at hset

/-- A member that leaves changes no port while its group stays. -/
theorem holderPort_leave (h : GroupsOk tcpGroups groups member)
    (proxies : Table String ProxyObject) (hg : groups[ref]? = some g)
    (hown : tcpGroups.lookup g.groupId = some ref) (key : String) :
    holderPort proxies tcpGroups (groups.set ref (g.dropBackend key)) =
      holderPort proxies tcpGroups groups := by
  funext x
  cases x with
  | proxy key => rfl
  | group gid =>
      simp only [holderPort, h.findGroup_set hg hown]
      split
      · next hid =>
          subst hid
          simp [findGroup, hown, hg, GroupedTcpProxy.dropBackend]
      · rfl

/-- The group of the last member gives its port up. -/
theorem holderPort_leave_last (h : GroupsOk tcpGroups groups member)
    (proxies : Table String ProxyObject) (hg : groups[ref]? = some g)
    (hown : tcpGroups.lookup g.groupId = some ref) (key : String) :
    holderPort proxies (tcpGroups.erase g.groupId) (groups.set ref (g.dropBackend key)) =
      Function.update (holderPort proxies tcpGroups groups) (.group g.groupId) none := by
  funext x
  cases x with
  | proxy key => rw [Function.update_of_ne (by simp)]; rfl
  | group gid =>
      simp only [holderPort, h.findGroup_erase_set hg hown]
      split
      · next hid => rw [hid, Function.update_self]; rfl
      · next hid => rw [Function.update_of_ne (by simpa using hid)]; rfl

end GroupsOk

end ProxyManager

end Arp.Server
