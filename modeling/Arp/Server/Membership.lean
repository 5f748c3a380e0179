import Arp.Server.Holdings

/-!
# Who shares a TCP group

A TCP proxy with a load-balancer group is placed by the id of its group, a text that joins
the remote port, the group and the group key with colons.  The group key is the credential
of the group, so two proxies should share a group exactly if the three parts agree.

The manager does not keep the messages its proxies were asked for with; `Ledger` records
them beside it.  A registered proxy is in the group its message asks for (`Served`), so two
proxies share a group exactly if their group ids are equal.  What remains is a question
about texts: ids are equal also for pairs of group and key that differ in where a colon is
put (`Shifted`).
-/

namespace Arp.Server.ProxyManager

open Arp.Common Arp.Lib Arp.Lib.Text

/-! ## Group ids as texts -/

/-- The second pair of group and key arises from the first if an initial part of the key,
up to one of its colons, moves to the end of the group. -/
def Shifted (a b : String × String) : Prop :=
  ∃ w, b.1 = a.1 ++ ":" ++ w ∧ a.2 = w ++ ":" ++ b.2

/-- The pairs differ in where a colon is put. -/
def Ambiguous (a b : String × String) : Prop := Shifted a b ∨ Shifted b a

theorem toList_groupId (msg : NewProxyMsg) (lbGroup lbGroupKey : String) :
    (groupId msg lbGroup lbGroupKey).toList = msg.proxyType.toList ++ ':' ::
      ((toString msg.remotePort.toNat).toList ++ ':' ::
        (lbGroup.toList ++ ':' :: lbGroupKey.toList)) := by
  have hport : toString msg.remotePort = toString msg.remotePort.toNat := rfl
  simp [groupId, hport]

theorem shifted_iff_toList {a b : String × String} :
    Shifted a b ↔
      ∃ w, b.1.toList = a.1.toList ++ ':' :: w ∧ a.2.toList = w ++ ':' :: b.2.toList := by
  constructor
  · rintro ⟨w, hgroup, hkey⟩
    refine ⟨w.toList, ?_, ?_⟩
    · rw [hgroup]
      simp
    · rw [hkey]
      simp
  · rintro ⟨w, hgroup, hkey⟩
    refine ⟨.ofList w, ?_, ?_⟩
    · apply String.toList_inj.mp
      simpa using hgroup
    · apply String.toList_inj.mp
      simpa using hkey

/-- A shift moves at least the colon. -/
theorem Shifted.ne {a b : String × String} (h : Shifted a b) : a ≠ b := by
  rintro rfl
  obtain ⟨w, hgroup, -⟩ := shifted_iff_toList.mp h
  have hlength := congrArg List.length hgroup
  rw [List.length_append, List.length_cons] at hlength
  omega

theorem Ambiguous.ne {a b : String × String} (h : Ambiguous a b) : a ≠ b := by
  rcases h with h | h
  · exact h.ne
  · exact h.ne.symm

/-- The part of a group id after the port. -/
theorem joined_eq_iff {a b : String × String} :
    a.1.toList ++ ':' :: a.2.toList = b.1.toList ++ ':' :: b.2.toList ↔
      a = b ∨ Ambiguous a b := by
  rw [append_cons_eq_iff, Ambiguous, shifted_iff_toList, shifted_iff_toList, Prod.ext_iff,
    String.toList_inj, String.toList_inj]

/-- Group ids of TCP proxies are equal if the ports are, and the groups and keys are equal
or differ in where a colon is put. -/
theorem groupId_eq_iff {msg₁ msg₂ : NewProxyMsg} {a b : String × String}
    (htype : msg₁.proxyType = msg₂.proxyType) :
    groupId msg₁ a.1 a.2 = groupId msg₂ b.1 b.2 ↔
      msg₁.remotePort = msg₂.remotePort ∧ (a = b ∨ Ambiguous a b) := by
  rw [← String.toList_inj, toList_groupId, toList_groupId, htype, List.append_cancel_left_eq,
    List.cons_inj_right, ← joined_eq_iff]
  constructor
  · intro h
    -- The digits of a port contain no colon.
    have hcolon : ∀ n : Nat, ':' ∉ (toString n).toList := notMem_toString (by decide)
    obtain ⟨hport, hrest⟩ := append_cons_inj (hcolon _) (hcolon _) h
    exact ⟨UInt16.toNat_inj.mp (toString_inj (String.toList_inj.mp hport)), hrest⟩
  · rintro ⟨hport, hrest⟩
    rw [hport, hrest]

/-! ## The messages behind the proxies -/

/-- The manager, with the message of the last successful registration of each key. -/
structure Ledger where
  manager : ProxyManager
  asked : String → Option NewProxyMsg

namespace Ledger

/-- What a call notes down. -/
def note (U : UnicodeData) (l : Ledger) : Call → String → Option NewProxyMsg
  | .registerProxy runId msg tx bind =>
    match (l.manager.registerProxy U runId msg tx bind).1 with
    | .ok _ => Function.update l.asked (proxyKey runId.val msg.proxyName) (some msg)
    | .error _ => l.asked
  | .unregisterProxy _ _ | .unregisterRunProxies _ _ => l.asked

/-- One call. -/
def step (U : UnicodeData) (l : Ledger) (call : Call) : Option Ledger :=
  (l.manager.step U call).map fun pm ↦ ⟨pm, l.note U call⟩

/-- A server that has just started. -/
def start (U : UnicodeData) (subdomainHost : String) (vhostHttpPort vhostHttpsPort : UInt16)
    (allowPorts : List PortRange) : Ledger where
  manager := .start U subdomainHost vhostHttpPort vhostHttpsPort allowPorts
  asked := fun _ ↦ none

/-- The proxy of the key is registered, and was asked for with the message. -/
def Registered (l : Ledger) (key : String) (msg : NewProxyMsg) : Prop :=
  key ∈ l.manager.proxies ∧ l.asked key = some msg

/-- The proxies of the two keys are members of one group. -/
def SharesGroup (l : Ledger) (key₁ key₂ : String) : Prop :=
  ∃ ref, memberIn l.manager.proxies key₁ = some ref ∧ memberIn l.manager.proxies key₂ = some ref

/-- Every registered proxy holds what its message asks for. -/
structure Tracks (U : UnicodeData) (l : Ledger) : Prop where
  lawful : Lawful l.manager
  served : ∀ key msg, l.Registered key msg →
    ∃ runId : RunId, key = proxyKey runId.val msg.proxyName ∧ Served U l.manager runId msg

section Steps

variable {U : UnicodeData} {pm pm' : ProxyManager} {asked : String → Option NewProxyMsg}

/-- What is still registered after a removal holds what it held. -/
theorem Tracks.unregisterKey (h : Tracks U ⟨pm, asked⟩) (key : String) :
    Tracks U ⟨pm.unregisterKey key, asked⟩ where
  lawful := h.lawful.unregisterKey key
  served := by
    rintro key' msg ⟨hkey', hasked⟩
    rw [← AList.lookup_isSome, lookup_proxies_unregisterKey] at hkey'
    split at hkey'
    · cases hkey'
    · next hne =>
        obtain ⟨runId, rfl, hserved⟩ :=
          h.served key' msg ⟨AList.lookup_isSome.mp hkey', hasked⟩
        exact ⟨runId, rfl, hserved.unregisterKey_other h.lawful.toConsistent (Ne.symm hne)⟩

theorem Tracks.foldl_unregisterKey (h : Tracks U ⟨pm, asked⟩) (keys : List String) :
    Tracks U ⟨keys.foldl ProxyManager.unregisterKey pm, asked⟩ := by
  induction keys generalizing pm with
  | nil => exact h
  | cons key rest ih => exact ih (h.unregisterKey key)

/-- A registration: the new proxy holds what it asked for, the others what they held. -/
theorem Tracks.register (h : Tracks U ⟨pm, asked⟩) {runId : RunId} {msg : NewProxyMsg}
    {tx : ReqSender} {proxy : ProxyObject} {addr : String}
    (hfresh : proxyKey runId.val msg.proxyName ∉ pm.proxies)
    (hbuilt : Built U pm runId msg tx (proxyKey runId.val msg.proxyName) proxy pm') :
    Tracks U ⟨pm'.enter (proxyKey runId.val msg.proxyName) proxy
        ⟨runId, msg.proxyName, msg.proxyType, addr⟩,
      Function.update asked (proxyKey runId.val msg.proxyName) (some msg)⟩ where
  lawful := h.lawful.enter hfresh rfl hbuilt addr
  served := by
    rintro key msg' ⟨hkey, hasked⟩
    dsimp only at hasked
    by_cases heq : key = proxyKey runId.val msg.proxyName
    · subst heq
      rw [Function.update_self] at hasked
      obtain rfl := Option.some.inj hasked
      exact ⟨runId, rfl, .of_built h.lawful hfresh hbuilt _⟩
    · rw [Function.update_of_ne heq] at hasked
      have hold : key ∈ pm.proxies := by
        rw [ProxyManager.enter, AList.mem_insert, hbuilt.proxies_eq] at hkey
        exact hkey.resolve_left heq
      obtain ⟨runId', rfl, hserved⟩ := h.served key msg' ⟨hold, hasked⟩
      exact ⟨runId', rfl, hserved.enter_other h.lawful.toConsistent hfresh hbuilt _⟩

/-- Every call keeps track of what the proxies hold. -/
theorem tracks_step (l : Ledger) (call : Call) (l' : Ledger) (h : Tracks U l)
    (hstep : l.step U call = some l') : Tracks U l' := by
  obtain ⟨pm', hpm', rfl⟩ := Option.map_eq_some_iff.mp hstep
  cases call with
  | registerProxy runId msg tx bind =>
      obtain rfl := Option.some.inj hpm'
      unfold note
      dsimp only
      rcases registerProxy_cases U l.manager runId msg tx bind with
        ⟨e, pm', hr, hcursor⟩ | ⟨addr, proxy, pm', hr, hfresh, hbuilt⟩
      · rw [hr]
        refine ⟨h.lawful.of_onlyCursor hcursor, ?_⟩
        rintro key msg' ⟨hkey, hasked⟩
        obtain ⟨cursor, rfl⟩ := hcursor
        obtain ⟨runId', rfl, hserved⟩ := h.served key msg' ⟨hkey, hasked⟩
        exact ⟨runId', rfl, hserved.of_onlyCursor ⟨cursor, rfl⟩⟩
      · rw [hr]
        exact h.register hfresh hbuilt
  | unregisterProxy runId proxyName =>
      obtain rfl := Option.some.inj hpm'
      exact h.unregisterKey _
  | unregisterRunProxies runId order =>
      simp only [ProxyManager.step] at hpm'
      split at hpm'
      · obtain rfl := Option.some.inj hpm'
        exact h.foldl_unregisterKey _
      · cases hpm'

theorem tracks_start (subdomainHost : String) (vhostHttpPort vhostHttpsPort : UInt16)
    (allowPorts : List PortRange) :
    Tracks U (start U subdomainHost vhostHttpPort vhostHttpsPort allowPorts) where
  lawful := lawful_start U subdomainHost vhostHttpPort vhostHttpsPort allowPorts
  served := by
    rintro key msg ⟨hkey, -⟩
    exact absurd hkey (AList.notMem_empty key)

end Steps

/-! ## Sharing a group -/

section Sharing

variable {U : UnicodeData} {l : Ledger} {key₁ key₂ gid₁ gid₂ : String} {msg₁ msg₂ : NewProxyMsg}

/-- Proxies share a group exactly if their messages ask for the same id. -/
theorem sharesGroup_iff_groupOf (h : Tracks U l) (h₁ : l.Registered key₁ msg₁)
    (h₂ : l.Registered key₂ msg₂) (hgid₁ : groupOf msg₁ = some gid₁)
    (hgid₂ : groupOf msg₂ = some gid₂) : l.SharesGroup key₁ key₂ ↔ gid₁ = gid₂ := by
  obtain ⟨runId₁, rfl, hserved₁⟩ := h.served key₁ msg₁ h₁
  obtain ⟨runId₂, rfl, hserved₂⟩ := h.served key₂ msg₂ h₂
  obtain ⟨ref₁, hmember₁, hgroup₁⟩ := hserved₁.member gid₁ hgid₁
  obtain ⟨ref₂, hmember₂, hgroup₂⟩ := hserved₂.member gid₂ hgid₂
  constructor
  · rintro ⟨ref, href₁, href₂⟩
    obtain rfl := Option.some.inj (hmember₁.symm.trans href₁)
    obtain rfl := Option.some.inj (hmember₂.symm.trans href₂)
    -- A group is in the table under its own id only.
    obtain ⟨g, hg, hid, -⟩ := h.lawful.groups.resolve gid₁ _ hgroup₁
    rw [← hid]
    exact h.lawful.groups.groupId_eq hg hgroup₂
  · rintro rfl
    obtain rfl := Option.some.inj (hgroup₁.symm.trans hgroup₂)
    exact ⟨ref₁, hmember₁, hmember₂⟩

/-- After every sequence of calls, two registered TCP proxies with a group share a group
exactly if port, group and group key agree, unless their ports agree and group and key
differ in where a colon is put: then they share a group, although the keys differ. -/
theorem sharesGroup_exact_iff {subdomainHost : String}
    {vhostHttpPort vhostHttpsPort : UInt16} {allowPorts : List PortRange} {calls : List Call}
    (hrun : Machine.run (step U) (start U subdomainHost vhostHttpPort vhostHttpsPort allowPorts)
      calls = some l)
    (h₁ : l.Registered key₁ msg₁) (h₂ : l.Registered key₂ msg₂)
    (hgroup₁ : (groupOf msg₁).isSome) (hgroup₂ : (groupOf msg₂).isSome) :
    (l.SharesGroup key₁ key₂ ↔
        msg₁.remotePort = msg₂.remotePort ∧ parseLbGroup msg₁ = parseLbGroup msg₂) ↔
      ¬(msg₁.remotePort = msg₂.remotePort ∧
        Ambiguous (parseLbGroup msg₁) (parseLbGroup msg₂)) := by
  have htracks : Tracks U l := Machine.run_invariant tracks_step hrun
    (tracks_start subdomainHost vhostHttpPort vhostHttpsPort allowPorts)
  obtain ⟨gid₁, hgid₁⟩ := Option.isSome_iff_exists.mp hgroup₁
  obtain ⟨gid₂, hgid₂⟩ := Option.isSome_iff_exists.mp hgroup₂
  obtain ⟨htype₁, rfl⟩ := groupOf_eq_groupId hgid₁
  obtain ⟨htype₂, rfl⟩ := groupOf_eq_groupId hgid₂
  rw [sharesGroup_iff_groupOf htracks h₁ h₂ hgid₁ hgid₂, groupId_eq_iff (htype₁.trans htype₂.symm)]
  constructor
  · rintro hexact ⟨hport, hambiguous⟩
    exact hambiguous.ne (hexact.mp ⟨hport, .inr hambiguous⟩).2
  · intro hclear
    constructor
    · rintro ⟨hport, hsame | hambiguous⟩
      · exact ⟨hport, hsame⟩
      · exact absurd ⟨hport, hambiguous⟩ hclear
    · rintro ⟨hport, hsame⟩
      exact ⟨hport, .inl hsame⟩

end Sharing

/-- A message for a member of a group behind port 10080. -/
def groupMessage (group groupKey : String) : NewProxyMsg :=
  message "web" "tcp" 10080 ""
    (.object [("group", .string group), ("group_key", .string groupKey)])

/-- Two runs that register a member each. -/
def twoMembers (msg₁ msg₂ : NewProxyMsg) : List Call :=
  [.registerProxy run1 msg₁ 1 none,
    .registerProxy run2 msg₂ 2 none]

/-- Members with the same port, group and key share a group. -/
theorem equal_keys_share :
    ∃ l, Machine.run (step .ascii) (start .ascii "" 80 443 [])
        (twoMembers (groupMessage "web" "k") (groupMessage "web" "k")) = some l ∧
      l.SharesGroup "run-1:web" "run-2:web" := by
  obtain ⟨l, hrun, h₁, h₂⟩ : ∃ l, Machine.run (step .ascii) (start .ascii "" 80 443 [])
        (twoMembers (groupMessage "web" "k") (groupMessage "web" "k")) = some l ∧
      l.Registered "run-1:web" (groupMessage "web" "k") ∧
      l.Registered "run-2:web" (groupMessage "web" "k") :=
    ⟨_, rfl, ⟨by decide, rfl⟩, ⟨by decide, rfl⟩⟩
  have hexact := sharesGroup_exact_iff hrun h₁ h₂ rfl rfl
  exact ⟨l, hrun, (hexact.mpr fun h ↦ h.2.ne rfl).mpr ⟨rfl, rfl⟩⟩

/-- The second member has another group and another key, and joins the group of the first:
both ids are `tcp:10080:a:b:c`. -/
theorem shifted_key_joins :
    ∃ l, Machine.run (step .ascii) (start .ascii "" 80 443 [])
        (twoMembers (groupMessage "a" "b:c") (groupMessage "a:b" "c")) = some l ∧
      l.Registered "run-1:web" (groupMessage "a" "b:c") ∧
      l.Registered "run-2:web" (groupMessage "a:b" "c") ∧
      parseLbGroup (groupMessage "a" "b:c") = ("a", "b:c") ∧
      parseLbGroup (groupMessage "a:b" "c") = ("a:b", "c") ∧
      l.SharesGroup "run-1:web" "run-2:web" :=
  ⟨_, rfl, ⟨by decide, rfl⟩, ⟨by decide, rfl⟩, by decide, by decide, 0, by decide, by decide⟩

end Ledger

end Arp.Server.ProxyManager
