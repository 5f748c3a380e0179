import Arp.Server.Takeover

/-!
# Who has a name

A proxy name should belong to one run at a time.  The server checks it by looking
the owner up among the controls that are listed, evicting it if it may, and only
then registering.  The invariant `Settled` says what a task has made sure of on
its way: between the lookup and the eviction only the owner may have the name,
and from then on nobody but the task's own run.

Three things break it, and `Careful` excludes them: a proxy whose control is no
longer listed, an eviction that meets another key with the same end, and two
tasks on their way with the same name.
-/

namespace Arp.Server

open Arp.Common Arp.Lib Arp.Lib.Text
open ProxyManager (run1 run2 run3)

namespace ProxyManager

/-- The part of a key after its first colon. -/
def nameOf (key : String) : String := .ofList (key.toList.dropWhile (· ≠ ':')).tail

theorem nameOf_proxyKey (r : RunId) (n : String) : nameOf (proxyKey r.val n) = n := by
  rw [nameOf, toList_proxyKey, List.dropWhile_append_of_pos (ne_colon_of_mem r)]
  simp

/-- The run ids of the registered proxies with this name. -/
def heldBy (pm : ProxyManager) (proxyName : String) : List String :=
  (pm.proxies.keys.filter fun key ↦ nameOf key = proxyName).map ownerOf

theorem mem_heldBy {pm : ProxyManager} {runId : RunId} {proxyName : String}
    (h : proxyKey runId.val proxyName ∈ pm.proxies) : runId.val ∈ pm.heldBy proxyName := by
  refine List.mem_map.mpr ⟨_, List.mem_filter.mpr ⟨AList.mem_keys.mp h, ?_⟩, ownerOf_proxyKey _ _⟩
  rw [decide_eq_true_eq]
  exact nameOf_proxyKey runId proxyName

end ProxyManager

namespace Service

/-! ## What a task has made sure of -/

/-- The name a task is about to register, with the runs that may have it now. -/
def reservation (runId : RunId) : Pc → Option (String × List RunId)
  | .evicting msg owner => some (msg.proxyName, [runId, owner.runId])
  | .closingEvicted msg _ _ _ | .superseding msg _ | .registering msg =>
    some (msg.proxyName, [runId])
  | .serving | .closing _ _ | .cleaning _ | .closingCleaned _ _ _ => none

/-- Only the runs that may have the name of a task's reservation have it. -/
def Settled (pm : ProxyManager) (runId : RunId) (pc : Pc) : Prop :=
  ∀ name runs, reservation runId pc = some (name, runs) →
    ∀ holder : RunId, proxyKey holder.val name ∈ pm.proxies → holder ∈ runs

/-- No two runs have the same name, and the reservations of all tasks are settled. -/
structure Orderly (s : Service) : Prop where
  unique : ∀ (r r' : RunId) n, proxyKey r.val n ∈ s.manager.proxies →
    proxyKey r'.val n ∈ s.manager.proxies → r = r'
  settled : ∀ runId session, s.sessions.lookup runId = some session →
    Settled s.manager runId session.pc

/-- A task without a reservation has made sure of nothing. -/
theorem settled_of_no_reservation {pm : ProxyManager} {runId : RunId} {pc : Pc}
    (h : reservation runId pc = none) : Settled pm runId pc := by
  intro name runs hres
  rw [h] at hres
  cases hres

/-- A task with a reservation is on the way with its name. -/
theorem pending_of_reservation {runId : RunId} {pc : Pc} {name : String} {runs : List RunId}
    (h : reservation runId pc = some (name, runs)) :
    pc.pending.map NewProxyMsg.proxyName = some name := by
  cases pc <;> simp_all [reservation, Pc.pending]

/-- What was settled stays so while proxies leave. -/
theorem Settled.mono {pm pm' : ProxyManager} {runId : RunId} {pc : Pc}
    (h : Settled pm runId pc) (hsub : ∀ key ∈ pm'.proxies, key ∈ pm.proxies) :
    Settled pm' runId pc :=
  fun name runs hres holder hkey ↦ h name runs hres holder (hsub _ hkey)

/-- A task moves on without registering: no proxy is new, and its reservation is
settled. -/
theorem Orderly.moveTo {s t : Service} (h : Orderly s) {runId : RunId} {session : Session}
    (hsub : ∀ key ∈ t.manager.proxies, key ∈ s.manager.proxies)
    (hsessions : t.sessions = s.sessions.insert runId session)
    (hsettled : Settled t.manager runId session.pc) : Orderly t where
  unique r r' n hr hr' := h.unique r r' n (hsub _ hr) (hsub _ hr')
  settled other session' hlookup := by
    rw [hsessions, Table.lookup_insert_ite] at hlookup
    split at hlookup
    · next heq =>
        obtain rfl := Option.some.inj hlookup
        rw [heq]
        exact hsettled
    · exact (h.settled other session' hlookup).mono hsub

/-! ## Careful steps -/

/-- The name a task is about to register. -/
def pendingName (s : Service) (runId : RunId) : Option String :=
  (s.pendingMsg runId).map NewProxyMsg.proxyName

/-- The eviction a task is about to start. -/
def eviction (s : Service) (runId : RunId) : Option (NewProxyMsg × ProxyOwner) :=
  (s.sessions.lookup runId).bind fun session ↦
    match session.pc with
    | .evicting msg owner => some (msg, owner)
    | _ => none

/-- The condition on an event and the state before it: a lookup finds every proxy
of the name with a listed control, an eviction can meet only the owner's key,
and nobody else is on the way with a name that is being registered. -/
def Careful (s : Service) : Event → Prop
  | .act runId (.newProxy msg _) =>
    ∀ owner ∈ s.manager.heldBy msg.proxyName,
      owner = runId.val ∨ owner ∈ s.controls.keys.map Subtype.val
  | .act runId (.evict _) =>
    ∀ e ∈ s.eviction runId, ∀ key ∈ s.manager.proxies.keys,
      endsWith key (":" ++ e.1.proxyName) = true → key = proxyKey e.2.runId.val e.1.proxyName
  | .act runId (.register _) =>
    ∀ name ∈ s.pendingName runId, ∀ other ∈ s.sessions.keys, other ≠ runId →
      s.pendingName other ≠ some name
  | _ => True

instance (s : Service) (e : Event) : Decidable (Careful s e) :=
  match e with
  | .login _ _ | .shutdown _ => .isTrue trivial
  | .act runId action =>
    match action with
    | .newProxy msg _ => inferInstanceAs (Decidable (∀ owner ∈ s.manager.heldBy msg.proxyName, _))
    | .evict _ => inferInstanceAs (Decidable (∀ e ∈ s.eviction runId, _))
    | .register _ => inferInstanceAs (Decidable (∀ name ∈ s.pendingName runId, _))
    | .closeEvicted | .supersede | .closeProxy _ | .finishClose | .endSession _ | .cleanNext
    | .finishClean | .leave => .isTrue trivial

variable {U : UnicodeData} {s : Service} {runId : RunId} {control : Control} {msg : NewProxyMsg}

/-- After a lookup that found the name free or its own, only the task's own run
may have it. -/
theorem settled_of_proceed (h : Orderly s) {order : List RunId}
    (horder : order.Perm s.controls.keys)
    (hvisible : ∀ owner ∈ s.manager.heldBy msg.proxyName,
      owner = runId.val ∨ owner ∈ s.controls.keys.map Subtype.val)
    (hjudge : Shared.judge runId control (s.findProxyOwner order msg.proxyName) = .proceed) :
    Settled s.manager runId (.registering msg) := by
  intro name runs hres holder hkey
  obtain ⟨rfl, rfl⟩ := Prod.mk.inj (Option.some.inj hres)
  rw [List.mem_singleton]
  rcases Shared.judge_eq_proceed hjudge with hnone | ⟨owner, hsome, rfl⟩
  · rcases hvisible holder.val (ProxyManager.mem_heldBy hkey) with hself | hlisted
    · exact Subtype.ext hself
    · -- A listed control with the name would have been found.
      obtain ⟨run, hrun, hval⟩ := List.mem_map.mp hlisted
      obtain rfl := Subtype.ext hval
      exact absurd hkey (Shared.findProxyOwner_eq_none horder hnone (AList.mem_keys.mpr hrun))
  · obtain ⟨-, -, -, hown⟩ := Shared.findProxyOwner_eq_some hsome
    exact h.unique _ _ _ hkey hown

/-- After a lookup that found an earlier run, only that run has the name. -/
theorem settled_of_takeOver (h : Orderly s) {order : List RunId} {owner : ProxyOwner}
    (hjudge : Shared.judge runId control (s.findProxyOwner order msg.proxyName) =
      .takeOver owner) :
    Settled s.manager runId (.evicting msg owner) := by
  intro name runs hres holder hkey
  obtain ⟨rfl, rfl⟩ := Prod.mk.inj (Option.some.inj hres)
  obtain ⟨-, -, -, hown⟩ := Shared.findProxyOwner_eq_some (Shared.judge_eq_takeOver hjudge).1
  obtain rfl := h.unique _ _ _ hkey hown
  exact List.mem_cons_of_mem _ List.mem_cons_self

/-- If an eviction finds nothing, nobody has the name. -/
theorem settled_of_missed {order : List String} (horder : order.Perm s.manager.proxies.keys)
    (hfind : (order.find? fun key ↦ endsWith key (":" ++ msg.proxyName)) = none) :
    Settled s.manager runId (.registering msg) := by
  intro name runs hres holder hkey
  obtain ⟨rfl, rfl⟩ := Prod.mk.inj (Option.some.inj hres)
  obtain ⟨key, hsome, -⟩ := exists_find_of_mem horder hkey
  rw [hfind] at hsome
  cases hsome

/-- If an eviction can meet only the owner's key, nobody has the name after it. -/
theorem settled_of_tookOut {owner : ProxyOwner} {order : List String} {key : String}
    {proxy : ProxyObject}
    (hsole : ∀ key ∈ s.manager.proxies.keys, endsWith key (":" ++ msg.proxyName) = true →
      key = proxyKey owner.runId.val msg.proxyName)
    (hfind : (order.find? fun key ↦ endsWith key (":" ++ msg.proxyName)) = some key)
    (hproxy : s.manager.proxies.lookup key = some proxy) :
    Settled (s.manager.remove key) runId (.closingEvicted msg owner key proxy) := by
  intro name runs hres holder hkey
  obtain ⟨rfl, rfl⟩ := Prod.mk.inj (Option.some.inj hres)
  have hend := List.find?_some hfind
  obtain rfl := hsole key (AList.mem_keys.mp (Table.mem_of_lookup hproxy)) hend
  obtain ⟨hne, hmem⟩ := AList.mem_erase.mp hkey
  exact absurd (hsole _ (AList.mem_keys.mp hmem) (endsWith_proxyKey _ _)) hne

/-- A task registers a name that only its own run may have and that nobody else is
on the way with. -/
theorem Orderly.register {t : Service} {proxy : ProxyObject} (h : Orderly s)
    (hsession : s.sessions.lookup runId = some ⟨control, .registering msg⟩)
    (halone : ∀ other ∈ s.sessions.keys, other ≠ runId →
      s.pendingName other ≠ some msg.proxyName)
    (hproxies : t.manager.proxies =
      s.manager.proxies.insert (proxyKey runId.val msg.proxyName) proxy)
    (hsessions : t.sessions = s.sessions.insert runId ⟨control, .serving⟩) : Orderly t where
  unique := by
    -- Whoever has the new name is the run that registered it.
    have hholder : ∀ q : RunId, proxyKey q.val msg.proxyName ∈ t.manager.proxies → q = runId := by
      intro q hq
      rw [hproxies, AList.mem_insert] at hq
      rcases hq with heq | hmem
      · exact (proxyKey_inj.mp heq).1
      · exact List.mem_singleton.mp (h.settled runId _ hsession _ _ rfl q hmem)
    intro r r' n hr hr'
    by_cases hn : n = msg.proxyName
    · subst hn
      rw [hholder r hr, hholder r' hr']
    · have hold : ∀ q : RunId, proxyKey q.val n ∈ t.manager.proxies →
          proxyKey q.val n ∈ s.manager.proxies := by
        intro q hq
        rw [hproxies, AList.mem_insert] at hq
        exact hq.resolve_left fun heq ↦ hn (proxyKey_inj.mp heq).2
      exact h.unique r r' n (hold r hr) (hold r' hr')
  settled other session hlookup := by
    rw [hsessions, Table.lookup_insert_ite] at hlookup
    split at hlookup
    · obtain rfl := Option.some.inj hlookup
      exact settled_of_no_reservation rfl
    · next hne =>
        intro name runs hres holder hkey
        refine h.settled other session hlookup name runs hres holder ?_
        rw [hproxies, AList.mem_insert] at hkey
        refine hkey.resolve_left fun heq ↦ ?_
        -- The other task would be on the way with the name just registered.
        obtain ⟨-, rfl⟩ := proxyKey_inj.mp heq
        refine halone other (AList.mem_keys.mp (Table.mem_of_lookup hlookup)) hne ?_
        rw [pendingName, pendingMsg, hlookup, Option.bind_some]
        exact pending_of_reservation hres

/-- Every careful step keeps names apart. -/
theorem orderly_step (s : Service) (e : Event) (t : Service) (h : Orderly s) (hok : Careful s e)
    (hstep : s.step U e = some t) : Orderly t := by
  have hsame : ∀ key ∈ s.manager.proxies, key ∈ s.manager.proxies := fun _ hkey ↦ hkey
  have hremove : ∀ k, ∀ key ∈ (s.manager.remove k).proxies, key ∈ s.manager.proxies :=
    fun k key hkey ↦ (AList.mem_erase.mp hkey).2
  have hclose : ∀ proxy, ∀ key ∈ (s.manager.close proxy).proxies, key ∈ s.manager.proxies :=
    fun proxy key hkey ↦ (ProxyManager.proxies_close s.manager proxy).1 ▸ hkey
  cases e with
  | login runId control =>
      simp only [step] at hstep
      split at hstep
      · cases hstep
      · obtain rfl := Option.some.inj hstep
        exact h.moveTo hsame rfl (settled_of_no_reservation rfl)
  | shutdown runId =>
      obtain rfl := Option.some.inj hstep
      exact ⟨h.unique, h.settled⟩
  | act runId action =>
      obtain ⟨⟨control, pc⟩, hsession, hacts⟩ := acts_of_step hstep
      have hsettled := h.settled runId _ hsession
      cases hacts with
      | refused msg order hjudge => exact h.moveTo hsame rfl (settled_of_no_reservation rfl)
      | cleared msg order horder hjudge =>
          have hfree := settled_of_proceed h horder hok hjudge
          exact h.moveTo hsame rfl hfree
      | takesOver msg order owner hjudge =>
          exact h.moveTo hsame rfl (settled_of_takeOver h hjudge)
      | missed msg owner order horder hfind =>
          exact h.moveTo hsame rfl (settled_of_missed horder hfind)
      | tookOut msg owner order key proxy hfind hproxy =>
          have hsole := hok (msg, owner) (by simp [eviction, hsession])
          exact h.moveTo (hremove key) rfl (settled_of_tookOut hsole hfind hproxy)
      | evicted msg owner key proxy =>
          exact h.moveTo (hclose proxy) rfl (hsettled.mono (hclose proxy))
      | superseded msg owner => exact h.moveTo hsame rfl hsettled
      | finished msg bind =>
          rcases finish_cases U s runId control msg bind with
            ⟨e, pm', hfinish, cursor, rfl⟩ | ⟨addr, proxy, pm', hfinish, -, hbuilt⟩
          · rw [hfinish]
            exact h.moveTo hsame rfl (settled_of_no_reservation rfl)
          · have halone := hok msg.proxyName
              (by simp [pendingName, pendingMsg, hsession, Pc.pending])
            have hproxies : pm'.proxies.insert (proxyKey runId.val msg.proxyName) proxy =
                s.manager.proxies.insert (proxyKey runId.val msg.proxyName) proxy := by
              rw [hbuilt.proxies_eq]
            rw [hfinish]
            exact h.register hsession halone hproxies rfl
      | tookClosed proxyName proxy hproxy =>
          exact h.moveTo (hremove _) rfl (settled_of_no_reservation rfl)
      | absent proxyName => exact h.moveTo hsame rfl (settled_of_no_reservation rfl)
      | closed key proxy => exact h.moveTo (hclose proxy) rfl (settled_of_no_reservation rfl)
      | ended order horder => exact h.moveTo hsame rfl (settled_of_no_reservation rfl)
      | tookCleaned key keys proxy hproxy =>
          exact h.moveTo (hremove key) rfl (settled_of_no_reservation rfl)
      | gone key keys hproxy => exact h.moveTo hsame rfl (settled_of_no_reservation rfl)
      | cleaned key proxy keys => exact h.moveTo (hclose proxy) rfl (settled_of_no_reservation rfl)
      | left =>
          refine ⟨h.unique, fun other session hlookup ↦ ?_⟩
          rw [Table.lookup_erase_ite] at hlookup
          split at hlookup
          · cases hlookup
          · exact h.settled other session hlookup

/-! ## Whole runs -/

theorem orderly_start (authenticator : TokenAuth) (manager : ProxyManager)
    (hempty : manager.proxies = ∅) : Orderly (start authenticator manager) where
  unique r r' n hr _ := by
    rw [start, hempty] at hr
    exact absurd hr (AList.notMem_empty _)
  settled runId session hlookup := by cases hlookup

/-- In every run of careful steps, no two runs ever have the same name. -/
theorem names_unique {U : UnicodeData} {authenticator : TokenAuth} {subdomainHost : String}
    {vhostHttpPort vhostHttpsPort : UInt16} {allowPorts : List PortRange} {events : List Event}
    {s : Service}
    (hcareful : Machine.Along (step U) Careful (start authenticator
      (ProxyManager.start U subdomainHost vhostHttpPort vhostHttpsPort allowPorts)) events)
    (hrun : Machine.run (step U) (start authenticator
      (ProxyManager.start U subdomainHost vhostHttpPort vhostHttpsPort allowPorts)) events = some s)
    {r r' : RunId} {proxyName : String} (hr : proxyKey r.val proxyName ∈ s.manager.proxies)
    (hr' : proxyKey r'.val proxyName ∈ s.manager.proxies) : r = r' :=
  (Machine.along_invariant orderly_step hcareful hrun (orderly_start _ _ rfl)).unique
    r r' proxyName hr hr'

/-- A run registers two proxies.  Its client logs in again and takes the first
one over; the old run cleans up after that, and the new one registers the second
name when it is free. -/
def takeoverRun : List Event :=
  let web := ProxyManager.message "web" "tcp" 10080 "" .null
  let db := ProxyManager.message "db" "stcp" 0 "secret" .null
  [.login run1 ⟨"office", "token", 1, 1⟩,
    .act run1 (.newProxy web [run1]), .act run1 (.register none),
    .act run1 (.newProxy db [run1]), .act run1 (.register none),
    .login run2 ⟨"office", "token", 1, 2⟩,
    .act run2 (.newProxy web [run1, run2]), .act run2 (.evict ["run-1:web", "run-1:db"]),
    .act run2 .closeEvicted, .act run2 .supersede, .act run2 (.register none),
    .act run1 (.endSession ["run-1:db", "run-2:web"]), .act run1 .cleanNext,
    .act run1 .finishClean, .act run2 (.newProxy db [run2]), .act run1 .leave,
    .act run2 (.register none)]

/-- The steps of `takeoverRun` are careful, and both names are the new run's. -/
theorem names_unique_takeoverRun : ∃ s,
    Machine.run (step .ascii) (start ⟨"token", [], []⟩ (ProxyManager.start .ascii "" 80 443 []))
      takeoverRun = some s ∧
    s.manager.proxies.keys = ["run-2:db", "run-2:web"] ∧
    ∀ (r r' : RunId) n, proxyKey r.val n ∈ s.manager.proxies →
      proxyKey r'.val n ∈ s.manager.proxies → r = r' := by
  refine Machine.exists_run (fun s ↦ s.manager.proxies.keys) ["run-2:db", "run-2:web"]
    (by decide) fun s hs hkeys ↦ ?_
  exact ⟨hkeys, fun r r' n hr hr' ↦ names_unique (by decide) hs hr hr'⟩

/-- The web API shuts a run down, and before its task has cleaned up another
client registers one of its names: both have it. -/
theorem name_of_two_clients : ∃ s,
    Machine.run (step .ascii) (start ⟨"token", [], []⟩ (ProxyManager.start .ascii "" 80 443 []))
      [.login run1 ⟨"office", "token", 1, 1⟩,
        .act run1 (.newProxy (ProxyManager.message "web" "http" 0 "" .null) [run1]),
        .act run1 (.register none), .shutdown run1,
        .login run2 ⟨"home", "token", 1, 2⟩,
        .act run2 (.newProxy (ProxyManager.message "web" "http" 0 "" .null) [run2]),
        .act run2 (.register none)] = some s ∧
    proxyKey run1.val "web" ∈ s.manager.proxies ∧ proxyKey run2.val "web" ∈ s.manager.proxies ∧
    run1 ≠ run2 := by
  refine Machine.exists_run (fun s ↦ s.manager.proxies.keys) ["run-2:web", "run-1:web"]
    (by decide) fun s hs hkeys ↦ ⟨?_, ?_, by decide⟩
  · rw [AList.mem_keys, hkeys]
    decide
  · rw [AList.mem_keys, hkeys]
    decide

end Service

end Arp.Server
