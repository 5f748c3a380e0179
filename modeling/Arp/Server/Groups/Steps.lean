import Arp.Server.Groups.Invariant

/-!
# What each critical section keeps

One lemma for each critical section of a task, and one for each of the other steps:
every step that keeps apart from the others keeps the invariant.
-/

namespace Arp.Server.Groups

open Arp.Common Arp.Lib ProxyManager

namespace Coherent

variable {s : State} {t ref : Nat} {joiner : Joiner}

/-- A step that concerns ports at most. -/
theorem congr {s' : State} (h : Coherent s)
    (hports : Owned s'.manager.resources.tcpPorts s'.portOf)
    (hproxies : s'.manager.proxies = s.manager.proxies)
    (hgroups : s'.manager.groups = s.manager.groups)
    (htcp : s'.manager.tcpGroups = s.manager.tcpGroups) (hloop : s'.loop = s.loop)
    (hreleases : s'.releases = s.releases)
    (hmarks : ∀ t, s'.marks t = { s.marks t with port := (s'.marks t).port }) : Coherent s' := by
  have hmemberOf : s'.memberOf = s.memberOf := by
    funext member
    cases member with
    | entry key => simp only [State.memberOf, hproxies]
    | task t =>
        show (s'.marks t).backend = (s.marks t).backend
        rw [hmarks t]
  have hstarted : ∀ r, s.Started r → s'.Started r := by
    rintro r ⟨g, hg, hs⟩
    exact ⟨g, hgroups ▸ hg, hs⟩
  refine ⟨hports, ?_, ?_, ?_, ?_, ?_, ?_⟩
  · rw [hmemberOf]
    simp only [State.HasBackend, hgroups]
    exact h.backends
  · intro r g hg
    rw [hgroups] at hg
    refine (h.stage r g hg).congr (fun t ↦ ?_) (fun t n ↦ ?_) (by rw [hreleases]) (by rw [htcp])
      (by rw [hloop])
    · rw [congrArg Marks.adding (hmarks t)]
    · rw [congrArg Marks.closing (hmarks t)]
  · rw [htcp, hgroups]
    exact h.stored
  · intro t
    have hvalid : (s.marks t).Valid s' := (h.marked t).mono (by rw [hgroups]) hstarted
    obtain ⟨hadding, hclosing, hentering⟩ := hvalid
    rw [hmarks t]
    exact ⟨hadding, hclosing, hentering⟩
  · rw [hmemberOf]
    exact fun key p hp ↦ hstarted _ (h.entered key p hp)
  · rw [hgroups, hreleases]
    exact h.unfounded

/-- A task whose marks stay moves on. -/
theorem become (h : Coherent s) {task : Option Task}
    (hmarks : (task.map Task.marks).getD {} = s.marks t) : Coherent (s.become t task) := by
  have hsame := State.marks_become_same hmarks
  refine h.congr ?_ (by simp) (by simp) (by simp) (by simp) (by simp) fun t' ↦ by rw [hsame]
  have hport : (s.become t task).portOf = s.portOf := by
    rw [State.portOf_become, hmarks]
    exact Function.update_eq_self (.task t) s.portOf
  rw [hport, State.manager_become]
  exact h.ports

/-- Looking the group up: a group that is found is open, and stays so. -/
theorem finding {s' : State} {bind : Option String} (h : Coherent s)
    (ht : s.tasks.lookup t = some (.finding joiner)) (hapart : Apart s (.finding joiner))
    (hs' : s.advance t bind (.finding joiner) = some s') : Coherent s' := by
  have hmarks : s.marks t = {} := State.marks_of_lookup ht
  simp only [State.advance] at hs'
  split at hs'
  · next ref href =>
      obtain rfl := Option.some.inj hs'
      obtain ⟨g, hg, hgid⟩ := h.stored _ ref href
      have hlt : ref < s.manager.groups.length := (List.getElem?_eq_some_iff.mp hg).1
      have htouch : Touches s (s.become t (some (.adding ref joiner))) t ref id
          { adding := some ref } :=
        .of_become hlt (List.modify_id _ _).symm (fun _ ↦ ⟨rfl, rfl, fun h ↦ h⟩) rfl rfl
          (fun _ _ ↦ rfl) (fun _ _ ↦ rfl) (by rw [hmarks]; exact .of_none rfl rfl)
          (.of_adding ref)
      refine htouch.coherent_of_same h rfl rfl rfl rfl (by rw [hmarks]) (by rw [hmarks])
        (fun _ ↦ rfl) ?_ ?_
      · intro g' hg' hstage
        obtain rfl := Option.some.inj (hg.symm.trans hg')
        have hcloser := State.not_marks_of_noTask (p := fun m ↦ m.closing.map Prod.fst = some ref)
          (hapart ref href) (by simp)
        cases hstage with
        | opened _ hnone hreleases hstored hloop =>
            exact .opened (.inr ⟨t, by rw [htouch.marks_self]⟩)
              (htouch.noCloser hnone rfl) hreleases hstored hloop
        | closing t' n hn => exact absurd (by rw [hn]; rfl) (hcloser t')
        | closed _ _ _ _ hremoved => exact absurd (hgid ▸ href) hremoved
      · refine ⟨fun r hr ↦ ?_, by simp, by simp⟩
        obtain rfl := Option.some.inj hr
        exact hlt
  · obtain rfl := Option.some.inj hs'
    exact h.become hmarks.symm

/-- A task takes a port or gives it back, and has nothing else. -/
theorem moved_port (h : Coherent s) {rc : ResourceController} {task : Option Task}
    {port port' : Option UInt16} (hold : s.marks t = { port := port })
    (hnew : (task.map Task.marks).getD {} = { port := port' })
    (hports : Owned rc.tcpPorts (Function.update s.portOf (.task t) port')) :
    Coherent ({ s with manager.resources := rc }.become t task) := by
  refine h.congr ?_ (by simp) (by simp) (by simp) (by simp) (by simp) ?_
  · rw [State.portOf_become, State.manager_become, hnew]
    exact hports
  · intro t'
    rw [State.marks_become]
    by_cases ht : t' = t
    · rw [ht, Function.update_self, hold, hnew]
    · rw [Function.update_of_ne ht]
      rfl

/-- Testing a port changes nothing. -/
theorem allocating {s' : State} {bind : Option String} (h : Coherent s)
    (ht : s.tasks.lookup t = some (.allocating joiner))
    (hs' : s.advance t bind (.allocating joiner) = some s') : Coherent s' := by
  obtain rfl := Option.some.inj hs'
  refine h.become ?_
  rw [State.marks_of_lookup ht]
  split <;> rfl

/-- Inserting a port that is still free: the task holds it. -/
theorem inserting {s' : State} {bind : Option String} (h : Coherent s)
    (ht : s.tasks.lookup t = some (.inserting joiner)) (hapart : Apart s (.inserting joiner))
    (hs' : s.advance t bind (.inserting joiner) = some s') : Coherent s' := by
  have hmarks : s.marks t = {} := State.marks_of_lookup ht
  obtain rfl := Option.some.inj hs'
  exact h.moved_port hmarks rfl (h.ports.take hapart (by simp [State.portOf, hmarks]))

/-- Storing a new group passes the port of the task on to it. -/
theorem portOf_founded {port : UInt16} (h : Coherent s) :
    ({ s with manager := found s.manager joiner.groupId port }.become t
      (some (.adding s.manager.groups.length joiner))).portOf =
      Function.update (Function.update s.portOf (.task t) none)
        (.group s.manager.groups.length) (some port) := by
  funext holder
  cases holder with
  | other port => simp [State.portOf]
  | task t' =>
      rw [State.portOf, State.marks_become]
      by_cases htt : t' = t
      · subst htt
        simp [Task.marks]
      · simp [State.portOf, State.marks, htt]
  | group r =>
      by_cases hr : r = s.manager.groups.length
      · subst hr
        simp [State.portOf, h.unfounded _ le_rfl, getElem?_found_self]
      · simp [State.portOf, getElem?_found_of_ne hr, hr]

/-- Storing a new group: it is open, and the port of the task is now its own. -/
theorem founded {port : UInt16} (h : Coherent s)
    (ht : s.tasks.lookup t = some (.founding joiner port))
    (hapart : Apart s (.founding joiner port)) :
    Coherent ({ s with manager := found s.manager joiner.groupId port }.become t
      (some (.adding s.manager.groups.length joiner))) := by
  set s' := { s with manager := found s.manager joiner.groupId port }.become t
    (some (.adding s.manager.groups.length joiner)) with hs'
  have hold : s.marks t = { port := some port } := State.marks_of_lookup ht
  have hmarks : s'.marks = Function.update s.marks t { adding := some s.manager.groups.length } :=
    State.marks_become _ _ _
  have hfresh : s.manager.tcpGroups.lookup joiner.groupId = none := AList.lookup_eq_none.mpr hapart
  have hstarted : ∀ r, s.Started r → s'.Started r := by
    rintro r ⟨g, hg, hst⟩
    exact ⟨g, getElem?_found_of_some hg, hst⟩
  have hmember : s'.memberOf = s.memberOf := by
    have hnone : s.memberOf (.task t) = none := by simp [State.memberOf, hold]
    rw [hs', State.memberOf_become]
    show Function.update s.memberOf (.task t) none = _
    rw [← hnone, Function.update_eq_self]
  have hlength : s.manager.groups.length ≤ s'.manager.groups.length := by
    simp [s', found]
  refine ⟨?_, ?_, ?_, ?_, ?_, ?_, ?_⟩
  · have hport : s.portOf (.task t) = some port := by simp [State.portOf, hold]
    have hgroup : s.portOf (.group s.manager.groups.length) = none := by simp [State.portOf]
    rw [hs', h.portOf_founded]
    exact h.ports.handOver hport hgroup
  · rw [hmember]
    obtain ⟨pool, howned, hpool⟩ := h.backends
    refine ⟨pool, howned, fun p ↦ (hpool p).trans ⟨?_, ?_⟩⟩
    · rintro ⟨g, hg, hp⟩
      exact ⟨g, getElem?_found_of_some hg, hp⟩
    · rintro ⟨g, hg, hp⟩
      rcases getElem?_found_eq_some hg with hg | ⟨-, rfl⟩
      · exact ⟨g, hg, hp⟩
      · cases hp
  · intro r g hg
    rcases getElem?_found_eq_some hg with hg | ⟨rfl, rfl⟩
    · have hne : r ≠ s.manager.groups.length := (List.getElem?_eq_some_iff.mp hg).1.ne
      refine (h.stage r g hg).elsewhere hne ?_ ?_ hmarks rfl ?_ rfl
      · rw [hold]
        exact .of_none rfl rfl
      · exact .of_adding _
      · rw [show s'.manager = found s.manager joiner.groupId port from rfl, lookup_found]
        split
        · next hgid =>
            rw [hgid, hfresh]
            simp [hne]
        · rfl
    · refine .opened (.inr ⟨t, by rw [hmarks, Function.update_self]⟩) ?_ (h.unfounded _ le_rfl) ?_
        (by simp)
      · intro t' n hn
        rw [hmarks] at hn
        by_cases htt : t' = t
        · rw [htt, Function.update_self] at hn
          cases hn
        · rw [Function.update_of_ne htt] at hn
          exact absurd ((h.marked t').closing _ n hn).1 (Nat.lt_irrefl _)
      · exact (lookup_found _ _ _ _ _).mpr (if_pos rfl ▸ rfl)
  · intro gid r hr
    rw [show s'.manager = found s.manager joiner.groupId port from rfl, lookup_found] at hr
    split at hr
    · next hgid => exact ⟨_, hr ▸ getElem?_found_self _ _ _, hgid.symm⟩
    · obtain ⟨g, hg, hgid⟩ := h.stored gid r hr
      exact ⟨g, getElem?_found_of_some hg, hgid⟩
  · refine State.forall_marks_become (fun t' ↦ (h.marked t').mono hlength hstarted) ?_
    refine ⟨fun r hr ↦ ?_, by simp [Task.marks], by simp [Task.marks]⟩
    obtain rfl := Option.some.inj hr
    simp [s', found]
  · rw [hmember]
    exact fun key p hp ↦ hstarted _ (h.entered key p hp)
  · exact fun r hr ↦ h.unfounded r (hlength.trans hr)

/-- Binding the port of a new group; a port that cannot be bound is given back. -/
theorem founding {s' : State} {bind : Option String} {port : UInt16} (h : Coherent s)
    (ht : s.tasks.lookup t = some (.founding joiner port))
    (hapart : Apart s (.founding joiner port))
    (hs' : s.advance t bind (.founding joiner port) = some s') : Coherent s' := by
  cases bind with
  | none =>
      obtain rfl := Option.some.inj hs'
      exact h.founded ht hapart
  | some e =>
      obtain rfl := Option.some.inj hs'
      have hold : s.marks t = { port := some port } := State.marks_of_lookup ht
      exact h.moved_port hold rfl (h.ports.release (by simp [State.portOf, hold]))

/-- Adding a backend: the task answers for it from now on. -/
theorem adding {s' : State} {bind : Option String} (h : Coherent s)
    (ht : s.tasks.lookup t = some (.adding ref joiner)) (hapart : Apart s (.adding ref joiner))
    (hs' : s.advance t bind (.adding ref joiner) = some s') : Coherent s' := by
  have hold : s.marks t = { adding := some ref } := State.marks_of_lookup ht
  have hlt : ref < s.manager.groups.length := (h.marked t).adding ref (by rw [hold])
  obtain ⟨g, hg⟩ : ∃ g, s.manager.groups[ref]? = some g := ⟨_, List.getElem?_eq_getElem hlt⟩
  have hnew : joiner.backend.backendId ∉ g.backendIds := hapart g hg
  obtain rfl := Option.some.inj hs'
  have htouch : Touches s ((s.onGroup ref (·.addBackend joiner.backend)).become t
      (some (.starting ref joiner))) t ref (·.addBackend joiner.backend)
      { backend := some (ref, joiner.backend.backendId) } :=
    .of_become hlt rfl (fun g ↦ ⟨groupId_addBackend g _, remotePort_addBackend g _,
        (started_addBackend g _).trans⟩) rfl rfl
      (fun _ _ ↦ rfl) (fun _ _ ↦ rfl)
      (by rw [hold]; exact .of_adding ref) (.of_none rfl rfl)
  have hmember := htouch.memberOf_eq rfl
  have hnone : s.memberOf (.task t) = none := by simp [State.memberOf, hold]
  have hadded : ∀ id, id ∈ (g.addBackend joiner.backend).backendIds ↔
      id = joiner.backend.backendId ∨ id ∈ g.backendIds := by
    intro id
    rw [backendIds_addBackend hnew, List.mem_append, List.mem_singleton, or_comm]
  obtain ⟨pool, howned, hpool⟩ := h.backends
  have hfree : (ref, joiner.backend.backendId) ∉ pool := by
    rw [hpool]
    rintro ⟨g', hg', hid⟩
    obtain rfl := Option.some.inj (hg.symm.trans hg')
    exact hnew hid
  refine htouch.coherent h ?_ ⟨_, hmember ▸ howned.take hfree hnone, ?_⟩ ?_ ?_ ?_
  · rw [htouch.portOf_eq rfl rfl (by rw [hold])]
    exact h.ports
  · rintro ⟨r, id⟩
    rw [htouch.hasBackend_iff, Finset.mem_insert, hpool, State.HasBackend]
    by_cases hr : r = ref
    · subst hr
      simp [hg, hadded]
    · simp [hr]
  · intro g' hg' hstage
    obtain rfl := Option.some.inj (hg.symm.trans hg')
    cases hstage with
    | opened _ hnone hreleases hstored hloop =>
        refine .opened (.inl (backends_ne_nil ((hadded _).mpr (.inl rfl))))
          (htouch.noCloser hnone rfl) hreleases ?_ ?_
        · rw [groupId_addBackend]
          exact hstored
        · rw [started_addBackend]
          exact hloop
    | closing _ _ _ _ _ hadder => exact absurd (by rw [hold]) (hadder t)
    | closed _ hadder => exact absurd (by rw [hold]) (hadder t)
  · exact .of_none rfl rfl rfl
  · rw [hmember]
    intro key p hp
    rw [Function.update_of_ne (by simp)] at hp
    exact htouch.started_mono _ (h.entered key p hp)

/-- Starting the loop: the group of a task that answers for a backend is open, and
its loop is the one spawned first. -/
theorem starting {s' : State} {bind : Option String} (h : Coherent s)
    (ht : s.tasks.lookup t = some (.starting ref joiner))
    (hs' : s.advance t bind (.starting ref joiner) = some s') : Coherent s' := by
  have hold : s.marks t = { backend := some (ref, joiner.backend.backendId) } :=
    State.marks_of_lookup ht
  obtain ⟨g, hg, hid, hne, hcloser, hreleases, hstored, hloop⟩ :=
    h.opened_of_member (m := .task t) (congrArg Marks.backend hold)
  simp only [State.advance, hg, Option.map_some, Option.some.injEq] at hs'
  subst hs'
  have htouch : Touches s ({ s.onGroup ref .ensureStarted with
      loop := Function.update s.loop ref ((s.loop ref).ensureStarted g.started) }.become t
        (some (.entering ref joiner))) t ref .ensureStarted
      { backend := some (ref, joiner.backend.backendId), entering := some ref } :=
    .of_become (List.getElem?_eq_some_iff.mp hg).1 rfl (fun _ ↦ ⟨rfl, rfl, fun _ ↦ rfl⟩) rfl rfl
      (fun _ hr ↦ Function.update_of_ne hr _ _) (fun _ _ ↦ rfl)
      (by rw [hold]; exact .of_none rfl rfl) (.of_none rfl rfl)
  refine htouch.coherent_of_same h rfl rfl rfl rfl (by rw [hold]) (by rw [hold]) (fun _ ↦ rfl) ?_ ?_
  · intro g' hg' _
    obtain rfl := Option.some.inj (hg.symm.trans hg')
    refine .opened (.inl hne) (htouch.noCloser hcloser rfl) hreleases hstored fun _ ↦ ?_
    show Function.update s.loop ref _ ref = _ ∨ Function.update s.loop ref _ ref = _
    rw [Function.update_self, Loop.ensureStarted]
    split
    · next hstarted => exact hloop hstarted
    · exact .inl rfl
  · refine ⟨by simp, by simp, fun r hr ↦ ?_⟩
    obtain rfl := Option.some.inj hr
    exact ⟨_, by rw [htouch.getElem?, if_pos rfl, hg]; rfl, rfl⟩

/-- Entering the member: its entry answers for the backend from now on. -/
theorem entering {s' : State} {bind : Option String} (h : Coherent s)
    (ht : s.tasks.lookup t = some (.entering ref joiner)) (hapart : Apart s (.entering ref joiner))
    (hs' : s.advance t bind (.entering ref joiner) = some s') : Coherent s' := by
  have hold : s.marks t =
      { backend := some (ref, joiner.backend.backendId), entering := some ref } :=
    State.marks_of_lookup ht
  have htask : s.memberOf (.task t) = some (ref, joiner.backend.backendId) :=
    congrArg Marks.backend hold
  obtain ⟨g, hg, -⟩ := h.opened_of_member htask
  simp only [State.advance, hg, Option.map_some, Option.some.injEq] at hs'
  have htouch : Touches s s' t ref id {} := by
    rw [← hs']
    exact .of_become (List.getElem?_eq_some_iff.mp hg).1 (List.modify_id _ _).symm
      (fun _ ↦ ⟨rfl, rfl, fun h ↦ h⟩) rfl rfl (fun _ _ ↦ rfl) (fun _ _ ↦ rfl)
      (by rw [hold]; exact .of_none rfl rfl) (.of_none rfl rfl)
  have hproxies : s'.manager.proxies = s.manager.proxies.insert joiner.backend.backendId
      (.grouped ⟨joiner.backend.proxyName, ref, joiner.backend.backendId⟩) := by
    rw [← hs']
    rfl
  have hmember : s'.memberOf = Function.update (Function.update s.memberOf (.task t) none)
      (.entry joiner.backend.backendId) (some (ref, joiner.backend.backendId)) := by
    funext member
    cases member with
    | entry key =>
        by_cases hkey : key = joiner.backend.backendId
        · subst hkey
          simp [State.memberOf, hproxies]
        · simp [State.memberOf, hproxies, hkey]
    | task t' =>
        by_cases htt : t' = t
        · subst htt
          simp [State.memberOf, htouch.marks_self]
        · simp [State.memberOf, htouch.marks, htt]
  have hentry : s.memberOf (.entry joiner.backend.backendId) = none := by
    simp only [State.memberOf, AList.lookup_eq_none.mpr hapart]
  obtain ⟨pool, howned, hpool⟩ := h.backends
  refine htouch.coherent h ?_ ⟨pool, hmember ▸ howned.handOver htask hentry, fun p ↦ ?_⟩ ?_
    (.of_none rfl rfl rfl) ?_
  · rw [htouch.portOf_eq (by rw [← hs']; rfl) (by rw [← hs']; rfl) (by rw [hold])]
    rw [← hs']
    exact h.ports
  · rw [hpool, htouch.hasBackend_same fun _ ↦ rfl]
  · intro g' _ hstage
    exact htouch.stage_same hstage (by rw [hold]) (by rw [hold]) (by rw [← hs']; rfl)
      (by rw [← hs']; rfl) (by rw [← hs']; rfl)
  · intro key p hp
    rw [hmember] at hp
    by_cases hkey : key = joiner.backend.backendId
    · subst hkey
      rw [Function.update_self] at hp
      obtain rfl := Option.some.inj hp
      exact htouch.started_mono _ ((h.marked t).entering ref (by rw [hold]))
    · rw [Function.update_of_ne (by simpa using hkey), Function.update_of_ne (by simp)] at hp
      exact htouch.started_mono _ (h.entered key p hp)

/-- Taking a member out of the manager: the task answers for the backend. -/
theorem leave (h : Coherent s) {key : String} {member : GroupedMemberProxy} (ht : t ∉ s.tasks)
    (hkey : s.manager.proxies.lookup key = some (.grouped member)) :
    Coherent ({ s with manager := s.manager.remove key }.become t
      (some (.retaining member.grouped member.backendId))) := by
  have hold : s.marks t = {} := State.marks_of_notMem ht
  have hentry : s.memberOf (.entry key) = some (member.grouped, member.backendId) := by
    simp only [State.memberOf, hkey]
  have htask : s.memberOf (.task t) = none := by simp [State.memberOf, hold]
  obtain ⟨g, hg, -⟩ := h.opened_of_member hentry
  have htouch : Touches s ({ s with manager := s.manager.remove key }.become t
      (some (.retaining member.grouped member.backendId))) t member.grouped id
      { backend := some (member.grouped, member.backendId) } :=
    .of_become (List.getElem?_eq_some_iff.mp hg).1 (List.modify_id _ _).symm
      (fun _ ↦ ⟨rfl, rfl, fun h ↦ h⟩) rfl rfl (fun _ _ ↦ rfl) (fun _ _ ↦ rfl)
      (by rw [hold]; exact .of_none rfl rfl) (.of_none rfl rfl)
  have hmember : ({ s with manager := s.manager.remove key }.become t
      (some (.retaining member.grouped member.backendId))).memberOf =
      Function.update (Function.update s.memberOf (.entry key) none) (.task t)
        (some (member.grouped, member.backendId)) := by
    rw [State.memberOf_become]
    congr 1
    funext m
    cases m with
    | entry key' =>
        by_cases hk : key' = key
        · subst hk
          simp [State.memberOf, ProxyManager.remove]
        · simp [State.memberOf, ProxyManager.remove, hk]
    | task t' => rfl
  obtain ⟨pool, howned, hpool⟩ := h.backends
  refine htouch.coherent h ?_ ⟨pool, hmember ▸ howned.handOver hentry htask, fun p ↦ ?_⟩ ?_ ?_ ?_
  · rw [htouch.portOf_eq rfl rfl (by rw [hold])]
    exact h.ports
  · rw [hpool, htouch.hasBackend_same fun _ ↦ rfl]
  · intro g' _ hstage
    exact htouch.stage_same hstage (by rw [hold]) (by rw [hold]) rfl rfl rfl
  · exact .of_none rfl rfl rfl
  · intro key' p hp
    rw [hmember, Function.update_of_ne (by simp)] at hp
    by_cases hk : key' = key
    · rw [hk, Function.update_self] at hp
      cases hp
    · rw [Function.update_of_ne (by simpa using hk)] at hp
      exact htouch.started_mono _ (h.entered key' p hp)

/-- Taking a backend out: the group stays open, or the task starts to close it. -/
theorem retaining {s' : State} {bind : Option String} {id : String} (h : Coherent s)
    (ht : s.tasks.lookup t = some (.retaining ref id)) (hapart : Apart s (.retaining ref id))
    (hs' : s.advance t bind (.retaining ref id) = some s') : Coherent s' := by
  have hold : s.marks t = { backend := some (ref, id) } := State.marks_of_lookup ht
  have htask : s.memberOf (.task t) = some (ref, id) := congrArg Marks.backend hold
  obtain ⟨g, hg, -, -, hcloser, hreleases, hstored, hloop⟩ := h.opened_of_member htask
  simp only [State.advance, hg, Option.map_some, Option.some.injEq] at hs'
  subst hs'
  set task : Option Task :=
    if (g.dropBackend id).backends.isEmpty then some (.signalling ref) else none with htask'
  set c : Option (Nat × Nat) :=
    if (g.dropBackend id).backends.isEmpty then some (ref, 0) else none with hc
  have hnew : (task.map Task.marks).getD {} = { closing := c } := by
    rw [htask', hc]
    split <;> rfl
  have hclosing : ∀ r n, c = some (r, n) → r = ref ∧ n = 0 := by
    intro r n hr
    rw [hc] at hr
    split at hr
    · obtain ⟨rfl, rfl⟩ := Prod.mk.inj (Option.some.inj hr)
      exact ⟨rfl, rfl⟩
    · cases hr
  have hlt : ref < s.manager.groups.length := (List.getElem?_eq_some_iff.mp hg).1
  have htouch : Touches s ((s.onGroup ref (·.dropBackend id)).become t task) t ref
      (·.dropBackend id) { closing := c } := by
    rw [← hnew]
    refine .of_become hlt rfl (fun _ ↦ ⟨rfl, rfl, fun h ↦ h⟩) rfl rfl (fun _ _ ↦ rfl)
      (fun _ _ ↦ rfl) (by rw [hold]; exact .of_none rfl rfl) ?_
    rw [hnew]
    exact ⟨by simp, fun r n hr ↦ (hclosing r n hr).1⟩
  have hmember := htouch.memberOf_eq (by simp [State.onGroup])
  obtain ⟨pool, howned, hpool⟩ := h.backends
  refine htouch.coherent h ?_ ⟨_, hmember ▸ howned.release htask, ?_⟩ ?_ ?_ ?_
  · rw [htouch.portOf_eq (by simp [State.onGroup]) (by simp [State.onGroup]) (by rw [hold])]
    rw [State.manager_become]
    exact h.ports
  · rintro ⟨r, id'⟩
    rw [htouch.hasBackend_iff, Finset.mem_erase, hpool, State.HasBackend]
    by_cases hr : r = ref
    · subst hr
      simp [hg, mem_backendIds_dropBackend, and_comm]
    · simp [hr]
  · intro g' hg' _
    obtain rfl := Option.some.inj (hg.symm.trans hg')
    by_cases hempty : (g.dropBackend id).backends = []
    · have hadder := State.not_marks_of_noTask (p := fun m ↦ m.adding = some ref)
        (hapart g hg hempty) (by simp)
      refine .closing t 0 ?_ ?_ hempty ?_ (by rw [State.releases_become]; exact hreleases)
        (by rw [State.manager_become]; exact hstored)
      · rw [htouch.marks_self, hc, hempty]
        rfl
      · intro t' n hn
        by_contra htt
        rw [htouch.marks, Function.update_of_ne htt] at hn
        exact hcloser t' n hn
      · exact htouch.noAdder hadder rfl
    · exact .opened (.inl hempty)
        (htouch.noCloser hcloser (by rw [hc, if_neg (by simpa using hempty)]))
        (by rw [State.releases_become]; exact hreleases)
        (by rw [State.manager_become]; exact hstored) (by rw [State.loop_become]; exact hloop)
  · refine ⟨by simp, fun r n hr ↦ ?_, by simp⟩
    obtain ⟨rfl, rfl⟩ := hclosing r n hr
    simpa [State.onGroup] using hlt
  · intro key p hp
    rw [hmember, Function.update_of_ne (by simp)] at hp
    exact htouch.started_mono _ (h.entered key p hp)

/-- The group a task closes is being closed by that task alone. -/
theorem closing_of_closer (h : Coherent s) {n : Nat} (ht : (s.marks t).closing = some (ref, n)) :
    ∃ g, s.manager.groups[ref]? = some g ∧ g.backends = [] ∧
      (∀ t' n', (s.marks t').closing = some (ref, n') → t' = t) ∧
      (∀ t', (s.marks t').adding ≠ some ref) ∧ s.releases ref = n ∧
      s.manager.tcpGroups.lookup g.groupId = some ref := by
  obtain ⟨hlt, -⟩ := (h.marked t).closing ref n ht
  obtain ⟨g, hg⟩ : ∃ g, s.manager.groups[ref]? = some g := ⟨_, List.getElem?_eq_getElem hlt⟩
  cases h.stage ref g hg with
  | opened _ hcloser => exact absurd ht (hcloser t n)
  | closing t₀ n₀ hcloser honly hempty hadder hreleases hstored =>
      obtain rfl := honly t n ht
      rw [ht] at hcloser
      obtain ⟨-, rfl⟩ := Prod.mk.inj (Option.some.inj hcloser)
      exact ⟨g, hg, hempty, honly, hadder, hreleases, hstored⟩
  | closed _ _ hcloser => exact absurd ht (hcloser t n)

/-- Sending the shutdown signal: the loop of a group nobody uses ends. -/
theorem signalling {s' : State} {bind : Option String} (h : Coherent s)
    (ht : s.tasks.lookup t = some (.signalling ref))
    (hs' : s.advance t bind (.signalling ref) = some s') : Coherent s' := by
  have hold : s.marks t = { closing := some (ref, 0) } := State.marks_of_lookup ht
  obtain ⟨g, hg, hempty, honly, hadder, hreleases, hstored⟩ :=
    h.closing_of_closer (n := 0) (congrArg Marks.closing hold)
  have hlt : ref < s.manager.groups.length := (List.getElem?_eq_some_iff.mp hg).1
  obtain rfl := Option.some.inj hs'
  have htouch : Touches s ({ s with
      loop := Function.update s.loop ref (s.loop ref).signal }.become t (some (.releasing ref)))
      t ref id { closing := some (ref, 0) } :=
    .of_become hlt (List.modify_id _ _).symm (fun _ ↦ ⟨rfl, rfl, fun h ↦ h⟩) rfl rfl
      (fun _ hr ↦ Function.update_of_ne hr _ _) (fun _ _ ↦ rfl)
      (by rw [hold]; exact .of_closing ref 0) (.of_closing ref 0)
  have hmarks : ∀ t', (({ s with
      loop := Function.update s.loop ref (s.loop ref).signal }.become t
        (some (.releasing ref))).marks t') = s.marks t' := by
    intro t'
    rw [htouch.marks, ← hold, Function.update_eq_self]
  refine htouch.coherent_of_same h rfl rfl rfl rfl (by rw [hold]) (by rw [hold]) (fun _ ↦ rfl) ?_ ?_
  · intro g' hg' _
    obtain rfl := Option.some.inj (hg.symm.trans hg')
    refine .closing t 0 (by rw [hmarks, hold]) (fun t' n hn ↦ honly t' n (hmarks t' ▸ hn)) hempty
      (fun t' ↦ hmarks t' ▸ hadder t') hreleases hstored
  · rw [← hold]
    exact (h.marked t).mono le_rfl htouch.started_mono

/-- Releasing the port of the group that is being closed. -/
theorem releasing {s' : State} {bind : Option String} (h : Coherent s)
    (ht : s.tasks.lookup t = some (.releasing ref))
    (hs' : s.advance t bind (.releasing ref) = some s') : Coherent s' := by
  have hold : s.marks t = { closing := some (ref, 0) } := State.marks_of_lookup ht
  obtain ⟨g, hg, hempty, honly, hadder, hreleases, hstored⟩ :=
    h.closing_of_closer (n := 0) (congrArg Marks.closing hold)
  have hlt : ref < s.manager.groups.length := (List.getElem?_eq_some_iff.mp hg).1
  simp only [State.advance, hg, Option.map_some, Option.some.injEq] at hs'
  have htouch : Touches s s' t ref id { closing := some (ref, 1) } := by
    rw [← hs']
    exact .of_become hlt (List.modify_id _ _).symm (fun _ ↦ ⟨rfl, rfl, fun h ↦ h⟩) rfl rfl
      (fun _ _ ↦ rfl) (fun _ hr ↦ Function.update_of_ne hr _ _)
      (by rw [hold]; exact .of_closing ref 0) (.of_closing ref 1)
  have hmember : s'.memberOf = s.memberOf := by
    rw [htouch.memberOf_eq (by rw [← hs']; rfl)]
    have hnone : s.memberOf (.task t) = none := by simp [State.memberOf, hold]
    rw [← hnone, Function.update_eq_self]
  have hreleased : s'.releases ref = 1 := by
    rw [← hs']
    show Function.update s.releases ref _ ref = 1
    rw [Function.update_self, hreleases]
  have hportOf : s'.portOf = Function.update s.portOf (.group ref) none := by
    funext holder
    cases holder with
    | other port =>
        rw [← hs']
        rfl
    | task t' =>
        by_cases htt : t' = t
        · subst htt
          simp [State.portOf, htouch.marks_self, hold]
        · simp [State.portOf, htouch.marks, htt]
    | group r =>
        by_cases hr : r = ref
        · subst hr
          simp [State.portOf, hreleased]
        · rw [Function.update_of_ne (by simpa using hr)]
          exact htouch.portOf_group (htouch.releases r hr)
  have hgroup : s.portOf (.group ref) = some g.remotePort := by
    simp [State.portOf, hreleases, hg]
  refine htouch.coherent h ?_ ?_ ?_ ?_ ?_
  · rw [hportOf, ← hs']
    exact h.ports.release hgroup
  · rw [hmember]
    simp only [htouch.hasBackend_same fun _ ↦ rfl]
    exact h.backends
  · intro g' hg' _
    obtain rfl := Option.some.inj (hg.symm.trans hg')
    refine .closing t 1 (by rw [htouch.marks_self]) ?_ hempty ?_ hreleased (hs' ▸ hstored)
    · intro t' n hn
      by_contra htt
      rw [htouch.marks, Function.update_of_ne htt] at hn
      exact htt (honly t' n hn)
    · exact htouch.noAdder hadder rfl
  · refine ⟨by simp, fun r n hr ↦ ?_, by simp⟩
    obtain ⟨rfl, rfl⟩ := Prod.mk.inj (Option.some.inj hr)
    rw [htouch.groups, List.length_modify]
    exact ⟨hlt, le_rfl⟩
  · rw [hmember]
    exact fun key p hp ↦ htouch.started_mono _ (h.entered key p hp)

/-- Taking the group out of the table. -/
theorem forgetting {s' : State} {bind : Option String} (h : Coherent s)
    (ht : s.tasks.lookup t = some (.forgetting ref))
    (hs' : s.advance t bind (.forgetting ref) = some s') : Coherent s' := by
  have hold : s.marks t = { closing := some (ref, 1) } := State.marks_of_lookup ht
  obtain ⟨g, hg, hempty, honly, hadder, hreleases, hstored⟩ :=
    h.closing_of_closer (n := 1) (congrArg Marks.closing hold)
  simp only [State.advance, hg, Option.map_some, Option.some.injEq] at hs'
  have hlookup : ∀ gid, s'.manager.tcpGroups.lookup gid =
      if gid = g.groupId then none else s.manager.tcpGroups.lookup gid := by
    intro gid
    rw [← hs']
    exact Table.lookup_erase_ite _ _ _
  have htouch : Touches s s' t ref id {} :=
    { exists_group := (List.getElem?_eq_some_iff.mp hg).1
      groups := by rw [← hs']; exact (List.modify_id _ _).symm
      groupId := fun _ ↦ rfl
      remotePort := fun _ ↦ rfl
      started := fun _ h ↦ h
      kept := by
        intro gid r hr
        rw [hlookup] at hr
        split at hr
        · cases hr
        · exact hr
      elsewhere := by
        intro gid r hne hr
        rw [hlookup, if_neg, hr]
        rintro rfl
        exact hne (Option.some.inj (hr.symm.trans hstored))
      loop := fun _ _ ↦ by rw [← hs']; rfl
      releases := fun _ _ ↦ by rw [← hs']; rfl
      marks := by rw [← hs']; exact State.marks_become _ _ _
      before := by rw [hold]; exact .of_closing ref 1
      after := .of_none rfl rfl }
  refine htouch.coherent_of_same h (by rw [← hs']; rfl) (by rw [← hs']; rfl) (by rw [← hs']; rfl)
    (by rw [← hs']; rfl) (by rw [hold]) (by rw [hold]) (fun _ ↦ rfl) ?_
    (.of_none rfl rfl rfl)
  intro g' hg' _
  obtain rfl := Option.some.inj (hg.symm.trans hg')
  refine .closed hempty ?_ ?_ (by rw [← hs']; exact hreleases) ?_
  · exact htouch.noAdder hadder rfl
  · exact htouch.forall_marks (p := fun m ↦ ∀ n, m.closing ≠ some (ref, n))
      (fun t' htt n hn ↦ htt (honly t' n hn)) (by simp)
  · rw [hlookup]
    simp

/-- A proxy outside groups takes a port or gives it back. -/
theorem moved_other (h : Coherent s) {rc : ResourceController} {others : Finset UInt16}
    (port : UInt16) (held : Option UInt16)
    (hothers : ∀ p, (if p ∈ others then some p else none) =
      if p = port then held else if p ∈ s.others then some p else none)
    (hports : Owned rc.tcpPorts (Function.update s.portOf (.other port) held)) :
    Coherent { s with manager.resources := rc, others := others } := by
  refine h.congr ?_ rfl rfl rfl rfl rfl fun _ ↦ rfl
  convert hports using 1
  funext holder
  cases holder with
  | other p =>
      by_cases hp : p = port
      · subst hp
        simpa [State.portOf] using hothers p
      · simpa [State.portOf, hp] using hothers p
  | task t => rfl
  | group ref => rfl

/-- A proxy outside groups inserts a port that is still free. -/
theorem reserving {s' : State} {bind : Option String} {port : UInt16} (h : Coherent s)
    (ht : s.tasks.lookup t = some (.reserving port)) (hapart : Apart s (.reserving port))
    (hs' : s.advance t bind (.reserving port) = some s') : Coherent s' := by
  obtain rfl := Option.some.inj hs'
  have hother : s.portOf (.other port) = none := by
    by_contra hne
    obtain ⟨p, hp⟩ := Option.ne_none_iff_exists'.mp hne
    have hmem := (h.ports.mem_iff p).mpr ⟨_, hp⟩
    simp only [State.portOf] at hp
    split at hp
    · exact hapart (Option.some.inj hp ▸ hmem)
    · cases hp
  have htaken : Coherent { s.insertPort port with others := insert port s.others } := by
    refine h.moved_other port (some port) ?_ (h.ports.take hapart hother)
    intro p
    by_cases hp : p = port <;> simp [hp]
  exact htaken.become (State.marks_of_lookup ht).symm

/-- One critical section of a task. -/
theorem advance {s' : State} {bind : Option String} {task : Task} (h : Coherent s)
    (ht : s.tasks.lookup t = some task) (hapart : Apart s task)
    (hs' : s.advance t bind task = some s') : Coherent s' := by
  cases task with
  | finding joiner => exact h.finding ht hapart hs'
  | allocating joiner => exact h.allocating ht hs'
  | inserting joiner => exact h.inserting ht hapart hs'
  | reserving port => exact h.reserving ht hapart hs'
  | founding joiner port => exact h.founding ht hapart hs'
  | adding ref joiner => exact h.adding ht hapart hs'
  | starting ref joiner => exact h.starting ht hs'
  | entering ref joiner => exact h.entering ht hapart hs'
  | retaining ref id => exact h.retaining ht hapart hs'
  | signalling ref => exact h.signalling ht hs'
  | releasing ref => exact h.releasing ht hs'
  | forgetting ref => exact h.forgetting ht hs'

/-- A loop moves on; the loops of open groups keep accepting. -/
theorem relooped (h : Coherent s) {loop : Nat → Loop}
    (hloop : ∀ ref g, s.manager.groups[ref]? = some g →
      (g.backends ≠ [] ∨ ∃ t, (s.marks t).adding = some ref) →
      s.loop ref = .starting ∨ s.loop ref = .running →
      loop ref = .starting ∨ loop ref = .running) : Coherent { s with loop := loop } where
  ports := h.ports
  backends := h.backends
  stage ref g hg := by
    cases h.stage ref g hg with
    | opened huse hcloser hreleases hstored hl =>
        exact .opened huse hcloser hreleases hstored
          fun hstarted ↦ hloop ref g hg huse (hl hstarted)
    | closing t n hcloser honly hempty hadder hreleases hstored =>
        exact .closing t n hcloser honly hempty hadder hreleases hstored
    | closed hempty hadder hcloser hreleases hremoved =>
        exact .closed hempty hadder hcloser hreleases hremoved
  stored := h.stored
  marked t := (h.marked t).mono le_rfl fun _ hr ↦ hr
  entered := h.entered
  unfounded := h.unfounded

/-- Changing the loop of one group. -/
theorem update_loop (h : Coherent s) {l : Loop}
    (hl : ∀ g, s.manager.groups[ref]? = some g →
      (g.backends ≠ [] ∨ ∃ t, (s.marks t).adding = some ref) →
      s.loop ref = .starting ∨ s.loop ref = .running → l = .starting ∨ l = .running) :
    Coherent { s with loop := Function.update s.loop ref l } := by
  refine h.relooped fun r g hg huse hlive ↦ ?_
  by_cases hr : r = ref
  · subst hr
    rw [Function.update_self]
    exact hl g hg huse hlive
  · rwa [Function.update_of_ne hr]

end Coherent

/-- Every orderly step keeps the invariant. -/
theorem coherent_step (s : State) (e : Event) (s' : State) (h : Coherent s) (hok : Orderly s e)
    (hs' : step s e = some s') : Coherent s' := by
  cases e with
  | join t runId msg tx =>
      simp only [step] at hs'
      split at hs'
      · cases hs'
      · next ht =>
          obtain ⟨gid, -, rfl⟩ := Option.map_eq_some_iff.mp hs'
          split
          · exact h
          · exact h.become (State.marks_of_notMem ht).symm
  | leave t key =>
      simp only [step] at hs'
      split at hs'
      · cases hs'
      · next ht =>
          split at hs'
          · next member hkey =>
              obtain rfl := Option.some.inj hs'
              exact h.leave ht hkey
          · cases hs'
  | advance t bind =>
      obtain ⟨task, htask, hadvance⟩ := Option.bind_eq_some_iff.mp hs'
      exact h.advance htask (hok task htask) hadvance
  | subscribe ref =>
      simp only [step] at hs'
      split at hs'
      · obtain rfl := Option.some.inj hs'
        exact h.update_loop fun _ _ _ _ ↦ .inr rfl
      · cases hs'
  | stop ref =>
      simp only [step] at hs'
      split at hs'
      · next hloop =>
          obtain rfl := Option.some.inj hs'
          refine h.update_loop fun g _ _ hlive ↦ ?_
          rw [hloop] at hlive
          rcases hlive with hlive | hlive <;> cases hlive
      · cases hs'
  | acceptFails ref =>
      simp only [step] at hs'
      split at hs'
      · obtain rfl := Option.some.inj hs'
        refine h.update_loop fun g hg huse _ ↦ ?_
        rcases huse with hne | ⟨t, ht⟩
        · exact absurd (hok.1 g hg) hne
        · exact absurd ht (State.not_marks_of_noTask (p := fun m ↦ m.adding = some ref) hok.2
            (by simp) t)
      · cases hs'
  | take t port =>
      simp only [step] at hs'
      split at hs'
      · cases hs'
      · next ht =>
          obtain rfl := Option.some.inj hs'
          refine h.become ?_
          rw [State.marks_of_notMem ht]
          split <;> rfl
  | give port =>
      simp only [step] at hs'
      split at hs'
      · next hmem =>
          obtain rfl := Option.some.inj hs'
          refine h.moved_other port none ?_ ?_
          · intro p
            by_cases hp : p = port <;> simp [hp]
          · exact h.ports.release (by simp [State.portOf, hmem])
      · cases hs'

end Arp.Server.Groups
