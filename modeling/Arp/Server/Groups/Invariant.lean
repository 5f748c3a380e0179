import Arp.Lib.Ownership
import Arp.Server.Groups.Machine

/-!
# The invariant of joining and leaving

The invariant `Coherent` sees a task only through its marks: the port and the
backend it answers for, and the group it is about to add to, to enter a member for
or to close.  Ports and backends are owned: every allocated port and every backend
of a group has exactly one holder.  Every group is at one of three stages: it is in
use, one task is closing it, or it is closed and its port has been released once.

`Touches` is the frame of a step that concerns one group.
-/

namespace Arp.Server.Groups

open Arp.Common Arp.Lib ProxyManager

namespace State

/-- The marks of a task; none if it is not at work. -/
def marks (s : State) (t : Nat) : Marks := ((s.tasks.lookup t).map Task.marks).getD {}

theorem marks_of_lookup {s : State} {t : Nat} {task : Task} (h : s.tasks.lookup t = some task) :
    s.marks t = task.marks := by
  rw [marks, h]
  rfl

theorem marks_of_notMem {s : State} {t : Nat} (h : t ∉ s.tasks) : s.marks t = {} := by
  rw [marks, AList.lookup_eq_none.mpr h]
  rfl

theorem marks_become (s : State) (t : Nat) (task : Option Task) :
    (s.become t task).marks = Function.update s.marks t ((task.map Task.marks).getD {}) := by
  funext t'
  by_cases ht : t' = t
  · subst ht
    rw [Function.update_self]
    cases task with
    | some task => exact marks_of_lookup (AList.lookup_insert _)
    | none => exact congrArg (fun o ↦ (Option.map Task.marks o).getD {}) (AList.lookup_erase _ _)
  · rw [Function.update_of_ne ht]
    cases task with
    | some task =>
        exact congrArg (fun o ↦ (Option.map Task.marks o).getD {}) (AList.lookup_insert_ne ht)
    | none => exact congrArg (fun o ↦ (Option.map Task.marks o).getD {}) (AList.lookup_erase_ne ht)

/-- A task whose marks stay as they are moves on unseen. -/
theorem marks_become_same {s : State} {t : Nat} {task : Option Task}
    (h : (task.map Task.marks).getD {} = s.marks t) : (s.become t task).marks = s.marks := by
  rw [marks_become, h, Function.update_eq_self]

/-- What no task is marked with. -/
theorem not_marks_of_noTask {s : State} {p : Marks → Prop} (h : s.NoTask fun task ↦ p task.marks)
    (hblank : ¬p {}) (t : Nat) : ¬p (s.marks t) := by
  cases ht : s.tasks.lookup t with
  | none => rwa [marks, ht]
  | some task =>
      rw [marks_of_lookup ht]
      exact h t task ht

end State

/-- Who holds a port. -/
inductive PortHolder where
  | other (port : UInt16)
  | task (t : Nat)
  | group (ref : Nat)
deriving DecidableEq

/-- Who answers for a backend of a group: an entry of the manager, or a task that
adds or removes one. -/
inductive Member where
  | entry (key : String)
  | task (t : Nat)
deriving DecidableEq

namespace State

/-- The port of a holder. -/
def portOf (s : State) : PortHolder → Option UInt16
  | .other port => if port ∈ s.others then some port else none
  | .task t => (s.marks t).port
  | .group ref =>
    if s.releases ref = 0 then s.manager.groups[ref]?.map GroupedTcpProxy.remotePort else none

/-- The backend somebody answers for. -/
def memberOf (s : State) : Member → Option (Nat × String)
  | .entry key =>
    match s.manager.proxies.lookup key with
    | some (.grouped member) => some (member.grouped, member.backendId)
    | _ => none
  | .task t => (s.marks t).backend

/-- The group has the backend. -/
def HasBackend (s : State) (p : Nat × String) : Prop :=
  ∃ g, s.manager.groups[p.1]? = some g ∧ p.2 ∈ g.backendIds

/-- The group has been started. -/
def Started (s : State) (ref : Nat) : Prop :=
  ∃ g, s.manager.groups[ref]? = some g ∧ g.started = true

end State

/-- A group is in use, is being closed by one task, or is closed. -/
inductive Stage (s : State) (ref : Nat) (g : GroupedTcpProxy) : Prop
  | opened (inUse : g.backends ≠ [] ∨ ∃ t, (s.marks t).adding = some ref)
      (noCloser : ∀ t n, (s.marks t).closing ≠ some (ref, n)) (releases : s.releases ref = 0)
      (stored : s.manager.tcpGroups.lookup g.groupId = some ref)
      (loop : g.started = true → s.loop ref = .starting ∨ s.loop ref = .running)
  | closing (t n : Nat) (closer : (s.marks t).closing = some (ref, n))
      (only : ∀ t' n', (s.marks t').closing = some (ref, n') → t' = t) (empty : g.backends = [])
      (noAdder : ∀ t, (s.marks t).adding ≠ some ref) (releases : s.releases ref = n)
      (stored : s.manager.tcpGroups.lookup g.groupId = some ref)
  | closed (empty : g.backends = []) (noAdder : ∀ t, (s.marks t).adding ≠ some ref)
      (noCloser : ∀ t n, (s.marks t).closing ≠ some (ref, n)) (releases : s.releases ref = 1)
      (removed : s.manager.tcpGroups.lookup g.groupId ≠ some ref)

/-- The marks of a task refer to groups there are. -/
structure Marks.Valid (s : State) (m : Marks) : Prop where
  adding : ∀ ref, m.adding = some ref → ref < s.manager.groups.length
  closing : ∀ ref n, m.closing = some (ref, n) → ref < s.manager.groups.length ∧ n ≤ 1
  entering : ∀ ref, m.entering = some ref → s.Started ref

theorem Marks.Valid.of_none {s : State} {m : Marks} (hadding : m.adding = none)
    (hclosing : m.closing = none) (hentering : m.entering = none) : m.Valid s := by
  refine ⟨?_, ?_, ?_⟩
  · simp [hadding]
  · simp [hclosing]
  · simp [hentering]

theorem Marks.Valid.mono {s s' : State} {m : Marks} (h : m.Valid s)
    (hlength : s.manager.groups.length ≤ s'.manager.groups.length)
    (hstarted : ∀ ref, s.Started ref → s'.Started ref) : m.Valid s' where
  adding ref href := (h.adding ref href).trans_le hlength
  closing ref n href := ⟨(h.closing ref n href).1.trans_le hlength, (h.closing ref n href).2⟩
  entering ref href := hstarted ref (h.entering ref href)

/-- The invariant of the machine. -/
structure Coherent (s : State) : Prop where
  ports : Owned s.manager.resources.tcpPorts s.portOf
  backends : ∃ pool, Owned pool s.memberOf ∧ ∀ p, p ∈ pool ↔ s.HasBackend p
  stage : ∀ ref g, s.manager.groups[ref]? = some g → Stage s ref g
  stored : ∀ gid ref, s.manager.tcpGroups.lookup gid = some ref →
    ∃ g, s.manager.groups[ref]? = some g ∧ g.groupId = gid
  marked : ∀ t, (s.marks t).Valid s
  entered : ∀ key p, s.memberOf (.entry key) = some p → s.Started p.1
  unfounded : ∀ ref, s.manager.groups.length ≤ ref → s.releases ref = 0

namespace Coherent

/-- A manager without proxies. -/
theorem new (vhostManager : VhostManager) (allowPorts : List PortRange) :
    Coherent (.new vhostManager allowPorts) where
  ports := by
    have hnone : (State.new vhostManager allowPorts).portOf = fun _ ↦ none := by
      funext holder
      cases holder <;> rfl
    rw [hnone]
    exact .empty
  backends := by
    have hnone : (State.new vhostManager allowPorts).memberOf = fun _ ↦ none := by
      funext member
      cases member <;> rfl
    refine ⟨∅, hnone ▸ .empty, fun p ↦ ?_⟩
    simp [State.HasBackend, State.new, ProxyManager.new]
  stage _ _ h := by cases h
  stored _ _ h := by cases h
  marked _ := .of_none rfl rfl rfl
  entered _ _ h := by cases h
  unfounded _ _ := rfl

variable {s : State}

/-- Whoever answers for a backend has one in an open group. -/
theorem opened_of_member (h : Coherent s) {m : Member} {ref : Nat} {id : String}
    (hm : s.memberOf m = some (ref, id)) :
    ∃ g, s.manager.groups[ref]? = some g ∧ id ∈ g.backendIds ∧ g.backends ≠ [] ∧
      (∀ t n, (s.marks t).closing ≠ some (ref, n)) ∧ s.releases ref = 0 ∧
      s.manager.tcpGroups.lookup g.groupId = some ref ∧
      (g.started = true → s.loop ref = .starting ∨ s.loop ref = .running) := by
  obtain ⟨pool, howned, hpool⟩ := h.backends
  obtain ⟨g, hg, hid⟩ := (hpool _).mp ((howned.mem_iff _).mpr ⟨m, hm⟩)
  have hne : g.backends ≠ [] := backends_ne_nil hid
  cases h.stage ref g hg with
  | opened _ hcloser hreleases hstored hloop =>
      exact ⟨g, hg, hid, hne, hcloser, hreleases, hstored, hloop⟩
  | closing _ _ _ _ hempty => exact absurd hempty hne
  | closed hempty => exact absurd hempty hne

/-- The invariant gives what users rely on. -/
theorem sound (h : Coherent s) : Sound s := by
  have hentry : ∀ key member, s.manager.proxies.lookup key = some (.grouped member) →
      s.memberOf (.entry key) = some (member.grouped, member.backendId) := by
    intro key member hkey
    simp only [State.memberOf, hkey]
  have hlength : ∀ ref, s.releases ref ≠ 0 → ∃ g, s.manager.groups[ref]? = some g := by
    intro ref hne
    have hlt : ref < s.manager.groups.length := by
      by_contra hge
      exact hne (h.unfounded ref (by omega))
    exact ⟨_, List.getElem?_eq_getElem hlt⟩
  refine ⟨?_, ?_, ?_, ?_⟩
  · intro key member hkey
    obtain ⟨g, hg, -, -, -, hreleases, hstored, hloop⟩ :=
      h.opened_of_member (hentry key member hkey)
    obtain ⟨g', hg', hstarted⟩ := h.entered key _ (hentry key member hkey)
    obtain rfl := Option.some.inj (hg.symm.trans hg')
    refine ⟨g, hg, ?_, hstored, (h.ports.mem_iff _).mpr ⟨.group member.grouped, ?_⟩⟩
    · rcases hloop hstarted with hl | hl
      · exact .inl hl
      · exact .inr (.inl hl)
    · simp only [State.portOf, hreleases, if_true, hg, Option.map_some]
  · intro ref
    by_cases hzero : s.releases ref = 0
    · omega
    · obtain ⟨g, hg⟩ := hlength ref hzero
      cases h.stage ref g hg with
      | opened _ _ hreleases => omega
      | closing t n hcloser _ _ _ hreleases =>
          have := ((h.marked t).closing ref n hcloser).2
          omega
      | closed _ _ _ hreleases => omega
  · rintro ref hpos ⟨key, member, hkey, rfl⟩
    obtain ⟨_, _, _, _, _, hreleases, _⟩ := h.opened_of_member (hentry key member hkey)
    omega
  · intro ref hlt hnone htasks
    have hidle := State.not_marks_of_noTask (p := Marks.WorksOn ref) htasks
      (by simp [Marks.WorksOn])
    obtain ⟨g, hg⟩ : ∃ g, s.manager.groups[ref]? = some g := ⟨_, List.getElem?_eq_getElem hlt⟩
    cases h.stage ref g hg with
    | opened huse =>
        exfalso
        rcases huse with hne | ⟨t, ht⟩
        · -- Somebody answers for the first backend: an entry or a task.
          obtain ⟨backend, hb⟩ := List.exists_mem_of_ne_nil _ hne
          obtain ⟨pool, howned, hpool⟩ := h.backends
          obtain ⟨m, hm⟩ := (howned.mem_iff (ref, backend.backendId)).mp
            ((hpool _).mpr ⟨g, hg, List.mem_map_of_mem hb⟩)
          cases m with
          | task t => exact hidle t (.inl (by rw [show (s.marks t).backend = _ from hm]; rfl))
          | entry key =>
              simp only [State.memberOf] at hm
              split at hm
              · next member hkey =>
                  exact hnone ⟨key, member, hkey, (Prod.mk.inj (Option.some.inj hm)).1⟩
              · cases hm
        · exact hidle t (.inr (.inl ht))
    | closing t n hcloser => exact absurd (.inr (.inr (by rw [hcloser]; rfl))) (hidle t)
    | closed _ _ _ hreleases => exact hreleases

end Coherent

/-! ## What a step changes -/

namespace State

@[simp] theorem manager_become (s : State) (t : Nat) (task : Option Task) :
    (s.become t task).manager = s.manager := by cases task <;> rfl

@[simp] theorem loop_become (s : State) (t : Nat) (task : Option Task) :
    (s.become t task).loop = s.loop := by cases task <;> rfl

@[simp] theorem releases_become (s : State) (t : Nat) (task : Option Task) :
    (s.become t task).releases = s.releases := by cases task <;> rfl

@[simp] theorem others_become (s : State) (t : Nat) (task : Option Task) :
    (s.become t task).others = s.others := by cases task <;> rfl

theorem portOf_become (s : State) (t : Nat) (task : Option Task) :
    (s.become t task).portOf =
      Function.update s.portOf (.task t) ((task.map Task.marks).getD {}).port := by
  funext h
  cases h with
  | task t' =>
      by_cases ht : t' = t
      · subst ht
        simp [portOf, marks_become]
      · simp [portOf, marks_become, ht]
  | _ => simp [portOf]

theorem memberOf_become (s : State) (t : Nat) (task : Option Task) :
    (s.become t task).memberOf =
      Function.update s.memberOf (.task t) ((task.map Task.marks).getD {}).backend := by
  funext h
  cases h with
  | task t' =>
      by_cases ht : t' = t
      · subst ht
        simp [memberOf, marks_become]
      · simp [memberOf, marks_become, ht]
  | entry key => simp [memberOf]

/-- Whatever holds of the marks of all tasks and of the new ones. -/
theorem forall_marks_become {s : State} {t : Nat} {task : Option Task} {p : Marks → Prop}
    (hold : ∀ t', p (s.marks t')) (hnew : p ((task.map Task.marks).getD {})) (t' : Nat) :
    p ((s.become t task).marks t') := by
  rw [marks_become]
  by_cases ht : t' = t
  · subst ht
    rwa [Function.update_self]
  · rw [Function.update_of_ne ht]
    exact hold t'

end State

theorem started_addBackend (g : GroupedTcpProxy) (b : GroupedBackend) :
    (g.addBackend b).started = g.started := by
  unfold GroupedTcpProxy.addBackend
  split <;> rfl

section Found

variable {pm : ProxyManager} {gid : String} {port : UInt16} {r : Nat} {g : GroupedTcpProxy}

theorem getElem?_found_of_ne (hr : r ≠ pm.groups.length) :
    (found pm gid port).groups[r]? = pm.groups[r]? := by
  show (pm.groups ++ [_])[r]? = _
  rw [List.getElem?_append]
  split
  · rfl
  · next hge =>
      rw [List.getElem?_eq_none (by rw [List.length_singleton]; omega),
        List.getElem?_eq_none (by omega)]

theorem getElem?_found_self (pm : ProxyManager) (gid : String) (port : UInt16) :
    (found pm gid port).groups[pm.groups.length]? = some ⟨gid, port, false, []⟩ := by
  simp [found]

theorem getElem?_found_of_some (hg : pm.groups[r]? = some g) :
    (found pm gid port).groups[r]? = some g := by
  rw [getElem?_found_of_ne (List.getElem?_eq_some_iff.mp hg).1.ne, hg]

/-- The groups are the old ones and the new one. -/
theorem getElem?_found_eq_some (hg : (found pm gid port).groups[r]? = some g) :
    pm.groups[r]? = some g ∨ r = pm.groups.length ∧ g = ⟨gid, port, false, []⟩ := by
  by_cases hr : r = pm.groups.length
  · rw [hr, getElem?_found_self] at hg
    exact .inr ⟨hr, (Option.some.inj hg).symm⟩
  · rw [getElem?_found_of_ne hr] at hg
    exact .inl hg

theorem lookup_found (pm : ProxyManager) (gid gid' : String) (port : UInt16) (r : Nat) :
    (found pm gid port).tcpGroups.lookup gid' = some r ↔
      if gid' = gid then r = pm.groups.length else pm.tcpGroups.lookup gid' = some r := by
  show (pm.tcpGroups.insert gid _).lookup gid' = some r ↔ _
  rw [Table.lookup_insert_ite]
  split
  · exact ⟨fun h ↦ (Option.some.inj h).symm, fun h ↦ congrArg some h.symm⟩
  · rfl

end Found

/-- The marks concern no other group. -/
structure Marks.About (ref : Nat) (m : Marks) : Prop where
  adding : ∀ r, m.adding = some r → r = ref
  closing : ∀ r n, m.closing = some (r, n) → r = ref

theorem Marks.About.of_none {ref : Nat} {m : Marks} (hadding : m.adding = none)
    (hclosing : m.closing = none) : m.About ref := by
  refine ⟨?_, ?_⟩
  · simp [hadding]
  · simp [hclosing]

theorem Marks.About.of_adding (ref : Nat) : ({ adding := some ref } : Marks).About ref := by
  refine ⟨?_, ?_⟩
  · simp
  · simp

theorem Marks.About.of_closing (ref n : Nat) :
    ({ closing := some (ref, n) } : Marks).About ref := by
  refine ⟨?_, ?_⟩
  · simp
  · simp

/-- A stage depends on who is about to add a backend, on who closes the group, on
its releases, its place in the table and its loop. -/
theorem Stage.congr {s s' : State} {ref : Nat} {g : GroupedTcpProxy} (h : Stage s ref g)
    (hadding : ∀ t, (s'.marks t).adding = some ref ↔ (s.marks t).adding = some ref)
    (hclosing : ∀ t n, (s'.marks t).closing = some (ref, n) ↔ (s.marks t).closing = some (ref, n))
    (hreleases : s'.releases ref = s.releases ref)
    (hstored : s'.manager.tcpGroups.lookup g.groupId = some ref ↔
      s.manager.tcpGroups.lookup g.groupId = some ref)
    (hloop : s'.loop ref = s.loop ref) : Stage s' ref g := by
  cases h with
  | opened huse hcloser hr hs hl =>
      refine .opened (huse.imp_right (Exists.imp fun t' ↦ (hadding t').mpr))
        (fun t' n h ↦ hcloser t' n ((hclosing t' n).mp h)) (hreleases.trans hr) (hstored.mpr hs) ?_
      rwa [hloop]
  | closing t' n hcloser honly hempty hadder hr hs =>
      exact .closing t' n ((hclosing t' n).mpr hcloser)
        (fun t'' n' h ↦ honly t'' n' ((hclosing t'' n').mp h)) hempty
        (fun t'' h ↦ hadder t'' ((hadding t'').mp h)) (hreleases.trans hr) (hstored.mpr hs)
  | closed hempty hadder hcloser hr hs =>
      exact .closed hempty (fun t' h ↦ hadder t' ((hadding t').mp h))
        (fun t' n h ↦ hcloser t' n ((hclosing t' n).mp h)) (hreleases.trans hr)
        fun h ↦ hs (hstored.mp h)

/-- A step of a task that concerns one group leaves the others where they are. -/
theorem Stage.elsewhere {s s' : State} {ref ref' t : Nat} {g : GroupedTcpProxy} {m : Marks}
    (h : Stage s ref' g) (hne : ref' ≠ ref) (hold : (s.marks t).About ref) (hnew : m.About ref)
    (hmarks : s'.marks = Function.update s.marks t m)
    (hreleases : s'.releases ref' = s.releases ref')
    (hstored : s'.manager.tcpGroups.lookup g.groupId = some ref' ↔
      s.manager.tcpGroups.lookup g.groupId = some ref')
    (hloop : s'.loop ref' = s.loop ref') : Stage s' ref' g := by
  refine h.congr ?_ ?_ hreleases hstored hloop
  · intro t'
    rw [hmarks]
    by_cases ht : t' = t
    · subst ht
      rw [Function.update_self]
      exact ⟨fun h ↦ absurd (hnew.adding _ h) hne, fun h ↦ absurd (hold.adding _ h) hne⟩
    · rw [Function.update_of_ne ht]
  · intro t' n
    rw [hmarks]
    by_cases ht : t' = t
    · subst ht
      rw [Function.update_self]
      exact ⟨fun h ↦ absurd (hnew.closing _ _ h) hne, fun h ↦ absurd (hold.closing _ _ h) hne⟩
    · rw [Function.update_of_ne ht]

/-- A step of a task that concerns one group: it may change the group, its loop,
its releases and its place in the table, and the marks of the task. -/
structure Touches (s s' : State) (t ref : Nat) (f : GroupedTcpProxy → GroupedTcpProxy) (m : Marks) :
    Prop where
  exists_group : ref < s.manager.groups.length
  groups : s'.manager.groups = s.manager.groups.modify ref f
  groupId : ∀ g, (f g).groupId = g.groupId
  remotePort : ∀ g, (f g).remotePort = g.remotePort
  started : ∀ g, g.started = true → (f g).started = true
  kept : ∀ gid r, s'.manager.tcpGroups.lookup gid = some r → s.manager.tcpGroups.lookup gid = some r
  elsewhere : ∀ gid r, r ≠ ref → s.manager.tcpGroups.lookup gid = some r →
    s'.manager.tcpGroups.lookup gid = some r
  loop : ∀ r, r ≠ ref → s'.loop r = s.loop r
  releases : ∀ r, r ≠ ref → s'.releases r = s.releases r
  marks : s'.marks = Function.update s.marks t m
  before : (s.marks t).About ref
  after : m.About ref

namespace Touches

variable {s s' : State} {t ref : Nat} {f : GroupedTcpProxy → GroupedTcpProxy} {m : Marks}

/-- The groups afterwards. -/
theorem getElem? (h : Touches s s' t ref f m) (r : Nat) :
    s'.manager.groups[r]? =
      if r = ref then s.manager.groups[r]?.map f else s.manager.groups[r]? := by
  rw [h.groups]
  split
  · next hr =>
      subst hr
      rw [List.getElem?_modify_eq]
      rfl
  · next hr => exact List.getElem?_modify_ne f _ (Ne.symm hr)

theorem marks_self (h : Touches s s' t ref f m) : s'.marks t = m := by
  rw [h.marks, Function.update_self]

/-- Whatever holds of the marks of the other tasks and of the new ones. -/
theorem forall_marks (h : Touches s s' t ref f m) {p : Marks → Prop}
    (hold : ∀ t', t' ≠ t → p (s.marks t')) (hnew : p m) (t' : Nat) : p (s'.marks t') := by
  by_cases ht : t' = t
  · rwa [ht, h.marks_self]
  · rw [h.marks, Function.update_of_ne ht]
    exact hold t' ht

theorem noCloser (h : Touches s s' t ref f m) (hold : ∀ t' n, (s.marks t').closing ≠ some (ref, n))
    (hm : m.closing = none) : ∀ t' n, (s'.marks t').closing ≠ some (ref, n) :=
  h.forall_marks (p := fun m ↦ ∀ n, m.closing ≠ some (ref, n)) (fun t' _ ↦ hold t') (by simp [hm])

theorem noAdder (h : Touches s s' t ref f m) (hold : ∀ t', (s.marks t').adding ≠ some ref)
    (hm : m.adding = none) : ∀ t', (s'.marks t').adding ≠ some ref :=
  h.forall_marks (p := fun m ↦ m.adding ≠ some ref) (fun t' _ ↦ hold t') (by simp [hm])

theorem started_mono (h : Touches s s' t ref f m) (r : Nat) (hr : s.Started r) : s'.Started r := by
  obtain ⟨g, hg, hstarted⟩ := hr
  by_cases hne : r = ref
  · exact ⟨f g, by rw [h.getElem?, if_pos hne, hg]; rfl, h.started g hstarted⟩
  · exact ⟨g, by rw [h.getElem?, if_neg hne, hg], hstarted⟩

/-- The ports of groups whose releases stay. -/
theorem portOf_group (h : Touches s s' t ref f m) {r : Nat}
    (hreleases : s'.releases r = s.releases r) : s'.portOf (.group r) = s.portOf (.group r) := by
  simp only [State.portOf, hreleases, h.getElem?]
  split
  · split
    · cases s.manager.groups[r]? with
      | none => rfl
      | some g => exact congrArg some (h.remotePort g)
    · rfl
  · rfl

/-- The stage of the group itself, if nobody starts or ends closing it or adding to
it. -/
theorem stage_same (h : Touches s s' t ref f m) {g : GroupedTcpProxy} (hg : Stage s ref g)
    (hadding : m.adding = (s.marks t).adding) (hclosing : m.closing = (s.marks t).closing)
    (hreleases : s'.releases ref = s.releases ref)
    (htcp : s'.manager.tcpGroups = s.manager.tcpGroups) (hloop : s'.loop ref = s.loop ref) :
    Stage s' ref g := by
  refine hg.congr (fun t' ↦ ?_) (fun t' n ↦ ?_) hreleases (by rw [htcp]) hloop
  all_goals
    rw [h.marks]
    by_cases ht : t' = t
    · rw [ht, Function.update_self]
      first | rw [hadding] | rw [hclosing]
    · rw [Function.update_of_ne ht]

/-- The invariant afterwards, given what is new about ports, backends and the
group itself. -/
theorem coherent (h : Touches s s' t ref f m) (hs : Coherent s)
    (hports : Owned s'.manager.resources.tcpPorts s'.portOf)
    (hbackends : ∃ pool, Owned pool s'.memberOf ∧ ∀ p, p ∈ pool ↔ s'.HasBackend p)
    (hstage : ∀ g, s.manager.groups[ref]? = some g → Stage s ref g → Stage s' ref (f g))
    (hvalid : m.Valid s') (hentered : ∀ key p, s'.memberOf (.entry key) = some p → s'.Started p.1) :
    Coherent s' where
  ports := hports
  backends := hbackends
  stage r g hg := by
    rw [h.getElem?] at hg
    split at hg
    · next hr =>
        subst hr
        obtain ⟨g₀, hg₀, rfl⟩ := Option.map_eq_some_iff.mp hg
        exact hstage g₀ hg₀ (hs.stage r g₀ hg₀)
    · next hr =>
        exact (hs.stage r g hg).elsewhere hr h.before h.after h.marks (h.releases r hr)
          ⟨h.kept _ r, h.elsewhere _ r hr⟩ (h.loop r hr)
  stored gid r hr := by
    obtain ⟨g, hg, hid⟩ := hs.stored gid r (h.kept gid r hr)
    by_cases hne : r = ref
    · exact ⟨f g, by rw [h.getElem?, if_pos hne, hg]; rfl, (h.groupId g).trans hid⟩
    · exact ⟨g, by rw [h.getElem?, if_neg hne, hg], hid⟩
  marked t' := by
    rw [h.marks]
    by_cases ht : t' = t
    · rw [ht, Function.update_self]
      exact hvalid
    · rw [Function.update_of_ne ht]
      exact (hs.marked t').mono (by rw [h.groups, List.length_modify]) h.started_mono
  entered := hentered
  unfounded r hr := by
    rw [h.groups, List.length_modify] at hr
    have hne : r ≠ ref := by
      rintro rfl
      exact absurd h.exists_group (Nat.not_lt.mpr hr)
    rw [h.releases r hne]
    exact hs.unfounded r hr

/-- The ports, if none is released. -/
theorem portOf_eq (h : Touches s s' t ref f m) (hothers : s'.others = s.others)
    (hreleases : s'.releases ref = s.releases ref) (hport : m.port = (s.marks t).port) :
    s'.portOf = s.portOf := by
  funext holder
  cases holder with
  | other port => simp only [State.portOf, hothers]
  | task t' =>
      show (s'.marks t').port = (s.marks t').port
      rw [h.marks]
      by_cases ht : t' = t
      · rw [ht, Function.update_self, hport]
      · rw [Function.update_of_ne ht]
  | group r =>
      refine h.portOf_group ?_
      by_cases hr : r = ref
      · rw [hr, hreleases]
      · exact h.releases r hr

/-- Who answers for a backend, if the manager's entries stay. -/
theorem memberOf_eq (h : Touches s s' t ref f m)
    (hproxies : s'.manager.proxies = s.manager.proxies) :
    s'.memberOf = Function.update s.memberOf (.task t) m.backend := by
  funext member
  cases member with
  | entry key => simp [State.memberOf, hproxies]
  | task t' =>
      show (s'.marks t').backend = _
      rw [h.marks]
      by_cases ht : t' = t
      · rw [ht, Function.update_self, Function.update_self]
      · rw [Function.update_of_ne ht, Function.update_of_ne (by simpa using ht)]
        rfl

/-- The backends of the groups. -/
theorem hasBackend_iff (h : Touches s s' t ref f m) (p : Nat × String) :
    s'.HasBackend p ↔ ∃ g, s.manager.groups[p.1]? = some g ∧
      p.2 ∈ (if p.1 = ref then f g else g).backendIds := by
  unfold State.HasBackend
  rw [h.getElem?]
  split
  · simp only [Option.map_eq_some_iff]
    constructor
    · rintro ⟨_, ⟨g, hg, rfl⟩, hp⟩
      exact ⟨g, hg, hp⟩
    · rintro ⟨g, hg, hp⟩
      exact ⟨f g, ⟨g, hg, rfl⟩, hp⟩
  · rfl

theorem hasBackend_same (h : Touches s s' t ref f m) (hf : ∀ g, (f g).backends = g.backends)
    (p : Nat × String) : s'.HasBackend p ↔ s.HasBackend p := by
  have hids : ∀ g, (if p.1 = ref then f g else g).backendIds = g.backendIds := by
    intro g
    split
    · rw [GroupedTcpProxy.backendIds, hf, GroupedTcpProxy.backendIds]
    · rfl
  rw [h.hasBackend_iff]
  simp only [hids]
  rfl

/-- The invariant afterwards, if ports and backends stay as they are. -/
theorem coherent_of_same (h : Touches s s' t ref f m) (hs : Coherent s)
    (hports : s'.manager.resources = s.manager.resources)
    (hproxies : s'.manager.proxies = s.manager.proxies) (hothers : s'.others = s.others)
    (hreleases : s'.releases ref = s.releases ref) (hport : m.port = (s.marks t).port)
    (hbackend : m.backend = (s.marks t).backend) (hf : ∀ g, (f g).backends = g.backends)
    (hstage : ∀ g, s.manager.groups[ref]? = some g → Stage s ref g → Stage s' ref (f g))
    (hvalid : m.Valid s') : Coherent s' := by
  have hmember : s'.memberOf = s.memberOf := by
    rw [h.memberOf_eq hproxies, hbackend]
    exact Function.update_eq_self (.task t) s.memberOf
  refine h.coherent hs ?_ ?_ hstage hvalid ?_
  · rw [hports, h.portOf_eq hothers hreleases hport]
    exact hs.ports
  · rw [hmember]
    simp only [h.hasBackend_same hf]
    exact hs.backends
  · rw [hmember]
    exact fun key p hp ↦ h.started_mono _ (hs.entered key p hp)

/-- The usual case: the group is changed by `f`, its place in the table stays. -/
theorem of_become {s₁ : State} {task : Option Task} (href : ref < s.manager.groups.length)
    (hgroups : s₁.manager.groups = s.manager.groups.modify ref f)
    (hf : ∀ g, (f g).groupId = g.groupId ∧ (f g).remotePort = g.remotePort ∧
      (g.started = true → (f g).started = true))
    (htcp : s₁.manager.tcpGroups = s.manager.tcpGroups) (htasks : s₁.tasks = s.tasks)
    (hloop : ∀ r, r ≠ ref → s₁.loop r = s.loop r)
    (hreleases : ∀ r, r ≠ ref → s₁.releases r = s.releases r)
    (hbefore : (s.marks t).About ref) (hafter : ((task.map Task.marks).getD {}).About ref) :
    Touches s (s₁.become t task) t ref f ((task.map Task.marks).getD {}) where
  exists_group := href
  groups := by rw [State.manager_become, hgroups]
  groupId g := (hf g).1
  remotePort g := (hf g).2.1
  started g := (hf g).2.2
  kept gid r hr := by rwa [State.manager_become, htcp] at hr
  elsewhere gid r _ hr := by rwa [State.manager_become, htcp]
  loop r hr := by rw [State.loop_become, hloop r hr]
  releases r hr := by rw [State.releases_become, hreleases r hr]
  marks := by
    have hmarks : s₁.marks = s.marks := by
      funext t'
      rw [State.marks, htasks, State.marks]
    rw [State.marks_become, hmarks]
  before := hbefore
  after := hafter

end Touches

end Arp.Server.Groups
