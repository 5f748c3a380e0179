import Arp.Lib.Machine
import Arp.Server.Vhost

/-!
# Routes that come and go at once

`add_routes` and `unregister_route` are called from the tasks of different controls, and
no lock spans a call: every operation on a map is atomic, and the operations of several
calls interleave.

`unregister_route` filters the list of a domain under one guard and takes the domain out of
the map under another, if nothing was left.  A route pushed between the two leaves with the
domain (`pushed_before_remove`).  Whoever pushes at any other time finds the route in the
list for as long as nobody unregisters it (`added_route_kept`).
-/

namespace Arp.Server.RouteTable

open Arp.Lib

/-! ## Single operations -/

/-- `routes.entry(domain).or_default()`, and the push under its guard. -/
def pushRoute (route : VhostRoute) (t : RouteTable) (domain : String) : RouteTable :=
  { t with routes := t.routes.insert domain (extend route (t.routesOf domain)) }

/-- `rr.entry(domain).or_insert_with(..)`. -/
def startCounter (t : RouteTable) (domain : String) : RouteTable :=
  { t with rr := if domain ∈ t.rr then t.rr else t.rr.insert domain 0 }

/-- `routes.get_mut(&key)`, and the `retain` under its guard if there is an entry. -/
def retainRoutes (routeKey : String) (t : RouteTable) (domain : String) : RouteTable :=
  match t.routes.lookup domain with
  | some entry =>
    { t with routes := t.routes.insert domain (entry.filter (·.routeKey != routeKey)) }
  | none => t

/-- `routes.remove(&key)`. -/
def removeRoutes (t : RouteTable) (domain : String) : RouteTable :=
  { t with routes := t.routes.erase domain }

/-- `rr.remove(&key)`. -/
def removeCounter (t : RouteTable) (domain : String) : RouteTable :=
  { t with rr := t.rr.erase domain }

theorem routesOf_pushRoute (route : VhostRoute) (t : RouteTable) (domain d : String) :
    (t.pushRoute route domain).routesOf d =
      if d = domain then extend route (t.routesOf d) else t.routesOf d := by
  rw [routesOf, pushRoute, Table.lookup_insert_ite]
  split
  · next hd =>
      subst hd
      rfl
  · rfl

theorem routesOf_retainRoutes (routeKey : String) (t : RouteTable) (domain d : String) :
    (t.retainRoutes routeKey domain).routesOf d =
      if d = domain then (t.routesOf d).filter (·.routeKey != routeKey) else t.routesOf d := by
  unfold retainRoutes
  cases hentry : t.routes.lookup domain with
  | none =>
      dsimp only
      split
      · next hd =>
          subst hd
          rw [routesOf, hentry]
          rfl
      · rfl
  | some entry =>
      rw [routesOf, Table.lookup_insert_ite]
      split
      · next hd =>
          subst hd
          rw [routesOf, hentry]
          rfl
      · rfl

theorem routesOf_removeRoutes (t : RouteTable) (domain d : String) :
    (t.removeRoutes domain).routesOf d = if d = domain then [] else t.routesOf d := by
  rw [routesOf, removeRoutes, Table.lookup_erase_ite]
  split
  · rfl
  · rfl

/-- One turn of the loop of `add_routes` is two operations. -/
theorem addRoute_eq (route : VhostRoute) (t : RouteTable) (domain : String) :
    t.addRoute route domain = (t.pushRoute route domain).startCounter domain := rfl

/-- One turn of the loop of `unregister_route` is one operation, or three. -/
theorem dropRoute_eq (routeKey : String) (t : RouteTable) (domain : String) :
    t.dropRoute routeKey domain =
      if (t.retainRoutes routeKey domain).routesOf domain = [] then
        ((t.retainRoutes routeKey domain).removeRoutes domain).removeCounter domain
      else t.retainRoutes routeKey domain := by
  rw [routesOf_retainRoutes, if_pos rfl, routesOf]
  unfold dropRoute retainRoutes
  cases hentry : t.routes.lookup domain with
  | none => rfl
  | some entry =>
      have herase (kept : List VhostRoute) :
          (t.routes.insert domain kept).erase domain = t.routes.erase domain := by
        apply AList.ext
        exact List.kerase_cons_eq rfl
      by_cases hempty : entry.filter (·.routeKey != routeKey) = []
      · simp [hempty, removeRoutes, removeCounter, herase]
      · simp [hempty]

/-- Some domain has a route. -/
def HasRoute (t : RouteTable) : Prop := ∃ domain ∈ t.routes.keys, t.routesOf domain ≠ []

instance (t : RouteTable) : Decidable t.HasRoute :=
  inferInstanceAs (Decidable (∃ domain ∈ t.routes.keys, t.routesOf domain ≠ []))

theorem hasRoute_iff {t : RouteTable} : t.HasRoute ↔ ∃ d, t.routesOf d ≠ [] := by
  constructor
  · rintro ⟨d, -, hd⟩
    exact ⟨d, hd⟩
  · rintro ⟨d, hd⟩
    refine ⟨d, ?_, hd⟩
    by_contra hnot
    apply hd
    rw [routesOf, AList.lookup_eq_none.mpr hnot]
    rfl

end Arp.Server.RouteTable

namespace Arp.Server.RouteTasks

open Arp.Lib

/-! ## Calls -/

/-- Where a call of `add_routes` is. -/
inductive AddPc where
  /-- At the head of its loop, with the domains that are left. -/
  | pushing (domains : List String)
  /-- The route is in the list of a domain, which may have no counter yet. -/
  | counting (domain : String) (domains : List String)
deriving DecidableEq, Repr

/-- The domains that have not had the route pushed yet. -/
def AddPc.domains : AddPc → List String
  | pushing domains | counting _ domains => domains

/-- Where a call of `unregister_route` is. -/
inductive UnregisterPc where
  /-- Walking the map, before the given shard, with the keys found so far. -/
  | walking (shard : Nat) (keys : List String)
  /-- At the head of its loop, with the keys that are left. -/
  | retaining (keys : List String)
  /-- No route was left under a key, or the key was not in the map. -/
  | removing (key : String) (keys : List String)
  | uncounting (key : String) (keys : List String)
deriving DecidableEq, Repr

/-- The calls on one of the two tables. -/
inductive Call where
  | addRoutes (domains : List String) (route : VhostRoute)
  | unregisterRoute (routeKey : String)
deriving DecidableEq, Repr

/-- A call that was made. -/
inductive Task where
  | add (domains : List String) (route : VhostRoute) (pc : AddPc)
  | unregister (routeKey : String) (pc : UnregisterPc)
deriving DecidableEq, Repr

/-- A call at its beginning. -/
def Call.begin : Call → Task
  | addRoutes domains route => .add domains route (.pushing domains)
  | unregisterRoute routeKey => .unregister routeKey (.walking 0 [])

/-- Which call it is. -/
def Task.call : Task → Call
  | add domains route _ => .addRoutes domains route
  | unregister routeKey _ => .unregisterRoute routeKey

@[simp] theorem Call.call_begin (c : Call) : c.begin.call = c := by
  cases c with
  | addRoutes => rfl
  | unregisterRoute => rfl

/-- How a concurrent map spreads its keys.  A walk takes one shard after the other, each
under its lock. -/
structure Sharding where
  count : Nat
  shardOf : String → Fin count

/-- The keys a walk finds in a shard, in some order. -/
def Sharding.found (S : Sharding) (t : RouteTable) (routeKey : String) (shard : Nat) :
    List String :=
  (t.domainsOf routeKey).filter fun domain ↦ (S.shardOf domain).val = shard

/-- The table, and all calls made on it. -/
structure State where
  table : RouteTable
  tasks : List Task

/-- No call has been made. -/
def State.start (t : RouteTable) : State := ⟨t, []⟩

/-- The calls made so far. -/
def State.calls (s : State) : List Call := s.tasks.map Task.call

inductive Event where
  | call (c : Call)
  /-- A walk takes its next shard, and finds keys in this order. -/
  | walk (i : Nat) (found : List String)
  /-- A call goes on with its next operation. -/
  | advance (i : Nat)
deriving DecidableEq, Repr

/-- The next operation of a call, and where the call is then. -/
def Task.next (S : Sharding) (t : RouteTable) : Task → Option (RouteTable × Task)
  | .add _ _ (.pushing []) => none
  | .add domains route (.pushing (domain :: rest)) =>
    some (t.pushRoute route domain, .add domains route (.counting domain rest))
  | .add domains route (.counting domain rest) =>
    some (t.startCounter domain, .add domains route (.pushing rest))
  | .unregister routeKey (.walking shard keys) =>
    if shard = S.count then some (t, .unregister routeKey (.retaining keys)) else none
  | .unregister _ (.retaining []) => none
  | .unregister routeKey (.retaining (key :: keys)) =>
    let t := t.retainRoutes routeKey key
    some (t, .unregister routeKey (
      if t.routesOf key = [] then .removing key keys else .retaining keys))
  | .unregister routeKey (.removing key keys) =>
    some (t.removeRoutes key, .unregister routeKey (.uncounting key keys))
  | .unregister routeKey (.uncounting key keys) =>
    some (t.removeCounter key, .unregister routeKey (.retaining keys))

/-- A walk takes a shard. -/
def Task.walk (S : Sharding) (t : RouteTable) (found : List String) : Task → Option Task
  | .unregister routeKey (.walking shard keys) =>
    if shard < S.count ∧ found.Perm (S.found t routeKey shard) then
      some (.unregister routeKey (.walking (shard + 1) (keys ++ found)))
    else none
  | _ => none

/-- One step. -/
def step (S : Sharding) (s : State) : Event → Option State
  | .call c => some { s with tasks := s.tasks ++ [c.begin] }
  | .walk i found => s.tasks[i]?.bind fun task ↦ (task.walk S s.table found).map fun task ↦
      { s with tasks := s.tasks.set i task }
  | .advance i => s.tasks[i]?.bind fun task ↦ (task.next S s.table).map fun (table, task) ↦
      ⟨table, s.tasks.set i task⟩

/-! ### A call on its own

While the other calls wait, a call does to the table what its function does. -/

section Alone

variable {S : Sharding} {t t' : RouteTable} {tasks : List Task} {i : Nat}

theorem run_advance {task task' : Task} (hi : i < tasks.length)
    (hnext : task.next S t = some (t', task')) (es : List Event) :
    Machine.run (step S) ⟨t, tasks.set i task⟩ (.advance i :: es) =
      Machine.run (step S) ⟨t', tasks.set i task'⟩ es := by
  rw [Machine.run_cons, step, List.getElem?_set_self hi, Option.bind_some, hnext, Option.map_some,
    Option.bind_some]
  dsimp only
  rw [List.set_set]

theorem run_addRoutes (hi : i < tasks.length) (domains rest : List String) (route : VhostRoute) :
    Machine.run (step S) ⟨t, tasks.set i (.add domains route (.pushing rest))⟩
        (List.replicate (2 * rest.length) (.advance i)) =
      some ⟨t.addRoutes rest route, tasks.set i (.add domains route (.pushing []))⟩ := by
  induction rest generalizing t with
  | nil => rfl
  | cons domain rest ih =>
      rw [List.length_cons, Nat.mul_succ, List.replicate_succ, List.replicate_succ,
        run_advance hi rfl, run_advance hi rfl, ih, ← RouteTable.addRoute_eq]
      rfl

theorem run_unregisterRoute (hi : i < tasks.length) (routeKey : String) (keys : List String) :
    ∃ n, Machine.run (step S) ⟨t, tasks.set i (.unregister routeKey (.retaining keys))⟩
        (List.replicate n (.advance i)) =
      some ⟨keys.foldl (RouteTable.dropRoute routeKey) t,
        tasks.set i (.unregister routeKey (.retaining []))⟩ := by
  induction keys generalizing t with
  | nil => exact ⟨0, rfl⟩
  | cons key keys ih =>
      obtain ⟨n, hn⟩ := ih (t := t.dropRoute routeKey key)
      rw [RouteTable.dropRoute_eq] at hn
      rw [List.foldl_cons, RouteTable.dropRoute_eq]
      by_cases hempty : (t.retainRoutes routeKey key).routesOf key = []
      · rw [if_pos hempty] at hn ⊢
        refine ⟨n + 1 + 1 + 1, ?_⟩
        rw [List.replicate_succ, List.replicate_succ, List.replicate_succ, run_advance hi rfl,
          if_pos hempty, run_advance hi rfl, run_advance hi rfl, hn]
      · rw [if_neg hempty] at hn ⊢
        refine ⟨n + 1, ?_⟩
        rw [List.replicate_succ, run_advance hi rfl, if_neg hempty, hn]

end Alone

/-! ## What a step can do -/

/-- The domain whose list a call is about to push a route onto. -/
def Task.pushes : Task → Option String
  | .add _ _ (.pushing (domain :: _)) => some domain
  | _ => none

/-- The domain a call is about to take out of the map. -/
def Task.removes : Task → Option String
  | .unregister _ (.removing key _) => some key
  | _ => none

/-- The domain whose list an event pushes a route onto. -/
def State.pushes (s : State) : Event → Option String
  | .advance i => s.tasks[i]?.bind Task.pushes
  | .call _ | .walk _ _ => none

/-- What a call can do, and where it is then. -/
inductive Task.Step (t : RouteTable) : Task → RouteTable → Task → Prop where
  | push (domains : List String) (route : VhostRoute) (domain : String) (rest : List String) :
      Step t (.add domains route (.pushing (domain :: rest)))
        (t.pushRoute route domain) (.add domains route (.counting domain rest))
  | count (domains : List String) (route : VhostRoute) (domain : String) (rest : List String) :
      Step t (.add domains route (.counting domain rest))
        (t.startCounter domain) (.add domains route (.pushing rest))
  /-- The walk goes on or ends; the table is only read. -/
  | walk (routeKey : String) (shard : Nat) (keys : List String) (pc : UnregisterPc)
      (hpc : ∀ key keys, pc ≠ .removing key keys) :
      Step t (.unregister routeKey (.walking shard keys)) t (.unregister routeKey pc)
  | retain (routeKey key : String) (keys : List String) :
      Step t (.unregister routeKey (.retaining (key :: keys)))
        (t.retainRoutes routeKey key) (.unregister routeKey (
          if (t.retainRoutes routeKey key).routesOf key = [] then .removing key keys
          else .retaining keys))
  | remove (routeKey key : String) (keys : List String) :
      Step t (.unregister routeKey (.removing key keys))
        (t.removeRoutes key) (.unregister routeKey (.uncounting key keys))
  | uncount (routeKey key : String) (keys : List String) :
      Step t (.unregister routeKey (.uncounting key keys))
        (t.removeCounter key) (.unregister routeKey (.retaining keys))

theorem Task.step_of_next {S : Sharding} {t t' : RouteTable} {task task' : Task}
    (h : task.next S t = some (t', task')) : task.Step t t' task' := by
  unfold next at h
  split at h
  · cases h
  · cases h
    exact .push _ _ _ _
  · cases h
    exact .count _ _ _ _
  · split at h
    · cases h
      exact .walk _ _ _ _ fun key keys hpc ↦ by cases hpc
    · cases h
  · cases h
  · cases h
    exact .retain _ _ _
  · cases h
    exact .remove _ _ _
  · cases h
    exact .uncount _ _ _

theorem Task.step_of_walk {S : Sharding} {t : RouteTable} {found : List String}
    {task task' : Task} (h : task.walk S t found = some task') : task.Step t t task' := by
  unfold walk at h
  split at h
  · split at h
    · cases h
      exact .walk _ _ _ _ fun key keys hpc ↦ by cases hpc
    · cases h
  · cases h

/-- A step makes a call, or is one of a call that was made. -/
inductive Effect (s : State) : Event → State → Prop where
  | call (c : Call) : Effect s (.call c) { s with tasks := s.tasks ++ [c.begin] }
  | task (e : Event) (i : Nat) (task task' : Task) (table : RouteTable)
      (htask : s.tasks[i]? = some task) (hpushes : task.pushes = s.pushes e)
      (hstep : task.Step s.table table task') : Effect s e ⟨table, s.tasks.set i task'⟩

theorem effect_of_step {S : Sharding} {s s' : State} {e : Event} (h : step S s e = some s') :
    Effect s e s' := by
  cases e with
  | call c =>
      obtain rfl := Option.some.inj h
      exact .call c
  | walk i found =>
      obtain ⟨task, htask, h⟩ := Option.bind_eq_some_iff.mp h
      obtain ⟨task', hwalk, rfl⟩ := Option.map_eq_some_iff.mp h
      refine .task _ i task task' s.table htask ?_ (Task.step_of_walk hwalk)
      unfold Task.walk at hwalk
      split at hwalk
      · rfl
      · cases hwalk
  | advance i =>
      obtain ⟨task, htask, h⟩ := Option.bind_eq_some_iff.mp h
      obtain ⟨⟨table, task'⟩, hnext, rfl⟩ := Option.map_eq_some_iff.mp h
      refine .task _ i task task' table htask ?_ (Task.step_of_next hnext)
      rw [State.pushes, htask, Option.bind_some]

theorem Task.Step.call_eq {t t' : RouteTable} {task task' : Task} (h : task.Step t t' task') :
    task'.call = task.call := by
  cases h with
  | push | count | walk | retain | remove | uncount => rfl

theorem mem_calls_push {s : State} {c : Call} {task : Task} (h : c ∈ s.calls) :
    c ∈ State.calls { s with tasks := s.tasks ++ [task] } := by
  rw [State.calls, List.map_append]
  exact List.mem_append_left _ h

theorem calls_set {s : State} {i : Nat} {task task' : Task} {table : RouteTable}
    (htask : s.tasks[i]? = some task) (hstep : task.Step s.table table task') :
    State.calls ⟨table, s.tasks.set i task'⟩ = s.calls :=
  map_set_eq htask hstep.call_eq

/-! ### The lists of a domain -/

section Lists

variable {t t' : RouteTable} {task task' : Task} {d : String}

/-- Nothing comes into an empty list but by a push. -/
theorem Task.Step.routesOf_eq_nil (h : task.Step t t' task') (hpush : task.pushes ≠ some d)
    (hnil : t.routesOf d = []) : t'.routesOf d = [] := by
  cases h with
  | push domains route domain rest =>
      rw [RouteTable.routesOf_pushRoute, if_neg, hnil]
      rintro rfl
      exact hpush rfl
  | count | walk | uncount => exact hnil
  | retain routeKey key keys =>
      rw [RouteTable.routesOf_retainRoutes, hnil, List.filter_nil, ite_self]
  | remove routeKey key keys => rw [RouteTable.routesOf_removeRoutes, hnil, ite_self]

/-- A call is about to remove a domain when it has found its list empty. -/
theorem Task.Step.routesOf_of_removes (h : task.Step t t' task')
    (hremoves : task'.removes = some d) : t'.routesOf d = [] := by
  cases h with
  | push | count | remove | uncount => cases hremoves
  | walk routeKey shard keys pc hpc =>
      unfold removes at hremoves
      split at hremoves
      · next heq =>
          cases heq
          exact absurd rfl (hpc _ _)
      · cases hremoves
  | retain routeKey key keys =>
      split at hremoves
      · next hempty =>
          obtain rfl := Option.some.inj hremoves
          exact hempty
      · cases hremoves

/-- A route stays, unless it is unregistered or its domain is removed. -/
theorem Task.Step.mem_routesOf (h : task.Step t t' task') {r : VhostRoute}
    (hr : r ∈ t.routesOf d) (hcall : task.call ≠ .unregisterRoute r.routeKey)
    (hremoves : task.removes ≠ some d) : r ∈ t'.routesOf d := by
  cases h with
  | push domains route domain rest =>
      rw [RouteTable.routesOf_pushRoute]
      split
      · exact RouteTable.mem_extend_of_mem hr
      · exact hr
  | count | walk | uncount => exact hr
  | retain routeKey key keys =>
      rw [RouteTable.routesOf_retainRoutes]
      split
      · refine List.mem_filter.mpr ⟨hr, bne_iff_ne.mpr ?_⟩
        rintro rfl
        exact hcall rfl
      · exact hr
  | remove routeKey key keys =>
      rw [RouteTable.routesOf_removeRoutes, if_neg]
      · exact hr
      · rintro rfl
        exact hremoves rfl

/-- A route comes from the call that pushes it. -/
theorem Task.Step.of_mem_routesOf (h : task.Step t t' task') {r : VhostRoute}
    (hr : r ∈ t'.routesOf d) : r ∈ t.routesOf d ∨ ∃ domains, task.call = .addRoutes domains r := by
  cases h with
  | push domains route domain rest =>
      rw [RouteTable.routesOf_pushRoute] at hr
      split at hr
      · refine (RouteTable.mem_of_mem_extend hr).imp id ?_
        rintro rfl
        exact ⟨domains, rfl⟩
      · exact .inl hr
  | count | walk | uncount => exact .inl hr
  | retain routeKey key keys =>
      rw [RouteTable.routesOf_retainRoutes] at hr
      split at hr
      · exact .inl (List.mem_of_mem_filter hr)
      · exact .inl hr
  | remove routeKey key keys =>
      rw [RouteTable.routesOf_removeRoutes] at hr
      split at hr
      · cases hr
      · exact .inl hr

end Lists

/-- A table gets its first route by a push. -/
theorem hasRoute_of_step {S : Sharding} {s s' : State} {e : Event} (h : step S s e = some s')
    (hroute : s'.table.HasRoute) : s.table.HasRoute ∨ ∃ d, s.pushes e = some d := by
  obtain ⟨d, hd⟩ := RouteTable.hasRoute_iff.mp hroute
  cases effect_of_step h with
  | call c => exact .inl hroute
  | task _ i task task' table htask hpushes hmove =>
      rw [← hpushes]
      by_cases hpush : task.pushes = some d
      · exact .inr ⟨d, hpush⟩
      · refine .inl (RouteTable.hasRoute_iff.mpr ⟨d, fun hnil ↦ hd ?_⟩)
        exact hmove.routesOf_eq_nil hpush hnil

/-- A push leaves a route. -/
theorem hasRoute_of_pushes {S : Sharding} {s s' : State} {e : Event} {d : String}
    (h : step S s e = some s') (hpush : s.pushes e = some d) : s'.table.HasRoute := by
  cases effect_of_step h with
  | call c => cases hpush
  | task _ i task task' table htask hpushes hmove =>
      rw [hpush] at hpushes
      cases hmove with
      | push domains route domain rest =>
          obtain ⟨r, hr, -⟩ := RouteTable.exists_mem_extend route (s.table.routesOf domain)
          refine RouteTable.hasRoute_iff.mpr ⟨domain, List.ne_nil_of_mem (a := r) ?_⟩
          rw [RouteTable.routesOf_pushRoute, if_pos rfl]
          exact hr
      | count | walk | retain | remove | uncount => cases hpushes

/-! ### Calls that still have something to add -/

/-- The call is in the loop of `add_routes`. -/
def Task.isAdding : Task → Bool
  | .add _ _ (.pushing []) | .unregister _ _ => false
  | .add _ _ (.pushing (_ :: _)) | .add _ _ (.counting _ _) => true

theorem Task.Step.isAdding {t t' : RouteTable} {task task' : Task} (h : task.Step t t' task')
    (hadding : task'.isAdding = true) : task.isAdding = true := by
  cases h with
  | push | count => rfl
  | walk | retain | remove | uncount => cases hadding

/-- Only a call of `add_routes` brings something to add. -/
theorem isAdding_of_step {S : Sharding} {s s' : State} {e : Event} (h : step S s e = some s')
    (hnew : ∀ domains route, e ≠ .call (.addRoutes domains route)) {i : Nat} {task' : Task}
    (htask : s'.tasks[i]? = some task') (hadding : task'.isAdding = true) :
    ∃ task, s.tasks[i]? = some task ∧ task.isAdding = true := by
  cases effect_of_step h with
  | call c =>
      cases c with
      | addRoutes domains route => exact absurd rfl (hnew domains route)
      | unregisterRoute routeKey =>
          rcases eq_or_of_getElem?_concat htask with ⟨-, rfl⟩ | hold
          · cases hadding
          · exact ⟨task', hold, hadding⟩
  | task _ j task task'' table hj hpushes hmove =>
      rcases eq_or_of_getElem?_set htask with ⟨rfl, rfl⟩ | ⟨-, hold⟩
      · exact ⟨task, hj, hmove.isAdding hadding⟩
      · exact ⟨task', hold, hadding⟩

theorem isAdding_of_pushes {s : State} {e : Event} {d : String} (h : s.pushes e = some d) :
    ∃ (i : Nat) (task : Task), s.tasks[i]? = some task ∧ task.isAdding = true := by
  cases e with
  | call | walk => cases h
  | advance i =>
      obtain ⟨task, htask, hpushes⟩ := Option.bind_eq_some_iff.mp h
      refine ⟨i, task, htask, ?_⟩
      unfold Task.pushes at hpushes
      split at hpushes
      · rfl
      · cases hpushes

/-! ## Registrations that are not lost -/

/-- No route is pushed onto the list of a domain that a call is about to remove: between the
`retain` that empties the list, or finds none, and the `remove`. -/
def Apart (s : State) (e : Event) : Prop :=
  ∀ d ∈ s.pushes e, ∀ task ∈ s.tasks, task.removes ≠ some d

instance (s : State) (e : Event) : Decidable (Apart s e) :=
  inferInstanceAs (Decidable (∀ d ∈ s.pushes e, ∀ task ∈ s.tasks, task.removes ≠ some d))

/-- Only empty lists are removed, and what was pushed is there. -/
structure Kept (s : State) : Prop where
  emptied : ∀ task ∈ s.tasks, ∀ d, task.removes = some d → s.table.routesOf d = []
  present : ∀ domains route pc, Task.add domains route pc ∈ s.tasks →
    Call.unregisterRoute route.routeKey ∉ s.calls → ∀ d ∈ domains, d ∉ pc.domains →
      ∃ r ∈ s.table.routesOf d, r.routeKey = route.routeKey

theorem kept_start (t : RouteTable) : Kept (.start t) where
  emptied _ htask := absurd htask List.not_mem_nil
  present _ _ _ htask := absurd htask List.not_mem_nil

theorem Kept.call {s : State} (h : Kept s) (c : Call) :
    Kept { s with tasks := s.tasks ++ [c.begin] } where
  emptied task htask d hremoves := by
    rcases List.mem_append.mp htask with hold | hnew
    · exact h.emptied task hold d hremoves
    · obtain rfl := List.mem_singleton.mp hnew
      cases c with
      | addRoutes domains route =>
          cases domains with
          | nil => cases hremoves
          | cons domain rest => cases hremoves
      | unregisterRoute routeKey => cases hremoves
  present domains route pc htask hother d hd hpushed := by
    rcases List.mem_append.mp htask with hold | hnew
    · exact h.present domains route pc hold (fun hmem ↦ hother (mem_calls_push hmem)) d hd hpushed
    · -- The call has pushed nothing yet.
      have heq := List.mem_singleton.mp hnew
      cases c with
      | addRoutes domains' route' =>
          cases heq
          exact absurd hd hpushed
      | unregisterRoute routeKey => cases heq

/-- A route of a key that nobody unregisters survives a step. -/
theorem Kept.exists_mem {s : State} (h : Kept s) {i : Nat} {task task' : Task}
    {table : RouteTable} (htask : s.tasks[i]? = some task)
    (hstep : task.Step s.table table task') {routeKey d : String}
    (hother : Call.unregisterRoute routeKey ∉ s.calls)
    (hr : ∃ r ∈ s.table.routesOf d, r.routeKey = routeKey) :
    ∃ r ∈ table.routesOf d, r.routeKey = routeKey := by
  obtain ⟨r, hr, rfl⟩ := hr
  have hmem := List.mem_of_getElem? htask
  refine ⟨r, hstep.mem_routesOf hr ?_ ?_, rfl⟩
  · intro hcall
    apply hother
    rw [← hcall]
    exact List.mem_map_of_mem hmem
  · intro hremoves
    rw [h.emptied task hmem d hremoves] at hr
    cases hr

theorem kept_step {S : Sharding} (s : State) (e : Event) (s' : State) (h : Kept s)
    (hapart : Apart s e) (hstep : step S s e = some s') : Kept s' := by
  cases effect_of_step hstep with
  | call c => exact h.call c
  | task _ i task task' table htask hpushes hmove =>
      constructor
      · intro other hother d hremoves
        rcases List.mem_or_eq_of_mem_set hother with hold | rfl
        · refine hmove.routesOf_eq_nil ?_ (h.emptied other hold d hremoves)
          intro hpush
          exact hapart d (hpushes ▸ hpush) other hold hremoves
        · exact hmove.routesOf_of_removes hremoves
      · intro domains route pc hadd hother d hd hpushed
        rw [calls_set htask hmove] at hother
        apply Classical.by_contradiction
        intro hnone
        -- So the route was not there before either, and its own call has just pushed it.
        have hbefore : ¬∃ r ∈ s.table.routesOf d, r.routeKey = route.routeKey :=
          fun hr ↦ hnone (h.exists_mem htask hmove hother hr)
        rcases List.mem_or_eq_of_mem_set hadd with hold | hnew
        · exact hbefore (h.present domains route pc hold hother d hd hpushed)
        · have hmem := List.mem_of_getElem? htask
          subst hnew
          cases hmove with
          | push _ _ domain rest =>
              by_cases hdomain : d = domain
              · subst hdomain
                apply hnone
                rw [RouteTable.routesOf_pushRoute, if_pos rfl]
                exact RouteTable.exists_mem_extend route _
              · apply hbefore
                refine h.present domains route _ hmem hother d hd ?_
                exact List.not_mem_cons_of_ne_of_not_mem hdomain hpushed
          | count _ _ domain rest =>
              exact hbefore (h.present domains route _ hmem hother d hd hpushed)

/-- Every route was there before, or comes from one of the calls. -/
def Sourced (t : RouteTable) (s : State) : Prop :=
  ∀ d, ∀ r ∈ s.table.routesOf d, r ∈ t.routesOf d ∨ ∃ domains, Call.addRoutes domains r ∈ s.calls

theorem sourced_step {S : Sharding} {t : RouteTable} (s : State) (e : Event) (s' : State)
    (h : Sourced t s) (hstep : step S s e = some s') : Sourced t s' := by
  intro d r hr
  cases effect_of_step hstep with
  | call c =>
      refine (h d r hr).imp id ?_
      rintro ⟨domains, hmem⟩
      exact ⟨domains, mem_calls_push hmem⟩
  | task _ i task task' table htask hpushes hmove =>
      rw [calls_set htask hmove]
      rcases hmove.of_mem_routesOf hr with hold | ⟨domains, hcall⟩
      · exact h d r hold
      · refine .inr ⟨domains, ?_⟩
        rw [← hcall]
        exact List.mem_map_of_mem (List.mem_of_getElem? htask)

/-- In every run in which no route is pushed onto a list that is about to be removed: the
domains of a call of `add_routes` that has returned have a route of its key, as long as
`unregister_route` is called for other keys only.  The route is the one of the call, unless
there was one of its key before or another call brings one. -/
theorem added_route_kept {S : Sharding} {t : RouteTable} {events : List Event} {s : State}
    {domains : List String} {route : VhostRoute} {d : String}
    (hapart : Machine.Along (step S) Apart (.start t) events)
    (hrun : Machine.run (step S) (.start t) events = some s)
    (hadded : Task.add domains route (.pushing []) ∈ s.tasks)
    (hother : Call.unregisterRoute route.routeKey ∉ s.calls) (hd : d ∈ domains) :
    (∃ r ∈ s.table.routesOf d, r.routeKey = route.routeKey) ∧
      ((∀ r ∈ t.routesOf d, r.routeKey ≠ route.routeKey) →
        (∀ domains' r, Call.addRoutes domains' r ∈ s.calls → r.routeKey = route.routeKey →
          r = route) →
        route ∈ s.table.routesOf d) := by
  have hkept := Machine.along_invariant kept_step hapart hrun (kept_start t)
  obtain ⟨r, hr, hkey⟩ := hkept.present domains route _ hadded hother d hd List.not_mem_nil
  refine ⟨⟨r, hr, hkey⟩, ?_⟩
  intro hnew honly
  have hsourced : Sourced t s := Machine.run_invariant sourced_step hrun fun d r hr ↦ .inl hr
  rcases hsourced d r hr with hold | ⟨domains', hcall⟩
  · exact absurd hkey (hnew r hold)
  · rwa [honly domains' r hcall hkey] at hr

/-- A map with a single shard. -/
def oneShard : Sharding := ⟨1, fun _ ↦ 0⟩

/-- The routes of two proxies. -/
def leaving : VhostRoute := ⟨"run-1:web", "web", 0⟩

@[inherit_doc leaving]
def coming : VhostRoute := ⟨"run-2:web", "web", 1⟩

/-- A domain has one route, and `unregister_route` is about to filter its list. -/
def unregistering : List Event :=
  [.call (.addRoutes ["x.org"] leaving), .advance 0, .advance 0,
    .call (.unregisterRoute "run-1:web"), .walk 1 ["x.org"], .advance 1]

/-- The second route comes before the list is filtered, so something is left of it. -/
def pushedFirst : List Event :=
  unregistering ++ [.call (.addRoutes ["x.org"] coming), .advance 2, .advance 1, .advance 2]

theorem coming_kept : ∃ s, Machine.run (step oneShard) (.start ⟨∅, ∅⟩) pushedFirst = some s ∧
    s.tasks = [.add ["x.org"] leaving (.pushing []), .unregister "run-1:web" (.retaining []),
      .add ["x.org"] coming (.pushing [])] ∧
    coming ∈ s.table.routesOf "x.org" := by
  have hapart : Machine.Along (step oneShard) Apart (.start ⟨∅, ∅⟩) pushedFirst := by decide
  refine Machine.exists_run State.tasks _ rfl fun s hrun htasks ↦ ?_
  have hcalls : s.calls = [.addRoutes ["x.org"] leaving, .unregisterRoute "run-1:web",
      .addRoutes ["x.org"] coming] := by
    rw [State.calls, htasks]
    rfl
  have hadded : Task.add ["x.org"] coming (.pushing []) ∈ s.tasks := by
    rw [htasks]
    decide
  have hother : Call.unregisterRoute coming.routeKey ∉ s.calls := by
    rw [hcalls]
    decide
  refine ⟨htasks, ?_⟩
  apply (added_route_kept hapart hrun hadded hother (List.mem_singleton_self "x.org")).2
  · exact fun r hr ↦ absurd hr List.not_mem_nil
  · intro domains r hcall hkey
    rw [hcalls] at hcall
    simp only [List.mem_cons, Call.addRoutes.injEq, reduceCtorEq, List.not_mem_nil, or_false,
      false_or] at hcall
    rcases hcall with ⟨-, rfl⟩ | ⟨-, rfl⟩
    · exact absurd hkey (by decide)
    · rfl

/-- The second route comes between the filter and the removal. -/
def pushedBetween : List Event :=
  unregistering ++ [.advance 1, .call (.addRoutes ["x.org"] coming), .advance 2, .advance 2,
    .advance 1, .advance 1]

/-- Both calls have returned, and the domain of the new route is gone. -/
theorem pushed_before_remove :
    ∃ s, Machine.run (step oneShard) (.start ⟨∅, ∅⟩) pushedBetween = some s ∧
      s.tasks = [.add ["x.org"] leaving (.pushing []), .unregister "run-1:web" (.retaining []),
        .add ["x.org"] coming (.pushing [])] ∧
      s.table.routesOf "x.org" = [] :=
  ⟨_, rfl, rfl, rfl⟩

end Arp.Server.RouteTasks
