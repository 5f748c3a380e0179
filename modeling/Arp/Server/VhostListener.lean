import Arp.Server.ProxyManager
import Arp.Server.RouteTasks

/-!
# The shared listeners

The proxies of a scheme share one listener.  A registration starts it, after it has added
its routes, unless a flag says that it was started; the task that listens takes the flag
back when it fails.  It fails when binding does, and at the first error of `accept`:
`run_http_listener` and `run_https_listener` do not tell errors that pass from others, as
the listeners of TCP proxies do (`isTransientAcceptError`), and only the next registration
starts the listener again.

The machine is that of one scheme; the two schemes share nothing.  Its main result says
exactly in which runs every registered route has a listener (`listening_iff`).
-/

namespace Arp.Server.VhostListener

open Arp.Common Arp.Lib Arp.Lib.Text

/-! ## Accept errors -/

/-- The kinds of I/O errors that are told apart. -/
inductive ErrorKind where
  | wouldBlock
  | interrupted
  | other
deriving DecidableEq, Repr

/-- An error of `accept`. -/
structure AcceptError where
  kind : ErrorKind
  rawOsError : Option Nat
deriving DecidableEq, Repr

/-- `is_transient_accept_error`. -/
def isTransientAcceptError (e : AcceptError) : Bool :=
  e.kind == .wouldBlock || e.kind == .interrupted ||
    e.rawOsError == some 23 || e.rawOsError == some 24

/-- EMFILE: the process has too many files open. -/
def tooManyOpenFiles : AcceptError := ⟨.other, some 24⟩

/-! ## The machine -/

/-- Where the task is that `ensure_http_listener_started` spawns, or its counterpart. -/
inductive ListenerPc where
  /-- There is none. -/
  | off
  /-- Spawned, and not bound yet. -/
  | starting
  | accepting
  /-- `run_http_listener` has returned an error, and the flag is still up. -/
  | failed
deriving DecidableEq, Repr

/-- The half of a `VhostManager` that belongs to a scheme. -/
structure State where
  routes : RouteTasks.State
  listenerStarted : Bool
  listener : ListenerPc
  /-- The calls of `add_routes` whose registration has not come to the flag. -/
  registering : List Nat

def State.start : State := ⟨.start ⟨∅, ∅⟩, false, .off, []⟩

inductive Event where
  /-- `register_http` or `register_https` is called. -/
  | register (runId : String) (msg : NewProxyMsg) (tx : ReqSender)
  | unregisterRoute (routeKey : String)
  /-- The operations of the calls on the route table. -/
  | walk (i : Nat) (found : List String)
  | advance (i : Nat)
  /-- The registration whose routes were added by a call comes to the flag, and returns. -/
  | ensureStarted (i : Nat)
  | bind (ok : Bool)
  | accept
  | acceptFails (e : AcceptError)
  /-- The task takes the flag back, and ends. -/
  | giveUp

/-- What an event is to the calls on the route table. -/
def Event.onTable : Event → Option RouteTasks.Event
  | unregisterRoute routeKey => some (.call (.unregisterRoute routeKey))
  | walk i found => some (.walk i found)
  | advance i => some (.advance i)
  | _ => none

theorem Event.onTable_ne_addRoutes {e : Event} {e' : RouteTasks.Event}
    (h : e.onTable = some e') (domains : List String) (route : VhostRoute) :
    e' ≠ .call (.addRoutes domains route) := by
  rintro rfl
  cases e with
  | unregisterRoute | walk | advance => simp [onTable] at h
  | _ => cases h

/-- The task that listens fails. -/
def Event.fails : Event → Bool
  | bind false | acceptFails _ => true
  | _ => false

/-- An operation of a call on the route table. -/
def State.onRoutes (S : RouteTasks.Sharding) (s : State) (e : RouteTasks.Event) : Option State :=
  (RouteTasks.step S s.routes e).map fun routes ↦ { s with routes := routes }

/-- One step.  Ports and subdomains are those of a configured manager. -/
def step (U : UnicodeData) (S : RouteTasks.Sharding) (vm : VhostManager) (scheme : Scheme)
    (s : State) : Event → Option State
  | .register runId msg tx =>
    if vm.port scheme = 0 then some s
    else match vm.collectDomains U msg with
    | .error _ => some s
    | .ok domains =>
      let s := { s with registering := s.registering ++ [s.routes.tasks.length] }
      s.onRoutes S (.call (.addRoutes domains
        ⟨proxyKey runId msg.proxyName, msg.proxyName, tx⟩))
  | .unregisterRoute routeKey => s.onRoutes S (.call (.unregisterRoute routeKey))
  | .walk i found => s.onRoutes S (.walk i found)
  | .advance i => s.onRoutes S (.advance i)
  | .ensureStarted i =>
    match s.routes.tasks[i]? with
    | some (.add _ _ (.pushing [])) =>
      if i ∈ s.registering then
        let s := { s with registering := s.registering.erase i }
        if s.listenerStarted then some s
        else some { s with listenerStarted := true, listener := .starting }
      else none
    | _ => none
  | .bind ok =>
    if s.listener = .starting then
      some { s with listener := if ok then .accepting else .failed }
    else none
  | .accept => if s.listener = .accepting then some s else none
  | .acceptFails _ =>
    if s.listener = .accepting then some { s with listener := .failed } else none
  | .giveUp =>
    if s.listener = .failed then some { s with listenerStarted := false, listener := .off }
    else none

/-! ## What a step can do -/

inductive Effect (S : RouteTasks.Sharding) (s : State) : Event → State → Prop where
  | refuse (runId : String) (msg : NewProxyMsg) (tx : ReqSender) :
      Effect S s (.register runId msg tx) s
  | register (runId : String) (msg : NewProxyMsg) (tx : ReqSender) (domains : List String)
      (route : VhostRoute) :
      Effect S s (.register runId msg tx) { s with
        routes := { s.routes with
          tasks := s.routes.tasks ++ [.add domains route (.pushing domains)] }
        registering := s.registering ++ [s.routes.tasks.length] }
  | table (e : Event) (e' : RouteTasks.Event) (routes : RouteTasks.State)
      (honTable : e.onTable = some e') (hfails : e.fails = false)
      (hroutes : RouteTasks.step S s.routes e' = some routes) :
      Effect S s e { s with routes := routes }
  | seen (i : Nat) (domains : List String) (route : VhostRoute)
      (htask : s.routes.tasks[i]? = some (.add domains route (.pushing [])))
      (hstarted : s.listenerStarted = true) :
      Effect S s (.ensureStarted i) { s with registering := s.registering.erase i }
  | spawn (i : Nat) (domains : List String) (route : VhostRoute)
      (htask : s.routes.tasks[i]? = some (.add domains route (.pushing [])))
      (hstarted : s.listenerStarted = false) :
      Effect S s (.ensureStarted i) { s with
        registering := s.registering.erase i
        listenerStarted := true
        listener := .starting }
  | bind (hlistener : s.listener = .starting) :
      Effect S s (.bind true) { s with listener := .accepting }
  | accept (hlistener : s.listener = .accepting) : Effect S s .accept s
  | fail (e : Event) (hfails : e.fails = true) (honTable : e.onTable = none)
      (hlistener : s.listener ≠ .off) : Effect S s e { s with listener := .failed }
  | giveUp (hlistener : s.listener = .failed) :
      Effect S s .giveUp { s with listenerStarted := false, listener := .off }

variable {U : UnicodeData} {S : RouteTasks.Sharding} {vm : VhostManager} {scheme : Scheme}

theorem effect_of_onRoutes {s s' : State} {e : Event} {e' : RouteTasks.Event}
    (honTable : e.onTable = some e') (hfails : e.fails = false)
    (h : s.onRoutes S e' = some s') : Effect S s e s' := by
  obtain ⟨routes, hroutes, rfl⟩ := Option.map_eq_some_iff.mp h
  exact .table e e' routes honTable hfails hroutes

theorem effect_of_step {s s' : State} {e : Event} (h : step U S vm scheme s e = some s') :
    Effect S s e s' := by
  cases e with
  | register runId msg tx =>
      simp only [step] at h
      split at h
      · obtain rfl := Option.some.inj h
        exact .refuse runId msg tx
      · split at h
        · obtain rfl := Option.some.inj h
          exact .refuse runId msg tx
        · obtain rfl := Option.some.inj h
          exact .register runId msg tx _ _
  | unregisterRoute | walk | advance => exact effect_of_onRoutes rfl rfl h
  | ensureStarted i =>
      simp only [step] at h
      split at h
      · next domains route htask =>
          split at h
          · split at h
            · next hstarted =>
                obtain rfl := Option.some.inj h
                exact .seen i domains route htask hstarted
            · next hstarted =>
                obtain rfl := Option.some.inj h
                exact .spawn i domains route htask (Bool.eq_false_iff.mpr hstarted)
          · cases h
      · cases h
  | bind ok =>
      simp only [step] at h
      split at h
      · next hlistener =>
          obtain rfl := Option.some.inj h
          cases ok with
          | true => exact .bind hlistener
          | false => exact .fail _ rfl rfl (by rw [hlistener]; decide)
      · cases h
  | accept =>
      simp only [step] at h
      split at h
      · next hlistener =>
          obtain rfl := Option.some.inj h
          exact .accept hlistener
      · cases h
  | acceptFails e =>
      simp only [step] at h
      split at h
      · next hlistener =>
          obtain rfl := Option.some.inj h
          exact .fail _ rfl rfl (by rw [hlistener]; decide)
      · cases h
  | giveUp =>
      simp only [step] at h
      split at h
      · next hlistener =>
          obtain rfl := Option.some.inj h
          exact .giveUp hlistener
      · cases h

/-! ## Who listens -/

/-- The flag says whether there is a task, and registrations that still have routes to add
have not come to the flag. -/
structure Consistent (s : State) : Prop where
  started : s.listenerStarted = true ↔ s.listener ≠ .off
  adding : ∀ i task, s.routes.tasks[i]? = some task → task.isAdding = true → i ∈ s.registering

theorem consistent_start : Consistent .start where
  started := by decide
  adding i task htask := by cases htask

theorem consistent_step (s : State) (e : Event) (s' : State) (h : Consistent s)
    (hstep : step U S vm scheme s e = some s') : Consistent s' := by
  obtain ⟨hflag, hadding⟩ := h
  cases effect_of_step hstep with
  | refuse | accept => exact ⟨hflag, hadding⟩
  | register runId msg tx domains route =>
      refine ⟨hflag, fun i task htask hadds ↦ ?_⟩
      rcases eq_or_of_getElem?_concat htask with ⟨rfl, -⟩ | hold
      · exact List.mem_append_right _ (List.mem_singleton_self _)
      · exact List.mem_append_left _ (hadding i task hold hadds)
  | table _ e' routes honTable hfails hroutes =>
      refine ⟨hflag, fun i task' htask' hadds ↦ ?_⟩
      obtain ⟨task, htask, hadds⟩ := RouteTasks.isAdding_of_step hroutes
        (e.onTable_ne_addRoutes honTable) htask' hadds
      exact hadding i task htask hadds
  | seen i domains route hdone hstarted =>
      refine ⟨hflag, fun j task htask hadds ↦ ?_⟩
      refine (List.mem_erase_of_ne ?_).mpr (hadding j task htask hadds)
      rintro rfl
      rw [hdone] at htask
      cases htask
      cases hadds
  | spawn i domains route hdone hstarted =>
      refine ⟨iff_of_true rfl (fun hoff ↦ by cases hoff), fun j task htask hadds ↦ ?_⟩
      refine (List.mem_erase_of_ne ?_).mpr (hadding j task htask hadds)
      rintro rfl
      rw [hdone] at htask
      cases htask
      cases hadds
  | bind hlistener =>
      refine ⟨iff_of_true (hflag.mpr ?_) (fun hoff ↦ by cases hoff), hadding⟩
      rw [hlistener]
      decide
  | fail _ hfails honTable hlistener =>
      exact ⟨iff_of_true (hflag.mpr hlistener) (fun hoff ↦ by cases hoff), hadding⟩
  | giveUp hlistener =>
      refine ⟨iff_of_false (fun hstarted ↦ ?_) (not_not_intro rfl), hadding⟩
      cases hstarted

/-- If there is a route, the task listens or is about to; or there is no task, and a
registration is about to start one. -/
def Listening (s : State) : Prop :=
  s.routes.table.HasRoute → s.listener = .starting ∨ s.listener = .accepting ∨
    s.listener = .off ∧ s.registering ≠ []

/-- The task does not fail while there is a route, and no route is added between its failure
and the moment it takes the flag back. -/
def Sustained (s : State) (e : Event) : Prop :=
  (e.fails = true → ¬s.routes.table.HasRoute) ∧
    ∀ e' ∈ e.onTable, ∀ d ∈ s.routes.pushes e', s.listener ≠ .failed

instance (s : State) (e : Event) : Decidable (Sustained s e) :=
  inferInstanceAs (Decidable ((e.fails = true → ¬s.routes.table.HasRoute) ∧
    ∀ e' ∈ e.onTable, ∀ d ∈ s.routes.pushes e', s.listener ≠ .failed))

theorem sustained_of_quiet {s : State} {e : Event} (hfails : e.fails = false)
    (honTable : e.onTable = none) : Sustained s e := by
  rw [Sustained, hfails, honTable]
  simp

/-- A failed task does not listen to what is registered. -/
theorem not_listening {s : State} (hroute : s.routes.table.HasRoute)
    (hlistener : s.listener = .failed) : ¬Listening s := by
  intro h
  have hcases := h hroute
  rw [hlistener] at hcases
  simp at hcases

theorem listening_table {s : State} {e' : RouteTasks.Event} {routes : RouteTasks.State}
    (h : Consistent s) (hs : Listening s) (hroutes : RouteTasks.step S s.routes e' = some routes) :
    Listening { s with routes := routes } ↔ ∀ d ∈ s.routes.pushes e', s.listener ≠ .failed := by
  constructor
  · intro hlistening d hpush hfailed
    exact not_listening (s := { s with routes := routes })
      (RouteTasks.hasRoute_of_pushes hroutes hpush) hfailed hlistening
  · intro hnot hroute
    rcases RouteTasks.hasRoute_of_step hroutes hroute with hold | ⟨d, hpush⟩
    · exact hs hold
    · cases hlistener : s.listener with
      | starting => exact .inl rfl
      | accepting => exact .inr (.inl rfl)
      | failed => exact absurd hlistener (hnot d hpush)
      | off =>
          -- The registration that pushes has yet to come to the flag.
          obtain ⟨i, task, htask, hadds⟩ := RouteTasks.isAdding_of_pushes hpush
          exact .inr (.inr ⟨rfl, List.ne_nil_of_mem (h.adding i task htask hadds)⟩)

/-- A step from a state in which all is well leads to such a state exactly if it is
sustained. -/
theorem listening_step_iff (s : State) (e : Event) (s' : State) (h : Consistent s)
    (hs : Listening s) (hstep : step U S vm scheme s e = some s') :
    Listening s' ↔ Sustained s e := by
  cases effect_of_step hstep with
  | refuse | accept => exact iff_of_true hs (sustained_of_quiet rfl rfl)
  | register runId msg tx domains route =>
      refine iff_of_true (fun hroute ↦ ?_) (sustained_of_quiet rfl rfl)
      refine (hs hroute).imp_right (Or.imp_right ?_)
      rintro ⟨hoff, -⟩
      exact ⟨hoff, List.concat_ne_nil _ _⟩
  | table _ e' routes honTable hfails hroutes =>
      rw [listening_table h hs hroutes, Sustained, hfails, honTable]
      simp
  | seen i domains route hdone hstarted =>
      refine iff_of_true (fun hroute ↦ ?_) (sustained_of_quiet rfl rfl)
      refine (hs hroute).imp_right (Or.imp_right ?_)
      rintro ⟨hoff, -⟩
      exact absurd hoff (h.started.mp hstarted)
  | spawn i domains route hdone hstarted =>
      exact iff_of_true (fun _ ↦ .inl rfl) (sustained_of_quiet rfl rfl)
  | bind hlistener =>
      exact iff_of_true (fun _ ↦ .inr (.inl rfl)) (sustained_of_quiet rfl rfl)
  | fail _ hfails honTable hlistener =>
      rw [Sustained, honTable]
      constructor
      · intro hlistening
        refine ⟨fun _ hroute ↦ ?_, fun e' he' ↦ by cases he'⟩
        exact not_listening (s := { s with listener := .failed }) hroute rfl hlistening
      · rintro ⟨hnone, -⟩ hroute
        exact absurd hroute (hnone hfails)
  | giveUp hlistener =>
      refine iff_of_true (fun hroute ↦ ?_) (sustained_of_quiet rfl rfl)
      exact absurd hs (not_listening hroute hlistener)

/-- In every run, a listener stands behind the registered routes in every state exactly if
all steps are sustained. -/
theorem listening_iff {events : List Event} {s : State}
    (hrun : Machine.run (step U S vm scheme) .start events = some s) :
    Machine.Along (step U S vm scheme) Sustained .start events ↔
      ∀ es t, es <+: events → Machine.run (step U S vm scheme) .start es = some t →
        Listening t := by
  refine Machine.along_iff_reached consistent_step listening_step_iff hrun consistent_start ?_
  rintro ⟨d, hd, -⟩
  cases hd

/-- A manager with both ports. -/
def manager : VhostManager := .new .ascii "" 80 443

/-- The first proxy is registered, and the listener is bound. -/
def served : List Event :=
  [.register "run-1" (ProxyManager.message "site" "http" 0 "" .null) 1, .advance 0, .advance 0,
    .ensureStarted 0, .bind true, .accept]

/-- The proxy leaves, the listener fails and gives up, and the next proxy starts it again. -/
def servedTwice : List Event :=
  served ++ [.unregisterRoute "run-1:site", .walk 1 ["www.example.com"], .advance 1, .advance 1,
    .advance 1, .advance 1, .acceptFails tooManyOpenFiles, .giveUp,
    .register "run-2" (ProxyManager.message "site" "http" 0 "" .null) 2, .advance 2, .advance 2,
    .ensureStarted 2]

theorem listening_servedTwice :
    ∃ s, Machine.run (step .ascii RouteTasks.oneShard manager .http) .start servedTwice = some s ∧
      s.routes.table.HasRoute ∧ s.listener = .starting ∧ Listening s := by
  have hsustained : Machine.Along (step .ascii RouteTasks.oneShard manager .http) Sustained .start
      servedTwice := by decide
  obtain ⟨s, hrun, hroute, hlistener⟩ : ∃ s,
      Machine.run (step .ascii RouteTasks.oneShard manager .http) .start servedTwice = some s ∧
        s.routes.table.HasRoute ∧ s.listener = .starting := ⟨_, rfl, by decide, rfl⟩
  refine ⟨s, hrun, hroute, hlistener, ?_⟩
  exact (listening_iff hrun).mp hsustained servedTwice s List.prefix_rfl hrun

/-- One accept fails for want of file descriptors. -/
def acceptsNoMore : List Event := served ++ [.acceptFails tooManyOpenFiles, .giveUp]

/-- The error would pass, but nobody listens to the registered route any more, and nobody is
about to. -/
theorem not_listening_acceptsNoMore :
    ∃ s, Machine.run (step .ascii RouteTasks.oneShard manager .http) .start acceptsNoMore = some s ∧
      isTransientAcceptError tooManyOpenFiles = true ∧ s.routes.table.HasRoute ∧
      s.listener = .off ∧ s.registering = [] ∧ ¬Listening s := by
  refine ⟨_, rfl, rfl, by decide, rfl, rfl, fun hlistening ↦ ?_⟩
  rcases hlistening (by decide) with hstarting | haccepting | ⟨-, hregistering⟩
  · cases hstarting
  · cases haccepting
  · exact hregistering rfl

end Arp.Server.VhostListener
