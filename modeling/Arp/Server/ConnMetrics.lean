import Arp.Server.ClientConn

/-!
# Metrics of user connections

`handle_plain_client_connection` and `handle_mux_client_connection` count the connections of a
proxy: in all, and with a gauge those that are open.  The gauge goes up when a handler starts,
or has its stream, and is to go down when it ends.  Any number of handlers of any proxies take
their steps in any order, and what becomes of their sockets and tunnels is decided by the world.

The plain handler leaves by `?` where the work connection does not come or the relay fails, and
then the gauge stays up.  So it counts, besides the connections that are open, those that have
failed in a plain handler (`connectionsActive_eq`), and is right exactly until the first one
fails (`balanced_iff`).

Numbers are those of the atomics: they wrap around.  The field `errors` is counted by nobody.
-/

namespace Arp.Server.ConnMetrics

open Arp.Common Arp.Lib Arp.Lib.Machine
open ClientConn (Copy RequestOutcome)

/-! ## What is counted -/

/-- `ProxyMetrics`. -/
structure ProxyMetrics where
  bytesIn : UInt64
  bytesOut : UInt64
  connectionsTotal : UInt64
  connectionsActive : Int64
deriving DecidableEq

/-- `ProxyMetrics::new`. -/
def ProxyMetrics.new : ProxyMetrics := ⟨0, 0, 0, 0⟩

/-- The metrics of the server that the handlers count in. -/
structure Metrics where
  tcpProxyConnectionsTotal : UInt64
  tcpMuxStreamsOpenedTotal : UInt64
  tcpBytesInTotal : UInt64
  tcpBytesOutTotal : UInt64
deriving DecidableEq

/-- What a handler notes between two waits. -/
inductive Note where
  /-- A connection is open, over a stream of a tunnel or not. -/
  | opened (mux : Bool)
  /-- A plain connection has ended, with so many bytes copied. -/
  | relayed (bytesIn bytesOut : UInt64)
  | received (n : UInt64)
  | sent (n : UInt64)
  /-- A connection over a tunnel has ended. -/
  | closed
deriving DecidableEq

/-- A note in the metrics of the proxy. -/
def ProxyMetrics.note (pm : ProxyMetrics) : Note → ProxyMetrics
  | .opened _ => { pm with
      connectionsTotal := pm.connectionsTotal + 1
      connectionsActive := pm.connectionsActive + 1 }
  | .relayed bytesIn bytesOut => { pm with
      bytesIn := pm.bytesIn + bytesIn
      bytesOut := pm.bytesOut + bytesOut
      connectionsActive := pm.connectionsActive - 1 }
  | .received n => { pm with bytesIn := pm.bytesIn + n }
  | .sent n => { pm with bytesOut := pm.bytesOut + n }
  | .closed => { pm with connectionsActive := pm.connectionsActive - 1 }

/-- A note in the metrics of the server. -/
def Metrics.note (m : Metrics) : Note → Metrics
  | .opened mux => { m with
      tcpProxyConnectionsTotal := m.tcpProxyConnectionsTotal + 1
      tcpMuxStreamsOpenedTotal :=
        if mux then m.tcpMuxStreamsOpenedTotal + 1 else m.tcpMuxStreamsOpenedTotal }
  | .relayed bytesIn bytesOut => { m with
      tcpBytesInTotal := m.tcpBytesInTotal + bytesIn
      tcpBytesOutTotal := m.tcpBytesOutTotal + bytesOut }
  | .received n => { m with tcpBytesInTotal := m.tcpBytesInTotal + n }
  | .sent n => { m with tcpBytesOutTotal := m.tcpBytesOutTotal + n }
  | .closed => m

/-! ## The handlers -/

/-- Where `handle_plain_client_connection` is. -/
inductive PlainPc where
  /-- In `request_work_transport`. -/
  | requesting
  | relaying (copy : Copy)
  | returned (result : Result Unit)

/-- Where `handle_mux_client_connection` is. -/
inductive MuxPc where
  /-- It waits for the tunnel and its stream. -/
  | opening
  /-- In `relay_mux_stream`. -/
  | relaying
  | returned (result : Result Unit)

/-- A handler that was started. -/
inductive Handler where
  | plain (stcp : Bool) (pc : PlainPc)
  | mux (pc : MuxPc)

/-- What happens to a handler. -/
inductive Act where
  | requested (outcome : RequestOutcome)
  /-- An operation of the copy ends. -/
  | copies (e : ClientConn.Event)
  /-- The copy has returned, with its numbers of bytes if it has not failed. -/
  | copied (bytesIn bytesOut : UInt64)
  | opened (result : Result Unit)
  | received (n : UInt64)
  /-- The task that writes to the user has got data. -/
  | sent (n : UInt64)
  /-- `relay_mux_stream` returns. -/
  | closed (result : Result Unit)

namespace Handler

/-- A handler goes on, and notes something. -/
def next : Handler → Act → Option (Handler × Option Note)
  | .plain stcp .requesting, .requested outcome =>
    match outcome.toResult with
    | .error e => some (.plain stcp (.returned (.error e)), none)
    | .ok () => some (.plain stcp (.relaying (.start stcp)), none)
  | .plain stcp (.relaying copy), .copies e =>
    (copy.step e).map fun copy ↦ (.plain stcp (.relaying copy), none)
  | .plain stcp (.relaying copy), .copied bytesIn bytesOut =>
    copy.result.map fun
      | .error e => (.plain stcp (.returned (.error e)), none)
      | .ok () => (.plain stcp (.returned (.ok ())), some (.relayed bytesIn bytesOut))
  | .mux .opening, .opened (.error e) => some (.mux (.returned (.error e)), none)
  | .mux .opening, .opened (.ok ()) => some (.mux .relaying, some (.opened true))
  | .mux .relaying, .received n => some (.mux .relaying, some (.received n))
  | .mux .relaying, .sent n => some (.mux .relaying, some (.sent n))
  -- The task that writes is stopped only where the relay ends well.
  | .mux (.returned (.error e)), .sent n => some (.mux (.returned (.error e)), some (.sent n))
  | .mux .relaying, .closed result => some (.mux (.returned result), some .closed)
  | _, _ => none

/-- The handler has put the gauge up, and has not returned. -/
def running : Handler → Bool
  | .plain _ .requesting | .plain _ (.relaying _) | .mux .relaying => true
  | .plain _ (.returned _) | .mux .opening | .mux (.returned _) => false

/-- A plain handler that has returned an error. -/
def failed : Handler → Bool
  | .plain _ (.returned (.error _)) => true
  | .plain _ (.returned (.ok ())) | .plain _ .requesting | .plain _ (.relaying _) | .mux _ => false

end Handler

/-- The handlers of the server, with the names of their proxies, and the metrics. -/
structure State where
  handlers : List (String × Handler)
  proxyMetrics : Table String ProxyMetrics
  metrics : Metrics

/-- A server that was just started. -/
def State.new : State := ⟨[], ∅, ⟨0, 0, 0, 0⟩⟩

/-- What can happen next. -/
inductive Event where
  /-- `handle_plain_client_connection` is called. -/
  | plain (proxyName : String) (stcp : Bool)
  /-- `handle_mux_client_connection` is called. -/
  | mux (proxyName : String)
  | act (i : Nat) (a : Act)

namespace State

/-- `get_or_create_proxy_metrics`, as far as the numbers go. -/
def metricsOf (s : State) (proxyName : String) : ProxyMetrics :=
  (s.proxyMetrics.lookup proxyName).getD .new

/-- A handler notes something. -/
def note (s : State) (proxyName : String) : Option Note → State
  | none => s
  | some note => { s with
      proxyMetrics := s.proxyMetrics.insert proxyName ((s.metricsOf proxyName).note note)
      metrics := s.metrics.note note }

/-- How many handlers of a proxy have a property. -/
def count (s : State) (p : Handler → Bool) (proxyName : String) : Nat :=
  s.handlers.countP fun h ↦ h.1 == proxyName && p h.2

end State

/-- One step. -/
def step (s : State) : Event → Option State
  | .plain proxyName stcp => some { s.note proxyName (some (.opened false)) with
      handlers := s.handlers ++ [(proxyName, .plain stcp .requesting)] }
  | .mux proxyName => some { s with handlers := s.handlers ++ [(proxyName, .mux .opening)] }
  | .act i a => s.handlers[i]?.bind fun h ↦ (h.2.next a).map fun (h', note) ↦
      { s.note h.1 note with handlers := s.handlers.set i (h.1, h') }

/-- The gauge of every proxy counts the handlers that have put it up and not returned. -/
def Balanced (s : State) : Prop :=
  ∀ proxyName, (s.metricsOf proxyName).connectionsActive =
    Int64.ofNat (s.count Handler.running proxyName)

/-! ## What the gauge counts -/

namespace Handler

/-- The gauge counts the handler, rightly or not. -/
def onGauge (h : Handler) : Bool := h.running || h.failed

theorem not_failed_of_running {h : Handler} (hrunning : h.running = true) : h.failed = false := by
  cases h with
  | plain stcp pc =>
      cases pc with
      | requesting | relaying copy => rfl
      | returned result => cases hrunning
  | mux pc => rfl

/-- A handler leaves the gauge as it finds it, or changes it for itself. -/
theorem active_note {h h' : Handler} {a : Act} {note : Option Note}
    (hnext : h.next a = some (h', note)) (pm : ProxyMetrics) :
    (note.elim pm pm.note).connectionsActive + (if h.onGauge then 1 else 0) =
      pm.connectionsActive + (if h'.onGauge then 1 else 0) := by
  unfold next at hnext
  split at hnext
  · split at hnext
    · cases hnext; rfl
    · cases hnext; rfl
  · obtain ⟨copy, -, hcopy⟩ := Option.map_eq_some_iff.mp hnext
    cases hcopy
    rfl
  · obtain ⟨result, -, hresult⟩ := Option.map_eq_some_iff.mp hnext
    split at hresult
    · cases hresult; rfl
    · cases hresult
      exact (Int64.sub_add_cancel _ _).trans (Int64.add_zero _).symm
  · cases hnext; rfl
  · cases hnext
    exact Int64.add_zero _
  · cases hnext; rfl
  · cases hnext; rfl
  · cases hnext; rfl
  · cases hnext
    exact (Int64.sub_add_cancel _ _).trans (Int64.add_zero _).symm
  · cases hnext

/-- The request of a plain handler is not answered, or its relay fails. -/
def fails : Handler → Act → Bool
  | .plain _ .requesting, .requested outcome => decide (outcome ≠ .started)
  | .plain _ (.relaying copy), .copied _ _ => copy.error.isSome
  | _, _ => false

/-- Whether a relay that has returned has failed. -/
theorem isSome_error_of_result {copy : Copy} {result : Result Unit}
    (h : copy.result = some result) : copy.error.isSome = !result.isOk := by
  unfold Copy.result at h
  split at h
  · split at h
    · next e he =>
        obtain rfl := Option.some.inj h
        rw [he]
        rfl
    · next he =>
        obtain rfl := Option.some.inj h
        rw [he]
        rfl
  · cases h

/-- A handler fails once. -/
theorem failed_next {h h' : Handler} {a : Act} {note : Option Note}
    (hnext : h.next a = some (h', note)) :
    h'.failed = (h.failed || h.fails a) ∧ (h.failed && h.fails a) = false := by
  unfold next at hnext
  split at hnext
  · next stcp outcome =>
      cases outcome with
      | started => cases hnext; exact ⟨rfl, rfl⟩
      | requestClosed | timedOut | replyClosed | startFails e => cases hnext; exact ⟨rfl, rfl⟩
  · obtain ⟨copy, -, hcopy⟩ := Option.map_eq_some_iff.mp hnext
    cases hcopy
    exact ⟨rfl, rfl⟩
  · next stcp copy bytesIn bytesOut =>
      obtain ⟨result, hcopy, hresult⟩ := Option.map_eq_some_iff.mp hnext
      have herror := isSome_error_of_result hcopy
      refine ⟨?_, rfl⟩
      rw [fails, herror]
      split at hresult
      · cases hresult; rfl
      · cases hresult; rfl
  · cases hnext; exact ⟨rfl, rfl⟩
  · cases hnext; exact ⟨rfl, rfl⟩
  · cases hnext; exact ⟨rfl, rfl⟩
  · cases hnext; exact ⟨rfl, rfl⟩
  · cases hnext; exact ⟨rfl, rfl⟩
  · cases hnext; exact ⟨rfl, rfl⟩
  · cases hnext

end Handler

namespace State

variable {s t : State}

theorem metricsOf_note (s : State) (proxyName name : String) (note : Option Note) :
    (s.note name note).metricsOf proxyName =
      if proxyName = name then note.elim (s.metricsOf name) (s.metricsOf name).note
      else s.metricsOf proxyName := by
  cases note with
  | none =>
      split
      · next h => rw [h]; rfl
      · rfl
  | some note =>
      rw [State.note, metricsOf, Table.lookup_insert_ite]
      split
      · rfl
      · rfl

/-- One more handler. -/
theorem count_append {name : String} {h : Handler} (ht : t.handlers = s.handlers ++ [(name, h)])
    (p : Handler → Bool) (proxyName : String) :
    t.count p proxyName = s.count p proxyName +
      if proxyName = name then (if p h then 1 else 0) else 0 := by
  rw [count, ht, List.countP_append, List.countP_singleton]
  by_cases hname : proxyName = name
  · simp [hname, count]
  · simp [hname, Ne.symm hname, count]

/-- A handler goes on. -/
theorem count_set {i : Nat} {h : String × Handler} {h' : Handler}
    (hi : s.handlers[i]? = some h) (ht : t.handlers = s.handlers.set i (h.1, h'))
    (p : Handler → Bool) (proxyName : String) :
    t.count p proxyName + (if proxyName = h.1 then (if p h.2 then 1 else 0) else 0) =
      s.count p proxyName + (if proxyName = h.1 then (if p h' then 1 else 0) else 0) := by
  have hcount := countP_set_add (b := (h.1, h')) hi fun h ↦ h.1 == proxyName && p h.2
  rw [← ht] at hcount
  by_cases hname : proxyName = h.1
  · simpa [hname, count] using hcount
  · simpa [hname, Ne.symm hname, count] using hcount

/-- Those on the gauge are those that run and those that have failed. -/
theorem count_onGauge (s : State) (proxyName : String) : s.count Handler.onGauge proxyName =
    s.count Handler.running proxyName + s.count Handler.failed proxyName := by
  unfold count
  induction s.handlers with
  | nil => rfl
  | cons h hs ih =>
      simp only [List.countP_cons, ih]
      cases hname : h.1 == proxyName with
      | false => simp
      | true =>
          cases hrunning : h.2.running with
          | true => simp [Handler.onGauge, hrunning, Handler.not_failed_of_running hrunning]; omega
          | false => simp [Handler.onGauge, hrunning]; omega

end State

/-- The gauge of every proxy counts the handlers that run and those that have failed. -/
def Counts (s : State) : Prop :=
  ∀ proxyName, (s.metricsOf proxyName).connectionsActive =
    Int64.ofNat (s.count Handler.onGauge proxyName)

theorem counts_new : Counts .new := fun _ ↦ rfl

/-- A handler goes on. -/
theorem next_of_act {s t : State} {i : Nat} {a : Act} (h : step s (.act i a) = some t) :
    ∃ handler h' note, s.handlers[i]? = some handler ∧ handler.2.next a = some (h', note) ∧
      t.handlers = s.handlers.set i (handler.1, h') ∧
      ∀ proxyName, t.metricsOf proxyName = (s.note handler.1 note).metricsOf proxyName := by
  obtain ⟨handler, hi, hmap⟩ := Option.bind_eq_some_iff.mp h
  obtain ⟨⟨h', note⟩, hnext, rfl⟩ := Option.map_eq_some_iff.mp hmap
  exact ⟨handler, h', note, hi, hnext, rfl, fun proxyName ↦ rfl⟩

/-- What a handler changes the gauge by is what it changes of those counted. -/
theorem counts_step {s t : State} {e : Event} (h : Counts s) (hstep : step s e = some t) :
    Counts t := by
  intro proxyName
  cases e with
  | plain name stcp =>
      obtain rfl := Option.some.inj hstep
      rw [State.count_append rfl, Int64.ofNat_add, ← h proxyName]
      show ((s.note name _).metricsOf proxyName).connectionsActive = _
      rw [State.metricsOf_note]
      split
      · next hname => subst hname; rfl
      · exact (Int64.add_zero _).symm
  | mux name =>
      obtain rfl := Option.some.inj hstep
      rw [State.count_append rfl, Int64.ofNat_add, ← h proxyName]
      split <;> exact (Int64.add_zero _).symm
  | act i a =>
      obtain ⟨handler, h', note, hi, hnext, hhandlers, hmetrics⟩ := next_of_act hstep
      have hcount := State.count_set hi hhandlers Handler.onGauge proxyName
      rw [hmetrics, State.metricsOf_note]
      by_cases hname : proxyName = handler.1
      · subst hname
        simp only [if_true] at hcount ⊢
        refine (Int64.add_left_inj (if handler.2.onGauge then 1 else 0)).mp ?_
        calc _ = (s.metricsOf handler.1).connectionsActive + (if h'.onGauge then 1 else 0) :=
              Handler.active_note hnext _
          _ = Int64.ofNat (s.count Handler.onGauge handler.1 + if h'.onGauge then 1 else 0) := by
              rw [Int64.ofNat_add, h]
              split <;> rfl
          _ = _ := by
              rw [← hcount, Int64.ofNat_add]
              split <;> rfl
      · rw [if_neg hname, if_neg hname] at hcount
        rw [if_neg hname, h, Nat.add_right_cancel hcount]

/-- Wherever the handlers are: the gauge of a proxy is the number of those that have put it up
and not returned, and of the plain ones that have returned an error. -/
theorem connectionsActive_eq {es : List Event} {s : State} (hrun : run step .new es = some s)
    (proxyName : String) : (s.metricsOf proxyName).connectionsActive =
      Int64.ofNat (s.count Handler.running proxyName + s.count Handler.failed proxyName) := by
  rw [← State.count_onGauge]
  exact run_invariant (fun _ _ _ ↦ counts_step) hrun counts_new proxyName

/-! ## One plain connection -/

namespace Handler

/-- A handler on its own. -/
def step (h : Handler) (a : Act) : Option Handler := (h.next a).map Prod.fst

theorem run_copies {stcp : Bool} {copy copy' : Copy} {es : List ClientConn.Event}
    (h : run Copy.step copy es = some copy') :
    run step (.plain stcp (.relaying copy)) (es.map .copies) =
      some (.plain stcp (.relaying copy')) := by
  induction es generalizing copy with
  | nil => rw [Option.some.inj h]; rfl
  | cons e es ih =>
      obtain ⟨next, hnext, hrest⟩ := (run_cons_eq_some Copy.step).mp h
      rw [List.map_cons, run_cons, step, Handler.next, hnext]
      exact ih hrest

/-- A plain handler returns what `handle_plain_client_connection` does on its own. -/
theorem run_plain {stcp : Bool} {x : ClientConn.Exchange} {result : Result Unit}
    (h : ClientConn.handlePlainClientConnection stcp x = some result)
    (bytesIn bytesOut : UInt64) :
    run step (.plain stcp .requesting) (.requested x.request ::
      if x.request = .started then x.events.map .copies ++ [.copied bytesIn bytesOut] else []) =
      some (.plain stcp (.returned result)) := by
  unfold ClientConn.handlePlainClientConnection at h
  split at h
  · next e he =>
      obtain rfl := Option.some.inj h
      have hnot : x.request ≠ .started := by
        intro hstarted
        rw [hstarted] at he
        cases he
      rw [if_neg hnot, run_cons, step, Handler.next, he]
      rfl
  · next hok =>
      obtain ⟨copy, hcopy, hresult⟩ := Option.bind_eq_some_iff.mp h
      have hstarted : x.request = .started := by
        cases hx : x.request with
        | started => rfl
        | requestClosed | timedOut | replyClosed | startFails e => rw [hx] at hok; cases hok
      rw [if_pos hstarted, run_cons, step, Handler.next, hok]
      show run step (.plain stcp (.relaying (.start stcp))) _ = _
      rw [run_append, run_copies hcopy, Option.bind_some, run_cons, step, Handler.next, hresult]
      cases result <;> rfl

end Handler

/-! ## When the gauge is right -/

/-- No plain handler fails in the step. -/
def Smooth (s : State) : Event → Prop
  | .act i a => ∀ h ∈ s.handlers[i]?, h.2.fails a = false
  | .plain _ _ | .mux _ => True

instance (s : State) : ∀ e, Decidable (Smooth s e)
  | .act i a => inferInstanceAs (Decidable (∀ h ∈ s.handlers[i]?, h.2.fails a = false))
  | .plain _ _ | .mux _ => .isTrue trivial

/-- The gauge is right where the handlers that have failed make a full turn of it, or none. -/
theorem balanced_iff_failed {s : State} (h : Counts s) :
    Balanced s ↔ ∀ proxyName, Int64.ofNat (s.count Handler.failed proxyName) = 0 := by
  refine forall_congr' fun proxyName ↦ ?_
  rw [h, State.count_onGauge, Int64.ofNat_add, Int64.add_comm]
  constructor
  · intro hsame
    exact (Int64.add_left_inj _).mp (hsame.trans (Int64.zero_add _).symm)
  · intro hzero
    rw [hzero, Int64.zero_add]

theorem failed_of_smooth {s t : State} {e : Event} (he : Smooth s e) (hstep : step s e = some t)
    (proxyName : String) : t.count Handler.failed proxyName = s.count Handler.failed proxyName := by
  cases e with
  | plain name stcp =>
      obtain rfl := Option.some.inj hstep
      rw [State.count_append rfl]
      split <;> rfl
  | mux name =>
      obtain rfl := Option.some.inj hstep
      rw [State.count_append rfl]
      split <;> rfl
  | act i a =>
      obtain ⟨handler, h', note, hi, hnext, hhandlers, -⟩ := next_of_act hstep
      have hcount := State.count_set hi hhandlers Handler.failed proxyName
      rw [(Handler.failed_next hnext).1, he handler hi, Bool.or_false] at hcount
      exact Nat.add_right_cancel hcount

/-- A handler that fails is one more that has failed. -/
theorem failed_of_not_smooth {s t : State} {e : Event} (he : ¬Smooth s e)
    (hstep : step s e = some t) : ∃ proxyName,
      t.count Handler.failed proxyName = s.count Handler.failed proxyName + 1 := by
  cases e with
  | plain name stcp => exact absurd trivial he
  | mux name => exact absurd trivial he
  | act i a =>
      obtain ⟨handler, h', note, hi, hnext, hhandlers, -⟩ := next_of_act hstep
      have hfails : handler.2.fails a = true := by
        by_contra hfalse
        refine he fun h hh ↦ ?_
        obtain rfl := Option.some.inj (hi.symm.trans hh)
        exact Bool.eq_false_iff.mpr hfalse
      have hcount := State.count_set hi hhandlers Handler.failed handler.1
      obtain ⟨hfailed, honce⟩ := Handler.failed_next hnext
      rw [hfails, Bool.and_true] at honce
      rw [hfailed, honce, hfails] at hcount
      exact ⟨handler.1, by simpa using hcount⟩

/-- However the handlers of all proxies take their steps: the gauges are right in every state
exactly if no plain handler fails. -/
theorem balanced_iff {es : List Event} {t : State} (hrun : run step .new es = some t) :
    (∀ fs s, fs <+: es → run step .new fs = some s → Balanced s) ↔ Along step Smooth .new es := by
  refine (along_iff_reached (fun _ _ _ ↦ counts_step) ?_ hrun counts_new fun _ ↦ rfl).symm
  intro s e t hs hbalanced hstep
  rw [balanced_iff_failed hs] at hbalanced
  rw [balanced_iff_failed (counts_step hs hstep)]
  constructor
  · intro hzero
    by_contra he
    obtain ⟨proxyName, hmore⟩ := failed_of_not_smooth he hstep
    have hone := hzero proxyName
    rw [hmore, Int64.ofNat_add, hbalanced, Int64.zero_add] at hone
    exact absurd hone (by decide)
  · intro he proxyName
    rw [failed_of_smooth he hstep, hbalanced]

/-- A plain connection and one over a tunnel that overlap, and end well. -/
def overlapping : List Event :=
  [.plain "web" false, .act 0 (.requested .started), .mux "web", .act 1 (.opened (.ok ())),
    .act 0 (.copies (.eof .toWork)), .act 1 (.received 5), .act 0 (.copies (.shut .toWork)),
    .act 0 (.copies (.eof .toUser)), .act 0 (.copies (.shut .toUser)), .act 0 (.copied 10 20),
    .act 1 (.closed (.error (.transport "tcp_mux frame channel closed")))]

theorem balanced_overlapping : ∃ s, run step .new overlapping = some s ∧
    s.metricsOf "web" = ⟨15, 20, 2, 0⟩ ∧ Balanced s := by
  obtain ⟨s, hs, hmetrics⟩ : ∃ s, run step .new overlapping = some s ∧
      s.metricsOf "web" = ⟨15, 20, 2, 0⟩ := ⟨_, rfl, rfl⟩
  have hsmooth : Along step Smooth .new overlapping := by decide
  exact ⟨s, hs, hmetrics, (balanced_iff hs).mpr hsmooth overlapping s (List.prefix_refl _) hs⟩

/-- The work connection of a plain connection does not come.  Nobody is connected any more, and
the gauge is at one. -/
theorem timed_out_counted : ∃ s,
    run step .new [.plain "web" false, .act 0 (.requested .timedOut)] = some s ∧
    (s.metricsOf "web").connectionsActive = 1 ∧ s.count Handler.running "web" = 0 ∧
    ¬Balanced s :=
  ⟨_, rfl, rfl, rfl, fun h ↦ absurd (h "web") (by decide)⟩

end Arp.Server.ConnMetrics
