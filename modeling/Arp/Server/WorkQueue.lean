import Arp.Lib.Table
import Arp.Server.WorkConn

/-!
# The two queues of a control

Requests wait in one queue and connections in the other, each under a lock of its own.
A connection that arrives tests the first and is stored in the second with both locks
held; the control loop tests the second and queues a request in the first with the locks
taken one after the other.  So a connection can be stored between the loop's test and its
push, and then both queues have an entry (`NeverBoth`, `ParksApart`).

When sending `ReqWorkConn` fails, the loop takes the request back that it has just queued.
It pops by position, after a wait in which connections may have taken requests from the
front.  As the loop is the only one who queues, the request is still the last one, or the
queue is empty (`QueuedLast`), and the pop cannot hit another request.
-/

namespace Arp.Server.WorkConn

open Arp.Lib

/-! ## Waiting on both sides -/

/-- No request waits while a connection is idle. -/
def NeverBoth (s : State) : Prop := s.pending = [] ∨ s.idle = []

/-- The loop has found no idle connection and has not queued the request yet. -/
def LoopPc.isQueueing : LoopPc → Bool
  | queueing _ => true
  | _ => false

/-- No connection is stored as idle between the loop's look at the idle connections and
its push.  The look may also fall between the two locks of the call that stores; what
counts is when the connection is stored. -/
def ParksApart (s : State) : Event → Prop
  | .workConn => s.pending = [] → s.loop.isQueueing = false
  | _ => True

instance (s : State) : ∀ e, Decidable (ParksApart s e)
  | .workConn => inferInstanceAs (Decidable (s.pending = [] → s.loop.isQueueing = false))
  | .submit _ | .loopRecv | .loopPopIdle | .loopReply | .loopPush | .loopSend _
  | .loopRollback | .deliver _ | .timeout _ => .isTrue trivial

/-- `NeverBoth`, and what the loop has seen of the idle connections still holds when it
queues a request. -/
structure Exclusive (s : State) : Prop where
  neverBoth : NeverBoth s
  queueing : s.loop.isQueueing = true → s.idle = []

theorem exclusive_step (s : State) (e : Event) (t : State) (h : Exclusive s)
    (hapart : ParksApart s e) (hstep : step s e = some t) : Exclusive t := by
  obtain ⟨hboth, hqueueing⟩ := h
  cases effect_of_step hstep with
  | submit | deliver | timeout => exact ⟨hboth, hqueueing⟩
  | recv | reply | sent | sendFails => exact ⟨hboth, fun hloop ↦ by cases hloop⟩
  | popIdle conn req hloop hidle =>
      constructor
      · rcases hboth with hpending | hnone
        · exact .inl hpending
        · rw [hnone] at hidle
          cases hidle
      · intro hloop
        cases hloop
  | noIdle req hloop hidle => exact ⟨.inr hidle, fun _ ↦ hidle⟩
  | push req hloop =>
      constructor
      · apply Or.inr
        apply hqueueing
        rw [hloop]
        rfl
      · intro hloop
        cases hloop
  | rollback req hloop =>
      constructor
      · rcases hboth with hpending | hidle
        · apply Or.inl
          show s.pending.dropLast = []
          rw [hpending]
          rfl
        · exact .inr hidle
      · intro hloop
        cases hloop
  | park hpending =>
      refine ⟨.inl hpending, fun hloop ↦ ?_⟩
      have hnot := hapart hpending
      rw [hloop] at hnot
      cases hnot
  | serve req rest hpending =>
      -- There was a request, so no connection was idle.
      have hidle : s.idle = [] := by
        rcases hboth with hnone | hidle
        · rw [hnone] at hpending
          cases hpending
        · exact hidle
      exact ⟨.inr hidle, fun _ ↦ hidle⟩

/-- In every run in which no connection is stored between the loop's look at the idle
connections and its push, no request ever waits while a connection is idle. -/
theorem neverBoth_of_parksApart {events : List Event} {s : State}
    (hapart : Machine.Along step ParksApart .new events)
    (hrun : Machine.run step .new events = some s) : NeverBoth s := by
  have hnew : Exclusive .new := ⟨.inl rfl, fun _ ↦ rfl⟩
  exact (Machine.along_invariant exclusive_step hapart hrun hnew).neverBoth

/-- A request waits until its connection comes; the next connection waits for a request. -/
def inTurn : List Event := requestFor "p1" ++ [.workConn, .workConn]

theorem neverBoth_in_turn :
    ∃ s, Machine.run step .new inTurn = some s ∧ s.idle = [1] ∧ NeverBoth s := by
  have hapart : Machine.Along step ParksApart .new inTurn := by decide
  exact ⟨_, rfl, rfl, neverBoth_of_parksApart hapart rfl⟩

/-- The condition cannot be weakened: once a connection is idle while the loop is about to
push, the push leaves an entry in both queues. -/
theorem not_neverBoth_of_push {s t : State} (hidle : s.idle ≠ [])
    (hstep : step s .loopPush = some t) : ¬NeverBoth t := by
  cases effect_of_step hstep with
  | push req hloop =>
      rintro (hpending | hnone)
      · exact List.concat_ne_nil req s.pending (List.concat_eq_append ▸ hpending)
      · exact hidle hnone

/-- The loop sees no idle connection; one arrives, sees no request and is stored; then the
loop queues its request. -/
theorem stored_before_push :
    ∃ s, Machine.run step .new
        [.submit "p1", .loopRecv, .loopPopIdle, .workConn, .loopPush] = some s ∧
      s.pending = [⟨0, "p1"⟩] ∧ s.idle = [0] ∧ ¬NeverBoth s := by
  refine ⟨_, rfl, rfl, rfl, ?_⟩
  rintro (hpending | hidle)
  · cases hpending
  · cases hidle

/-! ## Taking a request back -/

/-- The request a call has taken off the queue. -/
def CallPc.taken : CallPc → Option WorkConnRequest
  | stored => none
  | handing req | delivered req | dropped req => some req

/-- The requests that were taken off the queue by a connection, in order. -/
def State.served (s : State) : List WorkConnRequest := s.calls.filterMap fun call ↦ call.pc.taken

/-- The request the loop has received and not queued. -/
def LoopPc.held : LoopPc → List WorkConnRequest
  | received req | replying _ req | queueing req => [req]
  | waiting | sending _ | rollingBack _ => []

/-- The request the loop has queued and not finished sending for. -/
def LoopPc.queued : LoopPc → Option WorkConnRequest
  | sending req | rollingBack req => some req
  | waiting | received _ | replying _ _ | queueing _ => none

/-- All requests that are somewhere: taken by a connection, waiting, in the hands of the
loop, or in its channel.  A request moves from the right to the left. -/
def State.roster (s : State) : List WorkConnRequest :=
  s.served ++ (s.pending ++ (s.loop.held ++ s.channel))

/-- Every request is in one place. -/
structure Distinct (s : State) : Prop where
  nodup : (s.roster.map WorkConnRequest.id).Nodup
  lt_nextId : ∀ req ∈ s.roster, req.id < s.nextId

theorem Distinct.of_sublist {s t : State} (h : Distinct s) (hroster : t.roster.Sublist s.roster)
    (hnext : t.nextId = s.nextId) : Distinct t where
  nodup := h.nodup.sublist (hroster.map _)
  lt_nextId req hreq := hnext ▸ h.lt_nextId req (hroster.subset hreq)

theorem served_append (s : State) (call : Call) :
    (s.calls ++ [call]).filterMap (fun call ↦ call.pc.taken) =
      s.served ++ call.pc.taken.toList := by
  rw [List.filterMap_append, State.served]
  cases h : call.pc.taken with
  | none => simp [h]
  | some req => simp [h]

theorem served_set {s : State} {i : Nat} {oldestLive : Option WorkConnRequest}
    {req : WorkConnRequest} {pc : CallPc} (hcall : s.calls[i]? = some ⟨oldestLive, .handing req⟩)
    (hpc : pc.taken = some req) :
    (s.calls.set i ⟨oldestLive, pc⟩).filterMap (fun call ↦ call.pc.taken) = s.served := by
  have hsame := map_set_eq (g := fun call : Call ↦ call.pc.taken) (a := ⟨oldestLive, pc⟩) hcall hpc
  have hfilter := congrArg (List.filterMap id) hsame
  rw [List.filterMap_map, List.filterMap_map] at hfilter
  exact hfilter

/-- Whether or not its requester listens, a call has taken the request. -/
theorem taken_ite (p : Prop) [Decidable p] (req : WorkConnRequest) :
    (if p then CallPc.delivered req else .dropped req).taken = some req := by
  split
  · rfl
  · rfl

/-- A new request comes to the end of the roster, and the other steps move requests along
it or take one out. -/
theorem distinct_step (s : State) (e : Event) (t : State) (h : Distinct s)
    (hstep : step s e = some t) : Distinct t := by
  cases effect_of_step hstep with
  | submit proxyName =>
      have hroster : State.roster { s with
          channel := s.channel ++ [⟨s.nextId, proxyName⟩]
          nextId := s.nextId + 1 } = s.roster ++ [⟨s.nextId, proxyName⟩] := by
        simp only [State.roster, State.served, List.append_assoc]
      constructor
      · rw [hroster, List.map_append, List.nodup_append]
        refine ⟨h.nodup, List.nodup_singleton _, ?_⟩
        intro id hid id' hid' heq
        obtain ⟨req, hreq, rfl⟩ := List.mem_map.mp hid
        obtain rfl := List.mem_singleton.mp hid'
        exact Nat.ne_of_lt (h.lt_nextId req hreq) heq
      · intro req hreq
        rw [hroster] at hreq
        rcases List.mem_append.mp hreq with hold | hnew
        · exact Nat.lt_succ_of_lt (h.lt_nextId req hold)
        · obtain rfl := List.mem_singleton.mp hnew
          exact Nat.lt_succ_self _
  | recv req rest hloop hchannel =>
      refine h.of_sublist ?_ rfl
      simp only [State.roster, State.served, hloop, hchannel, LoopPc.held, List.nil_append,
        List.singleton_append]
      exact List.Sublist.refl _
  | popIdle _ req hloop | noIdle req hloop =>
      refine h.of_sublist ?_ rfl
      simp only [State.roster, State.served, hloop, LoopPc.held]
      exact List.Sublist.refl _
  | reply conn req reused hloop =>
      refine h.of_sublist ?_ rfl
      simp only [State.roster, State.served, hloop, LoopPc.held, List.nil_append]
      apply List.Sublist.append_left
      apply List.Sublist.append_left
      exact List.sublist_append_right _ _
  | push req hloop =>
      refine h.of_sublist ?_ rfl
      simp only [State.roster, State.served, hloop, LoopPc.held, List.append_assoc, List.nil_append]
      exact List.Sublist.refl _
  | sent req hloop | sendFails req hloop =>
      refine h.of_sublist ?_ rfl
      simp only [State.roster, State.served, hloop, LoopPc.held]
      exact List.Sublist.refl _
  | rollback req hloop =>
      refine h.of_sublist ?_ rfl
      simp only [State.roster, State.served, hloop, LoopPc.held]
      apply List.Sublist.append_left
      exact (List.dropLast_sublist _).append_right _
  | park hpending =>
      refine h.of_sublist ?_ rfl
      rw [State.roster, State.served, served_append]
      simp only [CallPc.taken, Option.toList_none, List.append_nil]
      exact List.Sublist.refl _
  | serve req rest hpending =>
      refine h.of_sublist ?_ rfl
      rw [State.roster, State.served, served_append, State.roster, hpending]
      simp only [CallPc.taken, Option.toList_some, List.append_assoc, List.cons_append,
        List.nil_append]
      exact List.Sublist.refl _
  | deliver i oldestLive req hcall =>
      refine h.of_sublist ?_ rfl
      rw [State.roster, State.served, served_set hcall (taken_ite _ req)]
      exact List.Sublist.refl _
  | timeout id hid => exact h.of_sublist (List.Sublist.refl _) rfl

/-- While the loop sends for a request it has queued, the request is the last one in the
queue; or a connection has taken it, and all that were before it. -/
def QueuedLast (s : State) : Prop :=
  ∀ req, s.loop.queued = some req →
    (∃ before, s.pending = before ++ [req]) ∨ s.pending = [] ∧ req ∈ s.served

theorem queuedLast_step (s : State) (e : Event) (t : State) (h : QueuedLast s)
    (hstep : step s e = some t) : QueuedLast t := by
  cases effect_of_step hstep with
  | submit | timeout => exact h
  | recv | popIdle | noIdle | reply | sent | rollback =>
      intro req hreq
      cases hreq
  | push req hloop =>
      rintro req' hreq
      obtain rfl := Option.some.inj hreq
      exact .inl ⟨s.pending, rfl⟩
  | sendFails req hloop =>
      intro req' hreq
      apply h
      rw [hloop]
      exact hreq
  | park hpending =>
      intro req hreq
      refine (h req hreq).imp id fun ⟨hnone, hserved⟩ ↦ ⟨hnone, ?_⟩
      rw [State.served, served_append]
      exact List.mem_append_left _ hserved
  | serve front rest hpending =>
      intro req hreq
      rw [State.served, served_append]
      -- The front request is taken; it is the one in question if it was alone.
      rcases h req hreq with ⟨before, hlast⟩ | ⟨hnone, -⟩
      · rw [hpending] at hlast
        cases before with
        | nil =>
            obtain ⟨rfl, rfl⟩ := List.cons.inj hlast
            exact .inr ⟨rfl, List.mem_append_right _ (List.mem_singleton_self _)⟩
        | cons first before => exact .inl ⟨before, (List.cons.inj hlast).2⟩
      · rw [hnone] at hpending
        cases hpending
  | deliver i oldestLive req hcall =>
      intro req' hreq
      rw [State.served, served_set hcall (taken_ite _ req)]
      exact h req' hreq

/-- A request that waits has not been taken. -/
theorem Distinct.notMem_served {s : State} (h : Distinct s) {req : WorkConnRequest}
    (hreq : req ∈ s.pending) : req ∉ s.served := by
  intro hserved
  have hnodup := h.nodup
  rw [State.roster, List.map_append, List.nodup_append] at hnodup
  exact hnodup.2.2 _ (List.mem_map_of_mem hserved) _
    (List.mem_map_of_mem (List.mem_append_left _ hreq)) rfl

/-- A request waits once. -/
theorem Distinct.nodup_pending {s : State} (h : Distinct s) : s.pending.Nodup := by
  have hsub : s.pending.Sublist s.roster :=
    (List.sublist_append_left _ _).trans (List.sublist_append_right _ _)
  exact (h.nodup.sublist (hsub.map _)).of_map

/-- In every run, when the loop takes a request back: if it still waits, exactly it is
removed and the others wait in the same order; if a connection has taken it, nothing is
removed; and one of the two is the case. -/
theorem rollback_own_request {events : List Event} {s t : State} {req : WorkConnRequest}
    (hrun : Machine.run step .new events = some s) (hloop : s.loop = .rollingBack req)
    (hstep : step s .loopRollback = some t) :
    (req ∈ s.pending → s.pending = t.pending ++ [req] ∧ req ∉ t.pending) ∧
      (req ∈ s.served → t.pending = s.pending) ∧ (req ∈ s.served ↔ req ∉ s.pending) := by
  have hdistinct : Distinct s := Machine.run_invariant distinct_step hrun
    ⟨List.nodup_nil, fun req hreq ↦ absurd hreq List.not_mem_nil⟩
  have hlast : QueuedLast s := Machine.run_invariant queuedLast_step hrun
    fun req hreq ↦ by cases hreq
  have hpopped : t.pending = s.pending.dropLast := by
    cases effect_of_step hstep with
    | rollback => rfl
  rw [hpopped]
  rcases hlast req (by rw [hloop]; rfl) with ⟨before, hpending⟩ | ⟨hnone, hserved⟩
  · have hmem : req ∈ s.pending := by
      rw [hpending]
      exact List.mem_append_right _ (List.mem_singleton_self req)
    have hnot := hdistinct.notMem_served hmem
    refine ⟨fun _ ↦ ?_, fun h ↦ absurd h hnot, iff_of_false hnot (not_not_intro hmem)⟩
    have hnodup := hdistinct.nodup_pending
    rw [hpending, List.nodup_append] at hnodup
    rw [hpending, List.dropLast_concat]
    exact ⟨rfl, fun hbefore ↦ hnodup.2.2 req hbefore req (List.mem_singleton_self req) rfl⟩
  · rw [hnone]
    exact ⟨fun h ↦ absurd h List.not_mem_nil, fun _ ↦ rfl,
      iff_of_true hserved List.not_mem_nil⟩

/-- Sending fails for the second of two requests while the first still waits. -/
def secondSendFails : List Event :=
  requestFor "p1" ++ [.submit "p2", .loopRecv, .loopPopIdle, .loopPush, .loopSend false]

theorem rollback_second_request :
    ∃ s t, Machine.run step .new secondSendFails = some s ∧ step s .loopRollback = some t ∧
      s.pending = [⟨0, "p1"⟩, ⟨1, "p2"⟩] ∧ s.pending = t.pending ++ [⟨1, "p2"⟩] := by
  obtain ⟨s, t, hrun, hloop, hstep, hpending⟩ : ∃ s t,
      Machine.run step .new secondSendFails = some s ∧ s.loop = .rollingBack ⟨1, "p2"⟩ ∧
        step s .loopRollback = some t ∧ s.pending = [⟨0, "p1"⟩, ⟨1, "p2"⟩] :=
    ⟨_, _, rfl, rfl, rfl, rfl⟩
  obtain ⟨hwaits, -, -⟩ := rollback_own_request hrun hloop hstep
  exact ⟨s, t, hrun, hstep, hpending, (hwaits (by rw [hpending]; decide)).1⟩

end Arp.Server.WorkConn
