import Arp.Lib.Machine
import Mathlib.Data.List.Basic

/-!
# Work connections of a control

A control keeps two queues: requests for a work connection that wait for one,
oldest first, and work connections that wait for a request.  The control loop
runs `handle_work_conn_request`, one request at a time; every incoming work
connection runs `handle_work_conn` in a task of its own.  Requesters give up
after ten seconds by dropping the receiver of their reply channel.

The machine below takes one step per critical section.  A connection that finds
requests waiting takes the front one, whether or not its requester still listens;
the main result says that this serves the oldest listening request as long as no
abandoned request stands in front of a listening one.  `Effect` says once what each step
does; the invariants, here and of the two queues, are proved by cases on it.
-/

namespace Arp.Server.WorkConn

open Arp.Lib

/-- `WorkConnRequest`; the number stands for its reply channel. -/
structure WorkConnRequest where
  id : Nat
  proxyName : String
deriving DecidableEq, Repr

/-- Where the control loop is in `handle_work_conn_request`. -/
inductive LoopPc where
  | waiting
  /-- About to look for an idle connection. -/
  | received (req : WorkConnRequest)
  /-- An idle connection was taken and is about to be sent to the requester. -/
  | replying (conn : Nat) (req : WorkConnRequest)
  /-- There was no idle connection; the request is about to be queued. -/
  | queueing (req : WorkConnRequest)
  /-- The request is queued and `ReqWorkConn` is being sent. -/
  | sending (req : WorkConnRequest)
  /-- Sending failed; the back of the queue is about to be removed. -/
  | rollingBack (req : WorkConnRequest)
deriving DecidableEq, Repr

/-- Where a call of `handle_work_conn` is. -/
inductive CallPc where
  /-- The connection was stored as idle. -/
  | stored
  /-- A request was taken off the queue; the connection is about to be sent to it. -/
  | handing (req : WorkConnRequest)
  | delivered (req : WorkConnRequest)
  /-- The requester was gone; the connection was dropped. -/
  | dropped (req : WorkConnRequest)
deriving DecidableEq, Repr

/-- The request a call has in hand. -/
def CallPc.inHand : CallPc → Option WorkConnRequest
  | handing req => some req
  | _ => none

/-- One call of `handle_work_conn`, with the oldest request that was waiting and
listening when its connection arrived. -/
structure Call where
  oldestLive : Option WorkConnRequest
  pc : CallPc
deriving DecidableEq, Repr

/-- The queues of a control with its loop and its calls.  A connection is named by
the position of its call. -/
structure State where
  /-- Requests submitted to the loop and not yet received by it. -/
  channel : List WorkConnRequest
  loop : LoopPc
  pending : List WorkConnRequest
  idle : List Nat
  calls : List Call
  /-- The requests whose receivers are gone. -/
  gone : List Nat
  nextId : Nat
  /-- The proxies named in the `ReqWorkConn` messages sent. -/
  requested : List String
  /-- The idle connections that were sent to a requester. -/
  reused : List (Nat × WorkConnRequest)
deriving DecidableEq, Repr

/-- A control that has just been created. -/
def State.new : State := ⟨[], .waiting, [], [], [], [], 0, [], []⟩

/-- The requester still listens. -/
def State.live (s : State) (req : WorkConnRequest) : Bool := !s.gone.contains req.id

/-- What can happen next. -/
inductive Event where
  | submit (proxyName : String)
  | loopRecv
  | loopPopIdle
  | loopReply
  | loopPush
  | loopSend (ok : Bool)
  | loopRollback
  | workConn
  | deliver (call : Nat)
  | timeout (id : Nat)
deriving DecidableEq, Repr

/-- One step: a critical section of the loop or of a call, or a requester that
submits or gives up. -/
def step (s : State) : Event → Option State
  | .submit proxyName => some { s with
      channel := s.channel ++ [⟨s.nextId, proxyName⟩]
      nextId := s.nextId + 1 }
  | .loopRecv =>
    match s.loop, s.channel with
    | .waiting, req :: rest => some { s with loop := .received req, channel := rest }
    | _, _ => none
  | .loopPopIdle =>
    match s.loop with
    | .received req =>
      match s.idle.getLast? with
      | some conn => some { s with loop := .replying conn req, idle := s.idle.dropLast }
      | none => some { s with loop := .queueing req }
    | _ => none
  | .loopReply =>
    match s.loop with
    | .replying conn req =>
      -- An error of `send` ends `handle_work_conn_request`; the connection is dropped with it.
      if s.live req then some { s with loop := .waiting, reused := s.reused ++ [(conn, req)] }
      else some { s with loop := .waiting }
    | _ => none
  | .loopPush =>
    match s.loop with
    | .queueing req => some { s with loop := .sending req, pending := s.pending ++ [req] }
    | _ => none
  | .loopSend ok =>
    match s.loop with
    | .sending req =>
      if ok then some { s with loop := .waiting, requested := s.requested ++ [req.proxyName] }
      else some { s with loop := .rollingBack req }
    | _ => none
  | .loopRollback =>
    match s.loop with
    | .rollingBack _ => some { s with loop := .waiting, pending := s.pending.dropLast }
    | _ => none
  | .workConn =>
    match s.pending with
    | [] => some { s with
        idle := s.idle ++ [s.calls.length]
        calls := s.calls ++ [⟨none, .stored⟩] }
    | req :: rest => some { s with
        pending := rest
        calls := s.calls ++ [⟨s.pending.find? s.live, .handing req⟩] }
  | .deliver i =>
    match s.calls[i]? with
    | some ⟨oldestLive, .handing req⟩ => some { s with
        calls := s.calls.set i
          ⟨oldestLive, if s.live req then .delivered req else .dropped req⟩ }
    | _ => none
  | .timeout id =>
    if id < s.nextId then some { s with gone := id :: s.gone } else none

/-! ## What a step does -/

/-- The steps that are possible in a state, and the state each leads to. -/
inductive Effect (s : State) : Event → State → Prop
  | submit (proxyName : String) :
      Effect s (.submit proxyName) { s with
        channel := s.channel ++ [⟨s.nextId, proxyName⟩]
        nextId := s.nextId + 1 }
  | recv (req : WorkConnRequest) (rest : List WorkConnRequest) (hloop : s.loop = .waiting)
      (hchannel : s.channel = req :: rest) :
      Effect s .loopRecv { s with loop := .received req, channel := rest }
  | popIdle (conn : Nat) (req : WorkConnRequest) (hloop : s.loop = .received req)
      (hidle : s.idle.getLast? = some conn) :
      Effect s .loopPopIdle { s with loop := .replying conn req, idle := s.idle.dropLast }
  | noIdle (req : WorkConnRequest) (hloop : s.loop = .received req) (hidle : s.idle = []) :
      Effect s .loopPopIdle { s with loop := .queueing req }
  | reply (conn : Nat) (req : WorkConnRequest) (reused : List (Nat × WorkConnRequest))
      (hloop : s.loop = .replying conn req) :
      Effect s .loopReply { s with loop := .waiting, reused := reused }
  | push (req : WorkConnRequest) (hloop : s.loop = .queueing req) :
      Effect s .loopPush { s with loop := .sending req, pending := s.pending ++ [req] }
  | sent (req : WorkConnRequest) (hloop : s.loop = .sending req) :
      Effect s (.loopSend true) { s with
        loop := .waiting
        requested := s.requested ++ [req.proxyName] }
  | sendFails (req : WorkConnRequest) (hloop : s.loop = .sending req) :
      Effect s (.loopSend false) { s with loop := .rollingBack req }
  | rollback (req : WorkConnRequest) (hloop : s.loop = .rollingBack req) :
      Effect s .loopRollback { s with loop := .waiting, pending := s.pending.dropLast }
  | park (hpending : s.pending = []) :
      Effect s .workConn { s with
        idle := s.idle ++ [s.calls.length]
        calls := s.calls ++ [⟨none, .stored⟩] }
  | serve (req : WorkConnRequest) (rest : List WorkConnRequest)
      (hpending : s.pending = req :: rest) :
      Effect s .workConn { s with
        pending := rest
        calls := s.calls ++ [⟨s.pending.find? s.live, .handing req⟩] }
  | deliver (i : Nat) (oldestLive : Option WorkConnRequest) (req : WorkConnRequest)
      (hcall : s.calls[i]? = some ⟨oldestLive, .handing req⟩) :
      Effect s (.deliver i) { s with
        calls := s.calls.set i
          ⟨oldestLive, if s.live req then .delivered req else .dropped req⟩ }
  | timeout (id : Nat) (hid : id < s.nextId) :
      Effect s (.timeout id) { s with gone := id :: s.gone }

theorem effect_of_step {s t : State} {e : Event} (h : step s e = some t) : Effect s e t := by
  cases e with
  | submit proxyName =>
      obtain rfl := Option.some.inj h
      exact .submit proxyName
  | loopRecv =>
      simp only [step] at h
      split at h
      · next req rest hloop hchannel =>
          obtain rfl := Option.some.inj h
          exact .recv req rest hloop hchannel
      · cases h
  | loopPopIdle =>
      simp only [step] at h
      split at h
      · next req hloop =>
          split at h
          · next conn hidle =>
              obtain rfl := Option.some.inj h
              exact .popIdle conn req hloop hidle
          · next hidle =>
              obtain rfl := Option.some.inj h
              exact .noIdle req hloop (List.getLast?_eq_none_iff.mp hidle)
      · cases h
  | loopReply =>
      simp only [step] at h
      split at h
      · next conn req hloop =>
          split at h
          · obtain rfl := Option.some.inj h
            exact .reply conn req _ hloop
          · obtain rfl := Option.some.inj h
            exact .reply conn req s.reused hloop
      · cases h
  | loopPush =>
      simp only [step] at h
      split at h
      · next req hloop =>
          obtain rfl := Option.some.inj h
          exact .push req hloop
      · cases h
  | loopSend ok =>
      simp only [step] at h
      split at h
      · next req hloop =>
          cases ok with
          | true =>
              obtain rfl := Option.some.inj h
              exact .sent req hloop
          | false =>
              obtain rfl := Option.some.inj h
              exact .sendFails req hloop
      · cases h
  | loopRollback =>
      simp only [step] at h
      split at h
      · next req hloop =>
          obtain rfl := Option.some.inj h
          exact .rollback req hloop
      · cases h
  | workConn =>
      simp only [step] at h
      split at h
      · next hpending =>
          obtain rfl := Option.some.inj h
          exact .park hpending
      · next req rest hpending =>
          obtain rfl := Option.some.inj h
          exact .serve req rest hpending
  | deliver i =>
      simp only [step] at h
      split at h
      · next oldestLive req hcall =>
          obtain rfl := Option.some.inj h
          exact .deliver i oldestLive req hcall
      · cases h
  | timeout id =>
      simp only [step] at h
      split at h
      · next hid =>
          obtain rfl := Option.some.inj h
          exact .timeout id hid
      · cases h

/-! ## Who gets a connection -/

/-- Every connection that arrived while some waiting request was listening is on
its way to the oldest such request, or has been delivered to it. -/
def ServesOldest (s : State) : Prop :=
  ∀ call ∈ s.calls, ∀ req, call.oldestLive = some req →
    call.pc = .handing req ∨ call.pc = .delivered req

/-- No connection arrives while an abandoned request stands in front of a
listening one, and no requester gives up while a connection is in hand for it. -/
def FrontListens (s : State) : Event → Prop
  | .workConn => s.pending.any s.live = true → s.pending.head?.any s.live = true
  | .timeout id => ∀ call ∈ s.calls, ∀ req ∈ call.pc.inHand, req.id ≠ id
  | _ => True

instance (s : State) (e : Event) : Decidable (FrontListens s e) := by
  cases e <;> unfold FrontListens <;> infer_instance

/-- `ServesOldest`, and whoever a connection is in hand for still listens. -/
def Serving (s : State) : Prop :=
  ∀ call ∈ s.calls, ∀ req, call.oldestLive = some req →
    call.pc = .handing req ∧ s.live req = true ∨ call.pc = .delivered req

theorem Serving.servesOldest {s : State} (h : Serving s) : ServesOldest s := by
  intro call hcall req hreq
  rcases h call hcall req hreq with ⟨hpc, _⟩ | hpc
  · exact .inl hpc
  · exact .inr hpc

/-- If the front request listens whenever some waiting request does, the oldest
listening request is the front one. -/
theorem find_live_eq_front {s : State} {front : WorkConnRequest} {rest : List WorkConnRequest}
    (hpending : s.pending = front :: rest) (hfront : FrontListens s .workConn)
    {req : WorkConnRequest} (hreq : s.pending.find? s.live = some req) :
    req = front ∧ s.live front = true := by
  have hany : s.pending.any s.live = true :=
    List.any_eq_true.mpr ⟨req, List.mem_of_find?_eq_some hreq, List.find?_some hreq⟩
  have hlive : s.live front = true := by
    simpa [hpending] using hfront hany
  rw [hpending, List.find?_cons_of_pos hlive] at hreq
  exact ⟨(Option.some.inj hreq).symm, hlive⟩

/-- A call is added that is on its way to the oldest listening request, if there is one. -/
theorem Serving.append {s : State} (h : Serving s) {call : Call}
    (hnew : ∀ req, call.oldestLive = some req → call.pc = .handing req ∧ s.live req = true) :
    ∀ c ∈ s.calls ++ [call], ∀ req, c.oldestLive = some req →
      c.pc = .handing req ∧ s.live req = true ∨ c.pc = .delivered req := by
  intro c hc req hreq
  rcases List.mem_append.mp hc with hold | hlast
  · exact h c hold req hreq
  · obtain rfl := List.mem_singleton.mp hlast
    exact .inl (hnew req hreq)

/-- Every step that meets the condition keeps connections on their way. -/
theorem serving_step (s : State) (e : Event) (t : State) (h : Serving s)
    (hfront : FrontListens s e) (ht : step s e = some t) : Serving t := by
  cases effect_of_step ht with
  | submit | recv | popIdle | noIdle | reply | push | sent | sendFails | rollback => exact h
  | park hpending =>
      apply h.append
      intro req hreq
      cases hreq
  | serve front rest hpending =>
      apply h.append
      intro req hreq
      obtain ⟨rfl, hlive⟩ := find_live_eq_front hpending hfront hreq
      exact ⟨rfl, hlive⟩
  | deliver i oldestLive front hcall =>
      intro call hmem req hreq
      rcases List.mem_or_eq_of_mem_set hmem with hold | rfl
      · exact h call hold req hreq
      · -- Whoever the connection was in hand for still listens.
        rcases h _ (List.mem_of_getElem? hcall) req hreq with ⟨hpc, hlive⟩ | hpc
        · obtain rfl := CallPc.handing.inj hpc
          exact .inr (if_pos hlive)
        · cases hpc
  | timeout id hid =>
      intro call hcall req hreq
      rcases h call hcall req hreq with ⟨hpc, hlive⟩ | hpc
      · have hne : req.id ≠ id := hfront call hcall req (by rw [hpc]; rfl)
        refine .inl ⟨hpc, ?_⟩
        simp only [State.live, List.contains_cons, Bool.not_or, Bool.and_eq_true] at hlive ⊢
        exact ⟨by simpa using hne, hlive⟩
      · exact .inr hpc

/-- In every run in which the front request listens whenever a connection arrives
for a listening one, every such connection goes to the oldest listening request. -/
theorem servesOldest_of_frontListens {events : List Event} {s : State}
    (hfront : Machine.Along step FrontListens .new events)
    (hrun : Machine.run step .new events = some s) : ServesOldest s := by
  have hnew : Serving .new := fun call hcall ↦ absurd hcall List.not_mem_nil
  exact (Machine.along_invariant serving_step hfront hrun hnew).servesOldest

/-- The loop serves one request for a proxy up to sending `ReqWorkConn`. -/
def requestFor (proxyName : String) : List Event :=
  [.submit proxyName, .loopRecv, .loopPopIdle, .loopPush, .loopSend true]

/-- Two requests are served in order; the second requester gives up afterwards. -/
theorem two_requests_served :
    ∃ s, Machine.run step .new (requestFor "p1" ++ requestFor "p2" ++
        [.workConn, .deliver 0, .workConn, .deliver 1, .timeout 1]) = some s ∧
      s.calls = [⟨some ⟨0, "p1"⟩, .delivered ⟨0, "p1"⟩⟩, ⟨some ⟨1, "p2"⟩, .delivered ⟨1, "p2"⟩⟩] ∧
      ServesOldest s := by
  refine ⟨_, rfl, rfl, ?_⟩
  have hfront : Machine.Along step FrontListens .new (requestFor "p1" ++ requestFor "p2" ++
      [.workConn, .deliver 0, .workConn, .deliver 1, .timeout 1]) := by decide
  exact servesOldest_of_frontListens hfront rfl

/-- The client ignores the request for `p1`, which times out.  The connection that
answers the request for `p2` is taken by it and dropped; the requester of `p2`
still waits. -/
theorem abandoned_request_takes_connection :
    ∃ s, Machine.run step .new (requestFor "p1" ++ [.timeout 0] ++ requestFor "p2" ++
        [.workConn, .deliver 0]) = some s ∧
      s.calls = [⟨some ⟨1, "p2"⟩, .dropped ⟨0, "p1"⟩⟩] ∧
      s.pending = [⟨1, "p2"⟩] ∧ s.live ⟨1, "p2"⟩ = true ∧ ¬ServesOldest s := by
  refine ⟨_, rfl, rfl, rfl, rfl, fun h ↦ ?_⟩
  rcases h ⟨some ⟨1, "p2"⟩, .dropped ⟨0, "p1"⟩⟩ (List.mem_singleton_self _) ⟨1, "p2"⟩ rfl with
    hpc | hpc
  · cases hpc
  · cases hpc

end Arp.Server.WorkConn
