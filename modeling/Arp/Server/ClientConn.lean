import Arp.Server.Balancer

/-!
# A connection to a TCP group

`GroupedTcpProxy::handle_client` picks a backend, asks its client for a work connection
and copies between that and the user's socket until both directions have ended.  If this
returns an error the backend is marked as failed, and with a threshold of one that ejects
it.

The copy ends with the first error of either socket, or, in the encrypted relay, in each
direction with its first error; the result does not say whose it was.  So a user whose
socket fails ejects a backend nothing is wrong with.
-/

namespace Arp.Server.ClientConn

open Arp.Common Arp.Lib

/-! ## Copying in both directions -/

/-- The two ends of a connection. -/
inductive Socket where
  | user
  | work
deriving DecidableEq, Repr

/-- From the user to the work stream, or back. -/
inductive Direction where
  | toWork
  | toUser
deriving DecidableEq, Repr

/-- The socket a direction reads from. -/
def Direction.source : Direction → Socket
  | toWork => .user
  | toUser => .work

/-- The socket a direction writes to. -/
def Direction.sink : Direction → Socket
  | toWork => .work
  | toUser => .user

/-- Where a direction is.  In the encrypted relay, reading from the work stream includes
opening the frame, and writing to it includes sealing one. -/
inductive Phase where
  | reading
  | writing
  /-- The source has ended; the sink is being shut down. -/
  | closing
  | done
  | failed (e : Error)
deriving DecidableEq, Repr

/-- The socket of the operation a direction is at. -/
def Phase.socket (d : Direction) : Phase → Option Socket
  | reading => some d.source
  | writing | closing => some d.sink
  | done | failed _ => none

/-- The direction has come to an error. -/
def Phase.error : Phase → Option Error
  | failed e => some e
  | _ => none

/-- `copy_bidirectional`, or `relay_stcp` if the flag is set. -/
structure Copy where
  stcp : Bool
  toWork : Phase
  toUser : Phase
deriving DecidableEq, Repr

/-- The outcome of the operation a direction is at. -/
inductive Event where
  | data (d : Direction)
  | eof (d : Direction)
  | wrote (d : Direction)
  | shut (d : Direction)
  | fails (d : Direction) (e : Error)
deriving DecidableEq, Repr

namespace Copy

/-- Both directions start to read. -/
def start (stcp : Bool) : Copy := ⟨stcp, .reading, .reading⟩

/-- Where a direction is. -/
def phase (c : Copy) : Direction → Phase
  | .toWork => c.toWork
  | .toUser => c.toUser

/-- A direction goes on. -/
def setPhase (c : Copy) : Direction → Phase → Copy
  | .toWork, p => { c with toWork := p }
  | .toUser, p => { c with toUser := p }

/-- The first error that `relay_stcp` looks at. -/
def error (c : Copy) : Option Error := c.toWork.error.or c.toUser.error

/-- The copy has returned: both directions have ended or, unless each is a task of its
own, one has failed. -/
def returned (c : Copy) : Bool :=
  !c.stcp && c.error.isSome || (c.toWork.socket .toWork).isNone && (c.toUser.socket .toUser).isNone

/-- One operation ends. -/
def step (c : Copy) (e : Event) : Option Copy :=
  if c.returned then none
  else
    match e with
    | .data d => if c.phase d = .reading then some (c.setPhase d .writing) else none
    | .eof d => if c.phase d = .reading then some (c.setPhase d .closing) else none
    | .wrote d => if c.phase d = .writing then some (c.setPhase d .reading) else none
    | .shut d => if c.phase d = .closing then some (c.setPhase d .done) else none
    | .fails d e => ((c.phase d).socket d).map fun _ ↦ c.setPhase d (.failed e)

/-- The error of `copy_bidirectional`, which only has I/O errors. -/
def copyError : Error → Error
  | .io e => .transport ("Bidirectional copy failed: " ++ e)
  | e => e

/-- The result, once there is one. -/
def result (c : Copy) : Option (Result Unit) :=
  if c.returned then
    match c.error with
    | some e => some (.error (if c.stcp then e else copyError e))
    | none => some (.ok ())
  else none

end Copy

/-! ## The connection -/

/-- How `request_work_transport` ends. -/
inductive RequestOutcome where
  | requestClosed
  | timedOut
  | replyClosed
  | startFails (e : Error)
  | started
deriving DecidableEq, Repr

/-- `request_work_transport`. -/
def RequestOutcome.toResult : RequestOutcome → Result Unit
  | requestClosed => .error (.transport "Failed to request work connection")
  | timedOut => .error (.timeout "Work connection timeout")
  | replyClosed => .error (.transport "Work connection channel closed")
  | startFails e => .error e
  | started => .ok ()

/-- What happens on a connection: how the request ends, and the operations of the copy. -/
structure Exchange where
  request : RequestOutcome
  events : List Event

/-- `handle_plain_client_connection`; nothing as long as it has not returned. -/
def handlePlainClientConnection (stcp : Bool) (x : Exchange) : Option (Result Unit) :=
  match x.request.toResult with
  | .error e => some (.error e)
  | .ok () => (Machine.run Copy.step (.start stcp) x.events).bind Copy.result

/-- What a connection does to the backend it was given. -/
inductive Mark where
  | none
  | success (backendId : String)
  | failure (backendId : String)
deriving DecidableEq, Repr

/-- The end of `handle_client`: the result decides how the backend is marked. -/
def settle (b : Balancer) (backendId : String) (markedAt : Nat) :
    Result Unit → Result Unit × Mark × Balancer
  | .ok () => (.ok (), .success backendId, b.markBackendSuccess backendId)
  | .error e => (.error e, .failure backendId, b.markBackendFailure backendId markedAt)

/-- `GroupedTcpProxy::handle_client` with the clock at the pick and at the mark. -/
def handleClient (groupId : String) (b : Balancer) (pickedAt markedAt : Nat) (x : Exchange) :
    Option (Result Unit × Mark × Balancer) :=
  match b.pickBackend pickedAt with
  | (none, b) => some (.error (.proxy
      ("tcp group " ++ groupId ++ " has no healthy backend available")), .none, b)
  | (some backend, b) =>
    (handlePlainClientConnection backend.stcp x).map (settle b backend.backendId markedAt)

/-! ## Whose operation fails -/

/-- The event is not the failure of an operation on the socket. -/
def Holds (socket : Socket) (c : Copy) : Event → Prop
  | .fails d _ => (c.phase d).socket d ≠ some socket
  | _ => True

instance (socket : Socket) (c : Copy) : ∀ e, Decidable (Holds socket c e)
  | .fails d _ => inferInstanceAs (Decidable ((c.phase d).socket d ≠ some socket))
  | .data _ | .eof _ | .wrote _ | .shut _ => .isTrue trivial

namespace Exchange

/-- No operation on the socket fails. -/
def Unbroken (x : Exchange) (stcp : Bool) (socket : Socket) : Prop :=
  Machine.Along Copy.step (Holds socket) (.start stcp) x.events

instance (x : Exchange) (stcp : Bool) (socket : Socket) : Decidable (x.Unbroken stcp socket) :=
  inferInstanceAs (Decidable (Machine.Along Copy.step (Holds socket) (.start stcp) x.events))

/-- An operation on the side of the backend fails: the request for a work connection, the
message that starts it, or an operation on the work stream. -/
def BackendFails (x : Exchange) (stcp : Bool) : Prop :=
  x.request ≠ .started ∨ ¬ x.Unbroken stcp .work

end Exchange

namespace Copy

section Lemmas

variable {c c' : Copy} {e : Event} {events : List Event}

theorem error_eq_none : c.error = none ↔ c.toWork.error = none ∧ c.toUser.error = none :=
  Option.or_eq_none_iff

/-- A direction that is at an operation moves on without an error. -/
theorem error_setPhase {d : Direction} {p : Phase} (hd : (c.phase d).error = none)
    (hp : p.error = none) : (c.setPhase d p).error = none ↔ c.error = none := by
  rw [error_eq_none, error_eq_none]
  cases d with
  | toWork => exact and_congr_left' (iff_of_true hp hd)
  | toUser => exact and_congr_right' (iff_of_true hp hd)

theorem error_setPhase_failed (d : Direction) (err : Error) :
    (c.setPhase d (.failed err)).error ≠ none := by
  intro h
  rw [error_eq_none] at h
  cases d with
  | toWork => cases h.1
  | toUser => cases h.2

/-- An operation leaves an error behind exactly if it fails. -/
theorem error_step (h : c.step e = some c') :
    c'.error = none ↔ c.error = none ∧ Holds .user c e ∧ Holds .work c e := by
  unfold step at h
  rw [Option.ite_none_left_eq_some] at h
  obtain ⟨-, h⟩ := h
  have hmoves {d : Direction} {p q : Phase} (hq : q.error = none) (hp : p.error = none)
      (h : (if c.phase d = q then some (c.setPhase d p) else none) = some c') :
      c'.error = none ↔ c.error = none ∧ True ∧ True := by
    rw [Option.ite_none_right_eq_some] at h
    obtain ⟨hphase, heq⟩ := h
    obtain rfl := Option.some.inj heq
    rw [error_setPhase (hphase ▸ hq) hp, and_true, and_true]
  cases e with
  | data d => exact hmoves rfl rfl h
  | eof d => exact hmoves rfl rfl h
  | wrote d => exact hmoves rfl rfl h
  | shut d => exact hmoves rfl rfl h
  | fails d err =>
      obtain ⟨socket, hsocket, rfl⟩ := Option.map_eq_some_iff.mp h
      refine iff_of_false (error_setPhase_failed d err) ?_
      rintro ⟨-, huser, hwork⟩
      cases socket with
      | user => exact huser hsocket
      | work => exact hwork hsocket

theorem along_cons {socket : Socket} (h : c.step e = some c') :
    Machine.Along step (Holds socket) c (e :: events) ↔
      Holds socket c e ∧ Machine.Along step (Holds socket) c' events := by
  rw [Machine.Along, h]
  simp

/-- An operation is on one socket only. -/
theorem holds_or_holds (c : Copy) (e : Event) : Holds .user c e ∨ Holds .work c e := by
  cases e with
  | data d | eof d | wrote d | shut d => exact .inl trivial
  | fails d err =>
      by_cases huser : (c.phase d).socket d = some .user
      · exact .inr (by rw [Holds, huser]; simp)
      · exact .inl huser

/-- A copy ends without an error exactly if no operation has failed. -/
theorem error_run (h : Machine.run step c events = some c') :
    c'.error = none ↔ c.error = none ∧ Machine.Along step (Holds .user) c events ∧
      Machine.Along step (Holds .work) c events := by
  induction events generalizing c with
  | nil =>
      obtain rfl := Option.some.inj h
      exact ⟨fun h ↦ ⟨h, trivial, trivial⟩, fun h ↦ h.1⟩
  | cons e events ih =>
      obtain ⟨c₁, hstep, hrest⟩ := (Machine.run_cons_eq_some step).mp h
      rw [ih hrest, error_step hstep, along_cons hstep, along_cons hstep]
      tauto

theorem stcp_step (h : c.step e = some c') : c'.stcp = c.stcp := by
  unfold step at h
  rw [Option.ite_none_left_eq_some] at h
  obtain ⟨-, h⟩ := h
  have hset (d : Direction) (p : Phase) : (c.setPhase d p).stcp = c.stcp := by cases d <;> rfl
  cases e with
  | data d | eof d | wrote d | shut d =>
      rw [Option.ite_none_right_eq_some] at h
      rw [← Option.some.inj h.2, hset]
  | fails d err =>
      obtain ⟨socket, -, rfl⟩ := Option.map_eq_some_iff.mp h
      exact hset d _

/-- `copy_bidirectional` does nothing after an error. -/
theorem events_eq_nil (hplain : c.stcp = false) (herror : c.error ≠ none)
    (h : Machine.run step c events = some c') : events = [] := by
  cases events with
  | nil => rfl
  | cons e events =>
      obtain ⟨c₁, hstep, -⟩ := (Machine.run_cons_eq_some step).mp h
      have hreturned : c.returned = true := by
        rw [returned, hplain, Option.isSome_iff_ne_none.mpr herror]
        rfl
      unfold step at hstep
      rw [if_pos hreturned] at hstep
      cases hstep

/-- In `copy_bidirectional` operations on one of the sockets at most fail. -/
theorem along_or_along (hplain : c.stcp = false) (h : Machine.run step c events = some c') :
    Machine.Along step (Holds .user) c events ∨ Machine.Along step (Holds .work) c events := by
  induction events generalizing c with
  | nil => exact .inl trivial
  | cons e events ih =>
      obtain ⟨c₁, hstep, hrest⟩ := (Machine.run_cons_eq_some step).mp h
      have hplain₁ : c₁.stcp = false := (stcp_step hstep).trans hplain
      rw [along_cons hstep, along_cons hstep]
      by_cases herror : c₁.error = none
      · obtain ⟨-, huser, hwork⟩ := (error_step hstep).mp herror
        exact (ih hplain₁ hrest).imp (⟨huser, ·⟩) (⟨hwork, ·⟩)
      · obtain rfl := events_eq_nil hplain₁ herror hrest
        refine (holds_or_holds c e).imp (⟨·, trivial⟩) (⟨·, trivial⟩)

end Lemmas

end Copy

theorem Copy.result_eq_ok {c : Copy} {result : Result Unit} (h : c.result = some result) :
    result = .ok () ↔ c.error = none := by
  rw [Copy.result, Option.ite_none_right_eq_some] at h
  obtain ⟨-, h⟩ := h
  cases herror : c.error with
  | none =>
      rw [herror] at h
      exact iff_of_true (Option.some.inj h).symm rfl
  | some e =>
      rw [herror] at h
      obtain rfl := Option.some.inj h
      refine iff_of_false ?_ ?_
      · intro hok
        cases hok
      · intro hnone
        cases hnone

/-- A connection ends without an error exactly if no operation of either side fails. -/
theorem handlePlainClientConnection_eq_ok {stcp : Bool} {x : Exchange} {result : Result Unit}
    (h : handlePlainClientConnection stcp x = some result) :
    result = .ok () ↔ x.request = .started ∧ x.Unbroken stcp .user ∧ x.Unbroken stcp .work := by
  rw [handlePlainClientConnection] at h
  by_cases hreq : x.request = .started
  · rw [hreq] at h
    obtain ⟨c, hrun, hresult⟩ := Option.bind_eq_some_iff.mp h
    rw [Copy.result_eq_ok hresult, Copy.error_run hrun, and_iff_right hreq]
    exact and_iff_right rfl
  · obtain ⟨e, he⟩ : ∃ e, x.request.toResult = .error e := by
      cases hrequest : x.request with
      | started => exact absurd hrequest hreq
      | requestClosed | timedOut | replyClosed | startFails e => exact ⟨_, rfl⟩
    rw [he] at h
    obtain rfl := Option.some.inj h
    refine iff_of_false ?_ fun hall ↦ hreq hall.1
    intro hok
    cases hok

/-! ## Whose failure ejects a backend -/

section Attribution

variable {groupId : String} {b : Balancer} {pickedAt markedAt : Nat} {backend : GroupedBackend}
  {x : Exchange} {result : Result Unit}

/-- The end of a connection that was given a backend. -/
theorem handleClient_eq (hpick : (b.pickBackend pickedAt).1 = some backend)
    (hend : handlePlainClientConnection backend.stcp x = some result) :
    handleClient groupId b pickedAt markedAt x =
      some (settle (b.pickBackend pickedAt).2 backend.backendId markedAt result) := by
  obtain ⟨picked, b', hpicked⟩ : ∃ picked b', b.pickBackend pickedAt = (picked, b') := ⟨_, _, rfl⟩
  rw [hpicked] at hpick
  obtain rfl : picked = some backend := hpick
  rw [handleClient, hpicked]
  dsimp only
  rw [hend, Option.map_some]

/-- A backend is marked as failed only if an operation on its side fails. -/
def Attributed (groupId : String) (b : Balancer) (pickedAt markedAt : Nat) (stcp : Bool)
    (x : Exchange) : Prop :=
  ∀ result backendId b', handleClient groupId b pickedAt markedAt x =
    some (result, .failure backendId, b') → x.BackendFails stcp

/-- Unless each direction is a task of its own, the two sockets do not both fail. -/
theorem unbroken_or_unbroken (hreq : x.request = .started)
    (hend : handlePlainClientConnection false x = some result) :
    x.Unbroken false .user ∨ x.Unbroken false .work := by
  rw [handlePlainClientConnection, hreq] at hend
  obtain ⟨c, hrun, -⟩ := Option.bind_eq_some_iff.mp hend
  exact Copy.along_or_along rfl hrun

/-- For every connection that was given a backend and has ended: failures are attributed
correctly exactly if, once the work connection is there, no operation on the user's socket
fails, or, in the encrypted relay, one on the work stream fails too. -/
theorem attributed_iff (hpick : (b.pickBackend pickedAt).1 = some backend)
    (hend : (handlePlainClientConnection backend.stcp x).isSome = true) :
    Attributed groupId b pickedAt markedAt backend.stcp x ↔
      (x.request = .started → x.Unbroken backend.stcp .user ∨
        backend.stcp = true ∧ ¬ x.Unbroken backend.stcp .work) := by
  obtain ⟨result, hresult⟩ := Option.isSome_iff_exists.mp hend
  have hok := handlePlainClientConnection_eq_ok hresult
  rw [Attributed, handleClient_eq hpick hresult]
  constructor
  · intro h hreq
    by_cases huser : x.Unbroken backend.stcp .user
    · exact .inl huser
    · cases result with
      | ok u => exact absurd (hok.mp rfl).2.1 huser
      | error e =>
          have hwork : ¬ x.Unbroken backend.stcp .work :=
            (h _ _ _ rfl).resolve_left (not_not.mpr hreq)
          refine .inr ⟨?_, hwork⟩
          by_contra hplain
          rw [Bool.not_eq_true] at hplain
          rw [hplain] at hresult huser hwork
          exact (unbroken_or_unbroken hreq hresult).elim huser hwork
  · intro h result' backendId b' heq
    cases result with
    | ok u => cases heq
    | error e =>
        by_contra hbackend
        rw [Exchange.BackendFails, not_or, not_not, not_not] at hbackend
        obtain ⟨hreq, hwork⟩ := hbackend
        rcases h hreq with huser | ⟨-, hbroken⟩
        · exact absurd (hok.mpr ⟨hreq, huser, hwork⟩) (by simp)
        · exact hbroken hwork

end Attribution

/-! ## A user that resets -/

/-- A group with one backend. -/
def lone : Balancer := Balancer.new.addBackend Balancer.Run.web

/-- `ECONNRESET`. -/
def connectionReset : String := "Connection reset by peer (os error 104)"

/-- The work connection is there and has sent something, and the user's socket is reset. -/
def reset : Exchange where
  request := .started
  events := [.data .toUser, .wrote .toUser, .fails .toWork (.io connectionReset)]

/-- The work connection breaks. -/
def broken : Exchange where
  request := .started
  events := [.data .toWork, .fails .toWork (.io "Broken pipe (os error 32)")]

/-- A user that resets its connection ejects the backend, on whose side nothing has failed,
and the next user finds no backend. -/
theorem reset_ejects :
    ∃ b', handleClient "tcp:8080:g:" lone 0 0 reset =
        some (.error (.transport ("Bidirectional copy failed: " ++ connectionReset)),
          .failure "run-1:web", b') ∧
      (b'.pickBackend 1000000000).1 = none ∧ ¬ reset.BackendFails false ∧
      ¬ Attributed "tcp:8080:g:" lone 0 0 false reset := by
  have hunbroken : ¬ reset.BackendFails false := by
    rintro (hreq | hwork)
    · exact hreq rfl
    · exact hwork (by decide)
  refine ⟨_, rfl, by decide, hunbroken, ?_⟩
  intro h
  exact hunbroken (h _ _ _ rfl)

/-- A work connection that breaks ejects its backend. -/
theorem broken_attributed :
    (handleClient "tcp:8080:g:" lone 0 0 broken).map (fun out ↦ out.2.1) =
        some (.failure "run-1:web") ∧
      Attributed "tcp:8080:g:" lone 0 0 false broken := by
  refine ⟨by decide, ?_⟩
  exact (@attributed_iff "tcp:8080:g:" lone 0 0 Balancer.Run.web broken rfl rfl).mpr
    fun _ ↦ .inl (by decide)

end Arp.Server.ClientConn
