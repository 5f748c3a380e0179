import Arp.Lib.Machine
import Mathlib.Data.List.Basic
import Mathlib.Order.Nat

/-!
# The tasks of a listener

A proxy that listens on a port has a task that runs `run`: it takes the listener,
subscribes to the shutdown channel and accepts until it hears the signal.  Closing the
proxy sends the signal, waits for the task for at most three seconds, and gives the port
back.  A broadcast reaches those who have subscribed before it is sent, and nobody else;
the wait ends on the flag that `run` raises, or on the clock.

One machine serves the three kinds of listeners.  A TCP proxy and a TCP group differ in
how they end on an accept error, and in that a group is closed whenever its last backend
leaves, which may happen again.  A UDP proxy does not wait, and its socket belongs to the
proxy object rather than to the task.

The main result says when a closed TCP proxy has stopped accepting for good.
-/

namespace Arp.Server

open Arp.Lib.Machine

namespace Listener

/-- Who listens. -/
inductive Kind where
  /-- `TcpProxy`, alone or as the relay of an XTCP proxy. -/
  | tcp
  /-- `GroupedTcpProxy`. -/
  | group
  /-- `UdpProxy`. -/
  | udp
deriving DecidableEq, Repr

/-- Where the task is in `run`, or `run_loop` of a group. -/
inductive RunPc where
  /-- The task is spawned and has not run yet. -/
  | spawned
  /-- The listener is taken. -/
  | taken
  /-- In `select!`, after the subscription. -/
  | accepting
  /-- Sleeping after a transient accept error. -/
  | backingOff
  /-- Out of the loop, about to raise `close_done`. -/
  | stopping
  /-- About to return, which drops the task's variables. -/
  | returning
  | ended
deriving DecidableEq, Repr

/-- Where the task is when it subscribes: a UDP proxy has nothing to take first. -/
def Kind.entry : Kind → RunPc
  | udp => .spawned
  | tcp | group => .taken

/-- The task has left its loop for good. -/
def RunPc.past : RunPc → Bool
  | stopping | returning | ended => true
  | spawned | taken | accepting | backingOff => false

/-- The task has a receiver of the shutdown channel and looks at it. -/
def RunPc.subscribed : RunPc → Bool
  | accepting | backingOff => true
  | spawned | taken | stopping | returning | ended => false

/-- Where a call of `close` is, or of `remove_backend` that has found no backend left. -/
inductive ClosePc where
  | sending
  /-- Waiting for `close_done` or for the three seconds to pass. -/
  | waiting
  | releasing
  | returned
deriving DecidableEq, Repr

end Listener

/-- A listener with its task and the calls that close it. -/
structure Listener where
  kind : Listener.Kind
  task : Listener.RunPc
  /-- A shutdown signal waits in the task's receiver. -/
  signal : Bool
  closeDone : Bool
  closes : List Listener.ClosePc
  /-- The socket is bound. -/
  socket : Bool
deriving DecidableEq, Repr

namespace Listener

/-- A listener that was just bound, with its task spawned. -/
def new (kind : Kind) : Listener := ⟨kind, .spawned, false, false, [], true⟩

/-- What can happen next; the numbers are those of the calls of `close`. -/
inductive Event where
  | take
  | subscribe
  /-- A connection is accepted, or a packet received. -/
  | accept
  /-- Accepting fails for a reason that passes, such as too many open files. -/
  | transient
  /-- The sleep after such an error is over. -/
  | retry
  /-- Accepting fails for good. -/
  | fatal
  /-- The task hears the shutdown signal. -/
  | shutdown
  | raiseDone
  /-- The task returns. -/
  | finish
  /-- `close` is called. -/
  | close
  | send (call : Nat)
  /-- The caller sees `close_done`. -/
  | woken (call : Nat)
  | timeout (call : Nat)
  /-- The port is given back and `close` returns. -/
  | release (call : Nat)
  /-- The last reference to a UDP proxy is dropped. -/
  | drop
deriving DecidableEq, Repr

/-- A call of `close` goes on from one place to the next. -/
def move (l : Listener) (call : Nat) (before after : ClosePc) : Option Listener :=
  if l.closes[call]? = some before then some { l with closes := l.closes.set call after } else none

/-- One step of the task or of a call of `close`. -/
def step (l : Listener) : Event → Option Listener
  | .take =>
    if l.task = .spawned ∧ l.kind ≠ .udp then some { l with task := .taken } else none
  | .subscribe =>
    if l.task = l.kind.entry then some { l with task := .accepting, signal := false } else none
  | .accept => if l.task = .accepting then some l else none
  | .transient =>
    if l.task = .accepting ∧ l.kind ≠ .udp then some { l with task := .backingOff } else none
  | .retry => if l.task = .backingOff then some { l with task := .accepting } else none
  | .fatal =>
    if l.task = .accepting then
      match l.kind with
      | .tcp => some { l with task := .stopping }
      -- `run_loop` returns the error at once, without raising `close_done`.
      | .group => some { l with task := .returning }
      -- An error of `recv_from` is logged, and the loop goes on.
      | .udp => some l
    else none
  | .shutdown =>
    if l.task = .accepting ∧ l.signal = true then
      some { l with task := if l.kind = .udp then .returning else .stopping }
    else none
  | .raiseDone =>
    if l.task = .stopping then some { l with task := .returning, closeDone := true } else none
  | .finish =>
    if l.task = .returning then
      some { l with task := .ended, socket := l.socket && decide (l.kind = .udp) }
    else none
  | .close =>
    if l.kind = .group ∨ l.closes = [] then some { l with closes := l.closes ++ [.sending] }
    else none
  | .send call =>
    ({ l with signal := l.signal || l.task.subscribed } : Listener).move call .sending
      (if l.kind = .udp then .releasing else .waiting)
  | .woken call => if l.closeDone then l.move call .waiting .releasing else none
  | .timeout call => l.move call .waiting .releasing
  | .release call => l.move call .releasing .returned
  | .drop =>
    if l.kind = .udp ∧ l.task = .ended ∧ l.closes ≠ [] ∧ ∀ pc ∈ l.closes, pc = .returned then
      some { l with socket := false }
    else none

/-! ## What a step does -/

/-- How far the task has come. -/
def RunPc.rank : RunPc → Nat
  | spawned => 0
  | taken => 1
  | accepting | backingOff => 2
  | stopping => 3
  | returning => 4
  | ended => 5

theorem RunPc.past_iff {pc : RunPc} : pc.past = true ↔ 3 ≤ pc.rank := by
  cases pc <;> decide

theorem RunPc.subscribed_iff {pc : RunPc} : pc.subscribed = true ↔ pc.rank = 2 := by
  cases pc <;> decide

/-- The moves of a call of `close`. -/
inductive Goes (l : Listener) : Event → Nat → ClosePc → ClosePc → Prop
  | send (call : Nat) :
      Goes l (.send call) call .sending (if l.kind = .udp then .releasing else .waiting)
  | woken (call : Nat) (hdone : l.closeDone = true) : Goes l (.woken call) call .waiting .releasing
  | timeout (call : Nat) : Goes l (.timeout call) call .waiting .releasing
  | release (call : Nat) : Goes l (.release call) call .releasing .returned

/-- Everything a step can do: the task moves, never back; `close` is called; or a call of
`close` moves. -/
inductive Steps (l : Listener) : Event → Listener → Prop
  | task {e : Event} (task : RunPc) (signal closeDone socket : Bool)
      (hrank : l.task.rank ≤ task.rank)
      (hsignal : 2 ≤ l.task.rank → signal = l.signal)
      (hdone : closeDone = true → l.closeDone = true ∨ 3 ≤ task.rank)
      (hsocket : socket = true → l.socket = true)
      (hdrop : l.kind = .udp → l.socket = true →
        socket = true ∨ l.closes ≠ [] ∧ ∀ pc ∈ l.closes, pc = .returned)
      (haccept : e = .accept → l.task = .accepting)
      (hcall : ∀ call, e ≠ .release call) (hclose : e ≠ .close) :
      Steps l e { l with task := task, signal := signal, closeDone := closeDone, socket := socket }
  | close (hagain : l.kind = .group ∨ l.closes = []) :
      Steps l .close { l with closes := l.closes ++ [.sending] }
  | call {e : Event} {call : Nat} {before after : ClosePc} (signal : Bool)
      (hgoes : Goes l e call before after) (hbefore : l.closes[call]? = some before)
      (hsignal : l.signal = true → signal = true)
      (hsend : e = .send call → l.task.subscribed = true → signal = true) :
      Steps l e { l with signal := signal, closes := l.closes.set call after }

theorem move_eq_some {l l' : Listener} {call : Nat} {before after : ClosePc}
    (h : l.move call before after = some l') :
    l.closes[call]? = some before ∧ l' = { l with closes := l.closes.set call after } := by
  unfold move at h
  split at h
  · next hpc => exact ⟨hpc, (Option.some.inj h).symm⟩
  · cases h

theorem steps_of_step {l l' : Listener} {e : Event} (h : l.step e = some l') : Steps l e l' := by
  cases e with
  | close =>
      simp only [step] at h
      split at h
      · next hagain =>
          obtain rfl := Option.some.inj h
          exact .close hagain
      · cases h
  | send call =>
      obtain ⟨hbefore, rfl⟩ := move_eq_some h
      exact .call _ (.send call) hbefore (by simp +contextual) (by simp +contextual)
  | woken call =>
      simp only [step] at h
      split at h
      · next hdone =>
          obtain ⟨hbefore, rfl⟩ := move_eq_some h
          exact .call l.signal (.woken call hdone) hbefore id (by simp)
      · cases h
  | timeout call =>
      obtain ⟨hbefore, rfl⟩ := move_eq_some h
      exact .call l.signal (.timeout call) hbefore id (by simp)
  | release call =>
      obtain ⟨hbefore, rfl⟩ := move_eq_some h
      exact .call l.signal (.release call) hbefore id (by simp)
  | take | transient | retry =>
      simp only [step] at h
      split at h
      · next hpc =>
          obtain rfl := Option.some.inj h
          exact .task _ _ _ _ (by simp [hpc, RunPc.rank]) (fun _ ↦ rfl) .inl id (fun _ ↦ .inl)
            (by simp) (by simp) (by simp)
      · cases h
  | subscribe =>
      simp only [step] at h
      split at h
      · next hpc =>
          obtain rfl := Option.some.inj h
          have hrank : l.task.rank ≤ 1 := by
            rw [hpc]
            cases l.kind <;> decide
          exact .task .accepting false _ _ (hrank.trans (by decide)) (by omega) .inl id
            (fun _ ↦ .inl) (by simp) (by simp) (by simp)
      · cases h
  | accept =>
      simp only [step] at h
      split at h
      · next hpc =>
          obtain rfl := Option.some.inj h
          exact .task l.task l.signal l.closeDone l.socket le_rfl (fun _ ↦ rfl) .inl id
            (fun _ ↦ .inl) (fun _ ↦ hpc) (by simp) (by simp)
      · cases h
  | fatal =>
      simp only [step] at h
      split at h
      · next hpc =>
          split at h <;> obtain rfl := Option.some.inj h
          · exact .task .stopping _ _ _ (by simp [hpc, RunPc.rank]) (fun _ ↦ rfl) .inl id
              (fun _ ↦ .inl) (by simp) (by simp) (by simp)
          · exact .task .returning _ _ _ (by simp [hpc, RunPc.rank]) (fun _ ↦ rfl) .inl id
              (fun _ ↦ .inl) (by simp) (by simp) (by simp)
          · exact .task l.task l.signal l.closeDone l.socket le_rfl (fun _ ↦ rfl) .inl id
              (fun _ ↦ .inl) (by simp) (by simp) (by simp)
      · cases h
  | shutdown =>
      simp only [step] at h
      split at h
      · next hpc =>
          obtain rfl := Option.some.inj h
          refine .task _ _ _ _ ?_ (fun _ ↦ rfl) .inl id (fun _ ↦ .inl) (by simp) (by simp)
            (by simp)
          rw [hpc.1]
          split <;> simp [RunPc.rank]
      · cases h
  | raiseDone =>
      simp only [step] at h
      split at h
      · next hpc =>
          obtain rfl := Option.some.inj h
          exact .task .returning _ true _ (by simp [hpc, RunPc.rank]) (fun _ ↦ rfl)
            (fun _ ↦ .inr (by decide)) id (fun _ ↦ .inl) (by simp) (by simp) (by simp)
      · cases h
  | finish =>
      simp only [step] at h
      split at h
      · next hpc =>
          obtain rfl := Option.some.inj h
          exact .task .ended _ _ _ (by simp [hpc, RunPc.rank]) (fun _ ↦ rfl) .inl
            (by simp +contextual) (by simp +contextual) (by simp) (by simp) (by simp)
      · cases h
  | drop =>
      simp only [step] at h
      split at h
      · next hover =>
          obtain rfl := Option.some.inj h
          exact .task l.task _ _ false le_rfl (fun _ ↦ rfl) .inl (by simp)
            (fun _ _ ↦ .inr hover.2.2) (by simp) (by simp) (by simp)
      · cases h

/-! ## A closed listener falls silent -/

/-- The listener is not accepting, and will not be in any continuation. -/
def Silent (l : Listener) : Prop :=
  l.task ≠ .accepting ∧ l.task ≠ .backingOff ∧
    ∀ events l', run step l events = some l' → Event.accept ∉ events

/-- The signal is sent when the task has subscribed, or is past its loop anyway; and the
three seconds do not pass while a signal waits to be heard. -/
def Heard (l : Listener) : Event → Prop
  | .send _ => l.task.subscribed = true ∨ l.task.past = true
  | .timeout _ => l.signal = true → l.task.past = true
  | _ => True

instance instDecidableHeard (l : Listener) : ∀ e, Decidable (Heard l e)
  | .send _ => inferInstanceAs (Decidable (_ ∨ _))
  | .timeout _ => inferInstanceAs (Decidable (_ → _))
  | .take | .subscribe | .accept | .transient | .retry | .fatal | .shutdown | .raiseDone
  | .finish | .close | .woken _ | .release _ | .drop => .isTrue trivial

/-- A task past its loop never accepts again. -/
theorem silent_of_past {l : Listener} (h : l.task.past = true) : Silent l := by
  refine ⟨fun hpc ↦ by simp [hpc, RunPc.past] at h, fun hpc ↦ by simp [hpc, RunPc.past] at h, ?_⟩
  intro events
  induction events generalizing l with
  | nil => exact fun _ _ ↦ List.not_mem_nil
  | cons e events ih =>
      intro l' hrun
      obtain ⟨m, hm, hrest⟩ := (run_cons_eq_some step).mp hrun
      have hsteps := steps_of_step hm
      have hpast : m.task.past = true := by
        cases hsteps with
        | task task _ _ _ hrank => exact RunPc.past_iff.mpr ((RunPc.past_iff.mp h).trans hrank)
        | close => exact h
        | call => exact h
      rw [List.mem_cons, not_or]
      refine ⟨?_, ih hpast l' hrest⟩
      rintro rfl
      cases hsteps with
      | task _ _ _ _ _ _ _ _ _ haccept =>
          rw [haccept rfl] at h
          cases h
      | call _ hgoes => cases hgoes

/-- Whoever waits has been or will be heard, and whoever has waited was. -/
structure Heeded (l : Listener) : Prop where
  done : l.closeDone = true → 3 ≤ l.task.rank
  waiting : .waiting ∈ l.closes → 3 ≤ l.task.rank ∨ l.task.rank = 2 ∧ l.signal = true
  waited : ∀ pc ∈ l.closes, pc = .releasing ∨ pc = .returned → 3 ≤ l.task.rank

theorem heeded_new (kind : Kind) : Heeded (new kind) := by
  constructor <;> simp [new]

theorem heeded_step (l : Listener) (e : Event) (l' : Listener) (h : l.kind ≠ .udp ∧ Heeded l)
    (hok : Heard l e) (hl' : l.step e = some l') : l'.kind ≠ .udp ∧ Heeded l' := by
  obtain ⟨hkind, h⟩ := h
  cases steps_of_step hl' with
  | task task signal closeDone socket hrank hsignal hdone =>
      refine ⟨hkind, ⟨?_, ?_, ?_⟩⟩
      · intro hd
        rcases hdone hd with hd | hd
        · exact (h.done hd).trans hrank
        · exact hd
      · intro hw
        rcases h.waiting hw with hpast | ⟨htwo, hs⟩
        · exact .inl (hpast.trans hrank)
        · refine (Nat.lt_or_ge 2 task.rank).imp id fun hle ↦ ⟨?_, (hsignal htwo.ge).trans hs⟩
          exact Nat.le_antisymm hle (htwo ▸ hrank)
      · intro pc hpc hp
        exact (h.waited pc hpc hp).trans hrank
  | close =>
      refine ⟨hkind, ⟨h.done, ?_, ?_⟩⟩
      · intro hw
        exact h.waiting (by simpa using hw)
      · intro pc hpc hp
        rcases List.mem_append.mp hpc with hold | hnew
        · exact h.waited pc hold hp
        · rw [List.mem_singleton.mp hnew] at hp
          simp at hp
  | @call _ call before after signal hgoes hbefore hsignal hsend =>
      have hmem := List.mem_of_getElem? hbefore
      -- Beyond the wait, the task is past its loop.
      have hpast : ∀ pc, pc ∈ l.closes.set call after → pc = .releasing ∨ pc = .returned →
          3 ≤ l.task.rank := by
        intro pc hpc hp
        rcases List.mem_or_eq_of_mem_set hpc with hold | rfl
        · exact h.waited pc hold hp
        · cases hgoes with
          | send => simp [hkind] at hp
          | woken _ hdone => exact h.done hdone
          | timeout =>
              rcases h.waiting hmem with hpast | ⟨-, hs⟩
              · exact hpast
              · exact RunPc.past_iff.mp (hok hs)
          | release => exact h.waited _ hmem (.inl rfl)
      refine ⟨hkind, ⟨h.done, ?_, hpast⟩⟩
      intro hw
      rcases List.mem_or_eq_of_mem_set hw with hold | hnew
      · rcases h.waiting hold with hpast | ⟨htwo, hs⟩
        · exact .inl hpast
        · exact .inr ⟨htwo, hsignal hs⟩
      · cases hgoes with
        | send =>
            rcases hok with hsub | hpast
            · exact .inr ⟨RunPc.subscribed_iff.mp hsub, hsend rfl hsub⟩
            · exact .inl (RunPc.past_iff.mp hpast)
        | woken => cases hnew
        | timeout => cases hnew
        | release => cases hnew

/-- If every signal finds a subscribed task and is heard in time, a TCP proxy whose
`close` has returned is not accepting and never will be again. -/
theorem silent_of_returned {events : List Event} {l : Listener}
    (hrun : run step (new .tcp) events = some l) (hok : Along step Heard (new .tcp) events)
    (hclosed : .returned ∈ l.closes) : Silent l := by
  have hheeded := along_invariant heeded_step hok hrun ⟨by decide, heeded_new .tcp⟩
  exact silent_of_past (RunPc.past_iff.mpr (hheeded.2.waited _ hclosed (.inr rfl)))

/-- A proxy is closed while its task accepts. -/
def closedWhileAccepting : List Event :=
  [.take, .subscribe, .accept, .close, .send 0, .shutdown, .raiseDone, .woken 0, .release 0]

theorem silent_closedWhileAccepting :
    run step (new .tcp) closedWhileAccepting =
        some ⟨.tcp, .returning, true, true, [.returned], true⟩ ∧
      Silent ⟨.tcp, .returning, true, true, [.returned], true⟩ :=
  ⟨rfl, @silent_of_returned closedWhileAccepting _ rfl (by decide) (by decide)⟩

/-- A proxy is closed before its task has run: the signal reaches nobody, and the caller
waits for three seconds. -/
def closedBeforeScheduled : List Event := [.close, .send 0, .timeout 0, .release 0]

/-- The task of a proxy that was closed too early takes the listener and accepts after
`close` has returned. -/
theorem accepts_closedBeforeScheduled :
    run step (new .tcp) closedBeforeScheduled =
        some ⟨.tcp, .spawned, false, false, [.returned], true⟩ ∧
      run step ⟨.tcp, .spawned, false, false, [.returned], true⟩ [.take, .subscribe, .accept] =
        some ⟨.tcp, .accepting, false, false, [.returned], true⟩ ∧
      ¬Silent ⟨.tcp, .spawned, false, false, [.returned], true⟩ := by
  refine ⟨rfl, rfl, ?_⟩
  rintro ⟨-, -, h⟩
  exact h [.take, .subscribe, .accept] _ rfl (by decide)

end Listener

end Arp.Server
