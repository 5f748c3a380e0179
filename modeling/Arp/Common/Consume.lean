import Arp.Common.Throttle
import Arp.Lib.Execution
import Mathlib.Data.Prod.Lex

/-!
# Calls of `consume` that return

In an execution in which the task of a throttle keeps going on, and a call of `consume` is polled
again and again, the call returns: its bytes go down with every turn, and while it waits, what
its request lacks goes down with every tick.  Others may call `consume` at any time; they come
behind it in the queue.

With the accounts of `Throttle` this tells for which limits and byte counts a call returns and
has taken as many permits as bytes.  It never returns if the limit is zero, and a turn of more
than 32 bits asks for fewer permits than it counts.
-/

namespace Arp.Common.Throttle

open Arp.Lib Arp.Lib.Machine

variable (gauge : Semaphore.Gauge Nat)

/-- A call has returned, with as many permits taken as bytes were to be consumed. -/
def Call.Done (call : Call) : Prop := call.pc = .returned ∧ call.forgotten = call.bytes.toNat

/-- There is a throttle for a limit, and in every execution in which its task and a call to
consume so many bytes keep going on, the call returns with as many permits taken. -/
def Consumes (bytesPerSec n : UInt64) : Prop :=
  ∃ t, new bytesPerSec = some t ∧
    ∀ x : Execution (step gauge), x.states 0 = .start t → x.Recurs .refill →
      ∀ i, x.Recurs (.poll i) → ∀ k call, (x.states k).calls[i]? = some call → call.bytes = n →
        ∃ m, k ≤ m ∧ ∃ call', (x.states m).calls[i]? = some call' ∧ call'.bytes = n ∧ call'.Done

variable {gauge : Semaphore.Gauge Nat} {s t : State} {e : Event} {i : Nat} {call : Call}

/-! ## Throttles for a limit -/

theorem bytesPerSec_step (hstep : step gauge s e = some t) : t.bytesPerSec = s.bytesPerSec := by
  cases effect_of_step hstep with
  | consume bytes => rfl
  | poll i call hcall hpolls =>
      cases hpolls with
      | asks | returns | turns | waits | rests => rfl
  | refill hrefills =>
      cases hrefills with
      | reads | adds | panics | skips | rests => rfl

/-- All that is kept along the runs of a throttle that was made for a limit. -/
structure Valid (bytesPerSec : UInt64) (s : State) : Prop where
  sound : Sound s
  accounted : Accounted s
  conserved : Conserved s
  limit : s.bytesPerSec = bytesPerSec

theorem valid_start {bytesPerSec : UInt64} {r : Throttle} (h : new bytesPerSec = some r) :
    Valid bytesPerSec (.start r) :=
  ⟨(sound_start h).1, List.forall_mem_nil _, conserved_start h, (sound_start h).2⟩

theorem valid_step {bytesPerSec : UInt64} (s : State) (e : Event) (t : State)
    (h : Valid bytesPerSec s) (hstep : step gauge s e = some t) : Valid bytesPerSec t where
  sound := sound_step s e t h.sound hstep
  accounted := accounted_step h.sound h.accounted hstep
  conserved := conserved_step h.conserved hstep
  limit := (bytesPerSec_step hstep).trans h.limit

theorem Valid.accounts {bytesPerSec : UInt64} (h : Valid bytesPerSec s)
    (hcall : s.calls[i]? = some call) : call.Accounts bytesPerSec :=
  h.limit ▸ h.accounted call (List.mem_of_getElem? hcall)

/-! ## Calls that go on -/

/-- Only a poll of its own changes a call. -/
theorem call_step_of_ne (hcall : s.calls[i]? = some call) (hstep : step gauge s e = some t)
    (hother : e ≠ .poll i) : t.calls[i]? = some call := by
  cases effect_of_step hstep with
  | consume bytes => rw [List.getElem?_append_left (List.getElem?_eq_some_iff.mp hcall).1, hcall]
  | poll j other _ hpolls =>
      have hji : j ≠ i := fun hji ↦ hother (congrArg Event.poll hji)
      cases hpolls with
      | asks | returns | turns => exact (List.getElem?_set_ne hji).trans hcall
      | waits | rests => exact hcall
  | refill hrefills =>
      cases hrefills with
      | reads | adds | panics | skips | rests => exact hcall

/-- A call stays where it is in the list, with the bytes it was made for. -/
theorem call_step (hcall : s.calls[i]? = some call) (hstep : step gauge s e = some t) :
    ∃ call', t.calls[i]? = some call' ∧ call'.bytes = call.bytes := by
  by_cases he : e = .poll i
  · subst he
    have hlt : i < s.calls.length := (List.getElem?_eq_some_iff.mp hcall).1
    cases effect_of_step hstep with
    | poll _ call' hcall' hpolls =>
        obtain rfl := Option.some.inj (hcall'.symm.trans hcall)
        cases hpolls with
        | asks | returns | turns => exact ⟨_, List.getElem?_set_self hlt, rfl⟩
        | waits | rests => exact ⟨call', hcall, rfl⟩
  · exact ⟨call, call_step_of_ne hcall hstep he, rfl⟩

/-! ## The rank of a call -/

/-- The turns a call has before it, at most, in half steps. -/
def Call.rank (call : Call) : Nat :=
  match call.pc with
  | .looping => 2 * call.remaining.toNat + 1
  | .acquiring _ => 2 * call.remaining.toNat
  | .returned => 0

/-- How far the task is from its next addition. -/
def Refill.phase (bytesPerSec : UInt64) : Refill → Nat
  | ticking => 1
  -- A number that was read before anybody waited may leave nothing to add.
  | adding current => if current < bytesPerSec.toNat then 0 else 2
  | panicked => 0

namespace State

/-- The steps of the task a call waits for, at most. -/
def wait (s : State) (i : Nat) : Nat :=
  if s.semaphore.Waits i then 3 * s.semaphore.lacks i + s.refill.phase s.bytesPerSec else 0

def rank (s : State) (i : Nat) : Nat ×ₗ Nat :=
  toLex ((s.calls[i]?).elim 0 Call.rank, s.wait i)

end State

/-- The event that brings a call of some rank forward. -/
def helps (i : Nat) (rank : Nat ×ₗ Nat) : Event :=
  if (ofLex rank).2 = 0 then .poll i else .refill

theorem wait_pos (h : s.semaphore.Waits i) : 0 < s.wait i := by
  have hlacks := Semaphore.lacks_pos h
  rw [State.wait, if_pos h]
  omega

/-- Every step of the task brings a call that waits nearer to its permits. -/
theorem wait_refills_lt (h : Sound s) (hrefills : Refills gauge s t)
    (hwaits : s.semaphore.Waits i) : t.wait i < s.wait i := by
  have hlacks := Semaphore.lacks_pos hwaits
  have hsome : s.semaphore.waiters ≠ [] := by
    intro hnil
    rw [Semaphore.Waits, Semaphore.owners, hnil] at hwaits
    cases hwaits
  rw [State.wait, State.wait, if_pos hwaits]
  cases hrefills with
  | reads hrefill =>
      have hless := (gauge.le s.semaphore).trans_lt (h.permits_lt hsome).2
      rw [if_pos hwaits, hrefill, Refill.phase, Refill.phase, if_pos hless]
      exact Nat.lt_succ_self _
  | adds current hrefill hpos hfits =>
      split
      · next hstill =>
          rw [Semaphore.lacks_add h.nodup hstill, Refill.phase]
          have hmore := ((Semaphore.waits_add_iff h.nodup).mp hstill).2
          omega
      · omega
  | panics current hrefill hpos hfull => exact absurd (h.fits hrefill hpos) hfull
  | skips current hrefill hzero =>
      have hamount : 0 < s.refillAmount.toNat := by
        rw [refillAmount, UInt64.toNat_max]
        exact Nat.lt_of_lt_of_le Nat.one_pos (Nat.le_max_right _ _)
      have hfull : ¬current < s.bytesPerSec.toNat := by
        unfold State.addition at hzero
        omega
      rw [if_pos hwaits, hrefill, Refill.phase, Refill.phase, if_neg hfull]
      exact Nat.lt_succ_self _
  | rests hrefill => exact absurd hrefill h.alive

/-- The task makes nobody wait. -/
theorem wait_refills_eq_zero (h : Sound s) (hrefills : Refills gauge s t)
    (hnot : ¬s.semaphore.Waits i) : t.wait i = 0 := by
  refine if_neg fun hwaits ↦ hnot ?_
  cases hrefills with
  | adds current hrefill hpos hfits => exact ((Semaphore.waits_add_iff h.nodup).mp hwaits).1
  | reads | panics | skips | rests => exact hwaits

/-- Another call that is polled comes behind, if it waits. -/
theorem wait_polls_of_ne {j : Nat} (hij : i ≠ j) (hpolls : Polls s j call t) :
    t.wait i = s.wait i := by
  cases hpolls with
  | asks hpc hleft =>
      by_cases hwaits : s.semaphore.Waits i
      · obtain ⟨hstill, hlacks⟩ := Semaphore.lacks_acquire (j := j) hwaits
        rw [State.wait, State.wait, if_pos hwaits, if_pos hstill, hlacks]
      · have hnot : ¬(s.semaphore.acquire j (asked (s.take call.remaining))).Waits i := fun h ↦
          (Semaphore.waits_of_acquire h).elim hwaits hij
        rw [State.wait, State.wait, if_neg hwaits, if_neg hnot]
  | returns | turns | waits | rests => rfl

theorem rank_eq (hcall : s.calls[i]? = some call) : s.rank i = toLex (call.rank, s.wait i) := by
  rw [State.rank, hcall]
  rfl

theorem helps_cases (i : Nat) (rank : Nat ×ₗ Nat) :
    helps i rank = .poll i ∧ (ofLex rank).2 = 0 ∨ helps i rank = .refill ∧ (ofLex rank).2 ≠ 0 := by
  unfold helps
  split
  · next hzero => exact .inl ⟨rfl, hzero⟩
  · next hpos => exact .inr ⟨rfl, hpos⟩

def Returned (i : Nat) (s : State) : Prop := ∃ call, s.calls[i]? = some call ∧ call.pc = .returned

/-- A call that is polled returns, gets on in its turns, or waits. -/
theorem rank_polls (h : Sound s) (hmoves : s.bytesPerSec ≠ 0 ∨ call.remaining = 0)
    (hcall : s.calls[i]? = some call) (hpolls : Polls s i call t) :
    Returned i t ∨ t.rank i < s.rank i ∨
      t.rank i = s.rank i ∧ s.semaphore.Waits i := by
  have hlt : i < s.calls.length := (List.getElem?_eq_some_iff.mp hcall).1
  cases hpolls with
  | asks hpc hleft =>
      refine .inr (.inl ?_)
      rw [rank_eq hcall, rank_eq (List.getElem?_set_self hlt), Prod.Lex.toLex_lt_toLex]
      left
      simp only [Call.rank, hpc]
      exact Nat.lt_succ_self _
  | returns hpc hleft => exact .inl ⟨_, List.getElem?_set_self hlt, rfl⟩
  | turns take hpc hgot =>
      obtain ⟨hleft, rfl⟩ := h.takes i call take hcall hpc
      have hbytes : 0 < s.bytesPerSec.toNat :=
        UInt64.pos_iff_ne_zero.mpr (hmoves.resolve_right hleft)
      have hremaining : 0 < call.remaining.toNat := UInt64.pos_iff_ne_zero.mpr hleft
      have htake := toNat_take s.toThrottle call.remaining
      refine .inr (.inl ?_)
      rw [rank_eq hcall, rank_eq (List.getElem?_set_self hlt), Prod.Lex.toLex_lt_toLex]
      left
      simp only [Call.rank, hpc, toNat_sub_take]
      omega
  | waits take hpc hwaits => exact .inr (.inr ⟨rfl, hwaits⟩)
  | rests hpc => exact .inl ⟨call, hcall, hpc⟩

/-- Nothing sets a call back, and the event that helps it brings it forward. -/
theorem rank_step (h : Sound s) (hmoves : s.bytesPerSec ≠ 0 ∨ call.remaining = 0)
    (hcall : s.calls[i]? = some call) (hstep : step gauge s e = some t) :
    Returned i t ∨ t.rank i < s.rank i ∨
      t.rank i = s.rank i ∧ e ≠ helps i (s.rank i) := by
  by_cases he : e = .poll i
  · subst he
    cases effect_of_step hstep with
    | poll _ call' hcall' hpolls =>
        obtain rfl := Option.some.inj (hcall'.symm.trans hcall)
        refine (rank_polls h hmoves hcall hpolls).imp_right (.imp_right ?_)
        rintro ⟨hsame, hwaits⟩
        refine ⟨hsame, fun hhelps ↦ ?_⟩
        rcases helps_cases i (s.rank i) with ⟨-, hzero⟩ | ⟨hrefill, -⟩
        · exact (wait_pos hwaits).ne' hzero
        · cases hhelps.trans hrefill
  · right
    rw [rank_eq hcall, rank_eq (call_step_of_ne hcall hstep he)]
    cases effect_of_step hstep with
    | consume bytes =>
        refine .inr ⟨rfl, fun hhelps ↦ ?_⟩
        rcases helps_cases i (toLex (call.rank, s.wait i)) with ⟨hpoll, -⟩ | ⟨hrefill, -⟩
        · cases hhelps.trans hpoll
        · cases hhelps.trans hrefill
    | poll j other _ hpolls =>
        have hij : i ≠ j := fun hij ↦ he (congrArg Event.poll hij.symm)
        refine .inr ⟨by rw [wait_polls_of_ne hij hpolls], fun hhelps ↦ ?_⟩
        rcases helps_cases i (toLex (call.rank, s.wait i)) with ⟨hpoll, -⟩ | ⟨hrefill, -⟩
        · exact he (hhelps.trans hpoll)
        · cases hhelps.trans hrefill
    | refill hrefills =>
        by_cases hwaits : s.semaphore.Waits i
        · left
          rw [Prod.Lex.toLex_lt_toLex]
          exact .inr ⟨rfl, wait_refills_lt h hrefills hwaits⟩
        · right
          have hnone : s.wait i = 0 := if_neg hwaits
          rw [wait_refills_eq_zero h hrefills hwaits, hnone]
          exact ⟨rfl, Event.noConfusion⟩

/-! ## Fair executions -/

section Execution

variable {x : Execution (step gauge)} {bytesPerSec n : UInt64} {r : Throttle}

/-- Such a throttle is valid at all times of an execution. -/
theorem valid_later (hnew : new bytesPerSec = some r) (hstart : x.states 0 = .start r) (m : Nat) :
    Valid bytesPerSec (x.states m) :=
  Execution.invariant valid_step (hstart ▸ valid_start hnew) m

/-- The calls that were made stay. -/
theorem call_later {k m : Nat} (hkm : k ≤ m) (hcall : (x.states k).calls[i]? = some call) :
    ∃ call', (x.states m).calls[i]? = some call' ∧ call'.bytes = call.bytes := by
  induction m, hkm using Nat.le_induction with
  | base => exact ⟨call, hcall, rfl⟩
  | succ m hkm ih =>
      obtain ⟨call', hcall', hbytes'⟩ := ih
      obtain ⟨call'', hcall'', hbytes''⟩ := call_step hcall' (x.next m)
      exact ⟨call'', hcall'', hbytes''.trans hbytes'⟩

/-- A call returns, unless it has bytes to consume and the limit is zero. -/
theorem returns_later (hnew : new bytesPerSec = some r) (hstart : x.states 0 = .start r)
    (hrefill : x.Recurs .refill) (hpoll : x.Recurs (.poll i)) {k : Nat}
    (hcall : (x.states k).calls[i]? = some call) (hmoves : call.bytes = 0 ∨ bytesPerSec ≠ 0) :
    ∃ m, k ≤ m ∧ Returned i (x.states m) := by
  refine Execution.reaches_of_rank (State.rank · i) (helps i) (fun rank ↦ ?_) fun m hkm ↦ ?_
  · rcases helps_cases i rank with ⟨h, -⟩ | ⟨h, -⟩
    · exact h ▸ hpoll
    · exact h ▸ hrefill
  · have hvalid := valid_later hnew hstart m
    obtain ⟨call', hcall', hsame⟩ := call_later hkm hcall
    refine rank_step hvalid.sound ?_ hcall' (x.next m)
    rw [hvalid.limit]
    rcases hmoves with hnone | hpos
    · -- With no byte to consume nothing remains, whatever the limit is.
      by_cases hzero : bytesPerSec = 0
      · right
        rw [(hvalid.accounts hcall').stuck hzero, hsame, hnone]
      · exact .inl hzero
    · exact .inl hpos

/-- The schedule in which one call is made, and polled and served in turn. -/
def schedule (n : UInt64) : Nat → Event
  | 0 => .consume n
  | m + 1 => if m % 2 = 0 then .poll 0 else .refill

/-- Once the call is made it can always be polled. -/
theorem schedule_enabled (gauge : Semaphore.Gauge Nat) (n : UInt64) (m : Nat) (s : State)
    (hcalls : 0 < m → ∃ call, s.calls[0]? = some call) :
    ∃ t, step gauge s (schedule n m) = some t ∧
      (0 < m + 1 → ∃ call, t.calls[0]? = some call) := by
  cases m with
  | zero =>
      refine ⟨_, rfl, fun _ ↦ ?_⟩
      cases s.calls with
      | nil | cons => exact ⟨_, rfl⟩
  | succ m =>
      obtain ⟨call, hcall⟩ := hcalls (Nat.succ_pos m)
      have hnext : ∃ t, step gauge s (schedule n (m + 1)) = some t := by
        rw [schedule]
        split
        · exact ⟨s.poll 0 call, Option.map_eq_some_iff.mpr ⟨call, hcall, rfl⟩⟩
        · exact ⟨_, rfl⟩
      obtain ⟨t, ht⟩ := hnext
      obtain ⟨call', hcall', -⟩ := call_step hcall ht
      exact ⟨t, ht, fun _ ↦ ⟨call', hcall'⟩⟩

/-- Every throttle has a fair execution with a call to consume so many bytes. -/
theorem exists_fair_execution (gauge : Semaphore.Gauge Nat) (r : Throttle) (n : UInt64) :
    ∃ x : Execution (step gauge), x.states 0 = .start r ∧ x.Recurs .refill ∧ x.Recurs (.poll 0) ∧
      (x.states 1).calls[0]? = some ⟨n, n, .looping, 0⟩ := by
  obtain ⟨x, hstart, hevents⟩ :=
    exists_execution (schedule_enabled gauge n) (s := .start r) (absurd · (Nat.lt_irrefl 0))
  refine ⟨x, hstart, fun k ↦ ⟨2 * k + 2, by omega, ?_⟩, fun k ↦ ⟨2 * k + 1, by omega, ?_⟩, ?_⟩
  · rw [hevents, schedule, if_neg (by omega)]
  · rw [hevents, schedule, if_pos (by omega)]
  · have hfirst := x.next 0
    rw [hstart, hevents] at hfirst
    rw [← Option.some.inj hfirst]
    rfl

end Execution

/-! ## Which calls consume what they are to -/

/-- What a call that has returned says of the limit and its bytes. -/
theorem of_done {bytesPerSec : UInt64} (h : call.Accounts bytesPerSec) (hdone : call.Done) :
    call.bytes = 0 ∨ bytesPerSec ≠ 0 ∧
      (bytesPerSec.toNat < UInt32.size ∨ call.bytes.toNat < UInt32.size) := by
  obtain ⟨hpc, hforgotten⟩ := hdone
  have hleft := h.returned hpc
  by_cases hbytes : call.bytes = 0
  · exact .inl hbytes
  · refine .inr ⟨fun hzero ↦ hbytes ((h.stuck hzero).symm.trans hleft), ?_⟩
    by_contra hlarge
    rw [not_or, Nat.not_lt, Nat.not_lt] at hlarge
    rcases h.less hlarge.1 hlarge.2 with ⟨hall, -⟩ | hless
    · exact hbytes (hall.symm.trans hleft)
    · omega

/-- The other way around, such a call has taken what it was to take. -/
theorem done_of_returned {bytesPerSec : UInt64} (h : call.Accounts bytesPerSec)
    (hpc : call.pc = .returned)
    (hfits : bytesPerSec.toNat < UInt32.size ∨ call.bytes.toNat < UInt32.size) : call.Done := by
  have hwhole := h.whole hfits
  rw [h.returned hpc, UInt64.toNat_zero, Nat.add_zero] at hwhole
  exact ⟨hpc, hwhole⟩

theorem of_consumes {bytesPerSec n : UInt64} (h : Consumes gauge bytesPerSec n) :
    bytesPerSec.toNat ≤ maxPermits ∧
      (n = 0 ∨ bytesPerSec ≠ 0 ∧
        (bytesPerSec.toNat < UInt32.size ∨ n.toNat < UInt32.size)) := by
  obtain ⟨r, hnew, hall⟩ := h
  refine ⟨(new_eq_some.mp hnew).1, ?_⟩
  obtain ⟨x, hstart, hrefill, hpoll, hfirst⟩ := exists_fair_execution gauge r n
  obtain ⟨m, -, call, hcall, rfl, hdone⟩ := hall x hstart hrefill 0 hpoll 1 _ hfirst rfl
  exact of_done ((valid_later hnew hstart m).accounts hcall) hdone

/-- A limit and a byte count go together if there is a throttle for the limit, and there is
nothing to consume, or the limit is not zero and one of the two fits into 32 bits. -/
theorem consumes_iff (gauge : Semaphore.Gauge Nat) (bytesPerSec n : UInt64) :
    Consumes gauge bytesPerSec n ↔ bytesPerSec.toNat ≤ maxPermits ∧
      (n = 0 ∨ bytesPerSec ≠ 0 ∧
        (bytesPerSec.toNat < UInt32.size ∨ n.toNat < UInt32.size)) := by
  constructor
  · exact of_consumes
  · rintro ⟨hsmall, hcan⟩
    have hnew := new_eq_some.mpr ⟨hsmall, rfl⟩
    refine ⟨_, hnew, ?_⟩
    rintro x hstart hrefill i hpoll k call hcall rfl
    have hmoves : call.bytes = 0 ∨ bytesPerSec ≠ 0 := hcan.imp_right And.left
    have hfits : bytesPerSec.toNat < UInt32.size ∨ call.bytes.toNat < UInt32.size := by
      rcases hcan with hnone | ⟨-, hfits⟩
      · rw [hnone]
        exact .inr (by decide)
      · exact hfits
    obtain ⟨m, hkm, call', hcall', hpc⟩ := returns_later hnew hstart hrefill hpoll hcall hmoves
    obtain ⟨later, hlater, hsame⟩ := call_later hkm hcall
    obtain rfl := Option.some.inj (hlater.symm.trans hcall')
    have haccounts := (valid_later hnew hstart m).accounts hlater
    exact ⟨m, hkm, later, hlater, hsame, done_of_returned haccounts hpc (hsame ▸ hfits)⟩

/-- A call to consume one byte comes back to where it was if the limit is zero, and one to consume
4 GiB returns at once, with nothing taken, if this is the limit. -/
theorem consume_loops_and_takes_nothing :
    ¬Consumes .unreserved 0 1 ∧
    (∃ s, run (step .unreserved) (.start ⟨0, .new 0⟩) [.consume 1] = some s ∧
      run (step .unreserved) s [.poll 0, .poll 0] = some s) ∧
    ¬Consumes .unreserved 4294967296 4294967296 ∧
    ∃ s, run (step .unreserved) (.start ⟨4294967296, .new 4294967296⟩)
        [.consume 4294967296, .poll 0, .poll 0, .poll 0] = some s ∧
      s.calls = [⟨4294967296, 0, .returned, 0⟩] ∧ s.semaphore.permits = 4294967296 := by
  refine ⟨fun h ↦ ?_, ⟨_, rfl, rfl⟩, fun h ↦ ?_, ⟨_, rfl, rfl, rfl⟩⟩
  · exact absurd (of_consumes h) (by decide)
  · exact absurd (of_consumes h) (by decide)

/-! ## The permits -/

theorem waiters_eq_nil (h : Sound s) (hreturned : ∀ call ∈ s.calls, call.pc = .returned) :
    s.semaphore.waiters = [] := by
  refine List.eq_nil_iff_forall_not_mem.mpr fun w hw ↦ ?_
  obtain ⟨call, take, hcall, hpc, -⟩ := h.waiting w hw
  rw [hreturned call (List.mem_of_getElem? hcall)] at hpc
  cases hpc

/-- When all calls are done, the permits that have gone are as many as the bytes consumed. -/
theorem permits_of_done {bytesPerSec : UInt64} {r : Throttle} {es : List Event}
    (hnew : new bytesPerSec = some r) (hrun : run (step gauge) (.start r) es = some s)
    (hdone : ∀ call ∈ s.calls, call.Done) :
    s.semaphore.permits + (s.calls.map (·.bytes.toNat)).sum = bytesPerSec.toNat + s.added := by
  have hvalid := run_invariant valid_step hrun (valid_start hnew)
  have hnobody := waiters_eq_nil hvalid.sound fun call hcall ↦ (hdone call hcall).1
  have htaken : s.calls.map Call.taken = s.calls.map (·.bytes.toNat) := by
    refine List.map_congr_left fun call hcall ↦ ?_
    obtain ⟨hpc, hforgotten⟩ := hdone call hcall
    rw [Call.taken, hpc, hforgotten]
    rfl
  have hconserved := hvalid.conserved
  rw [Conserved, hnobody, htaken, hvalid.limit] at hconserved
  exact hconserved

end Arp.Common.Throttle
