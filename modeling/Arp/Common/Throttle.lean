import Arp.Lib.Machine
import Arp.Lib.Semaphore
import Arp.Lib.Table

/-!
# Throttling

A throttle lets so many bytes a second through.  The bytes are the permits of a semaphore: a
call of `consume` takes permits in turns of at most a second's worth and does not give them
back, and a task adds permits at every tick.

Any number of calls run at once, and all of them share the semaphore with the task.  The task
reads the number of permits and adds to them in two steps.  `usize` has 64 bits, as on all
targets of `build-release.sh`; the number of permits a turn asks for has 32.  Nobody closes the
semaphore, so the `Err` branch of `consume` is never taken.

Two accounts are kept along every run: what a call has taken and has still to take
(`Call.Accounts`), and where the permits of the semaphore are (`Conserved`).
-/

namespace Arp.Common

open Arp.Lib Arp.Lib.Machine

/-- `Throttle`. -/
structure Throttle where
  bytesPerSec : UInt64
  semaphore : Semaphore Nat

namespace Throttle

/-- `Semaphore::MAX_PERMITS`. -/
def maxPermits : Nat := (UInt64.size - 1) >>> 3

/-- `Throttle::new`.  `Semaphore::new` panics if it is to have too many permits. -/
def new (bytesPerSec : UInt64) : Option Throttle :=
  let burst := bytesPerSec.toNat
  if burst ≤ maxPermits then some ⟨bytesPerSec, .new burst⟩ else none

/-- What the task adds at a tick, at most. -/
def refillAmount (t : Throttle) : UInt64 := max (t.bytesPerSec / 10) 1

/-- What a turn of `consume` takes. -/
def take (t : Throttle) (remaining : UInt64) : UInt64 := min remaining t.bytesPerSec

/-- The permits it asks for: `take as u32`. -/
def asked (take : UInt64) : Nat := take.toUInt32.toNat

/-- Where the task is. -/
inductive Refill where
  /-- Before the next tick. -/
  | ticking
  /-- It has read the number of available permits. -/
  | adding (current : Nat)
  | panicked
deriving DecidableEq, Repr

/-- Where a call of `consume` is. -/
inductive Pc where
  /-- At the head of its loop. -/
  | looping
  /-- In `acquire_many`. -/
  | acquiring (take : UInt64)
  | returned
deriving DecidableEq, Repr

/-- A call of `consume`. -/
structure Call where
  bytes : UInt64
  remaining : UInt64
  pc : Pc
  /-- The permits it has forgotten. -/
  forgotten : Nat
deriving DecidableEq, Repr

/-- A throttle with its task and all calls made on it. -/
structure State extends Throttle where
  refill : Refill
  calls : List Call
  /-- The permits the task has added. -/
  added : Nat

/-- A throttle that was just made. -/
def State.start (t : Throttle) : State := ⟨t, .ticking, [], 0⟩

/-- What can happen. -/
inductive Event where
  /-- `consume` is called. -/
  | consume (bytes : UInt64)
  /-- A call goes on, if it can. -/
  | poll (i : Nat)
  /-- The task goes on. -/
  | refill
deriving DecidableEq, Repr

namespace State

/-- A call changes. -/
def setCall (s : State) (i : Nat) (call : Call) : State := { s with calls := s.calls.set i call }

/-- A call asks for its next permits, or goes on with those it has got. -/
def poll (s : State) (i : Nat) (call : Call) : State :=
  match call.pc with
  | .looping =>
    if call.remaining > 0 then
      let take := s.take call.remaining
      { s with
        semaphore := s.semaphore.acquire i (asked take)
        calls := s.calls.set i { call with pc := .acquiring take } }
    else s.setCall i { call with pc := .returned }
  | .acquiring take =>
    if s.semaphore.Waits i then s
    else s.setCall i { call with
      remaining := call.remaining - take
      pc := .looping
      forgotten := call.forgotten + asked take }
  | .returned => s

/-- What the task adds when it has read so many permits. -/
def addition (s : State) (current : Nat) : Nat :=
  min s.refillAmount.toNat (s.bytesPerSec.toNat - current)

variable (gauge : Semaphore.Gauge Nat)

/-- The task of `Throttle::new`.  `add_permits` panics if there are too many permits then. -/
def goOn (s : State) : State :=
  match s.refill with
  | .ticking => { s with refill := .adding (gauge.read s.semaphore) }
  | .adding current =>
    let add := s.addition current
    if add > 0 then
      if s.semaphore.permits + add ≤ maxPermits then
        { s with semaphore := s.semaphore.add add, refill := .ticking, added := s.added + add }
      else { s with refill := .panicked }
    else { s with refill := .ticking }
  | .panicked => s

end State

variable (gauge : Semaphore.Gauge Nat)

/-- One step. -/
def step (s : State) : Event → Option State
  | .consume bytes => some { s with calls := s.calls ++ [⟨bytes, bytes, .looping, 0⟩] }
  | .poll i => s.calls[i]?.map (s.poll i)
  | .refill => some (s.goOn gauge)

/-! ## What a step can do -/

/-- What a call does when it is polled. -/
inductive Polls (s : State) (i : Nat) (call : Call) : State → Prop
  | asks (hpc : call.pc = .looping) (hleft : call.remaining ≠ 0) : Polls s i call { s with
      semaphore := s.semaphore.acquire i (asked (s.take call.remaining))
      calls := s.calls.set i { call with pc := .acquiring (s.take call.remaining) } }
  | returns (hpc : call.pc = .looping) (hleft : call.remaining = 0) :
      Polls s i call (s.setCall i { call with pc := .returned })
  | turns (take : UInt64) (hpc : call.pc = .acquiring take) (hgot : ¬s.semaphore.Waits i) :
      Polls s i call (s.setCall i { call with
        remaining := call.remaining - take
        pc := .looping
        forgotten := call.forgotten + asked take })
  | waits (take : UInt64) (hpc : call.pc = .acquiring take) (hwaits : s.semaphore.Waits i) :
      Polls s i call s
  | rests (hpc : call.pc = .returned) : Polls s i call s

theorem polls_poll (s : State) (i : Nat) (call : Call) : Polls s i call (s.poll i call) := by
  unfold State.poll
  split
  · next hpc =>
      split
      · next hleft => exact .asks hpc (UInt64.pos_iff_ne_zero.mp hleft)
      · next hleft =>
          exact .returns hpc (Decidable.not_not.mp (mt UInt64.pos_iff_ne_zero.mpr hleft))
  · next take hpc =>
      split
      · next hwaits => exact .waits take hpc hwaits
      · next hgot => exact .turns take hpc hgot
  · next hpc => exact .rests hpc

/-- What the task does. -/
inductive Refills (s : State) : State → Prop
  | reads (hrefill : s.refill = .ticking) :
      Refills s { s with refill := .adding (gauge.read s.semaphore) }
  | adds (current : Nat) (hrefill : s.refill = .adding current) (hpos : 0 < s.addition current)
      (hfits : s.semaphore.permits + s.addition current ≤ maxPermits) :
      Refills s { s with
        semaphore := s.semaphore.add (s.addition current)
        refill := .ticking
        added := s.added + s.addition current }
  | panics (current : Nat) (hrefill : s.refill = .adding current) (hpos : 0 < s.addition current)
      (hfull : ¬s.semaphore.permits + s.addition current ≤ maxPermits) :
      Refills s { s with refill := .panicked }
  | skips (current : Nat) (hrefill : s.refill = .adding current) (hzero : s.addition current = 0) :
      Refills s { s with refill := .ticking }
  | rests (hrefill : s.refill = .panicked) : Refills s s

theorem refills_goOn (s : State) : Refills gauge s (s.goOn gauge) := by
  unfold State.goOn
  split
  · next hrefill => exact .reads hrefill
  · next current hrefill =>
      dsimp only
      split
      · next hpos =>
          split
          · next hfits => exact .adds current hrefill hpos hfits
          · next hfull => exact .panics current hrefill hpos hfull
      · next hpos => exact .skips current hrefill (Nat.eq_zero_of_not_pos hpos)
  · next hrefill => exact .rests hrefill

/-! ## Turns -/

theorem new_eq_some {bytesPerSec : UInt64} {t : Throttle} : new bytesPerSec = some t ↔
    bytesPerSec.toNat ≤ maxPermits ∧ t = ⟨bytesPerSec, .new bytesPerSec.toNat⟩ := by
  unfold new
  dsimp only
  split
  · next hsmall => rw [Option.some_inj, and_iff_right hsmall, eq_comm]
  · next hlarge => exact iff_of_false (by simp) fun h ↦ hlarge h.1

theorem toNat_take (t : Throttle) (remaining : UInt64) :
    (t.take remaining).toNat = min remaining.toNat t.bytesPerSec.toNat := UInt64.toNat_min ..

theorem asked_eq (take : UInt64) : asked take = take.toNat % UInt32.size :=
  UInt64.toNat_toUInt32 take

theorem asked_lt (take : UInt64) : asked take < UInt32.size := take.toUInt32.toNat_lt

theorem asked_le (take : UInt64) : asked take ≤ take.toNat := by
  rw [asked_eq]
  exact Nat.mod_le _ _

/-- The permits of a turn are its bytes, if these fit into 32 bits. -/
theorem asked_of_lt {take : UInt64} (h : take.toNat < UInt32.size) : asked take = take.toNat := by
  rw [asked_eq, Nat.mod_eq_of_lt h]

theorem asked_lt_of_le {take : UInt64} (h : UInt32.size ≤ take.toNat) : asked take < take.toNat :=
  (asked_lt take).trans_le h

theorem toNat_sub_take (t : Throttle) (remaining : UInt64) :
    (remaining - t.take remaining).toNat = remaining.toNat - (t.take remaining).toNat := by
  refine UInt64.toNat_sub_of_le _ _ ?_
  rw [UInt64.le_iff_toNat_le, toNat_take]
  exact Nat.min_le_left _ _

/-! ## Who waits -/

/-- Those who wait are calls in `acquire_many`, each once, and the task goes on: it never adds
more permits than there were missing. -/
structure Sound (s : State) : Prop where
  small : s.bytesPerSec.toNat ≤ maxPermits
  alive : s.refill ≠ .panicked
  nodup : s.semaphore.owners.Nodup
  waiting : ∀ w ∈ s.semaphore.waiters, ∃ (call : Call) (take : UInt64),
    s.calls[w.owner]? = some call ∧ call.pc = .acquiring take ∧ w.asked = asked take
  takes : ∀ (i : Nat) (call : Call) (take : UInt64), s.calls[i]? = some call →
    call.pc = .acquiring take → call.remaining ≠ 0 ∧ take = s.take call.remaining
  idle : ∀ current, s.refill = .adding current → s.semaphore.waiters = [] →
    s.semaphore.permits ≤ current

theorem sound_start {bytesPerSec : UInt64} {t : Throttle} (h : new bytesPerSec = some t) :
    Sound (.start t) ∧ t.bytesPerSec = bytesPerSec := by
  obtain ⟨hsmall, rfl⟩ := new_eq_some.mp h
  refine ⟨⟨hsmall, Refill.noConfusion, List.nodup_nil, ?_, ?_, ?_⟩, rfl⟩
  · exact fun w hw ↦ absurd hw List.not_mem_nil
  · exact fun i call take hcall ↦ absurd hcall (by simp [State.start])
  · exact fun current hrefill ↦ Refill.noConfusion hrefill

namespace Sound

variable {gauge : Semaphore.Gauge Nat} {s t : State} {i : Nat} {call call' : Call}

/-- A call waits only in `acquire_many`. -/
theorem acquiring_of_waits (h : Sound s) (hcall : s.calls[i]? = some call)
    (hwaits : s.semaphore.Waits i) : ∃ take, call.pc = .acquiring take := by
  obtain ⟨w, hw, rfl⟩ := List.mem_map.mp hwaits
  obtain ⟨call', take, hcall', hpc, -⟩ := h.waiting w hw
  obtain rfl := Option.some.inj (hcall.symm.trans hcall')
  exact ⟨take, hpc⟩

/-- The request in front asks for no more than a turn takes, and there are fewer permits. -/
theorem permits_lt (h : Sound s) (hsome : s.semaphore.waiters ≠ []) :
    s.semaphore.permits < UInt32.size ∧ s.semaphore.permits < s.bytesPerSec.toNat := by
  obtain ⟨w, ws, hws⟩ := List.exists_cons_of_ne_nil hsome
  have hhead : w ∈ s.semaphore.waiters.head? := by
    rw [hws]
    rfl
  have hfront := s.semaphore.front w hhead
  obtain ⟨call, take, hcall, hpc, hasked⟩ := h.waiting w (List.mem_of_mem_head? hhead)
  obtain ⟨-, rfl⟩ := h.takes w.owner call take hcall hpc
  have hlt := asked_lt (s.take call.remaining)
  have hle := asked_le (s.take call.remaining)
  rw [toNat_take] at hle
  omega

/-- A call that does not wait goes on outside `acquire_many`. -/
theorem setCall (h : Sound s) (hnot : ¬s.semaphore.Waits i)
    (hpc : ∀ take, call'.pc ≠ .acquiring take) : Sound (s.setCall i call') where
  small := h.small
  alive := h.alive
  nodup := h.nodup
  waiting w hw := by
    obtain ⟨call, take, hcall, hcallpc, hasked⟩ := h.waiting w hw
    have hne : i ≠ w.owner := by
      rintro rfl
      exact hnot (List.mem_map_of_mem hw)
    refine ⟨call, take, ?_, hcallpc, hasked⟩
    rw [State.setCall, List.getElem?_set_ne hne, hcall]
  takes j call take hcall hcallpc := by
    rcases eq_or_of_getElem?_set hcall with ⟨-, rfl⟩ | ⟨-, hold⟩
    · exact absurd hcallpc (hpc take)
    · exact h.takes j call take hold hcallpc
  idle := h.idle

/-- A call asks for permits. -/
theorem asks (h : Sound s) (hcall : s.calls[i]? = some call) (hpc : call.pc = .looping)
    (hleft : call.remaining ≠ 0) :
    Sound { s with
      semaphore := s.semaphore.acquire i (asked (s.take call.remaining))
      calls := s.calls.set i { call with pc := .acquiring (s.take call.remaining) } } := by
  have hnot : ¬s.semaphore.Waits i := by
    intro hwaits
    obtain ⟨take, hacquiring⟩ := h.acquiring_of_waits hcall hwaits
    cases hpc.symm.trans hacquiring
  have hlt : i < s.calls.length := (List.getElem?_eq_some_iff.mp hcall).1
  refine ⟨h.small, h.alive, Semaphore.nodup_acquire h.nodup hnot, fun w hw ↦ ?_,
    fun j other take hother hotherpc ↦ ?_, fun current hrefill hnil ↦ ?_⟩
  · rcases Semaphore.mem_waiters_of_acquire hw with hold | rfl
    · obtain ⟨other, take, hother, hotherpc, hasked⟩ := h.waiting w hold
      have hne : i ≠ w.owner := by
        rintro rfl
        exact hnot (List.mem_map_of_mem hold)
      exact ⟨other, take, (List.getElem?_set_ne hne).trans hother, hotherpc, hasked⟩
    · exact ⟨_, _, List.getElem?_set_self hlt, rfl, rfl⟩
  · rcases eq_or_of_getElem?_set hother with ⟨-, rfl⟩ | ⟨-, hold⟩
    · exact ⟨hleft, (Pc.acquiring.inj hotherpc).symm⟩
    · exact h.takes j other take hold hotherpc
  · have hidle := h.idle current hrefill (Semaphore.waiters_eq_nil_of_acquire hnil)
    exact Semaphore.permits_acquire_le.trans hidle

/-- The task never adds too many permits. -/
theorem fits (h : Sound s) {current : Nat} (hrefill : s.refill = .adding current)
    (hpos : 0 < s.addition current) :
    s.semaphore.permits + s.addition current ≤ maxPermits := by
  have hsmall := h.small
  unfold State.addition at hpos ⊢
  by_cases hnil : s.semaphore.waiters = []
  · have hidle := h.idle current hrefill hnil
    omega
  · have hlt := (h.permits_lt hnil).1
    have hamount : s.refillAmount.toNat = max (s.bytesPerSec.toNat / 10) 1 := by
      rw [refillAmount, UInt64.toNat_max, UInt64.toNat_div]
      rfl
    have hmax : maxPermits = 2305843009213693951 := rfl
    have hsize : UInt32.size = 4294967296 := rfl
    omega

theorem refills (h : Sound s) (hrefills : Refills gauge s t) : Sound t := by
  cases hrefills with
  | reads hrefill =>
      refine ⟨h.small, Refill.noConfusion, h.nodup, h.waiting, h.takes, fun current hread hnil ↦ ?_⟩
      rw [← Refill.adding.inj hread, gauge.eq_of_idle _ hnil]
  | adds current hrefill hpos hfits =>
      refine ⟨h.small, Refill.noConfusion, Semaphore.nodup_add h.nodup, fun w hw ↦ ?_, h.takes,
        fun current hread ↦ Refill.noConfusion hread⟩
      exact h.waiting w (Semaphore.mem_waiters_of_add hw)
  | panics current hrefill hpos hfull => exact absurd (h.fits hrefill hpos) hfull
  | skips current hrefill hzero =>
      exact ⟨h.small, Refill.noConfusion, h.nodup, h.waiting, h.takes,
        fun current hread ↦ Refill.noConfusion hread⟩
  | rests hrefill => exact h

theorem polls (h : Sound s) (hcall : s.calls[i]? = some call) (hpolls : Polls s i call t) :
    Sound t := by
  cases hpolls with
  | asks hpc hleft => exact h.asks hcall hpc hleft
  | returns hpc hleft =>
      refine h.setCall (fun hwaits ↦ ?_) fun take ↦ Pc.noConfusion
      obtain ⟨take, hacquiring⟩ := h.acquiring_of_waits hcall hwaits
      cases hpc.symm.trans hacquiring
  | turns take hpc hgot => exact h.setCall hgot fun take ↦ Pc.noConfusion
  | waits take hpc hwaits => exact h
  | rests hpc => exact h

theorem consume (h : Sound s) (bytes : UInt64) :
    Sound { s with calls := s.calls ++ [⟨bytes, bytes, .looping, 0⟩] } where
  small := h.small
  alive := h.alive
  nodup := h.nodup
  waiting w hw := by
    obtain ⟨call, take, hcall, hpc, hasked⟩ := h.waiting w hw
    refine ⟨call, take, ?_, hpc, hasked⟩
    rw [List.getElem?_append_left (List.getElem?_eq_some_iff.mp hcall).1, hcall]
  takes i call take hcall hpc := by
    rcases eq_or_of_getElem?_concat hcall with ⟨-, rfl⟩ | hold
    · cases hpc
    · exact h.takes i call take hold hpc
  idle := h.idle

end Sound

/-- Everything a step can do. -/
inductive Effect (s : State) : Event → State → Prop
  | consume (bytes : UInt64) : Effect s (.consume bytes)
      { s with calls := s.calls ++ [⟨bytes, bytes, .looping, 0⟩] }
  | poll {t : State} (i : Nat) (call : Call) (hcall : s.calls[i]? = some call)
      (hpolls : Polls s i call t) : Effect s (.poll i) t
  | refill {t : State} (hrefills : Refills gauge s t) : Effect s .refill t

variable {gauge : Semaphore.Gauge Nat} {s t : State} {e : Event} {i : Nat} {call : Call}

theorem effect_of_step (h : step gauge s e = some t) : Effect gauge s e t := by
  cases e with
  | consume bytes => exact Option.some.inj h ▸ .consume bytes
  | poll i =>
      obtain ⟨call, hcall, rfl⟩ := Option.map_eq_some_iff.mp h
      exact .poll i call hcall (polls_poll s i call)
  | refill => exact Option.some.inj h ▸ .refill (refills_goOn gauge s)

theorem sound_step (s : State) (e : Event) (t : State) (h : Sound s)
    (hstep : step gauge s e = some t) : Sound t := by
  cases effect_of_step hstep with
  | consume bytes => exact h.consume bytes
  | poll i call hcall hpolls => exact h.polls hcall hpolls
  | refill hrefills => exact h.refills hrefills

/-! ## What the calls have taken -/

/-- What a call has taken and has still to take, up to the permits it did not ask for. -/
structure Call.Accounts (bytesPerSec : UInt64) (call : Call) : Prop where
  returned : call.pc = .returned → call.remaining = 0
  stuck : bytesPerSec = 0 → call.remaining = call.bytes
  whole : bytesPerSec.toNat < UInt32.size ∨ call.bytes.toNat < UInt32.size →
    call.forgotten + call.remaining.toNat = call.bytes.toNat
  less : UInt32.size ≤ bytesPerSec.toNat → UInt32.size ≤ call.bytes.toNat →
    call.remaining = call.bytes ∧ call.forgotten = 0 ∨
      call.forgotten + call.remaining.toNat < call.bytes.toNat

/-- A turn takes what it asks for, and counts what it was to take. -/
theorem Call.Accounts.turn {r : Throttle} (h : call.Accounts r.bytesPerSec) :
    Call.Accounts r.bytesPerSec { call with
      remaining := call.remaining - r.take call.remaining
      pc := .looping
      forgotten := call.forgotten + asked (r.take call.remaining) } := by
  have hremaining := toNat_sub_take r call.remaining
  have htake := toNat_take r call.remaining
  have hle := asked_le (r.take call.remaining)
  refine ⟨Pc.noConfusion, fun hzero ↦ ?_, fun hfits ↦ ?_, fun hlarge hbytes ↦ .inr ?_⟩
  · rw [← h.stuck hzero]
    apply UInt64.toNat_inj.mp
    rw [hremaining, htake, hzero, UInt64.toNat_zero, Nat.min_zero, Nat.sub_zero]
  · dsimp only at hfits ⊢
    have hwhole := h.whole hfits
    have hasked : asked (r.take call.remaining) = (r.take call.remaining).toNat :=
      asked_of_lt (by omega)
    omega
  · dsimp only at hbytes ⊢
    rcases h.less hlarge hbytes with ⟨hfirst, hnone⟩ | hless
    · have hasked : asked (r.take call.remaining) < (r.take call.remaining).toNat :=
        asked_lt_of_le (by rw [htake, hfirst]; omega)
      have hsame : call.remaining.toNat = call.bytes.toNat := congrArg UInt64.toNat hfirst
      omega
    · omega

/-- All calls. -/
def Accounted (s : State) : Prop := ∀ call ∈ s.calls, call.Accounts s.bytesPerSec

theorem accounted_step (hs : Sound s) (h : Accounted s) (hstep : step gauge s e = some t) :
    Accounted t := by
  cases effect_of_step hstep with
  | consume bytes =>
      intro call hcall
      rcases List.mem_append.mp hcall with hold | hnew
      · exact h call hold
      · obtain rfl := List.mem_singleton.mp hnew
        exact ⟨Pc.noConfusion, fun _ ↦ rfl, fun _ ↦ Nat.zero_add _, fun _ _ ↦ .inl ⟨rfl, rfl⟩⟩
  | poll i call hcall hpolls =>
      have hold := h call (List.mem_of_getElem? hcall)
      -- Whatever the call does, the others are as they were.
      have hset : ∀ call', call'.Accounts s.bytesPerSec → ∀ other ∈ s.calls.set i call',
          other.Accounts s.bytesPerSec := by
        intro call' hcall' other hother
        rcases List.mem_or_eq_of_mem_set hother with hbefore | rfl
        · exact h other hbefore
        · exact hcall'
      cases hpolls with
      | asks hpc hleft => exact hset _ ⟨Pc.noConfusion, hold.stuck, hold.whole, hold.less⟩
      | returns hpc hleft => exact hset _ ⟨fun _ ↦ hleft, hold.stuck, hold.whole, hold.less⟩
      | turns take hpc hgot =>
          obtain ⟨-, rfl⟩ := hs.takes i call take hcall hpc
          exact hset _ hold.turn
      | waits take hpc hwaits => exact h
      | rests hpc => exact h
  | refill hrefills =>
      cases hrefills with
      | reads | adds | panics | skips | rests => exact h

/-- The permits a call has taken or asked for. -/
def Call.taken (call : Call) : Nat :=
  call.forgotten + match call.pc with
    | .acquiring take => asked take
    | .looping | .returned => 0

theorem sum_taken_set {calls : List Call} (h : calls[i]? = some call) (call' : Call) :
    ((calls.set i call').map Call.taken).sum + call.taken =
      (calls.map Call.taken).sum + call'.taken := by
  obtain ⟨rest, hold, hset⟩ := exists_perm_of_set h call'
  rw [(hset.map _).sum_nat, (hold.map _).sum_nat, List.map_cons, List.map_cons, List.sum_cons,
    List.sum_cons]
  omega

/-- No permit is lost or made up: those there are, and those the calls have taken or asked for,
are the first ones, the added ones, and those that the waiting requests lack. -/
def Conserved (s : State) : Prop :=
  s.semaphore.permits + (s.calls.map Call.taken).sum =
    s.bytesPerSec.toNat + s.added + Semaphore.demand s.semaphore.waiters

theorem conserved_start {bytesPerSec : UInt64} {r : Throttle} (h : new bytesPerSec = some r) :
    Conserved (.start r) := by
  obtain ⟨-, rfl⟩ := new_eq_some.mp h
  rfl

theorem conserved_step (h : Conserved s) (hstep : step gauge s e = some t) : Conserved t := by
  unfold Conserved at h ⊢
  cases effect_of_step hstep with
  | consume bytes =>
      rw [List.map_append, List.sum_append]
      exact h
  | poll i call hcall hpolls =>
      have hset := sum_taken_set hcall
      cases hpolls with
      | asks hpc hleft =>
          have htaken := hset { call with pc := .acquiring (s.take call.remaining) }
          have hacquire := @Semaphore.acquire_add_demand Nat s.semaphore i
            (asked (s.take call.remaining))
          simp only [Call.taken, hpc] at htaken
          simp only
          omega
      | returns hpc hleft =>
          have htaken := hset { call with pc := .returned }
          simp only [Call.taken, hpc] at htaken
          simp only [State.setCall]
          omega
      | turns take hpc hgot =>
          have htaken := hset { call with
            remaining := call.remaining - take
            pc := .looping
            forgotten := call.forgotten + asked take }
          simp only [Call.taken, hpc] at htaken
          simp only [State.setCall]
          omega
      | waits take hpc hwaits => exact h
      | rests hpc => exact h
  | refill hrefills =>
      cases hrefills with
      | adds current hrefill hpos hfits =>
          have hadd := Semaphore.add_demand (s := s.semaphore) (n := s.addition current)
          simp only
          omega
      | reads | panics | skips | rests => exact h

end Throttle

end Arp.Common
