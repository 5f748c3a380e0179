import Arp.Lib.History
import Arp.Lib.Machine
import Arp.Server.ProxyManager

/-!
# Choosing a backend of a TCP group

A group hands each connection to one of its backends, in turn.  A backend on which a
connection failed is left out for five seconds, unless one succeeds on it earlier.  The
code keeps a failure counter and a deadline with each backend; what is meant is a
statement about the past, `Ejected`: since the backend was last inserted it has failed
less than five seconds ago, and has not succeeded since.

The two agree in every run in which no failure counter wraps round.  A counter is reset
by a success only, and the failure that takes it from 2^32 - 1 to 0 does not eject.
-/

namespace Arp.Server

open Arp.Common Arp.Lib Arp.Lib.History

/-- `BACKEND_FAIL_THRESHOLD`. -/
def backendFailThreshold : UInt32 := 1

/-- `BACKEND_EJECT_SECS`, in the nanoseconds of an `Instant`. -/
def backendEjectNanos : Nat := 5000000000

/-- `GroupedBackendState`. -/
structure GroupedBackendState where
  snapshot : GroupedBackend
  failures : UInt32
  ejectedUntil : Option Nat
deriving DecidableEq, Repr

namespace GroupedBackendState

/-- The id of the backend. -/
def backendId (state : GroupedBackendState) : String := state.snapshot.backendId

/-- `state.ejected_until.is_some_and(|deadline| deadline > now)`. -/
def ejectedAt (state : GroupedBackendState) (now : Nat) : Bool :=
  state.ejectedUntil.any fun deadline ↦ deadline > now

theorem ejectedAt_iff {state : GroupedBackendState} {now : Nat} :
    state.ejectedAt now = true ↔ ∃ deadline ∈ state.ejectedUntil, now < deadline := by
  rw [ejectedAt, Option.any_eq_true]
  simp

/-- A deadline that has passed has passed for good. -/
theorem ejectedAt_eq_false {state : GroupedBackendState} {now later : Nat}
    (h : state.ejectedAt now = false) (hle : now ≤ later) : state.ejectedAt later = false := by
  rw [Bool.eq_false_iff] at h ⊢
  intro hlater
  obtain ⟨deadline, hdeadline, hlt⟩ := ejectedAt_iff.mp hlater
  exact h (ejectedAt_iff.mpr ⟨deadline, hdeadline, by omega⟩)

end GroupedBackendState

/-- The part of `GroupedTcpProxy` that connections are balanced with: the counter `rr` and
the backends, no two of which have the same id. -/
structure Balancer where
  rr : UInt32
  backends : List GroupedBackendState
  nodup : (backends.map GroupedBackendState.backendId).Nodup

namespace Balancer

/-- The ids of the backends. -/
def ids (b : Balancer) : List String := b.backends.map GroupedBackendState.backendId

/-- What is known of the backends besides their health. -/
def members (b : Balancer) : List GroupedBackend :=
  b.backends.map GroupedBackendState.snapshot

/-- A group without backends. -/
def new : Balancer := ⟨0, [], List.nodup_nil⟩

/-! ## The operations -/

theorem nodup_add (b : Balancer) {backend : GroupedBackend}
    (h : ¬ b.backends.any (·.backendId == backend.backendId) = true) :
    ((b.backends ++ [GroupedBackendState.mk backend 0 none]).map
      GroupedBackendState.backendId).Nodup := by
  rw [List.map_append, List.nodup_append]
  refine ⟨b.nodup, List.nodup_singleton _, ?_⟩
  intro id hid id' hid' heq
  obtain ⟨state, hstate, rfl⟩ := List.mem_map.mp hid
  rw [List.map_singleton, List.mem_singleton] at hid'
  exact h (List.any_eq_true.mpr ⟨state, hstate, beq_iff_eq.mpr (heq.trans hid')⟩)

/-- `GroupedTcpProxy::add_backend`. -/
def addBackend (b : Balancer) (backend : GroupedBackend) : Balancer :=
  if h : b.backends.any (·.backendId == backend.backendId) then b
  else { b with backends := b.backends ++ [⟨backend, 0, none⟩], nodup := b.nodup_add h }

theorem nodup_filter (b : Balancer) (p : GroupedBackendState → Bool) :
    ((b.backends.filter p).map GroupedBackendState.backendId).Nodup :=
  b.nodup.sublist (List.filter_sublist.map _)

/-- The `retain` of `GroupedTcpProxy::remove_backend`. -/
def removeBackend (b : Balancer) (backendId : String) : Balancer :=
  { b with
    backends := b.backends.filter (·.backendId != backendId)
    nodup := b.nodup_filter _ }

/-- Set the failure counter and the deadline of a backend. -/
def setHealth (health : GroupedBackendState → UInt32 × Option Nat)
    (state : GroupedBackendState) : GroupedBackendState :=
  { state with failures := (health state).1, ejectedUntil := (health state).2 }

theorem nodup_modify (b : Balancer) (i : Nat)
    (health : GroupedBackendState → UInt32 × Option Nat) :
    ((b.backends.modify i (setHealth health)).map GroupedBackendState.backendId).Nodup := by
  rw [map_modify_eq _ (setHealth health) fun _ ↦ rfl]
  exact b.nodup

/-- Change the health of the backend at an index. -/
def onHealth (b : Balancer) (i : Nat) (health : GroupedBackendState → UInt32 × Option Nat) :
    Balancer :=
  { b with
    backends := b.backends.modify i (setHealth health)
    nodup := b.nodup_modify i health }

/-- The loop of `pick_backend`: the indices from `start` on, cyclically, up to the first
backend that is not ejected. -/
def pickIndex (backends : List GroupedBackendState) (start now : Nat) : Option Nat :=
  ((List.range backends.length).map fun i ↦ (start + i) % backends.length).find? fun idx ↦
    backends[idx]?.any fun state ↦ !state.ejectedAt now

/-- `GroupedTcpProxy::pick_backend` at the time `now`. -/
def pickBackend (b : Balancer) (now : Nat) : Option GroupedBackend × Balancer :=
  if b.backends.isEmpty then (none, b)
  else
    let start := b.rr.toNat % b.backends.length
    let b := { b with rr := b.rr + 1 }
    match pickIndex b.backends start now with
    | none => (none, b)
    | some idx =>
      (b.backends[idx]?.map GroupedBackendState.snapshot,
        b.onHealth idx fun state ↦ (state.failures, none))

/-- The index of the first backend with an id. -/
def indexOf (b : Balancer) (backendId : String) : Nat :=
  b.backends.findIdx (·.backendId == backendId)

/-- `GroupedTcpProxy::mark_backend_success`. -/
def markBackendSuccess (b : Balancer) (backendId : String) : Balancer :=
  b.onHealth (b.indexOf backendId) fun _ ↦ (0, none)

/-- The counter and the deadline after a failure.  The counter wraps, as in a release
build. -/
def failed (now : Nat) (state : GroupedBackendState) : UInt32 × Option Nat :=
  (state.failures + 1,
    if state.failures + 1 ≥ backendFailThreshold then some (now + backendEjectNanos)
    else state.ejectedUntil)

/-- `GroupedTcpProxy::mark_backend_failure` at the time `now`. -/
def markBackendFailure (b : Balancer) (backendId : String) (now : Nat) : Balancer :=
  b.onHealth (b.indexOf backendId) (failed now)

/-! ## What the operations do to the backends -/

section Lemmas

variable {b : Balancer} {state : GroupedBackendState} {backendId : String} {now start i : Nat}

theorem mem_ids : backendId ∈ b.ids ↔ ∃ state ∈ b.backends, state.backendId = backendId :=
  List.mem_map

@[simp] theorem ids_onHealth (b : Balancer) (i : Nat)
    (health : GroupedBackendState → UInt32 × Option Nat) : (b.onHealth i health).ids = b.ids :=
  map_modify_eq _ (setHealth health) (fun _ ↦ rfl) b.backends i

@[simp] theorem members_onHealth (b : Balancer) (i : Nat)
    (health : GroupedBackendState → UInt32 × Option Nat) :
    (b.onHealth i health).members = b.members :=
  map_modify_eq _ (setHealth health) (fun _ ↦ rfl) b.backends i

/-- The scan goes by every backend. -/
theorem exists_add_mod_eq {n j : Nat} (hj : j < n) (start : Nat) :
    ∃ i < n, (start + i) % n = j := by
  have hpos : 0 < n := Nat.zero_lt_of_lt hj
  have hlt : start % n < n := Nat.mod_lt start hpos
  have hsplit := Nat.mod_add_div start n
  refine ⟨(n - start % n + j) % n, Nat.mod_lt _ hpos, ?_⟩
  have hsum : start + (n - start % n + j) = j + n * (start / n + 1) := by
    rw [Nat.mul_add]
    omega
  rw [Nat.add_mod_mod, hsum, Nat.add_mul_mod_self_left, Nat.mod_eq_of_lt hj]

theorem pickIndex_eq_some {backends : List GroupedBackendState}
    (h : pickIndex backends start now = some i) :
    ∃ state, backends[i]? = some state ∧ state.ejectedAt now = false := by
  have hpicked := List.find?_some h
  rw [Option.any_eq_true] at hpicked
  obtain ⟨state, hstate, hhealthy⟩ := hpicked
  exact ⟨state, hstate, by simpa using hhealthy⟩

theorem pickIndex_eq_none {backends : List GroupedBackendState}
    (h : pickIndex backends start now = none) (hstate : state ∈ backends) :
    state.ejectedAt now = true := by
  obtain ⟨j, hj, rfl⟩ := List.getElem_of_mem hstate
  obtain ⟨i, hi, hij⟩ := exists_add_mod_eq hj start
  have hskip := List.find?_eq_none.mp h j
    (List.mem_map.mpr ⟨i, List.mem_range.mpr hi, hij⟩)
  simpa [hj] using hskip

/-- A backend that is picked is not ejected. -/
theorem pickBackend_eq_some {backend : GroupedBackend}
    (h : (b.pickBackend now).1 = some backend) :
    ∃ state ∈ b.backends, state.snapshot = backend ∧ state.ejectedAt now = false := by
  rw [pickBackend] at h
  split at h
  · cases h
  · dsimp only at h
    split at h
    · cases h
    · next idx hidx =>
        obtain ⟨state, hstate, hhealthy⟩ := pickIndex_eq_some hidx
        rw [hstate] at h
        exact ⟨state, List.mem_of_getElem? hstate, Option.some.inj h, hhealthy⟩

/-- If none is picked, all are ejected. -/
theorem pickBackend_eq_none (h : (b.pickBackend now).1 = none) (hstate : state ∈ b.backends) :
    state.ejectedAt now = true := by
  rw [pickBackend] at h
  split at h
  · next hempty =>
      rw [List.isEmpty_iff.mp hempty] at hstate
      cases hstate
  · dsimp only at h
    split at h
    · next hidx => exact pickIndex_eq_none hidx hstate
    · next idx hidx =>
        obtain ⟨state, hstate, -⟩ := pickIndex_eq_some hidx
        rw [hstate] at h
        cases h

/-- The only backend is picked unless it is ejected. -/
theorem pickBackend_singleton (h : b.backends = [state]) (hhealthy : state.ejectedAt now = false) :
    (b.pickBackend now).1 = some state.snapshot := by
  cases hpick : (b.pickBackend now).1 with
  | none =>
      have hejected := pickBackend_eq_none hpick (h ▸ List.mem_singleton_self state)
      rw [hhealthy] at hejected
      cases hejected
  | some backend =>
      obtain ⟨state', hstate', rfl, -⟩ := pickBackend_eq_some hpick
      rw [h, List.mem_singleton] at hstate'
      rw [hstate']

/-- A change of health concerns the backend at the index. -/
theorem mem_onHealth {health : GroupedBackendState → UInt32 × Option Nat}
    {state' : GroupedBackendState} (h : state' ∈ (b.onHealth i health).backends) :
    ∃ j state, b.backends[j]? = some state ∧
      state' = if i = j then setHealth health state else state := by
  obtain ⟨j, hj⟩ := List.mem_iff_getElem?.mp h
  change (b.backends.modify i (setHealth health))[j]? = some state' at hj
  rw [List.getElem?_modify] at hj
  obtain ⟨state, hstate, rfl⟩ := Option.map_eq_some_iff.mp hj
  exact ⟨j, state, hstate, rfl⟩

/-- The first backend with an id is the only one. -/
theorem indexOf_eq_iff (h : b.backends[i]? = some state) :
    b.indexOf backendId = i ↔ state.backendId = backendId := by
  obtain ⟨hi, hget⟩ := List.getElem?_eq_some_iff.mp h
  constructor
  · rintro rfl
    have hfound := List.findIdx_getElem (w := hi)
    exact beq_iff_eq.mp (hget ▸ hfound)
  · intro hid
    have hlt : b.indexOf backendId < b.backends.length :=
      List.findIdx_lt_length_of_exists ⟨state, List.mem_of_getElem? h, beq_iff_eq.mpr hid⟩
    have hfound : b.backends[b.indexOf backendId].backendId = backendId :=
      beq_iff_eq.mp (List.findIdx_getElem (w := hlt))
    refine (List.getElem?_inj (by rw [List.length_map]; exact hlt) b.nodup).mp ?_
    rw [List.getElem?_map, List.getElem?_map, h, List.getElem?_eq_getElem hlt, Option.map_some,
      Option.map_some, hfound, hid]

/-- What marking a backend does to the backends. -/
theorem mem_onHealth_indexOf {health : GroupedBackendState → UInt32 × Option Nat}
    {state' : GroupedBackendState}
    (h : state' ∈ (b.onHealth (b.indexOf backendId) health).backends) :
    ∃ state ∈ b.backends,
      state' = if state.backendId = backendId then setHealth health state else state := by
  obtain ⟨j, state, hstate, rfl⟩ := mem_onHealth h
  refine ⟨state, List.mem_of_getElem? hstate, ?_⟩
  by_cases hid : state.backendId = backendId
  · rw [if_pos hid, if_pos ((indexOf_eq_iff hstate).mpr hid)]
  · rw [if_neg hid, if_neg (mt (indexOf_eq_iff hstate).mp hid)]

/-- What a pick does to the backends: at most a deadline that has passed is cleared. -/
theorem mem_pickBackend {state' : GroupedBackendState}
    (h : state' ∈ (b.pickBackend now).2.backends) :
    ∃ state ∈ b.backends, state' = state ∨ state.ejectedAt now = false ∧
      state' = { state with ejectedUntil := none } := by
  rw [pickBackend] at h
  split at h
  · exact ⟨state', h, .inl rfl⟩
  · dsimp only at h
    split at h
    · exact ⟨state', h, .inl rfl⟩
    · next idx hidx =>
        obtain ⟨j, state, hstate, rfl⟩ := mem_onHealth h
        refine ⟨state, List.mem_of_getElem? hstate, ?_⟩
        split
        · next hj =>
            obtain ⟨picked, hpicked, hhealthy⟩ := pickIndex_eq_some hidx
            subst hj
            obtain rfl : state = picked := Option.some.inj (hstate.symm.trans hpicked)
            exact .inr ⟨hhealthy, rfl⟩
        · exact .inl rfl

@[simp] theorem ids_pickBackend (b : Balancer) (now : Nat) : (b.pickBackend now).2.ids = b.ids := by
  rw [pickBackend]
  split
  · rfl
  · dsimp only
    split
    · rfl
    · exact ids_onHealth _ _ _

theorem mem_addBackend {backend : GroupedBackend}
    (h : state ∈ (b.addBackend backend).backends) :
    state ∈ b.backends ∨ state = ⟨backend, 0, none⟩ ∧ backend.backendId ∉ b.ids := by
  rw [addBackend] at h
  split at h
  · exact .inl h
  · next hnew =>
      rcases List.mem_append.mp h with hold | hadded
      · exact .inl hold
      · refine .inr ⟨List.mem_singleton.mp hadded, fun hid ↦ hnew ?_⟩
        obtain ⟨state, hstate, hid⟩ := mem_ids.mp hid
        exact List.any_eq_true.mpr ⟨state, hstate, beq_iff_eq.mpr hid⟩

theorem mem_ids_addBackend {backend : GroupedBackend} :
    backendId ∈ (b.addBackend backend).ids ↔ backendId = backend.backendId ∨ backendId ∈ b.ids := by
  rw [addBackend]
  split
  · next hany =>
      obtain ⟨state, hstate, hid⟩ := List.any_eq_true.mp hany
      refine ⟨.inr, ?_⟩
      rintro (rfl | hmem)
      · exact mem_ids.mpr ⟨state, hstate, beq_iff_eq.mp hid⟩
      · exact hmem
  · rw [ids, List.map_append, List.mem_append, or_comm, List.map_singleton, List.mem_singleton]
    rfl

theorem mem_ids_removeBackend {id : String} :
    backendId ∈ (b.removeBackend id).ids ↔ backendId ∈ b.ids ∧ backendId ≠ id := by
  simp only [mem_ids, removeBackend, List.mem_filter, bne_iff_ne]
  constructor
  · rintro ⟨state, ⟨hstate, hne⟩, rfl⟩
    exact ⟨⟨state, hstate, rfl⟩, hne⟩
  · rintro ⟨⟨state, hstate, rfl⟩, hne⟩
    exact ⟨state, ⟨hstate, hne⟩, rfl⟩

end Lemmas

end Balancer

/-! ## Calls and their history -/

/-- A call, with the clock it reads. -/
inductive Call where
  | addBackend (backend : GroupedBackend)
  | removeBackend (backendId : String)
  | pickBackend (now : Nat)
  | markBackendSuccess (backendId : String)
  | markBackendFailure (backendId : String) (now : Nat)
deriving DecidableEq, Repr

namespace Call

/-- What the clock shows at a call that reads it. -/
def reading : Call → Option Nat
  | pickBackend now | markBackendFailure _ now => some now
  | _ => none

/-- The call adds a backend with an id, which inserts it unless it is there. -/
def Adds : Call → String → Prop
  | addBackend backend, backendId => backend.backendId = backendId
  | _, _ => False

end Call

/-- The backend is a member: it was added and has not been removed since. -/
def Member (calls : List Call) (backendId : String) : Prop :=
  Since (fun _ call ↦ call.Adds backendId) (fun _ call ↦ call ≠ .removeBackend backendId) calls

/-- The backend is ejected at the time `now`: it has failed less than five seconds ago, and
since that failure it has neither succeeded nor been inserted. -/
def Ejected (calls : List Call) (backendId : String) (now : Nat) : Prop :=
  Since (fun _ call ↦ ∃ t, call = .markBackendFailure backendId t ∧ now < t + backendEjectNanos)
    (fun before call ↦ call ≠ .markBackendSuccess backendId ∧
      ¬(call.Adds backendId ∧ ¬ Member before backendId)) calls

namespace Balancer

/-- What a call does. -/
def call (b : Balancer) : Call → Balancer
  | .addBackend backend => b.addBackend backend
  | .removeBackend backendId => b.removeBackend backendId
  | .pickBackend now => (b.pickBackend now).2
  | .markBackendSuccess backendId => b.markBackendSuccess backendId
  | .markBackendFailure backendId now => b.markBackendFailure backendId now

/-- A group with the calls made on it, oldest first, and the last reading of its clock. -/
structure Run where
  balancer : Balancer
  clock : Nat
  calls : List Call

namespace Run

/-- No calls have been made. -/
def new : Run := ⟨.new, 0, []⟩

/-- One call.  The clock does not go back. -/
def step (r : Run) (c : Call) : Option Run :=
  if r.clock ≤ c.reading.getD r.clock then
    some ⟨r.balancer.call c, c.reading.getD r.clock, r.calls ++ [c]⟩
  else none

/-- Ids are distinct; from now on a pick returns a member that is not ejected, and nothing
only if all members are. -/
structure Sound (r : Run) : Prop where
  nodup : r.balancer.ids.Nodup
  picked : ∀ now, r.clock ≤ now → ∀ backend, (r.balancer.pickBackend now).1 = some backend →
    backend ∈ r.balancer.members ∧ Member r.calls backend.backendId ∧
      ¬ Ejected r.calls backend.backendId now
  none_picked : ∀ now, r.clock ≤ now → (r.balancer.pickBackend now).1 = none →
    ∀ backendId, Member r.calls backendId → Ejected r.calls backendId now

/-- No failure counter is about to wrap round. -/
def CounterFits (r : Run) : Call → Prop
  | .markBackendFailure backendId _ =>
    ∀ state ∈ r.balancer.backends, state.backendId = backendId → state.failures ≠ 4294967295
  | _ => True

instance (r : Run) : ∀ c, Decidable (CounterFits r c)
  | .markBackendFailure backendId _ => inferInstanceAs (Decidable
      (∀ state ∈ r.balancer.backends, state.backendId = backendId → state.failures ≠ 4294967295))
  | .addBackend _ | .removeBackend _ | .pickBackend _ | .markBackendSuccess _ => .isTrue trivial

/-- The counters and deadlines say what the history says. -/
structure Tracks (r : Run) : Prop where
  mem_iff : ∀ backendId, backendId ∈ r.balancer.ids ↔ Member r.calls backendId
  ejected_iff : ∀ state ∈ r.balancer.backends, ∀ now, r.clock ≤ now →
    (state.ejectedAt now = true ↔ Ejected r.calls state.backendId now)
  deadline_le : ∀ state ∈ r.balancer.backends, ∀ deadline ∈ state.ejectedUntil,
    deadline ≤ r.clock + backendEjectNanos

theorem Tracks.sound {r : Run} (h : Tracks r) : Sound r where
  nodup := r.balancer.nodup
  picked := by
    intro now hnow backend hpick
    obtain ⟨state, hstate, rfl, hhealthy⟩ := pickBackend_eq_some hpick
    refine ⟨List.mem_map_of_mem hstate,
      (h.mem_iff _).mp (mem_ids.mpr ⟨state, hstate, rfl⟩), fun hejected ↦ ?_⟩
    rw [(h.ejected_iff state hstate now hnow).mpr hejected] at hhealthy
    cases hhealthy
  none_picked := by
    intro now hnow hpick backendId hmember
    obtain ⟨state, hstate, rfl⟩ := mem_ids.mp ((h.mem_iff backendId).mpr hmember)
    exact (h.ejected_iff state hstate now hnow).mp (pickBackend_eq_none hpick hstate)

/-! ### One more call -/

section Snoc

variable {calls : List Call} {c : Call} {backendId : String} {now : Nat}

theorem member_snoc : Member (calls ++ [c]) backendId ↔
    c.Adds backendId ∨ Member calls backendId ∧ c ≠ .removeBackend backendId :=
  since_snoc

theorem ejected_snoc : Ejected (calls ++ [c]) backendId now ↔
    (∃ t, c = .markBackendFailure backendId t ∧ now < t + backendEjectNanos) ∨
      Ejected calls backendId now ∧ c ≠ .markBackendSuccess backendId ∧
        ¬(c.Adds backendId ∧ ¬ Member calls backendId) :=
  since_snoc

/-- A call that is not about a backend does not eject or readmit it. -/
theorem ejected_snoc_of_other (hfailure : ∀ t, c ≠ .markBackendFailure backendId t)
    (hsuccess : c ≠ .markBackendSuccess backendId)
    (hadds : c.Adds backendId → Member calls backendId) :
    Ejected (calls ++ [c]) backendId now ↔ Ejected calls backendId now := by
  rw [ejected_snoc]
  constructor
  · rintro (⟨t, ht, -⟩ | ⟨hejected, -⟩)
    · exact absurd ht (hfailure t)
    · exact hejected
  · intro hejected
    exact .inr ⟨hejected, hsuccess, fun ⟨hadd, hnew⟩ ↦ hnew (hadds hadd)⟩

theorem member_snoc_of_other (hadds : ¬ c.Adds backendId) (hremove : c ≠ .removeBackend backendId) :
    Member (calls ++ [c]) backendId ↔ Member calls backendId := by
  rw [member_snoc]
  constructor
  · rintro (hadd | ⟨hmember, -⟩)
    · exact absurd hadd hadds
    · exact hmember
  · intro hmember
    exact .inr ⟨hmember, hremove⟩

end Snoc

section Steps

variable {r : Run}

theorem tracks_new : Tracks .new where
  mem_iff backendId := by
    constructor
    · intro h
      cases h
    · intro h
      exact absurd h not_since_nil
  ejected_iff state hstate := by cases hstate
  deadline_le state hstate := by cases hstate

theorem tracks_addBackend (h : Tracks r) (backend : GroupedBackend) :
    Tracks ⟨r.balancer.addBackend backend, r.clock, r.calls ++ [.addBackend backend]⟩ where
  mem_iff backendId := by
    dsimp only
    rw [mem_ids_addBackend, member_snoc, h.mem_iff,
      and_iff_left (a := Member r.calls backendId) (by simp), Call.Adds, eq_comm]
  ejected_iff := by
    intro state hstate now hnow
    rcases mem_addBackend hstate with hold | ⟨rfl, hnew⟩
    · rw [h.ejected_iff state hold now hnow]
      refine (ejected_snoc_of_other (by simp) (by simp) fun _ ↦ ?_).symm
      exact (h.mem_iff _).mp (mem_ids.mpr ⟨state, hold, rfl⟩)
    · rw [ejected_snoc]
      constructor
      · intro hejected
        cases hejected
      · rintro (⟨t, ht, -⟩ | ⟨-, -, hnot⟩)
        · cases ht
        · exact absurd ⟨rfl, mt (h.mem_iff _).mpr hnew⟩ hnot
  deadline_le := by
    intro state hstate
    rcases mem_addBackend hstate with hold | ⟨rfl, -⟩
    · exact h.deadline_le state hold
    · intro deadline hdeadline
      cases hdeadline

theorem tracks_removeBackend (h : Tracks r) (removed : String) :
    Tracks ⟨r.balancer.removeBackend removed, r.clock, r.calls ++ [.removeBackend removed]⟩ where
  mem_iff backendId := by
    dsimp only
    rw [mem_ids_removeBackend, member_snoc, h.mem_iff, ne_comm]
    change _ ↔ False ∨ _
    simp
  ejected_iff := by
    intro state hstate now hnow
    rw [h.ejected_iff state (List.mem_of_mem_filter hstate) now hnow]
    exact (ejected_snoc_of_other (by simp) (by simp) False.elim).symm
  deadline_le := by
    intro state hstate
    exact h.deadline_le state (List.mem_of_mem_filter hstate)

theorem tracks_pickBackend (h : Tracks r) {now : Nat} (hnow : r.clock ≤ now) :
    Tracks ⟨(r.balancer.pickBackend now).2, now, r.calls ++ [.pickBackend now]⟩ where
  mem_iff backendId := by
    dsimp only
    rw [ids_pickBackend, h.mem_iff, member_snoc_of_other id (by simp)]
  ejected_iff := by
    intro state' hstate' later hlater
    obtain ⟨state, hstate, hpicked⟩ := mem_pickBackend hstate'
    have hsame : Ejected (r.calls ++ [.pickBackend now]) state.backendId later ↔
        Ejected r.calls state.backendId later :=
      ejected_snoc_of_other (by simp) (by simp) False.elim
    have hiff := h.ejected_iff state hstate later (hnow.trans hlater)
    rcases hpicked with rfl | ⟨hhealthy, rfl⟩
    · rw [hsame, hiff]
    · change false = true ↔ Ejected (r.calls ++ [.pickBackend now]) state.backendId later
      rw [hsame, ← hiff, GroupedBackendState.ejectedAt_eq_false hhealthy hlater]
  deadline_le := by
    intro state' hstate' deadline hdeadline
    obtain ⟨state, hstate, rfl | ⟨-, rfl⟩⟩ := mem_pickBackend hstate'
    · have := h.deadline_le _ hstate deadline hdeadline
      dsimp only
      omega
    · cases hdeadline

theorem tracks_markBackendSuccess (h : Tracks r) (marked : String) :
    Tracks ⟨r.balancer.markBackendSuccess marked, r.clock,
      r.calls ++ [.markBackendSuccess marked]⟩ where
  mem_iff backendId := by
    dsimp only
    rw [markBackendSuccess, ids_onHealth, h.mem_iff, member_snoc_of_other id (by simp)]
  ejected_iff := by
    intro state' hstate' now hnow
    obtain ⟨state, hstate, rfl⟩ := mem_onHealth_indexOf hstate'
    split
    · next hid =>
        rw [ejected_snoc]
        constructor
        · intro hejected
          cases hejected
        · rintro (⟨t, ht, -⟩ | ⟨-, hother, -⟩)
          · cases ht
          · exact absurd (congrArg Call.markBackendSuccess hid.symm) hother
    · next hid =>
        rw [h.ejected_iff state hstate now hnow]
        exact (ejected_snoc_of_other (by simp) (by simpa using Ne.symm hid) False.elim).symm
  deadline_le := by
    intro state' hstate' deadline hdeadline
    obtain ⟨state, hstate, rfl⟩ := mem_onHealth_indexOf hstate'
    split at hdeadline
    · cases hdeadline
    · exact h.deadline_le state hstate deadline hdeadline

/-- A counter that does not wrap has reached the threshold. -/
theorem threshold_le {failures : UInt32} (h : failures ≠ 4294967295) :
    failures + 1 ≥ backendFailThreshold := by
  have hne : failures.toNat ≠ 4294967295 := fun heq ↦ h (UInt32.toNat_inj.mp heq)
  have hlt := failures.toNat_lt
  change (1 : UInt32) ≤ failures + 1
  rw [UInt32.le_iff_toNat_le, UInt32.toNat_add]
  change 1 ≤ (failures.toNat + 1) % 4294967296
  omega

theorem ejectedUntil_failed {state : GroupedBackendState} (h : state.failures ≠ 4294967295)
    (now : Nat) :
    (setHealth (failed now) state).ejectedUntil = some (now + backendEjectNanos) :=
  if_pos (threshold_le h)

theorem tracks_markBackendFailure (h : Tracks r) {marked : String} {now : Nat}
    (hnow : r.clock ≤ now) (hfits : CounterFits r (.markBackendFailure marked now)) :
    Tracks ⟨r.balancer.markBackendFailure marked now, now,
      r.calls ++ [.markBackendFailure marked now]⟩ where
  mem_iff backendId := by
    dsimp only
    rw [markBackendFailure, ids_onHealth, h.mem_iff, member_snoc_of_other id (by simp)]
  ejected_iff := by
    intro state' hstate' later hlater
    obtain ⟨state, hstate, rfl⟩ := mem_onHealth_indexOf hstate'
    have hiff := h.ejected_iff state hstate later (hnow.trans hlater)
    split
    · next hid =>
        -- an earlier failure that still ejects has an earlier deadline
        have hearlier : Ejected r.calls state.backendId later →
            later < now + backendEjectNanos := by
          intro hejected
          obtain ⟨deadline, hdeadline, hlt⟩ :=
            GroupedBackendState.ejectedAt_iff.mp (hiff.mpr hejected)
          have := h.deadline_le state hstate deadline hdeadline
          omega
        rw [GroupedBackendState.ejectedAt_iff, ejectedUntil_failed (hfits state hstate hid),
          ejected_snoc]
        constructor
        · rintro ⟨deadline, hdeadline, hlt⟩
          cases hdeadline
          exact .inl ⟨now, congrArg (Call.markBackendFailure · now) hid.symm, hlt⟩
        · rintro (⟨t, ht, hlt⟩ | ⟨hejected, -, -⟩)
          · cases ht
            exact ⟨_, rfl, hlt⟩
          · exact ⟨_, rfl, hearlier hejected⟩
    · next hid =>
        rw [hiff]
        refine (ejected_snoc_of_other ?_ (by simp) False.elim).symm
        intro t ht
        cases ht
        exact hid rfl
  deadline_le := by
    intro state' hstate' deadline hdeadline
    obtain ⟨state, hstate, rfl⟩ := mem_onHealth_indexOf hstate'
    split at hdeadline
    · next hid =>
        rw [ejectedUntil_failed (hfits state hstate hid)] at hdeadline
        cases hdeadline
        exact le_rfl
    · have := h.deadline_le state hstate deadline hdeadline
      dsimp only
      omega

/-- Every call during which no counter wraps leaves the counters and deadlines in step
with the history. -/
theorem tracks_step (r : Run) (c : Call) (r' : Run) (h : Tracks r) (hfits : CounterFits r c)
    (hstep : step r c = some r') : Tracks r' := by
  rw [step, Option.ite_none_right_eq_some] at hstep
  obtain ⟨hclock, heq⟩ := hstep
  obtain rfl := Option.some.inj heq
  cases c with
  | addBackend backend => exact tracks_addBackend h backend
  | removeBackend removed => exact tracks_removeBackend h removed
  | pickBackend now => exact tracks_pickBackend h hclock
  | markBackendSuccess marked => exact tracks_markBackendSuccess h marked
  | markBackendFailure marked now => exact tracks_markBackendFailure h hclock hfits

end Steps

/-- In every run in which no failure counter wraps round, ids are distinct, only members
that are not ejected are picked, and nothing is picked only if all members are ejected. -/
theorem sound_of_counterFits {calls : List Call} {r : Run}
    (hfits : Machine.Along step CounterFits .new calls)
    (hrun : Machine.run step .new calls = some r) : Sound r :=
  (Machine.along_invariant tracks_step hfits hrun tracks_new).sound

/-- A backend of the group. -/
def web : GroupedBackend := ⟨"run-1:web", "web", 0, false, ""⟩

/-- Another backend of the group. -/
def spare : GroupedBackend := ⟨"run-2:web", "web", 1, false, ""⟩

/-- The backend that failed a second ago is passed over. -/
theorem failed_passed_over :
    ∃ r, Machine.run step .new [.addBackend web, .addBackend spare, .pickBackend 0,
        .markBackendFailure "run-1:web" 0, .pickBackend 1000000000] = some r ∧
      (r.balancer.pickBackend 1000000000).1 = some spare ∧ Sound r := by
  refine ⟨_, rfl, by decide, ?_⟩
  exact @sound_of_counterFits [.addBackend web, .addBackend spare, .pickBackend 0,
    .markBackendFailure "run-1:web" 0, .pickBackend 1000000000] _ (by decide) rfl

/-! ### A counter that wraps round -/

/-- The backend `web` is alone, has failed so many times, and has no deadline after five
seconds. -/
def Failed (failures : UInt32) (r : Run) : Prop :=
  r.clock = 0 ∧ ∃ due, r.balancer.backends = [⟨web, failures, due⟩] ∧
    ∀ deadline ∈ due, deadline = 5000000000

/-- A failure of the only backend. -/
theorem backends_markBackendFailure {b : Balancer} {failures : UInt32} {due : Option Nat}
    (h : b.backends = [⟨web, failures, due⟩]) (now : Nat) :
    (b.markBackendFailure "run-1:web" now).backends =
      [setHealth (failed now) ⟨web, failures, due⟩] := by
  change b.backends.modify (b.backends.findIdx _) _ = _
  rw [h]
  rfl

theorem failed_step {failures : UInt32} {r : Run} (h : Failed failures r) :
    ∃ r', step r (.markBackendFailure "run-1:web" 0) = some r' ∧ Failed (failures + 1) r' := by
  obtain ⟨hclock, due, hbackends, hdue⟩ := h
  refine ⟨_, if_pos hclock.le, rfl, _, backends_markBackendFailure hbackends 0, ?_⟩
  intro deadline hdeadline
  change deadline ∈ ite _ _ _ at hdeadline
  split at hdeadline
  · cases hdeadline
    rfl
  · exact hdue deadline hdeadline

theorem failed_run {failures : UInt32} {r : Run} (h : Failed failures r) (n : Nat) :
    ∃ r', Machine.run step r (List.replicate n (.markBackendFailure "run-1:web" 0)) = some r' ∧
      Failed (failures + UInt32.ofNat n) r' := by
  induction n generalizing failures r with
  | zero => exact ⟨r, rfl, by simpa using h⟩
  | succ n ih =>
      obtain ⟨r₁, hstep, h₁⟩ := failed_step h
      obtain ⟨r₂, hrun, h₂⟩ := ih h₁
      refine ⟨r₂, (Machine.run_cons_eq_some step).mpr ⟨r₁, hstep, hrun⟩, ?_⟩
      rw [UInt32.ofNat_add, UInt32.add_comm (UInt32.ofNat n), ← UInt32.add_assoc]
      exact h₂

/-- A backend fails 2^32 times and never succeeds.  The last failure, ten seconds after the
others, takes the counter to 0, and the backend is picked at once. -/
theorem wrapped_counter_readmits :
    ∃ r, Machine.run step .new (.addBackend web ::
        (List.replicate 4294967295 (.markBackendFailure "run-1:web" 0) ++
          [.markBackendFailure "run-1:web" 10000000000])) = some r ∧
      (r.balancer.pickBackend 10000000000).1 = some web ∧
      Ejected r.calls "run-1:web" 10000000000 ∧ ¬ Sound r := by
  have hadded : ∃ r, step .new (.addBackend web) = some r ∧ Failed 0 r :=
    ⟨_, rfl, rfl, none, rfl, by simp⟩
  obtain ⟨r₀, hstep, h₀⟩ := hadded
  obtain ⟨r₁, hrun, hclock, due, hbackends, hdue⟩ := failed_run h₀ 4294967295
  have hlast : step r₁ (.markBackendFailure "run-1:web" 10000000000) = some
      ⟨r₁.balancer.markBackendFailure "run-1:web" 10000000000, 10000000000,
        r₁.calls ++ [.markBackendFailure "run-1:web" 10000000000]⟩ :=
    if_pos (by rw [hclock]; exact Nat.zero_le _)
  -- the counter is 0 again, and the deadline is that of the earlier failures
  have hwrapped : (r₁.balancer.markBackendFailure "run-1:web" 10000000000).backends =
      [⟨web, 0, due⟩] := by
    have hcounter : 0 + UInt32.ofNat 4294967295 + 1 = 0 := by decide
    have hbelow : ¬(0 : UInt32) ≥ backendFailThreshold := by decide
    rw [backends_markBackendFailure hbackends, setHealth, failed, hcounter, if_neg hbelow]
  have hpick : ((r₁.balancer.markBackendFailure "run-1:web" 10000000000).pickBackend
      10000000000).1 = some web := by
    refine pickBackend_singleton hwrapped (Bool.eq_false_iff.mpr fun hejected ↦ ?_)
    obtain ⟨deadline, hdeadline, hlt⟩ := GroupedBackendState.ejectedAt_iff.mp hejected
    rw [hdue deadline hdeadline] at hlt
    exact absurd hlt (by decide)
  have hejected : Ejected (r₁.calls ++ [.markBackendFailure "run-1:web" 10000000000]) "run-1:web"
      10000000000 := ejected_snoc.mpr (.inl ⟨_, rfl, by decide⟩)
  refine ⟨⟨_, 10000000000, _⟩, ?_, hpick, hejected, ?_⟩
  · refine (Machine.run_cons_eq_some step).mpr ⟨r₀, hstep, ?_⟩
    rw [Machine.run_append, hrun, Option.bind_some, Machine.run_cons, hlast]
    rfl
  · intro hsound
    exact (hsound.picked 10000000000 le_rfl web hpick).2.2 hejected

end Run

end Balancer

end Arp.Server
