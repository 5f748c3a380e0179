import Mathlib.Algebra.GroupWithZero.Nat
import Mathlib.Data.List.Nodup

/-!
# A fair semaphore

Permits are given out in the order in which they were asked for: a request that asks for more
than there are waits, and whoever comes later waits behind it, however little is asked for.

The request in front always asks for more than there are permits, so what a waiting request
still lacks (`lacks`) goes down by every permit that is added, and by nothing that others do.
-/

namespace Arp.Lib

universe u

namespace Semaphore

variable {ι : Type u}

/-- A request that waits. -/
structure Waiter (ι : Type u) where
  owner : ι
  asked : Nat
deriving DecidableEq, Repr

/-- The permits and the queue once the requests in front are granted for which there are
enough. -/
def grant : Nat → List (Waiter ι) → Nat × List (Waiter ι)
  | permits, [] => (permits, [])
  | permits, w :: ws =>
    if w.asked ≤ permits then grant (permits - w.asked) ws else (permits, w :: ws)

/-- All that is asked for. -/
def demand (ws : List (Waiter ι)) : Nat := (ws.map Waiter.asked).sum

/-- All that is asked for up to the first request of an owner, and with it. -/
def ahead [DecidableEq ι] (i : ι) : List (Waiter ι) → Nat
  | [] => 0
  | w :: ws => if w.owner = i then w.asked else w.asked + ahead i ws

variable {permits : Nat} {ws : List (Waiter ι)} {i : ι}

theorem lt_asked_of_grant : ∀ w ∈ (grant permits ws).2.head?, (grant permits ws).1 < w.asked := by
  fun_induction grant permits ws with
  | case1 permits => intro w hw; cases hw
  | case2 permits w ws henough ih => exact ih
  | case3 permits w ws hless =>
      intro w' hw'
      obtain rfl := Option.some.inj hw'
      exact Nat.lt_of_not_le hless

/-- The requests that are not granted are the last ones. -/
theorem grant_isSuffix : (grant permits ws).2 <:+ ws := by
  fun_induction grant permits ws with
  | case1 permits => exact List.suffix_rfl
  | case2 permits w ws henough ih => exact ih.trans (List.suffix_cons w ws)
  | case3 permits w ws hless => exact List.suffix_rfl

/-- Every permit stays or goes to a request. -/
theorem grant_add_demand :
    (grant permits ws).1 + demand ws = permits + demand (grant permits ws).2 := by
  fun_induction grant permits ws with
  | case1 permits => rfl
  | case2 permits w ws henough ih =>
      have hcons : demand (w :: ws) = w.asked + demand ws := List.sum_cons
      omega
  | case3 permits w ws hless => rfl

/-- A request waits exactly if what is asked for up to it is more than there is. -/
theorem mem_grant_iff [DecidableEq ι] (hnodup : (ws.map Waiter.owner).Nodup) :
    i ∈ (grant permits ws).2.map Waiter.owner ↔
      i ∈ ws.map Waiter.owner ∧ permits < ahead i ws := by
  fun_induction grant permits ws with
  | case1 permits => simp
  | case2 permits w ws henough ih =>
      rw [List.map_cons, List.nodup_cons] at hnodup
      rw [ih hnodup.2, List.map_cons, List.mem_cons, ahead]
      by_cases hi : w.owner = i
      · subst hi
        rw [if_pos rfl]
        exact iff_of_false (fun h ↦ hnodup.1 h.1) fun h ↦ absurd h.2 (Nat.not_lt.mpr henough)
      · rw [if_neg hi, or_iff_right (Ne.symm hi)]
        exact and_congr_right fun _ ↦ (by omega)
  | case3 permits w ws hless =>
      refine (and_iff_left_of_imp fun _ ↦ ?_).symm
      rw [ahead]
      split <;> omega

/-- What a request that still waits lacks is what it lacked. -/
theorem ahead_grant [DecidableEq ι] (hnodup : (ws.map Waiter.owner).Nodup)
    (hi : i ∈ (grant permits ws).2.map Waiter.owner) :
    ahead i (grant permits ws).2 + permits = ahead i ws + (grant permits ws).1 := by
  fun_induction grant permits ws with
  | case1 permits => rfl
  | case2 permits w ws henough ih =>
      rw [List.map_cons, List.nodup_cons] at hnodup
      have hne : w.owner ≠ i := by
        rintro rfl
        exact hnodup.1 ((grant_isSuffix.map _).subset hi)
      rw [ahead, if_neg hne]
      have hrest := ih hnodup.2 hi
      omega
  | case3 permits w ws hless => rfl

theorem ahead_append [DecidableEq ι] (hi : i ∈ ws.map Waiter.owner) (more : List (Waiter ι)) :
    ahead i (ws ++ more) = ahead i ws := by
  induction ws with
  | nil => cases hi
  | cons w ws ih =>
      rw [List.cons_append, ahead, ahead]
      split
      · rfl
      · next hne =>
          rw [ih ((List.mem_cons.mp hi).resolve_left (Ne.symm hne))]

theorem grant_le : (grant permits ws).1 ≤ permits := by
  fun_induction grant permits ws with
  | case1 permits => exact Nat.le_refl _
  | case2 permits w ws henough ih => exact Nat.le_trans ih (Nat.sub_le _ _)
  | case3 permits w ws hless => exact Nat.le_refl _

end Semaphore

/-- The permits nobody has, and the requests that wait for them. -/
structure Semaphore (ι : Type u) where
  permits : Nat
  waiters : List (Semaphore.Waiter ι)
  front : ∀ w ∈ waiters.head?, permits < w.asked

namespace Semaphore

variable {ι : Type u}

/-- What can be granted is. -/
def settle (permits : Nat) (waiters : List (Waiter ι)) : Semaphore ι :=
  ⟨(grant permits waiters).1, (grant permits waiters).2, lt_asked_of_grant⟩

def new (permits : Nat) : Semaphore ι := settle permits []

/-- Somebody asks for permits, and has them when it does not wait. -/
def acquire (s : Semaphore ι) (owner : ι) (asked : Nat) : Semaphore ι :=
  settle s.permits (s.waiters ++ [⟨owner, asked⟩])

/-- Permits are added. -/
def add (s : Semaphore ι) (n : Nat) : Semaphore ι := settle (s.permits + n) s.waiters

def owners (s : Semaphore ι) : List ι := s.waiters.map Waiter.owner

def Waits (s : Semaphore ι) (i : ι) : Prop := i ∈ s.owners

/-- A reading of the number of available permits.  While somebody waits, the permits that are
kept for the request in front may be left out. -/
structure Gauge (ι : Type u) where
  read : Semaphore ι → Nat
  le : ∀ s, read s ≤ s.permits
  eq_of_idle : ∀ s, s.waiters = [] → read s = s.permits

/-- The reading that leaves them all out. -/
def Gauge.unreserved : Gauge ι where
  read s := if s.waiters = [] then s.permits else 0
  le s := by split <;> omega
  eq_of_idle s hnil := if_pos hnil

variable {s : Semaphore ι} {w : Waiter ι} {i j : ι} {n asked : Nat}

/-! ## Requests -/

/-- Behind those that wait, everybody waits. -/
theorem acquire_of_ne_nil (h : s.waiters ≠ []) : (s.acquire j asked).permits = s.permits ∧
    (s.acquire j asked).waiters = s.waiters ++ [⟨j, asked⟩] := by
  obtain ⟨permits, waiters, front⟩ := s
  cases waiters with
  | nil => exact absurd rfl h
  | cons w ws =>
      have hless : ¬w.asked ≤ permits := Nat.not_le.mpr (front w rfl)
      have hgrant : grant permits (w :: ws ++ [⟨j, asked⟩]) = (permits, w :: ws ++ [⟨j, asked⟩]) :=
        if_neg hless
      exact ⟨congrArg Prod.fst hgrant, congrArg Prod.snd hgrant⟩

theorem waiters_eq_nil_of_acquire (h : (s.acquire j asked).waiters = []) : s.waiters = [] := by
  by_contra hsome
  rw [(acquire_of_ne_nil hsome).2] at h
  exact List.cons_ne_nil _ _ (List.append_eq_nil_iff.mp h).2

theorem mem_waiters_of_acquire (h : w ∈ (s.acquire j asked).waiters) :
    w ∈ s.waiters ∨ w = ⟨j, asked⟩ :=
  (List.mem_append.mp (grant_isSuffix.subset h)).imp_right List.mem_singleton.mp

theorem waits_of_acquire (h : (s.acquire j asked).Waits i) : s.Waits i ∨ i = j := by
  obtain ⟨w, hw, rfl⟩ := List.mem_map.mp h
  rcases mem_waiters_of_acquire hw with hold | rfl
  · exact .inl (List.mem_map_of_mem hold)
  · exact .inr rfl

theorem permits_acquire_le : (s.acquire j asked).permits ≤ s.permits := grant_le

theorem nodup_acquire (hnodup : s.owners.Nodup) (hj : ¬s.Waits j) :
    (s.acquire j asked).owners.Nodup := by
  have hall : ((s.waiters ++ [Waiter.mk j asked]).map Waiter.owner).Nodup := by
    rw [List.map_append]
    exact hnodup.append (List.nodup_singleton j) (List.disjoint_singleton.mpr hj)
  exact hall.sublist (grant_isSuffix.map _).sublist

theorem acquire_add_demand : (s.acquire j asked).permits + (demand s.waiters + asked) =
    s.permits + demand (s.acquire j asked).waiters := by
  have hall : (s.acquire j asked).permits + demand (s.waiters ++ [⟨j, asked⟩]) =
      s.permits + demand (s.acquire j asked).waiters := grant_add_demand
  rw [demand, List.map_append, List.sum_append] at hall
  exact hall

/-! ## Added permits -/

theorem mem_waiters_of_add (h : w ∈ (s.add n).waiters) : w ∈ s.waiters := grant_isSuffix.subset h

theorem nodup_add (hnodup : s.owners.Nodup) : (s.add n).owners.Nodup :=
  hnodup.sublist (grant_isSuffix.map _).sublist

theorem add_demand : (s.add n).permits + demand s.waiters =
    s.permits + n + demand (s.add n).waiters := grant_add_demand

/-! ## What a waiting request lacks -/

variable [DecidableEq ι]

instance (s : Semaphore ι) (i : ι) : Decidable (s.Waits i) :=
  inferInstanceAs (Decidable (i ∈ s.owners))

/-- How many permits have to be added until the request of `i` is granted. -/
def lacks (s : Semaphore ι) (i : ι) : Nat := ahead i s.waiters - s.permits

theorem permits_lt_ahead (h : s.Waits i) : s.permits < ahead i s.waiters := by
  obtain ⟨permits, waiters, front⟩ := s
  cases waiters with
  | nil => cases h
  | cons w ws =>
      have hfront := front w rfl
      show permits < ahead i (w :: ws)
      rw [ahead]
      split <;> omega

theorem lacks_pos (h : s.Waits i) : 0 < s.lacks i := Nat.sub_pos_of_lt (permits_lt_ahead h)

theorem waits_add_iff (hnodup : s.owners.Nodup) :
    (s.add n).Waits i ↔ s.Waits i ∧ n < s.lacks i := by
  refine (mem_grant_iff hnodup).trans (and_congr_right fun _ ↦ ?_)
  rw [lacks]
  omega

theorem lacks_add (hnodup : s.owners.Nodup) (h : (s.add n).Waits i) :
    (s.add n).lacks i = s.lacks i - n := by
  have hsame : ahead i (s.add n).waiters + (s.permits + n) =
    ahead i s.waiters + (s.add n).permits := ahead_grant hnodup h
  have hless := permits_lt_ahead h
  rw [lacks, lacks]
  omega

/-- Who waits is not concerned by who comes later. -/
theorem lacks_acquire (h : s.Waits i) :
    (s.acquire j asked).Waits i ∧ (s.acquire j asked).lacks i = s.lacks i := by
  have hsome : s.waiters ≠ [] := by
    intro hnil
    rw [Waits, owners, hnil] at h
    cases h
  obtain ⟨hpermits, hwaiters⟩ : (s.acquire j asked).permits = s.permits ∧
    (s.acquire j asked).waiters = s.waiters ++ [⟨j, asked⟩] := acquire_of_ne_nil hsome
  rw [Waits, owners, lacks, hpermits, hwaiters, ahead_append h]
  exact ⟨by rw [List.map_append]; exact List.mem_append_left _ h, rfl⟩

end Semaphore

end Arp.Lib
