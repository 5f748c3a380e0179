import Arp.Lib.Residues
import Arp.Server.Balancer

/-!
# Balance of the picks

While no backend is ejected and the list does not change, `pick_backend` takes the
backend at `rr % len`, and `rr` goes up by one each time, modulo 2^32.  Over any window of
at most 2^32 picks two backends are chosen equally often, up to one pick; up to two if the
counter wraps inside the window, since 2^32 need not be a multiple of the number of
backends.
-/

namespace Arp.Server.Balancer

open Arp.Common Arp.Lib

/-- A window of picks at the given times. -/
def picks : Balancer → List Nat → List (Option GroupedBackend)
  | _, [] => []
  | b, now :: nows => (b.pickBackend now).1 :: picks (b.pickBackend now).2 nows

section Healthy

variable {b : Balancer} {now : Nat} {nows : List Nat}

/-- No backend is ejected at the time. -/
def Healthy (b : Balancer) (now : Nat) : Prop := ∀ state ∈ b.backends, state.ejectedAt now = false

instance (b : Balancer) (now : Nat) : Decidable (b.Healthy now) :=
  inferInstanceAs (Decidable (∀ state ∈ b.backends, state.ejectedAt now = false))

@[simp] theorem length_members (b : Balancer) : b.members.length = b.backends.length :=
  List.length_map _

theorem pickIndex_of_healthy (hne : b.backends ≠ []) (h : b.Healthy now) (start : Nat) :
    pickIndex b.backends start now = some (start % b.backends.length) := by
  have hpos : 0 < b.backends.length := List.length_pos_iff.mpr hne
  have hlt : start % b.backends.length < b.backends.length := Nat.mod_lt start hpos
  have hfirst : (b.backends[start % b.backends.length]?.any fun state ↦ !state.ejectedAt now) =
      true := by
    rw [List.getElem?_eq_getElem hlt, Option.any_some, h _ (List.getElem_mem hlt)]
    rfl
  obtain ⟨m, hm⟩ := Nat.exists_eq_succ_of_ne_zero hpos.ne'
  rw [pickIndex, hm, List.range_succ_eq_map, List.map_cons, Nat.add_zero, ← hm]
  exact List.find?_cons_of_pos hfirst

/-- The pick of a group none of whose backends is ejected. -/
theorem pickBackend_of_healthy (hne : b.backends ≠ []) (h : b.Healthy now) :
    (b.pickBackend now).1 = b.members[b.rr.toNat % b.backends.length]? ∧
      (b.pickBackend now).2.rr = b.rr + 1 := by
  have hpick : pickIndex b.backends (b.rr.toNat % b.backends.length) now =
      some (b.rr.toNat % b.backends.length) := by
    rw [pickIndex_of_healthy hne h, Nat.mod_mod]
  rw [pickBackend, if_neg (by simpa using hne)]
  dsimp only
  rw [hpick]
  exact ⟨List.getElem?_map.symm, rfl⟩

theorem members_pickBackend (b : Balancer) (now : Nat) :
    (b.pickBackend now).2.members = b.members := by
  rw [pickBackend]
  split
  · rfl
  · dsimp only
    split
    · rfl
    · exact members_onHealth _ _ _

/-- A pick does not eject. -/
theorem Healthy.pickBackend {later : Nat} (h : b.Healthy later) (now : Nat) :
    (b.pickBackend now).2.Healthy later := by
  intro state' hstate'
  obtain ⟨state, hstate, rfl | ⟨-, rfl⟩⟩ := mem_pickBackend hstate'
  · exact h _ hstate
  · rfl

/-- The picks of a window: the counter goes through the backends. -/
theorem picks_eq (hne : b.members ≠ []) (h : ∀ now ∈ nows, b.Healthy now) :
    b.picks nows = (List.range nows.length).map fun k ↦
      b.members[(b.rr.toNat + k) % 4294967296 % b.members.length]? := by
  induction nows generalizing b with
  | nil => rfl
  | cons now nows ih =>
      obtain ⟨hnow, hnows⟩ := List.forall_mem_cons.mp h
      have hbackends : b.backends ≠ [] := fun hnil ↦ hne (by rw [members, hnil]; rfl)
      obtain ⟨hpick, hrr⟩ := pickBackend_of_healthy hbackends hnow
      have hmembers := members_pickBackend b now
      have hrest := @ih (b.pickBackend now).2 (hmembers ▸ hne)
        fun t ht ↦ (hnows t ht).pickBackend now
      rw [picks, hpick, hrest, hrr, hmembers, List.length_cons, List.range_succ_eq_map,
        List.map_cons, List.map_map]
      have hcounter (k : Nat) : ((b.rr + 1).toNat + k) % 4294967296 =
          (b.rr.toNat + (k + 1)) % 4294967296 := by
        rw [UInt32.toNat_add]
        change ((b.rr.toNat + 1) % 4294967296 + k) % 4294967296 = _
        rw [Nat.mod_add_mod, Nat.add_assoc, Nat.add_comm 1 k]
      congr 1
      · rw [Nat.add_zero, Nat.mod_eq_of_lt b.rr.toNat_lt, length_members]
      · refine List.map_congr_left fun k _ ↦ ?_
        rw [hcounter]
        rfl

end Healthy

theorem nodup_members (b : Balancer) : b.members.Nodup := by
  refine List.Nodup.of_map GroupedBackend.backendId ?_
  rw [members, List.map_map]
  exact b.nodup

/-- How often a backend is chosen in a window. -/
theorem count_picks {b : Balancer} {nows : List Nat} (h : ∀ now ∈ nows, b.Healthy now) {i : Nat}
    {backend : GroupedBackend} (hi : b.members[i]? = some backend) :
    (b.picks nows).count (some backend) =
      Residues.wrappedHits 4294967296 b.members.length i b.rr.toNat nows.length := by
  obtain ⟨hlt, hget⟩ := List.getElem?_eq_some_iff.mp hi
  have hne : b.members ≠ [] := List.ne_nil_of_length_pos (Nat.zero_lt_of_lt hlt)
  rw [picks_eq hne h, List.count_eq_countP, List.countP_map]
  refine List.countP_congr fun k _ ↦ ?_
  have hk : (b.rr.toNat + k) % 4294967296 % b.members.length < b.members.length :=
    Nat.mod_lt _ (Nat.zero_lt_of_lt hlt)
  rw [decide_eq_true_eq, Function.comp_apply, beq_iff_eq, ← hi]
  exact List.getElem?_inj hk b.nodup_members

/-- Over a window of at most 2^32 picks from a list of backends none of which is ejected,
any two are chosen equally often, up to one if the counter does not wrap and up to two if it
does. -/
theorem picks_balanced {b : Balancer} {nows : List Nat} (h : ∀ now ∈ nows, b.Healthy now)
    (hlen : nows.length ≤ 4294967296) {x y : GroupedBackend} (hx : x ∈ b.members)
    (hy : y ∈ b.members) :
    (b.rr.toNat + nows.length ≤ 4294967296 →
        (b.picks nows).count (some x) ≤ (b.picks nows).count (some y) + 1) ∧
      (b.picks nows).count (some x) ≤ (b.picks nows).count (some y) + 2 := by
  obtain ⟨i, hi⟩ := List.mem_iff_getElem?.mp hx
  obtain ⟨j, hj⟩ := List.mem_iff_getElem?.mp hy
  have hi' := (List.getElem?_eq_some_iff.mp hi).1
  have hj' := (List.getElem?_eq_some_iff.mp hj).1
  rw [count_picks h hi, count_picks h hj]
  constructor
  · intro hwrap
    rw [Residues.wrappedHits_of_le hwrap, Residues.wrappedHits_of_le hwrap]
    exact Residues.hits_le hi' hj' _ _
  · exact Residues.wrappedHits_le hi' hj' b.rr.toNat_lt.le hlen

/-- Three backends and a counter about to wrap: the first one is picked twice in a row. -/
theorem picked_twice_at_wrap :
    ∃ b : Balancer, b.members = [Run.web, Run.spare, ⟨"run-3:web", "web", 2, false, ""⟩] ∧
      b.rr = 4294967295 ∧ b.picks [0, 0] = [some Run.web, some Run.web] ∧
      (b.picks [0, 0]).count (some Run.web) ≤ (b.picks [0, 0]).count (some Run.spare) + 2 := by
  refine ⟨⟨4294967295, [⟨Run.web, 0, none⟩, ⟨Run.spare, 0, none⟩,
    ⟨⟨"run-3:web", "web", 2, false, ""⟩, 0, none⟩], by decide⟩, rfl, rfl, by decide, ?_⟩
  exact (picks_balanced (by decide) (by decide) (by decide) (by decide)).2

end Arp.Server.Balancer
