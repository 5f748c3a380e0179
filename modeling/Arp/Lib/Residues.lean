import Mathlib.Data.Int.CardIntervalMod

/-!
# Residues of a counter

A counter that goes up by one and is read modulo `n` meets all residues equally often,
up to one.  A counter of limited size wraps round, and its size need not be a multiple
of `n`; a window over the wrap consists of two windows without one, so it is balanced up
to two.
-/

namespace Arp.Lib.Residues

variable {n i j r w : Nat}

/-- How often the residue `i` is met in a window of `w` readings from `r` on. -/
def hits (n i r w : Nat) : Nat := Nat.count (fun k ↦ (r + k) % n = i) w

theorem count_congr {p q : Nat → Prop} [DecidablePred p] [DecidablePred q] {m : Nat}
    (h : ∀ k < m, (p k ↔ q k)) : Nat.count p m = Nat.count q m :=
  le_antisymm (Nat.count_mono_left fun k hk ↦ (h k hk).mp)
    (Nat.count_mono_left fun k hk ↦ (h k hk).mpr)

/-- The readings before a number that have a given residue. -/
theorem count_mod_eq (hi : i < n) (m : Nat) :
    Nat.count (fun k ↦ k % n = i) m = m / n + if i < m % n then 1 else 0 := by
  have hcount := Nat.count_modEq_card m (Nat.zero_lt_of_lt hi) i
  rw [Nat.mod_eq_of_lt hi] at hcount
  rw [← hcount]
  simp only [Nat.ModEq, Nat.mod_eq_of_lt hi]

/-- Any two residues are met equally often, up to one. -/
theorem hits_le (hi : i < n) (hj : j < n) (r w : Nat) : hits n i r w ≤ hits n j r w + 1 := by
  have hwindow (k : Nat) (hk : k < n) : (r + w) / n + (if k < (r + w) % n then 1 else 0) =
      r / n + (if k < r % n then 1 else 0) + hits n k r w := by
    rw [← count_mod_eq hk, ← count_mod_eq hk, Nat.count_add, hits]
  have hi := hwindow i hi
  have hj := hwindow j hj
  split at hi <;> split at hi <;> split at hj <;> split at hj <;> omega

/-! ## A counter that wraps round -/

variable {size : Nat}

/-- How often the residue is met by a counter of limited size. -/
def wrappedHits (size n i r w : Nat) : Nat := Nat.count (fun k ↦ (r + k) % size % n = i) w

/-- Inside a window without a wrap, the size does not matter. -/
theorem wrappedHits_of_le (h : r + w ≤ size) : wrappedHits size n i r w = hits n i r w := by
  refine count_congr fun k hk ↦ ?_
  rw [Nat.mod_eq_of_lt (show r + k < size by omega)]

/-- A window over the wrap is a window up to it and one from 0 on. -/
theorem wrappedHits_of_wrap (hr : r ≤ size) (hlo : size ≤ r + w) (hw : w ≤ size) :
    wrappedHits size n i r w = hits n i r (size - r) + hits n i 0 (w - (size - r)) := by
  have hsplit : w = (size - r) + (w - (size - r)) := by omega
  have hrest : Nat.count (fun k ↦ (r + (size - r + k)) % size % n = i) (w - (size - r)) =
      hits n i 0 (w - (size - r)) := by
    refine count_congr fun k hk ↦ ?_
    have hwrapped : (r + (size - r + k)) % size = 0 + k := by
      rw [show r + (size - r + k) = k + size by omega, Nat.add_mod_right,
        Nat.mod_eq_of_lt (by omega), Nat.zero_add]
    rw [hwrapped]
  conv_lhs => rw [hsplit]
  rw [wrappedHits, Nat.count_add, hrest]
  exact congrArg (· + _) (wrappedHits_of_le (by omega))

/-- Any two residues are met equally often by a counter that may wrap, up to two. -/
theorem wrappedHits_le (hi : i < n) (hj : j < n) (hr : r ≤ size) (hw : w ≤ size) :
    wrappedHits size n i r w ≤ wrappedHits size n j r w + 2 := by
  by_cases hwrap : r + w ≤ size
  · rw [wrappedHits_of_le hwrap, wrappedHits_of_le hwrap]
    have := hits_le hi hj r w
    omega
  · rw [wrappedHits_of_wrap hr (by omega) hw, wrappedHits_of_wrap hr (by omega) hw]
    have hbefore := hits_le hi hj r (size - r)
    have hafter := hits_le hi hj 0 (w - (size - r))
    omega

end Arp.Lib.Residues
