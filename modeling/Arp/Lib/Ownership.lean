import Mathlib.Data.Finset.Basic
import Mathlib.Logic.Function.Basic

/-!
# Ownership

A pool of resources handed out to holders, at most one to each.  `Owned pool own`
says that the pool is the disjoint union of what the holders own: a resource is
in the pool exactly if somebody owns it, and then exactly one holder does.

The rules say how a pool changes: a holder without a resource takes a fresh one,
a holder gives its resource back, or hands it over to another.
-/

namespace Arp.Lib

universe u v

variable {R : Type u} {H : Type v}

/-- The pool is the disjoint union of what the holders own. -/
structure Owned (pool : Finset R) (own : H → Option R) : Prop where
  mem_iff : ∀ r, r ∈ pool ↔ ∃ h, own h = some r
  unique : ∀ h h' r, own h = some r → own h' = some r → h = h'

namespace Owned

variable [DecidableEq R] [DecidableEq H] {pool : Finset R} {own : H → Option R}

omit [DecidableEq R] [DecidableEq H] in
/-- Nobody owns anything. -/
theorem empty : Owned (∅ : Finset R) fun _ : H ↦ none := by
  refine ⟨?_, ?_⟩
  · simp
  · simp

/-- A holder without a resource takes a fresh one. -/
theorem take (ho : Owned pool own) {r : R} (hr : r ∉ pool) {h : H} (hh : own h = none) :
    Owned (insert r pool) (Function.update own h (some r)) where
  mem_iff q := by
    rw [Finset.mem_insert, ho.mem_iff]
    constructor
    · rintro (rfl | ⟨x, hx⟩)
      · exact ⟨h, Function.update_self h (some q) own⟩
      · have hne : x ≠ h := by
          rintro rfl
          rw [hh] at hx
          cases hx
        exact ⟨x, by rw [Function.update_of_ne hne, hx]⟩
    · rintro ⟨x, hx⟩
      by_cases hxh : x = h
      · subst hxh
        rw [Function.update_self] at hx
        exact .inl (Option.some.inj hx).symm
      · rw [Function.update_of_ne hxh] at hx
        exact .inr ⟨x, hx⟩
  unique x y q hx hy := by
    have hfresh : ∀ z, own z ≠ some r := fun z hz ↦ hr ((ho.mem_iff r).mpr ⟨z, hz⟩)
    by_cases hxh : x = h
    · by_cases hyh : y = h
      · rw [hxh, hyh]
      · rw [hxh, Function.update_self] at hx
        rw [Function.update_of_ne hyh, ← hx] at hy
        exact absurd hy (hfresh y)
    · by_cases hyh : y = h
      · rw [hyh, Function.update_self] at hy
        rw [Function.update_of_ne hxh, ← hy] at hx
        exact absurd hx (hfresh x)
      · rw [Function.update_of_ne hxh] at hx
        rw [Function.update_of_ne hyh] at hy
        exact ho.unique x y q hx hy

/-- A holder gives its resource back. -/
theorem release (ho : Owned pool own) {r : R} {h : H} (hh : own h = some r) :
    Owned (pool.erase r) (Function.update own h none) where
  mem_iff q := by
    rw [Finset.mem_erase, ho.mem_iff]
    constructor
    · rintro ⟨hq, x, hx⟩
      have hne : x ≠ h := by
        rintro rfl
        rw [hh] at hx
        exact hq (Option.some.inj hx).symm
      exact ⟨x, by rw [Function.update_of_ne hne, hx]⟩
    · rintro ⟨x, hx⟩
      by_cases hxh : x = h
      · rw [hxh, Function.update_self] at hx
        cases hx
      · rw [Function.update_of_ne hxh] at hx
        refine ⟨fun hq ↦ hxh (ho.unique x h q hx ?_), x, hx⟩
        rw [hq, hh]
  unique x y q hx hy := by
    by_cases hxh : x = h
    · rw [hxh, Function.update_self] at hx
      cases hx
    · by_cases hyh : y = h
      · rw [hyh, Function.update_self] at hy
        cases hy
      · rw [Function.update_of_ne hxh] at hx
        rw [Function.update_of_ne hyh] at hy
        exact ho.unique x y q hx hy

/-- A holder hands its resource over to one that has none. -/
theorem handOver (ho : Owned pool own) {r : R} {h h' : H} (hh : own h = some r)
    (hh' : own h' = none) :
    Owned pool (Function.update (Function.update own h none) h' (some r)) := by
  have hne : h' ≠ h := by
    rintro rfl
    rw [hh] at hh'
    cases hh'
  have hgiven := (ho.release hh).take (Finset.notMem_erase r pool) (h := h')
    (by rw [Function.update_of_ne hne, hh'])
  rwa [Finset.insert_erase ((ho.mem_iff r).mpr ⟨h, hh⟩)] at hgiven

end Owned

end Arp.Lib
