import Mathlib.Data.List.Basic

/-!
# Statements about the past

A history is the list of what has happened, oldest first.  `Since start keep` says that
at some point something happened that `start` accepts, and that `keep` has accepted
everything after it; both may look at what had happened before.

A machine that works event by event is compared with such a statement through
`since_snoc`, which says what one more event does to it.
-/

namespace Arp.Lib.History

universe u

variable {ε : Type u} {start keep : List ε → ε → Prop} {h : List ε} {e : ε}

/-- Something happened that `start` accepts, and `keep` has accepted everything since. -/
def Since (start keep : List ε → ε → Prop) (h : List ε) : Prop :=
  ∃ before e after, h = before ++ e :: after ∧ start before e ∧
    ∀ x e' y, after = x ++ e' :: y → keep (before ++ e :: x) e'

theorem not_since_nil : ¬ Since start keep [] := by
  rintro ⟨before, e, after, heq, -⟩
  simp at heq

/-- After one more event: either it starts the statement, or the statement held and the
event keeps it. -/
theorem since_snoc : Since start keep (h ++ [e]) ↔ start h e ∨ Since start keep h ∧ keep h e := by
  constructor
  · rintro ⟨before, e₀, after, heq, hstart, hkeep⟩
    rcases List.eq_nil_or_concat after with rfl | ⟨after, e', rfl⟩
    · obtain ⟨rfl, he⟩ := List.append_inj' heq rfl
      obtain rfl := List.singleton_inj.mp he
      exact .inl hstart
    · rw [List.concat_eq_append] at heq hkeep
      rw [← List.cons_append, ← List.append_assoc] at heq
      obtain ⟨rfl, he⟩ := List.append_inj' heq rfl
      obtain rfl := List.singleton_inj.mp he
      refine .inr ⟨⟨before, e₀, after, rfl, hstart, ?_⟩, hkeep after e [] rfl⟩
      intro x e' y hy
      exact hkeep x e' (y ++ [e]) (by rw [hy, List.append_assoc, List.cons_append])
  · rintro (hstart | ⟨⟨before, e₀, after, rfl, hstart, hkeep⟩, hlast⟩)
    · refine ⟨h, e, [], rfl, hstart, ?_⟩
      intro x e' y hy
      simp at hy
    · refine ⟨before, e₀, after ++ [e], by simp, hstart, ?_⟩
      intro x e' y hy
      rcases List.eq_nil_or_concat y with rfl | ⟨y, e₁, rfl⟩
      · obtain ⟨rfl, he⟩ := List.append_inj' hy rfl
        obtain rfl := List.singleton_inj.mp he
        exact hlast
      · rw [List.concat_eq_append, ← List.cons_append, ← List.append_assoc] at hy
        obtain ⟨hy, -⟩ := List.append_inj' hy rfl
        exact hkeep x e' y hy

end Arp.Lib.History
