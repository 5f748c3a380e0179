import Arp.Lib.Machine
import Mathlib.Data.Nat.Init
import Mathlib.Order.RelClasses
import Mathlib.Tactic.Choose

/-!
# Endless executions

Runs are finite, and say what never happens.  That something does happen is said of endless
executions in which the events that are needed come again and again.

`reaches_of_rank` is the rule for it: a rank that never rises, and falls with the event that
helps in states of this rank.  `exists_execution` makes executions from a schedule whose events
are enabled when they are due.
-/

namespace Arp.Lib.Machine

universe u v w

variable {σ : Type u} {ε : Type v} {step : σ → ε → Option σ}

variable (step) in
/-- A state and an event at every time. -/
structure Execution where
  states : Nat → σ
  events : Nat → ε
  next : ∀ n, step (states n) (events n) = some (states (n + 1))

namespace Execution

variable (x : Execution step)

/-- An event comes again and again. -/
def Recurs (e : ε) : Prop := ∀ n, ∃ m, n ≤ m ∧ x.events m = e

variable {x}

/-- What every step preserves holds at all times. -/
theorem invariant {inv : σ → Prop} (hstep : ∀ s e t, inv s → step s e = some t → inv t)
    (hstart : inv (x.states 0)) (n : Nat) : inv (x.states n) := by
  induction n with
  | zero => exact hstart
  | succ n ih => exact hstep _ _ _ ih (x.next n)

/-- The rank of a state never rises before the goal is reached, and falls with the event that
helps at this rank; so the goal is reached if all these events come again and again. -/
theorem reaches_of_rank {α : Type w} [Preorder α] [WellFoundedLT α] {goal : σ → Prop}
    (rank : σ → α) (helps : α → ε) (hrecurs : ∀ a, x.Recurs (helps a)) {n : Nat}
    (hstep : ∀ m, n ≤ m → goal (x.states (m + 1)) ∨
      rank (x.states (m + 1)) < rank (x.states m) ∨
      rank (x.states (m + 1)) = rank (x.states m) ∧ x.events m ≠ helps (rank (x.states m))) :
    ∃ m, n ≤ m ∧ goal (x.states m) := by
  induction hrank : rank (x.states n) using WellFoundedLT.induction generalizing n with
  | ind a ih =>
  by_contra hnever
  -- Whoever comes to a lower rank gets to the goal.
  have hlevel : ∀ m, n ≤ m → ¬rank (x.states m) < a := by
    intro m hm hlt
    obtain ⟨k, hk, hgoal⟩ := ih _ hlt (fun k hk ↦ hstep k (Nat.le_trans hm hk)) rfl
    exact hnever ⟨k, Nat.le_trans hm hk, hgoal⟩
  have hstays : ∀ m, n ≤ m → rank (x.states m) = a := by
    intro m hm
    induction m, hm using Nat.le_induction with
    | base => exact hrank
    | succ m hm hsame =>
        rcases hstep m hm with hgoal | hlt | ⟨heq, -⟩
        · exact absurd ⟨m + 1, Nat.le_succ_of_le hm, hgoal⟩ hnever
        · exact absurd (hsame ▸ hlt) (hlevel (m + 1) (Nat.le_succ_of_le hm))
        · exact heq.trans hsame
  obtain ⟨m, hm, hevent⟩ := hrecurs a n
  rcases hstep m hm with hgoal | hlt | ⟨-, hother⟩
  · exact hnever ⟨m + 1, Nat.le_succ_of_le hm, hgoal⟩
  · exact hlevel (m + 1) (Nat.le_succ_of_le hm) (hstays m hm ▸ hlt)
  · exact hother (hevent.trans (congrArg helps (hstays m hm).symm))

end Execution

/-- A schedule whose events are enabled when they are due has an execution. -/
theorem exists_execution {inv : Nat → σ → Prop} {events : Nat → ε}
    (henabled : ∀ n s, inv n s → ∃ t, step s (events n) = some t ∧ inv (n + 1) t) {s : σ}
    (hs : inv 0 s) : ∃ x : Execution step, x.states 0 = s ∧ x.events = events := by
  choose next hnext hinv using henabled
  let states : (n : Nat) → { s // inv n s } := fun n ↦
    n.rec ⟨s, hs⟩ fun n s ↦ ⟨next n s.1 s.2, hinv n s.1 s.2⟩
  exact ⟨⟨fun n ↦ (states n).1, events, fun n ↦ hnext n (states n).1 (states n).2⟩, rfl, rfl⟩

end Arp.Lib.Machine
