import Arp.Lib.Vectors

/-!
# Code that could fault

Safe code that reaches outside a slice ends in a fault, and so does arithmetic that
leaves its type where overflow is checked; a loop may go on for ever.  `Checked` is
the type of what such code does, with both ways of not returning kept apart from a
value.  A program written in it says at every access what the access needs, and that
it evaluates to a value is a statement about all of them.

`loop_eq` is the rule for loops: a turn that keeps an invariant, lowers a measure and
does not change what is still to be computed.
-/

namespace Arp.Lib

universe u v w

/-- What becomes of code that could fault. -/
inductive Checked (α : Type u) where
  | value (a : α)
  /-- An access out of bounds, or an overflow where overflow is checked. -/
  | fault
  /-- A loop has not ended in the turns it was given. -/
  | unfinished
deriving DecidableEq, Repr

namespace Checked

instance : Monad Checked where
  pure := value
  bind x f :=
    match x with
    | value a => f a
    | fault => fault
    | unfinished => unfinished

@[simp] theorem value_bind {α β : Type u} (a : α) (f : α → Checked β) :
    (value a >>= f) = f a := rfl

@[simp] theorem pure_eq_value {α : Type u} (a : α) : (pure a : Checked α) = value a := rfl

/-! ## Slices -/

section Slices

variable {α : Type u} {r : List α} {i j : Nat}

/-- The element at a position: `r[i]`. -/
def index (r : List α) (i : Nat) : Checked α := r[i]?.elim fault value

/-- The elements between two positions: `&r[i..j]`. -/
def range (r : List α) (i j : Nat) : Checked (List α) :=
  if i ≤ j ∧ j ≤ r.length then value ((r.drop i).take (j - i)) else fault

theorem index_eq (h : i < r.length) : index r i = value r[i] := by
  rw [index, List.getElem?_eq_getElem h, Option.elim_some]

theorem range_eq (hij : i ≤ j) (hj : j ≤ r.length) :
    range r i j = value ((r.drop i).take (j - i)) := if_pos ⟨hij, hj⟩

end Slices

/-! ## Numbers in bytes -/

section Bytes

open Framing Vectors

variable {r : List UInt8} {pos : Nat}

/-- `u16::from_be_bytes` of two neighbouring bytes. -/
def u16At (r : List UInt8) (pos : Nat) : Checked Nat := do
  let hi ← index r pos
  let lo ← index r (pos + 1)
  return hi.toNat * 256 + lo.toNat

theorem beAt_one (h : pos < r.length) : beAt r pos 1 = r[pos].toNat := by
  rw [beAt, List.drop_eq_getElem_cons h, List.take_succ_cons, List.take_zero]
  simp [ofBE]

theorem beAt_two (h : pos + 1 < r.length) :
    beAt r pos 2 = r[pos].toNat * 256 + r[pos + 1].toNat := by
  rw [beAt, List.drop_eq_getElem_cons (by omega), List.drop_eq_getElem_cons h,
    List.take_succ_cons, List.take_succ_cons, List.take_zero]
  simp [ofBE]

theorem beAt_three (h : pos + 2 < r.length) :
    beAt r pos 3 = (r[pos].toNat * 256 + r[pos + 1].toNat) * 256 + r[pos + 2].toNat := by
  rw [beAt, List.drop_eq_getElem_cons (by omega), List.drop_eq_getElem_cons (by omega),
    List.drop_eq_getElem_cons h, List.take_succ_cons, List.take_succ_cons, List.take_succ_cons,
    List.take_zero]
  simp [ofBE]

theorem u16At_eq (h : pos + 1 < r.length) : u16At r pos = value (beAt r pos 2) := by
  rw [u16At, index_eq (by omega), index_eq h, beAt_two h]
  rfl

end Bytes

/-! ## Arithmetic

An operation on a machine integer wraps; it has overflowed if the result is not that of
the integers. -/

/-- `a - b` where overflow is checked. -/
def subI64 (a b : Int64) : Checked Int64 :=
  if (a - b).toInt = a.toInt - b.toInt then value (a - b) else fault

/-- `a.abs()` where overflow is checked. -/
def absI64 (a : Int64) : Checked Int64 :=
  if a.abs.toInt = a.toInt.natAbs then value a.abs else fault

/-- A difference fits if it lies between the bounds of the type. -/
theorem toInt_sub_eq {a b : Int64} (hlo : -9223372036854775808 ≤ a.toInt - b.toInt)
    (hhi : a.toInt - b.toInt < 9223372036854775808) : (a - b).toInt = a.toInt - b.toInt := by
  rw [Int64.toInt_sub]
  exact Int.bmod_eq_of_le hlo hhi

/-- The absolute value of every number but the least one fits. -/
theorem toInt_abs_eq {a : Int64} (h : -9223372036854775808 < a.toInt) :
    a.abs.toInt = a.toInt.natAbs := by
  have hne : a.toBitVec ≠ BitVec.intMin 64 := by
    intro heq
    have hmin : a.toInt = (BitVec.intMin 64).toInt := congrArg BitVec.toInt heq
    rw [hmin, BitVec.toInt_intMin] at h
    exact absurd h (by decide)
  change a.toBitVec.abs.toInt = a.toBitVec.toInt.natAbs
  rw [BitVec.toInt_abs_eq_natAbs, if_neg hne]

/-! ## Loops -/

section Loops

variable {σ : Type v} {β : Type v}

/-- Run a loop for a number of turns; a turn goes on with a new state or ends the loop
with a result. -/
def loop (turn : σ → Checked (σ ⊕ β)) : Nat → σ → Checked β
  | 0, _ => unfinished
  | turns + 1, s => do
    match ← turn s with
    | .inl s' => loop turn turns s'
    | .inr b => return b

/-- A loop computes `result` if every turn from a state with the invariant either ends
with it or goes on to a state with the invariant, a smaller measure and the same
result. -/
theorem loop_eq {turn : σ → Checked (σ ⊕ β)} (Inv : σ → Prop) (measure : σ → Nat)
    (result : σ → β)
    (hturn : ∀ s, Inv s → turn s = value (.inr (result s)) ∨
      ∃ s', turn s = value (.inl s') ∧ Inv s' ∧ measure s' < measure s ∧ result s' = result s)
    {turns : Nat} {s : σ} (hs : Inv s) (hturns : measure s < turns) :
    loop turn turns s = value (result s) := by
  induction turns generalizing s with
  | zero => exact absurd hturns (Nat.not_lt_zero _)
  | succ turns ih =>
      rw [loop]
      rcases hturn s hs with hend | ⟨s', hnext, hs', hless, hsame⟩
      · rw [hend]
        rfl
      · rw [hnext, value_bind]
        dsimp only
        rw [ih hs' (by omega), hsame]

end Loops

end Checked

end Arp.Lib
