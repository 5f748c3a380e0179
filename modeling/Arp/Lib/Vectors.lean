import Arp.Lib.Framing

/-!
# Length-prefixed fields, read by position

Binary formats nest fields that carry their own length.  A parser that keeps a
position in the whole input reads such a length where it stands and moves on.

`At r pos bs` says that the bytes `bs` stand at a position of the input `r`; it
splits along concatenation (`At.append`), which is how the position of every
field of a serialization is followed without computing it.  The lemmas about
`take` say that reading up to some position does not depend on what comes after.
-/

namespace Arp.Lib.Vectors

open Arp.Lib.Framing

/-- The big-endian number in `k` bytes from a position on. -/
def beAt (r : List UInt8) (pos k : Nat) : Nat := ofBE ((r.drop pos).take k)

/-- The bytes from a position on. -/
def slice (r : List UInt8) (pos len : Nat) : List UInt8 := (r.drop pos).take len

/-- Bytes after their length, which takes `k` bytes. -/
def vec (k : Nat) (bs : List UInt8) : List UInt8 := toBE k bs.length ++ bs

/-- The position after a field whose length takes `k` bytes, whether or not the
input reaches so far. -/
def fieldEnd (r : List UInt8) (pos k : Nat) : Nat := pos + k + beAt r pos k

/-- The position after a field, if the input holds its length. -/
def skipVector (r : List UInt8) (pos k : Nat) : Option Nat :=
  if pos + k > r.length then none else some (fieldEnd r pos k)

@[simp] theorem length_vec (k : Nat) (bs : List UInt8) : (vec k bs).length = k + bs.length := by
  rw [vec, List.length_append, length_toBE]

theorem le_fieldEnd (r : List UInt8) (pos k : Nat) : pos + k ≤ fieldEnd r pos k :=
  Nat.le_add_right _ _

theorem skipVector_eq_some {r : List UInt8} {pos k q : Nat} :
    skipVector r pos k = some q ↔ pos + k ≤ r.length ∧ q = fieldEnd r pos k := by
  rw [skipVector]
  split
  · next h =>
      constructor
      · intro hq
        cases hq
      · rintro ⟨hle, -⟩
        exact absurd hle (Nat.not_le.mpr h)
  · next h =>
      rw [Option.some_inj, eq_comm, and_iff_right (Nat.not_lt.mp h)]

/-! ## Bytes at a position -/

/-- The bytes `bs` stand at position `pos`. -/
def At (r : List UInt8) (pos : Nat) (bs : List UInt8) : Prop := bs <+: r.drop pos

namespace At

variable {r bs cs : List UInt8} {pos k n : Nat}

theorem start (h : bs <+: r) : At r 0 bs := h

theorem append (h : At r pos (bs ++ cs)) : At r pos bs ∧ At r (pos + bs.length) cs := by
  obtain ⟨t, ht⟩ := h
  refine ⟨⟨cs ++ t, ?_⟩, ⟨t, ?_⟩⟩
  · rw [← ht, List.append_assoc]
  · rw [← List.drop_drop, ← ht, List.append_assoc, List.drop_left]

theorem slice_eq (h : At r pos bs) : slice r pos bs.length = bs := by
  obtain ⟨t, ht⟩ := h
  rw [slice, ← ht, List.take_left]

theorem beAt_eq (h : At r pos (toBE k n)) (hn : n < 256 ^ k) : beAt r pos k = n := by
  have hs := h.slice_eq
  rw [length_toBE] at hs
  rw [beAt]
  change ofBE (slice r pos k) = n
  rw [hs, ofBE_toBE hn]

theorem beAt_byte {b : UInt8} (h : At r pos [b]) : beAt r pos 1 = b.toNat := by
  change ofBE (slice r pos [b].length) = b.toNat
  rw [h.slice_eq, ofBE, List.foldl_cons, List.foldl_nil, Nat.zero_mul, Nat.zero_add]

theorem length_le (h : At r pos bs) (hne : bs ≠ []) : pos + bs.length ≤ r.length := by
  have hlen := List.IsPrefix.length_le h
  have hpos := List.length_pos_iff.mpr hne
  rw [List.length_drop] at hlen
  omega

theorem fieldEnd_eq (h : At r pos (vec k bs)) (hk : bs.length < 256 ^ k) :
    fieldEnd r pos k = pos + (vec k bs).length := by
  rw [fieldEnd, h.append.1.beAt_eq hk, length_vec, Nat.add_assoc]

theorem skipVector_eq (h : At r pos (vec k bs)) (hpos : 0 < k) (hk : bs.length < 256 ^ k) :
    skipVector r pos k = some (pos + (vec k bs).length) := by
  have hne : vec k bs ≠ [] := by
    intro hnil
    have hlen := congrArg List.length hnil
    rw [length_vec, List.length_nil] at hlen
    omega
  have hle := h.length_le hne
  rw [length_vec] at hle
  rw [skipVector, if_neg (by omega), h.fieldEnd_eq hk]

end At

/-! ## Cutting the input off -/

theorem slice_take {r : List UInt8} {pos len n : Nat} (h : pos + len ≤ n) :
    slice (r.take n) pos len = slice r pos len := by
  rw [slice, slice, List.drop_take, List.take_take, Nat.min_eq_left (by omega)]

theorem beAt_take {r : List UInt8} {pos k n : Nat} (h : pos + k ≤ n) :
    beAt (r.take n) pos k = beAt r pos k :=
  congrArg ofBE (slice_take h)

theorem fieldEnd_take {r : List UInt8} {pos k n : Nat} (h : pos + k ≤ n) :
    fieldEnd (r.take n) pos k = fieldEnd r pos k := by
  rw [fieldEnd, fieldEnd, beAt_take h]

end Arp.Lib.Vectors
