import Mathlib.Data.List.AList
import Mathlib.Data.List.Perm.Subperm
import Mathlib.Data.List.Sort

/-!
# Tables and vectors

A concurrent hash map is read as a finite table: an association list with
distinct keys.  The order of its entries stands for nothing, and code whose
result depends on the order in which a map is walked takes that order as an
argument.

The vector functions are those of the source's standard library that have no
direct counterpart here.
-/

namespace Arp.Lib

universe u v

/-- A finite table from keys to values. -/
abbrev Table (K : Type u) (V : Type v) := AList fun _ : K ↦ V

namespace Table

variable {K : Type u} {V : Type v} [DecidableEq K]

/-- What a table holds after an insertion. -/
theorem lookup_insert_ite (t : Table K V) (k k' : K) (v : V) :
    (t.insert k v).lookup k' = if k' = k then some v else t.lookup k' := by
  split
  · next h => subst h; exact AList.lookup_insert t
  · next h => exact AList.lookup_insert_ne h

/-- What a table holds after a removal. -/
theorem lookup_erase_ite (t : Table K V) (k k' : K) :
    (t.erase k).lookup k' = if k' = k then none else t.lookup k' := by
  split
  · next h => subst h; exact AList.lookup_erase k' t
  · next h => exact AList.lookup_erase_ne h

/-- A key is present exactly when it is looked up to something. -/
theorem mem_iff_lookup {t : Table K V} {k : K} : k ∈ t ↔ ∃ v, t.lookup k = some v := by
  rw [← AList.lookup_isSome, Option.isSome_iff_exists]

theorem mem_of_lookup {t : Table K V} {k : K} {v : V} (h : t.lookup k = some v) : k ∈ t :=
  mem_iff_lookup.mpr ⟨v, h⟩

end Table

/-! ## Vectors -/

/-- What stands at a place after an element was replaced. -/
theorem eq_or_of_getElem?_set {α : Type u} {l : List α} {i j : Nat} {a x : α}
    (h : (l.set i a)[j]? = some x) : j = i ∧ x = a ∨ j ≠ i ∧ l[j]? = some x := by
  by_cases hij : j = i
  · subst hij
    have hlt : j < l.length := by
      simpa using (List.getElem?_eq_some_iff.mp h).1
    rw [List.getElem?_set_self hlt] at h
    exact .inl ⟨rfl, (Option.some.inj h).symm⟩
  · rw [List.getElem?_set_ne (Ne.symm hij)] at h
    exact .inr ⟨hij, h⟩

/-- What stands at a place after an element was pushed. -/
theorem eq_or_of_getElem?_concat {α : Type u} {l : List α} {j : Nat} {a x : α}
    (h : (l ++ [a])[j]? = some x) : j = l.length ∧ x = a ∨ l[j]? = some x := by
  rcases lt_trichotomy j l.length with hlt | rfl | hgt
  · rw [List.getElem?_append_left hlt] at h
    exact .inr h
  · rw [List.getElem?_concat_length] at h
    exact .inl ⟨rfl, (Option.some.inj h).symm⟩
  · rw [List.getElem?_eq_none (by rw [List.length_append]; exact hgt)] at h
    cases h

/-- What a beginning that ends in `a` is once `b` was pushed. -/
theorem eq_or_of_concat_isPrefix {α : Type u} {l l' : List α} {a b : α}
    (h : l ++ [a] <+: l' ++ [b]) : l = l' ∧ a = b ∨ l ++ [a] <+: l' := by
  rcases List.prefix_concat_iff.mp h with heq | hold
  · obtain ⟨hl, hlast⟩ := List.append_inj' heq rfl
    exact .inl ⟨hl, (List.cons.inj hlast).1⟩
  · exact .inr hold

/-- Distinct places whose elements have a property are at most as many as there are such
elements. -/
theorem length_le_countP {α : Type u} {l : List α} {p : α → Bool} {places : List Nat}
    (hnodup : places.Nodup) (h : ∀ i ∈ places, ∃ a, l[i]? = some a ∧ p a = true) :
    places.length ≤ l.countP p := by
  have hsub : places ⊆ (l.zipIdx.filter fun x ↦ p x.1).map Prod.snd := by
    intro i hi
    obtain ⟨a, ha, hp⟩ := h i hi
    refine List.mem_map.mpr ⟨(a, i), List.mem_filter.mpr ⟨?_, hp⟩, rfl⟩
    exact List.mem_zipIdx_iff_getElem?.mpr ha
  calc places.length ≤ ((l.zipIdx.filter fun x ↦ p x.1).map Prod.snd).length :=
        (hnodup.subperm hsub).length_le
    _ = (l.zipIdx.map Prod.fst).countP p := by
        rw [List.length_map, ← List.countP_eq_length_filter, List.countP_map]
        rfl
    _ = l.countP p := by rw [List.zipIdx_map_fst]

/-- Up to their order, the elements before and after one was replaced. -/
theorem exists_perm_of_set {α : Type u} {l : List α} {i : Nat} {a : α} (h : l[i]? = some a)
    (b : α) : ∃ rest, l.Perm (a :: rest) ∧ (l.set i b).Perm (b :: rest) := by
  obtain ⟨hlt, rfl⟩ := List.getElem?_eq_some_iff.mp h
  exact ⟨l.eraseIdx i, (List.getElem_cons_eraseIdx_perm hlt).symm,
    List.set_perm_cons_eraseIdx hlt b⟩

/-- How many elements have a property after one was replaced. -/
theorem countP_set_add {α : Type u} {l : List α} {i : Nat} {a b : α} (h : l[i]? = some a)
    (p : α → Bool) :
    (l.set i b).countP p + (if p a then 1 else 0) = l.countP p + (if p b then 1 else 0) := by
  obtain ⟨rest, hold, hset⟩ := exists_perm_of_set h b
  rw [hset.countP_eq, hold.countP_eq, List.countP_cons, List.countP_cons]
  omega

/-- Modifying the element that was just pushed. -/
theorem modify_length_append {α : Type u} (l : List α) (a : α) (f : α → α) :
    (l ++ [a]).modify l.length f = l ++ [f a] := by
  simp [List.modify_eq_take_drop]

/-- What a modification does not touch is as before. -/
theorem map_modify_eq {α : Type u} {β : Type v} (g : α → β) (f : α → α)
    (h : ∀ a, g (f a) = g a) (l : List α) (i : Nat) : (l.modify i f).map g = l.map g := by
  induction l generalizing i with
  | nil => rw [List.modify_nil]
  | cons a l ih =>
      cases i with
      | zero => rw [List.modify_zero_cons, List.map_cons, h, List.map_cons]
      | succ i => rw [List.modify_succ_cons, List.map_cons, ih, List.map_cons]

/-- Setting an element to one that looks the same. -/
theorem map_set_eq {α : Type u} {β : Type v} {g : α → β} {l : List α} {i : Nat} {a b : α}
    (hb : l[i]? = some b) (h : g a = g b) : (l.set i a).map g = l.map g := by
  apply List.ext_getElem?
  intro j
  rw [List.getElem?_map, List.getElem?_map, List.getElem?_set]
  split
  · next hij =>
      subst hij
      rw [if_pos (List.getElem?_eq_some_iff.mp hb).1, hb, Option.map_some, Option.map_some, h]
  · rfl

/-- A modified list has old elements and modified ones. -/
theorem forall_mem_modify {α : Type u} {P : α → Prop} {f : α → α} {l : List α}
    (h : ∀ a ∈ l, P a) (hf : ∀ a, P a → P (f a)) (i : Nat) : ∀ a ∈ l.modify i f, P a := by
  induction l generalizing i with
  | nil => simp
  | cons a l ih =>
      rw [List.forall_mem_cons] at h
      cases i with
      | zero =>
          rw [List.modify_zero_cons, List.forall_mem_cons]
          exact ⟨hf a h.1, h.2⟩
      | succ i =>
          rw [List.modify_succ_cons, List.forall_mem_cons]
          exact ⟨h.1, ih h.2 i⟩

/-- `Vec::dedup`: drop every element equal to its successor. -/
def dedupAdjacent {α : Type u} [DecidableEq α] : List α → List α
  | [] => []
  | [x] => [x]
  | x :: y :: l => if x = y then dedupAdjacent (y :: l) else x :: dedupAdjacent (y :: l)

@[simp] theorem mem_dedupAdjacent {α : Type u} [DecidableEq α] {l : List α} {a : α} :
    a ∈ dedupAdjacent l ↔ a ∈ l := by
  fun_induction dedupAdjacent l with
  | case1 => rfl
  | case2 => rfl
  | case3 x l ih => simp [ih]
  | case4 x y l hne ih => simp [ih]

end Arp.Lib
