import Mathlib.Data.Set.Basic

/-!
# One slot for many requests

Requests that share a single slot: a request is entered when the slot is empty, its
reply takes it out again, and a requester that gives up empties the slot without looking
at what is in it.  A reply is matched with whatever the slot holds.

`Sound` says when this does no harm: as long as a request is in the slot, no other
request has a reply on its way or a requester about to empty the slot.  Whatever happens
after a request was entered only drops something, so entering is the one step with
conditions of its own.
-/

namespace Arp.Lib

universe u

/-- What matters about a slot at an instant. -/
structure Slot (ι : Type u) where
  entry : Option ι
  /-- The requests a reply may still come for. -/
  flying : Set ι
  /-- The requests that were entered and whose requester still waits. -/
  waiting : Set ι
  /-- The requests whose requester is about to empty the slot. -/
  clearing : Set ι

namespace Slot

variable {ι : Type u} {slot slot' : Slot ι}

/-- A reply that comes and a requester that gives up find their own request in the slot,
if any. -/
structure Sound (slot : Slot ι) : Prop where
  flying : ∀ i ∈ slot.flying, ∀ j ∈ slot.entry, i = j
  waiting : ∀ i ∈ slot.waiting, slot.entry = some i
  clearing : ∀ i ∈ slot.clearing, ∀ j ∈ slot.entry, i = j

/-- Nothing is lost when requests leave, or when a requester that waits gives up. -/
theorem Sound.mono (h : slot.Sound) (hentry : ∀ j ∈ slot'.entry, j ∈ slot.entry)
    (hflying : slot'.flying ⊆ slot.flying)
    (hwaiting : ∀ i ∈ slot'.waiting, i ∈ slot.waiting ∧ slot'.entry = slot.entry)
    (hclearing : slot'.clearing ⊆ slot.clearing ∪ slot.waiting) : slot'.Sound where
  flying i hi j hj := h.flying i (hflying hi) j (hentry j hj)
  waiting i hi := by
    obtain ⟨hold, hsame⟩ := hwaiting i hi
    exact hsame.trans (h.waiting i hold)
  clearing i hi j hj := by
    rcases hclearing hi with hold | hwaited
    · exact h.clearing i hold j (hentry j hj)
    · exact Option.some.inj ((h.waiting i hwaited).symm.trans (hentry j hj))

/-- An empty slot is sound if nobody waits. -/
theorem sound_of_empty (hentry : slot.entry = none) (hwaiting : ∀ i, i ∉ slot.waiting) :
    slot.Sound where
  flying _ _ j hj := absurd (hentry.symm.trans hj) (Option.some_ne_none j).symm
  waiting i hi := absurd hi (hwaiting i)
  clearing _ _ j hj := absurd (hentry.symm.trans hj) (Option.some_ne_none j).symm

/-- A request may be entered when the slot is empty, no reply is on its way and nobody is
about to empty the slot. -/
theorem Sound.enter (h : slot.Sound) (hempty : slot.entry = none)
    (hflying : slot.flying = ∅) (hclearing : slot.clearing = ∅) {i : ι}
    (hentry' : slot'.entry = some i) (hflying' : slot'.flying ⊆ insert i slot.flying)
    (hwaiting' : slot'.waiting ⊆ insert i slot.waiting)
    (hclearing' : slot'.clearing ⊆ slot.clearing) : slot'.Sound where
  flying i' hi j hj := by
    rw [hflying] at hflying'
    obtain rfl : i' = i := (hflying' hi).resolve_right (Set.notMem_empty i')
    exact Option.some.inj (hentry'.symm.trans hj)
  waiting i' hi := by
    rcases hwaiting' hi with rfl | hold
    · exact hentry'
    · exact absurd ((h.waiting i' hold).symm.trans hempty) (Option.some_ne_none i')
  clearing i' hi := by
    rw [hclearing] at hclearing'
    exact absurd (hclearing' hi) (Set.notMem_empty i')

end Slot

end Arp.Lib
