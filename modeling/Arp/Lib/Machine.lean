import Mathlib.Data.Option.Basic

/-!
# Machines

A machine is a partial transition function: an event either is not enabled in a
state or takes it to the next one.  A run is a list of events; `Along` says that
a condition on the state before each event holds throughout a run.

The two rules `run_invariant` and `along_invariant` are all a safety proof needs:
what one step preserves, every run preserves.  With `along_iff_reached` a condition is also
seen to be the right one.  `each` runs any number of copies of a
machine side by side, and `each_invariant` is the rule for them.
-/

namespace Arp.Lib.Machine

universe u v

variable {σ : Type u} {ε : Type v} (step : σ → ε → Option σ)

/-- The state a run leads to, if all its events are enabled in turn. -/
def run : σ → List ε → Option σ
  | s, [] => some s
  | s, e :: es => (step s e).bind fun t ↦ run t es

/-- The condition `ok` holds of every event of a run and the state before it. -/
def Along (ok : σ → ε → Prop) : σ → List ε → Prop
  | _, [] => True
  | s, e :: es => ok s e ∧ ∀ t, step s e = some t → Along ok t es

/-- The condition of a run can be checked by running it. -/
instance decidableAlong (ok : σ → ε → Prop) [∀ s e, Decidable (ok s e)] :
    ∀ s es, Decidable (Along step ok s es)
  | _, [] => .isTrue trivial
  | s, e :: es =>
    match h : step s e with
    | none => decidable_of_iff (ok s e) (by simp [Along, h])
    | some t =>
      have := decidableAlong ok t es
      decidable_of_iff (ok s e ∧ Along step ok t es) (by simp [Along, h])

@[simp] theorem run_nil (s : σ) : run step s [] = some s := rfl

theorem run_cons (s : σ) (e : ε) (es : List ε) :
    run step s (e :: es) = (step s e).bind fun t ↦ run step t es := rfl

/-- A run of a non-empty list starts with an enabled event. -/
theorem run_cons_eq_some {s t : σ} {e : ε} {es : List ε} :
    run step s (e :: es) = some t ↔ ∃ r, step s e = some r ∧ run step r es = some t := by
  rw [run_cons, Option.bind_eq_some_iff]

/-- A run can be cut anywhere. -/
theorem run_append (s : σ) (es fs : List ε) :
    run step s (es ++ fs) = (run step s es).bind fun t ↦ run step t fs := by
  induction es generalizing s with
  | nil => rfl
  | cons e es ih =>
      rw [List.cons_append, run_cons, run_cons, Option.bind_assoc]
      exact congrArg _ (funext ih)

variable {step}

/-- Where a run leads, from a value that can be computed of the state. -/
theorem exists_run {β : Type*} (f : σ → β) (b : β) {p : σ → Prop} {s : σ} {es : List ε}
    (h : (run step s es).map f = some b) (hp : ∀ t, run step s es = some t → f t = b → p t) :
    ∃ t, run step s es = some t ∧ p t := by
  obtain ⟨t, ht, hb⟩ := Option.map_eq_some_iff.mp h
  exact ⟨t, ht, hp t ht hb⟩

/-- A condition on events alone. -/
theorem along_of_forall {ok : ε → Prop} {s : σ} {es : List ε} (h : ∀ e ∈ es, ok e) :
    Along step (fun _ e ↦ ok e) s es := by
  induction es generalizing s with
  | nil => exact trivial
  | cons e es ih =>
      rw [List.forall_mem_cons] at h
      exact ⟨h.1, fun t _ ↦ ih h.2⟩

/-- The other way around, the run has to get to its end. -/
theorem along_iff_forall {ok : ε → Prop} {s t : σ} {es : List ε} (hrun : run step s es = some t) :
    Along step (fun _ e ↦ ok e) s es ↔ ∀ e ∈ es, ok e := by
  refine ⟨fun h ↦ ?_, along_of_forall⟩
  induction es generalizing s with
  | nil => exact List.forall_mem_nil ok
  | cons e es ih =>
      obtain ⟨r, hr, hrest⟩ := (run_cons_eq_some step).mp hrun
      exact List.forall_mem_cons.mpr ⟨h.1, ih hrest (h.2 r hr)⟩

/-- What every step preserves, every run preserves. -/
theorem run_invariant {inv : σ → Prop}
    (hstep : ∀ s e t, inv s → step s e = some t → inv t) {s t : σ} {es : List ε}
    (hrun : run step s es = some t) (hs : inv s) : inv t := by
  induction es generalizing s with
  | nil => exact Option.some.inj hrun ▸ hs
  | cons e es ih =>
      obtain ⟨r, hr, hrest⟩ := (run_cons_eq_some step).mp hrun
      exact ih hrest (hstep s e r hs hr)

/-- What every step that meets a condition preserves, every run preserves whose
steps all meet it. -/
theorem along_invariant {ok : σ → ε → Prop} {inv : σ → Prop}
    (hstep : ∀ s e t, inv s → ok s e → step s e = some t → inv t) {s t : σ} {es : List ε}
    (hok : Along step ok s es) (hrun : run step s es = some t) (hs : inv s) : inv t := by
  induction es generalizing s with
  | nil => exact Option.some.inj hrun ▸ hs
  | cons e es ih =>
      obtain ⟨r, hr, hrest⟩ := (run_cons_eq_some step).mp hrun
      exact ih (hok.2 r hr) hrest (hstep s e r hs hok.1 hr)

/-- If a step from a good state leads to a good state exactly when it meets a condition, a
run goes through good states only exactly when all its steps meet it. -/
theorem along_iff_reached {ok : σ → ε → Prop} {inv good : σ → Prop}
    (hstep : ∀ s e t, inv s → step s e = some t → inv t)
    (hgood : ∀ s e t, inv s → good s → step s e = some t → (good t ↔ ok s e))
    {s t : σ} {es : List ε} (hrun : run step s es = some t) (hinv : inv s) (hs : good s) :
    Along step ok s es ↔ ∀ fs r, fs <+: es → run step s fs = some r → good r := by
  induction es generalizing s with
  | nil =>
      refine ⟨fun _ fs r hfs hr ↦ ?_, fun _ ↦ trivial⟩
      obtain rfl := List.prefix_nil.mp hfs
      exact Option.some.inj hr ▸ hs
  | cons e es ih =>
      obtain ⟨r, hr, hrest⟩ := (run_cons_eq_some step).mp hrun
      have hnext := hgood s e r hinv hs hr
      constructor
      · rintro ⟨hok, halong⟩ fs q hfs hq
        cases fs with
        | nil => exact Option.some.inj hq ▸ hs
        | cons f fs =>
            obtain ⟨rfl, hrestfs⟩ := List.cons_prefix_cons.mp hfs
            rw [run_cons, hr, Option.bind_some] at hq
            exact (ih hrest (hstep s f r hinv hr) (hnext.mpr hok)).mp (halong r hr) fs q hrestfs hq
      · intro hall
        have hr' : good r := by
          refine hall [e] r (List.cons_prefix_cons.mpr ⟨rfl, List.nil_prefix⟩) ?_
          rw [run_cons, hr, Option.bind_some, run_nil]
        refine ⟨hnext.mp hr', fun q hq ↦ ?_⟩
        obtain rfl := Option.some.inj (hr.symm.trans hq)
        refine (ih hrest (hstep s e r hinv hr) hr').mpr fun fs q hfs hq ↦ ?_
        refine hall (e :: fs) q (List.cons_prefix_cons.mpr ⟨rfl, hfs⟩) ?_
        rw [run_cons, hr, Option.bind_some, hq]

/-! ## Many machines -/

variable (step) in
/-- Any number of machines side by side: an event adds one, or is an event of the one
at an index. -/
def each (new : σ) (ss : List σ) : Option (Nat × ε) → Option (List σ)
  | none => some (ss ++ [new])
  | some (i, e) => (ss[i]?).bind fun s ↦ (step s e).map fun t ↦ ss.set i t

/-- A condition on the events of the single machines. -/
def EachOk (ok : σ → ε → Prop) (ss : List σ) : Option (Nat × ε) → Prop
  | none => True
  | some (i, e) => ∀ s ∈ ss[i]?, ok s e

instance (ok : σ → ε → Prop) [∀ s e, Decidable (ok s e)] (ss : List σ) :
    ∀ e, Decidable (EachOk ok ss e)
  | none => .isTrue trivial
  | some (i, e) => inferInstanceAs (Decidable (∀ s ∈ ss[i]?, ok s e))

/-- What holds of a new machine and is preserved by every step of one, holds of all. -/
theorem each_invariant {ok : σ → ε → Prop} {inv : σ → Prop} {new : σ}
    (hstep : ∀ s e t, inv s → ok s e → step s e = some t → inv t) (hnew : inv new)
    {ss : List σ} {es : List (Option (Nat × ε))}
    (hok : Along (each step new) (EachOk ok) [] es) (hrun : run (each step new) [] es = some ss) :
    ∀ s ∈ ss, inv s := by
  have hall : ∀ (ss : List σ) (e : Option (Nat × ε)) (ss' : List σ), (∀ s ∈ ss, inv s) →
      EachOk ok ss e → each step new ss e = some ss' → ∀ s ∈ ss', inv s := by
    intro ss e ss' hinv hok hss'
    cases e with
    | none =>
        obtain rfl := Option.some.inj hss'
        intro s hs
        rcases List.mem_append.mp hs with hold | hadded
        · exact hinv s hold
        · exact List.mem_singleton.mp hadded ▸ hnew
    | some ie =>
        obtain ⟨i, e⟩ := ie
        obtain ⟨s, hs, hstep'⟩ := Option.bind_eq_some_iff.mp hss'
        obtain ⟨t, ht, rfl⟩ := Option.map_eq_some_iff.mp hstep'
        intro r hr
        rcases List.mem_or_eq_of_mem_set hr with hold | rfl
        · exact hinv r hold
        · exact hstep s e r (hinv s (List.mem_of_getElem? hs)) (hok s hs) ht
  exact along_invariant hall hok hrun (by simp)

end Arp.Lib.Machine
