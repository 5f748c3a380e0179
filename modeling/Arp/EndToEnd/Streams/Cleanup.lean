import Arp.EndToEnd.Streams.Coherence

/-!
# What a stream leaves behind

When the socket of a stream has ended, its handler takes the stream out of the map and
queues a `Close` for the other end, one after the other; which comes first depends on
the side.  So a stream is cleaned up when its handler returns this way.  Every other way
out is an early return, which does neither: after it the stream is cleaned up only by
what others do.  The reader takes streams out of the map, and it queues a `Close` in reply
to a piece for a stream that is not in the map.
-/

namespace Arp.EndToEnd.Streams

open Arp.Common Arp.Lib

/-- One half of cleaning up is done: the stream is out of the map, or a `Close` has been
queued for the other end, if the channel of frames is open. -/
def End.Did (x : End) (leaves : Bool) (k : Nat) (id : UInt32) : Prop :=
  match leaves with
  | true => x.table.lookup id ≠ some k
  | false => x.writerExited = true ∨ .close id ∈ x.enqueued

/-- The stream at `k` is out of the map, and a `Close` for it has been queued for the
other end, if the channel of frames is open. -/
def End.CleanedUp (x : End) (k : Nat) (id : UInt32) : Prop :=
  x.table.lookup id ≠ some k ∧ (x.writerExited = false → .close id ∈ x.enqueued)

theorem End.cleanedUp_iff_did (side : Side) {x : End} {k : Nat} {id : UInt32} :
    x.CleanedUp k id ↔ x.Did (side == .server) k id ∧ x.Did (side == .client) k id := by
  have hclose : (x.writerExited = false → .close id ∈ x.enqueued) ↔ x.Did false k id := by
    unfold End.Did
    cases x.writerExited <;> simp
  unfold End.CleanedUp
  rw [hclose]
  cases side with
  | server => exact Iff.rfl
  | client => exact And.comm

section

variable {side : Side} {x x' : End} {e : Event} {bytes : List UInt8} {k : Nat} {h h' : Stream}

/-- An entry of the map is made only for a stream that is about to start. -/
theorem Acts.lookup (hacts : Acts side x e x' bytes) {id : UInt32}
    (hlookup : x'.table.lookup id = some k) :
    x.table.lookup id = some k ∨ ∃ h, x'.streams[k]? = some h ∧ h.phase.started = false := by
  have herase : ∀ i, (x.table.erase i).lookup id = some k → x.table.lookup id = some k := by
    intro i hi
    rw [Table.lookup_erase_ite] at hi
    split at hi
    · cases hi
    · exact hi
  cases hacts with
  | insert j g hj hphase =>
      rw [Table.lookup_insert_ite] at hlookup
      split at hlookup
      · obtain rfl := Option.some.inj hlookup
        exact .inr ⟨_, End.getElem?_setStream hj, rfl⟩
      · exact .inl hlookup
  | leave j g g' hj hhalf => exact .inl (herase _ hlookup)
  | readerFails | garbled => simp at hlookup
  | undeliverable => exact .inl (herase _ hlookup)
  | handle frame rest hidle hread =>
      cases frame with
      | data i payload =>
          simp only [Streams.handle] at hlookup
          split at hlookup <;> exact .inl hlookup
      | «open» i =>
          cases side with
          | server => exact .inl hlookup
          | client =>
              simp only [Streams.handle] at hlookup ⊢
              rw [Table.lookup_insert_ite] at hlookup
              split at hlookup
              · obtain rfl := Option.some.inj hlookup
                exact .inr ⟨.new i .connecting, by simp, rfl⟩
              · exact .inl hlookup
      | close i => exact .inl (herase i hlookup)
      | ping | pong => exact .inl hlookup
  | _ => exact .inl hlookup

theorem Acts.writerExited (hacts : Acts side x e x' bytes) (hexited : x.writerExited = true) :
    x'.writerExited = true := by
  cases hacts with
  | handle frame rest hidle hread =>
      rw [handle_toTraffic]
      exact hexited
  | writePart | stop => rfl
  | _ => exact hexited

/-- What was done of cleaning up a stream stays done. -/
theorem End.Did.acts {leaves : Bool} {id : UInt32} (hdid : x.Did leaves k id)
    (hacts : Acts side x e x' bytes) (hk' : x'.streams[k]? = some h')
    (hstarted : h'.phase.started = true) : x'.Did leaves k id := by
  cases leaves with
  | true =>
      intro hlookup
      rcases hacts.lookup hlookup with hold | ⟨g, hg, hphase⟩
      · exact hdid hold
      · obtain rfl : h' = g := Option.some.inj (hk'.symm.trans hg)
        rw [hstarted] at hphase
        cases hphase
  | false =>
      rcases hdid with hexited | hmem
      · exact .inl (hacts.writerExited hexited)
      · exact .inr (hacts.enqueued_isPrefix.subset hmem)

/-- A half of cleaning up does what it is for. -/
theorem Acts.did (hacts : Acts side x e x' bytes) (hk : x.streams[k]? = some h) {leaves : Bool}
    (hhalf : Half side h leaves k e h') : x'.Did leaves k h.id := by
  have hleaves : ∀ {more g g'}, Half side g more k e g' → leaves = more := by
    intro more g g' hother
    cases hhalf with
    | first hside => cases hother with | first hside' => exact hside.trans hside'.symm
    | second hside => cases hother with | second hside' => exact hside.trans hside'.symm
  have hplace : ∀ {more j g g'}, Half side g more j e g' → j = k := by
    intro more j g g' hother
    cases hhalf <;> cases hother <;> rfl
  cases hacts with
  | move j g g' hj hmove => cases hhalf <;> cases hmove
  | leave j g g' hj hother =>
      obtain rfl := hplace hother
      obtain rfl := hleaves hother
      obtain rfl : h = g := Option.some.inj (hk.symm.trans hj)
      simp [End.Did, End.remove]
  | farewell j g g' hj hother hopen =>
      obtain rfl := hplace hother
      obtain rfl := hleaves hother
      obtain rfl : h = g := Option.some.inj (hk.symm.trans hj)
      exact .inr (List.mem_append_right _ (List.mem_singleton.mpr rfl))
  | silent j g g' hj hother hexited =>
      obtain rfl := hplace hother
      obtain rfl := hleaves hother
      exact .inl hexited
  | _ => cases hhalf

/-- The last statement of a handler is the second half of cleaning up. -/
theorem Acts.half_of_finish (hacts : Acts side x (.finish k) x' bytes) :
    ∃ h h', x.streams[k]? = some h ∧ x'.streams[k]? = some h' ∧
      Half side h (side == .client) k (.finish k) h' := by
  cases hacts with
  | leave j g g' hj hhalf | farewell j g g' hj hhalf | silent j g g' hj hhalf =>
      cases hhalf with
      | second hside hclosed =>
          exact ⟨g, _, hj, End.getElem?_setStream hj, .second rfl hclosed⟩
  | move j g g' hj hmove => cases hmove

end

/-- Of every stream in the middle of cleaning up, the first half is done. -/
def Tidy (side : Side) (x : End) : Prop :=
  ∀ (k : Nat) (h : Stream), x.streams[k]? = some h → h.phase = .closed →
    x.Did (side == .server) k h.id

theorem Turns.closed {side : Side} {x : End} {e : Event} {k : Nat} {h h' : Stream}
    (hturns : Turns side x k h e h') (hphase' : h'.phase = .closed) :
    h.phase = .closed ∨ Half side h (side == .server) k e h' := by
  cases hturns with
  | stay | deliver => exact .inl hphase'
  | move hmove =>
      cases hmove with
      | peerSends | peerFinishes | take | write | writeError | cancel | drained =>
          exact .inl hphase'
      | _ => cases hphase'
  | insert | announce | send => cases hphase'
  | half hhalf =>
      cases hhalf with
      | first hside hclosing => exact .inr (.first rfl hclosing)
      | second => cases hphase'

theorem Tidy.acts {side : Side} {x x' : End} {e : Event} {bytes : List UInt8} (hx : Tidy side x)
    (hacts : Acts side x e x' bytes) : Tidy side x' := by
  intro k h' hk' hphase'
  rcases hacts.turns hk' with ⟨h, hk, hturns⟩ | ⟨-, -, hadds⟩
  · rw [hturns.id_eq]
    rcases hturns.closed hphase' with hphase | hhalf
    · exact (hx k h hk hphase).acts hacts hk' (by rw [hphase']; rfl)
    · exact hacts.did hk hhalf
  · cases hadds <;> cases hphase'

theorem Tidy.step (s : State) (e : Side × Event) (s' : State)
    (hs : ∀ side, Tidy side (s.get side)) (hs' : Streams.step s e = some s') :
    ∀ side, Tidy side (s'.get side) := by
  obtain ⟨x', bytes, hacts, rfl⟩ := acts_of_step hs'
  exact State.forall_update hs ((hs _).acts hacts) fun _ _ _ h ↦ h

theorem tidy_of_run {es : List (Side × Event)} {s : State}
    (hrun : Machine.run step .new es = some s) : ∀ side, Tidy side (s.get side) := by
  refine Machine.run_invariant Tidy.step hrun fun side ↦ ?_
  cases side <;> simp [Tidy, State.new, State.get, End.new]

/-- In every run, when the handler of a stream returns at either end by its last statement,
the stream is cleaned up. -/
theorem cleanedUp_of_finish {es : List (Side × Event)} {s s' : State} {side : Side} {k : Nat}
    (hrun : Machine.run step .new es = some s) (hstep : step s (side, .finish k) = some s') :
    ∃ h h', (s.get side).streams[k]? = some h ∧ (s'.get side).streams[k]? = some h' ∧
      h.phase ≠ .returned ∧ h'.phase = .returned ∧ (s'.get side).CleanedUp k h'.id := by
  obtain ⟨x', bytes, hacts, rfl⟩ := acts_of_step hstep
  rw [State.get_update_self]
  obtain ⟨h, h', hk, hk', hhalf⟩ := hacts.half_of_finish
  have hsecond := hacts.did hk hhalf
  cases hhalf with
  | second hside hclosed =>
      refine ⟨h, _, hk, hk', by simp [hclosed], rfl, (End.cleanedUp_iff_did side).mpr ⟨?_, hsecond⟩⟩
      exact (tidy_of_run hrun side k h hk hclosed).acts hacts hk' rfl

/-- A user has sent all, and the server cleans up. -/
theorem cleanedUp_after_eof :
    ∃ s s' h', Machine.run step .new (opens 0 ++ [(.server, .peerFinishes 0),
        (.server, .readEof 0), (.server, .close 0)]) = some s ∧
      step s (.server, .finish 0) = some s' ∧ s'.server.streams[0]? = some h' ∧
      h'.phase = .returned ∧ s'.server.CleanedUp 0 h'.id := by
  have hrun : ((Machine.run step .new (opens 0 ++ [(.server, .peerFinishes 0),
      (.server, .readEof 0), (.server, .close 0)])).bind
        fun s ↦ step s (.server, .finish 0)).isSome := by decide
  obtain ⟨s', hs'⟩ := Option.isSome_iff_exists.mp hrun
  obtain ⟨s, hs, hs'⟩ := Option.bind_eq_some_iff.mp hs'
  obtain ⟨h, h', -, hk', -, hphase', hclean⟩ := cleanedUp_of_finish hs hs'
  exact ⟨s, s', h', hs, hs', hk', hphase', hclean⟩

/-- The local service refuses the connection, and the handler of the client returns.
The stream stays in the map, and the server is told nothing. -/
theorem refused_not_cleanedUp :
    ∃ s h, Machine.run step .new [(.server, .accept), (.server, .insert 0),
        (.server, .announce 0), (.server, .writeFrame), (.client, .readFrame),
        (.client, .connect 0 false)] = some s ∧
      s.client.streams[0]? = some h ∧ h.phase = .returned ∧ s.client.table.lookup h.id = some 0 ∧
      s.client.writerExited = false ∧ s.client.enqueued = [] ∧ ¬s.client.CleanedUp 0 h.id := by
  have hrun : (Machine.run step .new [(.server, .accept), (.server, .insert 0),
      (.server, .announce 0), (.server, .writeFrame), (.client, .readFrame),
      (.client, .connect 0 false)]).map (fun s ↦
        ((s.client.streams[0]?).map fun h ↦ (h.phase, s.client.table.lookup h.id),
          s.client.writerExited, s.client.enqueued)) =
      some (some (.returned, some 0), false, []) := by decide
  obtain ⟨s, hs, hclient⟩ := Option.map_eq_some_iff.mp hrun
  obtain ⟨hstream, hclient⟩ := Prod.mk.inj hclient
  obtain ⟨hopen, henqueued⟩ := Prod.mk.inj hclient
  obtain ⟨h, hk, hstream⟩ := Option.map_eq_some_iff.mp hstream
  obtain ⟨hphase, hlookup⟩ := Prod.mk.inj hstream
  exact ⟨s, h, hs, hk, hphase, hlookup, hopen, henqueued, fun hclean ↦ hclean.1 hlookup⟩

end Arp.EndToEnd.Streams
