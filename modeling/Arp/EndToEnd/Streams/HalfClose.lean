import Arp.EndToEnd.Streams.Undisturbed

/-!
# Half-closed streams

The plain path copies each direction until its own end.  A multiplexed stream ends
with whichever socket ends first: its handler leaves the map and aborts the task that
writes to that socket, so whatever is still on its way there is dropped.  Nothing is
lost if a socket ends only when nothing is on its way to it and nothing more is sent.

`Whole` is what then holds throughout.  The `Close` of a stream is queued by its handler
alone, after all its pieces; a stream is in the map until its `Close` was read; what was
read for it by then is in its channel or written; and to a socket that has ended
everything has been written that the other side has sent.
-/

namespace Arp.EndToEnd.Streams

open Arp.Common Arp.Lib

/-- No socket of the stream with an id ends while something is on its way to it, and
nothing is sent to one that has ended; and there are fewer streams than ids. -/
def NoHalfClose (i : UInt32) (s : State) (e : Side × Event) : Prop :=
  match e.2 with
  | .accept => s.server.streams.length + 1 < 2 ^ 32
  | .readEof k => ∀ h ∈ (s.get e.1).streams[k]?, h.id = i →
      ∀ g ∈ (s.get e.1.other).streams, g.id = i → h.written = g.sent ∨ h.done = true
  | .peerSends k _ => ∀ h ∈ (s.get e.1).streams[k]?, h.id = i →
      ∀ g ∈ (s.get e.1.other).streams, g.id = i → g.phase.ended = false
  | _ => True

instance (i : UInt32) (s : State) : (e : Side × Event) → Decidable (NoHalfClose i s e)
  | (_, .accept) => inferInstanceAs (Decidable (s.server.streams.length + 1 < 2 ^ 32))
  | (side, .readEof k) =>
    inferInstanceAs (Decidable (∀ h ∈ (s.get side).streams[k]?, h.id = i →
      ∀ g ∈ (s.get side.other).streams, g.id = i → h.written = g.sent ∨ h.done = true))
  | (side, .peerSends k _) =>
    inferInstanceAs (Decidable (∀ h ∈ (s.get side).streams[k]?, h.id = i →
      ∀ g ∈ (s.get side.other).streams, g.id = i → g.phase.ended = false))
  | (_, .peerFinishes _) | (_, .insert _) | (_, .announce _) | (_, .connect _ _) | (_, .read _ _)
  | (_, .readError _) | (_, .send _) | (_, .close _) | (_, .finish _) | (_, .take _)
  | (_, .write _ _) | (_, .writeError _) | (_, .cancel _) | (_, .drained _) | (_, .readFrame)
  | (_, .deliver) | (_, .reply) | (_, .readerFails) | (_, .writeFrame) | (_, .writeFrameFails _)
  | (_, .writerExits) => .isTrue trivial

/-! ## Turns of a stream -/

section

variable {side : Side} {x x' : End} {e : Event} {bytes : List UInt8} {k : Nat} {h h' : Stream}

theorem Turns.ended (hturns : Turns side x k h e h') (hended : h.phase.ended = true) :
    h'.phase.ended = true := by
  cases hturns with
  | stay | deliver => exact hended
  | move hmove =>
      cases hmove with
      | refused hphase | connected hphase | read _ hphase =>
          rw [hphase] at hended
          cases hended
      | unconnected | eof | readError | sendFails => rfl
      | _ => exact hended
  | insert hphase | announce hphase | send hphase =>
      rw [hphase] at hended
      cases hended
  | half hhalf => cases hhalf <;> rfl

theorem Turns.not_ended (hturns : Turns side x k h e h') (hended : h'.phase.ended = false) :
    h.phase.ended = false := by
  refine Bool.eq_false_of_not_eq_true fun hbefore ↦ ?_
  rw [hturns.ended hbefore] at hended
  cases hended

/-- Where nothing fails, a handler ends with its socket. -/
theorem Turns.ends (hturns : Turns side x k h e h') (he : e.breaks k = false)
    (hopen : x.writerExited = false) (hbefore : h.phase.ended = false)
    (hafter : h'.phase.ended = true) : e = .readEof k ∧ h' = { h with phase := .closing } := by
  have hsame : h'.phase ≠ h.phase := by
    intro heq
    rw [heq, hbefore] at hafter
    cases hafter
  cases hturns with
  | stay | deliver => exact absurd rfl hsame
  | move hmove =>
      cases hmove with
      | eof => exact ⟨rfl, rfl⟩
      | refused | connected | read => cases hafter
      | unconnected | readError => simp [Event.breaks] at he
      | sendFails hphase hexited =>
          rw [hopen] at hexited
          cases hexited
      | _ => exact absurd rfl hsame
  | insert | announce | send => cases hafter
  | half hhalf =>
      cases hhalf with
      | first _ hphase | second _ hphase =>
          rw [hphase] at hbefore
          cases hbefore

theorem Turns.written (hturns : Turns side x k h e h') : h.written <+: h'.written := by
  cases hturns with
  | move hmove =>
      cases hmove with
      | write => exact List.prefix_append _ _
      | _ => exact List.prefix_rfl
  | half hhalf => cases hhalf <;> exact List.prefix_rfl
  | _ => exact List.prefix_rfl

theorem Turns.sent (hturns : Turns side x k h e h') :
    h'.sent = h.sent ∨ ∃ bytes, e = .peerSends k bytes := by
  cases hturns with
  | move hmove =>
      cases hmove with
      | peerSends bytes => exact .inr ⟨bytes, rfl⟩
      | _ => exact .inl rfl
  | half hhalf => cases hhalf <;> exact .inl rfl
  | _ => exact .inl rfl

/-- Before a stream ends, its channel changes only by a delivery. -/
theorem Turns.accepted (hturns : Turns side x k h e h') (he : e.breaks k = false)
    (hopen : x.writerExited = false) (hcalm : h.Calm) (hended : h'.phase.ended = false) :
    h'.accepted = h.accepted ∨ ∃ id payload, x.reader = .delivering k id payload := by
  cases hturns with
  | move hmove =>
      left
      cases hmove with
      | refused hphase hexited =>
          rw [hopen] at hexited
          cases hexited
      | unconnected | writeError => simp [Event.breaks] at he
      | cancel _ _ haborted =>
          have hphase := hcalm.aborted.mp haborted
          rw [show h.stop.phase = .returned from hphase] at hended
          cases hended
      | take _ _ _ _ hwriting hqueue => exact Stream.accepted_take hwriting hqueue
      | write n => exact h.accepted_write n
      | drained _ _ hwriting hqueue => simp [Stream.accepted, Stream.stop, hwriting, hqueue]
      | _ => rfl
  | half hhalf => cases hhalf <;> exact .inl rfl
  | deliver hreader => exact .inr ⟨_, _, hreader⟩
  | _ => exact .inl rfl

/-- Before a stream ends, its writing task ends only when nothing more can come. -/
theorem Turns.done (hturns : Turns side x k h e h') (he : e.breaks k = false)
    (hopen : x.writerExited = false) (hcalm : h.Calm) (hended : h'.phase.ended = false)
    (hdone : h'.done = true) :
    h.done = true ∨ (h.phase.started = true ∧ x.hasSender k h.id = false) := by
  cases hturns with
  | move hmove =>
      cases hmove with
      | refused hphase hexited =>
          rw [hopen] at hexited
          cases hexited
      | unconnected | writeError => simp [Event.breaks] at he
      | cancel _ _ haborted =>
          have hphase := hcalm.aborted.mp haborted
          rw [show h.stop.phase = .returned from hphase] at hended
          cases hended
      | drained hstarted _ _ _ hsender => exact .inr ⟨hstarted, hsender⟩
      | _ => exact .inl hdone
  | half hhalf => cases hhalf <;> exact .inl hdone
  | _ => exact .inl hdone

theorem Turns.inserts (hturns : Turns side x k h e h') (hbefore : h.phase = .opening)
    (hafter : h'.phase ≠ .opening) : e = .insert k := by
  cases hturns with
  | stay | deliver => exact absurd hbefore hafter
  | move hmove =>
      cases hmove with
      | refused hphase | connected hphase | unconnected hphase | eof hphase | readError hphase
      | sendFails hphase | read _ hphase => cases hbefore.symm.trans hphase
      | _ => exact absurd hbefore hafter
  | insert => rfl
  | announce hphase | send hphase => cases hbefore.symm.trans hphase
  | half hhalf =>
      cases hhalf with
      | first _ hphase | second _ hphase => cases hbefore.symm.trans hphase

theorem Acts.inserts (hacts : Acts side x (.insert k) x' bytes) (hk : x.streams[k]? = some h) :
    x'.table.lookup h.id = some k := by
  cases hacts with
  | move j g g' hj hmove => cases hmove
  | insert j g hj hphase =>
      obtain rfl : h = g := Option.some.inj (hk.symm.trans hj)
      exact AList.lookup_insert _
  | leave j g g' hj hhalf | farewell j g g' hj hhalf | silent j g g' hj hhalf => cases hhalf

end

/-- What the reader replies to. -/
theorem Acts.replying {side : Side} {x x' : End} {e : Event} {bytes : List UInt8}
    (hacts : Acts side x e x' bytes) {id : UInt32} (hreader : x'.reader = .replying (.close id)) :
    x.reader = .replying (.close id) ∨ ∃ payload rest,
      Mux.readMuxFrame x.incoming = .done (.data id payload) rest ∧ x.table.lookup id = none := by
  cases hacts with
  | handle frame rest hidle hread =>
      rcases handle_reader side { x with incoming := rest, handled := x.handled ++ [frame] } frame
        with hsame | ⟨j, i, payload, -, -, hdel⟩ | ⟨i, payload, rfl, hnone, hrep⟩ | hrep
      · rw [hsame] at hreader
        exact .inl hreader
      · cases hdel.symm.trans hreader
      · rw [hrep] at hreader
        obtain rfl := MuxFrame.close.inj (Reader.replying.inj hreader)
        exact .inr ⟨payload, rest, hread, hnone⟩
      · cases hrep.symm.trans hreader
  | readerFails | garbled | deliver | undeliverable | reply | unreplied => cases hreader
  | _ => exact .inl hreader

/-! ## Frames that close a stream -/

/-- An end queues the `Close` of a stream when the stream has ended, after all its
pieces. -/
structure Closes (i : UInt32) (x : End) : Prop where
  closed : .close i ∈ x.enqueued →
    ∃ (k : Nat) (h : Stream), x.streams[k]? = some h ∧ h.id = i ∧ h.phase.ended = true
  last : ∀ frames payload, frames ++ [.data i payload] <+: x.enqueued → .close i ∉ frames
  replies : x.reader ≠ .replying (.close i)

/-- After its `Close`, nothing comes for a stream. -/
theorem Closes.dataFor_eq {i : UInt32} {x : End} (hx : Closes i x) {frames : List MuxFrame}
    (hpre : frames <+: x.enqueued) (hclose : .close i ∈ frames) :
    dataFor i frames = dataFor i x.enqueued := by
  obtain ⟨more, hmore⟩ := hpre
  induction more generalizing frames with
  | nil => rw [← hmore, List.append_nil]
  | cons frame more ih =>
      rw [List.append_cons] at hmore
      rw [← ih (List.mem_append_left _ hclose) hmore, dataFor_append]
      have hnone : dataFor i [frame] = [] := by
        cases frame with
        | data id payload =>
            rw [dataFor_cons, dataFor_nil, List.append_nil]
            refine payloadFor_data_ne ?_ payload
            rintro rfl
            exact hx.last frames payload (hmore ▸ List.prefix_append _ _) hclose
        | _ => rfl
      rw [hnone, List.append_nil]

theorem Closes.acts {i : UInt32} {side : Side} {x x' : End} {e : Event} {bytes : List UInt8}
    (hx : Closes i x) (hsends : Sends x) (hnodup : x.ids.Nodup)
    (hreplies : x'.reader ≠ .replying (.close i)) (hacts : Acts side x e x' bytes) :
    Closes i x' := by
  have hold : ∀ {k : Nat} {h : Stream}, x.streams[k]? = some h → h.id = i →
      h.phase.ended = true →
      ∃ (k : Nat) (h : Stream), x'.streams[k]? = some h ∧ h.id = i ∧ h.phase.ended = true := by
    intro k h hk hid hended
    obtain ⟨h', hk', hturns⟩ := hacts.exists_turns hk
    exact ⟨k, h', hk', hturns.id_eq.trans hid, hturns.ended hended⟩
  rcases hacts.enqueued with hsame | ⟨frame, hqueues, hmore⟩
  · refine ⟨fun hmem ↦ ?_, hsame ▸ hx.last, hreplies⟩
    obtain ⟨k, h, hk, hid, hended⟩ := hx.closed (hsame ▸ hmem)
    exact hold hk hid hended
  · refine ⟨fun hmem ↦ ?_, fun frames payload hpre ↦ ?_, hreplies⟩
    · rw [hmore, List.mem_append, List.mem_singleton] at hmem
      rcases hmem with hmem | rfl
      · obtain ⟨k, h, hk, hid, hended⟩ := hx.closed hmem
        exact hold hk hid hended
      · cases hqueues with
        | farewell k h h' hk hhalf =>
            refine hold hk rfl ?_
            cases hhalf with
            | first _ hphase | second _ hphase => rw [hphase]; rfl
        | reply _ hreader => exact absurd hreader hx.replies
    · rw [hmore] at hpre
      rcases eq_or_of_concat_isPrefix hpre with ⟨rfl, rfl⟩ | hpre
      · cases hqueues with
        | send k h hk hphase =>
            -- A stream that sends has not ended, and no other stream has its id.
            intro hclose
            obtain ⟨j, g, hj, hid, hended⟩ := hx.closed hclose
            obtain rfl := End.eq_of_id_eq hnodup hj hk hid
            obtain rfl : g = h := Option.some.inj (hj.symm.trans hk)
            rw [hphase] at hended
            cases hended
        | reply _ hreader => rcases hsends.replies _ hreader with h | ⟨id, h⟩ <;> cases h
      · exact hx.last frames payload hpre

/-! ## Streams until their `Close` -/

/-- Until its socket ends, a stream is in the map or its `Close` was read; then all
that was read for it is in its channel or written. -/
structure Keeps (i : UInt32) (x : End) : Prop where
  mapped : ∀ (k : Nat) (h : Stream), x.streams[k]? = some h → h.id = i →
    h.phase.ended = false → h.phase ≠ .opening →
    x.table.lookup i = some k ∨ .close i ∈ x.handled
  accepted : ∀ (k : Nat) (h : Stream), x.streams[k]? = some h → h.id = i →
    h.phase.ended = false → .close i ∈ x.handled → h.accepted = dataFor i x.handled
  done : ∀ (k : Nat) (h : Stream), x.streams[k]? = some h → h.id = i →
    h.phase.ended = false → h.done = true → .close i ∈ x.handled

/-- What holds of the stream with an id while nothing fails and no socket ends too
early. -/
structure Whole (i : UInt32) (s : State) : Prop where
  undisturbed : Undisturbed i s
  closes : ∀ side, Closes i (s.get side)
  keeps : ∀ side, Keeps i (s.get side)
  complete : ∀ side, ∀ h ∈ (s.get side).streams, h.id = i →
    ∀ g ∈ (s.get side.other).streams, g.id = i → h.phase.ended = true → h.written = g.sent

namespace Whole

variable {i : UInt32} {s : State} {side : Side} {x' : End} {e : Event} {bytes : List UInt8}
  {j k : Nat} {g h : Stream} {payload rest : List UInt8}

theorem new (i : UInt32) : Whole i .new where
  undisturbed := .new i
  closes side := by
    cases side <;> exact ⟨by simp [State.get, State.new, End.new],
      by simp [State.get, State.new, End.new], by simp [State.get, State.new, End.new]⟩
  keeps side := by
    cases side <;> exact ⟨by simp [State.get, State.new, End.new],
      by simp [State.get, State.new, End.new], by simp [State.get, State.new, End.new]⟩
  complete side := by cases side <;> simp [State.get, State.new, End.new]

/-- When the `Close` of a stream was read, so was all that was sent. -/
theorem dataFor_handled (hs : Whole i s) (hj : (s.get side.other).streams[j]? = some g)
    (hg : g.id = i) (hclose : .close i ∈ (s.get side).handled) :
    dataFor i (s.get side).handled = g.sent := by
  have hpre := (hs.undisturbed.coherent.link_to side).handled_isPrefix
  obtain ⟨l, f, hl, hf, hended⟩ := (hs.closes side.other).closed (hpre.subset hclose)
  obtain rfl := End.eq_of_id_eq (hs.undisturbed.coherent.nodup side.other) hl hj (hf.trans hg.symm)
  obtain rfl : f = g := Option.some.inj (hl.symm.trans hj)
  obtain ⟨-, hread, hhand⟩ := ((hs.undisturbed.calm side.other).streams l f hj hg).ended hended
  have hsends := ((hs.undisturbed.coherent.sends side.other).streams l f hj).read
  rw [hhand, List.append_nil, hg, hread] at hsends
  rw [(hs.closes side.other).dataFor_eq hpre hclose, hsends]

/-- No piece of a stream is read after its `Close`. -/
theorem next_piece (hs : Whole i s)
    (hread : Mux.readMuxFrame (s.get side).incoming = .done (.data i payload) rest) :
    .close i ∉ (s.get side).handled :=
  (hs.closes side.other).last _ payload
    ((hs.undisturbed.coherent.link_to side).handled_next hread)

theorem piece_in_hand (hs : Whole i s) (hreader : (s.get side).reader = .delivering k i payload) :
    .close i ∉ (s.get side).handled := by
  obtain ⟨frames, hframes⟩ := (hs.undisturbed.calm side).last k i payload hreader
  have hpre := (hs.undisturbed.coherent.link_to side).handled_isPrefix
  have hlast := (hs.closes side.other).last frames payload (hframes ▸ hpre)
  rw [hframes]
  simp [hlast]

/-- A piece that is read was sent by a stream at the other end. -/
theorem sender (hs : Whole i s)
    (hread : Mux.readMuxFrame (s.get side).incoming = .done (.data i payload) rest) :
    payload ≠ [] ∧
      ∃ (j : Nat) (g : Stream), (s.get side.other).streams[j]? = some g ∧ g.id = i := by
  have hnext := (hs.undisturbed.coherent.link_to side).handled_next hread
  have hpiece := (hs.undisturbed.calm side.other).pieces payload
    (hnext.subset (List.mem_append_right _ (List.mem_singleton.mpr rfl)))
  refine ⟨hpiece, ?_⟩
  by_contra hnone
  have hstrange : i ∉ (s.get side.other).ids := by
    intro hmem
    obtain ⟨g, hg, hid⟩ := List.mem_map.mp hmem
    obtain ⟨j, hj⟩ := List.mem_iff_getElem?.mp hg
    exact hnone ⟨j, g, hj, hid⟩
  have hdata := dataFor_mono hnext i
  rw [(hs.undisturbed.coherent.sends side.other).strange i hstrange, List.prefix_nil] at hdata
  simp [hpiece] at hdata

/-- And it is for a stream that has entered the map. -/
theorem addressee (hs : Whole i s)
    (hread : Mux.readMuxFrame (s.get side).incoming = .done (.data i payload) rest) :
    ∃ (k : Nat) (h : Stream), (s.get side).streams[k]? = some h ∧ h.id = i ∧
      h.phase ≠ .opening := by
  cases side with
  | server =>
      obtain ⟨-, j, g, hj, hid⟩ := hs.sender hread
      have hopen := hs.undisturbed.coherent.opened.known i (hid ▸ End.mem_ids hj)
      obtain ⟨k, h, hk, hid, hstarted⟩ := hs.undisturbed.coherent.opened.announced i
        ((hs.undisturbed.coherent.link .server).handled_isPrefix.subset hopen)
      refine ⟨k, h, hk, hid, fun hphase ↦ ?_⟩
      rw [hphase] at hstarted
      cases hstarted
  | client =>
      have hopen := hs.undisturbed.introduced.pieces _ i payload
        ((hs.undisturbed.coherent.link .server).handled_next hread)
      obtain ⟨h, hmem, hid⟩ := List.mem_map.mp (hs.undisturbed.introduced.known i hopen)
      obtain ⟨k, hk⟩ := List.mem_iff_getElem?.mp hmem
      refine ⟨k, h, hk, hid, fun hphase ↦ ?_⟩
      have hon := hs.undisturbed.coherent.sided .client k h hk
      rw [hphase] at hon
      cases hon

/-- So it is for a stream in the map: the pieces of a stream are read before its `Close`,
and to a stream that has ended nothing is on its way. -/
theorem lookup_ne_none (hs : Whole i s)
    (hread : Mux.readMuxFrame (s.get side).incoming = .done (.data i payload) rest) :
    (s.get side).table.lookup i ≠ none := by
  obtain ⟨k, h, hk, hh, hphase⟩ := hs.addressee hread
  obtain ⟨hpiece, j, g, hj, hg⟩ := hs.sender hread
  intro hnone
  by_cases hended : h.phase.ended = true
  · have hwritten := hs.complete side h (List.mem_of_getElem? hk) hh g (List.mem_of_getElem? hj)
      hg hended
    have hnext := dataFor_mono ((hs.undisturbed.coherent.link_to side).handled_next hread) i
    have hsent := hs.undisturbed.dataFor_enqueued hj hg
    have haccepted := hh ▸ ((hs.undisturbed.coherent.receives side).streams k h hk).accepted
    have hlen := (hnext.trans (hsent.trans (hwritten ▸
      h.written_prefix_accepted.trans haccepted))).length_le
    rw [dataFor_append, List.length_append, dataFor_cons, payloadFor_data_self, dataFor_nil,
      List.append_nil] at hlen
    exact hpiece (List.eq_nil_of_length_eq_zero (by omega))
  · rcases (hs.keeps side).mapped k h hk hh (Bool.eq_false_of_not_eq_true hended) hphase with
      hlookup | hclose
    · cases hnone.symm.trans hlookup
    · exact hs.next_piece hread hclose

theorem replies (hs : Whole i s) (hacts : Acts side (s.get side) e x' bytes) :
    x'.reader ≠ .replying (.close i) := by
  intro hreader
  rcases hacts.replying hreader with hold | ⟨payload, rest, hread, hnone⟩
  · exact (hs.closes side).replies hold
  · exact hs.lookup_ne_none hread hnone

/-- A stream stays in the map until its `Close` is read or its socket ends. -/
theorem lookup (hs : Whole i s) (hacts : Acts side (s.get side) e x' bytes)
    (he : e.tearsDown = false) (hnodup : x'.ids.Nodup)
    (hk : (s.get side).streams[k]? = some h) (hh : h.id = i) (hk' : x'.streams[k]? = some g)
    (hended : g.phase.ended = false) (hlookup : (s.get side).table.lookup i = some k) :
    x'.table.lookup i = some k ∨ .close i ∈ x'.handled := by
  have hold := hs.undisturbed.coherent.nodup side
  -- Whatever is taken out of the map under another id does not matter.
  have herase : ∀ id : UInt32, (i = id → .close i ∈ x'.handled) →
      ((s.get side).table.erase id).lookup i = some k ∨ .close i ∈ x'.handled := by
    intro id hid
    rw [Table.lookup_erase_ite]
    split
    · next heq => exact .inr (hid heq)
    · exact .inl hlookup
  cases hacts with
  | insert j f hj hphase =>
      left
      rw [Table.lookup_insert_ite]
      split
      · next hid => exact congrArg some (End.eq_of_id_eq hold hj hk (hh.trans hid).symm)
      · exact hlookup
  | leave j f f' hj hhalf =>
      refine herase f.id fun hid ↦ ?_
      obtain rfl := End.eq_of_id_eq hold hk hj (hh.trans hid)
      rw [show (((s.get side).setStream k f').remove f.id).streams[k]? = some f' from
        End.getElem?_setStream hj] at hk'
      obtain rfl := Option.some.inj hk'
      cases hhalf <;> cases hended
  | readerFails => cases he
  | garbled error hidle hfailed => exact absurd hfailed (hs.undisturbed.read_ne_failed side error)
  | handle frame rest hidle hread =>
      cases frame with
      | data id payload =>
          simp only [handle]
          split <;> exact .inl hlookup
      | «open» id =>
          cases side with
          | server => exact .inl hlookup
          | client =>
              left
              simp only [handle, End.ids, List.map_append] at hnodup ⊢
              rw [Table.lookup_insert_ite, if_neg]
              · exact hlookup
              · intro hid
                refine List.disjoint_of_nodup_append hnodup (End.mem_ids hk) ?_
                rw [hh, hid]
                exact List.mem_singleton.mpr rfl
      | close id =>
          refine herase id fun hid ↦ ?_
          rw [hid]
          exact List.mem_append_right _ (List.mem_singleton.mpr rfl)
      | ping | pong => exact .inl hlookup
  | undeliverable j id payload f hreader hj hdone =>
      refine herase id fun hid ↦ ?_
      obtain ⟨f', hf', hfid⟩ := (hs.undisturbed.coherent.receives side).reader j id payload hreader
      obtain rfl := End.eq_of_id_eq hold hk hf' (hh.trans (hid.trans hfid.symm))
      obtain rfl : h = f := Option.some.inj (hk.symm.trans hj)
      obtain rfl : h = g := Option.some.inj (hk.symm.trans hk')
      exact (hs.keeps side).done k h hk hh hended hdone
  | _ => exact .inl hlookup

/-- Nothing was read for a stream that has not entered the map. -/
theorem dataFor_opening (hs : Whole i s) (hk : (s.get side).streams[k]? = some h) (hh : h.id = i)
    (hphase : h.phase = .opening) : dataFor i (s.get side).handled = [] := by
  cases side with
  | server => exact hh ▸ hs.undisturbed.coherent.fresh hk (by rw [hphase]; rfl)
  | client =>
      have hon := hs.undisturbed.coherent.sided .client k h hk
      rw [hphase] at hon
      cases hon

theorem dataFor_added (hs : Whole i s) (hcoherent : Coherent (s.update side x' bytes))
    (hk : x'.streams[k]? = some h) (hadds : Adds side (s.get side) x' e h) :
    dataFor h.id x'.handled = [] := by
  cases hadds with
  | accept hside =>
      subst hside
      exact hcoherent.fresh hk rfl
  | «open» hside hread hhandled =>
      subst hside
      have hnext := (hs.undisturbed.coherent.next_open hread).1
      rw [hhandled]
      simp only [dataFor_append, dataFor_cons, payloadFor_open, dataFor_nil, List.append_nil]
      exact hnext

/-- As long as a stream has not ended, all that was read for it is in its channel, but
for the piece in the hand of the reader. -/
theorem accepted_of_idle (hs : Whole i s) (hidle : (s.get side).reader = .idle)
    (hk : (s.get side).streams[k]? = some h) (hh : h.id = i) (hended : h.phase.ended = false) :
    h.accepted = dataFor i (s.get side).handled := by
  have hkeeps := hs.keeps side
  by_cases hclose : .close i ∈ (s.get side).handled
  · exact hkeeps.accepted k h hk hh hended hclose
  · have hreceives := (hs.undisturbed.coherent.receives side).streams k h hk
    rw [hh] at hreceives
    by_cases hphase : h.phase = .opening
    · have haccepted := hreceives.accepted
      rw [hh, hs.dataFor_opening hk hh hphase, List.prefix_nil] at haccepted
      rw [hs.dataFor_opening hk hh hphase, haccepted]
    · have hlookup := (hkeeps.mapped k h hk hh hended hphase).resolve_right hclose
      have hdone : h.done = false := Bool.eq_false_of_not_eq_true fun hdone ↦
        hclose (hkeeps.done k h hk hh hended hdone)
      have hwhole := hreceives.whole hdone (End.hasSender_iff.mpr (.inl hlookup))
      rwa [End.inHand_of_idle hidle, List.append_nil, hh] at hwhole

/-- The `Close` of a stream brings nothing more, and neither does what comes after it. -/
theorem accepted_handle (hs : Whole i s) {frame : MuxFrame}
    (hidle : (s.get side).reader = .idle)
    (hread : Mux.readMuxFrame (s.get side).incoming = .done frame rest)
    (hk : (s.get side).streams[k]? = some h) (hh : h.id = i) (hended : h.phase.ended = false)
    (hclose : .close i ∈ (s.get side).handled ++ [frame]) :
    h.accepted = dataFor i ((s.get side).handled ++ [frame]) := by
  have hframe : dataFor i [frame] = [] := by
    cases frame with
    | data id payload =>
        rw [dataFor_cons, dataFor_nil, List.append_nil]
        refine payloadFor_data_ne ?_ payload
        rintro rfl
        exact hs.next_piece hread (by simpa using hclose)
    | _ => rfl
  rw [dataFor_append, hframe, List.append_nil]
  exact hs.accepted_of_idle hidle hk hh hended

theorem keeps_acts (hs : Whole i s) (hacts : Acts side (s.get side) e x' bytes)
    (hno : NoError i s (side, e)) (hcoherent : Coherent (s.update side x' bytes)) :
    Keeps i x' where
  mapped k h' hk' hh' hended hphase := by
    have hnodup := hcoherent.nodup side
    rw [State.get_update_self] at hnodup
    rcases hacts.turns hk' with ⟨h, hk, hturns⟩ | ⟨rfl, -, hadds⟩
    · have hh := hturns.id_eq.symm.trans hh'
      by_cases hopening : h.phase = .opening
      · obtain rfl := hturns.inserts hopening hphase
        exact .inl (hh ▸ hacts.inserts hk)
      · rcases (hs.keeps side).mapped k h hk hh (hturns.not_ended hended) hopening with
          hlookup | hclose
        · exact hs.lookup hacts hno.tearsDown hnodup hk hh hk' hended hlookup
        · exact .inr (hacts.handled_isPrefix.subset hclose)
    · cases hadds with
      | accept => exact absurd rfl hphase
      | «open» hside hread hhandled htable => exact .inl (hh' ▸ htable)
  accepted k h' hk' hh' hended hclose := by
    rcases hacts.turns hk' with ⟨h, hk, hturns⟩ | ⟨-, -, hadds⟩
    · have hh := hturns.id_eq.symm.trans hh'
      rcases hacts.handled with hsame | ⟨frame, rest, hidle, hread, rfl⟩
      · rw [hsame] at hclose ⊢
        have hcalm := hs.undisturbed.calm side
        rcases hturns.accepted (hno.breaks hk hh) hcalm.writer (hcalm.streams k h hk hh) hended with
          heq | ⟨id, payload, hreader⟩
        · rw [heq]
          exact (hs.keeps side).accepted k h hk hh (hturns.not_ended hended) hclose
        · obtain ⟨g, hg, hid⟩ :=
            (hs.undisturbed.coherent.receives side).reader k id payload hreader
          obtain rfl : h = g := Option.some.inj (hk.symm.trans hg)
          obtain rfl := hid.symm.trans hh
          exact absurd hclose (hs.piece_in_hand hreader)
      · obtain rfl : h' = h := by
          rcases handle_streams side { s.get side with
            incoming := rest, handled := (s.get side).handled ++ [frame] } frame
            with hstreams | ⟨id, -, -, hstreams, -⟩
          · rw [hstreams] at hk'
            exact Option.some.inj (hk'.symm.trans hk)
          · rw [hstreams, List.getElem?_append_left (List.getElem?_eq_some_iff.mp hk).1] at hk'
            exact Option.some.inj (hk'.symm.trans hk)
        rw [handled_handle] at hclose ⊢
        exact hs.accepted_handle hidle hread hk hh hended hclose
    · rw [← hh', hs.dataFor_added hcoherent hk' hadds]
      cases hadds <;> rfl
  done k h' hk' hh' hended hdone := by
    rcases hacts.turns hk' with ⟨h, hk, hturns⟩ | ⟨-, -, hadds⟩
    · have hh := hturns.id_eq.symm.trans hh'
      have hcalm := hs.undisturbed.calm side
      refine hacts.handled_isPrefix.subset ?_
      rcases hturns.done (hno.breaks hk hh) hcalm.writer (hcalm.streams k h hk hh) hended hdone with
        hbefore | ⟨hstarted, hsender⟩
      · exact (hs.keeps side).done k h hk hh (hturns.not_ended hended) hbefore
      · have hphase : h.phase ≠ .opening := fun hphase ↦ by
          rw [hphase] at hstarted
          cases hstarted
        refine ((hs.keeps side).mapped k h hk hh (hturns.not_ended hended) hphase).resolve_left ?_
        intro hlookup
        rw [End.hasSender_iff.mpr (.inl (hh ▸ hlookup))] at hsender
        cases hsender
    · cases hadds <;> cases hdone

/-- To a socket whose writing task has ended by itself all was written. -/
theorem written_of_done (hs : Whole i s) (hk : (s.get side).streams[k]? = some h) (hh : h.id = i)
    (hj : (s.get side.other).streams[j]? = some g) (hg : g.id = i)
    (hended : h.phase.ended = false) (hdone : h.done = true) : h.written = g.sent := by
  have hclose := (hs.keeps side).done k h hk hh hended hdone
  have haccepted := (hs.keeps side).accepted k h hk hh hended hclose
  obtain ⟨hwriting, hqueue⟩ := ((hs.undisturbed.calm side).streams k h hk hh).done hdone
  rw [hs.dataFor_handled hj hg hclose] at haccepted
  rw [← haccepted]
  simp [Stream.accepted, hwriting, hqueue]

theorem complete_acts (hs : Whole i s) (hacts : Acts side (s.get side) e x' bytes)
    (herror : NoError i s (side, e)) (hno : NoHalfClose i s (side, e))
    (hs' : Undisturbed i (s.update side x' bytes)) (side' : Side) (h : Stream)
    (hmem : h ∈ ((s.update side x' bytes).get side').streams) (hh : h.id = i) (g : Stream)
    (hmem' : g ∈ ((s.update side x' bytes).get side'.other).streams) (hg : g.id = i)
    (hended : h.phase.ended = true) : h.written = g.sent := by
  obtain ⟨k, hk⟩ := List.mem_iff_getElem?.mp hmem
  obtain ⟨j, hj⟩ := List.mem_iff_getElem?.mp hmem'
  have hpre := hs'.written hk hh hj hg
  rcases side.eq_or_eq_other side' with rfl | rfl
  · -- The stream that has ended is at the end that takes the step.
    rw [State.get_update_self] at hk
    rw [State.get_update_other] at hj
    rcases hacts.turns hk with ⟨f, hf, hturns⟩ | ⟨-, -, hadds⟩
    · have hid := hturns.id_eq.symm.trans hh
      by_cases hbefore : f.phase.ended = true
      · have hsent := hs.complete _ f (List.mem_of_getElem? hf) hid g (List.mem_of_getElem? hj) hg
          hbefore
        exact hpre.eq_of_length_le (hsent ▸ hturns.written.length_le)
      · have hbefore := Bool.eq_false_of_not_eq_true hbefore
        obtain ⟨rfl, rfl⟩ := hturns.ends (herror.breaks hf hid) (hs.undisturbed.calm _).writer
          hbefore hended
        rcases hno f hf hid g (List.mem_of_getElem? hj) hg with hwritten | hdone
        · exact hwritten
        · have hwritten := hs.written_of_done hf hid hj hg hbefore hdone
          exact hwritten
    · cases hadds <;> cases hended
  · -- It is at the other end.
    rw [State.get_update_other] at hk
    rw [Side.other_other, State.get_update_self] at hj
    rcases hacts.turns hj with ⟨f, hf, hturns⟩ | ⟨-, -, hadds⟩
    · have hid := hturns.id_eq.symm.trans hg
      rcases hturns.sent with hsame | ⟨more, rfl⟩
      · rw [hsame]
        refine hs.complete side.other h (List.mem_of_getElem? hk) hh f ?_ hid hended
        rw [Side.other_other]
        exact List.mem_of_getElem? hf
      · have hnot := hno f hf hid h (List.mem_of_getElem? hk) hh
        rw [hended] at hnot
        cases hnot
    · cases hadds <;> exact List.prefix_nil.mp hpre

theorem step (hs : Whole i s) {s' : State} (herror : NoError i s (side, e))
    (hno : NoHalfClose i s (side, e)) (hs' : Streams.step s (side, e) = some s')
    (hcoherent : Coherent s') : Whole i s' := by
  have hundisturbed := hs.undisturbed.step herror hs' hcoherent
  obtain ⟨x', bytes, hacts, rfl⟩ := acts_of_step hs'
  refine ⟨hundisturbed, ?_, ?_, hs.complete_acts hacts herror hno hundisturbed⟩
  · refine State.forall_update hs.closes ?_ fun _ _ _ h ↦ ⟨h.closed, h.last, h.replies⟩
    exact (hs.closes side).acts (hs.undisturbed.coherent.sends side)
      (hs.undisturbed.coherent.nodup side) (hs.replies hacts) hacts
  · exact State.forall_update hs.keeps (hs.keeps_acts hacts herror hcoherent)
      fun _ _ _ h ↦ ⟨h.mapped, h.accepted, h.done⟩

end Whole

/-- What holds throughout a run in which nothing fails for a stream and no socket of it
ends too early. -/
structure Lossless (i : UInt32) (s : State) : Prop where
  whole : Whole i s
  numbered : Numbered s.server
  opened : s.server.streams.length < 2 ^ 32

theorem Lossless.new (i : UInt32) : Lossless i .new :=
  ⟨.new i, .new, by simp [State.new, End.new]⟩

/-- There stay fewer streams than ids. -/
theorem NoHalfClose.length_lt {i : UInt32} {s s' : State} {e : Side × Event}
    (hno : NoHalfClose i s e) (hs' : step s e = some s')
    (hlen : s.server.streams.length < 2 ^ 32) : s'.server.streams.length < 2 ^ 32 := by
  obtain ⟨side, e⟩ := e
  obtain ⟨x', bytes, hacts, rfl⟩ := acts_of_step hs'
  cases side with
  | client => exact hlen
  | server =>
      show x'.streams.length < 2 ^ 32
      rw [← End.length_ids]
      rcases hacts.ids with ⟨hids, -⟩ | ⟨h, hadds, hids, -⟩
      · rw [hids, End.length_ids]
        exact hlen
      · rw [hids, List.length_append, End.length_ids]
        cases hadds with
        | accept => exact hno
        | «open» hside => cases hside

theorem Lossless.step {i : UInt32} (s : State) (e : Side × Event) (s' : State)
    (hs : Lossless i s) (hok : NoError i s e ∧ NoHalfClose i s e)
    (hs' : Streams.step s e = some s') : Lossless i s' := by
  obtain ⟨herror, hno⟩ := hok
  have hlen := hno.length_lt hs' hs.opened
  have hsound := Sound.step s e s' ⟨hs.numbered, fun _ ↦ hs.whole.undisturbed.coherent⟩ hs'
  exact ⟨hs.whole.step herror hno hs' (hsound.coherent hlen.le), hsound.numbered, hlen⟩

end Arp.EndToEnd.Streams
