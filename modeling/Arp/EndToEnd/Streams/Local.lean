import Arp.EndToEnd.Streams.Actions

/-!
# One end of a tunnel

Two invariants of an end, one for each direction.  `Sends`: what an end has queued for
a stream, with the piece in hand, is what was read from the socket of the stream.
`Receives`: what got into the channel of a stream is a beginning of what the end has
read for it, and all of it as long as somebody can still send into the channel.
-/

namespace Arp.EndToEnd.Streams

open Arp.Common Arp.Lib

/-! ## The streams of an end -/

/-- The ids of all streams there have been. -/
def End.ids (x : End) : List UInt32 := x.streams.map Stream.id

theorem End.mem_ids {x : End} {k : Nat} {h : Stream} (hk : x.streams[k]? = some h) :
    h.id ∈ x.ids := List.mem_map_of_mem (List.mem_of_getElem? hk)

/-- With different ids, the id of a stream tells its place. -/
theorem End.eq_of_id_eq {x : End} (hnodup : x.ids.Nodup) {j k : Nat} {g h : Stream}
    (hj : x.streams[j]? = some g) (hk : x.streams[k]? = some h) (hid : g.id = h.id) : j = k := by
  have hjid : x.ids[j]? = some g.id := by simp [End.ids, hj]
  have hkid : x.ids[k]? = some g.id := by simp [End.ids, hk, hid]
  have hlt := (List.getElem?_eq_some_iff.mp hjid).1
  exact (List.getElem?_inj hlt hnodup).mp (hjid.trans hkid.symm)

/-- The streams after one has got on. -/
theorem End.setStream_cases {x : End} {j k : Nat} {g h' : Stream}
    (hj : (x.setStream k h').streams[j]? = some g) :
    (j = k ∧ g = h') ∨ (j ≠ k ∧ x.streams[j]? = some g) :=
  eq_or_of_getElem?_set hj

theorem End.getElem?_setStream {x : End} {k : Nat} {h h' : Stream}
    (hk : x.streams[k]? = some h) : (x.setStream k h').streams[k]? = some h' :=
  List.getElem?_set_self (List.getElem?_eq_some_iff.mp hk).1

/-- A stream that gets on keeps its id. -/
theorem End.ids_setStream {x : End} {k : Nat} {h : Stream} (h' : Stream)
    (hk : x.streams[k]? = some h) (hid : h'.id = h.id) : (x.setStream k h').ids = x.ids := by
  apply List.ext_getElem?
  intro j
  rw [End.ids, End.ids, List.getElem?_map, List.getElem?_map]
  by_cases hjk : j = k
  · subst hjk
    rw [End.getElem?_setStream hk, hk, Option.map_some, Option.map_some, hid]
  · rw [End.setStream, List.getElem?_set_ne (Ne.symm hjk)]

/-- The streams are found under their ids as before. -/
theorem End.exists_setStream {x : End} {j k : Nat} {h h' : Stream} {i : UInt32}
    (hk : x.streams[k]? = some h) (hid : h'.id = h.id)
    (hj : ∃ g, x.streams[j]? = some g ∧ g.id = i) :
    ∃ g, (x.setStream k h').streams[j]? = some g ∧ g.id = i := by
  obtain ⟨g, hj, rfl⟩ := hj
  by_cases hjk : j = k
  · subst hjk
    obtain rfl : h = g := Option.some.inj (hk.symm.trans hj)
    exact ⟨h', End.getElem?_setStream hk, hid⟩
  · exact ⟨g, by rwa [End.setStream, List.getElem?_set_ne (Ne.symm hjk)], rfl⟩

/-- A stream keeps its id. -/
theorem Move.id_eq {x : End} {k : Nat} {h h' : Stream} {e : Event} (hmove : Move x k h e h') :
    h'.id = h.id := by
  cases hmove <;> rfl

theorem Half.id_eq {side : Side} {h h' : Stream} {leaves : Bool} {k : Nat} {e : Event}
    (hhalf : Half side h leaves k e h') : h'.id = h.id := by
  cases hhalf <;> rfl

/-- What the reader does to the streams: it may add one, in the map. -/
theorem handle_streams (side : Side) (x : End) (frame : MuxFrame) :
    (handle side x frame).streams = x.streams ∨ ∃ id, side = .client ∧ frame = .open id ∧
      (handle side x frame).streams = x.streams ++ [.new id .connecting] ∧
      (handle side x frame).table.lookup id = some x.streams.length := by
  cases frame with
  | data id payload =>
      simp only [handle]
      split <;> exact .inl rfl
  | «open» id =>
      cases side with
      | server => exact .inl rfl
      | client => exact .inr ⟨id, rfl, rfl, rfl, AList.lookup_insert _⟩
  | close id => exact .inl rfl
  | ping => exact .inl rfl
  | pong => exact .inl rfl

theorem handle_toTraffic (side : Side) (x : End) (frame : MuxFrame) :
    (handle side x frame).toTraffic = x.toTraffic := by
  cases frame with
  | data id payload =>
      simp only [handle]
      split <;> rfl
  | «open» id => cases side <;> rfl
  | _ => rfl

theorem handle_nextStreamId (side : Side) (x : End) (frame : MuxFrame) :
    (handle side x frame).nextStreamId = x.nextStreamId := by
  cases frame with
  | data id payload =>
      simp only [handle]
      split <;> rfl
  | «open» id => cases side <;> rfl
  | _ => rfl

/-- What a step makes of one of the streams. -/
inductive Turns (side : Side) (x : End) (k : Nat) (h : Stream) : Event → Stream → Prop where
  | stay {e : Event} : Turns side x k h e h
  | move {e : Event} {h' : Stream} (hmove : Move x k h e h') : Turns side x k h e h'
  | insert (hphase : h.phase = .opening) :
      Turns side x k h (.insert k) { h with phase := .announcing }
  | announce (hphase : h.phase = .announcing) (hopen : x.writerExited = false) :
      Turns side x k h (.announce k) { h with phase := .reading }
  | send (hphase : h.phase = .sending) (hopen : x.writerExited = false) :
      Turns side x k h (.send k) { h with hand := [], phase := .reading }
  | half {leaves : Bool} {e : Event} {h' : Stream} (hhalf : Half side h leaves k e h') :
      Turns side x k h e h'
  | deliver {id : UInt32} {payload : List UInt8} (hreader : x.reader = .delivering k id payload)
      (hdone : h.done = false) :
      Turns side x k h .deliver { h with queue := h.queue ++ [payload] }

/-- A stream that a step adds. -/
inductive Adds (side : Side) (x x' : End) : Event → Stream → Prop where
  | accept (hside : side = .server) : Adds side x x' .accept (.new x.nextStreamId .opening)
  | «open» {id : UInt32} {rest : List UInt8} (hside : side = .client)
      (hread : Mux.readMuxFrame x.incoming = .done (.open id) rest)
      (hhandled : x'.handled = x.handled ++ [.open id])
      (htable : x'.table.lookup id = some x.streams.length) :
      Adds side x x' .readFrame (.new id .connecting)

theorem Turns.id_eq {side : Side} {x : End} {k : Nat} {h h' : Stream} {e : Event}
    (hturns : Turns side x k h e h') : h'.id = h.id := by
  cases hturns with
  | move hmove => exact hmove.id_eq
  | half hhalf => exact hhalf.id_eq
  | _ => rfl

theorem Turns.setStream {side : Side} {x : End} {k : Nat} {h h' : Stream} {e : Event}
    (hk : x.streams[k]? = some h) (hturns : Turns side x k h e h') {j : Nat} {g' : Stream}
    (hj : (x.setStream k h').streams[j]? = some g') :
    ∃ g, x.streams[j]? = some g ∧ Turns side x j g e g' := by
  rcases End.setStream_cases hj with ⟨rfl, rfl⟩ | ⟨-, hj⟩
  · exact ⟨h, hk, hturns⟩
  · exact ⟨g', hj, .stay⟩

/-- Every stream after a step comes from the one at its place, or is added. -/
theorem Acts.turns {side : Side} {x x' : End} {e : Event} {bytes : List UInt8}
    (hacts : Acts side x e x' bytes) {j : Nat} {g' : Stream} (hj : x'.streams[j]? = some g') :
    (∃ g, x.streams[j]? = some g ∧ Turns side x j g e g') ∨
      j = x.streams.length ∧ x'.streams = x.streams ++ [g'] ∧ Adds side x x' e g' := by
  cases hacts with
  | move k h h' hk hmove => exact .inl (Turns.setStream hk (.move hmove) hj)
  | accept hside =>
      rcases eq_or_of_getElem?_concat hj with ⟨rfl, rfl⟩ | hj
      · exact .inr ⟨rfl, rfl, .accept hside⟩
      · exact .inl ⟨g', hj, .stay⟩
  | insert k h hk hphase => exact .inl (Turns.setStream hk (.insert hphase) hj)
  | announce k h hk hphase hopen => exact .inl (Turns.setStream hk (.announce hphase hopen) hj)
  | send k h hk hphase hopen => exact .inl (Turns.setStream hk (.send hphase hopen) hj)
  | leave k h h' hk hhalf => exact .inl (Turns.setStream hk (.half hhalf) hj)
  | farewell k h h' hk hhalf hopen => exact .inl (Turns.setStream hk (.half hhalf) hj)
  | silent k h h' hk hhalf hexited => exact .inl (Turns.setStream hk (.half hhalf) hj)
  | deliver k id payload h hreader hk hdone =>
      exact .inl (Turns.setStream hk (.deliver hreader hdone) hj)
  | handle frame rest hidle hread =>
      rcases handle_streams side { x with incoming := rest, handled := x.handled ++ [frame] } frame
        with hsame | ⟨id, hside, rfl, hadd, htable⟩
      · rw [hsame] at hj
        exact .inl ⟨g', hj, .stay⟩
      · rw [hadd] at hj
        rcases eq_or_of_getElem?_concat hj with ⟨rfl, rfl⟩ | hj
        · exact .inr ⟨rfl, hadd, .open hside hread (by rw [handle_toTraffic]) htable⟩
        · exact .inl ⟨g', hj, .stay⟩
  | _ => exact .inl ⟨g', hj, .stay⟩

/-- A frame that a step queues. -/
inductive Queues (side : Side) (x x' : End) : Event → MuxFrame → Prop where
  | announce (k : Nat) (h : Stream) (hk : x.streams[k]? = some h) (hphase : h.phase = .announcing)
      (hk' : x'.streams[k]? = some { h with phase := .reading }) :
      Queues side x x' (.announce k) (.open h.id)
  | send (k : Nat) (h : Stream) (hk : x.streams[k]? = some h) (hphase : h.phase = .sending) :
      Queues side x x' (.send k) (.data h.id h.hand)
  | farewell {e : Event} (k : Nat) (h h' : Stream) (hk : x.streams[k]? = some h)
      (hhalf : Half side h false k e h') : Queues side x x' e (.close h.id)
  | reply (frame : MuxFrame) (hreader : x.reader = .replying frame) : Queues side x x' .reply frame

/-- A step queues at most one frame. -/
theorem Acts.enqueued {side : Side} {x x' : End} {e : Event} {bytes : List UInt8}
    (hacts : Acts side x e x' bytes) :
    x'.enqueued = x.enqueued ∨
      ∃ frame, Queues side x x' e frame ∧ x'.enqueued = x.enqueued ++ [frame] := by
  cases hacts with
  | announce k h hk hphase hopen =>
      exact .inr ⟨_, .announce k h hk hphase (End.getElem?_setStream hk), rfl⟩
  | send k h hk hphase hopen => exact .inr ⟨_, .send k h hk hphase, rfl⟩
  | farewell k h h' hk hhalf hopen => exact .inr ⟨_, .farewell k h h' hk hhalf, rfl⟩
  | reply frame hreader hopen => exact .inr ⟨frame, .reply frame hreader, rfl⟩
  | handle frame rest hidle hread =>
      left
      rw [handle_toTraffic]
  | _ => exact .inl rfl

theorem handled_handle (side : Side) (x : End) (frame : MuxFrame) (rest : List UInt8) :
    (handle side { x with incoming := rest, handled := x.handled ++ [frame] } frame).handled =
      x.handled ++ [frame] := by
  rw [handle_toTraffic]

/-- A step reads at most one frame. -/
theorem Acts.handled {side : Side} {x x' : End} {e : Event} {bytes : List UInt8}
    (hacts : Acts side x e x' bytes) :
    x'.handled = x.handled ∨ ∃ frame rest, x.reader = .idle ∧
      Mux.readMuxFrame x.incoming = .done frame rest ∧
      x' = Streams.handle side { x with
        incoming := rest, handled := x.handled ++ [frame] } frame := by
  cases hacts with
  | handle frame rest hidle hread => exact .inr ⟨frame, rest, hidle, hread, rfl⟩
  | _ => exact .inl rfl

/-- What was read stays read. -/
theorem Acts.handled_isPrefix {side : Side} {x x' : End} {e : Event} {bytes : List UInt8}
    (hacts : Acts side x e x' bytes) : x.handled <+: x'.handled := by
  rcases hacts.handled with hsame | ⟨frame, rest, -, -, rfl⟩
  · exact hsame ▸ List.prefix_rfl
  · rw [handled_handle]
    exact List.prefix_append _ _

/-- What was queued stays queued. -/
theorem Acts.enqueued_isPrefix {side : Side} {x x' : End} {e : Event} {bytes : List UInt8}
    (hacts : Acts side x e x' bytes) : x.enqueued <+: x'.enqueued := by
  rcases hacts.enqueued with hsame | ⟨frame, -, hmore⟩
  · exact hsame ▸ List.prefix_rfl
  · exact hmore ▸ List.prefix_append _ _

/-- The ids of the streams and the counter change only with a stream that is added. -/
theorem Acts.ids {side : Side} {x x' : End} {e : Event} {bytes : List UInt8}
    (hacts : Acts side x e x' bytes) :
    (x'.ids = x.ids ∧ x'.nextStreamId = x.nextStreamId) ∨
      ∃ h, Adds side x x' e h ∧ x'.ids = x.ids ++ [h.id] ∧
        (side = .server → x'.nextStreamId = x.nextStreamId + 1) := by
  cases hacts with
  | move k h h' hk hmove => exact .inl ⟨End.ids_setStream h' hk hmove.id_eq, rfl⟩
  | accept hside => exact .inr ⟨_, .accept hside, by simp [End.ids], fun _ ↦ rfl⟩
  | insert k h hk hphase =>
      exact .inl ⟨End.ids_setStream { h with phase := .announcing } hk rfl, rfl⟩
  | announce k h hk hphase hopen =>
      exact .inl ⟨End.ids_setStream { h with phase := .reading } hk rfl, rfl⟩
  | send k h hk hphase hopen =>
      exact .inl ⟨End.ids_setStream { h with hand := [], phase := .reading } hk rfl, rfl⟩
  | leave k h h' hk hhalf => exact .inl ⟨End.ids_setStream h' hk hhalf.id_eq, rfl⟩
  | farewell k h h' hk hhalf hopen => exact .inl ⟨End.ids_setStream h' hk hhalf.id_eq, rfl⟩
  | silent k h h' hk hhalf hexited => exact .inl ⟨End.ids_setStream h' hk hhalf.id_eq, rfl⟩
  | handle frame rest hidle hread =>
      rcases handle_streams side { x with incoming := rest, handled := x.handled ++ [frame] } frame
        with hsame | ⟨id, hside, rfl, hadd, htable⟩
      · refine .inl ⟨by rw [End.ids, End.ids, hsame], ?_⟩
        exact handle_nextStreamId side _ frame
      · have hids : (x.streams ++ [Stream.new id .connecting]).map Stream.id = x.ids ++ [id] := by
          rw [List.map_append]
          rfl
        refine .inr ⟨_, .open hside hread (by rw [handle_toTraffic]) htable, ?_, ?_⟩
        · rw [End.ids, hadd, hids]
          rfl
        · rw [hside]
          exact fun h ↦ (by cases h)
  | deliver k id payload h hreader hk hdone =>
      exact .inl ⟨End.ids_setStream { h with queue := h.queue ++ [payload] } hk rfl, rfl⟩
  | _ => exact .inl ⟨rfl, rfl⟩

/-- Streams are only added. -/
theorem Acts.ids_isPrefix {side : Side} {x x' : End} {e : Event} {bytes : List UInt8}
    (hacts : Acts side x e x' bytes) : x.ids <+: x'.ids := by
  rcases hacts.ids with ⟨hids, -⟩ | ⟨h, -, hids, -⟩
  · exact hids ▸ List.prefix_rfl
  · exact hids ▸ List.prefix_append _ _

/-- Every stream is still there after a step. -/
theorem Acts.exists_turns {side : Side} {x x' : End} {e : Event} {bytes : List UInt8}
    (hacts : Acts side x e x' bytes) {k : Nat} {h : Stream} (hk : x.streams[k]? = some h) :
    ∃ h', x'.streams[k]? = some h' ∧ Turns side x k h e h' := by
  have hlen := hacts.ids_isPrefix.length_le
  rw [End.ids, End.ids, List.length_map, List.length_map] at hlen
  have hlt := (List.getElem?_eq_some_iff.mp hk).1
  have hk' : x'.streams[k]? = some (x'.streams.get ⟨k, hlt.trans_le hlen⟩) :=
    List.getElem?_eq_getElem _
  refine ⟨_, hk', ?_⟩
  rcases hacts.turns hk' with ⟨g, hg, hturns⟩ | ⟨hlast, -⟩
  · obtain rfl : h = g := Option.some.inj (hk.symm.trans hg)
    exact hturns
  · exact absurd hlast hlt.ne

/-! ## Sending -/

/-- What was queued for a stream and what is in hand is what was read from its socket. -/
structure Stream.Sends (enqueued : List MuxFrame) (h : Stream) : Prop where
  read : dataFor h.id enqueued ++ h.hand = h.read
  unread : h.phase.started = false → h.read = []
  idle : h.phase = .reading → h.hand = []
  fits : h.hand.length ≤ End.bufferSize

/-- An end queues for its streams what is read from their sockets, and nothing else
but `Open`, `Close` and `Pong`. -/
structure Sends (x : End) : Prop where
  streams : ∀ (k : Nat) (h : Stream), x.streams[k]? = some h → h.Sends x.enqueued
  strange : ∀ id, id ∉ x.ids → dataFor id x.enqueued = []
  replies : ∀ frame, x.reader = .replying frame → frame = .pong ∨ ∃ id, frame = .close id

theorem Stream.Sends.hand_eq_nil {enqueued : List MuxFrame} {h : Stream} (hs : h.Sends enqueued)
    (hphase : h.phase.started = false) : h.hand = [] := by
  have hread := hs.read
  rw [hs.unread hphase] at hread
  exact (List.append_eq_nil_iff.mp hread).2

theorem Stream.Sends.move {x : End} {k : Nat} {h h' : Stream} {e : Event}
    {enqueued : List MuxFrame} (hs : h.Sends enqueued) (hmove : Move x k h e h') :
    h'.Sends enqueued := by
  cases hmove with
  | read n hphase hpos hn hsent =>
      refine ⟨?_, fun hst ↦ (by cases hst), fun hph ↦ (by cases hph), ?_⟩
      · have hread := hs.read
        rw [hs.idle hphase, List.append_nil] at hread
        exact congrArg (· ++ (h.sent.drop h.read.length).take n) hread
      · exact (List.length_take_le n _).trans hn
  | refused hphase hexited =>
      exact ⟨hs.read, fun _ ↦ hs.unread (by rw [hphase]; rfl), fun hph ↦ (by cases hph), hs.fits⟩
  | connected hphase =>
      exact ⟨hs.read, fun hst ↦ (by cases hst), fun _ ↦ hs.hand_eq_nil (by rw [hphase]; rfl),
        hs.fits⟩
  | unconnected hphase | readError hphase | sendFails hphase =>
      exact ⟨hs.read, fun hst ↦ (by cases hst), fun hph ↦ (by cases hph), hs.fits⟩
  | eof hphase => exact ⟨hs.read, fun hst ↦ (by cases hst), fun hph ↦ (by cases hph), hs.fits⟩
  | _ => exact ⟨hs.read, hs.unread, hs.idle, hs.fits⟩

theorem Stream.Sends.half {side : Side} {leaves : Bool} {k : Nat} {h h' : Stream} {e : Event}
    {enqueued : List MuxFrame} (hs : h.Sends enqueued) (hhalf : Half side h leaves k e h') :
    h'.Sends enqueued := by
  cases hhalf with
  | first => exact ⟨hs.read, fun hst ↦ (by cases hst), fun hph ↦ (by cases hph), hs.fits⟩
  | second => exact ⟨hs.read, fun hst ↦ (by cases hst), fun hph ↦ (by cases hph), hs.fits⟩

/-- More is queued, but not for the stream. -/
theorem Stream.Sends.append {enqueued : List MuxFrame} {h : Stream} (hs : h.Sends enqueued)
    {frame : MuxFrame} (hframe : payloadFor h.id frame = []) : h.Sends (enqueued ++ [frame]) := by
  refine ⟨?_, hs.unread, hs.idle, hs.fits⟩
  simp only [dataFor_append, dataFor_cons, hframe, dataFor_nil, List.append_nil]
  exact hs.read

namespace Sends

variable {x : End} {k : Nat} {h : Stream}

theorem new : Sends .new := ⟨by simp [End.new], fun _ _ ↦ rfl, by simp [End.new]⟩

theorem setStream (hx : Sends x) {h' : Stream} (hk : x.streams[k]? = some h)
    (hs : h'.Sends x.enqueued) (hid : h'.id = h.id) : Sends (x.setStream k h') := by
  refine ⟨fun j g hj ↦ ?_, fun id hid' ↦ ?_, hx.replies⟩
  · rcases End.setStream_cases hj with ⟨-, rfl⟩ | ⟨-, hj⟩
    · exact hs
    · exact hx.streams j g hj
  · rw [End.ids_setStream h' hk hid] at hid'
    exact hx.strange id hid'

/-- A frame without data is queued. -/
theorem enqueue (hx : Sends x) {frame : MuxFrame} (hframe : ∀ id, payloadFor id frame = []) :
    Sends (x.enqueue frame) := by
  refine ⟨fun j g hj ↦ (hx.streams j g hj).append (hframe g.id), fun id hid ↦ ?_, hx.replies⟩
  simp only [End.enqueue, dataFor_append, dataFor_cons, hframe, dataFor_nil, List.append_nil]
  exact hx.strange id hid

/-- The piece in hand is queued. -/
theorem send (hx : Sends x) (hnodup : x.ids.Nodup) (hk : x.streams[k]? = some h) :
    Sends ((x.setStream k { h with hand := [], phase := .reading }).enqueue
      (.data h.id h.hand)) := by
  refine ⟨fun j g hj ↦ ?_, fun id hid ↦ ?_, hx.replies⟩
  · rcases End.setStream_cases hj with ⟨-, rfl⟩ | ⟨hjk, hj⟩
    · refine ⟨?_, fun hst ↦ (by cases hst), fun _ ↦ rfl, Nat.zero_le _⟩
      simp only [End.enqueue, End.setStream, dataFor_append, dataFor_cons, payloadFor_data_self,
        dataFor_nil, List.append_nil]
      exact (hx.streams k h hk).read
    · refine (hx.streams j g hj).append (payloadFor_data_ne ?_ _)
      exact fun hid ↦ hjk (End.eq_of_id_eq hnodup hj hk hid.symm)
  · rw [show ((x.setStream k { h with hand := [], phase := .reading }).enqueue
      (.data h.id h.hand)).ids = x.ids from End.ids_setStream _ hk rfl] at hid
    have hne : h.id ≠ id := fun heq ↦ hid (heq ▸ End.mem_ids hk)
    simp only [End.enqueue, End.setStream, dataFor_append, dataFor_cons, dataFor_nil,
      List.append_nil, payloadFor_data_ne hne]
    exact hx.strange id hid

/-- A stream is added under a new id. -/
theorem add (hx : Sends x) {id : UInt32} (hid : id ∉ x.ids) {phase : Phase}
    {nextStreamId : UInt32} {table : Table UInt32 Nat} :
    Sends { x with
      streams := x.streams ++ [.new id phase], nextStreamId := nextStreamId, table := table } := by
  refine ⟨fun j g hj ↦ ?_, fun i hi ↦ hx.strange i fun hmem ↦ hi ?_, hx.replies⟩
  · rcases eq_or_of_getElem?_concat hj with ⟨-, rfl⟩ | hj
    · refine ⟨?_, fun _ ↦ rfl, fun _ ↦ rfl, Nat.zero_le _⟩
      rw [show (Stream.new id phase).id = id from rfl, hx.strange id hid]
      rfl
    · exact hx.streams j g hj
  · rw [End.ids, List.map_append]
    exact List.mem_append_left _ hmem

/-- The reader gets on. -/
theorem setReader (hx : Sends x) {reader : Reader} {table : Table UInt32 Nat}
    (hreader : ∀ frame, reader = .replying frame → frame = .pong ∨ ∃ id, frame = .close id) :
    Sends { x with reader := reader, table := table } :=
  ⟨hx.streams, hx.strange, hreader⟩

theorem handle (hx : Sends x) {side : Side} {frame : MuxFrame} {rest : List UInt8}
    (hnodup : (Streams.handle side { x with
      incoming := rest, handled := x.handled ++ [frame] } frame).ids.Nodup) :
    Sends (Streams.handle side { x with
      incoming := rest, handled := x.handled ++ [frame] } frame) := by
  have hx' : Sends { x with incoming := rest, handled := x.handled ++ [frame] } :=
    ⟨hx.streams, hx.strange, hx.replies⟩
  cases frame with
  | data id payload =>
      simp only [Streams.handle]
      split
      · exact hx'.setReader fun _ h ↦ by cases h
      · exact hx'.setReader fun _ h ↦ .inr ⟨id, (Reader.replying.inj h).symm⟩
  | «open» id =>
      cases side with
      | server => exact hx'
      | client =>
          refine hx'.add fun hmem ↦ ?_
          simp only [Streams.handle, End.ids, List.map_append] at hnodup
          exact List.disjoint_of_nodup_append hnodup hmem List.mem_cons_self
  | close id => exact hx'.setReader hx'.replies
  | ping => exact hx'.setReader fun _ h ↦ .inl (Reader.replying.inj h).symm
  | pong => exact hx'

/-- Every step keeps to what is read. -/
theorem acts (hx : Sends x) {side : Side} {x' : End} {e : Event} {bytes : List UInt8}
    (hnodup : x'.ids.Nodup) (hacts : Acts side x e x' bytes) : Sends x' := by
  have hold : x.ids.Nodup := hnodup.sublist hacts.ids_isPrefix.sublist
  cases hacts with
  | move k h h' hk hmove => exact hx.setStream hk ((hx.streams k h hk).move hmove) hmove.id_eq
  | accept hside =>
      refine hx.add fun hmem ↦ ?_
      simp only [End.ids, List.map_append] at hnodup
      exact List.disjoint_of_nodup_append hnodup hmem List.mem_cons_self
  | insert k h hk hphase =>
      have hs := hx.streams k h hk
      have hs' : Stream.Sends x.enqueued { h with phase := .announcing } :=
        ⟨hs.read, fun _ ↦ hs.unread (by rw [hphase]; rfl), fun hph ↦ (by cases hph), hs.fits⟩
      exact (hx.setStream hk hs' rfl).setReader hx.replies
  | announce k h hk hphase hopen =>
      have hs := hx.streams k h hk
      have hs' : Stream.Sends x.enqueued { h with phase := .reading } :=
        ⟨hs.read, fun hst ↦ (by cases hst), fun _ ↦ hs.hand_eq_nil (by rw [hphase]; rfl), hs.fits⟩
      exact (hx.setStream hk hs' rfl).enqueue fun _ ↦ rfl
  | send k h hk hphase hopen => exact hx.send hold hk
  | leave k h h' hk hhalf =>
      exact (hx.setStream hk ((hx.streams k h hk).half hhalf) hhalf.id_eq).setReader hx.replies
  | farewell k h h' hk hhalf hopen =>
      exact (hx.setStream hk ((hx.streams k h hk).half hhalf) hhalf.id_eq).enqueue fun _ ↦ rfl
  | silent k h h' hk hhalf hexited =>
      exact hx.setStream hk ((hx.streams k h hk).half hhalf) hhalf.id_eq
  | readerFails hidle => exact hx.setReader fun _ h ↦ by cases h
  | garbled error hidle hread => exact hx.setReader fun _ h ↦ by cases h
  | handle frame rest hidle hread => exact hx.handle hnodup
  | deliver k id payload h hreader hk hdone =>
      have hs := hx.streams k h hk
      have hs' : Stream.Sends x.enqueued { h with queue := h.queue ++ [payload] } :=
        ⟨hs.read, hs.unread, hs.idle, hs.fits⟩
      exact (hx.setStream hk hs' rfl).setReader fun _ h ↦ by cases h
  | undeliverable k id payload h hreader hk hdone => exact hx.setReader fun _ h ↦ by cases h
  | reply frame hreader hopen =>
      refine (hx.enqueue (fun id ↦ ?_)).setReader fun _ h ↦ by cases h
      rcases hx.replies frame hreader with rfl | ⟨i, rfl⟩ <;> rfl
  | unreplied frame hreader hexited => exact hx.setReader fun _ h ↦ by cases h
  | write frame rest hopen hframes => exact ⟨hx.streams, hx.strange, hx.replies⟩
  | writePart frame rest n hopen hframes hn => exact ⟨hx.streams, hx.strange, hx.replies⟩
  | stop => exact ⟨hx.streams, hx.strange, hx.replies⟩

/-- What a step does to the work connection. -/
theorem traffic (hx : Sends x) {side : Side} {x' : End} {e : Event} {bytes : List UInt8}
    (hacts : Acts side x e x' bytes) : x.toTraffic.Step x'.toTraffic bytes := by
  cases hacts with
  | announce k h hk hphase hopen => exact .queue (.open h.id) hopen trivial
  | send k h hk hphase hopen =>
      refine .queue (.data h.id h.hand) hopen ((hx.streams k h hk).fits.trans ?_)
      unfold End.bufferSize Mux.maxFramePayload
      omega
  | farewell k h h' hk hhalf hopen => exact .queue (.close h.id) hopen trivial
  | handle frame rest hidle hread =>
      rw [handle_toTraffic]
      exact .handle frame rest hread
  | reply frame hreader hopen =>
      refine .queue frame hopen ?_
      rcases hx.replies frame hreader with rfl | ⟨id, rfl⟩ <;> trivial
  | write frame rest hopen hframes => exact .write frame rest hopen hframes
  | writePart frame rest n hopen hframes hn => exact .writePart frame rest n hopen hframes hn
  | stop => exact .stop
  | _ => exact .quiet

end Sends

/-! ## Receiving -/

/-- The piece that the reader is sending into the channel of a stream. -/
def End.inHand (x : End) (k : Nat) : List UInt8 :=
  match x.reader with
  | .delivering j _ payload => if j = k then payload else []
  | _ => []

/-- What got into the channel of a stream is a beginning of what was read for it, and
all of it as long as somebody can send. -/
structure Stream.Receives (handled : List MuxFrame) (hasSender : Bool) (inHand : List UInt8)
    (h : Stream) : Prop where
  accepted : h.accepted <+: dataFor h.id handled
  whole : h.done = false → hasSender = true → h.accepted ++ inHand = dataFor h.id handled

/-- The channels of an end get what is read for them. -/
structure Receives (x : End) : Prop where
  streams : ∀ (k : Nat) (h : Stream), x.streams[k]? = some h →
    h.Receives x.handled (x.hasSender k h.id) (x.inHand k)
  table : ∀ id k, x.table.lookup id = some k → ∃ h, x.streams[k]? = some h ∧ h.id = id
  reader : ∀ k id payload, x.reader = .delivering k id payload →
    ∃ h, x.streams[k]? = some h ∧ h.id = id

theorem End.hasSender_iff {x : End} {k : Nat} {id : UInt32} :
    x.hasSender k id = true ↔ x.table.lookup id = some k ∨
      ∃ i payload, x.reader = .delivering k i payload := by
  unfold End.hasSender
  cases x.reader <;> simp

theorem End.inHand_of_idle {x : End} (h : x.reader = .idle) (k : Nat) : x.inHand k = [] := by
  rw [End.inHand, h]

/-- If somebody can send after a step of the map or the reader, then by the map, unless
the reader is the one. -/
theorem End.hasSender_of_idle {x : End} (hidle : x.reader = .idle) {k : Nat} {id : UInt32} :
    x.hasSender k id = true ↔ x.table.lookup id = some k := by
  rw [End.hasSender_iff, hidle]
  simp

/-- Taking a piece off a channel or writing some of it loses nothing. -/
theorem Stream.accepted_take {h : Stream} {piece : List UInt8} {queue : List (List UInt8)}
    (hwriting : h.writing = []) (hqueue : h.queue = piece :: queue) :
    ({ h with writing := piece, queue := queue } : Stream).accepted = h.accepted := by
  simp [Stream.accepted, hwriting, hqueue]

theorem Stream.accepted_write (h : Stream) (n : Nat) :
    ({ h with
      written := h.written ++ h.writing.take n, writing := h.writing.drop n } : Stream).accepted =
      h.accepted := by
  simp only [Stream.accepted]
  rw [List.append_assoc, ← List.append_assoc (List.take n h.writing), List.take_append_drop]

/-- A step changes what is in a channel only by dropping it. -/
theorem Move.accepted {x : End} {k : Nat} {h h' : Stream} {e : Event} (hmove : Move x k h e h') :
    (h'.accepted = h.accepted ∧ h'.done = h.done) ∨
      h'.done = true ∧ h'.accepted <+: h.accepted := by
  have hstop : h.stop.accepted <+: h.accepted := by
    simp [Stream.accepted, Stream.stop]
  cases hmove with
  | refused | unconnected => exact .inr ⟨rfl, hstop⟩
  | writeError | cancel | drained => exact .inr ⟨rfl, hstop⟩
  | take piece queue hstarted hdone hwriting hqueue =>
      exact .inl ⟨Stream.accepted_take hwriting hqueue, rfl⟩
  | write n hstarted hdone hpos hn => exact .inl ⟨h.accepted_write n, rfl⟩
  | _ => exact .inl ⟨rfl, rfl⟩

namespace Receives

variable {x : End} {k : Nat} {h : Stream}

theorem new : Receives .new := ⟨by simp [End.new], by simp [End.new], by simp [End.new]⟩

/-- A stream gets on, and nobody new can send to it. -/
theorem setStream (hx : Receives x) {h' : Stream} (hk : x.streams[k]? = some h)
    (hr : h'.Receives x.handled (x.hasSender k h.id) (x.inHand k)) (hid : h'.id = h.id) :
    Receives (x.setStream k h') := by
  refine ⟨fun j g hj ↦ ?_, fun i j hj ↦ End.exists_setStream hk hid (hx.table i j hj),
    fun j i payload hj ↦ End.exists_setStream hk hid (hx.reader j i payload hj)⟩
  rcases End.setStream_cases hj with ⟨rfl, rfl⟩ | ⟨-, hj⟩
  · rw [hid]
    exact hr
  · exact hx.streams j g hj

/-- A stream gets on without a change to its channel. -/
theorem keep (hx : Receives x) {h' : Stream} (hk : x.streams[k]? = some h)
    (haccepted : h'.accepted = h.accepted) (hdone : h'.done = h.done) (hid : h'.id = h.id) :
    Receives (x.setStream k h') := by
  have hr := hx.streams k h hk
  refine hx.setStream hk ⟨?_, ?_⟩ hid
  · rw [haccepted, hid]
    exact hr.accepted
  · rw [haccepted, hid, hdone]
    exact hr.whole

/-- Senders disappear. -/
theorem shrink (hx : Receives x) {table : Table UInt32 Nat} {reader : Reader}
    (htable : ∀ id k, table.lookup id = some k → x.table.lookup id = some k)
    (hreader : ∀ k id payload, reader ≠ .delivering k id payload)
    (hhand : ∀ k h, x.streams[k]? = some h → h.done = false → table.lookup h.id = some k →
      x.inHand k = []) :
    Receives { x with table := table, reader := reader } := by
  refine ⟨fun j g hj ↦ ⟨(hx.streams j g hj).accepted, fun hdone hsender ↦ ?_⟩,
    fun i j hj ↦ hx.table i j (htable i j hj), fun j i payload hj ↦ absurd hj (hreader j i payload)⟩
  have hlookup : table.lookup g.id = some j := by
    rcases End.hasSender_iff.mp hsender with hlookup | ⟨i, payload, hdel⟩
    · exact hlookup
    · exact absurd hdel (hreader j i payload)
  have hwhole := (hx.streams j g hj).whole hdone
    (End.hasSender_iff.mpr (.inl (htable g.id j hlookup)))
  rw [hhand j g hj hdone hlookup] at hwhole
  have hnone : ({ x with table := table, reader := reader } : End).inHand j = [] := by
    unfold End.inHand
    cases reader with
    | delivering a b c => exact absurd rfl (hreader a b c)
    | _ => rfl
  rw [hnone]
  exact hwhole

/-- A frame that carries nothing is read. -/
theorem handled (hx : Receives x) {frame : MuxFrame} (hframe : ∀ id, payloadFor id frame = [])
    (rest : List UInt8) :
    Receives { x with incoming := rest, handled := x.handled ++ [frame] } := by
  refine ⟨fun j g hj ↦ ?_, hx.table, hx.reader⟩
  have hr := hx.streams j g hj
  have hdata : dataFor g.id (x.handled ++ [frame]) = dataFor g.id x.handled := by
    simp [hframe]
  exact ⟨hdata ▸ hr.accepted, fun hdone hsender ↦ (hr.whole hdone hsender).trans hdata.symm⟩

/-- A piece is read for a stream in the map. -/
theorem handleData (hx : Receives x) (hidle : x.reader = .idle) {id : UInt32}
    {payload rest : List UInt8} (hk : x.table.lookup id = some k) :
    Receives { x with
      incoming := rest, handled := x.handled ++ [.data id payload],
      reader := .delivering k id payload } := by
  refine ⟨fun j g hj ↦ ⟨?_, fun hdone hsender ↦ ?_⟩, hx.table, fun j i bytes hj ↦ ?_⟩
  · exact (hx.streams j g hj).accepted.trans (dataFor_mono (List.prefix_append _ _) g.id)
  · have hwhole := (hx.streams j g hj).whole hdone
    rw [End.inHand_of_idle hidle, List.append_nil] at hwhole
    simp only [dataFor_append, dataFor_cons, dataFor_nil, List.append_nil]
    by_cases hjk : j = k
    · -- The piece is for this stream, and the reader has it in hand.
      subst hjk
      obtain ⟨g', hg', rfl⟩ := hx.table id j hk
      obtain rfl : g = g' := Option.some.inj (hj.symm.trans hg')
      rw [hwhole (End.hasSender_iff.mpr (.inl hk)), payloadFor_data_self]
      exact congrArg (dataFor g.id x.handled ++ ·) (if_pos rfl)
    · have hlookup : x.table.lookup g.id = some j := by
        rcases End.hasSender_iff.mp hsender with hlookup | ⟨i, bytes, hdel⟩
        · exact hlookup
        · exact absurd (Reader.delivering.inj hdel).1.symm hjk
      have hne : id ≠ g.id := by
        rintro rfl
        exact hjk (Option.some.inj (hlookup.symm.trans hk))
      rw [hwhole (End.hasSender_iff.mpr (.inl hlookup)), payloadFor_data_ne hne]
      exact congrArg (dataFor g.id x.handled ++ ·) (if_neg (Ne.symm hjk))
  · obtain ⟨rfl, rfl, -⟩ := Reader.delivering.inj hj
    exact hx.table id k hk

/-- A piece is read for a stream that is not in the map. -/
theorem handleStray (hx : Receives x) (hidle : x.reader = .idle) {id : UInt32}
    {payload rest : List UInt8} (hnone : x.table.lookup id = none) :
    Receives { x with
      incoming := rest, handled := x.handled ++ [.data id payload],
      reader := .replying (.close id) } := by
  refine ⟨fun j g hj ↦ ⟨?_, fun hdone hsender ↦ ?_⟩, hx.table, fun j i bytes hj ↦ by cases hj⟩
  · exact (hx.streams j g hj).accepted.trans (dataFor_mono (List.prefix_append _ _) g.id)
  · have hwhole := (hx.streams j g hj).whole hdone
    rw [End.inHand_of_idle hidle, List.append_nil] at hwhole
    have hlookup : x.table.lookup g.id = some j := by
      rcases End.hasSender_iff.mp hsender with hlookup | ⟨i, bytes, hdel⟩
      · exact hlookup
      · cases hdel
    have hne : id ≠ g.id := by
      rintro rfl
      rw [hnone] at hlookup
      cases hlookup
    simp only [dataFor_append, dataFor_cons, dataFor_nil, List.append_nil, payloadFor_data_ne hne]
    rw [← hwhole (End.hasSender_iff.mpr (.inl hlookup))]
    exact List.append_nil _

/-- A stream that was read nothing for enters the map, under an id of its own. -/
theorem insert (hx : Receives x) (hk : x.streams[k]? = some h)
    (hnone : dataFor h.id x.handled = []) : Receives { x with table := x.table.insert h.id k } := by
  refine ⟨fun j g hj ↦ ⟨(hx.streams j g hj).accepted, fun hdone hsender ↦ ?_⟩, fun i j hj ↦ ?_,
    hx.reader⟩
  · show g.accepted ++ x.inHand j = _
    rcases End.hasSender_iff.mp hsender with hlookup | hdel
    · rw [Table.lookup_insert_ite] at hlookup
      split at hlookup
      · next hid =>
          -- Nothing has been read for the stream, so nothing is in its channel or in hand.
          obtain rfl := Option.some.inj hlookup
          obtain rfl : h = g := Option.some.inj (hk.symm.trans hj)
          have haccepted := (hx.streams k h hk).accepted
          rw [hnone, List.prefix_nil] at haccepted
          rw [hnone, haccepted, List.nil_append]
          by_cases hs : x.hasSender k h.id = true
          · have hwhole := (hx.streams k h hk).whole hdone hs
            rw [hnone] at hwhole
            exact (List.append_eq_nil_iff.mp hwhole).2
          · unfold End.inHand
            split
            · next j i payload hdel =>
                refine if_neg fun hjk ↦ hs ?_
                exact End.hasSender_iff.mpr (.inr ⟨i, payload, hjk ▸ hdel⟩)
            · rfl
      · exact (hx.streams j g hj).whole hdone (End.hasSender_iff.mpr (.inl hlookup))
    · exact (hx.streams j g hj).whole hdone (End.hasSender_iff.mpr (.inr hdel))
  · rw [Table.lookup_insert_ite] at hj
    split at hj
    · next hid =>
        obtain rfl := Option.some.inj hj
        exact ⟨h, hk, hid.symm⟩
    · exact hx.table i j hj

/-- A stream is added that nobody can send to yet. -/
theorem add (hx : Receives x) (id : UInt32) (phase : Phase) {nextStreamId : UInt32} :
    Receives { x with
      streams := x.streams ++ [.new id phase], nextStreamId := nextStreamId } := by
  have hexists : ∀ (j : Nat) (i : UInt32), (∃ g, x.streams[j]? = some g ∧ g.id = i) →
      ∃ g, (x.streams ++ [Stream.new id phase])[j]? = some g ∧ g.id = i := by
    rintro j i ⟨g, hj, rfl⟩
    exact ⟨g, by rw [List.getElem?_append_left (List.getElem?_eq_some_iff.mp hj).1]; exact hj, rfl⟩
  refine ⟨fun j g hj ↦ ?_, fun i j hj ↦ hexists j i (hx.table i j hj),
    fun j i payload hj ↦ hexists j i (hx.reader j i payload hj)⟩
  rcases eq_or_of_getElem?_concat hj with ⟨rfl, rfl⟩ | hj
  · refine ⟨List.nil_prefix, fun _ hsender ↦ ?_⟩
    have hlen : ¬∃ g, x.streams[x.streams.length]? = some g := by simp
    rcases End.hasSender_iff.mp hsender with hlookup | ⟨i, payload, hdel⟩
    · obtain ⟨g, hg, -⟩ := hx.table _ _ hlookup
      exact absurd ⟨g, hg⟩ hlen
    · obtain ⟨g, hg, -⟩ := hx.reader _ _ _ hdel
      exact absurd ⟨g, hg⟩ hlen
  · exact hx.streams j g hj

/-- The piece in hand enters the channel it is for. -/
theorem deliver (hx : Receives x) {id : UInt32} {payload : List UInt8}
    (hreader : x.reader = .delivering k id payload) (hk : x.streams[k]? = some h)
    (hdone : h.done = false) :
    Receives { x.setStream k { h with queue := h.queue ++ [payload] } with reader := .idle } := by
  refine ⟨fun j g hj ↦ ?_, fun i j hj ↦ End.exists_setStream hk rfl (hx.table i j hj),
    fun j i bytes hj ↦ by cases hj⟩
  rcases End.setStream_cases hj with ⟨rfl, rfl⟩ | ⟨hjk, hj⟩
  · have hwhole := (hx.streams j h hk).whole hdone
      (End.hasSender_iff.mpr (.inr ⟨id, payload, hreader⟩))
    rw [End.inHand, hreader] at hwhole
    have haccepted : Stream.accepted { h with queue := h.queue ++ [payload] } =
        dataFor h.id x.handled := by
      rw [← hwhole]
      simp [Stream.accepted]
    exact ⟨haccepted ▸ List.prefix_rfl, fun _ _ ↦ (List.append_nil _).trans haccepted⟩
  · refine ⟨(hx.streams j g hj).accepted, fun hdone' hsender ↦ ?_⟩
    have hlookup := (End.hasSender_of_idle rfl).mp hsender
    have hwhole := (hx.streams j g hj).whole hdone' (End.hasSender_iff.mpr (.inl hlookup))
    rw [End.inHand, hreader] at hwhole
    simp only [if_neg (Ne.symm hjk)] at hwhole
    exact hwhole

/-- Streams leave the map. -/
theorem remove (hx : Receives x) (id : UInt32) : Receives (x.remove id) := by
  have htable : ∀ i j, (x.remove id).table.lookup i = some j → x.table.lookup i = some j := by
    intro i j hj
    rw [End.remove, Table.lookup_erase_ite] at hj
    split at hj
    · cases hj
    · exact hj
  refine ⟨fun j g hj ↦ ⟨(hx.streams j g hj).accepted, fun hdone hsender ↦ ?_⟩,
    fun i j hj ↦ hx.table i j (htable i j hj), hx.reader⟩
  refine (hx.streams j g hj).whole hdone (End.hasSender_iff.mpr ?_)
  exact (End.hasSender_iff.mp hsender).imp_left (htable g.id j)

/-- Frames are queued. -/
theorem enqueue (hx : Receives x) (frame : MuxFrame) : Receives (x.enqueue frame) :=
  ⟨hx.streams, hx.table, hx.reader⟩

/-- The reader stops for good. -/
theorem exited (hx : Receives x) : Receives { x with reader := .exited, table := ∅ } :=
  hx.shrink (by simp) (by simp) (by simp)

/-- The reader has nothing in hand. -/
theorem toIdle (hx : Receives x) (hreader : ∀ k id payload, x.reader ≠ .delivering k id payload) :
    Receives { x with reader := .idle } := by
  refine hx.shrink (fun _ _ hj ↦ hj) (by simp) fun j _ _ _ _ ↦ ?_
  unfold End.inHand
  split
  · next hdel => exact absurd hdel (hreader _ _ _)
  · rfl

/-- A piece cannot be delivered, because the receiver of the channel is gone. -/
theorem undeliverable (hx : Receives x) {id : UInt32} {payload : List UInt8}
    (hreader : x.reader = .delivering k id payload) (hk : x.streams[k]? = some h)
    (hdone : h.done = true) : Receives { x.remove id with reader := .idle } := by
  refine (hx.remove id).shrink (fun _ _ hj ↦ hj) (by simp) fun j g hj hopen _ ↦ ?_
  rw [End.inHand, show (x.remove id).reader = _ from hreader]
  refine if_neg fun hkj ↦ ?_
  subst hkj
  obtain rfl : h = g := Option.some.inj (hk.symm.trans hj)
  rw [hdone] at hopen
  cases hopen

theorem handle (hx : Receives x) {side : Side} {frame : MuxFrame} {rest : List UInt8}
    (hidle : x.reader = .idle)
    (hopen : ∀ id, side = .client → frame = .open id → dataFor id x.handled = []) :
    Receives (Streams.handle side { x with
      incoming := rest, handled := x.handled ++ [frame] } frame) := by
  cases frame with
  | data id payload =>
      simp only [Streams.handle]
      split
      · next hk => exact hx.handleData hidle hk
      · next hnone => exact hx.handleStray hidle hnone
  | «open» id =>
      have hx' : Receives { x with incoming := rest, handled := x.handled ++ [.open id] } :=
        hx.handled (fun _ ↦ rfl) rest
      cases side with
      | server => exact hx'
      | client =>
          have hnew : (x.streams ++ [Stream.new id .connecting])[x.streams.length]? =
              some (.new id .connecting) := by simp
          refine (hx'.add id .connecting).insert hnew ?_
          simp [Stream.new, hopen id rfl rfl]
  | close id => exact (hx.handled (fun _ ↦ rfl) rest).remove id
  | ping =>
      refine (hx.handled (fun _ ↦ rfl) rest).shrink (fun _ _ hj ↦ hj) (by simp) fun j _ _ _ _ ↦ ?_
      exact End.inHand_of_idle hidle j
  | pong => exact hx.handled (fun _ ↦ rfl) rest

/-- Every step delivers only what was read, provided that nothing was read for a stream
before it enters the map. -/
theorem acts (hx : Receives x) {side : Side} {x' : End} {e : Event} {bytes : List UInt8}
    (hinsert : ∀ k h, e = .insert k → x.streams[k]? = some h → h.phase = .opening →
      dataFor h.id x.handled = [])
    (hopen : ∀ id rest, side = .client → Mux.readMuxFrame x.incoming = .done (.open id) rest →
      dataFor id x.handled = [])
    (hacts : Acts side x e x' bytes) : Receives x' := by
  cases hacts with
  | move k h h' hk hmove =>
      rcases hmove.accepted with ⟨haccepted, hdone⟩ | ⟨hdone, hpre⟩
      · exact hx.keep hk haccepted hdone hmove.id_eq
      · refine hx.setStream hk ⟨?_, fun hopen ↦ ?_⟩ hmove.id_eq
        · rw [hmove.id_eq]
          exact hpre.trans (hx.streams k h hk).accepted
        · rw [hdone] at hopen
          cases hopen
  | accept hside => exact hx.add _ _
  | insert k h hk hphase =>
      have hx' : Receives (x.setStream k { h with phase := .announcing }) := hx.keep hk rfl rfl rfl
      have hk' : (x.setStream k { h with phase := .announcing }).streams[k]? =
          some { h with phase := .announcing } := End.getElem?_setStream hk
      have hx'' := hx'.insert hk' (hinsert k h rfl hk hphase)
      exact hx''
  | announce k h hk hphase hopen =>
      have hx' : Receives (x.setStream k { h with phase := .reading }) := hx.keep hk rfl rfl rfl
      exact hx'.enqueue _
  | send k h hk hphase hopen =>
      have hx' : Receives (x.setStream k { h with hand := [], phase := .reading }) :=
        hx.keep hk rfl rfl rfl
      exact hx'.enqueue _
  | leave k h h' hk hhalf =>
      have hx' : Receives (x.setStream k h') := by
        cases hhalf <;> exact hx.keep hk rfl rfl rfl
      exact hx'.remove h.id
  | farewell k h h' hk hhalf hopen =>
      have hx' : Receives (x.setStream k h') := by
        cases hhalf <;> exact hx.keep hk rfl rfl rfl
      exact hx'.enqueue _
  | silent k h h' hk hhalf hexited => cases hhalf <;> exact hx.keep hk rfl rfl rfl
  | readerFails hidle => exact hx.exited
  | garbled error hidle hread => exact hx.exited
  | handle frame rest hidle hread =>
      exact hx.handle hidle fun id hside hframe ↦ hopen id rest hside (hframe ▸ hread)
  | deliver k id payload h hreader hk hdone => exact hx.deliver hreader hk hdone
  | undeliverable k id payload h hreader hk hdone => exact hx.undeliverable hreader hk hdone
  | reply frame hreader hopen =>
      exact (hx.enqueue frame).toIdle fun k id payload ↦ by
        rw [show (x.enqueue frame).reader = _ from hreader]
        simp
  | unreplied frame hreader hexited =>
      exact hx.toIdle fun k id payload ↦ by
        rw [hreader]
        simp
  | write frame rest hopen hframes => exact ⟨hx.streams, hx.table, hx.reader⟩
  | writePart frame rest n hopen hframes hn => exact ⟨hx.streams, hx.table, hx.reader⟩
  | stop => exact ⟨hx.streams, hx.table, hx.reader⟩

end Receives

end Arp.EndToEnd.Streams
