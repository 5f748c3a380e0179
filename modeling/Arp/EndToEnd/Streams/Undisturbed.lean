import Arp.EndToEnd.Streams.Coherence

/-!
# Undisturbed streams

What holds of a stream while nothing fails: its sockets report no error, and the work
connection stays up.  Then its handler ends only with its socket, having queued all
there was, and the task that writes to the socket ends only when it is aborted by the
handler or when nothing more can come.  The frames of the stream come in order: its
`Open`, and then its pieces, none of them empty.  Other streams may fail meanwhile.
-/

namespace Arp.EndToEnd.Streams

open Arp.Common Arp.Lib

/-- The work connection fails. -/
def Event.tearsDown : Event → Bool
  | .readerFails | .writeFrameFails _ | .writerExits => true
  | _ => false

/-- The socket of the stream at `k` reports an error. -/
def Event.breaks (k : Nat) : Event → Bool
  | .connect j ok => !ok && j == k
  | .readError j | .writeError j => j == k
  | _ => false

/-- The work connection does not fail, and the sockets of a stream report no error. -/
def NoError (i : UInt32) (s : State) (e : Side × Event) : Prop :=
  match e.2 with
  | .readerFails | .writeFrameFails _ | .writerExits => False
  | .connect k ok => ok = false → ∀ h ∈ (s.get e.1).streams[k]?, h.id ≠ i
  | .readError k | .writeError k => ∀ h ∈ (s.get e.1).streams[k]?, h.id ≠ i
  | _ => True

instance (i : UInt32) (s : State) (e : Side × Event) : Decidable (NoError i s e) := by
  obtain ⟨side, e⟩ := e
  cases e <;> unfold NoError <;> infer_instance

theorem NoError.tearsDown {i : UInt32} {s : State} {side : Side} {e : Event}
    (hno : NoError i s (side, e)) : e.tearsDown = false := by
  cases e with
  | readerFails | writeFrameFails | writerExits => exact absurd hno id
  | _ => rfl

theorem NoError.breaks {i : UInt32} {s : State} {side : Side} {e : Event}
    (hno : NoError i s (side, e)) {k : Nat} {h : Stream} (hk : (s.get side).streams[k]? = some h)
    (hid : h.id = i) : e.breaks k = false := by
  refine Bool.eq_false_of_not_eq_true fun hbreaks ↦ ?_
  cases e with
  | connect j ok =>
      cases ok with
      | true => cases hbreaks
      | false =>
          obtain rfl : j = k := by simpa [Event.breaks] using hbreaks
          exact hno rfl h hk hid
  | readError j | writeError j =>
      obtain rfl : j = k := by simpa [Event.breaks] using hbreaks
      exact hno h hk hid
  | _ => cases hbreaks

/-! ## One end -/

/-- A stream where nothing has failed. -/
structure Stream.Calm (h : Stream) : Prop where
  read : h.read <+: h.sent
  ended : h.phase.ended = true → h.finished = true ∧ h.read = h.sent ∧ h.hand = []
  sending : h.phase = .sending → h.hand ≠ []
  done : h.done = true → h.writing = [] ∧ h.queue = []
  aborted : h.aborted = true ↔ h.phase = .returned

theorem Stream.Calm.new (id : UInt32) {phase : Phase} (hphase : phase.started = false) :
    (Stream.new id phase).Calm := by
  refine ⟨List.nil_prefix, fun _ ↦ ?_, fun h ↦ ?_, fun h ↦ (by cases h), ?_⟩
  · cases phase <;> simp_all [Stream.new, Phase.started, Phase.ended]
  · rw [show phase = .sending from h] at hphase
    cases hphase
  · refine ⟨fun h ↦ (by cases h), fun h ↦ ?_⟩
    rw [show phase = .returned from h] at hphase
    cases hphase

section

variable {side : Side} {x x' : End} {e : Event} {bytes : List UInt8} {k : Nat} {h h' : Stream}

/-- A stream in a phase before the end that gets to another such phase. -/
theorem Stream.Calm.turn (hcalm : h.Calm) (hphase : h.phase ≠ .returned) {phase : Phase}
    (hended : phase.ended = false) (hsending : phase ≠ .sending) :
    ({ h with phase := phase } : Stream).Calm := by
  refine ⟨hcalm.read, fun h ↦ ?_, fun h ↦ absurd h hsending, hcalm.done, ?_⟩
  · rw [show phase.ended = true from h] at hended
    cases hended
  · refine ⟨fun h ↦ absurd (hcalm.aborted.mp h) hphase, fun h ↦ ?_⟩
    rw [show phase = .returned from h] at hended
    cases hended

/-- The writing task ends. -/
theorem Stream.Calm.stop (hcalm : h.Calm) : h.stop.Calm :=
  ⟨hcalm.read, hcalm.ended, hcalm.sending, fun _ ↦ ⟨rfl, rfl⟩, hcalm.aborted⟩

theorem Move.calm (hmove : Move x k h e h') (hcalm : h.Calm) (he : e.breaks k = false)
    (hopen : x.writerExited = false) (hidle : h.phase = .reading → h.hand = []) : h'.Calm := by
  cases hmove with
  | peerSends bytes hfinished hphase =>
      refine ⟨hcalm.read.trans (List.prefix_append _ _), fun hended ↦ ?_, hcalm.sending, hcalm.done,
        hcalm.aborted⟩
      rw [(hcalm.ended hended).1] at hfinished
      cases hfinished
  | peerFinishes hphase =>
      exact ⟨hcalm.read, fun hended ↦ ⟨rfl, (hcalm.ended hended).2⟩, hcalm.sending, hcalm.done,
        hcalm.aborted⟩
  | refused hphase hexited | sendFails hphase hexited =>
      rw [hopen] at hexited
      cases hexited
  | connected hphase => exact hcalm.turn (by simp [hphase]) rfl (by simp)
  | unconnected | readError | writeError => simp [Event.breaks] at he
  | read n hphase hpos hn hsent =>
      have hlen : ((h.sent.drop h.read.length).take n).length = n := by
        rw [List.length_take, List.length_drop]
        omega
      refine ⟨?_, fun hended ↦ (by cases hended), fun _ hnil ↦ ?_, hcalm.done, ?_⟩
      · obtain ⟨more, hmore⟩ := hcalm.read
        rw [← hmore, List.drop_left]
        exact List.prefix_append_right_inj _ |>.mpr (List.take_prefix _ _)
      · rw [show (h.sent.drop h.read.length).take n = [] from hnil, List.length_nil] at hlen
        omega
      · refine ⟨fun h ↦ ?_, fun h ↦ (by cases h)⟩
        rw [hcalm.aborted.mp h] at hphase
        cases hphase
  | eof hphase hfinished hread =>
      refine ⟨hcalm.read, fun _ ↦ ⟨hfinished, hread, hidle hphase⟩, fun h ↦ (by cases h),
        hcalm.done, ⟨fun h ↦ ?_, fun h ↦ (by cases h)⟩⟩
      rw [hcalm.aborted.mp h] at hphase
      cases hphase
  | take piece queue hstarted hdone hwriting hqueue =>
      refine ⟨hcalm.read, hcalm.ended, hcalm.sending, fun h ↦ ?_, hcalm.aborted⟩
      rw [show _ = true from h] at hdone
      cases hdone
  | write n hstarted hdone hpos hn =>
      refine ⟨hcalm.read, hcalm.ended, hcalm.sending, fun h ↦ ?_, hcalm.aborted⟩
      rw [show _ = true from h] at hdone
      cases hdone
  | cancel | drained => exact hcalm.stop

theorem Half.calm {leaves : Bool} (hhalf : Half side h leaves k e h') (hcalm : h.Calm) :
    h'.Calm := by
  cases hhalf with
  | first hside hphase =>
      have hended := hcalm.ended (by rw [hphase]; rfl)
      refine ⟨hcalm.read, fun _ ↦ hended, fun h ↦ (by cases h), hcalm.done,
        ⟨fun h ↦ ?_, fun h ↦ (by cases h)⟩⟩
      rw [hcalm.aborted.mp h] at hphase
      cases hphase
  | second hside hphase =>
      have hended := hcalm.ended (by rw [hphase]; rfl)
      exact ⟨hcalm.read, fun _ ↦ hended, fun h ↦ (by cases h), hcalm.done,
        ⟨fun _ ↦ rfl, fun _ ↦ rfl⟩⟩

theorem Turns.calm (hturns : Turns side x k h e h') (hcalm : h.Calm) (he : e.breaks k = false)
    (hopen : x.writerExited = false) (hidle : h.phase = .reading → h.hand = []) : h'.Calm := by
  cases hturns with
  | stay => exact hcalm
  | move hmove => exact hmove.calm hcalm he hopen hidle
  | insert hphase | announce hphase =>
      exact hcalm.turn (by simp [hphase]) rfl (by simp)
  | send hphase =>
      refine ⟨hcalm.read, fun h ↦ (by cases h), fun h ↦ (by cases h), hcalm.done,
        ⟨fun h ↦ ?_, fun h ↦ (by cases h)⟩⟩
      rw [hcalm.aborted.mp h] at hphase
      cases hphase
  | half hhalf => exact hhalf.calm hcalm
  | deliver hreader hdone =>
      refine ⟨hcalm.read, hcalm.ended, hcalm.sending, fun h ↦ ?_, hcalm.aborted⟩
      rw [show _ = true from h] at hdone
      cases hdone

/-- An end where nothing has failed for the stream with an id. -/
structure Calm (i : UInt32) (x : End) : Prop where
  streams : ∀ (k : Nat) (h : Stream), x.streams[k]? = some h → h.id = i → h.Calm
  announced : ∀ (k : Nat) (h : Stream), x.streams[k]? = some h → h.phase ≠ .failed
  writer : x.writerExited = false
  reader : x.reader ≠ .exited
  last : ∀ k id payload, x.reader = .delivering k id payload →
    ∃ frames, x.handled = frames ++ [.data id payload]
  pieces : ∀ payload, .data i payload ∈ x.enqueued → payload ≠ []

theorem Calm.new (i : UInt32) : Calm i .new :=
  ⟨by simp [End.new], by simp [End.new], rfl, by simp [End.new], by simp [End.new],
    by simp [End.new]⟩

/-- A stream fails to be announced only when the writer has exited. -/
theorem Turns.announced (hturns : Turns side x k h e h') (hopen : x.writerExited = false)
    (hphase : h.phase ≠ .failed) : h'.phase ≠ .failed := by
  cases hturns with
  | stay | deliver => exact hphase
  | move hmove =>
      cases hmove with
      | refused _ hexited =>
          rw [hopen] at hexited
          cases hexited
      | connected | unconnected | read | eof | readError | sendFails => simp
      | _ => exact hphase
  | insert | announce | send => simp
  | half hhalf => cases hhalf <;> simp

/-- What the reader does next after a frame. -/
theorem handle_reader (side : Side) (x : End) (frame : MuxFrame) :
    (handle side x frame).reader = x.reader ∨
      (∃ k id payload, frame = .data id payload ∧ x.table.lookup id = some k ∧
        (handle side x frame).reader = .delivering k id payload) ∨
      (∃ id payload, frame = .data id payload ∧ x.table.lookup id = none ∧
        (handle side x frame).reader = .replying (.close id)) ∨
      (handle side x frame).reader = .replying .pong := by
  cases frame with
  | data id payload =>
      simp only [handle]
      split
      · next k hk => exact .inr (.inl ⟨k, id, payload, rfl, hk, rfl⟩)
      · next hnone => exact .inr (.inr (.inl ⟨id, payload, rfl, hnone, rfl⟩))
  | «open» id => cases side <;> exact .inl rfl
  | close id => exact .inl rfl
  | ping => exact .inr (.inr (.inr rfl))
  | pong => exact .inl rfl

/-- What the reader has in hand after a step is in hand before, or was read last. -/
theorem Acts.delivering (hacts : Acts side x e x' bytes) {id : UInt32} {payload : List UInt8}
    (hreader : x'.reader = .delivering k id payload) :
    (x.reader = .delivering k id payload ∧ x'.handled = x.handled) ∨
      x'.handled = x.handled ++ [.data id payload] := by
  cases hacts with
  | handle frame rest hidle hread =>
      right
      rw [handled_handle]
      rcases handle_reader side { x with incoming := rest, handled := x.handled ++ [frame] } frame
        with hsame | ⟨j, i, bytes, rfl, -, hdel⟩ | ⟨i, bytes, -, -, hrep⟩ | hrep
      · rw [hsame] at hreader
        cases hidle.symm.trans hreader
      · rw [hdel] at hreader
        obtain ⟨rfl, rfl, rfl⟩ := Reader.delivering.inj hreader
        rfl
      · cases hrep.symm.trans hreader
      · cases hrep.symm.trans hreader
  | readerFails | garbled | deliver | undeliverable | reply | unreplied => cases hreader
  | _ => exact .inl ⟨hreader, rfl⟩

theorem Calm.acts {i : UInt32} (hx : Calm i x) (hsends : Sends x)
    (hread : ∀ error, Mux.readMuxFrame x.incoming ≠ .failed error) (he : e.tearsDown = false)
    (hbreaks : ∀ (k : Nat) (h : Stream), x.streams[k]? = some h → h.id = i → e.breaks k = false)
    (hacts : Acts side x e x' bytes) : Calm i x' where
  streams k h' hk' hid := by
    rcases hacts.turns hk' with ⟨h, hk, hturns⟩ | ⟨-, -, hadds⟩
    · rw [hturns.id_eq] at hid
      exact hturns.calm (hx.streams k h hk hid) (hbreaks k h hk hid) hx.writer
        (hsends.streams k h hk).idle
    · cases hadds <;> exact .new _ rfl
  announced k h' hk' := by
    rcases hacts.turns hk' with ⟨h, hk, hturns⟩ | ⟨-, -, hadds⟩
    · exact hturns.announced hx.writer (hx.announced k h hk)
    · cases hadds <;> simp [Stream.new]
  writer := by
    cases hacts with
    | handle frame rest hidle hdone =>
        rw [handle_toTraffic]
        exact hx.writer
    | writePart | stop => cases he
    | _ => exact hx.writer
  reader := by
    cases hacts with
    | handle frame rest hidle hdone =>
        rcases handle_reader side { x with incoming := rest, handled := x.handled ++ [frame] } frame
          with h | ⟨_, _, _, _, _, h⟩ | ⟨_, _, _, _, h⟩ | h <;> rw [h]
        · exact hx.reader
        all_goals simp
    | readerFails => cases he
    | garbled error hidle hfailed => exact absurd hfailed (hread error)
    | deliver | undeliverable | reply | unreplied => simp
    | _ => exact hx.reader
  last k id payload hreader := by
    rcases hacts.delivering hreader with ⟨hold, hsame⟩ | hmore
    · rw [hsame]
      exact hx.last k id payload hold
    · exact ⟨x.handled, hmore⟩
  pieces payload hmem := by
    rcases hacts.enqueued with hsame | ⟨frame, hqueues, hmore⟩
    · exact hx.pieces payload (hsame ▸ hmem)
    · rw [hmore, List.mem_append, List.mem_singleton] at hmem
      rcases hmem with hmem | rfl
      · exact hx.pieces payload hmem
      · cases hqueues with
        | send k h hk hphase => exact (hx.streams k h hk rfl).sending hphase
        | reply _ hreader => rcases hsends.replies _ hreader with h | ⟨i, h⟩ <;> cases h

/-- The ways in which a stream starts. -/
theorem Turns.starts (hturns : Turns side x k h e h') (hbefore : h.phase.started = false)
    (hafter : h'.phase.started = true) :
    h.phase = .connecting ∨ (e = .announce k ∧ x.writerExited = false) := by
  have hsame : h'.phase = h.phase → False := fun heq ↦ by
    rw [heq, hbefore] at hafter
    cases hafter
  cases hturns with
  | stay | deliver => exact absurd rfl hsame
  | move hmove =>
      cases hmove with
      | connected hphase | unconnected hphase => exact .inl hphase
      | refused => cases hafter
      | read _ hphase | eof hphase | readError hphase | sendFails hphase =>
          rw [hphase] at hbefore
          cases hbefore
      | _ => exact absurd rfl hsame
  | insert => cases hafter
  | announce hphase hopen => exact .inr ⟨rfl, hopen⟩
  | send hphase =>
      rw [hphase] at hbefore
      cases hbefore
  | half hhalf =>
      cases hhalf with
      | first _ hphase | second _ hphase =>
          rw [hphase] at hbefore
          cases hbefore

/-- Announcing a stream queues its `Open`. -/
theorem Acts.announces (hacts : Acts side x (.announce k) x' bytes) (hk : x.streams[k]? = some h)
    (hopen : x.writerExited = false) : x'.enqueued = x.enqueued ++ [.open h.id] := by
  cases hacts with
  | move j g g' hj hmove =>
      cases hmove with
      | refused hphase hexited =>
          rw [hopen] at hexited
          cases hexited
  | announce j g hj hphase =>
      obtain rfl : h = g := Option.some.inj (hk.symm.trans hj)
      rfl
  | leave j g g' hj hhalf | farewell j g g' hj hhalf | silent j g g' hj hhalf => cases hhalf

end

/-! ## Both ends -/

/-- The server introduces its streams to the client. -/
structure Introduced (server client : End) : Prop where
  opens : ∀ (k : Nat) (h : Stream), server.streams[k]? = some h → h.phase.started = true →
    .open h.id ∈ server.enqueued
  pieces : ∀ frames id payload, frames ++ [.data id payload] <+: server.enqueued →
    .open id ∈ frames
  known : ∀ id, .open id ∈ client.handled → id ∈ client.ids

/-- A tunnel where nothing has failed for the stream with an id. -/
structure Undisturbed (i : UInt32) (s : State) : Prop where
  coherent : Coherent s
  calm : ∀ side, Calm i (s.get side)
  introduced : Introduced s.server s.client

namespace Undisturbed

variable {i : UInt32} {s : State} {x' : End} {e : Event} {bytes : List UInt8}

theorem new (i : UInt32) : Undisturbed i .new where
  coherent := Coherent.new
  calm side := by cases side <;> exact Calm.new i
  introduced := ⟨by simp [State.new, End.new], by simp [State.new, End.new],
    by simp [State.new, End.new]⟩

theorem introduced_server (hs : Undisturbed i s) (hacts : Acts .server s.server e x' bytes) :
    Introduced x' s.client := by
  have hold := hacts.enqueued_isPrefix.subset
  refine ⟨fun k h' hk' hstarted ↦ ?_, fun frames id payload hpre ↦ ?_, hs.introduced.known⟩
  · rcases hacts.turns hk' with ⟨h, hk, hturns⟩ | ⟨-, -, hadds⟩
    · rw [hturns.id_eq]
      by_cases hbefore : h.phase.started = true
      · exact hold (hs.introduced.opens k h hk hbefore)
      · rcases hturns.starts (Bool.eq_false_of_not_eq_true hbefore) hstarted with
          hphase | ⟨rfl, hopen⟩
        · have hon := hs.coherent.sided .server k h hk
          rw [hphase] at hon
          cases hon
        · rw [hacts.announces hk hopen]
          exact List.mem_append_right _ (List.mem_singleton.mpr rfl)
    · cases hadds <;> cases hstarted
  · rcases hacts.enqueued with hsame | ⟨frame, hqueues, hmore⟩
    · exact hs.introduced.pieces frames id payload (hsame ▸ hpre)
    · rw [hmore] at hpre
      rcases eq_or_of_concat_isPrefix hpre with ⟨rfl, rfl⟩ | hpre
      · cases hqueues with
        | send k h hk hphase => exact hs.introduced.opens k h hk (by rw [hphase]; rfl)
        | reply _ hreader =>
            rcases (hs.coherent.sends .server).replies _ hreader with h | ⟨i, h⟩ <;> cases h
      · exact hs.introduced.pieces frames id payload hpre

theorem introduced_client (hs : Undisturbed i s) (hacts : Acts .client s.client e x' bytes) :
    Introduced s.server x' := by
  refine ⟨hs.introduced.opens, hs.introduced.pieces, fun id hmem ↦ ?_⟩
  have hold : .open id ∈ s.client.handled → id ∈ x'.ids := fun hmem ↦
    hacts.ids_isPrefix.subset (hs.introduced.known id hmem)
  rcases hacts.handled with hsame | ⟨frame, rest, -, -, rfl⟩
  · exact hold (hsame ▸ hmem)
  · rw [handled_handle, List.mem_append, List.mem_singleton] at hmem
    rcases hmem with hmem | rfl
    · exact hold hmem
    · simp [handle, End.ids, Stream.new]

/-- What is read from the work connection is whole frames. -/
theorem read_ne_failed (hs : Undisturbed i s) (side : Side) (error : Error) :
    Mux.readMuxFrame (s.get side).incoming ≠ .failed error := by
  obtain ⟨wire, hcarries, -⟩ := (hs.coherent.link_to side).flow
  intro hfailed
  rcases hcarries.cases with ⟨-, hstarved⟩ | ⟨frame, rest, more, -, hdone, -⟩
  · cases hfailed.symm.trans hstarved
  · cases hfailed.symm.trans hdone

/-- A step in which nothing fails. -/
theorem step (hs : Undisturbed i s) {s' : State} {side : Side} (hno : NoError i s (side, e))
    (hs' : Streams.step s (side, e) = some s') (hcoherent : Coherent s') : Undisturbed i s' := by
  obtain ⟨x', bytes, hacts, rfl⟩ := acts_of_step hs'
  have hx' := (hs.calm side).acts (hs.coherent.sends side) (hs.read_ne_failed side)
    hno.tearsDown (fun _ _ ↦ hno.breaks) hacts
  refine ⟨hcoherent, State.forall_update hs.calm hx' fun _ _ _ h ↦
    ⟨h.streams, h.announced, h.writer, h.reader, h.last, h.pieces⟩, ?_⟩
  cases side with
  | server =>
      have h := hs.introduced_server hacts
      exact ⟨h.opens, h.pieces, h.known⟩
  | client =>
      have h := hs.introduced_client hacts
      exact ⟨h.opens, h.pieces, h.known⟩

/-! What is on its way to a socket is a beginning of what the other side has sent. -/

variable {side : Side} {j k : Nat} {g h : Stream}

theorem dataFor_enqueued (hs : Undisturbed i s) (hk : (s.get side).streams[k]? = some h)
    (hid : h.id = i) : dataFor i (s.get side).enqueued <+: h.sent := by
  refine List.IsPrefix.trans ?_ ((hs.calm side).streams k h hk hid).read
  exact ⟨h.hand, hid ▸ ((hs.coherent.sends side).streams k h hk).read⟩

theorem written (hs : Undisturbed i s) (hk : (s.get side).streams[k]? = some h)
    (hh : h.id = i) (hj : (s.get side.other).streams[j]? = some g) (hg : g.id = i) :
    h.written <+: g.sent := by
  have haccepted := hh ▸ ((hs.coherent.receives side).streams k h hk).accepted
  exact h.written_prefix_accepted.trans <| haccepted.trans <|
    (dataFor_mono (hs.coherent.link_to side).handled_isPrefix i).trans <|
    hs.dataFor_enqueued hj hg

end Undisturbed

end Arp.EndToEnd.Streams
