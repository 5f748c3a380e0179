import Arp.EndToEnd.Streams.Traffic

/-!
# What a step of an end can do

`Acts` lists the outcomes of `stepEnd` branch by branch, with the guards of each; most
of them only change one stream, and these are listed in `Move`.  All invariants are
proved by going through this list, so that the step functions are taken apart only
once, in `acts_of_stepEnd`.
-/

namespace Arp.EndToEnd.Streams

open Arp.Common Arp.Lib

/-- A step that only changes the stream at `k`. -/
inductive Move (x : End) (k : Nat) (h : Stream) : Event → Stream → Prop where
  | peerSends (bytes : List UInt8) (hfinished : h.finished = false)
      (hphase : h.phase ≠ .connecting) :
      Move x k h (.peerSends k bytes) { h with sent := h.sent ++ bytes }
  | peerFinishes (hphase : h.phase ≠ .connecting) :
      Move x k h (.peerFinishes k) { h with finished := true }
  | refused (hphase : h.phase = .announcing) (hexited : x.writerExited = true) :
      Move x k h (.announce k) { h.stop with phase := .failed }
  | connected (hphase : h.phase = .connecting) :
      Move x k h (.connect k true) { h with phase := .reading }
  | unconnected (hphase : h.phase = .connecting) :
      Move x k h (.connect k false) { h.stop with phase := .returned }
  | read (n : Nat) (hphase : h.phase = .reading) (hpos : 0 < n) (hn : n ≤ End.bufferSize)
      (hsent : h.read.length + n ≤ h.sent.length) :
      Move x k h (.read k n)
        { h with
          read := h.read ++ (h.sent.drop h.read.length).take n
          hand := (h.sent.drop h.read.length).take n
          phase := .sending }
  | eof (hphase : h.phase = .reading) (hfinished : h.finished = true) (hread : h.read = h.sent) :
      Move x k h (.readEof k) { h with phase := .closing }
  | readError (hphase : h.phase = .reading) :
      Move x k h (.readError k) { h with phase := .returned }
  | sendFails (hphase : h.phase = .sending) (hexited : x.writerExited = true) :
      Move x k h (.send k) { h with phase := .returned }
  | take (piece : List UInt8) (queue : List (List UInt8)) (hstarted : h.phase.started = true)
      (hdone : h.done = false) (hwriting : h.writing = []) (hqueue : h.queue = piece :: queue) :
      Move x k h (.take k) { h with writing := piece, queue := queue }
  | write (n : Nat) (hstarted : h.phase.started = true) (hdone : h.done = false) (hpos : 0 < n)
      (hn : n ≤ h.writing.length) :
      Move x k h (.write k n)
        { h with written := h.written ++ h.writing.take n, writing := h.writing.drop n }
  | writeError (hstarted : h.phase.started = true) (hdone : h.done = false)
      (hwriting : h.writing ≠ []) : Move x k h (.writeError k) h.stop
  | cancel (hstarted : h.phase.started = true) (hdone : h.done = false)
      (haborted : h.aborted = true) : Move x k h (.cancel k) h.stop
  | drained (hstarted : h.phase.started = true) (hdone : h.done = false)
      (hwriting : h.writing = []) (hqueue : h.queue = []) (hsender : x.hasSender k h.id = false) :
      Move x k h (.drained k) h.stop

/-- One half of what follows the end of a socket: leaving the map, or else queueing a
`Close`.  Which comes first depends on the side. -/
inductive Half (side : Side) (h : Stream) (leaves : Bool) (k : Nat) : Event → Stream → Prop where
  | first (hside : leaves = (side == .server)) (hphase : h.phase = .closing) :
      Half side h leaves k (.close k) { h with phase := .closed }
  | second (hside : leaves = (side == .client)) (hphase : h.phase = .closed) :
      Half side h leaves k (.finish k) { h with phase := .returned, aborted := true }

/-- One step of an end. -/
inductive Acts (side : Side) (x : End) : Event → End → List UInt8 → Prop where
  | move {e : Event} (k : Nat) (h h' : Stream) (hk : x.streams[k]? = some h)
      (hmove : Move x k h e h') : Acts side x e (x.setStream k h') []
  | accept (hside : side = .server) :
      Acts side x .accept
        { x with
          streams := x.streams ++ [.new x.nextStreamId .opening]
          nextStreamId := x.nextStreamId + 1 } []
  | insert (k : Nat) (h : Stream) (hk : x.streams[k]? = some h) (hphase : h.phase = .opening) :
      Acts side x (.insert k)
        { x.setStream k { h with phase := .announcing } with table := x.table.insert h.id k } []
  | announce (k : Nat) (h : Stream) (hk : x.streams[k]? = some h) (hphase : h.phase = .announcing)
      (hopen : x.writerExited = false) :
      Acts side x (.announce k)
        ((x.setStream k { h with phase := .reading }).enqueue (.open h.id)) []
  | send (k : Nat) (h : Stream) (hk : x.streams[k]? = some h) (hphase : h.phase = .sending)
      (hopen : x.writerExited = false) :
      Acts side x (.send k)
        ((x.setStream k { h with hand := [], phase := .reading }).enqueue (.data h.id h.hand)) []
  | leave {e : Event} (k : Nat) (h h' : Stream) (hk : x.streams[k]? = some h)
      (hhalf : Half side h true k e h') : Acts side x e ((x.setStream k h').remove h.id) []
  | farewell {e : Event} (k : Nat) (h h' : Stream) (hk : x.streams[k]? = some h)
      (hhalf : Half side h false k e h') (hopen : x.writerExited = false) :
      Acts side x e ((x.setStream k h').enqueue (.close h.id)) []
  | silent {e : Event} (k : Nat) (h h' : Stream) (hk : x.streams[k]? = some h)
      (hhalf : Half side h false k e h') (hexited : x.writerExited = true) :
      Acts side x e (x.setStream k h') []
  | readerFails (hidle : x.reader = .idle) :
      Acts side x .readerFails { x with reader := .exited, table := ∅ } []
  | garbled (error : Error) (hidle : x.reader = .idle)
      (hread : Mux.readMuxFrame x.incoming = .failed error) :
      Acts side x .readFrame { x with reader := .exited, table := ∅ } []
  | handle (frame : MuxFrame) (rest : List UInt8) (hidle : x.reader = .idle)
      (hread : Mux.readMuxFrame x.incoming = .done frame rest) :
      Acts side x .readFrame
        (Streams.handle side { x with incoming := rest, handled := x.handled ++ [frame] } frame) []
  | deliver (k : Nat) (id : UInt32) (payload : List UInt8) (h : Stream)
      (hreader : x.reader = .delivering k id payload) (hk : x.streams[k]? = some h)
      (hdone : h.done = false) :
      Acts side x .deliver
        { x.setStream k { h with queue := h.queue ++ [payload] } with reader := .idle } []
  | undeliverable (k : Nat) (id : UInt32) (payload : List UInt8) (h : Stream)
      (hreader : x.reader = .delivering k id payload) (hk : x.streams[k]? = some h)
      (hdone : h.done = true) : Acts side x .deliver { x.remove id with reader := .idle } []
  | reply (frame : MuxFrame) (hreader : x.reader = .replying frame)
      (hopen : x.writerExited = false) :
      Acts side x .reply { x.enqueue frame with reader := .idle } []
  | unreplied (frame : MuxFrame) (hreader : x.reader = .replying frame)
      (hexited : x.writerExited = true) : Acts side x .reply { x with reader := .idle } []
  | write (frame : MuxFrame) (rest : List MuxFrame) (hopen : x.writerExited = false)
      (hframes : x.frames = frame :: rest) :
      Acts side x .writeFrame { x with frames := rest } (Mux.writeMuxFrame frame)
  | writePart (frame : MuxFrame) (rest : List MuxFrame) (n : Nat) (hopen : x.writerExited = false)
      (hframes : x.frames = frame :: rest) (hn : n < (Mux.writeMuxFrame frame).length) :
      Acts side x (.writeFrameFails n) { x with frames := [], writerExited := true }
        ((Mux.writeMuxFrame frame).take n)
  | stop : Acts side x .writerExits { x with frames := [], writerExited := true } []

theorem trySend_cases {x x' : End} {frame : MuxFrame} (h : x.trySend frame = some x') :
    (x.writerExited = true ∧ x' = x) ∨ (x.writerExited = false ∧ x' = x.enqueue frame) := by
  unfold End.trySend at h
  split at h
  · next hexited => exact .inl ⟨hexited, (Option.some.inj h).symm⟩
  · next hopen =>
      split at h
      · exact .inr ⟨Bool.eq_false_of_not_eq_true hopen, (Option.some.inj h).symm⟩
      · cases h

variable {side : Side} {x x' : End} {k : Nat} {h : Stream} {e : Event}

theorem acts_of_stepPeer (hk : x.streams[k]? = some h) (he : e = .peerFinishes k ∨
      ∃ bytes, e = .peerSends k bytes) (hx' : stepPeer x k h e = some x') :
    Acts side x e x' [] := by
  rcases he with rfl | ⟨bytes, rfl⟩
  · simp only [stepPeer] at hx'
    split at hx'
    · next hphase =>
        obtain rfl := Option.some.inj hx'
        exact .move k h _ hk (.peerFinishes hphase)
    · cases hx'
  · simp only [stepPeer] at hx'
    split at hx'
    · next hguard =>
        obtain rfl := Option.some.inj hx'
        exact .move k h _ hk (.peerSends bytes hguard.1 hguard.2)
    · cases hx'

theorem acts_of_stepTask (hk : x.streams[k]? = some h) (hx' : stepTask x k h e = some x')
    (he : e = .take k ∨ (∃ n, e = .write k n) ∨ e = .writeError k ∨ e = .cancel k ∨
      e = .drained k) : Acts side x e x' [] := by
  unfold stepTask at hx'
  split at hx'
  · next hguard =>
      obtain ⟨hstarted, hdone⟩ := hguard
      rcases he with rfl | ⟨n, rfl⟩ | rfl | rfl | rfl <;> simp only at hx' <;> split at hx'
      · next piece queue hwriting hqueue =>
          obtain rfl := Option.some.inj hx'
          exact .move k h _ hk (.take piece queue hstarted hdone hwriting hqueue)
      · cases hx'
      · next hn =>
          obtain rfl := Option.some.inj hx'
          exact .move k h _ hk (.write n hstarted hdone hn.1 hn.2)
      · cases hx'
      · next hwriting =>
          obtain rfl := Option.some.inj hx'
          exact .move k h _ hk (.writeError hstarted hdone hwriting)
      · cases hx'
      · next haborted =>
          obtain rfl := Option.some.inj hx'
          exact .move k h _ hk (.cancel hstarted hdone haborted)
      · cases hx'
      · next hguard =>
          obtain rfl := Option.some.inj hx'
          exact .move k h _ hk (.drained hstarted hdone hguard.1 hguard.2.1 hguard.2.2)
      · cases hx'
  · cases hx'

/-- The events of the function that handles a stream. -/
def Event.handles (k : Nat) : Event → Prop
  | .insert j | .announce j | .connect j _ | .read j _ | .readEof j | .readError j | .send j
  | .close j | .finish j => j = k
  | _ => False

theorem acts_of_stepHandler (hk : x.streams[k]? = some h) (he : e.handles k)
    (hx' : stepHandler side x k h e = some x') : Acts side x e x' [] := by
  unfold stepHandler at hx'
  split at hx'
  · next hphase =>
      obtain rfl := Option.some.inj hx'
      obtain rfl : _ = k := he
      exact .insert _ h hk hphase
  · next hphase =>
      obtain rfl : _ = k := he
      split at hx'
      · next hexited =>
          obtain rfl := Option.some.inj hx'
          exact .move _ h _ hk (.refused hphase hexited)
      · next hopen =>
          split at hx'
          · obtain rfl := Option.some.inj hx'
            exact .announce _ h hk hphase (Bool.eq_false_of_not_eq_true hopen)
          · cases hx'
  · next ok hphase =>
      obtain rfl : _ = k := he
      cases ok with
      | true =>
          obtain rfl := Option.some.inj hx'
          exact .move _ h _ hk (.connected hphase)
      | false =>
          obtain rfl := Option.some.inj hx'
          exact .move _ h _ hk (.unconnected hphase)
  · next n hphase =>
      obtain rfl : _ = k := he
      split at hx'
      · next hn =>
          obtain rfl := Option.some.inj hx'
          exact .move _ h _ hk (.read n hphase hn.1 hn.2.1 hn.2.2)
      · cases hx'
  · next hphase =>
      obtain rfl : _ = k := he
      split at hx'
      · next heof =>
          obtain rfl := Option.some.inj hx'
          exact .move _ h _ hk (.eof hphase heof.1 heof.2)
      · cases hx'
  · next hphase =>
      obtain rfl : _ = k := he
      obtain rfl := Option.some.inj hx'
      exact .move _ h _ hk (.readError hphase)
  · next hphase =>
      obtain rfl : _ = k := he
      split at hx'
      · next hexited =>
          obtain rfl := Option.some.inj hx'
          exact .move _ h _ hk (.sendFails hphase hexited)
      · next hopen =>
          split at hx'
          · obtain rfl := Option.some.inj hx'
            exact .send _ h hk hphase (Bool.eq_false_of_not_eq_true hopen)
          · cases hx'
  · next hphase =>
      obtain rfl : _ = k := he
      cases side with
      | server =>
          obtain rfl := Option.some.inj hx'
          exact .leave _ h _ hk (.first rfl hphase)
      | client =>
          rcases trySend_cases hx' with ⟨hexited, rfl⟩ | ⟨hopen, rfl⟩
          · exact .silent _ h _ hk (.first rfl hphase) hexited
          · exact .farewell _ h _ hk (.first rfl hphase) hopen
  · next hphase =>
      obtain rfl : _ = k := he
      cases side with
      | server =>
          rcases trySend_cases hx' with ⟨hexited, rfl⟩ | ⟨hopen, rfl⟩
          · exact .silent _ h _ hk (.second rfl hphase) hexited
          · exact .farewell _ h _ hk (.second rfl hphase) hopen
      | client =>
          obtain rfl := Option.some.inj hx'
          exact .leave _ h _ hk (.second rfl hphase)
  · cases hx'

theorem acts_of_stepReader (hx' : stepReader side x e = some x') : Acts side x e x' [] := by
  unfold stepReader at hx'
  split at hx'
  · next hidle =>
      split at hx'
      · cases hx'
      · next error hread =>
          obtain rfl := Option.some.inj hx'
          exact .garbled error hidle hread
      · next frame rest hread =>
          obtain rfl := Option.some.inj hx'
          exact .handle frame rest hidle hread
  · next hidle =>
      obtain rfl := Option.some.inj hx'
      exact .readerFails hidle
  · next k id payload hreader =>
      split at hx'
      · next h hk =>
          split at hx'
          · next hdone =>
              obtain rfl := Option.some.inj hx'
              exact .undeliverable k id payload h hreader hk hdone
          · next hdone =>
              split at hx'
              · obtain rfl := Option.some.inj hx'
                exact .deliver k id payload h hreader hk (Bool.eq_false_of_not_eq_true hdone)
              · cases hx'
      · cases hx'
  · next frame hreader =>
      obtain ⟨x'', hsend, rfl⟩ := Option.map_eq_some_iff.mp hx'
      rcases trySend_cases hsend with ⟨hexited, rfl⟩ | ⟨hopen, rfl⟩
      · exact .unreplied frame hreader hexited
      · exact .reply frame hreader hopen
  · cases hx'

theorem acts_of_stepWriter {bytes : List UInt8} (hx' : stepWriter x e = some (x', bytes)) :
    Acts side x e x' bytes := by
  unfold stepWriter at hx'
  split at hx'
  · split at hx'
    · next frame rest hopen hframes =>
        obtain ⟨rfl, rfl⟩ := Prod.mk.inj (Option.some.inj hx')
        exact .write frame rest hopen hframes
    · cases hx'
  · split at hx'
    · next frame rest hopen hframes =>
        split at hx'
        · next hn =>
            obtain ⟨rfl, rfl⟩ := Prod.mk.inj (Option.some.inj hx')
            exact .writePart frame rest _ hopen hframes hn
        · cases hx'
    · cases hx'
  · obtain ⟨rfl, rfl⟩ := Prod.mk.inj (Option.some.inj hx')
    exact .stop
  · cases hx'

/-- Every step of an end is one of those listed. -/
theorem acts_of_stepEnd {bytes : List UInt8} (hx' : stepEnd side x e = some (x', bytes)) :
    Acts side x e x' bytes := by
  cases e with
  | accept =>
      cases side with
      | server =>
          obtain ⟨rfl, rfl⟩ := Prod.mk.inj (Option.some.inj hx')
          exact .accept rfl
      | client => cases hx'
  | peerSends k bs =>
      obtain ⟨h, hk, hout⟩ := Option.bind_eq_some_iff.mp hx'
      obtain ⟨x'', hx'', heq⟩ := Option.map_eq_some_iff.mp hout
      obtain ⟨rfl, rfl⟩ := Prod.mk.inj heq
      exact acts_of_stepPeer hk (.inr ⟨bs, rfl⟩) hx''
  | peerFinishes k =>
      obtain ⟨h, hk, hout⟩ := Option.bind_eq_some_iff.mp hx'
      obtain ⟨x'', hx'', heq⟩ := Option.map_eq_some_iff.mp hout
      obtain ⟨rfl, rfl⟩ := Prod.mk.inj heq
      exact acts_of_stepPeer hk (.inl rfl) hx''
  | insert k | announce k | connect k | read k | readEof k | readError k | send k | close k
  | finish k =>
      obtain ⟨h, hk, hout⟩ := Option.bind_eq_some_iff.mp hx'
      obtain ⟨x'', hx'', heq⟩ := Option.map_eq_some_iff.mp hout
      obtain ⟨rfl, rfl⟩ := Prod.mk.inj heq
      exact acts_of_stepHandler hk rfl hx''
  | take k | writeError k | cancel k | drained k | write k n =>
      obtain ⟨h, hk, hout⟩ := Option.bind_eq_some_iff.mp hx'
      obtain ⟨x'', hx'', heq⟩ := Option.map_eq_some_iff.mp hout
      obtain ⟨rfl, rfl⟩ := Prod.mk.inj heq
      exact acts_of_stepTask hk hx'' (by simp)
  | readFrame | deliver | reply | readerFails =>
      obtain ⟨x'', hx'', heq⟩ := Option.map_eq_some_iff.mp hx'
      obtain ⟨rfl, rfl⟩ := Prod.mk.inj heq
      exact acts_of_stepReader hx''
  | writeFrame | writeFrameFails | writerExits => exact acts_of_stepWriter hx'

end Arp.EndToEnd.Streams
