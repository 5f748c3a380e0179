import Arp.Common.Transport
import Arp.EndToEnd.Streams.HalfClose

/-!
# Multiplexed streams and the plain path

When nothing is under way any more, both sides of a multiplexed stream have got what
they would have got through `copy_bidirectional`, provided that nothing failed and that
no socket ended too early.  Otherwise bytes are lost: if a user has sent all and waits
for the answer, the answer is dropped.
-/

namespace Arp.EndToEnd.Streams

open Arp.Common Arp.Lib Arp.Lib.Framing

/-! ## When nothing is under way -/

/-- What the tasks of an end do by themselves while nothing fails. -/
def Event.own : Event → Bool
  | .peerSends _ _ | .peerFinishes _ | .accept => false
  | .connect _ ok => ok
  | .readError _ | .writeError _ | .readerFails | .writeFrameFails _ | .writerExits => false
  | _ => true

/-- No task of an end can take a step. -/
def Stuck (side : Side) (x : End) : Prop := ∀ e : Event, e.own = true → stepEnd side x e = none

/-- No task of either end can take a step. -/
def Settled (s : State) : Prop := ∀ side e, e.own = true → step s (side, e) = none

theorem Settled.stuck {s : State} (hs : Settled s) (side : Side) : Stuck side (s.get side) :=
  fun e he ↦ Option.map_eq_none_iff.mp (hs side e he)

theorem End.trySend_ne_none {x : End} (hopen : x.writerExited = false) (hroom : x.hasRoom = true)
    (frame : MuxFrame) : x.trySend frame ≠ none := by
  simp [End.trySend, hopen, hroom]

namespace Stuck

variable {side : Side} {x : End} {k : Nat} {h : Stream}

/-- All frames are written. -/
theorem frames_eq_nil (hx : Stuck side x) (hopen : x.writerExited = false) : x.frames = [] := by
  have hnone := hx .writeFrame rfl
  simp only [stepEnd, stepWriter, hopen] at hnone
  cases hframes : x.frames with
  | nil => rfl
  | cons frame frames =>
      rw [hframes] at hnone
      cases hnone

theorem hasRoom (hx : Stuck side x) (hopen : x.writerExited = false) : x.hasRoom = true := by
  rw [End.hasRoom, hx.frames_eq_nil hopen]
  rfl

/-- Every handler waits for its socket or has returned. -/
theorem phase (hx : Stuck side x) (hopen : x.writerExited = false)
    (hk : x.streams[k]? = some h) (hfailed : h.phase ≠ .failed) :
    h.phase = .reading ∨ h.phase = .returned := by
  have hroom := hx.hasRoom hopen
  cases hphase : h.phase with
  | opening =>
      have hnone := hx (.insert k) rfl
      simp [stepEnd, hk, stepHandler, hphase] at hnone
  | announcing =>
      have hnone := hx (.announce k) rfl
      simp [stepEnd, hk, stepHandler, hphase, hopen, hroom] at hnone
  | failed => exact absurd hphase hfailed
  | connecting =>
      have hnone := hx (.connect k true) rfl
      simp [stepEnd, hk, stepHandler, hphase] at hnone
  | reading => exact .inl rfl
  | sending =>
      have hnone := hx (.send k) rfl
      simp [stepEnd, hk, stepHandler, hphase, hopen, hroom] at hnone
  | closing =>
      have hnone := hx (.close k) rfl
      cases side with
      | server => simp [stepEnd, hk, stepHandler, hphase, closeFirst] at hnone
      | client =>
          simp only [stepEnd, hk, stepHandler, hphase, closeFirst, Option.bind_some,
            Option.map_eq_none_iff] at hnone
          exact absurd hnone (End.trySend_ne_none (x := x.setStream k _) hopen hroom _)
  | closed =>
      have hnone := hx (.finish k) rfl
      cases side with
      | server =>
          simp only [stepEnd, hk, stepHandler, hphase, closeSecond, Option.bind_some,
            Option.map_eq_none_iff] at hnone
          exact absurd hnone (End.trySend_ne_none (x := x.setStream k _) hopen hroom _)
      | client => simp [stepEnd, hk, stepHandler, hphase, closeSecond] at hnone
  | returned => exact .inr rfl

theorem started (hx : Stuck side x) (hopen : x.writerExited = false)
    (hk : x.streams[k]? = some h) (hfailed : h.phase ≠ .failed) : h.phase.started = true := by
  rcases hx.phase hopen hk hfailed with hphase | hphase <;> rw [hphase] <;> rfl

/-- Everything is written to the sockets. -/
theorem channel_eq_nil (hx : Stuck side x) (hk : x.streams[k]? = some h)
    (hstarted : h.phase.started = true) (hdone : h.done = false) :
    h.writing = [] ∧ h.queue = [] := by
  cases hwriting : h.writing with
  | cons b bytes =>
      have hnone := hx (.write k 1) rfl
      simp [stepEnd, hk, stepTask, hstarted, hdone, hwriting] at hnone
  | nil =>
      refine ⟨rfl, ?_⟩
      cases hqueue : h.queue with
      | nil => rfl
      | cons piece queue =>
          have hnone := hx (.take k) rfl
          simp [stepEnd, hk, stepTask, hstarted, hdone, hwriting, hqueue] at hnone

/-- The reader waits for a frame. -/
theorem reader (hx : Stuck side x) {i : UInt32} (hcalm : Calm i x) (hreceives : Receives x) :
    x.reader = .idle := by
  have hroom := hx.hasRoom hcalm.writer
  cases hreader : x.reader with
  | idle => rfl
  | exited => exact absurd hreader hcalm.reader
  | replying frame =>
      have hnone := hx .reply rfl
      simp only [stepEnd, stepReader, hreader, Option.map_eq_none_iff] at hnone
      exact absurd hnone (End.trySend_ne_none hcalm.writer hroom frame)
  | delivering k id payload =>
      have hnone := hx .deliver rfl
      obtain ⟨h, hk, -⟩ := hreceives.reader k id payload hreader
      simp only [stepEnd, stepReader, hreader, hk, Option.map_eq_none_iff] at hnone
      by_cases hdone : h.done = true
      · simp [hdone] at hnone
      · have hdone := Bool.eq_false_of_not_eq_true hdone
        have hstarted := hx.started hcalm.writer hk (hcalm.announced k h hk)
        obtain ⟨-, hqueue⟩ := hx.channel_eq_nil hk hstarted hdone
        simp [hdone, hqueue, End.streamCapacity] at hnone

theorem starved (hx : Stuck side x) (hidle : x.reader = .idle) :
    Mux.readMuxFrame x.incoming = .starved := by
  have hnone := hx .readFrame rfl
  simp only [stepEnd, stepReader, hidle, Option.map_eq_none_iff] at hnone
  cases hread : Mux.readMuxFrame x.incoming with
  | starved => rfl
  | failed error => simp [hread] at hnone
  | done frame rest => simp [hread] at hnone

end Stuck

/-! ## Everything has arrived -/

section

variable {i : UInt32} {s : State}

end

/-! ## The plain path -/

/-- An exchange through the plain path: what each end reads from its socket and from the
work connection. -/
structure PlainExchange where
  user : List (Chunk UInt8)
  service : List (Chunk UInt8)
  serverReads : List (Chunk UInt8)
  clientReads : List (Chunk UInt8)

namespace PlainExchange

/-- `handle_plain_client_connection`: the server copies between the user and the work
connection. -/
def server (p : PlainExchange) : Copied := copyBidirectional ⟨p.user, []⟩ ⟨p.serverReads, []⟩

/-- The client copies between the local service and the work connection. -/
def client (p : PlainExchange) : Copied := copyBidirectional ⟨p.service, []⟩ ⟨p.clientReads, []⟩

/-- Each end reads from the work connection what the other end writes to it. -/
def Reliable (p : PlainExchange) : Prop :=
  contents p.serverReads = p.client.b.written ∧ contents p.clientReads = p.server.b.written

theorem delivered {p : PlainExchange} (hp : p.Reliable) :
    p.server.a.written = contents p.service ∧ p.client.a.written = contents p.user := by
  obtain ⟨hserver, hclient⟩ := hp
  exact ⟨by simp [server, copyBidirectional, hserver, client],
    by simp [client, copyBidirectional, hclient, server]⟩

end PlainExchange

/-- All streams of an end are over, and nothing is in its channels. -/
def End.Over (x : End) : Prop :=
  x.frames = [] ∧ x.reader = .idle ∧ x.incoming = [] ∧
    ∀ h ∈ x.streams, h.phase = .returned ∧ h.done = true

instance (x : End) : Decidable x.Over := inferInstanceAs (Decidable (_ ∧ _ ∧ _ ∧ _))

theorem End.Over.stuck {x : End} (hx : x.Over) (side : Side) : Stuck side x := by
  obtain ⟨hframes, hreader, hincoming, hstreams⟩ := hx
  have hhandler : ∀ (k : Nat) (e : Event), ((x.streams[k]?).bind fun h ↦
      (stepHandler side x k h e).map fun x ↦ (x, ([] : List UInt8))) = none := by
    intro k e
    rw [Option.bind_eq_none_iff]
    intro h hk
    obtain ⟨hphase, -⟩ := hstreams h (List.mem_of_getElem? hk)
    simp [stepHandler, hphase]
  have htask : ∀ (k : Nat) (e : Event), ((x.streams[k]?).bind fun h ↦
      (stepTask x k h e).map fun x ↦ (x, ([] : List UInt8))) = none := by
    intro k e
    rw [Option.bind_eq_none_iff]
    intro h hk
    obtain ⟨-, hdone⟩ := hstreams h (List.mem_of_getElem? hk)
    simp [stepTask, hdone]
  intro e he
  cases e with
  | peerSends | peerFinishes | accept | readError | writeError | readerFails | writeFrameFails
  | writerExits => cases he
  | insert k | announce k | connect k | read k | readEof k | send k | close k | finish k =>
      exact hhandler k _
  | take k | write k | cancel k | drained k => exact htask k _
  | readFrame =>
      have hread : Mux.readMuxFrame x.incoming = .starved := hincoming ▸ Mux.codec.read_nil
      simp [stepEnd, stepReader, hreader, hread]
  | deliver | reply => simp [stepEnd, stepReader, hreader]
  | writeFrame => cases hexited : x.writerExited <;> simp [stepEnd, stepWriter, hframes, hexited]

/-- The steps by which the end of a socket is noticed and its handler returns; `k` is the
place of the stream. -/
def ends (side : Side) (k : Nat) : List (Side × Event) :=
  [(side, .peerFinishes k), (side, .readEof k), (side, .close k), (side, .finish k),
    (side, .writeFrame), (side.other, .readFrame)]

end Arp.EndToEnd.Streams
