import Arp.Client.Proxies
import Arp.Common.Crypto
import Arp.Common.UdpMux

/-!
# The client's UDP loop

`UdpProxy::handle_work_conn` binds a socket, connects it to the local service and
then serves the requests of the work connection one after another: it forwards the
packet, waits for one datagram from the service, and writes that back as the
response.  Every operation that fails ends the loop, whether the work connection
failed or only the request at hand.

The bytes of the work connection are given, and with every turn of the loop what the
world does in it.  `Exit` records which of the two kinds of failure ended the loop.
-/

namespace Arp.Client

open Arp.Common Arp.Lib.Wire

namespace UdpProxy

/-- `UDP_PACKET_MAX`. -/
def udpPacketMax : Nat := 65535

/-- What the proxy does to packets. -/
def packetOptions (proxy : UdpProxy) : PacketOptions :=
  ⟨proxy.useCompression, proxy.useEncryption, proxy.secret⟩

/-- What the world does in one turn of the loop, as far as the turn asks. -/
structure Turn where
  /-- The I/O error of a read if the work connection brings no more bytes. -/
  eof : String
  /-- `socket.send`. -/
  send : Except String Unit
  /-- `socket.recv`; none on a timeout. -/
  recv : Option (Except String (List UInt8))
  /-- The nonce `PacketCipher::encrypt` draws. -/
  nonce : Vector UInt8 12
  /-- Writing to the work connection. -/
  write : Except String Unit

/-- Why the loop ended. -/
inductive Exit where
  /-- Reading from or writing to the work connection failed. -/
  | connection (e : Error)
  /-- A request failed. -/
  | request (e : Error)
deriving DecidableEq, Repr

/-- What the loop has done. -/
structure Run where
  /-- The frames it wrote. -/
  written : List UdpMuxFrame
  /-- None if it still runs. -/
  exit : Option Exit
deriving DecidableEq, Repr

variable (proxy : UdpProxy) (prims : Primitives)

/-- The packet that goes to the local service. -/
def forward (turn : Turn) (payload : List UInt8) : Result (List UInt8) := do
  let packet ← proxy.packetOptions.decode prims payload
  turn.send.mapError .io
  return packet

/-- The datagram that is received next becomes the payload of the response. -/
def receive (turn : Turn) : Result (List UInt8) := do
  let data ← match turn.recv with
    | none => .error (.timeout "udp local response timeout")
    | some received => received.mapError .io
  proxy.packetOptions.encode prims turn.nonce (data.take udpPacketMax)

/-- What a frame that was read is answered with, if with anything. -/
def answer (turn : Turn) : UdpMuxFrame → Result (Option UdpMuxFrame)
  | .req requestId _ payload => do
    let _packet ← proxy.forward prims turn payload
    let encoded ← proxy.receive prims turn
    return some (.resp requestId encoded)
  | .ping => .ok (some .pong)
  | .pong | .resp _ _ => .ok none

/-- The loop of `UdpProxy::handle_work_conn` on the bytes that come in. -/
def loop : List UInt8 → List Turn → Run
  | _, [] => ⟨[], none⟩
  | incoming, turn :: turns =>
    match UdpMux.readUdpMuxFrame incoming with
    | .starved => ⟨[], some (.connection (.io turn.eof))⟩
    | .failed e => ⟨[], some (.connection e)⟩
    | .done frame rest =>
      match proxy.answer prims turn frame with
      | .error e => ⟨[], some (.request e)⟩
      | .ok none => loop rest turns
      | .ok (some reply) =>
        match turn.write with
        | .error e => ⟨[], some (.connection (.io e))⟩
        | .ok () =>
          let run := loop rest turns
          { run with written := reply :: run.written }

/-! ## One failed request and the others -/

/-- Writing fails in a turn that has something to write. -/
def writeFails (turn : Turn) (frame : UdpMuxFrame) : Bool :=
  match proxy.answer prims turn frame, turn.write with
  | .ok (some _), .error _ => true
  | _, _ => false

/-- The frames that come in as long as the work connection itself does not fail, each
with its turn; what becomes of a request does not matter. -/
def exchanges : List UInt8 → List Turn → List (UdpMuxFrame × Turn)
  | _, [] => []
  | incoming, turn :: turns =>
    match UdpMux.readUdpMuxFrame incoming with
    | .starved | .failed _ => []
    | .done frame rest =>
      (frame, turn) :: if proxy.writeFails prims turn frame then [] else exchanges rest turns

/-- The answer that a frame gets in its turn, taken by itself. -/
def ownAnswer (x : UdpMuxFrame × Turn) : Option UdpMuxFrame :=
  match proxy.answer prims x.2 x.1, x.2.write with
  | .ok (some reply), .ok () => some reply
  | _, _ => none

/-- One request does not stop the others: the loop ends only with the work
connection, and until then every frame gets the answer it would get by itself. -/
structure Resilient (incoming : List UInt8) (turns : List Turn) : Prop where
  exit : ∀ e, (proxy.loop prims incoming turns).exit ≠ some (.request e)
  written : (proxy.loop prims incoming turns).written =
    (proxy.exchanges prims incoming turns).filterMap (proxy.ownAnswer prims)

/-- Nothing fails while a request is served: the payload can be decrypted and
decompressed, the packet is sent, the service answers in time, and the answer can be
compressed and encrypted. -/
def Served (turn : Turn) : UdpMuxFrame → Prop
  | .req _ _ payload => (∃ packet, proxy.packetOptions.decode prims payload = .ok packet) ∧
      turn.send = .ok () ∧ ∃ data, turn.recv = some (.ok data) ∧
        ∃ encoded,
          proxy.packetOptions.encode prims turn.nonce (data.take udpPacketMax) = .ok encoded
  | _ => True

/-- What a turn of the loop can come to: nothing is read, the request fails, the
answer cannot be written, or the loop goes on. -/
inductive TurnCases (incoming : List UInt8) (turn : Turn) (turns : List Turn) : Prop where
  | unread (e : Error) (exchanges : proxy.exchanges prims incoming (turn :: turns) = [])
      (loop : proxy.loop prims incoming (turn :: turns) = ⟨[], some (.connection e)⟩)
  | unserved (e : Error) (frame : UdpMuxFrame) (served : ¬Served proxy prims turn frame)
      (exchanges : (frame, turn) ∈ proxy.exchanges prims incoming (turn :: turns))
      (loop : proxy.loop prims incoming (turn :: turns) = ⟨[], some (.request e)⟩)
  | unwritten (e : Error) (frame : UdpMuxFrame) (served : Served proxy prims turn frame)
      (exchanges : proxy.exchanges prims incoming (turn :: turns) = [(frame, turn)])
      (answer : proxy.ownAnswer prims (frame, turn) = none)
      (loop : proxy.loop prims incoming (turn :: turns) = ⟨[], some (.connection e)⟩)
  | next (frame : UdpMuxFrame) (rest : List UInt8) (served : Served proxy prims turn frame)
      (exchanges : proxy.exchanges prims incoming (turn :: turns) =
        (frame, turn) :: proxy.exchanges prims rest turns)
      (loop : proxy.loop prims incoming (turn :: turns) =
        ⟨(proxy.ownAnswer prims (frame, turn)).toList ++ (proxy.loop prims rest turns).written,
          (proxy.loop prims rest turns).exit⟩)

variable {proxy prims}

theorem forward_isOk_iff {turn : Turn} {payload : List UInt8} :
    (∃ packet, proxy.forward prims turn payload = .ok packet) ↔
      (∃ packet, proxy.packetOptions.decode prims payload = .ok packet) ∧ turn.send = .ok () := by
  unfold forward
  cases proxy.packetOptions.decode prims payload with
  | error e => simp [bind, Except.bind]
  | ok packet => cases turn.send <;> simp [bind, Except.bind, Except.mapError, pure, Except.pure]

theorem receive_isOk_iff {turn : Turn} :
    (∃ encoded, proxy.receive prims turn = .ok encoded) ↔ ∃ data, turn.recv = some (.ok data) ∧
      ∃ encoded, proxy.packetOptions.encode prims turn.nonce (data.take udpPacketMax) =
        .ok encoded := by
  unfold receive
  rcases turn.recv with _ | _ | data <;> simp [bind, Except.bind, Except.mapError]

/-- Exactly the requests that are not served end the loop. -/
theorem served_iff {turn : Turn} {frame : UdpMuxFrame} :
    Served proxy prims turn frame ↔ ∃ reply, proxy.answer prims turn frame = .ok reply := by
  cases frame with
  | req requestId srcAddr payload =>
      rw [Served, ← and_assoc, ← forward_isOk_iff, ← receive_isOk_iff]
      simp only [answer, bind, Except.bind]
      cases proxy.forward prims turn payload with
      | error e => simp
      | ok _ =>
          cases proxy.receive prims turn with
          | error e => simp
          | ok encoded => simp [pure, Except.pure]
  | ping => exact ⟨fun _ ↦ ⟨_, rfl⟩, fun _ ↦ trivial⟩
  | pong => exact ⟨fun _ ↦ ⟨_, rfl⟩, fun _ ↦ trivial⟩
  | resp requestId payload => exact ⟨fun _ ↦ ⟨_, rfl⟩, fun _ ↦ trivial⟩

theorem turnCases (proxy : UdpProxy) (prims : Primitives) (incoming : List UInt8)
    (turn : Turn) (turns : List Turn) : TurnCases proxy prims incoming turn turns := by
  cases hread : UdpMux.readUdpMuxFrame incoming with
  | starved => exact .unread _ (by rw [exchanges, hread]) (by rw [loop, hread])
  | failed e => exact .unread e (by rw [exchanges, hread]) (by rw [loop, hread])
  | done frame rest =>
      cases hanswer : proxy.answer prims turn frame with
      | error e =>
          refine .unserved e frame ?_ ?_ (by simp only [loop, hread, hanswer])
          · rw [served_iff, hanswer]
            rintro ⟨reply, hreply⟩
            cases hreply
          · rw [exchanges, hread]
            exact List.mem_cons_self
      | ok reply =>
          have hserved : Served proxy prims turn frame := served_iff.mpr ⟨reply, hanswer⟩
          cases reply with
          | none =>
              exact .next frame rest hserved (by simp [exchanges, hread, writeFails, hanswer])
                (by simp [loop, hread, hanswer, ownAnswer])
          | some reply =>
              cases hwrite : turn.write with
              | error e =>
                  exact .unwritten (.io e) frame hserved
                    (by simp [exchanges, hread, writeFails, hanswer, hwrite])
                    (by simp [ownAnswer, hanswer, hwrite]) (by simp [loop, hread, hanswer, hwrite])
              | ok _ =>
                  exact .next frame rest hserved
                    (by simp [exchanges, hread, writeFails, hanswer, hwrite])
                    (by simp [loop, hread, hanswer, hwrite, ownAnswer])

/-- The loop is resilient exactly if nothing fails while it serves the requests that
come in before the work connection fails. -/
theorem resilient_iff_served (incoming : List UInt8) (turns : List Turn) :
    Resilient proxy prims incoming turns ↔
      ∀ x ∈ proxy.exchanges prims incoming turns, Served proxy prims x.2 x.1 := by
  induction turns generalizing incoming with
  | nil => exact ⟨fun _ ↦ by simp [exchanges], fun _ ↦ ⟨by simp [loop], rfl⟩⟩
  | cons turn turns ih =>
      rcases turnCases proxy prims incoming turn turns with ⟨e, hexch, hloop⟩ |
        ⟨e, frame, hserved, hmem, hloop⟩ | ⟨e, frame, hserved, hexch, hnone, hloop⟩ |
        ⟨frame, rest, hserved, hexch, hloop⟩
      · refine ⟨fun _ ↦ by simp [hexch], fun _ ↦ ⟨by simp [hloop], by simp [hloop, hexch]⟩⟩
      · exact ⟨fun h ↦ absurd (by rw [hloop]) (h.exit e), fun h ↦ absurd (h _ hmem) hserved⟩
      · refine ⟨fun _ ↦ by simpa [hexch] using hserved, fun _ ↦ ⟨by simp [hloop], ?_⟩⟩
        simp [hloop, hexch, hnone]
      · -- The turn adds the same answer to what is written and to what is to be written.
        have hfilter : ((frame, turn) :: proxy.exchanges prims rest turns).filterMap
            (proxy.ownAnswer prims) = (proxy.ownAnswer prims (frame, turn)).toList ++
              (proxy.exchanges prims rest turns).filterMap (proxy.ownAnswer prims) := by
          cases h : proxy.ownAnswer prims (frame, turn) <;> simp [h]
        rw [hexch, List.forall_mem_cons, ← ih rest]
        constructor
        · rintro ⟨hexit, hwritten⟩
          rw [hloop] at hexit hwritten
          rw [hexch, hfilter] at hwritten
          exact ⟨hserved, hexit, List.append_cancel_left hwritten⟩
        · rintro ⟨-, hexit, hwritten⟩
          refine ⟨by rwa [hloop], ?_⟩
          rw [hloop, hexch, hfilter, hwritten]

/-- A proxy that neither compresses nor encrypts. -/
def plainProxy : UdpProxy := ⟨"dns", "127.0.0.1", 53, false, false, ""⟩

/-- A turn in which everything works, and the service answers with the given data or
not in time. -/
def turnWith (data : Option (List UInt8)) : Turn where
  eof := "early eof"
  send := .ok ()
  recv := data.map .ok
  nonce := .replicate 12 0
  write := .ok ()

/-- The service does not answer the first of two requests, and the second, which it
would have answered, goes unanswered. -/
theorem unanswered_request_stops_loop :
    let incoming := UdpMux.encode (.req 1 "203.0.113.1:4000" [1]) ++
      UdpMux.encode (.req 2 "203.0.113.2:4000" [2])
    let turns := [turnWith none, turnWith (some [3]), turnWith none]
    plainProxy.loop .trivial incoming turns =
        ⟨[], some (.request (.timeout "udp local response timeout"))⟩ ∧
      (plainProxy.exchanges .trivial incoming turns).filterMap (plainProxy.ownAnswer .trivial) =
        [.resp 2 [3]] ∧
      ¬Resilient plainProxy .trivial incoming turns := by
  intro incoming turns
  have hloop : plainProxy.loop .trivial incoming turns =
      ⟨[], some (.request (.timeout "udp local response timeout"))⟩ := by decide
  refine ⟨hloop, by decide, fun h ↦ ?_⟩
  exact h.exit (.timeout "udp local response timeout") (by rw [hloop])

end UdpProxy

end Arp.Client
