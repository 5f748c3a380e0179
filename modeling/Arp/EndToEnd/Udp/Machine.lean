import Arp.Client.Control
import Arp.Client.Udp
import Arp.Lib.Machine
import Arp.Lib.Table

/-!
# A UDP tunnel from end to end

Remote sources send datagrams to the server's UDP proxy.  A task per datagram takes a
request id, enters itself under the id in the table of pending requests, queues a
request frame and waits for the response.  The client serves one request at a time
over one connected socket: it forwards the packet to the local service and takes the
next datagram that arrives on the socket for the answer.

The machine below is one tunnel with everything around it: the tasks, the writer and
the reader of the server, the bytes on the work connection in both directions, the
client, and a local service that answers datagrams when and as often as it likes.  A
step is what a task does between two waits.
-/

namespace Arp.Server

open Common

/-- What `UdpProxy::new` on the server decides to do to packets. -/
def udpPacketOptions (msg : NewProxyMsg) : PacketOptions :=
  ⟨msg.useCompression, msg.useEncryption || msg.proxyType == "sudp", msg.sk⟩

end Arp.Server

namespace Arp.EndToEnd.Udp

open Arp.Common Arp.Client Arp.Lib

/-- The greatest length of a UDP payload: the length field of a datagram has sixteen
bits and counts the header of eight bytes. -/
def maxDatagramLen : Nat := 65527

/-- The payload of a UDP datagram. -/
abbrev Datagram := { data : List UInt8 // data.length ≤ maxDatagramLen }

/-- The two ends of a proxy and the foreign functions they use. -/
structure Settings where
  server : PacketOptions
  client : UdpProxy
  prims : Primitives

/-- The two ends as both make them from one configuration. -/
def Settings.ofConfig (tcpMux : Bool) (config : ProxyConfig) (prims : Primitives) : Settings where
  server := Server.udpPacketOptions (newProxyMsg tcpMux config)
  client := .new (effectiveConfig tcpMux config)
  prims := prims

/-- How far `handle_udp_packet` has come, with the request id once it has taken one. -/
inductive Stage where
  /-- The packet is encoded and the tunnel is there. -/
  | ready
  | numbered (id : UInt32)
  | registered (id : UInt32)
  /-- The request is queued. -/
  | waiting (id : UInt32)
  | finished (id : UInt32)
deriving DecidableEq, Repr

/-- The request id that has been taken. -/
def Stage.requestId : Stage → Option UInt32
  | ready => none
  | numbered id | registered id | waiting id | finished id => some id

/-- A task of `handle_udp_packet`. -/
structure Packet where
  source : String
  payload : Datagram
  encoded : List UInt8
  stage : Stage
  /-- What has been sent to the task over its channel. -/
  reply : Option (List UInt8)
deriving DecidableEq, Repr

/-- The request id of a task. -/
def Packet.requestId (packet : Packet) : Option UInt32 := packet.stage.requestId

/-- The client's loop. -/
inductive Client where
  | idle
  | receiving (requestId : UInt32)
  | ended
deriving DecidableEq, Repr

/-- The client waits for a datagram. -/
def Client.isReceiving : Client → Bool
  | receiving _ => true
  | idle | ended => false

/-- A tunnel and its surroundings. -/
structure State where
  packets : List Packet
  nextRequestId : UInt32
  pending : Table UInt32 Nat
  /-- The channel of frames to the writer. -/
  queue : List UdpMuxFrame
  writerExited : Bool
  readerExited : Bool
  /-- The bytes on the work connection that have not been read. -/
  toClient : List UInt8
  toServer : List UInt8
  client : Client
  /-- The packets the client has sent to the service, each with the source that its
  request named. -/
  forwarded : List (String × List UInt8)
  /-- The datagrams on their way to the client's socket. -/
  inbox : List Datagram
  /-- The datagrams the service has emitted, each with the place among the forwarded
  packets of the one it answers. -/
  emitted : List (Nat × Datagram)
  /-- The datagrams the server has delivered to sources. -/
  delivered : List (String × List UInt8)
deriving DecidableEq

/-- A tunnel that has just been created. -/
def State.new : State := ⟨[], 1, ∅, [], false, false, [], [], .idle, [], [], [], []⟩

/-- What can happen next. -/
inductive Event where
  /-- A datagram arrives and is encoded with a nonce. -/
  | arrive (source : String) (payload : Datagram) (nonce : Vector UInt8 12)
  | number (p : Nat)
  | register (p : Nat)
  | enqueue (p : Nat)
  /-- The channel is closed. -/
  | enqueueFails (p : Nat)
  /-- The writer writes the next frame. -/
  | write
  /-- The writer fails after a number of bytes of the next frame. -/
  | writeFails (k : Nat)
  | writerExits
  /-- The client reads the next frame and forwards it. -/
  | forward (turn : UdpProxy.Turn)
  /-- The client's loop ends: the connection fails, or a request does. -/
  | clientFails
  /-- The service answers a packet. -/
  | emit (m : Nat) (data : Datagram)
  /-- A datagram of the service is lost. -/
  | lose (i : Nat)
  /-- The client receives a datagram and writes the response, or only a number of its
  bytes. -/
  | receive (i : Nat) (turn : UdpProxy.Turn) (written : Option Nat)
  /-- The reader of the server reads the next frame. -/
  | serverReads
  | readerExits
  /-- The wait for the response times out, or the channel has lost its sender. -/
  | giveUp (p : Nat)
  /-- The response is decoded and sent to the source. -/
  | deliver (p : Nat) (sent : Bool)

/-- The capacity of the channel of frames. -/
def queueCapacity : Nat := 1024

/-- A task gets on. -/
def State.setPacket (s : State) (p : Nat) (packet : Packet) : State :=
  { s with packets := s.packets.set p packet }

/-- `tx.send`: nothing happens if the task has given up. -/
def offer (packets : List Packet) (p : Nat) (payload : List UInt8) : List Packet :=
  match packets[p]? with
  | some packet =>
    match packet.stage with
    | .finished _ => packets
    | _ => packets.set p { packet with reply := some payload }
  | none => packets

/-- What the task of a packet does next. -/
def stepPacket (set : Settings) (s : State) (p : Nat) (packet : Packet) (e : Event) :
    Option State :=
  match packet.stage, e with
  | .ready, .number _ =>
    some { s.setPacket p { packet with stage := .numbered s.nextRequestId } with
      nextRequestId := s.nextRequestId + 1 }
  | .numbered id, .register _ =>
    some { s.setPacket p { packet with stage := .registered id } with
      pending := s.pending.insert id p }
  | .registered id, .enqueue _ =>
    if s.writerExited = false ∧ s.queue.length < queueCapacity then
      some { s.setPacket p { packet with stage := .waiting id } with
        queue := s.queue ++ [.req id packet.source packet.encoded] }
    else none
  | .registered id, .enqueueFails _ =>
    if s.writerExited then
      some { s.setPacket p { packet with stage := .finished id } with
        pending := s.pending.erase id }
    else none
  | .waiting id, .giveUp _ =>
    if packet.reply = none then some (s.setPacket p { packet with stage := .finished id })
    else none
  | .waiting id, .deliver _ sent =>
    match packet.reply with
    | some payload =>
      let s' := s.setPacket p { packet with stage := .finished id }
      match set.server.decode set.prims payload with
      | .error _ => some s'
      | .ok data =>
        some (if sent then { s' with delivered := s.delivered ++ [(packet.source, data)] } else s')
    | none => none
  | _, _ => none

/-- The writer of the server. -/
def stepWriter (s : State) : Event → Option State
  | .write =>
    match s.writerExited, s.queue with
    | false, frame :: queue =>
      match UdpMux.writeUdpMuxFrame frame with
      | .ok bytes => some { s with queue := queue, toClient := s.toClient ++ bytes }
      | .error _ => some { s with queue := [], writerExited := true }
    | _, _ => none
  | .writeFails k =>
    match s.writerExited, s.queue with
    | false, frame :: _ =>
      match UdpMux.writeUdpMuxFrame frame with
      | .ok bytes =>
        if k < bytes.length then
          some { s with
            queue := [], writerExited := true, toClient := s.toClient ++ bytes.take k }
        else none
      | .error _ => none
    | _, _ => none
  | .writerExits => some { s with queue := [], writerExited := true }
  | _ => none

/-- The client. -/
def stepClient (set : Settings) (s : State) : Event → Option State
  | .forward turn =>
    match s.client, UdpMux.readUdpMuxFrame s.toClient with
    | .idle, .done (.req id source payload) rest =>
      match set.client.forward set.prims turn payload with
      | .error _ => some { s with toClient := rest, client := .ended }
      | .ok packet =>
        some { s with
          toClient := rest, client := .receiving id,
          forwarded := s.forwarded ++ [(source, packet)] }
    | .idle, .done .ping rest =>
      some { s with toClient := rest, toServer := s.toServer ++ UdpMux.encode .pong }
    | .idle, .done _ rest => some { s with toClient := rest }
    | .idle, .failed _ => some { s with client := .ended }
    | _, _ => none
  | .clientFails => some { s with client := .ended }
  | .receive i turn written =>
    match s.client, s.inbox[i]? with
    | .receiving id, some data =>
      let inbox := s.inbox.eraseIdx i
      match set.client.receive set.prims { turn with recv := some (.ok data.val) } with
      | .error _ => some { s with inbox := inbox, client := .ended }
      | .ok encoded =>
        let bytes := UdpMux.encode (.resp id encoded)
        match written with
        | none => some { s with inbox := inbox, client := .idle, toServer := s.toServer ++ bytes }
        | some k =>
          if k < bytes.length then
            some { s with
              inbox := inbox, client := .ended, toServer := s.toServer ++ bytes.take k }
          else none
    | _, _ => none
  | _ => none

/-- The reader of the server. -/
def stepReader (s : State) : Event → Option State
  | .serverReads =>
    match s.readerExited, UdpMux.readUdpMuxFrame s.toServer with
    | false, .done (.resp id payload) rest =>
      match s.pending.lookup id with
      | some p =>
        some { s with
          packets := offer s.packets p payload, toServer := rest,
          pending := s.pending.erase id }
      | none => some { s with toServer := rest }
    | false, .done .ping rest =>
      if s.writerExited then some { s with toServer := rest }
      else if s.queue.length < queueCapacity then
        some { s with toServer := rest, queue := s.queue ++ [.pong] }
      else none
    | false, .done _ rest => some { s with toServer := rest }
    | false, .failed _ => some { s with readerExited := true, pending := ∅ }
    | _, _ => none
  | .readerExits => some { s with readerExited := true, pending := ∅ }
  | _ => none

/-- One step. -/
def step (set : Settings) (s : State) (e : Event) : Option State :=
  match e with
  | .arrive source payload nonce =>
    match set.server.encode set.prims nonce payload.val with
    | .error _ => some s
    | .ok encoded =>
      some { s with packets := s.packets ++ [⟨source, payload, encoded, .ready, none⟩] }
  | .number p | .register p | .enqueue p | .enqueueFails p | .giveUp p | .deliver p _ =>
    match s.packets[p]? with
    | some packet => stepPacket set s p packet e
    | none => none
  | .write | .writeFails _ | .writerExits => stepWriter s e
  | .forward _ | .clientFails | .receive _ _ _ => stepClient set s e
  | .serverReads | .readerExits => stepReader s e
  | .emit m data =>
    if m < s.forwarded.length then
      some { s with inbox := s.inbox ++ [data], emitted := s.emitted ++ [(m, data)] }
    else none
  | .lose i => some { s with inbox := s.inbox.eraseIdx i }

/-- A datagram that was delivered to a source was emitted by the service in answer to
a packet from that source. -/
def RightlyRouted (s : State) : Prop :=
  ∀ d ∈ s.delivered, ∃ m data, (m, data) ∈ s.emitted ∧ data.val = d.2 ∧
    ∃ packet ∈ s.packets, packet.source = d.1 ∧
      s.forwarded[m]? = some (packet.source, packet.payload.val)

/-- The service answers a packet only while the client waits for the answer to that
very packet and no other answer is on its way, or when the client has gone; and a
request id is taken only once. -/
def AnsweredInTurn (s : State) : Event → Prop
  | .emit m _ => s.client = .ended ∨
      s.client.isReceiving = true ∧ m + 1 = s.forwarded.length ∧ s.inbox = []
  | .number _ => ∀ packet ∈ s.packets, packet.requestId ≠ some s.nextRequestId
  | _ => True

instance (s : State) (e : Event) : Decidable (AnsweredInTurn s e) := by
  cases e <;> unfold AnsweredInTurn <;> infer_instance

end Arp.EndToEnd.Udp
