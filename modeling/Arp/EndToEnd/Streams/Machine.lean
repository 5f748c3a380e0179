import Arp.Common.Mux
import Arp.Lib.Machine
import Arp.Lib.Table

/-!
# A tunnel of multiplexed streams

Users connect to the server, and every connection becomes a stream of the tunnel; the
client connects every stream to the local service.  Both ends are built alike.  A map
holds the sending side of a channel for every open stream.  A reader takes frames off
the work connection and sends what is for a stream into its channel, and a task per
stream writes that to the socket.  Another task per stream reads the socket and queues
frames, which the writer of the tunnel puts on the work connection.

The machine has a step for every stretch between two waits of one of these tasks, at
either end.  `enqueued` and `handled` record all frames that an end has queued and
read, and `read` and `written` all bytes that a stream has taken from its socket and
given to it.
-/

namespace Arp.EndToEnd.Streams

open Arp.Common Arp.Lib

/-- The two ends of a tunnel. -/
inductive Side where
  | server
  | client
deriving DecidableEq, Repr

/-- The end across. -/
def Side.other : Side → Side
  | server => client
  | client => server

/-- How far the handling of a stream has come. -/
inductive Phase where
  /-- `open_stream` has taken an id. -/
  | opening
  /-- The stream is in the map, and its `Open` is to be queued. -/
  | announcing
  /-- `open_stream` could not queue the `Open`. -/
  | failed
  /-- `handle_local_stream` connects to the local service. -/
  | connecting
  /-- Waiting for the socket. -/
  | reading
  /-- Waiting to queue a piece that was read. -/
  | sending
  /-- The socket has ended; of leaving the map and queueing a `Close`, both are to be
  done. -/
  | closing
  /-- One of them is to be done. -/
  | closed
  /-- `relay_mux_stream` or `handle_local_stream` has returned. -/
  | returned
deriving DecidableEq, Repr

/-- The socket has ended and the handling with it. -/
def Phase.ended : Phase → Bool
  | closing | closed | returned => true
  | opening | announcing | failed | connecting | reading | sending => false

/-- The task that writes to the socket has been spawned. -/
def Phase.started : Phase → Bool
  | reading | sending | closing | closed | returned => true
  | opening | announcing | failed | connecting => false

/-- A stream at one end: its socket, the function that handles it, and the task that
writes to the socket. -/
structure Stream where
  id : UInt32
  phase : Phase
  /-- What the user or the service has sent so far, and whether that was all. -/
  sent : List UInt8
  finished : Bool
  /-- What was read of it. -/
  read : List UInt8
  /-- The piece that was read last, until it is queued. -/
  hand : List UInt8
  /-- The channel of the stream. -/
  queue : List (List UInt8)
  /-- What is left to write of the piece that was taken off the channel last. -/
  writing : List UInt8
  /-- What was written to the socket. -/
  written : List UInt8
  /-- The writing task was aborted, which takes effect when it next waits. -/
  aborted : Bool
  /-- The receiver of the channel is gone, and the writing task with it. -/
  done : Bool
deriving DecidableEq, Repr

namespace Stream

/-- A stream that has just been made. -/
def new (id : UInt32) (phase : Phase) : Stream :=
  ⟨id, phase, [], false, [], [], [], [], [], false, false⟩

/-- The receiver of the channel is dropped, with what is in the channel. -/
def stop (h : Stream) : Stream := { h with done := true, queue := [], writing := [] }

/-- Everything that got into the channel and was not dropped. -/
def accepted (h : Stream) : List UInt8 := h.written ++ (h.writing ++ h.queue.flatten)

end Stream

/-- What the reader of the tunnel is doing. -/
inductive Reader where
  | idle
  /-- Sending a piece into the channel of a stream. -/
  | delivering (k : Nat) (id : UInt32) (payload : List UInt8)
  /-- Queueing a frame in reply. -/
  | replying (frame : MuxFrame)
  | exited
deriving DecidableEq, Repr

/-- The work connection as one end sees it. -/
structure Traffic where
  /-- The channel of frames to the writer. -/
  frames : List MuxFrame
  enqueued : List MuxFrame
  writerExited : Bool
  /-- The bytes on the work connection that have not been read. -/
  incoming : List UInt8
  handled : List MuxFrame
deriving DecidableEq, Repr

/-- One end of the tunnel. -/
structure End extends Traffic where
  /-- All streams there have been. -/
  streams : List Stream
  /-- The map: the place of a stream by its id. -/
  table : Table UInt32 Nat
  nextStreamId : UInt32
  reader : Reader
deriving DecidableEq

namespace End

/-- An end that has just been made. -/
def new : End := ⟨⟨[], [], false, [], []⟩, [], ∅, 1, .idle⟩

/-- The capacity of the channel of frames. -/
def frameCapacity : Nat := 1024

/-- The capacity of the channel of a stream. -/
def streamCapacity : Nat := 256

/-- The size of the buffer a socket is read into. -/
def bufferSize : Nat := 16 * 1024

/-- A stream gets on. -/
def setStream (x : End) (k : Nat) (h : Stream) : End := { x with streams := x.streams.set k h }

/-- A frame enters the channel. -/
def enqueue (x : End) (frame : MuxFrame) : End :=
  { x with frames := x.frames ++ [frame], enqueued := x.enqueued ++ [frame] }

/-- There is room in the channel of frames. -/
def hasRoom (x : End) : Bool := x.frames.length < frameCapacity

/-- A stream leaves the map. -/
def remove (x : End) (id : UInt32) : End := { x with table := x.table.erase id }

/-- Queue a frame, or do without if the channel is closed; none if there is no room yet. -/
def trySend (x : End) (frame : MuxFrame) : Option End :=
  if x.writerExited then some x else if x.hasRoom then some (x.enqueue frame) else none

/-- Somebody can still send into the channel of a stream. -/
def hasSender (x : End) (k : Nat) (id : UInt32) : Bool :=
  x.table.lookup id = some k ||
    match x.reader with
    | .delivering j _ _ => j == k
    | _ => false

end End

/-- What can happen next at one end. -/
inductive Event where
  /-- The user or the service sends, or has sent all. -/
  | peerSends (k : Nat) (bytes : List UInt8)
  | peerFinishes (k : Nat)
  /-- A user connects, and `open_stream` takes an id. -/
  | accept
  | insert (k : Nat)
  | announce (k : Nat)
  /-- The connection to the local service is made or not. -/
  | connect (k : Nat) (ok : Bool)
  /-- The socket is read: some bytes, the end, or an error. -/
  | read (k : Nat) (n : Nat)
  | readEof (k : Nat)
  | readError (k : Nat)
  | send (k : Nat)
  | close (k : Nat)
  | finish (k : Nat)
  /-- The writing task takes a piece, writes some of it, or fails. -/
  | take (k : Nat)
  | write (k : Nat) (n : Nat)
  | writeError (k : Nat)
  /-- It is cancelled, or there is nothing left to come. -/
  | cancel (k : Nat)
  | drained (k : Nat)
  /-- The reader of the tunnel. -/
  | readFrame
  | deliver
  | reply
  | readerFails
  /-- The writer of the tunnel; it may fail in the middle of a frame. -/
  | writeFrame
  | writeFrameFails (n : Nat)
  | writerExits
deriving DecidableEq, Repr

/-- The first half of what follows the end of a socket.  The server leaves the map
first, the client queues its `Close` first. -/
def closeFirst (side : Side) (x : End) (id : UInt32) : Option End :=
  match side with
  | .server => some (x.remove id)
  | .client => x.trySend (.close id)

/-- The second half. -/
def closeSecond (side : Side) (x : End) (id : UInt32) : Option End :=
  match side with
  | .server => x.trySend (.close id)
  | .client => some (x.remove id)

/-- `open_stream`, `relay_mux_stream` and `handle_local_stream`. -/
def stepHandler (side : Side) (x : End) (k : Nat) (h : Stream) (e : Event) : Option End :=
  match h.phase, e with
  | .opening, .insert _ =>
    some { x.setStream k { h with phase := .announcing } with table := x.table.insert h.id k }
  | .announcing, .announce _ =>
    if x.writerExited then some (x.setStream k { h.stop with phase := .failed })
    else if x.hasRoom then
      some ((x.setStream k { h with phase := .reading }).enqueue (.open h.id))
    else none
  | .connecting, .connect _ ok =>
    if ok then some (x.setStream k { h with phase := .reading })
    else some (x.setStream k { h.stop with phase := .returned })
  | .reading, .read _ n =>
    if 0 < n ∧ n ≤ End.bufferSize ∧ h.read.length + n ≤ h.sent.length then
      let piece := (h.sent.drop h.read.length).take n
      some (x.setStream k { h with read := h.read ++ piece, hand := piece, phase := .sending })
    else none
  | .reading, .readEof _ =>
    if h.finished ∧ h.read = h.sent then some (x.setStream k { h with phase := .closing })
    else none
  | .reading, .readError _ => some (x.setStream k { h with phase := .returned })
  | .sending, .send _ =>
    if x.writerExited then some (x.setStream k { h with phase := .returned })
    else if x.hasRoom then
      some ((x.setStream k { h with hand := [], phase := .reading }).enqueue (.data h.id h.hand))
    else none
  | .closing, .close _ => closeFirst side (x.setStream k { h with phase := .closed }) h.id
  | .closed, .finish _ =>
    closeSecond side (x.setStream k { h with phase := .returned, aborted := true }) h.id
  | _, _ => none

/-- The task that writes to the socket of a stream. -/
def stepTask (x : End) (k : Nat) (h : Stream) (e : Event) : Option End :=
  if h.phase.started = true ∧ h.done = false then
    match e with
    | .take _ =>
      match h.writing, h.queue with
      | [], piece :: queue => some (x.setStream k { h with writing := piece, queue := queue })
      | _, _ => none
    | .write _ n =>
      if 0 < n ∧ n ≤ h.writing.length then
        some (x.setStream k
          { h with written := h.written ++ h.writing.take n, writing := h.writing.drop n })
      else none
    | .writeError _ => if h.writing ≠ [] then some (x.setStream k h.stop) else none
    | .cancel _ => if h.aborted then some (x.setStream k h.stop) else none
    | .drained _ =>
      if h.writing = [] ∧ h.queue = [] ∧ x.hasSender k h.id = false then
        some (x.setStream k h.stop)
      else none
    | _ => none
  else none

/-- The user or the service at the other end of the socket. -/
def stepPeer (x : End) (k : Nat) (h : Stream) : Event → Option End
  | .peerSends _ bytes =>
    if h.finished = false ∧ h.phase ≠ .connecting then
      some (x.setStream k { h with sent := h.sent ++ bytes })
    else none
  | .peerFinishes _ =>
    if h.phase ≠ .connecting then some (x.setStream k { h with finished := true }) else none
  | _ => none

/-- What the reader does with a frame. -/
def handle (side : Side) (x : End) (frame : MuxFrame) : End :=
  match frame with
  | .data id payload =>
    match x.table.lookup id with
    | some k => { x with reader := .delivering k id payload }
    | none => { x with reader := .replying (.close id) }
  | .close id => x.remove id
  | .ping => { x with reader := .replying .pong }
  | .pong => x
  | .open id =>
    match side with
    | .server => x
    | .client =>
      { x with
        streams := x.streams ++ [.new id .connecting]
        table := x.table.insert id x.streams.length }

/-- The reader of the tunnel. -/
def stepReader (side : Side) (x : End) (e : Event) : Option End :=
  match x.reader, e with
  | .idle, .readFrame =>
    match Mux.readMuxFrame x.incoming with
    | .starved => none
    | .failed _ => some { x with reader := .exited, table := ∅ }
    | .done frame rest =>
      some (handle side { x with incoming := rest, handled := x.handled ++ [frame] } frame)
  | .idle, .readerFails => some { x with reader := .exited, table := ∅ }
  | .delivering k id payload, .deliver =>
    match x.streams[k]? with
    | some h =>
      if h.done then some { x.remove id with reader := .idle }
      else if h.queue.length < End.streamCapacity then
        some { x.setStream k { h with queue := h.queue ++ [payload] } with reader := .idle }
      else none
    | none => none
  | .replying frame, .reply => (x.trySend frame).map fun x ↦ { x with reader := .idle }
  | _, _ => none

/-- The writer of the tunnel, with the bytes it puts on the work connection. -/
def stepWriter (x : End) : Event → Option (End × List UInt8)
  | .writeFrame =>
    match x.writerExited, x.frames with
    | false, frame :: frames => some ({ x with frames := frames }, Mux.writeMuxFrame frame)
    | _, _ => none
  | .writeFrameFails n =>
    match x.writerExited, x.frames with
    | false, frame :: _ =>
      if n < (Mux.writeMuxFrame frame).length then
        some ({ x with frames := [], writerExited := true }, (Mux.writeMuxFrame frame).take n)
      else none
    | _, _ => none
  | .writerExits => some ({ x with frames := [], writerExited := true }, [])
  | _ => none

/-- One step at one end, with the bytes it puts on the work connection. -/
def stepEnd (side : Side) (x : End) (e : Event) : Option (End × List UInt8) :=
  match e with
  | .accept =>
    match side with
    | .server =>
      some ({ x with
        streams := x.streams ++ [.new x.nextStreamId .opening]
        nextStreamId := x.nextStreamId + 1 }, [])
    | .client => none
  | .peerSends k _ | .peerFinishes k =>
    (x.streams[k]?).bind fun h ↦ (stepPeer x k h e).map fun x ↦ (x, [])
  | .insert k | .announce k | .connect k _ | .read k _ | .readEof k | .readError k | .send k
  | .close k | .finish k =>
    (x.streams[k]?).bind fun h ↦ (stepHandler side x k h e).map fun x ↦ (x, [])
  | .take k | .write k _ | .writeError k | .cancel k | .drained k =>
    (x.streams[k]?).bind fun h ↦ (stepTask x k h e).map fun x ↦ (x, [])
  | .readFrame | .deliver | .reply | .readerFails => (stepReader side x e).map fun x ↦ (x, [])
  | .writeFrame | .writeFrameFails _ | .writerExits => stepWriter x e

/-- Both ends of a tunnel. -/
structure State where
  server : End
  client : End
deriving DecidableEq

namespace State

/-- A tunnel that has just been made. -/
def new : State := ⟨.new, .new⟩

/-- One of the ends. -/
def get (s : State) : Side → End
  | .server => s.server
  | .client => s.client

/-- An end gets on and puts bytes on the work connection. -/
def update (s : State) (side : Side) (x : End) (bytes : List UInt8) : State :=
  match side with
  | .server => ⟨x, { s.client with incoming := s.client.incoming ++ bytes }⟩
  | .client => ⟨{ s.server with incoming := s.server.incoming ++ bytes }, x⟩

end State

/-- One step of the tunnel. -/
def step (s : State) (e : Side × Event) : Option State :=
  (stepEnd e.1 (s.get e.1) e.2).map fun out ↦ s.update e.1 out.1 out.2

end Arp.EndToEnd.Streams
