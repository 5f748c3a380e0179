import Arp.Common.Codec

/-!
# Transports

A transport frames a byte stream into messages.  It reads ahead: what a read
brings beyond the message at hand stays in its buffer.  A connection that turns
from messages to raw bytes therefore has two ways out of the transport, with and
without that buffer.
-/

namespace Arp.Common

open Arp.Lib.Framing

/-- A byte stream: the reads it will give, and what has been written to it. -/
structure Stream where
  reads : List (Chunk UInt8)
  written : List UInt8

/-- `MessageTransport`: a framed stream. -/
structure MessageTransport where
  readBuf : List UInt8
  stream : Stream

namespace MessageTransport

/-- `MessageTransport::from_stream`. -/
def fromStream (stream : Stream) : MessageTransport := ⟨[], stream⟩

/-- `MessageTransport::recv`.  The error is the one the framing layer gives for a
stream that ends inside a message. -/
def recv (serde : Serde) (t : MessageTransport) : Result (Option Message) × MessageTransport :=
  let (result, framed) := next (MessageCodec.decode serde) (.io "bytes remaining on stream")
    t.readBuf t.stream.reads
  (result, ⟨framed.readBuf, { t.stream with reads := framed.io }⟩)

/-- `MessageTransport::send`, with the outcome `io` of writing to the stream. -/
def send (serde : Serde) (io : Result Unit) (t : MessageTransport) (msg : Message) :
    Result MessageTransport :=
  match MessageCodec.encode serde msg [], io with
  | (.error e, _), _ => .error (.transport ("Failed to send message: " ++ e.display))
  | (.ok (), _), .error e => .error (.transport ("Failed to send message: " ++ e.display))
  | (.ok (), out), .ok () =>
    .ok { t with stream := { t.stream with written := t.stream.written ++ out } }

/-- `MessageTransport::into_inner`. -/
def intoInner (t : MessageTransport) : Stream := t.stream

/-- `MessageTransport::into_inner_with_read_buf`. -/
def intoInnerWithReadBuf (t : MessageTransport) : Stream × List UInt8 := (t.stream, t.readBuf)

/-- Sending appends the encoded message. -/
theorem send_eq_ok {serde : Serde} {msg : Message} {out : List UInt8} (t : MessageTransport)
    (hframe : MessageCodec.encode serde msg [] = (.ok (), out)) :
    send serde (.ok ()) t msg =
      .ok { t with stream := { t.stream with written := t.stream.written ++ out } } := by
  unfold send
  rw [hframe]

/-- Receiving from a stream that starts with the frame of a message.  The bytes
after the frame are those carried in the buffer and those not read yet. -/
theorem recv_frame {serde : Serde} {msg : Message} {frame d : List UInt8}
    {reads : List (Chunk UInt8)} {written : List UInt8} (hserde : serde.RoundTrips msg)
    (hframe : MessageCodec.encode serde msg [] = (.ok (), frame))
    (hcut : contents reads = frame ++ d) :
    ∃ t, recv serde (fromStream ⟨reads, written⟩) = (.ok (some msg), t) ∧
      t.readBuf ++ contents t.stream.reads = d ∧
      (t.readBuf = [] ↔ ∃ p, p <+: reads ∧ contents p = frame) := by
  obtain ⟨json, hjson, hsize, rfl⟩ := MessageCodec.encode_eq_ok hframe
  rw [List.nil_append] at hcut ⊢
  have hpos : ([] : List UInt8).length < (MessageCodec.frame msg json).length := by
    simp [MessageCodec.headerLen]
  obtain ⟨taken, left, carried, rfl, hnext, htaken, hmin⟩ :=
    next_frame (MessageCodec.frames hjson hsize hserde) reads [] d hcut hpos
  rw [List.nil_append] at htaken
  refine ⟨⟨carried, ⟨left, written⟩⟩, ?_, ?_, carried_eq_nil_iff htaken hmin⟩
  · rw [recv, fromStream, hnext]
  · rw [contents_append, htaken, List.append_assoc] at hcut
    exact List.append_cancel_left hcut

/-- A read that brings the frame brings the transport whatever follows it there. -/
theorem recv_one_read {serde : Serde} {msg : Message} {frame d : List UInt8}
    {c : Chunk UInt8} {written : List UInt8} (hserde : serde.RoundTrips msg)
    (hframe : MessageCodec.encode serde msg [] = (.ok (), frame)) (hc : c.val = frame ++ d) :
    recv serde (fromStream ⟨[c], written⟩) = (.ok (some msg), ⟨d, ⟨[], written⟩⟩) := by
  obtain ⟨json, hjson, hsize, rfl⟩ := MessageCodec.encode_eq_ok hframe
  have h := MessageCodec.frames hjson hsize hserde
  have hempty : MessageCodec.decode serde [] = (.ok none, []) :=
    h.starved [] List.nil_prefix (by simp [MessageCodec.frame])
  have hserved := h.served d
  rw [List.nil_append] at hc
  rw [← hc] at hserved
  rw [recv, fromStream, next_starved hempty, List.nil_append, next_served hserved]

end MessageTransport

/-! ## Relaying -/

/-- What `copy_bidirectional` has done when both directions have ended: the bytes
it moved, and the two streams. -/
structure Copied where
  aToB : List UInt8
  bToA : List UInt8
  a : Stream
  b : Stream

/-- `copy_bidirectional`: each direction is copied until its own end. -/
def copyBidirectional (a b : Stream) : Copied where
  aToB := contents a.reads
  bToA := contents b.reads
  a := ⟨[], a.written ++ contents b.reads⟩
  b := ⟨[], b.written ++ contents a.reads⟩

end Arp.Common
