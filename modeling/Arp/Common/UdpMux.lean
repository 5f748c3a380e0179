import Arp.Common.Error
import Arp.Lib.Text
import Arp.Lib.Wire

/-!
# Frames of UDP packets

On the work connection of a UDP proxy, packets travel as request and response
frames.  All numbers are big-endian.  The writer checks the length of the address
only; the reader checks the lengths of address and payload before it reads them.
-/

namespace Arp.Common

open Arp.Lib.Framing Arp.Lib.Text Arp.Lib.Wire

/-- `UdpMuxFrame`. -/
inductive UdpMuxFrame where
  | req (requestId : UInt32) (srcAddr : String) (payload : List UInt8)
  | resp (requestId : UInt32) (payload : List UInt8)
  | ping
  | pong
deriving DecidableEq, Repr

namespace UdpMux

/-- `FRAME_REQ`. -/
def frameReq : UInt8 := 1

/-- `FRAME_RESP`. -/
def frameResp : UInt8 := 2

/-- `FRAME_PING`. -/
def framePing : UInt8 := 3

/-- `FRAME_PONG`. -/
def framePong : UInt8 := 4

/-- `MAX_ADDR_LEN`. -/
def maxAddrLen : Nat := 1024

/-- `MAX_PAYLOAD_LEN`. -/
def maxPayloadLen : Nat := 1024 * 1024

/-- The bytes of a frame. -/
def encode : UdpMuxFrame → List UInt8
  | .req requestId srcAddr payload =>
    [frameReq] ++ (toBE 4 requestId.toNat ++ (toBE 2 (bytes srcAddr).length ++ (bytes srcAddr ++
      (toBE 4 payload.length ++ payload))))
  | .resp requestId payload =>
    [frameResp] ++ (toBE 4 requestId.toNat ++ (toBE 4 payload.length ++ payload))
  | .ping => [framePing]
  | .pong => [framePong]

/-- `write_udp_mux_frame`: the bytes it writes, if it gets to write them. -/
def writeUdpMuxFrame (frame : UdpMuxFrame) : Result (List UInt8) :=
  match frame with
  | .req _ srcAddr _ =>
    if maxAddrLen < (bytes srcAddr).length then .error (.protocol "udp mux src_addr too long")
    else .ok (encode frame)
  | _ => .ok (encode frame)

/-- `read_udp_mux_frame`.  Where bytes are missing it waits; the end of the stream
is an I/O error of whoever provides the bytes. -/
def readUdpMuxFrame : Reader Error UdpMuxFrame := do
  let frameType ← Reader.u8
  if frameType = frameReq then
    let requestId ← Reader.u32
    let addrLen ← Reader.u16
    if maxAddrLen < addrLen.toNat then Reader.fail (.protocol "udp mux src_addr too long")
    else
      let addr ← Reader.exact addrLen.toNat
      let payloadLen ← Reader.u32
      if maxPayloadLen < payloadLen.toNat then
        Reader.fail (.protocol "udp mux payload too large")
      else
        let payload ← Reader.exact payloadLen.toNat
        match fromUtf8 addr with
        | .ok srcAddr => pure (.req requestId srcAddr payload)
        | .error e => Reader.fail (.protocol ("invalid udp mux src_addr: " ++ e.display))
  else if frameType = frameResp then
    let requestId ← Reader.u32
    let payloadLen ← Reader.u32
    if maxPayloadLen < payloadLen.toNat then
      Reader.fail (.protocol "udp mux payload too large")
    else
      let payload ← Reader.exact payloadLen.toNat
      pure (.resp requestId payload)
  else if frameType = framePing then pure .ping
  else if frameType = framePong then pure .pong
  else Reader.fail (.protocol ("unknown udp mux frame type: " ++ toString frameType))

/-- Address and payload have lengths the reader accepts. -/
def Fits : UdpMuxFrame → Prop
  | .req _ srcAddr payload =>
    (bytes srcAddr).length ≤ maxAddrLen ∧ payload.length ≤ maxPayloadLen
  | .resp _ payload => payload.length ≤ maxPayloadLen
  | .ping | .pong => True

theorem maxPayloadLen_lt : maxPayloadLen < 2 ^ 32 := by
  unfold maxPayloadLen
  omega

/-- The reader knows the frames that fit. -/
theorem reads_encode {frame : UdpMuxFrame} (h : Fits frame) :
    Reads readUdpMuxFrame (encode frame) frame := by
  cases frame with
  | req requestId srcAddr payload =>
      have hlt : (bytes srcAddr).length < 2 ^ 16 := by
        have h1 := h.1
        unfold maxAddrLen at h1
        omega
      have hn : (UInt16.ofNat (bytes srcAddr).length).toNat = (bytes srcAddr).length :=
        UInt16.toNat_ofNat_of_lt' hlt
      have hu := Reads.u16 (ε := Error) (UInt16.ofNat (bytes srcAddr).length)
      rw [hn] at hu
      refine (Reads.u8 frameReq).bind ((Reads.u32 requestId).bind (hu.bind ?_))
      rw [hn, if_neg (Nat.not_lt.mpr h.1)]
      refine (Reads.exact (bytes srcAddr)).bind (.sized maxPayloadLen_lt h.2 ?_)
      rw [fromUtf8_bytes]
  | resp requestId payload =>
      exact (Reads.u8 frameResp).bind ((Reads.u32 requestId).bind (.sized maxPayloadLen_lt h rfl))
  | ping => exact (Reads.u8 framePing).last rfl
  | pong => exact (Reads.u8 framePong).last rfl

/-- The frames of UDP packets on a wire. -/
def codec : Codec Error UdpMuxFrame where
  encode := encode
  read := readUdpMuxFrame
  Fits := Fits
  reads := reads_encode
  read_nil := rfl

/-- A frame that is written fits if its payload does. -/
theorem fits_of_write {requestId : UInt32} {srcAddr : String} {payload bs : List UInt8}
    (h : writeUdpMuxFrame (.req requestId srcAddr payload) = .ok bs)
    (hpayload : payload.length ≤ maxPayloadLen) : Fits (.req requestId srcAddr payload) := by
  simp only [writeUdpMuxFrame] at h
  split at h
  · cases h
  · next hlen => exact ⟨Nat.not_lt.mp hlen, hpayload⟩

/-- What is written is the encoding of the frame. -/
theorem eq_encode_of_write {frame : UdpMuxFrame} {bs : List UInt8}
    (h : writeUdpMuxFrame frame = .ok bs) : bs = encode frame := by
  unfold writeUdpMuxFrame at h
  split at h
  · split at h
    · cases h
    · exact (Except.ok.inj h).symm
  · exact (Except.ok.inj h).symm

/-- The payload of a frame. -/
def payload : UdpMuxFrame → List UInt8
  | .req _ _ payload | .resp _ payload => payload
  | .ping | .pong => []

/-- Frames that are written one after another fit if their payloads do. -/
theorem fits_of_mapM_write {frames : List UdpMuxFrame} {written : List (List UInt8)}
    (h : frames.mapM writeUdpMuxFrame = .ok written)
    (hpayload : ∀ f ∈ frames, (payload f).length ≤ maxPayloadLen) :
    written.flatten = frames.flatMap encode ∧ ∀ f ∈ frames, Fits f := by
  induction frames generalizing written with
  | nil =>
      obtain rfl := Except.ok.inj h
      exact ⟨rfl, by simp⟩
  | cons f frames ih =>
      obtain ⟨hf, hframes⟩ := List.forall_mem_cons.mp hpayload
      rw [List.mapM_cons] at h
      cases hw : writeUdpMuxFrame f with
      | error e => simp [hw, Bind.bind, Except.bind] at h
      | ok bs =>
          cases hws : frames.mapM writeUdpMuxFrame with
          | error e => simp [hw, hws, Bind.bind, Except.bind] at h
          | ok bss =>
              simp only [hw, hws, Bind.bind, Except.bind] at h
              obtain rfl := Except.ok.inj h
              obtain ⟨hflatten, hfits⟩ := ih hws hframes
              refine ⟨?_, List.forall_mem_cons.mpr ⟨?_, hfits⟩⟩
              · rw [List.flatten_cons, List.flatMap_cons, hflatten, eq_encode_of_write hw]
              · cases f with
                | req requestId srcAddr payload => exact fits_of_write hw hf
                | resp requestId payload => exact hf
                | ping => trivial
                | pong => trivial

/-- Whatever the reader takes for a frame is what the writer writes for it. -/
theorem write_of_read {bs rest : List UInt8} {frame : UdpMuxFrame}
    (h : readUdpMuxFrame bs = .done frame rest) :
    writeUdpMuxFrame frame = .ok (encode frame) ∧ bs = encode frame ++ rest := by
  obtain ⟨frameType, bs', htype, hfields⟩ := Reader.bind_eq_done h
  rw [Reader.u8_eq_done htype]
  by_cases hreq : frameType = frameReq
  · rw [if_pos hreq] at hfields
    obtain ⟨requestId, mid, hid, haddrLen⟩ := Reader.bind_eq_done hfields
    obtain ⟨addrLen, mid', hlen, haddr⟩ := Reader.bind_eq_done haddrLen
    by_cases hmax : maxAddrLen < addrLen.toNat
    · rw [if_pos hmax] at haddr
      cases haddr
    rw [if_neg hmax] at haddr
    obtain ⟨addr, tail, hexact, hsized⟩ := Reader.bind_eq_done haddr
    obtain ⟨rfl, haddrLen⟩ := Reader.exact_eq_done hexact
    obtain ⟨payload, tail, rfl, -, hutf8⟩ := Reader.sized_eq_done hsized
    -- The address was read last, after the payload.
    cases hsrc : fromUtf8 addr with
    | error e =>
        rw [hsrc] at hutf8
        cases hutf8
    | ok srcAddr =>
        rw [hsrc] at hutf8
        obtain ⟨rfl, rfl⟩ := Reader.pure_eq_done hutf8
        obtain rfl := bytes_of_fromUtf8 hsrc
        constructor
        · exact if_neg (haddrLen ▸ hmax)
        · rw [Reader.u32_eq_done hid, Reader.u16_eq_done hlen, ← haddrLen, hreq]
          simp only [encode, List.append_assoc]
  rw [if_neg hreq] at hfields
  by_cases hresp : frameType = frameResp
  · rw [if_pos hresp] at hfields
    obtain ⟨requestId, mid, hid, hsized⟩ := Reader.bind_eq_done hfields
    obtain ⟨payload, tail, rfl, -, hpure⟩ := Reader.sized_eq_done hsized
    obtain ⟨rfl, rfl⟩ := Reader.pure_eq_done hpure
    refine ⟨rfl, ?_⟩
    simp only [Reader.u32_eq_done hid, hresp, encode, List.append_assoc]
  rw [if_neg hresp] at hfields
  by_cases hping : frameType = framePing
  · rw [if_pos hping] at hfields
    obtain ⟨rfl, rfl⟩ := Reader.pure_eq_done hfields
    exact ⟨rfl, by rw [hping, encode]⟩
  rw [if_neg hping] at hfields
  by_cases hpong : frameType = framePong
  · rw [if_pos hpong] at hfields
    obtain ⟨rfl, rfl⟩ := Reader.pure_eq_done hfields
    exact ⟨rfl, by rw [hpong, encode]⟩
  rw [if_neg hpong] at hfields
  cases hfields

/-- Frames written one after another are read back if their payloads fit, and what
follows them stays; and whatever is read as a frame is what is written for it. -/
theorem udpMuxFrames_roundTrip :
    (∀ frames written trailing, frames.mapM writeUdpMuxFrame = .ok written →
      (∀ f ∈ frames, (payload f).length ≤ maxPayloadLen) →
      readUdpMuxFrame.times frames.length (written.flatten ++ trailing) =
        .done frames trailing) ∧
    (∀ bs frame rest, readUdpMuxFrame bs = .done frame rest →
      ∃ written, writeUdpMuxFrame frame = .ok written ∧ bs = written ++ rest) := by
  constructor
  · intro frames written trailing hwrite hpayload
    obtain ⟨hflatten, hfits⟩ := fits_of_mapM_write hwrite hpayload
    rw [hflatten]
    exact (Reads.times fun f hf ↦ reads_encode (hfits f hf)).done trailing
  · intro bs frame rest h
    obtain ⟨hwrite, hbs⟩ := write_of_read h
    exact ⟨encode frame, hwrite, hbs⟩

/-- A packet and a ping, with the beginning of an answer behind them. -/
theorem udpMuxFrames_roundTrip_packet :
    readUdpMuxFrame.times 2 ([frameReq, 0, 0, 0, 9, 0, 3, 97, 58, 49, 0, 0, 0, 2, 5, 6] ++
      ([framePing] ++ []) ++ [frameResp, 0]) =
        .done [.req 9 "a:1" [5, 6], .ping] [frameResp, 0] ∧
    ∃ written, writeUdpMuxFrame .ping = .ok written ∧ [framePing, 0] = written ++ [0] := by
  refine ⟨udpMuxFrames_roundTrip.1 [.req 9 "a:1" [5, 6], .ping] [_, [framePing]] [frameResp, 0]
    (by rfl) ?_, udpMuxFrames_roundTrip.2 _ .ping [0] (by decide +kernel)⟩
  simp [payload, maxPayloadLen]

end UdpMux

end Arp.Common
