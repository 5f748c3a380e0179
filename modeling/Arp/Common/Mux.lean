import Arp.Common.Error
import Arp.Lib.Wire

/-!
# Frames of multiplexed streams

On the work connection of a multiplexed TCP proxy, many streams travel side by side.
A frame opens or closes a stream or carries a piece of one, each under the id of the
stream; all numbers are big-endian.
-/

namespace Arp.Common

open Arp.Lib.Framing Arp.Lib.Wire

/-- `MuxFrame`. -/
inductive MuxFrame where
  | «open» (streamId : UInt32)
  | data (streamId : UInt32) (payload : List UInt8)
  | close (streamId : UInt32)
  | ping
  | pong
deriving DecidableEq, Repr

namespace Mux

/-- `FRAME_OPEN`. -/
def frameOpen : UInt8 := 1

/-- `FRAME_DATA`. -/
def frameData : UInt8 := 2

/-- `FRAME_CLOSE`. -/
def frameClose : UInt8 := 3

/-- `FRAME_PING`. -/
def framePing : UInt8 := 4

/-- `FRAME_PONG`. -/
def framePong : UInt8 := 5

/-- `MAX_FRAME_PAYLOAD`. -/
def maxFramePayload : Nat := 1024 * 1024

/-- `write_mux_frame`: the bytes it writes. -/
def writeMuxFrame : MuxFrame → List UInt8
  | .open streamId => [frameOpen] ++ toBE 4 streamId.toNat
  | .data streamId payload =>
    [frameData] ++ (toBE 4 streamId.toNat ++ (toBE 4 payload.length ++ payload))
  | .close streamId => [frameClose] ++ toBE 4 streamId.toNat
  | .ping => [framePing]
  | .pong => [framePong]

/-- `read_mux_frame`.  Where bytes are missing it waits. -/
def readMuxFrame : Reader Error MuxFrame := do
  let frameType ← Reader.u8
  if frameType = frameOpen then
    let streamId ← Reader.u32
    pure (.open streamId)
  else if frameType = frameData then
    let streamId ← Reader.u32
    let len ← Reader.u32
    if maxFramePayload < len.toNat then
      Reader.fail (.protocol ("mux payload too large: " ++ toString len ++ " > " ++
        toString maxFramePayload))
    else
      let payload ← Reader.exact len.toNat
      pure (.data streamId payload)
  else if frameType = frameClose then
    let streamId ← Reader.u32
    pure (.close streamId)
  else if frameType = framePing then pure .ping
  else if frameType = framePong then pure .pong
  else Reader.fail (.protocol ("unknown mux frame type: " ++ toString frameType))

/-- The payload has a length the reader accepts. -/
def Fits : MuxFrame → Prop
  | .data _ payload => payload.length ≤ maxFramePayload
  | _ => True

theorem maxFramePayload_lt : maxFramePayload < 2 ^ 32 := by
  unfold maxFramePayload
  omega

/-- The reader knows the frames that fit. -/
theorem reads_writeMuxFrame {frame : MuxFrame} (h : Fits frame) :
    Reads readMuxFrame (writeMuxFrame frame) frame := by
  cases frame with
  | «open» streamId => exact (Reads.u8 frameOpen).bind ((Reads.u32 streamId).last rfl)
  | data streamId payload =>
      exact (Reads.u8 frameData).bind ((Reads.u32 streamId).bind (.sized maxFramePayload_lt h rfl))
  | close streamId => exact (Reads.u8 frameClose).bind ((Reads.u32 streamId).last rfl)
  | ping => exact (Reads.u8 framePing).last rfl
  | pong => exact (Reads.u8 framePong).last rfl

/-- The frames of multiplexed streams on a wire. -/
def codec : Codec Error MuxFrame where
  encode := writeMuxFrame
  read := readMuxFrame
  Fits := Fits
  reads := reads_writeMuxFrame
  read_nil := rfl

/-- Whatever the reader takes for a frame is what the writer writes for it. -/
theorem eq_writeMuxFrame_of_read {bs rest : List UInt8} {frame : MuxFrame}
    (h : readMuxFrame bs = .done frame rest) : bs = writeMuxFrame frame ++ rest := by
  obtain ⟨frameType, bs', htype, hfields⟩ := Reader.bind_eq_done h
  rw [Reader.u8_eq_done htype]
  by_cases hopen : frameType = frameOpen
  · rw [if_pos hopen] at hfields
    obtain ⟨streamId, mid, hid, hpure⟩ := Reader.bind_eq_done hfields
    obtain ⟨rfl, rfl⟩ := Reader.pure_eq_done hpure
    rw [Reader.u32_eq_done hid, hopen, writeMuxFrame, List.append_assoc]
  rw [if_neg hopen] at hfields
  by_cases hdata : frameType = frameData
  · rw [if_pos hdata] at hfields
    obtain ⟨streamId, mid, hid, hsized⟩ := Reader.bind_eq_done hfields
    obtain ⟨payload, tail, rfl, -, hpure⟩ := Reader.sized_eq_done hsized
    obtain ⟨rfl, rfl⟩ := Reader.pure_eq_done hpure
    simp only [Reader.u32_eq_done hid, hdata, writeMuxFrame, List.append_assoc]
  rw [if_neg hdata] at hfields
  by_cases hclose : frameType = frameClose
  · rw [if_pos hclose] at hfields
    obtain ⟨streamId, mid, hid, hpure⟩ := Reader.bind_eq_done hfields
    obtain ⟨rfl, rfl⟩ := Reader.pure_eq_done hpure
    rw [Reader.u32_eq_done hid, hclose, writeMuxFrame, List.append_assoc]
  rw [if_neg hclose] at hfields
  by_cases hping : frameType = framePing
  · rw [if_pos hping] at hfields
    obtain ⟨rfl, rfl⟩ := Reader.pure_eq_done hfields
    rw [hping, writeMuxFrame]
  rw [if_neg hping] at hfields
  by_cases hpong : frameType = framePong
  · rw [if_pos hpong] at hfields
    obtain ⟨rfl, rfl⟩ := Reader.pure_eq_done hfields
    rw [hpong, writeMuxFrame]
  rw [if_neg hpong] at hfields
  cases hfields

/-- Frames written one after another are read back, and what follows them stays; and
whatever is read as a frame is what is written for it. -/
theorem muxFrames_roundTrip :
    (∀ frames trailing, (∀ f ∈ frames, Fits f) →
      readMuxFrame.times frames.length (frames.flatMap writeMuxFrame ++ trailing) =
        .done frames trailing) ∧
    (∀ bs frame rest, readMuxFrame bs = .done frame rest → bs = writeMuxFrame frame ++ rest) := by
  constructor
  · intro frames trailing hfits
    exact (Reads.times fun f hf ↦ reads_writeMuxFrame (hfits f hf)).done trailing
  · intro bs frame rest h
    exact eq_writeMuxFrame_of_read h

/-- A stream of three bytes, with the beginning of another frame behind it. -/
theorem muxFrames_roundTrip_three_bytes :
    readMuxFrame.times 3 (writeMuxFrame (.open 7) ++ (writeMuxFrame (.data 7 [1, 2, 3]) ++
      writeMuxFrame (.close 7)) ++ [frameOpen, 0]) =
        .done [.open 7, .data 7 [1, 2, 3], .close 7] [frameOpen, 0] ∧
    [1, 0, 0, 0, 7, 1, 0] = writeMuxFrame (.open 7) ++ [1, 0] := by
  have hfits : ∀ f ∈ [MuxFrame.open 7, .data 7 [1, 2, 3], .close 7], Fits f := by
    simp [Fits, maxFramePayload]
  exact ⟨muxFrames_roundTrip.1 [.open 7, .data 7 [1, 2, 3], .close 7] [frameOpen, 0] hfits,
    muxFrames_roundTrip.2 _ _ _ (by decide +kernel)⟩

end Mux

end Arp.Common
