import Arp.EndToEnd.Streams.Machine

/-!
# Frames between the ends of a tunnel

Whatever an end has read is a beginning of what the other end has queued: frames are
neither lost in the middle nor reordered on their way through the channel and over the
work connection.  `Link` states this for one direction, and every step of either end
keeps it, because all it can do to the work connection is listed in `Traffic.Step`.
-/

namespace Arp.EndToEnd.Streams

open Arp.Common Arp.Lib Arp.Lib.Wire

/-! ## What is for a stream -/

/-- What a frame carries for a stream. -/
def payloadFor (id : UInt32) : MuxFrame → List UInt8
  | .data i payload => if i = id then payload else []
  | _ => []

/-- What frames carry for a stream. -/
def dataFor (id : UInt32) (frames : List MuxFrame) : List UInt8 := frames.flatMap (payloadFor id)

@[simp] theorem dataFor_nil (id : UInt32) : dataFor id [] = [] := rfl

@[simp] theorem dataFor_append (id : UInt32) (frames more : List MuxFrame) :
    dataFor id (frames ++ more) = dataFor id frames ++ dataFor id more := List.flatMap_append

@[simp] theorem dataFor_cons (id : UInt32) (frame : MuxFrame) (frames : List MuxFrame) :
    dataFor id (frame :: frames) = payloadFor id frame ++ dataFor id frames := List.flatMap_cons

@[simp] theorem payloadFor_data_self (id : UInt32) (payload : List UInt8) :
    payloadFor id (.data id payload) = payload := if_pos rfl

theorem payloadFor_data_ne {id i : UInt32} (h : i ≠ id) (payload : List UInt8) :
    payloadFor id (.data i payload) = [] := if_neg h

@[simp] theorem payloadFor_open (id i : UInt32) : payloadFor id (.open i) = [] := rfl

@[simp] theorem payloadFor_close (id i : UInt32) : payloadFor id (.close i) = [] := rfl

@[simp] theorem payloadFor_pong (id : UInt32) : payloadFor id .pong = [] := rfl

theorem dataFor_mono {frames frames' : List MuxFrame} (h : frames <+: frames') (id : UInt32) :
    dataFor id frames <+: dataFor id frames' := by
  obtain ⟨more, rfl⟩ := h
  rw [dataFor_append]
  exact List.prefix_append _ _

/-! ## What a step does to the work connection -/

/-- All that one step of an end can do to the work connection. -/
inductive Traffic.Step (t : Traffic) : Traffic → List UInt8 → Prop where
  | quiet : Step t t []
  | queue (frame : MuxFrame) (hopen : t.writerExited = false) (hfits : Mux.Fits frame) :
      Step t { t with frames := t.frames ++ [frame], enqueued := t.enqueued ++ [frame] } []
  | write (frame : MuxFrame) (rest : List MuxFrame) (hopen : t.writerExited = false)
      (hframes : t.frames = frame :: rest) :
      Step t { t with frames := rest } (Mux.writeMuxFrame frame)
  | writePart (frame : MuxFrame) (rest : List MuxFrame) (n : Nat) (hopen : t.writerExited = false)
      (hframes : t.frames = frame :: rest) (hn : n < (Mux.writeMuxFrame frame).length) :
      Step t { t with frames := [], writerExited := true } ((Mux.writeMuxFrame frame).take n)
  | stop : Step t { t with frames := [], writerExited := true } []
  | handle (frame : MuxFrame) (rest : List UInt8)
      (hread : Mux.readMuxFrame t.incoming = .done frame rest) :
      Step t { t with incoming := rest, handled := t.handled ++ [frame] } []

/-- The frames that an end has read, those on the work connection and those in the
channel of the other end are, in this order, what the other end has queued; only the
last of it may be missing once the writer has exited. -/
structure Link (source target : Traffic) : Prop where
  fits : ∀ frame ∈ source.frames, Mux.Fits frame
  flow : ∃ wire, Carries Mux.codec (source.writerExited = true) target.incoming wire ∧
    target.handled ++ wire ++ source.frames <+: source.enqueued ∧
    (source.writerExited = false → target.handled ++ wire ++ source.frames = source.enqueued)

namespace Link

variable {source target source' target' : Traffic} {bytes : List UInt8}

theorem new : Link End.new.toTraffic End.new.toTraffic :=
  ⟨by simp [End.new], [], .empty, List.prefix_rfl, fun _ ↦ rfl⟩

/-- What an end has read is a beginning of what the other end has queued. -/
theorem handled_isPrefix (h : Link source target) : target.handled <+: source.enqueued := by
  obtain ⟨wire, -, hpre, -⟩ := h.flow
  rw [List.append_assoc] at hpre
  exact (List.prefix_append _ _).trans hpre

/-- The next frame an end reads is the next of those the other end has queued. -/
theorem handled_next (h : Link source target) {frame : MuxFrame} {rest : List UInt8}
    (hread : Mux.readMuxFrame target.incoming = .done frame rest) :
    target.handled ++ [frame] <+: source.enqueued := by
  obtain ⟨wire, hcarries, hpre, -⟩ := h.flow
  obtain ⟨wire', rfl, -⟩ := hcarries.read hread
  refine List.IsPrefix.trans ?_ hpre
  rw [List.append_cons target.handled frame wire', List.append_assoc _ wire']
  exact List.prefix_append _ _

/-- A step of the end that writes. -/
theorem step_source (h : Link source target) (hstep : source.Step source' bytes) :
    Link source' { target with incoming := target.incoming ++ bytes } := by
  obtain ⟨hfits, wire, hcarries, hpre, heq⟩ := h
  cases hstep with
  | quiet =>
      rw [List.append_nil]
      exact ⟨hfits, wire, hcarries, hpre, heq⟩
  | queue frame hopen hframe =>
      have heq' : target.handled ++ wire ++ (source.frames ++ [frame]) =
          source.enqueued ++ [frame] := by
        rw [← List.append_assoc, heq hopen]
      refine ⟨fun f hf ↦ ?_, wire, ?_, heq' ▸ List.prefix_rfl, fun _ ↦ heq'⟩
      · rcases List.mem_append.mp hf with hold | hnew
        · exact hfits f hold
        · exact List.mem_singleton.mp hnew ▸ hframe
      · rw [List.append_nil]
        exact hcarries
  | write frame rest hopen hframes =>
      have hfits' := List.forall_mem_cons.mp (hframes ▸ hfits)
      have heq' : target.handled ++ (wire ++ [frame]) ++ rest = source.enqueued := by
        rw [← heq hopen, hframes]
        simp
      refine ⟨hfits'.2, wire ++ [frame], ?_, heq' ▸ List.prefix_rfl, fun _ ↦ heq'⟩
      exact hcarries.write (by rw [hopen]; decide) hfits'.1
  | writePart frame rest n hopen hframes hn =>
      have hfits' := List.forall_mem_cons.mp (hframes ▸ hfits)
      refine ⟨by simp, wire, ?_, ?_, fun hexit ↦ absurd hexit (by simp)⟩
      · exact (hcarries.writePart (by rw [hopen]; decide) hfits'.1 hn).stop fun _ ↦ rfl
      · rw [List.append_nil]
        exact (List.prefix_append _ _).trans hpre
  | stop =>
      rw [List.append_nil]
      refine ⟨by simp, wire, hcarries.stop fun _ ↦ rfl, ?_, fun hexit ↦ absurd hexit (by simp)⟩
      rw [List.append_nil]
      exact (List.prefix_append _ _).trans hpre
  | handle frame rest hread =>
      rw [List.append_nil]
      exact ⟨hfits, wire, hcarries, hpre, heq⟩

/-- A step of the end that reads. -/
theorem step_target (h : Link source target) (hstep : target.Step target' bytes) :
    Link { source with incoming := source.incoming ++ bytes } target' := by
  obtain ⟨hfits, wire, hcarries, hpre, heq⟩ := h
  cases hstep with
  | handle frame rest hread =>
      obtain ⟨wire', rfl, hrest⟩ := hcarries.read hread
      refine ⟨hfits, wire', hrest, ?_, fun hopen ↦ ?_⟩
      · rw [← List.append_cons target.handled frame wire']
        exact hpre
      · rw [← List.append_cons target.handled frame wire']
        exact heq hopen
  | _ => exact ⟨hfits, wire, hcarries, hpre, heq⟩

end Link

end Arp.EndToEnd.Streams
