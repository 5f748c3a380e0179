import Arp.Lib.Framing

/-!
# Wires

A wire is a reliable ordered stream of bytes between a writer and a reader.  The
writer puts frames on it one after another; if it fails in the middle of a frame,
the beginning of that frame stays on the wire and nothing follows.  The reader takes
fields off the bytes that have arrived, and waits where they do not suffice.

`Reads` is the law of a reader for one frame, and it composes field by field.  With
it `Carries` relates the bytes on a wire to the frames they are made of: whatever a
reader takes off the wire is the first of them.
-/

namespace Arp.Lib.Wire

open Framing

universe v w

/-! ## Readers -/

/-- What becomes of an attempt to read: the bytes that have arrived do not suffice,
they are wrong, or they begin with what was to be read. -/
inductive Outcome (ε : Type v) (α : Type w) where
  | starved
  | failed (e : ε)
  | done (a : α) (rest : List UInt8)
deriving DecidableEq, Repr

/-- A reader, applied to the bytes that have arrived. -/
def Reader (ε : Type v) (α : Type w) := List UInt8 → Outcome ε α

namespace Reader

variable {ε : Type v} {α β : Type w}

/-- Fail with an error. -/
def fail (e : ε) : Reader ε α := fun _ ↦ .failed e

instance : Monad (Reader ε) where
  pure a := fun bs ↦ .done a bs
  bind p f := fun bs ↦
    match p bs with
    | .starved => .starved
    | .failed e => .failed e
    | .done a rest => f a rest

theorem bind_of_starved {p : Reader ε α} {f : α → Reader ε β} {bs : List UInt8}
    (h : p bs = .starved) : (p >>= f) bs = .starved := by
  simp only [Bind.bind, h]

theorem bind_of_done {p : Reader ε α} {f : α → Reader ε β} {bs rest : List UInt8} {a : α}
    (h : p bs = .done a rest) : (p >>= f) bs = f a rest := by
  simp only [Bind.bind, h]

theorem bind_eq_done {p : Reader ε α} {f : α → Reader ε β} {bs rest : List UInt8} {b : β}
    (h : (p >>= f) bs = .done b rest) : ∃ a mid, p bs = .done a mid ∧ f a mid = .done b rest := by
  cases hp : p bs with
  | starved => simp [Bind.bind, hp] at h
  | failed e => simp [Bind.bind, hp] at h
  | done a mid =>
      rw [bind_of_done hp] at h
      exact ⟨a, mid, rfl, h⟩

/-- `read_exact`: the next `k` bytes. -/
def exact (k : Nat) : Reader ε (List UInt8) := fun bs ↦
  if bs.length < k then .starved else .done (bs.take k) (bs.drop k)

/-- `read_u8`. -/
def u8 : Reader ε UInt8 := do
  let bs ← exact 1
  return bs.headD 0

/-- `read_u16`. -/
def u16 : Reader ε UInt16 := do
  let bs ← exact 2
  return UInt16.ofNat (ofBE bs)

/-- `read_u32`. -/
def u32 : Reader ε UInt32 := do
  let bs ← exact 4
  return UInt32.ofNat (ofBE bs)

/-- The same reader, so many times. -/
def times (p : Reader ε α) : Nat → Reader ε (List α)
  | 0 => pure []
  | n + 1 => do
    let a ← p
    let as ← times p n
    return a :: as

/-! What a reader has consumed, read off its result. -/

theorem pure_eq_done {a b : α} {bs rest : List UInt8}
    (h : (pure a : Reader ε α) bs = .done b rest) : a = b ∧ bs = rest :=
  Outcome.done.inj h

theorem exact_eq_done {k : Nat} {bs field rest : List UInt8}
    (h : (exact k : Reader ε _) bs = .done field rest) : bs = field ++ rest ∧ field.length = k := by
  unfold exact at h
  split at h
  · cases h
  · next hlen =>
      obtain ⟨rfl, rfl⟩ := Outcome.done.inj h
      exact ⟨(List.take_append_drop k bs).symm, List.length_take_of_le (Nat.not_lt.mp hlen)⟩

theorem u8_eq_done {bs rest : List UInt8} {b : UInt8}
    (h : (u8 : Reader ε _) bs = .done b rest) : bs = [b] ++ rest := by
  obtain ⟨field, mid, hexact, hpure⟩ := bind_eq_done h
  obtain ⟨rfl, hlen⟩ := exact_eq_done hexact
  obtain ⟨c, rfl⟩ := List.length_eq_one_iff.mp hlen
  obtain ⟨rfl, rfl⟩ := pure_eq_done hpure
  rfl

theorem u16_eq_done {bs rest : List UInt8} {n : UInt16}
    (h : (u16 : Reader ε _) bs = .done n rest) : bs = toBE 2 n.toNat ++ rest := by
  obtain ⟨field, mid, hexact, hpure⟩ := bind_eq_done h
  obtain ⟨rfl, hlen⟩ := exact_eq_done hexact
  obtain ⟨rfl, rfl⟩ := pure_eq_done hpure
  have hlt : ofBE field < 2 ^ 16 := by simpa [hlen] using ofBE_lt field
  rw [UInt16.toNat_ofNat_of_lt' hlt, ← hlen, toBE_ofBE]

theorem u32_eq_done {bs rest : List UInt8} {n : UInt32}
    (h : (u32 : Reader ε _) bs = .done n rest) : bs = toBE 4 n.toNat ++ rest := by
  obtain ⟨field, mid, hexact, hpure⟩ := bind_eq_done h
  obtain ⟨rfl, hlen⟩ := exact_eq_done hexact
  obtain ⟨rfl, rfl⟩ := pure_eq_done hpure
  have hlt : ofBE field < 2 ^ 32 := by simpa [hlen] using ofBE_lt field
  rw [UInt32.toNat_ofNat_of_lt' hlt, ← hlen, toBE_ofBE]

/-- A payload with its length in front was there in full, within the bound. -/
theorem sized_eq_done {β : Type} {max : Nat} {tooLarge : UInt32 → ε}
    {k : List UInt8 → Reader ε β} {bs rest : List UInt8} {b : β}
    (h : (u32 >>= fun n ↦ if max < n.toNat then fail (tooLarge n) else exact n.toNat >>= k) bs =
      .done b rest) :
    ∃ payload mid, bs = toBE 4 payload.length ++ (payload ++ mid) ∧ payload.length ≤ max ∧
      k payload mid = .done b rest := by
  obtain ⟨n, bs', hn, hpayload⟩ := bind_eq_done h
  rw [u32_eq_done hn]
  by_cases hmax : max < n.toNat
  · rw [if_pos hmax] at hpayload
    cases hpayload
  · rw [if_neg hmax] at hpayload
    obtain ⟨payload, mid, hexact, hk⟩ := bind_eq_done hpayload
    obtain ⟨rfl, hlen⟩ := exact_eq_done hexact
    rw [← hlen] at hmax ⊢
    exact ⟨payload, mid, rfl, Nat.not_lt.mp hmax, hk⟩

end Reader

/-- A reader knows a frame: it waits on every proper beginning of the frame, and
takes exactly the frame off bytes that start with it. -/
structure Reads {ε : Type v} {α : Type w} (p : Reader ε α) (frame : List UInt8) (a : α) :
    Prop where
  starved : ∀ q, q <+: frame → q ≠ frame → p q = .starved
  done : ∀ rest, p (frame ++ rest) = .done a rest

namespace Reads

variable {ε : Type v} {α β : Type w}

theorem pure (a : α) : Reads (Pure.pure a : Reader ε α) [] a :=
  ⟨fun _ hq hne ↦ absurd (List.prefix_nil.mp hq) hne, fun _ ↦ rfl⟩

/-- One field after another. -/
theorem bind {p : Reader ε α} {f : α → Reader ε β} {frame tail : List UInt8} {a : α} {b : β}
    (hp : Reads p frame a) (hf : Reads (f a) tail b) : Reads (p >>= f) (frame ++ tail) b := by
  constructor
  · intro q hq hne
    rcases Nat.lt_or_ge q.length frame.length with hlt | hge
    · -- The bytes end inside the first field.
      have hpre := List.prefix_of_prefix_length_le hq (List.prefix_append frame tail) hlt.le
      have hq' : q ≠ frame := fun heq ↦ absurd (congrArg List.length heq) hlt.ne
      exact Reader.bind_of_starved (hp.starved q hpre hq')
    · obtain ⟨r, rfl⟩ := List.prefix_of_prefix_length_le (List.prefix_append frame tail) hq hge
      rw [Reader.bind_of_done (hp.done r)]
      refine hf.starved r ((List.prefix_append_right_inj frame).mp hq) ?_
      rintro rfl
      exact hne rfl
  · intro rest
    rw [List.append_assoc, Reader.bind_of_done (hp.done (tail ++ rest))]
    exact hf.done rest

/-- The last field decides the result. -/
theorem last {p : Reader ε α} {f : α → Reader ε β} {frame : List UInt8} {a : α} {b : β}
    (hp : Reads p frame a) (hf : f a = Pure.pure b) : Reads (p >>= f) frame b := by
  rw [← List.append_nil frame]
  refine hp.bind ?_
  rw [hf]
  exact .pure b

theorem exact (frame : List UInt8) :
    Reads (Reader.exact frame.length : Reader ε _) frame frame := by
  constructor
  · intro q hq hne
    have hlt : q.length < frame.length := by
      refine lt_of_le_of_ne hq.length_le fun hlen ↦ hne ?_
      exact List.IsPrefix.eq_of_length hq hlen
    rw [Reader.exact, if_pos hlt]
  · intro rest
    rw [Reader.exact, if_neg (by simp), List.take_left, List.drop_left]

theorem u8 (b : UInt8) : Reads (Reader.u8 : Reader ε _) [b] b := (exact [b]).last rfl

theorem u16 (n : UInt16) : Reads (Reader.u16 : Reader ε _) (toBE 2 n.toNat) n := by
  have h := exact (ε := ε) (toBE 2 n.toNat)
  rw [length_toBE] at h
  refine h.last ?_
  rw [ofBE_toBE n.toNat_lt, UInt16.ofNat_toNat]

theorem u32 (n : UInt32) : Reads (Reader.u32 : Reader ε _) (toBE 4 n.toNat) n := by
  have h := exact (ε := ε) (toBE 4 n.toNat)
  rw [length_toBE] at h
  refine h.last ?_
  rw [ofBE_toBE n.toNat_lt, UInt32.ofNat_toNat]

/-- A payload with its length in front, which the reader checks against a bound. -/
theorem sized {β : Type} {max : Nat} (hmax : max < 2 ^ 32) {payload : List UInt8}
    (hlen : payload.length ≤ max) {tooLarge : UInt32 → Reader ε β}
    {k : List UInt8 → Reader ε β} {b : β} (hk : k payload = Pure.pure b) :
    Reads (Reader.u32 >>= fun n ↦ if max < n.toNat then tooLarge n else Reader.exact n.toNat >>= k)
      (toBE 4 payload.length ++ payload) b := by
  have hn : (UInt32.ofNat payload.length).toNat = payload.length :=
    UInt32.toNat_ofNat_of_lt' (hlen.trans_lt hmax)
  have hu := u32 (ε := ε) (UInt32.ofNat payload.length)
  rw [hn] at hu
  refine hu.bind ?_
  rw [hn, if_neg (Nat.not_lt.mpr hlen)]
  exact (exact payload).last hk

/-- Frames one after another. -/
theorem times {p : Reader ε α} {encode : α → List UInt8} {frames : List α}
    (h : ∀ f ∈ frames, Reads p (encode f) f) :
    Reads (p.times frames.length) (frames.flatMap encode) frames := by
  induction frames with
  | nil => exact .pure []
  | cons f frames ih =>
      obtain ⟨hf, hframes⟩ := List.forall_mem_cons.mp h
      exact hf.bind ((ih hframes).last rfl)

end Reads

/-! ## Frames on a wire -/

/-- A way to write messages, with a reader that knows what it writes for those that
fit. -/
structure Codec (ε : Type v) (β : Type w) where
  encode : β → List UInt8
  read : Reader ε β
  Fits : β → Prop
  reads : ∀ {f}, Fits f → Reads read (encode f) f
  read_nil : read [] = .starved

/-- The bytes on a wire are these frames, and possibly the beginning of one more if
the writer has stopped. -/
structure Carries {ε : Type v} {β : Type w} (codec : Codec ε β) (stopped : Prop)
    (bytes : List UInt8) (frames : List β) : Prop where
  fits : ∀ f ∈ frames, codec.Fits f
  bytes_eq : ∃ part, bytes = frames.flatMap codec.encode ++ part ∧ (part ≠ [] → stopped ∧
    ∃ f, codec.Fits f ∧ part <+: codec.encode f ∧ part ≠ codec.encode f)

namespace Carries

variable {ε : Type v} {β : Type w} {codec : Codec ε β} {stopped : Prop} {bytes : List UInt8}
  {frames : List β}

theorem empty : Carries codec stopped [] [] :=
  ⟨by simp, [], rfl, fun h ↦ absurd rfl h⟩

/-- A writer that still writes has left nothing unfinished. -/
theorem eq_of_not_stopped (h : Carries codec stopped bytes frames) (hs : ¬stopped) :
    bytes = frames.flatMap codec.encode := by
  obtain ⟨part, hbytes, hpart⟩ := h.bytes_eq
  by_cases hnil : part = []
  · rw [hbytes, hnil, List.append_nil]
  · exact absurd (hpart hnil).1 hs

/-- The writer stops between two frames. -/
theorem stop (h : Carries codec stopped bytes frames) {stopped' : Prop}
    (hs : stopped → stopped') : Carries codec stopped' bytes frames := by
  obtain ⟨part, hbytes, hpart⟩ := h.bytes_eq
  exact ⟨h.fits, part, hbytes, fun hne ↦ ⟨hs (hpart hne).1, (hpart hne).2⟩⟩

/-- A frame is written. -/
theorem write (h : Carries codec stopped bytes frames) (hs : ¬stopped) {f : β}
    (hf : codec.Fits f) : Carries codec stopped (bytes ++ codec.encode f) (frames ++ [f]) := by
  refine ⟨?_, [], ?_, fun hne ↦ absurd rfl hne⟩
  · intro g hg
    rcases List.mem_append.mp hg with hold | hnew
    · exact h.fits g hold
    · exact List.mem_singleton.mp hnew ▸ hf
  · rw [h.eq_of_not_stopped hs, List.flatMap_append, List.flatMap_singleton, List.append_nil]

/-- The writer fails after the first `k` bytes of a frame. -/
theorem writePart (h : Carries codec stopped bytes frames) (hs : ¬stopped) {f : β}
    (hf : codec.Fits f) {k : Nat} (hk : k < (codec.encode f).length) :
    Carries codec True (bytes ++ (codec.encode f).take k) frames := by
  refine ⟨h.fits, (codec.encode f).take k, ?_, fun _ ↦ ⟨trivial, f, hf, List.take_prefix _ _, ?_⟩⟩
  · rw [h.eq_of_not_stopped hs]
  · intro heq
    have hlen := congrArg List.length heq
    rw [List.length_take] at hlen
    omega

/-- The bytes begin with the first frame, or with no more than a beginning of one. -/
theorem cases (h : Carries codec stopped bytes frames) :
    (frames = [] ∧ codec.read bytes = .starved) ∨ ∃ f rest bytes', frames = f :: rest ∧
      codec.read bytes = .done f bytes' ∧ Carries codec stopped bytes' rest := by
  obtain ⟨part, rfl, hpart⟩ := h.bytes_eq
  cases frames with
  | nil =>
      left
      refine ⟨rfl, ?_⟩
      by_cases hnil : part = []
      · rw [hnil]
        exact codec.read_nil
      · obtain ⟨-, f, hf, hpre, hne⟩ := hpart hnil
        exact (codec.reads hf).starved part hpre hne
  | cons f rest =>
      right
      obtain ⟨hf, hrest⟩ := List.forall_mem_cons.mp h.fits
      refine ⟨f, rest, rest.flatMap codec.encode ++ part, rfl, ?_, hrest, part, rfl, hpart⟩
      rw [List.flatMap_cons, List.append_assoc]
      exact (codec.reads hf).done _

/-- What is read off a wire is the first frame on it. -/
theorem read (h : Carries codec stopped bytes frames) {f : β} {rest : List UInt8}
    (hread : codec.read bytes = .done f rest) :
    ∃ frames', frames = f :: frames' ∧ Carries codec stopped rest frames' := by
  rcases h.cases with ⟨-, hstarved⟩ | ⟨g, frames', bytes', rfl, hdone, hrest⟩
  · rw [hstarved] at hread
    cases hread
  · rw [hdone] at hread
    obtain ⟨rfl, rfl⟩ := Outcome.done.inj hread
    exact ⟨frames', rfl, hrest⟩

end Carries

/-- Every frame on a wire has a property. -/
def Flows {ε : Type v} {β : Type w} (codec : Codec ε β) (stopped : Prop) (P : β → Prop)
    (bytes : List UInt8) : Prop :=
  ∃ frames, Carries codec stopped bytes frames ∧ ∀ f ∈ frames, P f

namespace Flows

variable {ε : Type v} {β : Type w} {codec : Codec ε β} {stopped : Prop} {P : β → Prop}
  {bytes : List UInt8}

theorem empty : Flows codec stopped P [] := ⟨[], .empty, by simp⟩

theorem mono (h : Flows codec stopped P bytes) {Q : β → Prop} (hPQ : ∀ f, P f → Q f) :
    Flows codec stopped Q bytes := by
  obtain ⟨frames, hcarries, hall⟩ := h
  exact ⟨frames, hcarries, fun f hf ↦ hPQ f (hall f hf)⟩

theorem stop (h : Flows codec stopped P bytes) {stopped' : Prop} (hs : stopped → stopped') :
    Flows codec stopped' P bytes := by
  obtain ⟨frames, hcarries, hall⟩ := h
  exact ⟨frames, hcarries.stop hs, hall⟩

theorem write (h : Flows codec stopped P bytes) (hs : ¬stopped) {f : β} (hfits : codec.Fits f)
    (hf : P f) : Flows codec stopped P (bytes ++ codec.encode f) := by
  obtain ⟨frames, hcarries, hall⟩ := h
  refine ⟨frames ++ [f], hcarries.write hs hfits, fun g hg ↦ ?_⟩
  rcases List.mem_append.mp hg with hold | hnew
  · exact hall g hold
  · exact List.mem_singleton.mp hnew ▸ hf

theorem writePart (h : Flows codec stopped P bytes) (hs : ¬stopped) {f : β}
    (hfits : codec.Fits f) {k : Nat} (hk : k < (codec.encode f).length) :
    Flows codec True P (bytes ++ (codec.encode f).take k) := by
  obtain ⟨frames, hcarries, hall⟩ := h
  exact ⟨frames, hcarries.writePart hs hfits hk, hall⟩

/-- What is read has the property. -/
theorem read (h : Flows codec stopped P bytes) {f : β} {rest : List UInt8}
    (hread : codec.read bytes = .done f rest) : P f ∧ Flows codec stopped P rest := by
  obtain ⟨frames, hcarries, hall⟩ := h
  obtain ⟨frames', rfl, hrest⟩ := hcarries.read hread
  exact ⟨hall f List.mem_cons_self, frames', hrest, fun g hg ↦ hall g (List.mem_cons_of_mem f hg)⟩

end Flows

end Arp.Lib.Wire
