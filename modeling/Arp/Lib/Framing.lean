import Mathlib.Data.List.Induction
import Mathlib.Data.Nat.ModEq
import Mathlib.Tactic.Ring

/-!
# Framing

Reading messages off a stream that arrives in pieces.  A read gives at least one
element; the end of the list of reads is the end of the stream.  A decoder works
on the buffer of what has been read and not consumed, and the reader asks the
stream for more as long as the decoder is starved.

`next_frame` is the one fact about the reader: on a stream that starts with a
frame the decoder knows, it stops at the first read that completes the frame,
and whatever that read brought beyond the frame stays in the buffer.

The section on big-endian numbers serves the length fields of such frames.
-/

namespace Arp.Lib.Framing

universe u v w

/-! ## Big-endian numbers -/

/-- The `k` low bytes of a number, most significant first. -/
def toBE : Nat → Nat → List UInt8
  | 0, _ => []
  | k + 1, n => UInt8.ofNat (n / 256 ^ k) :: toBE k n

/-- The number that bytes spell, most significant first. -/
def ofBE (bs : List UInt8) : Nat := bs.foldl (fun acc b ↦ acc * 256 + b.toNat) 0

@[simp] theorem length_toBE (k n : Nat) : (toBE k n).length = k := by
  induction k with
  | zero => rfl
  | succ k ih => rw [toBE, List.length_cons, ih]

/-- Reading back onto an accumulator. -/
theorem foldl_toBE (k n acc : Nat) :
    (toBE k n).foldl (fun acc b ↦ acc * 256 + b.toNat) acc = acc * 256 ^ k + n % 256 ^ k := by
  induction k generalizing acc with
  | zero => simp [toBE, Nat.mod_one]
  | succ k ih =>
      rw [toBE, List.foldl_cons, ih, Nat.mod_pow_succ, UInt8.toNat_ofNat']
      ring

/-- A number that fits is read back. -/
theorem ofBE_toBE {k n : Nat} (h : n < 256 ^ k) : ofBE (toBE k n) = n := by
  rw [ofBE, foldl_toBE, Nat.mod_eq_of_lt h, Nat.zero_mul, Nat.zero_add]

/-- The leading bytes of a number do not reach its low ones. -/
theorem toBE_add_mul {k j : Nat} (h : k ≤ j) (n m : Nat) : toBE k (n + m * 256 ^ j) = toBE k n := by
  induction k with
  | zero => rfl
  | succ k ih =>
      have hpow : (256 : Nat) ^ j = 256 ^ k * (256 * 256 ^ (j - (k + 1))) := by
        rw [← Nat.pow_succ', ← Nat.pow_add]
        congr 1
        omega
      have hdiv : (n + m * 256 ^ j) / 256 ^ k = n / 256 ^ k + 256 * (m * 256 ^ (j - (k + 1))) := by
        rw [hpow, Nat.mul_left_comm, Nat.add_mul_div_left _ _ (Nat.pow_pos (by decide)),
          Nat.mul_left_comm]
      rw [toBE, toBE, ih (by omega), hdiv]
      congr 1
      apply UInt8.toNat_inj.mp
      rw [UInt8.toNat_ofNat', UInt8.toNat_ofNat', Nat.add_mul_mod_self_left]

/-- The first byte counts most. -/
theorem ofBE_cons (b : UInt8) (bs : List UInt8) :
    ofBE (b :: bs) = ofBE bs + b.toNat * 256 ^ bs.length := by
  have hacc : ∀ acc, bs.foldl (fun acc b ↦ acc * 256 + b.toNat) acc =
      ofBE bs + acc * 256 ^ bs.length := by
    induction bs with
    | nil => simp [ofBE]
    | cons c bs ih =>
        intro acc
        have hc : ofBE (c :: bs) = ofBE bs + c.toNat * 256 ^ bs.length := by
          rw [ofBE, List.foldl_cons, ih, Nat.zero_mul, Nat.zero_add]
        rw [List.foldl_cons, ih, hc, List.length_cons]
        ring
  rw [ofBE, List.foldl_cons, hacc, Nat.zero_mul, Nat.zero_add]

theorem ofBE_lt (bs : List UInt8) : ofBE bs < 256 ^ bs.length := by
  induction bs with
  | nil => decide
  | cons b bs ih =>
      have hb : b.toNat * 256 ^ bs.length ≤ 255 * 256 ^ bs.length :=
        Nat.mul_le_mul_right _ (Nat.le_of_lt_succ b.toNat_lt)
      rw [ofBE_cons, List.length_cons, Nat.pow_succ']
      omega

/-- Three bytes put together by shifts. -/
theorem shiftLeft_or_eq (high middle low : UInt8) :
    high.toNat <<< 16 ||| middle.toNat <<< 8 ||| low.toNat =
      (high.toNat * 256 + middle.toNat) * 256 + low.toNat := by
  have hmiddle : middle.toNat < 2 ^ 8 := middle.toNat_lt
  have hlow : low.toNat < 2 ^ 8 := low.toNat_lt
  have hlast : middle.toNat <<< 8 ||| low.toNat = middle.toNat * 2 ^ 8 + low.toNat := by
    rw [← Nat.shiftLeft_add_eq_or_of_lt hlow, Nat.shiftLeft_eq]
  have hlt : middle.toNat * 2 ^ 8 + low.toNat < 2 ^ 16 := by omega
  rw [Nat.or_assoc, hlast, ← Nat.shiftLeft_add_eq_or_of_lt hlt, Nat.shiftLeft_eq]
  omega

/-- Bytes are spelled back. -/
theorem toBE_ofBE (bs : List UInt8) : toBE bs.length (ofBE bs) = bs := by
  induction bs with
  | nil => rfl
  | cons b bs ih =>
      rw [List.length_cons, toBE, ofBE_cons, toBE_add_mul le_rfl, ih,
        Nat.add_mul_div_right _ _ (Nat.pow_pos (by decide)), Nat.div_eq_of_lt (ofBE_lt bs),
        Nat.zero_add, UInt8.ofNat_toNat]

/-! ## The reader -/

variable {α : Type u} {β : Type v} {ε : Type w}

/-- What one read gives. -/
abbrev Chunk (α : Type u) := { c : List α // c ≠ [] }

/-- The stream that reads have cut up. -/
def contents (reads : List (Chunk α)) : List α := reads.flatMap Subtype.val

@[simp] theorem contents_nil : contents ([] : List (Chunk α)) = [] := rfl

@[simp] theorem contents_cons (c : Chunk α) (reads : List (Chunk α)) :
    contents (c :: reads) = c.val ++ contents reads := List.flatMap_cons

@[simp] theorem contents_append (p q : List (Chunk α)) :
    contents (p ++ q) = contents p ++ contents q := List.flatMap_append

/-- A decoder takes the next message off the buffer, asks for more, or fails. -/
abbrev Decoder (α : Type u) (β : Type v) (ε : Type w) := List α → Except ε (Option β) × List α

/-- A stream together with what has been read off it and not consumed. -/
structure Framed (α : Type u) where
  readBuf : List α
  io : List (Chunk α)

/-- The next message: decode, and read on while the decoder is starved.  At the
end of the stream an empty buffer means that there is no message; left-over
elements are the error `eof`. -/
def next (decode : Decoder α β ε) (eof : ε) :
    List α → List (Chunk α) → Except ε (Option β) × Framed α
  | buf, [] =>
    match decode buf with
    | (.ok none, []) => (.ok none, ⟨[], []⟩)
    | (.ok none, x :: xs) => (.error eof, ⟨x :: xs, []⟩)
    | (result, rest) => (result, ⟨rest, []⟩)
  | buf, c :: reads =>
    match decode buf with
    | (.ok none, rest) => next decode eof (rest ++ c.val) reads
    | (result, rest) => (result, ⟨rest, c :: reads⟩)

/-- The decoder knows a frame: it is starved on every proper beginning of it,
and takes exactly it off a buffer that starts with it. -/
structure Frames (decode : Decoder α β ε) (frame : List α) (msg : β) : Prop where
  starved : ∀ p, p <+: frame → p ≠ frame → decode p = (.ok none, p)
  served : ∀ rest, decode (frame ++ rest) = (.ok (some msg), rest)

/-- A message in the buffer is returned without reading. -/
theorem next_served {decode : Decoder α β ε} {eof : ε} {buf rest : List α} {msg : β}
    (h : decode buf = (.ok (some msg), rest)) (reads : List (Chunk α)) :
    next decode eof buf reads = (.ok (some msg), ⟨rest, reads⟩) := by
  cases reads with
  | nil => simp [next, h]
  | cons c reads => simp [next, h]

/-- While the decoder is starved the next read joins the buffer. -/
theorem next_starved {decode : Decoder α β ε} {eof : ε} {buf : List α}
    (h : decode buf = (.ok none, buf)) (c : Chunk α) (reads : List (Chunk α)) :
    next decode eof buf (c :: reads) = next decode eof (buf ++ c.val) reads := by
  simp [next, h]

/-- On a stream that starts with a frame, the reader stops at the first read
that completes the frame; the rest of that read is carried in the buffer. -/
theorem next_frame {decode : Decoder α β ε} {eof : ε} {frame : List α} {msg : β}
    (h : Frames decode frame msg) (reads : List (Chunk α)) (buf d : List α)
    (hcut : buf ++ contents reads = frame ++ d) (hbuf : buf.length < frame.length) :
    ∃ taken left carried, reads = taken ++ left ∧
      next decode eof buf reads = (.ok (some msg), ⟨carried, left⟩) ∧
      buf ++ contents taken = frame ++ carried ∧
      ∀ p, p <+: taken → p ≠ taken → (buf ++ contents p).length < frame.length := by
  induction reads generalizing buf with
  | nil =>
      -- The stream cannot end inside the frame.
      have hlen := congrArg List.length hcut
      simp only [contents_nil, List.length_append, List.length_nil] at hlen
      omega
  | cons c reads ih =>
      have hpre : buf <+: frame :=
        List.prefix_of_prefix_length_le ⟨contents (c :: reads), hcut⟩ ⟨d, rfl⟩ hbuf.le
      have hne : buf ≠ frame := fun heq ↦ absurd (congrArg List.length heq) hbuf.ne
      have hcut' : (buf ++ c.val) ++ contents reads = frame ++ d := by
        rw [List.append_assoc, ← contents_cons]
        exact hcut
      rw [next_starved (h.starved buf hpre hne)]
      rcases Nat.lt_or_ge (buf ++ c.val).length frame.length with hshort | hlong
      · obtain ⟨taken, left, carried, hreads, hnext, htaken, hmin⟩ := ih (buf ++ c.val) hcut' hshort
        refine ⟨c :: taken, left, carried, by rw [hreads, List.cons_append], hnext, ?_, ?_⟩
        · rw [contents_cons, ← List.append_assoc]
          exact htaken
        · intro p hp hpne
          rcases List.prefix_cons_iff.mp hp with rfl | ⟨q, rfl, hq⟩
          · simpa using hbuf
          · rw [contents_cons, ← List.append_assoc]
            exact hmin q hq fun heq ↦ hpne (heq ▸ rfl)
      · obtain ⟨carried, hcarried⟩ : frame <+: buf ++ c.val :=
          List.prefix_of_prefix_length_le ⟨d, rfl⟩ ⟨contents reads, hcut'⟩ hlong
        have hserved : decode (buf ++ c.val) = (.ok (some msg), carried) := by
          rw [← hcarried]
          exact h.served carried
        refine ⟨[c], reads, carried, rfl, next_served hserved reads, by simp [hcarried], ?_⟩
        intro p hp hpne
        rcases List.prefix_cons_iff.mp hp with rfl | ⟨q, rfl, hq⟩
        · simpa using hbuf
        · exact absurd (by rw [List.prefix_nil.mp hq]) hpne

/-- Nothing is carried exactly when the frame ends where a read ends. -/
theorem carried_eq_nil_iff {frame carried : List α} {taken left : List (Chunk α)}
    (htaken : contents taken = frame ++ carried)
    (hmin : ∀ p, p <+: taken → p ≠ taken → (contents p).length < frame.length) :
    carried = [] ↔ ∃ p, p <+: taken ++ left ∧ contents p = frame := by
  constructor
  · rintro rfl
    exact ⟨taken, List.prefix_append taken left, by rw [htaken, List.append_nil]⟩
  · rintro ⟨p, hp, hframe⟩
    rcases List.prefix_or_prefix_of_prefix hp (List.prefix_append taken left) with hle | ⟨q, rfl⟩
    · by_cases heq : p = taken
      · subst heq
        rw [hframe] at htaken
        exact List.self_eq_append_right.mp htaken
      · have hlt := hmin p hle heq
        rw [hframe] at hlt
        exact absurd hlt (Nat.lt_irrefl _)
    · rw [contents_append, htaken, List.append_assoc] at hframe
      exact (List.append_eq_nil_iff.mp (List.append_right_eq_self.mp hframe)).1

/-! ## Streams in pieces

A decoder that is called on the buffer after every read gives the same messages however
the stream is cut, if what it says of a buffer stands when more arrives.  This is the law
`Incremental`, and `feed_eq_drain` is what follows from it. -/

/-- What has come of a stream so far: the messages taken off it, the error that ended
the decoding, and what no message has consumed. -/
@[ext] structure Drained (α : Type u) (β : Type v) (ε : Type w) where
  messages : List β
  failure : Option ε
  rest : List α
deriving DecidableEq, Repr

/-- A message came before these. -/
def Drained.after (msgs : List β) (d : Drained α β ε) : Drained α β ε :=
  { d with messages := msgs ++ d.messages }

@[simp] theorem Drained.after_nil (d : Drained α β ε) : d.after [] = d := rfl

@[simp] theorem Drained.after_after (p q : List β) (d : Drained α β ε) :
    (d.after q).after p = d.after (p ++ q) := by
  simp [Drained.after]

/-- Decode until the decoder is starved or fails, at most so many times. -/
def drainFor (decode : Decoder α β ε) : Nat → List α → Drained α β ε
  | 0, buf => ⟨[], none, buf⟩
  | fuel + 1, buf =>
    match decode buf with
    | (.ok (some msg), rest) => (drainFor decode fuel rest).after [msg]
    | (.ok none, rest) => ⟨[], none, rest⟩
    | (.error e, rest) => ⟨[], some e, rest⟩

/-- Decode until the decoder is starved or fails. -/
def drain (decode : Decoder α β ε) (buf : List α) : Drained α β ε :=
  drainFor decode (buf.length + 1) buf

/-- A read joins the buffer, and the decoder is called until it is starved again.  After
an error it is not called any more. -/
def Drained.read (decode : Decoder α β ε) (d : Drained α β ε) (c : List α) : Drained α β ε :=
  match d.failure with
  | none => (drain decode (d.rest ++ c)).after d.messages
  | some _ => { d with rest := d.rest ++ c }

/-- The reads of a stream, one after another. -/
def feed (decode : Decoder α β ε) (reads : List (List α)) : Drained α β ε :=
  reads.foldl (Drained.read decode) ⟨[], none, []⟩

/-- What a decoder says of a buffer stands when more arrives: a message and an error are
found again, and leave what has arrived.  A starved decoder consumes nothing, a message
consumes something, and an empty buffer is no error. -/
structure Incremental (decode : Decoder α β ε) : Prop where
  empty : decode [] = (.ok none, [])
  starved : ∀ {buf rest}, decode buf = (.ok none, rest) → rest = buf
  served : ∀ {buf rest msg}, decode buf = (.ok (some msg), rest) →
    rest.length < buf.length ∧ ∀ more, decode (buf ++ more) = (.ok (some msg), rest ++ more)
  failed : ∀ {buf rest e}, decode buf = (.error e, rest) →
    ∀ more, decode (buf ++ more) = (.error e, rest ++ more)

section Incremental

variable {decode : Decoder α β ε} (h : Incremental decode)

include h

/-- The bound on the number of calls is never reached. -/
theorem drainFor_eq_drain {fuel : Nat} {buf : List α} (hfuel : buf.length < fuel) :
    drainFor decode fuel buf = drain decode buf := by
  suffices ∀ m n (buf : List α), buf.length < m → buf.length < n →
      drainFor decode m buf = drainFor decode n buf from
    this fuel _ buf hfuel (Nat.lt_succ_self _)
  intro m
  induction m with
  | zero => exact fun n buf hm _ ↦ absurd hm (Nat.not_lt_zero _)
  | succ m ih =>
      intro n buf hm hn
      obtain ⟨n, rfl⟩ := Nat.exists_eq_succ_of_ne_zero (Nat.ne_zero_of_lt hn)
      rw [drainFor, drainFor]
      split
      · next msg rest hd =>
          have hlt := (h.served hd).1
          rw [ih n rest (by omega) (by omega)]
      · rfl
      · rfl

theorem drain_of_starved {buf rest : List α} (hd : decode buf = (.ok none, rest)) :
    drain decode buf = ⟨[], none, buf⟩ := by
  obtain rfl := h.starved hd
  rw [drain, drainFor, hd]

theorem drain_of_served {buf rest : List α} {msg : β} (hd : decode buf = (.ok (some msg), rest)) :
    drain decode buf = (drain decode rest).after [msg] := by
  rw [drain, drainFor, hd]
  exact congrArg (Drained.after [msg]) (drainFor_eq_drain h (h.served hd).1)

omit h in
theorem drain_of_failed {buf rest : List α} {e : ε} (hd : decode buf = (.error e, rest)) :
    drain decode buf = ⟨[], some e, rest⟩ := by
  rw [drain, drainFor, hd]

/-- Draining can be interrupted anywhere. -/
theorem drain_append (x y : List α) :
    drain decode (x ++ y) = (drain decode x).read decode y := by
  induction hn : x.length using Nat.strongRecOn generalizing x with
  | _ n ih =>
      rcases hd : decode x with ⟨result, rest⟩
      match result with
      | .ok none => rw [drain_of_starved h hd, Drained.read, Drained.after_nil]
      | .error e => rw [drain_of_failed hd, drain_of_failed (h.failed hd y), Drained.read]
      | .ok (some msg) =>
          obtain ⟨hlt, hmore⟩ := h.served hd
          rw [drain_of_served h (hmore y), drain_of_served h hd, ih rest.length (hn ▸ hlt) rest rfl]
          rcases drain decode rest with ⟨msgs, _ | e, left⟩
          · rw [Drained.read, Drained.read, Drained.after_after]
            rfl
          · rfl

/-- What comes of a stream does not depend on how it is cut into reads. -/
theorem feed_eq_drain (reads : List (List α)) : feed decode reads = drain decode reads.flatten := by
  induction reads using List.reverseRecOn with
  | nil => rw [List.flatten_nil, drain_of_starved h h.empty, feed, List.foldl_nil]
  | append_singleton reads c ih =>
      rw [List.flatten_concat, drain_append h, ← ih, feed, feed, List.foldl_append]
      rfl

end Incremental

end Arp.Lib.Framing
