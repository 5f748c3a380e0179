import Mathlib.Data.List.Basic

/-!
# A stream with bytes in front

Bytes that were read too early are put in front of the stream they came from.  A
`PrefixedStream` delivers them first, in pieces as large as the reader has room for, and then
passes reads on to the inner stream.  A read without room is passed on even before: the inner
stream then has no room to put a byte.

The inner stream is the bytes that are still to come from it, and each time it is asked it may
have nothing yet, fail, or give as many bytes as it likes for which there is room.
-/

namespace Arp.Common

/-- `PrefixedStream`: the cursor, and what is still to come from the inner stream. -/
structure PrefixedStream where
  prefixBytes : List UInt8
  position : Nat
  inner : List UInt8
deriving DecidableEq, Repr

namespace PrefixedStream

/-- What the inner stream does when it is asked. -/
inductive InnerPoll where
  | pending
  | failed
  /-- It is ready, with this many bytes if there is room and there are as many. -/
  | ready (amount : Nat)
deriving DecidableEq, Repr

/-- What `poll_read` returns, with the bytes it has put into the buffer. -/
inductive Outcome where
  | pending
  | failed
  | ready (data : List UInt8)
deriving DecidableEq, Repr

/-- The bytes that were delivered. -/
def Outcome.data : Outcome → List UInt8
  | pending | failed => []
  | ready data => data

/-- `PrefixedStream::new`. -/
def new (prefixBytes inner : List UInt8) : PrefixedStream := ⟨prefixBytes, 0, inner⟩

/-- `poll_read` of the inner stream. -/
def pollInner (s : PrefixedStream) (remaining : Nat) : InnerPoll → PrefixedStream × Outcome
  | .pending => (s, .pending)
  | .failed => (s, .failed)
  | .ready amount =>
    ({ s with inner := s.inner.drop (min amount remaining) },
      .ready (s.inner.take (min amount remaining)))

/-- `PrefixedStream::poll_read` into a buffer with so much room; `polled` is what the inner
stream does, if it is asked. -/
def pollRead (s : PrefixedStream) (remaining : Nat) (polled : InnerPoll) :
    PrefixedStream × Outcome :=
  let total := s.prefixBytes.length
  let pos := s.position
  if pos < total ∧ remaining > 0 then
    let toCopy := min (total - pos) remaining
    ({ s with position := pos + toCopy }, .ready ((s.prefixBytes.drop pos).take toCopy))
  else s.pollInner remaining polled

/-- The bytes of the prefix that were not delivered. -/
def left (s : PrefixedStream) : List UInt8 := s.prefixBytes.drop s.position

theorem left_eq_nil_iff {s : PrefixedStream} :
    s.left = [] ↔ s.prefixBytes.length ≤ s.position := List.drop_eq_nil_iff

/-- What a read does: it delivers of what is left of the prefix, or it asks the inner stream,
which cannot deliver anything if there is no room. -/
inductive Reads (s : PrefixedStream) (remaining : Nat) : PrefixedStream × Outcome → Prop
  | ahead (n : Nat) (hn : 0 < n) (hleft : n ≤ s.left.length) :
      Reads s remaining ({ s with position := s.position + n }, .ready (s.left.take n))
  | waits (o : Outcome) (ho : o.data = []) (hready : o ≠ .ready []) : Reads s remaining (s, o)
  | passes (n : Nat) (hn : n ≤ remaining) (hroom : s.left = [] ∨ remaining = 0) :
      Reads s remaining ({ s with inner := s.inner.drop n }, .ready (s.inner.take n))

theorem reads_pollRead (s : PrefixedStream) (remaining : Nat) (polled : InnerPoll) :
    Reads s remaining (s.pollRead remaining polled) := by
  unfold pollRead
  dsimp only
  split
  · next h =>
      refine .ahead _ (by omega) ?_
      rw [left, List.length_drop]
      exact Nat.min_le_left _ _
  · next h =>
      cases polled with
      | pending => exact .waits .pending rfl fun hfalse ↦ by cases hfalse
      | failed => exact .waits .failed rfl fun hfalse ↦ by cases hfalse
      | ready amount =>
          refine .passes _ (Nat.min_le_right _ _) ?_
          rw [left_eq_nil_iff]
          omega

namespace Reads

variable {s : PrefixedStream} {remaining : Nat} {result : PrefixedStream × Outcome}

/-- A read loses and repeats nothing. -/
theorem whole (h : Reads s remaining result) :
    result.2.data ++ (result.1.left ++ result.1.inner) = s.left ++ s.inner := by
  cases h with
  | ahead n hn hleft =>
      have hdrop : left { s with position := s.position + n } = s.left.drop n :=
        (List.drop_drop (l := s.prefixBytes)).symm
      rw [← List.append_assoc, hdrop]
      exact congrArg (· ++ s.inner) (List.take_append_drop n s.left)
  | waits o ho hready => rw [ho, List.nil_append]
  | passes n hn hroom =>
      have hsame : left { s with inner := s.inner.drop n } = s.left := rfl
      rcases hroom with hnil | rfl
      · rw [hsame, hnil]
        exact List.take_append_drop n s.inner
      · obtain rfl := Nat.le_zero.mp hn
        rfl

/-- While some of the prefix is left, the inner stream keeps its bytes. -/
theorem inner_eq (h : Reads s remaining result) (hleft : s.left ≠ []) :
    result.1.inner = s.inner := by
  cases h with
  | ahead n hn hlength => rfl
  | waits o ho hready => rfl
  | passes n hn hroom =>
      obtain rfl := hroom.resolve_left hleft
      obtain rfl := Nat.le_zero.mp hn
      rfl

/-- While some of the prefix is left, a read with room delivers something if it returns. -/
theorem ne_ready_nil (h : Reads s remaining result) (hleft : s.left ≠ [])
    (hroom : 0 < remaining) : result.2 ≠ .ready [] := by
  cases h with
  | ahead n hn hlength =>
      intro hnone
      have hlen := congrArg List.length (Outcome.ready.inj hnone)
      rw [List.length_take, List.length_nil] at hlen
      omega
  | waits o ho hready => exact hready
  | passes n hn hnoroom => exact absurd (hnoroom.resolve_left hleft) (Nat.ne_of_gt hroom)

end Reads

/-! ## Any reads one after another -/

/-- A read that was made: the room there was, what was left of the prefix before, what it
returned, and how many bytes of the inner stream it took. -/
structure Read where
  remaining : Nat
  left : List UInt8
  outcome : Outcome
  taken : Nat

/-- A stream with the reads made so far. -/
structure Reader where
  stream : PrefixedStream
  reads : List Read

namespace Reader

/-- Nothing was read yet. -/
def new (prefixBytes inner : List UInt8) : Reader := ⟨.new prefixBytes inner, []⟩

/-- One more read. -/
def read (r : Reader) (remaining : Nat) (polled : InnerPoll) : Reader where
  stream := (r.stream.pollRead remaining polled).1
  reads := r.reads ++ [{
    remaining := remaining
    left := r.stream.left
    outcome := (r.stream.pollRead remaining polled).2
    taken := r.stream.inner.length - (r.stream.pollRead remaining polled).1.inner.length }]

/-- Reads one after another. -/
def readAll (r : Reader) (polls : List (Nat × InnerPoll)) : Reader :=
  polls.foldl (fun r p ↦ r.read p.1 p.2) r

/-- What was delivered so far. -/
def delivered (r : Reader) : List UInt8 := r.reads.flatMap fun read ↦ read.outcome.data

/-- Where a reader stands: what was delivered and what is left make up the prefix and the inner
stream, and every read has taken bytes of the inner stream, or none, as it should. -/
structure Sound (prefixBytes inner : List UInt8) (r : Reader) : Prop where
  whole : r.delivered ++ (r.stream.left ++ r.stream.inner) = prefixBytes ++ inner
  ahead : ∀ read ∈ r.reads, read.left ≠ [] → read.taken = 0
  goesOn : ∀ read ∈ r.reads, read.left ≠ [] → 0 < read.remaining → read.outcome ≠ .ready []

variable {prefixBytes inner : List UInt8} {r : Reader}

theorem sound_new (prefixBytes inner : List UInt8) : Sound prefixBytes inner (new prefixBytes inner)
    where
  whole := rfl
  ahead := List.forall_mem_nil _
  goesOn := List.forall_mem_nil _

theorem sound_read (h : Sound prefixBytes inner r) (remaining : Nat) (polled : InnerPoll) :
    Sound prefixBytes inner (r.read remaining polled) := by
  have hreads := reads_pollRead r.stream remaining polled
  constructor
  · have hdelivered : (r.read remaining polled).delivered =
        r.delivered ++ (r.stream.pollRead remaining polled).2.data := by
      rw [delivered, read, List.flatMap_append, List.flatMap_singleton]
      rfl
    rw [hdelivered, List.append_assoc, ← h.whole]
    exact congrArg (r.delivered ++ ·) hreads.whole
  · refine List.forall_mem_append.mpr ⟨h.ahead, List.forall_mem_singleton.mpr fun hleft ↦ ?_⟩
    show r.stream.inner.length - (r.stream.pollRead remaining polled).1.inner.length = 0
    rw [hreads.inner_eq hleft, Nat.sub_self]
  · exact List.forall_mem_append.mpr ⟨h.goesOn, List.forall_mem_singleton.mpr hreads.ne_ready_nil⟩

theorem sound_readAll (prefixBytes inner : List UInt8) (polls : List (Nat × InnerPoll)) :
    Sound prefixBytes inner ((new prefixBytes inner).readAll polls) := by
  suffices hall : ∀ r, Sound prefixBytes inner r → Sound prefixBytes inner (r.readAll polls) from
    hall _ (sound_new prefixBytes inner)
  induction polls with
  | nil => exact fun r h ↦ h
  | cons p polls ih => exact fun r h ↦ ih _ (sound_read h p.1 p.2)

/-- Whatever room the reads have and whatever the inner stream gives: what is delivered is the
beginning of the prefix followed by the inner stream, nothing is taken of the inner stream while
some of the prefix is left, and a read with room does not come back empty then. -/
theorem readAll_prefixed (prefixBytes inner : List UInt8) (polls : List (Nat × InnerPoll)) :
    ((new prefixBytes inner).readAll polls).delivered <+: prefixBytes ++ inner ∧
    ∀ read ∈ ((new prefixBytes inner).readAll polls).reads, read.left ≠ [] →
      read.taken = 0 ∧ (0 < read.remaining → read.outcome ≠ .ready []) := by
  have h := sound_readAll prefixBytes inner polls
  refine ⟨⟨_, h.whole⟩, fun read hread hleft ↦ ⟨h.ahead read hread hleft, ?_⟩⟩
  exact h.goesOn read hread hleft

/-- A read without room, two of the prefix and one of the inner stream. -/
theorem readAll_small : ∃ r, (new [1, 2, 3] [4, 5]).readAll
    [(0, .ready 5), (2, .pending), (2, .pending), (2, .ready 1)] = r ∧
    r.delivered = [1, 2, 3, 4] ∧ r.delivered <+: [1, 2, 3] ++ [4, 5] :=
  ⟨_, rfl, by decide, (readAll_prefixed _ _ _).1⟩

end Reader

end PrefixedStream

end Arp.Common
