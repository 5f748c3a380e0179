import Arp.Common.UdpMux
import Arp.Lib.Machine
import Arp.Lib.Table

/-!
# Roundtrips over a UDP tunnel

`UdpTunnel::roundtrip` takes a number, enters the sender of its reply under the number in the
table of pending requests, queues a request frame, and waits ten seconds for the reply.  The
reader of the tunnel takes an entry out of the table to send the reply, and empties the table
when it exits.  A sender is in the table until then or nowhere: so a roundtrip that waits can
be answered exactly if it has its entry.

Roundtrips, the reader and the writer take their steps in any order, and the frames that come
in are any frames.  A timer may fire at any time at which there is neither a reply nor a closed
channel to be read instead.

A roundtrip that runs out of time leaves its entry where it is.  The main result says that this
is the only way to lose one (`tidy_iff`).
-/

namespace Arp.Server.UdpTunnel

open Arp.Common Arp.Lib Arp.Lib.Machine

/-- Where a call of `roundtrip` is, with the number of its request once it has one. -/
inductive Pc where
  | called
  | numbered (requestId : UInt32)
  | registered (requestId : UInt32)
  /-- The request is queued. -/
  | waiting (requestId : UInt32)
  /-- The channel of frames is closed; the entry is to be removed. -/
  | removing (requestId : UInt32)
  | returned (requestId : UInt32) (result : Result (List UInt8))

namespace Pc

/-- The number under which the call has made an entry. -/
def entered : Pc → Option UInt32
  | called | numbered _ => none
  | registered id | waiting id | removing id | returned id _ => some id

/-- The number of a request whose call has returned. -/
def finished : Pc → Option UInt32
  | called | numbered _ | registered _ | waiting _ | removing _ => none
  | returned id _ => some id

end Pc

theorem Pc.entered_of_finished {pc : Pc} {id : UInt32} (h : pc.finished = some id) :
    pc.entered = some id := by
  cases pc with
  | returned requestId result => exact h
  | called | numbered _ | registered _ | waiting _ | removing _ => cases h

/-- A call of `roundtrip`. -/
structure Roundtrip where
  srcAddr : String
  payload : List UInt8
  pc : Pc
  /-- What was sent over its channel. -/
  reply : Option (List UInt8)

/-- The call has not returned. -/
def Roundtrip.inProgress (rt : Roundtrip) : Bool := rt.pc.finished.isNone

/-- Where the reader of a tunnel is. -/
inductive ReaderPc where
  | reading
  /-- It answers a ping. -/
  | ponging
  /-- It has left its loop. -/
  | clearing
  | exited
deriving DecidableEq, Repr

/-- `UdpTunnel`, with its two tasks and the calls made so far.  The sender in an entry of the
table stands as the call it belongs to. -/
structure State where
  roundtrips : List Roundtrip
  nextRequestId : UInt32
  pending : Table UInt32 Nat
  /-- The channel of frames to the writer. -/
  queue : List UdpMuxFrame
  writerExited : Bool
  reader : ReaderPc

/-- `UdpTunnel::new`. -/
def State.new : State where
  roundtrips := []
  nextRequestId := 1
  pending := ∅
  queue := []
  writerExited := false
  reader := .reading

/-- What a call does next. -/
inductive Move where
  | number
  | register
  | enqueue
  /-- The channel of frames is closed. -/
  | enqueueFails
  | remove
  | receive
  /-- The sender of the reply was dropped. -/
  | closed
  | timeout
deriving DecidableEq, Repr

/-- What can happen next. -/
inductive Event where
  | call (srcAddr : String) (payload : List UInt8)
  | roundtrip (i : Nat) (move : Move)
  /-- The writer writes the next frame. -/
  | write
  | writeFails
  | read (frame : UdpMuxFrame)
  | pong
  | readFails
  | clear
deriving DecidableEq

namespace State

/-- The capacity of the channel of frames. -/
def queueCapacity : Nat := 1024

/-- A call gets on. -/
def goTo (s : State) (i : Nat) (rt : Roundtrip) (pc : Pc) : State :=
  { s with roundtrips := s.roundtrips.set i { rt with pc := pc } }

/-- A call of `roundtrip` goes on. -/
def move (s : State) (i : Nat) (rt : Roundtrip) (m : Move) : Option State :=
  match rt.pc, m with
  | .called, .number =>
    some { s.goTo i rt (.numbered s.nextRequestId) with nextRequestId := s.nextRequestId + 1 }
  | .numbered id, .register =>
    some { s.goTo i rt (.registered id) with pending := s.pending.insert id i }
  | .registered id, .enqueue =>
    if s.writerExited = false ∧ s.queue.length < queueCapacity then
      some { s.goTo i rt (.waiting id) with
        queue := s.queue ++ [.req id rt.srcAddr rt.payload] }
    else none
  | .registered id, .enqueueFails =>
    if s.writerExited then some (s.goTo i rt (.removing id)) else none
  | .removing id, .remove =>
    some { s.goTo i rt (.returned id (.error (.transport "udp mux frame channel closed"))) with
      pending := s.pending.erase id }
  | .waiting id, .receive => rt.reply.map fun payload ↦ s.goTo i rt (.returned id (.ok payload))
  | .waiting id, .closed =>
    if rt.reply = none ∧ s.pending.lookup id ≠ some i then
      some (s.goTo i rt (.returned id (.error (.transport "udp mux response channel closed"))))
    else none
  | .waiting id, .timeout =>
    if rt.reply = none ∧ s.pending.lookup id = some i then
      some (s.goTo i rt (.returned id (.error (.timeout "udp mux response timeout"))))
    else none
  | _, _ => none

/-- The reader has read a frame. -/
def read (s : State) : UdpMuxFrame → State
  | .resp id payload =>
    match s.pending.lookup id with
    | some i => { s with
        pending := s.pending.erase id
        roundtrips := s.roundtrips.modify i fun rt ↦ { rt with reply := some payload } }
    | none => s
  | .ping => { s with reader := .ponging }
  | .pong | .req _ _ _ => s

end State

/-- One step. -/
def step (s : State) : Event → Option State
  | .call srcAddr payload =>
    some { s with roundtrips := s.roundtrips ++ [⟨srcAddr, payload, .called, none⟩] }
  | .roundtrip i m => s.roundtrips[i]?.bind fun rt ↦ s.move i rt m
  | .write =>
    match s.writerExited, s.queue with
    | false, _ :: queue => some { s with queue := queue }
    | _, _ => none
  | .writeFails =>
    match s.writerExited, s.queue with
    | false, _ :: _ => some { s with queue := [], writerExited := true }
    | _, _ => none
  | .read frame => if s.reader = .reading then some (s.read frame) else none
  | .pong =>
    if s.reader = .ponging then
      if s.writerExited then some { s with reader := .reading }
      else if s.queue.length < State.queueCapacity then
        some { s with reader := .reading, queue := s.queue ++ [.pong] }
      else none
    else none
  | .readFails => if s.reader = .reading then some { s with reader := .clearing } else none
  | .clear =>
    if s.reader = .clearing then some { s with reader := .exited, pending := ∅ } else none

/-- The entry of a call is in the table, and the call has returned. -/
def Left (s : State) (i : Nat) (id : UInt32) : Prop :=
  s.pending.lookup id = some i ∧
    ∃ rt, s.roundtrips[i]? = some rt ∧ rt.pc.finished = some id

/-- No entry is left behind by a call that has returned, and there are no more entries than
calls in progress. -/
structure Tidy (s : State) : Prop where
  gone : ∀ i id, ¬Left s i id
  size : s.pending.keys.length ≤ s.roundtrips.countP Roundtrip.inProgress

/-! ## Entries and their calls -/

/-- A call may have the entry under a number: it has made it, and has no reply. -/
def Roundtrip.Owns (rt : Roundtrip) (id : UInt32) : Prop :=
  rt.pc.entered = some id ∧ rt.reply = none

/-- Every entry is that of a call that has made it and was not answered. -/
structure Consistent (s : State) : Prop where
  entry : ∀ id i, s.pending.lookup id = some i → ∃ rt, s.roundtrips[i]? = some rt ∧ rt.Owns id
  fresh : ∀ (i : Nat) (rt : Roundtrip), s.roundtrips[i]? = some rt → rt.pc.entered = none →
    rt.reply = none

theorem consistent_new : Consistent .new where
  entry id i h := by cases h
  fresh i rt h := by cases h

/-- What a call can do. -/
inductive Moves (s : State) (i : Nat) (rt : Roundtrip) : Move → State → Prop
  | number (hpc : rt.pc = .called) : Moves s i rt .number
      { s.goTo i rt (.numbered s.nextRequestId) with nextRequestId := s.nextRequestId + 1 }
  | register (id : UInt32) (hpc : rt.pc = .numbered id) : Moves s i rt .register
      { s.goTo i rt (.registered id) with pending := s.pending.insert id i }
  | enqueue (id : UInt32) (hpc : rt.pc = .registered id) : Moves s i rt .enqueue
      { s.goTo i rt (.waiting id) with queue := s.queue ++ [.req id rt.srcAddr rt.payload] }
  | enqueueFails (id : UInt32) (hpc : rt.pc = .registered id) :
      Moves s i rt .enqueueFails (s.goTo i rt (.removing id))
  | remove (id : UInt32) (e : Error) (hpc : rt.pc = .removing id) : Moves s i rt .remove
      { s.goTo i rt (.returned id (.error e)) with pending := s.pending.erase id }
  | receive (id : UInt32) (payload : List UInt8) (hpc : rt.pc = .waiting id)
      (hreply : rt.reply = some payload) :
      Moves s i rt .receive (s.goTo i rt (.returned id (.ok payload)))
  | closed (id : UInt32) (e : Error) (hpc : rt.pc = .waiting id)
      (hentry : s.pending.lookup id ≠ some i) :
      Moves s i rt .closed (s.goTo i rt (.returned id (.error e)))
  | timeout (id : UInt32) (e : Error) (hpc : rt.pc = .waiting id) (hreply : rt.reply = none)
      (hentry : s.pending.lookup id = some i) :
      Moves s i rt .timeout (s.goTo i rt (.returned id (.error e)))

theorem moves_of_move {s t : State} {i : Nat} {rt : Roundtrip} {m : Move}
    (h : s.move i rt m = some t) : Moves s i rt m t := by
  unfold State.move at h
  split at h
  · next hpc => exact Option.some.inj h ▸ .number hpc
  · next id hpc => exact Option.some.inj h ▸ .register id hpc
  · next id hpc =>
      split at h
      · exact Option.some.inj h ▸ .enqueue id hpc
      · cases h
  · next id hpc =>
      split at h
      · exact Option.some.inj h ▸ .enqueueFails id hpc
      · cases h
  · next id hpc => exact Option.some.inj h ▸ .remove id _ hpc
  · next id hpc =>
      obtain ⟨payload, hreply, rfl⟩ := Option.map_eq_some_iff.mp h
      exact .receive id payload hpc hreply
  · next id hpc =>
      split at h
      · next hclosed => exact Option.some.inj h ▸ .closed id _ hpc hclosed.2
      · cases h
  · next id hpc =>
      split at h
      · next hopen => exact Option.some.inj h ▸ .timeout id _ hpc hopen.1 hopen.2
      · cases h
  · cases h

/-- A call gets on: entries stay, go, or are its own. -/
theorem Consistent.goTo {s t : State} {i : Nat} {rt : Roundtrip} {pc : Pc} (h : Consistent s)
    (hrt : s.roundtrips[i]? = some rt) (ht : t.roundtrips = (s.goTo i rt pc).roundtrips)
    (hentered : ∀ id, rt.pc.entered = some id → pc.entered = some id)
    (hpending : ∀ id j, t.pending.lookup id = some j → s.pending.lookup id = some j ∨
      j = i ∧ pc.entered = some id ∧ rt.pc.entered = none) : Consistent t := by
  have hlt : i < s.roundtrips.length := (List.getElem?_eq_some_iff.mp hrt).1
  have hself : t.roundtrips[i]? = some { rt with pc := pc } := by
    rw [ht, State.goTo, List.getElem?_set_self hlt]
  constructor
  · intro id j hj
    rcases hpending id j hj with hold | ⟨rfl, hpc, hnone⟩
    · obtain ⟨rt', hrt', hpc, hreply⟩ := h.entry id j hold
      by_cases hij : i = j
      · subst hij
        obtain rfl := Option.some.inj (hrt.symm.trans hrt')
        exact ⟨_, hself, hentered id hpc, hreply⟩
      · refine ⟨rt', ?_, hpc, hreply⟩
        rw [ht, State.goTo, List.getElem?_set_ne hij, hrt']
    · exact ⟨_, hself, hpc, h.fresh j rt hrt hnone⟩
  · intro j rt' hrt' hnone
    rw [ht, State.goTo] at hrt'
    rcases eq_or_of_getElem?_set hrt' with ⟨rfl, rfl⟩ | ⟨-, hold⟩
    · refine h.fresh j rt hrt ?_
      cases hid : rt.pc.entered with
      | none => rfl
      | some id => exact absurd ((hentered id hid).symm.trans hnone) (Option.some_ne_none id)
    · exact h.fresh j rt' hold hnone

theorem Consistent.move {s t : State} {i : Nat} {rt : Roundtrip} {m : Move} (h : Consistent s)
    (hrt : s.roundtrips[i]? = some rt) (hmove : Moves s i rt m t) : Consistent t := by
  cases hmove with
  | number hpc =>
      refine h.goTo hrt rfl (fun id hid ↦ ?_) fun id j hj ↦ .inl hj
      rw [hpc] at hid
      cases hid
  | register id hpc =>
      refine h.goTo hrt rfl (fun id' hid ↦ ?_) fun id' j hj ↦ ?_
      · rw [hpc] at hid
        cases hid
      · rw [Table.lookup_insert_ite] at hj
        split at hj
        · next hid =>
            subst hid
            exact .inr ⟨(Option.some.inj hj).symm, rfl, by rw [hpc]; rfl⟩
        · exact .inl hj
  | enqueue id hpc | enqueueFails id hpc =>
      refine h.goTo hrt rfl (fun id' hid ↦ ?_) fun id' j hj ↦ .inl hj
      rw [hpc] at hid
      exact hid
  | remove id e hpc =>
      refine h.goTo hrt rfl (fun id' hid ↦ ?_) fun id' j hj ↦ ?_
      · rw [hpc] at hid
        exact hid
      · rw [Table.lookup_erase_ite] at hj
        split at hj
        · cases hj
        · exact .inl hj
  | receive id payload hpc hreply | closed id e hpc hentry | timeout id e hpc hreply hentry =>
      refine h.goTo hrt rfl (fun id' hid ↦ ?_) fun id' j hj ↦ .inl hj
      rw [hpc] at hid
      exact hid

/-- The reader takes an entry out before it sends the reply. -/
theorem Consistent.read {s : State} (h : Consistent s) (frame : UdpMuxFrame) :
    Consistent (s.read frame) := by
  cases frame with
  | resp id payload =>
      rw [State.read]
      split
      · next i hi =>
          obtain ⟨rt, hrt, hpc, hreply⟩ := h.entry id i hi
          constructor
          · intro id' j hj
            rw [Table.lookup_erase_ite] at hj
            split at hj
            · cases hj
            · next hne =>
                obtain ⟨rt', hrt', howns⟩ := h.entry id' j hj
                have hij : i ≠ j := by
                  rintro rfl
                  obtain rfl := Option.some.inj (hrt.symm.trans hrt')
                  exact hne (Option.some.inj (howns.1.symm.trans hpc))
                refine ⟨rt', ?_, howns⟩
                rw [List.getElem?_modify_ne _ _ hij, hrt']
          · intro j rt' hrt' hnone
            rw [List.getElem?_modify] at hrt'
            obtain ⟨rt₀, hrt₀, rfl⟩ := Option.map_eq_some_iff.mp hrt'
            split at hnone
            · next hij =>
                subst hij
                obtain rfl := Option.some.inj (hrt.symm.trans hrt₀)
                exact absurd (hpc.symm.trans hnone) (Option.some_ne_none id)
            · next hij =>
                rw [if_neg hij]
                exact h.fresh j rt₀ hrt₀ hnone
      · exact h
  | ping => exact ⟨h.entry, h.fresh⟩
  | pong => exact h
  | req id srcAddr payload => exact h

/-- What a step can do. -/
inductive Effect (s : State) : Event → State → Prop
  | call (srcAddr : String) (payload : List UInt8) : Effect s (.call srcAddr payload)
      { s with roundtrips := s.roundtrips ++ [⟨srcAddr, payload, .called, none⟩] }
  | move {t : State} (i : Nat) (rt : Roundtrip) (m : Move) (hrt : s.roundtrips[i]? = some rt)
      (hmove : Moves s i rt m t) : Effect s (.roundtrip i m) t
  /-- The writer, or the reader where it does not touch the table. -/
  | tasks (e : Event) (queue : List UdpMuxFrame) (writerExited : Bool) (reader : ReaderPc)
      (he : ∀ i m, e ≠ .roundtrip i m) :
      Effect s e { s with queue := queue, writerExited := writerExited, reader := reader }
  | read (frame : UdpMuxFrame) : Effect s (.read frame) (s.read frame)
  | clear : Effect s .clear { s with reader := .exited, pending := ∅ }

theorem effect_of_step {s t : State} {e : Event} (h : step s e = some t) : Effect s e t := by
  cases e with
  | call srcAddr payload => exact Option.some.inj h ▸ .call srcAddr payload
  | roundtrip i m =>
      obtain ⟨rt, hrt, hmove⟩ := Option.bind_eq_some_iff.mp h
      exact .move i rt m hrt (moves_of_move hmove)
  | write =>
      simp only [step] at h
      split at h
      · exact Option.some.inj h ▸ .tasks _ _ _ _ fun i m hfalse ↦ by cases hfalse
      · cases h
  | writeFails =>
      simp only [step] at h
      split at h
      · exact Option.some.inj h ▸ .tasks _ _ _ _ fun i m hfalse ↦ by cases hfalse
      · cases h
  | read frame =>
      simp only [step] at h
      split at h
      · exact Option.some.inj h ▸ .read frame
      · cases h
  | pong =>
      simp only [step] at h
      split at h
      · split at h
        · exact Option.some.inj h ▸ .tasks _ _ _ _ fun i m hfalse ↦ by cases hfalse
        · split at h
          · exact Option.some.inj h ▸ .tasks _ _ _ _ fun i m hfalse ↦ by cases hfalse
          · cases h
      · cases h
  | readFails =>
      simp only [step] at h
      split at h
      · exact Option.some.inj h ▸ .tasks _ _ _ _ fun i m hfalse ↦ by cases hfalse
      · cases h
  | clear =>
      simp only [step] at h
      split at h
      · exact Option.some.inj h ▸ .clear
      · cases h

theorem consistent_step {s t : State} {e : Event} (h : Consistent s) (hstep : step s e = some t) :
    Consistent t := by
  cases effect_of_step hstep with
  | call srcAddr payload =>
      constructor
      · intro id i hi
        obtain ⟨rt, hrt, howns⟩ := h.entry id i hi
        refine ⟨rt, ?_, howns⟩
        rw [List.getElem?_append_left (List.getElem?_eq_some_iff.mp hrt).1, hrt]
      · intro i rt hrt hnone
        rcases eq_or_of_getElem?_concat hrt with ⟨-, rfl⟩ | hold
        · rfl
        · exact h.fresh i rt hold hnone
  | move i rt m hrt hmove => exact h.move hrt hmove
  | tasks _ queue writerExited reader he => exact ⟨h.entry, h.fresh⟩
  | read frame => exact h.read frame
  | clear => exact ⟨fun id i hi ↦ (by cases hi), h.fresh⟩

/-! ## Entries that are left behind -/

/-- A call gets on: what is left is left by another, or by itself as it returns. -/
theorem left_of_goTo {s t : State} {i j : Nat} {rt : Roundtrip} {pc : Pc} {id : UInt32}
    (h : Left t j id) (ht : t.roundtrips = (s.goTo i rt pc).roundtrips)
    (hpending : j ≠ i → t.pending.lookup id = some j → s.pending.lookup id = some j) :
    Left s j id ∨ j = i ∧ pc.finished = some id := by
  obtain ⟨hentry, rt', hrt', hfinished⟩ := h
  rw [ht, State.goTo] at hrt'
  rcases eq_or_of_getElem?_set hrt' with ⟨rfl, rfl⟩ | ⟨hne, hold⟩
  · exact .inr ⟨rfl, hfinished⟩
  · exact .inl ⟨hpending hne hentry, rt', hold, hfinished⟩

/-- A call that does not run out of time leaves nothing. -/
theorem left_of_move {s t : State} {i j : Nat} {rt : Roundtrip} {m : Move} {id : UInt32}
    (hs : Consistent s) (hrt : s.roundtrips[i]? = some rt) (hmove : Moves s i rt m t)
    (hm : m ≠ .timeout) (h : Left t j id) : Left s j id := by
  cases hmove with
  | number hpc | enqueue id' hpc | enqueueFails id' hpc =>
      refine (left_of_goTo h rfl fun _ hentry ↦ hentry).resolve_right ?_
      rintro ⟨-, hfinished⟩
      cases hfinished
  | register id' hpc =>
      refine (left_of_goTo h rfl fun hne hentry ↦ ?_).resolve_right ?_
      · rw [Table.lookup_insert_ite] at hentry
        split at hentry
        · exact absurd (Option.some.inj hentry).symm hne
        · exact hentry
      · rintro ⟨-, hfinished⟩
        cases hfinished
  | remove id' e hpc =>
      have hentry := h.1
      rw [Table.lookup_erase_ite] at hentry
      split at hentry
      · cases hentry
      · next hne =>
          refine (left_of_goTo h rfl fun _ _ ↦ hentry).resolve_right ?_
          rintro ⟨-, hfinished⟩
          exact hne (Option.some.inj hfinished).symm
  | receive id' payload hpc hreply =>
      refine (left_of_goTo h rfl fun _ hentry ↦ hentry).resolve_right ?_
      rintro ⟨rfl, -⟩
      -- A call with a reply has no entry.
      obtain ⟨_, hsame, -, hnone⟩ := hs.entry id j h.1
      obtain rfl := Option.some.inj (hrt.symm.trans hsame)
      rw [hreply] at hnone
      cases hnone
  | closed id' e hpc hentry =>
      refine (left_of_goTo h rfl fun _ hentry ↦ hentry).resolve_right ?_
      rintro ⟨rfl, hfinished⟩
      obtain rfl := Option.some.inj hfinished
      exact hentry h.1
  | timeout id' e hpc hreply hentry => exact absurd rfl hm

theorem left_of_read {s : State} {frame : UdpMuxFrame} {j : Nat} {id : UInt32}
    (h : Left (s.read frame) j id) : Left s j id := by
  cases frame with
  | resp id' payload =>
      rw [State.read] at h
      split at h
      · next i hi =>
          obtain ⟨hentry, rt', hrt', hfinished⟩ := h
          rw [Table.lookup_erase_ite] at hentry
          rw [List.getElem?_modify] at hrt'
          obtain ⟨rt, hrt, rfl⟩ := Option.map_eq_some_iff.mp hrt'
          refine ⟨?_, rt, hrt, ?_⟩
          · split at hentry
            · cases hentry
            · exact hentry
          · split at hfinished <;> exact hfinished
      · exact h
  | ping => exact h
  | pong => exact h
  | req id' srcAddr payload => exact h

/-- The call does not run out of time. -/
def Event.InTime (e : Event) : Prop := ∀ i, e ≠ .roundtrip i .timeout

instance : ∀ e, Decidable (Event.InTime e)
  | .roundtrip i .timeout => .isFalse fun h ↦ h i rfl
  | .roundtrip _ .number | .roundtrip _ .register | .roundtrip _ .enqueue
  | .roundtrip _ .enqueueFails | .roundtrip _ .remove | .roundtrip _ .receive
  | .roundtrip _ .closed | .call _ _ | .write | .writeFails | .read _ | .pong | .readFails
  | .clear => .isTrue fun i h ↦ by cases h

theorem left_of_step {s t : State} {e : Event} {j : Nat} {id : UInt32} (hs : Consistent s)
    (he : e.InTime) (hstep : step s e = some t) (h : Left t j id) : Left s j id := by
  cases effect_of_step hstep with
  | call srcAddr payload =>
      obtain ⟨hentry, rt, hrt, hfinished⟩ := h
      rcases eq_or_of_getElem?_concat hrt with ⟨-, rfl⟩ | hold
      · cases hfinished
      · exact ⟨hentry, rt, hold, hfinished⟩
  | move i rt m hrt hmove =>
      exact left_of_move hs hrt hmove (fun hm ↦ he i (congrArg _ hm)) h
  | tasks _ queue writerExited reader he => exact h
  | read frame => exact left_of_read h
  | clear => exact absurd h.1 (by simp)

/-- A call that runs out of time leaves its entry. -/
theorem left_of_timeout {s t : State} {i : Nat} (hstep : step s (.roundtrip i .timeout) = some t) :
    ∃ id, Left t i id := by
  cases effect_of_step hstep with
  | move _ rt _ hrt hmove =>
      cases hmove with
      | timeout id e hpc hreply hentry =>
          refine ⟨id, hentry, { rt with pc := .returned id (.error e) }, ?_, rfl⟩
          exact List.getElem?_set_self (List.getElem?_eq_some_iff.mp hrt).1
  | tasks _ queue writerExited reader he => exact absurd rfl (he i .timeout)

/-- If nothing is left behind, every entry is that of a call in progress, and they are all
different. -/
theorem tidy_of_gone {s : State} (h : Consistent s) (hgone : ∀ i id, ¬Left s i id) : Tidy s := by
  refine ⟨hgone, ?_⟩
  have hkey : ∀ id ∈ s.pending.keys, ∃ i rt, s.pending.lookup id = some i ∧
      s.roundtrips[i]? = some rt ∧ rt.Owns id := by
    intro id hid
    obtain ⟨i, hi⟩ := Table.mem_iff_lookup.mp (AList.mem_keys.mpr hid)
    obtain ⟨rt, hrt, howns⟩ := h.entry id i hi
    exact ⟨i, rt, hi, hrt, howns⟩
  have hnodup : (s.pending.keys.map fun id ↦ (s.pending.lookup id).getD 0).Nodup := by
    refine List.Nodup.map_on (fun id hid id' hid' heq ↦ ?_) s.pending.keys_nodup
    obtain ⟨i, rt, hi, hrt, howns⟩ := hkey id hid
    obtain ⟨i', rt', hi', hrt', howns'⟩ := hkey id' hid'
    obtain rfl : i = i' := by simpa only [hi, hi', Option.getD_some] using heq
    obtain rfl := Option.some.inj (hrt.symm.trans hrt')
    exact Option.some.inj (howns.1.symm.trans howns'.1)
  refine (List.length_map _).symm.le.trans (length_le_countP hnodup fun i hi ↦ ?_)
  obtain ⟨id, hid, rfl⟩ := List.mem_map.mp hi
  obtain ⟨i, rt, hi, hrt, howns⟩ := hkey id hid
  refine ⟨rt, by rw [hi]; exact hrt, ?_⟩
  rw [Roundtrip.inProgress, Option.isNone_iff_eq_none]
  cases hfinished : rt.pc.finished with
  | none => rfl
  | some id' =>
      obtain rfl := Option.some.inj ((Pc.entered_of_finished hfinished).symm.trans howns.1)
      exact absurd ⟨hi, rt, hrt, hfinished⟩ (hgone i id')

/-- Unless another call has the number of a call that has returned, there is no entry under
it. -/
theorem Tidy.lookup_eq_none {s : State} {i : Nat} {rt : Roundtrip} {id : UInt32} (h : Tidy s)
    (hs : Consistent s) (hrt : s.roundtrips[i]? = some rt) (hfinished : rt.pc.finished = some id)
    (honly : ∀ (j : Nat) (rt' : Roundtrip), s.roundtrips[j]? = some rt' →
      rt'.pc.entered = some id → j = i) : s.pending.lookup id = none := by
  cases hj : s.pending.lookup id with
  | none => rfl
  | some j =>
      obtain ⟨rt', hrt', howns⟩ := hs.entry id j hj
      obtain rfl := honly j rt' hrt' howns.1
      exact absurd ⟨hj, rt, hrt, hfinished⟩ (h.gone j id)

theorem tidy_step_iff {s t : State} {e : Event} (hs : Consistent s) (h : Tidy s)
    (hstep : step s e = some t) : Tidy t ↔ e.InTime := by
  constructor
  · rintro htidy i rfl
    obtain ⟨id, hleft⟩ := left_of_timeout hstep
    exact htidy.gone i id hleft
  · intro he
    refine tidy_of_gone (consistent_step hs hstep) fun i id hleft ↦ ?_
    exact h.gone i id (left_of_step hs he hstep hleft)

/-- However calls, frames and failures follow each other: no call that has returned ever has its
entry in the table, and the table never has more entries than there are calls in progress,
exactly if no call runs out of time. -/
theorem tidy_iff {es : List Event} {t : State} (hrun : run step .new es = some t) :
    (∀ fs s, fs <+: es → run step .new fs = some s → Tidy s) ↔ ∀ e ∈ es, e.InTime := by
  rw [← along_iff_forall hrun]
  refine (along_iff_reached (fun _ _ _ ↦ consistent_step) (fun _ _ _ ↦ tidy_step_iff) hrun
    consistent_new ?_).symm
  exact tidy_of_gone consistent_new fun i id hleft ↦ by cases hleft.1

/-- Two datagrams: the first is answered, the connection ends before the second is. -/
def answeredOnce : List Event :=
  [.call "203.0.113.5:40000" [1], .roundtrip 0 .number, .roundtrip 0 .register,
    .roundtrip 0 .enqueue, .call "203.0.113.6:40000" [2], .roundtrip 1 .number,
    .roundtrip 1 .register, .roundtrip 1 .enqueue, .write, .read (.resp 1 [3]),
    .roundtrip 0 .receive, .readFails, .clear, .roundtrip 1 .closed]

theorem tidy_answeredOnce : ∃ t, run step .new answeredOnce = some t ∧ Tidy t := by
  obtain ⟨t, ht⟩ : ∃ t, run step .new answeredOnce = some t := ⟨_, rfl⟩
  refine ⟨t, ht, (tidy_iff ht).mpr (by decide) answeredOnce t (List.prefix_refl _) ht⟩

/-- Nobody answers a datagram: its entry is still there when its call has returned. -/
theorem unanswered_left : ∃ t,
    run step .new [.call "203.0.113.5:40000" [1], .roundtrip 0 .number, .roundtrip 0 .register,
      .roundtrip 0 .enqueue, .write, .roundtrip 0 .timeout] = some t ∧
    t.pending.lookup 1 = some 0 ∧ t.pending.keys.length = 1 ∧
    t.roundtrips.countP Roundtrip.inProgress = 0 ∧ ¬Tidy t :=
  ⟨_, rfl, rfl, rfl, rfl, fun h ↦ absurd h.size (by decide)⟩

end Arp.Server.UdpTunnel
