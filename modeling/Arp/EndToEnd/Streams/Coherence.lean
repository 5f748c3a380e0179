import Arp.EndToEnd.Streams.Local

/-!
# Both ends of a tunnel

The invariants of the ends fit together.  Ids of streams are not used twice, as long as
the counter of ids has not gone round, and the `Open` of a stream is queued once and
before anything else for it.  So nothing can have been read for a stream when it enters
the map, at either end, which is what `Receives` asks for.  Then the chain is complete:
what was written to a socket got into the channel of the stream, what got there was read
from the work connection, what was read there was queued at the other end, and what was
queued was read from the socket of the same stream.
-/

namespace Arp.EndToEnd.Streams

open Arp.Common Arp.Lib

/-! ## Steps of the tunnel -/

theorem Side.eq_or_eq_other (a b : Side) : b = a ∨ b = a.other := by
  cases a <;> cases b <;> decide

@[simp] theorem Side.other_other (a : Side) : a.other.other = a := by
  cases a <;> rfl

namespace State

variable (s : State) (side : Side) (x : End) (bytes : List UInt8)

@[simp] theorem get_update_self : (s.update side x bytes).get side = x := by
  cases side <;> rfl

@[simp] theorem get_update_other :
    (s.update side x bytes).get side.other =
      { s.get side.other with incoming := (s.get side.other).incoming ++ bytes } := by
  cases side <;> rfl

variable {s side x bytes}

/-- What holds of the new end and does not depend on the bytes that arrive. -/
theorem forall_update {P : Side → End → Prop} (hs : ∀ side, P side (s.get side)) (hx : P side x)
    (hbytes : ∀ side y incoming, P side y → P side { y with incoming := incoming }) :
    ∀ side', P side' ((s.update side x bytes).get side') := by
  intro side'
  rcases side.eq_or_eq_other side' with rfl | rfl
  · rw [get_update_self]
    exact hx
  · rw [get_update_other]
    exact hbytes _ _ _ (hs _)

end State

/-- A step of the tunnel is a step of one end. -/
theorem acts_of_step {s s' : State} {side : Side} {e : Event} (hs' : step s (side, e) = some s') :
    ∃ x' bytes, Acts side (s.get side) e x' bytes ∧ s' = s.update side x' bytes := by
  obtain ⟨⟨x', bytes⟩, hout, rfl⟩ := Option.map_eq_some_iff.mp hs'
  exact ⟨x', bytes, acts_of_stepEnd hout, rfl⟩

/-! ## Phases -/

/-- The phases that belong to an end. -/
def Phase.on : Side → Phase → Bool
  | .server, .connecting => false
  | .client, .opening | .client, .announcing | .client, .failed => false
  | _, _ => true

/-- The streams of an end are in phases of that end. -/
def Sided (side : Side) (x : End) : Prop :=
  ∀ (k : Nat) (h : Stream), x.streams[k]? = some h → h.phase.on side = true

theorem Turns.on {side : Side} {x : End} {k : Nat} {h h' : Stream} {e : Event}
    (hturns : Turns side x k h e h') (hon : h.phase.on side = true) : h'.phase.on side = true := by
  cases hturns with
  | move hmove =>
      cases hmove with
      | refused hphase =>
          rw [hphase] at hon
          cases side with
          | server => rfl
          | client => cases hon
      | peerSends | peerFinishes | take | write | writeError | cancel | drained => exact hon
      | _ => cases side <;> rfl
  | insert hphase =>
      rw [hphase] at hon
      cases side with
      | server => rfl
      | client => cases hon
  | announce | send => cases side <;> rfl
  | half hhalf => cases hhalf <;> cases side <;> rfl
  | stay | deliver => exact hon

theorem Sided.acts {side : Side} {x x' : End} {e : Event} {bytes : List UInt8} (hx : Sided side x)
    (hacts : Acts side x e x' bytes) : Sided side x' := by
  intro k h' hk'
  rcases hacts.turns hk' with ⟨h, hk, hturns⟩ | ⟨-, -, hadds⟩
  · exact hturns.on (hx k h hk)
  · cases hadds with
    | accept hside =>
        subst hside
        rfl
    | «open» hside =>
        subst hside
        rfl

/-- A stream that was started stays so. -/
theorem Turns.started {side : Side} {x : End} {k : Nat} {h h' : Stream} {e : Event}
    (hturns : Turns side x k h e h') (hstarted : h.phase.started = true) :
    h'.phase.started = true := by
  cases hturns with
  | move hmove =>
      cases hmove with
      | refused hphase =>
          rw [hphase] at hstarted
          cases hstarted
      | peerSends | peerFinishes | take | write | writeError | cancel | drained => exact hstarted
      | _ => rfl
  | insert hphase =>
      rw [hphase] at hstarted
      cases hstarted
  | announce | send => rfl
  | half hhalf => cases hhalf <;> rfl
  | stay | deliver => exact hstarted

/-! ## Ids -/

/-- The ids of an end count from one, and the next one goes on. -/
structure Numbered (x : End) : Prop where
  ids : x.ids = (List.range x.streams.length).map fun k ↦ UInt32.ofNat (k + 1)
  next : x.nextStreamId = UInt32.ofNat (x.streams.length + 1)

theorem Numbered.new : Numbered .new := ⟨rfl, rfl⟩

theorem End.length_ids (x : End) : x.ids.length = x.streams.length := List.length_map _

theorem Numbered.acts {x x' : End} {e : Event} {bytes : List UInt8} (hx : Numbered x)
    (hacts : Acts .server x e x' bytes) : Numbered x' := by
  rcases hacts.ids with ⟨hids, hnext⟩ | ⟨h, hadds, hids, hnext⟩
  · have hlen : x'.streams.length = x.streams.length := by
      rw [← End.length_ids, ← End.length_ids, hids]
    exact ⟨by rw [hids, hx.ids, hlen], by rw [hnext, hx.next, hlen]⟩
  · have hlen : x'.streams.length = x.streams.length + 1 := by
      rw [← End.length_ids, ← End.length_ids, hids, List.length_append, List.length_singleton]
    have hid : h.id = x.nextStreamId := by
      cases hadds with
      | accept => rfl
      | «open» hside => cases hside
    refine ⟨?_, ?_⟩
    · rw [hids, hlen, List.range_succ, List.map_append, ← hx.ids, hid, hx.next]
      rfl
    · rw [hnext rfl, hx.next, hlen, UInt32.ofNat_add (x.streams.length + 1) 1]
      rfl

/-- Until the counter goes round, all ids are different. -/
theorem Numbered.nodup {x : End} (hx : Numbered x) (hlen : x.streams.length ≤ 2 ^ 32) :
    x.ids.Nodup := by
  rw [hx.ids]
  refine List.Nodup.map_on (fun j hj k hk heq ↦ ?_) List.nodup_range
  rw [List.mem_range] at hj hk
  have hmod := congrArg UInt32.toNat heq
  rw [UInt32.toNat_ofNat', UInt32.toNat_ofNat'] at hmod
  omega

/-! ## Opening -/

/-- What the server has queued and the client has read of `Open` frames. -/
structure Opened (server client : End) : Prop where
  announced : ∀ id, .open id ∈ server.enqueued →
    ∃ (k : Nat) (h : Stream), server.streams[k]? = some h ∧ h.id = id ∧ h.phase.started = true
  first : ∀ frames id, frames ++ [.open id] <+: server.enqueued →
    dataFor id frames = [] ∧ .open id ∉ frames
  known : ∀ id ∈ client.ids, .open id ∈ client.handled

/-- Both ends of a tunnel as they are while all ids are different. -/
structure Coherent (s : State) : Prop where
  sends : ∀ side, Sends (s.get side)
  receives : ∀ side, Receives (s.get side)
  link : ∀ side, Link (s.get side).toTraffic (s.get side.other).toTraffic
  nodup : ∀ side, (s.get side).ids.Nodup
  sided : ∀ side, Sided side (s.get side)
  opened : Opened s.server s.client

namespace Coherent

variable {s : State} {x' : End} {e : Event} {bytes : List UInt8} {k : Nat} {h : Stream}

theorem new : Coherent .new where
  sends side := by cases side <;> exact Sends.new
  receives side := by cases side <;> exact Receives.new
  link side := by cases side <;> exact Link.new
  nodup side := by cases side <;> exact List.nodup_nil
  sided side := by cases side <;> simp [Sided, State.get, State.new, End.new]
  opened := ⟨by simp [State.new, End.new], by simp [State.new, End.new],
    by simp [State.new, End.new, End.ids]⟩

/-- The frames that come to an end. -/
theorem link_to (hs : Coherent s) (side : Side) :
    Link (s.get side.other).toTraffic (s.get side).toTraffic := by
  have hlink := hs.link side.other
  rwa [Side.other_other] at hlink

/-- The `Open` of a stream is queued only when the stream is started. -/
theorem open_notMem (hs : Coherent s) (hk : s.server.streams[k]? = some h)
    (hphase : h.phase.started = false) : .open h.id ∉ s.server.enqueued := by
  intro hmem
  obtain ⟨j, g, hj, hid, hstarted⟩ := hs.opened.announced h.id hmem
  obtain rfl := End.eq_of_id_eq (hs.nodup .server) hj hk hid
  obtain rfl : g = h := Option.some.inj (hj.symm.trans hk)
  rw [hphase] at hstarted
  cases hstarted

/-- Nothing was read at the server for a stream that is not started. -/
theorem fresh (hs : Coherent s) (hk : s.server.streams[k]? = some h)
    (hphase : h.phase.started = false) : dataFor h.id s.server.handled = [] := by
  have hunknown : h.id ∉ s.client.ids := by
    intro hmem
    refine hs.open_notMem hk hphase ?_
    exact (hs.link .server).handled_isPrefix.subset (hs.opened.known h.id hmem)
  have hpre := dataFor_mono (hs.link .client).handled_isPrefix h.id
  rwa [(hs.sends .client).strange h.id hunknown, List.prefix_nil] at hpre

/-- The next `Open` the client reads is the first frame it reads for the stream. -/
theorem next_open (hs : Coherent s) {id : UInt32} {rest : List UInt8}
    (hread : Mux.readMuxFrame s.client.incoming = .done (.open id) rest) :
    dataFor id s.client.handled = [] ∧ .open id ∉ s.client.handled :=
  hs.opened.first _ id ((hs.link .server).handled_next hread)

theorem opened_server (hs : Coherent s) (hacts : Acts .server s.server e x' bytes) :
    Opened x' s.client := by
  have hold : ∀ id, .open id ∈ s.server.enqueued →
      ∃ (k : Nat) (h : Stream), x'.streams[k]? = some h ∧ h.id = id ∧ h.phase.started = true := by
    intro id hmem
    obtain ⟨k, h, hk, rfl, hstarted⟩ := hs.opened.announced id hmem
    obtain ⟨h', hk', hturns⟩ := hacts.exists_turns hk
    exact ⟨k, h', hk', hturns.id_eq, hturns.started hstarted⟩
  rcases hacts.enqueued with hsame | ⟨frame, hqueues, hmore⟩
  · exact ⟨hsame ▸ hold, hsame ▸ hs.opened.first, hs.opened.known⟩
  · refine ⟨fun id hmem ↦ ?_, fun frames id hpre ↦ ?_, hs.opened.known⟩
    · rw [hmore, List.mem_append, List.mem_singleton] at hmem
      rcases hmem with hmem | rfl
      · exact hold id hmem
      · cases hqueues with
        | announce k h hk hphase hk' => exact ⟨k, _, hk', rfl, rfl⟩
        | reply _ hreader => rcases (hs.sends .server).replies _ hreader with h | ⟨i, h⟩ <;> cases h
    · rw [hmore] at hpre
      rcases eq_or_of_concat_isPrefix hpre with ⟨rfl, rfl⟩ | hpre
      · cases hqueues with
        | announce k h hk hphase hk' =>
            have hphase' : h.phase.started = false := by rw [hphase]; rfl
            refine ⟨?_, hs.open_notMem hk hphase'⟩
            have hread := ((hs.sends .server).streams k h hk).read
            rw [((hs.sends .server).streams k h hk).unread hphase'] at hread
            exact (List.append_eq_nil_iff.mp hread).1
        | reply _ hreader => rcases (hs.sends .server).replies _ hreader with h | ⟨i, h⟩ <;> cases h
      · exact hs.opened.first frames id hpre

theorem opened_client (hs : Coherent s) (hacts : Acts .client s.client e x' bytes) :
    Opened s.server x' := by
  refine ⟨hs.opened.announced, hs.opened.first, fun id hid ↦ ?_⟩
  have hold : id ∈ s.client.ids → .open id ∈ x'.handled := fun hid ↦
    hacts.handled_isPrefix.subset (hs.opened.known id hid)
  rcases hacts.ids with ⟨hids, -⟩ | ⟨h, hadds, hids, -⟩
  · exact hold (hids ▸ hid)
  · rw [hids, List.mem_append, List.mem_singleton] at hid
    rcases hid with hid | rfl
    · exact hold hid
    · cases hadds with
      | accept hside => cases hside
      | «open» hside hread hhandled =>
          rw [hhandled]
          exact List.mem_append_right _ (List.mem_singleton.mpr rfl)

/-- A client reads the `Open` of a stream once. -/
theorem nodup_client (hs : Coherent s) (hacts : Acts .client s.client e x' bytes) :
    x'.ids.Nodup := by
  rcases hacts.ids with ⟨hids, -⟩ | ⟨h, hadds, hids, -⟩
  · rw [hids]
    exact hs.nodup .client
  · rw [hids]
    refine List.nodup_append.mpr ⟨hs.nodup .client, List.nodup_singleton _, ?_⟩
    rintro i hi _ hlast rfl
    obtain rfl := List.mem_singleton.mp hlast
    cases hadds with
    | accept hside => cases hside
    | «open» hside hread hhandled => exact (hs.next_open hread).2 (hs.opened.known _ hi)

/-- What holds of either end after a step does not depend on the side. -/
theorem update (hs : Coherent s) {side : Side} (hacts : Acts side (s.get side) e x' bytes)
    (hnodup : x'.ids.Nodup) (hreceives : Receives x')
    (hopened : Opened (s.update side x' bytes).server (s.update side x' bytes).client) :
    Coherent (s.update side x' bytes) where
  sends := State.forall_update hs.sends ((hs.sends side).acts hnodup hacts)
    fun _ _ _ h ↦ ⟨h.streams, h.strange, h.replies⟩
  receives := State.forall_update hs.receives hreceives
    fun _ _ _ h ↦ ⟨h.streams, h.table, h.reader⟩
  link side' := by
    have htraffic := (hs.sends side).traffic hacts
    rcases side.eq_or_eq_other side' with rfl | rfl
    · rw [State.get_update_self, State.get_update_other]
      exact (hs.link _).step_source htraffic
    · rw [State.get_update_other, Side.other_other, State.get_update_self]
      exact (hs.link_to side).step_target htraffic
  nodup := State.forall_update (P := fun _ x ↦ x.ids.Nodup) hs.nodup hnodup fun _ _ _ h ↦ h
  sided := State.forall_update hs.sided ((hs.sided side).acts hacts) fun _ _ _ h ↦ h
  opened := hopened

/-- Every step keeps the ends together as long as ids are not used twice. -/
theorem step (hs : Coherent s) {s' : State} {side : Side}
    (hs' : Streams.step s (side, e) = some s') (hnodup : s'.server.ids.Nodup) : Coherent s' := by
  obtain ⟨x', bytes, hacts, rfl⟩ := acts_of_step hs'
  cases side with
  | server =>
      have hopened := hs.opened_server hacts
      refine hs.update hacts hnodup ((hs.receives .server).acts ?_ ?_ hacts)
        ⟨hopened.announced, hopened.first, hopened.known⟩
      · intro k h _ hk hphase
        exact hs.fresh hk (by rw [hphase]; rfl)
      · exact fun _ _ hside ↦ (by cases hside)
  | client =>
      have hopened := hs.opened_client hacts
      refine hs.update hacts (hs.nodup_client hacts) ((hs.receives .client).acts ?_ ?_ hacts)
        ⟨hopened.announced, hopened.first, hopened.known⟩
      · intro k h _ hk hphase
        have hon := hs.sided .client k h hk
        rw [hphase] at hon
        cases hon
      · exact fun id rest _ hread ↦ (hs.next_open hread).1

end Coherent

/-- What holds throughout: ids are counted, and while the server has opened at most as
many streams as there are ids, the ends are together. -/
structure Sound (s : State) : Prop where
  numbered : Numbered s.server
  coherent : s.server.streams.length ≤ 2 ^ 32 → Coherent s

theorem Sound.new : Sound .new := ⟨Numbered.new, fun _ ↦ Coherent.new⟩

theorem Sound.step (s : State) (e : Side × Event) (s' : State) (hs : Sound s)
    (hs' : Streams.step s e = some s') : Sound s' := by
  obtain ⟨side, e⟩ := e
  obtain ⟨x', bytes, hacts, rfl⟩ := acts_of_step hs'
  have hnumbered : Numbered (s.update side x' bytes).server := by
    cases side with
    | server => exact hs.numbered.acts hacts
    | client => exact ⟨hs.numbered.ids, hs.numbered.next⟩
  refine ⟨hnumbered, fun hlen' ↦ ?_⟩
  have hlen : s.server.streams.length ≤ (s.update side x' bytes).server.streams.length := by
    cases side with
    | server =>
        rw [← End.length_ids, ← End.length_ids]
        exact hacts.ids_isPrefix.length_le
    | client => exact Nat.le_refl _
  exact (hs.coherent (hlen.trans hlen')).step hs' (hnumbered.nodup hlen')

theorem sound_of_run {es : List (Side × Event)} {s : State}
    (hrun : Machine.run step .new es = some s) : Sound s :=
  Machine.run_invariant Sound.step hrun Sound.new

/-! ## Delivery -/

/-- What an end has read from the socket of the stream with an id. -/
def End.readOf (x : End) (id : UInt32) : List UInt8 :=
  ((x.streams.find? (·.id = id)).map Stream.read).getD []

theorem Stream.written_prefix_accepted (h : Stream) : h.written <+: h.accepted :=
  List.prefix_append _ _

/-- All that an end has queued for a stream was read from its socket. -/
theorem Sends.dataFor_prefix_readOf {x : End} (hx : Sends x) (id : UInt32) :
    dataFor id x.enqueued <+: x.readOf id := by
  unfold End.readOf
  cases hfind : x.streams.find? (·.id = id) with
  | none =>
      rw [List.find?_eq_none] at hfind
      have hunknown : id ∉ x.ids := by
        intro hmem
        obtain ⟨h, hmem, hid⟩ := List.mem_map.mp hmem
        exact hfind h hmem (decide_eq_true hid)
      rw [hx.strange id hunknown]
      exact List.nil_prefix
  | some h =>
      obtain ⟨k, hk⟩ := List.mem_iff_getElem?.mp (List.mem_of_find?_eq_some hfind)
      have hid := List.find?_some hfind
      rw [decide_eq_true_iff] at hid
      subst hid
      exact ⟨h.hand, (hx.streams k h hk).read⟩

/-- In every run of a tunnel in which fewer streams are opened than there are ids,
whatever has been written to the socket of a stream, at either end, is a beginning of
what the other end has read from the socket of the same stream. -/
theorem written_prefix_readOf {es : List (Side × Event)} {s : State}
    (hrun : Machine.run step .new es = some s) (hopened : s.server.streams.length < 2 ^ 32)
    (side : Side) (h : Stream) (hmem : h ∈ (s.get side).streams) :
    h.written <+: (s.get side.other).readOf h.id := by
  have hs := (sound_of_run hrun).coherent hopened.le
  obtain ⟨k, hk⟩ := List.mem_iff_getElem?.mp hmem
  exact h.written_prefix_accepted.trans <|
    (((hs.receives side).streams k h hk).accepted).trans <|
    (dataFor_mono (hs.link_to side).handled_isPrefix h.id).trans <|
    (hs.sends side.other).dataFor_prefix_readOf h.id

/-- The steps by which the next user is connected to the service; `k` is the place of
the stream. -/
def opens (k : Nat) : List (Side × Event) :=
  [(.server, .accept), (.server, .insert k), (.server, .announce k), (.server, .writeFrame),
    (.client, .readFrame), (.client, .connect k true)]

/-- The steps by which bytes get from one socket of a stream to the other. -/
def carries (side : Side) (k : Nat) (bytes : List UInt8) : List (Side × Event) :=
  [(side, .peerSends k bytes), (side, .read k bytes.length), (side, .send k), (side, .writeFrame),
    (side.other, .readFrame), (side.other, .deliver), (side.other, .take k),
    (side.other, .write k bytes.length)]

/-- Two users exchange bytes with the service at the same time. -/
theorem written_prefix_readOf_two_streams :
    ∃ s, Machine.run step .new (opens 0 ++ opens 1 ++ carries .server 0 [1, 2] ++
        carries .client 1 [3] ++ carries .server 1 [4]) = some s ∧
      s.server.streams.map Stream.written = [[], [3]] ∧
      s.client.streams.map Stream.written = [[1, 2], [4]] ∧
      (∀ h ∈ s.server.streams, h.written <+: s.client.readOf h.id) ∧
      ∀ h ∈ s.client.streams, h.written <+: s.server.readOf h.id := by
  refine Machine.exists_run (fun s ↦
      (s.server.streams.map Stream.written, s.client.streams.map Stream.written))
    ([[], [3]], [[1, 2], [4]]) (by decide) fun s hs hwritten ↦ ?_
  obtain ⟨hserver, hclient⟩ := Prod.mk.inj hwritten
  have hlen : s.server.streams.length < 2 ^ 32 := by
    rw [← List.length_map Stream.written, hserver]
    decide
  exact ⟨hserver, hclient, written_prefix_readOf hs hlen .server,
    written_prefix_readOf hs hlen .client⟩

end Arp.EndToEnd.Streams
