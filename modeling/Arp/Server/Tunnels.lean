import Arp.Lib.Machine
import Arp.Lib.Table

/-!
# Cached tunnels

A UDP proxy and a multiplexed TCP proxy send everything through one work
connection: the first packet or user asks for a connection and makes a tunnel of
it, and the tunnel is kept for the next.  A tunnel has two tasks.  The reader exits
when the connection has ended or a frame cannot be read; the writer exits when a
write fails, or when nobody can send to it any more.

The two functions `get_or_create_udp_tunnel` and `get_or_create_mux_tunnel` differ
in how they test a tunnel before they return it: the first does not, the second
asks whether the writer has exited.  The machine below takes one step per stretch
between two waits and is shared by both.  Neither test sees a reader that has
exited; a tunnel that is returned has both its tasks as long as nobody comes for a
tunnel whose connection has ended or carried a frame that cannot be read.
-/

namespace Arp.Server.Tunnels

open Arp.Lib

/-- What has become of a tunnel: its work connection and its two tasks. -/
structure Tunnel where
  /-- The peer has closed the work connection, or it has failed. -/
  ended : Bool
  /-- A frame that cannot be read has come in. -/
  malformed : Bool
  readerExited : Bool
  writerExited : Bool
deriving DecidableEq, Repr

/-- `UdpTunnel::new` and `MuxTunnel::new`: both tasks are spawned. -/
def Tunnel.new : Tunnel := ⟨false, false, false, false⟩

/-- `MuxTunnel::is_alive`: the frame channel is closed when the writer has exited. -/
def Tunnel.isAlive (tunnel : Tunnel) : Bool := !tunnel.writerExited

/-- A call of `get_or_create_udp_tunnel` or `get_or_create_mux_tunnel`: the tunnel it
found, and whether it went on to request a work connection. -/
structure Lookup where
  found : Option Tunnel
  requested : Bool
deriving DecidableEq, Repr

/-- The tunnels of a proxy. -/
structure State where
  tunnels : List Tunnel
  /-- The tunnel that is kept. -/
  stored : Option Nat
  /-- A task holds the mutex and waits for a work connection. -/
  requesting : Bool
  /-- How many work connections have been requested. -/
  requests : Nat
  lookups : List Lookup
  /-- The tunnels that were returned, as they were then. -/
  returned : List Tunnel
deriving DecidableEq, Repr

namespace State

/-- A proxy that has just been created. -/
def new : State := ⟨[], none, false, 0, [], []⟩

/-- The tunnel that is kept. -/
def storedTunnel (s : State) : Option Tunnel := s.stored.bind (s.tunnels[·]?)

/-- Ask for a work connection, with the mutex held. -/
def request (s : State) (found : Option Tunnel) : State :=
  { s with
    stored := none
    requesting := true
    requests := s.requests + 1
    lookups := s.lookups ++ [⟨found, true⟩] }

/-- Get the tunnel that is kept if it passes the test, or ask for a connection to
create one. -/
def getOrCreate (test : Tunnel → Bool) (s : State) : State :=
  match s.storedTunnel with
  | some tunnel =>
    if test tunnel then
      { s with lookups := s.lookups ++ [⟨some tunnel, false⟩], returned := s.returned ++ [tunnel] }
    else s.request (some tunnel)
  | none => s.request none

/-- `get_or_create_udp_tunnel` up to the request. -/
def getOrCreateUdpTunnel (s : State) : State := s.getOrCreate fun _ ↦ true

/-- `get_or_create_mux_tunnel` up to the request. -/
def getOrCreateMuxTunnel (s : State) : State := s.getOrCreate Tunnel.isAlive

end State

/-- What can happen next. -/
inductive Event where
  /-- A packet or a user gets hold of the mutex. -/
  | lookup
  /-- The work connection that was asked for arrives. -/
  | connected
  /-- The request fails or times out. -/
  | requestFails
  /-- `Proxy::close` takes the tunnel. -/
  | close
  /-- The work connection of a tunnel ends. -/
  | ends (tunnel : Nat)
  /-- A frame that cannot be read comes in. -/
  | garbles (tunnel : Nat)
  | readerExits (tunnel : Nat)
  | writerExits (tunnel : Nat)
deriving DecidableEq, Repr

/-- One step, given what a lookup does. -/
def step (lookup : State → State) (s : State) : Event → Option State
  | .lookup => if s.requesting then none else some (lookup s)
  | .connected =>
    if s.requesting then
      some { s with
        tunnels := s.tunnels ++ [.new]
        stored := some s.tunnels.length
        requesting := false
        returned := s.returned ++ [.new] }
    else none
  | .requestFails => if s.requesting then some { s with requesting := false } else none
  | .close => if s.requesting then none else some { s with stored := none }
  | .ends i => some { s with tunnels := s.tunnels.modify i ({ · with ended := true }) }
  | .garbles i => some { s with tunnels := s.tunnels.modify i ({ · with malformed := true }) }
  | .readerExits i =>
    match s.tunnels[i]? with
    | some tunnel =>
      if tunnel.ended || tunnel.malformed then
        some { s with tunnels := s.tunnels.set i { tunnel with readerExited := true } }
      else none
    | none => none
  | .writerExits i =>
    match s.tunnels[i]? with
    | some tunnel =>
      -- A write fails on a connection that has ended.  Otherwise the channel has to have lost
      -- its senders, of which the reader and the tunnel that is kept have one each.
      if tunnel.ended || (tunnel.readerExited && s.stored != some i) then
        some { s with tunnels := s.tunnels.set i { tunnel with writerExited := true } }
      else none
    | none => none

/-- Nobody comes for a tunnel that passes the test while its connection has ended
or has carried a frame that cannot be read. -/
def FindsHealthy (test : Tunnel → Bool) (s : State) : Event → Prop
  | .lookup => ∀ tunnel ∈ s.storedTunnel, test tunnel = true →
      tunnel.ended = false ∧ tunnel.malformed = false
  | _ => True

instance (test : Tunnel → Bool) (s : State) (e : Event) : Decidable (FindsHealthy test s e) := by
  cases e <;> unfold FindsHealthy <;> infer_instance

/-! ## What lookups return -/

/-- A task exits only on a connection that has ended or carried garbage. -/
def Tunnel.Explained (tunnel : Tunnel) : Prop :=
  tunnel.readerExited = true ∨ tunnel.writerExited = true →
    tunnel.ended = true ∨ tunnel.malformed = true

/-- The connection has neither ended nor carried garbage, and both tasks run. -/
structure Tunnel.Healthy (tunnel : Tunnel) : Prop where
  ended : tunnel.ended = false
  malformed : tunnel.malformed = false
  readerExited : tunnel.readerExited = false
  writerExited : tunnel.writerExited = false

theorem Tunnel.Healthy.new : Tunnel.new.Healthy := ⟨rfl, rfl, rfl, rfl⟩

/-- If no exit could have a reason, there was none. -/
theorem Tunnel.Explained.healthy {tunnel : Tunnel} (h : tunnel.Explained)
    (hended : tunnel.ended = false) (hmalformed : tunnel.malformed = false) : tunnel.Healthy := by
  have hnone : ¬(tunnel.readerExited = true ∨ tunnel.writerExited = true) := by
    intro hexit
    rcases h hexit with he | he
    · rw [hended] at he
      cases he
    · rw [hmalformed] at he
      cases he
  rw [not_or, Bool.not_eq_true, Bool.not_eq_true] at hnone
  exact ⟨hended, hmalformed, hnone.1, hnone.2⟩

/-- Every exit has its reason, and every tunnel that was found and returned, or just
created, was healthy. -/
structure Sane (s : State) : Prop where
  explained : ∀ tunnel ∈ s.tunnels, tunnel.Explained
  returned : ∀ tunnel ∈ s.returned, tunnel.Healthy
  lookups : ∀ l ∈ s.lookups, ∀ tunnel, l.found = some tunnel → l.requested = false → tunnel.Healthy

namespace Sane

variable {s : State}

theorem new : Sane .new := ⟨by simp [State.new], by simp [State.new], by simp [State.new]⟩

theorem mem_of_stored {tunnel : Tunnel} (h : s.storedTunnel = some tunnel) :
    tunnel ∈ s.tunnels := by
  obtain ⟨i, -, hi⟩ := Option.bind_eq_some_iff.mp h
  exact List.mem_of_getElem? hi

theorem request (h : Sane s) (found : Option Tunnel) : Sane (s.request found) := by
  refine ⟨h.explained, h.returned, fun l hl tunnel hfound hrequested ↦ ?_⟩
  rcases List.mem_append.mp hl with hold | hnew
  · exact h.lookups l hold tunnel hfound hrequested
  · rw [List.mem_singleton.mp hnew] at hrequested
    cases hrequested

theorem getOrCreate {test : Tunnel → Bool} (h : Sane s) (hhealthy : FindsHealthy test s .lookup) :
    Sane (s.getOrCreate test) := by
  unfold State.getOrCreate
  split
  · next tunnel htunnel =>
      split
      · next htest =>
          obtain ⟨hended, hmalformed⟩ := hhealthy tunnel htunnel htest
          have hok := (h.explained tunnel (mem_of_stored htunnel)).healthy hended hmalformed
          refine ⟨h.explained, fun t ht ↦ ?_, fun l hl t hfound hrequested ↦ ?_⟩
          · rcases List.mem_append.mp ht with hold | hnew
            · exact h.returned t hold
            · exact List.mem_singleton.mp hnew ▸ hok
          · rcases List.mem_append.mp hl with hold | hnew
            · exact h.lookups l hold t hfound hrequested
            · rw [List.mem_singleton.mp hnew] at hfound
              exact Option.some.inj hfound ▸ hok
      · exact h.request _
  · exact h.request none

/-- Changing tunnels one by one keeps every exit explained. -/
theorem of_tunnels (h : Sane s) {tunnels : List Tunnel}
    (hall : ∀ tunnel ∈ tunnels, tunnel.Explained) : Sane { s with tunnels := tunnels } :=
  ⟨hall, h.returned, h.lookups⟩

theorem modify (h : Sane s) (i : Nat) {f : Tunnel → Tunnel}
    (hf : ∀ tunnel, tunnel.Explained → (f tunnel).Explained) :
    Sane { s with tunnels := s.tunnels.modify i f } :=
  h.of_tunnels (forall_mem_modify h.explained hf i)

theorem set (h : Sane s) (i : Nat) {tunnel : Tunnel} (htunnel : tunnel.Explained) :
    Sane { s with tunnels := s.tunnels.set i tunnel } := by
  refine h.of_tunnels fun t ht ↦ ?_
  rcases List.mem_or_eq_of_mem_set ht with hold | rfl
  · exact h.explained t hold
  · exact htunnel

theorem connected (h : Sane s) : Sane { s with
    tunnels := s.tunnels ++ [.new]
    stored := some s.tunnels.length
    requesting := false
    returned := s.returned ++ [.new] } := by
  refine ⟨fun t ht ↦ ?_, fun t ht ↦ ?_, h.lookups⟩
  · rcases List.mem_append.mp ht with hold | hnew
    · exact h.explained t hold
    · rw [List.mem_singleton.mp hnew]
      simp [Tunnel.Explained, Tunnel.new]
  · rcases List.mem_append.mp ht with hold | hnew
    · exact h.returned t hold
    · exact List.mem_singleton.mp hnew ▸ .new

/-- The steps that are no lookup. -/
theorem step_other {lookup : State → State} {s' : State} {e : Event} (h : Sane s)
    (he : e ≠ .lookup) (hs' : step lookup s e = some s') : Sane s' := by
  cases e with
  | lookup => exact absurd rfl he
  | connected =>
      simp only [step] at hs'
      split at hs'
      · obtain rfl := Option.some.inj hs'
        exact h.connected
      · cases hs'
  | requestFails =>
      simp only [step] at hs'
      split at hs'
      · obtain rfl := Option.some.inj hs'
        exact ⟨h.explained, h.returned, h.lookups⟩
      · cases hs'
  | close =>
      simp only [step] at hs'
      split at hs'
      · cases hs'
      · obtain rfl := Option.some.inj hs'
        exact ⟨h.explained, h.returned, h.lookups⟩
  | ends i =>
      obtain rfl := Option.some.inj hs'
      exact h.modify i fun _ _ _ ↦ .inl rfl
  | garbles i =>
      obtain rfl := Option.some.inj hs'
      exact h.modify i fun _ _ _ ↦ .inr rfl
  | readerExits i =>
      simp only [step] at hs'
      split at hs'
      · next tunnel _ =>
          split at hs'
          · next hreason =>
              obtain rfl := Option.some.inj hs'
              exact h.set i fun _ ↦ by simpa using hreason
          · cases hs'
      · cases hs'
  | writerExits i =>
      simp only [step] at hs'
      split at hs'
      · next tunnel htunnel =>
          split at hs'
          · next hreason =>
              obtain rfl := Option.some.inj hs'
              refine h.set i fun _ ↦ ?_
              rw [Bool.or_eq_true, Bool.and_eq_true] at hreason
              rcases hreason with hended | ⟨hreader, -⟩
              · exact .inl hended
              · exact h.explained tunnel (List.mem_of_getElem? htunnel) (.inl hreader)
          · cases hs'
      · cases hs'

/-- Every step at which nobody comes for a tunnel that is not healthy. -/
theorem step (test : Tunnel → Bool) (s : State) (e : Event) (s' : State) (h : Sane s)
    (hhealthy : FindsHealthy test s e) (hs' : Tunnels.step (State.getOrCreate test) s e = some s') :
    Sane s' := by
  by_cases he : e = .lookup
  · subst he
    simp only [Tunnels.step] at hs'
    split at hs'
    · cases hs'
    · obtain rfl := Option.some.inj hs'
      exact h.getOrCreate hhealthy
  · exact h.step_other he hs'

end Sane

/-! ## UDP proxies -/

/-- What users of a UDP proxy rely on: no tunnel is returned that has lost a task,
and once the connection of the tunnel that is kept has ended, the next packet asks
for a new one. -/
structure UdpReliable (s : State) : Prop where
  returned : ∀ tunnel ∈ s.returned, tunnel.readerExited = false ∧ tunnel.writerExited = false
  renewed : ∀ l ∈ s.lookups, ∀ tunnel, l.found = some tunnel → tunnel.ended = true →
    l.requested = true

/-- In every run in which no packet comes while the tunnel that is kept has lost
its connection or carried garbage, the UDP tunnels are reliable. -/
theorem udpReliable_of_findsHealthy {events : List Event} {s : State}
    (hhealthy : Machine.Along (step State.getOrCreateUdpTunnel) (FindsHealthy fun _ ↦ true) .new
      events)
    (hrun : Machine.run (step State.getOrCreateUdpTunnel) .new events = some s) :
    UdpReliable s := by
  have hsane := Machine.along_invariant (Sane.step fun _ ↦ true) hhealthy hrun .new
  refine ⟨fun tunnel htunnel ↦ ?_, fun l hl tunnel hfound hended ↦ ?_⟩
  · have hreturned := hsane.returned tunnel htunnel
    exact ⟨hreturned.readerExited, hreturned.writerExited⟩
  · cases hrequested : l.requested with
    | true => rfl
    | false =>
        rw [(hsane.lookups l hl tunnel hfound hrequested).ended] at hended
        cases hended

/-- Two packets use one tunnel; after the proxy was closed its connection ends, and
a late packet makes another. -/
theorem udpReliable_two_packets :
    ∃ s, Machine.run (step State.getOrCreateUdpTunnel) .new [.lookup, .connected, .lookup, .close,
        .ends 0, .readerExits 0, .writerExits 0, .lookup, .connected, .lookup] = some s ∧
      s.requests = 2 ∧ s.returned.length = 4 ∧ UdpReliable s := by
  refine ⟨_, rfl, rfl, rfl, ?_⟩
  have hhealthy : Machine.Along (step State.getOrCreateUdpTunnel) (FindsHealthy fun _ ↦ true) .new
      [.lookup, .connected, .lookup, .close, .ends 0, .readerExits 0, .writerExits 0, .lookup,
        .connected, .lookup] := by decide
  exact udpReliable_of_findsHealthy hhealthy rfl

/-- The UDP tunnel that is kept stays, whatever becomes of it. -/
structure Kept (i requests : Nat) (s : State) : Prop where
  stored : s.stored = some i
  exists_tunnel : i < s.tunnels.length
  requesting : s.requesting = false
  requests : s.requests = requests

theorem Kept.step {i requests : Nat} (s : State) (e : Event) (s' : State) (h : Kept i requests s)
    (he : e ≠ .close) (hs' : Tunnels.step State.getOrCreateUdpTunnel s e = some s') :
    Kept i requests s' := by
  obtain ⟨hstored, hlt, hrequesting, hrequests⟩ := h
  cases e with
  | lookup =>
      have hfound : s.storedTunnel = some s.tunnels[i] := by
        rw [State.storedTunnel, hstored]
        exact List.getElem?_eq_getElem hlt
      simp only [Tunnels.step, hrequesting, State.getOrCreateUdpTunnel, State.getOrCreate, hfound,
        if_true] at hs'
      obtain rfl := Option.some.inj hs'
      exact ⟨hstored, hlt, rfl, hrequests⟩
  | connected => simp [Tunnels.step, hrequesting] at hs'
  | requestFails => simp [Tunnels.step, hrequesting] at hs'
  | close => exact absurd rfl he
  | ends j =>
      obtain rfl := Option.some.inj hs'
      exact ⟨hstored, by simpa using hlt, hrequesting, hrequests⟩
  | garbles j =>
      obtain rfl := Option.some.inj hs'
      exact ⟨hstored, by simpa using hlt, hrequesting, hrequests⟩
  | _ =>
      simp only [Tunnels.step] at hs'
      split at hs'
      · split at hs'
        · obtain rfl := Option.some.inj hs'
          exact ⟨hstored, by simpa using hlt, hrequesting, hrequests⟩
        · cases hs'
      · cases hs'

/-- The work connection ends and the reader exits; the next packet gets the dead
tunnel.  So do all packets after it: until the proxy is closed no work connection is
requested any more. -/
theorem dead_udp_tunnel_kept :
    ∃ s, Machine.run (step State.getOrCreateUdpTunnel) .new
        [.lookup, .connected, .ends 0, .readerExits 0, .lookup] = some s ∧
      s.returned = [.new, ⟨true, false, true, false⟩] ∧
      s.lookups = [⟨none, true⟩, ⟨some ⟨true, false, true, false⟩, false⟩] ∧ ¬UdpReliable s ∧
      ∀ events s', .close ∉ events →
        Machine.run (step State.getOrCreateUdpTunnel) s events = some s' → s'.requests = 1 := by
  have hrun : Machine.run (step State.getOrCreateUdpTunnel) .new
      [.lookup, .connected, .ends 0, .readerExits 0, .lookup] =
      some ⟨[⟨true, false, true, false⟩], some 0, false, 1,
        [⟨none, true⟩, ⟨some ⟨true, false, true, false⟩, false⟩],
        [.new, ⟨true, false, true, false⟩]⟩ := by decide
  refine ⟨_, hrun, rfl, rfl, fun h ↦ ?_, fun events s' hclose hrun' ↦ ?_⟩
  · have hreader := (h.returned ⟨true, false, true, false⟩ (by decide)).1
    cases hreader
  · have hopen : ∀ e ∈ events, e ≠ .close := by
      rintro e he rfl
      exact hclose he
    exact (Machine.along_invariant Kept.step (Machine.along_of_forall hopen) hrun'
      ⟨rfl, Nat.zero_lt_one, rfl, rfl⟩).requests

/-! ## Multiplexed TCP proxies -/

/-- What users of a multiplexed TCP proxy rely on: no tunnel is returned whose
reader has exited, so that a stream opened on it can still receive. -/
def MuxReliable (s : State) : Prop := ∀ tunnel ∈ s.returned, tunnel.readerExited = false

/-- In every run in which no user comes while the tunnel that is kept still has its
writer but has lost its connection or carried garbage, the tunnels are reliable. -/
theorem muxReliable_of_findsHealthy {events : List Event} {s : State}
    (hhealthy : Machine.Along (step State.getOrCreateMuxTunnel) (FindsHealthy Tunnel.isAlive) .new
      events)
    (hrun : Machine.run (step State.getOrCreateMuxTunnel) .new events = some s) :
    MuxReliable s := by
  intro tunnel htunnel
  have hsane := Machine.along_invariant (Sane.step Tunnel.isAlive) hhealthy hrun .new
  exact (hsane.returned tunnel htunnel).readerExited

/-- The connection ends, both tasks exit, and the next user gets a new tunnel. -/
theorem muxReliable_reconnect :
    ∃ s, Machine.run (step State.getOrCreateMuxTunnel) .new [.lookup, .connected, .lookup, .ends 0,
        .readerExits 0, .writerExits 0, .lookup, .connected, .lookup] = some s ∧
      s.requests = 2 ∧ s.returned = [.new, .new, .new, .new] ∧ MuxReliable s := by
  refine ⟨_, rfl, rfl, rfl, ?_⟩
  have hhealthy : Machine.Along (step State.getOrCreateMuxTunnel) (FindsHealthy Tunnel.isAlive) .new
      [.lookup, .connected, .lookup, .ends 0, .readerExits 0, .writerExits 0, .lookup, .connected,
        .lookup] := by decide
  exact muxReliable_of_findsHealthy hhealthy rfl

/-- The peer closes the work connection and the reader exits, but the writer has
not written since: the next user gets the tunnel without a reader. -/
theorem mux_tunnel_without_reader :
    ∃ s, Machine.run (step State.getOrCreateMuxTunnel) .new
        [.lookup, .connected, .ends 0, .readerExits 0, .lookup] = some s ∧
      s.returned = [.new, ⟨true, false, true, false⟩] ∧ ¬MuxReliable s := by
  have hrun : Machine.run (step State.getOrCreateMuxTunnel) .new
      [.lookup, .connected, .ends 0, .readerExits 0, .lookup] =
      some ⟨[⟨true, false, true, false⟩], some 0, false, 1,
        [⟨none, true⟩, ⟨some ⟨true, false, true, false⟩, false⟩],
        [.new, ⟨true, false, true, false⟩]⟩ := by decide
  refine ⟨_, hrun, rfl, fun h ↦ ?_⟩
  have hreader := h ⟨true, false, true, false⟩ (by decide)
  cases hreader

end Arp.Server.Tunnels
