import Arp.Lib.Ownership
import Arp.Lib.Table
import Arp.Server.Listener
import Arp.Server.Resource

/-!
# Ports under interleaving

Registrations run side by side and share the set of ports in use.  Each tests whether a
port is in the set, inserts it, binds a socket, and takes the port out again if the bind
fails; closing takes it out as well.  All of these are steps of their own, and the set
does not say who has put a port in.

The operating system refuses a second bind on a bound port; TCP and UDP have ports of
their own.  A socket lives as long as `Listener` says.

The main result says under which order of steps the set covers every bound socket and
nobody gives a port back that another one holds: then the set is the disjoint union of
what the registrations claim, which is `Owned`.
-/

namespace Arp.Server.Ports

open Arp.Common Arp.Lib Arp.Lib.Machine
open Listener (Kind)

/-- Where a registration is, from `allocate_tcp_port` or `allocate_random_tcp_port` on. -/
inductive Pc where
  /-- About to test a requested port. -/
  | testing (port : UInt16)
  /-- About to draw a port from the cursor, with the attempts left. -/
  | drawing (attempts : Nat)
  /-- The cursor ran over the end and is about to be reset. -/
  | resetting (attempts : Nat)
  /-- About to test the port that was drawn. -/
  | probing (attempts : Nat) (port : UInt16)
  /-- The port was not in the set and is about to be inserted. -/
  | inserting (port : UInt16)
  | binding (port : UInt16)
  /-- The bind was refused, and the port is about to be released. -/
  | givingBack (port : UInt16) (refusal : String)
  | failed (e : Error)
  /-- Listening, on the port that was bound. -/
  | listening (remotePort bound : UInt16) (listener : Listener)
deriving DecidableEq

/-- The port that is about to be tested. -/
def Pc.tests : Pc → Option UInt16
  | testing port | probing _ port => some port
  | _ => none

/-- A registration of a listener, and the listener that comes of it. -/
structure Owner where
  kind : Kind
  pc : Pc
deriving DecidableEq

/-- The port a socket of this owner is bound to. -/
def Owner.holds (o : Owner) : Option UInt16 :=
  match o.pc with
  | .listening _ bound l => if l.socket then some bound else none
  | _ => none

/-- How many times the listener of this owner has been closed. -/
def Owner.closeCalls (o : Owner) : Nat :=
  match o.pc with
  | .listening _ _ l => l.closes.length
  | _ => 0

/-- The controller, and all registrations so far. -/
structure State where
  resources : ResourceController
  owners : List Owner

/-- A server that has just started. -/
def start (allowPorts : List PortRange) : State := ⟨.new allowPorts, []⟩

/-- What can happen next; the numbers are those of the registrations. -/
inductive Event where
  | register (kind : Kind) (remotePort : UInt16)
  /-- The next step of `allocate_tcp_port`, `allocate_random_tcp_port` or
  `release_tcp_port`. -/
  | advance (i : Nat)
  /-- The bind returns, with the port it has bound. -/
  | bind (i : Nat) (result : Except String UInt16)
  /-- A step of the listener's task or of closing it. -/
  | listener (i : Nat) (e : Listener.Event)

/-- The operating system lets a socket be bound: no socket of the same family has the
port.  Port 0 asks for any port. -/
def Bindable (s : State) (kind : Kind) (port bound : UInt16) : Prop :=
  bound ≠ 0 ∧ (port ≠ 0 → bound = port) ∧
    ∀ o ∈ s.owners, (o.kind = .udp ↔ kind = .udp) → o.holds ≠ some bound

instance instDecidableBindable (s : State) (kind : Kind) (port bound : UInt16) :
    Decidable (Bindable s kind port bound) :=
  inferInstanceAs (Decidable (_ ∧ _ ∧ _))

/-- One step of the controller's functions. -/
def advance (rc : ResourceController) : Pc → Option (ResourceController × Pc)
  | .testing port =>
    if !rc.isPortAllowed port then
      some (rc, .failed (.proxy ("Port " ++ toString port ++ " is not in allowed range")))
    else if port ∈ rc.tcpPorts then
      some (rc, .failed (.proxy ("Port " ++ toString port ++ " is already allocated")))
    else some (rc, .inserting port)
  | .drawing 0 => some (rc, .failed (.proxy "Failed to allocate random port after 1000 attempts"))
  | .drawing (attempts + 1) =>
    let port := rc.nextDynamicPort
    some ({ rc with nextDynamicPort := port + 1 },
      if port ≥ 65535 then .resetting attempts else .probing attempts port)
  | .resetting attempts => some ({ rc with nextDynamicPort := 10000 }, .drawing attempts)
  | .probing attempts port =>
    if rc.isPortAllowed port && port ∉ rc.tcpPorts then some (rc, .inserting port)
    else some (rc, .drawing attempts)
  | .inserting port => some ({ rc with tcpPorts := insert port rc.tcpPorts }, .binding port)
  | .givingBack port refusal => some (rc.releaseTcpPort port, .failed (.io refusal))
  | .binding _ | .failed _ | .listening _ _ _ => none

/-- The start of a registration. -/
def Pc.start (remotePort : UInt16) : Pc :=
  if remotePort > 0 then .testing remotePort else .drawing 1000

/-- One step. -/
def step (s : State) : Event → Option State
  | .register kind remotePort =>
    -- A group is refused without a fixed port.
    if kind = .group ∧ remotePort = 0 then none
    else some { s with owners := s.owners ++ [⟨kind, .start remotePort⟩] }
  | .advance i =>
    s.owners[i]?.bind fun o ↦
      (advance s.resources o.pc).map fun (rc, pc) ↦ ⟨rc, s.owners.set i ⟨o.kind, pc⟩⟩
  | .bind i result =>
    match s.owners[i]? with
    | some ⟨kind, .binding port⟩ =>
      match result with
      | .error refusal => some { s with owners := s.owners.set i ⟨kind, .givingBack port refusal⟩ }
      | .ok bound =>
        if Bindable s kind port bound then
          some { s with owners := s.owners.set i ⟨kind, .listening port bound (.new kind)⟩ }
        else none
    | _ => none
  | .listener i e =>
    match s.owners[i]? with
    | some ⟨kind, .listening port bound l⟩ =>
      (l.step e).map fun l' ↦
        { resources := match e with
            | .release _ => s.resources.releaseTcpPort port
            | _ => s.resources
          owners := s.owners.set i ⟨kind, .listening port bound l'⟩ }
    | _ => none

/-! ## What a step does -/

/-- The registration is still looking for a port, or has failed. -/
def Pc.searches : Pc → Bool
  | testing _ | drawing _ | resetting _ | probing _ _ | failed _ => true
  | inserting _ | binding _ | givingBack _ _ | listening _ _ _ => false

theorem Pc.searches_start (remotePort : UInt16) : (Pc.start remotePort).searches = true := by
  unfold Pc.start
  split <;> rfl

/-- Everything a step can do. -/
inductive Steps (s : State) : Event → State → Prop
  | register (kind : Kind) (remotePort : UInt16) :
      Steps s (.register kind remotePort)
        { s with owners := s.owners ++ [⟨kind, .start remotePort⟩] }
  | search {i : Nat} {kind : Kind} {pc pc' : Pc} {rc : ResourceController}
      (howner : s.owners[i]? = some ⟨kind, pc⟩) (hpc : pc.searches = true)
      (hpc' : pc'.searches = true) (hports : rc.tcpPorts = s.resources.tcpPorts) :
      Steps s (.advance i) ⟨rc, s.owners.set i ⟨kind, pc'⟩⟩
  | pass {i : Nat} {kind : Kind} {pc : Pc} {port : UInt16}
      (howner : s.owners[i]? = some ⟨kind, pc⟩) (htests : pc.tests = some port)
      (hfree : port ∉ s.resources.tcpPorts) :
      Steps s (.advance i) { s with owners := s.owners.set i ⟨kind, .inserting port⟩ }
  | insert {i : Nat} {kind : Kind} {port : UInt16}
      (howner : s.owners[i]? = some ⟨kind, .inserting port⟩) :
      Steps s (.advance i)
        ⟨{ s.resources with tcpPorts := insert port s.resources.tcpPorts },
          s.owners.set i ⟨kind, .binding port⟩⟩
  | giveBack {i : Nat} {kind : Kind} {port : UInt16} {refusal : String}
      (howner : s.owners[i]? = some ⟨kind, .givingBack port refusal⟩) :
      Steps s (.advance i)
        ⟨s.resources.releaseTcpPort port, s.owners.set i ⟨kind, .failed (.io refusal)⟩⟩
  | refused {i : Nat} {kind : Kind} {port : UInt16} (refusal : String)
      (howner : s.owners[i]? = some ⟨kind, .binding port⟩) :
      Steps s (.bind i (.error refusal))
        { s with owners := s.owners.set i ⟨kind, .givingBack port refusal⟩ }
  | bound {i : Nat} {kind : Kind} {port bound : UInt16}
      (howner : s.owners[i]? = some ⟨kind, .binding port⟩) (hfree : Bindable s kind port bound) :
      Steps s (.bind i (.ok bound))
        { s with owners := s.owners.set i ⟨kind, .listening port bound (.new kind)⟩ }
  | release {i : Nat} {kind : Kind} {port bound : UInt16} {l l' : Listener} {call : Nat}
      (howner : s.owners[i]? = some ⟨kind, .listening port bound l⟩)
      (hl : l.step (.release call) = some l') :
      Steps s (.listener i (.release call))
        ⟨s.resources.releaseTcpPort port, s.owners.set i ⟨kind, .listening port bound l'⟩⟩
  | listener {i : Nat} {kind : Kind} {port bound : UInt16} {l l' : Listener} {e : Listener.Event}
      (howner : s.owners[i]? = some ⟨kind, .listening port bound l⟩) (hl : l.step e = some l')
      (he : ∀ call, e ≠ .release call) :
      Steps s (.listener i e) { s with owners := s.owners.set i ⟨kind, .listening port bound l'⟩ }

theorem steps_of_advance {s : State} {i : Nat} {kind : Kind} {pc pc' : Pc}
    {rc : ResourceController} (howner : s.owners[i]? = some ⟨kind, pc⟩)
    (h : advance s.resources pc = some (rc, pc')) :
    Steps s (.advance i) ⟨rc, s.owners.set i ⟨kind, pc'⟩⟩ := by
  cases pc with
  | testing port =>
      simp only [advance] at h
      split at h
      · obtain ⟨rfl, rfl⟩ := Prod.mk.inj (Option.some.inj h)
        exact .search howner rfl rfl rfl
      · split at h
        · obtain ⟨rfl, rfl⟩ := Prod.mk.inj (Option.some.inj h)
          exact .search howner rfl rfl rfl
        · next hfree =>
            obtain ⟨rfl, rfl⟩ := Prod.mk.inj (Option.some.inj h)
            exact .pass howner rfl hfree
  | drawing attempts =>
      cases attempts with
      | zero =>
          obtain ⟨rfl, rfl⟩ := Prod.mk.inj (Option.some.inj h)
          exact .search howner rfl rfl rfl
      | succ attempts =>
          obtain ⟨rfl, rfl⟩ := Prod.mk.inj (Option.some.inj h)
          refine .search howner rfl ?_ rfl
          split <;> rfl
  | resetting attempts =>
      obtain ⟨rfl, rfl⟩ := Prod.mk.inj (Option.some.inj h)
      exact .search howner rfl rfl rfl
  | probing attempts port =>
      simp only [advance] at h
      split at h
      · next hfree =>
          obtain ⟨rfl, rfl⟩ := Prod.mk.inj (Option.some.inj h)
          refine .pass howner rfl ?_
          simpa using (Bool.and_eq_true_iff.mp hfree).2
      · obtain ⟨rfl, rfl⟩ := Prod.mk.inj (Option.some.inj h)
        exact .search howner rfl rfl rfl
  | inserting port =>
      obtain ⟨rfl, rfl⟩ := Prod.mk.inj (Option.some.inj h)
      exact .insert howner
  | givingBack port refusal =>
      obtain ⟨rfl, rfl⟩ := Prod.mk.inj (Option.some.inj h)
      exact .giveBack howner
  | binding port => cases h
  | failed e => cases h
  | listening port bound l => cases h

theorem steps_of_step {s t : State} {e : Event} (h : step s e = some t) : Steps s e t := by
  cases e with
  | register kind remotePort =>
      simp only [step] at h
      split at h
      · cases h
      · obtain rfl := Option.some.inj h
        exact .register kind remotePort
  | advance i =>
      obtain ⟨⟨kind, pc⟩, howner, hmap⟩ := Option.bind_eq_some_iff.mp h
      obtain ⟨⟨rc, pc'⟩, hadvance, rfl⟩ := Option.map_eq_some_iff.mp hmap
      exact steps_of_advance howner hadvance
  | bind i result =>
      simp only [step] at h
      split at h
      · next kind port howner =>
          split at h
          · next refusal =>
              obtain rfl := Option.some.inj h
              exact .refused refusal howner
          · split at h
            · next hfree =>
                obtain rfl := Option.some.inj h
                exact .bound howner hfree
            · cases h
      · cases h
  | listener i e =>
      simp only [step] at h
      split at h
      · next kind port bound l howner =>
          obtain ⟨l', hl, rfl⟩ := Option.map_eq_some_iff.mp h
          cases e with
          | release call => exact .release howner hl
          | _ => exact .listener howner hl (by simp)
      · cases h

/-! ## A registration that is left alone

Without interleaving, the steps of an allocation come to what the functions of
`ResourceController` compute in one go. -/

/-- Where the allocation of a port ends. -/
def allocated : Result UInt16 → Pc
  | .ok port => .binding port
  | .error e => .failed e

section Alone

variable {i : Nat} {kind : Kind}

/-- The state in which one registration has come to a place. -/
def State.at (s : State) (i : Nat) (kind : Kind) (rc : ResourceController) (pc : Pc) : State :=
  ⟨rc, s.owners.set i ⟨kind, pc⟩⟩

theorem step_advance_at {s : State} (hi : i < s.owners.length) {rc rc' : ResourceController}
    {pc pc' : Pc} (h : advance rc pc = some (rc', pc')) :
    step (s.at i kind rc pc) (.advance i) = some (s.at i kind rc' pc') := by
  simp [step, State.at, hi, h]

/-- One step, and the rest. -/
theorem run_advance_at {s t : State} (hi : i < s.owners.length) {rc rc' : ResourceController}
    {pc pc' : Pc} (h : advance rc pc = some (rc', pc'))
    (hrest : ∃ n, run step (s.at i kind rc' pc') (.replicate n (.advance i)) = some t) :
    ∃ n, run step (s.at i kind rc pc) (.replicate n (.advance i)) = some t := by
  obtain ⟨n, hn⟩ := hrest
  refine ⟨n + 1, ?_⟩
  rw [List.replicate_succ, run_cons, step_advance_at hi h]
  exact hn

/-- Drawing ports until one is free. -/
theorem run_drawing {s : State} (hi : i < s.owners.length) (attempts : Nat)
    (rc : ResourceController) :
    ∃ n, run step (s.at i kind rc (.drawing attempts)) (.replicate n (.advance i)) =
      some (s.at i kind (rc.randomLoop attempts).2 (allocated (rc.randomLoop attempts).1)) := by
  induction attempts generalizing rc with
  | zero => exact run_advance_at hi rfl ⟨0, rfl⟩
  | succ attempts ih =>
      refine run_advance_at hi rfl ?_
      rw [ResourceController.randomLoop]
      dsimp only
      split
      · -- The cursor is reset.
        exact run_advance_at hi rfl (ih _)
      · split
        · next hfree =>
            have hpass : advance { rc with nextDynamicPort := rc.nextDynamicPort + 1 }
                (.probing attempts rc.nextDynamicPort) = _ := if_pos hfree
            exact run_advance_at hi hpass (run_advance_at hi rfl ⟨0, rfl⟩)
        · next htaken =>
            have hnext : advance { rc with nextDynamicPort := rc.nextDynamicPort + 1 }
                (.probing attempts rc.nextDynamicPort) = _ := if_neg htaken
            exact run_advance_at hi hnext (ih _)

/-- Allocating the port that was asked for, or any. -/
theorem run_allocate {s : State} (hi : i < s.owners.length) (rc : ResourceController)
    (remotePort : UInt16) :
    ∃ n, run step (s.at i kind rc (.start remotePort)) (.replicate n (.advance i)) =
      let result := if remotePort > 0 then rc.allocateTcpPort remotePort
        else rc.allocateRandomTcpPort
      some (s.at i kind result.2 (allocated result.1)) := by
  unfold Pc.start
  split
  · unfold ResourceController.allocateTcpPort
    split
    · next hrange =>
        have hfail : advance rc (.testing remotePort) = _ := if_pos hrange
        exact run_advance_at hi hfail ⟨0, rfl⟩
    · next hrange =>
        split
        · next htaken =>
            have hfail : advance rc (.testing remotePort) = _ :=
              (if_neg hrange).trans (if_pos htaken)
            exact run_advance_at hi hfail ⟨0, rfl⟩
        · next hfree =>
            have hpass : advance rc (.testing remotePort) = _ :=
              (if_neg hrange).trans (if_neg hfree)
            exact run_advance_at hi hpass (run_advance_at hi rfl ⟨0, rfl⟩)
  · exact run_drawing hi 1000 rc

end Alone

/-! ## Who has which port -/

/-- The port an owner has put into the set and not taken out again. -/
def Owner.claims (o : Owner) : Option UInt16 :=
  match o.pc with
  | .binding port | .givingBack port _ => some port
  | .listening port _ l => if .returned ∈ l.closes then none else some port
  | .testing _ | .drawing _ | .resetting _ | .probing _ _ | .inserting _ | .failed _ => none

/-- What each owner claims. -/
def State.claim (s : State) (i : Nat) : Option UInt16 := s.owners[i]?.bind Owner.claims

/-- An owner is about to insert a port. -/
def State.Inserts (s : State) (i : Nat) (port : UInt16) : Prop :=
  ∃ kind, s.owners[i]? = some ⟨kind, .inserting port⟩

theorem claims_of_searches {kind : Kind} {pc : Pc} (h : pc.searches = true) :
    (Owner.mk kind pc).claims = none := by
  cases pc <;> first | rfl | cases h

section Set

variable {s : State} {i : Nat} {o o' : Owner} (howner : s.owners[i]? = some o)

include howner

theorem claim_eq : s.claim i = o.claims := by
  rw [State.claim, howner, Option.bind_some]

theorem getElem?_owners_set (j : Nat) :
    (s.owners.set i o')[j]? = if j = i then some o' else s.owners[j]? := by
  have hlt := (List.getElem?_eq_some_iff.mp howner).1
  split
  · next h => rw [h, List.getElem?_set_self hlt]
  · next h => rw [List.getElem?_set_ne fun h' ↦ h h'.symm]

theorem claim_set (rc : ResourceController) :
    (State.mk rc (s.owners.set i o')).claim = Function.update s.claim i o'.claims := by
  funext j
  rw [State.claim, getElem?_owners_set howner, Function.update_apply]
  split <;> rfl

/-- An owner moves on and claims what it claimed before. -/
theorem claim_set_eq (rc : ResourceController) (hclaims : o'.claims = o.claims) :
    (State.mk rc (s.owners.set i o')).claim = s.claim := by
  rw [claim_set howner, hclaims, ← claim_eq howner, Function.update_eq_self]

/-- Only the owner that moves can come to insert. -/
theorem inserts_set (rc : ResourceController) {j : Nat} {port : UInt16}
    (h : (State.mk rc (s.owners.set i o')).Inserts j port) :
    j = i ∧ o'.pc = .inserting port ∨ j ≠ i ∧ s.Inserts j port := by
  obtain ⟨kind, hj⟩ := h
  rw [getElem?_owners_set howner] at hj
  split at hj
  · next heq =>
      obtain rfl := Option.some.inj hj
      exact .inl ⟨heq, rfl⟩
  · next hne => exact .inr ⟨hne, kind, hj⟩

end Set

/-! ## The order that keeps ports apart -/

/-- No port is tested while another registration is about to insert it, nor port 0; a
listener is closed once, and its port is given back when its socket is gone. -/
def Orderly (s : State) : Event → Prop
  | .advance i => ∀ o ∈ s.owners[i]?, ∀ port ∈ o.pc.tests,
      port ≠ 0 ∧ ∀ o' ∈ s.owners, o'.pc ≠ .inserting port
  | .listener i (.release _) => ∀ o ∈ s.owners[i]?, o.holds = none
  | .listener i .close => ∀ o ∈ s.owners[i]?, o.closeCalls = 0
  | _ => True

/-- The set covers every bound socket, and no failed registration is about to give a
port back that somebody's socket is bound to. -/
structure Safe (s : State) : Prop where
  covered : ∀ o ∈ s.owners, ∀ port ∈ o.holds, port ∈ s.resources.tcpPorts
  spared : ∀ o ∈ s.owners, ∀ port refusal, o.pc = .givingBack port refusal →
    ∀ o' ∈ s.owners, port ∉ o'.holds

/-- What the order makes of a single owner: its port is a real one, it is closed at most
once, and has its socket until its port is given back. -/
def Owner.Sound (o : Owner) : Prop :=
  match o.pc with
  | .inserting port | .binding port | .givingBack port _ => port ≠ 0
  | .listening port bound l =>
    bound = port ∧ l.closes.length ≤ 1 ∧ (l.socket = true → .returned ∉ l.closes)
  | .testing _ | .drawing _ | .resetting _ | .probing _ _ | .failed _ => True

theorem Owner.sound_of_searches {kind : Kind} {pc : Pc} (h : pc.searches = true) :
    (Owner.mk kind pc).Sound := by
  cases pc <;> trivial

/-- The set is the disjoint union of what the owners claim, and whoever is about to
insert a port is alone with it. -/
structure Tidy (s : State) : Prop where
  owned : Owned s.resources.tcpPorts s.claim
  fresh : ∀ i port, s.Inserts i port → port ∉ s.resources.tcpPorts
  alone : ∀ i j port, s.Inserts i port → s.Inserts j port → i = j
  sound : ∀ o ∈ s.owners, o.Sound

theorem Owner.Sound.claims_of_holds {o : Owner} (h : o.Sound) {port : UInt16}
    (hholds : port ∈ o.holds) : o.claims = some port := by
  rcases o with ⟨kind, pc⟩
  cases pc with
  | listening remotePort bound l =>
      obtain ⟨rfl, -, hsocket⟩ := h
      simp only [Owner.holds, Option.mem_def] at hholds
      split at hholds
      · next hs =>
          obtain rfl := Option.some.inj hholds
          exact if_neg (hsocket hs)
      · cases hholds
  | _ => cases hholds

theorem Tidy.safe {s : State} (h : Tidy s) : Safe s := by
  have hclaim : ∀ o ∈ s.owners, ∀ port, o.claims = some port → ∃ i, s.owners[i]? = some o ∧
      s.claim i = some port := by
    intro o ho port hport
    obtain ⟨i, hi⟩ := List.mem_iff_getElem?.mp ho
    exact ⟨i, hi, (claim_eq hi).trans hport⟩
  constructor
  · intro o ho port hport
    obtain ⟨i, -, hi⟩ := hclaim o ho port ((h.sound o ho).claims_of_holds hport)
    exact (h.owned.mem_iff port).mpr ⟨i, hi⟩
  · intro o ho port refusal hpc o' ho' hport
    have hback : o.claims = some port := by rw [Owner.claims, hpc]
    obtain ⟨i, hoi, hi⟩ := hclaim o ho port hback
    obtain ⟨j, hoj, hj⟩ := hclaim o' ho' port ((h.sound o' ho').claims_of_holds hport)
    obtain rfl := h.owned.unique i j port hi hj
    obtain rfl := Option.some.inj (hoi.symm.trans hoj)
    rw [Owner.holds, hpc] at hport
    cases hport

/-! ### One step -/

/-- The only call there is. -/
theorem eq_singleton_of_getElem? {α : Type} {xs : List α} {x : α} {k : Nat}
    (hlen : xs.length ≤ 1) (hk : xs[k]? = some x) : k = 0 ∧ xs = [x] := by
  match xs, hlen, hk with
  | [y], _, hk =>
      rw [List.getElem?_singleton] at hk
      split at hk
      · next h => exact ⟨h, by rw [Option.some.inj hk]⟩
      · cases hk

section Step

variable {s : State} (h : Tidy s)

include h

/-- An owner moves on to where it inserts nothing. -/
theorem Tidy.move {i : Nat} {o o' : Owner} (howner : s.owners[i]? = some o)
    {rc : ResourceController} (howned : Owned rc.tcpPorts (Function.update s.claim i o'.claims))
    (hfresh : ∀ j port, j ≠ i → s.Inserts j port → port ∉ rc.tcpPorts)
    (hpc : ∀ port, o'.pc ≠ .inserting port) (hsound : o'.Sound) :
    Tidy ⟨rc, s.owners.set i o'⟩ where
  owned := by
    rw [claim_set howner]
    exact howned
  fresh j port hj := by
    rcases inserts_set howner rc hj with ⟨-, hins⟩ | ⟨hne, hold⟩
    · exact absurd hins (hpc port)
    · exact hfresh j port hne hold
  alone j k port hj hk := by
    rcases inserts_set howner rc hj with ⟨-, hins⟩ | ⟨-, hold⟩
    · exact absurd hins (hpc port)
    · rcases inserts_set howner rc hk with ⟨-, hins⟩ | ⟨-, hold'⟩
      · exact absurd hins (hpc port)
      · exact h.alone j k port hold hold'
  sound o ho := by
    rcases List.mem_or_eq_of_mem_set ho with hold | rfl
    · exact h.sound o hold
    · exact hsound

/-- An owner moves on and claims what it claimed before. -/
theorem Tidy.keep {i : Nat} {o o' : Owner} (howner : s.owners[i]? = some o)
    {rc : ResourceController} (hports : rc.tcpPorts = s.resources.tcpPorts)
    (hclaims : o'.claims = o.claims) (hpc : ∀ port, o'.pc ≠ .inserting port) (hsound : o'.Sound) :
    Tidy ⟨rc, s.owners.set i o'⟩ := by
  refine h.move howner ?_ ?_ hpc hsound
  · rw [hports, hclaims, ← claim_eq howner, Function.update_eq_self]
    exact h.owned
  · intro j port _ hold
    rw [hports]
    exact h.fresh j port hold

/-- An owner takes its port out of the set. -/
theorem Tidy.release {i : Nat} {o o' : Owner} {port : UInt16} (howner : s.owners[i]? = some o)
    (hclaims : o.claims = some port) (hclaims' : o'.claims = none)
    (hpc : ∀ port, o'.pc ≠ .inserting port) (hsound : o'.Sound) :
    Tidy ⟨s.resources.releaseTcpPort port, s.owners.set i o'⟩ := by
  refine h.move howner ?_ ?_ hpc hsound
  · rw [hclaims']
    exact h.owned.release ((claim_eq howner).trans hclaims)
  · exact fun j q _ hold hmem ↦ h.fresh j q hold (Finset.mem_of_mem_erase hmem)

/-- An owner that is alone with a port puts it into the set. -/
theorem Tidy.insert {i : Nat} {kind : Kind} {port : UInt16}
    (howner : s.owners[i]? = some ⟨kind, .inserting port⟩) :
    Tidy ⟨{ s.resources with tcpPorts := insert port s.resources.tcpPorts },
      s.owners.set i ⟨kind, .binding port⟩⟩ := by
  have hsound : (Owner.mk kind (.inserting port)).Sound := h.sound _ (List.mem_of_getElem? howner)
  refine h.move howner ?_ ?_ (by simp) hsound
  · exact h.owned.take (h.fresh i port ⟨kind, howner⟩) (claim_eq howner)
  · intro j q hne hold
    rw [Finset.mem_insert, not_or]
    refine ⟨?_, h.fresh j q hold⟩
    rintro rfl
    exact hne (h.alone j i q hold ⟨kind, howner⟩)

/-- A new registration has nothing yet. -/
theorem Tidy.register (kind : Kind) (remotePort : UInt16) :
    Tidy { s with owners := s.owners ++ [⟨kind, .start remotePort⟩] } := by
  have hsearches := Pc.searches_start remotePort
  have hold : ∀ j port,
      (State.mk s.resources (s.owners ++ [⟨kind, .start remotePort⟩])).Inserts j port →
        s.Inserts j port := by
    rintro j port ⟨kind', hj⟩
    rcases eq_or_of_getElem?_concat hj with ⟨-, hnew⟩ | hold
    · rw [← (Owner.mk.inj hnew).2] at hsearches
      cases hsearches
    · exact ⟨kind', hold⟩
  refine ⟨?_, fun j port hj ↦ h.fresh j port (hold j port hj),
    fun j k port hj hk ↦ h.alone j k port (hold j port hj) (hold k port hk), ?_⟩
  · have hclaim : (State.mk s.resources (s.owners ++ [⟨kind, .start remotePort⟩])).claim =
        s.claim := by
      funext j
      rw [State.claim, State.claim, List.getElem?_append]
      split
      · rfl
      · next hlen =>
          rw [List.getElem?_eq_none (Nat.not_lt.mp hlen), List.getElem?_singleton]
          split
          · exact claims_of_searches hsearches
          · rfl
    rw [hclaim]
    exact h.owned
  · intro o ho
    rcases List.mem_append.mp ho with hold | hnew
    · exact h.sound o hold
    · obtain rfl := List.mem_singleton.mp hnew
      exact Owner.sound_of_searches hsearches

theorem Tidy.pass {i : Nat} {kind : Kind} {pc : Pc} {port : UInt16}
    (howner : s.owners[i]? = some ⟨kind, pc⟩) (htests : pc.tests = some port)
    (hfree : port ∉ s.resources.tcpPorts) (hok : Orderly s (.advance i)) :
    Tidy { s with owners := s.owners.set i ⟨kind, .inserting port⟩ } where
  owned := by
    rw [claim_set_eq howner s.resources]
    · exact h.owned
    · cases pc <;> first | rfl | cases htests
  fresh j q hj := by
    rcases inserts_set howner _ hj with ⟨-, hins⟩ | ⟨-, hold⟩
    · obtain rfl := Pc.inserting.inj hins
      exact hfree
    · exact h.fresh j q hold
  alone j k q hj hk := by
    obtain ⟨-, hnone⟩ := hok _ howner port htests
    rcases inserts_set howner _ hj with ⟨rfl, hins⟩ | ⟨-, hold⟩
    · obtain rfl := Pc.inserting.inj hins
      rcases inserts_set howner _ hk with ⟨rfl, -⟩ | ⟨-, kind', hold'⟩
      · rfl
      · exact absurd rfl (hnone _ (List.mem_of_getElem? hold'))
    · rcases inserts_set howner _ hk with ⟨rfl, hins⟩ | ⟨-, hold'⟩
      · obtain rfl := Pc.inserting.inj hins
        obtain ⟨kind', hold⟩ := hold
        exact absurd rfl (hnone _ (List.mem_of_getElem? hold))
      · exact h.alone j k q hold hold'
  sound o ho := by
    rcases List.mem_or_eq_of_mem_set ho with hold | rfl
    · exact h.sound o hold
    · exact (hok _ howner port htests).1

/-- A step of the listener that gives no port back. -/
theorem Tidy.listener {i : Nat} {kind : Kind} {port bound : UInt16} {l l' : Listener}
    {e : Listener.Event} (howner : s.owners[i]? = some ⟨kind, .listening port bound l⟩)
    (hl : l.step e = some l') (he : ∀ call, e ≠ .release call) (hok : Orderly s (.listener i e)) :
    Tidy { s with owners := s.owners.set i ⟨kind, .listening port bound l'⟩ } := by
  obtain ⟨hbound, hlen, hsocket⟩ : (Owner.mk kind (.listening port bound l)).Sound :=
    h.sound _ (List.mem_of_getElem? howner)
  cases Listener.steps_of_step hl with
  | task task signal closeDone socket _ _ _ hsocket' =>
      exact h.keep howner rfl rfl (by simp) ⟨hbound, hlen, fun hs ↦ hsocket (hsocket' hs)⟩
  | close =>
      have hnil : l.closes = [] := List.length_eq_zero_iff.mp (hok _ howner)
      refine h.keep howner rfl ?_ (by simp) ⟨hbound, ?_, ?_⟩ <;> simp [Owner.claims, hnil]
  | @call _ call before after signal hgoes hbefore =>
      obtain ⟨rfl, hcloses⟩ := eq_singleton_of_getElem? hlen hbefore
      have hmoves : before ≠ .returned ∧ after ≠ .returned := by
        cases hgoes with
        | send => split <;> simp
        | woken => simp
        | timeout => simp
        | release => exact absurd rfl (he 0)
      refine h.keep howner rfl ?_ (by simp) ⟨hbound, ?_, ?_⟩
      · simp [Owner.claims, hcloses, hmoves.1.symm, hmoves.2.symm]
      · simp [hcloses]
      · simp [hcloses, hmoves.2.symm]

/-- A listener whose socket is gone gives its port back. -/
theorem Tidy.listenerRelease {i : Nat} {kind : Kind} {port bound : UInt16} {l l' : Listener}
    {call : Nat} (howner : s.owners[i]? = some ⟨kind, .listening port bound l⟩)
    (hl : l.step (.release call) = some l') (hok : Orderly s (.listener i (.release call))) :
    Tidy ⟨s.resources.releaseTcpPort port, s.owners.set i ⟨kind, .listening port bound l'⟩⟩ := by
  obtain ⟨hbound, hlen, -⟩ : (Owner.mk kind (.listening port bound l)).Sound :=
    h.sound _ (List.mem_of_getElem? howner)
  obtain ⟨hbefore, rfl⟩ := Listener.move_eq_some hl
  obtain ⟨rfl, hcloses⟩ := eq_singleton_of_getElem? hlen hbefore
  have hsocket : l.socket = false := by simpa [Owner.holds] using hok _ howner
  refine h.release howner ?_ ?_ (by simp) ⟨hbound, ?_, ?_⟩
  · simp [Owner.claims, hcloses]
  · simp [Owner.claims, hcloses]
  · simp [hcloses]
  · simp [hsocket]

end Step

theorem tidy_step (s : State) (e : Event) (t : State) (h : Tidy s) (hok : Orderly s e)
    (ht : step s e = some t) : Tidy t := by
  cases steps_of_step ht with
  | register kind remotePort => exact h.register kind remotePort
  | search howner hpc hpc' hports =>
      refine h.keep howner hports ?_ ?_ (Owner.sound_of_searches hpc')
      · rw [claims_of_searches hpc, claims_of_searches hpc']
      · rintro port rfl
        cases hpc'
  | pass howner htests hfree => exact h.pass howner htests hfree hok
  | insert howner => exact h.insert howner
  | giveBack howner => exact h.release howner rfl rfl (by simp) trivial
  | refused refusal howner =>
      have hsound : (Owner.mk _ (.binding _)).Sound := h.sound _ (List.mem_of_getElem? howner)
      exact h.keep howner rfl rfl (by simp) hsound
  | bound howner hfree =>
      have hsound : (Owner.mk _ (.binding _)).Sound := h.sound _ (List.mem_of_getElem? howner)
      exact h.keep howner rfl rfl (by simp)
        ⟨hfree.2.1 hsound, by simp [Listener.new], by simp [Listener.new]⟩
  | release howner hl => exact h.listenerRelease howner hl hok
  | listener howner hl he => exact h.listener howner hl he hok

theorem tidy_start (allowPorts : List PortRange) : Tidy (start allowPorts) where
  owned := .empty
  fresh i port h := by
    obtain ⟨kind, hi⟩ := h
    cases hi
  alone i j port h := by
    obtain ⟨kind, hi⟩ := h
    cases hi
  sound o ho := by cases ho

/-- If no port is tested while another registration is about to insert it, and no listener
gives its port back twice or before its socket is gone, the set of ports covers every bound
socket, and no failed registration takes out a port that somebody's socket is bound to. -/
theorem safe_of_orderly {allowPorts : List PortRange} {events : List Event} {s : State}
    (hrun : run step (start allowPorts) events = some s)
    (hok : Along step Orderly (start allowPorts) events) : Safe s :=
  (along_invariant tidy_step hok hrun (tidy_start allowPorts)).safe

instance instDecidableOrderly (s : State) : ∀ e, Decidable (Orderly s e)
  | .advance i =>
    -- Not by trying all ports, which is what instance search would come up with.
    have (o : Owner) : Decidable (∀ port ∈ o.pc.tests,
        port ≠ 0 ∧ ∀ o' ∈ s.owners, o'.pc ≠ .inserting port) :=
      Option.decidableForallMem o.pc.tests
    Option.decidableForallMem s.owners[i]?
  | .listener i (.release _) => Option.decidableForallMem s.owners[i]?
  | .listener i .close => Option.decidableForallMem s.owners[i]?
  | .register _ _ | .bind _ _ | .listener _ .take | .listener _ .subscribe | .listener _ .accept
  | .listener _ .transient | .listener _ .retry | .listener _ .fatal | .listener _ .shutdown
  | .listener _ .raiseDone | .listener _ .finish | .listener _ (.send _) | .listener _ (.woken _)
  | .listener _ (.timeout _) | .listener _ .drop => .isTrue trivial

/-- Two registrations of port 10000 one after the other: the second finds it taken. -/
def oneAfterTheOther : List Event :=
  [.register .tcp 10000, .register .tcp 10000, .advance 0, .advance 0, .advance 1,
    .bind 0 (.ok 10000)]

/-- What comes of it. -/
def firstHasPort : State where
  resources := { ResourceController.new [] with tcpPorts := insert 10000 ∅ }
  owners := [⟨.tcp, .listening 10000 10000 (.new .tcp)⟩,
    ⟨.tcp, .failed (.proxy "Port 10000 is already allocated")⟩]

theorem safe_oneAfterTheOther :
    run step (start []) oneAfterTheOther = some firstHasPort ∧ Safe firstHasPort :=
  ⟨rfl, @safe_of_orderly [] oneAfterTheOther firstHasPort rfl (by decide +kernel)⟩

/-- Two registrations of port 10000 that both test before either inserts: the second is
refused by the operating system. -/
def sideBySide : List Event :=
  [.register .tcp 10000, .register .tcp 10000, .advance 0, .advance 1, .advance 0, .advance 1,
    .bind 0 (.ok 10000), .bind 1 (.error "Address already in use"), .advance 1]

/-- The second takes the port out of the set that the first has bound. -/
theorem sideBySide_frees_bound_port :
    ∃ s, run step (start []) sideBySide = some s ∧ s.owners.map Owner.holds = [some 10000, none] ∧
      10000 ∉ s.resources.tcpPorts ∧ ¬Safe s := by
  refine ⟨_, rfl, rfl, by decide, fun h ↦ ?_⟩
  exact absurd (h.covered _ List.mem_cons_self 10000 rfl) (by decide)

end Arp.Server.Ports
