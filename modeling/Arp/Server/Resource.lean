import Arp.Common.Config
import Mathlib.Data.Finset.Basic
import Mathlib.Data.UInt

/-!
# Ports

The resource controller keeps the set of ports in use, for TCP and UDP alike,
and a cursor from which ports are handed out to proxies that do not ask for one.
A listener is opened in two steps: a port is allocated, then bound; if the bind
fails the port is given back.

`Opened` says once what opening a listener does to the set of ports.
-/

namespace Arp.Server

open Arp.Common

/-- `ResourceController`. -/
structure ResourceController where
  tcpPorts : Finset UInt16
  nextDynamicPort : UInt16
  allowPorts : List (UInt16 × UInt16)

namespace ResourceController

/-- `ResourceController::new`. -/
def new (allowPorts : List PortRange) : ResourceController where
  tcpPorts := ∅
  nextDynamicPort := 10000
  allowPorts :=
    if allowPorts.isEmpty then [(10000, 65535)]
    else allowPorts.map fun range ↦
      if range.single > 0 then (range.single, range.single) else (range.start, range.stop)

/-- `ResourceController::is_port_allowed`. -/
def isPortAllowed (rc : ResourceController) (port : UInt16) : Bool :=
  rc.allowPorts.any fun range ↦ range.1 ≤ port && port ≤ range.2

theorem isPortAllowed_iff {rc : ResourceController} {port : UInt16} :
    rc.isPortAllowed port = true ↔ ∃ range ∈ rc.allowPorts, range.1 ≤ port ∧ port ≤ range.2 := by
  simp [isPortAllowed]

/-- `ResourceController::allocate_tcp_port`. -/
def allocateTcpPort (rc : ResourceController) (port : UInt16) :
    Result UInt16 × ResourceController :=
  if !rc.isPortAllowed port then
    (.error (.proxy ("Port " ++ toString port ++ " is not in allowed range")), rc)
  else if port ∈ rc.tcpPorts then
    (.error (.proxy ("Port " ++ toString port ++ " is already allocated")), rc)
  else (.ok port, { rc with tcpPorts := insert port rc.tcpPorts })

/-- The loop of `allocate_random_tcp_port`, with the attempts that are left. -/
def randomLoop : Nat → ResourceController → Result UInt16 × ResourceController
  | 0, rc => (.error (.proxy "Failed to allocate random port after 1000 attempts"), rc)
  | attempts + 1, rc =>
    let port := rc.nextDynamicPort
    if port ≥ 65535 then randomLoop attempts { rc with nextDynamicPort := 10000 }
    else
      let rc := { rc with nextDynamicPort := port + 1 }
      if rc.isPortAllowed port && port ∉ rc.tcpPorts then
        (.ok port, { rc with tcpPorts := insert port rc.tcpPorts })
      else randomLoop attempts rc

/-- `ResourceController::allocate_random_tcp_port`. -/
def allocateRandomTcpPort (rc : ResourceController) : Result UInt16 × ResourceController :=
  randomLoop 1000 rc

/-- `ResourceController::release_tcp_port`. -/
def releaseTcpPort (rc : ResourceController) (port : UInt16) : ResourceController :=
  { rc with tcpPorts := rc.tcpPorts.erase port }

/-- Bind an allocated port; `bind` is the error of the operating system, if it
refuses.  The port is released then. -/
def bindPort (bind : Option String) : Result UInt16 × ResourceController →
    Result UInt16 × ResourceController
  | (.ok port, rc) =>
    match bind with
    | none => (.ok port, rc)
    | some e => (.error (.io e), rc.releaseTcpPort port)
  | (.error e, rc) => (.error e, rc)

/-- The start of `TcpProxy::new` and of `UdpProxy::new`: a port, the requested
one or one from the cursor, with a socket bound to it. -/
def openPort (rc : ResourceController) (remotePort : UInt16) (bind : Option String) :
    Result UInt16 × ResourceController :=
  bindPort bind
    (if remotePort > 0 then rc.allocateTcpPort remotePort else rc.allocateRandomTcpPort)

/-! ## What opening a port does -/

/-- The outcome of an attempt to open a port: on success a fresh allowed port has
joined the set of ports in use; otherwise the set is as before. -/
structure Opened (rc : ResourceController) (result : Result UInt16) (rc' : ResourceController) :
    Prop where
  allowPorts : rc'.allowPorts = rc.allowPorts
  of_error : ∀ e, result = .error e → rc'.tcpPorts = rc.tcpPorts
  of_ok : ∀ port, result = .ok port →
    port ∉ rc.tcpPorts ∧ rc.isPortAllowed port = true ∧ rc'.tcpPorts = insert port rc.tcpPorts

/-- Nothing happened. -/
theorem Opened.failed {rc : ResourceController} (e : Error) : Opened rc (.error e) rc where
  allowPorts := rfl
  of_error _ _ := rfl
  of_ok _ h := by cases h

/-- A failed attempt moves the cursor at most. -/
theorem Opened.eq_of_error {rc rc' : ResourceController} {e : Error}
    (h : Opened rc (.error e) rc') : rc' = { rc with nextDynamicPort := rc'.nextDynamicPort } := by
  rw [← h.of_error e rfl, ← h.allowPorts]

theorem opened_allocateTcpPort (rc : ResourceController) (port : UInt16) :
    Opened rc (rc.allocateTcpPort port).1 (rc.allocateTcpPort port).2 := by
  unfold allocateTcpPort
  split
  · exact .failed _
  · next hallowed =>
      split
      · exact .failed _
      · next hfree =>
          refine ⟨rfl, fun e h ↦ (nomatch h), fun p h ↦ ?_⟩
          obtain rfl := Except.ok.inj h
          exact ⟨hfree, by simpa using hallowed, rfl⟩

/-- Moving the cursor changes nothing else. -/
theorem Opened.of_cursor {rc rc' : ResourceController} {result : Result UInt16} {port : UInt16}
    (h : Opened { rc with nextDynamicPort := port } result rc') : Opened rc result rc' :=
  ⟨h.allowPorts, h.of_error, h.of_ok⟩

theorem opened_randomLoop (attempts : Nat) (rc : ResourceController) :
    Opened rc (randomLoop attempts rc).1 (randomLoop attempts rc).2 := by
  induction attempts generalizing rc with
  | zero => exact .failed _
  | succ attempts ih =>
      unfold randomLoop
      dsimp only
      split
      · exact (ih _).of_cursor
      · split
        · next hfree =>
            rw [Bool.and_eq_true] at hfree
            refine ⟨rfl, fun e h ↦ (nomatch h), fun p h ↦ ?_⟩
            obtain rfl := Except.ok.inj h
            exact ⟨by simpa using hfree.2, hfree.1, rfl⟩
        · exact (ih _).of_cursor

theorem opened_bindPort {rc : ResourceController} {allocated : Result UInt16 × ResourceController}
    (bind : Option String) (h : Opened rc allocated.1 allocated.2) :
    Opened rc (bindPort bind allocated).1 (bindPort bind allocated).2 := by
  rcases allocated with ⟨_ | port, rc'⟩
  · exact h
  · cases bind with
    | none => exact h
    | some e =>
        obtain ⟨hfree, _, hports⟩ := h.of_ok port rfl
        refine ⟨h.allowPorts, fun _ _ ↦ ?_, fun p hp ↦ by cases hp⟩
        show rc'.tcpPorts.erase port = rc.tcpPorts
        rw [hports, Finset.erase_insert hfree]

/-- Opening a port, whatever is asked for and however the bind ends. -/
theorem opened_openPort (rc : ResourceController) (remotePort : UInt16) (bind : Option String) :
    Opened rc (rc.openPort remotePort bind).1 (rc.openPort remotePort bind).2 := by
  refine opened_bindPort bind ?_
  split
  · exact opened_allocateTcpPort rc remotePort
  · exact opened_randomLoop 1000 rc

/-- A fixed port is the one that is allocated and bound. -/
theorem bindPort_allocateTcpPort {rc : ResourceController} {remotePort port : UInt16}
    {bind : Option String} (h : (bindPort bind (rc.allocateTcpPort remotePort)).1 = .ok port) :
    port = remotePort := by
  unfold allocateTcpPort at h
  split at h
  · cases h
  · split at h
    · cases h
    · cases bind with
      | none => exact (Except.ok.inj h).symm
      | some e => cases h

/-! ## Which port is opened -/

/-- The ports `allocate_random_tcp_port` tries in turn, from the cursor on. -/
def cursorPorts : Nat → UInt16 → List UInt16
  | 0, _ => []
  | attempts + 1, port =>
    if port ≥ 65535 then cursorPorts attempts 10000 else port :: cursorPorts attempts (port + 1)

/-- The port that is opened on a request: the requested one, or one the cursor
comes by. -/
def Grants (rc : ResourceController) (remotePort port : UInt16) : Prop :=
  if remotePort = 0 then port ∈ cursorPorts 1000 rc.nextDynamicPort else port = remotePort

/-- The loop ends at a port the cursor came by. -/
theorem mem_cursorPorts_of_randomLoop {attempts : Nat} {rc : ResourceController} {port : UInt16}
    (h : (randomLoop attempts rc).1 = .ok port) :
    port ∈ cursorPorts attempts rc.nextDynamicPort := by
  induction attempts generalizing rc with
  | zero => cases h
  | succ attempts ih =>
      unfold randomLoop at h
      unfold cursorPorts
      dsimp only at h
      split at h
      · next hwrap =>
          rw [if_pos hwrap]
          exact ih h
      · next hwrap =>
          rw [if_neg hwrap, List.mem_cons]
          split at h
          · exact .inl (Except.ok.inj h).symm
          · exact .inr (ih h)

/-- The loop succeeds if the cursor comes by a port that is allowed and free. -/
theorem randomLoop_ok {attempts : Nat} {rc : ResourceController} {port : UInt16}
    (hmem : port ∈ cursorPorts attempts rc.nextDynamicPort)
    (hallowed : rc.isPortAllowed port = true) (hfree : port ∉ rc.tcpPorts) :
    ∃ port', (randomLoop attempts rc).1 = .ok port' := by
  induction attempts generalizing rc with
  | zero => cases hmem
  | succ attempts ih =>
      unfold cursorPorts at hmem
      unfold randomLoop
      dsimp only
      split at hmem
      · next hwrap =>
          rw [if_pos hwrap]
          exact ih hmem hallowed hfree
      · next hwrap =>
          rw [if_neg hwrap]
          split
          · exact ⟨_, rfl⟩
          · next hnot =>
              refine ih ?_ hallowed hfree
              rcases List.mem_cons.mp hmem with rfl | hrest
              · refine absurd ?_ hnot
                rw [Bool.and_eq_true, decide_eq_true_eq]
                exact ⟨hallowed, hfree⟩
              · exact hrest

/-- Binding an allocated port gives that port or fails. -/
theorem of_bindPort_eq_ok {bind : Option String} {allocated : Result UInt16 × ResourceController}
    {port : UInt16} (h : (bindPort bind allocated).1 = .ok port) : allocated.1 = .ok port := by
  rcases allocated with ⟨_ | _, rc⟩
  · exact h
  · cases bind with
    | none => exact h
    | some e => cases h

/-- What is opened is what was asked for. -/
theorem openPort_grants {rc : ResourceController} {remotePort port : UInt16} {bind : Option String}
    (h : (rc.openPort remotePort bind).1 = .ok port) : rc.Grants remotePort port := by
  unfold Grants
  split
  · next hzero =>
      rw [openPort, if_neg (by simp [hzero])] at h
      exact mem_cursorPorts_of_randomLoop (of_bindPort_eq_ok h)
  · next hfixed =>
      rw [openPort, if_pos (UInt16.pos_iff_ne_zero.mpr hfixed)] at h
      exact bindPort_allocateTcpPort h

/-- A fixed port that is allowed and free is allocated. -/
theorem allocateTcpPort_ok {rc : ResourceController} {port : UInt16}
    (hallowed : rc.isPortAllowed port = true) (hfree : port ∉ rc.tcpPorts) :
    rc.allocateTcpPort port = (.ok port, { rc with tcpPorts := insert port rc.tcpPorts }) := by
  rw [allocateTcpPort, hallowed, if_neg (by simp), if_neg hfree]

/-- Any other is not. -/
theorem allocateTcpPort_error {rc : ResourceController} {port : UInt16}
    (h : (rc.isPortAllowed port && port ∉ rc.tcpPorts) = false) :
    ∃ e, rc.allocateTcpPort port = (.error e, rc) := by
  unfold allocateTcpPort
  split
  · exact ⟨_, rfl⟩
  · next hallowed =>
      rw [Bool.not_eq_true', Bool.not_eq_false] at hallowed
      exact ⟨_, if_pos (by simpa [hallowed] using h)⟩

/-- Opening a port succeeds if the fixed port is allowed and free, or the cursor
comes by such a port, and the bind succeeds. -/
theorem openPort_ok {rc : ResourceController} {remotePort : UInt16}
    (hfixed : remotePort ≠ 0 → rc.isPortAllowed remotePort = true ∧ remotePort ∉ rc.tcpPorts)
    (hdynamic : remotePort = 0 → ∃ port ∈ cursorPorts 1000 rc.nextDynamicPort,
      rc.isPortAllowed port = true ∧ port ∉ rc.tcpPorts) :
    ∃ port rc', rc.openPort remotePort none = (.ok port, rc') := by
  unfold openPort
  by_cases hzero : remotePort = 0
  · obtain ⟨port, hmem, hallowed, hfree⟩ := hdynamic hzero
    obtain ⟨port', hok⟩ := randomLoop_ok hmem hallowed hfree
    rw [if_neg (by simp [hzero]), allocateRandomTcpPort]
    rcases hr : randomLoop 1000 rc with ⟨result, rc'⟩
    rw [hr] at hok
    obtain rfl := hok
    exact ⟨port', rc', rfl⟩
  · obtain ⟨hallowed, hfree⟩ := hfixed hzero
    rw [if_pos (UInt16.pos_iff_ne_zero.mpr hzero), allocateTcpPort_ok hallowed hfree]
    exact ⟨_, _, rfl⟩

/-! ## Ports from the cursor

The cursor goes up one port at a time.  Port 65535 is never tried: the attempt that meets
it only sets the cursor back to 10000.  So a call tries ports from the cursor up, and then,
if attempts are left, from 10000 up; all other ports are out of its reach, however many of
them are free. -/

/-- The port can be handed out. -/
def Available (rc : ResourceController) (port : UInt16) : Prop :=
  rc.isPortAllowed port = true ∧ port ∉ rc.tcpPorts

/-- The cursor comes by the port within the given number of attempts: before it is set
back, or after that, which takes an attempt of its own. -/
def InReach (attempts : Nat) (cursor port : UInt16) : Prop :=
  port.toNat < 65535 ∧
    (cursor.toNat ≤ port.toNat ∧ port.toNat < cursor.toNat + attempts ∨
      10000 ≤ port.toNat ∧ (65536 - cursor.toNat) + (port.toNat - 10000) < attempts)

instance (attempts : Nat) (cursor port : UInt16) : Decidable (InReach attempts cursor port) :=
  inferInstanceAs (Decidable (_ ∧ (_ ∧ _ ∨ _ ∧ _)))

/-- As long as the cursor cannot be set back twice, the ports it comes by are those in
reach. -/
theorem mem_cursorPorts_iff {attempts : Nat} (hattempts : attempts ≤ 55536)
    {cursor port : UInt16} : port ∈ cursorPorts attempts cursor ↔ InReach attempts cursor port := by
  unfold InReach
  induction attempts generalizing cursor with
  | zero =>
      rw [cursorPorts]
      refine iff_of_false List.not_mem_nil ?_
      omega
  | succ attempts ih =>
      have hcursor : cursor.toNat < 65536 := cursor.toNat_lt
      have hlimit : cursor ≥ 65535 ↔ 65535 ≤ cursor.toNat := UInt16.le_iff_toNat_le
      unfold cursorPorts
      split
      · next hwrap =>
          have hstart : (10000 : UInt16).toNat = 10000 := rfl
          rw [ih (by omega), hstart]
          have hlast := hlimit.mp hwrap
          omega
      · next hwrap =>
          rw [hlimit] at hwrap
          have hnext : (cursor + 1).toNat = cursor.toNat + 1 := by
            rw [UInt16.toNat_add, UInt16.toNat_one, Nat.mod_eq_of_lt (by omega)]
          rw [List.mem_cons, ih (by omega), hnext, ← UInt16.toNat_inj]
          omega

/-- A port is handed out exactly if one is available in reach. -/
theorem allocateRandomTcpPort_ok_iff {rc : ResourceController} :
    (∃ port, rc.allocateRandomTcpPort.1 = .ok port ∧ rc.Available port) ↔
      ∃ port, InReach 1000 rc.nextDynamicPort port ∧ rc.Available port := by
  constructor
  · rintro ⟨port, hok, havailable⟩
    have hmem := mem_cursorPorts_of_randomLoop hok
    exact ⟨port, (mem_cursorPorts_iff (by omega)).mp hmem, havailable⟩
  · rintro ⟨port, hreach, hallowed, hfree⟩
    have hmem := (mem_cursorPorts_iff (by omega)).mpr hreach
    obtain ⟨port', hok⟩ := randomLoop_ok hmem hallowed hfree
    obtain ⟨hfree', hallowed', -⟩ := (opened_randomLoop 1000 rc).of_ok port' hok
    exact ⟨port', hok, hallowed', hfree'⟩

/-- If a port from 1 on is allowed and free, such a port is handed out. -/
def FindsAvailable (rc : ResourceController) : Prop :=
  (∃ port, port ≠ 0 ∧ rc.Available port) →
    ∃ port, rc.allocateRandomTcpPort.1 = .ok port ∧ rc.Available port

/-- For every configuration, set of ports in use and cursor: a port is found where there is
one exactly if there is none, or one of those available is in reach of 1000 attempts. -/
theorem findsAvailable_iff (rc : ResourceController) :
    rc.FindsAvailable ↔
      (∀ port, port ≠ 0 → ¬rc.Available port) ∨
        ∃ port, InReach 1000 rc.nextDynamicPort port ∧ rc.Available port := by
  unfold FindsAvailable
  rw [allocateRandomTcpPort_ok_iff, imp_iff_not_or, not_exists]
  simp only [not_and]

/-- Port 20000 is the only one that is allowed, and it is free.  A new controller tries the
ports from 10000 to 10999. -/
theorem far_port_not_found :
    ¬(ResourceController.new [⟨20000, 20000, 0⟩]).FindsAvailable := by
  intro hfinds
  have hallowed : ∀ port, (ResourceController.new [⟨20000, 20000, 0⟩]).isPortAllowed port = true →
      port = 20000 := by
    intro port hport
    obtain ⟨range, hrange, hlow, hhigh⟩ := isPortAllowed_iff.mp hport
    obtain rfl := List.mem_singleton.mp hrange
    exact UInt16.le_antisymm hhigh hlow
  obtain ⟨port, hreach, hport, -⟩ := allocateRandomTcpPort_ok_iff.mp
    (hfinds ⟨20000, by decide, by decide, Finset.notMem_empty _⟩)
  obtain rfl := hallowed port hport
  exact absurd hreach (by decide)

end ResourceController

end Arp.Server
