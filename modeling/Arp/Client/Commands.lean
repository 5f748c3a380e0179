import Arp.Client.Proxies
import Arp.Client.Registration
import Arp.Lib.Machine
import Arp.Lib.Slot

/-!
# Commands to the client's control

Proxies are registered and closed, and XTCP peers asked for, by calls that put a command on
the control's channel and wait ten seconds for its reply.  The message loop takes the commands
one by one and sends their messages.  A registration and an XTCP request then wait in a slot,
one for each kind, for the message that answers them; a call whose time is up empties the slot.

The calls, the loop and the server take their steps in any order.  The server is whoever
answers: an answer carries the name or the address of the request it answers, and comes at any
later time or never.  Only the answer that the owner of an XTCP proxy is offline carries no
address.  Timers are not ordered by the calls' ages: any call that waits may run
out of time.

The answers themselves are not compared with what waits in the slot.  The main result says
what has to hold when the loop takes a command, and when a timer fires, for every answer and
every timer to find the request it belongs to.
-/

namespace Arp.Client.Commands

open Arp.Common Arp.Lib Arp.Lib.Machine

/-! ## Calls -/

/-- `ControlCommand`.  The sender of its reply is the number of the call it comes from. -/
inductive Command where
  | openXtcp (serverName sk visitorAddr : String)
  | registerProxy (proxyConfig : ProxyConfig) (multiplexer : String)
  | closeProxy (proxyName : String)

/-- The slots: `pending_xtcp` and `pending_proxy_resp`. -/
inductive Kind where
  | xtcp
  | register
deriving DecidableEq, Repr

namespace Command

/-- The slot a command waits in after its message was sent. -/
def kind : Command → Option Kind
  | openXtcp _ _ _ => some .xtcp
  | registerProxy _ _ => some .register
  | closeProxy _ => none

/-- The address a command asks for a peer with. -/
def visitorAddr : Command → Option String
  | openXtcp _ _ visitorAddr => some visitorAddr
  | registerProxy _ _ | closeProxy _ => none

/-- The message the loop sends for a command.  That of a registration is built as at
start-up. -/
def message : Command → Message
  | openXtcp serverName sk visitorAddr => .natHoleVisitor ⟨serverName, sk ++ "|" ++ visitorAddr⟩
  | registerProxy proxyConfig multiplexer =>
    .newProxy { newProxyMsg false proxyConfig with multiplexer := multiplexer }
  | closeProxy proxyName => .closeProxy proxyName

end Command

/-- What a call returns if all goes well. -/
inductive Answer where
  | peer (resp : NatHoleRespMsg)
  | registered (remoteAddr : String)
  | closed

/-- The channel of a reply, as the call sees it. -/
inductive Channel where
  | empty
  | sent (result : Result Answer)
  /-- The sender was dropped. -/
  | closed

/-- Where a call is. -/
inductive CallPc where
  /-- The command is to be put on the control's channel. -/
  | sending
  | waiting (reply : Channel)
  /-- The slot is to be emptied, and the error returned. -/
  | clearing (e : Error)
  | returned (result : Result Answer)

/-- A call of `request_xtcp_peer`, `register_proxy_dynamic` or `close_proxy_dynamic`. -/
structure Call where
  command : Command
  pc : CallPc

namespace Call

/-- The command is on the control's channel, and the time starts to run. -/
def enqueue (call : Call) : Option Call :=
  match call.pc with
  | .sending => some { call with pc := .waiting .empty }
  | _ => none

/-- The call reads its reply. -/
def receive (call : Call) : Option Call :=
  match call.pc with
  | .waiting (.sent result) => some { call with pc := .returned result }
  | .waiting .closed => some { call with
      pc := match call.command with
        | .openXtcp _ _ _ => .clearing (.transport "xtcp response channel closed")
        | .registerProxy _ _ => .returned (.error (.transport "register proxy channel closed"))
        | .closeProxy _ => .returned (.error (.transport "close proxy channel closed")) }
  | _ => none

/-- The ten seconds are over, and there is no reply. -/
def expire (call : Call) : Option Call :=
  match call.pc with
  | .waiting .empty => some { call with
      pc := match call.command with
        | .openXtcp _ _ _ => .clearing (.timeout "xtcp nat hole response timeout")
        | .registerProxy _ _ => .clearing (.timeout "register proxy timeout")
        | .closeProxy _ => .returned (.error (.timeout "close proxy timeout")) }
  | _ => none

/-- The call returns after it has emptied its slot. -/
def giveUp (call : Call) : Option Call :=
  match call.pc with
  | .clearing e => some { call with pc := .returned (.error e) }
  | _ => none

/-- A reply is sent to the call, or its sender dropped.  A call that has stopped to wait does
not notice. -/
def reply (channel : Channel) (call : Call) : Call :=
  match call.pc with
  | .waiting .empty => { call with pc := .waiting channel }
  | _ => call

/-- The call still waits for its reply. -/
def waits (call : Call) : Bool :=
  match call.pc with
  | .waiting .empty => true
  | _ => false

/-- The slot a call is about to empty. -/
def clears (call : Call) : Option Kind :=
  match call.pc, call.command with
  | .clearing _, command => command.kind
  | .waiting .closed, .openXtcp _ _ _ => some .xtcp
  | _, _ => none

end Call

/-! ## The control -/

/-- `PendingProxyResp`. -/
structure PendingProxyResp where
  replyTx : Nat
  proxyConfig : ProxyConfig
  multiplexer : String

/-- Where the task of the control is. -/
inductive LoopPc where
  /-- Before the message loop: login and the registration of the configured proxies. -/
  | starting
  /-- In the message loop, ready for a command or a message. -/
  | serving
  /-- Sending the message of a call's command. -/
  | sending (i : Nat)
  /-- The message loop has returned; `pending_xtcp` is to be emptied. -/
  | ending
  /-- Then `pending_proxy_resp`. -/
  | endingProxy
  | ended
deriving DecidableEq

/-- The message loop has returned. -/
def LoopPc.over : LoopPc → Bool
  | starting | serving | sending _ => false
  | ending | endingProxy | ended => true

/-- `Control`, with the calls made so far. -/
structure Control where
  calls : List Call
  /-- The channel of commands, by their calls. -/
  commands : List Nat
  pendingXtcp : Option Nat
  pendingProxyResp : Option PendingProxyResp
  proxyManager : ProxyManager
  loop : LoopPc

namespace Control

/-- `Control::new`. -/
def new : Control where
  calls := []
  commands := []
  pendingXtcp := none
  pendingProxyResp := none
  proxyManager := ⟨∅⟩
  loop := .starting

/-- The call that waits in a slot. -/
def pending (c : Control) : Kind → Option Nat
  | .xtcp => c.pendingXtcp
  | .register => c.pendingProxyResp.map PendingProxyResp.replyTx

/-- The slot that the command of a call waits in. -/
def kindOf (c : Control) (i : Nat) : Option Kind := c.calls[i]?.bind fun call ↦ call.command.kind

/-- A call starts. -/
def issue (c : Control) (command : Command) : Control :=
  { c with calls := c.calls ++ [⟨command, .sending⟩] }

/-- `Control::request_xtcp_peer`. -/
def requestXtcpPeer (c : Control) (serverName sk visitorAddr : String) : Control :=
  c.issue (.openXtcp serverName sk visitorAddr)

/-- `Control::register_proxy_dynamic`. -/
def registerProxyDynamic (tcpMux : Bool) (c : Control) (proxyConfig : ProxyConfig) : Control :=
  c.issue (.registerProxy proxyConfig (effectiveMultiplexer tcpMux proxyConfig))

/-- `Control::close_proxy_dynamic`. -/
def closeProxyDynamic (c : Control) (proxyName : String) : Control :=
  c.issue (.closeProxy proxyName)

/-- A call goes on. -/
def advance (c : Control) (i : Nat) (f : Call → Option Call) : Option Control :=
  c.calls[i]?.bind fun call ↦ (f call).map fun call' ↦ { c with calls := c.calls.set i call' }

/-- A call is replied to, or its sender dropped. -/
def reply (c : Control) (i : Nat) (channel : Channel) : Control :=
  { c with calls := c.calls.modify i (Call.reply channel) }

/-- A slot is emptied. -/
def vacate (c : Control) : Kind → Control
  | .xtcp => { c with pendingXtcp := none }
  | .register => { c with pendingProxyResp := none }

/-- Take what is in a slot, if anything, and send its reply or drop its sender. -/
def takeSlot (c : Control) (k : Kind) (channel : Channel) : Control :=
  match c.pending k with
  | none => c
  | some i => (c.vacate k).reply i channel

/-- A call that gives up empties its slot, whatever is in it. -/
def clear (c : Control) (i : Nat) : Option Control :=
  (c.kindOf i).bind fun k ↦ (c.advance i Call.giveUp).map fun c ↦ c.takeSlot k .closed

/-- `Control::handle_control_command`, up to where it sends the message. -/
def handleControlCommand (c : Control) (i : Nat) : Command → Control
  | .openXtcp _ _ _ =>
    if c.pendingXtcp.isSome then
      c.reply i (.sent (.error (.proxy "xtcp visitor request already in progress")))
    else { c with pendingXtcp := some i, loop := .sending i }
  | .registerProxy proxyConfig multiplexer =>
    if c.pendingProxyResp.isSome then
      c.reply i (.sent (.error (.proxy "another proxy registration is in progress")))
    else { c with
      pendingProxyResp := some ⟨i, proxyConfig, multiplexer⟩
      loop := .sending i }
  | .closeProxy _ => { c with loop := .sending i }

/-- `handle_control_command` after the message was sent. -/
def sent (c : Control) (i : Nat) : Command → Control
  | .openXtcp _ _ _ | .registerProxy _ _ => { c with loop := .serving }
  | .closeProxy proxyName =>
    { c with
      proxyManager := c.proxyManager.unregisterProxy proxyName
      loop := .serving }.reply i (.sent (.ok .closed))

/-- `handle_control_command` after sending has failed.  Only an XTCP request takes the message
loop down with it. -/
def sendFails (c : Control) (i : Nat) (e : Error) : Command → Control
  | .openXtcp _ _ _ => { c with loop := .ending }.takeSlot .xtcp .closed
  | .registerProxy _ _ => { c with loop := .serving }.takeSlot .register (.sent (.error e))
  | .closeProxy _ => { c with loop := .serving }.reply i (.sent (.error e))

/-- `run_message_loop` on a `NewProxyResp`. -/
def handleNewProxyResp (c : Control) (resp : NewProxyRespMsg) (now : Nat) : Control :=
  match c.pendingProxyResp with
  | none => c
  | some pending =>
    if resp.error ≠ "" then
      c.takeSlot .register (.sent (.error (.proxy
        ("proxy " ++ resp.proxyName ++ " registration failed: " ++ resp.error))))
    else
      let effective := { pending.proxyConfig with multiplexer := pending.multiplexer }
      { c with proxyManager := c.proxyManager.registerProxy effective now }.takeSlot .register
        (.sent (.ok (.registered resp.remoteAddr)))

/-- `Control::handle_nathole_response`. -/
def handleNatholeResponse (c : Control) (resp : NatHoleRespMsg) : Control :=
  c.takeSlot .xtcp
    (.sent (if resp.error = "" then .ok (.peer resp) else .error (.proxy resp.error)))

/-- The steps that need no message of the server.  The numbers are those of the calls. -/
inductive Act where
  | requestXtcpPeer (serverName sk visitorAddr : String)
  | registerProxyDynamic (proxyConfig : ProxyConfig)
  | closeProxyDynamic (proxyName : String)
  | enqueue (i : Nat)
  | receive (i : Nat)
  | expire (i : Nat)
  | clear (i : Nat)
  /-- The loop takes a command. -/
  | take
  /-- The message loop returns, or what comes before it. -/
  | fails
  | finishXtcp
  | finishProxy

/-- What is left in the slots at the end is replied to. -/
def shuttingDown : Channel := .sent (.error (.transport "control shutting down"))

/-- One of these steps. -/
def act (tcpMux : Bool) (c : Control) : Act → Option Control
  | .requestXtcpPeer serverName sk visitorAddr =>
    some (c.requestXtcpPeer serverName sk visitorAddr)
  | .registerProxyDynamic proxyConfig => some (c.registerProxyDynamic tcpMux proxyConfig)
  | .closeProxyDynamic proxyName => some (c.closeProxyDynamic proxyName)
  | .enqueue i =>
    -- The channel has room for a hundred commands; it is closed by nobody.
    if c.commands.length < 100 then
      (c.advance i Call.enqueue).map fun c ↦ { c with commands := c.commands ++ [i] }
    else none
  | .receive i => c.advance i Call.receive
  | .expire i => c.advance i Call.expire
  | .clear i => c.clear i
  | .take =>
    match c.loop, c.commands with
    | .serving, i :: rest =>
      c.calls[i]?.map fun call ↦ { c with commands := rest }.handleControlCommand i call.command
    | _, _ => none
  | .fails =>
    match c.loop with
    | .starting => some { c with loop := .ended }
    | .serving => some { c with loop := .ending }
    | _ => none
  | .finishXtcp =>
    match c.loop with
    | .ending => some ({ c with loop := .endingProxy }.takeSlot .xtcp shuttingDown)
    | _ => none
  | .finishProxy =>
    match c.loop with
    | .endingProxy => some ({ c with loop := .ended }.takeSlot .register shuttingDown)
    | _ => none

end Control

/-! ## The control and whoever answers -/

/-- The control, the requests whose answers are still to come, and what was resolved and
removed so far. -/
structure State where
  control : Control
  /-- The calls whose message is on its way to the server, or its answer on the way back. -/
  owed : List Nat
  /-- The answers to registrations, with the configurations they resolved. -/
  resolvedProxy : List (NewProxyRespMsg × ProxyConfig)
  /-- The answers to XTCP requests, with the addresses of the requests they resolved. -/
  resolvedXtcp : List (NatHoleRespMsg × Option String)
  /-- The calls that emptied a slot, with the calls that were in it. -/
  cleared : List (Nat × Nat)

/-- A control that was just made. -/
def start : State := ⟨.new, [], [], [], []⟩

/-- What can happen next. -/
inductive Event where
  | act (a : Control.Act)
  /-- The configured proxies are registered, and the message loop is entered. -/
  | started
  | sent
  /-- Sending fails; a message that was given up may still be flushed with the next one. -/
  | sendFails (e : Error) (delivered : Bool)
  /-- The answer to the registration at a place of `owed` arrives. -/
  | newProxyResp (m : Nat) (remoteAddr error : String) (now : Nat)
  | natHoleResp (m : Nat) (clientAddr relayAddr error : String)
  /-- The answer of `handle_visitor` if it cannot reach the owner: it has no visitor address. -/
  | ownerOffline (m : Nat)

namespace State

/-- A step of the control on its own. -/
def act (tcpMux : Bool) (s : State) (a : Control.Act) : Option State :=
  (s.control.act tcpMux a).map fun c ↦ { s with
    control := c
    cleared := match a with
      | .clear i =>
        s.cleared ++ (((s.control.kindOf i).bind s.control.pending).map fun j ↦ (i, j)).toList
      | _ => s.cleared }

/-- The message of a call may be answered from now on. -/
def owe (s : State) (i : Nat) (delivered : Bool) : List Nat :=
  if delivered && (s.control.kindOf i).isSome then s.owed ++ [i] else s.owed

/-- The message loop reads the answer to a registration. -/
def newProxyResp (s : State) (m : Nat) (resp : NewProxyRespMsg) (now : Nat) : State :=
  { s with
    control := s.control.handleNewProxyResp resp now
    owed := s.owed.eraseIdx m
    resolvedProxy :=
      s.resolvedProxy ++ (s.control.pendingProxyResp.map fun p ↦ (resp, p.proxyConfig)).toList }

/-- The message loop reads the answer to an XTCP request. -/
def natHoleResp (s : State) (m : Nat) (resp : NatHoleRespMsg) : State :=
  { s with
    control := s.control.handleNatholeResponse resp
    owed := s.owed.eraseIdx m
    resolvedXtcp := s.resolvedXtcp ++ (s.control.pendingXtcp.map fun i ↦
      (resp, s.control.calls[i]?.bind fun call ↦ call.command.visitorAddr)).toList }

end State

/-- One step.  The server names a visitor's address as `seenAs` says: an address without a
public IP gets that of the connection. -/
def step (tcpMux : Bool) (seenAs : String → String) (s : State) : Event → Option State
  | .act a => s.act tcpMux a
  | .started =>
    match s.control.loop with
    | .starting => some { s with control := { s.control with loop := .serving } }
    | _ => none
  | .sent =>
    match s.control.loop with
    | .sending i => s.control.calls[i]?.map fun call ↦ { s with
        control := s.control.sent i call.command
        owed := s.owe i true }
    | _ => none
  | .sendFails e delivered =>
    match s.control.loop with
    | .sending i => s.control.calls[i]?.map fun call ↦ { s with
        control := s.control.sendFails i e call.command
        owed := s.owe i delivered }
    | _ => none
  | .newProxyResp m remoteAddr error now =>
    match s.control.loop, s.owed[m]?.bind fun i ↦ s.control.calls[i]?.map Call.command with
    | .serving, some (.registerProxy proxyConfig _) =>
      some (s.newProxyResp m ⟨proxyConfig.name, remoteAddr, error⟩ now)
    | _, _ => none
  | .natHoleResp m clientAddr relayAddr error =>
    match s.control.loop, s.owed[m]?.bind fun i ↦ s.control.calls[i]?.map Call.command with
    | .serving, some (.openXtcp _ _ visitorAddr) =>
      some (s.natHoleResp m ⟨seenAs visitorAddr, clientAddr, relayAddr, error⟩)
    | _, _ => none
  | .ownerOffline m =>
    match s.control.loop, s.owed[m]?.bind fun i ↦ s.control.calls[i]?.map Call.command with
    | .serving, some (.openXtcp _ _ _) =>
      some (s.natHoleResp m ⟨"", "", "", "owner client offline"⟩)
    | _, _ => none

/-- No call is about to empty the slot, and no answer to an earlier request for it is to
come. -/
def Undisturbed (s : State) (k : Kind) : Prop :=
  (∀ j ∈ s.owed, s.control.kindOf j ≠ some k) ∧ ∀ call ∈ s.control.calls, call.clears ≠ some k

/-- The loop takes a command for an empty slot when the slot is undisturbed, time is up only for
requests whose command the loop has taken, and no request waits when an answer without an
address is read. -/
def Paced (s : State) : Event → Prop
  | .act .take => ∀ i ∈ s.control.commands.head?, ∀ k ∈ s.control.kindOf i,
      s.control.pending k = none → Undisturbed s k
  | .act (.expire i) => s.control.kindOf i ≠ none → i ∉ s.control.commands
  | .ownerOffline _ => s.control.pendingXtcp = none
  | _ => True

instance instDecidablePaced (s : State) : ∀ e, Decidable (Paced s e)
  | .act .take => inferInstanceAs (Decidable (∀ i ∈ s.control.commands.head?,
      ∀ k ∈ s.control.kindOf i, s.control.pending k = none →
        (∀ j ∈ s.owed, s.control.kindOf j ≠ some k) ∧
          ∀ call ∈ s.control.calls, call.clears ≠ some k))
  | .act (.expire i) =>
    inferInstanceAs (Decidable (s.control.kindOf i ≠ none → i ∉ s.control.commands))
  | .ownerOffline _ => inferInstanceAs (Decidable (s.control.pendingXtcp = none))
  | .act (.requestXtcpPeer _ _ _) | .act (.registerProxyDynamic _) | .act (.closeProxyDynamic _)
  | .act (.enqueue _) | .act (.receive _) | .act (.clear _) | .act .fails | .act .finishXtcp
  | .act .finishProxy | .started | .sent | .sendFails _ _ | .newProxyResp _ _ _ _
  | .natHoleResp _ _ _ _ => .isTrue trivial

/-! ## The slots of a control -/

namespace Call

variable {call call' : Call} {channel : Channel} {k : Kind}

@[simp] theorem command_reply : (call.reply channel).command = call.command := by
  unfold reply
  split <;> rfl

theorem enqueue_eq_some : call.enqueue = some call' ↔
    call.pc = .sending ∧ { call with pc := .waiting .empty } = call' := by
  unfold enqueue
  split
  · next hpc => simp [hpc]
  · next hpc =>
      constructor
      · intro h
        cases h
      · rintro ⟨hsending, -⟩
        exact absurd hsending hpc

theorem command_of_receive (h : call.receive = some call') : call'.command = call.command := by
  unfold receive at h
  split at h
  · cases h; rfl
  · cases h; rfl
  · cases h

theorem command_of_expire (h : call.expire = some call') : call'.command = call.command := by
  unfold expire at h
  split at h
  · cases h; rfl
  · cases h

theorem giveUp_eq_some : call.giveUp = some call' ↔
    ∃ e, call.pc = .clearing e ∧ { call with pc := .returned (.error e) } = call' := by
  unfold giveUp
  split
  · next e hpc => simp [hpc]
  · next hpc =>
      constructor
      · intro h
        cases h
      · rintro ⟨e, he, -⟩
        exact absurd he (hpc e)

theorem command_of_giveUp (h : call.giveUp = some call') : call'.command = call.command := by
  obtain ⟨e, -, rfl⟩ := giveUp_eq_some.mp h
  rfl

/-- A call that has read its reply is about to empty a slot only if its sender was dropped. -/
theorem clears_of_receive (h : call.receive = some call') :
    call'.waits = false ∧ ∀ k, call'.clears = some k → call.clears = some k := by
  obtain ⟨command, pc⟩ := call
  unfold receive at h
  split at h
  · cases h
    exact ⟨rfl, fun k hk ↦ by cases hk⟩
  · next hpc =>
      obtain rfl : pc = .waiting .closed := hpc
      cases h
      cases command with
      | openXtcp serverName sk visitorAddr => exact ⟨rfl, fun k hk ↦ hk⟩
      | registerProxy proxyConfig multiplexer => exact ⟨rfl, fun k hk ↦ by cases hk⟩
      | closeProxy proxyName => exact ⟨rfl, fun k hk ↦ by cases hk⟩
  · cases h

/-- A call that runs out of time has waited, and empties the slot it waited in. -/
theorem clears_of_expire (h : call.expire = some call') :
    call.waits = true ∧ call'.waits = false ∧
      ∀ k, call'.clears = some k → call.command.kind = some k := by
  obtain ⟨command, pc⟩ := call
  unfold expire at h
  split at h
  · next hpc =>
      obtain rfl : pc = .waiting .empty := hpc
      cases h
      cases command with
      | openXtcp serverName sk visitorAddr => exact ⟨rfl, rfl, fun k hk ↦ hk⟩
      | registerProxy proxyConfig multiplexer => exact ⟨rfl, rfl, fun k hk ↦ hk⟩
      | closeProxy proxyName => exact ⟨rfl, rfl, fun k hk ↦ by cases hk⟩
  · cases h

/-- Who has a reply does not wait any more. -/
theorem waits_reply (hchannel : channel ≠ .empty) : (call.reply channel).waits = false := by
  unfold reply
  split
  · cases channel with
    | empty => exact absurd rfl hchannel
    | sent result => rfl
    | closed => rfl
  · next hpc =>
      unfold waits
      split
      · next h => exact absurd h hpc
      · rfl

/-- A reply adds nobody who is about to empty a slot, except one whose sender was dropped. -/
theorem clears_reply (h : (call.reply channel).clears = some k) :
    call.clears = some k ∨ channel = .closed ∧ call.command.kind = some k := by
  unfold reply at h
  split at h
  · next hpc =>
      obtain ⟨command, pc⟩ := call
      obtain rfl : pc = .waiting .empty := hpc
      cases channel with
      | closed =>
          cases command with
          | openXtcp serverName sk visitorAddr => exact .inr ⟨rfl, h⟩
          | registerProxy proxyConfig multiplexer => cases h
          | closeProxy proxyName => cases h
      | empty => cases command <;> cases h
      | sent result => cases command <;> cases h
  · exact .inl h

end Call

namespace Control

variable {c c' : Control} {i j : Nat} {k : Kind} {channel : Channel} {f : Call → Option Call}

/-- The calls that wait for their reply, and whose command the loop has taken. -/
def waitsFor (c : Control) (k : Kind) : Set Nat :=
  {i | i ∉ c.commands ∧
    ∃ call, c.calls[i]? = some call ∧ call.waits = true ∧ call.command.kind = some k}

/-- The calls that are about to empty a slot. -/
def clearsFor (c : Control) (k : Kind) : Set Nat :=
  {i | ∃ call, c.calls[i]? = some call ∧ call.clears = some k}

theorem advance_eq_some : c.advance i f = some c' ↔
    ∃ call call', c.calls[i]? = some call ∧ f call = some call' ∧
      { c with calls := c.calls.set i call' } = c' := by
  simp only [advance, Option.bind_eq_some_iff, Option.map_eq_some_iff]
  grind

/-- The command of a call. -/
def commandOf (c : Control) (i : Nat) : Option Command := c.calls[i]?.map Call.command

theorem kindOf_eq : c.kindOf i = (c.commandOf i).bind Command.kind := by
  rw [kindOf, commandOf, Option.bind_map]
  rfl

/-- What a step of the control on its own can do. -/
inductive Acts (c : Control) : Act → Control → Prop
  /-- A call is made. -/
  | issue {a : Act} (command : Command) : Acts c a (c.issue command)
  | enqueue (i : Nat) (c₁ : Control) (hc₁ : c.advance i Call.enqueue = some c₁) :
      Acts c (.enqueue i) { c₁ with commands := c₁.commands ++ [i] }
  | receive {c' : Control} (i : Nat) (hc' : c.advance i Call.receive = some c') :
      Acts c (.receive i) c'
  | expire {c' : Control} (i : Nat) (hc' : c.advance i Call.expire = some c') :
      Acts c (.expire i) c'
  | clear {c' : Control} (i : Nat) (hc' : c.clear i = some c') : Acts c (.clear i) c'
  | take (i : Nat) (rest : List Nat) (call : Call) (hserving : c.loop = .serving)
      (hcommands : c.commands = i :: rest) (hcall : c.calls[i]? = some call) :
      Acts c .take ({ c with commands := rest }.handleControlCommand i call.command)
  | fails (loop : LoopPc) (hover : loop.over = true) : Acts c .fails { c with loop := loop }
  | finishXtcp :
      Acts c .finishXtcp ({ c with loop := .endingProxy }.takeSlot .xtcp shuttingDown)
  | finishProxy :
      Acts c .finishProxy ({ c with loop := .ended }.takeSlot .register shuttingDown)

theorem acts_of_act {tcpMux : Bool} {a : Act} (ht : c.act tcpMux a = some c') : Acts c a c' := by
  cases a with
  | requestXtcpPeer serverName sk visitorAddr => exact Option.some.inj ht ▸ .issue _
  | registerProxyDynamic proxyConfig => exact Option.some.inj ht ▸ .issue _
  | closeProxyDynamic proxyName => exact Option.some.inj ht ▸ .issue _
  | enqueue i =>
      simp only [act] at ht
      split at ht
      · obtain ⟨c₁, hc₁, rfl⟩ := Option.map_eq_some_iff.mp ht
        exact .enqueue i c₁ hc₁
      · cases ht
  | receive i => exact .receive i ht
  | expire i => exact .expire i ht
  | clear i => exact .clear i ht
  | take =>
      simp only [act] at ht
      split at ht
      · next i rest hserving hcommands =>
          obtain ⟨call, hcall, rfl⟩ := Option.map_eq_some_iff.mp ht
          exact .take i rest call hserving hcommands hcall
      · cases ht
  | fails =>
      simp only [act] at ht
      split at ht
      · exact Option.some.inj ht ▸ .fails .ended rfl
      · exact Option.some.inj ht ▸ .fails .ending rfl
      · cases ht
  | finishXtcp =>
      simp only [act] at ht
      split at ht
      · exact Option.some.inj ht ▸ .finishXtcp
      · cases ht
  | finishProxy =>
      simp only [act] at ht
      split at ht
      · exact Option.some.inj ht ▸ .finishProxy
      · cases ht

theorem commandOf_of_getElem? {call : Call} (h : c.calls[i]? = some call) :
    c.commandOf i = some call.command := by
  rw [commandOf, h]
  rfl

theorem kindOf_of_commandOf {command : Command} (h : c.commandOf i = some command) :
    c.kindOf i = command.kind := by
  rw [kindOf_eq, h]
  rfl

/-- A call that goes on keeps its command. -/
theorem commandOf_advance (h : c.advance i f = some c')
    (hf : ∀ call call', f call = some call' → call'.command = call.command) :
    c'.commandOf j = c.commandOf j := by
  obtain ⟨call, call', hcall, hcall', rfl⟩ := advance_eq_some.mp h
  simp only [commandOf, List.getElem?_set]
  split
  · next hij =>
      subst hij
      have hlt : i < c.calls.length := (List.getElem?_eq_some_iff.mp hcall).1
      rw [if_pos hlt, hcall, Option.map_some, Option.map_some, hf call call' hcall']
  · rfl

@[simp] theorem commandOf_reply : (c.reply i channel).commandOf j = c.commandOf j := by
  simp only [commandOf, reply, List.getElem?_modify, Option.map_eq_map, Option.map_map]
  congr 1
  funext call
  simp only [Function.comp_apply]
  split
  · exact Call.command_reply
  · rfl

@[simp] theorem commandOf_vacate : (c.vacate k).commandOf j = c.commandOf j := by
  cases k <;> rfl

@[simp] theorem commandOf_takeSlot : (c.takeSlot k channel).commandOf j = c.commandOf j := by
  unfold takeSlot
  split
  · rfl
  · rw [commandOf_reply, commandOf_vacate]

@[simp] theorem loop_takeSlot : (c.takeSlot k channel).loop = c.loop := by
  unfold takeSlot
  split
  · rfl
  · cases k <;> rfl

@[simp] theorem commands_takeSlot : (c.takeSlot k channel).commands = c.commands := by
  unfold takeSlot
  split
  · rfl
  · cases k <;> rfl

@[simp] theorem proxyManager_takeSlot :
    (c.takeSlot k channel).proxyManager = c.proxyManager := by
  unfold takeSlot
  split
  · rfl
  · cases k <;> rfl

/-- Taking what is in a slot leaves the other slot alone. -/
theorem pending_takeSlot (k' : Kind) :
    (c.takeSlot k channel).pending k' = if k' = k then none else c.pending k' := by
  unfold takeSlot
  split
  · next hnone =>
      split
      · next h => rw [h, hnone]
      · rfl
  · cases k <;> cases k' <;> rfl

theorem pendingProxyResp_takeSlot :
    (c.takeSlot k channel).pendingProxyResp =
      if k = .register then none else c.pendingProxyResp := by
  unfold takeSlot
  split
  · next hnone =>
      split
      · next h =>
          subst h
          exact Option.map_eq_none_iff.mp hnone
      · rfl
  · cases k <;> rfl

/-- Who has a reply does not wait any more. -/
theorem mem_waitsFor_reply (hchannel : channel ≠ .empty)
    (h : j ∈ (c.reply i channel).waitsFor k) : j ∈ c.waitsFor k ∧ j ≠ i := by
  obtain ⟨htaken, call', hcall', hwaits, hkind⟩ := h
  simp only [reply, List.getElem?_modify, Option.map_eq_map, Option.map_eq_some_iff] at hcall'
  obtain ⟨call, hcall, rfl⟩ := hcall'
  split at hwaits
  · rw [Call.waits_reply hchannel] at hwaits
    cases hwaits
  · next hij =>
      rw [if_neg hij] at hkind
      exact ⟨⟨htaken, call, hcall, hwaits, hkind⟩, Ne.symm hij⟩

theorem mem_clearsFor_reply (h : j ∈ (c.reply i channel).clearsFor k) :
    j ∈ c.clearsFor k ∨ channel = .closed ∧ j = i ∧ c.kindOf i = some k := by
  obtain ⟨call', hcall', hclears⟩ := h
  simp only [reply, List.getElem?_modify, Option.map_eq_map, Option.map_eq_some_iff] at hcall'
  obtain ⟨call, hcall, rfl⟩ := hcall'
  split at hclears
  · next hij =>
      subst hij
      rcases Call.clears_reply hclears with hold | ⟨hclosed, hkind⟩
      · exact .inl ⟨call, hcall, hold⟩
      · exact .inr ⟨hclosed, rfl, by rw [kindOf, hcall]; exact hkind⟩
  · exact .inl ⟨call, hcall, hclears⟩

/-- When the loop takes a command, at most the call it comes from joins those that wait. -/
theorem mem_waitsFor_of_take {rest : List Nat} (hcommands : c.commands = i :: rest)
    (h : j ∈ { c with commands := rest }.waitsFor k) :
    j ∈ c.waitsFor k ∨ j = i ∧ c.kindOf i = some k := by
  obtain ⟨htaken, call, hcall, hwaits, hkind⟩ := h
  by_cases hj : j = i
  · subst hj
    exact .inr ⟨rfl, by rw [kindOf, show c.calls[j]? = some call from hcall]; exact hkind⟩
  · refine .inl ⟨?_, call, hcall, hwaits, hkind⟩
    rw [hcommands, List.mem_cons]
    exact fun h ↦ h.elim hj htaken

end Control

/-- A slot of the control, with the requests that matter to it. -/
def slot (c : Control) (owed : List Nat) (k : Kind) : Slot Nat where
  entry := c.pending k
  flying := {i | (i ∈ owed ∨ c.loop = .sending i) ∧ c.kindOf i = some k}
  waiting := c.waitsFor k
  clearing := c.clearsFor k

/-- The slots hold what they are for, and are sound. -/
structure Tidy (c : Control) (owed : List Nat) : Prop where
  sound : ∀ k, (slot c owed k).Sound
  xtcp : ∀ i, c.pendingXtcp = some i → c.kindOf i = some .xtcp
  register : ∀ p, c.pendingProxyResp = some p →
    c.commandOf p.replyTx = some (.registerProxy p.proxyConfig p.multiplexer)
  known : ∀ i, i ∈ owed ∨ c.loop = .sending i → c.commandOf i ≠ none

namespace Tidy

variable {c c' : Control} {owed owed' : List Nat} {i j : Nat} {k : Kind} {channel : Channel}

theorem kindOf_eq (h : Tidy c owed) (hj : c.pending k = some j) : c.kindOf j = some k := by
  cases k with
  | xtcp => exact h.xtcp j hj
  | register =>
      obtain ⟨p, hp, rfl⟩ := Option.map_eq_some_iff.mp hj
      exact Control.kindOf_of_commandOf (h.register p hp)

/-- Steps that enter nothing into a slot and take nothing out. -/
theorem frame (h : Tidy c owed)
    (hcommand : ∀ j command, c.commandOf j = some command → c'.commandOf j = some command)
    (hxtcp : c'.pendingXtcp = c.pendingXtcp)
    (hregister : c'.pendingProxyResp = c.pendingProxyResp)
    (howed : ∀ i, i ∈ owed' ∨ c'.loop = .sending i → (i ∈ owed ∨ c.loop = .sending i) ∨
      ∃ command, c.commandOf i = some command ∧ command.kind = none)
    (hwaits : ∀ k, c'.waitsFor k ⊆ c.waitsFor k)
    (hclears : ∀ k, c'.clearsFor k ⊆ c.clearsFor k ∪ c.waitsFor k) : Tidy c' owed' := by
  have hkind : ∀ i, c.commandOf i ≠ none → c'.kindOf i = c.kindOf i := by
    intro i hi
    obtain ⟨command, hcommand'⟩ := Option.ne_none_iff_exists'.mp hi
    rw [Control.kindOf_eq, Control.kindOf_eq, hcommand i command hcommand', hcommand']
  have hpending : ∀ k, c'.pending k = c.pending k := by
    intro k
    cases k with
    | xtcp => exact hxtcp
    | register => exact congrArg (Option.map PendingProxyResp.replyTx) hregister
  have hknown : ∀ i, i ∈ owed' ∨ c'.loop = .sending i → c.commandOf i ≠ none := by
    intro i hi hnone
    rcases howed i hi with hold | ⟨command, hnew, -⟩
    · exact h.known i hold hnone
    · cases hnew.symm.trans hnone
  constructor
  · intro k
    refine (h.sound k).mono ?_ ?_ ?_ (hclears k)
    · intro j hj
      exact (hpending k).symm.trans hj
    · rintro i ⟨hi, hik⟩
      rw [hkind i (hknown i hi)] at hik
      refine ⟨(howed i hi).resolve_right ?_, hik⟩
      rintro ⟨command, hcommand', hnone⟩
      rw [Control.kindOf_eq, hcommand'] at hik
      cases hnone.symm.trans hik
    · intro i hi
      exact ⟨hwaits k hi, hpending k⟩
  · intro i hi
    have hki := h.xtcp i (hxtcp.symm.trans hi)
    rw [hkind i fun hnone ↦ ?_, hki]
    rw [Control.kindOf_eq, hnone] at hki
    cases hki
  · intro p hp
    exact hcommand _ _ (h.register p (hregister.symm.trans hp))
  · intro i hi hnone
    obtain ⟨command, hcommand'⟩ := Option.ne_none_iff_exists'.mp (hknown i hi)
    cases (hcommand i command hcommand').symm.trans hnone

/-- What is in a slot may be taken by anyone: nothing else waits there. -/
theorem takeSlot (h : Tidy c owed) (hchannel : channel ≠ .empty) :
    Tidy (c.takeSlot k channel) owed := by
  cases hentry : c.pending k with
  | none =>
      rw [Control.takeSlot, hentry]
      exact h
  | some i =>
      have hi : c.kindOf i = some k := h.kindOf_eq hentry
      have hkind : ∀ j, (c.takeSlot k channel).kindOf j = c.kindOf j := fun j ↦ by
        rw [Control.kindOf_eq, Control.kindOf_eq, Control.commandOf_takeSlot]
      have hcalls : (c.takeSlot k channel).calls = (c.reply i channel).calls := by
        rw [Control.takeSlot, hentry]
        cases k <;> rfl
      constructor
      · intro k'
        have hwaits : ∀ j ∈ (c.takeSlot k channel).waitsFor k', j ∈ c.waitsFor k' ∧ j ≠ i := by
          intro j hj
          refine Control.mem_waitsFor_reply hchannel ?_
          rw [Control.waitsFor, Control.commands_takeSlot, hcalls] at hj
          exact hj
        by_cases hk : k' = k
        · subst hk
          refine Slot.sound_of_empty ?_ fun j hj ↦ ?_
          · exact (Control.pending_takeSlot k').trans (if_pos rfl)
          · obtain ⟨hold, hne⟩ := hwaits j hj
            exact hne (Option.some.inj (((h.sound k').waiting j hold).symm.trans hentry))
        · have hsame : (c.takeSlot k channel).pending k' = c.pending k' :=
            (Control.pending_takeSlot k').trans (if_neg hk)
          refine (h.sound k').mono ?_ ?_ ?_ ?_
          · intro j hj
            exact hsame.symm.trans hj
          · rintro j ⟨hj, hjk⟩
            rw [Control.loop_takeSlot] at hj
            exact ⟨hj, (hkind j).symm.trans hjk⟩
          · intro j hj
            exact ⟨(hwaits j hj).1, hsame⟩
          · intro j hj
            -- The call that was taken out waits for the other slot.
            have hj' : j ∈ (c.reply i channel).clearsFor k' := by
              rw [Control.clearsFor, ← hcalls]
              exact hj
            rcases Control.mem_clearsFor_reply hj' with hold | ⟨-, -, hother⟩
            · exact .inl hold
            · exact absurd (Option.some.inj (hother.symm.trans hi)) hk
      · intro j hj
        rw [hkind]
        have hpending : (c.takeSlot k channel).pending .xtcp = some j := hj
        rw [Control.pending_takeSlot] at hpending
        split at hpending
        · cases hpending
        · exact h.xtcp j hpending
      · intro p hp
        rw [Control.commandOf_takeSlot]
        rw [Control.pendingProxyResp_takeSlot] at hp
        split at hp
        · cases hp
        · exact h.register p hp
      · intro j hj
        rw [Control.loop_takeSlot] at hj
        rw [Control.commandOf_takeSlot]
        exact h.known j hj

/-- A call goes on: it stops to wait, and empties a slot only if it waited there before. -/
theorem advance {f : Call → Option Call} (h : Tidy c owed) (hadvance : c.advance i f = some c')
    (hcommand : ∀ call call', f call = some call' → call'.command = call.command)
    (hf : ∀ call call', c.calls[i]? = some call → f call = some call' →
      call'.waits = false ∧ ∀ k, call'.clears = some k → call.clears = some k ∨
        call.waits = true ∧ call.command.kind = some k ∧ i ∉ c.commands) :
    Tidy c' owed := by
  obtain ⟨call, call', hcall, hcall', rfl⟩ := Control.advance_eq_some.mp hadvance
  obtain ⟨hwaits, hclears⟩ := hf call call' hcall hcall'
  refine h.frame ?_ rfl rfl (fun _ ↦ .inl) ?_ ?_
  · intro j command hj
    exact (Control.commandOf_advance hadvance hcommand).trans hj
  · rintro k j ⟨htaken, x, hx, hxwaits, hkind⟩
    rcases eq_or_of_getElem?_set hx with ⟨-, rfl⟩ | ⟨-, hold⟩
    · rw [hwaits] at hxwaits
      cases hxwaits
    · exact ⟨htaken, x, hold, hxwaits, hkind⟩
  · rintro k j ⟨x, hx, hxclears⟩
    rcases eq_or_of_getElem?_set hx with ⟨rfl, rfl⟩ | ⟨-, hold⟩
    · rcases hclears k hxclears with hcleared | ⟨hwaited, hkind, htaken⟩
      · exact .inl ⟨call, hcall, hcleared⟩
      · exact .inr ⟨htaken, call, hcall, hwaited, hkind⟩
    · exact .inl ⟨x, hold, hxclears⟩

/-- A call starts. -/
theorem issue (h : Tidy c owed) (command : Command) : Tidy (c.issue command) owed := by
  have hnew : ∀ {j : Nat} {x : Call}, (c.calls ++ [⟨command, .sending⟩])[j]? = some x →
      x.pc = .sending ∨ c.calls[j]? = some x := by
    intro j x hx
    rcases eq_or_of_getElem?_concat hx with ⟨-, rfl⟩ | hold
    · exact .inl rfl
    · exact .inr hold
  refine h.frame ?_ rfl rfl (fun _ ↦ .inl) ?_ ?_
  · intro j command' hj
    obtain ⟨x, hx, rfl⟩ := Option.map_eq_some_iff.mp hj
    have hlt : j < c.calls.length := (List.getElem?_eq_some_iff.mp hx).1
    rw [Control.commandOf, Control.issue, List.getElem?_append_left hlt, hx, Option.map_some]
  · rintro k j ⟨htaken, x, hx, hxwaits, hkind⟩
    rcases hnew hx with hpc | hold
    · rw [Call.waits, hpc] at hxwaits
      cases hxwaits
    · exact ⟨htaken, x, hold, hxwaits, hkind⟩
  · rintro k j ⟨x, hx, hxclears⟩
    rcases hnew hx with hpc | hold
    · rw [Call.clears, hpc] at hxclears
      cases hxclears
    · exact .inl ⟨x, hold, hxclears⟩

/-- A command is put on the channel. -/
theorem enqueue (h : Tidy c owed) (hadvance : c.advance i Call.enqueue = some c') :
    Tidy { c' with commands := c'.commands ++ [i] } owed := by
  have hcommand : ∀ j, c'.commandOf j = c.commandOf j := fun j ↦
    Control.commandOf_advance hadvance fun call call' hcall' ↦ by
      obtain ⟨-, rfl⟩ := Call.enqueue_eq_some.mp hcall'
      rfl
  obtain ⟨call, call', hcall, hcall', rfl⟩ := Control.advance_eq_some.mp hadvance
  obtain ⟨-, rfl⟩ := Call.enqueue_eq_some.mp hcall'
  refine h.frame (fun j command hj ↦ (hcommand j).trans hj) rfl rfl (fun _ ↦ .inl) ?_ ?_
  · rintro k j ⟨htaken, x, hx, hwaits, hkind⟩
    simp only [List.mem_append, List.mem_singleton, not_or] at htaken
    refine ⟨htaken.1, x, ?_, hwaits, hkind⟩
    rwa [List.getElem?_set_ne (Ne.symm htaken.2)] at hx
  · rintro k j ⟨x, hx, hclears⟩
    rcases eq_or_of_getElem?_set hx with ⟨-, rfl⟩ | ⟨-, hold⟩
    · simp [Call.clears] at hclears
    · exact .inl ⟨x, hold, hclears⟩

/-- The loop takes a command and replies at once. -/
theorem refuse {rest : List Nat} {result : Result Answer} (h : Tidy c owed)
    (hcommands : c.commands = i :: rest) :
    Tidy ({ c with commands := rest }.reply i (.sent result)) owed := by
  refine h.frame ?_ rfl rfl (fun _ ↦ .inl) ?_ ?_
  · intro j command hj
    rw [Control.commandOf_reply]
    exact hj
  · intro k j hj
    obtain ⟨hj, hne⟩ := Control.mem_waitsFor_reply Channel.noConfusion hj
    exact (Control.mem_waitsFor_of_take hcommands hj).resolve_right fun h ↦ hne h.1
  · intro k j hj
    rcases Control.mem_clearsFor_reply hj with hold | ⟨hclosed, -⟩
    · exact .inl hold
    · cases hclosed

/-- The loop takes a command and enters its call into the empty slot. -/
theorem enter {rest : List Nat} (h : Tidy c owed) (hcommands : c.commands = i :: rest)
    (hkind : c.kindOf i = some k) (hempty : c.pending k = none) (hserving : c.loop = .serving)
    (howed : ∀ j ∈ owed, c.kindOf j ≠ some k) (hclears : ∀ call ∈ c.calls, call.clears ≠ some k)
    (hcalls' : c'.calls = c.calls) (hcommands' : c'.commands = rest)
    (hloop' : c'.loop = .sending i)
    (hpending' : ∀ k', c'.pending k' = if k' = k then some i else c.pending k')
    (hregister' : ∀ p, c'.pendingProxyResp = some p →
      c.commandOf p.replyTx = some (.registerProxy p.proxyConfig p.multiplexer)) :
    Tidy c' owed := by
  have hcommand : ∀ j, c'.commandOf j = c.commandOf j := fun j ↦ by
    rw [Control.commandOf, Control.commandOf, hcalls']
  have hkind' : ∀ j, c'.kindOf j = c.kindOf j := fun j ↦ by
    rw [Control.kindOf, Control.kindOf, hcalls']
  have hflying' : ∀ k', (slot c' owed k').flying ⊆ insert i (slot c owed k').flying := by
    rintro k' j ⟨hj | hj, hjk⟩
    · exact .inr ⟨.inl hj, (hkind' j).symm.trans hjk⟩
    · rw [hloop'] at hj
      exact .inl (LoopPc.sending.inj hj).symm
  have hwaiting' : ∀ k', ∀ j ∈ c'.waitsFor k', j ∈ c.waitsFor k' ∨ j = i ∧ k' = k := by
    intro k' j hj
    rw [Control.waitsFor, hcalls', hcommands'] at hj
    rcases Control.mem_waitsFor_of_take hcommands hj with hold | ⟨rfl, hj⟩
    · exact .inl hold
    · exact .inr ⟨rfl, Option.some.inj (hj.symm.trans hkind)⟩
  have hclearing' : ∀ k', c'.clearsFor k' ⊆ c.clearsFor k' := by
    intro k' j hj
    rw [Control.clearsFor, hcalls'] at hj
    exact hj
  constructor
  · intro k'
    by_cases hk : k' = k
    · subst hk
      refine (h.sound k').enter hempty ?_ ?_ ((hpending' k').trans (if_pos rfl)) (hflying' k') ?_
        (hclearing' k')
      · refine Set.eq_empty_iff_forall_notMem.mpr ?_
        rintro j ⟨hj | hj, hjk⟩
        · exact howed j hj hjk
        · rw [hserving] at hj
          cases hj
      · refine Set.eq_empty_iff_forall_notMem.mpr ?_
        rintro j ⟨call, hcall, hcleared⟩
        exact hclears call (List.mem_of_getElem? hcall) hcleared
      · intro j hj
        exact (hwaiting' k' j hj).symm.imp_left And.left
    · have hsame : c'.pending k' = c.pending k' := (hpending' k').trans (if_neg hk)
      refine (h.sound k').mono ?_ ?_ ?_ ?_
      · intro j hj
        exact hsame.symm.trans hj
      · intro j hj
        refine (hflying' k' hj).resolve_left ?_
        rintro rfl
        exact hk (Option.some.inj ((hj.2.symm.trans (hkind' j)).trans hkind))
      · intro j hj
        exact ⟨(hwaiting' k' j hj).resolve_right fun h ↦ hk h.2, hsame⟩
      · exact fun j hj ↦ .inl (hclearing' k' hj)
  · intro j hj
    have hpending : c'.pending .xtcp = some j := hj
    rw [hpending'] at hpending
    rw [hkind']
    split at hpending
    · next hk =>
        obtain rfl := Option.some.inj hpending
        rw [hkind, hk]
    · exact h.xtcp j hpending
  · intro p hp
    rw [hcommand]
    exact hregister' p hp
  · rintro j (hj | hj) hnone
    · exact h.known j (.inl hj) ((hcommand j).symm.trans hnone)
    · rw [hloop'] at hj
      obtain rfl := LoopPc.sending.inj hj
      rw [Control.kindOf_eq, ← hcommand, hnone] at hkind
      cases hkind

/-- The loop goes on without a message to send. -/
theorem withLoop {loop : LoopPc} (h : Tidy c owed) (hloop : ∀ i, loop ≠ .sending i)
    (howed : ∀ i ∈ owed', i ∈ owed ∨ c.loop = .sending i) :
    Tidy { c with loop := loop } owed' := by
  refine h.frame (fun _ _ hj ↦ hj) rfl rfl ?_ (fun _ ↦ subset_rfl) fun _ ↦ Set.subset_union_left
  rintro i (hi | hi)
  · exact .inl (howed i hi)
  · exact absurd hi (hloop i)

/-- A call is replied to. -/
theorem reply {result : Result Answer} (h : Tidy c owed) :
    Tidy (c.reply i (.sent result)) owed := by
  refine h.frame ?_ rfl rfl (fun _ ↦ .inl) ?_ ?_
  · intro j command hj
    exact Control.commandOf_reply.trans hj
  · intro k j hj
    exact (Control.mem_waitsFor_reply Channel.noConfusion hj).1
  · intro k j hj
    rcases Control.mem_clearsFor_reply hj with hold | ⟨hclosed, -⟩
    · exact .inl hold
    · cases hclosed

/-- The slots have nothing to do with the registered proxies. -/
theorem withManager {pm : ProxyManager} (h : Tidy c owed) :
    Tidy { c with proxyManager := pm } owed :=
  h.frame (fun _ _ hj ↦ hj) rfl rfl (fun _ ↦ .inl) (fun _ ↦ subset_rfl)
    fun _ ↦ Set.subset_union_left

/-- A call empties its slot. -/
theorem clear (h : Tidy c owed) (ht : c.clear i = some c') : Tidy c' owed := by
  obtain ⟨k, -, ht⟩ := Option.bind_eq_some_iff.mp ht
  obtain ⟨c₁, hc₁, rfl⟩ := Option.map_eq_some_iff.mp ht
  refine (h.advance hc₁ (fun _ _ ↦ Call.command_of_giveUp) ?_).takeSlot Channel.noConfusion
  intro call call' _ hcall'
  obtain ⟨e, -, rfl⟩ := Call.giveUp_eq_some.mp hcall'
  exact ⟨rfl, fun k hk ↦ by cases hk⟩

/-- The loop takes a command. -/
theorem take {rest : List Nat} {command : Command} (h : Tidy c owed)
    (hserving : c.loop = .serving) (hcommands : c.commands = i :: rest)
    (hcommand : c.commandOf i = some command)
    (hpaced : ∀ k ∈ command.kind, c.pending k = none →
      (∀ j ∈ owed, c.kindOf j ≠ some k) ∧ ∀ call ∈ c.calls, call.clears ≠ some k) :
    Tidy ({ c with commands := rest }.handleControlCommand i command) owed := by
  have hkind := Control.kindOf_of_commandOf hcommand
  cases command with
  | openXtcp serverName sk visitorAddr =>
      rw [Control.handleControlCommand]
      split
      · exact h.refuse hcommands
      · next hempty =>
          have hnone : c.pendingXtcp = none := by simpa using hempty
          obtain ⟨howed, hclears⟩ := hpaced .xtcp rfl hnone
          refine h.enter hcommands hkind hnone hserving howed hclears rfl rfl rfl ?_ h.register
          intro k'
          cases k' <;> rfl
  | registerProxy proxyConfig multiplexer =>
      rw [Control.handleControlCommand]
      split
      · exact h.refuse hcommands
      · next hempty =>
          have hnone : c.pendingProxyResp = none := by simpa using hempty
          have hnone' : c.pending .register = none := by rw [Control.pending, hnone]; rfl
          obtain ⟨howed, hclears⟩ := hpaced .register rfl hnone'
          refine h.enter hcommands hkind hnone' hserving howed hclears rfl rfl rfl ?_ ?_
          · intro k'
            cases k' <;> rfl
          · intro p hp
            obtain rfl := Option.some.inj hp
            exact hcommand
  | closeProxy proxyName =>
      refine h.frame (fun _ _ hj ↦ hj) rfl rfl ?_ ?_ fun _ ↦ Set.subset_union_left
      · rintro j (hj | hj)
        · exact .inl (.inl hj)
        · obtain rfl := LoopPc.sending.inj hj
          exact .inr ⟨_, hcommand, rfl⟩
      · intro k j hj
        refine (Control.mem_waitsFor_of_take hcommands hj).resolve_right fun hi ↦ ?_
        cases hkind.symm.trans hi.2

/-- The message of a command was sent. -/
theorem sent {command : Command} (h : Tidy c owed)
    (howed : ∀ j ∈ owed', j ∈ owed ∨ c.loop = .sending j) : Tidy (c.sent i command) owed' := by
  have hserving : Tidy { c with loop := .serving } owed' :=
    h.withLoop (fun _ ↦ LoopPc.noConfusion) howed
  cases command with
  | openXtcp serverName sk visitorAddr => exact hserving
  | registerProxy proxyConfig multiplexer => exact hserving
  | closeProxy proxyName => exact hserving.withManager.reply

/-- The message of a command was not sent, or not as far as the loop knows. -/
theorem sendFails {command : Command} {e : Error} (h : Tidy c owed)
    (howed : ∀ j ∈ owed', j ∈ owed ∨ c.loop = .sending j) :
    Tidy (c.sendFails i e command) owed' := by
  cases command with
  | openXtcp serverName sk visitorAddr =>
      exact (h.withLoop (fun _ ↦ LoopPc.noConfusion) howed).takeSlot Channel.noConfusion
  | registerProxy proxyConfig multiplexer =>
      exact (h.withLoop (fun _ ↦ LoopPc.noConfusion) howed).takeSlot Channel.noConfusion
  | closeProxy proxyName =>
      exact (h.withLoop (fun _ ↦ LoopPc.noConfusion) howed).reply

/-- An answer is read. -/
theorem erase (h : Tidy c owed) (m : Nat) : Tidy c (owed.eraseIdx m) :=
  h.frame (fun _ _ hj ↦ hj) rfl rfl
    (fun _ hi ↦ .inl (hi.imp_left fun hi ↦ List.mem_of_mem_eraseIdx hi)) (fun _ ↦ subset_rfl)
    fun _ ↦ Set.subset_union_left

theorem handleNewProxyResp (h : Tidy c owed) (resp : NewProxyRespMsg) (now : Nat) :
    Tidy (c.handleNewProxyResp resp now) owed := by
  unfold Control.handleNewProxyResp
  split
  · exact h
  · split
    · exact h.takeSlot Channel.noConfusion
    · exact h.withManager.takeSlot Channel.noConfusion

/-- A step of the control on its own keeps the slots tidy. -/
theorem act {tcpMux : Bool} {s : State} {a : Control.Act} (h : Tidy s.control s.owed)
    (hpaced : Paced s (.act a)) (ht : s.control.act tcpMux a = some c') : Tidy c' s.owed := by
  cases Control.acts_of_act ht with
  | issue command => exact h.issue command
  | enqueue i c₁ hc₁ => exact h.enqueue hc₁
  | receive i hc' =>
      refine h.advance hc' (fun _ _ ↦ Call.command_of_receive) fun call call' _ hcall' ↦ ?_
      obtain ⟨hwaits, hclears⟩ := Call.clears_of_receive hcall'
      exact ⟨hwaits, fun k hk ↦ .inl (hclears k hk)⟩
  | expire i hc' =>
      refine h.advance hc' (fun _ _ ↦ Call.command_of_expire) fun call call' hcall hcall' ↦ ?_
      obtain ⟨hwaited, hwaits, hclears⟩ := Call.clears_of_expire hcall'
      refine ⟨hwaits, fun k hk ↦ .inr ⟨hwaited, hclears k hk, hpaced ?_⟩⟩
      rw [Control.kindOf, hcall, Option.bind_some, hclears k hk]
      exact Option.some_ne_none k
  | clear i hc' => exact h.clear hc'
  | take i rest call hserving hcommands hcall =>
      have hcommand := Control.commandOf_of_getElem? hcall
      refine h.take hserving hcommands hcommand fun k hk hempty ↦ hpaced i ?_ k ?_ hempty
      · rw [hcommands]
        rfl
      · rw [Control.kindOf_of_commandOf hcommand]
        exact hk
  | fails loop hover =>
      refine h.withLoop (fun i hi ↦ ?_) fun _ ↦ .inl
      rw [hi] at hover
      cases hover
  | finishXtcp | finishProxy =>
      exact (h.withLoop (fun _ ↦ LoopPc.noConfusion) fun _ ↦ .inl).takeSlot Channel.noConfusion

end Tidy

/-! ## Answers and timers find their own requests -/

variable {tcpMux : Bool} {seenAs : String → String}

/-- What can happen in one step. -/
inductive Steps (tcpMux : Bool) (seenAs : String → String) (s : State) : Event → State → Prop
  | act {t : State} (a : Control.Act) (ht : s.act tcpMux a = some t) :
      Steps tcpMux seenAs s (.act a) t
  | started (hstarting : s.control.loop = .starting) :
      Steps tcpMux seenAs s .started { s with control := { s.control with loop := .serving } }
  | sent (i : Nat) (call : Call) (hloop : s.control.loop = .sending i)
      (hcall : s.control.calls[i]? = some call) :
      Steps tcpMux seenAs s .sent
        { s with control := s.control.sent i call.command, owed := s.owe i true }
  | sendFails (e : Error) (delivered : Bool) (i : Nat) (call : Call)
      (hloop : s.control.loop = .sending i) (hcall : s.control.calls[i]? = some call) :
      Steps tcpMux seenAs s (.sendFails e delivered)
        { s with control := s.control.sendFails i e call.command, owed := s.owe i delivered }
  | newProxyResp (m : Nat) (remoteAddr error : String) (now i : Nat) (proxyConfig : ProxyConfig)
      (multiplexer : String) (hserving : s.control.loop = .serving) (hi : s.owed[m]? = some i)
      (hcommand : s.control.commandOf i = some (.registerProxy proxyConfig multiplexer)) :
      Steps tcpMux seenAs s (.newProxyResp m remoteAddr error now)
        (s.newProxyResp m ⟨proxyConfig.name, remoteAddr, error⟩ now)
  | natHoleResp (m : Nat) (clientAddr relayAddr error : String) (i : Nat)
      (serverName sk visitorAddr : String) (hserving : s.control.loop = .serving)
      (hi : s.owed[m]? = some i)
      (hcommand : s.control.commandOf i = some (.openXtcp serverName sk visitorAddr)) :
      Steps tcpMux seenAs s (.natHoleResp m clientAddr relayAddr error)
        (s.natHoleResp m ⟨seenAs visitorAddr, clientAddr, relayAddr, error⟩)
  | ownerOffline (m : Nat) (hserving : s.control.loop = .serving) :
      Steps tcpMux seenAs s (.ownerOffline m)
        (s.natHoleResp m ⟨"", "", "", "owner client offline"⟩)

theorem steps_of_step {s t : State} {e : Event} (ht : step tcpMux seenAs s e = some t) :
    Steps tcpMux seenAs s e t := by
  cases e with
  | act a => exact .act a ht
  | started =>
      simp only [step] at ht
      split at ht
      · next hstarting => exact Option.some.inj ht ▸ .started hstarting
      · cases ht
  | sent =>
      simp only [step] at ht
      split at ht
      · next i hloop =>
          obtain ⟨call, hcall, rfl⟩ := Option.map_eq_some_iff.mp ht
          exact .sent i call hloop hcall
      · cases ht
  | sendFails e delivered =>
      simp only [step] at ht
      split at ht
      · next i hloop =>
          obtain ⟨call, hcall, rfl⟩ := Option.map_eq_some_iff.mp ht
          exact .sendFails e delivered i call hloop hcall
      · cases ht
  | newProxyResp m remoteAddr error now =>
      simp only [step] at ht
      split at ht
      · next proxyConfig multiplexer hserving hcommand =>
          obtain ⟨i, hi, hcommand⟩ := Option.bind_eq_some_iff.mp hcommand
          obtain rfl := Option.some.inj ht
          exact .newProxyResp m remoteAddr error now i proxyConfig multiplexer hserving hi hcommand
      · cases ht
  | natHoleResp m clientAddr relayAddr error =>
      simp only [step] at ht
      split at ht
      · next serverName sk visitorAddr hserving hcommand =>
          obtain ⟨i, hi, hcommand⟩ := Option.bind_eq_some_iff.mp hcommand
          obtain rfl := Option.some.inj ht
          exact .natHoleResp m clientAddr relayAddr error i serverName sk visitorAddr hserving hi
            hcommand
      · cases ht
  | ownerOffline m =>
      simp only [step] at ht
      split at ht
      · next hserving hcommand => exact Option.some.inj ht ▸ .ownerOffline m hserving
      · cases ht

open Registration (tcpProxy)

/-- A call is made, and its message sent. -/
def asked (i : Nat) (request : Control.Act) : List Event :=
  [.act request, .act (.enqueue i), .act .take, .sent]

end Arp.Client.Commands
