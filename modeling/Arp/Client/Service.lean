import Arp.Client.Prompt

/-!
# The sessions of a client

`Service::run` makes a `Control` with a proxy manager of its own, runs it, and makes the next
one when the connection is lost.  With each it starts two tasks that it never stops: the
server of the admin API and the listener for SIGHUP.  Both keep the `Control` they were
started with.

The tasks of all sessions take their steps in any order.  What connecting, the server and the
clients of the API come up with is decided by the world, and so is what a configuration file
holds when it is read.  The operating system refuses to bind an address that another
listener of the process still holds.  A request is one that the check of the credentials has
let through; one that it has not touches no `Control`.

`Steps` says what a session can do in one step, `LoopMoves` what becomes of its message loop.
-/

namespace Arp.Client

open Arp.Common Arp.Lib Arp.Lib.Machine

/-- What `ProxyManager::list_proxy_names` may return: the names, in the order in which the
map is walked. -/
def ProxyManager.Lists (pm : ProxyManager) (names : List String) : Prop :=
  names.Perm pm.proxies.keys

instance (pm : ProxyManager) (names : List String) : Decidable (pm.Lists names) :=
  inferInstanceAs (Decidable (names.Perm pm.proxies.keys))

theorem ProxyManager.Lists.mem_iff {pm : ProxyManager} {names : List String}
    (h : pm.Lists names) {name : String} : name ∈ names ↔ name ∈ pm.proxies :=
  List.Perm.mem_iff h

namespace Commands

/-- The message loop runs. -/
def LoopPc.running : LoopPc → Bool
  | serving | sending _ => true
  | starting | ending | endingProxy | ended => false

theorem LoopPc.over_of_running {pc : LoopPc} (h : pc.running = true) : pc.over = false := by
  cases pc with
  | serving | sending i => rfl
  | starting | ending | endingProxy | ended => cases h

/-- What a call has returned. -/
def Call.result (call : Call) : Option (Result Answer) :=
  match call.pc with
  | .returned result => some result
  | _ => none

end Commands

namespace Service

open Commands (Control Command Call Answer LoopPc)

/-! ## Reloading -/

/-- `Control::reload_proxies` once it has read the file: what is left to close and to
register, and the call it waits for. -/
structure Reload where
  stale : List String
  fresh : List ProxyConfig
  call : Option Nat
  added : Nat
  removed : Nat

namespace Reload

/-- What a file asks for, given the names the proxy manager has. -/
def begin (newConfig : ClientConfig) (currentNames : List String) : Reload where
  stale := currentNames.filter fun name ↦ name ∉ newConfig.proxies.map ProxyConfig.name
  fresh := newConfig.proxies.filter fun proxy ↦ proxy.name ∉ currentNames
  call := none
  added := 0
  removed := 0

/-- The call that was waited for has returned. -/
def count (r : Reload) : Command → Result Answer → Reload
  | .closeProxy _, .ok _ => { r with call := none, removed := r.removed + 1 }
  | .registerProxy _ _, .ok _ => { r with call := none, added := r.added + 1 }
  | _, _ => { r with call := none }

/-- One step: a call returns, or the next one is made. -/
def next (tcpMux : Bool) (c : Control) (r : Reload) : Option (Control × Reload) :=
  match r.call, r.stale, r.fresh with
  | some i, _, _ => c.calls[i]?.bind fun call ↦ call.result.map fun result ↦
      (c, r.count call.command result)
  | none, name :: stale, _ =>
    some (c.closeProxyDynamic name, { r with stale := stale, call := some c.calls.length })
  | none, [], proxy :: fresh =>
    some (c.registerProxyDynamic tcpMux proxy,
      { r with fresh := fresh, call := some c.calls.length })
  | none, [], [] => none

/-- Nothing is left to do. -/
def done (r : Reload) : Bool := r.call.isNone && r.stale.isEmpty && r.fresh.isEmpty

end Reload

/-! ## The admin API -/

/-- What is asked of the API.  Names come with the order in which the map is walked, a reload
with what is read from the file. -/
inductive Request where
  | status (names : List String)
  | proxies (names : List String)
  | proxyDetail (name : String)
  | addProxy (proxyConfig : ProxyConfig)
  | deleteProxy (name : String)
  | reload (file : Result ClientConfig) (names : List String)

/-- The responses: `StatusResp`, `ProxiesResp`, `ProxyDetailResp`, and `ActionResp` with its
status code. -/
inductive Response where
  | status (status serverAddr : String) (serverPort : UInt16) (runId : String)
      (proxies : List String)
  | proxies (total : Nat) (items : List String)
  | proxyDetail (name : String) (available : Bool)
  | action (code : Nat) (ok : Bool) (message : String) (remoteAddr : Option String)

/-- A handler that was started. -/
inductive Handler where
  /-- `api_add_proxy` or `api_delete_proxy`, waiting for its call. -/
  | calling (i : Nat)
  /-- `api_reload`. -/
  | reloading (r : Reload)
  | answered (response : Response)

/-- `api_proxy_detail`. -/
def apiProxyDetail (c : Control) (name : String) : Response :=
  match c.proxyManager.getProxy name with
  | some proxy => .proxyDetail proxy.name proxy.isAvailable
  | none => .action 404 false ("proxy " ++ name ++ " not found") none

/-- The response of `api_add_proxy` or `api_delete_proxy` when its call has returned. -/
def callResponse : Command → Result Answer → Response
  | .closeProxy proxyName, .ok _ => .action 200 true ("proxy " ++ proxyName ++ " closed") none
  | .closeProxy _, .error e => .action 200 false e.display none
  | _, .ok (.registered remoteAddr) => .action 200 true "proxy registered" (some remoteAddr)
  | _, .ok _ => .action 200 true "proxy registered" none
  | _, .error e => .action 500 false e.display none

/-- The response of `api_reload` at the end. -/
def reloadResponse (r : Reload) : Response :=
  .action 200 true ("reload complete: " ++ toString r.added ++ " added, " ++ toString r.removed ++
    " removed") none

/-! ## A session -/

/-- Where the admin server of a session is. -/
inductive AdminPc where
  /-- None is configured. -/
  | off
  | binding
  | listening
  /-- Binding has failed, or serving. -/
  | stopped
deriving DecidableEq

/-- Where `Control::run` is before its message loop. -/
inductive StartPc where
  | login
  | registering (pc : RegisterPc)

/-- One turn of `Service::run`: a `Control`, and the tasks started with it. -/
structure Session where
  commands : Commands.State
  startup : StartPc
  runId : String
  /-- What `Control::run` returns once its loop has ended. -/
  result : Option (Result Unit)
  admin : AdminPc
  /-- The open connections of the admin server. -/
  conns : Nat
  handlers : List Handler
  /-- The reload the SIGHUP listener is in, if it does not wait for the signal. -/
  sighup : Option Reload
  /-- The configurations the objects of the proxy manager were made from, and when. -/
  held : Table String (ProxyConfig × Nat)

/-- What can happen in a session. -/
inductive SessionEvent where
  | loginResp (resp : LoginRespMsg)
  /-- Login or the registration of the configured proxies fails otherwise. -/
  | startFails (e : Error)
  | sendNewProxy
  /-- A message arrives while `register_proxies` waits for the answer. -/
  | reply (msg : Message) (now : Nat)
  | started
  /-- A step of the control and of the calls made on it. -/
  | commands (e : Commands.Event)
  /-- The message loop returns. -/
  | loopFails (e : Error)
  | bind (ok : Bool)
  | serveFails
  | accept
  | hangUp
  | request (req : Request)
  /-- A handler goes on. -/
  | handle (i : Nat)
  /-- The SIGHUP listener receives the signal. -/
  | sighup (file : Result ClientConfig) (names : List String)
  /-- Its reload goes on. -/
  | reload

namespace Session

/-- A new `Control`, with its tasks. -/
def new (config : ClientConfig) : Session where
  commands := Commands.start
  startup := .login
  runId := ""
  result := none
  admin := if config.adminPort > 0 then .binding else .off
  conns := 0
  handlers := []
  sighup := none
  held := ∅

/-- The `Control` of a session. -/
def control (s : Session) : Control := s.commands.control

/-- The session with its `Control` changed. -/
def setControl (s : Session) (c : Control) : Session :=
  { s with commands := { s.commands with control := c } }

/-- `Control::run` returns before its message loop. -/
def fail (s : Session) (e : Error) : Session :=
  { s with
    startup := .registering (.returned (.error e))
    result := some (.error e) }.setControl { s.control with loop := .ended }

/-- `register_proxies` has handled a message. -/
def afterReply (s : Session) (now : Nat) : RegisterPc × Option ProxyConfig → Session
  | (.returned (.error e), _) => s.fail e
  | (pc, none) => { s with startup := .registering pc }
  | (pc, some proxy) =>
    { s with
      startup := .registering pc
      held := s.held.insert proxy.name (proxy, now) }.setControl
      { s.control with proxyManager := s.control.proxyManager.registerProxy proxy now }

/-- The steps of the control that are not made by another task, and not before their time.
Visitors are started after the registration. -/
def admits (c : Control) : Commands.Event → Bool
  | .act (.registerProxyDynamic _) | .act (.closeProxyDynamic _) | .act .fails | .started => false
  | .act (.requestXtcpPeer _ _ _) => c.loop ≠ .starting
  | _ => true

/-- The configurations held after a step of the control. -/
def heldAfter (c : Control) (held : Table String (ProxyConfig × Nat)) :
    Commands.Event → Table String (ProxyConfig × Nat)
  | .sent =>
    match c.loop with
    | .sending i =>
      match c.commandOf i with
      | some (.closeProxy proxyName) => held.erase proxyName
      | _ => held
    | _ => held
  | .newProxyResp _ _ error now =>
    match c.pendingProxyResp with
    | some pending =>
      if error ≠ "" then held
      else held.insert pending.proxyConfig.name
        ({ pending.proxyConfig with multiplexer := pending.multiplexer }, now)
    | none => held
  | _ => held

/-- What the message loop returns after a step of the control. -/
def resultAfter (c : Control) (result : Option (Result Unit)) :
    Commands.Event → Option (Result Unit)
  | .sendFails e _ =>
    match c.loop with
    | .sending i =>
      match c.commandOf i with
      | some (.openXtcp _ _ _) => some (.error e)
      | _ => result
    | _ => result
  | _ => result

/-- The run id after a step of the control: it is cleared when the loop has ended. -/
def runIdAfter (runId : String) : Commands.Event → String
  | .act .finishXtcp => ""
  | _ => runId

/-- A step of the control. -/
def afterCommands (s : Session) (e : Commands.Event) (commands : Commands.State) : Session :=
  { s with
    commands := commands
    runId := runIdAfter s.runId e
    result := resultAfter s.control s.result e
    held := heldAfter s.control s.held e }

/-- A handler is started, and has its response already. -/
def answer (s : Session) (response : Response) : Session :=
  { s with handlers := s.handlers ++ [.answered response] }

/-- A handler is started, and waits for the call it has made. -/
def awaitCall (s : Session) (c : Control) : Session :=
  { s with handlers := s.handlers ++ [Handler.calling s.control.calls.length] }.setControl c

/-- The handlers of the API, up to where they wait. -/
def serve (config : ClientConfig) (s : Session) : Request → Option Session
  | .status names =>
    if s.control.proxyManager.Lists names then
      some (s.answer (.status (if s.runId.isEmpty then "connecting" else "connected")
        config.serverAddr config.serverPort s.runId names))
    else none
  | .proxies names =>
    if s.control.proxyManager.Lists names then some (s.answer (.proxies names.length names))
    else none
  | .proxyDetail name => some (s.answer (apiProxyDetail s.control name))
  | .addProxy proxyConfig =>
    match proxyConfig.validate with
    | .error e =>
      some (s.answer (.action 400 false ("invalid proxy config: " ++ e.display) none))
    | .ok () =>
      some (s.awaitCall (s.control.registerProxyDynamic config.transport.tcpMux proxyConfig))
  | .deleteProxy name => some (s.awaitCall (s.control.closeProxyDynamic name))
  | .reload (.error e) _ =>
    some (s.answer (.action 200 false ("reload failed: " ++ e.display) none))
  | .reload (.ok newConfig) names =>
    if s.control.proxyManager.Lists names then
      some { s with handlers := s.handlers ++ [.reloading (.begin newConfig names)] }
    else none

/-- The session with a handler moved on. -/
def setHandler (s : Session) (i : Nat) (handler : Handler) : Session :=
  { s with handlers := s.handlers.set i handler }

/-- A handler goes on. -/
def handle (tcpMux : Bool) (s : Session) (i : Nat) : Handler → Option Session
  | .calling j => s.control.calls[j]?.bind fun call ↦ call.result.map fun result ↦
      s.setHandler i (.answered (callResponse call.command result))
  | .reloading r =>
    if r.done then some (s.setHandler i (.answered (reloadResponse r)))
    else (r.next tcpMux s.control).map fun (c, r) ↦ (s.setHandler i (.reloading r)).setControl c
  | .answered _ => none

/-- The SIGHUP listener receives the signal. -/
def receiveSighup (s : Session) (file : Result ClientConfig) (names : List String) :
    Option Session :=
  match s.sighup, file with
  | some _, _ => none
  | none, .error _ => some s
  | none, .ok newConfig =>
    if s.control.proxyManager.Lists names then
      some { s with sighup := some (.begin newConfig names) }
    else none

/-- The reload of the SIGHUP listener goes on. -/
def goOn (tcpMux : Bool) (s : Session) (r : Reload) : Option Session :=
  if r.done then some { s with sighup := none }
  else (r.next tcpMux s.control).map fun (c, r) ↦ { s with sighup := some r }.setControl c

/-- One step of a session. -/
def step (config : ClientConfig) (seenAs : String → String) (s : Session) :
    SessionEvent → Option Session
  | .loginResp resp =>
    match s.startup with
    | .login => some (
        if resp.error ≠ "" then s.fail (.auth resp.error)
        else { s with runId := resp.runId, startup := .registering (.sending config.proxies) })
    | _ => none
  | .startFails e =>
    match s.startup with
    | .login | .registering (.sending (_ :: _)) | .registering (.waiting _ _) => some (s.fail e)
    | _ => none
  | .sendNewProxy =>
    match s.startup with
    | .registering (.sending (proxy :: rest)) =>
      some { s with startup := .registering (.waiting proxy rest) }
    | _ => none
  | .reply msg now =>
    match s.startup with
    | .registering (.waiting proxy rest) =>
      some (s.afterReply now (onReply config.transport.tcpMux proxy rest msg))
    | _ => none
  | .started =>
    match s.startup with
    | .registering (.sending []) =>
      (Commands.step config.transport.tcpMux seenAs s.commands .started).map fun commands ↦
        { s with commands := commands, startup := .registering (.returned (.ok ())) }
    | _ => none
  | .commands e =>
    if admits s.control e then
      (Commands.step config.transport.tcpMux seenAs s.commands e).map (s.afterCommands e)
    else none
  | .loopFails e =>
    match s.control.loop with
    | .serving =>
      (Commands.step config.transport.tcpMux seenAs s.commands (.act .fails)).map fun commands ↦
        { s with commands := commands, result := some (.error e) }
    | _ => none
  | .bind ok =>
    match s.admin with
    | .binding => some { s with admin := if ok then .listening else .stopped }
    | _ => none
  | .serveFails =>
    match s.admin with
    | .listening => some { s with admin := .stopped }
    | _ => none
  | .accept =>
    match s.admin with
    | .listening => some { s with conns := s.conns + 1 }
    | _ => none
  | .hangUp => if 0 < s.conns then some { s with conns := s.conns - 1 } else none
  | .request req => if 0 < s.conns then s.serve config req else none
  | .handle i => s.handlers[i]?.bind (s.handle config.transport.tcpMux i)
  | .sighup file names => s.receiveSighup file names
  | .reload => s.sighup.bind (s.goOn config.transport.tcpMux)

end Session

end Service

/-! ## The service -/

/-- Where `Service::run` is. -/
inductive ServicePhase where
  /-- In `Control::new`. -/
  | connecting
  | sleeping (secs : Nat)
  /-- In `Control::run` of the latest session. -/
  | running
  | returned (result : Result Unit)

/-- `Service`, with the sessions so far, oldest first. -/
structure Service where
  config : ClientConfig
  sessions : List Service.Session
  phase : ServicePhase
  retryCount : Nat

namespace Service

/-- What can happen next. -/
inductive Event where
  /-- `Control::new` returns. -/
  | connected (result : Result Unit)
  | wake
  /-- `Control::run` returns. -/
  | finished
  /-- Something happens in a session. -/
  | session (k : Nat) (e : SessionEvent)

/-- `main`, up to where the service runs. -/
def main (isIpAddr : String → Bool) (file : Result ClientConfig) : Result Service := do
  let config ← file
  config.validate isIpAddr
  return { config := config, sessions := [], phase := .connecting, retryCount := 0 }

/-- The number of seconds before the next attempt. -/
def backoff (retryCount : Nat) : Nat := min 30 (1 <<< min retryCount 5)

/-- `Service::run` after an error: it retries or returns. -/
def retry (s : Service) (e : Error) : Service :=
  if e.isRetriable then
    { s with retryCount := s.retryCount + 1, phase := .sleeping (backoff (s.retryCount + 1)) }
  else { s with phase := .returned (.error e) }

/-- `Control::run` has returned. -/
def afterRun (s : Service) : Result Unit → Service
  | .ok () => { s with phase := .returned (.ok ()) }
  | .error e => s.retry e

/-- A listener of the process holds the address of the API. -/
def addrInUse (s : Service) : Bool := s.sessions.any fun session ↦ session.admin == .listening

/-- The operating system does not let two listeners hold the address. -/
def permits (s : Service) : SessionEvent → Bool
  | .bind true => !s.addrInUse
  | _ => true

/-- One step.  When the service has returned, the process exits. -/
def step (seenAs : String → String) (s : Service) : Event → Option Service
  | .connected result =>
    match s.phase, result with
    | .connecting, .ok () => some { s with
        sessions := s.sessions ++ [.new s.config], phase := .running, retryCount := 0 }
    | .connecting, .error e => some (s.retry e)
    | _, _ => none
  | .wake =>
    match s.phase with
    | .sleeping _ => some { s with phase := .connecting }
    | _ => none
  | .finished =>
    match s.phase, s.sessions.getLast? with
    | .running, some session =>
      if session.control.loop = .ended then session.result.map s.afterRun else none
    | _, _ => none
  | .session k e =>
    match s.phase with
    | .returned _ => none
    | _ =>
      if s.permits e then
        s.sessions[k]?.bind fun session ↦ (session.step s.config seenAs e).map fun session' ↦
          { s with sessions := s.sessions.set k session' }
      else none

end Service

/-! ## What the steps do to a message loop -/

namespace Commands

variable {tcpMux : Bool} {seenAs : String → String}

/-- Where the loop is after a step. -/
inductive LoopMoves (c : Control) : Event → LoopPc → Prop
  | stays {e : Event} : LoopMoves c e c.loop
  | runs {e : Event} {pc : LoopPc} (hc : c.loop.running = true) (hpc : pc.running = true) :
      LoopMoves c e pc
  | started (hc : c.loop = .starting) : LoopMoves c .started .serving
  | fails {pc : LoopPc} (hpc : pc.over = true) : LoopMoves c (.act .fails) pc
  /-- The message of an XTCP request cannot be sent. -/
  | sendFails {i : Nat} {serverName sk visitorAddr : String} (e : Error) (delivered : Bool)
      (hc : c.loop = .sending i)
      (hcommand : c.commandOf i = some (.openXtcp serverName sk visitorAddr)) :
      LoopMoves c (.sendFails e delivered) .ending
  | ends {e : Event} {pc : LoopPc} (hc : c.loop.over = true) (hpc : pc.over = true) :
      LoopMoves c e pc

/-- Once the loop has ended, it stays so. -/
theorem LoopMoves.over {c : Control} {e : Event} {pc : LoopPc} (h : LoopMoves c e pc)
    (hover : c.loop.over = true) : pc.over = true := by
  cases h with
  | stays => exact hover
  | runs hc hpc => cases (LoopPc.over_of_running hc).symm.trans hover
  | started hc =>
      rw [hc] at hover
      cases hover
  | fails hpc => exact hpc
  | sendFails err delivered hc hcommand => rfl
  | ends hc hpc => exact hpc

/-- The loop does not start again. -/
theorem LoopMoves.starting {c : Control} {e : Event} {pc : LoopPc} (h : LoopMoves c e pc)
    (hpc : pc = .starting) : c.loop = .starting := by
  cases h with
  | stays => exact hpc
  | runs hc hrunning => cases hpc ▸ hrunning
  | started hc => exact hc
  | fails hover => cases hpc ▸ hover
  | sendFails err delivered hc hcommand => cases hpc
  | ends hc hover => cases hpc ▸ hover

theorem loop_of_advance {c c' : Control} {i : Nat} {f : Call → Option Call}
    (h : c.advance i f = some c') : c'.loop = c.loop := by
  obtain ⟨call, call', -, -, rfl⟩ := Control.advance_eq_some.mp h
  rfl

theorem loopMoves_of_act {c c' : Control} {a : Control.Act} (h : c.act tcpMux a = some c') :
    LoopMoves c (.act a) c'.loop := by
  have hstays : c'.loop = c.loop → LoopMoves c (.act a) c'.loop := fun heq ↦ heq ▸ .stays
  cases Control.acts_of_act h with
  | issue command => exact .stays
  | enqueue i c₁ hc₁ =>
      have hsame : c₁.loop = c.loop := loop_of_advance hc₁
      exact hstays hsame
  | receive i hc' | expire i hc' => exact hstays (loop_of_advance hc')
  | clear i hc' =>
      obtain ⟨k, -, hc'⟩ := Option.bind_eq_some_iff.mp hc'
      obtain ⟨c₁, hc₁, rfl⟩ := Option.map_eq_some_iff.mp hc'
      exact hstays (Control.loop_takeSlot.trans (loop_of_advance hc₁))
  | take i rest call hserving hcommands hcall =>
      refine .runs (hserving ▸ rfl) ?_
      rcases Control.loop_handleControlCommand { c with commands := rest } i call.command
        with hsame | hsending
      · rw [hsame, hserving]
        rfl
      · rw [hsending]
        rfl
  | fails pc hover => exact .fails hover
  | finishXtcp | finishProxy =>
      rw [Control.loop_takeSlot]
      refine .ends ?_ rfl
      simp only [Control.act] at h
      split at h
      · next hending => rw [hending]; rfl
      · cases h

theorem loop_handleNewProxyResp (c : Control) (resp : NewProxyRespMsg) (now : Nat) :
    (c.handleNewProxyResp resp now).loop = c.loop := by
  unfold Control.handleNewProxyResp
  split
  · rfl
  · split
    · exact Control.loop_takeSlot
    · exact Control.loop_takeSlot

theorem loopMoves_of_step {s t : State} {e : Event} (h : step tcpMux seenAs s e = some t) :
    LoopMoves s.control e t.control.loop := by
  cases steps_of_step h with
  | act a hact =>
      obtain ⟨c, hc, rfl⟩ := Option.map_eq_some_iff.mp hact
      exact loopMoves_of_act hc
  | started hstarting => exact .started hstarting
  | sent i call hloop hcall =>
      refine .runs (hloop ▸ rfl) ?_
      cases call.command <;> rfl
  | sendFails err delivered i call hloop hcall =>
      have hcommand := Control.commandOf_of_getElem? hcall
      cases hc : call.command with
      | openXtcp serverName sk visitorAddr =>
          rw [hc] at hcommand
          rw [Control.sendFails, Control.loop_takeSlot]
          exact .sendFails err delivered hloop hcommand
      | registerProxy proxyConfig multiplexer =>
          rw [Control.sendFails, Control.loop_takeSlot]
          exact .runs (hloop ▸ rfl) rfl
      | closeProxy proxyName => exact .runs (hloop ▸ rfl) rfl
  | newProxyResp m remoteAddr error now i proxyConfig multiplexer hserving hi hcommand =>
      rw [State.newProxyResp, loop_handleNewProxyResp]
      exact .stays
  | natHoleResp | ownerOffline =>
      rw [State.natHoleResp, Control.handleNatholeResponse, Control.loop_takeSlot]
      exact .stays

end Commands

/-! ## What the other tasks do to a session -/

namespace Service

open Commands (Control Command Call LoopPc)

/-- The file a step reads. -/
def SessionEvent.file : SessionEvent → Option ClientConfig
  | .request (.reload (.ok newConfig) _) | .sighup (.ok newConfig) _ => some newConfig
  | _ => none

namespace Session

variable {config : ClientConfig} {s t : Session} {tcpMux : Bool}

/-- A reload is under way. -/
def Reloads (s : Session) (r : Reload) : Prop := .reloading r ∈ s.handlers ∨ s.sighup = some r

/-- The configurations that reloads are still to register. -/
def fresh (s : Session) : Set ProxyConfig := {proxy | ∃ r, s.Reloads r ∧ proxy ∈ r.fresh}

/-- The file a step reads has a configuration whose name the manager has not. -/
def Loads (s : Session) (e : SessionEvent) (proxy : ProxyConfig) : Prop :=
  ∃ newConfig, e.file = some newConfig ∧ proxy ∈ newConfig.proxies ∧
    s.control.proxyManager.getProxy proxy.name = none

/-- What the handlers of the API and the SIGHUP listener do to a session in one step: they
make at most one call, of a configuration that they have checked or that a reload is to
register, and they begin at most one reload. -/
structure Serves (s : Session) (e : SessionEvent) (t : Session) : Prop where
  control : t.control = s.control ∨ ∃ command, t.control = s.control.issue command ∧
    ∀ proxy multiplexer, command = .registerProxy proxy multiplexer →
      proxy.validate = .ok () ∨ proxy ∈ s.fresh
  fresh : ∀ proxy ∈ t.fresh, proxy ∈ s.fresh ∨ s.Loads e proxy
  startup : t.startup = s.startup
  admin : t.admin = s.admin
  conns : t.conns = s.conns
  held : t.held = s.held

/-- All that becomes of the control is that a call is made. -/
theorem Serves.exists_calls {e : SessionEvent} (h : Serves s e t) :
    ∃ calls, t.control = { s.control with calls := calls } := by
  rcases h.control with hsame | ⟨command, hissue, -⟩
  · exact ⟨s.control.calls, hsame⟩
  · exact ⟨_, hissue⟩

/-- What a reload is to register at first: what the file has and the manager has not. -/
theorem mem_fresh_begin {newConfig : ClientConfig} {pm : ProxyManager} {names : List String}
    (hlists : pm.Lists names) {proxy : ProxyConfig}
    (h : proxy ∈ (Reload.begin newConfig names).fresh) :
    proxy ∈ newConfig.proxies ∧ pm.getProxy proxy.name = none := by
  obtain ⟨hproxy, hname⟩ := List.mem_filter.mp h
  refine ⟨hproxy, AList.lookup_eq_none.mpr fun hmem ↦ ?_⟩
  exact of_decide_eq_true hname (hlists.mem_iff.mpr hmem)

/-- A step of a reload registers nothing but what it was to register. -/
theorem fresh_next {c c' : Control} {r r' : Reload} (h : r.next tcpMux c = some (c', r')) :
    (c' = c ∨ ∃ command, c' = c.issue command ∧
      ∀ proxy multiplexer, command = .registerProxy proxy multiplexer → proxy ∈ r.fresh) ∧
    ∀ proxy ∈ r'.fresh, proxy ∈ r.fresh := by
  unfold Reload.next at h
  split at h
  · obtain ⟨call, -, h⟩ := Option.bind_eq_some_iff.mp h
    obtain ⟨result, -, h⟩ := Option.map_eq_some_iff.mp h
    obtain ⟨rfl, rfl⟩ := Prod.mk.inj h
    refine ⟨.inl rfl, fun proxy hproxy ↦ ?_⟩
    unfold Reload.count at hproxy
    split at hproxy <;> exact hproxy
  · obtain ⟨rfl, rfl⟩ := Prod.mk.inj (Option.some.inj h)
    refine ⟨.inr ⟨_, rfl, fun proxy multiplexer hcommand ↦ ?_⟩, fun proxy hproxy ↦ hproxy⟩
    cases hcommand
  · next proxy rest _ _ hfresh =>
      obtain ⟨rfl, rfl⟩ := Prod.mk.inj (Option.some.inj h)
      rw [hfresh]
      refine ⟨.inr ⟨_, rfl, fun proxy' multiplexer hcommand ↦ ?_⟩, fun proxy' hproxy' ↦ ?_⟩
      · obtain ⟨rfl, -⟩ := Command.registerProxy.inj hcommand
        exact List.mem_cons_self
      · exact List.mem_cons_of_mem proxy hproxy'
  · cases h

section Fresh

variable {P : ProxyConfig → Prop} {proxy : ProxyConfig}

theorem mem_fresh_of_handlers {handler : Handler} (h : proxy ∈ t.fresh)
    (hhandlers : ∀ h ∈ t.handlers, h ∈ s.handlers ∨ h = handler) (hsighup : t.sighup = s.sighup)
    (hP : ∀ r, handler = .reloading r → ∀ proxy ∈ r.fresh, P proxy) :
    proxy ∈ s.fresh ∨ P proxy := by
  obtain ⟨r, hr | hr, hproxy⟩ := h
  · rcases hhandlers _ hr with hold | hnew
    · exact .inl ⟨r, .inl hold, hproxy⟩
    · exact .inr (hP r hnew.symm proxy hproxy)
  · exact .inl ⟨r, .inr (hsighup.symm.trans hr), hproxy⟩

theorem mem_fresh_of_sighup (h : proxy ∈ t.fresh) (hhandlers : t.handlers = s.handlers)
    (hP : ∀ r, t.sighup = some r → ∀ proxy ∈ r.fresh, P proxy) :
    proxy ∈ s.fresh ∨ P proxy := by
  obtain ⟨r, hr | hr, hproxy⟩ := h
  · exact .inl ⟨r, .inl (hhandlers ▸ hr), hproxy⟩
  · exact .inr (hP r hr proxy hproxy)

end Fresh

/-- A handler that reloads nothing. -/
theorem mem_fresh_of_quiet {proxy : ProxyConfig} {handler : Handler} (h : proxy ∈ t.fresh)
    (hhandlers : ∀ h ∈ t.handlers, h ∈ s.handlers ∨ h = handler) (hsighup : t.sighup = s.sighup)
    (hquiet : ∀ r, handler ≠ .reloading r) : proxy ∈ s.fresh :=
  (mem_fresh_of_handlers (P := fun _ ↦ False) h hhandlers hsighup
    fun r hr ↦ absurd hr (hquiet r)).resolve_right id

theorem mem_handlers_append {handler : Handler} : ∀ h ∈ s.handlers ++ [handler],
    h ∈ s.handlers ∨ h = handler :=
  fun _ hh ↦ (List.mem_append.mp hh).imp_right List.mem_singleton.mp

theorem serves_answer {e : SessionEvent} (response : Response) :
    Serves s e (s.answer response) where
  control := .inl rfl
  fresh _ hproxy := .inl (mem_fresh_of_quiet hproxy mem_handlers_append rfl fun r hr ↦ by
    cases hr)
  startup := rfl
  admin := rfl
  conns := rfl
  held := rfl

theorem serves_awaitCall {e : SessionEvent} {command : Command}
    (hcommand : ∀ proxy multiplexer, command = .registerProxy proxy multiplexer →
      proxy.validate = .ok ()) : Serves s e (s.awaitCall (s.control.issue command)) where
  control := .inr ⟨command, rfl, fun proxy multiplexer h ↦ .inl (hcommand proxy multiplexer h)⟩
  fresh _ hproxy := .inl (mem_fresh_of_quiet hproxy mem_handlers_append rfl fun r hr ↦ by
    cases hr)
  startup := rfl
  admin := rfl
  conns := rfl
  held := rfl

theorem serves_serve {req : Request} (h : s.serve config req = some t) :
    Serves s (.request req) t := by
  cases req with
  | status names | proxies names =>
      simp only [serve] at h
      split at h
      · exact Option.some.inj h ▸ serves_answer _
      · cases h
  | proxyDetail name => exact Option.some.inj h ▸ serves_answer _
  | addProxy proxyConfig =>
      simp only [serve] at h
      split at h
      · exact Option.some.inj h ▸ serves_answer _
      · next hvalid =>
          refine Option.some.inj h ▸ serves_awaitCall fun proxy multiplexer hcommand ↦ ?_
          obtain ⟨rfl, -⟩ := Command.registerProxy.inj hcommand
          exact hvalid
  | deleteProxy name =>
      refine Option.some.inj h ▸ serves_awaitCall fun proxy multiplexer hcommand ↦ ?_
      cases hcommand
  | reload file names =>
      cases file with
      | error e => exact Option.some.inj h ▸ serves_answer _
      | ok newConfig =>
          simp only [serve] at h
          split at h
          · next hlists =>
              obtain rfl := Option.some.inj h
              refine ⟨.inl rfl, fun proxy hproxy ↦ ?_, rfl, rfl, rfl, rfl⟩
              refine mem_fresh_of_handlers (P := s.Loads _) hproxy mem_handlers_append rfl
                fun r hr proxy hproxy ↦ ?_
              obtain rfl := Handler.reloading.inj hr
              exact ⟨newConfig, rfl, mem_fresh_begin hlists hproxy⟩
          · cases h

/-- A reload goes on, wherever it is kept. -/
theorem serves_next {e : SessionEvent} {c : Control} {r r' : Reload} (hr : s.Reloads r)
    (hnext : r.next tcpMux s.control = some (c, r'))
    (hfresh : ∀ proxy ∈ t.fresh, proxy ∈ s.fresh ∨ proxy ∈ r'.fresh) (hcontrol : t.control = c)
    (hstartup : t.startup = s.startup) (hadmin : t.admin = s.admin) (hconns : t.conns = s.conns)
    (hheld : t.held = s.held) : Serves s e t := by
  obtain ⟨hissue, hfewer⟩ := fresh_next hnext
  have hmem : ∀ proxy ∈ r.fresh, proxy ∈ s.fresh := fun proxy hproxy ↦ ⟨r, hr, hproxy⟩
  refine ⟨?_, fun proxy hproxy ↦ ?_, hstartup, hadmin, hconns, hheld⟩
  · rw [hcontrol]
    refine hissue.imp_right fun ⟨command, hc, hcommand⟩ ↦ ⟨command, hc, ?_⟩
    exact fun proxy multiplexer h ↦ .inr (hmem proxy (hcommand proxy multiplexer h))
  · exact .inl ((hfresh proxy hproxy).elim id fun hnew ↦ hmem proxy (hfewer proxy hnew))

theorem serves_handle {i : Nat} {handler : Handler} (hi : s.handlers[i]? = some handler)
    (h : s.handle tcpMux i handler = some t) : Serves s (.handle i) t := by
  have hset : ∀ handler' : Handler, ∀ h ∈ (s.setHandler i handler').handlers,
      h ∈ s.handlers ∨ h = handler' := fun handler' h ↦ List.mem_or_eq_of_mem_set
  have hanswered : ∀ response, Serves s (.handle i) (s.setHandler i (.answered response)) := by
    intro response
    refine ⟨.inl rfl, fun proxy hproxy ↦ .inl ?_, rfl, rfl, rfl, rfl⟩
    refine mem_fresh_of_quiet hproxy (hset _) rfl fun r hr ↦ ?_
    cases hr
  cases handler with
  | calling j =>
      obtain ⟨call, -, h⟩ := Option.bind_eq_some_iff.mp h
      obtain ⟨result, -, rfl⟩ := Option.map_eq_some_iff.mp h
      exact hanswered _
  | reloading r =>
      simp only [handle] at h
      split at h
      · exact Option.some.inj h ▸ hanswered _
      · obtain ⟨⟨c, r'⟩, hnext, rfl⟩ := Option.map_eq_some_iff.mp h
        refine serves_next (.inl (List.mem_of_getElem? hi)) hnext (fun proxy hproxy ↦ ?_)
          rfl rfl rfl rfl rfl
        refine mem_fresh_of_handlers hproxy (hset _) rfl fun r hr proxy hproxy ↦ ?_
        obtain rfl := Handler.reloading.inj hr
        exact hproxy
  | answered response => cases h

theorem serves_receiveSighup {file : Result ClientConfig} {names : List String}
    (h : s.receiveSighup file names = some t) : Serves s (.sighup file names) t := by
  unfold receiveSighup at h
  split at h
  · cases h
  · obtain rfl := Option.some.inj h
    exact ⟨.inl rfl, fun proxy ↦ .inl, rfl, rfl, rfl, rfl⟩
  · next newConfig hidle =>
      split at h
      · next hlists =>
          obtain rfl := Option.some.inj h
          refine ⟨.inl rfl, fun proxy hproxy ↦ ?_, rfl, rfl, rfl, rfl⟩
          refine mem_fresh_of_sighup (P := s.Loads _) hproxy rfl fun r hr proxy hproxy ↦ ?_
          obtain rfl := Option.some.inj hr
          exact ⟨newConfig, rfl, mem_fresh_begin hlists hproxy⟩
      · cases h

theorem serves_goOn {r : Reload} (hr : s.sighup = some r) (h : s.goOn tcpMux r = some t) :
    Serves s .reload t := by
  unfold goOn at h
  split at h
  · obtain rfl := Option.some.inj h
    refine ⟨.inl rfl, fun proxy hproxy ↦ .inl ?_, rfl, rfl, rfl, rfl⟩
    exact (mem_fresh_of_sighup (s := s) (P := fun _ ↦ False) hproxy rfl fun r hr ↦ by
      cases hr).resolve_right id
  · obtain ⟨⟨c, r'⟩, hnext, rfl⟩ := Option.map_eq_some_iff.mp h
    refine serves_next (.inr hr) hnext (fun proxy hproxy ↦ ?_) rfl rfl rfl rfl rfl
    refine mem_fresh_of_sighup (s := s) hproxy rfl fun r hr proxy hproxy ↦ ?_
    obtain rfl := Option.some.inj hr
    exact hproxy

end Session

/-- `Control::run` is past what comes before its message loop. -/
def StartPc.over : StartPc → Bool
  | .registering (.returned _) => true
  | .login | .registering (.sending _) | .registering (.waiting _ _) => false

namespace Session

variable {config : ClientConfig} {seenAs : String → String} {s t : Session} {e : SessionEvent}

/-- What a session can do in one step. -/
inductive Steps (config : ClientConfig) (seenAs : String → String) (s : Session) :
    SessionEvent → Session → Prop
  | login (resp : LoginRespMsg) (hstart : s.startup = .login) :
      Steps config seenAs s (.loginResp resp)
        { s with runId := resp.runId, startup := .registering (.sending config.proxies) }
  | fail {e : SessionEvent} (err : Error) (hstart : s.startup.over = false) :
      Steps config seenAs s e (s.fail err)
  | waits (proxy : ProxyConfig) (rest : List ProxyConfig)
      (hstart : s.startup = .registering (.sending (proxy :: rest))) :
      Steps config seenAs s .sendNewProxy { s with startup := .registering (.waiting proxy rest) }
  | registers (msg : Message) (now : Nat) (proxy : ProxyConfig) (rest : List ProxyConfig)
      (hstart : s.startup = .registering (.waiting proxy rest)) :
      Steps config seenAs s (.reply msg now) (s.afterReply now
        (.sending rest, some (effectiveConfig config.transport.tcpMux proxy)))
  | started (commands : Commands.State) (hstart : s.startup = .registering (.sending []))
      (hstep : Commands.step config.transport.tcpMux seenAs s.commands .started = some commands) :
      Steps config seenAs s .started
        { s with commands := commands, startup := .registering (.returned (.ok ())) }
  | commands (e : Commands.Event) (commands : Commands.State) (hadmits : admits s.control e = true)
      (hstep : Commands.step config.transport.tcpMux seenAs s.commands e = some commands) :
      Steps config seenAs s (.commands e) (s.afterCommands e commands)
  | loopFails (err : Error) (commands : Commands.State) (hserving : s.control.loop = .serving)
      (hstep : Commands.step config.transport.tcpMux seenAs s.commands (.act .fails) =
        some commands) :
      Steps config seenAs s (.loopFails err)
        { s with commands := commands, result := some (.error err) }
  /-- The listener and its connections. -/
  | listens {e : SessionEvent} (admin : AdminPc) (conns : Nat)
      (hadmin : admin = .listening → s.admin = .listening ∨ e = .bind true)
      (hconns : 0 < conns → 0 < s.conns ∨ s.admin = .listening ∧ e = .accept) :
      Steps config seenAs s e { s with admin := admin, conns := conns }
  | serves {e : SessionEvent} {t : Session} (h : Serves s e t) : Steps config seenAs s e t

theorem steps_reply {msg : Message} {now : Nat} {proxy : ProxyConfig} {rest : List ProxyConfig}
    (hstart : s.startup = .registering (.waiting proxy rest)) :
    Steps config seenAs s (.reply msg now)
      (s.afterReply now (onReply config.transport.tcpMux proxy rest msg)) := by
  have hfail : ∀ err, Steps config seenAs s (.reply msg now) (s.fail err) := fun err ↦
    .fail err (hstart ▸ rfl)
  unfold onReply
  split
  · split
    · exact .registers _ now proxy rest hstart
    · exact hfail _
  · exact hfail _

theorem steps_of_step (h : s.step config seenAs e = some t) : Steps config seenAs s e t := by
  cases e with
  | loginResp resp =>
      simp only [step] at h
      split at h
      · next hstart =>
          obtain rfl := Option.some.inj h
          split
          · exact .fail _ (hstart ▸ rfl)
          · exact .login resp hstart
      · cases h
  | startFails err =>
      simp only [step] at h
      split at h
      · next hstart => exact Option.some.inj h ▸ .fail err (hstart ▸ rfl)
      · next hstart => exact Option.some.inj h ▸ .fail err (hstart ▸ rfl)
      · next hstart => exact Option.some.inj h ▸ .fail err (hstart ▸ rfl)
      · cases h
  | sendNewProxy =>
      simp only [step] at h
      split at h
      · next proxy rest hstart => exact Option.some.inj h ▸ .waits proxy rest hstart
      · cases h
  | reply msg now =>
      simp only [step] at h
      split at h
      · next proxy rest hstart => exact Option.some.inj h ▸ steps_reply hstart
      · cases h
  | started =>
      simp only [step] at h
      split at h
      · next hstart =>
          obtain ⟨commands, hstep, rfl⟩ := Option.map_eq_some_iff.mp h
          exact .started commands hstart hstep
      · cases h
  | commands e =>
      simp only [step] at h
      split at h
      · next hadmits =>
          obtain ⟨commands, hstep, rfl⟩ := Option.map_eq_some_iff.mp h
          exact .commands e commands hadmits hstep
      · cases h
  | loopFails err =>
      simp only [step] at h
      split at h
      · next hserving =>
          obtain ⟨commands, hstep, rfl⟩ := Option.map_eq_some_iff.mp h
          exact .loopFails err commands hserving hstep
      · cases h
  | bind ok =>
      simp only [step] at h
      split at h
      · refine Option.some.inj h ▸ .listens _ _ (fun hlistening ↦ .inr ?_) .inl
        cases ok with
        | true => rfl
        | false => cases hlistening
      · cases h
  | serveFails =>
      simp only [step] at h
      split at h
      · exact Option.some.inj h ▸ .listens .stopped _ (fun hstopped ↦ by cases hstopped) .inl
      · cases h
  | accept =>
      simp only [step] at h
      split at h
      · next hlistening =>
          exact Option.some.inj h ▸ .listens _ _ .inl fun _ ↦ .inr ⟨hlistening, rfl⟩
      · cases h
  | hangUp =>
      simp only [step] at h
      split at h
      · next hopen => exact Option.some.inj h ▸ .listens _ _ .inl fun _ ↦ .inl hopen
      · cases h
  | request req =>
      simp only [step] at h
      split at h
      · exact .serves (serves_serve h)
      · cases h
  | handle i =>
      obtain ⟨handler, hi, h⟩ := Option.bind_eq_some_iff.mp h
      exact .serves (serves_handle hi h)
  | sighup file names => exact .serves (serves_receiveSighup h)
  | reload =>
      obtain ⟨r, hr, h⟩ := Option.bind_eq_some_iff.mp h
      exact .serves (serves_goOn hr h)

end Session

/-- What the service can do in one step. -/
inductive Turns (seenAs : String → String) (s : Service) : Event → Service → Prop
  /-- It retries, wakes up or returns, at any rate out of a session that has ended. -/
  | pauses {e : Event} (phase : ServicePhase) (retryCount : Nat) (hphase : phase ≠ .running)
      (hover : s.phase = .running →
        ∀ session ∈ s.sessions.getLast?, session.control.loop.over = true) :
      Turns seenAs s e { s with phase := phase, retryCount := retryCount }
  | connects (hphase : s.phase = .connecting) :
      Turns seenAs s (.connected (.ok ())) { s with
        sessions := s.sessions ++ [.new s.config], phase := .running, retryCount := 0 }
  | session (k : Nat) (e : SessionEvent) (session session' : Session)
      (hk : s.sessions[k]? = some session)
      (hstep : session.step s.config seenAs e = some session') :
      Turns seenAs s (.session k e) { s with sessions := s.sessions.set k session' }

section Turns

variable {seenAs : String → String} {s t : Service} {e : Event}

theorem turns_retry (err : Error) (hover : s.phase = .running →
    ∀ session ∈ s.sessions.getLast?, session.control.loop.over = true) :
    Turns seenAs s e (s.retry err) := by
  unfold retry
  split
  · exact .pauses _ _ (fun hfalse ↦ by cases hfalse) hover
  · exact .pauses _ _ (fun hfalse ↦ by cases hfalse) hover

theorem session_of_step {k : Nat} {e : SessionEvent} (h : step seenAs s (.session k e) = some t) :
    ∃ session session', s.sessions[k]? = some session ∧
      session.step s.config seenAs e = some session' ∧
      { s with sessions := s.sessions.set k session' } = t := by
  simp only [step] at h
  split at h
  · cases h
  · split at h
    · obtain ⟨session, hk, h⟩ := Option.bind_eq_some_iff.mp h
      obtain ⟨session', hstep, rfl⟩ := Option.map_eq_some_iff.mp h
      exact ⟨session, session', hk, hstep, rfl⟩
    · cases h

theorem turns_of_step (h : step seenAs s e = some t) : Turns seenAs s e t := by
  cases e with
  | connected result =>
      simp only [step] at h
      split at h
      · next hphase => exact Option.some.inj h ▸ .connects hphase
      · next err hphase =>
          refine Option.some.inj h ▸ turns_retry err fun hrunning ↦ ?_
          cases hphase.symm.trans hrunning
      · cases h
  | wake =>
      simp only [step] at h
      split at h
      · next secs hphase =>
          refine Option.some.inj h ▸ .pauses .connecting s.retryCount (fun hfalse ↦ ?_)
            fun hrunning ↦ ?_
          · cases hfalse
          · cases hphase.symm.trans hrunning
      · cases h
  | finished =>
      simp only [step] at h
      split at h
      · next session hphase hlast =>
          split at h
          · next hended =>
              have hover : s.phase = .running →
                  ∀ session ∈ s.sessions.getLast?, session.control.loop.over = true := by
                rintro - session' hsession'
                obtain rfl := Option.some.inj (hlast.symm.trans hsession')
                rw [hended]
                rfl
              obtain ⟨result, -, rfl⟩ := Option.map_eq_some_iff.mp h
              cases result with
              | ok u => exact .pauses _ _ (fun hfalse ↦ by cases hfalse) hover
              | error err => exact turns_retry err hover
          · cases h
      · cases h
  | session k e =>
      obtain ⟨session, session', hk, hstep, rfl⟩ := session_of_step h
      exact .session k e session session' hk hstep

/-- What holds of a new session and is kept by the steps of a session, holds of all. -/
theorem forall_sessions_step {P : Session → Prop} (h : step seenAs s e = some t)
    (hnew : P (.new s.config))
    (hstep : ∀ k se session session', e = .session k se → s.sessions[k]? = some session →
      P session → session.step s.config seenAs se = some session' → P session')
    (hs : ∀ session ∈ s.sessions, P session) : ∀ session ∈ t.sessions, P session := by
  cases turns_of_step h with
  | pauses phase retryCount hphase hover => exact hs
  | connects hphase =>
      intro session hsession
      rcases List.mem_append.mp hsession with hold | hadded
      · exact hs session hold
      · exact List.mem_singleton.mp hadded ▸ hnew
  | session k se session session' hk hse =>
      intro other hother
      rcases List.mem_or_eq_of_mem_set hother with hold | rfl
      · exact hs other hold
      · exact hstep k se session other rfl hk (hs session (List.mem_of_getElem? hk)) hse

/-- `main` starts the service with a configuration that was accepted. -/
theorem main_eq_ok {isIpAddr : String → Bool} {file : Result ClientConfig} :
    main isIpAddr file = .ok s ↔ ∃ config, file = .ok config ∧
      config.validate isIpAddr = .ok () ∧ ⟨config, [], .connecting, 0⟩ = s := by
  cases file with
  | error err => simp [main, bind, Except.bind]
  | ok config =>
      cases hvalid : config.validate isIpAddr <;>
        simp [main, bind, Except.bind, pure, Except.pure, hvalid]

theorem config_step (h : step seenAs s e = some t) : t.config = s.config := by
  cases turns_of_step h <;> rfl

end Turns

end Service

end Arp.Client
