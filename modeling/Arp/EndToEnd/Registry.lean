import Arp.Client.Prompt
import Arp.Server.Consistency
import Arp.Server.Control

/-!
# The two registries of a session

The client keeps an object for every proxy it has registered, and the server keeps the proxies
of every run.  The two are kept in step by messages: `NewProxy` and its answer, and
`CloseProxy`, which has none.  A session is put together from the client's control, the control
connection as a queue for each direction, and the server's handlers; it starts with the
registration of the configured proxies.

What other sessions do to the server's state is a step of its own; a takeover between two of
them may evict a proxy of this run.  A session that is down takes no further steps.

Nothing is rolled back when a registration is given up, so the registries can part for good.
The main result says which steps have to be kept from happening for them to agree whenever the
connection is idle: the step lemmas show that the client's registry, with the registrations
that were granted on their way to it, is the server's, without the proxies whose `CloseProxy`
is on its way (`Synced.agree`).
-/

/-! ## The server's side -/

namespace Arp.Server

open Arp.Common Arp.Lib Arp.Lib.Text

namespace Shared

variable {U : UnicodeData} {s : Shared} {runId : RunId} {control : Control} {msg : NewProxyMsg}
  {walk : Walk} {bind : Option String}

/-- A proxy of this name is registered for the run. -/
def Has (s : Shared) (runId : RunId) (name : String) : Prop :=
  proxyKey runId.val name ∈ s.manager.proxies

instance (s : Shared) (runId : RunId) (name : String) : Decidable (s.Has runId name) :=
  inferInstanceAs (Decidable (proxyKey runId.val name ∈ s.manager.proxies))

/-- The keys of the proxies of a run. -/
def keysOf (s : Shared) (runId : RunId) : List String :=
  ProxyManager.runKeys runId s.manager.proxies.keys

theorem proxyKey_mem_keysOf {name : String} :
    proxyKey runId.val name ∈ s.keysOf runId ↔ s.Has runId name := by
  rw [keysOf, ProxyManager.runKeys, List.mem_filter]
  exact and_iff_left (startsWith_run_iff.mpr ⟨name, rfl⟩)

/-- A name that is taken over from another connection is evicted by the end of its key.  No
proxy of this run has a key that ends so. -/
def SparesOwn (s : Shared) (runId : RunId) (name : String) : Prop :=
  (∃ r ∈ s.controls.keys, r ≠ runId ∧ s.Has r name) →
    ∀ key ∈ s.keysOf runId, endsWith key (":" ++ name) = false

instance (s : Shared) (runId : RunId) (name : String) : Decidable (s.SparesOwn runId name) :=
  inferInstanceAs (Decidable ((∃ r ∈ s.controls.keys, r ≠ runId ∧ s.Has r name) →
    ∀ key ∈ s.keysOf runId, endsWith key (":" ++ name) = false))

theorem has_iff_lookup {name : String} :
    s.Has runId name ↔ s.manager.proxies.lookup (proxyKey runId.val name) ≠ none := by
  rw [Has, ← AList.lookup_isSome, Option.isSome_iff_ne_none]

/-- An eviction leaves the proxies of the run alone. -/
theorem has_takeOver {owner : ProxyOwner} {order : List String}
    (hspares : ∀ key ∈ s.keysOf runId, endsWith key (":" ++ msg.proxyName) = false)
    (name : String) :
    (s.takeOver owner order msg.proxyName).Has runId name ↔ s.Has runId name := by
  have hproxies : (s.takeOver owner order msg.proxyName).manager.proxies =
      (s.manager.evictProxyByName order msg.proxyName).2.proxies := by
    unfold takeOver
    split
    rename_i hevict
    rw [hevict]
    split <;> rfl
  rw [has_iff_lookup, has_iff_lookup, hproxies, ProxyManager.evictProxyByName]
  split
  · rfl
  · next key hkey =>
      have hends : endsWith key (":" ++ msg.proxyName) = true := by
        simpa using List.find?_some hkey
      rw [ProxyManager.forgetXtcp, ProxyManager.lookup_proxies_unregisterKey]
      split
      · next hown =>
          refine ⟨fun h ↦ absurd rfl h, fun h ↦ ?_⟩
          have hmem := proxyKey_mem_keysOf.mpr (has_iff_lookup.mpr h)
          rw [hown] at hmem
          rw [hspares key hmem] at hends
          cases hends
      · rfl

/-- What a registration does to the names of the run, and says about it. -/
inductive Registers (s : Shared) (runId : RunId) (name : String) :
    NewProxyRespMsg × Shared → Prop
  | refused (error : String) (s' : Shared) (herror : error ≠ "")
      (hsame : ∀ n, s'.Has runId n ↔ s.Has runId n) : Registers s runId name (⟨name, "", error⟩, s')
  | granted (addr : String) (s' : Shared) (hnew : ¬s.Has runId name)
      (hadded : ∀ n, s'.Has runId n ↔ n = name ∨ s.Has runId n) :
      Registers s runId name (⟨name, addr, ""⟩, s')

/-- Only the names of the run matter. -/
theorem Registers.of_same {s₁ : Shared} {name : String} {result : NewProxyRespMsg × Shared}
    (h : s₁.Registers runId name result) (hsame : ∀ n, s₁.Has runId n ↔ s.Has runId n) :
    s.Registers runId name result := by
  cases h with
  | refused error s' herror hsame' =>
      exact .refused error s' herror fun n ↦ (hsame' n).trans (hsame n)
  | granted addr s' hnew hadded =>
      exact .granted addr s' (mt (hsame name).mpr hnew) fun n ↦
        (hadded n).trans (or_congr_right (hsame n))

theorem registers_authorizeAndRegister (U : UnicodeData) (s : Shared) (runId : RunId)
    (control : Control) (msg : NewProxyMsg) (bind : Option String) :
    s.Registers runId msg.proxyName (s.authorizeAndRegister U runId control msg bind) := by
  rcases authorizeAndRegister_cases U s runId control msg bind with
    ⟨e, pm', hr, cursor, rfl⟩ | ⟨addr, proxy, pm', hr, hkey, hbuilt⟩
  · rw [hr]
    exact .refused _ _ (Error.display_ne_empty e) fun _ ↦ Iff.rfl
  · rw [hr]
    refine .granted addr _ hkey fun n ↦ ?_
    rw [Has, Has, ProxyManager.enter, hbuilt.proxies_eq, AList.mem_insert, proxyKey_inj]
    exact or_congr_left (and_iff_right rfl)

/-- `handle_new_proxy` answers for the name it was asked for, and tells the truth. -/
theorem registers_handleNewProxy (hspares : s.SparesOwn runId msg.proxyName) :
    s.Registers runId msg.proxyName (s.handleNewProxy U runId control msg walk bind) := by
  unfold handleNewProxy
  split
  · refine .refused _ s (fun h ↦ ?_) fun _ ↦ Iff.rfl
    exact absurd (String.append_eq_empty_iff.mp h).2 (by decide)
  · exact registers_authorizeAndRegister U s runId control msg bind
  · next owner hjudge =>
      obtain ⟨hfound, hother, -, -⟩ := judge_eq_takeOver hjudge
      obtain ⟨c, hc, -, hkey⟩ := findProxyOwner_eq_some hfound
      have hsame : ∀ n, (s.takeOver owner walk.proxies msg.proxyName).Has runId n ↔
          s.Has runId n :=
        has_takeOver (hspares ⟨_, AList.mem_keys.mp (Table.mem_of_lookup hc), hother, hkey⟩)
      exact (registers_authorizeAndRegister U _ runId control msg bind).of_same hsame

/-- `unregister_proxy` takes one name away. -/
theorem has_unregisterProxy {name n : String} :
    { s with manager := s.manager.unregisterProxy runId name }.Has runId n ↔
      n ≠ name ∧ s.Has runId n := by
  rw [has_iff_lookup, has_iff_lookup, ProxyManager.unregisterProxy,
    ProxyManager.lookup_proxies_unregisterKey]
  split
  · next hkey => simp [(proxyKey_inj.mp hkey).2]
  · next hkey =>
      refine (and_iff_right fun hn ↦ hkey ?_).symm
      rw [hn]

end Shared

end Arp.Server

/-! ## Sessions -/

namespace Arp.EndToEnd.Registry

open Arp.Common Arp.Lib Arp.Lib.Machine Arp.Lib.Text Arp.Client Arp.Client.Commands
open Arp.Server (Shared RunId)

/-- A message on the connection.  Messages about a call carry its number; the proxies of the
configuration have none. -/
abbrev Packet := Option Nat × Message

/-- The registration a message asks for. -/
def asks : Packet → Option (Option Nat × String)
  | (call, .newProxy msg) => some (call, msg.proxyName)
  | _ => none

/-- A session. -/
structure Sys where
  client : Commands.Control
  /-- Where `register_proxies` is. -/
  startup : RegisterPc
  toServer : List Packet
  toClient : List Packet
  shared : Shared
  /-- The calls that the proxies of this run were registered for, by name. -/
  madeBy : Table String (Option Nat)
  /-- The connection is closed or has failed. -/
  down : Bool

/-- The client has a proxy of this name. -/
def Sys.ClientHas (s : Sys) (name : String) : Prop := name ∈ s.client.proxyManager.proxies

instance (s : Sys) (name : String) : Decidable (s.ClientHas name) :=
  inferInstanceAs (Decidable (name ∈ s.client.proxyManager.proxies))

/-- A session after the login. -/
def start (proxies : List ProxyConfig) (shared : Shared) : Sys where
  client := .new
  startup := .sending proxies
  toServer := []
  toClient := []
  shared := shared
  madeBy := ∅
  down := false

/-- What can happen next. -/
inductive Event where
  /-- A step of the client that concerns no message. -/
  | act (a : Commands.Control.Act)
  /-- `register_proxies` sends the next message. -/
  | startSend
  /-- It receives a message. -/
  | startRecv (now : Nat)
  | started
  /-- The client's loop has sent the message of a command. -/
  | sent
  /-- It has not, or the message is flushed later. -/
  | sendFails (e : Error) (delivered : Bool)
  | clientRecv (now : Nat)
  | serverRecv (walk : Shared.Walk) (bind : Option String)
  /-- The server sends a message on another account. -/
  | serverEmits (msg : Message)
  /-- Other sessions change the server's state. -/
  | elsewhere (shared : Shared)
  | close

/-- The client's loop handles a message.  Those of other kinds touch neither registry. -/
def handleMessage (c : Commands.Control) (msg : Message) (now : Nat) : Commands.Control :=
  match msg with
  | .newProxyResp resp => c.handleNewProxyResp resp now
  | .natHoleResp resp => c.handleNatholeResponse resp
  | _ => c

section

variable (tcpMux : Bool) (U : UnicodeData) (runId : RunId) (control : Server.Control)

/-- `register_proxies` handles a message. -/
def startRecv (s : Sys) (proxyConfig : ProxyConfig) (rest : List ProxyConfig) (msg : Message)
    (now : Nat) : Sys :=
  let (pc, effective) := onReply tcpMux proxyConfig rest msg
  let pm := s.client.proxyManager
  { s with
    startup := pc
    client := { s.client with
      proxyManager := effective.elim pm fun proxyConfig ↦ pm.registerProxy proxyConfig now
      -- An error of the registration is one of the whole session.
      loop := match pc with
        | .returned _ => .ended
        | .sending _ | .waiting _ _ => .starting } }

/-- The server's loop handles a message. -/
def serverRecv (s : Sys) (packet : Packet) (walk : Shared.Walk) (bind : Option String) : Sys :=
  match packet.2 with
  | .newProxy msg =>
    let (resp, shared) := s.shared.handleNewProxy U runId control msg walk bind
    { s with
      shared := shared
      toClient := s.toClient ++ [(packet.1, .newProxyResp resp)]
      madeBy := if resp.error = "" then s.madeBy.insert msg.proxyName packet.1 else s.madeBy }
  | .closeProxy proxyName =>
    { s with
      shared := { s.shared with manager := s.shared.manager.unregisterProxy runId proxyName }
      madeBy := s.madeBy.erase proxyName }
  | _ => s

/-- One step. -/
def step (s : Sys) (e : Event) : Option Sys :=
  if s.down then none
  else
    match e with
    | .act a => (s.client.act tcpMux a).map fun c ↦ { s with client := c }
    | .startSend =>
      match s.client.loop, s.startup with
      | .starting, .sending (proxyConfig :: rest) => some { s with
          startup := .waiting proxyConfig rest
          toServer := s.toServer ++ [(none, .newProxy (newProxyMsg tcpMux proxyConfig))] }
      | _, _ => none
    | .startRecv now =>
      match s.client.loop, s.startup, s.toClient with
      | .starting, .waiting proxyConfig rest, packet :: queue =>
        some (startRecv tcpMux { s with toClient := queue } proxyConfig rest packet.2 now)
      | _, _, _ => none
    | .started =>
      match s.client.loop, s.startup with
      | .starting, .sending [] => some { s with
          startup := .returned (.ok ())
          client := { s.client with loop := .serving } }
      | _, _ => none
    | .sent =>
      match s.client.loop with
      | .sending i => s.client.calls[i]?.map fun call ↦ { s with
          client := s.client.sent i call.command
          toServer := s.toServer ++ [(some i, call.command.message)] }
      | _ => none
    | .sendFails e delivered =>
      match s.client.loop with
      | .sending i => s.client.calls[i]?.map fun call ↦ { s with
          client := s.client.sendFails i e call.command
          toServer := if delivered then s.toServer ++ [(some i, call.command.message)]
            else s.toServer }
      | _ => none
    | .clientRecv now =>
      match s.client.loop, s.toClient with
      | .serving, packet :: queue => some { s with
          client := handleMessage s.client packet.2 now
          toClient := queue }
      | _, _ => none
    | .serverRecv walk bind =>
      match s.toServer with
      | packet :: queue =>
        some (serverRecv U runId control { s with toServer := queue } packet walk bind)
      | [] => none
    | .serverEmits msg =>
      match msg with
      | .newProxyResp _ => none
      | msg => some { s with toClient := s.toClient ++ [(none, msg)] }
    | .elsewhere shared => some { s with shared := shared }
    | .close => some { s with down := true }

/-- What a step can do. -/
inductive Steps (s : Sys) : Event → Sys → Prop
  | act (a : Commands.Control.Act) (c : Commands.Control) (hc : s.client.act tcpMux a = some c) :
      Steps s (.act a) { s with client := c }
  | startSend {proxyConfig : ProxyConfig} {rest : List ProxyConfig}
      (hstarting : s.client.loop = .starting)
      (hstartup : s.startup = .sending (proxyConfig :: rest)) :
      Steps s .startSend { s with
        startup := .waiting proxyConfig rest
        toServer := s.toServer ++ [(none, .newProxy (newProxyMsg tcpMux proxyConfig))] }
  | startRecv {now : Nat} {proxyConfig : ProxyConfig} {rest : List ProxyConfig} {packet : Packet}
      {queue : List Packet} (hstarting : s.client.loop = .starting)
      (hstartup : s.startup = .waiting proxyConfig rest) (hqueue : s.toClient = packet :: queue) :
      Steps s (.startRecv now)
        (startRecv tcpMux { s with toClient := queue } proxyConfig rest packet.2 now)
  | started (hstarting : s.client.loop = .starting) (hstartup : s.startup = .sending []) :
      Steps s .started { s with
        startup := .returned (.ok ())
        client := { s.client with loop := .serving } }
  | sent {i : Nat} {call : Call} (hloop : s.client.loop = .sending i)
      (hcall : s.client.calls[i]? = some call) :
      Steps s .sent { s with
        client := s.client.sent i call.command
        toServer := s.toServer ++ [(some i, call.command.message)] }
  | sendFails {e : Error} {delivered : Bool} {i : Nat} {call : Call}
      (hloop : s.client.loop = .sending i) (hcall : s.client.calls[i]? = some call) :
      Steps s (.sendFails e delivered) { s with
        client := s.client.sendFails i e call.command
        toServer := if delivered then s.toServer ++ [(some i, call.command.message)]
          else s.toServer }
  | clientRecv {now : Nat} {packet : Packet} {queue : List Packet}
      (hserving : s.client.loop = .serving) (hqueue : s.toClient = packet :: queue) :
      Steps s (.clientRecv now) { s with
        client := handleMessage s.client packet.2 now
        toClient := queue }
  | serverRecv {walk : Shared.Walk} {bind : Option String} {packet : Packet}
      {queue : List Packet} (hqueue : s.toServer = packet :: queue) :
      Steps s (.serverRecv walk bind)
        (serverRecv U runId control { s with toServer := queue } packet walk bind)
  | serverEmits (msg : Message) (hother : ∀ resp, msg ≠ .newProxyResp resp) :
      Steps s (.serverEmits msg) { s with toClient := s.toClient ++ [(none, msg)] }
  | elsewhere (shared : Shared) : Steps s (.elsewhere shared) { s with shared := shared }
  | close : Steps s .close { s with down := true }

variable {tcpMux U runId control} in
theorem steps_of_step {s t : Sys} {e : Event} (ht : step tcpMux U runId control s e = some t) :
    Steps tcpMux U runId control s e t := by
  unfold step at ht
  split at ht
  · cases ht
  cases e with
  | act a =>
      obtain ⟨c, hc, rfl⟩ := Option.map_eq_some_iff.mp ht
      exact .act a c hc
  | startSend =>
      simp only at ht
      split at ht
      · next hstarting hstartup => exact Option.some.inj ht ▸ .startSend hstarting hstartup
      · cases ht
  | startRecv now =>
      simp only at ht
      split at ht
      · next hstarting hstartup hqueue =>
          exact Option.some.inj ht ▸ .startRecv hstarting hstartup hqueue
      · cases ht
  | started =>
      simp only at ht
      split at ht
      · next hstarting hstartup => exact Option.some.inj ht ▸ .started hstarting hstartup
      · cases ht
  | sent =>
      simp only at ht
      split at ht
      · next i hloop =>
          obtain ⟨call, hcall, rfl⟩ := Option.map_eq_some_iff.mp ht
          exact .sent hloop hcall
      · cases ht
  | sendFails e delivered =>
      simp only at ht
      split at ht
      · next i hloop =>
          obtain ⟨call, hcall, rfl⟩ := Option.map_eq_some_iff.mp ht
          exact .sendFails hloop hcall
      · cases ht
  | clientRecv now =>
      simp only at ht
      split at ht
      · next hserving hqueue => exact Option.some.inj ht ▸ .clientRecv hserving hqueue
      · cases ht
  | serverRecv walk bind =>
      simp only at ht
      split at ht
      · next hqueue => exact Option.some.inj ht ▸ .serverRecv hqueue
      · cases ht
  | serverEmits msg =>
      simp only at ht
      split at ht
      · cases ht
      · next hother => exact Option.some.inj ht ▸ .serverEmits msg hother
  | elsewhere shared => exact Option.some.inj ht ▸ .elsewhere shared
  | close => exact Option.some.inj ht ▸ .close

instance : ∀ pc : CallPc, Decidable (pc = .sending)
  | .sending => .isTrue rfl
  | .waiting _ | .clearing _ | .returned _ => .isFalse CallPc.noConfusion

/-- No message is in flight, no command is pending, and the session is up. -/
structure Quiescent (s : Sys) : Prop where
  up : s.down = false
  serving : s.client.loop = .serving
  toServer : s.toServer = []
  toClient : s.toClient = []
  commands : s.client.commands = []
  called : ∀ call ∈ s.client.calls, call.pc ≠ .sending
  xtcp : s.client.pendingXtcp = none
  register : s.client.pendingProxyResp = none

/-- The registries agree, and the server keeps no proxy for a registration that has failed. -/
structure Agreed (s : Sys) : Prop where
  names : ∀ name, s.ClientHas name ↔ s.shared.Has runId name
  failed : ∀ (i : Nat) (call : Call) (proxyConfig : ProxyConfig) (multiplexer : String) (e : Error),
    s.client.calls[i]? = some call → call.command = .registerProxy proxyConfig multiplexer →
      call.pc = .returned (.error e) →
        ¬(s.shared.Has runId proxyConfig.name ∧ s.madeBy.lookup proxyConfig.name = some (some i))

/-- The name of the proxy that the next command on the channel is to close. -/
def closesNext (c : Commands.Control) : Option String :=
  match c.commands.head?.bind c.commandOf with
  | some (.closeProxy proxyName) => some proxyName
  | _ => none

/-- No registration runs out of time, no message is delivered that the client takes for lost,
the client closes no proxy while it waits for the answer to its registration, and no proxy of
this run is evicted, for another of its names or by what other sessions do. -/
def Steady (s : Sys) : Event → Prop
  | .act (.expire i) => s.client.kindOf i ≠ some .register
  | .act .take => ∀ p ∈ s.client.pendingProxyResp, closesNext s.client ≠ some p.proxyConfig.name
  | .sendFails _ delivered => delivered = false
  | .serverRecv _ _ => ∀ packet ∈ s.toServer.head?, ∀ q ∈ asks packet,
      s.shared.SparesOwn runId q.2
  | .elsewhere shared => (shared.keysOf runId).Perm (s.shared.keysOf runId)
  | _ => True

instance instDecidableSteady (s : Sys) : ∀ e, Decidable (Steady runId s e)
  | .act (.expire i) => inferInstanceAs (Decidable (s.client.kindOf i ≠ some .register))
  | .act .take => inferInstanceAs (Decidable (∀ p ∈ s.client.pendingProxyResp,
      closesNext s.client ≠ some p.proxyConfig.name))
  | .sendFails _ delivered => inferInstanceAs (Decidable (delivered = false))
  | .serverRecv _ _ => inferInstanceAs (Decidable (∀ packet ∈ s.toServer.head?,
      ∀ q ∈ asks packet, s.shared.SparesOwn runId q.2))
  | .elsewhere shared =>
    inferInstanceAs (Decidable ((shared.keysOf runId).Perm (s.shared.keysOf runId)))
  | .act (.requestXtcpPeer _ _ _) | .act (.registerProxyDynamic _) | .act (.closeProxyDynamic _)
  | .act (.enqueue _) | .act (.receive _) | .act (.clear _) | .act .fails | .act .finishXtcp
  | .act .finishProxy | .startSend | .startRecv _ | .started | .sent | .clientRecv _
  | .serverEmits _ | .close => .isTrue trivial

end

/-! ## What is in flight -/

/-- The registration a message answers. -/
def answers : Packet → Option (Option Nat × String)
  | (call, .newProxyResp resp) => some (call, resp.proxyName)
  | _ => none

/-- The name a message grants. -/
def grants : Packet → Option String
  | (_, .newProxyResp resp) => if resp.error = "" then some resp.proxyName else none
  | _ => none

/-- The name a message closes. -/
def closes : Packet → Option String
  | (_, .closeProxy proxyName) => some proxyName
  | _ => none

/-- The registration the server was asked for, at start-up or by a call. -/
def asking (s : Sys) : Option (Option Nat × String) :=
  match s.startup with
  | .waiting proxyConfig _ => some (none, proxyConfig.name)
  | .sending _ | .returned _ => s.client.asking

theorem filterMap_concat_of_none {α β : Type} {f : α → Option β} {l : List α} {a : α}
    (h : f a = none) : (l ++ [a]).filterMap f = l.filterMap f := by
  simp [h]

/-- If there is one element altogether, there is none before it and none after it. -/
theorem eq_of_append_cons_eq_toList {α : Type} {l l' : List α} {a : α} {o : Option α}
    (h : l ++ a :: l' = o.toList) : l = [] ∧ o = some a ∧ l' = [] := by
  cases o with
  | none => simp at h
  | some b =>
      rw [Option.toList_some, List.append_eq_singleton_iff] at h
      simpa [eq_comm] using h

/-- What is granted is an answer. -/
theorem mem_answers_of_grants {packets : List Packet} {name : String}
    (h : name ∈ packets.filterMap grants) : ∃ call, (call, name) ∈ packets.filterMap answers := by
  obtain ⟨⟨call, msg⟩, hpacket, hgrants⟩ := List.mem_filterMap.mp h
  refine ⟨call, List.mem_filterMap.mpr ⟨_, hpacket, ?_⟩⟩
  cases msg with
  | newProxyResp resp =>
      simp only [grants] at hgrants
      split at hgrants
      · obtain rfl := Option.some.inj hgrants
        rfl
      · cases hgrants
  | _ => cases hgrants

theorem grants_eq_nil {packets : List Packet} (h : packets.filterMap answers = []) :
    packets.filterMap grants = [] := by
  refine List.eq_nil_iff_forall_not_mem.mpr fun name hname ↦ ?_
  obtain ⟨call, hcall⟩ := mem_answers_of_grants hname
  rw [h] at hcall
  cases hcall

/-- A session in step: at most one registration is in flight, the one the client waits for, and
no `CloseProxy` for its name was sent after it.  The client's proxies and those granted to it
are the server's but for those that are to be closed. -/
structure Synced (runId : RunId) (s : Sys) : Prop where
  prompt : Prompt s.client
  startup : s.client.loop = .starting ∧ s.client.pendingProxyResp = none ∨
    s.startup = .returned (.ok ())
  inFlight : s.toServer.filterMap asks ++ s.toClient.filterMap answers = (asking s).toList
  order : s.toServer.Pairwise fun a b ↦ ∀ q ∈ asks a, closes b ≠ some q.2
  closing : ∀ i name, s.client.loop = .sending i →
    s.client.commandOf i = some (.closeProxy name) →
      ∀ q, s.client.registration = some q → q.2 ≠ name
  agree : ∀ name, s.ClientHas name ∨ name ∈ s.toClient.filterMap grants ↔
    s.shared.Has runId name ∧ name ∉ s.toServer.filterMap closes
  made : ∀ name i, s.madeBy.lookup name = some (some i) →
    name ∈ s.toClient.filterMap grants ∧ s.client.registration = some (some i, name) ∨
      ∃ call, s.client.calls[i]? = some call ∧ call.content = true

namespace Synced

variable {tcpMux : Bool} {U : UnicodeData} {runId : RunId} {control : Server.Control}
  {s t : Sys} {name : String} {i : Nat}

/-- When the client's loop runs, `register_proxies` has returned. -/
theorem returned {loop : LoopPc} (h : Synced runId s) (hloop : s.client.loop = loop)
    (hrunning : loop ≠ .starting) : s.startup = .returned (.ok ()) :=
  h.startup.resolve_left fun hstarting ↦ hrunning (hloop.symm.trans hstarting.1)

/-- After start-up, what the server was asked for is what the client's loop asked for. -/
theorem asking_eq (hreturned : s.startup = .returned (.ok ())) : asking s = s.client.asking := by
  rw [asking, hreturned]

/-- What is granted was asked for. -/
theorem asking_of_grants (h : Synced runId s) (hname : name ∈ s.toClient.filterMap grants) :
    ∃ call, asking s = some (call, name) := by
  obtain ⟨call, hcall⟩ := mem_answers_of_grants hname
  have hmem : (call, name) ∈ (asking s).toList := h.inFlight ▸ List.mem_append_right _ hcall
  exact ⟨call, Option.mem_toList.mp hmem⟩

/-- What the server was asked for by a call is in the slot. -/
theorem registration_of_asking (hasking : asking s = some (some i, name)) :
    s.client.registration = some (some i, name) := by
  have hclient : s.client.asking = some (some i, name) := by
    rw [asking] at hasking
    split at hasking
    · cases hasking
    · exact hasking
    · exact hasking
  unfold Control.asking at hclient
  split at hclient
  · split at hclient
    · cases hclient
    · exact hclient
  · exact hclient

/-- A message that closes nothing comes after any other. -/
theorem order_concat {packet : Packet} (h : Synced runId s) (hcloses : closes packet = none) :
    (s.toServer ++ [packet]).Pairwise fun a b ↦ ∀ q ∈ asks a, closes b ≠ some q.2 := by
  refine List.pairwise_append.mpr ⟨h.order, List.pairwise_singleton _ _, ?_⟩
  intro a _ b hb q _
  rw [List.mem_singleton.mp hb, hcloses]
  exact (Option.some_ne_none q.2).symm

theorem agree_concat {packet : Packet} (h : Synced runId s) (hcloses : closes packet = none)
    (name : String) : s.ClientHas name ∨ name ∈ s.toClient.filterMap grants ↔
      s.shared.Has runId name ∧ name ∉ (s.toServer ++ [packet]).filterMap closes := by
  rw [filterMap_concat_of_none hcloses]
  exact h.agree name

/-- A step of the client that changes no proxy and asks for nothing. -/
theorem keeps {c : Commands.Control} (h : Synced runId s) (hkeeps : Keeps s.client c)
    (hstartup : c.loop = .starting ∧ c.pendingProxyResp = none ∨
      s.startup = .returned (.ok ()))
    (hclosing : ∀ i name, c.loop = .sending i → c.commandOf i = some (.closeProxy name) →
      ∀ q, c.registration = some q → q.2 ≠ name) :
    Synced runId { s with client := c } where
  prompt := hkeeps.prompt
  startup := hstartup
  inFlight := by
    have hasking : asking { s with client := c } = asking s := by
      simp only [asking, hkeeps.asking]
    rw [hasking]
    exact h.inFlight
  order := h.order
  closing := hclosing
  agree name := by
    rw [Sys.ClientHas, hkeeps.manager]
    exact h.agree name
  made name i hi := by
    rcases h.made name i hi with ⟨hgranted, hregistration⟩ | hcontent
    · exact .inl ⟨hgranted, hkeeps.registration _ hregistration⟩
    · exact .inr (hkeeps.evolves.exists_content hcontent)

/-- A step of the client that takes no command. -/
theorem rests {c : Commands.Control} (h : Synced runId s) (hrests : Rests s.client c) :
    Synced runId { s with client := c } := by
  refine h.keeps (hrests.keeps h.prompt) ?_ ?_
  · rw [hrests.loop, hrests.register]
    exact h.startup
  · intro i name hloop hcommand q hq
    rw [hrests.loop] at hloop
    rw [Control.registration, hrests.register] at hq
    obtain ⟨command, hold⟩ := Option.ne_none_iff_exists'.mp (h.prompt.sending i hloop).1
    have hsame := Control.commandOf_of_goes hrests.evolves hold
    rw [hcommand] at hsame
    rw [← hsame] at hold
    exact h.closing i name hloop hold q hq

/-- The client's loop takes a command. -/
theorem take {rest : List Nat} {call : Call} (h : Synced runId s)
    (hserving : s.client.loop = .serving) (hcommands : s.client.commands = i :: rest)
    (hcall : s.client.calls[i]? = some call)
    (hsteady : ∀ p ∈ s.client.pendingProxyResp, closesNext s.client ≠ some p.proxyConfig.name) :
    Synced runId { s with
      client := { s.client with commands := rest }.handleControlCommand i call.command } := by
  have hcommand := Control.commandOf_of_getElem? hcall
  have hkeeps := Keeps.take h.prompt hserving hcommands hcommand
  refine h.keeps hkeeps ?_ ?_
  · exact .inr (h.returned hserving LoopPc.noConfusion)
  · intro j name hloop hclose q hq
    obtain rfl : j = i := by
      rcases Control.loop_handleControlCommand { s.client with commands := rest } i call.command
        with hsame | hsending
      · cases (hsame.trans hserving).symm.trans hloop
      · exact LoopPc.sending.inj (hloop.symm.trans hsending)
    have hsame := Control.commandOf_of_goes hkeeps.evolves hcommand
    have hcommand' : call.command = .closeProxy name := Option.some.inj (hsame.symm.trans hclose)
    rw [hcommand'] at hq hcommand
    obtain ⟨p, hp, rfl⟩ := Option.map_eq_some_iff.mp hq
    refine fun hname ↦ hsteady p hp ?_
    rw [closesNext, hcommands, List.head?_cons, Option.bind_some, hcommand, ← hname]

/-- A step of the client on its own. -/
theorem act {a : Commands.Control.Act} {c : Commands.Control} (h : Synced runId s)
    (hsteady : Steady runId s (.act a)) (ht : s.client.act tcpMux a = some c) :
    c.loop.over = true ∨ Synced runId { s with client := c } := by
  by_cases htake : a = .take
  · subst htake
    simp only [Control.act] at ht
    split at ht
    · next i rest hserving hcommands =>
        obtain ⟨call, hcall, rfl⟩ := Option.map_eq_some_iff.mp ht
        exact .inr (h.take hserving hcommands hcall hsteady)
    · cases ht
  · refine (Rests.act h.prompt htake ?_ ht).imp_right h.rests
    rintro i rfl
    exact hsteady

/-! ### Start-up -/

/-- Before an answer is awaited at start-up, nothing is in flight. -/
theorem idle_of_startup {rest : List ProxyConfig} (h : Synced runId s)
    (hstarting : s.client.loop = .starting) (hstartup : s.startup = .sending rest) :
    s.client.registration = none ∧ s.toServer.filterMap asks = [] ∧
      s.toClient.filterMap answers = [] := by
  have hnone : s.client.registration = none := by
    rcases h.startup with ⟨-, hpending⟩ | hreturned
    · rw [Control.registration, hpending]
      rfl
    · cases hstartup.symm.trans hreturned
  have hasking : asking s = none := by
    rw [asking, hstartup, ← hnone, Control.asking, hstarting]
  have hempty := h.inFlight
  rw [hasking] at hempty
  exact ⟨hnone, List.append_eq_nil_iff.mp hempty⟩

theorem startSend {proxyConfig : ProxyConfig} {rest : List ProxyConfig} (h : Synced runId s)
    (hstarting : s.client.loop = .starting)
    (hstartup : s.startup = .sending (proxyConfig :: rest)) :
    Synced runId { s with
      startup := .waiting proxyConfig rest
      toServer := s.toServer ++ [(none, .newProxy (newProxyMsg tcpMux proxyConfig))] } := by
  obtain ⟨-, hasks, hanswers⟩ := h.idle_of_startup hstarting hstartup
  refine ⟨h.prompt, ?_, ?_, h.order_concat rfl, h.closing, h.agree_concat rfl, h.made⟩
  · refine .inl (h.startup.resolve_right fun hreturned ↦ ?_)
    cases hstartup.symm.trans hreturned
  · simp [hasks, hanswers, asks, asking, newProxyMsg]

theorem started (h : Synced runId s) (hstarting : s.client.loop = .starting)
    (hstartup : s.startup = .sending []) :
    Synced runId { s with
      startup := .returned (.ok ())
      client := { s.client with loop := .serving } } := by
  obtain ⟨hnone, hasks, hanswers⟩ := h.idle_of_startup hstarting hstartup
  refine ⟨h.prompt.withLoop fun _ ↦ LoopPc.noConfusion, .inr rfl, ?_, h.order, ?_, h.agree,
    h.made⟩
  · rw [hasks, hanswers]
    exact (congrArg Option.toList hnone).symm
  · intro i name hloop
    cases hloop

/-- An answer in front of the queue is the only message about a registration in flight. -/
theorem asking_of_answer {call : Option Nat} {resp : NewProxyRespMsg} {queue : List Packet}
    (h : Synced runId s) (hqueue : s.toClient = (call, .newProxyResp resp) :: queue) :
    asking s = some (call, resp.proxyName) ∧ s.toServer.filterMap asks = [] ∧
      queue.filterMap answers = [] ∧ queue.filterMap grants = [] := by
  have hinFlight := h.inFlight
  have hanswer : answers (call, .newProxyResp resp) = some (call, resp.proxyName) := rfl
  rw [hqueue, List.filterMap_cons_some hanswer] at hinFlight
  obtain ⟨hasks, hasking, hanswers⟩ := eq_of_append_cons_eq_toList hinFlight
  exact ⟨hasking, hasks, hanswers, grants_eq_nil hanswers⟩

/-- The client's names agree again once it has registered what was granted. -/
theorem agree_of_grant {call : Option Nat} {resp : NewProxyRespMsg} {queue : List Packet}
    (h : Synced runId s) (hqueue : s.toClient = (call, .newProxyResp resp) :: queue)
    (hok : resp.error = "") (name : String) :
    (name = resp.proxyName ∨ s.ClientHas name) ∨ name ∈ queue.filterMap grants ↔
      s.shared.Has runId name ∧ name ∉ s.toServer.filterMap closes := by
  obtain ⟨-, -, -, hgrants⟩ := h.asking_of_answer hqueue
  have hgrant : grants (call, .newProxyResp resp) = some resp.proxyName := if_pos hok
  rw [← h.agree name, hqueue, List.filterMap_cons_some hgrant, hgrants, List.mem_singleton,
    or_iff_left List.not_mem_nil, or_comm]

/-- The answer that `register_proxies` waits for is the only one in flight. -/
theorem startRecv {proxyConfig : ProxyConfig} {rest : List ProxyConfig} {packet : Packet}
    {queue : List Packet} {now : Nat} (h : Synced runId s)
    (hstartup : s.startup = .waiting proxyConfig rest)
    (hqueue : s.toClient = packet :: queue) :
    (Registry.startRecv tcpMux { s with toClient := queue } proxyConfig rest packet.2
        now).client.loop.over = true ∨
      Synced runId (Registry.startRecv tcpMux { s with toClient := queue } proxyConfig rest
        packet.2 now) := by
  obtain ⟨call, msg⟩ := packet
  cases msg with
  | newProxyResp resp =>
      by_cases hok : resp.error = ""
      · obtain ⟨hasking, hasks, hanswers, hgrants⟩ := h.asking_of_answer hqueue
        have hname : proxyConfig.name = resp.proxyName := by
          rw [asking, hstartup] at hasking
          exact congrArg Prod.snd (Option.some.inj hasking)
        have hnone : s.client.pendingProxyResp = none :=
          (h.startup.resolve_right fun hreturned ↦ by cases hstartup.symm.trans hreturned).2
        have hagree := h.agree_of_grant hqueue hok
        right
        simp only [Registry.startRecv, onReply, hok, if_true, Option.elim_some]
        refine ⟨?_, .inl ⟨rfl, hnone⟩, ?_, h.order, ?_, fun name ↦ ?_, fun name i hi ↦ .inr ?_⟩
        · have hprompt : Prompt { s.client with loop := .starting } :=
            h.prompt.withLoop fun _ ↦ LoopPc.noConfusion
          exact hprompt.withManager
        · rw [hasks, hanswers]
          simp [asking, Control.asking, Control.registration, hnone]
        · intro i name hloop
          cases hloop
        · rw [← hagree, Sys.ClientHas, ProxyManager.mem_registerProxy, ← hname]
          rfl
        · rcases h.made name i hi with ⟨-, hregistration⟩ | hcontent
          · rw [Control.registration, hnone] at hregistration
            cases hregistration
          · exact hcontent
      · left
        simp [Registry.startRecv, onReply, hok, LoopPc.over]
  | _ => exact .inl rfl

/-! ### The client's messages -/

/-- A message that is not about a registration is sent. -/
theorem send_other {packet : Packet} (h : Synced runId s) (hasks : asks packet = none)
    (hcloses : closes packet = none) :
    Synced runId { s with toServer := s.toServer ++ [packet] } := by
  refine ⟨h.prompt, h.startup, ?_, h.order_concat hcloses, h.closing, h.agree_concat hcloses,
    h.made⟩
  have hinFlight := h.inFlight
  rw [← filterMap_concat_of_none hasks] at hinFlight
  exact hinFlight

/-- The loop is back in front of its select, and the slot for registrations is as it was. -/
theorem keeps_serving {c : Commands.Control}
    (hloop : s.client.loop = .sending i) (hkind : s.client.kindOf i ≠ some .register)
    (hprompt : Prompt c) (hevolves : Evolves s.client.calls c.calls) (hserving : c.loop = .serving)
    (hregister : c.pendingProxyResp = s.client.pendingProxyResp)
    (hmanager : c.proxyManager = s.client.proxyManager) : Keeps s.client c := by
  have hsame : c.registration = s.client.registration := by
    rw [Control.registration, Control.registration, hregister]
  refine ⟨hprompt, hevolves, ?_, fun q hq ↦ hsame.trans hq, hmanager⟩
  rw [Control.asking, Control.asking, hserving, hloop]
  exact hsame.trans (if_neg hkind).symm

/-- While the message of a registration is being sent, nothing was asked for. -/
theorem idle_of_sending (h : Synced runId s) (hloop : s.client.loop = .sending i)
    (hkind : s.client.kindOf i = some .register) :
    s.toServer.filterMap asks = [] ∧ s.toClient.filterMap answers = [] := by
  have hnone : asking s = none := by
    rw [asking_eq (h.returned hloop LoopPc.noConfusion), Control.asking, hloop]
    exact if_pos hkind
  have hempty := h.inFlight
  rw [hnone] at hempty
  exact List.append_eq_nil_iff.mp hempty

theorem serving (h : Synced runId s) : Prompt { s.client with loop := .serving } :=
  h.prompt.withLoop fun _ ↦ LoopPc.noConfusion

theorem sent_registerProxy {proxyConfig : ProxyConfig} {multiplexer : String}
    (h : Synced runId s) (hloop : s.client.loop = .sending i)
    (hcommand : s.client.commandOf i = some (.registerProxy proxyConfig multiplexer)) :
    Synced runId { s with
      client := s.client.sent i (.registerProxy proxyConfig multiplexer)
      toServer := s.toServer ++
        [(some i, (Command.registerProxy proxyConfig multiplexer).message)] } := by
  have hstartup := h.returned hloop LoopPc.noConfusion
  obtain ⟨hasks, hanswers⟩ := h.idle_of_sending hloop (Control.kindOf_of_commandOf hcommand)
  refine ⟨h.serving, .inr hstartup, ?_, h.order_concat rfl, (fun _ _ h ↦ by cases h),
    h.agree_concat rfl, h.made⟩
  rw [List.filterMap_append, hasks, hanswers, asking, hstartup]
  exact (congrArg Option.toList (h.prompt.registration_of_sending hloop hcommand)).symm

theorem sent_closeProxy {proxyName : String} (h : Synced runId s)
    (hloop : s.client.loop = .sending i)
    (hcommand : s.client.commandOf i = some (.closeProxy proxyName)) :
    Synced runId { s with
      client := s.client.sent i (.closeProxy proxyName)
      toServer := s.toServer ++ [(some i, .closeProxy proxyName)] } := by
  have hstartup := h.returned hloop LoopPc.noConfusion
  have hother : s.client.kindOf i ≠ some .register := by
    rw [Control.kindOf_of_commandOf hcommand]
    exact fun h ↦ by cases h
  have hasking : asking s = s.client.registration := by
    rw [asking_eq hstartup, Control.asking, hloop]
    exact if_neg hother
  have hasked : ∀ q, asking s = some q → q.2 ≠ proxyName := fun q hq ↦
    h.closing i proxyName hloop hcommand q (hasking.symm.trans hq)
  refine ⟨?_, .inr hstartup, ?_, ?_, (fun _ _ h ↦ by cases h), fun name ↦ ?_, fun name j hj ↦ ?_⟩
  · exact h.serving.withManager.reply fun hregister ↦ absurd hregister hother
  · have hasks : asks (some i, .closeProxy proxyName) = none := rfl
    have hinFlight := h.inFlight
    rw [← filterMap_concat_of_none hasks, hasking] at hinFlight
    simp only [asking, hstartup]
    exact hinFlight
  · refine List.pairwise_append.mpr ⟨h.order, List.pairwise_singleton _ _, ?_⟩
    intro a ha b hb q hq
    have hmem : q ∈ (asking s).toList :=
      h.inFlight ▸ List.mem_append_left _ (List.mem_filterMap.mpr ⟨a, ha, hq⟩)
    rw [List.mem_singleton.mp hb]
    exact fun hname ↦ hasked q (Option.mem_toList.mp hmem) (Option.some.inj hname).symm
  · have hclient : name ∈ (s.client.sent i (.closeProxy proxyName)).proxyManager.proxies ↔
        name ≠ proxyName ∧ s.ClientHas name := ProxyManager.mem_unregisterProxy
    have hcloses : (s.toServer ++ [(some i, Message.closeProxy proxyName)]).filterMap closes =
        s.toServer.filterMap closes ++ [proxyName] := List.filterMap_append
    rw [hcloses, List.mem_append, List.mem_singleton]
    by_cases hname : name = proxyName
    · -- It is gone on both sides: what is granted bears another name.
      constructor
      · rintro (hc | hgranted)
        · exact absurd hname (hclient.mp hc).1
        · obtain ⟨call, hcall⟩ := h.asking_of_grants hgranted
          exact absurd hname (hasked _ hcall)
      · rintro ⟨-, hopen⟩
        exact absurd (.inr hname) hopen
    · rw [or_iff_left hname, ← h.agree name]
      exact or_congr_left (hclient.trans (and_iff_right hname))
  · exact (h.made name j hj).imp_right
      (Evolves.reply s.client.calls i (.sent (.ok .closed))).exists_content

/-- The client's loop has sent a message. -/
theorem sent {call : Call} (h : Synced runId s) (hloop : s.client.loop = .sending i)
    (hcall : s.client.calls[i]? = some call) :
    Synced runId { s with
      client := s.client.sent i call.command
      toServer := s.toServer ++ [(some i, call.command.message)] } := by
  have hcommand := Control.commandOf_of_getElem? hcall
  have hkind := Control.kindOf_of_commandOf hcommand
  obtain ⟨command, pc⟩ := call
  cases command with
  | openXtcp serverName sk visitorAddr =>
      have hother : s.client.kindOf i ≠ some .register := by
        rw [hkind]
        exact fun h ↦ by cases h
      have hkeeps := keeps_serving hloop hother h.serving (.refl _) rfl rfl rfl
      have hstartup := h.returned hloop LoopPc.noConfusion
      exact (h.keeps hkeeps (.inr hstartup) fun _ _ h ↦ by cases h).send_other rfl rfl
  | registerProxy proxyConfig multiplexer => exact h.sent_registerProxy hloop hcommand
  | closeProxy proxyName => exact h.sent_closeProxy hloop hcommand

/-- The loop has emptied the slot for registrations, and no message about one is left. -/
theorem settled {c : Commands.Control} {queue : List Packet} (h : Synced runId s)
    (hstartup : s.startup = .returned (.ok ())) (hprompt : Prompt c) (hserving : c.loop = .serving)
    (hregister : c.pendingProxyResp = none) (hasks : s.toServer.filterMap asks = [])
    (hanswers : queue.filterMap answers = [])
    (hagree : ∀ name, name ∈ c.proxyManager.proxies ↔
      s.shared.Has runId name ∧ name ∉ s.toServer.filterMap closes)
    (hmade : ∀ name i, s.madeBy.lookup name = some (some i) →
      ∃ call, c.calls[i]? = some call ∧ call.content = true) :
    Synced runId { s with client := c, toClient := queue } where
  prompt := hprompt
  startup := .inr hstartup
  inFlight := by
    rw [hasks, hanswers, asking, hstartup]
    simp [Control.asking, Control.registration, hserving, hregister]
  order := h.order
  closing i name hloop := by
    cases hserving.symm.trans hloop
  agree name := by
    rw [grants_eq_nil hanswers, or_iff_left List.not_mem_nil]
    exact hagree name
  made name i hi := .inr (hmade name i hi)

/-- A call that is content stays so. -/
theorem content_of_made {c : Commands.Control} (h : Synced runId s)
    (hevolves : Evolves s.client.calls c.calls)
    (hname : name ∉ s.toClient.filterMap grants) (hi : s.madeBy.lookup name = some (some i)) :
    ∃ call, c.calls[i]? = some call ∧ call.content = true :=
  hevolves.exists_content ((h.made name i hi).resolve_left fun h ↦ hname h.1)

/-- The client's loop could not send a message, and the server does not get it. -/
theorem sendFails {call : Call} {e : Error} (h : Synced runId s)
    (hloop : s.client.loop = .sending i) (hcall : s.client.calls[i]? = some call) :
    (s.client.sendFails i e call.command).loop.over = true ∨
      Synced runId { s with client := s.client.sendFails i e call.command } := by
  have hkind := Control.kindOf_of_commandOf (Control.commandOf_of_getElem? hcall)
  have hstartup := h.returned hloop LoopPc.noConfusion
  obtain ⟨command, pc⟩ := call
  cases command with
  | openXtcp serverName sk visitorAddr =>
      refine .inl ?_
      rw [Control.sendFails, Control.loop_takeSlot]
      rfl
  | registerProxy proxyConfig multiplexer =>
      -- Nothing was asked for, so nothing is granted that would be missed.
      obtain ⟨hasks, hanswers⟩ := h.idle_of_sending hloop hkind
      have hgrants : ∀ name, name ∉ s.toClient.filterMap grants := by
        rw [grants_eq_nil hanswers]
        exact fun _ ↦ List.not_mem_nil
      have hevolves : Evolves s.client.calls
          (s.client.sendFails i e (.registerProxy proxyConfig multiplexer)).calls :=
        @Control.evolves_takeSlot { s.client with loop := .serving } .register (.sent (.error e))
      simp only [Control.sendFails] at hevolves ⊢
      refine .inr (h.settled hstartup (h.serving.takeRegister fun _ ↦ LoopPc.noConfusion) ?_ ?_
        hasks hanswers (fun name ↦ ?_) fun name j hj ↦
          h.content_of_made hevolves (hgrants name) hj)
      · rw [Control.loop_takeSlot]
      · rw [Control.pendingProxyResp_takeSlot]
        rfl
      · rw [Control.proxyManager_takeSlot, ← h.agree name, or_iff_left (hgrants name)]
        rfl
  | closeProxy proxyName =>
      have hother : s.client.kindOf i ≠ some .register := by
        rw [hkind]
        exact fun h ↦ by cases h
      have hprompt : Prompt (s.client.sendFails i e (.closeProxy proxyName)) :=
        h.serving.reply fun hregister ↦ absurd hregister hother
      have hkeeps := keeps_serving hloop hother hprompt (.reply s.client.calls i _) rfl rfl rfl
      exact .inr (h.keeps hkeeps (.inr hstartup) fun _ _ h ↦ by cases h)

/-! ### Answers -/

/-- A message that is not about a registration arrives. -/
theorem recv_other {packet : Packet} {queue : List Packet} (h : Synced runId s)
    (hqueue : s.toClient = packet :: queue) (hanswers : answers packet = none) :
    Synced runId { s with toClient := queue } := by
  have hgrants : s.toClient.filterMap grants = queue.filterMap grants := by
    rw [hqueue]
    refine List.filterMap_cons_none ?_
    obtain ⟨call, msg⟩ := packet
    cases msg with
    | newProxyResp resp => cases hanswers
    | _ => rfl
  refine ⟨h.prompt, h.startup, ?_, h.order, h.closing, ?_, ?_⟩
  · have hinFlight := h.inFlight
    rw [hqueue, List.filterMap_cons_none hanswers] at hinFlight
    exact hinFlight
  · have hagree := h.agree
    rw [hgrants] at hagree
    exact hagree
  · have hmade := h.made
    rw [hgrants] at hmade
    exact hmade

/-- The answer to the registration in the slot arrives. -/
theorem newProxyResp {call : Option Nat} {resp : NewProxyRespMsg} {queue : List Packet}
    {now : Nat} (h : Synced runId s) (hserving : s.client.loop = .serving)
    (hqueue : s.toClient = (call, .newProxyResp resp) :: queue) :
    Synced runId { s with
      client := s.client.handleNewProxyResp resp now
      toClient := queue } := by
  obtain ⟨hasking, hasks, hanswers, hgrants⟩ := h.asking_of_answer hqueue
  have hstartup := h.returned hserving LoopPc.noConfusion
  have hregistration : s.client.registration = some (call, resp.proxyName) := by
    rw [asking, hstartup] at hasking
    rw [← hasking, Control.asking, hserving]
  obtain ⟨p, hp, hsame⟩ := Option.map_eq_some_iff.mp hregistration
  obtain ⟨rfl, hname⟩ := Prod.mk.inj hsame
  have hloop : ∀ i, s.client.loop ≠ .sending i := by
    rw [hserving]
    exact fun _ ↦ LoopPc.noConfusion
  by_cases hok : resp.error = ""
  · obtain ⟨pm, hpm, hclient⟩ := @Control.handleNewProxyResp_of_ok s.client p resp now hp hok
    have hagree := h.agree_of_grant hqueue hok
    have hprompt : Prompt { s.client with proxyManager := pm } := h.prompt.withManager
    rw [hgrants] at hagree
    rw [hclient]
    refine h.settled hstartup (hprompt.takeRegister hloop) ?_ ?_ hasks hanswers
      (fun name ↦ ?_) fun name i hi ↦ ?_
    · rw [Control.loop_takeSlot]
      exact hserving
    · rw [Control.pendingProxyResp_takeSlot]
      rfl
    · rw [Control.proxyManager_takeSlot, hpm, ← hagree name, or_iff_left List.not_mem_nil, hname]
      rfl
    · rcases h.made name i hi with ⟨-, hi⟩ | hcontent
      · obtain rfl : i = p.replyTx := by
          have hsame := Option.some.inj (hi.symm.trans hregistration)
          exact Option.some.inj (congrArg Prod.fst hsame)
        exact hprompt.exists_content hp _
      · have hevolves : Evolves s.client.calls _ :=
          @Control.evolves_takeSlot { s.client with proxyManager := pm } .register
            (.sent (.ok (.registered resp.remoteAddr)))
        exact hevolves.exists_content hcontent
  · obtain ⟨e, hclient⟩ := @Control.handleNewProxyResp_of_error s.client resp now hok
    have hnone : grants (some p.replyTx, .newProxyResp resp) = none := if_neg hok
    have hempty : ∀ name, name ∉ s.toClient.filterMap grants := by
      rw [hqueue, List.filterMap_cons_none hnone, hgrants]
      exact fun _ ↦ List.not_mem_nil
    rw [hclient]
    refine h.settled hstartup (h.prompt.takeRegister hloop) ?_ ?_ hasks hanswers
      (fun name ↦ ?_) fun name i hi ↦
        h.content_of_made Control.evolves_takeSlot (hempty name) hi
    · rw [Control.loop_takeSlot]
      exact hserving
    · rw [Control.pendingProxyResp_takeSlot]
      rfl
    · rw [Control.proxyManager_takeSlot, ← h.agree name, or_iff_left (hempty name)]
      rfl

/-- The client's loop handles a message. -/
theorem clientRecv {packet : Packet} {queue : List Packet} {now : Nat} (h : Synced runId s)
    (hserving : s.client.loop = .serving) (hqueue : s.toClient = packet :: queue) :
    Synced runId { s with
      client := handleMessage s.client packet.2 now
      toClient := queue } := by
  obtain ⟨call, msg⟩ := packet
  cases msg with
  | newProxyResp resp => exact h.newProxyResp hserving hqueue
  | natHoleResp resp =>
      have hrests : Rests s.client (s.client.handleNatholeResponse resp) :=
        ⟨h.prompt.takeXtcp, Control.evolves_takeSlot, Control.loop_takeSlot,
          Control.pendingProxyResp_takeSlot, Control.proxyManager_takeSlot⟩
      exact (h.rests hrests).recv_other hqueue rfl
  | _ => exact h.recv_other hqueue rfl

/-! ### The server -/

section Queue

variable {packet : Packet} {queue : List Packet}

/-- The server takes a message that does not ask for a registration. -/
theorem inFlight_tail (h : Synced runId s) (hqueue : s.toServer = packet :: queue)
    (hask : asks packet = none) :
    queue.filterMap asks ++ s.toClient.filterMap answers = (asking s).toList := by
  have hinFlight := h.inFlight
  rw [hqueue, List.filterMap_cons_none hask] at hinFlight
  exact hinFlight

theorem order_tail (h : Synced runId s) (hqueue : s.toServer = packet :: queue) :
    queue.Pairwise fun a b ↦ ∀ q ∈ asks a, closes b ≠ some q.2 := by
  have horder := h.order
  rw [hqueue, List.pairwise_cons] at horder
  exact horder.2

end Queue

/-- The server answers a registration. -/
theorem newProxy {call : Option Nat} {msg : NewProxyMsg} {queue : List Packet}
    {walk : Shared.Walk} {bind : Option String} (h : Synced runId s)
    (hqueue : s.toServer = (call, .newProxy msg) :: queue)
    (hspares : s.shared.SparesOwn runId msg.proxyName) :
    Synced runId (serverRecv U runId control { s with toServer := queue } (call, .newProxy msg)
      walk bind) := by
  have hinFlight := h.inFlight
  have hask : asks (call, .newProxy msg) = some (call, msg.proxyName) := rfl
  have hclose : closes (call, .newProxy msg) = none := rfl
  rw [hqueue, List.filterMap_cons_some hask] at hinFlight
  obtain ⟨-, hasking, hempty⟩ := eq_of_append_cons_eq_toList (l := []) hinFlight
  obtain ⟨hasks, hanswers⟩ := List.append_eq_nil_iff.mp hempty
  have hgrants : s.toClient.filterMap grants = [] := grants_eq_nil hanswers
  have horder := h.order
  rw [hqueue, List.pairwise_cons] at horder
  have hopen : msg.proxyName ∉ queue.filterMap closes := by
    intro hmem
    obtain ⟨packet, hpacket, hcloses⟩ := List.mem_filterMap.mp hmem
    exact horder.1 packet hpacket _ hask hcloses
  have hagree := h.agree
  rw [hqueue, List.filterMap_cons_none hclose, hgrants] at hagree
  have hregisters := @Shared.registers_handleNewProxy U s.shared runId control msg walk bind hspares
  simp only [serverRecv]
  generalize s.shared.handleNewProxy U runId control msg walk bind = result at hregisters ⊢
  cases hregisters with
  | refused error shared herror hsame =>
      have hgrant : grants (call, .newProxyResp ⟨msg.proxyName, "", error⟩) = none :=
        if_neg herror
      refine ⟨h.prompt, h.startup, ?_, horder.2, h.closing, fun name ↦ ?_, fun name i hi ↦ ?_⟩
      · rw [hasks, List.filterMap_append, hanswers]
        exact (congrArg Option.toList hasking).symm
      · rw [filterMap_concat_of_none hgrant, hgrants, hsame]
        exact hagree name
      · rw [if_neg herror] at hi
        refine .inr ((h.made name i hi).resolve_left fun hgranted ↦ ?_)
        rw [hgrants] at hgranted
        cases hgranted.1
  | granted addr shared hnew hadded =>
      have hgrant : ∀ name, name ∈ (s.toClient ++
          [(call, Message.newProxyResp ⟨msg.proxyName, addr, ""⟩)]).filterMap grants ↔
            name = msg.proxyName := by
        intro name
        rw [List.filterMap_append, hgrants]
        exact List.mem_singleton
      refine ⟨h.prompt, h.startup, ?_, horder.2, h.closing, fun name ↦ ?_, fun name i hi ↦ ?_⟩
      · rw [hasks, List.filterMap_append, hanswers]
        exact (congrArg Option.toList hasking).symm
      · rw [hgrant, hadded, or_comm]
        by_cases hname : name = msg.proxyName
        · rw [hname]
          simp only [true_or, true_and, hopen, not_false_eq_true]
        · simp only [hname, false_or]
          exact (or_iff_left List.not_mem_nil).symm.trans (hagree name)
      · rw [if_pos rfl, Table.lookup_insert_ite] at hi
        split at hi
        · next hname =>
            obtain rfl := Option.some.inj hi
            refine .inl ⟨(hgrant name).mpr hname, ?_⟩
            rw [hname]
            exact registration_of_asking hasking
        · refine .inr ((h.made name i hi).resolve_left fun hgranted ↦ ?_)
          rw [hgrants] at hgranted
          cases hgranted.1

/-- The server closes a proxy. -/
theorem closeProxy {call : Option Nat} {proxyName : String} {queue : List Packet}
    {walk : Shared.Walk} {bind : Option String} (h : Synced runId s)
    (hqueue : s.toServer = (call, .closeProxy proxyName) :: queue) :
    Synced runId (serverRecv U runId control { s with toServer := queue }
      (call, .closeProxy proxyName) walk bind) := by
  have hask : asks (call, .closeProxy proxyName) = none := rfl
  have hclose : closes (call, .closeProxy proxyName) = some proxyName := rfl
  refine ⟨h.prompt, h.startup, ?_, ?_, h.closing, fun name ↦ ?_, fun name i hi ↦ ?_⟩
  · exact h.inFlight_tail hqueue hask
  · exact h.order_tail hqueue
  · have hagree := h.agree name
    rw [hqueue, List.filterMap_cons_some hclose, List.mem_cons, not_or] at hagree
    refine hagree.trans ?_
    rw [← and_assoc, and_comm (b := name ≠ proxyName), ← Shared.has_unregisterProxy]
    rfl
  · simp only [serverRecv] at hi
    rw [Table.lookup_erase_ite] at hi
    split at hi
    · cases hi
    · exact h.made name i hi

/-- The server's loop handles a message. -/
theorem serverRecv {packet : Packet} {queue : List Packet} {walk : Shared.Walk}
    {bind : Option String} (h : Synced runId s) (hqueue : s.toServer = packet :: queue)
    (hsteady : Steady runId s (.serverRecv walk bind)) :
    Synced runId (Registry.serverRecv U runId control { s with toServer := queue } packet walk
      bind) := by
  have hspares := hsteady packet (by rw [hqueue]; rfl)
  -- Other messages only leave the queue.
  have hother : asks packet = none → closes packet = none →
      Synced runId { s with toServer := queue } := by
    intro hask hclose
    refine ⟨h.prompt, h.startup, ?_, ?_, h.closing, ?_, h.made⟩
    · exact h.inFlight_tail hqueue hask
    · exact h.order_tail hqueue
    · have hagree := h.agree
      rw [hqueue, List.filterMap_cons_none hclose] at hagree
      exact hagree
  obtain ⟨call, msg⟩ := packet
  cases msg with
  | newProxy msg => exact h.newProxy hqueue (hspares _ rfl)
  | closeProxy proxyName => exact h.closeProxy hqueue
  | _ => exact hother rfl rfl

/-- The server sends a message on another account. -/
theorem serverEmits {msg : Message} (h : Synced runId s) (hanswers : answers (none, msg) = none) :
    Synced runId { s with toClient := s.toClient ++ [(none, msg)] } := by
  have hgrants : grants (none, msg) = none := by
    cases msg with
    | newProxyResp resp => cases hanswers
    | _ => rfl
  refine ⟨h.prompt, h.startup, ?_, h.order, h.closing, ?_, ?_⟩
  · have hinFlight := h.inFlight
    rw [← filterMap_concat_of_none hanswers] at hinFlight
    exact hinFlight
  · have hagree := h.agree
    rw [← filterMap_concat_of_none hgrants] at hagree
    exact hagree
  · have hmade := h.made
    rw [← filterMap_concat_of_none hgrants] at hmade
    exact hmade

/-- Other sessions do what leaves the proxies of this run alone. -/
theorem elsewhere {shared : Shared} (h : Synced runId s)
    (hperm : (shared.keysOf runId).Perm (s.shared.keysOf runId)) :
    Synced runId { s with shared := shared } := by
  refine ⟨h.prompt, h.startup, h.inFlight, h.order, h.closing, fun name ↦ ?_, h.made⟩
  have hsame : shared.Has runId name ↔ s.shared.Has runId name := by
    rw [← Shared.proxyKey_mem_keysOf, ← Shared.proxyKey_mem_keysOf, hperm.mem_iff]
  rw [hsame]
  exact h.agree name

end Synced

/-! ## The registries agree -/

section

variable {tcpMux : Bool} {U : UnicodeData} {runId : RunId} {control : Server.Control}

theorem client_serverRecv (s : Sys) (packet : Packet) (walk : Shared.Walk)
    (bind : Option String) : (serverRecv U runId control s packet walk bind).client = s.client := by
  unfold serverRecv
  split <;> rfl

/-- A session that is over stays so. -/
theorem over_step {s t : Sys} {e : Event} (hover : s.client.loop.over = true)
    (ht : step tcpMux U runId control s e = some t) : t.client.loop.over = true := by
  have hloop : ∀ {loop}, s.client.loop = loop → loop.over = true := fun h ↦ h ▸ hover
  cases steps_of_step ht with
  | act a c hc => exact Control.over_of_act hover hc
  | startSend hstarting | startRecv hstarting | started hstarting => cases hloop hstarting
  | sent hsending | sendFails hsending => cases hloop hsending
  | clientRecv hserving => cases hloop hserving
  | serverRecv hqueue =>
      rw [client_serverRecv]
      exact hover
  | serverEmits | elsewhere | close => exact hover

/-- A session in step stays so in every steady step, or is over. -/
theorem synced_step {s t : Sys} {e : Event} (h : Synced runId s) (hsteady : Steady runId s e)
    (ht : step tcpMux U runId control s e = some t) :
    t.client.loop.over = true ∨ Synced runId t := by
  cases steps_of_step ht with
  | act a c hc => exact h.act hsteady hc
  | startSend hstarting hstartup => exact .inr (h.startSend hstarting hstartup)
  | startRecv hstarting hstartup hqueue => exact h.startRecv hstartup hqueue
  | started hstarting hstartup => exact .inr (h.started hstarting hstartup)
  | sent hloop hcall => exact .inr (h.sent hloop hcall)
  | sendFails hloop hcall =>
      obtain rfl := hsteady
      exact h.sendFails hloop hcall
  | clientRecv hserving hqueue => exact .inr (h.clientRecv hserving hqueue)
  | serverRecv hqueue => exact .inr (h.serverRecv hqueue hsteady)
  | serverEmits msg hother =>
      refine .inr (h.serverEmits ?_)
      cases msg with
      | newProxyResp resp => exact absurd rfl (hother resp)
      | _ => rfl
  | elsewhere shared => exact .inr (h.elsewhere hsteady)
  | close => exact .inr ⟨h.prompt, h.startup, h.inFlight, h.order, h.closing, h.agree, h.made⟩

/-- A session starts in step. -/
theorem synced_start {proxies : List ProxyConfig} {shared : Shared}
    (hfresh : ∀ name, ¬shared.Has runId name) : Synced runId (start proxies shared) where
  prompt := .new
  startup := .inl ⟨rfl, rfl⟩
  inFlight := rfl
  order := List.Pairwise.nil
  closing i name hloop := by cases hloop
  agree name := by simp [start, Sys.ClientHas, Commands.Control.new, hfresh]
  made name i hi := by cases hi

/-- In a steady session the registries agree whenever it is quiescent, and no proxy is left of
a registration that has failed. -/
theorem agreed_of_steady {proxies : List ProxyConfig} {shared : Shared} {events : List Event}
    {s : Sys} (hfresh : ∀ name, ¬shared.Has runId name)
    (hsteady : Along (step tcpMux U runId control) (Steady runId) (start proxies shared) events)
    (hrun : run (step tcpMux U runId control) (start proxies shared) events = some s)
    (hquiet : Quiescent s) : Agreed runId s := by
  have hstep : ∀ s e t, (s.client.loop.over = true ∨ Synced runId s) → Steady runId s e →
      step tcpMux U runId control s e = some t → t.client.loop.over = true ∨ Synced runId t := by
    rintro s e t (hover | h) hsteady ht
    · exact .inl (over_step hover ht)
    · exact synced_step h hsteady ht
  rcases along_invariant hstep hsteady hrun (.inr (synced_start hfresh)) with hover | h
  · rw [hquiet.serving] at hover
    cases hover
  · constructor
    · intro name
      have hagree := h.agree name
      rw [hquiet.toClient, hquiet.toServer] at hagree
      simpa using hagree
    · rintro i call proxyConfig multiplexer e hcall - hpc ⟨-, hmade⟩
      rcases h.made _ i hmade with ⟨hgranted, -⟩ | ⟨call', hcall', hcontent⟩
      · rw [hquiet.toClient] at hgranted
        cases hgranted
      · rw [← Option.some.inj (hcall.symm.trans hcall'), Call.content, hpc] at hcontent
        cases hcontent

end

/-! ## Runs -/

open Registration (tcpProxy)

/-- The run of the session. -/
def officeRun : RunId := Server.ProxyManager.run1

/-- Its control on the server. -/
def officeControl : Server.Control := ⟨"office", "token", 1, 1⟩

/-- A server on which nothing is registered. -/
def freshServer : Shared where
  authenticator := ⟨"token", [], []⟩
  controls := (∅ : Table RunId Server.Control).insert officeRun officeControl
  manager := .new (.new .ascii "" 80 443) []

theorem not_has_freshServer (name : String) : ¬freshServer.Has officeRun name :=
  AList.notMem_empty _

/-- The steps of this session. -/
abbrev officeStep : Sys → Event → Option Sys := step true .ascii officeRun officeControl

/-- The server handles the next message, with these proxies registered. -/
def served (proxies : List String) : Event := .serverRecv ⟨[officeRun], proxies⟩ none

/-- A call is made, and its message sent. -/
def asked (i : Nat) (request : Commands.Control.Act) : List Event :=
  [.act request, .act (.enqueue i), .act .take, .sent]

/-- One proxy at start-up, another by a call, which is then refused for the same name; the first
one is closed. -/
def inTurn : List Event :=
  [.startSend, served [], .startRecv 0, .started] ++
    asked 0 (.registerProxyDynamic (tcpProxy "db" 10081)) ++
    [served ["run-1:web"], .clientRecv 0, .act (.receive 0)] ++
    asked 1 (.registerProxyDynamic (tcpProxy "db" 10082)) ++
    [served ["run-1:web", "run-1:db"], .clientRecv 0, .act (.receive 1)] ++
    asked 2 (.closeProxyDynamic "web") ++ [.act (.receive 2), served ["run-1:web", "run-1:db"]]

/-- The registries agree after this run. -/
theorem agreed_inTurn :
    ∃ s, run officeStep (start [tcpProxy "web" 10080] freshServer) inTurn = some s ∧
      Quiescent s ∧ s.client.proxyManager.proxies.keys = ["db"] ∧
      s.shared.manager.proxies.keys = ["run-1:db"] ∧ Agreed officeRun s := by
  have hquiet : ∃ s, run officeStep (start [tcpProxy "web" 10080] freshServer) inTurn = some s ∧
      Quiescent s ∧ s.client.proxyManager.proxies.keys = ["db"] ∧
      s.shared.manager.proxies.keys = ["run-1:db"] :=
    ⟨_, rfl, ⟨rfl, rfl, rfl, rfl, rfl, by decide, rfl, rfl⟩, rfl, rfl⟩
  obtain ⟨s, hrun, hquiescent, hclient, hserver⟩ := hquiet
  have hsteady : Along officeStep (Steady officeRun) (start [tcpProxy "web" 10080] freshServer)
      inTurn := by decide
  exact ⟨s, hrun, hquiescent, hclient, hserver,
    agreed_of_steady not_has_freshServer hsteady hrun hquiescent⟩

/-- A registration runs out of time before the server gets to it. -/
def abandoned : List Event :=
  .started :: asked 0 (.registerProxyDynamic (tcpProxy "web" 10080)) ++
    [.act (.expire 0), .act (.clear 0), served [], .clientRecv 0]

/-- A proxy is closed before the answer to its registration has arrived. -/
def closedEarly : List Event :=
  .started :: asked 0 (.registerProxyDynamic (tcpProxy "web" 10080)) ++
    asked 1 (.closeProxyDynamic "web") ++
    [.act (.receive 1), served [], served ["run-1:web"], .clientRecv 0, .act (.receive 0)]

/-- The send of a registration runs out of time, and its bytes leave with the next message. -/
def flushedLate : List Event :=
  [.started, .act (.registerProxyDynamic (tcpProxy "web" 10080)), .act (.enqueue 0), .act .take,
    .sendFails (.timeout "send message timeout (10s)") true, .act (.receive 0), served [],
    .clientRecv 0]

/-- Another run of the same client. -/
def homeRun : RunId := Server.ProxyManager.run2

/-- A server on which that run has a proxy. -/
def sharedServer : Shared where
  authenticator := freshServer.authenticator
  controls := freshServer.controls.insert homeRun ⟨"office", "token", 1, 2⟩
  manager := (freshServer.manager.registerProxy .ascii homeRun
    (newProxyMsg true (tcpProxy "db" 10082)) 2 none).2

/-- The session takes a name over from the other run, and the walk over the proxies comes first
to a proxy of its own whose name ends the same way. -/
def evictedOwn : List Event :=
  .started :: asked 0 (.registerProxyDynamic (tcpProxy "web:db" 10080)) ++
    [.serverRecv ⟨[officeRun, homeRun], ["run-2:db"]⟩ none, .clientRecv 0, .act (.receive 0)] ++
    asked 1 (.registerProxyDynamic (tcpProxy "db" 10081)) ++
    [.serverRecv ⟨[officeRun, homeRun], ["run-1:web:db", "run-2:db"]⟩ none, .clientRecv 0,
      .act (.receive 1)]

/-- The server keeps the proxy of a registration that has failed, the client one that it has
closed, and one that the server has evicted. -/
theorem registries_part :
    (∃ s, run officeStep (start [] freshServer) abandoned = some s ∧ Quiescent s ∧
      s.client.calls.map Call.pc = [.returned (.error (.timeout "register proxy timeout"))] ∧
      ¬s.ClientHas "web" ∧ s.shared.Has officeRun "web" ∧ ¬Agreed officeRun s) ∧
    (∃ s, run officeStep (start [] freshServer) closedEarly = some s ∧ Quiescent s ∧
      s.ClientHas "web" ∧ ¬s.shared.Has officeRun "web" ∧ ¬Agreed officeRun s) ∧
    (∃ s, run officeStep (start [] freshServer) flushedLate = some s ∧ Quiescent s ∧
      s.client.calls.map Call.pc = [.returned (.error (.timeout "send message timeout (10s)"))] ∧
      ¬s.ClientHas "web" ∧ s.shared.Has officeRun "web" ∧ ¬Agreed officeRun s) ∧
    ∃ s, run officeStep (start [] sharedServer) evictedOwn = some s ∧ Quiescent s ∧
      s.ClientHas "web:db" ∧ ¬s.shared.Has officeRun "web:db" ∧ ¬Agreed officeRun s := by
  refine ⟨⟨_, rfl, ⟨rfl, rfl, rfl, rfl, rfl, by decide, rfl, rfl⟩, rfl, by decide, by decide,
      fun h ↦ ?_⟩,
    ⟨_, rfl, ⟨rfl, rfl, rfl, rfl, rfl, by decide, rfl, rfl⟩, by decide, by decide, fun h ↦ ?_⟩,
    ⟨_, rfl, ⟨rfl, rfl, rfl, rfl, rfl, by decide, rfl, rfl⟩, rfl, by decide, by decide,
      fun h ↦ ?_⟩,
    _, rfl, ⟨rfl, rfl, rfl, rfl, rfl, by decide, rfl, rfl⟩, by decide, by decide, fun h ↦ ?_⟩
  · exact absurd ((h.names "web").mpr (by decide)) (by decide)
  · exact absurd ((h.names "web").mp (by decide)) (by decide)
  · exact absurd ((h.names "web").mpr (by decide)) (by decide)
  · exact absurd ((h.names "web:db").mp (by decide)) (by decide)

end Arp.EndToEnd.Registry
