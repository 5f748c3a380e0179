import Arp.Client.Service

/-!
# The configurations a client holds

A configuration comes to the proxy manager of a session from the file the client was started
with, from a request to the admin API, or from a file that is read again.  The first is
checked by `main`, the second by the handler; a file that is read again is not checked.

The configurations are followed on their way: as what is left of the start-up, as what a reload
is to register, as the command of a call, and as the registration in the slot.  The main result
says that the manager holds none but accepted ones as long as a file that is read again has
accepted ones under the names that the manager has not.
-/

namespace Arp.Client

open Arp.Common Arp.Lib Arp.Lib.Machine

/-! ## Registrations on their way through a control -/

namespace Commands

variable {tcpMux : Bool} {seenAs : String → String} {c c' c'' : Control} {i : Nat}

/-- The registrations of one control come from another: those that are asked for, and the one
in the slot. -/
structure Carries (c c' : Control) : Prop where
  command : ∀ i proxy multiplexer, c'.commandOf i = some (.registerProxy proxy multiplexer) →
    c.commandOf i = some (.registerProxy proxy multiplexer)
  pending : ∀ p, c'.pendingProxyResp = some p → c.pendingProxyResp = some p ∨
    ∃ i, c.commandOf i = some (.registerProxy p.proxyConfig p.multiplexer)

/-- The calls after one more was made. -/
theorem commandOf_issue {command command' : Command}
    (h : (c.issue command).commandOf i = some command') :
    c.commandOf i = some command' ∨ command = command' := by
  obtain ⟨call, hcall, hcommand⟩ := Option.map_eq_some_iff.mp h
  rcases eq_or_of_getElem?_concat hcall with ⟨-, rfl⟩ | hold
  · exact .inr hcommand
  · left
    rw [Control.commandOf, hold]
    exact congrArg some hcommand

namespace Carries

theorem of_same (hcommand : ∀ i, c'.commandOf i = c.commandOf i)
    (hpending : c'.pendingProxyResp = c.pendingProxyResp) : Carries c c' where
  command i _ _ h := (hcommand i).symm.trans h
  pending _ h := .inl (hpending.symm.trans h)

theorem trans (h : Carries c c') (h' : Carries c' c'') : Carries c c'' where
  command i proxy multiplexer hi := h.command i _ _ (h'.command i _ _ hi)
  pending p hp := by
    rcases h'.pending p hp with hp' | ⟨i, hi⟩
    · exact h.pending p hp'
    · exact .inr ⟨i, h.command i _ _ hi⟩

theorem takeSlot (h : Carries c c') (k : Kind) (channel : Channel) :
    Carries c (c'.takeSlot k channel) where
  command i proxy multiplexer hi := by
    rw [Control.commandOf_takeSlot] at hi
    exact h.command i proxy multiplexer hi
  pending p hp := by
    rw [Control.pendingProxyResp_takeSlot] at hp
    split at hp
    · cases hp
    · exact h.pending p hp

theorem advance {f : Call → Option Call} (h : c.advance i f = some c')
    (hf : ∀ call call', f call = some call' → call'.command = call.command) : Carries c c' := by
  refine of_same (fun j ↦ Control.commandOf_advance h hf) ?_
  obtain ⟨call, call', -, -, rfl⟩ := Control.advance_eq_some.mp h
  rfl

theorem issue {command : Command}
    (hcommand : ∀ proxy multiplexer, command ≠ .registerProxy proxy multiplexer) :
    Carries c (c.issue command) where
  command _ proxy multiplexer h := (commandOf_issue h).resolve_right (hcommand proxy multiplexer)
  pending _ := .inl

/-- The loop takes a command: a registration may enter the slot. -/
theorem handleControlCommand {command : Command} (h : c.commandOf i = some command) :
    Carries c (c.handleControlCommand i command) := by
  cases command with
  | openXtcp serverName sk visitorAddr =>
      rw [Control.handleControlCommand]
      split
      · exact of_same (fun j ↦ Control.commandOf_reply) rfl
      · exact of_same (fun j ↦ rfl) rfl
  | registerProxy proxyConfig multiplexer =>
      rw [Control.handleControlCommand]
      split
      · exact of_same (fun j ↦ Control.commandOf_reply) rfl
      · refine ⟨fun j proxy multiplexer hj ↦ hj, fun p hp ↦ .inr ⟨i, ?_⟩⟩
        obtain rfl := Option.some.inj hp
        exact h
  | closeProxy proxyName => exact of_same (fun j ↦ rfl) rfl

end Carries

open Carries

/-- A step that makes no call for a registration. -/
theorem carries_of_act {a : Control.Act} (ha : ∀ proxyConfig, a ≠ .registerProxyDynamic proxyConfig)
    (h : c.act tcpMux a = some c') : Carries c c' := by
  cases a with
  | requestXtcpPeer serverName sk visitorAddr =>
      exact Option.some.inj h ▸ .issue fun proxy multiplexer hfalse ↦ by cases hfalse
  | registerProxyDynamic proxyConfig => exact absurd rfl (ha proxyConfig)
  | closeProxyDynamic proxyName =>
      exact Option.some.inj h ▸ .issue fun proxy multiplexer hfalse ↦ by cases hfalse
  | enqueue i =>
      simp only [Control.act] at h
      split at h
      · obtain ⟨c₁, hc₁, rfl⟩ := Option.map_eq_some_iff.mp h
        have hcarries : Carries c c₁ := .advance hc₁ fun call call' hcall' ↦ by
          obtain ⟨-, rfl⟩ := Call.enqueue_eq_some.mp hcall'
          rfl
        exact hcarries.trans (.of_same (fun j ↦ rfl) rfl)
      · cases h
  | receive i => exact .advance h fun call call' ↦ Call.command_of_receive
  | expire i => exact .advance h fun call call' ↦ Call.command_of_expire
  | clear i =>
      obtain ⟨k, -, h⟩ := Option.bind_eq_some_iff.mp h
      obtain ⟨c₁, hc₁, rfl⟩ := Option.map_eq_some_iff.mp h
      have hcarries : Carries c c₁ := .advance hc₁ fun call call' ↦ Call.command_of_giveUp
      exact hcarries.takeSlot k _
  | take =>
      simp only [Control.act] at h
      split at h
      · next i rest hserving hcommands =>
          obtain ⟨call, hcall, rfl⟩ := Option.map_eq_some_iff.mp h
          have hcarries : Carries c { c with commands := rest } := .of_same (fun j ↦ rfl) rfl
          exact hcarries.trans (.handleControlCommand (Control.commandOf_of_getElem? hcall))
      · cases h
  | fails =>
      simp only [Control.act] at h
      split at h
      · exact Option.some.inj h ▸ .of_same (fun j ↦ rfl) rfl
      · exact Option.some.inj h ▸ .of_same (fun j ↦ rfl) rfl
      · cases h
  | finishXtcp | finishProxy =>
      simp only [Control.act] at h
      split at h
      · obtain rfl := Option.some.inj h
        apply takeSlot
        exact of_same (fun j ↦ rfl) rfl
      · cases h

theorem carries_handleNewProxyResp (resp : NewProxyRespMsg) (now : Nat) :
    Carries c (c.handleNewProxyResp resp now) := by
  unfold Control.handleNewProxyResp
  split
  · exact of_same (fun j ↦ rfl) rfl
  · split
    · exact takeSlot (of_same (fun j ↦ rfl) rfl) _ _
    · apply takeSlot
      exact of_same (fun j ↦ rfl) rfl

theorem carries_of_step {s t : State} {e : Event}
    (he : ∀ proxyConfig, e ≠ .act (.registerProxyDynamic proxyConfig))
    (h : step tcpMux seenAs s e = some t) : Carries s.control t.control := by
  cases steps_of_step h with
  | act a hact =>
      obtain ⟨c, hc, rfl⟩ := Option.map_eq_some_iff.mp hact
      exact carries_of_act (fun proxyConfig ha ↦ he proxyConfig (congrArg Event.act ha)) hc
  | started hstarting => exact of_same (fun j ↦ rfl) rfl
  | sent i call hloop hcall =>
      cases call.command with
      | openXtcp serverName sk visitorAddr => exact of_same (fun j ↦ rfl) rfl
      | registerProxy proxyConfig multiplexer => exact of_same (fun j ↦ rfl) rfl
      | closeProxy proxyName => exact of_same (fun j ↦ Control.commandOf_reply) rfl
  | sendFails err delivered i call hloop hcall =>
      cases call.command with
      | openXtcp serverName sk visitorAddr =>
          apply takeSlot
          exact of_same (fun j ↦ rfl) rfl
      | registerProxy proxyConfig multiplexer =>
          apply takeSlot
          exact of_same (fun j ↦ rfl) rfl
      | closeProxy proxyName => exact of_same (fun j ↦ Control.commandOf_reply) rfl
  | newProxyResp m remoteAddr error now i proxyConfig multiplexer hserving hi hcommand =>
      exact carries_handleNewProxyResp _ now
  | natHoleResp | ownerOffline =>
      apply takeSlot
      exact of_same (fun j ↦ rfl) rfl

end Commands

/-! ## What the manager holds -/

/-- The objects of a manager were made from the configurations of a table. -/
def ProxyManager.MadeFrom (pm : ProxyManager) (held : Table String (ProxyConfig × Nat)) : Prop :=
  ∀ name, pm.getProxy name = (held.lookup name).map fun p ↦ ClientProxy.ofConfig p.1 p.2

namespace ProxyManager.MadeFrom

variable {pm : ProxyManager} {held : Table String (ProxyConfig × Nat)}

theorem registerProxy (h : pm.MadeFrom held) (config : ProxyConfig) (now : Nat) :
    (pm.registerProxy config now).MadeFrom (held.insert config.name (config, now)) := by
  intro name
  rw [getProxy, ProxyManager.registerProxy, ClientProxy.name_ofConfig, Table.lookup_insert_ite,
    Table.lookup_insert_ite]
  split
  · rfl
  · exact h name

theorem unregisterProxy (h : pm.MadeFrom held) (proxyName : String) :
    (pm.unregisterProxy proxyName).MadeFrom (held.erase proxyName) := by
  intro name
  rw [getProxy, ProxyManager.unregisterProxy, Table.lookup_erase_ite, Table.lookup_erase_ite]
  split
  · rfl
  · exact h name

end ProxyManager.MadeFrom

namespace Commands

variable {tcpMux : Bool} {seenAs : String → String} {c c' : Control}

theorem proxyManager_of_advance {i : Nat} {f : Call → Option Call} (h : c.advance i f = some c') :
    c'.proxyManager = c.proxyManager := by
  obtain ⟨call, call', -, -, rfl⟩ := Control.advance_eq_some.mp h
  rfl

theorem proxyManager_handleControlCommand (i : Nat) (command : Command) :
    (c.handleControlCommand i command).proxyManager = c.proxyManager := by
  cases command with
  | openXtcp serverName sk visitorAddr =>
      rw [Control.handleControlCommand]
      split <;> rfl
  | registerProxy proxyConfig multiplexer =>
      rw [Control.handleControlCommand]
      split <;> rfl
  | closeProxy proxyName => rfl

/-- The manager is changed by messages only. -/
theorem proxyManager_of_act {a : Control.Act} (h : c.act tcpMux a = some c') :
    c'.proxyManager = c.proxyManager := by
  cases Control.acts_of_act h with
  | issue command => rfl
  | enqueue i c₁ hc₁ =>
      have hsame := proxyManager_of_advance hc₁
      exact hsame
  | receive i hc' | expire i hc' => exact proxyManager_of_advance hc'
  | clear i hc' =>
      obtain ⟨k, -, hc'⟩ := Option.bind_eq_some_iff.mp hc'
      obtain ⟨c₁, hc₁, rfl⟩ := Option.map_eq_some_iff.mp hc'
      exact Control.proxyManager_takeSlot.trans (proxyManager_of_advance hc₁)
  | take i rest call hserving hcommands hcall => exact proxyManager_handleControlCommand i _
  | fails loop hover => rfl
  | finishXtcp | finishProxy => exact Control.proxyManager_takeSlot

end Commands

namespace Service

open Commands (Control Command)

/-- The table keeps up with the manager. -/
theorem madeFrom_of_step {tcpMux : Bool} {seenAs : String → String} {s t : Commands.State}
    {e : Commands.Event} {held : Table String (ProxyConfig × Nat)}
    (hmade : s.control.proxyManager.MadeFrom held)
    (h : Commands.step tcpMux seenAs s e = some t) :
    t.control.proxyManager.MadeFrom (Session.heldAfter s.control held e) := by
  cases Commands.steps_of_step h with
  | act a hact =>
      obtain ⟨c, hc, rfl⟩ := Option.map_eq_some_iff.mp hact
      rw [show c.proxyManager = _ from Commands.proxyManager_of_act hc]
      exact hmade
  | started hstarting => exact hmade
  | sent i call hloop hcall =>
      have hcommand := Control.commandOf_of_getElem? hcall
      simp only [Session.heldAfter, hloop, hcommand]
      cases call.command with
      | openXtcp serverName sk visitorAddr => exact hmade
      | registerProxy proxyConfig multiplexer => exact hmade
      | closeProxy proxyName => exact hmade.unregisterProxy proxyName
  | sendFails err delivered i call hloop hcall =>
      cases call.command with
      | openXtcp serverName sk visitorAddr =>
          rw [Control.sendFails, Control.proxyManager_takeSlot]
          exact hmade
      | registerProxy proxyConfig multiplexer =>
          rw [Control.sendFails, Control.proxyManager_takeSlot]
          exact hmade
      | closeProxy proxyName => exact hmade
  | newProxyResp m remoteAddr error now i proxyConfig multiplexer hserving hi hcommand =>
      rw [Commands.State.newProxyResp]
      cases hpending : s.control.pendingProxyResp with
      | none =>
          simp only [Session.heldAfter, Control.handleNewProxyResp, hpending]
          exact hmade
      | some pending =>
          simp only [Session.heldAfter, Control.handleNewProxyResp, hpending]
          split
          · rw [Control.proxyManager_takeSlot]
            exact hmade
          · rw [Control.proxyManager_takeSlot]
            exact hmade.registerProxy _ now
  | natHoleResp | ownerOffline =>
      rw [Commands.State.natHoleResp, Control.handleNatholeResponse,
        Control.proxyManager_takeSlot]
      exact hmade

/-! ## One session -/

/-- What is left to register at start-up. -/
def StartPc.left : StartPc → List ProxyConfig
  | .registering (.sending rest) => rest
  | .registering (.waiting proxy rest) => proxy :: rest
  | .login | .registering (.returned _) => []

namespace Session

variable {config : ClientConfig} {seenAs : String → String} {s t : Session} {e : SessionEvent}

/-- A file that is read again has accepted configurations under the names that the manager has
not. -/
def Vetted (s : Session) (e : SessionEvent) : Prop :=
  ∀ newConfig ∈ e.file, ∀ proxy ∈ newConfig.proxies,
    s.control.proxyManager.getProxy proxy.name = none → proxy.validate = .ok ()

instance (s : Session) (e : SessionEvent) : Decidable (s.Vetted e) :=
  inferInstanceAs (Decidable (∀ newConfig ∈ e.file, ∀ proxy ∈ newConfig.proxies,
    s.control.proxyManager.getProxy proxy.name = none → proxy.validate = .ok ()))

/-- The objects of the manager were made from accepted configurations. -/
structure Holds (s : Session) : Prop where
  made : s.control.proxyManager.MadeFrom s.held
  accepted : ∀ name proxy now, s.held.lookup name = some (proxy, now) → proxy.validate = .ok ()

/-- The configurations on their way to the manager are accepted, too. -/
structure Validated (s : Session) : Prop extends Holds s where
  startup : ∀ proxy ∈ s.startup.left, proxy.validate = .ok ()
  fresh : ∀ proxy ∈ s.fresh, proxy.validate = .ok ()
  command : ∀ i proxy multiplexer, s.control.commandOf i = some (.registerProxy proxy multiplexer) →
    proxy.validate = .ok ()
  pending : ∀ p, s.control.pendingProxyResp = some p → p.proxyConfig.validate = .ok ()

theorem Holds.insert {held : Table String (ProxyConfig × Nat)} {proxy : ProxyConfig} {now : Nat}
    (h : ∀ name proxy now, held.lookup name = some (proxy, now) → proxy.validate = .ok ())
    (hproxy : proxy.validate = .ok ()) : ∀ name proxy' now',
      (held.insert proxy.name (proxy, now)).lookup name = some (proxy', now') →
        proxy'.validate = .ok () := by
  intro name proxy' now' hlookup
  rw [Table.lookup_insert_ite] at hlookup
  split at hlookup
  · obtain ⟨rfl, -⟩ := Prod.mk.inj (Option.some.inj hlookup)
    exact hproxy
  · exact h name proxy' now' hlookup

theorem validated_new : (new config).Validated where
  made _ := rfl
  accepted name proxy now h := by cases h
  startup proxy h := by cases h
  fresh proxy h := by
    obtain ⟨r, hr | hr, -⟩ := h
    · cases hr
    · cases hr
  command i proxy multiplexer h := by cases h
  pending p h := by cases h

/-- The table has accepted configurations after a step of the control: what enters it was in
the slot. -/
theorem accepted_heldAfter (hs : s.Validated) (e : Commands.Event) : ∀ name proxy now,
    (heldAfter s.control s.held e).lookup name = some (proxy, now) → proxy.validate = .ok () := by
  cases e with
  | sent =>
      intro name proxy now hlookup
      simp only [heldAfter] at hlookup
      split at hlookup
      · split at hlookup
        · rw [Table.lookup_erase_ite] at hlookup
          split at hlookup
          · cases hlookup
          · exact hs.accepted name proxy now hlookup
        · exact hs.accepted name proxy now hlookup
      · exact hs.accepted name proxy now hlookup
  | newProxyResp m remoteAddr error now =>
      simp only [heldAfter]
      split
      · next pending hpending =>
          split
          · exact hs.accepted
          · have hproxy := hs.pending pending hpending
            rw [← ProxyConfig.validate_multiplexer _ pending.multiplexer] at hproxy
            exact Holds.insert hs.accepted hproxy
      · exact hs.accepted
  | act a => exact hs.accepted
  | started => exact hs.accepted
  | sendFails err delivered => exact hs.accepted
  | natHoleResp | ownerOffline => exact hs.accepted

/-- A step of the control. -/
theorem Validated.of_carries (hs : s.Validated) (hcarries : Commands.Carries s.control t.control)
    (hholds : t.Holds) (hstartup : ∀ proxy ∈ t.startup.left, proxy ∈ s.startup.left)
    (hfresh : t.fresh = s.fresh) : t.Validated where
  toHolds := hholds
  startup proxy hproxy := hs.startup proxy (hstartup proxy hproxy)
  fresh proxy hproxy := hs.fresh proxy (hfresh ▸ hproxy)
  command i proxy multiplexer hi := hs.command i _ _ (hcarries.command i _ _ hi)
  pending p hp := by
    rcases hcarries.pending p hp with hold | ⟨i, hi⟩
    · exact hs.pending p hold
    · exact hs.command i _ _ hi

/-- A step of the handlers or of the SIGHUP listener. -/
theorem Validated.of_serves (hs : s.Validated) (hvetted : s.Vetted e) (h : Serves s e t) :
    t.Validated := by
  obtain ⟨calls, hcalls⟩ := h.exists_calls
  refine ⟨⟨?_, ?_⟩, ?_, fun proxy hproxy ↦ ?_, fun i proxy multiplexer hi ↦ ?_, ?_⟩
  · rw [hcalls, h.held]
    exact hs.made
  · rw [h.held]
    exact hs.accepted
  · rw [h.startup]
    exact hs.startup
  · rcases h.fresh proxy hproxy with hold | ⟨newConfig, hfile, hnew, hnone⟩
    · exact hs.fresh proxy hold
    · exact hvetted newConfig hfile proxy hnew hnone
  · rcases h.control with hsame | ⟨command, hsame, hcommand⟩
    · exact hs.command i proxy multiplexer (hsame ▸ hi)
    · rw [hsame] at hi
      rcases Commands.commandOf_issue hi with hold | hnew
      · exact hs.command i proxy multiplexer hold
      · exact (hcommand proxy multiplexer hnew).elim id (hs.fresh proxy)
  · rw [hcalls]
    exact hs.pending

theorem validated_step (hconfig : ∀ proxy ∈ config.proxies, proxy.validate = .ok ())
    (hs : s.Validated) (hvetted : s.Vetted e) (h : s.step config seenAs e = some t) :
    t.Validated := by
  cases steps_of_step h with
  | login resp hstart => exact { hs with startup := hconfig }
  | fail err hstart => exact { hs with startup := fun proxy hproxy ↦ by cases hproxy }
  | waits proxy rest hstart =>
      refine { hs with startup := fun proxy' hproxy' ↦ hs.startup proxy' ?_ }
      rw [hstart]
      exact hproxy'
  | registers msg now proxy rest hstart =>
      have hleft := hs.startup
      rw [hstart] at hleft
      have hproxy : (effectiveConfig config.transport.tcpMux proxy).validate = .ok () :=
        (ProxyConfig.validate_multiplexer proxy _).trans (hleft proxy List.mem_cons_self)
      exact { hs with
        made := hs.made.registerProxy _ now
        accepted := Holds.insert hs.accepted hproxy
        startup := fun proxy' hproxy' ↦ hleft proxy' (List.mem_cons_of_mem proxy hproxy') }
  | started commands hstart hstep =>
      refine hs.of_carries ?_ ⟨madeFrom_of_step hs.made hstep, hs.accepted⟩
        (fun proxy hproxy ↦ ?_) rfl
      · exact Commands.carries_of_step (fun proxyConfig hfalse ↦ by cases hfalse) hstep
      · cases hproxy
  | commands e commands hadmits hstep =>
      refine hs.of_carries ?_ ⟨madeFrom_of_step hs.made hstep, accepted_heldAfter hs e⟩
        (fun proxy ↦ id) rfl
      refine Commands.carries_of_step (fun proxyConfig hfalse ↦ ?_) hstep
      rw [hfalse] at hadmits
      cases hadmits
  | loopFails err commands hserving hstep =>
      refine hs.of_carries ?_ ⟨madeFrom_of_step hs.made hstep, hs.accepted⟩ (fun proxy ↦ id) rfl
      exact Commands.carries_of_step (fun proxyConfig hfalse ↦ by cases hfalse) hstep
  | listens admin conns hadmin hconns => exact { hs with }
  | serves h => exact hs.of_serves hvetted h

end Session

/-! ## All sessions -/

variable {seenAs : String → String} {s t : Service}

/-- The condition on the steps of each session. -/
def Vetted (s : Service) : Event → Prop
  | .session k e => ∀ session ∈ s.sessions[k]?, session.Vetted e
  | .connected _ | .wake | .finished => True

instance (s : Service) : ∀ e, Decidable (Vetted s e)
  | .session k e => inferInstanceAs (Decidable (∀ session ∈ s.sessions[k]?, session.Vetted e))
  | .connected _ | .wake | .finished => .isTrue trivial

/-- As long as every file that is read again has accepted configurations under the names that
the manager has not, the objects of every manager are made from accepted configurations. -/
theorem holds_of_vetted {isIpAddr : String → Bool} {file : Result ClientConfig} {es : List Event}
    (hmain : main isIpAddr file = .ok s) (hvetted : Along (step seenAs) Vetted s es)
    (hrun : run (step seenAs) s es = some t) : ∀ session ∈ t.sessions, session.Holds := by
  have hstep : ∀ s e t, ((∀ proxy ∈ s.config.proxies, proxy.validate = .ok ()) ∧
      ∀ session ∈ s.sessions, session.Validated) → Vetted s e → step seenAs s e = some t →
      (∀ proxy ∈ t.config.proxies, proxy.validate = .ok ()) ∧
        ∀ session ∈ t.sessions, session.Validated := by
    rintro s e t ⟨hconfig, hsessions⟩ hvetted h
    rw [config_step h]
    refine ⟨hconfig, forall_sessions_step h Session.validated_new ?_ hsessions⟩
    rintro k se session session' rfl hk hs hse
    exact Session.validated_step hconfig hs (hvetted session hk) hse
  obtain ⟨config, -, hvalid, rfl⟩ := main_eq_ok.mp hmain
  have hstart : ∀ session ∈ ([] : List Session), session.Validated := fun session hsession ↦ by
    cases hsession
  have hall := along_invariant hstep hvetted hrun ⟨ClientConfig.validate_proxies hvalid, hstart⟩
  exact fun session hsession ↦ (hall.2 session hsession).toHolds

/-! ## A client that reloads -/

/-- A client with some proxies. -/
def clientOf (proxies : List ProxyConfig) : ClientConfig where
  serverAddr := "gateway.example"
  serverPort := 7000
  auth := ⟨"token", "secret", [], []⟩
  transport := ⟨.tcp, false, ⟨false, "", ""⟩⟩
  adminPort := 0
  proxies := proxies

/-- A reload that finds one new proxy, and its registration. -/
def reloads (newConfig : ClientConfig) (names : List String) : List Event :=
  [.sighup (.ok newConfig) names, .reload, .commands (.act (.enqueue 0)), .commands (.act .take),
    .commands .sent, .commands (.newProxyResp 0 "" "" 0)].map (.session 0)

/-- A client with a proxy starts, and another is added to its file. -/
def grows : List Event :=
  [.connected (.ok ()), .session 0 (.loginResp ⟨"1", "run", ""⟩), .session 0 .sendNewProxy,
    .session 0 (.reply (.newProxyResp ⟨"db", "", ""⟩) 0), .session 0 .started] ++
    reloads (clientOf [Registration.tcpProxy "db" 6001, Registration.tcpProxy "web" 6002]) ["db"]

/-- It holds both. -/
theorem holds_of_grows : ∃ s t session,
    main (fun _ ↦ false) (.ok (clientOf [Registration.tcpProxy "db" 6001])) = .ok s ∧
    Along (step id) Vetted s grows ∧ run (step id) s grows = some t ∧ t.sessions = [session] ∧
    session.held.keys = ["web", "db"] ∧ session.Holds := by
  have hmain : main (fun _ ↦ false) (.ok (clientOf [Registration.tcpProxy "db" 6001])) =
      .ok ⟨clientOf [Registration.tcpProxy "db" 6001], [], .connecting, 0⟩ := rfl
  have hvetted : Along (step id) Vetted
      ⟨clientOf [Registration.tcpProxy "db" 6001], [], .connecting, 0⟩ grows := by decide
  obtain ⟨t, session, hrun, hsession, hkeys⟩ : ∃ t session,
      run (step id) ⟨clientOf [Registration.tcpProxy "db" 6001], [], .connecting, 0⟩ grows =
        some t ∧ t.sessions = [session] ∧ session.held.keys = ["web", "db"] :=
    ⟨_, _, rfl, rfl, rfl⟩
  refine ⟨_, t, session, hmain, hvetted, hrun, hsession, hkeys, ?_⟩
  exact holds_of_vetted hmain hvetted hrun session (hsession ▸ List.mem_singleton_self session)

/-- A proxy without a local port is added to the file, and the manager gets it. -/
theorem held_unchecked : ∃ s t session,
    main (fun _ ↦ false) (.ok (clientOf [])) = .ok s ∧
    run (step id) s ([.connected (.ok ()), .session 0 (.loginResp ⟨"1", "run", ""⟩),
      .session 0 .started] ++
      reloads (clientOf [{ Registration.tcpProxy "web" 6002 with localPort := 0 }]) []) = some t ∧
    t.sessions = [session] ∧
    session.held.lookup "web" = some ({ Registration.tcpProxy "web" 6002 with localPort := 0 }, 0) ∧
    session.control.proxyManager.getProxy "web" =
      some (.ofConfig { Registration.tcpProxy "web" 6002 with localPort := 0 } 0) ∧
    { Registration.tcpProxy "web" 6002 with localPort := 0 }.validate =
      .error (.config "proxy web local_port cannot be 0") := by
  exact ⟨_, _, _, rfl, rfl, rfl, rfl, rfl, rfl⟩

end Service

end Arp.Client
