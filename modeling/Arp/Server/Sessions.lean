import Arp.Server.Control
import Arp.Server.Lifecycle

/-!
# Sessions side by side

The server runs a task for every control connection: it serves messages one at a
time and, when it ends for whatever reason, removes the proxies of its run and
then its control.  Tasks interleave at every `await`; in particular the owner
lookup, the eviction, the shutdown of the old control and the registration of
`handle_new_proxy` are steps of their own, and so is each `close` a task waits
for, which takes effect at its end.

`Acts` says once what each step does; the invariants are derived from it.
-/

namespace Arp.Server

open Arp.Common Arp.Lib Arp.Lib.Text

/-- Where a session's task stands. -/
inductive Pc where
  /-- In the loop of `Control::run`, between two messages. -/
  | serving
  /-- `handle_new_proxy` found the name with an earlier connection of its client. -/
  | evicting (msg : NewProxyMsg) (owner : ProxyOwner)
  /-- `evict_proxy_by_name` took a proxy out and waits for its `close`. -/
  | closingEvicted (msg : NewProxyMsg) (owner : ProxyOwner) (key : String) (proxy : ProxyObject)
  /-- The eviction is done and the old control is to be shut down. -/
  | superseding (msg : NewProxyMsg) (owner : ProxyOwner)
  /-- The name is settled and the proxy is to be registered. -/
  | registering (msg : NewProxyMsg)
  /-- `unregister_proxy` took a proxy out and waits for its `close`. -/
  | closing (key : String) (proxy : ProxyObject)
  /-- `unregister_run_proxies` has these keys left. -/
  | cleaning (keys : List String)
  /-- `unregister_run_proxies` took a proxy out and waits for its `close`. -/
  | closingCleaned (key : String) (proxy : ProxyObject) (keys : List String)

/-- The message a task is handling between its owner lookup and its reply. -/
def Pc.pending : Pc → Option NewProxyMsg
  | evicting msg _ | closingEvicted msg _ _ _ | superseding msg _ | registering msg => some msg
  | serving | closing _ _ | cleaning _ | closingCleaned _ _ _ => none

/-- The proxy whose `close` a task is waiting for, with its key. -/
def Pc.closes : Pc → Option (String × ProxyObject)
  | closingEvicted _ _ key proxy | closing key proxy | closingCleaned key proxy _ =>
    some (key, proxy)
  | serving | evicting _ _ | superseding _ _ | registering _ | cleaning _ => none

/-- The task of a control connection. -/
structure Session where
  control : Control
  pc : Pc

/-- `Service`: what is shared, the tasks, and the replies that were sent. -/
structure Service extends Shared where
  sessions : Table RunId Session
  replies : List (RunId × NewProxyRespMsg)

/-- The message the task of a run is handling. -/
def Service.pendingMsg (s : Service) (runId : RunId) : Option NewProxyMsg :=
  (s.sessions.lookup runId).bind fun session ↦ session.pc.pending

/-- The proxy whose `close` the task of a run is waiting for. -/
def Service.closes (s : Service) (runId : RunId) : Option (String × ProxyObject) :=
  (s.sessions.lookup runId).bind fun session ↦ session.pc.closes

/-- What a task does next; a walk over a map comes with its order. -/
inductive Action where
  | newProxy (msg : NewProxyMsg) (order : List RunId)
  | evict (order : List String)
  | closeEvicted
  | supersede
  | register (bind : Option String)
  | closeProxy (proxyName : String)
  | finishClose
  | endSession (order : List String)
  | cleanNext
  | finishClean
  | leave

/-- The events of a server. -/
inductive Event where
  /-- A client logs in and gets a fresh run id. -/
  | login (runId : RunId) (control : Control)
  /-- The web API shuts a run down. -/
  | shutdown (runId : RunId)
  /-- A task takes a step. -/
  | act (runId : RunId) (action : Action)

namespace Service

variable (U : UnicodeData)

/-- The task of `runId` moves on. -/
def moveTo (s : Service) (runId : RunId) (control : Control) (pc : Pc) : Service :=
  { s with sessions := s.sessions.insert runId ⟨control, pc⟩ }

theorem lookup_moveTo (s : Service) (runId : RunId) (control : Control) (pc : Pc) :
    (s.moveTo runId control pc).sessions.lookup runId = some ⟨control, pc⟩ :=
  AList.lookup_insert _

/-- What a task closes is read off where it stands. -/
theorem closes_of_lookup {s : Service} {runId : RunId} {session : Session}
    (h : s.sessions.lookup runId = some session) : s.closes runId = session.pc.closes := by
  rw [closes, h, Option.bind_some]

theorem closes_moveTo (s : Service) (runId : RunId) (control : Control) (pc : Pc) :
    (s.moveTo runId control pc).closes runId = pc.closes :=
  closes_of_lookup (lookup_moveTo s runId control pc)

/-- The task of `runId` sends its reply and goes back to the loop. -/
def answer (s : Service) (runId : RunId) (control : Control) (reply : NewProxyRespMsg) : Service :=
  { s with
    sessions := s.sessions.insert runId ⟨control, .serving⟩
    replies := s.replies ++ [(runId, reply)] }

/-- The same service with another proxy manager. -/
def withManager (s : Service) (pm : ProxyManager) : Service := { s with manager := pm }

/-- A step of `handle_new_proxy`: the owner lookup, and what is decided on it. -/
def lookUp (s : Service) (runId : RunId) (control : Control) (msg : NewProxyMsg)
    (order : List RunId) : Service :=
  match Shared.judge runId control (s.findProxyOwner order msg.proxyName) with
  | .refuse => s.answer runId control (Shared.inUse msg)
  | .proceed => s.moveTo runId control (.registering msg)
  | .takeOver owner => s.moveTo runId control (.evicting msg owner)

/-- The start of `evict_proxy_by_name`: find a proxy and take it out. -/
def takeOut (s : Service) (runId : RunId) (control : Control) (msg : NewProxyMsg)
    (owner : ProxyOwner) (order : List String) : Service :=
  match order.find? fun key ↦ endsWith key (":" ++ msg.proxyName) with
  | none => s.moveTo runId control (.registering msg)
  | some key =>
    match s.manager.proxies.lookup key with
    | some proxy =>
      (s.withManager (s.manager.remove key)).moveTo runId control
        (.closingEvicted msg owner key proxy)
    | none =>
      (s.withManager (s.manager.forgetXtcp msg.proxyName)).moveTo runId control
        (.superseding msg owner)

/-- The end of `handle_new_proxy`. -/
def finish (s : Service) (runId : RunId) (control : Control) (msg : NewProxyMsg)
    (bind : Option String) : Service :=
  let (reply, shared) := s.authorizeAndRegister U runId control msg bind
  { s with toShared := shared }.answer runId control reply

/-- One step of the task of `runId`. -/
def act (s : Service) (runId : RunId) (session : Session) (action : Action) : Option Service :=
  let control := session.control
  match session.pc, action with
  | .serving, .newProxy msg order =>
    if order.Perm s.controls.keys then some (s.lookUp runId control msg order) else none
  | .evicting msg owner, .evict order =>
    if order.Perm s.manager.proxies.keys then some (s.takeOut runId control msg owner order)
    else none
  | .closingEvicted msg owner _ proxy, .closeEvicted =>
    some ((s.withManager ((s.manager.close proxy).forgetXtcp msg.proxyName)).moveTo runId control
      (.superseding msg owner))
  | .superseding msg owner, .supersede =>
    some ({ s with toShared := s.shutdownRun owner.runId }.moveTo runId control (.registering msg))
  | .registering msg, .register bind => some (s.finish U runId control msg bind)
  | .serving, .closeProxy proxyName =>
    let key := proxyKey runId.val proxyName
    match s.manager.proxies.lookup key with
    | some proxy =>
      some ((s.withManager (s.manager.remove key)).moveTo runId control (.closing key proxy))
    | none => some (s.moveTo runId control .serving)
  | .closing _ proxy, .finishClose =>
    some ((s.withManager (s.manager.close proxy)).moveTo runId control .serving)
  | .serving, .endSession order =>
    if order.Perm s.manager.proxies.keys then
      some (s.moveTo runId control (.cleaning (ProxyManager.runKeys runId order)))
    else none
  | .cleaning (key :: keys), .cleanNext =>
    match s.manager.proxies.lookup key with
    | some proxy =>
      some ((s.withManager (s.manager.remove key)).moveTo runId control
        (.closingCleaned key proxy keys))
    | none => some (s.moveTo runId control (.cleaning keys))
  | .closingCleaned _ proxy keys, .finishClean =>
    some ((s.withManager (s.manager.close proxy)).moveTo runId control (.cleaning keys))
  | .cleaning [], .leave =>
    some { s with controls := s.controls.erase runId, sessions := s.sessions.erase runId }
  | _, _ => none

/-- One event. -/
def step (s : Service) : Event → Option Service
  | .login runId control =>
    if runId ∈ s.sessions then none
    else some { s.moveTo runId control .serving with controls := s.controls.insert runId control }
  | .shutdown runId => some { s with toShared := s.shutdownRun runId }
  | .act runId action =>
    (s.sessions.lookup runId).bind fun session ↦ s.act U runId session action

/-- A server that has just started. -/
def start (authenticator : TokenAuth) (manager : ProxyManager) : Service where
  authenticator := authenticator
  controls := ∅
  manager := manager
  sessions := ∅
  replies := []

/-! ## What a step does -/

/-- Everything a step of a task can do: from where it stands and what it does
next, to the service it leaves. -/
inductive Acts (s : Service) (runId : RunId) (control : Control) :
    Pc → Action → Service → Prop
  | refused (msg : NewProxyMsg) (order : List RunId)
      (hjudge : Shared.judge runId control (s.findProxyOwner order msg.proxyName) = .refuse) :
      Acts s runId control .serving (.newProxy msg order)
        (s.answer runId control (Shared.inUse msg))
  | cleared (msg : NewProxyMsg) (order : List RunId) (horder : order.Perm s.controls.keys)
      (hjudge : Shared.judge runId control (s.findProxyOwner order msg.proxyName) = .proceed) :
      Acts s runId control .serving (.newProxy msg order)
        (s.moveTo runId control (.registering msg))
  | takesOver (msg : NewProxyMsg) (order : List RunId) (owner : ProxyOwner)
      (hjudge : Shared.judge runId control (s.findProxyOwner order msg.proxyName) =
        .takeOver owner) :
      Acts s runId control .serving (.newProxy msg order)
        (s.moveTo runId control (.evicting msg owner))
  | missed (msg : NewProxyMsg) (owner : ProxyOwner) (order : List String)
      (horder : order.Perm s.manager.proxies.keys)
      (hfind : (order.find? fun key ↦ endsWith key (":" ++ msg.proxyName)) = none) :
      Acts s runId control (.evicting msg owner) (.evict order)
        (s.moveTo runId control (.registering msg))
  | tookOut (msg : NewProxyMsg) (owner : ProxyOwner) (order : List String) (key : String)
      (proxy : ProxyObject)
      (hfind : (order.find? fun key ↦ endsWith key (":" ++ msg.proxyName)) = some key)
      (hproxy : s.manager.proxies.lookup key = some proxy) :
      Acts s runId control (.evicting msg owner) (.evict order)
        ((s.withManager (s.manager.remove key)).moveTo runId control
          (.closingEvicted msg owner key proxy))
  | evicted (msg : NewProxyMsg) (owner : ProxyOwner) (key : String) (proxy : ProxyObject) :
      Acts s runId control (.closingEvicted msg owner key proxy) .closeEvicted
        ((s.withManager ((s.manager.close proxy).forgetXtcp msg.proxyName)).moveTo runId control
          (.superseding msg owner))
  | superseded (msg : NewProxyMsg) (owner : ProxyOwner) :
      Acts s runId control (.superseding msg owner) .supersede
        ({ s with toShared := s.shutdownRun owner.runId }.moveTo runId control (.registering msg))
  | finished (msg : NewProxyMsg) (bind : Option String) :
      Acts s runId control (.registering msg) (.register bind) (s.finish U runId control msg bind)
  | tookClosed (proxyName : String) (proxy : ProxyObject)
      (hproxy : s.manager.proxies.lookup (proxyKey runId.val proxyName) = some proxy) :
      Acts s runId control .serving (.closeProxy proxyName)
        ((s.withManager (s.manager.remove (proxyKey runId.val proxyName))).moveTo runId control
          (.closing (proxyKey runId.val proxyName) proxy))
  | absent (proxyName : String) :
      Acts s runId control .serving (.closeProxy proxyName) (s.moveTo runId control .serving)
  | closed (key : String) (proxy : ProxyObject) :
      Acts s runId control (.closing key proxy) .finishClose
        ((s.withManager (s.manager.close proxy)).moveTo runId control .serving)
  | ended (order : List String) (horder : order.Perm s.manager.proxies.keys) :
      Acts s runId control .serving (.endSession order)
        (s.moveTo runId control (.cleaning (ProxyManager.runKeys runId order)))
  | tookCleaned (key : String) (keys : List String) (proxy : ProxyObject)
      (hproxy : s.manager.proxies.lookup key = some proxy) :
      Acts s runId control (.cleaning (key :: keys)) .cleanNext
        ((s.withManager (s.manager.remove key)).moveTo runId control
          (.closingCleaned key proxy keys))
  | gone (key : String) (keys : List String) (hproxy : s.manager.proxies.lookup key = none) :
      Acts s runId control (.cleaning (key :: keys)) .cleanNext
        (s.moveTo runId control (.cleaning keys))
  | cleaned (key : String) (proxy : ProxyObject) (keys : List String) :
      Acts s runId control (.closingCleaned key proxy keys) .finishClean
        ((s.withManager (s.manager.close proxy)).moveTo runId control (.cleaning keys))
  | left :
      Acts s runId control (.cleaning []) .leave
        { s with controls := s.controls.erase runId, sessions := s.sessions.erase runId }

variable {U}

/-- A step is one of those. -/
theorem acts_of_act {s t : Service} {runId : RunId} {session : Session} {action : Action}
    (h : s.act U runId session action = some t) :
    Acts U s runId session.control session.pc action t := by
  rcases session with ⟨control, pc⟩
  unfold act at h
  dsimp only at h
  split at h
  · next msg order =>
      split at h
      · next horder =>
          obtain rfl := Option.some.inj h
          unfold lookUp
          split
          · next hjudge => exact .refused msg order hjudge
          · next hjudge => exact .cleared msg order horder hjudge
          · next owner hjudge => exact .takesOver msg order owner hjudge
      · cases h
  · next msg owner order =>
      split at h
      · next horder =>
          obtain rfl := Option.some.inj h
          unfold takeOut
          split
          · next hfind => exact .missed msg owner order horder hfind
          · next key hfind =>
              split
              · next proxy hproxy => exact .tookOut msg owner order key proxy hfind hproxy
              · next hproxy =>
                  -- A key that was found in the walk is a key of the table.
                  have hmem := horder.mem_iff.mp (List.mem_of_find?_eq_some hfind)
                  exact absurd (AList.mem_keys.mpr hmem) (AList.lookup_eq_none.mp hproxy)
      · cases h
  · obtain rfl := Option.some.inj h; exact .evicted _ _ _ _
  · obtain rfl := Option.some.inj h; exact .superseded _ _
  · obtain rfl := Option.some.inj h; exact .finished _ _
  · next proxyName =>
      split at h
      · next proxy hproxy =>
          obtain rfl := Option.some.inj h
          exact .tookClosed proxyName proxy hproxy
      · obtain rfl := Option.some.inj h; exact .absent _
  · obtain rfl := Option.some.inj h; exact .closed _ _
  · next order =>
      split at h
      · next horder =>
          obtain rfl := Option.some.inj h
          exact .ended order horder
      · cases h
  · next key keys =>
      split at h
      · next proxy hproxy =>
          obtain rfl := Option.some.inj h
          exact .tookCleaned key keys proxy hproxy
      · next hproxy =>
          obtain rfl := Option.some.inj h
          exact .gone key keys hproxy
  · obtain rfl := Option.some.inj h; exact .cleaned _ _ _
  · obtain rfl := Option.some.inj h; exact .left
  · cases h

/-- A step of a task is a step of a session that exists. -/
theorem acts_of_step {s t : Service} {runId : RunId} {action : Action}
    (h : s.step U (.act runId action) = some t) :
    ∃ session, s.sessions.lookup runId = some session ∧
      Acts U s runId session.control session.pc action t := by
  obtain ⟨session, hsession, hact⟩ := Option.bind_eq_some_iff.mp h
  exact ⟨session, hsession, acts_of_act hact⟩

/-- The end of `handle_new_proxy` replies with an error and moves the cursor at
most, or it enters a proxy that was built. -/
theorem finish_cases (U : UnicodeData) (s : Service) (runId : RunId) (control : Control)
    (msg : NewProxyMsg) (bind : Option String) :
    (∃ e pm', s.finish U runId control msg bind =
        (s.withManager pm').answer runId control ⟨msg.proxyName, "", Error.display e⟩ ∧
        ProxyManager.OnlyCursor s.manager pm') ∨
      ∃ addr proxy pm', s.finish U runId control msg bind =
          (s.withManager (pm'.enter (proxyKey runId.val msg.proxyName) proxy
            ⟨runId, msg.proxyName, msg.proxyType, addr⟩)).answer runId control
              ⟨msg.proxyName, addr, ""⟩ ∧
        proxyKey runId.val msg.proxyName ∉ s.manager.proxies ∧
        ProxyManager.Built U s.manager runId msg control.workConnReqTx
          (proxyKey runId.val msg.proxyName) proxy pm' := by
  unfold finish
  rcases Shared.authorizeAndRegister_cases U s.toShared runId control msg bind with
    ⟨e, pm', hr, hcursor⟩ | ⟨addr, proxy, pm', hr, hkey, hbuilt⟩
  · rw [hr]
    exact .inl ⟨e, pm', rfl, hcursor⟩
  · rw [hr]
    exact .inr ⟨addr, proxy, pm', rfl, hkey, hbuilt⟩

/-- An authorized message that is registered is answered with its address. -/
theorem finish_of_ok {s : Service} {runId : RunId} {control : Control} {msg : NewProxyMsg}
    {bind : Option String} {addr : String} {pm' : ProxyManager}
    (hauth : s.authenticator.authorizeProxy U control.privilegeKey control.poolCount msg = .ok ())
    (hreg : s.manager.registerProxy U runId msg control.workConnReqTx bind = (.ok addr, pm')) :
    s.finish U runId control msg bind =
      (s.withManager pm').answer runId control ⟨msg.proxyName, addr, ""⟩ := by
  simp only [finish, Shared.authorizeAndRegister, hauth, hreg, withManager]

/-! ## Records describe proxies -/

/-- Closing an object does not touch proxies and records. -/
theorem described_close {pm : ProxyManager} (h : pm.Described) (proxy : ProxyObject) :
    (pm.close proxy).Described := by
  intro key
  rw [(ProxyManager.proxies_close pm proxy).1, (ProxyManager.proxies_close pm proxy).2]
  exact h key

/-- In whatever order tasks run, records describe proxies. -/
theorem described_step (s : Service) (e : Event) (t : Service) (h : s.manager.Described)
    (hstep : s.step U e = some t) : t.manager.Described := by
  cases e with
  | login runId control =>
      simp only [step] at hstep
      split at hstep
      · cases hstep
      · obtain rfl := Option.some.inj hstep
        exact h
  | shutdown runId =>
      obtain rfl := Option.some.inj hstep
      exact h
  | act runId action =>
      obtain ⟨⟨control, pc⟩, -, hacts⟩ := acts_of_step hstep
      cases hacts with
      | tookOut msg owner order key proxy => exact h.remove key
      | tookClosed proxyName proxy => exact h.remove _
      | tookCleaned key keys proxy => exact h.remove key
      | evicted msg owner key proxy => exact described_close h proxy
      | closed key proxy => exact described_close h proxy
      | cleaned key proxy keys => exact described_close h proxy
      | finished msg bind =>
          rcases finish_cases U s runId control msg bind with
            ⟨e, pm', hfinish, cursor, rfl⟩ | ⟨addr, proxy, pm', hfinish, -, hbuilt⟩
          · rw [hfinish]
            exact h
          · rw [hfinish]
            exact h.enter_built addr rfl hbuilt
      | _ => exact h

/-! ## The handler in one go -/

/-- A run that starts with a step of a task goes on from where the step leads. -/
theorem run_act_cons {s t : Service} {runId : RunId} {session : Session} {action : Action}
    {events : List Event} (hsession : s.sessions.lookup runId = some session)
    (hact : s.act U runId session action = some t) :
    Machine.run (step U) s (.act runId action :: events) = Machine.run (step U) t events := by
  rw [Machine.run_cons, step, hsession, Option.bind_some, hact, Option.bind_some]

/-- Without interruption the steps of a task that handles a message are
`handle_new_proxy`: they give its reply and leave its state. -/
theorem run_handleNewProxy {s : Service} {runId : RunId} {control : Control}
    (hsession : s.sessions.lookup runId = some ⟨control, .serving⟩) (msg : NewProxyMsg)
    {walk : Shared.Walk} (hwalk : walk.Covers s.toShared) (bind : Option String) :
    ∃ actions : List Action, Machine.run (step U) s (actions.map (.act runId)) = some
      { toShared := (s.handleNewProxy U runId control msg walk bind).2
        sessions := s.sessions.insert runId ⟨control, .serving⟩
        replies :=
          s.replies ++ [(runId, (s.handleNewProxy U runId control msg walk bind).1)] } := by
  obtain ⟨hcontrols, hproxies⟩ := hwalk
  have hlook : s.act U runId ⟨control, .serving⟩ (.newProxy msg walk.controls) =
      some (s.lookUp runId control msg walk.controls) := if_pos hcontrols
  unfold Shared.handleNewProxy
  cases hjudge : Shared.judge runId control (s.findProxyOwner walk.controls msg.proxyName) with
  | refuse =>
      refine ⟨[.newProxy msg walk.controls], ?_⟩
      simp only [lookUp, hjudge] at hlook
      exact run_act_cons hsession hlook
  | proceed =>
      refine ⟨[.newProxy msg walk.controls, .register bind], ?_⟩
      simp only [lookUp, hjudge] at hlook
      refine (run_act_cons hsession hlook).trans ?_
      refine (run_act_cons (lookup_moveTo _ _ _ _) rfl).trans ?_
      simp only [List.map_nil, Machine.run_nil, finish, answer, moveTo, AList.insert_insert]
  | takeOver owner =>
      simp only [lookUp, hjudge] at hlook
      have hevict : (s.moveTo runId control (.evicting msg owner)).act U runId
          ⟨control, .evicting msg owner⟩ (.evict walk.proxies) =
          some ((s.moveTo runId control (.evicting msg owner)).takeOut runId control msg owner
            walk.proxies) := if_pos hproxies
      cases hfind : walk.proxies.find? fun key ↦ endsWith key (":" ++ msg.proxyName) with
      | none =>
          refine ⟨[.newProxy msg walk.controls, .evict walk.proxies, .register bind], ?_⟩
          simp only [takeOut, hfind] at hevict
          refine (run_act_cons hsession hlook).trans ?_
          refine (run_act_cons (lookup_moveTo _ _ _ _) hevict).trans ?_
          refine (run_act_cons (lookup_moveTo _ _ _ _) rfl).trans ?_
          simp only [List.map_nil, Machine.run_nil, finish, answer, moveTo, AList.insert_insert,
            Shared.takeOver, ProxyManager.evictProxyByName, hfind, Option.isSome_none,
            Bool.false_eq_true, if_false]
      | some key =>
          have hmem := hproxies.mem_iff.mp (List.mem_of_find?_eq_some hfind)
          obtain ⟨proxy, hproxy⟩ := Table.mem_iff_lookup.mp (AList.mem_keys.mpr hmem)
          refine ⟨[.newProxy msg walk.controls, .evict walk.proxies, .closeEvicted, .supersede,
            .register bind], ?_⟩
          have hlookup : (s.moveTo runId control (.evicting msg owner)).manager.proxies.lookup key =
              some proxy := hproxy
          simp only [takeOut, hfind, hlookup] at hevict
          refine (run_act_cons hsession hlook).trans ?_
          refine (run_act_cons (lookup_moveTo _ _ _ _) hevict).trans ?_
          refine (run_act_cons (lookup_moveTo _ _ _ _) rfl).trans ?_
          refine (run_act_cons (lookup_moveTo _ _ _ _) rfl).trans ?_
          refine (run_act_cons (lookup_moveTo _ _ _ _) rfl).trans ?_
          simp only [List.map_nil, Machine.run_nil, finish, answer, moveTo, AList.insert_insert,
            withManager, Shared.takeOver, ProxyManager.evictProxyByName, hfind,
            ProxyManager.unregisterKey, hproxy, Option.isSome_some, if_true]
end Service

end Arp.Server
