import Arp.Server.Names
import Arp.Server.Shadow

/-!
# A client comes back

A client with a stable client id loses its connection and logs in again.  The new
session registers the same proxies in the same order while the task of the old
one cleans up, at its own pace.

All registrations succeed if each comes when the old run's proxy of the same name
has been removed and closed.  Otherwise they need not: the first takeover takes
the old control off the list, and from then on the lookup does not see the old
run's proxies, which still hold their ports, registry entries and groups
(`second_port_refused`).
-/

namespace Arp.Server.Service

open Arp.Common Arp.Lib Arp.Lib.Text
open ProxyManager (run1 run2 run3)

/-! ## The situation -/

/-- The old run, with a history of registrations, and the new run of the same
client, which is authorized for the same messages; nobody else has their names. -/
structure Reconnected (U : UnicodeData) (oldRun newRun : RunId) (oldControl control : Control)
    (msgs : List NewProxyMsg) (s : Service) : Prop where
  distinct : oldRun ≠ newRun
  old : s.sessions.lookup oldRun = some ⟨oldControl, .serving⟩
  new : s.sessions.lookup newRun = some ⟨control, .serving⟩
  listed : s.controls.lookup oldRun = some oldControl
  client : oldControl.clientId = control.clientId
  stable : control.clientId ≠ ""
  authorized : ∀ msg ∈ msgs,
    s.authenticator.authorizeProxy U control.privilegeKey control.poolCount msg = .ok ()
  sole : ∀ msg ∈ msgs, ∀ run : RunId,
    proxyKey run.val msg.proxyName ∈ s.manager.proxies → run = oldRun
  history : ∃ subdomainHost vhostHttpPort vhostHttpsPort allowPorts calls,
    Machine.run (ProxyManager.step U)
      (ProxyManager.start U subdomainHost vhostHttpPort vhostHttpsPort allowPorts) calls =
        some s.manager ∧
    Machine.Along (ProxyManager.step U) (ProxyManager.OnlyRegisters U oldRun)
      (ProxyManager.start U subdomainHost vhostHttpPort vhostHttpsPort allowPorts) calls ∧
    ProxyManager.registeredBy oldRun calls = msgs

/-- The steps in question: the new run handles messages, the old one cleans up. -/
def Concerns (oldRun newRun : RunId) : Event → Prop
  | .act runId action =>
    match action with
    | .newProxy _ _ | .evict _ | .closeEvicted | .supersede | .register _ => runId = newRun
    | .endSession _ | .cleanNext | .finishClean | .leave => runId = oldRun
    | .closeProxy _ | .finishClose => False
  | .login _ _ | .shutdown _ => False

/-- The messages the new run sends. -/
def requests (newRun : RunId) (events : List Event) : List NewProxyMsg :=
  events.filterMap fun e ↦
    match e with
    | .act runId (.newProxy msg _) => if runId = newRun then some msg else none
    | _ => none

/-- A dynamic port is left, and the cursor does not come by a free port that one
of the messages asks for. -/
def SparesPorts (rc : ResourceController) (msgs : List NewProxyMsg) : Prop :=
  (∃ port ∈ ResourceController.cursorPorts 1000 rc.nextDynamicPort,
      rc.isPortAllowed port = true ∧ port ∉ rc.tcpPorts) ∧
    ∀ port ∈ ResourceController.cursorPorts 1000 rc.nextDynamicPort,
      rc.isPortAllowed port = true → port ∉ rc.tcpPorts → port ∉ ProxyManager.fixedPorts msgs

instance (rc : ResourceController) (msgs : List NewProxyMsg) : Decidable (SparesPorts rc msgs) :=
  inferInstanceAs (Decidable (_ ∧ _))

/-- The condition on an event and the state before it: an eviction can meet only
the owner's key; a registration comes when the old run's proxy of that name is
neither registered nor still closing, its bind succeeds, and dynamic ports are
spared if it takes one. -/
def Unobstructed (oldRun : RunId) (msgs : List NewProxyMsg) (s : Service) : Event → Prop
  | .act runId (.evict _) =>
    ∀ e ∈ s.eviction runId, ∀ key ∈ s.manager.proxies.keys,
      endsWith key (":" ++ e.1.proxyName) = true → key = proxyKey e.2.runId.val e.1.proxyName
  | .act runId (.register bind) =>
    bind = none ∧ ∀ msg ∈ s.pendingMsg runId,
      proxyKey oldRun.val msg.proxyName ∉ s.manager.proxies ∧
      (∀ c ∈ s.closes oldRun, c.1 ≠ proxyKey oldRun.val msg.proxyName) ∧
      (ProxyManager.OpensPort msg → msg.remotePort = 0 → SparesPorts s.manager.resources msgs)
  | _ => True

instance (oldRun : RunId) (msgs : List NewProxyMsg) (s : Service) (e : Event) :
    Decidable (Unobstructed oldRun msgs s e) :=
  match e with
  | .login _ _ | .shutdown _ => .isTrue trivial
  | .act runId action =>
    match action with
    | .evict _ => inferInstanceAs (Decidable (∀ e ∈ s.eviction runId, _))
    | .register _ => inferInstanceAs (Decidable (_ ∧ ∀ msg ∈ s.pendingMsg runId, _))
    | .newProxy _ _ | .closeEvicted | .supersede | .closeProxy _ | .finishClose | .endSession _
    | .cleanNext | .finishClean | .leave => .isTrue trivial

/-- What a reply says: to whom, about which name, with which error. -/
def outline (replies : List (RunId × NewProxyRespMsg)) : List (RunId × String × String) :=
  replies.map fun r ↦ (r.1, r.2.proxyName, r.2.error)

/-- Replies without an error to these messages. -/
def successes (newRun : RunId) (msgs : List NewProxyMsg) : List (RunId × String × String) :=
  msgs.map fun msg ↦ (newRun, msg.proxyName, "")

/-! ## On the way -/

/-- Where the task of the new run can stand, with the message it is handling. -/
inductive NewPc (oldRun : RunId) : Pc → List NewProxyMsg → Prop
  | serving : NewPc oldRun .serving []
  | evicting (msg : NewProxyMsg) (owner : ProxyOwner) (howner : owner.runId = oldRun) :
      NewPc oldRun (.evicting msg owner) [msg]
  | closingEvicted (msg : NewProxyMsg) (owner : ProxyOwner) (proxy : ProxyObject) :
      NewPc oldRun
        (.closingEvicted msg owner (proxyKey oldRun.val msg.proxyName) proxy) [msg]
  | superseding (msg : NewProxyMsg) (owner : ProxyOwner) :
      NewPc oldRun (.superseding msg owner) [msg]
  | registering (msg : NewProxyMsg) : NewPc oldRun (.registering msg) [msg]

/-- Some time after the new run has come: it has registered the messages `served`
and is handling `current`; apart from that only proxies of before have left. -/
structure OnTheWay (oldRun newRun : RunId) (control : Control) (msgs : List NewProxyMsg)
    (before s : Service) (served current : List NewProxyMsg) : Prop where
  authenticator : s.authenticator = before.authenticator
  controls : ∀ c, s.controls.lookup oldRun = some c → c.clientId = control.clientId
  session : ∃ pc, s.sessions.lookup newRun = some ⟨control, pc⟩ ∧ NewPc oldRun pc current
  full : ∃ full, ProxyManager.Shadow full s.manager (s.closes oldRun) (s.closes newRun) ∧
    ProxyManager.Since before.manager newRun msgs served full
  sent : served ++ current <+: msgs
  replies : outline s.replies = outline before.replies ++ successes newRun served

section Steps

variable {U : UnicodeData} {oldRun newRun : RunId} {oldControl control : Control}
  {msgs served current : List NewProxyMsg} {before s t : Service} {msg : NewProxyMsg}

/-- What the history says about the manager before. -/
theorem Reconnected.holds (h : Reconnected U oldRun newRun oldControl control msgs before) :
    ProxyManager.Holds U oldRun before.manager msgs := by
  obtain ⟨subdomainHost, vhostHttpPort, vhostHttpsPort, allowPorts, calls, hrun, honly, rfl⟩ :=
    h.history
  exact (ProxyManager.Holds.start subdomainHost vhostHttpPort vhostHttpsPort allowPorts).run
    honly hrun

/-- The new run has just come. -/
theorem OnTheWay.refl (h : Reconnected U oldRun newRun oldControl control msgs before) :
    OnTheWay oldRun newRun control msgs before before [] [] where
  authenticator := rfl
  controls c hc := by
    rw [h.listed] at hc
    obtain rfl := Option.some.inj hc
    exact h.client
  session := ⟨.serving, h.new, .serving⟩
  full := by
    refine ⟨before.manager, ?_, .refl h.holds.lawful⟩
    simp only [closes, h.old, h.new, Option.bind_some, Pc.closes]
    exact .refl before.manager
  sent := List.nil_prefix
  replies := by simp [successes]

/-- A message that is sent after others has not been served. -/
theorem Reconnected.next (h : Reconnected U oldRun newRun oldControl control msgs before)
    (hsent : served ++ [msg] <+: msgs) :
    msg ∈ msgs ∧ (∀ m ∈ served, m ∈ msgs) ∧
      msg.proxyName ∉ served.map NewProxyMsg.proxyName := by
  refine ⟨hsent.subset (by simp), fun m hm ↦ hsent.subset (List.mem_append_left _ hm), ?_⟩
  have hnames := h.holds.names.sublist (hsent.map NewProxyMsg.proxyName).sublist
  rw [List.map_append, List.nodup_append] at hnames
  intro hmem
  exact hnames.2.2 _ hmem _ (List.mem_singleton_self _) rfl

/-- Whoever is found to have a name that is not served yet is the old run. -/
theorem OnTheWay.owner_eq (h : Reconnected U oldRun newRun oldControl control msgs before)
    (hs : OnTheWay oldRun newRun control msgs before s served current)
    (hsent : served ++ [msg] <+: msgs) {order : List RunId} {owner : ProxyOwner}
    (hfind : s.findProxyOwner order msg.proxyName = some owner) :
    owner.runId = oldRun ∧ owner.clientId = control.clientId := by
  obtain ⟨hmsg, -, hfresh⟩ := h.next hsent
  obtain ⟨c, hc, hclient, hkey⟩ := Shared.findProxyOwner_eq_some hfind
  obtain ⟨full, hshadow, hsince⟩ := hs.full
  rcases hsince.keys _ (hshadow.mem_of_mem hkey) with hbefore | ⟨m, hm, heq⟩
  · have hold := h.sole msg hmsg owner.runId hbefore
    rw [hold] at hc
    exact ⟨hold, hclient.trans (hs.controls c hc)⟩
  · exact absurd (List.mem_map.mpr ⟨m, hm, (proxyKey_inj.mp heq).2.symm⟩) hfresh

/-- The new run's task moves on. -/
theorem OnTheWay.new_moves (h : Reconnected U oldRun newRun oldControl control msgs before)
    (hs : OnTheWay oldRun newRun control msgs before s served current) {pc : Pc}
    {served' current' : List NewProxyMsg}
    (hsessions : t.sessions = s.sessions.insert newRun ⟨control, pc⟩)
    (hauth : t.authenticator = s.authenticator)
    (hcontrols : ∀ c, t.controls.lookup oldRun = some c → s.controls.lookup oldRun = some c)
    (hpc : NewPc oldRun pc current')
    (hfull : ∃ full, ProxyManager.Shadow full t.manager (s.closes oldRun) pc.closes ∧
      ProxyManager.Since before.manager newRun msgs served' full)
    (hsent : served' ++ current' <+: msgs)
    (hreplies : outline t.replies = outline before.replies ++ successes newRun served') :
    OnTheWay oldRun newRun control msgs before t served' current' where
  authenticator := hauth.trans hs.authenticator
  controls c hc := hs.controls c (hcontrols c hc)
  session := ⟨pc, by rw [hsessions, AList.lookup_insert], hpc⟩
  full := by
    have hnew : t.closes newRun = pc.closes := by
      rw [closes, hsessions, AList.lookup_insert, Option.bind_some]
    have hold : t.closes oldRun = s.closes oldRun := by
      rw [closes, hsessions, AList.lookup_insert_ne h.distinct, closes]
    rw [hnew, hold]
    exact hfull
  sent := hsent
  replies := hreplies

/-- The old run's task moves on. -/
theorem OnTheWay.old_moves (hs : OnTheWay oldRun newRun control msgs before s served current)
    (hsessions : t.sessions.lookup newRun = s.sessions.lookup newRun)
    (hauth : t.authenticator = s.authenticator)
    (hcontrols : ∀ c, t.controls.lookup oldRun = some c → s.controls.lookup oldRun = some c)
    (hfull : ∃ full, ProxyManager.Shadow full t.manager (t.closes oldRun) (s.closes newRun) ∧
      ProxyManager.Since before.manager newRun msgs served full)
    (hreplies : t.replies = s.replies) :
    OnTheWay oldRun newRun control msgs before t served current where
  authenticator := hauth.trans hs.authenticator
  controls c hc := hs.controls c (hcontrols c hc)
  session := by
    rw [hsessions]
    exact hs.session
  full := by
    have hnew : t.closes newRun = s.closes newRun := by rw [closes, hsessions, closes]
    rw [hnew]
    exact hfull
  sent := hs.sent
  replies := by
    rw [hreplies]
    exact hs.replies

/-- A registration of the new run succeeds, if the old proxy has been removed and
closed and the ports are spared. -/
theorem OnTheWay.register (h : Reconnected U oldRun newRun oldControl control msgs before)
    (hs : OnTheWay oldRun newRun control msgs before s served [msg])
    (hsession : s.sessions.lookup newRun = some ⟨control, .registering msg⟩)
    (hremoved : proxyKey oldRun.val msg.proxyName ∉ s.manager.proxies)
    (hclosed : ∀ c ∈ s.closes oldRun, c.1 ≠ proxyKey oldRun.val msg.proxyName)
    (hspares : ProxyManager.OpensPort msg → msg.remotePort = 0 →
      SparesPorts s.manager.resources msgs) :
    OnTheWay oldRun newRun control msgs before (s.finish U newRun control msg none)
      (served ++ [msg]) [] := by
  obtain ⟨hmsg, hserved, hfresh⟩ := h.next hs.sent
  obtain ⟨full, hshadow, hsince⟩ := hs.full
  rw [closes_of_lookup hsession] at hshadow
  have hgone : proxyKey oldRun.val msg.proxyName ∉ full.proxies := by
    intro hmem
    obtain ⟨proxy, hproxy⟩ := Table.mem_iff_lookup.mp hmem
    rcases (hshadow.lookup _ _).mp hproxy with hin | hclosing | hnew
    · exact hremoved (Table.mem_of_lookup hin)
    · exact hclosed _ hclosing rfl
    · cases hnew
  have hresources : s.manager.resources = full.resources := by rw [hshadow.rest]; rfl
  rw [hresources] at hspares
  have hav := hsince.available h.holds hmsg hserved hfresh (h.sole msg hmsg) hgone
    fun hopens hzero ↦ (hspares hopens hzero).1
  have hacc : ProxyManager.Acceptable U s.manager msg := hshadow.sameConfig.acceptable
    (hsince.config.acceptable (h.holds.served msg hmsg).acceptable)
  obtain ⟨addr, pm', hreg⟩ := ProxyManager.registerProxy_ok hacc (hshadow.available hav)
    control.workConnReqTx
  rcases ProxyManager.registerProxy_cases U s.manager newRun msg control.workConnReqTx none with
    ⟨e, q, hr, -⟩ | ⟨addr, proxy, pm', hr, -, hbuilt⟩
  · rw [hreg] at hr
    cases hr
  · have hauth := hs.authenticator.symm ▸ h.authorized msg hmsg
    -- The same proxy is built and entered in the full manager.
    have hfull : s.manager.withTables full.proxies full.records = full := by
      rw [hshadow.rest]
      rfl
    have hbuilt' := hbuilt.withTables full.proxies full.records
    rw [hfull] at hbuilt'
    rw [finish_of_ok hauth hr]
    refine hs.new_moves h rfl rfl (fun c hc ↦ hc) .serving
      ⟨_, hshadow.enter hav.key hbuilt _, hsince.enter hav.key hbuilt' ?_⟩ ?_ ?_
    · exact fun hopens hzero ↦ (hspares hopens hzero).2
    · rw [List.append_nil]
      exact hs.sent
    · have hreplies := hs.replies
      simp only [outline, successes, answer, withManager, List.map_append, List.map_cons,
        List.map_nil, ← List.append_assoc] at hreplies ⊢
      rw [hreplies]

/-- An eviction by the new run has closed the old proxy. -/
theorem OnTheWay.evicted (h : Reconnected U oldRun newRun oldControl control msgs before)
    (hs : OnTheWay oldRun newRun control msgs before s served [msg]) {owner : ProxyOwner}
    {proxy : ProxyObject} (hsession : s.sessions.lookup newRun =
      some ⟨control, .closingEvicted msg owner (proxyKey oldRun.val msg.proxyName) proxy⟩) :
    OnTheWay oldRun newRun control msgs before
      ((s.withManager ((s.manager.close proxy).forgetXtcp msg.proxyName)).moveTo newRun control
        (.superseding msg owner)) served [msg] := by
  obtain ⟨hmsg, hserved, hfresh⟩ := h.next hs.sent
  obtain ⟨full, hshadow, hsince⟩ := hs.full
  rw [closes_of_lookup hsession] at hshadow
  have hsince' := hsince.unregisterKey (proxyKey oldRun.val msg.proxyName)
  -- Nobody has the name now, so there is no XTCP entry left to forget.
  have hgone : proxyKey oldRun.val msg.proxyName ∉
      (full.unregisterKey (proxyKey oldRun.val msg.proxyName)).proxies := by
    rw [← AList.lookup_eq_none, ProxyManager.lookup_proxies_unregisterKey, if_pos rfl]
  have habsent := ProxyManager.Since.notMem_registry hsince'.lawful hsince'.lawful.xtcp
    (hsince'.nobody_has (h.sole msg hmsg) hgone hfresh)
  exact hs.new_moves h rfl rfl (fun c hc ↦ hc) (.superseding msg owner)
    ⟨_, (hshadow.symm.close.symm).forgetXtcp habsent, hsince'⟩ hs.sent hs.replies

/-- The new run looks the owner of its next message up. -/
theorem OnTheWay.newProxy (h : Reconnected U oldRun newRun oldControl control msgs before)
    (hs : OnTheWay oldRun newRun control msgs before s served [])
    (hsession : s.sessions.lookup newRun = some ⟨control, .serving⟩)
    (hsent : served ++ [msg] <+: msgs) {order : List RunId}
    (hacts : Acts U s newRun control .serving (.newProxy msg order) t) :
    OnTheWay oldRun newRun control msgs before t served [msg] := by
  obtain ⟨full, hshadow, hsince⟩ := hs.full
  rw [closes_of_lookup hsession] at hshadow
  cases hacts with
  | refused _ _ hjudge =>
      -- The owner could only be the old run, which is the same client.
      obtain ⟨owner, hfind, hclient⟩ := Shared.judge_eq_refuse hjudge
      have hsame := (hs.owner_eq h hsent hfind).2
      exact absurd ⟨hsame ▸ h.stable, hsame⟩ hclient
  | cleared =>
      exact hs.new_moves h rfl rfl (fun c hc ↦ hc) (.registering msg) ⟨full, hshadow, hsince⟩
        hsent hs.replies
  | takesOver _ _ owner hjudge =>
      have howner := (hs.owner_eq h hsent (Shared.judge_eq_takeOver hjudge).1).1
      exact hs.new_moves h rfl rfl (fun c hc ↦ hc) (.evicting msg owner howner)
        ⟨full, hshadow, hsince⟩ hsent hs.replies

/-- A step of the new run. -/
theorem OnTheWay.new_step (h : Reconnected U oldRun newRun oldControl control msgs before)
    (hs : OnTheWay oldRun newRun control msgs before s served current) {action : Action}
    (hconcerns : Concerns oldRun newRun (.act newRun action))
    (hok : Unobstructed oldRun msgs s (.act newRun action))
    (hsent : served ++ current ++ requests newRun [.act newRun action] <+: msgs)
    (hstep : s.step U (.act newRun action) = some t) :
    ∃ served' current', OnTheWay oldRun newRun control msgs before t served' current' ∧
      served' ++ current' = served ++ current ++ requests newRun [.act newRun action] := by
  obtain ⟨session, hsession, hacts⟩ := acts_of_step hstep
  obtain ⟨pc, hsession', hpc⟩ := hs.session
  rw [hsession] at hsession'
  obtain rfl := Option.some.inj hsession'
  obtain ⟨full, hshadow, hsince⟩ := hs.full
  cases hpc with
  | serving =>
      cases action with
      | newProxy msg order =>
          have hrequest : requests newRun [.act newRun (.newProxy msg order)] = [msg] := by
            simp [requests]
          rw [hrequest, List.append_nil] at hsent ⊢
          exact ⟨served, [msg], hs.newProxy h hsession hsent hacts, rfl⟩
      | closeProxy name => exact absurd hconcerns id
      | endSession order => exact absurd hconcerns.symm h.distinct
      | _ => cases hacts
  | evicting msg owner howner =>
      rw [closes_of_lookup hsession] at hshadow
      cases hacts with
      | missed _ _ order horder hfind =>
          exact ⟨served, [msg], hs.new_moves h rfl rfl (fun c hc ↦ hc) (.registering msg)
            ⟨full, hshadow, hsince⟩ hs.sent hs.replies, (List.append_nil _).symm⟩
      | tookOut _ _ order key proxy hfind hproxy =>
          have hend := List.find?_some hfind
          have hkey := hok (msg, owner) (by simp [eviction, hsession]) key
            (AList.mem_keys.mp (Table.mem_of_lookup hproxy)) hend
          rw [howner] at hkey
          subst hkey
          exact ⟨served, [msg], hs.new_moves h rfl rfl (fun c hc ↦ hc)
            (.closingEvicted msg owner proxy) ⟨full, (hshadow.symm.take hproxy).symm, hsince⟩
            hs.sent hs.replies, (List.append_nil _).symm⟩
  | closingEvicted msg owner proxy =>
      cases hacts with
      | evicted => exact ⟨served, [msg], hs.evicted h hsession, (List.append_nil _).symm⟩
  | superseding msg owner =>
      rw [closes_of_lookup hsession] at hshadow
      cases hacts with
      | superseded =>
          refine ⟨served, [msg], hs.new_moves h rfl rfl (fun c hc ↦ ?_) (.registering msg)
            ⟨full, hshadow, hsince⟩ hs.sent hs.replies, (List.append_nil _).symm⟩
          simp only [moveTo, Shared.shutdownRun, Table.lookup_erase_ite] at hc
          split at hc
          · cases hc
          · exact hc
  | registering msg =>
      cases hacts with
      | finished _ bind =>
          obtain ⟨rfl, hcondition⟩ := hok
          obtain ⟨hremoved, hclosed, hspares⟩ :=
            hcondition msg (by simp [pendingMsg, hsession, Pc.pending])
          exact ⟨served ++ [msg], [], hs.register h hsession hremoved hclosed hspares, rfl⟩

/-- A step of the old run's cleanup. -/
theorem OnTheWay.old_step (h : Reconnected U oldRun newRun oldControl control msgs before)
    (hs : OnTheWay oldRun newRun control msgs before s served current) {action : Action}
    (hconcerns : Concerns oldRun newRun (.act oldRun action))
    (hstep : s.step U (.act oldRun action) = some t) :
    OnTheWay oldRun newRun control msgs before t served current := by
  obtain ⟨⟨c, pc⟩, hsession, hacts⟩ := acts_of_step hstep
  obtain ⟨full, hshadow, hsince⟩ := hs.full
  have hne : newRun ≠ oldRun := h.distinct.symm
  rw [closes_of_lookup hsession] at hshadow
  cases hacts with
  | ended order horder =>
      refine hs.old_moves (AList.lookup_insert_ne hne) rfl (fun c hc ↦ hc) ⟨full, ?_, hsince⟩ rfl
      rw [closes_moveTo]
      exact hshadow
  | gone key keys hproxy =>
      refine hs.old_moves (AList.lookup_insert_ne hne) rfl (fun c hc ↦ hc) ⟨full, ?_, hsince⟩ rfl
      rw [closes_moveTo]
      exact hshadow
  | tookCleaned key keys proxy hproxy =>
      refine hs.old_moves (AList.lookup_insert_ne hne) rfl (fun c hc ↦ hc) ⟨full, ?_, hsince⟩ rfl
      rw [closes_moveTo]
      exact hshadow.take hproxy
  | cleaned key proxy keys =>
      refine hs.old_moves (AList.lookup_insert_ne hne) rfl (fun c hc ↦ hc)
        ⟨_, ?_, hsince.unregisterKey key⟩ rfl
      rw [closes_moveTo]
      exact hshadow.close
  | left =>
      refine hs.old_moves (AList.lookup_erase_ne hne) rfl (fun c hc ↦ ?_) ⟨full, ?_, hsince⟩ rfl
      · rw [AList.lookup_erase] at hc
        cases hc
      · have hcloses : closes { s with
            controls := s.controls.erase oldRun, sessions := s.sessions.erase oldRun } oldRun =
            none := by
          simp [closes]
        rw [hcloses]
        exact hshadow
  | absent name => exact absurd hconcerns id
  | tookClosed name proxy => exact absurd hconcerns id
  | closed key proxy => exact absurd hconcerns id
  | _ => exact absurd hconcerns h.distinct

theorem requests_cons (newRun : RunId) (e : Event) (events : List Event) :
    requests newRun (e :: events) = requests newRun [e] ++ requests newRun events := by
  rw [requests, ← List.singleton_append, List.filterMap_append]
  rfl

/-- Other runs do not add to the requests. -/
theorem requests_of_other {newRun runId : RunId} (h : runId ≠ newRun) (action : Action) :
    requests newRun [.act runId action] = [] := by
  cases action with
  | newProxy msg _ => exact List.filterMap_cons_none (if_neg h)
  | _ => rfl

/-- A step of either run. -/
theorem OnTheWay.step (h : Reconnected U oldRun newRun oldControl control msgs before)
    (hs : OnTheWay oldRun newRun control msgs before s served current) {e : Event}
    (hconcerns : Concerns oldRun newRun e) (hok : Unobstructed oldRun msgs s e)
    (hsent : served ++ current ++ requests newRun [e] <+: msgs)
    (hstep : s.step U e = some t) :
    ∃ served' current', OnTheWay oldRun newRun control msgs before t served' current' ∧
      served' ++ current' = served ++ current ++ requests newRun [e] := by
  cases e with
  | login runId control => exact absurd hconcerns id
  | shutdown runId => exact absurd hconcerns id
  | act runId action =>
      by_cases hnew : runId = newRun
      · subst hnew
        exact hs.new_step h hconcerns hok hsent hstep
      · have hold : runId = oldRun := by
          cases action <;> first | exact hconcerns | exact absurd hconcerns hnew |
            exact absurd hconcerns id
        subst hold
        refine ⟨served, current, hs.old_step h hconcerns hstep, ?_⟩
        rw [requests_of_other hnew, List.append_nil]

/-- Whole runs. -/
theorem OnTheWay.run (h : Reconnected U oldRun newRun oldControl control msgs before)
    (hs : OnTheWay oldRun newRun control msgs before s served current) {events : List Event}
    (hconcerns : ∀ e ∈ events, Concerns oldRun newRun e)
    (hok : Machine.Along (Service.step U) (Unobstructed oldRun msgs) s events)
    (hsent : served ++ current ++ requests newRun events <+: msgs)
    (hrun : Machine.run (Service.step U) s events = some t) :
    ∃ served' current', OnTheWay oldRun newRun control msgs before t served' current' ∧
      served' ++ current' = served ++ current ++ requests newRun events := by
  induction events generalizing s served current with
  | nil =>
      obtain rfl := Option.some.inj hrun
      exact ⟨served, current, hs, by simp [requests]⟩
  | cons e rest ih =>
      obtain ⟨s₁, hstep, hrest⟩ := (Machine.run_cons_eq_some _).mp hrun
      obtain ⟨hconcern, hconcerns⟩ := List.forall_mem_cons.mp hconcerns
      rw [requests_cons, ← List.append_assoc] at hsent ⊢
      obtain ⟨served₁, current₁, hs₁, heq⟩ := hs.step h hconcern hok.1
        ((List.prefix_append _ _).trans hsent) hstep
      rw [← heq] at hsent ⊢
      exact ih hs₁ hconcerns (hok.2 s₁ hstep) hsent hrest

end Steps

/-- However the new run's messages and the old run's cleanup interleave, as long as
no step is obstructed: every message the new run has sent so far was answered
without an error, but for the one that is being handled. -/
theorem reconnect_succeeds {U : UnicodeData} {oldRun newRun : RunId} {oldControl control : Control}
    {msgs : List NewProxyMsg} {before s : Service} {events : List Event}
    (h : Reconnected U oldRun newRun oldControl control msgs before)
    (hconcerns : ∀ e ∈ events, Concerns oldRun newRun e)
    (hrequests : requests newRun events <+: msgs)
    (hok : Machine.Along (step U) (Unobstructed oldRun msgs) before events)
    (hrun : Machine.run (step U) before events = some s) :
    ∃ served current, requests newRun events = served ++ current ∧
      s.pendingMsg newRun = current.head? ∧ current.length ≤ 1 ∧
      outline s.replies = outline before.replies ++ successes newRun served := by
  obtain ⟨served, current, hs, heq⟩ :=
    (OnTheWay.refl h).run h hconcerns hok (by simpa using hrequests) hrun
  refine ⟨served, current, by simpa using heq.symm, ?_, ?_, hs.replies⟩
  · obtain ⟨pc, hsession, hpc⟩ := hs.session
    rw [pendingMsg, hsession, Option.bind_some]
    cases hpc <;> rfl
  · obtain ⟨pc, -, hpc⟩ := hs.session
    cases hpc <;> simp

/-! ## Two proxies -/

/-- Two TCP proxies with fixed ports. -/
def web : NewProxyMsg := ProxyManager.message "web" "tcp" 10080 "" .null

@[inherit_doc web]
def ssh : NewProxyMsg := ProxyManager.message "ssh" "tcp" 10022 "" .null

/-- A run has registered both, and its client has logged in again. -/
def twoLogins : Service where
  authenticator := ⟨"token", [], []⟩
  controls := ((∅ : Table RunId Control).insert run1 ⟨"office", "token", 1, 1⟩).insert run2
    ⟨"office", "token", 1, 2⟩
  manager := (((ProxyManager.start .ascii "" 80 443 []).registerProxy .ascii run1 web 1
    none).2.registerProxy .ascii run1 ssh 1 none).2
  sessions := ((∅ : Table RunId Session).insert run1
    ⟨⟨"office", "token", 1, 1⟩, .serving⟩).insert run2 ⟨⟨"office", "token", 1, 2⟩, .serving⟩
  replies := []

theorem reconnected_twoLogins :
    Reconnected .ascii run1 run2 ⟨"office", "token", 1, 1⟩ ⟨"office", "token", 1, 2⟩ [web, ssh]
      twoLogins where
  distinct := by decide
  old := rfl
  new := rfl
  listed := rfl
  client := rfl
  stable := by decide
  authorized _ _ := rfl
  sole msg hmsg run hkey := by
    have howners : ∀ key ∈ twoLogins.manager.proxies.keys,
        ProxyManager.ownerOf key = run1.val := by decide
    have howner := howners _ (AList.mem_keys.mp hkey)
    rw [ownerOf_proxyKey] at howner
    exact Subtype.ext howner
  history := ⟨"", 80, 443, [],
    [.registerProxy run1 web 1 none, .registerProxy run1 ssh 1 none], rfl, by decide, rfl⟩

/-- The new run takes the first proxy over, the old run cleans up, and the new run
registers the second one after that. -/
def patient : List Event :=
  [.act run2 (.newProxy web [run1, run2]), .act run2 (.evict ["run-1:ssh", "run-1:web"]),
    .act run2 .closeEvicted, .act run2 .supersede, .act run2 (.register none),
    .act run1 (.endSession ["run-1:ssh", "run-2:web"]), .act run1 .cleanNext,
    .act run2 (.newProxy ssh [run2]), .act run1 .finishClean, .act run1 .leave,
    .act run2 (.register none)]

/-- Then both registrations succeed. -/
theorem reconnect_succeeds_patient : ∃ s,
    Machine.run (step .ascii) twoLogins patient = some s ∧
    s.manager.proxies.keys = ["run-2:ssh", "run-2:web"] ∧
    ∃ served current, requests run2 patient = served ++ current ∧
      s.pendingMsg run2 = current.head? ∧ current.length ≤ 1 ∧
      outline s.replies = outline twoLogins.replies ++ successes run2 served := by
  have hok : Machine.Along (step .ascii) (Unobstructed run1 [web, ssh]) twoLogins patient := by
    decide
  have hconcerns : ∀ e ∈ patient, Concerns run1 run2 e := by simp [patient, Concerns]
  have hrequests : requests run2 patient <+: [web, ssh] := ⟨[], rfl⟩
  refine Machine.exists_run (fun s ↦ s.manager.proxies.keys) ["run-2:ssh", "run-2:web"]
    (by decide) fun s hs hkeys ↦ ?_
  exact ⟨hkeys, reconnect_succeeds reconnected_twoLogins hconcerns hrequests hok hs⟩

/-- The new run takes the first proxy over and goes on with the second one at once. -/
def hasty : List Event :=
  [.act run2 (.newProxy web [run1, run2]), .act run2 (.evict ["run-1:ssh", "run-1:web"]),
    .act run2 .closeEvicted, .act run2 .supersede, .act run2 (.register none),
    .act run2 (.newProxy ssh [run2]), .act run2 (.register none)]

/-- Then the old run is no longer listed but still has the second port, and the
second registration is refused. -/
theorem second_port_refused : ∃ s,
    Reconnected .ascii run1 run2 ⟨"office", "token", 1, 1⟩ ⟨"office", "token", 1, 2⟩ [web, ssh]
      twoLogins ∧
    (∀ e ∈ hasty, Concerns run1 run2 e) ∧ requests run2 hasty = [web, ssh] ∧
    Machine.run (step .ascii) twoLogins hasty = some s ∧
    outline s.replies =
      [(run2, "web", ""), (run2, "ssh", "Proxy error: Port 10022 is already allocated")] := by
  have hreplies : (Machine.run (step .ascii) twoLogins hasty).map (fun s ↦ outline s.replies) =
      some [(run2, "web", ""),
        (run2, "ssh", "Proxy error: Port 10022 is already allocated")] := by decide
  obtain ⟨s, hs, hreplies⟩ := Option.map_eq_some_iff.mp hreplies
  exact ⟨s, reconnected_twoLogins, by simp [hasty, Concerns], rfl, hs, hreplies⟩

end Arp.Server.Service
