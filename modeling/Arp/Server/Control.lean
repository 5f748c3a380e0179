import Arp.Server.ProxyManager

/-!
# Controls and the handling of `NewProxy`

A control serves one client connection.  Controls know each other through the
control manager and share one proxy manager.  A proxy name belongs to the control
that has registered it; a control of the same client, recognized by a stable
client id, takes the name over.

`handleNewProxy` is the handler run from start to end.  The decision it takes on
the owner, and the authorization and registration at its end, are definitions of
their own, as the interleaved model takes them as separate steps.
-/

namespace Arp.Server

open Arp.Common Arp.Lib Arp.Lib.Text

/-- `Control`: the data of a control the handlers read.  Its run id is the key it
is kept under. -/
structure Control where
  clientId : String
  privilegeKey : String
  poolCount : UInt32
  workConnReqTx : ReqSender
deriving DecidableEq, Repr

/-- `ProxyOwner`. -/
structure ProxyOwner where
  runId : RunId
  clientId : String
deriving DecidableEq, Repr

/-- What all controls share: the authenticator, the control manager and the proxy
manager. -/
structure Shared where
  authenticator : TokenAuth
  controls : Table RunId Control
  manager : ProxyManager

namespace Shared

/-- `ControlManager::find_proxy_owner`, for a walk over the controls in the given
order. -/
def findProxyOwner (s : Shared) (order : List RunId) (proxyName : String) : Option ProxyOwner :=
  order.findSome? fun runId ↦
    (s.controls.lookup runId).bind fun control ↦
      if proxyKey runId.val proxyName ∈ s.manager.proxies then some ⟨runId, control.clientId⟩
      else none

/-- `ControlManager::shutdown_run`, as far as the managers go. -/
def shutdownRun (s : Shared) (runId : RunId) : Shared :=
  { s with controls := s.controls.erase runId }

/-- What `handle_new_proxy` decides on the owner it found. -/
inductive Verdict where
  | proceed
  | refuse
  | takeOver (owner : ProxyOwner)
deriving DecidableEq, Repr

/-- The decision on the owner: the name is free or one's own, it belongs to an
earlier connection of the same client, or it is somebody else's. -/
def judge (runId : RunId) (control : Control) : Option ProxyOwner → Verdict
  | none => .proceed
  | some owner =>
    if owner.runId = runId then .proceed
    else if owner.clientId ≠ "" ∧ owner.clientId = control.clientId then .takeOver owner
    else .refuse

/-- The reply when the name is somebody else's. -/
def inUse (msg : NewProxyMsg) : NewProxyRespMsg where
  proxyName := msg.proxyName
  remoteAddr := ""
  error := "proxy name " ++ msg.proxyName ++ " is already in use by another client"

/-- The end of `handle_new_proxy`: authorization and registration. -/
def authorizeAndRegister (U : UnicodeData) (s : Shared) (runId : RunId) (control : Control)
    (msg : NewProxyMsg) (bind : Option String) : NewProxyRespMsg × Shared :=
  match s.authenticator.authorizeProxy U control.privilegeKey control.poolCount msg with
  | .error e => (⟨msg.proxyName, "", e.display⟩, s)
  | .ok () =>
    match s.manager.registerProxy U runId msg control.workConnReqTx bind with
    | (.ok remoteAddr, pm) => (⟨msg.proxyName, remoteAddr, ""⟩, { s with manager := pm })
    | (.error e, pm) => (⟨msg.proxyName, "", e.display⟩, { s with manager := pm })

/-- The orders of the walks over the controls and the proxies. -/
structure Walk where
  controls : List RunId
  proxies : List String

/-- The walk covers the controls and the proxies of the state. -/
def Walk.Covers (walk : Walk) (s : Shared) : Prop :=
  walk.controls.Perm s.controls.keys ∧ walk.proxies.Perm s.manager.proxies.keys

/-- The takeover: the proxy is evicted, and if one was found the old control is
shut down. -/
def takeOver (s : Shared) (owner : ProxyOwner) (order : List String) (proxyName : String) :
    Shared :=
  let (evicted, pm) := s.manager.evictProxyByName order proxyName
  let s := { s with manager := pm }
  if evicted.isSome then s.shutdownRun owner.runId else s

/-- `Control::handle_new_proxy`: the reply and the state it leaves. -/
def handleNewProxy (U : UnicodeData) (s : Shared) (runId : RunId) (control : Control)
    (msg : NewProxyMsg) (walk : Walk) (bind : Option String) : NewProxyRespMsg × Shared :=
  match judge runId control (s.findProxyOwner walk.controls msg.proxyName) with
  | .refuse => (inUse msg, s)
  | .proceed => s.authorizeAndRegister U runId control msg bind
  | .takeOver owner =>
    (s.takeOver owner walk.proxies msg.proxyName).authorizeAndRegister U runId control msg bind

/-! ## Owners -/

variable {s : Shared} {order : List RunId} {proxyName : String}

/-- The owner that is found is a control that has registered the name. -/
theorem findProxyOwner_eq_some {owner : ProxyOwner}
    (h : s.findProxyOwner order proxyName = some owner) :
    ∃ control, s.controls.lookup owner.runId = some control ∧
      owner.clientId = control.clientId ∧
      proxyKey owner.runId.val proxyName ∈ s.manager.proxies := by
  obtain ⟨runId, -, h⟩ := List.exists_of_findSome?_eq_some h
  obtain ⟨control, hcontrol, h⟩ := Option.bind_eq_some_iff.mp h
  split at h
  · next hkey =>
      obtain rfl := Option.some.inj h
      exact ⟨control, hcontrol, rfl, hkey⟩
  · cases h

/-- If no owner is found, no control has registered the name. -/
theorem findProxyOwner_eq_none (horder : order.Perm s.controls.keys)
    (h : s.findProxyOwner order proxyName = none) {runId : RunId} (hrun : runId ∈ s.controls) :
    proxyKey runId.val proxyName ∉ s.manager.proxies := by
  intro hkey
  obtain ⟨control, hcontrol⟩ := Table.mem_iff_lookup.mp hrun
  have hmem : runId ∈ order := horder.mem_iff.mpr (AList.mem_keys.mp hrun)
  have hnone := List.findSome?_eq_none_iff.mp h runId hmem
  simp [hcontrol, hkey] at hnone

/-- A control that has registered the name is found by a walk that meets it first. -/
theorem findProxyOwner_cons {runId : RunId} {control : Control} {rest : List RunId}
    (hcontrol : s.controls.lookup runId = some control)
    (hkey : proxyKey runId.val proxyName ∈ s.manager.proxies) :
    s.findProxyOwner (runId :: rest) proxyName = some ⟨runId, control.clientId⟩ := by
  simp [findProxyOwner, hcontrol, hkey]

/-- The handler goes on at once if no control has the name, or it has it itself. -/
theorem judge_eq_proceed {runId : RunId} {control : Control} {found : Option ProxyOwner}
    (h : judge runId control found = .proceed) :
    found = none ∨ ∃ owner, found = some owner ∧ owner.runId = runId := by
  cases found with
  | none => exact .inl rfl
  | some owner =>
      rw [judge] at h
      split at h
      · next hself => exact .inr ⟨owner, rfl, hself⟩
      · split at h <;> cases h

/-- The handler takes a name over from another run of the same client. -/
theorem judge_eq_takeOver {runId : RunId} {control : Control} {found : Option ProxyOwner}
    {owner : ProxyOwner} (h : judge runId control found = .takeOver owner) :
    found = some owner ∧ owner.runId ≠ runId ∧ owner.clientId ≠ "" ∧
      owner.clientId = control.clientId := by
  cases found with
  | none => cases h
  | some found =>
      rw [judge] at h
      split at h
      · cases h
      · next hother =>
          split at h
          · next hsame =>
              obtain rfl := Verdict.takeOver.inj h
              exact ⟨rfl, hother, hsame⟩
          · cases h

/-- The handler refuses a name that belongs to another run of another client. -/
theorem judge_eq_refuse {runId : RunId} {control : Control} {found : Option ProxyOwner}
    (h : judge runId control found = .refuse) :
    ∃ owner, found = some owner ∧ ¬(owner.clientId ≠ "" ∧ owner.clientId = control.clientId) := by
  cases found with
  | none => cases h
  | some owner =>
      rw [judge] at h
      split at h
      · cases h
      · split at h
        · cases h
        · next hclient => exact ⟨owner, rfl, hclient⟩

/-! ## The end of the handler -/

/-- Authorization and registration move the cursor at most and reply with an
error, or enter a proxy that was built and reply with its address. -/
theorem authorizeAndRegister_cases (U : UnicodeData) (s : Shared) (runId : RunId)
    (control : Control) (msg : NewProxyMsg) (bind : Option String) :
    (∃ e pm', s.authorizeAndRegister U runId control msg bind =
        (⟨msg.proxyName, "", Error.display e⟩, { s with manager := pm' }) ∧
        ProxyManager.OnlyCursor s.manager pm') ∨
      ∃ addr proxy pm', s.authorizeAndRegister U runId control msg bind =
          (⟨msg.proxyName, addr, ""⟩, { s with
            manager := pm'.enter (proxyKey runId.val msg.proxyName) proxy
              ⟨runId, msg.proxyName, msg.proxyType, addr⟩ }) ∧
        proxyKey runId.val msg.proxyName ∉ s.manager.proxies ∧
        ProxyManager.Built U s.manager runId msg control.workConnReqTx
          (proxyKey runId.val msg.proxyName) proxy pm' := by
  unfold authorizeAndRegister
  split
  · exact .inl ⟨_, _, rfl, .refl s.manager⟩
  · rcases ProxyManager.registerProxy_cases U s.manager runId msg control.workConnReqTx bind with
      ⟨e, pm', hr, hcursor⟩ | ⟨addr, proxy, pm', hr, hkey, hbuilt⟩
    · rw [hr]
      exact .inl ⟨e, pm', rfl, hcursor⟩
    · rw [hr]
      exact .inr ⟨addr, proxy, pm', rfl, hkey, hbuilt⟩

end Shared

end Arp.Server
