import Arp.Client.Proxies
import Arp.Lib.Machine
import Mathlib.Data.List.Perm.Basic

/-!
# Work connections and the health of a proxy

A client opens a work connection when the server asks for one, and keeps some open
in advance if a pool is configured.  Each is a task that connects, waits for
`StartWorkConn`, and hands the connection to the object of the proxy it names; a
task of the pool then begins anew.  A TCP object checks its local endpoint first, at
most once in an interval, and what the check finds is all that decides whether the
object is available.

A request for a proxy that is not available is skipped.  So a proxy that became
unavailable needs a work connection that is there for another reason: from the pool,
or one that was under way already.  The main result says that nothing else helps and
that each of these does.
-/

namespace Arp.Client

open Arp.Common Arp.Lib Arp.Lib.Machine Arp.Lib.Text

/-! ## A health check in two parts -/

namespace TcpProxy

/-- The part of `check_health` before the probe: its result if it makes none. -/
def beginCheck (p : TcpProxy) (now : Nat) : Option (Result Unit) :=
  if !p.healthCheckEnable then some (.ok ())
  else if now - p.health.lastCheck < p.healthCheckInterval.toNat * second then
    some (if p.health.healthy then .ok () else .error (.proxy p.unhealthyText))
  else none

/-- The object when a probe begins: `*last = now`. -/
def stampCheck (p : TcpProxy) (now : Nat) : TcpProxy :=
  { p with health := { p.health with lastCheck := now } }

/-- The part of `check_health` after the probe. -/
def endCheck (p : TcpProxy) (probe : Bool) : Result Unit × TcpProxy :=
  if probe then (.ok (), { p with health := { p.health with failed := 0, healthy := true } })
  else
    let failed := p.health.failed + 1
    let healthy := if failed ≥ p.healthCheckMaxFailed then false else p.health.healthy
    (if healthy then .ok ()
      else .error (.proxy (p.unhealthyText ++ " (failed=" ++ toString failed ++ ")")),
      { p with health := { p.health with failed := failed, healthy := healthy } })

/-- The two parts make up `check_health`. -/
theorem checkHealth_eq (p : TcpProxy) (now : Nat) (probe : Bool) :
    p.checkHealth now probe =
      match p.beginCheck now with
      | some result => (result, p.health)
      | none => ((p.stampCheck now).endCheck probe).map id TcpProxy.health := by
  unfold checkHealth beginCheck
  split
  · rfl
  · split
    · rfl
    · cases probe <;> rfl

end TcpProxy

/-! ## The tasks of a session -/

/-- How far a task is with its work connection. -/
inductive TaskPc where
  | /-- It connects to the server and sends `NewWorkConn`. -/
    connecting
  | /-- It waits for `StartWorkConn`. -/
    waiting
  | /-- It probes the local endpoint of the object registered under this name; of one
    that is not registered any more if there is no name. -/
    probing (target : Option String)
  | /-- It forwards. -/
    serving
deriving DecidableEq, Repr

/-- A task that runs `create_work_conn_static`: once, or over and over for the pool. -/
structure Task where
  pooled : Bool
  pc : TaskPc
deriving DecidableEq, Repr

/-- The object registered under a name has been replaced or removed. -/
def Task.forget (name : String) (t : Task) : Task :=
  if t.pc = .probing (some name) then { t with pc := .probing none } else t

/-- The task may still come to check the object of a name. -/
def Task.Pending (name : String) (t : Task) : Prop :=
  t.pc = .connecting ∨ t.pc = .waiting ∨ t.pc = .probing (some name)

instance (name : String) (t : Task) : Decidable (t.Pending name) :=
  inferInstanceAs (Decidable (_ ∨ _ ∨ _))

/-- A session after its start-up.  The run id is the one the server assigned, so it is
not blank. -/
structure Workers where
  pm : ProxyManager
  runId : String
  runId_set : isBlank runId = false
  now : Nat
  tasks : List Task

namespace Workers

/-- `prewarm_work_conn_pool`, at the start of the message loop. -/
def start (pm : ProxyManager) (runId : String) (runId_set : isBlank runId = false) (now : Nat)
    (poolCount : UInt32) : Workers :=
  ⟨pm, runId, runId_set, now, List.replicate poolCount.toNat ⟨true, .connecting⟩⟩

/-- The session with a task moved on. -/
def setPc (s : Workers) (i : Nat) (t : Task) (pc : TaskPc) : Workers :=
  { s with tasks := s.tasks.set i { t with pc := pc } }

/-- The session when a task is done with its work connection. -/
def endTask (s : Workers) (i : Nat) (t : Task) : Workers :=
  if t.pooled then s.setPc i t .connecting else { s with tasks := s.tasks.eraseIdx i }

/-- The session with the object of a name changed. -/
def setProxy (s : Workers) (name : String) (p : TcpProxy) : Workers :=
  { s with pm := ⟨s.pm.proxies.insert name (.tcp p)⟩ }

end Workers

/-- What can happen in a session. -/
inductive WorkAction where
  | /-- Time passes. -/
    tick (d : Nat)
  | /-- A `ReqWorkConn` arrives. -/
    reqWorkConn (name : String)
  | /-- A task has connected and sent `NewWorkConn`. -/
    connect (i : Nat)
  | /-- A connection fails, or the server closes it. -/
    fail (i : Nat)
  | /-- A task receives `StartWorkConn`. -/
    startWorkConn (i : Nat) (msg : StartWorkConnMsg)
  | /-- A probe ends. -/
    probed (i : Nat) (ok : Bool)
  | /-- A task has forwarded all there is. -/
    finish (i : Nat)
  | /-- A proxy is registered at run time. -/
    register (config : ProxyConfig)
  | /-- A proxy is closed at run time. -/
    unregister (name : String)

namespace Workers

/-- A task receives `StartWorkConn`: `create_work_conn_static` from there on, up to the
probe. -/
def startTask (s : Workers) (i : Nat) (t : Task) (msg : StartWorkConnMsg) : Workers :=
  if msg.error ≠ "" then s.endTask i t
  else
    match s.pm.getProxy msg.proxyName with
    | none | some (.xtcp _) => s.endTask i t
    | some (.udp _) => s.setPc i t .serving
    | some (.tcp p) =>
      match p.beginCheck s.now with
      | some (.ok ()) => s.setPc i t .serving
      | some (.error _) => s.endTask i t
      | none =>
        (s.setProxy msg.proxyName (p.stampCheck s.now)).setPc i t (.probing (some msg.proxyName))

/-- A probe ends.  What it says about an object that is not registered any more shows
nowhere else: there `ok` is whether the task goes on to forward. -/
def endProbe (s : Workers) (i : Nat) (t : Task) (target : Option String) (ok : Bool) : Workers :=
  match target.bind fun name ↦ (s.pm.getProxy name).map (name, ·) with
  | some (name, .tcp p) =>
    match p.endCheck ok with
    | (.ok (), p) => (s.setProxy name p).setPc i t .serving
    | (.error _, p) => (s.setProxy name p).endTask i t
  | _ => if ok then s.setPc i t .serving else s.endTask i t

/-- One step of a session. -/
def step (s : Workers) : WorkAction → Option Workers
  | .tick d => some { s with now := s.now + d }
  | .reqWorkConn name =>
    some (if s.pm.followsReqWorkConn s.runId name then
      { s with tasks := s.tasks ++ [⟨false, .connecting⟩] } else s)
  | .connect i => do
    let t ← s.tasks[i]?
    if t.pc = .connecting then some (s.setPc i t .waiting) else none
  | .fail i => do
    let t ← s.tasks[i]?
    if t.pc = .connecting ∨ t.pc = .waiting then some (s.endTask i t) else none
  | .startWorkConn i msg => do
    let t ← s.tasks[i]?
    if t.pc = .waiting then some (s.startTask i t msg) else none
  | .probed i ok => do
    let t ← s.tasks[i]?
    match t.pc with
    | .probing target => some (s.endProbe i t target ok)
    | _ => none
  | .finish i => do
    let t ← s.tasks[i]?
    if t.pc = .serving then some (s.endTask i t) else none
  | .register config =>
    some { s with
      pm := s.pm.registerProxy config s.now
      tasks := s.tasks.map (Task.forget config.name) }
  | .unregister name =>
    some { s with
      pm := s.pm.unregisterProxy name
      tasks := s.tasks.map (Task.forget name) }

/-! ## Recovery -/

/-- A continuation in which the local endpoints can be reached, the server asks for work
connections of one proxy only, and no proxy is registered or closed. -/
def Calm (name : String) : WorkAction → Prop
  | .reqWorkConn n => n = name
  | .probed _ ok => ok = true
  | .register _ | .unregister _ => False
  | _ => True

/-- Some calm continuation makes the proxy available. -/
def CanRecover (name : String) (s : Workers) : Prop :=
  ∃ as s', run step s as = some s' ∧ (∀ a ∈ as, Calm name a) ∧ s'.pm.isProxyAvailable name = true

variable {s s' : Workers} {name : String} {p : TcpProxy} {i : Nat} {t : Task}

theorem CanRecover.of_step {a : WorkAction} (hs : step s a = some s') (ha : Calm name a)
    (h : CanRecover name s') : CanRecover name s := by
  obtain ⟨as, s'', hrun, hcalm, havailable⟩ := h
  refine ⟨a :: as, s'', (run_cons_eq_some step).mpr ⟨s', hs, hrun⟩, ?_, havailable⟩
  exact List.forall_mem_cons.mpr ⟨ha, hcalm⟩

theorem CanRecover.of_available (h : s.pm.isProxyAvailable name = true) : CanRecover name s :=
  ⟨[], s, rfl, by simp, h⟩

theorem isProxyAvailable_eq (h : s.pm.getProxy name = some (.tcp p)) :
    s.pm.isProxyAvailable name = p.isAvailable := by
  rw [ProxyManager.isProxyAvailable, show s.pm.proxies.lookup name = some (.tcp p) from h]
  rfl

theorem getProxy_setProxy (s : Workers) (name n : String) (p : TcpProxy) :
    (s.setProxy n p).pm.getProxy name =
      if name = n then some (.tcp p) else s.pm.getProxy name :=
  Table.lookup_insert_ite _ _ _ _

@[simp] theorem pm_setPc (s : Workers) (i : Nat) (t : Task) (pc : TaskPc) :
    (s.setPc i t pc).pm = s.pm := rfl

theorem getElem?_setPc (ht : s.tasks[i]? = some t) (pc : TaskPc) :
    (s.setPc i t pc).tasks[i]? = some { t with pc := pc } :=
  List.getElem?_set_self (List.getElem?_eq_some_iff.mp ht).1

/-- A probe that succeeds makes the object it is about available, if that is registered. -/
theorem endProbe_true (s : Workers) (i : Nat) (t : Task) (target : Option String) :
    (∃ n p, target = some n ∧ s.pm.getProxy n = some (.tcp p) ∧
      s.endProbe i t target true = (s.setProxy n (p.endCheck true).2).setPc i t .serving) ∨
    ((∀ n p, target = some n → s.pm.getProxy n ≠ some (.tcp p)) ∧
      s.endProbe i t target true = s.setPc i t .serving) := by
  cases target with
  | none =>
      refine .inr ⟨fun n p h ↦ ?_, rfl⟩
      cases h
  | some n =>
      cases hget : s.pm.getProxy n with
      | none =>
          refine .inr ⟨fun m p hm ↦ ?_, by simp [endProbe, hget]⟩
          obtain rfl := Option.some.inj hm
          simp [hget]
      | some proxy =>
          cases proxy with
          | tcp p => exact .inl ⟨n, p, rfl, hget, by simp [endProbe, hget, TcpProxy.endCheck]⟩
          | udp p =>
              refine .inr ⟨fun m q hm ↦ ?_, by simp [endProbe, hget]⟩
              obtain rfl := Option.some.inj hm
              simp [hget]
          | xtcp p =>
              refine .inr ⟨fun m q hm ↦ ?_, by simp [endProbe, hget]⟩
              obtain rfl := Option.some.inj hm
              simp [hget]

theorem isAvailable_endCheck_true (p : TcpProxy) : (p.endCheck true).2.isAvailable = true :=
  Bool.or_true _

theorem step_probed {target : Option String} (ht : s.tasks[i]? = some t)
    (hpc : t.pc = .probing target) (ok : Bool) :
    step s (.probed i ok) = some (s.endProbe i t target ok) := by
  simp [step, ht, hpc]

/-- A request adds a task at most. -/
theorem step_reqWorkConn (s : Workers) (name : String) :
    ∃ s₁, step s (.reqWorkConn name) = some s₁ ∧ s₁.pm = s.pm ∧ s.tasks <+: s₁.tasks ∧
      (name = "" → (⟨false, .connecting⟩ : Task) ∈ s₁.tasks) := by
  refine ⟨_, rfl, ?_⟩
  split
  · exact ⟨rfl, List.prefix_append _ _, fun _ ↦ List.mem_append_right _ List.mem_cons_self⟩
  · next hskip =>
      refine ⟨rfl, List.prefix_rfl, ?_⟩
      rintro rfl
      exact absurd (by simp [ProxyManager.followsReqWorkConn, s.runId_set]) hskip

/-! ### What helps -/

/-- A task that probes the object. -/
theorem canRecover_of_probing (hget : s.pm.getProxy name = some (.tcp p))
    (ht : s.tasks[i]? = some t) (hpc : t.pc = .probing (some name)) : CanRecover name s := by
  refine .of_step (step_probed ht hpc true) rfl (.of_available ?_)
  rcases endProbe_true s i t (some name) with ⟨n, q, hn, hq, heq⟩ | ⟨hnone, -⟩
  · obtain rfl := Option.some.inj hn
    have hget' : ((s.setProxy name (q.endCheck true).2).setPc i t .serving).pm.getProxy name =
        some (.tcp (q.endCheck true).2) := by
      rw [pm_setPc, getProxy_setProxy, if_pos rfl]
    rw [heq, isProxyAvailable_eq hget', isAvailable_endCheck_true]
  · exact absurd hget (hnone name p rfl)

/-- A task that waits for `StartWorkConn`: once the interval is over, starting it for
the proxy makes it probe. -/
theorem canRecover_of_waiting (hget : s.pm.getProxy name = some (.tcp p))
    (ht : s.tasks[i]? = some t) (hpc : t.pc = .waiting) : CanRecover name s := by
  cases havailable : p.isAvailable with
  | true => exact .of_available (isProxyAvailable_eq hget ▸ havailable)
  | false =>
      have henable : p.healthCheckEnable = true := by
        by_contra hn
        simp [TcpProxy.isAvailable, hn] at havailable
      let d := p.health.lastCheck + p.healthCheckInterval.toNat * second
      let s₁ : Workers := { s with now := s.now + d }
      have hprobe : p.beginCheck s₁.now = none := by
        rw [TcpProxy.beginCheck, if_neg (by simp [henable]), if_neg]
        change ¬ s.now + (p.health.lastCheck + p.healthCheckInterval.toNat * second) -
          p.health.lastCheck < _
        omega
      have hstart : step s₁ (.startWorkConn i ⟨name, "", "", ""⟩) =
          some ((s₁.setProxy name (p.stampCheck s₁.now)).setPc i t (.probing (some name))) := by
        have hget₁ : s₁.pm.getProxy name = some (.tcp p) := hget
        have ht₁ : s₁.tasks[i]? = some t := ht
        simp [step, ht₁, hpc, startTask, hget₁, hprobe]
      have htick : step s (.tick d) = some s₁ := rfl
      refine .of_step htick trivial (.of_step hstart trivial ?_)
      refine canRecover_of_probing (p := p.stampCheck s₁.now) ?_ (getElem?_setPc ht _) rfl
      rw [pm_setPc, getProxy_setProxy, if_pos rfl]

/-- A task that connects. -/
theorem canRecover_of_connecting (hget : s.pm.getProxy name = some (.tcp p))
    (ht : s.tasks[i]? = some t) (hpc : t.pc = .connecting) : CanRecover name s := by
  have hconnect : step s (.connect i) = some (s.setPc i t .waiting) := by simp [step, ht, hpc]
  refine .of_step hconnect trivial ?_
  exact canRecover_of_waiting hget (getElem?_setPc ht _) rfl

/-- A task of the pool that forwards: it begins anew when it is done. -/
theorem canRecover_of_serving (hget : s.pm.getProxy name = some (.tcp p))
    (ht : s.tasks[i]? = some t) (hpooled : t.pooled = true) (hpc : t.pc = .serving) :
    CanRecover name s := by
  have hfinish : step s (.finish i) = some (s.setPc i t .connecting) := by
    simp [step, ht, hpc, endTask, hpooled]
  refine .of_step hfinish trivial ?_
  exact canRecover_of_connecting hget (getElem?_setPc ht _) rfl

/-- A task of the pool, wherever it is. -/
theorem canRecover_of_pooled (hget : s.pm.getProxy name = some (.tcp p))
    (ht : s.tasks[i]? = some t) (hpooled : t.pooled = true) : CanRecover name s := by
  cases hpc : t.pc with
  | connecting => exact canRecover_of_connecting hget ht hpc
  | waiting => exact canRecover_of_waiting hget ht hpc
  | serving => exact canRecover_of_serving hget ht hpooled hpc
  | probing target =>
      refine .of_step (step_probed ht hpc true) rfl ?_
      rcases endProbe_true s i t target with ⟨n, q, rfl, hq, heq⟩ | ⟨-, heq⟩
      · rw [heq]
        have hget' : ∃ p', (s.setProxy n (q.endCheck true).2).pm.getProxy name =
            some (.tcp p') := by
          rw [getProxy_setProxy]
          split
          · exact ⟨_, rfl⟩
          · exact ⟨p, hget⟩
        obtain ⟨p', hget'⟩ := hget'
        exact canRecover_of_serving (p := p') hget' (getElem?_setPc ht _) hpooled rfl
      · rw [heq]
        exact canRecover_of_serving hget (getElem?_setPc ht _) hpooled rfl

/-- A task that is of the pool or still to come to the check. -/
theorem canRecover_of_task (hget : s.pm.getProxy name = some (.tcp p)) (ht : s.tasks[i]? = some t)
    (h : t.pooled = true ∨ t.Pending name) : CanRecover name s := by
  rcases h with hpooled | hpc | hpc | hpc
  · exact canRecover_of_pooled hget ht hpooled
  · exact canRecover_of_connecting hget ht hpc
  · exact canRecover_of_waiting hget ht hpc
  · exact canRecover_of_probing hget ht hpc

/-! ### Nothing else does -/

/-- The object is not available, and no task will come to check it. -/
structure Stuck (name : String) (s : Workers) : Prop where
  unavailable : ∃ p, s.pm.getProxy name = some (.tcp p) ∧ p.isAvailable = false
  tasks : ∀ t ∈ s.tasks, t.pooled = false ∧ ¬ t.Pending name

theorem Stuck.isProxyAvailable (h : Stuck name s) : s.pm.isProxyAvailable name = false := by
  obtain ⟨p, hget, hp⟩ := h.unavailable
  rw [isProxyAvailable_eq hget, hp]

/-- A request for the proxy is skipped, unless its name is empty. -/
theorem Stuck.followsReqWorkConn (h : Stuck name s) (hname : name ≠ "") :
    s.pm.followsReqWorkConn s.runId name = false := by
  have hempty : name.isEmpty = false := by simpa using hname
  rw [ProxyManager.followsReqWorkConn, h.isProxyAvailable, hempty]
  rfl

/-- A task that forwards does not come to the check. -/
theorem Stuck.setPc_serving (h : Stuck name s) (ht : t ∈ s.tasks) (i : Nat) :
    Stuck name (s.setPc i t .serving) := by
  refine ⟨h.unavailable, fun u hu ↦ ?_⟩
  rcases List.mem_or_eq_of_mem_set hu with hu | rfl
  · exact h.tasks u hu
  · exact ⟨(h.tasks t ht).1, by simp [Task.Pending]⟩

/-- Calm steps do not get a stuck session going again. -/
theorem Stuck.of_step (hname : name ≠ "") (h : Stuck name s) {a : WorkAction} (ha : Calm name a)
    (hs : step s a = some s') : Stuck name s' := by
  have hmem {i : Nat} {t : Task} (ht : s.tasks[i]? = some t) : t ∈ s.tasks :=
    List.mem_of_getElem? ht
  cases a with
  | tick d =>
      obtain rfl := Option.some.inj hs
      exact ⟨h.unavailable, h.tasks⟩
  | reqWorkConn n =>
      obtain rfl : n = name := ha
      simp only [step, h.followsReqWorkConn hname] at hs
      obtain rfl := Option.some.inj hs
      exact h
  | connect i =>
      obtain ⟨t, ht, hs⟩ := Option.bind_eq_some_iff.mp hs
      split at hs
      · next hpc => exact absurd (.inl hpc) (h.tasks t (hmem ht)).2
      · cases hs
  | fail i =>
      obtain ⟨t, ht, hs⟩ := Option.bind_eq_some_iff.mp hs
      split at hs
      · next hpc =>
          rcases hpc with hpc | hpc
          · exact absurd (.inl hpc) (h.tasks t (hmem ht)).2
          · exact absurd (.inr (.inl hpc)) (h.tasks t (hmem ht)).2
      · cases hs
  | startWorkConn i msg =>
      obtain ⟨t, ht, hs⟩ := Option.bind_eq_some_iff.mp hs
      split at hs
      · next hpc => exact absurd (.inr (.inl hpc)) (h.tasks t (hmem ht)).2
      · cases hs
  | probed i ok =>
      obtain rfl : ok = true := ha
      obtain ⟨t, ht, hs⟩ := Option.bind_eq_some_iff.mp hs
      split at hs
      · next target hpc =>
          obtain rfl := Option.some.inj hs
          -- the probe is about another object
          rcases endProbe_true s i t target with ⟨n, q, rfl, hq, heq⟩ | ⟨-, heq⟩
          · have hn : name ≠ n := by
              rintro rfl
              exact (h.tasks t (hmem ht)).2 (.inr (.inr hpc))
            obtain ⟨p, hget, hp⟩ := h.unavailable
            have hstuck : Stuck name (s.setProxy n (q.endCheck true).2) :=
              ⟨⟨p, by rw [getProxy_setProxy, if_neg hn, hget], hp⟩, h.tasks⟩
            rw [heq]
            exact hstuck.setPc_serving (hmem ht) i
          · rw [heq]
            exact h.setPc_serving (hmem ht) i
      · cases hs
  | finish i =>
      obtain ⟨t, ht, hs⟩ := Option.bind_eq_some_iff.mp hs
      split at hs
      · obtain rfl := Option.some.inj hs
        rw [endTask, if_neg (by simp [(h.tasks t (hmem ht)).1])]
        exact ⟨h.unavailable, fun u hu ↦ h.tasks u (List.mem_of_mem_eraseIdx hu)⟩
      · cases hs
  | register config => exact absurd ha id
  | unregister n => exact absurd ha id

/-- A stuck session stays so in every calm continuation. -/
theorem Stuck.of_run (hname : name ≠ "") (h : Stuck name s) {as : List WorkAction}
    (hcalm : ∀ a ∈ as, Calm name a) (hrun : run step s as = some s') : Stuck name s' :=
  along_invariant (fun _ _ _ hstuck hok hs ↦ hstuck.of_step hname hok hs)
    (along_of_forall hcalm) hrun h

/-! ### The pool -/

/-- The number of tasks of the pool. -/
def pooled (s : Workers) : Nat := s.tasks.countP (·.pooled)

theorem pooled_setPc (ht : s.tasks[i]? = some t) (pc : TaskPc) :
    (s.setPc i t pc).pooled = s.pooled := by
  have hcount := countP_set_add (b := { t with pc := pc }) ht (·.pooled)
  exact Nat.add_right_cancel hcount

theorem pooled_endTask (ht : s.tasks[i]? = some t) : (s.endTask i t).pooled = s.pooled := by
  rw [endTask]
  split
  · exact pooled_setPc ht _
  · next hpooled =>
      obtain ⟨hlt, hi⟩ := List.getElem?_eq_some_iff.mp ht
      have hold := (List.getElem_cons_eraseIdx_perm hlt).countP_eq (·.pooled)
      rw [List.countP_cons, hi, if_neg hpooled, Nat.add_zero] at hold
      exact hold

theorem pooled_startTask (ht : s.tasks[i]? = some t) (msg : StartWorkConnMsg) :
    (s.startTask i t msg).pooled = s.pooled := by
  rw [startTask]
  split
  · exact pooled_endTask ht
  · split
    · exact pooled_endTask ht
    · exact pooled_endTask ht
    · exact pooled_setPc ht _
    · split
      · exact pooled_setPc ht _
      · exact pooled_endTask ht
      · exact pooled_setPc (s := s.setProxy _ _) ht _

theorem pooled_endProbe (ht : s.tasks[i]? = some t) (target : Option String) (ok : Bool) :
    (s.endProbe i t target ok).pooled = s.pooled := by
  rw [endProbe]
  split
  · split
    · exact pooled_setPc (s := s.setProxy _ _) ht _
    · exact pooled_endTask (s := s.setProxy _ _) ht
  · split
    · exact pooled_setPc ht _
    · exact pooled_endTask ht

theorem pooled_forget (tasks : List Task) (n : String) :
    (tasks.map (Task.forget n)).countP (·.pooled) = tasks.countP (·.pooled) := by
  rw [List.countP_map]
  refine List.countP_congr fun t _ ↦ ?_
  rw [Function.comp_apply, Task.forget]
  split <;> rfl

/-- Tasks of the pool neither come nor go. -/
theorem pooled_step {a : WorkAction} (hs : step s a = some s') : s'.pooled = s.pooled := by
  cases a with
  | tick d => exact Option.some.inj hs ▸ rfl
  | reqWorkConn n =>
      obtain rfl := Option.some.inj hs
      split
      · exact List.countP_append.trans (Nat.add_zero _)
      · rfl
  | connect i =>
      obtain ⟨t, ht, hs⟩ := Option.bind_eq_some_iff.mp hs
      split at hs
      · exact Option.some.inj hs ▸ pooled_setPc ht _
      · cases hs
  | fail i =>
      obtain ⟨t, ht, hs⟩ := Option.bind_eq_some_iff.mp hs
      split at hs
      · exact Option.some.inj hs ▸ pooled_endTask ht
      · cases hs
  | startWorkConn i msg =>
      obtain ⟨t, ht, hs⟩ := Option.bind_eq_some_iff.mp hs
      split at hs
      · exact Option.some.inj hs ▸ pooled_startTask ht msg
      · cases hs
  | probed i ok =>
      obtain ⟨t, ht, hs⟩ := Option.bind_eq_some_iff.mp hs
      split at hs
      · exact Option.some.inj hs ▸ pooled_endProbe ht _ ok
      · cases hs
  | finish i =>
      obtain ⟨t, ht, hs⟩ := Option.bind_eq_some_iff.mp hs
      split at hs
      · exact Option.some.inj hs ▸ pooled_endTask ht
      · cases hs
  | register config => exact Option.some.inj hs ▸ pooled_forget _ _
  | unregister n => exact Option.some.inj hs ▸ pooled_forget _ _

/-- A session has as many tasks of the pool as were configured, in every state. -/
theorem pooled_of_run {pm : ProxyManager} {runId : String} {hset : isBlank runId = false}
    {now : Nat} {poolCount : UInt32} {as : List WorkAction}
    (hrun : run step (start pm runId hset now poolCount) as = some s) :
    s.pooled = poolCount.toNat := by
  have hstart : (start pm runId hset now poolCount).pooled = poolCount.toNat :=
    (List.countP_eq_length.mpr (by simp [start])).trans (by simp [start])
  exact run_invariant
    (fun _ _ _ hinv hs ↦ (pooled_step hs).trans hinv) hrun hstart

/-- In every state of a session: a calm continuation in which the server asks for work
connections of a TCP proxy can make the proxy available if and only if it is so
already, or there is a pool, or some task may still come to check it, or the name of
the proxy is empty. -/
theorem recovers_iff {pm : ProxyManager} {runId : String} {hset : isBlank runId = false}
    {now : Nat} {poolCount : UInt32} {as : List WorkAction}
    (hrun : run step (start pm runId hset now poolCount) as = some s)
    (hget : s.pm.getProxy name = some (.tcp p)) :
    (∃ bs s', run step s bs = some s' ∧ (∀ b ∈ bs, Calm name b) ∧
      WorkAction.reqWorkConn name ∈ bs ∧ s'.pm.isProxyAvailable name = true) ↔
    s.pm.isProxyAvailable name = true ∨ 0 < poolCount.toNat ∨ (∃ t ∈ s.tasks, t.Pending name) ∨
      name = "" := by
  have hpool := pooled_of_run hrun
  constructor
  · rintro ⟨bs, s', hbs, hcalm, -, havailable⟩
    by_contra hnot
    simp only [not_or] at hnot
    obtain ⟨hunavailable, hnone, hpending, hname⟩ := hnot
    rw [isProxyAvailable_eq hget, Bool.not_eq_true] at hunavailable
    have hstuck : Stuck name s := by
      refine ⟨⟨p, hget, hunavailable⟩, fun t ht ↦ ⟨?_, fun hp ↦ hpending ⟨t, ht, hp⟩⟩⟩
      have hzero : s.pooled = 0 := by omega
      simpa using List.countP_eq_zero.mp hzero t ht
    rw [(hstuck.of_run hname hcalm hbs).isProxyAvailable] at havailable
    cases havailable
  · intro hcond
    -- the request itself comes first; it adds a task at most
    obtain ⟨s₁, hs₁, hpm, htasks, hempty⟩ := step_reqWorkConn s name
    have hget₁ : s₁.pm.getProxy name = some (.tcp p) := hpm ▸ hget
    have hrecover : CanRecover name s₁ := by
      rcases hcond with havailable | hcount | ⟨t, ht, hpending⟩ | rfl
      · exact .of_available (hpm ▸ havailable)
      · obtain ⟨t, ht, hpooled⟩ := List.countP_pos_iff.mp (hpool ▸ hcount : 0 < s.pooled)
        obtain ⟨i, hi⟩ := List.mem_iff_getElem?.mp (htasks.subset ht)
        exact canRecover_of_task hget₁ hi (.inl hpooled)
      · obtain ⟨i, hi⟩ := List.mem_iff_getElem?.mp (htasks.subset ht)
        exact canRecover_of_task hget₁ hi (.inr hpending)
      · obtain ⟨i, hi⟩ := List.mem_iff_getElem?.mp (hempty rfl)
        exact canRecover_of_task hget₁ hi (.inr (.inl rfl))
    obtain ⟨bs, s', hbs, hcalm, havailable⟩ := hrecover
    exact ⟨.reqWorkConn name :: bs, s', (run_cons_eq_some step).mpr ⟨s₁, hs₁, hbs⟩,
      List.forall_mem_cons.mpr ⟨rfl, hcalm⟩, List.mem_cons_self, havailable⟩

/-! ## A proxy that failed once -/

/-- A TCP proxy that is ejected after one failed probe. -/
def checkedProxy : TcpProxy where
  name := "web"
  localIp := "127.0.0.1"
  localPort := 8080
  tcpMux := false
  stcp := false
  secret := ""
  healthCheckEnable := true
  healthCheckTimeout := 2
  healthCheckInterval := 10
  healthCheckMaxFailed := 1
  health := ⟨0, 0, true⟩

theorem isBlank_run1 : isBlank "run-1" = false := by decide

/-- A session with that proxy, an hour later. -/
def checkedSession (poolCount : UInt32) : Workers :=
  start ⟨(∅ : Table String ClientProxy).insert "web" (.tcp checkedProxy)⟩ "run-1" isBlank_run1
    (3600 * second) poolCount

/-- The session after the endpoint was away for one probe. -/
def ejectedSession : Workers :=
  { checkedSession 0 with
    pm := ⟨(∅ : Table String ClientProxy).insert "web"
      (.tcp { checkedProxy with health := ⟨3600 * second, 1, false⟩ })⟩ }

/-- Without a pool, a proxy whose endpoint was away for one probe is never available
again. -/
theorem never_recovers :
    run step (checkedSession 0) [.reqWorkConn "web", .connect 0,
        .startWorkConn 0 ⟨"web", "", "", ""⟩, .probed 0 false] = some ejectedSession ∧
      ¬ ∃ bs s', run step ejectedSession bs = some s' ∧ (∀ b ∈ bs, Calm "web" b) ∧
        WorkAction.reqWorkConn "web" ∈ bs ∧ s'.pm.isProxyAvailable "web" = true := by
  refine ⟨rfl, ?_⟩
  rintro ⟨bs, s', hrun, hcalm, -, havailable⟩
  have hstuck : Stuck "web" ejectedSession := by
    refine ⟨⟨_, rfl, rfl⟩, fun t ht ↦ ?_⟩
    cases ht
  rw [(hstuck.of_run (by decide) hcalm hrun).isProxyAvailable] at havailable
  cases havailable

/-- With a pool of one: the same probe fails, and the task that made it recovers the
proxy. -/
theorem recovers_with_pool :
    ∃ s, run step (checkedSession 1) [.connect 0, .startWorkConn 0 ⟨"web", "", "", ""⟩,
        .probed 0 false] = some s ∧ s.pm.isProxyAvailable "web" = false ∧
      ∃ bs s', run step s bs = some s' ∧ (∀ b ∈ bs, Calm "web" b) ∧
        WorkAction.reqWorkConn "web" ∈ bs ∧ s'.pm.isProxyAvailable "web" = true := by
  refine ⟨_, rfl, rfl, ?_⟩
  have hrun : run step (checkedSession 1) [.connect 0, .startWorkConn 0 ⟨"web", "", "", ""⟩,
    .probed 0 false] = some _ := rfl
  exact (recovers_iff hrun rfl).mpr (.inr (.inl (by decide)))

end Workers

end Arp.Client
