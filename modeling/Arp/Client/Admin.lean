import Arp.Client.Service

/-!
# The session the admin API acts on

An admin server serves every request with the `Control` it was started with, for as long as it
listens and for as long as its connections last.  Nothing stops it when the message loop of
that `Control` ends, and the server of the next session cannot bind the address meanwhile.

The main result says what would be needed for every request to be served with the `Control`
whose message loop runs: nobody connects to the server before the loop has started, and the
server is gone before the loop ends.
-/

namespace Arp.Client.Service

open Arp.Common Arp.Lib Arp.Lib.Machine

open Commands (LoopPc)

/-! ## One session -/

namespace Session

variable {config : ClientConfig} {seenAs : String → String} {s t : Session} {e : SessionEvent}

/-- A session whose message loop has ended does not start another. -/
theorem over_step (hover : s.control.loop.over = true) (h : s.step config seenAs e = some t) :
    t.control.loop.over = true := by
  cases steps_of_step h with
  | login resp hstart => exact hover
  | fail err hstart => rfl
  | waits proxy rest hstart => exact hover
  | registers msg now proxy rest hstart => exact hover
  | started commands hstart hstep => exact (Commands.loopMoves_of_step hstep).over hover
  | commands e commands hadmits hstep => exact (Commands.loopMoves_of_step hstep).over hover
  | loopFails err commands hserving hstep => exact (Commands.loopMoves_of_step hstep).over hover
  | listens admin conns hadmin hconns => exact hover
  | serves h =>
      obtain ⟨calls, hcalls⟩ := h.exists_calls
      rw [hcalls]
      exact hover

/-- A message loop that has left the start-up is not in it again. -/
theorem starting_of_step (h : s.step config seenAs e = some t)
    (hstarting : t.control.loop = .starting) : s.control.loop = .starting := by
  cases steps_of_step h with
  | login resp hstart => exact hstarting
  | fail err hstart => cases hstarting
  | waits proxy rest hstart => exact hstarting
  | registers msg now proxy rest hstart => exact hstarting
  | started commands hstart hstep => exact (Commands.loopMoves_of_step hstep).starting hstarting
  | commands e commands hadmits hstep => exact (Commands.loopMoves_of_step hstep).starting hstarting
  | loopFails err commands hserving hstep =>
      exact (Commands.loopMoves_of_step hstep).starting hstarting
  | listens admin conns hadmin hconns => exact hstarting
  | serves h =>
      obtain ⟨calls, hcalls⟩ := h.exists_calls
      rw [hcalls] at hstarting
      exact hstarting

/-- A step with which the admin server begins to listen. -/
def listens : SessionEvent → Bool
  | .bind true => true
  | _ => false

/-- A step with which the admin server gets a connection. -/
def accepts : SessionEvent → Bool
  | .accept => true
  | _ => false

/-- The admin server does not begin to listen after the message loop has ended, nobody connects to
it before the loop has started, and neither does the start-up fail nor the loop end while it listens
or has a connection. -/
def Kept (config : ClientConfig) (seenAs : String → String) (s : Session) (e : SessionEvent) :
    Prop :=
  (listens e = true → s.control.loop.over = false) ∧
    (accepts e = true → s.control.loop ≠ .starting) ∧
    ∀ t ∈ s.step config seenAs e, t.control.loop.over = true →
      s.control.loop.over = true ∨ s.admin ≠ .listening ∧ s.conns = 0

instance (s : Session) (e : SessionEvent) : Decidable (s.Kept config seenAs e) :=
  inferInstanceAs (Decidable (_ ∧ _ ∧ _))

/-- The admin server listens or has a connection only while the session lasts, and has one only
after the message loop has started. -/
structure Sound (s : Session) : Prop where
  lasting : s.admin = .listening ∨ 0 < s.conns → s.control.loop.over = false
  begun : 0 < s.conns → s.control.loop ≠ .starting

theorem Sound.running (hs : s.Sound) (hopen : 0 < s.conns) : s.control.loop.running = true := by
  have hlasting := hs.lasting (.inr hopen)
  have hbegun := hs.begun hopen
  cases hloop : s.control.loop with
  | starting => exact absurd hloop hbegun
  | serving | sending i => rfl
  | ending | endingProxy | ended => cases hloop ▸ hlasting

theorem sound_new : (Session.new config).Sound where
  lasting _ := rfl
  begun hopen := by cases hopen

/-- What listens after a step has listened before, unless it begins with the step. -/
theorem live_of_step (h : s.step config seenAs e = some t)
    (hlive : t.admin = .listening ∨ 0 < t.conns) :
    (s.admin = .listening ∨ 0 < s.conns) ∨ e = .bind true := by
  cases steps_of_step h with
  | listens admin conns hadmin hconns =>
      rcases hlive with hlistening | hopen
      · exact (hadmin hlistening).imp_left .inl
      · exact .inl ((hconns hopen).symm.imp_left And.left)
  | serves h =>
      rw [h.admin, h.conns] at hlive
      exact .inl hlive
  | _ => exact .inl hlive

/-- A connection after a step was there before, or is made by the step. -/
theorem open_of_step (h : s.step config seenAs e = some t) (hopen : 0 < t.conns) :
    0 < s.conns ∨ e = .accept := by
  cases steps_of_step h with
  | listens admin conns hadmin hconns => exact (hconns hopen).imp_right And.right
  | serves h =>
      rw [h.conns] at hopen
      exact .inl hopen
  | _ => exact .inl hopen

theorem sound_step (hs : s.Sound) (hkept : s.Kept config seenAs e)
    (h : s.step config seenAs e = some t) : t.Sound := by
  obtain ⟨hlistens, haccepts, hends⟩ := hkept
  constructor
  · intro hlive
    refine Bool.eq_false_iff.mpr fun hover ↦ ?_
    rcases live_of_step h hlive with hlive | rfl
    · -- The server was there already, so the step does not end the session.
      rcases hends t h hover with hover | ⟨hadmin, hconns⟩
      · cases (hs.lasting hlive).symm.trans hover
      · exact hlive.elim hadmin (hconns ▸ Nat.lt_irrefl 0)
    · simp only [step] at h
      split at h
      · obtain rfl := Option.some.inj h
        cases (hlistens rfl).symm.trans hover
      · cases h
  · intro hopen hstarting
    have hbefore := starting_of_step h hstarting
    rcases open_of_step h hopen with hopen | rfl
    · exact hs.begun hopen hbefore
    · exact haccepts rfl hbefore

end Session

/-! ## All sessions -/

variable {seenAs : String → String} {s t : Service}

/-- The condition on the steps of each session. -/
def Kept (seenAs : String → String) (s : Service) : Event → Prop
  | .session k e => ∀ session ∈ s.sessions[k]?, session.Kept s.config seenAs e
  | .connected _ | .wake | .finished => True

instance (s : Service) : ∀ e, Decidable (Kept seenAs s e)
  | .session k e =>
    inferInstanceAs (Decidable (∀ session ∈ s.sessions[k]?, session.Kept s.config seenAs e))
  | .connected _ | .wake | .finished => .isTrue trivial

/-- The message loops of all sessions but the latest have ended, and that of the latest too
unless the service is in it. -/
def Succeeded (s : Service) : Prop :=
  ∀ k session, s.sessions[k]? = some session → session.control.loop.over = false →
    s.phase = .running ∧ k + 1 = s.sessions.length

theorem succeeded_step {e : Event} (hs : Succeeded s) (h : step seenAs s e = some t) :
    Succeeded t := by
  cases turns_of_step h with
  | pauses phase retryCount hphase hover =>
      -- The loop of the latest session is over by then, so none runs.
      intro k session hk hgoes
      obtain ⟨hrunning, hlast⟩ := hs k session hk hgoes
      have hsession : s.sessions.getLast? = some session := by
        rw [List.getLast?_eq_getElem?, ← hlast, Nat.add_sub_cancel]
        exact hk
      rw [hover hrunning session hsession] at hgoes
      cases hgoes
  | connects hphase =>
      intro k session hk hgoes
      rcases eq_or_of_getElem?_concat hk with ⟨rfl, -⟩ | hold
      · exact ⟨rfl, by rw [List.length_append, List.length_singleton]⟩
      · obtain ⟨hrunning, -⟩ := hs k session hold hgoes
        cases hphase.symm.trans hrunning
  | session k e session session' hk hstep =>
      intro j other hj hgoes
      rw [List.length_set]
      rcases eq_or_of_getElem?_set hj with ⟨rfl, rfl⟩ | ⟨-, hold⟩
      · refine hs j session hk (Bool.eq_false_iff.mpr fun hover ↦ ?_)
        rw [Session.over_step hover hstep] at hgoes
        cases hgoes
      · exact hs j other hold hgoes

/-- Both invariants, along every run that keeps to the condition. -/
theorem sound_of_kept {isIpAddr : String → Bool} {file : Result ClientConfig} {es : List Event}
    (hmain : main isIpAddr file = .ok s) (hkept : Along (step seenAs) (Kept seenAs) s es)
    (hrun : run (step seenAs) s es = some t) :
    Succeeded t ∧ ∀ session ∈ t.sessions, session.Sound := by
  have hstep : ∀ s e t, (Succeeded s ∧ ∀ session ∈ s.sessions, session.Sound) →
      Kept seenAs s e → step seenAs s e = some t →
      Succeeded t ∧ ∀ session ∈ t.sessions, session.Sound := by
    rintro s e t ⟨hsucceeded, hsound⟩ hkept h
    refine ⟨succeeded_step hsucceeded h, forall_sessions_step h Session.sound_new ?_ hsound⟩
    rintro k se session session' rfl hk hs hse
    exact Session.sound_step hs (hkept session hk) hse
  obtain ⟨config, -, -, rfl⟩ := main_eq_ok.mp hmain
  refine along_invariant hstep hkept hrun ⟨fun k session hk ↦ ?_, fun session hsession ↦ ?_⟩
  · cases hk
  · cases hsession

/-- A request is served over a connection of its session. -/
theorem exists_conn_of_request {k : Nat} {req : Request}
    (h : step seenAs s (.session k (.request req)) = some t) :
    ∃ session, s.sessions[k]? = some session ∧ 0 < session.conns := by
  obtain ⟨session, session', hk, hstep, -⟩ := session_of_step h
  refine ⟨session, hk, ?_⟩
  simp only [Session.step] at hstep
  split at hstep
  · next hopen => exact hopen
  · cases hstep

/-- If nobody connects to an admin server before the message loop of its session has started, and
every session lasts while its server listens or has a connection, then a request is served with
the `Control` whose message loop runs, and no other runs. -/
theorem running_of_request {isIpAddr : String → Bool} {file : Result ClientConfig}
    {es : List Event} {k : Nat} {req : Request} {t' : Service}
    (hmain : main isIpAddr file = .ok s) (hkept : Along (step seenAs) (Kept seenAs) s es)
    (hrun : run (step seenAs) s es = some t)
    (hserved : step seenAs t (.session k (.request req)) = some t') :
    ∃ session, t.sessions[k]? = some session ∧ session.control.loop.running = true ∧
      ∀ j other, t.sessions[j]? = some other → other.control.loop.running = true → j = k := by
  obtain ⟨hsucceeded, hsound⟩ := sound_of_kept hmain hkept hrun
  have hlast : ∀ j other, t.sessions[j]? = some other → other.control.loop.running = true →
      j + 1 = t.sessions.length := by
    intro j other hj hrunning
    exact (hsucceeded j other hj (LoopPc.over_of_running hrunning)).2
  obtain ⟨session, hk, hopen⟩ := exists_conn_of_request hserved
  have hrunning := (hsound session (List.mem_of_getElem? hk)).running hopen
  refine ⟨session, hk, hrunning, fun j other hj hother ↦ ?_⟩
  exact Nat.succ.inj ((hlast j other hj hother).trans (hlast k session hk hrunning).symm)

/-! ## A client with an admin server -/

/-- A client that serves the admin API and has no proxies. -/
def adminClient : ClientConfig where
  serverAddr := "gateway.example"
  serverPort := 7000
  auth := ⟨"token", "secret", [], []⟩
  transport := ⟨.tcp, false, ⟨false, "", ""⟩⟩
  adminPort := 7400
  proxies := []

/-- The start-up of a session. -/
def comesUp (k : Nat) : List Event :=
  [.session k (.loginResp ⟨"1", "run", ""⟩), .session k .started]

/-- A client whose server listens comes up, and gets a connection. -/
def serves : List Event :=
  .connected (.ok ()) :: .session 0 (.bind true) :: comesUp 0 ++ [.session 0 .accept]

/-- The request is served with the `Control` whose loop runs. -/
theorem running_of_request_serves : ∃ t t' session,
    main (fun _ ↦ false) (.ok adminClient) = .ok ⟨adminClient, [], .connecting, 0⟩ ∧
    Along (step id) (Kept id) ⟨adminClient, [], .connecting, 0⟩ serves ∧
    run (step id) ⟨adminClient, [], .connecting, 0⟩ serves = some t ∧
    step id t (.session 0 (.request (.deleteProxy "web"))) = some t' ∧
    t.sessions[0]? = some session ∧ session.control.loop.running = true := by
  have hmain : main (fun _ ↦ false) (.ok adminClient) = .ok ⟨adminClient, [], .connecting, 0⟩ := rfl
  have hkept : Along (step id) (Kept id) ⟨adminClient, [], .connecting, 0⟩ serves := by decide
  obtain ⟨t, t', hrun, hserved⟩ : ∃ t t',
      run (step id) ⟨adminClient, [], .connecting, 0⟩ serves = some t ∧
        step id t (.session 0 (.request (.deleteProxy "web"))) = some t' := ⟨_, _, rfl, rfl⟩
  obtain ⟨session, hk, hrunning, -⟩ := running_of_request hmain hkept hrun hserved
  exact ⟨t, t', session, hmain, hkept, hrun, hserved, hk, hrunning⟩

/-- Then the connection to the server is lost, and another is made. -/
def servesOn : List Event :=
  serves ++ [.session 0 (.loopFails .connectionClosed), .session 0 (.commands (.act .finishXtcp)),
    .session 0 (.commands (.act .finishProxy)), .finished, .wake, .connected (.ok ())]

/-- After the reconnect the server of the first session still listens, and that of the second
cannot bind the address.  A request to close a proxy is made of the `Control` whose message
loop has ended, while that of the second session runs. -/
theorem request_of_ended : ∃ s r t t' ended live,
    main (fun _ ↦ false) (.ok adminClient) = .ok s ∧
    run (step id) s servesOn = some r ∧ step id r (.session 1 (.bind true)) = none ∧
    run (step id) r (.session 1 (.bind false) :: comesUp 1) = some t ∧
    step id t (.session 0 (.request (.deleteProxy "web"))) = some t' ∧
    t.sessions = [ended, live] ∧ ended.control.loop = .ended ∧
    live.control.loop.running = true := by
  exact ⟨_, _, _, _, _, _, rfl, rfl, rfl, rfl, rfl, rfl, rfl, rfl⟩

end Arp.Client.Service
