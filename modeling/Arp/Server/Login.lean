import Arp.Common.Auth
import Arp.Lib.Table
import Arp.Server.WorkConn

/-!
# Logins and work connections

A client logs in with its timestamp signed under a token, and gets a run id; its work
connections come with the run id, signed.  The service keeps the token of a run in the
run's control, but checks the signature of a work connection against every token it
knows before it looks for the control.

The main result: sessions are isolated from each other in every run of the service
exactly when there is only one token to know.
-/

namespace Arp.Server.Login

open Arp.Common Arp.Lib Arp.Lib.Text Arp.Lib.Machine

/-- `Control`: the token its client was matched with at login, and its work connections.
The login message is kept to say whose session this is. -/
structure Control where
  login : LoginMsg
  privilegeKey : String
  workConns : WorkConn.State

/-- `Control::handle_work_conn`, up to the hand-over: the connection answers the oldest
request or is kept. -/
def Control.handleWorkConn (control : Control) : Control :=
  { control with workConns := (WorkConn.step control.workConns .workConn).getD control.workConns }

/-- The part of `Service` that logins and work connections touch. -/
structure Service where
  authenticator : TokenAuth
  controls : Table String Control

/-- A service that has just started. -/
def start (authenticator : TokenAuth) : Service := ⟨authenticator, ∅⟩

section Service

variable (hmac : List UInt8 → List UInt8 → List UInt8)

/-- `Service::handle_login` up to the start of the control's loop, at the server time
`now`.  The run id is a new UUID, and `sent` is the outcome of sending the answer. -/
def handleLogin (s : Service) (now : Int64) (msg : LoginMsg) (runId : String) (sent : Result Unit) :
    Result Unit × Service :=
  match s.authenticator.verifyLogin hmac now msg with
  | .error e => (.error e, s)
  | .ok matchedToken =>
    match sent with
    | .error e => (.error e, s)
    | .ok () => (.ok (), { s with controls := s.controls.insert runId ⟨msg, matchedToken, .new⟩ })

/-- `Service::handle_new_work_conn`, up to the hand-over. -/
def handleNewWorkConn (s : Service) (msg : NewWorkConnMsg) : Result Unit × Service :=
  if isBlank msg.runId then (.error (.protocol "Empty run_id in NewWorkConn"), s)
  else
    match s.authenticator.verifyNewWorkConn hmac msg with
    | .error e => (.error e, s)
    | .ok () =>
      match s.controls.lookup msg.runId with
      | none => (.error (.protocol ("Unknown run_id: " ++ msg.runId)), s)
      | some control =>
        (.ok (), { s with controls := s.controls.insert msg.runId control.handleWorkConn })

/-- What can happen next. -/
inductive Event where
  | login (now : Int64) (msg : LoginMsg) (runId : String) (sent : Result Unit)
  | newWorkConn (msg : NewWorkConnMsg)
  /-- The control of a run serves its requests. -/
  | serve (runId : String) (e : WorkConn.Event)
  /-- The session of a run ends. -/
  | leave (runId : String)

/-- One event.  A new UUID is not blank and not in use. -/
def step (s : Service) : Event → Option Service
  | .login now msg runId sent =>
    if isBlank runId = true ∨ runId ∈ s.controls then none
    else some (handleLogin hmac s now msg runId sent).2
  | .newWorkConn msg => some (handleNewWorkConn hmac s msg).2
  | .serve runId e =>
    if e = .workConn then none
    else
      (s.controls.lookup runId).bind fun control ↦
        (WorkConn.step control.workConns e).map fun workConns ↦
          { s with controls := s.controls.insert runId { control with workConns := workConns } }
  | .leave runId => some { s with controls := s.controls.erase runId }

/-! ## Isolation -/

/-- The message hands a connection to the control of a run: one more call of
`handle_work_conn` is on its books. -/
def Hands (s : Service) (msg : NewWorkConnMsg) (runId : String) : Prop :=
  ∃ control control', s.controls.lookup runId = some control ∧
    (handleNewWorkConn hmac s msg).2.controls.lookup runId = some control' ∧
    control'.workConns.calls.length = control.workConns.calls.length + 1

/-- The key is the signature of the run id under the token that signed the login of the
run. -/
def Vouched (s : Service) (runId key : String) : Prop :=
  ∃ control t, s.controls.lookup runId = some control ∧
    control.login.privilegeKey = AuthSigner.sign hmac t (i64Text control.login.timestamp) ∧
    key = AuthSigner.sign hmac t runId

/-- Whoever hands a connection to a run knows the token of that run. -/
def Isolated (s : Service) : Prop :=
  ∀ msg runId, Hands hmac s msg runId → Vouched hmac s runId msg.privilegeKey

variable {hmac}

theorem calls_handleWorkConn (control : Control) :
    control.handleWorkConn.workConns.calls.length = control.workConns.calls.length + 1 := by
  unfold Control.handleWorkConn WorkConn.step
  dsimp only
  split <;> simp

/-- What an accepted work connection comes to. -/
theorem handleNewWorkConn_of_signed {s : Service} {runId t : String} {control : Control}
    (hrun : isBlank runId = false) (hcontrol : s.controls.lookup runId = some control)
    (ht : t ∈ s.authenticator.tokens) :
    handleNewWorkConn hmac s ⟨runId, AuthSigner.sign hmac t runId⟩ =
      (.ok (), { s with controls := s.controls.insert runId control.handleWorkConn }) := by
  have hverify : s.authenticator.verifyNewWorkConn hmac ⟨runId, AuthSigner.sign hmac t runId⟩ =
      .ok () := (TokenAuth.verifyNewWorkConn_eq_ok hmac).mpr ⟨t, ht, rfl⟩
  simp [handleNewWorkConn, hrun, hverify, hcontrol]

variable (hmac) in
/-- A message either changes nothing, or is signed under a known token and handed to the
run it names. -/
theorem handleNewWorkConn_cases (s : Service) (msg : NewWorkConnMsg) :
    (handleNewWorkConn hmac s msg).2 = s ∨
    ∃ control, ∃ t ∈ s.authenticator.tokens, AuthSigner.sign hmac t msg.runId = msg.privilegeKey ∧
      s.controls.lookup msg.runId = some control ∧
      (handleNewWorkConn hmac s msg).2 =
        { s with controls := s.controls.insert msg.runId control.handleWorkConn } := by
  unfold handleNewWorkConn
  split
  · exact .inl rfl
  · split
    · exact .inl rfl
    · next hverify =>
        split
        · exact .inl rfl
        · next control hcontrol =>
            obtain ⟨t, ht, hsign⟩ := (TokenAuth.verifyNewWorkConn_eq_ok hmac).mp hverify
            exact .inr ⟨control, t, ht, hsign, hcontrol, rfl⟩

/-- Only a message with a signature under a known token hands a connection over. -/
theorem Hands.signed {s : Service} {msg : NewWorkConnMsg} {runId : String}
    (h : Hands hmac s msg runId) :
    msg.runId = runId ∧ ∃ t ∈ s.authenticator.tokens,
      AuthSigner.sign hmac t runId = msg.privilegeKey := by
  obtain ⟨control, control', hbefore, hafter, hcalls⟩ := h
  rcases handleNewWorkConn_cases hmac s msg with
    hsame | ⟨handed, t, ht, hsign, hlookup, heq⟩
  · rw [hsame, hbefore] at hafter
    obtain rfl := Option.some.inj hafter
    omega
  · by_cases hrun : runId = msg.runId
    · subst hrun
      exact ⟨rfl, t, ht, hsign⟩
    · rw [heq, Table.lookup_insert_ite, if_neg hrun, hbefore] at hafter
      obtain rfl := Option.some.inj hafter
      omega

/-! ## Every session belongs to a known token -/

variable (hmac) in
/-- The authenticator is the given one, and every control logged in under one of its
tokens, which is the one it keeps. -/
structure Genuine (auth : TokenAuth) (s : Service) : Prop where
  authenticator : s.authenticator = auth
  login : ∀ runId control, s.controls.lookup runId = some control →
    control.privilegeKey ∈ auth.tokens ∧ control.login.privilegeKey =
      AuthSigner.sign hmac control.privilegeKey (i64Text control.login.timestamp)

theorem genuine_start (auth : TokenAuth) : Genuine hmac auth (start auth) where
  authenticator := rfl
  login _ _ h := by cases h

/-- A control that changes its work connections only is as genuine as before. -/
theorem Genuine.insert {auth : TokenAuth} {s : Service} (h : Genuine hmac auth s)
    {runId : String} {control control' : Control}
    (hcontrol : s.controls.lookup runId = some control) (hlogin : control'.login = control.login)
    (hkey : control'.privilegeKey = control.privilegeKey) :
    Genuine hmac auth { s with controls := s.controls.insert runId control' } where
  authenticator := h.authenticator
  login k c hc := by
    rw [Table.lookup_insert_ite] at hc
    split at hc
    · obtain rfl := Option.some.inj hc
      rw [hlogin, hkey]
      exact h.login runId control hcontrol
    · exact h.login k c hc

theorem genuine_login {auth : TokenAuth} {s : Service} (h : Genuine hmac auth s)
    (now : Int64) (msg : LoginMsg) (runId : String) (sent : Result Unit) :
    Genuine hmac auth (handleLogin hmac s now msg runId sent).2 := by
  unfold handleLogin
  split
  · exact h
  · next token hverify =>
      split
      · exact h
      · obtain ⟨hmem, hsign⟩ := TokenAuth.verifyLogin_eq_ok hmac hverify
        refine ⟨h.authenticator, fun k c hc ↦ ?_⟩
        rw [Table.lookup_insert_ite] at hc
        split at hc
        · obtain rfl := Option.some.inj hc
          exact ⟨h.authenticator ▸ hmem, hsign.symm⟩
        · exact h.login k c hc

theorem genuine_step (auth : TokenAuth) (s : Service) (e : Event) (t : Service)
    (h : Genuine hmac auth s) (ht : step hmac s e = some t) :
    Genuine hmac auth t := by
  cases e with
  | login now msg runId sent =>
      simp only [step] at ht
      split at ht
      · cases ht
      · obtain rfl := Option.some.inj ht
        exact genuine_login h now msg runId sent
  | newWorkConn msg =>
      obtain rfl := Option.some.inj ht
      rcases handleNewWorkConn_cases hmac s msg with
        hsame | ⟨control, -, -, -, hcontrol, heq⟩
      · rw [hsame]
        exact h
      · rw [heq]
        exact h.insert hcontrol rfl rfl
  | serve runId e =>
      simp only [step] at ht
      split at ht
      · cases ht
      · obtain ⟨control, hcontrol, hmap⟩ := Option.bind_eq_some_iff.mp ht
        obtain ⟨workConns, -, rfl⟩ := Option.map_eq_some_iff.mp hmap
        exact h.insert hcontrol rfl rfl
  | leave runId =>
      obtain rfl := Option.some.inj ht
      refine ⟨h.authenticator, fun k c hc ↦ h.login k c ?_⟩
      rw [Table.lookup_erase_ite] at hc
      split at hc
      · cases hc
      · exact hc

/-! ## One token -/

/-- A login signed under a token at the start of time. -/
def loginWith (hmac : List UInt8 → List UInt8 → List UInt8) (t : String) : LoginMsg where
  version := ""
  hostname := ""
  os := ""
  arch := ""
  user := ""
  clientId := ""
  timestamp := 0
  privilegeKey := AuthSigner.sign hmac t (i64Text 0)
  runId := ""
  poolCount := 0

/-- Whoever knows a token can log in with it. -/
theorem verifyLogin_loginWith (hinj : ∀ m, Function.Injective fun k ↦ hmac k m)
    {auth : TokenAuth} {t : String} (ht : t ∈ auth.tokens) :
    auth.verifyLogin hmac 0 (loginWith hmac t) = .ok t := by
  have hfound := @TokenAuth.findMatchingToken_isSome hmac auth (i64Text 0) t ht
  obtain ⟨t', ht'⟩ := Option.isSome_iff_exists.mp hfound
  obtain ⟨-, hsign⟩ := TokenAuth.findMatchingToken_some hmac ht'
  obtain rfl := AuthSigner.sign_inj hmac hinj hsign
  refine TokenAuth.verifyLogin_ok hmac (if_neg ?_) ht' fun rule _ ↦ if_neg ?_
  · simp only [loginWith]
    decide
  · rintro ⟨-, hpool⟩
    exact absurd hpool (by simp [loginWith])

/-- Sessions are isolated in every run of the service exactly when all tokens it knows
are the same. -/
theorem isolated_iff_one_token (hinj : ∀ m, Function.Injective fun k ↦ hmac k m)
    (auth : TokenAuth) :
    (∀ events s, run (step hmac) (start auth) events = some s → Isolated hmac s) ↔
      ∀ t ∈ auth.tokens, ∀ t' ∈ auth.tokens, t = t' := by
  constructor
  · intro h t ht t' ht'
    -- The holder of one token logs in, the holder of the other brings a connection.
    let control : Control := ⟨loginWith hmac t, t, .new⟩
    let s : Service := ⟨auth, (∅ : Table String Control).insert "run" control⟩
    have hrun : run (step hmac) (start auth) [.login 0 (loginWith hmac t) "run" (.ok ())] =
        some s := by
      simp only [run, step, handleLogin, start, verifyLogin_loginWith hinj ht]
      rfl
    have hcontrol : s.controls.lookup "run" = some control := AList.lookup_insert _
    have hhands : Hands hmac s ⟨"run", AuthSigner.sign hmac t' "run"⟩ "run" := by
      refine ⟨control, control.handleWorkConn, hcontrol, ?_, calls_handleWorkConn control⟩
      rw [handleNewWorkConn_of_signed (by decide) hcontrol ht']
      exact AList.lookup_insert _
    obtain ⟨control', t'', hlookup, hlogin, hkey⟩ := h _ s hrun _ _ hhands
    obtain rfl := Option.some.inj (hcontrol.symm.trans hlookup)
    rw [AuthSigner.sign_inj hmac hinj hlogin, AuthSigner.sign_inj hmac hinj hkey]
  · intro h events s hrun msg runId hhands
    have hgenuine := run_invariant (genuine_step auth) hrun (genuine_start auth)
    obtain ⟨rfl, t, ht, hsign⟩ := hhands.signed
    obtain ⟨control, -, hcontrol, -⟩ := hhands
    obtain ⟨hmem, hlogin⟩ := hgenuine.login _ control hcontrol
    rw [hgenuine.authenticator] at ht
    refine ⟨control, control.privilegeKey, hcontrol, hlogin, ?_⟩
    rw [← hsign, h t ht _ hmem]

end Service

open TokenAuth (sampleHmac sampleHmac_injective)

/-- A login at 1700000000, signed with the main token. -/
def rootLogin : LoginMsg :=
  { loginWith sampleHmac "root-token" with
    timestamp := 1700000000
    privilegeKey := AuthSigner.sign sampleHmac "root-token" "1700000000" }

/-- A service after the holder of the main token has logged in as `run-1`. -/
def withRootSession (additionalTokens : List String) : Service where
  authenticator := ⟨"root-token", additionalTokens, []⟩
  controls := (∅ : Table String Control).insert "run-1" ⟨rootLogin, "root-token", .new⟩

theorem isolated_root_only : Isolated sampleHmac (withRootSession []) :=
  (isolated_iff_one_token sampleHmac_injective ⟨"root-token", [], []⟩).mpr (by decide)
    [.login 1700000000 rootLogin "run-1" (.ok ())] _ rfl

/-- The holder of an additional token hands a connection to the session of the main
token. -/
theorem other_tenant_hands_connection :
    run (step sampleHmac) (start ⟨"root-token", ["extra-token"], []⟩)
        [.login 1700000000 rootLogin "run-1" (.ok ())] = some (withRootSession ["extra-token"]) ∧
      Hands sampleHmac (withRootSession ["extra-token"])
        ⟨"run-1", AuthSigner.sign sampleHmac "extra-token" "run-1"⟩ "run-1" ∧
      ¬ Vouched sampleHmac (withRootSession ["extra-token"]) "run-1"
        (AuthSigner.sign sampleHmac "extra-token" "run-1") := by
  refine ⟨rfl, ⟨_, _, rfl, rfl, rfl⟩, ?_⟩
  rintro ⟨control, t, hlookup, hlogin, hkey⟩
  obtain rfl := Option.some.inj hlookup
  have hroot : "root-token" = t := AuthSigner.sign_inj sampleHmac sampleHmac_injective hlogin
  have hextra : "extra-token" = t := AuthSigner.sign_inj sampleHmac sampleHmac_injective hkey
  exact absurd (hroot.trans hextra.symm) (by decide)

end Arp.Server.Login
