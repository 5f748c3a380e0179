import Arp.Client.Control
import Arp.Lib.Machine

/-!
# Registration against the server's select loop

The control connection during start-up, as a machine with both parties on it.
The client is inside `register_proxies`; the server's `Control::run` answers
`NewProxy` messages in the order they arrive and, once a proxy is registered,
may put work-connection requests and NAT messages on the connection at any
point.  The two directions of the connection are queues; the transport may
close or fail at any time.

The client treats the next message as the answer it waits for.  The main result
says when that is sound: messages of other kinds have to be sent after the last
answer.
-/

namespace Arp.Client.Registration

open Arp.Common Arp.Lib

/-- Both parties and the connection between them. -/
structure Sys where
  client : RegisterPc
  /-- The proxies handed to the client's proxy manager, oldest first. -/
  manager : List ProxyConfig
  toServer : List Message
  toClient : List Message
  /-- The connection is closed or has failed. -/
  down : Bool
  /-- The number of proxies the server has registered for this run. -/
  registered : Nat
  /-- The number of `NewProxy` messages the server has answered. -/
  answered : Nat
  /-- Some answer of the server carried an error. -/
  refused : Bool
  /-- The messages of other kinds the server has sent. -/
  emitted : List Message
  /-- The messages the client has taken off the connection. -/
  received : List Message
  /-- The error the transport gave the client, if it did. -/
  transportError : Option Error

/-- The connection when `register_proxies` starts. -/
def start (proxies : List ProxyConfig) : Sys where
  client := .sending proxies
  manager := []
  toServer := []
  toClient := []
  down := false
  registered := 0
  answered := 0
  refused := false
  emitted := []
  received := []
  transportError := none

/-- What can happen next. -/
inductive Event where
  | clientSend
  | clientSendFails (e : Error)
  | clientReturns
  | clientRecv
  | clientRecvClosed
  | clientRecvFails (e : Error)
  | serverAnswers (remoteAddr error : String)
  | serverEmits (msg : Message)
  | close

/-- The kinds of message the server's loop sends on its own account: for a
work-connection request, and from its outbound queue. -/
def isEmitted : Message → Bool
  | .reqWorkConn _ | .natHoleClient _ | .natHoleResp _ => true
  | _ => false

/-- The client returns with an error of the transport. -/
def Sys.fail (s : Sys) (e : Error) : Sys :=
  { s with client := .returned (.error e), down := true, transportError := some e }

/-- One step of either party or of the transport. -/
def step (tcpMux : Bool) (s : Sys) : Event → Option Sys
  | .clientSend =>
    match s.client with
    | .sending (config :: rest) =>
      if s.down then none
      else some { s with
        client := .waiting config rest
        toServer := s.toServer ++ [.newProxy (newProxyMsg tcpMux config)] }
    | _ => none
  | .clientSendFails e =>
    match s.client with
    | .sending (_ :: _) => some (s.fail e)
    | _ => none
  | .clientReturns =>
    match s.client with
    | .sending [] => some { s with client := .returned (.ok ()) }
    | _ => none
  | .clientRecv =>
    match s.client, s.toClient with
    | .waiting config rest, msg :: queue => some { s with
        client := (onReply tcpMux config rest msg).1
        manager := s.manager ++ (onReply tcpMux config rest msg).2.toList
        toClient := queue
        received := s.received ++ [msg] }
    | _, _ => none
  | .clientRecvClosed =>
    match s.client, s.toClient with
    | .waiting _ _, [] => if s.down then some (s.fail .connectionClosed) else none
    | _, _ => none
  | .clientRecvFails e =>
    match s.client with
    | .waiting _ _ => some (s.fail e)
    | _ => none
  | .serverAnswers remoteAddr error =>
    match s.toServer with
    | .newProxy msg :: queue =>
      if s.down then none
      else some { s with
        toServer := queue
        toClient := s.toClient ++ [.newProxyResp ⟨msg.proxyName, remoteAddr, error⟩]
        registered := if error = "" then s.registered + 1 else s.registered
        answered := s.answered + 1
        refused := s.refused || error != "" }
    | _ => none
  | .serverEmits msg =>
    if isEmitted msg ∧ 0 < s.registered ∧ s.down = false then
      some { s with toClient := s.toClient ++ [msg], emitted := s.emitted ++ [msg] }
    else none
  | .close => some { s with down := true }

/-! ## Soundness -/

/-- Registration is sound in a state: it has failed only on an answer with an
error or on an error of the transport, and no message of another kind has been
taken off the connection. -/
structure Sound (s : Sys) : Prop where
  fails_only : ∀ e, s.client = .returned (.error e) →
    (∃ resp, .newProxyResp resp ∈ s.received ∧ resp.error ≠ "" ∧ e = .proxy resp.error) ∨
      s.transportError = some e
  kept : ∀ msg ∈ s.emitted, msg ∈ s.toClient

/-- A message of another kind is sent only when the server has answered all
`total` proxies, or one of them with an error. -/
def EmitsAfterAnswers (total : Nat) (s : Sys) : Event → Prop
  | .serverEmits _ => s.answered = total ∨ s.refused = true
  | _ => True

instance (total : Nat) (s : Sys) (e : Event) : Decidable (EmitsAfterAnswers total s e) := by
  cases e <;> unfold EmitsAfterAnswers <;> infer_instance

/-- What holds while messages of other kinds wait for the last answer.  While
the client waits, its request or the answer to it is in flight, and the answer
stands in front of whatever else was sent. -/
inductive Orderly (tcpMux : Bool) (total : Nat) (s : Sys) : Prop
  | sending (rest : List ProxyConfig) (hclient : s.client = .sending rest)
      (hserver : s.toServer = []) (hqueue : s.toClient = s.emitted)
      (hcount : s.answered + rest.length = total) (hrefused : s.refused = false)
      (hearly : rest ≠ [] → s.emitted = [])
  | asked (config : ProxyConfig) (rest : List ProxyConfig)
      (hclient : s.client = .waiting config rest)
      (hserver : s.toServer = [.newProxy (newProxyMsg tcpMux config)])
      (hqueue : s.toClient = []) (hemitted : s.emitted = [])
      (hcount : s.answered + rest.length + 1 = total) (hrefused : s.refused = false)
  | answered (config : ProxyConfig) (rest : List ProxyConfig) (resp : NewProxyRespMsg)
      (hclient : s.client = .waiting config rest) (hserver : s.toServer = [])
      (hqueue : s.toClient = .newProxyResp resp :: s.emitted)
      (hcount : s.answered + rest.length = total)
      (hrefused : s.refused = true ↔ resp.error ≠ "")
      (hearly : rest ≠ [] → resp.error = "" → s.emitted = [])
  | returned (result : Result Unit) (hclient : s.client = .returned result) (hsound : Sound s)

/-- An orderly state is sound. -/
theorem Orderly.sound {tcpMux : Bool} {total : Nat} {s : Sys} (h : Orderly tcpMux total s) :
    Sound s := by
  cases h with
  | sending rest hclient hserver hqueue hcount hrefused hearly =>
      refine ⟨fun e he ↦ ?_, fun msg hm ↦ hqueue ▸ hm⟩
      rw [hclient] at he
      cases he
  | asked config rest hclient hserver hqueue hemitted hcount hrefused =>
      refine ⟨fun e he ↦ ?_, fun msg hm ↦ ?_⟩
      · rw [hclient] at he
        cases he
      · rw [hemitted] at hm
        cases hm
  | answered config rest resp hclient hserver hqueue hcount hrefused hearly =>
      refine ⟨fun e he ↦ ?_, fun msg hm ↦ ?_⟩
      · rw [hclient] at he
        cases he
      · rw [hqueue]
        exact List.mem_cons_of_mem _ hm
  | returned result hclient hsound => exact hsound

/-- A transport error leaves the state sound, whatever is in flight. -/
theorem Sound.fail {s : Sys} (h : Sound s) (e : Error) : Sound (s.fail e) := by
  refine ⟨fun e' he ↦ .inr ?_, h.kept⟩
  cases he
  rfl

/-- Receiving the answer takes the client on to the next proxy, or out of the
loop with the error the server gave. -/
theorem orderly_recv {tcpMux : Bool} {total : Nat} {s t : Sys} (h : Orderly tcpMux total s)
    (ht : step tcpMux s .clientRecv = some t) : Orderly tcpMux total t := by
  cases h with
  | sending rest hclient hserver hqueue hcount hrefused hearly => simp [step, hclient] at ht
  | asked config rest hclient hserver hqueue hemitted hcount hrefused =>
      simp [step, hclient, hqueue] at ht
  | returned result hclient hsound => simp [step, hclient] at ht
  | answered config rest resp hclient hserver hqueue hcount hrefused hearly =>
      simp only [step, hclient, hqueue, Option.some.injEq] at ht
      subst ht
      by_cases he : resp.error = ""
      · have hr : s.refused = false := by
          simpa using mt hrefused.mp (not_not.mpr he)
        exact .sending rest (by simp [onReply, he]) hserver rfl hcount hr
          fun hrest ↦ hearly hrest he
      · refine .returned (.error (.proxy resp.error)) (by simp [onReply, he]) ⟨?_, fun _ h ↦ h⟩
        intro e hreturned
        simp only [onReply, he, if_false, RegisterPc.returned.injEq, Except.error.injEq]
          at hreturned
        exact .inl ⟨resp, by simp, he, hreturned.symm⟩

/-- The server's answer meets the client's request. -/
theorem orderly_answer {tcpMux : Bool} {total : Nat} {s t : Sys} {remoteAddr error : String}
    (h : Orderly tcpMux total s)
    (ht : step tcpMux s (.serverAnswers remoteAddr error) = some t) :
    Orderly tcpMux total t := by
  cases h with
  | sending rest hclient hserver hqueue hcount hrefused hearly => simp [step, hserver] at ht
  | answered config rest resp hclient hserver hqueue hcount hrefused hearly =>
      simp [step, hserver] at ht
  | asked config rest hclient hserver hqueue hemitted hcount hrefused =>
      simp only [step, hserver] at ht
      split at ht
      · cases ht
      · obtain rfl := Option.some.inj ht
        refine .answered config rest ⟨(newProxyMsg tcpMux config).proxyName, remoteAddr, error⟩
          hclient rfl ?_ ?_ ?_ fun _ _ ↦ hemitted
        · simp [hqueue, hemitted]
        · simpa [Nat.add_right_comm] using hcount
        · simp [hrefused]
  | returned result hclient hsound =>
      -- The client is gone; an answer to a request it left behind changes nothing for it.
      simp only [step] at ht
      split at ht
      · split at ht
        · cases ht
        · obtain rfl := Option.some.inj ht
          exact .returned result hclient
            ⟨hsound.fails_only, fun m hm ↦ List.mem_append_left _ (hsound.kept m hm)⟩
      · cases ht

/-- While proxies are left and none is refused, it is too early for messages of
other kinds. -/
theorem not_late {total answered : Nat} {rest : List ProxyConfig} {refused : Bool}
    (hcount : answered + rest.length = total) (hrest : rest ≠ []) (hrefused : refused = false) :
    ¬(answered = total ∨ refused = true) := by
  have hpos : 0 < rest.length := List.length_pos_iff.mpr hrest
  rintro (hall | hr)
  · omega
  · rw [hrefused] at hr
    cases hr

/-- A message of another kind joins the queue behind the last answer. -/
theorem orderly_emit {tcpMux : Bool} {total : Nat} {s t : Sys} {msg : Message}
    (h : Orderly tcpMux total s) (hlate : s.answered = total ∨ s.refused = true)
    (ht : step tcpMux s (.serverEmits msg) = some t) : Orderly tcpMux total t := by
  simp only [step] at ht
  split at ht
  · obtain rfl := Option.some.inj ht
    cases h with
    | sending rest hclient hserver hqueue hcount hrefused hearly =>
        refine .sending rest hclient hserver (by simp [hqueue]) hcount hrefused fun hrest ↦ ?_
        exact absurd hlate (not_late hcount hrest hrefused)
    | asked config rest hclient hserver hqueue hemitted hcount hrefused =>
        rcases hlate with hall | hr
        · omega
        · rw [hrefused] at hr
          cases hr
    | answered config rest resp hclient hserver hqueue hcount hrefused hearly =>
        refine .answered config rest resp hclient hserver (by simp [hqueue]) hcount hrefused ?_
        intro hrest he
        have hr : s.refused = false := by
          simpa using mt hrefused.mp (not_not.mpr he)
        exact absurd hlate (not_late hcount hrest hr)
    | returned result hclient hsound =>
        refine .returned result hclient ⟨hsound.fails_only, fun m hm ↦ ?_⟩
        rcases List.mem_append.mp hm with hm | hm
        · exact List.mem_append_left _ (hsound.kept m hm)
        · exact List.mem_append_right _ hm
  · cases ht

/-- Order is kept by every step that sends messages of other kinds late. -/
theorem orderly_step {tcpMux : Bool} {total : Nat} (s : Sys) (e : Event) (t : Sys)
    (h : Orderly tcpMux total s) (hlate : EmitsAfterAnswers total s e)
    (ht : step tcpMux s e = some t) : Orderly tcpMux total t := by
  cases e with
  | clientSend =>
      simp only [step] at ht
      split at ht
      · next config rest hc =>
          split at ht
          · cases ht
          · obtain rfl := Option.some.inj ht
            cases h with
            | sending rest' hclient hserver hqueue hcount hrefused hearly =>
                rw [hc] at hclient
                cases hclient
                have hemitted : s.emitted = [] := hearly (List.cons_ne_nil config rest)
                exact .asked config rest rfl (by simp [hserver]) (hqueue.trans hemitted)
                  hemitted hcount hrefused
            | asked config' rest' hclient => rw [hc] at hclient; cases hclient
            | answered config' rest' resp hclient => rw [hc] at hclient; cases hclient
            | returned result hclient => rw [hc] at hclient; cases hclient
      · cases ht
  | clientSendFails e =>
      simp only [step] at ht
      split at ht
      · obtain rfl := Option.some.inj ht
        exact .returned (.error e) rfl (h.sound.fail e)
      · cases ht
  | clientReturns =>
      simp only [step] at ht
      split at ht
      · obtain rfl := Option.some.inj ht
        refine .returned (.ok ()) rfl ⟨fun e he ↦ ?_, h.sound.kept⟩
        cases he
      · cases ht
  | clientRecv => exact orderly_recv h ht
  | clientRecvClosed =>
      simp only [step] at ht
      split at ht
      · split at ht
        · obtain rfl := Option.some.inj ht
          exact .returned _ rfl (h.sound.fail _)
        · cases ht
      · cases ht
  | clientRecvFails e =>
      simp only [step] at ht
      split at ht
      · obtain rfl := Option.some.inj ht
        exact .returned (.error e) rfl (h.sound.fail e)
      · cases ht
  | serverAnswers remoteAddr error => exact orderly_answer h ht
  | serverEmits msg => exact orderly_emit h hlate ht
  | close =>
      obtain rfl := Option.some.inj ht
      cases h with
      | sending rest hclient hserver hqueue hcount hrefused hearly =>
          exact .sending rest hclient hserver hqueue hcount hrefused hearly
      | asked config rest hclient hserver hqueue hemitted hcount hrefused =>
          exact .asked config rest hclient hserver hqueue hemitted hcount hrefused
      | answered config rest resp hclient hserver hqueue hcount hrefused hearly =>
          exact .answered config rest resp hclient hserver hqueue hcount hrefused hearly
      | returned result hclient hsound => exact .returned result hclient ⟨hsound.1, hsound.2⟩

/-- The start of `register_proxies` is orderly. -/
theorem orderly_start (tcpMux : Bool) (proxies : List ProxyConfig) :
    Orderly tcpMux proxies.length (start proxies) :=
  .sending proxies rfl rfl rfl (Nat.zero_add _) rfl fun _ ↦ rfl

/-- Registration is sound in every run in which the server holds messages of
other kinds back until it has answered for every proxy, or refused one. -/
theorem sound_of_emitsAfterAnswers {tcpMux : Bool} {proxies : List ProxyConfig}
    {events : List Event} {s : Sys}
    (hlate : Machine.Along (step tcpMux) (EmitsAfterAnswers proxies.length) (start proxies) events)
    (hrun : Machine.run (step tcpMux) (start proxies) events = some s) : Sound s :=
  (Machine.along_invariant orderly_step hlate hrun (orderly_start tcpMux proxies)).sound

/-- A TCP proxy for the runs below. -/
def tcpProxy (name : String) (remotePort : UInt16) : ProxyConfig where
  name := name
  proxyType := .tcp
  localIp := "127.0.0.1"
  localPort := 22
  remotePort := remotePort
  useEncryption := false
  useCompression := false
  customDomains := []
  subdomain := ""
  locations := []
  hostHeaderRewrite := ""
  sk := ""
  fallbackToRelay := false
  multiplexer := ""
  loadBalancer := { group := "", groupKey := "" }

/-- Two proxies, and a request for a work connection right after the second
answer. -/
def lateRequest : List Event :=
  [.clientSend, .serverAnswers "0.0.0.0:7001" "", .clientRecv, .clientSend,
    .serverAnswers "0.0.0.0:7002" "", .serverEmits (.reqWorkConn "p1"), .clientRecv,
    .clientReturns]

/-- The late request does no harm: registration succeeds and the request waits
on the connection. -/
theorem sound_lateRequest :
    ∃ s, Machine.run (step false) (start [tcpProxy "p1" 7001, tcpProxy "p2" 7002])
        lateRequest = some s ∧
      s.client = .returned (.ok ()) ∧ s.toClient = [.reqWorkConn "p1"] ∧ Sound s := by
  refine ⟨_, rfl, rfl, rfl, ?_⟩
  have hlate : Machine.Along (step false) (EmitsAfterAnswers 2)
      (start [tcpProxy "p1" 7001, tcpProxy "p2" 7002]) lateRequest := by decide
  exact @sound_of_emitsAfterAnswers false [tcpProxy "p1" 7001, tcpProxy "p2" 7002] lateRequest _
    hlate rfl

/-- A user connects to the first proxy while the second is being registered: the
request overtakes the answer, and the client gives up with an error it does not
retry; the request is gone. -/
theorem early_request_aborts :
    ∃ s, Machine.run (step false) (start [tcpProxy "p1" 7001, tcpProxy "p2" 7002])
        [.clientSend, .serverAnswers "0.0.0.0:7001" "", .clientRecv, .clientSend,
          .serverEmits (.reqWorkConn "p1"), .clientRecv] = some s ∧
      s.client = .returned (.error (.protocol "Expected NewProxyResp, got 'r'")) ∧
      (Error.protocol "Expected NewProxyResp, got 'r'").isRetriable = false ∧
      s.down = false ∧ s.refused = false ∧ s.toClient = [] ∧ ¬Sound s := by
  refine ⟨_, rfl, rfl, rfl, rfl, rfl, rfl, fun h ↦ ?_⟩
  exact absurd (h.kept (.reqWorkConn "p1") (List.mem_singleton_self _)) List.not_mem_nil

end Arp.Client.Registration
