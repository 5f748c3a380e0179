import Arp.Lib.Machine
import Arp.Server.ProxyManager

/-!
# Rendezvous of XTCP peers

A visitor asks the server for the owner of an XTCP proxy, naming an address of its own.
The server notes the request under that address and forwards it to the owner, and the
owner's answer is sent to whoever the note under the address names.

Many requests are on their way at once, and each handler takes its steps apart from the
others: the tables it looks into may have changed by the next step.  The answer is taken
from any client that names the address, and a later request under the same address
overwrites the note.  The main result says what visitors and owners have to keep to so
that every answer goes to the visitor who waits for it.  A second one says when a call that
is not forwarded leaves no note behind (`visit_keeps_pending_iff`): the note is written
before the owner is asked, and nobody takes it back.

Sending fails if the receiver has no control any more.  Metrics and the list of recent
events play no part.
-/

namespace Arp.Server.NatHole

open Arp.Common Arp.Lib Arp.Lib.Text Arp.Lib.Machine
open ProxyManager (run1 run2 run3)

/-! ## Addresses -/

/-- `IpAddr`. -/
inductive IpAddr where
  | v4 (a b c d : UInt8)
  | v6 (segments : Vector UInt16 8)
deriving DecidableEq, Repr

/-- `IpAddr::is_unspecified`. -/
def IpAddr.isUnspecified : IpAddr → Bool
  | v4 a b c d => a == 0 && b == 0 && c == 0 && d == 0
  | v6 segments => segments == #v[0, 0, 0, 0, 0, 0, 0, 0]

/-- `IpAddr::is_loopback`. -/
def IpAddr.isLoopback : IpAddr → Bool
  | v4 a _ _ _ => a == 127
  | v6 segments => segments == #v[0, 0, 0, 0, 0, 0, 0, 1]

/-- `SocketAddr`, as far as it is looked at. -/
structure SocketAddr where
  ip : IpAddr
  port : UInt16
deriving DecidableEq, Repr

/-- The text form of socket addresses in the standard library. -/
structure Net where
  parse : String → Option SocketAddr
  display : SocketAddr → String

/-- `normalize_endpoint_addr`. -/
def normalizeEndpointAddr (net : Net) (endpointAddr peerAddr : String) : String :=
  match net.parse endpointAddr with
  | none => endpointAddr
  | some endpoint =>
    match net.parse peerAddr with
    | none => endpointAddr
    | some peer =>
      if endpoint.ip.isUnspecified || endpoint.ip.isLoopback then
        net.display ⟨peer.ip, endpoint.port⟩
      else endpointAddr

/-- `parse_signed_msg`. -/
def parseSignedMsg (signedMsg : String) : Result (String × String) :=
  match splitOnce signedMsg '|' with
  | none => .error (.protocol
      "invalid NatHoleVisitor.signed_msg, expected '<sk>|<visitor_addr>'")
  | some (sk, visitorAddr) =>
    let sk := trim sk
    let visitorAddr := trim visitorAddr
    if sk.isEmpty then .error (.protocol "xtcp visitor sk is empty")
    else if visitorAddr.isEmpty then .error (.protocol "xtcp visitor_addr is empty")
    else .ok (sk, visitorAddr)

example : parseSignedMsg " key |0.0.0.0:4000 " = .ok ("key", "0.0.0.0:4000") := by rfl

theorem parseSignedMsg_eq_ok {signedMsg sk visitorAddr : String} :
    parseSignedMsg signedMsg = .ok (sk, visitorAddr) ↔
      ∃ first rest, splitOnce signedMsg '|' = some (first, rest) ∧ trim first = sk ∧
        trim rest = visitorAddr ∧ sk ≠ "" ∧ visitorAddr ≠ "" := by
  unfold parseSignedMsg
  cases hsplit : splitOnce signedMsg '|' with
  | none => simp
  | some parts =>
      obtain ⟨first, rest⟩ := parts
      simp only [ite_error_eq_ok, Except.ok.injEq, Prod.mk.injEq, Option.some.injEq,
        String.isEmpty_iff]
      constructor
      · rintro ⟨hsk, haddr, rfl, rfl⟩
        exact ⟨first, rest, ⟨rfl, rfl⟩, rfl, rfl, hsk, haddr⟩
      · rintro ⟨_, _, ⟨rfl, rfl⟩, rfl, rfl, hsk, haddr⟩
        exact ⟨hsk, haddr, rfl, rfl⟩

/-! ## The controller -/

/-- Where a call of `handle_visitor` is. -/
inductive VisitorPc where
  /-- The message is read; the owner is about to be looked up. -/
  | parsed
  /-- The request is about to be noted. -/
  | inserting (owner : XtcpProxyInfo)
  /-- The request is about to be sent to the owner. -/
  | sending (owner : XtcpProxyInfo)
  | forwarded (ownerRunId : RunId)
  /-- The visitor was answered at once. -/
  | replied (resp : NatHoleRespMsg)
  | refused (e : Error)

/-- A call of `handle_visitor`.  Whether an answer has been taken for it is kept beside
it. -/
structure Request where
  visitorRunId : RunId
  proxyName : String
  signedSk : String
  visitorAddr : String
  pc : VisitorPc
  answered : Bool

/-- The request was forwarded to this run, and no answer was taken for it yet. -/
def Request.awaits (q : Request) (runId : RunId) : Bool :=
  match q.pc with
  | .forwarded ownerRunId => ownerRunId == runId && !q.answered
  | _ => false

/-- The request is noted, and no answer was taken for it yet. -/
def Request.live (q : Request) : Bool :=
  match q.pc with
  | .sending _ | .forwarded _ => !q.answered
  | _ => false

/-- `PendingNatVisitor`, with the number of the request it is a note of. -/
structure PendingNatVisitor where
  visitorRunId : RunId
  proxyName : String
  relayAddr : String
  request : Nat
deriving DecidableEq

/-- An answer sent to a visitor: by whom, and whether the visitor had a request before
that run. -/
structure Forward where
  ownerRunId : RunId
  visitorRunId : RunId
  msg : NatHoleRespMsg
  due : Bool

/-- `NatHoleController`, with what it looks up in the control manager and the proxy
manager, the calls of `handle_visitor` so far and the answers sent. -/
structure State where
  /-- `ControlManager::peer_addr`. -/
  peerAddrs : Table RunId String
  /-- `ProxyManager::get_xtcp_owner`. -/
  xtcpRegistry : Table String XtcpProxyInfo
  pending : Table String PendingNatVisitor
  requests : List Request
  forwards : List Forward

/-- A server that has just started. -/
def start : State := ⟨∅, ∅, ∅, [], []⟩

/-- What can happen next; the numbers are those of the requests. -/
inductive Event where
  | login (runId : RunId) (peerAddr : String)
  | logout (runId : RunId)
  | register (proxyName : String) (info : XtcpProxyInfo)
  | unregister (proxyName : String)
  /-- A visitor's message is read. -/
  | visitor (runId : RunId) (msg : NatHoleVisitorMsg)
  | lookup (i : Nat)
  | insert (i : Nat)
  | send (i : Nat) (sent : Bool)
  /-- An answer is read. -/
  | clientResp (runId : RunId) (msg : NatHoleRespMsg) (sent : Bool)

/-- A call of `handle_visitor` goes on. -/
def State.move (s : State) (i : Nat) (q : Request) (pc : VisitorPc) : State :=
  { s with requests := s.requests.set i { q with pc := pc } }

/-- The start of `handle_visitor`: the message is taken apart, and an address without a
public IP gets the one the visitor's connection comes from. -/
def handleVisitor (net : Net) (s : State) (visitorRunId : RunId) (msg : NatHoleVisitorMsg) :
    Request :=
  match parseSignedMsg msg.signedMsg with
  | .error e => ⟨visitorRunId, msg.proxyName, "", "", .refused e, false⟩
  | .ok (signedSk, visitorAddr) =>
    let visitorAddr := match s.peerAddrs.lookup visitorRunId with
      | some visitorPeer => normalizeEndpointAddr net visitorAddr visitorPeer
      | none => visitorAddr
    ⟨visitorRunId, msg.proxyName, signedSk, visitorAddr, .parsed, false⟩

/-- `handle_visitor` looks the owner up and compares the secrets. -/
def lookupOwner (s : State) (q : Request) : VisitorPc :=
  match s.xtcpRegistry.lookup q.proxyName with
  | none => .replied ⟨q.visitorAddr, "", "", "xtcp proxy " ++ q.proxyName ++ " not found"⟩
  | some owner =>
    if owner.sk ≠ q.signedSk then .replied ⟨q.visitorAddr, "", "", "xtcp sk mismatch"⟩
    else .inserting owner

/-- `handle_client_resp`.  The answer goes to whoever the note under its address names,
unless sending fails. -/
def handleClientResp (net : Net) (s : State) (ownerRunId : RunId) (msg : NatHoleRespMsg)
    (sent : Bool) : State :=
  let clientAddr := match s.peerAddrs.lookup ownerRunId with
    | some publicPeer => normalizeEndpointAddr net msg.clientAddr publicPeer
    | none => msg.clientAddr
  match s.pending.lookup msg.visitorAddr with
  | none => s
  | some pending =>
    let relayAddr := if msg.relayAddr.isEmpty then pending.relayAddr else msg.relayAddr
    { s with
      pending := s.pending.erase msg.visitorAddr
      requests := s.requests.modify pending.request fun q ↦ { q with answered := true }
      forwards :=
        if sent && pending.visitorRunId ∈ s.peerAddrs then s.forwards ++ [{
          ownerRunId := ownerRunId
          visitorRunId := pending.visitorRunId
          msg := { msg with clientAddr := clientAddr, relayAddr := relayAddr }
          due := s.requests.any fun q ↦
            q.visitorRunId == pending.visitorRunId && q.awaits ownerRunId }]
        else s.forwards }

/-- One step. -/
def step (net : Net) (s : State) : Event → Option State
  | .login runId peerAddr => some { s with peerAddrs := s.peerAddrs.insert runId peerAddr }
  | .logout runId => some { s with peerAddrs := s.peerAddrs.erase runId }
  | .register proxyName info =>
    some { s with xtcpRegistry := s.xtcpRegistry.insert proxyName info }
  | .unregister proxyName => some { s with xtcpRegistry := s.xtcpRegistry.erase proxyName }
  | .visitor runId msg => some { s with requests := s.requests ++ [handleVisitor net s runId msg] }
  | .lookup i =>
    s.requests[i]?.bind fun q ↦
      match q.pc with
      | .parsed => some (s.move i q (lookupOwner s q))
      | _ => none
  | .insert i =>
    s.requests[i]?.bind fun q ↦
      match q.pc with
      | .inserting owner => some { s.move i q (.sending owner) with
          pending := s.pending.insert q.visitorAddr
            ⟨q.visitorRunId, q.proxyName, owner.relayAddr, i⟩ }
      | _ => none
  | .send i sent =>
    s.requests[i]?.bind fun q ↦
      match q.pc with
      | .sending owner =>
        if sent then
          if owner.runId ∈ s.peerAddrs then some (s.move i q (.forwarded owner.runId)) else none
        -- The note stays where it is.
        else some (s.move i q (.replied ⟨"", "", "", "owner client offline"⟩))
      | _ => none
  | .clientResp runId msg sent => some (handleClientResp net s runId msg sent)

/-! ## What a step does -/

/-- Everything a step can do. -/
inductive Steps (net : Net) (s : State) : Event → State → Prop
  | tables {e : Event} (peerAddrs : Table RunId String)
      (xtcpRegistry : Table String XtcpProxyInfo) :
      Steps net s e { s with peerAddrs := peerAddrs, xtcpRegistry := xtcpRegistry }
  | ask {e : Event} (q : Request) (hlive : q.live = false) :
      Steps net s e { s with requests := s.requests ++ [q] }
  | move {e : Event} {i : Nat} {q : Request} (pc : VisitorPc) (hq : s.requests[i]? = some q)
      (hlive : ({ q with pc := pc } : Request).live = true → q.live = true) :
      Steps net s e (s.move i q pc)
  | note {i : Nat} {q : Request} (owner : XtcpProxyInfo) (hq : s.requests[i]? = some q) :
      Steps net s (.insert i) { s.move i q (.sending owner) with
        pending := s.pending.insert q.visitorAddr
          ⟨q.visitorRunId, q.proxyName, owner.relayAddr, i⟩ }
  | answer (ownerRunId : RunId) (msg : NatHoleRespMsg) (sent : Bool) {p : PendingNatVisitor}
      (hp : s.pending.lookup msg.visitorAddr = some p) :
      Steps net s (.clientResp ownerRunId msg sent) (handleClientResp net s ownerRunId msg sent)

theorem live_handleVisitor (net : Net) (s : State) (runId : RunId) (msg : NatHoleVisitorMsg) :
    (handleVisitor net s runId msg).live = false := by
  unfold handleVisitor
  split <;> rfl

theorem live_lookupOwner (s : State) (q : Request) :
    ({ q with pc := lookupOwner s q } : Request).live = false := by
  unfold lookupOwner
  split
  · rfl
  · split <;> rfl

theorem steps_of_step {net : Net} {s t : State} {e : Event} (h : step net s e = some t) :
    Steps net s e t := by
  cases e with
  | login runId peerAddr =>
      obtain rfl := Option.some.inj h
      exact .tables _ s.xtcpRegistry
  | logout runId =>
      obtain rfl := Option.some.inj h
      exact .tables _ s.xtcpRegistry
  | register proxyName info =>
      obtain rfl := Option.some.inj h
      exact .tables s.peerAddrs _
  | unregister proxyName =>
      obtain rfl := Option.some.inj h
      exact .tables s.peerAddrs _
  | visitor runId msg =>
      obtain rfl := Option.some.inj h
      exact .ask _ (live_handleVisitor net s runId msg)
  | lookup i =>
      obtain ⟨q, hq, h⟩ := Option.bind_eq_some_iff.mp h
      split at h
      · obtain rfl := Option.some.inj h
        refine .move _ hq fun hlive ↦ ?_
        rw [live_lookupOwner] at hlive
        cases hlive
      · cases h
  | insert i =>
      obtain ⟨q, hq, h⟩ := Option.bind_eq_some_iff.mp h
      split at h
      · next owner hpc =>
          obtain rfl := Option.some.inj h
          exact .note owner hq
      · cases h
  | send i sent =>
      obtain ⟨q, hq, h⟩ := Option.bind_eq_some_iff.mp h
      split at h
      · next owner hpc =>
          split at h
          · split at h
            · obtain rfl := Option.some.inj h
              refine .move _ hq fun hlive ↦ ?_
              rw [Request.live, hpc]
              exact hlive
            · cases h
          · obtain rfl := Option.some.inj h
            exact .move _ hq fun hlive ↦ by cases hlive
      · cases h
  | clientResp runId msg sent =>
      obtain rfl := Option.some.inj h
      cases hp : s.pending.lookup msg.visitorAddr with
      | none =>
          have hs : handleClientResp net s runId msg sent = s := by
            simp only [handleClientResp, hp]
          rw [hs]
          exact .tables s.peerAddrs s.xtcpRegistry
      | some p => exact .answer runId msg sent hp

/-! ## Answers that reach who waits for them -/

/-- Every answer sent was due to its visitor, and the note under the address of a request
that waits for an answer names its visitor. -/
structure Faithful (s : State) : Prop where
  due : ∀ f ∈ s.forwards, f.due = true
  kept : ∀ q ∈ s.requests, ∀ ownerRunId, q.awaits ownerRunId = true →
    ∃ p, s.pending.lookup q.visitorAddr = some p ∧ p.visitorRunId = q.visitorRunId

/-- Visitors whose requests are under way use different addresses, and a client answers
only for an address that it was asked about and has not answered yet. -/
def Honest (s : State) : Event → Prop
  | .insert i => ∀ q ∈ s.requests[i]?, ∀ q' ∈ s.requests, q'.live = true →
      q'.visitorAddr ≠ q.visitorAddr
  | .clientResp runId msg _ => ∃ q ∈ s.requests, q.awaits runId = true ∧
      q.visitorAddr = msg.visitorAddr
  | _ => True

/-- Every request under way has its note, and every answer was due. -/
structure Noted (s : State) : Prop where
  due : ∀ f ∈ s.forwards, f.due = true
  noted : ∀ i q, s.requests[i]? = some q → q.live = true → ∃ p,
    s.pending.lookup q.visitorAddr = some p ∧ p.request = i ∧ p.visitorRunId = q.visitorRunId

theorem Request.live_of_awaits {q : Request} {runId : RunId} (h : q.awaits runId = true) :
    q.live = true := by
  unfold Request.awaits at h
  split at h
  · next ownerRunId hpc =>
      rw [Request.live, hpc]
      exact (Bool.and_eq_true_iff.mp h).2
  · cases h

theorem Noted.faithful {s : State} (h : Noted s) : Faithful s where
  due := h.due
  kept q hq ownerRunId hawaits := by
    obtain ⟨i, hi⟩ := List.mem_iff_getElem?.mp hq
    obtain ⟨p, hp, -, hvisitor⟩ := h.noted i q hi (Request.live_of_awaits hawaits)
    exact ⟨p, hp, hvisitor⟩

theorem Noted.ask {s : State} (h : Noted s) {q : Request} (hlive : q.live = false) :
    Noted { s with requests := s.requests ++ [q] } := by
  refine ⟨h.due, fun i q' hq' hl ↦ ?_⟩
  rcases eq_or_of_getElem?_concat hq' with ⟨-, rfl⟩ | hold
  · rw [hlive] at hl
    cases hl
  · exact h.noted i q' hold hl

theorem Noted.move {s : State} (h : Noted s) {i : Nat} {q : Request} {pc : VisitorPc}
    (hq : s.requests[i]? = some q)
    (hlive : ({ q with pc := pc } : Request).live = true → q.live = true) :
    Noted (s.move i q pc) := by
  refine ⟨h.due, fun j q' hq' hl ↦ ?_⟩
  rcases eq_or_of_getElem?_set hq' with ⟨rfl, rfl⟩ | ⟨-, hold⟩
  · exact h.noted j q hq (hlive hl)
  · exact h.noted j q' hold hl

/-- A note is written where no request under way has one. -/
theorem Noted.note {s : State} (h : Noted s) {i : Nat} {q : Request} {owner : XtcpProxyInfo}
    (hq : s.requests[i]? = some q) (hok : Honest s (.insert i)) :
    Noted { s.move i q (.sending owner) with
      pending := s.pending.insert q.visitorAddr
        ⟨q.visitorRunId, q.proxyName, owner.relayAddr, i⟩ } := by
  refine ⟨h.due, fun j q' hq' hl ↦ ?_⟩
  rcases eq_or_of_getElem?_set hq' with ⟨rfl, rfl⟩ | ⟨-, hold⟩
  · exact ⟨_, AList.lookup_insert _, rfl, rfl⟩
  · obtain ⟨p, hp, hrequest, hvisitor⟩ := h.noted j q' hold hl
    have hne := hok q hq q' (List.mem_of_getElem? hold) hl
    exact ⟨p, (AList.lookup_insert_ne hne).trans hp, hrequest, hvisitor⟩

/-- An answer of somebody who was asked finds the note of the request it answers. -/
theorem Noted.lookup_of_honest {s : State} (h : Noted s) {ownerRunId : RunId}
    {msg : NatHoleRespMsg} {sent : Bool} {p : PendingNatVisitor}
    (hp : s.pending.lookup msg.visitorAddr = some p)
    (hok : Honest s (.clientResp ownerRunId msg sent)) :
    ∃ q, s.requests[p.request]? = some q ∧ q.awaits ownerRunId = true ∧
      p.visitorRunId = q.visitorRunId := by
  obtain ⟨q, hmem, hawaits, haddr⟩ := hok
  obtain ⟨i, hi⟩ := List.mem_iff_getElem?.mp hmem
  obtain ⟨p', hp', rfl, hvisitor⟩ := h.noted i q hi (Request.live_of_awaits hawaits)
  rw [haddr, hp] at hp'
  obtain rfl := Option.some.inj hp'
  exact ⟨q, hi, hawaits, hvisitor⟩

theorem Noted.answer {net : Net} {s : State} (h : Noted s) {ownerRunId : RunId}
    {msg : NatHoleRespMsg} {sent : Bool} {p : PendingNatVisitor}
    (hp : s.pending.lookup msg.visitorAddr = some p)
    (hok : Honest s (.clientResp ownerRunId msg sent)) :
    Noted (handleClientResp net s ownerRunId msg sent) := by
  obtain ⟨q, hq, hawaits, hvisitor⟩ := h.lookup_of_honest hp hok
  simp only [handleClientResp, hp]
  constructor
  · intro f hf
    split at hf
    · rcases List.mem_append.mp hf with hold | hnew
      · exact h.due f hold
      · obtain rfl := List.mem_singleton.mp hnew
        refine List.any_eq_true.mpr ⟨q, List.mem_of_getElem? hq, ?_⟩
        rw [hvisitor, beq_self_eq_true, hawaits]
        rfl
    · exact h.due f hf
  · intro j q' hq' hl
    rw [List.getElem?_modify] at hq'
    obtain ⟨q'', hq'', rfl⟩ := Option.map_eq_some_iff.mp hq'
    split at hl
    · -- The answered request is not under way any more.
      simp only [Request.live] at hl
      split at hl <;> cases hl
    · next hne =>
        rw [if_neg hne]
        obtain ⟨p', hp', rfl, hvisitor'⟩ := h.noted j q'' hq'' hl
        refine ⟨p', ?_, rfl, hvisitor'⟩
        rw [AList.lookup_erase_ne, hp']
        intro haddr
        rw [haddr, hp] at hp'
        exact hne (congrArg PendingNatVisitor.request (Option.some.inj hp'))

theorem noted_step {net : Net} (s : State) (e : Event) (t : State) (h : Noted s)
    (hok : Honest s e) (ht : step net s e = some t) : Noted t := by
  cases steps_of_step ht with
  | tables peerAddrs xtcpRegistry => exact ⟨h.due, h.noted⟩
  | ask q hlive => exact h.ask hlive
  | move pc hq hlive => exact h.move hq hlive
  | note owner hq => exact h.note hq hok
  | answer ownerRunId msg sent hp => exact h.answer hp hok

/-- If requests under way have addresses of their own, and clients answer only what they
were asked, every answer goes to the visitor who waits for it. -/
theorem faithful_of_honest {net : Net} {events : List Event} {s : State}
    (hrun : run (step net) start events = some s) (hok : Along (step net) Honest start events) :
    Faithful s := by
  have hnoted : Noted start := ⟨by simp [start], by simp [start]⟩
  exact (along_invariant noted_step hok hrun hnoted).faithful

/-! ## A visitor, an owner and a third client -/

/-- The text form of the addresses in the runs below. -/
def sampleNet : Net where
  parse
    | "0.0.0.0:40000" => some ⟨.v4 0 0 0 0, 40000⟩
    | "203.0.113.5:50001" => some ⟨.v4 203 0 113 5, 50001⟩
    | "203.0.113.5:50003" => some ⟨.v4 203 0 113 5, 50003⟩
    | "198.51.100.7:50002" => some ⟨.v4 198 51 100 7, 50002⟩
    | "198.51.100.7:41000" => some ⟨.v4 198 51 100 7, 41000⟩
    | _ => none
  display addr :=
    match addr.ip with
    | .v4 a b c d => toString a ++ "." ++ toString b ++ "." ++ toString c ++ "." ++ toString d ++
        ":" ++ toString addr.port
    | .v6 _ => ""

/-- The first run has asked for the proxy of the second, and its request was forwarded.  The third
client is behind the same router as the visitor. -/
def asked : List Event :=
  [.login run1 "203.0.113.5:50001", .login run2 "198.51.100.7:50002",
    .login run3 "203.0.113.5:50003", .register "p2p" ⟨run2, "key", ""⟩,
    .visitor run1 ⟨"p2p", "key|0.0.0.0:40000"⟩, .lookup 0, .insert 0, .send 0 true]

/-- The answer of the owner. -/
def answer : NatHoleRespMsg := ⟨"203.0.113.5:40000", "198.51.100.7:41000", "", ""⟩

/-- The third client answers in the owner's place. -/
def forged : List Event :=
  [.clientResp run3 ⟨"203.0.113.5:40000", "192.0.2.66:666", "", ""⟩ true]

/-- The third client asks as well; its address becomes the same as the visitor's. -/
def collided : List Event :=
  [.visitor run3 ⟨"p2p", "key|0.0.0.0:40000"⟩, .lookup 1, .insert 1, .send 1 true,
    .clientResp run2 answer true]

instance instDecidableHonest (s : State) : ∀ e, Decidable (Honest s e)
  | .insert i => Option.decidableForallMem s.requests[i]?
  | .clientResp runId msg _ => inferInstanceAs (Decidable (∃ q ∈ s.requests,
      q.awaits runId = true ∧ q.visitorAddr = msg.visitorAddr))
  | .login _ _ | .logout _ | .register _ _ | .unregister _ | .visitor _ _ | .lookup _
  | .send _ _ => .isTrue trivial

/-- The owner answers the visitor. -/
theorem faithful_asked :
    ∃ s, run (step sampleNet) start (asked ++ [.clientResp run2 answer true]) = some s ∧
      Faithful s :=
  ⟨_, rfl, @faithful_of_honest sampleNet (asked ++ [.clientResp run2 answer true]) _ rfl
    (by decide)⟩

/-- The third client's answer reaches the visitor; and when the third client has asked
under the same address, it gets the owner's answer to the visitor. -/
theorem third_client_redirects :
    (∃ s, run (step sampleNet) start (asked ++ forged) = some s ∧
      s.forwards.map (fun f ↦ (f.ownerRunId, f.visitorRunId, f.due)) = [(run3, run1, false)] ∧
      ¬Faithful s) ∧
    ∃ s, run (step sampleNet) start (asked ++ collided) = some s ∧
      s.forwards.map (fun f ↦ (f.ownerRunId, f.visitorRunId)) = [(run2, run3)] ∧ ¬Faithful s := by
  refine ⟨⟨_, rfl, rfl, ?_⟩, ⟨_, rfl, rfl, ?_⟩⟩
  · intro h
    have hdue := h.due _ List.mem_cons_self
    revert hdue
    decide
  · intro h
    obtain ⟨p, hp, -⟩ := h.kept _ List.mem_cons_self run2 rfl
    cases hp

/-! ## One call on its own -/

/-- What a note says, apart from the number beside it. -/
def PendingNatVisitor.note (p : PendingNatVisitor) : RunId × String × String :=
  (p.visitorRunId, p.proxyName, p.relayAddr)

/-- Two tables say the same. -/
def SameNotes (t t' : Table String PendingNatVisitor) : Prop :=
  ∀ addr, (t.lookup addr).map PendingNatVisitor.note = (t'.lookup addr).map PendingNatVisitor.note

/-- `ControlManager::send_message` succeeds: the run has a control, and the channel of the
control takes messages. -/
def State.sends (s : State) (accepts : RunId → Bool) (runId : RunId) : Bool :=
  decide (runId ∈ s.peerAddrs) && accepts runId

/-- The address of a visitor, with the IP its connection comes from if it names no public
one. -/
def State.visitorAddr (net : Net) (s : State) (visitorRunId : RunId) (visitorAddr : String) :
    String :=
  match s.peerAddrs.lookup visitorRunId with
  | some visitorPeer => normalizeEndpointAddr net visitorAddr visitorPeer
  | none => visitorAddr

theorem handleVisitor_of_parse {net : Net} {s : State} {visitorRunId : RunId}
    {msg : NatHoleVisitorMsg} {signedSk visitorAddr : String}
    (h : parseSignedMsg msg.signedMsg = .ok (signedSk, visitorAddr)) :
    handleVisitor net s visitorRunId msg = ⟨visitorRunId, msg.proxyName, signedSk,
      s.visitorAddr net visitorRunId visitorAddr, .parsed, false⟩ := by
  rw [handleVisitor, h]
  rfl

theorem exists_parse_of_handleVisitor {net : Net} {s : State} {visitorRunId : RunId}
    {msg : NatHoleVisitorMsg} (h : (handleVisitor net s visitorRunId msg).pc = .parsed) :
    ∃ signedSk visitorAddr, parseSignedMsg msg.signedMsg = .ok (signedSk, visitorAddr) := by
  unfold handleVisitor at h
  split at h
  · cases h
  · next signedSk visitorAddr hparse => exact ⟨signedSk, visitorAddr, hparse⟩

theorem lookupOwner_eq_inserting {s : State} {q : Request} {owner : XtcpProxyInfo} :
    lookupOwner s q = .inserting owner ↔
      s.xtcpRegistry.lookup q.proxyName = some owner ∧ owner.sk = q.signedSk := by
  unfold lookupOwner
  cases howner : s.xtcpRegistry.lookup q.proxyName with
  | none => simp
  | some found =>
      dsimp only
      split
      · next hne =>
          refine iff_of_false (fun h ↦ by cases h) ?_
          rintro ⟨heq, hsk⟩
          obtain rfl := Option.some.inj heq
          exact hne hsk
      · next heq =>
          constructor
          · intro h
            obtain rfl := VisitorPc.inserting.inj h
            exact ⟨rfl, not_not.mp heq⟩
          · rintro ⟨hfound, -⟩
            rw [Option.some.inj hfound]

/-- `handle_visitor` while nothing else happens: what it returns, and the pending requests
then. -/
def visit (net : Net) (s : State) (accepts : RunId → Bool) (visitorRunId : RunId)
    (msg : NatHoleVisitorMsg) :
    Result (Option NatHoleRespMsg) × Table String PendingNatVisitor :=
  match parseSignedMsg msg.signedMsg with
  | .error e => (.error e, s.pending)
  | .ok (signedSk, visitorAddr) =>
    let visitorAddr := s.visitorAddr net visitorRunId visitorAddr
    match s.xtcpRegistry.lookup msg.proxyName with
    | none =>
      (.ok (some ⟨visitorAddr, "", "", "xtcp proxy " ++ msg.proxyName ++ " not found"⟩), s.pending)
    | some owner =>
      if owner.sk ≠ signedSk then
        (.ok (some ⟨visitorAddr, "", "", "xtcp sk mismatch"⟩), s.pending)
      else
        let pending := s.pending.insert visitorAddr
          ⟨visitorRunId, msg.proxyName, owner.relayAddr, s.requests.length⟩
        if s.sends accepts owner.runId then (.ok none, pending)
        else (.ok (some ⟨"", "", "", "owner client offline"⟩), pending)

section Visit

variable {net : Net} {s : State} {accepts : RunId → Bool} {visitorRunId : RunId}
  {msg : NatHoleVisitorMsg}

/-- The message is well formed, its proxy has an owner, and the secret is the owner's. -/
def State.Admits (net : Net) (s : State) (visitorRunId : RunId) (msg : NatHoleVisitorMsg)
    (owner : XtcpProxyInfo) (addr : String) : Prop :=
  ∃ visitorAddr, parseSignedMsg msg.signedMsg = .ok (owner.sk, visitorAddr) ∧
    s.xtcpRegistry.lookup msg.proxyName = some owner ∧
    addr = s.visitorAddr net visitorRunId visitorAddr

theorem visit_of_admits {owner : XtcpProxyInfo} {addr : String}
    (h : s.Admits net visitorRunId msg owner addr) :
    visit net s accepts visitorRunId msg =
      (if s.sends accepts owner.runId then .ok none
        else .ok (some ⟨"", "", "", "owner client offline"⟩),
        s.pending.insert addr
          ⟨visitorRunId, msg.proxyName, owner.relayAddr, s.requests.length⟩) := by
  obtain ⟨visitorAddr, hparse, howner, rfl⟩ := h
  simp only [visit, hparse, howner, ne_eq, not_true_eq_false, if_false]
  split
  · rfl
  · rfl

theorem visit_of_not_admits (h : ∀ owner addr, ¬s.Admits net visitorRunId msg owner addr) :
    (visit net s accepts visitorRunId msg).2 = s.pending ∧
      (visit net s accepts visitorRunId msg).1 ≠ .ok none := by
  unfold visit
  split
  · exact ⟨rfl, by simp⟩
  · next signedSk visitorAddr hparse =>
      dsimp only
      split
      · exact ⟨rfl, by simp⟩
      · next owner howner =>
          split
          · exact ⟨rfl, by simp⟩
          · next hsk =>
              obtain rfl := not_not.mp hsk
              exact absurd ⟨visitorAddr, hparse, howner, rfl⟩ (h owner _)

theorem State.Admits.unique {owner owner' : XtcpProxyInfo} {addr addr' : String}
    (h : s.Admits net visitorRunId msg owner addr)
    (h' : s.Admits net visitorRunId msg owner' addr') : owner' = owner ∧ addr' = addr := by
  obtain ⟨visitorAddr, hparse, howner, rfl⟩ := h
  obtain ⟨visitorAddr', hparse', howner', rfl⟩ := h'
  obtain ⟨-, rfl⟩ := Prod.mk.inj (Except.ok.inj (hparse.symm.trans hparse'))
  exact ⟨Option.some.inj (howner'.symm.trans howner), rfl⟩

theorem sameNotes_insert {t : Table String PendingNatVisitor} {addr : String}
    {p : PendingNatVisitor} :
    SameNotes (t.insert addr p) t ↔ (t.lookup addr).map PendingNatVisitor.note = some p.note := by
  constructor
  · intro h
    rw [← h addr, AList.lookup_insert, Option.map_some]
  · intro h addr'
    rw [Table.lookup_insert_ite]
    split
    · next haddr =>
        subst haddr
        rw [h, Option.map_some]
    · rfl

/-- A call that is not forwarded leaves the pending requests as they were exactly if it is
refused before the owner is asked, or the owner takes the message, or the note it writes was
there already. -/
theorem visit_keeps_pending_iff :
    ((visit net s accepts visitorRunId msg).1 ≠ .ok none →
        SameNotes (visit net s accepts visitorRunId msg).2 s.pending) ↔
      ∀ owner addr, s.Admits net visitorRunId msg owner addr →
        s.sends accepts owner.runId = true ∨
          (s.pending.lookup addr).map PendingNatVisitor.note =
            some (visitorRunId, msg.proxyName, owner.relayAddr) := by
  by_cases hadmits : ∃ owner addr, s.Admits net visitorRunId msg owner addr
  · obtain ⟨owner, addr, hadmits⟩ := hadmits
    rw [visit_of_admits hadmits, sameNotes_insert]
    constructor
    · intro h owner' addr' hadmits'
      obtain ⟨rfl, rfl⟩ := hadmits.unique hadmits'
      cases hsends : s.sends accepts owner'.runId with
      | true => exact .inl rfl
      | false =>
          refine .inr (h ?_)
          rw [hsends]
          simp
    · intro h hfailed
      rcases h owner addr hadmits with hsends | hnote
      · rw [hsends, if_pos rfl] at hfailed
        exact absurd rfl hfailed
      · exact hnote
  · simp only [not_exists] at hadmits
    obtain ⟨hsame, -⟩ := @visit_of_not_admits net s accepts visitorRunId msg hadmits
    refine iff_of_true (fun _ addr ↦ ?_) fun owner addr h ↦ absurd h (hadmits owner addr)
    rw [hsame]

/-- Visitor and owner are connected, and `p2p` is registered; then the owner's control is
removed. -/
def introduced : List Event :=
  [.login run1 "203.0.113.5:50001", .login run2 "198.51.100.7:50002",
    .register "p2p" ⟨run2, "key", ""⟩, .logout run2]

/-- The owner is gone and its proxy still registered: the visitor is told so at once, and its
request stays noted. -/
theorem visit_offline_leaves_note :
    ∃ s, run (step sampleNet) start introduced = some s ∧
      (visit sampleNet s (fun _ ↦ true) run1 ⟨"p2p", "key|0.0.0.0:40000"⟩).1 =
        .ok (some ⟨"", "", "", "owner client offline"⟩) ∧
      s.pending.lookup "203.0.113.5:40000" = none ∧
      ((visit sampleNet s (fun _ ↦ true) run1 ⟨"p2p", "key|0.0.0.0:40000"⟩).2.lookup
        "203.0.113.5:40000").map PendingNatVisitor.note = some (run1, "p2p", "") ∧
      ¬SameNotes (visit sampleNet s (fun _ ↦ true) run1 ⟨"p2p", "key|0.0.0.0:40000"⟩).2
        s.pending := by
  refine ⟨_, rfl, rfl, rfl, rfl, fun hsame ↦ ?_⟩
  cases hsame "203.0.113.5:40000"

/-! ### Its steps -/

/-- What a call of `handle_visitor` has returned. -/
def VisitorPc.result : VisitorPc → Option (Result (Option NatHoleRespMsg))
  | parsed | inserting _ | sending _ => none
  | forwarded _ => some (.ok none)
  | replied resp => some (.ok (some resp))
  | refused e => some (.error e)

section Last

variable {requests : List Request} {q : Request} {owner : XtcpProxyInfo}

theorem run_lookup_last (hpc : q.pc = .parsed) (es : List Event) :
    run (step net) { s with requests := requests ++ [q] } (.lookup requests.length :: es) =
      run (step net) { s with requests := requests ++ [{ q with pc := lookupOwner s q }] } es := by
  rw [run_cons, step, List.getElem?_concat_length, Option.bind_some, hpc, Option.bind_some,
    State.move, List.set_append_right _ _ le_rfl, Nat.sub_self]
  rfl

theorem run_ask_last (hpc : q.pc = .inserting owner) :
    run (step net) { s with requests := requests ++ [q] }
        [.insert requests.length, .send requests.length (s.sends accepts owner.runId)] =
      some { s with
        requests := requests ++ [{ q with
          pc := if s.sends accepts owner.runId then .forwarded owner.runId
            else .replied ⟨"", "", "", "owner client offline"⟩ }]
        pending := s.pending.insert q.visitorAddr
          ⟨q.visitorRunId, q.proxyName, owner.relayAddr, requests.length⟩ } := by
  have hset (q q' : Request) : (requests ++ [q]).set requests.length q' = requests ++ [q'] := by
    rw [List.set_append_right _ _ le_rfl, Nat.sub_self, List.set_cons_zero]
  rw [run_cons, step, List.getElem?_concat_length, Option.bind_some, hpc, Option.bind_some,
    State.move, hset, run_cons, step, List.getElem?_concat_length, Option.bind_some]
  cases hsends : s.sends accepts owner.runId with
  | true =>
      have honline : owner.runId ∈ s.peerAddrs := by
        rw [State.sends, Bool.and_eq_true_iff, decide_eq_true_iff] at hsends
        exact hsends.1
      simp only [if_true, if_pos honline, Option.bind_some, State.move, hset, run_nil]
  | false =>
      simp only [Bool.false_eq_true, if_false, Option.bind_some, State.move, hset, run_nil]

end Last

/-- The steps of a call, taken one after the other, come to the same end. -/
theorem run_visit : ∃ events t q,
    run (step net) s (.visitor visitorRunId msg :: events) = some t ∧
      t.requests = s.requests ++ [q] ∧
      q.pc.result = some (visit net s accepts visitorRunId msg).1 ∧
      t.pending = (visit net s accepts visitorRunId msg).2 := by
  have hread (es : List Event) : run (step net) s (.visitor visitorRunId msg :: es) =
      run (step net)
        { s with requests := s.requests ++ [handleVisitor net s visitorRunId msg] } es :=
    rfl
  simp only [hread, visit]
  cases hparse : parseSignedMsg msg.signedMsg with
  | error e =>
      refine ⟨[], _, _, rfl, rfl, ?_, rfl⟩
      rw [handleVisitor, hparse]
      rfl
  | ok parts =>
      obtain ⟨signedSk, visitorAddr⟩ := parts
      rw [handleVisitor_of_parse hparse]
      dsimp only
      cases howner : s.xtcpRegistry.lookup msg.proxyName with
      | none =>
          refine ⟨[.lookup s.requests.length], _, _, run_lookup_last rfl [], rfl, ?_, rfl⟩
          simp only [lookupOwner, howner]
          rfl
      | some owner =>
          by_cases hsk : owner.sk = signedSk
          · have hfound := lookupOwner_eq_inserting (s := s) (q := ⟨visitorRunId, msg.proxyName,
              signedSk, s.visitorAddr net visitorRunId visitorAddr, .parsed, false⟩).mpr
              ⟨howner, hsk⟩
            have hasked := fun es ↦ @run_lookup_last net s s.requests ⟨visitorRunId, msg.proxyName,
              signedSk, s.visitorAddr net visitorRunId visitorAddr, .parsed, false⟩ rfl es
            rw [hfound] at hasked
            refine ⟨_, _, _, (hasked _).trans (@run_ask_last net s accepts _ _ owner rfl), rfl,
              ?_, ?_⟩
            · simp only [ne_eq, hsk, not_true_eq_false, if_false]
              split
              · rfl
              · rfl
            · simp only [ne_eq, hsk, not_true_eq_false, if_false]
              split
              · rfl
              · rfl
          · refine ⟨[.lookup s.requests.length], _, _, run_lookup_last rfl [], rfl, ?_, ?_⟩
            · simp only [lookupOwner, howner, ne_eq, hsk, not_false_eq_true, if_true]
              rfl
            · simp only [ne_eq, hsk, not_false_eq_true, if_true]

end Visit

end Arp.Server.NatHole
