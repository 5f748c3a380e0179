import Arp.Common.Auth
import Arp.Common.Transport
import Arp.Server.Vhost

/-!
# STCP visitors

A visitor opens a connection, sends a signed `StcpVisitorConn` frame and starts
streaming at once.  The server checks the signature, gets a work connection from
the provider and relays raw bytes between the two.

The visitor's transport is left through `into_inner`.  Bytes that arrived in the
same read as the end of the frame are in the transport's buffer by then, so the
relay is faithful exactly when a read ends where the frame ends.
-/

namespace Arp.Server

open Arp.Common Arp.Lib.Framing

/-- `StcpProxyInfo`. -/
structure StcpProxyInfo where
  runId : RunId
  sk : String
  workConnReqTx : ReqSender

/-- How the request for a work connection ends. -/
inductive WorkConnOutcome where
  | requestClosed
  | timedOut
  | replyClosed
  | arrived (transport : MessageTransport)

/-- The work connection, or the error `handle_stcp_visitor_conn` returns. -/
def WorkConnOutcome.toResult : WorkConnOutcome → Result MessageTransport
  | requestClosed => .error (.transport "stcp provider work conn channel closed")
  | timedOut => .error (.timeout "stcp work connection timeout")
  | replyClosed => .error (.transport "stcp work connection channel closed")
  | arrived transport => .ok transport

/-- What the handling of a connection depends on besides its bytes. -/
structure VisitorEnv where
  serde : Serde
  hmac : List UInt8 → List UInt8 → List UInt8
  now : Int64
  getStcpInfo : String → Option StcpProxyInfo
  workConn : WorkConnOutcome
  /-- The outcome of writing to the work connection. -/
  io : Result Unit

/-- What the first message makes of a connection. -/
inductive Connection where
  | closed
  | login (transport : MessageTransport) (msg : LoginMsg)
  | newWorkConn (transport : MessageTransport) (msg : NewWorkConnMsg)
  | stcpVisitorConn (transport : MessageTransport) (msg : StcpVisitorConnMsg)

/-- `Service::handle_transport` up to the handler it calls. -/
def handleTransport (serde : Serde) (transport : MessageTransport) : Result Connection :=
  match transport.recv serde with
  | (.error e, _) => .error e
  | (.ok none, _) => .ok .closed
  | (.ok (some (.login msg)), t) => .ok (.login t msg)
  | (.ok (some (.newWorkConn msg)), t) => .ok (.newWorkConn t msg)
  | (.ok (some (.stcpVisitorConn msg)), t) => .ok (.stcpVisitorConn t msg)
  | (.ok (some other), _) => .error (.protocol
      ("Expected Login or NewWorkConn message, got '" ++ other.typeByte.toString ++ "'"))

/-- `Service::handle_stcp_visitor_conn`. -/
def handleStcpVisitorConn (env : VisitorEnv) (visitorTransport : MessageTransport)
    (msg : StcpVisitorConnMsg) (peerAddr : String) : Result Copied := do
  let info ← match env.getStcpInfo msg.proxyName with
    | some info => .ok info
    | none => .error (.proxy ("stcp proxy " ++ msg.proxyName ++ " not found"))
  if !AuthSigner.verify env.hmac info.sk (i64Text msg.timestamp) msg.skSignature then
    .error (.auth ("stcp visitor sk mismatch for proxy " ++ msg.proxyName))
  else if (env.now - msg.timestamp).abs > 300 then
    .error (.auth "stcp visitor timestamp expired")
  else
    let workTransport ← env.workConn.toResult
    let workTransport ← workTransport.send env.serde env.io
      (.startWorkConn ⟨msg.proxyName, peerAddr, "", ""⟩)
    .ok (copyBidirectional visitorTransport.intoInner workTransport.intoInner)

/-- A visitor that passes the checks is relayed once the work connection is told
to start. -/
theorem handleStcpVisitorConn_eq_ok {env : VisitorEnv} {t work work' : MessageTransport}
    {msg : StcpVisitorConnMsg} {peerAddr : String} {info : StcpProxyInfo}
    (hinfo : env.getStcpInfo msg.proxyName = some info)
    (hsig : AuthSigner.verify env.hmac info.sk (i64Text msg.timestamp) msg.skSignature = true)
    (htime : ¬(env.now - msg.timestamp).abs > 300) (hwork : env.workConn = .arrived work)
    (hstart : work.send env.serde env.io (.startWorkConn ⟨msg.proxyName, peerAddr, "", ""⟩) =
      .ok work') :
    handleStcpVisitorConn env t msg peerAddr =
      .ok (copyBidirectional t.intoInner work'.intoInner) := by
  simp only [handleStcpVisitorConn, bind, Except.bind, hinfo, hsig, htime, hwork, hstart,
    WorkConnOutcome.toResult, Bool.not_true, Bool.false_eq_true, if_false]

/-- An accepted visitor's bytes are relayed from the stream under the transport. -/
theorem aToB_of_handleStcpVisitorConn {env : VisitorEnv} {t : MessageTransport}
    {msg : StcpVisitorConnMsg} {peerAddr : String} {c : Copied}
    (h : handleStcpVisitorConn env t msg peerAddr = .ok c) :
    c.aToB = contents t.stream.reads := by
  simp only [handleStcpVisitorConn, bind, Except.bind] at h
  repeat' split at h
  all_goals cases h
  rfl

/-- The frame is followed by `d`.  Whenever the visitor is accepted, the provider
is sent exactly `d` if and only if some read ends where the frame ends. -/
theorem relayed_iff_read_ends_with_frame {env : VisitorEnv} {msg : StcpVisitorConnMsg}
    {frame d : List UInt8} {reads : List (Chunk UInt8)} {peerAddr : String}
    (hserde : env.serde.RoundTrips (.stcpVisitorConn msg))
    (hframe : MessageCodec.encode env.serde (.stcpVisitorConn msg) [] = (.ok (), frame))
    (hcut : contents reads = frame ++ d) :
    ∃ t, handleTransport env.serde (.fromStream ⟨reads, []⟩) = .ok (.stcpVisitorConn t msg) ∧
      ∀ c, handleStcpVisitorConn env t msg peerAddr = .ok c →
        (c.aToB = d ↔ ∃ p, p <+: reads ∧ contents p = frame) := by
  obtain ⟨t, hrecv, hrest, hcarried⟩ := MessageTransport.recv_frame hserde hframe hcut
  refine ⟨t, by rw [handleTransport, hrecv], fun c hc ↦ ?_⟩
  rw [← hcarried, aToB_of_handleStcpVisitorConn hc, ← hrest]
  exact List.self_eq_append_left

/-! ## Two visitors -/

/-- The handshake of a visitor that knows the secret of `ssh`. -/
def sshVisitor : StcpVisitorConnMsg where
  proxyName := "ssh"
  skSignature := "3bbf0e1d27126f65c2f38a046ac035dfd800000a735debef3707e996a4043bb3"
  timestamp := 1700000000

/-- The JSON text of `sshVisitor`. -/
def sshVisitorJson : List UInt8 := Arp.Lib.Text.bytes
  ("\x7b\"type\":\"StcpVisitorConn\",\"proxy_name\":\"ssh\",\"sk_signature\":\"" ++
    sshVisitor.skSignature ++ "\",\"timestamp\":1700000000\x7d")

/-- The frame of `sshVisitor`. -/
def sshVisitorFrame : List UInt8 := MessageCodec.frame (.stcpVisitorConn sshVisitor) sshVisitorJson

/-- The environment of both connections: `ssh` is registered, its provider
answers, and the foreign code is given by its values on the data at hand. -/
def sshEnv : VisitorEnv where
  serde :=
    { toVec := fun
        | .stcpVisitorConn _ => .ok sshVisitorJson
        | .startWorkConn msg => .ok (Arp.Lib.Text.bytes
            ("\x7b\"type\":\"StartWorkConn\",\"proxy_name\":\"" ++ msg.proxyName ++
              "\",\"src_addr\":\"" ++ msg.srcAddr ++ "\",\"dst_addr\":\"\",\"error\":\"\"\x7d"))
        | _ => .error "not part of the exchange"
      fromSlice := fun json ↦
        if json = sshVisitorJson then .ok (.stcpVisitorConn sshVisitor)
        else .error "expected value at line 1 column 1" }
  hmac := fun _ _ ↦
    [ 0x3b, 0xbf, 0x0e, 0x1d, 0x27, 0x12, 0x6f, 0x65, 0xc2, 0xf3, 0x8a, 0x04, 0x6a, 0xc0, 0x35,
      0xdf, 0xd8, 0x00, 0x00, 0x0a, 0x73, 0x5d, 0xeb, 0xef, 0x37, 0x07, 0xe9, 0x96, 0xa4, 0x04,
      0x3b, 0xb3 ]
  now := 1700000001
  getStcpInfo := fun name ↦
    if name = "ssh" then some ⟨⟨"run-1", by decide⟩, "stcp-secret", 0⟩ else none
  workConn := .arrived (.fromStream ⟨[], []⟩)
  io := .ok ()

theorem sshEnv_roundTrips : sshEnv.serde.RoundTrips (.stcpVisitorConn sshVisitor) := by
  intro json hjson
  obtain rfl := Except.ok.inj hjson
  simp [sshEnv]

theorem sshEnv_encode :
    MessageCodec.encode sshEnv.serde (.stcpVisitorConn sshVisitor) [] = (.ok (), sshVisitorFrame) :=
  @MessageCodec.encode_of_toVec sshEnv.serde _ sshVisitorJson rfl (by decide +kernel) []

/-- The visitor is accepted and gets its work connection. -/
theorem sshEnv_accepts (t : MessageTransport) :
    ∃ c, handleStcpVisitorConn sshEnv t sshVisitor "198.51.100.7:50000" = .ok c := by
  have hsig : AuthSigner.verify sshEnv.hmac "stcp-secret" (i64Text sshVisitor.timestamp)
      sshVisitor.skSignature = true := by decide +kernel
  have htime : ¬(sshEnv.now - sshVisitor.timestamp).abs > 300 := by decide +kernel
  have hstart := @MessageCodec.encode_of_toVec sshEnv.serde
    (.startWorkConn ⟨"ssh", "198.51.100.7:50000", "", ""⟩) _ rfl (by decide +kernel) []
  exact ⟨_, @handleStcpVisitorConn_eq_ok sshEnv t _ _ sshVisitor _
    ⟨⟨"run-1", by decide⟩, "stcp-secret", 0⟩ rfl hsig htime rfl
    (MessageTransport.send_eq_ok _ hstart)⟩

/-- The greeting arrives in a read of its own and reaches the provider. -/
theorem greeting_relayed :
    ∃ t c, handleTransport sshEnv.serde (.fromStream
        ⟨[⟨sshVisitorFrame, List.cons_ne_nil _ _⟩, ⟨[0x53, 0x53, 0x48], by decide⟩], []⟩) =
          .ok (.stcpVisitorConn t sshVisitor) ∧
      handleStcpVisitorConn sshEnv t sshVisitor "198.51.100.7:50000" = .ok c ∧
      c.aToB = [0x53, 0x53, 0x48] := by
  obtain ⟨t, ht, hiff⟩ := @relayed_iff_read_ends_with_frame sshEnv sshVisitor sshVisitorFrame
    [0x53, 0x53, 0x48]
    [⟨sshVisitorFrame, List.cons_ne_nil _ _⟩, ⟨[0x53, 0x53, 0x48], by decide⟩]
    "198.51.100.7:50000" sshEnv_roundTrips sshEnv_encode (by simp)
  obtain ⟨c, hc⟩ := sshEnv_accepts t
  exact ⟨t, c, ht, hc, (hiff c hc).mpr ⟨[⟨sshVisitorFrame, List.cons_ne_nil _ _⟩],
    List.prefix_append _ _, by simp⟩⟩

/-- The greeting arrives together with the frame: the visitor is accepted, and
the provider is sent nothing. -/
theorem greeting_lost :
    ∃ t c, handleTransport sshEnv.serde (.fromStream
        ⟨[⟨sshVisitorFrame ++ [0x53, 0x53, 0x48], by simp⟩], []⟩) =
          .ok (.stcpVisitorConn t sshVisitor) ∧
      handleStcpVisitorConn sshEnv t sshVisitor "198.51.100.7:50000" = .ok c ∧
      c.aToB = [] := by
  obtain ⟨c, hc⟩ := sshEnv_accepts ⟨[0x53, 0x53, 0x48], ⟨[], []⟩⟩
  refine ⟨_, c, ?_, hc, ?_⟩
  · rw [handleTransport, MessageTransport.recv_one_read sshEnv_roundTrips sshEnv_encode rfl]
  · rw [aToB_of_handleStcpVisitorConn hc]
    rfl

end Arp.Server
