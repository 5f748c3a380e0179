import Arp.Lib.Checked
import Arp.Server.Stcp

/-!
# Timestamps of clients

A login and an STCP visitor both carry a timestamp of the client's choice, which is to
lie within 300 seconds of the server's clock.  The test takes the difference in 64 bits.
A release build wraps there and a build with overflow checks ends the task; both do what
was meant exactly if the timestamp is less than 2^63 seconds behind the clock.  At that
distance the wrapped difference is the least number, which is its own absolute value and
below every bound.
-/

namespace Arp.Server

open Arp.Common Arp.Lib Arp.Lib.Checked

/-! ## The tests with overflow checks -/

/-- `(now - ts).abs()`. -/
def absDiff (now ts : Int64) : Checked Int64 := do
  let diff ← subI64 now ts
  absI64 diff

/-- `TokenAuth::check_timestamp` where overflow is checked. -/
def checkTimestampChecked (now ts : Int64) : Checked (Result Unit) := do
  if (← absDiff now ts) > maxTimestampSkew then
    let diff ← absDiff now ts
    return .error (.auth ("timestamp skew too large: client=" ++ i64Text ts ++ ", server=" ++
      i64Text now ++ ", diff=" ++ i64Text diff ++ "s, max=" ++ i64Text maxTimestampSkew ++ "s"))
  return .ok ()

/-- `handle_stcp_visitor_conn` once the timestamp has been accepted. -/
def serveVisitor (env : VisitorEnv) (visitorTransport : MessageTransport)
    (msg : StcpVisitorConnMsg) (peerAddr : String) : Result Copied := do
  let workTransport ← env.workConn.toResult
  let workTransport ← workTransport.send env.serde env.io
    (.startWorkConn ⟨msg.proxyName, peerAddr, "", ""⟩)
  .ok (copyBidirectional visitorTransport.intoInner workTransport.intoInner)

/-- `Service::handle_stcp_visitor_conn` where overflow is checked. -/
def handleStcpVisitorConnChecked (env : VisitorEnv) (visitorTransport : MessageTransport)
    (msg : StcpVisitorConnMsg) (peerAddr : String) : Checked (Result Copied) := do
  match env.getStcpInfo msg.proxyName with
  | none => return .error (.proxy ("stcp proxy " ++ msg.proxyName ++ " not found"))
  | some info =>
    if !AuthSigner.verify env.hmac info.sk (i64Text msg.timestamp) msg.skSignature then
      return .error (.auth ("stcp visitor sk mismatch for proxy " ++ msg.proxyName))
    if (← absDiff env.now msg.timestamp) > 300 then
      return .error (.auth "stcp visitor timestamp expired")
    return serveVisitor env visitorTransport msg peerAddr

/-! ## What was meant -/

/-- Seconds between two times. -/
def secondsApart (now ts : Int64) : Nat := (now.toInt - ts.toInt).natAbs

/-- The test at login accepts what lies within 300 seconds, and overflow checks make no
difference. -/
structure LoginExact (now ts : Int64) : Prop where
  checked : checkTimestampChecked now ts = value (TokenAuth.checkTimestamp now ts)
  accepts_iff : TokenAuth.checkTimestamp now ts = .ok () ↔ secondsApart now ts ≤ 300

/-- A visitor with the right signature is served if its timestamp lies within 300
seconds and refused otherwise, and overflow checks make no difference. -/
structure VisitorExact (env : VisitorEnv) (t : MessageTransport) (msg : StcpVisitorConnMsg)
    (peerAddr : String) : Prop where
  checked : handleStcpVisitorConnChecked env t msg peerAddr =
    value (handleStcpVisitorConn env t msg peerAddr)
  accepts_iff : handleStcpVisitorConn env t msg peerAddr =
    if secondsApart env.now msg.timestamp ≤ 300 then serveVisitor env t msg peerAddr
    else .error (.auth "stcp visitor timestamp expired")

/-! ## The difference -/

section Difference

variable {now ts : Int64}

theorem toInt_now_sub (hnow : 0 ≤ now) : -9223372036854775808 < now.toInt - ts.toInt := by
  have hts := ts.toInt_lt
  have hnow := Int64.le_iff_toInt_le.mp hnow
  rw [Int64.toInt_zero] at hnow
  omega

/-- Nothing overflows if the timestamp is less than 2^63 seconds behind. -/
theorem absDiff_eq (hnow : 0 ≤ now) (hts : now.toInt - 9223372036854775808 < ts.toInt) :
    absDiff now ts = value (now - ts).abs ∧ (now - ts).abs.toInt = secondsApart now ts := by
  have hlo : -9223372036854775808 < now.toInt - ts.toInt := toInt_now_sub hnow
  have hsub : (now - ts).toInt = now.toInt - ts.toInt := toInt_sub_eq hlo.le (by omega)
  have habs : (now - ts).abs.toInt = (now - ts).toInt.natAbs := toInt_abs_eq (hsub ▸ hlo)
  refine ⟨?_, ?_⟩
  · rw [absDiff, subI64, if_pos hsub, value_bind, absI64, if_pos habs]
  · rw [habs, hsub, secondsApart]

/-- The subtraction overflows if the timestamp is 2^63 seconds behind or more. -/
theorem absDiff_fault (hts : ts.toInt ≤ now.toInt - 9223372036854775808) :
    absDiff now ts = fault := by
  have hlt := (now - ts).toInt_lt
  rw [absDiff, subI64, if_neg (by omega)]
  rfl

/-- The comparison with 300 seconds is that of the integers unless something overflows. -/
theorem abs_gt_iff (hnow : 0 ≤ now) (hts : now.toInt - 9223372036854775808 < ts.toInt) :
    (now - ts).abs > 300 ↔ ¬ secondsApart now ts ≤ 300 := by
  rw [gt_iff_lt, Int64.lt_iff_toInt_lt, (absDiff_eq hnow hts).2, Nat.not_le]
  exact Int.ofNat_lt

end Difference

/-! ## When the tests are exact -/

theorem loginExact_iff {now ts : Int64} (hnow : 0 ≤ now) :
    LoginExact now ts ↔ now.toInt - 9223372036854775808 < ts.toInt := by
  constructor
  · intro h
    by_contra hts
    have hchecked := h.checked
    rw [checkTimestampChecked, absDiff_fault (by omega)] at hchecked
    cases hchecked
  · intro hts
    have hgt : (now - ts).abs > maxTimestampSkew ↔ ¬secondsApart now ts ≤ 300 :=
      abs_gt_iff hnow hts
    constructor
    · rw [checkTimestampChecked, (absDiff_eq hnow hts).1, TokenAuth.checkTimestamp]
      simp only [value_bind]
      split
      · rfl
      · rfl
    · rw [TokenAuth.checkTimestamp]
      split
      · next hlate =>
          constructor
          · intro h
            cases h
          · intro h
            exact absurd h (hgt.mp hlate)
      · next hclose => exact ⟨fun _ ↦ not_not.mp (mt hgt.mpr hclose), fun _ ↦ rfl⟩

section Visitors

variable {env : VisitorEnv} {t : MessageTransport} {msg : StcpVisitorConnMsg} {peerAddr : String}
  {info : StcpProxyInfo}

/-- What is left of the handler once the signature has been checked. -/
theorem handleStcpVisitorConn_eq (hinfo : env.getStcpInfo msg.proxyName = some info)
    (hsig : AuthSigner.verify env.hmac info.sk (i64Text msg.timestamp) msg.skSignature = true) :
    handleStcpVisitorConn env t msg peerAddr =
      if (env.now - msg.timestamp).abs > 300 then
        .error (.auth "stcp visitor timestamp expired")
      else serveVisitor env t msg peerAddr := by
  rw [handleStcpVisitorConn, hinfo]
  change (if (!AuthSigner.verify env.hmac info.sk (i64Text msg.timestamp) msg.skSignature) = true
    then _ else _) = _
  rw [hsig]
  rfl

theorem handleStcpVisitorConnChecked_eq (hinfo : env.getStcpInfo msg.proxyName = some info)
    (hsig : AuthSigner.verify env.hmac info.sk (i64Text msg.timestamp) msg.skSignature = true) :
    handleStcpVisitorConnChecked env t msg peerAddr = (do
      if (← absDiff env.now msg.timestamp) > 300 then
        return .error (.auth "stcp visitor timestamp expired")
      return serveVisitor env t msg peerAddr) := by
  rw [handleStcpVisitorConnChecked, hinfo]
  change (if (!AuthSigner.verify env.hmac info.sk (i64Text msg.timestamp) msg.skSignature) = true
    then _ else _) = _
  rw [hsig]
  rfl

theorem visitorExact_iff (hnow : 0 ≤ env.now) (hinfo : env.getStcpInfo msg.proxyName = some info)
    (hsig : AuthSigner.verify env.hmac info.sk (i64Text msg.timestamp) msg.skSignature = true) :
    VisitorExact env t msg peerAddr ↔
      env.now.toInt - 9223372036854775808 < msg.timestamp.toInt := by
  constructor
  · intro h
    by_contra hts
    have hchecked := h.checked
    rw [handleStcpVisitorConnChecked_eq hinfo hsig, absDiff_fault (by omega)] at hchecked
    cases hchecked
  · intro hts
    constructor
    · rw [handleStcpVisitorConnChecked_eq hinfo hsig, handleStcpVisitorConn_eq hinfo hsig,
        (absDiff_eq hnow hts).1, value_bind]
      split
      · rfl
      · rfl
    · rw [handleStcpVisitorConn_eq hinfo hsig]
      by_cases hlate : (env.now - msg.timestamp).abs > 300
      · rw [if_pos hlate, if_neg ((abs_gt_iff hnow hts).mp hlate)]
      · rw [if_neg hlate, if_pos (not_not.mp (mt (abs_gt_iff hnow hts).mpr hlate))]

end Visitors

/-- With a clock that is not before 1970, the timestamp tests at login and for visitors
do what was meant exactly if the timestamp is less than 2^63 seconds behind the clock. -/
theorem timestamps_exact_iff {now ts : Int64} (hnow : 0 ≤ now) :
    (LoginExact now ts ↔ now.toInt - 9223372036854775808 < ts.toInt) ∧
      ∀ (env : VisitorEnv) (t : MessageTransport) (msg : StcpVisitorConnMsg) (peerAddr : String)
        (info : StcpProxyInfo), env.now = now → msg.timestamp = ts →
        env.getStcpInfo msg.proxyName = some info →
        AuthSigner.verify env.hmac info.sk (i64Text msg.timestamp) msg.skSignature = true →
        (VisitorExact env t msg peerAddr ↔ now.toInt - 9223372036854775808 < ts.toInt) := by
  refine ⟨loginExact_iff hnow, ?_⟩
  rintro env t msg peerAddr info rfl rfl hinfo hsig
  exact visitorExact_iff hnow hinfo hsig

/-! ## A timestamp 2^63 seconds behind -/

/-- A visitor whose timestamp lies 2^63 seconds before 1700000001, signed with the secret of
`ssh`. -/
def ancientVisitor : StcpVisitorConnMsg where
  proxyName := "ssh"
  skSignature := "6db7a4545f11c0d9d41ca66c41a1f1f60433ba3e57dc02a53ca023cd66fc7f6a"
  timestamp := -9223372035154775807

/-- The environment of `sshEnv`, with the HMAC of this timestamp. -/
def ancientEnv : VisitorEnv :=
  { sshEnv with
    hmac := fun _ _ ↦
      [ 0x6d, 0xb7, 0xa4, 0x54, 0x5f, 0x11, 0xc0, 0xd9, 0xd4, 0x1c, 0xa6, 0x6c, 0x41, 0xa1, 0xf1,
        0xf6, 0x04, 0x33, 0xba, 0x3e, 0x57, 0xdc, 0x02, 0xa5, 0x3c, 0xa0, 0x23, 0xcd, 0x66, 0xfc,
        0x7f, 0x6a ] }

/-- A timestamp 2^63 seconds behind the clock is accepted by a release build, at login and
from a visitor; with overflow checks the task ends. -/
theorem ancient_timestamp_accepted :
    TokenAuth.checkTimestamp 1700000001 (-9223372035154775807) = .ok () ∧
      secondsApart 1700000001 (-9223372035154775807) = 9223372036854775808 ∧
      checkTimestampChecked 1700000001 (-9223372035154775807) = fault ∧
      (∃ t c, handleStcpVisitorConn ancientEnv t ancientVisitor "198.51.100.7:50000" = .ok c) ∧
      ¬ LoginExact 1700000001 (-9223372035154775807) := by
  have hclose : ¬((1700000001 : Int64) - -9223372035154775807).abs > maxTimestampSkew := by decide
  have hfault : checkTimestampChecked 1700000001 (-9223372035154775807) = fault := by
    rw [checkTimestampChecked, absDiff_fault (by decide)]
    rfl
  refine ⟨if_neg hclose, by decide, hfault, ?_, ?_⟩
  · have hsig : AuthSigner.verify ancientEnv.hmac "stcp-secret" (i64Text ancientVisitor.timestamp)
        ancientVisitor.skSignature = true := by decide +kernel
    have hstart := @MessageCodec.encode_of_toVec ancientEnv.serde
      (.startWorkConn ⟨"ssh", "198.51.100.7:50000", "", ""⟩) _ rfl (by decide +kernel) []
    exact ⟨⟨[], ⟨[], []⟩⟩, _, @handleStcpVisitorConn_eq_ok ancientEnv _ _ _ ancientVisitor _
      ⟨⟨"run-1", by decide⟩, "stcp-secret", 0⟩ rfl hsig hclose rfl
      (MessageTransport.send_eq_ok _ hstart)⟩
  · rw [loginExact_iff (by decide)]
    decide

theorem timestamps_exact_recent :
    LoginExact 1700000001 1700000000 ∧
      VisitorExact sshEnv ⟨[], ⟨[], []⟩⟩ sshVisitor "198.51.100.7:50000" := by
  have hnow : (0 : Int64) ≤ 1700000001 := by decide
  obtain ⟨hlogin, hvisitor⟩ := @timestamps_exact_iff 1700000001 1700000000 hnow
  refine ⟨hlogin.mpr (by decide), ?_⟩
  have hsig : AuthSigner.verify sshEnv.hmac "stcp-secret" (i64Text sshVisitor.timestamp)
      sshVisitor.skSignature = true := by decide +kernel
  exact (hvisitor sshEnv _ sshVisitor _ ⟨⟨"run-1", by decide⟩, "stcp-secret", 0⟩ rfl rfl rfl
    hsig).mpr (by decide)

end Arp.Server
