import Arp.Common.Config
import Arp.Common.Crypto
import Arp.Common.Message

/-!
# Token authentication

`TokenAuth` accepts a login or a work connection when its key is the signature
of a known message under one of the configured tokens: the main token, an
additional token, or the token of a rule.  A rule narrows what its token may
register.

The last section settles which configurations make a signature mean
knowledge of a secret.  `AuthConfig::validate` insists on a token in every
rule, but lets the main token and the additional tokens be blank; the
signature under a blank token is one that anybody can make.
-/

namespace Arp.Common

open Arp.Lib.Text

/-- `MAX_TIMESTAMP_SKEW`, in seconds. -/
def maxTimestampSkew : Int64 := 300

/-- `to_string` of an `i64`. -/
def i64Text (n : Int64) : String := toString n.toInt

/-- `port_in_ranges`. -/
def portInRanges (port : UInt16) (ranges : List PortRange) : Bool :=
  ranges.any fun range ↦
    if range.single > 0 then port == range.single
    else decide (range.start ≤ port) && decide (port ≤ range.stop)

/-- A range is a single port or an interval. -/
def PortRange.Contains (range : PortRange) (port : UInt16) : Prop :=
  if range.single > 0 then port = range.single else range.start ≤ port ∧ port ≤ range.stop

theorem portInRanges_iff {port : UInt16} {ranges : List PortRange} :
    portInRanges port ranges = true ↔ ∃ range ∈ ranges, range.Contains port := by
  simp only [portInRanges, List.any_eq_true, PortRange.Contains]
  refine exists_congr fun range ↦ and_congr_right fun _ ↦ ?_
  split <;> simp

/-- `TokenAuth`. -/
structure TokenAuth where
  token : String
  additionalTokens : List String
  rules : List AuthRule
deriving DecidableEq, Repr

namespace TokenAuth

/-- `auth::normalize_host`. -/
def normalizeHost (U : UnicodeData) (host : String) : String :=
  toLowercase U (trimEndMatches (trim host) '.')

/-- `TokenAuth::new`. -/
def new (config : AuthConfig) : TokenAuth where
  token := config.token
  additionalTokens := config.additionalTokens
  rules := config.rules

/-- `TokenAuth::matching_rule`. -/
def matchingRule (auth : TokenAuth) (token : String) : Option AuthRule :=
  auth.rules.find? fun rule ↦ rule.token == token

/-! ## Rules -/

/-- The pool size a rule allows; `validate_rule_login` is this check alone, and
`validate_rule_proxy` starts with it. -/
def checkPoolCount (rule : AuthRule) (poolCount : UInt32) : Result Unit :=
  if rule.maxPoolCount > 0 ∧ poolCount > rule.maxPoolCount then
    .error (.auth ("pool_count " ++ toString poolCount ++
      " exceeds token rule max_pool_count " ++ toString rule.maxPoolCount))
  else .ok ()

/-- `TokenAuth::validate_rule_login`. -/
def validateRuleLogin (rule : AuthRule) (msg : LoginMsg) : Result Unit :=
  checkPoolCount rule msg.poolCount

/-- The proxy types a rule allows. -/
def checkProxyType (rule : AuthRule) (msg : NewProxyMsg) : Result Unit :=
  if !rule.allowProxyTypes.isEmpty &&
      !rule.allowProxyTypes.any (eqIgnoreAsciiCase · msg.proxyType) then
    .error (.auth ("proxy type " ++ msg.proxyType ++ " is not allowed for this token"))
  else .ok ()

/-- The ports a rule allows. -/
def checkPorts (rule : AuthRule) (msg : NewProxyMsg) : Result Unit :=
  if rule.allowPorts.isEmpty then .ok ()
  else if msg.remotePort = 0 then
    .error (.auth "this token rule requires a fixed remote_port within allowed ranges")
  else if portInRanges msg.remotePort rule.allowPorts then .ok ()
  else .error (.auth ("remote_port " ++ toString msg.remotePort ++
    " is not allowed for this token"))

/-- The loop over the custom domains, for a rule that confines them. -/
def checkDomains (U : UnicodeData) (rule : AuthRule) : List String → Result Unit
  | [] => .ok ()
  | domain :: rest =>
    let normalized := normalizeHost U domain
    if rule.allowDomainSuffixes.any fun suffix ↦ endsWith normalized (normalizeHost U suffix) then
      checkDomains U rule rest
    else .error (.auth ("domain " ++ domain ++ " is not allowed for this token"))

/-- The subdomain a rule allows. -/
def checkSubdomain (U : UnicodeData) (rule : AuthRule) (msg : NewProxyMsg) : Result Unit :=
  if isBlank msg.subdomain || rule.allowSubdomainPrefixes.isEmpty then .ok ()
  else
    let subdomain := toLowercase U (trim msg.subdomain)
    if rule.allowSubdomainPrefixes.any fun pre ↦
        startsWith subdomain (toLowercase U (trim pre)) then .ok ()
    else .error (.auth ("subdomain " ++ msg.subdomain ++ " is not allowed for this token"))

/-- `TokenAuth::validate_rule_proxy`. -/
def validateRuleProxy (U : UnicodeData) (rule : AuthRule) (poolCount : UInt32)
    (msg : NewProxyMsg) : Result Unit := do
  checkPoolCount rule poolCount
  checkProxyType rule msg
  checkPorts rule msg
  if !rule.allowDomainSuffixes.isEmpty then
    checkDomains U rule msg.customDomains
  checkSubdomain U rule msg

/-- `TokenAuth::authorize_proxy`.  The key is the token matched at login. -/
def authorizeProxy (U : UnicodeData) (auth : TokenAuth) (privilegeKey : String)
    (poolCount : UInt32) (msg : NewProxyMsg) : Result Unit :=
  if privilegeKey == auth.token || auth.additionalTokens.any (· == privilegeKey) ||
      auth.rules.any (·.token == privilegeKey) then
    match auth.matchingRule privilegeKey with
    | some rule => validateRuleProxy U rule poolCount msg
    | none => .ok ()
  else .error (.auth "Invalid token")

/-- What the loop over the domains accepts: every domain ends in an allowed
suffix, as plain text. -/
theorem checkDomains_eq_ok {U : UnicodeData} {rule : AuthRule} {domains : List String} :
    checkDomains U rule domains = .ok () ↔
      ∀ domain ∈ domains, ∃ suffix ∈ rule.allowDomainSuffixes,
        (normalizeHost U suffix).toList <:+ (normalizeHost U domain).toList := by
  induction domains with
  | nil => simp [checkDomains]
  | cons domain rest ih =>
      rw [List.forall_mem_cons, ← ih, checkDomains]
      simp only [List.any_eq_true, endsWith_iff]
      constructor
      · intro h
        split at h
        · next hany => exact ⟨hany, h⟩
        · cases h
      · rintro ⟨hany, hrest⟩
        rw [if_pos hany, hrest]

/-- A rule accepts a message that passes each of its checks. -/
theorem validateRuleProxy_eq_ok {U : UnicodeData} {rule : AuthRule} {poolCount : UInt32}
    {msg : NewProxyMsg} (h : validateRuleProxy U rule poolCount msg = .ok ()) :
    checkPoolCount rule poolCount = .ok () ∧ checkProxyType rule msg = .ok () ∧
      checkPorts rule msg = .ok () ∧
      (rule.allowDomainSuffixes ≠ [] → checkDomains U rule msg.customDomains = .ok ()) ∧
      checkSubdomain U rule msg = .ok () := by
  simp only [validateRuleProxy, bind, Except.bind] at h
  cases hpool : checkPoolCount rule poolCount with
  | error e => simp [hpool] at h
  | ok _ =>
      cases htype : checkProxyType rule msg with
      | error e => simp [hpool, htype] at h
      | ok _ =>
          cases hports : checkPorts rule msg with
          | error e => simp [hpool, htype, hports] at h
          | ok _ =>
              simp only [hpool, htype, hports] at h
              refine ⟨rfl, rfl, rfl, ?_, ?_⟩
              · intro hne
                have hne' : rule.allowDomainSuffixes.isEmpty = false := by simpa using hne
                cases hdomains : checkDomains U rule msg.customDomains with
                | error e => simp [hne', hdomains] at h
                | ok _ => rfl
              · cases hsub : checkSubdomain U rule msg with
                | ok _ => rfl
                | error e =>
                    rw [hsub] at h
                    split at h
                    · split at h <;> cases h
                    · cases h

/-- An accepted message has passed the rule of its token. -/
theorem validateRuleProxy_of_authorizeProxy {U : UnicodeData} {auth : TokenAuth} {key : String}
    {poolCount : UInt32} {msg : NewProxyMsg} {rule : AuthRule}
    (hrule : auth.matchingRule key = some rule)
    (h : authorizeProxy U auth key poolCount msg = .ok ()) :
    validateRuleProxy U rule poolCount msg = .ok () := by
  unfold authorizeProxy at h
  split at h
  · rw [hrule] at h
    exact h
  · cases h

/-- An accepted message under a rule that confines domains has passed the loop
over its domains. -/
theorem checkDomains_of_authorizeProxy {U : UnicodeData} {auth : TokenAuth} {key : String}
    {poolCount : UInt32} {msg : NewProxyMsg} {rule : AuthRule}
    (hrule : auth.matchingRule key = some rule) (hne : rule.allowDomainSuffixes ≠ [])
    (h : authorizeProxy U auth key poolCount msg = .ok ()) :
    checkDomains U rule msg.customDomains = .ok () :=
  (validateRuleProxy_eq_ok (validateRuleProxy_of_authorizeProxy hrule h)).2.2.2.1 hne

/-- A rule that confines ports accepts a fixed port in one of its ranges only. -/
theorem checkPorts_eq_ok {rule : AuthRule} {msg : NewProxyMsg} (hne : rule.allowPorts ≠ [])
    (h : checkPorts rule msg = .ok ()) :
    msg.remotePort ≠ 0 ∧ ∃ range ∈ rule.allowPorts, range.Contains msg.remotePort := by
  unfold checkPorts at h
  rw [if_neg (by simpa using hne)] at h
  split at h
  · cases h
  · next hfixed =>
      split at h
      · next hin => exact ⟨hfixed, portInRanges_iff.mp hin⟩
      · cases h

/-! ## Signatures -/

section Signatures

variable (hmac : List UInt8 → List UInt8 → List UInt8)

/-- `TokenAuth::find_matching_token`: the three lookup loops, in order. -/
def findMatchingToken (auth : TokenAuth) (signature message : String) : Option String :=
  if AuthSigner.verify hmac auth.token message signature then some auth.token
  else
    match auth.additionalTokens.find? (AuthSigner.verify hmac · message signature) with
    | some t => some t
    | none =>
      (auth.rules.find? fun rule ↦ AuthSigner.verify hmac rule.token message signature).map
        (·.token)

/-- `TokenAuth::check_timestamp` at the server time `now`.  The arithmetic is
that of a release build, which wraps. -/
def checkTimestamp (now ts : Int64) : Result Unit :=
  if (now - ts).abs > maxTimestampSkew then
    .error (.auth ("timestamp skew too large: client=" ++ i64Text ts ++ ", server=" ++
      i64Text now ++ ", diff=" ++ i64Text (now - ts).abs ++ "s, max=" ++
      i64Text maxTimestampSkew ++ "s"))
  else .ok ()

/-- `verify_login` of `TokenAuth`: the matched token, if there is one. -/
def verifyLogin (auth : TokenAuth) (now : Int64) (msg : LoginMsg) : Result String := do
  checkTimestamp now msg.timestamp
  match findMatchingToken hmac auth msg.privilegeKey (i64Text msg.timestamp) with
  | none => .error (.auth "Invalid token (HMAC mismatch)")
  | some rawToken =>
    match auth.matchingRule rawToken with
    | some rule => validateRuleLogin rule msg
    | none => pure ()
    pure rawToken

/-- `verify_new_work_conn` of `TokenAuth`. -/
def verifyNewWorkConn (auth : TokenAuth) (msg : NewWorkConnMsg) : Result Unit :=
  if (findMatchingToken hmac auth msg.privilegeKey msg.runId).isSome then .ok ()
  else .error (.auth "Invalid token (HMAC mismatch)")

/-- All tokens an authenticator knows. -/
def tokens (auth : TokenAuth) : List String :=
  auth.token :: auth.additionalTokens ++ auth.rules.map (·.token)

/-- A token found is a known one, and the signature is its signature. -/
theorem findMatchingToken_some {auth : TokenAuth} {signature message t : String}
    (h : findMatchingToken hmac auth signature message = some t) :
    t ∈ auth.tokens ∧ AuthSigner.sign hmac t message = signature := by
  unfold findMatchingToken at h
  split at h
  · next hv =>
      obtain rfl := Option.some.inj h
      exact ⟨List.mem_cons_self, (AuthSigner.verify_iff hmac).mp hv⟩
  · split at h
    · next t' ht =>
        obtain rfl := Option.some.inj h
        have hv := List.find?_some ht
        refine ⟨?_, (AuthSigner.verify_iff hmac).mp hv⟩
        exact List.mem_cons_of_mem _ (List.mem_append_left _ (List.mem_of_find?_eq_some ht))
    · obtain ⟨rule, hr, rfl⟩ := Option.map_eq_some_iff.mp h
      have hv := List.find?_some hr
      refine ⟨?_, (AuthSigner.verify_iff hmac).mp hv⟩
      exact List.mem_cons_of_mem _ (List.mem_append_right _
        (List.mem_map_of_mem (List.mem_of_find?_eq_some hr)))

/-- The signature under a known token is always matched. -/
theorem findMatchingToken_isSome {auth : TokenAuth} {message t : String}
    (ht : t ∈ auth.tokens) :
    (findMatchingToken hmac auth (AuthSigner.sign hmac t message) message).isSome := by
  have hv : AuthSigner.verify hmac t message (AuthSigner.sign hmac t message) = true :=
    (AuthSigner.verify_iff hmac).mpr rfl
  unfold findMatchingToken
  split
  · rfl
  · next hmain =>
      split
      · rfl
      · next hadd =>
          rcases List.mem_cons.mp ht with rfl | ht
          · exact absurd hv hmain
          · rcases List.mem_append.mp ht with ht | ht
            · exact absurd hv (List.find?_eq_none.mp hadd t ht)
            · obtain ⟨rule, hr, rfl⟩ := List.mem_map.mp ht
              rw [Option.isSome_map, List.find?_isSome]
              exact ⟨rule, hr, hv⟩

/-- A successful login names a known token that signed its timestamp. -/
theorem verifyLogin_eq_ok {auth : TokenAuth} {now : Int64} {msg : LoginMsg} {t : String}
    (h : verifyLogin hmac auth now msg = .ok t) :
    t ∈ auth.tokens ∧ AuthSigner.sign hmac t (i64Text msg.timestamp) = msg.privilegeKey := by
  simp only [verifyLogin, bind, Except.bind] at h
  split at h
  · cases h
  · split at h
    · cases h
    · next t' ht =>
        have htt : t' = t := by
          split at h
          · split at h
            · cases h
            · exact Except.ok.inj h
          · exact Except.ok.inj h
        exact htt ▸ findMatchingToken_some hmac ht

/-- A timely login that a token is found for succeeds if the rule of the token does not
object. -/
theorem verifyLogin_ok {auth : TokenAuth} {now : Int64} {msg : LoginMsg} {t : String}
    (htime : checkTimestamp now msg.timestamp = .ok ())
    (htoken : findMatchingToken hmac auth msg.privilegeKey (i64Text msg.timestamp) = some t)
    (hrule : ∀ rule, auth.matchingRule t = some rule → validateRuleLogin rule msg = .ok ()) :
    verifyLogin hmac auth now msg = .ok t := by
  simp only [verifyLogin, bind, Except.bind, htime, htoken]
  cases hmatch : auth.matchingRule t with
  | none => rfl
  | some rule =>
      dsimp only
      rw [hrule rule hmatch]
      rfl

/-- A work connection is accepted exactly when some known token signed its run id. -/
theorem verifyNewWorkConn_eq_ok {auth : TokenAuth} {msg : NewWorkConnMsg} :
    verifyNewWorkConn hmac auth msg = .ok () ↔
      ∃ t ∈ auth.tokens, AuthSigner.sign hmac t msg.runId = msg.privilegeKey := by
  unfold verifyNewWorkConn
  constructor
  · intro h
    split at h
    · next hs =>
        obtain ⟨t, ht⟩ := Option.isSome_iff_exists.mp hs
        exact ⟨t, findMatchingToken_some hmac ht⟩
    · cases h
  · rintro ⟨t, ht, hs⟩
    rw [if_pos (hs ▸ findMatchingToken_isSome hmac ht)]

/-! ## Which configurations make a signature mean a secret -/

/-- The key is the signature of the message under a configured token that is
not blank. -/
def SignedBySecret (config : AuthConfig) (message key : String) : Prop :=
  ∃ t ∈ (new config).tokens, isBlank t = false ∧ key = AuthSigner.sign hmac t message

/-- Logins and work connections are accepted from holders of a non-blank token
only, and never from a peer that signs with the empty key. -/
structure OnlySecretHolders (config : AuthConfig) : Prop where
  login : ∀ now msg t, verifyLogin hmac (new config) now msg = .ok t →
    SignedBySecret hmac config (i64Text msg.timestamp) msg.privilegeKey
  workConn : ∀ msg, verifyNewWorkConn hmac (new config) msg = .ok () →
    SignedBySecret hmac config msg.runId msg.privilegeKey
  loginEmptyKey : ∀ now msg,
    msg.privilegeKey = AuthSigner.sign hmac "" (i64Text msg.timestamp) →
    ∀ t, verifyLogin hmac (new config) now msg ≠ .ok t
  workConnEmptyKey : ∀ msg, msg.privilegeKey = AuthSigner.sign hmac "" msg.runId →
    verifyNewWorkConn hmac (new config) msg ≠ .ok ()

/-- A signature under a non-blank token is not one under the empty key. -/
theorem SignedBySecret.ne_empty {hmac : List UInt8 → List UInt8 → List UInt8}
    (hinj : ∀ m, Function.Injective fun k ↦ hmac k m) {config : AuthConfig}
    {message key : String} (h : SignedBySecret hmac config message key) :
    key ≠ AuthSigner.sign hmac "" message := by
  obtain ⟨t, -, hb, rfl⟩ := h
  intro he
  obtain rfl := AuthSigner.sign_inj hmac hinj he
  exact absurd isBlank_empty (by rw [hb]; decide)

/-- Blank tokens of an accepted configuration sit among the main and the
additional ones. -/
theorem isBlank_eq_false_of_mem_tokens {config : AuthConfig} (hv : config.validate = .ok ())
    (hmain : isBlank config.token = false)
    (hadd : ∀ t ∈ config.additionalTokens, isBlank t = false) {t : String}
    (ht : t ∈ (new config).tokens) : isBlank t = false := by
  rcases List.mem_cons.mp ht with rfl | ht
  · exact hmain
  · rcases List.mem_append.mp ht with ht | ht
    · exact hadd t ht
    · obtain ⟨rule, hr, rfl⟩ := List.mem_map.mp ht
      exact AuthConfig.isBlank_of_validate hv hr

/-- An accepted configuration admits secret holders only, exactly when its main
token and all its additional tokens are non-blank. -/
theorem onlySecretHolders_iff (hinj : ∀ m, Function.Injective fun k ↦ hmac k m)
    (config : AuthConfig) (hv : config.validate = .ok ()) :
    OnlySecretHolders hmac config ↔
      isBlank config.token = false ∧ ∀ t ∈ config.additionalTokens, isBlank t = false := by
  constructor
  · intro h
    -- A blank token would sign a work connection that no other token signs.
    have key : ∀ t ∈ (new config).tokens, isBlank t = false := by
      intro t ht
      obtain ⟨t', -, hb, hs⟩ := h.workConn ⟨"run", AuthSigner.sign hmac t "run"⟩
        ((verifyNewWorkConn_eq_ok hmac).mpr ⟨t, ht, rfl⟩)
      exact AuthSigner.sign_inj hmac hinj hs ▸ hb
    refine ⟨key _ List.mem_cons_self, fun t ht ↦ key t ?_⟩
    exact List.mem_cons_of_mem _ (List.mem_append_left _ ht)
  · rintro ⟨hmain, hadd⟩
    have login : ∀ now msg t, verifyLogin hmac (new config) now msg = .ok t →
        SignedBySecret hmac config (i64Text msg.timestamp) msg.privilegeKey := by
      intro now msg t h
      obtain ⟨ht, hs⟩ := verifyLogin_eq_ok hmac h
      exact ⟨t, ht, isBlank_eq_false_of_mem_tokens hv hmain hadd ht, hs.symm⟩
    have workConn : ∀ msg, verifyNewWorkConn hmac (new config) msg = .ok () →
        SignedBySecret hmac config msg.runId msg.privilegeKey := by
      intro msg h
      obtain ⟨t, ht, hs⟩ := (verifyNewWorkConn_eq_ok hmac).mp h
      exact ⟨t, ht, isBlank_eq_false_of_mem_tokens hv hmain hadd ht, hs.symm⟩
    exact ⟨login, workConn,
      fun now msg he t h ↦ (login now msg t h).ne_empty hinj he,
      fun msg he h ↦ (workConn msg h).ne_empty hinj he⟩

end Signatures

/-- An HMAC that is injective in its key and gives the real digests of
`"1700000000"` under the empty key and under `"root-token"`. -/
def sampleHmac (key message : List UInt8) : List UInt8 :=
  if message = bytes "1700000000" ∧ key = [] then
    [128, 68, 223, 220, 201, 226, 171, 242, 176, 134, 173, 160, 156, 65, 21, 22, 140, 93, 218,
      142, 79, 140, 108, 184, 34, 83, 249, 243, 154, 237, 212, 251]
  else if message = bytes "1700000000" ∧ key = bytes "root-token" then
    [166, 249, 247, 230, 142, 248, 123, 118, 135, 7, 111, 92, 255, 109, 103, 57, 77, 114, 16,
      167, 173, 188, 187, 179, 33, 97, 174, 41, 160, 222, 120, 66]
  else 0 :: key

theorem sampleHmac_injective (m : List UInt8) : Function.Injective fun k ↦ sampleHmac k m := by
  intro k k' h
  simp only [sampleHmac] at h
  split at h <;> split at h <;> (try split at h) <;> (try split at h) <;> simp_all

/-- A configuration with a main and an additional token. -/
def sampleConfig : AuthConfig := ⟨"token", "root-token", ["extra-token"], []⟩

theorem onlySecretHolders_sampleConfig :
    sampleConfig.validate = .ok () ∧ OnlySecretHolders sampleHmac sampleConfig :=
  ⟨rfl, (onlySecretHolders_iff sampleHmac sampleHmac_injective sampleConfig rfl).mpr
    ⟨by decide, by decide⟩⟩

/-- A configuration that leaves the main token blank beside an additional one. -/
def blankTokenConfig : AuthConfig := ⟨"token", "", ["extra-token"], []⟩

/-- A login at 1700000000 signed with the empty key. -/
def anonymousLogin : LoginMsg where
  version := "0.4.2"
  hostname := ""
  os := "linux"
  arch := "x86_64"
  user := ""
  clientId := "intruder"
  timestamp := 1700000000
  privilegeKey := "8044dfdcc9e2abf2b086ada09c4115168c5dda8e4f8c6cb82253f9f39aedd4fb"
  runId := ""
  poolCount := 1

/-- The validated configuration with a blank main token lets a peer log in that
knows nothing but the empty string. -/
theorem blankTokenConfig_admits_anonymous :
    blankTokenConfig.validate = .ok () ∧
      verifyLogin sampleHmac (new blankTokenConfig) 1700000000 anonymousLogin = .ok "" ∧
      ¬ OnlySecretHolders sampleHmac blankTokenConfig :=
  ⟨rfl, rfl, fun h ↦ h.loginEmptyKey 1700000000 anonymousLogin (by decide) "" rfl⟩

end TokenAuth

end Arp.Common
