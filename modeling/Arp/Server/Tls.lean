import Arp.Lib.Vectors
import Arp.Server.Hosts

/-!
# The server name of a TLS client

`parse_tls_sni` walks a handshake record by position: past the version and random
of the ClientHello, then past three fields that carry their length, into the
extension block, and in the first server name extension to the first host name.

On the serialization of a ClientHello it finds what the format says
(`parseTlsSni_record`).  On other bytes it may go further than it should: the two
lengths of the handshake are compared with the length of the slice, and from then on
only the slice bounds the walk.  The last section compares it with a parser that
does not look past the announced end of the handshake.
-/

namespace Arp.Server

open Arp.Common Arp.Lib Arp.Lib.Framing Arp.Lib.Text Arp.Lib.Vectors

/-! ## The parser -/

/-- The length of the record: `u16::from_be_bytes([record[3], record[4]])`. -/
def recLen (record : List UInt8) : Nat := beAt record 3 2

/-- The length of the handshake message, in three bytes. -/
def hsLen (record : List UInt8) : Nat := beAt record 6 3

/-- The inner loop: where the first host name of a server name list stands.  Every
turn moves on by three bytes at least, so the first argument does not run out. -/
def serverNameLoop (record : List UInt8) (snEnd : Nat) : Nat → Nat → Option (Nat × Nat)
  | 0, _ => none
  | fuel + 1, snPos =>
    if snPos + 3 ≤ snEnd then
      let nameType := beAt record snPos 1
      let nameLen := beAt record (snPos + 1) 2
      if snPos + 3 + nameLen > snEnd then none
      else if nameType = 0 then some (snPos + 3, nameLen)
      else serverNameLoop record snEnd fuel (snPos + 3 + nameLen)
    else none

/-- The outer loop: where the host name stands in the first server name extension.
Every turn moves on by four bytes at least. -/
def extensionLoop (record : List UInt8) (extensionsEnd : Nat) : Nat → Nat → Option (Nat × Nat)
  | 0, _ => none
  | fuel + 1, pos =>
    if pos + 4 ≤ extensionsEnd then
      let extType := beAt record pos 2
      let extLen := beAt record (pos + 2) 2
      if pos + 4 + extLen > extensionsEnd then none
      else if extType = 0 then
        if extLen < 2 then none
        else serverNameLoop record (pos + 4 + extLen) (extLen - 2) (pos + 4 + 2)
      else extensionLoop record extensionsEnd fuel (pos + 4 + extLen)
    else none

/-- The walk over the ClientHello from the session id on. -/
def helloHostName (record : List UInt8) : Option (Nat × Nat) := do
  let pos ← skipVector record (9 + 2 + 32) 1
  let pos ← skipVector record pos 2
  let pos ← skipVector record pos 1
  let extensionsEnd ← skipVector record pos 2
  if extensionsEnd > record.length then none
  else extensionLoop record extensionsEnd (extensionsEnd - (pos + 2)) (pos + 2)

/-- The host name the walk finds, if it is text. -/
def helloSni (record : List UInt8) : Option String :=
  (helloHostName record).bind fun span ↦ ofBytes (slice record span.1 span.2)

/-- `parse_tls_sni`. -/
def parseTlsSni (record : List UInt8) : Option String :=
  if record.length < 5 ∨ beAt record 0 1 ≠ 0x16 then none
  else if recLen record + 5 > record.length then none
  else if 5 + 4 > record.length ∨ beAt record 5 1 ≠ 0x01 then none
  else if 9 + hsLen record > record.length then none
  else helloSni record

/-! ## The format -/

/-- An entry of a server name list; type 0 is a host name. -/
structure ServerName where
  nameType : UInt8
  name : List UInt8
deriving DecidableEq, Repr

/-- An extension of a ClientHello: a server name list, or the data of another
extension. -/
inductive Extension where
  | serverName (names : List ServerName)
  | other (extType : Fin 65536) (ne_zero : extType ≠ 0) (data : List UInt8)

/-- The serialization of an entry. -/
def ServerName.bytes (n : ServerName) : List UInt8 := [n.nameType] ++ vec 2 n.name

namespace Extension

/-- The type of an extension. -/
def extType : Extension → Nat
  | serverName _ => 0
  | other extType _ _ => extType

/-- The data of an extension. -/
def data : Extension → List UInt8
  | serverName names => vec 2 (names.flatMap ServerName.bytes)
  | other _ _ data => data

/-- The serialization of an extension. -/
def bytes (e : Extension) : List UInt8 := toBE 2 e.extType ++ vec 2 e.data

end Extension

/-- The fields of a ClientHello.  The extension block may be missing. -/
structure HelloFields where
  recordVersion : List UInt8
  version : List UInt8
  random : List UInt8
  sessionId : List UInt8
  cipherSuites : List UInt8
  compression : List UInt8
  extensions : Option (List Extension)

/-- The extension block. -/
def HelloFields.extensionBlock (hello : HelloFields) : List UInt8 :=
  hello.extensions.elim [] fun es ↦ vec 2 (es.flatMap Extension.bytes)

/-- The body of the handshake message. -/
def HelloFields.body (hello : HelloFields) : List UInt8 :=
  hello.version ++ (hello.random ++ (vec 1 hello.sessionId ++ (vec 2 hello.cipherSuites ++
    (vec 1 hello.compression ++ hello.extensionBlock))))

/-- A ClientHello that fits in one record, whose length has two bytes. -/
structure ClientHello extends HelloFields where
  length_recordVersion : recordVersion.length = 2
  length_version : version.length = 2
  length_random : random.length = 32
  length_sessionId : sessionId.length < 256
  length_compression : compression.length < 256
  fits : 4 + toHelloFields.body.length < 65536

namespace ClientHello

/-- The handshake record. -/
def record (hello : ClientHello) : List UInt8 :=
  [0x16] ++ (hello.recordVersion ++ vec 2 ([0x01] ++ vec 3 hello.body))

end ClientHello

/-- The first host name of a server name list. -/
def firstHostName (names : List ServerName) : Option (List UInt8) :=
  (names.find? (·.nameType = 0)).map ServerName.name

/-- The entries of the first server name extension. -/
def firstServerName : List Extension → Option (List ServerName)
  | [] => none
  | .serverName names :: _ => some names
  | .other .. :: es => firstServerName es

/-- The server name of a ClientHello: the first host name of its first server name
extension, if it is text. -/
def ClientHello.sni (hello : ClientHello) : Option String := do
  let names ← firstServerName (hello.extensions.getD [])
  let name ← firstHostName names
  ofBytes name

/-! ## The parser on the format -/

theorem ServerName.length_bytes (n : ServerName) : n.bytes.length = 3 + n.name.length := by
  rw [bytes, List.length_append, List.length_singleton, length_vec]
  omega

/-- The inner loop finds the first host name. -/
theorem serverNameLoop_eq {record : List UInt8} {names : List ServerName} {pos snEnd fuel : Nat}
    (h : At record pos (names.flatMap ServerName.bytes))
    (hend : snEnd = pos + (names.flatMap ServerName.bytes).length)
    (hlen : (names.flatMap ServerName.bytes).length < 65536) (hfuel : snEnd - pos ≤ fuel) :
    (serverNameLoop record snEnd fuel pos).map (fun span ↦ slice record span.1 span.2) =
      firstHostName names := by
  induction names generalizing pos fuel with
  | nil =>
      cases fuel with
      | zero => rfl
      | succ fuel => rw [serverNameLoop, if_neg (by rw [hend]; simp)]; rfl
  | cons n names ih =>
      rw [List.flatMap_cons, List.length_append, n.length_bytes] at hlen hend
      rw [List.flatMap_cons] at h
      obtain ⟨hentry, hrest⟩ := h.append
      obtain ⟨htype, hname⟩ := hentry.append
      rw [n.length_bytes] at hrest
      rw [List.length_singleton] at hname
      obtain ⟨hnameLen, hbytes⟩ := hname.append
      rw [length_toBE] at hbytes
      have hn : beAt record (pos + 1) 2 = n.name.length := hnameLen.beAt_eq (by omega)
      cases fuel with
      | zero => omega
      | succ fuel =>
          rw [serverNameLoop, if_pos (by omega)]
          simp only [htype.beAt_byte, hn]
          rw [if_neg (by omega)]
          by_cases hzero : n.nameType = 0
          · rw [if_pos (by rw [hzero]; rfl), Option.map_some, hbytes.slice_eq, firstHostName,
              List.find?_cons_of_pos (by simpa using hzero), Option.map_some]
          · have hne : n.nameType.toNat ≠ 0 := fun h0 ↦ hzero (UInt8.toNat_inj.mp h0)
            rw [if_neg hne, firstHostName, List.find?_cons_of_neg (by simpa using hzero)]
            exact ih (Nat.add_assoc _ _ _ ▸ hrest) (by omega) (by omega) (by omega)

theorem Extension.length_bytes (e : Extension) : e.bytes.length = 4 + e.data.length := by
  rw [bytes, List.length_append, length_toBE, length_vec]
  omega

theorem Extension.extType_lt (e : Extension) : e.extType < 256 ^ 2 := by
  cases e with
  | serverName names => exact Nat.zero_lt_succ _
  | other extType _ _ => exact extType.isLt

/-- The outer loop finds the first host name of the first server name extension. -/
theorem extensionLoop_eq {record : List UInt8} {es : List Extension} {pos extensionsEnd fuel : Nat}
    (h : At record pos (es.flatMap Extension.bytes))
    (hend : extensionsEnd = pos + (es.flatMap Extension.bytes).length)
    (hlen : (es.flatMap Extension.bytes).length < 65536) (hfuel : extensionsEnd - pos ≤ fuel) :
    (extensionLoop record extensionsEnd fuel pos).map (fun span ↦ slice record span.1 span.2) =
      (firstServerName es).bind firstHostName := by
  induction es generalizing pos fuel with
  | nil =>
      cases fuel with
      | zero => rfl
      | succ fuel => rw [extensionLoop, if_neg (by rw [hend]; simp)]; rfl
  | cons e es ih =>
      rw [List.flatMap_cons, List.length_append, e.length_bytes] at hlen hend
      rw [List.flatMap_cons] at h
      obtain ⟨hext, hrest⟩ := h.append
      obtain ⟨htype, hvec⟩ := hext.append
      rw [e.length_bytes] at hrest
      rw [length_toBE] at hvec
      obtain ⟨hdataLen, hdata⟩ := hvec.append
      rw [length_toBE] at hdata
      have ht : beAt record pos 2 = e.extType := htype.beAt_eq e.extType_lt
      have hd : beAt record (pos + 2) 2 = e.data.length := hdataLen.beAt_eq (by omega)
      cases fuel with
      | zero => omega
      | succ fuel =>
          rw [extensionLoop, if_pos (by omega)]
          simp only [ht, hd]
          rw [if_neg (by omega)]
          cases e with
          | serverName names =>
              have hl : (Extension.serverName names).data.length =
                2 + (names.flatMap ServerName.bytes).length := length_vec _ _
              have hzero : (Extension.serverName names).extType = 0 := rfl
              rw [if_pos hzero, if_neg (by omega)]
              have hnames := hdata.append.2
              rw [length_toBE] at hnames
              exact serverNameLoop_eq hnames (by omega) (by omega) (by omega)
          | other extType ne_zero data =>
              have hne : (Extension.other extType ne_zero data).extType ≠ 0 :=
                fun h0 ↦ ne_zero (Fin.ext h0)
              rw [if_neg hne]
              exact ih (Nat.add_assoc _ _ _ ▸ hrest) (by omega) (by omega) (by omega)

/-- The walk over the body of a ClientHello finds its first host name. -/
theorem helloHostName_eq {record : List UInt8} {hello : ClientHello}
    (h : At record 9 hello.body) (hlen : record.length = 9 + hello.body.length) :
    (helloHostName record).map (fun span ↦ slice record span.1 span.2) =
      (firstServerName (hello.extensions.getD [])).bind firstHostName := by
  have hfits := hello.fits
  have hbody : hello.body.length = 2 + (32 + ((vec 1 hello.sessionId).length +
      ((vec 2 hello.cipherSuites).length + ((vec 1 hello.compression).length +
        hello.extensionBlock.length)))) := by
    simp only [HelloFields.body, List.length_append, hello.length_version, hello.length_random]
  obtain ⟨-, h⟩ := h.append
  obtain ⟨-, h⟩ := h.append
  rw [hello.length_version, hello.length_random] at h
  obtain ⟨hsession, h⟩ := h.append
  obtain ⟨hciphers, h⟩ := h.append
  obtain ⟨hcompression, h⟩ := h.append
  have hcipherLen : hello.cipherSuites.length < 256 ^ 2 := by
    rw [length_vec 2] at hbody
    omega
  simp only [helloHostName, hsession.skipVector_eq Nat.one_pos hello.length_sessionId,
    hciphers.skipVector_eq Nat.two_pos hcipherLen,
    hcompression.skipVector_eq Nat.one_pos hello.length_compression, Option.bind_eq_bind,
    Option.bind_some]
  generalize hp : 9 + 2 + 32 + (vec 1 hello.sessionId).length +
    (vec 2 hello.cipherSuites).length + (vec 1 hello.compression).length = pos at h
  cases hext : hello.extensions with
  | none =>
      have hblock : hello.extensionBlock.length = 0 := by
        rw [HelloFields.extensionBlock, hext]
        rfl
      rw [skipVector, if_pos (by omega)]
      rfl
  | some es =>
      have hblock : hello.extensionBlock = vec 2 (es.flatMap Extension.bytes) := by
        rw [HelloFields.extensionBlock, hext]
        rfl
      rw [hblock] at h
      rw [hblock, length_vec 2 (es.flatMap Extension.bytes)] at hbody
      have hes := h.append.2
      rw [length_toBE] at hes
      rw [h.skipVector_eq Nat.two_pos (by omega), Option.bind_some, length_vec,
        if_neg (by omega), Option.getD_some]
      exact extensionLoop_eq hes (by omega) (by omega) (by omega)

theorem ClientHello.length_record (hello : ClientHello) :
    hello.record.length = 9 + hello.body.length := by
  simp only [ClientHello.record, List.length_append, List.length_singleton, length_vec,
    hello.length_recordVersion]
  omega

/-- The headers in front of the body, wherever the record stands at the start. -/
theorem ClientHello.headers (hello : ClientHello) {r : List UInt8} (h : At r 0 hello.record) :
    beAt r 0 1 = 0x16 ∧ recLen r = 4 + hello.body.length ∧ beAt r 5 1 = 0x01 ∧
      hsLen r = hello.body.length ∧ At r 9 hello.body := by
  have hfits := hello.fits
  rw [ClientHello.record] at h
  obtain ⟨htype, h⟩ := h.append
  obtain ⟨-, h⟩ := h.append
  rw [hello.length_recordVersion] at h
  obtain ⟨hrec, h⟩ := h.append
  rw [length_toBE] at h
  obtain ⟨hhsType, h⟩ := h.append
  obtain ⟨hhs, hbody⟩ := h.append
  rw [length_toBE] at hbody
  have hmessage : ([0x01] ++ vec 3 hello.body).length = 4 + hello.body.length := by
    rw [List.length_append, List.length_singleton, length_vec]
    omega
  rw [hmessage] at hrec
  exact ⟨htype.beAt_byte, hrec.beAt_eq (by omega), hhsType.beAt_byte, hhs.beAt_eq (by omega), hbody⟩

/-- On the serialization of a ClientHello, the parser returns the first host name of
the first server name extension if it is text, and nothing if there is none. -/
theorem parseTlsSni_record (hello : ClientHello) : parseTlsSni hello.record = hello.sni := by
  have hlen := hello.length_record
  obtain ⟨htype, hrec, hhsType, hhs, hbody⟩ := hello.headers (At.start List.prefix_rfl)
  rw [parseTlsSni, if_neg (by omega), if_neg (by omega), if_neg (by omega), if_neg (by omega),
    helloSni, ClientHello.sni]
  have hname := congrArg (·.bind ofBytes) (helloHostName_eq hbody hlen)
  simp only [Option.bind_map, Option.bind_assoc] at hname
  exact hname

/-! ## A parser that stays inside the handshake -/

/-- The parser that keeps to the announced lengths: the handshake message lies inside
the record, and nothing behind its end is read. -/
def strictTlsSni (record : List UInt8) : Option String :=
  if record.length < 5 ∨ beAt record 0 1 ≠ 0x16 then none
  else if recLen record + 5 > record.length then none
  else if 4 > recLen record ∨ beAt record 5 1 ≠ 0x01 then none
  else if 4 + hsLen record > recLen record then none
  else helloSni (record.take (9 + hsLen record))

section Fields

variable (r : List UInt8)

/-- The announced end of the session id. -/
def sessionIdEnd : Nat := fieldEnd r (9 + 2 + 32) 1

/-- The announced end of the cipher suites. -/
def cipherSuitesEnd : Nat := fieldEnd r (sessionIdEnd r) 2

/-- The announced end of the compression methods. -/
def compressionEnd : Nat := fieldEnd r (cipherSuitesEnd r) 1

/-- The announced end of the extension block. -/
def extensionsEnd : Nat := fieldEnd r (compressionEnd r) 2

/-- The announced ends come one after the other. -/
theorem fields_le : 44 ≤ sessionIdEnd r ∧ sessionIdEnd r + 2 ≤ cipherSuitesEnd r ∧
    cipherSuitesEnd r + 1 ≤ compressionEnd r ∧ compressionEnd r + 2 ≤ extensionsEnd r :=
  ⟨le_fieldEnd r (9 + 2 + 32) 1, le_fieldEnd _ _ _, le_fieldEnd _ _ _, le_fieldEnd _ _ _⟩

/-- The walk reaches the extensions if and only if the slice holds the extension
block. -/
theorem helloHostName_eq_ite : helloHostName r =
    if extensionsEnd r ≤ r.length then
      extensionLoop r (extensionsEnd r) (extensionsEnd r - (compressionEnd r + 2))
        (compressionEnd r + 2)
    else none := by
  obtain ⟨h₁, h₂, h₃, h₄⟩ := fields_le r
  split
  · next hlen =>
      have hsession : skipVector r (9 + 2 + 32) 1 = some (sessionIdEnd r) := if_neg (by omega)
      have hciphers : skipVector r (sessionIdEnd r) 2 = some (cipherSuitesEnd r) :=
        if_neg (by omega)
      have hcompression : skipVector r (cipherSuitesEnd r) 1 = some (compressionEnd r) :=
        if_neg (by omega)
      have hextensions : skipVector r (compressionEnd r) 2 = some (extensionsEnd r) :=
        if_neg (by omega)
      simp only [helloHostName, hsession, hciphers, hcompression, hextensions, Option.bind_eq_bind,
        Option.bind_some]
      exact if_neg (by omega)
  · next hlen =>
      -- a walk that yields something has passed every field
      cases hname : helloHostName r with
      | none => rfl
      | some span =>
          simp only [helloHostName, Option.bind_eq_bind, Option.bind_eq_some_iff,
            skipVector_eq_some] at hname
          obtain ⟨a, ⟨-, hsession⟩, b, ⟨-, hciphers⟩, c, ⟨-, hcompression⟩, d, ⟨-, hextensions⟩,
            hname⟩ := hname
          have hend : d = extensionsEnd r := by
            rw [hextensions, hcompression, hciphers, hsession, extensionsEnd, compressionEnd,
              cipherSuitesEnd, sessionIdEnd]
          rw [Option.ite_none_left_eq_some, hend] at hname
          exact absurd (Nat.not_lt.mp hname.1) hlen

variable {r}

/-- Up to the end of the extension block the walk does not depend on what comes after. -/
theorem extensionsEnd_take {n : Nat} (h : extensionsEnd r ≤ n ∨ extensionsEnd (r.take n) ≤ n) :
    compressionEnd (r.take n) = compressionEnd r ∧ extensionsEnd (r.take n) = extensionsEnd r := by
  obtain ⟨h₁, h₂, h₃, h₄⟩ := fields_le r
  obtain ⟨h₁', h₂', h₃', h₄'⟩ := fields_le (r.take n)
  have hsession : sessionIdEnd (r.take n) = sessionIdEnd r := fieldEnd_take (by omega)
  have hciphers : cipherSuitesEnd (r.take n) = cipherSuitesEnd r := by
    rw [cipherSuitesEnd, hsession]
    exact fieldEnd_take (by omega)
  have hcompression : compressionEnd (r.take n) = compressionEnd r := by
    rw [compressionEnd, hciphers]
    exact fieldEnd_take (by omega)
  refine ⟨hcompression, ?_⟩
  rw [extensionsEnd, hcompression]
  exact fieldEnd_take (by omega)

end Fields

theorem serverNameLoop_take {r : List UInt8} {snEnd n : Nat} (h : snEnd ≤ n) (fuel pos : Nat) :
    serverNameLoop (r.take n) snEnd fuel pos = serverNameLoop r snEnd fuel pos := by
  induction fuel generalizing pos with
  | zero => rfl
  | succ fuel ih =>
      rw [serverNameLoop, serverNameLoop]
      split
      · next hpos => simp only [beAt_take (show pos + 1 ≤ n by omega),
          beAt_take (show pos + 1 + 2 ≤ n by omega), ih]
      · rfl

theorem extensionLoop_take {r : List UInt8} {extEnd n : Nat} (h : extEnd ≤ n) (fuel pos : Nat) :
    extensionLoop (r.take n) extEnd fuel pos = extensionLoop r extEnd fuel pos := by
  induction fuel generalizing pos with
  | zero => rfl
  | succ fuel ih =>
      rw [extensionLoop, extensionLoop]
      split
      · next hpos =>
          simp only [beAt_take (show pos + 2 ≤ n by omega),
            beAt_take (show pos + 2 + 2 ≤ n by omega), ih]
          split
          · rfl
          · next hlen => rw [serverNameLoop_take (by omega)]
      · rfl

/-- The host name lies between the start and the end of the list. -/
theorem serverNameLoop_bounds {r : List UInt8} {snEnd fuel pos : Nat} {span : Nat × Nat}
    (h : serverNameLoop r snEnd fuel pos = some span) : pos ≤ span.1 ∧ span.1 + span.2 ≤ snEnd := by
  induction fuel generalizing pos with
  | zero => cases h
  | succ fuel ih =>
      simp only [serverNameLoop] at h
      split at h
      · split at h
        · cases h
        · split at h
          · obtain rfl := Option.some.inj h
            dsimp only
            omega
          · have := ih h
            omega
      · cases h

/-- The host name lies between the start and the end of the extensions. -/
theorem extensionLoop_bounds {r : List UInt8} {extEnd fuel pos : Nat} {span : Nat × Nat}
    (h : extensionLoop r extEnd fuel pos = some span) :
    pos ≤ span.1 ∧ span.1 + span.2 ≤ extEnd := by
  induction fuel generalizing pos with
  | zero => cases h
  | succ fuel ih =>
      simp only [extensionLoop] at h
      split at h
      · split at h
        · cases h
        · split at h
          · split at h
            · cases h
            · have := serverNameLoop_bounds h
              omega
          · have := ih h
            omega
      · cases h

/-- The host name lies in the extension block, and that in the slice. -/
theorem helloHostName_bounds {r : List UInt8} {span : Nat × Nat} (h : helloHostName r = some span) :
    compressionEnd r + 2 ≤ span.1 ∧ span.1 + span.2 ≤ extensionsEnd r ∧
      extensionsEnd r ≤ r.length := by
  rw [helloHostName_eq_ite] at h
  split at h
  · next hlen =>
      obtain ⟨hstart, hend⟩ := extensionLoop_bounds h
      exact ⟨hstart, hend, hlen⟩
  · cases h

/-- What follows the extension block does not matter. -/
theorem helloSni_take {r : List UInt8} {n : Nat} (h : extensionsEnd r ≤ n) (hn : n ≤ r.length) :
    helloSni (r.take n) = helloSni r := by
  have hname : helloHostName (r.take n) = helloHostName r := by
    obtain ⟨hcompression, hextensions⟩ := extensionsEnd_take (.inl h)
    rw [helloHostName_eq_ite, helloHostName_eq_ite, hcompression, hextensions, List.length_take,
      Nat.min_eq_left hn, if_pos h, if_pos (h.trans hn), extensionLoop_take h]
  rw [helloSni, helloSni, hname]
  cases hspan : helloHostName r with
  | none => rfl
  | some span =>
      have hbounds := helloHostName_bounds hspan
      rw [Option.bind_some, Option.bind_some, slice_take (by omega)]

/-- A cut that leaves a name leaves the extension block. -/
theorem extensionsEnd_le_of_helloSni_take {r : List UInt8} {n : Nat} {name : String}
    (h : helloSni (r.take n) = some name) : extensionsEnd r ≤ n := by
  obtain ⟨span, hspan, -⟩ := Option.bind_eq_some_iff.mp h
  have hle := (helloHostName_bounds hspan).2.2
  rw [List.length_take] at hle
  have hn : extensionsEnd (r.take n) ≤ n := by omega
  rw [← (extensionsEnd_take (.inr hn)).2]
  exact hn

/-- The stretches of the slice a name rests on: random, session id, cipher suites,
compression methods, extension block and host name, each from its start to its end. -/
def relied (r : List UInt8) : List (Nat × Nat) :=
  [(9 + 2, 9 + 2 + 32), (9 + 2 + 32, sessionIdEnd r), (sessionIdEnd r, cipherSuitesEnd r),
    (cipherSuitesEnd r, compressionEnd r), (compressionEnd r, extensionsEnd r)] ++
  (helloHostName r).toList.map fun span ↦ (span.1, span.1 + span.2)

/-- Everything a name rests on lies inside the body of the handshake message, and that
inside the record. -/
def InsideHandshake (r : List UInt8) : Prop :=
  (∀ span ∈ relied r, 9 ≤ span.1 ∧ span.2 ≤ 9 + hsLen r) ∧ 9 + hsLen r ≤ 5 + recLen r

/-- All is inside if and only if the extension block and the handshake message end
where they should. -/
theorem insideHandshake_iff {r : List UInt8} :
    InsideHandshake r ↔ extensionsEnd r ≤ 9 + hsLen r ∧ 4 + hsLen r ≤ recLen r := by
  obtain ⟨h₁, h₂, h₃, h₄⟩ := fields_le r
  constructor
  · rintro ⟨hspans, hrec⟩
    have hext := hspans (compressionEnd r, extensionsEnd r) (by simp [relied])
    dsimp only at hext
    omega
  · rintro ⟨hext, hrec⟩
    refine ⟨fun span hspan ↦ ?_, by omega⟩
    rcases List.mem_append.mp hspan with hspan | hspan
    · simp only [List.mem_cons, List.not_mem_nil, or_false] at hspan
      rcases hspan with rfl | rfl | rfl | rfl | rfl <;> dsimp only <;> omega
    · obtain ⟨name, hname, rfl⟩ := List.mem_map.mp hspan
      have hbounds := helloHostName_bounds (Option.mem_toList.mp hname)
      dsimp only
      omega

theorem parseTlsSni_eq_some {r : List UInt8} {name : String} :
    parseTlsSni r = some name ↔
      ¬ (r.length < 5 ∨ beAt r 0 1 ≠ 0x16) ∧ ¬ recLen r + 5 > r.length ∧
        ¬ (5 + 4 > r.length ∨ beAt r 5 1 ≠ 0x01) ∧ ¬ 9 + hsLen r > r.length ∧
          helloSni r = some name := by
  rw [parseTlsSni, Option.ite_none_left_eq_some, Option.ite_none_left_eq_some,
    Option.ite_none_left_eq_some, Option.ite_none_left_eq_some]

/-- Where the parser finds a name, the strict parser finds it too if and only if the
extension block ends inside the body of the handshake message, and that inside the
record. -/
theorem strictTlsSni_iff {r : List UInt8} {name : String} (h : parseTlsSni r = some name) :
    strictTlsSni r = some name ↔ extensionsEnd r ≤ 9 + hsLen r ∧ 4 + hsLen r ≤ recLen r := by
  obtain ⟨hrecord, hrec, hmessage, hhs, hsni⟩ := parseTlsSni_eq_some.mp h
  rw [strictTlsSni, if_neg hrecord, if_neg hrec]
  constructor
  · intro hstrict
    rw [Option.ite_none_left_eq_some, Option.ite_none_left_eq_some] at hstrict
    obtain ⟨-, hinside, hname⟩ := hstrict
    exact ⟨extensionsEnd_le_of_helloSni_take hname, Nat.not_lt.mp hinside⟩
  · rintro ⟨hext, hinside⟩
    rw [if_neg (by omega), if_neg (by omega), helloSni_take hext (by omega), hsni]

/-- For a slice with a name, three things are the same: all that the name rests on lies
inside the handshake; the strict parser finds the name; the announced lengths nest. -/
theorem strictTlsSni_of_parseTlsSni {r : List UInt8} {name : String}
    (h : parseTlsSni r = some name) :
    (InsideHandshake r ↔ extensionsEnd r ≤ 9 + hsLen r ∧ 4 + hsLen r ≤ recLen r) ∧
      (strictTlsSni r = some name ↔ extensionsEnd r ≤ 9 + hsLen r ∧ 4 + hsLen r ≤ recLen r) :=
  ⟨insideHandshake_iff, strictTlsSni_iff h⟩

/-- The record of a ClientHello for the server name `a`, with a length of the handshake
message of its own; the right one is 53. -/
def helloRecord (hsLen : Nat) : List UInt8 :=
  [0x16, 3, 1, 0, 57, 1] ++ toBE 3 hsLen ++ [3, 3] ++ List.replicate 32 0 ++
    [0, 0, 2, 0, 0x2F, 1, 0, 0, 10, 0, 0, 0, 6, 0, 4, 0, 0, 1, 0x61]

example : ∃ hello : ClientHello, hello.record = helloRecord 53 ∧ hello.sni = some "a" :=
  ⟨{ recordVersion := [3, 1], version := [3, 3], random := List.replicate 32 0, sessionId := []
     cipherSuites := [0, 0x2F], compression := [0]
     extensions := some [.serverName [⟨0, [0x61]⟩]]
     length_recordVersion := rfl, length_version := rfl, length_random := rfl
     length_sessionId := by decide, length_compression := by decide, fits := by decide },
    by decide +kernel, by decide +kernel⟩

/-- A name is taken from behind the end of the handshake message, where the strict
parser does not look. -/
theorem parseTlsSni_behind_handshake :
    parseTlsSni (helloRecord 0) = some "a" ∧ strictTlsSni (helloRecord 0) = none ∧
      ¬ InsideHandshake (helloRecord 0) := by
  refine ⟨by decide +kernel, by decide +kernel, fun h ↦ ?_⟩
  exact absurd (insideHandshake_iff.mp h).1 (by decide +kernel)

theorem strictTlsSni_helloRecord :
    strictTlsSni (helloRecord 53) = some "a" ∧ InsideHandshake (helloRecord 53) := by
  have hname : parseTlsSni (helloRecord 53) = some "a" := by decide +kernel
  obtain ⟨hinside, hstrict⟩ := strictTlsSni_of_parseTlsSni hname
  have hends : extensionsEnd (helloRecord 53) ≤ 9 + hsLen (helloRecord 53) ∧
      4 + hsLen (helloRecord 53) ≤ recLen (helloRecord 53) := by decide +kernel
  exact ⟨hstrict.mpr hends, hinside.mpr hends⟩

/-! ## Reading the record -/

/-- `TLS_HELLO_MAX`. -/
def tlsHelloMax : Nat := 16 * 1024

/-- `read_tls_client_hello` on the bytes that arrive.  If they are not enough for one of
the two `read_exact`, the stream has ended or the deadline passes; `short` is the
error that comes of it. -/
def readTlsClientHello (short : Error) (stream : List UInt8) : Result (List UInt8) :=
  if stream.length < 5 then .error short
  else if beAt stream 0 1 ≠ 0x16 then .error (.protocol "not a TLS handshake record")
  else if recLen stream = 0 ∨ recLen stream > tlsHelloMax then
    .error (.protocol "invalid TLS record length")
  else if stream.length < 5 + recLen stream then .error short
  else .ok (stream.take (5 + recLen stream))

/-- What is read is one whole record. -/
theorem length_of_readTlsClientHello {short : Error} {stream r : List UInt8}
    (h : readTlsClientHello short stream = .ok r) : r.length = 5 + recLen r := by
  rw [readTlsClientHello, ite_error_eq_ok, ite_error_eq_ok, ite_error_eq_ok, ite_error_eq_ok] at h
  obtain ⟨hheader, -, -, hwhole, h⟩ := h
  obtain rfl := Except.ok.inj h
  have hrec : recLen (stream.take (5 + recLen stream)) = recLen stream := beAt_take (by omega)
  rw [hrec, List.length_take]
  omega

/-- On what is read, only the end of the extension block decides whether the strict
parser finds the same name. -/
theorem strictTlsSni_of_readTlsClientHello {short : Error} {stream r : List UInt8} {name : String}
    (hread : readTlsClientHello short stream = .ok r) (h : parseTlsSni r = some name) :
    strictTlsSni r = some name ↔ extensionsEnd r ≤ 9 + hsLen r := by
  have hlen := length_of_readTlsClientHello hread
  obtain ⟨-, -, -, hhs, -⟩ := parseTlsSni_eq_some.mp h
  rw [strictTlsSni_iff h]
  exact and_iff_left (by omega)

/-- A ClientHello of at most 16 KiB is read off the stream, whatever follows it. -/
theorem readTlsClientHello_record (short : Error) {hello : ClientHello}
    (hmax : 4 + hello.body.length ≤ tlsHelloMax) (rest : List UInt8) :
    readTlsClientHello short (hello.record ++ rest) = .ok hello.record := by
  have hlen := hello.length_record
  obtain ⟨htype, hrec, -, -, -⟩ := hello.headers (At.start (List.prefix_append _ rest))
  rw [readTlsClientHello, hrec, if_neg (by rw [List.length_append]; omega),
    if_neg (not_not.mpr htype), if_neg (by omega), if_neg (by rw [List.length_append]; omega),
    List.take_left' (by omega)]

end Arp.Server
