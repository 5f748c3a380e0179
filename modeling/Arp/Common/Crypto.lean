import Arp.Common.Error
import Arp.Lib.Text

/-!
# Signatures, compression and encryption

`AuthSigner` turns a token and a message into the hexadecimal HMAC-SHA256 of
the message under the token, and checks a signature by comparing all bytes of
the expected text.  HMAC-SHA256 itself is foreign code, so it is a parameter:
a function from a key and a message to a digest.

`Compressor` and `PacketCipher` transform UDP packets.  Gzip, AES-GCM and SHA-256 are
parameters too; `Primitives.Lawful` collects what their documentation promises.
-/

namespace Arp.Common

open Arp.Lib.Text

/-! ## Hexadecimal text -/

/-- The two digits `{:02x}` writes for a byte. -/
def hexByte (b : UInt8) : List Char := [(b.toNat / 16).digitChar, (b.toNat % 16).digitChar]

/-- `hex_encode`. -/
def hexEncode (data : List UInt8) : String := .ofList (data.flatMap hexByte)

theorem digitChar_inj {m n : Nat} (hm : m < 16) (hn : n < 16)
    (h : m.digitChar = n.digitChar) : m = n := by
  have key : ∀ i j : Fin 16, i.val.digitChar = j.val.digitChar → i = j := by decide
  exact congrArg Fin.val (key ⟨m, hm⟩ ⟨n, hn⟩ h)

theorem hexByte_inj {a b : UInt8} (h : hexByte a = hexByte b) : a = b := by
  have ha := a.toNat_lt
  have hb := b.toNat_lt
  simp only [hexByte, List.cons.injEq, and_true] at h
  have hhi := digitChar_inj (by omega) (by omega) h.1
  have hlo := digitChar_inj (by omega) (by omega) h.2
  exact UInt8.toNat_inj.mp (by omega)

/-- Different data has different hexadecimal text: every byte takes exactly two
digits, so the digits split into bytes in one way only. -/
theorem hexEncode_injective : Function.Injective hexEncode := by
  intro a b h
  have hl : a.flatMap hexByte = b.flatMap hexByte := by
    simpa [hexEncode] using congrArg String.toList h
  clear h
  induction a generalizing b with
  | nil =>
      cases b with
      | nil => rfl
      | cons y ys => simp [hexByte] at hl
  | cons x xs ih =>
      cases b with
      | nil => simp [hexByte] at hl
      | cons y ys =>
          rw [List.flatMap_cons, List.flatMap_cons] at hl
          obtain ⟨hx, hxs⟩ := List.append_inj hl rfl
          rw [hexByte_inj hx, ih hxs]

/-! ## Signing and verifying -/

namespace AuthSigner

variable (hmac : List UInt8 → List UInt8 → List UInt8)

/-- `AuthSigner::sign`: the hexadecimal HMAC of the message under the token. -/
def sign (token message : String) : String := hexEncode (hmac (bytes token) (bytes message))

/-- `AuthSigner::verify`: a comparison that looks at every byte, accumulating
the differences. -/
def verify (token message signatureHex : String) : Bool :=
  let expected := sign hmac token message
  if (bytes expected).length ≠ (bytes signatureHex).length then false
  else
    ((bytes expected).zip (bytes signatureHex)).foldl (fun diff p ↦ diff ||| (p.1 ^^^ p.2)) 0 == 0

/-- The accumulated difference of two equally long texts vanishes exactly when
they agree. -/
theorem foldl_diff_eq_zero {l r : List UInt8} (hlen : l.length = r.length) (acc : UInt8) :
    (l.zip r).foldl (fun diff p ↦ diff ||| (p.1 ^^^ p.2)) acc = 0 ↔ acc = 0 ∧ l = r := by
  induction l generalizing r acc with
  | nil =>
      cases r with
      | nil => simp
      | cons y ys => simp at hlen
  | cons x xs ih =>
      cases r with
      | nil => simp at hlen
      | cons y ys =>
          have htail : xs.length = ys.length := by simpa using hlen
          rw [List.zip_cons_cons, List.foldl_cons, ih htail, UInt8.or_eq_zero_iff,
            UInt8.xor_eq_zero_iff, List.cons.injEq, and_assoc]

/-- The byte-wise comparison decides equality with the expected signature. -/
theorem verify_iff {token message signatureHex : String} :
    verify hmac token message signatureHex = true ↔ sign hmac token message = signatureHex := by
  unfold verify
  dsimp only
  split
  · next hne =>
      refine ⟨fun h ↦ absurd h (by simp), fun h ↦ absurd ?_ hne⟩
      rw [h]
  · next heq =>
      rw [beq_iff_eq, foldl_diff_eq_zero (not_not.mp heq)]
      exact ⟨fun h ↦ bytes_injective h.2, fun h ↦ ⟨rfl, congrArg bytes h⟩⟩

/-- With an HMAC that is injective in its key, two tokens that sign a message
alike are the same token. -/
theorem sign_inj (hinj : ∀ m, Function.Injective fun k ↦ hmac k m) {t t' message : String}
    (h : sign hmac t message = sign hmac t' message) : t = t' :=
  bytes_injective (hinj _ (hexEncode_injective h))

end AuthSigner

/-! ## Compression and encryption -/

/-- The foreign functions behind `Compressor` and `PacketCipher`; errors are their
texts.  A digest has the length of an AES-256 key, so `new_from_slice` does not fail. -/
structure Primitives where
  /-- `GzEncoder::write_all`. -/
  gzWriteAll : List UInt8 → Except String Unit
  /-- `GzEncoder::finish`, after the data was written. -/
  gzFinish : List UInt8 → Except String (List UInt8)
  /-- `GzDecoder::read_to_end`. -/
  gzReadToEnd : List UInt8 → Except String (List UInt8)
  /-- `Sha256::digest`. -/
  sha256 : List UInt8 → Vector UInt8 32
  /-- `Aes256Gcm::encrypt` under a key and a nonce. -/
  aesEncrypt : Vector UInt8 32 → Vector UInt8 12 → List UInt8 → Except String (List UInt8)
  /-- `Aes256Gcm::decrypt` under a key and a nonce. -/
  aesDecrypt : Vector UInt8 32 → Vector UInt8 12 → List UInt8 → Except String (List UInt8)

/-- What the foreign functions promise: they undo each other, AES-GCM adds a tag of
sixteen bytes, and gzip does not blow data up by more than a few bytes per block, for
which the bound here leaves ample room. -/
structure Primitives.Lawful (prims : Primitives) : Prop where
  gzReadToEnd : ∀ {data z}, prims.gzFinish data = .ok z → prims.gzReadToEnd z = .ok data
  gzLength : ∀ {data z}, prims.gzFinish data = .ok z → z.length ≤ 2 * data.length + 64
  aesDecrypt : ∀ {key nonce data c}, prims.aesEncrypt key nonce data = .ok c →
    prims.aesDecrypt key nonce c = .ok data
  aesLength : ∀ {key nonce data c}, prims.aesEncrypt key nonce data = .ok c →
    c.length = data.length + 16

/-- What the foreign functions promise for datagrams: gzip compresses each of them, with
less than 64 KiB of expansion, and undoes that; AES-GCM encrypts what is shorter than its
limit of 64 GiB, adds a tag, and undoes that under the same key and nonce. -/
structure Primitives.Reliable (prims : Primitives) : Prop where
  gzip : ∀ data : List UInt8, data.length ≤ 65535 → ∃ z, prims.gzWriteAll data = .ok () ∧
    prims.gzFinish data = .ok z ∧ prims.gzReadToEnd z = .ok data ∧ z.length < data.length + 65536
  aes : ∀ key nonce (data : List UInt8), data.length ≤ 68719476736 → ∃ c,
    prims.aesEncrypt key nonce data = .ok c ∧ prims.aesDecrypt key nonce c = .ok data ∧
      c.length = data.length + 16

/-- Functions that compress and hide nothing, with a tag of zeros, for examples. -/
def Primitives.trivial : Primitives where
  gzWriteAll _ := .ok ()
  gzFinish data := .ok data
  gzReadToEnd data := .ok data
  sha256 _ := .replicate 32 0
  aesEncrypt _ _ data := .ok (data ++ List.replicate 16 0)
  aesDecrypt _ _ data :=
    if data.length < 16 then .error "aead::Error" else .ok (data.take (data.length - 16))

theorem Primitives.trivial_lawful : Primitives.trivial.Lawful where
  gzReadToEnd h := by rw [← Except.ok.inj h]; rfl
  gzLength h := by rw [← Except.ok.inj h]; omega
  aesDecrypt h := by
    rw [← Except.ok.inj h]
    simp [Primitives.trivial]
  aesLength h := by
    rw [← Except.ok.inj h]
    simp

theorem Primitives.trivial_reliable : Primitives.trivial.Reliable where
  gzip data _ := ⟨data, rfl, rfl, rfl, by omega⟩
  aes key nonce data _ := ⟨data ++ List.replicate 16 0, rfl, by simp [Primitives.trivial], by simp⟩

/-- `Compressor::compress`. -/
def Compressor.compress (prims : Primitives) (data : List UInt8) : Result (List UInt8) :=
  match prims.gzWriteAll data with
  | .error e => .error (.transport ("Compression failed: " ++ e))
  | .ok () =>
    match prims.gzFinish data with
    | .error e => .error (.transport ("Compression finish failed: " ++ e))
    | .ok z => .ok z

/-- `Compressor::decompress`. -/
def Compressor.decompress (prims : Primitives) (data : List UInt8) : Result (List UInt8) :=
  match prims.gzReadToEnd data with
  | .error e => .error (.transport ("Decompression failed: " ++ e))
  | .ok result => .ok result

/-- `derive_key`. -/
def deriveKey (prims : Primitives) (secret : String) : Vector UInt8 32 :=
  prims.sha256 (bytes secret)

/-- `PacketCipher::encrypt`, with the nonce it draws. -/
def PacketCipher.encrypt (prims : Primitives) (nonce : Vector UInt8 12) (data : List UInt8)
    (secret : String) : Result (List UInt8) :=
  if secret.isEmpty then .error (.transport "encryption secret cannot be empty")
  else
    match prims.aesEncrypt (deriveKey prims secret) nonce data with
    | .error e => .error (.transport ("encrypt failed: " ++ e))
    | .ok encrypted => .ok (nonce.toList ++ encrypted)

/-- `Nonce::from_slice(&data[..12])`, where there are so many bytes. -/
def PacketCipher.nonceOf (data : List UInt8) : Vector UInt8 12 := .ofFn fun i ↦ data.getD i 0

theorem PacketCipher.nonceOf_append (nonce : Vector UInt8 12) (rest : List UInt8) :
    nonceOf (nonce.toList ++ rest) = nonce := by
  ext i hi
  have hlt : i < nonce.toList.length := by rwa [nonce.length_toList]
  simp [nonceOf, List.getElem?_append_left hlt, hi]

/-- `PacketCipher::decrypt`. -/
def PacketCipher.decrypt (prims : Primitives) (data : List UInt8) (secret : String) :
    Result (List UInt8) :=
  if secret.isEmpty then .error (.transport "encryption secret cannot be empty")
  else if data.length < 12 then .error (.transport "encrypted payload too short")
  else
    match prims.aesDecrypt (deriveKey prims secret) (nonceOf data) (data.drop 12) with
    | .error e => .error (.transport ("decrypt failed: " ++ e))
    | .ok result => .ok result

section Lawful

variable {prims : Primitives} (h : prims.Lawful)

include h

/-- Compressing is undone by decompressing, and does not blow up. -/
theorem Compressor.of_compress {data z : List UInt8} (hz : compress prims data = .ok z) :
    decompress prims z = .ok data ∧ z.length ≤ 2 * data.length + 64 := by
  unfold compress at hz
  split at hz
  · cases hz
  · split at hz
    · cases hz
    · next hfinish =>
        obtain rfl := Except.ok.inj hz
        exact ⟨by rw [decompress, h.gzReadToEnd hfinish], h.gzLength hfinish⟩

/-- Encrypting is undone by decrypting, and adds nonce and tag. -/
theorem PacketCipher.of_encrypt {nonce : Vector UInt8 12} {data out : List UInt8}
    {secret : String} (hout : encrypt prims nonce data secret = .ok out) :
    decrypt prims out secret = .ok data ∧ out.length = data.length + 28 := by
  unfold encrypt at hout
  split at hout
  · cases hout
  · next hsecret =>
      split at hout
      · cases hout
      · next c hc =>
          obtain rfl := Except.ok.inj hout
          have hnonce : nonce.toList.length = 12 := nonce.length_toList
          refine ⟨?_, ?_⟩
          · rw [decrypt, if_neg hsecret, if_neg (by rw [List.length_append]; omega),
              nonceOf_append, List.drop_left' hnonce, h.aesDecrypt hc]
          · rw [List.length_append, hnonce, h.aesLength hc]
            omega

end Lawful

section Reliable

variable {prims : Primitives} (h : prims.Reliable)

include h

/-- A datagram can be compressed. -/
theorem Compressor.exists_compress {data : List UInt8} (hdata : data.length ≤ 65535) :
    ∃ z, compress prims data = .ok z ∧ decompress prims z = .ok data ∧
      z.length < data.length + 65536 := by
  obtain ⟨z, hwrite, hfinish, hread, hlen⟩ := h.gzip data hdata
  exact ⟨z, by rw [compress, hwrite, hfinish], by rw [decompress, hread], hlen⟩

/-- With a secret, what is not too long can be encrypted. -/
theorem PacketCipher.exists_encrypt {secret : String} (hsecret : secret ≠ "")
    (nonce : Vector UInt8 12) {data : List UInt8} (hdata : data.length ≤ 68719476736) :
    ∃ out, encrypt prims nonce data secret = .ok out ∧ decrypt prims out secret = .ok data ∧
      out.length = data.length + 28 := by
  obtain ⟨c, hencrypt, hdecrypt, hlen⟩ := h.aes (deriveKey prims secret) nonce data hdata
  have hempty : ¬secret.isEmpty = true := by simpa using hsecret
  have hnonce : nonce.toList.length = 12 := nonce.length_toList
  refine ⟨nonce.toList ++ c, ?_, ?_, ?_⟩
  · rw [encrypt, if_neg hempty, hencrypt]
  · rw [decrypt, if_neg hempty, if_neg (by rw [List.length_append]; omega),
      nonceOf_append, List.drop_left' hnonce, hdecrypt]
  · rw [List.length_append, hnonce, hlen]
    omega

end Reliable

/-! ## Packets -/

/-- What both ends of a UDP proxy do to packets. -/
structure PacketOptions where
  useCompression : Bool
  useEncryption : Bool
  secret : String
deriving DecidableEq, Repr

namespace PacketOptions

variable (opts : PacketOptions) (prims : Primitives)

/-- Compress and encrypt a packet for the work connection. -/
def encode (nonce : Vector UInt8 12) (packet : List UInt8) : Result (List UInt8) := do
  let encoded ← if opts.useCompression then Compressor.compress prims packet else .ok packet
  if opts.useEncryption then PacketCipher.encrypt prims nonce encoded opts.secret
  else .ok encoded

/-- Decrypt and decompress what came over the work connection. -/
def decode (payload : List UInt8) : Result (List UInt8) := do
  let packet ← if opts.useEncryption then PacketCipher.decrypt prims payload opts.secret
    else .ok payload
  if opts.useCompression then Compressor.decompress prims packet else .ok packet

variable {opts prims}

/-- A packet that was encoded is decoded again, and its encoding is not much longer. -/
theorem of_encode (h : prims.Lawful) {nonce : Vector UInt8 12} {packet payload : List UInt8}
    (hencode : opts.encode prims nonce packet = .ok payload) :
    opts.decode prims payload = .ok packet ∧ payload.length ≤ 2 * packet.length + 92 := by
  obtain ⟨compression, encryption, secret⟩ := opts
  cases compression with
  | false =>
      cases encryption with
      | false =>
          obtain rfl := Except.ok.inj hencode
          exact ⟨rfl, by omega⟩
      | true =>
          obtain ⟨hdec, hlen⟩ := PacketCipher.of_encrypt h hencode
          exact ⟨by simp [decode, hdec, bind, Except.bind], by omega⟩
  | true =>
      simp only [encode, if_true, bind, Except.bind] at hencode
      split at hencode
      · cases hencode
      · next z hz =>
          obtain ⟨hunzip, hzlen⟩ := Compressor.of_compress h hz
          cases encryption with
          | false =>
              obtain rfl := Except.ok.inj hencode
              exact ⟨by simp [decode, hunzip, bind, Except.bind], by omega⟩
          | true =>
              obtain ⟨hdec, hlen⟩ := PacketCipher.of_encrypt h hencode
              exact ⟨by simp [decode, hdec, hunzip, bind, Except.bind], by omega⟩

/-- Encoding in two steps. -/
theorem encode_of_inner {nonce : Vector UInt8 12} {packet z : List UInt8}
    (h : (if opts.useCompression then Compressor.compress prims packet else .ok packet) = .ok z) :
    opts.encode prims nonce packet =
      if opts.useEncryption then PacketCipher.encrypt prims nonce z opts.secret else .ok z := by
  unfold encode
  split at h
  · next hcompression => rw [if_pos hcompression, h]; rfl
  · next hcompression =>
      obtain rfl := Except.ok.inj h
      rw [if_neg hcompression]
      rfl

/-- Where encryption has a secret, every datagram is encoded, and decoded again. -/
theorem exists_encode (h : prims.Reliable)
    (hsecret : opts.useEncryption = true → opts.secret ≠ "") (nonce : Vector UInt8 12)
    {packet : List UInt8} (hpacket : packet.length ≤ 65535) :
    ∃ payload, opts.encode prims nonce packet = .ok payload ∧
      opts.decode prims payload = .ok packet ∧ payload.length < packet.length + 65564 := by
  -- The layer below encryption, whether it compresses or not.
  obtain ⟨z, hinner, hundo, hlen⟩ : ∃ z,
      (if opts.useCompression then Compressor.compress prims packet else .ok packet) = .ok z ∧
        (if opts.useCompression then Compressor.decompress prims z else .ok z) = .ok packet ∧
          z.length < packet.length + 65536 := by
    cases opts.useCompression with
    | true => exact Compressor.exists_compress h hpacket
    | false => exact ⟨packet, rfl, rfl, by omega⟩
  cases hencryption : opts.useEncryption with
  | false =>
      refine ⟨z, ?_, ?_, by omega⟩
      · rw [encode_of_inner hinner, hencryption]
        rfl
      · rw [decode, hencryption]
        exact hundo
  | true =>
      have hz : z.length ≤ 68719476736 := by omega
      obtain ⟨out, hencrypt, hdecrypt, hout⟩ :=
        PacketCipher.exists_encrypt h (hsecret hencryption) nonce hz
      refine ⟨out, ?_, ?_, by omega⟩
      · rw [encode_of_inner hinner, hencryption]
        exact hencrypt
      · rw [decode, hencryption, if_pos rfl, hdecrypt]
        exact hundo

end PacketOptions

end Arp.Common
