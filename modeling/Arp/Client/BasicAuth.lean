import Arp.Lib.Framing
import Arp.Lib.Text

/-!
# The credentials of the admin API

The command line sends the user and the password of the admin API in base64, and the server of
the API decodes them.  Encoder and decoder were written apart from each other: one takes three
bytes at a time and pads, the other collects six bits for every digit and puts out a byte
whenever it has eight.

Between two groups of three the decoder has no bits left over, so the groups can be followed one
by one (`decodeFrom_encodeGroup`), and a padded group at the end puts out the bytes it was made
from.  What was sent is then split at its first colon, which is the one the command line has put
there if there is none in the user.
-/

namespace Arp.Client.BasicAuth

open Arp.Lib.Text

/-! ## Base64 -/

/-- `TABLE`, the same in both modules. -/
def table : List UInt8 :=
  "ABCDEFGHIJKLMNOPQRSTUVWXYZabcdefghijklmnopqrstuvwxyz0123456789+/".toList.map
    fun c ↦ UInt8.ofNat c.toNat

/-- The byte of an equals sign. -/
def padding : UInt8 := 61

/-- `TABLE[i]`; the encoder takes six bits for the place, so it is in the table. -/
def digit (i : Nat) : UInt8 := table.getD i 0

/-- A turn of the loop of `base64_encode`, with the bytes that are left of three. -/
def encodeGroup (b0 : UInt8) (b1 b2 : Option UInt8) : List UInt8 :=
  let triple := b0.toNat <<< 16 ||| (b1.getD 0).toNat <<< 8 ||| (b2.getD 0).toNat
  [digit (triple >>> 18 &&& 0x3F), digit (triple >>> 12 &&& 0x3F),
    if b1.isSome then digit (triple >>> 6 &&& 0x3F) else padding,
    if b2.isSome then digit (triple &&& 0x3F) else padding]

/-- The bytes that `base64_encode` pushes. -/
def encodeBytes : List UInt8 → List UInt8
  | [] => []
  | [b0] => encodeGroup b0 none none
  | [b0, b1] => encodeGroup b0 (some b1) none
  | b0 :: b1 :: b2 :: rest => encodeGroup b0 (some b1) (some b2) ++ encodeBytes rest

/-- `base64_encode`. -/
def base64Encode (input : List UInt8) : String := .ofList ((encodeBytes input).map Char.ofUInt8)

/-- The loop of `base64_decode`, from what it has collected on. -/
def decodeFrom (buf bits : Nat) : List UInt8 → List UInt8
  | [] => []
  | b :: rest =>
    if b = padding then []
    else
      match table.findIdx? (· == b) with
      | none => decodeFrom buf bits rest
      | some val =>
        let buf := buf <<< 6 ||| val
        let bits := bits + 6
        if bits ≥ 8 then
          let bits := bits - 8
          UInt8.ofNat (buf >>> bits) :: decodeFrom (buf &&& (1 <<< bits - 1)) bits rest
        else decodeFrom buf bits rest

/-- `base64_decode`. -/
def base64Decode (input : String) : List UInt8 := decodeFrom 0 0 (bytes input)

/-! ## The header -/

/-- A visible ASCII character: from the space to the tilde, or a tab. -/
def isVisibleAscii (b : UInt8) : Bool := 32 ≤ b && b < 127 || b == 9

/-- `HeaderValue::to_str` of the `http` crate, as its documentation says: it yields a text if the
value has only visible ASCII characters, and an error otherwise. -/
def toStr (value : List UInt8) : Option String :=
  if value.all isVisibleAscii then ofBytes value else none

/-- `check_basic_auth`, given the value of the header `Authorization` if there is one. -/
def checkBasicAuth (authorization : Option (List UInt8)) (expectedUser expectedPwd : String) :
    Bool :=
  match authorization with
  | none => false
  | some auth =>
    match toStr auth with
    | none => false
    | some authStr =>
      match stripPrefix authStr "Basic " with
      | none => false
      | some encoded =>
        match ofBytes (base64Decode encoded) with
        | none => false
        | some credentials =>
          match splitOnce credentials ':' with
          | none => false
          | some (user, pwd) => user == expectedUser && pwd == expectedPwd

/-- The value of the header `Authorization` that `hyper_util_get` sends, if it sends one. -/
def authorization (adminUser adminPwd : String) : Option String :=
  if !adminUser.isEmpty && !adminPwd.isEmpty then
    some ("Basic " ++ base64Encode (bytes (adminUser ++ ":" ++ adminPwd)))
  else none

/-- The middleware of the admin API lets a request through: it checks the credentials if both
are configured. -/
def letsThrough (adminUser adminPwd : String) (authorization : Option (List UInt8)) : Bool :=
  if !adminUser.isEmpty && !adminPwd.isEmpty then checkBasicAuth authorization adminUser adminPwd
  else true

/-! ## The round trip -/

/-- The digits are found in the table where they stand, and are visible and no padding. -/
theorem digit_spec {v : Nat} (hv : v < 64) : table.findIdx? (· == digit v) = some v ∧
    digit v ≠ padding ∧ isVisibleAscii (digit v) = true := by
  have hall : ∀ v : Fin 64, table.findIdx? (· == digit v) = some v.val ∧ digit v ≠ padding ∧
      isVisibleAscii (digit v) = true := by decide +kernel
  exact hall ⟨v, hv⟩

theorem shiftLeft_or (buf : Nat) {v : Nat} (hv : v < 64) : buf <<< 6 ||| v = buf * 64 + v := by
  rw [← Nat.shiftLeft_add_eq_or_of_lt (show v < 2 ^ 6 from hv), Nat.shiftLeft_eq]

/-- Six bits come in and do not make a byte yet. -/
theorem decodeFrom_few {buf bits v : Nat} (hv : v < 64) (hbits : bits + 6 < 8)
    (rest : List UInt8) :
    decodeFrom buf bits (digit v :: rest) = decodeFrom (buf * 64 + v) (bits + 6) rest := by
  obtain ⟨hfind, hne, -⟩ := digit_spec hv
  rw [decodeFrom, if_neg hne, hfind]
  dsimp only
  rw [if_neg (Nat.not_le.mpr hbits), shiftLeft_or buf hv]

/-- Six bits come in and make a byte, with `k` bits left over; `m` is the number of values these
can have. -/
theorem decodeFrom_byte {buf bits v : Nat} (hv : v < 64) (k m : Nat) (hbits : bits + 6 = 8 + k)
    (hm : 1 <<< k = m) (rest : List UInt8) :
    decodeFrom buf bits (digit v :: rest) =
      UInt8.ofNat ((buf * 64 + v) / m) :: decodeFrom ((buf * 64 + v) % m) k rest := by
  obtain ⟨hfind, hne, -⟩ := digit_spec hv
  rw [decodeFrom, if_neg hne, hfind]
  dsimp only
  rw [if_pos (hbits ▸ Nat.le_add_right 8 k), shiftLeft_or buf hv, hbits, Nat.add_sub_cancel_left,
    Nat.shiftRight_eq_div_pow, Nat.one_shiftLeft, Nat.and_two_pow_sub_one_eq_mod,
    ← Nat.one_shiftLeft, hm]

theorem decodeFrom_padding (buf bits : Nat) (rest : List UInt8) :
    decodeFrom buf bits (padding :: rest) = [] := by
  rw [decodeFrom, if_pos rfl]

/-- The lowest six bits of a number. -/
theorem and_sextet (n : Nat) : n &&& 0x3F = n % 64 := Nat.and_two_pow_sub_one_eq_mod n 6

/-- A group digit by digit: six bits of the first byte, two and four, four and two, and six of
the last. -/
theorem encodeGroup_eq (b0 : UInt8) (b1 b2 : Option UInt8) : encodeGroup b0 b1 b2 =
    [digit (b0.toNat / 4), digit (b0.toNat % 4 * 16 + (b1.getD 0).toNat / 16),
      if b1.isSome then digit ((b1.getD 0).toNat % 16 * 4 + (b2.getD 0).toNat / 64) else padding,
      if b2.isSome then digit ((b2.getD 0).toNat % 64) else padding] := by
  have h0 := b0.toNat_lt
  have h1 := (b1.getD 0).toNat_lt
  have h2 := (b2.getD 0).toNat_lt
  simp only [encodeGroup, Lib.Framing.shiftLeft_or_eq, and_sextet, Nat.shiftRight_eq_div_pow,
    Nat.reducePow]
  generalize b0.toNat = n0 at *
  generalize (b1.getD 0).toNat = n1 at *
  generalize (b2.getD 0).toNat = n2 at *
  rw [show ((n0 * 256 + n1) * 256 + n2) / 262144 % 64 = n0 / 4 by omega,
    show ((n0 * 256 + n1) * 256 + n2) / 4096 % 64 = n0 % 4 * 16 + n1 / 16 by omega,
    show ((n0 * 256 + n1) * 256 + n2) / 64 % 64 = n1 % 16 * 4 + n2 / 64 by omega,
    show ((n0 * 256 + n1) * 256 + n2) % 64 = n2 % 64 by omega]

theorem ofNat_of_toNat {b : UInt8} {n : Nat} (h : n = b.toNat) : UInt8.ofNat n = b := by
  rw [h, UInt8.ofNat_toNat]

/-- A whole group gives its three bytes, and leaves no bits over. -/
theorem decodeFrom_encodeGroup (b0 b1 b2 : UInt8) (rest : List UInt8) :
    decodeFrom 0 0 (encodeGroup b0 (some b1) (some b2) ++ rest) =
      b0 :: b1 :: b2 :: decodeFrom 0 0 rest := by
  have h0 := b0.toNat_lt
  have h1 := b1.toNat_lt
  have h2 := b2.toNat_lt
  simp only [encodeGroup_eq, Option.getD_some, Option.isSome_some, if_true, List.cons_append,
    List.nil_append]
  rw [decodeFrom_few (by omega) (by decide), decodeFrom_byte (by omega) 4 16 rfl rfl,
    decodeFrom_byte (by omega) 2 4 rfl rfl, decodeFrom_byte (by omega) 0 1 rfl rfl, Nat.mod_one,
    ofNat_of_toNat (b := b0) (by omega), ofNat_of_toNat (b := b1) (by omega),
    ofNat_of_toNat (b := b2) (by omega)]

/-- Two bytes and one padding. -/
theorem decodeFrom_encodePair (b0 b1 : UInt8) :
    decodeFrom 0 0 (encodeGroup b0 (some b1) none) = [b0, b1] := by
  have h0 := b0.toNat_lt
  have h1 := b1.toNat_lt
  simp only [encodeGroup_eq, Option.getD_some, Option.getD_none, Option.isSome_some,
    Option.isSome_none, if_true, Bool.false_eq_true, if_false, UInt8.toNat_zero]
  rw [decodeFrom_few (by omega) (by decide), decodeFrom_byte (by omega) 4 16 rfl rfl,
    decodeFrom_byte (by omega) 2 4 rfl rfl, decodeFrom_padding,
    ofNat_of_toNat (b := b0) (by omega), ofNat_of_toNat (b := b1) (by omega)]

/-- One byte and two paddings. -/
theorem decodeFrom_encodeSingle (b0 : UInt8) :
    decodeFrom 0 0 (encodeGroup b0 none none) = [b0] := by
  have h0 := b0.toNat_lt
  simp only [encodeGroup_eq, Option.getD_none, Option.isSome_none, Bool.false_eq_true, if_false,
    UInt8.toNat_zero]
  rw [decodeFrom_few (by omega) (by decide), decodeFrom_byte (by omega) 4 16 rfl rfl,
    decodeFrom_padding, ofNat_of_toNat (b := b0) (by omega)]

theorem decodeFrom_encodeBytes (input : List UInt8) :
    decodeFrom 0 0 (encodeBytes input) = input := by
  induction input using encodeBytes.induct with
  | case1 => rfl
  | case2 b0 => exact decodeFrom_encodeSingle b0
  | case3 b0 b1 => exact decodeFrom_encodePair b0 b1
  | case4 b0 b1 b2 rest ih => rw [encodeBytes, decodeFrom_encodeGroup, ih]

theorem lt_of_isVisibleAscii {b : UInt8} (h : isVisibleAscii b = true) : b < 128 := by
  rw [isVisibleAscii, Bool.or_eq_true, Bool.and_eq_true, decide_eq_true_eq, decide_eq_true_eq,
    beq_iff_eq] at h
  rcases h with ⟨-, hlt⟩ | rfl
  · exact UInt8.lt_trans hlt (by decide)
  · decide

theorem visible_encodeGroup (b0 : UInt8) (b1 b2 : Option UInt8) :
    ∀ b ∈ encodeGroup b0 b1 b2, isVisibleAscii b = true := by
  have hdigit : ∀ n : Nat, isVisibleAscii (digit (n &&& 0x3F)) = true := by
    intro n
    rw [and_sextet]
    exact (digit_spec (Nat.mod_lt n (by decide))).2.2
  intro b hb
  simp only [encodeGroup, List.mem_cons, List.not_mem_nil, or_false] at hb
  rcases hb with rfl | rfl | rfl | rfl
  · exact hdigit _
  · exact hdigit _
  · split
    · exact hdigit _
    · rfl
  · split
    · exact hdigit _
    · rfl

theorem visible_encodeBytes (input : List UInt8) :
    ∀ b ∈ encodeBytes input, isVisibleAscii b = true := by
  induction input using encodeBytes.induct with
  | case1 => exact List.forall_mem_nil _
  | case2 b0 => exact visible_encodeGroup b0 none none
  | case3 b0 b1 => exact visible_encodeGroup b0 (some b1) none
  | case4 b0 b1 b2 rest ih =>
      rw [encodeBytes]
      exact List.forall_mem_append.mpr ⟨visible_encodeGroup b0 (some b1) (some b2), ih⟩

theorem bytes_base64Encode (input : List UInt8) : bytes (base64Encode input) = encodeBytes input :=
  bytes_ofList_ascii fun b hb ↦ lt_of_isVisibleAscii (visible_encodeBytes input b hb)

/-- Decoding what was encoded gives the bytes back. -/
theorem base64Decode_encode (input : List UInt8) : base64Decode (base64Encode input) = input := by
  rw [base64Decode, bytes_base64Encode, decodeFrom_encodeBytes]

/-! ## What the command line sends -/

theorem toStr_header (input : List UInt8) :
    toStr (bytes ("Basic " ++ base64Encode input)) = some ("Basic " ++ base64Encode input) := by
  have hvisible : (bytes ("Basic " ++ base64Encode input)).all isVisibleAscii = true := by
    rw [bytes_append, List.all_append, bytes_base64Encode, Bool.and_eq_true]
    exact ⟨by decide +kernel, List.all_eq_true.mpr (visible_encodeBytes input)⟩
  rw [toStr, if_pos hvisible, ofBytes_bytes]

/-- Credentials that are sent are compared with those that are expected. -/
theorem checkBasicAuth_header {user pwd : String} (huser : ':' ∉ user.toList)
    (expectedUser expectedPwd : String) :
    checkBasicAuth (some (bytes ("Basic " ++ base64Encode (bytes (user ++ ":" ++ pwd)))))
      expectedUser expectedPwd = (user == expectedUser && pwd == expectedPwd) := by
  have hsplit : splitOnce (user ++ ":" ++ pwd) ':' = some (user, pwd) := by
    refine splitOnce_eq_some.mpr ⟨?_, huser⟩
    rw [String.toList_append, String.toList_append, List.append_assoc]
    rfl
  simp only [checkBasicAuth, toStr_header, stripPrefix_append, base64Decode_encode, ofBytes_bytes,
    hsplit]

theorem authorization_eq_some {adminUser adminPwd header : String}
    (h : authorization adminUser adminPwd = some header) :
    header = "Basic " ++ base64Encode (bytes (adminUser ++ ":" ++ adminPwd)) := by
  unfold authorization at h
  split at h
  · exact (Option.some.inj h).symm
  · cases h

/-- Base64 is decoded to what was encoded.  So what the command line sends for a user without a
colon is accepted for that user and password, and for no others. -/
theorem credentials_round_trip :
    (∀ b, base64Decode (base64Encode b) = b) ∧
    ∀ user pwd, ':' ∉ user.toList →
      (∀ header, authorization user pwd = some header →
        checkBasicAuth (some (bytes header)) user pwd = true) ∧
      ∀ user' pwd', ':' ∉ user'.toList → (user', pwd') ≠ (user, pwd) →
        checkBasicAuth ((authorization user' pwd').map bytes) user pwd = false := by
  refine ⟨base64Decode_encode, fun user pwd huser ↦ ⟨fun header hheader ↦ ?_, ?_⟩⟩
  · rw [authorization_eq_some hheader, checkBasicAuth_header huser, beq_self_eq_true,
      beq_self_eq_true, Bool.and_true]
  · intro user' pwd' huser' hne
    cases hheader : authorization user' pwd' with
    | none => rfl
    | some header =>
        rw [authorization_eq_some hheader, Option.map_some, checkBasicAuth_header huser']
        rw [Bool.eq_false_iff, ne_eq, Bool.and_eq_true, beq_iff_eq, beq_iff_eq]
        rintro ⟨rfl, rfl⟩
        exact hne rfl

/-- A password with a colon in it, and another. -/
theorem credentials_admin :
    authorization "admin" "s:cret" = some "Basic YWRtaW46czpjcmV0" ∧
    checkBasicAuth (some (bytes "Basic YWRtaW46czpjcmV0")) "admin" "s:cret" = true ∧
    authorization "admin" "other" = some "Basic YWRtaW46b3RoZXI=" ∧
    checkBasicAuth ((authorization "admin" "other").map bytes) "admin" "s:cret" = false := by
  have hsent : authorization "admin" "s:cret" = some "Basic YWRtaW46czpjcmV0" := by
    decide +kernel
  have hother : authorization "admin" "other" = some "Basic YWRtaW46b3RoZXI=" := by decide +kernel
  obtain ⟨haccepted, hrejected⟩ := credentials_round_trip.2 "admin" "s:cret" (by decide)
  exact ⟨hsent, haccepted _ hsent, hother,
    hrejected "admin" "other" (by decide) (by decide)⟩

/-- The command line is let through with the credentials of the server, whatever they are, as
long as there is no colon in the user. -/
theorem letsThrough_authorization {user : String} (huser : ':' ∉ user.toList) (pwd : String) :
    letsThrough user pwd ((authorization user pwd).map bytes) = true := by
  unfold letsThrough authorization
  split
  · rw [Option.map_some, checkBasicAuth_header huser, beq_self_eq_true, beq_self_eq_true,
      Bool.and_true]
  · rfl

end Arp.Client.BasicAuth
