import Arp.Common.Error
import Arp.Common.Message
import Arp.Lib.Framing
import Arp.Lib.Text

/-!
# The message codec

On the wire a message is a type byte, the length of its JSON text as eight
big-endian bytes, and the text.  The decoder looks only at the length; the type
byte matters for the text of an error.

`serde_json` is foreign code, so it is a parameter.  The one fact the proofs use
about it is that it reads back the message at hand.
-/

namespace Arp.Common

open Arp.Lib.Framing

/-- `serde_json` on messages; errors are their texts. -/
structure Serde where
  toVec : Message → Except String (List UInt8)
  fromSlice : List UInt8 → Except String Message

/-- `serde_json` reads back the text it writes for a message. -/
def Serde.RoundTrips (serde : Serde) (msg : Message) : Prop :=
  ∀ json, serde.toVec msg = .ok json → serde.fromSlice json = .ok msg

namespace MessageCodec

/-- `MAX_MESSAGE_SIZE`. -/
def maxMessageSize : Nat := 8 * 1024 * 1024

/-- The length of the type byte and of the length field. -/
def headerLen : Nat := 9

/-- The bytes of a message with the given JSON text. -/
def frame (msg : Message) (json : List UInt8) : List UInt8 :=
  UInt8.ofNat msg.typeByte.toNat :: toBE 8 json.length ++ json

/-- The debug text of the name of a type byte. -/
def typeByteText (b : UInt8) : String :=
  match Message.fromTypeByte (Char.ofNat b.toNat) with
  | some name => "Some(\"" ++ name ++ "\")"
  | none => "None"

/-- `MessageCodec::encode`: the outcome and the destination buffer. -/
def encode (serde : Serde) (msg : Message) (dst : List UInt8) : Result Unit × List UInt8 :=
  match serde.toVec msg with
  | .error e => (.error (.codec ("Failed to serialize message: " ++ e)), dst)
  | .ok json =>
    if maxMessageSize < json.length then
      (.error (.codec ("Message too large: " ++ toString json.length ++ " > " ++
        toString maxMessageSize)), dst)
    else (.ok (), dst ++ frame msg json)

/-- `MessageCodec::decode`: the outcome and what is left of the source buffer. -/
def decode (serde : Serde) (src : List UInt8) : Result (Option Message) × List UInt8 :=
  if src.length < headerLen then (.ok none, src)
  else
    let length := ofBE ((src.drop 1).take 8)
    if maxMessageSize < length then
      (.error (.protocol ("message length " ++ toString length ++ " exceeds max " ++
        toString maxMessageSize)), src)
    else if src.length < headerLen + length then (.ok none, src)
    else
      let rest := src.drop (headerLen + length)
      match serde.fromSlice ((src.drop headerLen).take length) with
      | .ok msg => (.ok (some msg), rest)
      | .error e =>
        (.error (.codec ("Failed to deserialize message (type: " ++
          typeByteText (src.headD 0) ++ "): " ++ e)), rest)

/-! ## Frames -/

@[simp] theorem length_frame (msg : Message) (json : List UInt8) :
    (frame msg json).length = headerLen + json.length := by
  simp only [frame, headerLen, List.cons_append, List.length_cons, List.length_append, length_toBE]
  omega

/-- A successful encoding appends the frame of the message's JSON text. -/
theorem encode_eq_ok {serde : Serde} {msg : Message} {dst out : List UInt8}
    (h : encode serde msg dst = (.ok (), out)) :
    ∃ json, serde.toVec msg = .ok json ∧ json.length ≤ maxMessageSize ∧
      out = dst ++ frame msg json := by
  unfold encode at h
  split at h
  · cases h
  · next json hjson =>
      split at h
      · cases h
      · next hsize =>
          obtain rfl := (Prod.mk.inj h).2
          exact ⟨json, hjson, Nat.not_lt.mp hsize, rfl⟩

/-- A message whose JSON text is not too large is encoded. -/
theorem encode_of_toVec {serde : Serde} {msg : Message} {json : List UInt8}
    (hjson : serde.toVec msg = .ok json) (hsize : json.length ≤ maxMessageSize)
    (dst : List UInt8) : encode serde msg dst = (.ok (), dst ++ frame msg json) := by
  rw [encode, hjson]
  exact if_neg (Nat.not_lt.mpr hsize)

/-- The length field of a buffer that has it and starts like a frame. -/
theorem length_field {msg : Message} {json src : List UInt8}
    (hsize : json.length ≤ maxMessageSize) (hlen : headerLen ≤ src.length)
    (h : src <+: frame msg json ∨ frame msg json <+: src) :
    ofBE ((src.drop 1).take 8) = json.length := by
  have hfits : json.length < 256 ^ 8 := lt_of_le_of_lt hsize (by decide)
  have hframe : ((frame msg json).drop 1).take 8 = toBE 8 json.length := by
    simp only [frame, List.cons_append, List.drop_succ_cons, List.drop_zero]
    exact List.take_left' (length_toBE 8 _)
  have hsame : (src.drop 1).take 8 = ((frame msg json).drop 1).take 8 := by
    rcases h with ⟨t, ht⟩ | ⟨t, ht⟩
    · rw [← ht, List.drop_append_of_le_length (by simp only [headerLen] at hlen; omega),
        List.take_append_of_le_length (by simp only [headerLen] at hlen; simp; omega)]
    · rw [← ht, List.drop_append_of_le_length (by simp [headerLen]; omega),
        List.take_append_of_le_length (by simp [headerLen])]
  rw [hsame, hframe, ofBE_toBE hfits]

/-- The decoder knows the frame of every message that `serde_json` reads back. -/
theorem frames {serde : Serde} {msg : Message} {json : List UInt8}
    (hjson : serde.toVec msg = .ok json) (hsize : json.length ≤ maxMessageSize)
    (hserde : serde.RoundTrips msg) : Frames (decode serde) (frame msg json) msg where
  starved p hp hne := by
    have hlt : p.length < headerLen + json.length := by
      rw [← length_frame msg json]
      exact lt_of_le_of_ne hp.length_le fun h ↦ hne (hp.eq_of_length h)
    unfold decode
    split
    · rfl
    · next hhead =>
        rw [length_field hsize (Nat.not_lt.mp hhead) (.inl hp)]
        dsimp only
        rw [if_neg (Nat.not_lt.mpr hsize), if_pos hlt]
  served rest := by
    have hlen : headerLen + json.length ≤ (frame msg json ++ rest).length := by simp
    have hdrop : (frame msg json ++ rest).drop (headerLen + json.length) = rest :=
      List.drop_left' (length_frame msg json)
    have hbody : ((frame msg json ++ rest).drop headerLen).take json.length = json := by
      have hhead : (frame msg json).drop headerLen = json := by
        rw [frame, List.cons_append, headerLen, List.drop_succ_cons]
        exact List.drop_left' (length_toBE 8 _)
      rw [List.drop_append_of_le_length (by simp), hhead, List.take_left]
    unfold decode
    rw [if_neg (by omega), length_field hsize (by omega) (.inr (List.prefix_append _ _))]
    dsimp only
    rw [if_neg (Nat.not_lt.mpr hsize), if_neg (Nat.not_lt.mpr hlen), hbody, hdrop,
      hserde json hjson]

/-! ## Streams of messages -/

/-- The length that the header of a buffer announces. -/
def announced (src : List UInt8) : Nat := ofBE ((src.drop 1).take 8)

/-- What is decoded from a type byte and a JSON text. -/
def decodeBody (serde : Serde) (typeByte : UInt8) (json : List UInt8) : Result (Option Message) :=
  match serde.fromSlice json with
  | .ok msg => .ok (some msg)
  | .error e => .error (.codec ("Failed to deserialize message (type: " ++
      typeByteText typeByte ++ "): " ++ e))

/-- The error for a length above the limit. -/
def oversize (length : Nat) : Error :=
  .protocol ("message length " ++ toString length ++ " exceeds max " ++ toString maxMessageSize)

section Decode

variable (serde : Serde) {src : List UInt8}

theorem decode_of_short (h : src.length < headerLen) : decode serde src = (.ok none, src) :=
  if_pos h

theorem decode_of_oversize (hhead : headerLen ≤ src.length)
    (hmax : maxMessageSize < announced src) :
    decode serde src = (.error (oversize (announced src)), src) :=
  (if_neg (Nat.not_lt.mpr hhead)).trans (if_pos hmax)

theorem decode_of_incomplete (hhead : headerLen ≤ src.length)
    (hmax : announced src ≤ maxMessageSize) (hlen : src.length < headerLen + announced src) :
    decode serde src = (.ok none, src) :=
  (if_neg (Nat.not_lt.mpr hhead)).trans ((if_neg (Nat.not_lt.mpr hmax)).trans (if_pos hlen))

theorem decode_of_complete (hmax : announced src ≤ maxMessageSize)
    (hlen : headerLen + announced src ≤ src.length) :
    decode serde src = (decodeBody serde (src.headD 0)
      ((src.drop headerLen).take (announced src)), src.drop (headerLen + announced src)) := by
  have hhead : ¬src.length < headerLen := by omega
  refine (if_neg hhead).trans ((if_neg (Nat.not_lt.mpr hmax)).trans
    ((if_neg (Nat.not_lt.mpr hlen)).trans ?_))
  unfold decodeBody announced
  split <;> rfl

/-- The decoder waits for a header or a text, refuses a length, or takes a message off
the buffer. -/
theorem decode_cases (src : List UInt8) :
    decode serde src = (.ok none, src) ∨
    (headerLen ≤ src.length ∧ maxMessageSize < announced src ∧
      decode serde src = (.error (oversize (announced src)), src)) ∨
    (announced src ≤ maxMessageSize ∧ headerLen + announced src ≤ src.length ∧
      decode serde src = (decodeBody serde (src.headD 0)
        ((src.drop headerLen).take (announced src)), src.drop (headerLen + announced src))) := by
  rcases Nat.lt_or_ge src.length headerLen with hhead | hhead
  · exact .inl (decode_of_short serde hhead)
  rcases Nat.lt_or_ge maxMessageSize (announced src) with hmax | hmax
  · exact .inr (.inl ⟨hhead, hmax, decode_of_oversize serde hhead hmax⟩)
  rcases Nat.lt_or_ge src.length (headerLen + announced src) with hlen | hlen
  · exact .inl (decode_of_incomplete serde hhead hmax hlen)
  · exact .inr (.inr ⟨hmax, hlen, decode_of_complete serde hmax hlen⟩)

theorem decodeBody_ne_none (typeByte : UInt8) (json : List UInt8) :
    decodeBody serde typeByte json ≠ .ok none := by
  unfold decodeBody
  split <;> simp

/-- The header does not change when more arrives. -/
theorem announced_append (hhead : headerLen ≤ src.length) (more : List UInt8) :
    announced (src ++ more) = announced src := by
  unfold headerLen at hhead
  rw [announced, announced, List.drop_append_of_le_length (by omega),
    List.take_append_of_le_length (by rw [List.length_drop]; omega)]

/-- A message or an error is found again when more has arrived. -/
theorem decode_append {result : Result (Option Message)} {rest : List UInt8}
    (hd : decode serde src = (result, rest)) (hresult : result ≠ .ok none) (more : List UInt8) :
    decode serde (src ++ more) = (result, rest ++ more) := by
  rcases decode_cases serde src with h | ⟨hhead, hmax, h⟩ | ⟨hmax, hlen, h⟩
  · exact absurd (Prod.mk.inj (hd.symm.trans h)).1 hresult
  · obtain ⟨rfl, rfl⟩ := Prod.mk.inj (hd.symm.trans h)
    have happ := announced_append hhead more
    rw [decode_of_oversize serde (by rw [List.length_append]; omega) (happ ▸ hmax), happ]
  · obtain ⟨rfl, rfl⟩ := Prod.mk.inj (hd.symm.trans h)
    have hhead : headerLen ≤ src.length := by omega
    have hne : src ≠ [] := by
      rintro rfl
      exact absurd hhead (by decide)
    rw [decode_of_complete serde (by rw [announced_append hhead]; exact hmax)
      (by rw [announced_append hhead, List.length_append]; omega), announced_append hhead,
      List.drop_append_of_le_length hlen, List.drop_append_of_le_length hhead,
      List.take_append_of_le_length (by rw [List.length_drop]; omega)]
    obtain ⟨b, src, rfl⟩ := List.exists_cons_of_ne_nil hne
    rfl

/-- A message consumes the header and as many bytes as it announces. -/
theorem decode_eq_some {msg : Message} {rest : List UInt8}
    (hd : decode serde src = (.ok (some msg), rest)) :
    headerLen + announced src ≤ src.length ∧ rest = src.drop (headerLen + announced src) := by
  rcases decode_cases serde src with h | ⟨-, -, h⟩ | ⟨-, hlen, h⟩
  · cases hd.symm.trans h
  · cases hd.symm.trans h
  · exact ⟨hlen, (Prod.mk.inj (hd.symm.trans h)).2⟩

/-- A starved decoder consumes nothing. -/
theorem decode_eq_none {rest : List UInt8} (hd : decode serde src = (.ok none, rest)) :
    rest = src := by
  rcases decode_cases serde src with h | ⟨-, -, h⟩ | ⟨-, -, h⟩
  · exact (Prod.mk.inj (hd.symm.trans h)).2
  · cases hd.symm.trans h
  · exact absurd (Prod.mk.inj (hd.symm.trans h)).1.symm (decodeBody_ne_none serde _ _)

/-- What the decoder says of a buffer stands when more arrives. -/
theorem incremental : Incremental (decode serde) where
  empty := rfl
  starved := decode_eq_none serde
  served := by
    intro buf rest msg hd
    refine ⟨?_, decode_append serde hd (by simp)⟩
    obtain ⟨hlen, rfl⟩ := decode_eq_some serde hd
    rw [List.length_drop]
    unfold headerLen at hlen ⊢
    omega
  failed hd := decode_append serde hd (by simp)

end Decode

/-- Messages encoded one after another into one buffer. -/
def encodeAll (serde : Serde) : List Message → List UInt8 → Result Unit × List UInt8
  | [], dst => (.ok (), dst)
  | msg :: msgs, dst =>
    match encode serde msg dst with
    | (.ok (), dst) => encodeAll serde msgs dst
    | (.error e, dst) => (.error e, dst)

/-- Encoded messages are decoded, and nothing is left. -/
theorem drain_encodeAll {serde : Serde} {msgs : List Message}
    (hserde : ∀ msg ∈ msgs, serde.RoundTrips msg) {dst out : List UInt8}
    (h : encodeAll serde msgs dst = (.ok (), out)) :
    ∃ tail, out = dst ++ tail ∧ drain (decode serde) tail = ⟨msgs, none, []⟩ := by
  induction msgs generalizing dst with
  | nil =>
      obtain rfl := (Prod.mk.inj h).2
      exact ⟨[], (List.append_nil _).symm, rfl⟩
  | cons msg msgs ih =>
      obtain ⟨hmsg, hmsgs⟩ := List.forall_mem_cons.mp hserde
      unfold encodeAll at h
      split at h
      · next mid hencode =>
          obtain ⟨json, hjson, hsize, rfl⟩ := encode_eq_ok hencode
          obtain ⟨tail, rfl, hdrain⟩ := ih hmsgs h
          refine ⟨frame msg json ++ tail, List.append_assoc _ _ _, ?_⟩
          rw [drain_of_served (incremental serde) ((frames hjson hsize hmsg).served tail), hdrain]
          rfl
      · cases h

/-- An encoding that fails leaves the buffer as it was. -/
theorem encode_eq_error {serde : Serde} {msg : Message} {dst out : List UInt8} {e : Error}
    (h : encode serde msg dst = (.error e, out)) : out = dst := by
  unfold encode at h
  split at h
  · exact (Prod.mk.inj h).2.symm
  · split at h
    · exact (Prod.mk.inj h).2.symm
    · cases h

/-- How a stream is cut into reads does not matter.  A message consumes its header and
the length it announces; a starved decoder and an announced length above the limit
consume nothing.  Encoded messages are decoded however they are cut, with nothing left,
and an encoding that fails writes nothing. -/
theorem decode_stream (serde : Serde) :
    (∀ reads reads' : List (List UInt8), reads.flatten = reads'.flatten →
      feed (decode serde) reads = feed (decode serde) reads') ∧
    (∀ src msg rest, decode serde src = (.ok (some msg), rest) →
      ∃ taken, src = taken ++ rest ∧ taken.length = 9 + announced src) ∧
    (∀ src rest, decode serde src = (.ok none, rest) → rest = src) ∧
    (∀ src, 9 ≤ src.length → maxMessageSize < announced src →
      decode serde src = (.error (oversize (announced src)), src)) ∧
    (∀ msgs out, (∀ msg ∈ msgs, serde.RoundTrips msg) →
      encodeAll serde msgs [] = (.ok (), out) → ∀ reads : List (List UInt8), reads.flatten = out →
        feed (decode serde) reads = ⟨msgs, none, []⟩) ∧
    (∀ msg dst e out, encode serde msg dst = (.error e, out) → out = dst) := by
  refine ⟨?_, ?_, fun _ _ ↦ decode_eq_none serde, fun _ ↦ decode_of_oversize serde, ?_,
    fun _ _ _ _ ↦ encode_eq_error⟩
  · intro reads reads' h
    rw [feed_eq_drain (incremental serde), feed_eq_drain (incremental serde), h]
  · intro src msg rest hd
    obtain ⟨hlen, rfl⟩ := decode_eq_some serde hd
    exact ⟨src.take (headerLen + announced src), (List.take_append_drop _ _).symm,
      List.length_take_of_le hlen⟩
  · intro msgs out hserde henc reads hreads
    obtain ⟨tail, rfl, hdrain⟩ := drain_encodeAll hserde henc
    rw [feed_eq_drain (incremental serde), hreads]
    exact hdrain

/-- The JSON text of a ping. -/
def pingJson : List UInt8 := Arp.Lib.Text.bytes "\x7b\"type\":\"Ping\",\"timestamp\":0\x7d"

/-- `serde_json` where pings are all that is said. -/
def pingSerde : Serde where
  toVec
    | .ping _ => .ok pingJson
    | _ => .error "not part of the exchange"
  fromSlice json := if json = pingJson then .ok (.ping 0) else .error "expected value"

theorem pingJson_length : pingJson.length ≤ maxMessageSize := by decide +kernel

theorem pingSerde_roundTrips : pingSerde.RoundTrips (.ping 0) := by
  intro json hjson
  obtain rfl := Except.ok.inj hjson
  simp [pingSerde]

/-- Two pings arrive in one piece or with a cut inside the first header; a header that
announces too much and a message that cannot be written change nothing. -/
theorem decode_stream_pings :
    let ping := frame (.ping 0) pingJson
    feed (decode pingSerde) [ping.take 4, ping.drop 4 ++ ping] =
      feed (decode pingSerde) [ping ++ ping] ∧
    (∃ taken, ping ++ ping = taken ++ ping ∧ taken.length = 9 + announced (ping ++ ping)) ∧
    decode pingSerde (104 :: toBE 8 (2 ^ 23 + 1)) =
      (.error (oversize (2 ^ 23 + 1)), 104 :: toBE 8 (2 ^ 23 + 1)) ∧
    feed (decode pingSerde) [ping.take 4, ping.drop 4 ++ ping] = ⟨[.ping 0, .ping 0], none, []⟩ ∧
    (encode pingSerde (.pong 0) ping).2 = ping := by
  intro ping
  obtain ⟨hcut, hlen, -, hsize, hround, hfail⟩ := decode_stream pingSerde
  have hone := @encode_of_toVec pingSerde (.ping 0) pingJson rfl pingJson_length
  have hall : encodeAll pingSerde [.ping 0, .ping 0] [] = (.ok (), ping ++ ping) := by
    simp only [encodeAll, hone]
    rfl
  have hcutting : [ping.take 4, ping.drop 4 ++ ping].flatten = ping ++ ping := by
    rw [List.flatten_cons, List.flatten_singleton, ← List.append_assoc, List.take_append_drop]
  have hserde : ∀ msg ∈ [Message.ping 0, .ping 0], pingSerde.RoundTrips msg := by
    simpa using pingSerde_roundTrips
  have hserved := (frames rfl pingJson_length pingSerde_roundTrips).served ping
  exact ⟨hcut _ _ (by rw [hcutting, List.flatten_singleton]), hlen _ _ _ hserved,
    hsize (104 :: toBE 8 (2 ^ 23 + 1)) (by decide) (by decide +kernel),
    hround _ _ hserde hall _ hcutting, hfail (.pong 0) ping _ _ rfl⟩

end MessageCodec

end Arp.Common
