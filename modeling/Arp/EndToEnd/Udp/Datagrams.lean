import Arp.EndToEnd.Udp.Routing

/-!
# What becomes of a datagram

On its way to the local service a datagram is encoded by the server, which knows the proxy
from the `NewProxy` message, and decoded by the client, which knows it from its
configuration; a reply goes the other way.  Flags and key come from two structures, and a
secure UDP proxy encrypts whatever its flag says.  Both ends still do the same
(`packetOptions_agree`), and a configuration that was accepted has a key where one is needed.
-/

namespace Arp.EndToEnd.Udp

open Arp.Common Arp.Client Arp.Lib Arp.Lib.Text

/-- The text of a socket address.  The longest is that of an IPv6 address with a scope. -/
abbrev SourceAddr := { text : String // (bytes text).length ≤ 58 }

/-- A frame is within the limits of both ends: it can be written, and it is read back whatever
comes after it. -/
def Crosses (frame : UdpMuxFrame) : Prop :=
  UdpMux.Fits frame ∧ ∃ written, UdpMux.writeUdpMuxFrame frame = .ok written ∧
    ∀ rest, UdpMux.readUdpMuxFrame (written ++ rest) = .done frame rest

/-- A datagram from a source gets to the local service. -/
def Forwards (set : Settings) (source : SourceAddr) (packet : List UInt8) : Prop :=
  ∀ (requestId : UInt32) (nonce : Vector UInt8 12) (turn : UdpProxy.Turn), turn.send = .ok () →
    ∃ payload, set.server.encode set.prims nonce packet = .ok payload ∧
      Crosses (.req requestId source.val payload) ∧
        set.client.forward set.prims turn payload = .ok packet

/-- A datagram of the local service gets to the user. -/
def Returns (set : Settings) (reply : List UInt8) : Prop :=
  ∀ (requestId : UInt32) (turn : UdpProxy.Turn), turn.recv = some (.ok reply) →
    ∃ payload, set.client.receive set.prims turn = .ok payload ∧
      Crosses (.resp requestId payload) ∧ set.server.decode set.prims payload = .ok reply

/-- Frames that fit cross. -/
theorem crosses_of_fits {frame : UdpMuxFrame} (h : UdpMux.Fits frame) : Crosses frame := by
  refine ⟨h, UdpMux.encode frame, ?_, (UdpMux.reads_encode h).done⟩
  cases frame with
  | req requestId srcAddr payload => exact if_neg (Nat.not_lt.mpr h.1)
  | _ => rfl

/-- An accepted configuration has a key if its UDP proxy encrypts. -/
theorem secret_ne_empty {tcpMux : Bool} {config : ProxyConfig} {prims : Primitives}
    (hvalid : config.validate = .ok ())
    (hencryption : (Settings.ofConfig tcpMux config prims).client.packetOptions.useEncryption =
      true) : (Settings.ofConfig tcpMux config prims).client.packetOptions.secret ≠ "" := by
  have haccepted := ProxyConfig.validate_eq_ok.mp hvalid
  have hused : config.useEncryption = true ∨ config.proxyType = .sudp := by
    simpa [Settings.ofConfig, UdpProxy.packetOptions, UdpProxy.new, effectiveConfig]
      using hencryption
  have hblank : isBlank config.sk = false := by
    rcases hused with hused | hsudp
    · exact haccepted.encryption hused
    · exact haccepted.secret (.inr (.inl hsudp))
  intro hempty
  rw [show config.sk = "" from hempty, isBlank_empty] at hblank
  cases hblank

section

variable {tcpMux : Bool} {config : ProxyConfig} {prims : Primitives}
  (hvalid : config.validate = .ok ()) (hprims : prims.Reliable)

include hvalid hprims

/-- What one end encodes fits into a frame, and the other end decodes it. -/
theorem exists_encode {packet : List UInt8} (hpacket : packet.length ≤ UdpProxy.udpPacketMax)
    (nonce : Vector UInt8 12) :
    ∃ payload,
      (Settings.ofConfig tcpMux config prims).client.packetOptions.encode prims nonce packet =
          .ok payload ∧
        (Settings.ofConfig tcpMux config prims).client.packetOptions.decode prims payload =
          .ok packet ∧ payload.length ≤ UdpMux.maxPayloadLen := by
  have hsecret := @secret_ne_empty tcpMux config prims hvalid
  unfold UdpProxy.udpPacketMax at hpacket
  obtain ⟨payload, hencode, hdecode, hlen⟩ :=
    PacketOptions.exists_encode hprims hsecret nonce hpacket
  refine ⟨payload, hencode, hdecode, ?_⟩
  unfold UdpMux.maxPayloadLen
  omega

/-- Every datagram of a UDP proxy with an accepted configuration gets to the local service,
and every reply back to the user, unchanged. -/
theorem datagrams_come_through (source : SourceAddr) {packet reply : List UInt8}
    (hpacket : packet.length ≤ UdpProxy.udpPacketMax)
    (hreply : reply.length ≤ UdpProxy.udpPacketMax) :
    Forwards (Settings.ofConfig tcpMux config prims) source packet ∧
      Returns (Settings.ofConfig tcpMux config prims) reply := by
  constructor
  · intro requestId nonce turn hsend
    obtain ⟨payload, hencode, hdecode, hlen⟩ :=
      @exists_encode tcpMux _ _ hvalid hprims _ hpacket nonce
    have haddr : (bytes source.val).length ≤ UdpMux.maxAddrLen :=
      source.property.trans (by decide)
    refine ⟨payload, ?_, crosses_of_fits ⟨haddr, hlen⟩, ?_⟩
    · rw [packetOptions_agree]
      exact hencode
    · simp only [UdpProxy.forward, Settings.ofConfig] at hdecode ⊢
      rw [hdecode, hsend]
      rfl
  · intro requestId turn hrecv
    obtain ⟨payload, hencode, hdecode, hlen⟩ :=
      @exists_encode tcpMux _ _ hvalid hprims _ hreply turn.nonce
    refine ⟨payload, ?_, crosses_of_fits hlen, ?_⟩
    · rw [UdpProxy.receive, hrecv]
      simp only [Except.mapError, bind, Except.bind, List.take_of_length_le hreply]
      exact hencode
    · rw [packetOptions_agree]
      exact hdecode

end

/-- A secure proxy that compresses, and whose flag does not ask for encryption. -/
def securePackets : ProxyConfig where
  name := "dns"
  proxyType := .sudp
  localIp := "127.0.0.1"
  localPort := 53
  remotePort := 0
  useEncryption := false
  useCompression := true
  customDomains := []
  subdomain := ""
  locations := []
  hostHeaderRewrite := ""
  sk := "key"
  fallbackToRelay := false
  multiplexer := ""
  loadBalancer := ⟨"", ""⟩

theorem datagrams_come_through_securePackets :
    securePackets.validate = .ok () ∧
      Forwards (Settings.ofConfig true securePackets .trivial) ⟨"203.0.113.1:4000", by decide⟩
        [1, 2, 3] ∧
      Returns (Settings.ofConfig true securePackets .trivial) [] := by
  have hvalid : securePackets.validate = .ok () := by decide
  exact ⟨hvalid, datagrams_come_through hvalid Primitives.trivial_reliable _
    (by decide) (by decide)⟩

end Arp.EndToEnd.Udp
