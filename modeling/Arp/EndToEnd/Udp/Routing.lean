import Arp.EndToEnd.Udp.Machine

/-!
# Answers reach the source they are for

If the service answers in turn, every response that is on its way carries the answer
to the packet that has its request id, so that the task that waits under the id gets
the answer to its own packet.

The invariant `Routed` says so of every place a frame can be in.  Its parts speak of
the packets, of what was forwarded and of what was emitted; all of these only grow
(`Grow` and `Answers.Grow`).
-/

namespace Arp.EndToEnd.Udp

open Arp.Common Arp.Client Arp.Lib Arp.Lib.Wire

/-! ## Both ends do the same to packets -/

/-- The server reads from the message what the client reads from the configuration. -/
theorem packetOptions_agree (tcpMux : Bool) (config : ProxyConfig) (prims : Primitives) :
    (Settings.ofConfig tcpMux config prims).server =
      (Settings.ofConfig tcpMux config prims).client.packetOptions := by
  have hsudp : (config.proxyType.display == "sudp") = (config.proxyType == .sudp) := by
    cases config.proxyType <;> rfl
  simp only [Settings.ofConfig, Server.udpPacketOptions, newProxyMsg, hsudp, UdpProxy.packetOptions,
    UdpProxy.new, effectiveConfig]

/-- Settings that make sense: both ends do the same to packets, with functions that
keep their promises. -/
structure Settings.Sound (set : Settings) : Prop where
  agree : set.server = set.client.packetOptions
  lawful : set.prims.Lawful

/-- What is encoded at one end fits into a frame and is decoded at the other. -/
theorem Settings.Sound.of_encode {set : Settings} (h : set.Sound) {nonce : Vector UInt8 12}
    {data : Datagram} {payload : List UInt8}
    (hencode : set.server.encode set.prims nonce data.val = .ok payload) :
    set.server.decode set.prims payload = .ok data.val ∧
      payload.length ≤ UdpMux.maxPayloadLen := by
  obtain ⟨hdecode, hlen⟩ := PacketOptions.of_encode h.lawful hencode
  have hdata := data.property
  unfold maxDatagramLen at hdata
  refine ⟨hdecode, ?_⟩
  unfold UdpMux.maxPayloadLen
  omega

/-- The response to a datagram. -/
theorem Settings.Sound.of_receive {set : Settings} (h : set.Sound) {turn : UdpProxy.Turn}
    {data : Datagram} {payload : List UInt8}
    (hreceive : set.client.receive set.prims { turn with recv := some (.ok data.val) } =
      .ok payload) :
    set.server.decode set.prims payload = .ok data.val ∧
      payload.length ≤ UdpMux.maxPayloadLen := by
  have htake : data.val.take UdpProxy.udpPacketMax = data.val := by
    have hdata := data.property
    unfold maxDatagramLen at hdata
    refine List.take_of_length_le ?_
    unfold UdpProxy.udpPacketMax
    omega
  simp only [UdpProxy.receive, Except.mapError, bind, Except.bind, htake, ← h.agree] at hreceive
  exact h.of_encode hreceive

/-! ## What is known about packets -/

/-- The packet of a task that has taken a request id. -/
def Owns (packets : List Packet) (p : Nat) (id : UInt32) : Prop :=
  ∃ packet, packets[p]? = some packet ∧ packet.requestId = some id

/-- A task gets on with the packet it has and the request id it has taken. -/
structure Packet.Continues (packet packet' : Packet) : Prop where
  source : packet'.source = packet.source
  payload : packet'.payload = packet.payload
  encoded : packet'.encoded = packet.encoded
  requestId : ∀ id, packet.requestId = some id → packet'.requestId = some id

/-- Tasks are added and get on. -/
def Grow (packets packets' : List Packet) : Prop :=
  ∀ (p : Nat) (packet : Packet), packets[p]? = some packet →
    ∃ packet', packets'[p]? = some packet' ∧ packet.Continues packet'

theorem Grow.append (packets more : List Packet) : Grow packets (packets ++ more) := by
  intro p packet h
  have hlt := (List.getElem?_eq_some_iff.mp h).1
  exact ⟨packet, by rwa [List.getElem?_append_left hlt], rfl, rfl, rfl, fun _ hid ↦ hid⟩

theorem Grow.set {packets : List Packet} {p : Nat} {packet packet' : Packet}
    (h : packets[p]? = some packet) (hcont : packet.Continues packet') :
    Grow packets (packets.set p packet') := by
  intro q other hq
  by_cases hqp : q = p
  · subst hqp
    obtain rfl : packet = other := Option.some.inj (h.symm.trans hq)
    have hlt := (List.getElem?_eq_some_iff.mp h).1
    exact ⟨packet', by rw [List.getElem?_set_self hlt], hcont⟩
  · exact ⟨other, by rwa [List.getElem?_set_ne (Ne.symm hqp)], rfl, rfl, rfl, fun _ h ↦ h⟩

theorem Owns.grow {packets packets' : List Packet} {p : Nat} {id : UInt32}
    (h : Owns packets p id) (hgrow : Grow packets packets') : Owns packets' p id := by
  obtain ⟨packet, hp, hid⟩ := h
  obtain ⟨packet', hp', hcont⟩ := hgrow p packet hp
  exact ⟨packet', hp', hcont.requestId id hid⟩

/-- A frame on the way to the client: the request of a packet. -/
def Request (packets : List Packet) : UdpMuxFrame → Prop
  | .req id source payload => payload.length ≤ UdpMux.maxPayloadLen ∧
      ∃ (p : Nat) (packet : Packet), packets[p]? = some packet ∧ packet.requestId = some id ∧
        packet.source = source ∧ packet.encoded = payload
  | .pong => True
  | _ => False

theorem Request.grow {packets packets' : List Packet} {frame : UdpMuxFrame}
    (h : Request packets frame) (hgrow : Grow packets packets') : Request packets' frame := by
  cases frame with
  | req id source payload =>
      obtain ⟨hlen, p, packet, hp, hid, rfl, rfl⟩ := h
      obtain ⟨packet', hp', hcont⟩ := hgrow p packet hp
      exact ⟨hlen, p, packet', hp', hcont.requestId id hid, hcont.source, hcont.encoded⟩
  | pong => trivial
  | ping => exact h
  | resp id payload => exact h

/-- The service's answers as far as they bear on routing. -/
structure Answers where
  forwarded : List (String × List UInt8)
  emitted : List (Nat × Datagram)
deriving DecidableEq

/-- What was forwarded and emitted. -/
def State.answers (s : State) : Answers := ⟨s.forwarded, s.emitted⟩

/-- More is forwarded and emitted. -/
structure Answers.Grow (a a' : Answers) : Prop where
  forwarded : a.forwarded <+: a'.forwarded
  emitted : a.emitted ⊆ a'.emitted

/-- The payload of a response decodes to a datagram that the service emitted in
answer to a packet from this source with this content. -/
def Answers.For (set : Settings) (a : Answers) (source : String) (packet : List UInt8)
    (payload : List UInt8) : Prop :=
  ∃ m data, (m, data) ∈ a.emitted ∧ a.forwarded[m]? = some (source, packet) ∧
    set.server.decode set.prims payload = .ok data.val

theorem Answers.For.grow {set : Settings} {a a' : Answers} {source : String}
    {packet payload : List UInt8} (h : a.For set source packet payload) (hgrow : a.Grow a') :
    a'.For set source packet payload := by
  obtain ⟨m, data, hemitted, hforwarded, hdecode⟩ := h
  refine ⟨m, data, hgrow.emitted hemitted, ?_, hdecode⟩
  have hlt := (List.getElem?_eq_some_iff.mp hforwarded).1
  obtain ⟨more, hmore⟩ := hgrow.forwarded
  rw [← hmore, List.getElem?_append_left hlt]
  exact hforwarded

/-- A frame on the way to the server: the response to a packet. -/
def Response (set : Settings) (packets : List Packet) (a : Answers) : UdpMuxFrame → Prop
  | .resp id payload => payload.length ≤ UdpMux.maxPayloadLen ∧
      ∃ (p : Nat) (packet : Packet), packets[p]? = some packet ∧ packet.requestId = some id ∧
        a.For set packet.source packet.payload.val payload
  | .pong => True
  | _ => False

theorem Response.grow {set : Settings} {packets packets' : List Packet} {a a' : Answers}
    {frame : UdpMuxFrame} (h : Response set packets a frame) (hgrow : Grow packets packets')
    (hanswers : a.Grow a') : Response set packets' a' frame := by
  cases frame with
  | resp id payload =>
      obtain ⟨hlen, p, packet, hp, hid, hfor⟩ := h
      obtain ⟨packet', hp', hcont⟩ := hgrow p packet hp
      refine ⟨hlen, p, packet', hp', hcont.requestId id hid, ?_⟩
      rw [hcont.source, hcont.payload]
      exact hfor.grow hanswers
  | pong => trivial
  | ping => exact h
  | req id source payload => exact h

/-! ## The invariant -/

/-- What the client waits for, and what is on its way to it. -/
def Attends (packets : List Packet) (a : Answers) (inbox : List Datagram) : Client → Prop
  | .idle => inbox = []
  | .receiving id =>
    (∃ (p : Nat) (packet : Packet), packets[p]? = some packet ∧ packet.requestId = some id ∧
      a.forwarded.getLast? = some (packet.source, packet.payload.val)) ∧
    inbox.length ≤ 1 ∧ ∀ data ∈ inbox, (a.forwarded.length - 1, data) ∈ a.emitted
  | .ended => True

theorem Attends.grow {packets packets' : List Packet} {a : Answers} {inbox : List Datagram}
    {client : Client} (h : Attends packets a inbox client) (hgrow : Grow packets packets') :
    Attends packets' a inbox client := by
  cases client with
  | idle => exact h
  | receiving id =>
      obtain ⟨⟨p, packet, hp, hid, hlast⟩, hinbox⟩ := h
      obtain ⟨packet', hp', hcont⟩ := hgrow p packet hp
      refine ⟨⟨p, packet', hp', hcont.requestId id hid, ?_⟩, hinbox⟩
      rw [hcont.source, hcont.payload]
      exact hlast
  | ended => trivial

/-- A task's packet was encoded so that it can be decoded again. -/
def Packet.Encoded (set : Settings) (packet : Packet) : Prop :=
  set.server.decode set.prims packet.encoded = .ok packet.payload.val ∧
    packet.encoded.length ≤ UdpMux.maxPayloadLen

/-- Everything that is under way belongs to the packet whose request id it bears. -/
structure Routed (set : Settings) (s : State) : Prop where
  unique : ∀ p q id, Owns s.packets p id → Owns s.packets q id → p = q
  encoded : ∀ packet ∈ s.packets, packet.Encoded set
  queue : ∀ frame ∈ s.queue, Request s.packets frame
  toClient : Flows UdpMux.codec (s.writerExited = true) (Request s.packets) s.toClient
  toServer : Flows UdpMux.codec (s.client = .ended) (Response set s.packets s.answers) s.toServer
  client : Attends s.packets s.answers s.inbox s.client
  pending : ∀ id p, s.pending.lookup id = some p → Owns s.packets p id
  reply : ∀ packet ∈ s.packets, ∀ payload, packet.reply = some payload →
    s.answers.For set packet.source packet.payload.val payload
  delivered : RightlyRouted s

namespace Routed

variable {set : Settings} {s : State}

theorem new : Routed set .new where
  unique p q id h := by
    obtain ⟨packet, hp, -⟩ := h
    simp [State.new] at hp
  encoded := by simp [State.new]
  queue := by simp [State.new]
  toClient := .empty
  toServer := .empty
  client := rfl
  pending := by simp [State.new]
  reply := by simp [State.new]
  delivered := by simp [RightlyRouted, State.new]

/-! ### The tasks -/

/-- Tasks are added or get on. -/
theorem grow (h : Routed set s) {packets : List Packet} (hgrow : Grow s.packets packets)
    (hunique : ∀ p q id, Owns packets p id → Owns packets q id → p = q)
    (hencoded : ∀ packet ∈ packets, packet.Encoded set)
    (hreply : ∀ packet ∈ packets, ∀ payload, packet.reply = some payload →
      s.answers.For set packet.source packet.payload.val payload) :
    Routed set { s with packets := packets } where
  unique := hunique
  encoded := hencoded
  queue frame hframe := (h.queue frame hframe).grow hgrow
  toClient := h.toClient.mono fun _ hf ↦ hf.grow hgrow
  toServer := h.toServer.mono fun _ hf ↦ hf.grow hgrow ⟨List.prefix_rfl, List.Subset.refl _⟩
  client := h.client.grow hgrow
  pending id p hp := (h.pending id p hp).grow hgrow
  reply := hreply
  delivered := by
    intro d hd
    obtain ⟨m, data, hemitted, hdata, packet, hpacket, hsource, hforwarded⟩ := h.delivered d hd
    obtain ⟨p, hp⟩ := List.mem_iff_getElem?.mp hpacket
    obtain ⟨packet', hp', hcont⟩ := hgrow p packet hp
    refine ⟨m, data, hemitted, hdata, packet', List.mem_of_getElem? hp', ?_, ?_⟩
    · rw [hcont.source, hsource]
    · rw [hcont.source, hcont.payload]
      exact hforwarded

/-- A packet arrives. -/
theorem arrive (hset : set.Sound) (h : Routed set s) {source : String} {payload : Datagram}
    {nonce : Vector UInt8 12} {encoded : List UInt8}
    (hencode : set.server.encode set.prims nonce payload.val = .ok encoded) :
    Routed set { s with
      packets := s.packets ++ [⟨source, payload, encoded, .ready, none⟩] } := by
  have hold : ∀ p id, Owns (s.packets ++ [⟨source, payload, encoded, .ready, none⟩]) p id →
      Owns s.packets p id := by
    rintro p id ⟨packet, hp, hid⟩
    rcases eq_or_of_getElem?_concat hp with ⟨-, rfl⟩ | hold
    · cases hid
    · exact ⟨packet, hold, hid⟩
  refine h.grow (.append _ _) (fun p q id hp hq ↦ h.unique p q id (hold p id hp) (hold q id hq))
    (fun packet hpacket ↦ ?_) (fun packet hpacket ↦ ?_)
  · rcases List.mem_append.mp hpacket with hmem | hnew
    · exact h.encoded packet hmem
    · rw [List.mem_singleton.mp hnew]
      exact hset.of_encode hencode
  · rcases List.mem_append.mp hpacket with hmem | hnew
    · exact h.reply packet hmem
    · rw [List.mem_singleton.mp hnew]
      simp

variable {p : Nat} {packet packet' : Packet}

/-- A task gets on: it may take a request id that no other has, and it may have got the
reply to its packet. -/
theorem setPacket (h : Routed set s) (hp : s.packets[p]? = some packet)
    (hcont : packet.Continues packet')
    (hfresh : ∀ id, packet'.requestId = some id → packet.requestId = some id ∨
      ∀ other ∈ s.packets, other.requestId ≠ some id)
    (hreply : ∀ payload, packet'.reply = some payload → packet.reply = some payload ∨
      s.answers.For set packet.source packet.payload.val payload) :
    Routed set (s.setPacket p packet') := by
  have hmem := List.mem_of_getElem? hp
  -- Whoever owns an id afterwards owned it before, or it is the task that has just taken it.
  have hold : ∀ q id, Owns (s.packets.set p packet') q id → Owns s.packets q id ∨
      q = p ∧ ∀ other ∈ s.packets, other.requestId ≠ some id := by
    rintro q id ⟨other, hq, hid⟩
    rcases eq_or_of_getElem?_set hq with ⟨rfl, rfl⟩ | ⟨-, hold⟩
    · rcases hfresh id hid with hsame | hnone
      · exact .inl ⟨packet, hp, hsame⟩
      · exact .inr ⟨rfl, hnone⟩
    · exact .inl ⟨other, hold, hid⟩
  refine h.grow (.set hp hcont) (fun q r id hq hr ↦ ?_) (fun other hother ↦ ?_)
    (fun other hother payload hpayload ↦ ?_)
  · rcases hold q id hq with hq | ⟨rfl, hnone⟩
    · rcases hold r id hr with hr | ⟨-, hnone⟩
      · exact h.unique q r id hq hr
      · obtain ⟨other, hother, hid⟩ := hq
        exact absurd hid (hnone other (List.mem_of_getElem? hother))
    · rcases hold r id hr with hr | ⟨rfl, -⟩
      · obtain ⟨other, hother, hid⟩ := hr
        exact absurd hid (hnone other (List.mem_of_getElem? hother))
      · rfl
  · rcases List.mem_or_eq_of_mem_set hother with hold | rfl
    · exact h.encoded other hold
    · unfold Packet.Encoded
      rw [hcont.encoded, hcont.payload]
      exact h.encoded packet hmem
  · rcases List.mem_or_eq_of_mem_set hother with hold | rfl
    · exact h.reply other hold payload hpayload
    · rw [hcont.source, hcont.payload]
      rcases hreply payload hpayload with hsame | hnew
      · exact h.reply packet hmem payload hsame
      · exact hnew

/-- A task gets on without a new id or reply. -/
theorem setStage (h : Routed set s) (hp : s.packets[p]? = some packet) {stage : Stage}
    (hid : stage.requestId = packet.requestId) :
    Routed set (s.setPacket p { packet with stage := stage }) :=
  h.setPacket hp ⟨rfl, rfl, rfl, fun _ h ↦ hid.trans h⟩ (fun _ h ↦ .inl (hid.symm.trans h))
    fun _ hr ↦ .inl hr

/-- A task takes a request id that no other has. -/
theorem number (h : Routed set s) (hp : s.packets[p]? = some packet)
    (hready : packet.requestId = none)
    (hfresh : ∀ other ∈ s.packets, other.requestId ≠ some s.nextRequestId) :
    Routed set (s.setPacket p { packet with stage := .numbered s.nextRequestId }) := by
  refine h.setPacket hp ⟨rfl, rfl, rfl, fun id hid ↦ ?_⟩ (fun id hid ↦ .inr ?_) fun _ hr ↦ .inl hr
  · rw [hready] at hid
    cases hid
  · obtain rfl := Option.some.inj hid
    exact hfresh

/-- The table of pending requests is changed. -/
theorem setPending (h : Routed set s) {pending : Table UInt32 Nat}
    (hpending : ∀ id p, pending.lookup id = some p → Owns s.packets p id) :
    Routed set { s with pending := pending } :=
  ⟨h.unique, h.encoded, h.queue, h.toClient, h.toServer, h.client, hpending, h.reply, h.delivered⟩

theorem erasePending (h : Routed set s) (id : UInt32) :
    Routed set { s with pending := s.pending.erase id } := by
  refine h.setPending fun id' p hp ↦ ?_
  rw [Table.lookup_erase_ite] at hp
  split at hp
  · cases hp
  · exact h.pending id' p hp

/-- A frame is queued. -/
theorem enqueue (h : Routed set s) {frame : UdpMuxFrame} (hframe : Request s.packets frame) :
    Routed set { s with queue := s.queue ++ [frame] } := by
  refine ⟨h.unique, h.encoded, fun f hf ↦ ?_, h.toClient, h.toServer, h.client, h.pending, h.reply,
    h.delivered⟩
  rcases List.mem_append.mp hf with hold | hnew
  · exact h.queue f hold
  · exact List.mem_singleton.mp hnew ▸ hframe

/-- A request is entered under its id, which the task owns. -/
theorem insertPending (h : Routed set s) {id : UInt32} (howns : Owns s.packets p id) :
    Routed set { s with pending := s.pending.insert id p } := by
  refine h.setPending fun id' q hq ↦ ?_
  rw [Table.lookup_insert_ite] at hq
  split at hq
  · next heq =>
      obtain rfl := Option.some.inj hq
      exact heq ▸ howns
  · exact h.pending id' q hq

/-- A reply is sent to its source. -/
theorem deliver (h : Routed set s) (hmem : packet ∈ s.packets) {payload data : List UInt8}
    (hreply : packet.reply = some payload)
    (hdecode : set.server.decode set.prims payload = .ok data) :
    Routed set { s with delivered := s.delivered ++ [(packet.source, data)] } := by
  refine ⟨h.unique, h.encoded, h.queue, h.toClient, h.toServer, h.client, h.pending, h.reply, ?_⟩
  intro d hd
  rcases List.mem_append.mp hd with hold | hnew
  · exact h.delivered d hold
  · obtain ⟨m, datagram, hemitted, hforwarded, hdatagram⟩ := h.reply packet hmem payload hreply
    obtain rfl := List.mem_singleton.mp hnew
    refine ⟨m, datagram, hemitted, ?_, packet, hmem, rfl, hforwarded⟩
    exact Except.ok.inj (hdatagram.symm.trans hdecode)

/-- What a task does next. -/
theorem stepPacket (h : Routed set s) {e : Event} {s' : State}
    (hp : s.packets[p]? = some packet) (hok : AnsweredInTurn s e)
    (hs' : Udp.stepPacket set s p packet e = some s') : Routed set s' := by
  have hlt := (List.getElem?_eq_some_iff.mp hp).1
  have howns : ∀ packet' : Packet, ∀ id, packet'.requestId = some id →
      Owns (s.packets.set p packet') p id := fun packet' id hid ↦
    ⟨packet', List.getElem?_set_self hlt, hid⟩
  unfold Udp.stepPacket at hs'
  split at hs'
  · next hstage =>
      obtain rfl := Option.some.inj hs'
      have h' := h.number hp (by rw [Packet.requestId, hstage]; rfl) hok
      exact ⟨h'.unique, h'.encoded, h'.queue, h'.toClient, h'.toServer, h'.client, h'.pending,
        h'.reply, h'.delivered⟩
  · next id _ hstage =>
      obtain rfl := Option.some.inj hs'
      exact (h.setStage hp (by rw [Packet.requestId, hstage]; rfl)).insertPending
        (howns _ id rfl)
  · next id _ hstage =>
      split at hs'
      · obtain rfl := Option.some.inj hs'
        refine (h.setStage hp (by rw [Packet.requestId, hstage]; rfl)).enqueue ?_
        exact ⟨(h.encoded packet (List.mem_of_getElem? hp)).2, p, _, List.getElem?_set_self hlt,
          rfl, rfl, rfl⟩
      · cases hs'
  · next id _ hstage =>
      split at hs'
      · obtain rfl := Option.some.inj hs'
        exact (h.setStage hp (by rw [Packet.requestId, hstage]; rfl)).erasePending id
      · cases hs'
  · next id _ hstage =>
      split at hs'
      · obtain rfl := Option.some.inj hs'
        exact h.setStage hp (by rw [Packet.requestId, hstage]; rfl)
      · cases hs'
  · next id _ sent hstage =>
      have h' : Routed set (s.setPacket p { packet with stage := .finished id }) :=
        h.setStage hp (by rw [Packet.requestId, hstage]; rfl)
      split at hs'
      · next payload hreply =>
          dsimp only at hs'
          split at hs'
          · obtain rfl := Option.some.inj hs'
            exact h'
          · next data hdecode =>
              obtain rfl := Option.some.inj hs'
              split
              · exact h'.deliver (List.mem_of_getElem? (List.getElem?_set_self hlt)) hreply hdecode
              · exact h'
      · cases hs'
  · cases hs'

/-! ### The work connection -/

/-- A request that is written fits into a frame. -/
theorem fits_of_request {packets : List Packet} {frame : UdpMuxFrame} {bytes : List UInt8}
    (h : Request packets frame) (hwrite : UdpMux.writeUdpMuxFrame frame = .ok bytes) :
    UdpMux.Fits frame := by
  cases frame with
  | req id source payload => exact UdpMux.fits_of_write hwrite h.1
  | pong => trivial
  | ping => exact h.elim
  | resp id payload => exact h.elim

/-- The writer of the server. -/
theorem stepWriter (h : Routed set s) {e : Event} {s' : State}
    (hs' : Udp.stepWriter s e = some s') : Routed set s' := by
  unfold Udp.stepWriter at hs'
  split at hs'
  · split at hs'
    · next frame queue hexited hqueue =>
        obtain ⟨hframe, hrest⟩ := List.forall_mem_cons.mp (hqueue ▸ h.queue)
        split at hs'
        · next bytes hwrite =>
            obtain rfl := Option.some.inj hs'
            obtain rfl := UdpMux.eq_encode_of_write hwrite
            have hflow := h.toClient.write (by rw [hexited]; decide) (fits_of_request hframe hwrite)
              hframe
            exact ⟨h.unique, h.encoded, hrest, hflow, h.toServer, h.client, h.pending, h.reply,
              h.delivered⟩
        · obtain rfl := Option.some.inj hs'
          exact ⟨h.unique, h.encoded, by simp, h.toClient.stop fun _ ↦ rfl, h.toServer, h.client,
            h.pending, h.reply, h.delivered⟩
    · cases hs'
  · split at hs'
    · next frame queue hexited hqueue =>
        obtain ⟨hframe, -⟩ := List.forall_mem_cons.mp (hqueue ▸ h.queue)
        split at hs'
        · next bytes hwrite =>
            split at hs'
            · next hk =>
                obtain rfl := Option.some.inj hs'
                obtain rfl := UdpMux.eq_encode_of_write hwrite
                have hflow := h.toClient.writePart (by rw [hexited]; decide)
                  (fits_of_request hframe hwrite) hk
                exact ⟨h.unique, h.encoded, by simp, hflow.stop fun _ ↦ rfl, h.toServer, h.client,
                  h.pending, h.reply, h.delivered⟩
            · cases hs'
        · cases hs'
    · cases hs'
  · obtain rfl := Option.some.inj hs'
    exact ⟨h.unique, h.encoded, by simp, h.toClient.stop fun _ ↦ rfl, h.toServer, h.client,
      h.pending, h.reply, h.delivered⟩
  · cases hs'

/-- A reply reaches the task that waits for it. -/
theorem offer (h : Routed set s) {id : UInt32} {payload : List UInt8}
    (hframe : Response set s.packets s.answers (.resp id payload))
    (hpending : s.pending.lookup id = some p) :
    Routed set { s with packets := offer s.packets p payload } := by
  unfold Udp.offer
  split
  · next packet hp =>
      split
      · exact h
      · refine h.setPacket hp ⟨rfl, rfl, rfl, fun _ hid ↦ hid⟩ (fun _ hid ↦ .inl hid)
          fun payload' hpayload ↦ .inr ?_
        obtain rfl := Option.some.inj hpayload
        -- The response is for the packet that owns the id, and the task that waits owns it.
        obtain ⟨-, q, packet', hq, hid, hfor⟩ := hframe
        obtain rfl := h.unique q p id ⟨packet', hq, hid⟩ (h.pending id p hpending)
        obtain rfl : packet = packet' := Option.some.inj (hp.symm.trans hq)
        exact hfor
  · exact h

/-- Bytes are read at the server. -/
theorem readToServer (h : Routed set s) {frame : UdpMuxFrame} {rest : List UInt8}
    (hread : UdpMux.readUdpMuxFrame s.toServer = .done frame rest) :
    Response set s.packets s.answers frame ∧ Routed set { s with toServer := rest } := by
  obtain ⟨hframe, hrest⟩ := h.toServer.read hread
  exact ⟨hframe, h.unique, h.encoded, h.queue, h.toClient, hrest, h.client, h.pending, h.reply,
    h.delivered⟩

/-- The reader exits and drops all pending requests. -/
theorem readerExits (h : Routed set s) :
    Routed set { s with readerExited := true, pending := ∅ } :=
  ⟨h.unique, h.encoded, h.queue, h.toClient, h.toServer, h.client, by simp, h.reply, h.delivered⟩

/-- The reader of the server. -/
theorem stepReader (h : Routed set s) {e : Event} {s' : State}
    (hs' : Udp.stepReader s e = some s') : Routed set s' := by
  unfold Udp.stepReader at hs'
  split at hs'
  · split at hs'
    · next id payload rest _ hread =>
        obtain ⟨hframe, hrest⟩ := h.readToServer hread
        split at hs'
        · next p hpending =>
            obtain rfl := Option.some.inj hs'
            exact (hrest.offer hframe hpending).erasePending id
        · obtain rfl := Option.some.inj hs'
          exact hrest
    · next rest _ hread =>
        exact ((h.readToServer hread).1).elim
    · next frame rest _ _ _ hread =>
        obtain rfl := Option.some.inj hs'
        exact (h.readToServer hread).2
    · obtain rfl := Option.some.inj hs'
      exact h.readerExits
    · cases hs'
  · obtain rfl := Option.some.inj hs'
    exact h.readerExits
  · cases hs'

/-! ### The client and the service -/

/-- The client and the service get on. -/
theorem growAnswers (h : Routed set s) {forwarded : List (String × List UInt8)}
    {emitted : List (Nat × Datagram)} {inbox : List Datagram} {client : Client}
    (hgrow : s.answers.Grow ⟨forwarded, emitted⟩)
    (hattends : Attends s.packets ⟨forwarded, emitted⟩ inbox client)
    (hended : s.client = .ended → client = .ended) :
    Routed set { s with
      forwarded := forwarded, emitted := emitted, inbox := inbox, client := client } where
  unique := h.unique
  encoded := h.encoded
  queue := h.queue
  toClient := h.toClient
  toServer := (h.toServer.stop hended).mono fun _ hf ↦ hf.grow (fun _ packet hp ↦
    ⟨packet, hp, rfl, rfl, rfl, fun _ hid ↦ hid⟩) hgrow
  client := hattends
  pending := h.pending
  reply packet hpacket payload hpayload := (h.reply packet hpacket payload hpayload).grow hgrow
  delivered := by
    intro d hd
    obtain ⟨m, data, hemitted, hdata, packet, hpacket, hsource, hforwarded⟩ := h.delivered d hd
    obtain ⟨more, hmore⟩ := hgrow.forwarded
    refine ⟨m, data, hgrow.emitted hemitted, hdata, packet, hpacket, hsource, ?_⟩
    show forwarded[m]? = _
    rw [← show s.forwarded ++ more = forwarded from hmore,
      List.getElem?_append_left (List.getElem?_eq_some_iff.mp hforwarded).1]
    exact hforwarded

/-- The client's loop ends. -/
theorem ended (h : Routed set s) : Routed set { s with client := .ended } :=
  h.growAnswers ⟨List.prefix_rfl, List.Subset.refl _⟩ trivial fun _ ↦ rfl

/-- Bytes are read at the client. -/
theorem readToClient (h : Routed set s) {frame : UdpMuxFrame} {rest : List UInt8}
    (hread : UdpMux.readUdpMuxFrame s.toClient = .done frame rest) :
    Request s.packets frame ∧ Routed set { s with toClient := rest } := by
  obtain ⟨hframe, hrest⟩ := h.toClient.read hread
  exact ⟨hframe, h.unique, h.encoded, h.queue, hrest, h.toServer, h.client, h.pending, h.reply,
    h.delivered⟩

/-- The client forwards a packet and waits for the answer. -/
theorem forward (hset : set.Sound) (h : Routed set s) {turn : UdpProxy.Turn} {id : UInt32}
    {source : String} {payload data : List UInt8} (hclient : s.client = .idle)
    (hframe : Request s.packets (.req id source payload))
    (hforward : set.client.forward set.prims turn payload = .ok data) :
    Routed set { s with
      client := .receiving id, forwarded := s.forwarded ++ [(source, data)] } := by
  obtain ⟨-, p, packet, hp, hid, rfl, rfl⟩ := hframe
  have hdata : data = packet.payload.val := by
    have hdecode := (h.encoded packet (List.mem_of_getElem? hp)).1
    rw [hset.agree] at hdecode
    simp only [UdpProxy.forward, hdecode, bind, Except.bind, pure, Except.pure] at hforward
    split at hforward
    · cases hforward
    · exact (Except.ok.inj hforward).symm
  have hidle := h.client
  rw [hclient] at hidle
  refine h.growAnswers ⟨List.prefix_append _ _, List.Subset.refl _⟩ ?_ fun he ↦ ?_
  · refine ⟨⟨p, packet, hp, hid, ?_⟩, ?_⟩
    · rw [List.getLast?_append_cons, hdata]
      rfl
    · rw [show s.inbox = [] from hidle]
      simp
  · rw [hclient] at he
    cases he

/-- The service answers the packet the client waits for. -/
theorem emit (h : Routed set s) {m : Nat} {data : Datagram}
    (hok : AnsweredInTurn s (.emit m data)) :
    Routed set { s with inbox := s.inbox ++ [data], emitted := s.emitted ++ [(m, data)] } := by
  refine h.growAnswers ⟨List.prefix_rfl, List.subset_append_left _ _⟩ ?_ id
  rcases hok with hended | ⟨hreceiving, hm, hinbox⟩
  · rw [hended]
    trivial
  · have hwaits := h.client
    cases hclient : s.client with
    | receiving id =>
        rw [hclient] at hwaits
        refine ⟨hwaits.1, by simp [hinbox], ?_⟩
        rw [hinbox, List.nil_append]
        intro data' hdata'
        rw [List.mem_singleton.mp hdata', ← hm, Nat.add_sub_cancel]
        exact List.mem_append_right _ (List.mem_singleton_self _)
    | idle | ended =>
        rw [hclient] at hreceiving
        cases hreceiving

/-- A datagram of the service is lost. -/
theorem lose (h : Routed set s) (i : Nat) :
    Routed set { s with inbox := s.inbox.eraseIdx i } := by
  refine h.growAnswers ⟨List.prefix_rfl, List.Subset.refl _⟩ ?_ id
  have hattends := h.client
  cases hclient : s.client with
  | idle =>
      rw [hclient] at hattends
      rw [show s.inbox = [] from hattends]
      rfl
  | receiving id =>
      rw [hclient] at hattends
      obtain ⟨hwaits, hlen, hall⟩ := hattends
      exact ⟨hwaits, (List.length_eraseIdx_le _ _).trans hlen,
        fun data hdata ↦ hall data (List.mem_of_mem_eraseIdx hdata)⟩
  | ended => trivial

/-- The datagram the client takes for the answer is the answer. -/
theorem response_of_receive (hset : set.Sound) (h : Routed set s) {turn : UdpProxy.Turn}
    {id : UInt32} {i : Nat} {data : Datagram} {payload : List UInt8}
    (hclient : s.client = .receiving id) (hdata : s.inbox[i]? = some data)
    (hreceive : set.client.receive set.prims { turn with recv := some (.ok data.val) } =
      .ok payload) :
    Response set s.packets s.answers (.resp id payload) ∧ s.inbox.eraseIdx i = [] := by
  have hattends := h.client
  rw [hclient] at hattends
  obtain ⟨⟨p, packet, hp, hid, hlast⟩, hlen, hall⟩ := hattends
  obtain ⟨hdecode, hfits⟩ := hset.of_receive hreceive
  refine ⟨⟨hfits, p, packet, hp, hid, s.forwarded.length - 1, data,
    hall data (List.mem_of_getElem? hdata), ?_, hdecode⟩, ?_⟩
  · exact List.getLast?_eq_getElem?.symm.trans hlast
  · have hi := (List.getElem?_eq_some_iff.mp hdata).1
    rw [← List.length_eq_zero_iff, List.length_eraseIdx_of_lt hi]
    omega

/-- The client. -/
theorem stepClient (hset : set.Sound) (h : Routed set s) {e : Event} {s' : State}
    (hs' : Udp.stepClient set s e = some s') : Routed set s' := by
  unfold Udp.stepClient at hs'
  split at hs'
  · split at hs'
    · next id source payload rest hclient hread =>
        obtain ⟨hframe, hrest⟩ := h.readToClient hread
        split at hs'
        · obtain rfl := Option.some.inj hs'
          exact hrest.ended
        · next data hforward =>
            obtain rfl := Option.some.inj hs'
            exact hrest.forward hset hclient hframe hforward
    · next rest _ hread => exact ((h.readToClient hread).1).elim
    · next hread =>
        obtain rfl := Option.some.inj hs'
        exact (h.readToClient hread).2
    · obtain rfl := Option.some.inj hs'
      exact h.ended
    · cases hs'
  · obtain rfl := Option.some.inj hs'
    exact h.ended
  · split at hs'
    · next id data hclient hdata =>
        have hopen : ¬s.client = .ended := by
          rw [hclient]
          simp
        dsimp only at hs'
        split at hs'
        · obtain rfl := Option.some.inj hs'
          exact (h.lose _).ended
        · next encoded hreceive =>
            obtain ⟨hframe, hinbox⟩ := h.response_of_receive hset hclient hdata hreceive
            have hfits : UdpMux.codec.Fits (.resp id encoded) := hframe.1
            split at hs'
            · obtain rfl := Option.some.inj hs'
              have hflow := h.toServer.write hopen hfits hframe
              have h' : Routed set
                  { s with toServer := s.toServer ++ UdpMux.encode (.resp id encoded) } :=
                ⟨h.unique, h.encoded, h.queue, h.toClient, hflow, h.client, h.pending, h.reply,
                  h.delivered⟩
              exact h'.growAnswers ⟨List.prefix_rfl, List.Subset.refl _⟩ hinbox fun he ↦
                absurd he hopen
            · split at hs'
              · next hk =>
                  obtain rfl := Option.some.inj hs'
                  have hflow := h.toServer.writePart hopen hfits hk
                  exact ⟨h.unique, h.encoded, h.queue, h.toClient, hflow.stop fun _ ↦ rfl, trivial,
                    h.pending, h.reply, h.delivered⟩
              · cases hs'
    · cases hs'
  · cases hs'

/-- Every step at which the service answers in turn. -/
theorem step (hset : set.Sound) (s : State) (e : Event) (s' : State) (h : Routed set s)
    (hok : AnsweredInTurn s e) (hs' : Udp.step set s e = some s') : Routed set s' := by
  cases e with
  | arrive source payload nonce =>
      simp only [Udp.step] at hs'
      split at hs'
      · obtain rfl := Option.some.inj hs'
        exact h
      · next hencode =>
          obtain rfl := Option.some.inj hs'
          exact h.arrive hset hencode
  | emit m data =>
      simp only [Udp.step] at hs'
      split at hs'
      · obtain rfl := Option.some.inj hs'
        exact h.emit hok
      · cases hs'
  | lose i =>
      obtain rfl := Option.some.inj hs'
      exact h.lose i
  | write | writeFails | writerExits =>
      simp only [Udp.step] at hs'
      exact h.stepWriter hs'
  | forward | clientFails | receive =>
      simp only [Udp.step] at hs'
      exact h.stepClient hset hs'
  | serverReads | readerExits =>
      simp only [Udp.step] at hs'
      exact h.stepReader hs'
  | number | register | enqueue | enqueueFails | giveUp | deliver =>
      simp only [Udp.step] at hs'
      split at hs'
      · next hp => exact h.stepPacket hp hok hs'
      · cases hs'

end Routed

/-! ## Runs of a proxy -/

/-- What can happen to the tunnels of a proxy: a tunnel is created, or something
happens to one. -/
abbrev ProxyEvent := Option (Nat × Event)

/-- One step of a proxy that both ends have made from a configuration. -/
def proxyStep (tcpMux : Bool) (config : ProxyConfig) (prims : Primitives) :
    List State → ProxyEvent → Option (List State) :=
  Machine.each (step (.ofConfig tcpMux config prims)) .new

/-- In every run in which the service answers in turn and no request id is taken
twice in a tunnel, whatever is delivered to a source was emitted in answer to a packet
from that source. -/
theorem rightlyRouted_of_answeredInTurn {tcpMux : Bool} {config : ProxyConfig}
    {prims : Primitives} (hlawful : prims.Lawful) {events : List ProxyEvent}
    {tunnels : List State}
    (hturn : Machine.Along (proxyStep tcpMux config prims) (Machine.EachOk AnsweredInTurn) []
      events)
    (hrun : Machine.run (proxyStep tcpMux config prims) [] events = some tunnels) :
    ∀ s ∈ tunnels, RightlyRouted s := by
  intro s hs
  have hset : (Settings.ofConfig tcpMux config prims).Sound :=
    ⟨packetOptions_agree tcpMux config prims, hlawful⟩
  exact (Machine.each_invariant (Routed.step hset) .new hturn hrun s hs).delivered

/-- A UDP proxy in front of a name server, with compression and encryption. -/
def dns : ProxyConfig where
  name := "dns"
  proxyType := .udp
  localIp := "127.0.0.1"
  localPort := 53
  remotePort := 6053
  useEncryption := true
  useCompression := true
  customDomains := []
  subdomain := ""
  locations := []
  hostHeaderRewrite := ""
  sk := "secret"
  fallbackToRelay := false
  multiplexer := ""
  loadBalancer := ⟨"", ""⟩

theorem length_singleton_le (b : UInt8) : [b].length ≤ maxDatagramLen := by
  simp [maxDatagramLen]

/-- A datagram of one byte. -/
def datagram (b : UInt8) : Datagram := ⟨[b], length_singleton_le b⟩

/-- The steps by which the next packet, from a source, gets to the service; `p` is its
place among the packets. -/
def sendThrough (p : Nat) (source : String) (b : UInt8) : List ProxyEvent :=
  [.arrive source (datagram b) (.replicate 12 0), .number p, .register p, .enqueue p, .write,
    .forward (UdpProxy.turnWith none)].map fun e ↦ some (0, e)

/-- The steps by which the next datagram of the service gets back to a source. -/
def sendBack (p : Nat) : List ProxyEvent :=
  [.receive 0 (UdpProxy.turnWith none) none, .serverReads, .deliver p true].map fun e ↦ some (0, e)

/-- Two sources send a packet each, and each gets its answer. -/
theorem rightlyRouted_two_sources :
    ∃ tunnels, Machine.run (proxyStep true dns .trivial) [] (none :: sendThrough 0 "A" 1 ++
        some (0, .emit 0 (datagram 10)) :: sendBack 0 ++ sendThrough 1 "B" 2 ++
          some (0, .emit 1 (datagram 20)) :: sendBack 1) = some tunnels ∧
      tunnels.map State.delivered = [[("A", [10]), ("B", [20])]] ∧
      ∀ s ∈ tunnels, RightlyRouted s := by
  refine Machine.exists_run (·.map State.delivered) _ (by decide)
    fun tunnels htunnels hdelivered ↦ ⟨hdelivered, ?_⟩
  exact rightlyRouted_of_answeredInTurn Primitives.trivial_lawful (by decide) htunnels

/-- The service answers the packet from `A` twice, and the second answer is delivered
to `B`, whose packet it has not answered. -/
theorem second_answer_misrouted :
    ∃ s, Machine.run (proxyStep true dns .trivial) [] (none :: sendThrough 0 "A" 1 ++
        some (0, .emit 0 (datagram 10)) :: some (0, .emit 0 (datagram 11)) :: sendBack 0 ++
          sendThrough 1 "B" 2 ++ sendBack 1) = some [s] ∧
      s.forwarded = [("A", [1]), ("B", [2])] ∧
      s.emitted = [(0, datagram 10), (0, datagram 11)] ∧
      s.delivered = [("A", [10]), ("B", [11])] ∧ ¬RightlyRouted s := by
  have hrun : (Machine.run (proxyStep true dns .trivial) [] (none :: sendThrough 0 "A" 1 ++
      some (0, .emit 0 (datagram 10)) :: some (0, .emit 0 (datagram 11)) :: sendBack 0 ++
        sendThrough 1 "B" 2 ++ sendBack 1)).map
          (·.map fun s ↦ (s.answers, s.delivered)) =
      some [(⟨[("A", [1]), ("B", [2])], [(0, datagram 10), (0, datagram 11)]⟩,
        [("A", [10]), ("B", [11])])] := by decide
  obtain ⟨tunnels, htunnels, hmap⟩ := Option.map_eq_some_iff.mp hrun
  obtain ⟨s, rfl, hs⟩ := List.map_eq_singleton_iff.mp hmap
  obtain ⟨hanswers, hdelivered⟩ := Prod.mk.inj hs
  obtain ⟨hforwarded, hemitted⟩ := Answers.mk.inj hanswers
  refine ⟨s, htunnels, hforwarded, hemitted, hdelivered, fun h ↦ ?_⟩
  obtain ⟨m, data, hm, -, packet, -, hsource, hpacket⟩ := h ("B", [11]) (by simp [hdelivered])
  have hzero : m = 0 := by
    rw [hemitted] at hm
    simp only [List.mem_cons, Prod.mk.injEq, List.not_mem_nil, or_false] at hm
    omega
  rw [hzero, hforwarded, hsource] at hpacket
  simp at hpacket

end Arp.EndToEnd.Udp
