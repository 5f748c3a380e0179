import Arp.Lib.Text
import Mathlib.Logic.Relation

/-!
# Byte streams over WebSocket

`websocket_to_stream` puts two tasks between a WebSocket connection and an in-memory pipe.  One
sends what the application writes as binary messages, and `Close` when it has ended.  The other
writes the payloads of the messages it gets, until `Close`.

The machine is one direction.  Of the other one it sees only that its `Close` has come; the
library may then answer with a `Close` of its own, at any time and beside the sending task.
-/

namespace Arp.EndToEnd.WebSocket

open Relation

/-- `tungstenite::Message`, without what the tasks do not look at. -/
inductive WsMessage where
  | binary (data : List UInt8)
  | text (text : String)
  | ping
  | pong
  | close
  | frame

/-- The bytes the receiving task takes from a message. -/
def WsMessage.payload : WsMessage → List UInt8
  | binary data => data
  | text s => Lib.Text.bytes s
  | _ => []

/-- The task from the pipe to the connection: it reads, has a chunk to send, has sent `Close`,
or has broken off. -/
inductive Sender where
  | reading
  | sending (chunk : List UInt8)
  | closed
  | broken

/-- The task from the connection to the pipe: it waits for a message, has bytes of one to write,
has got `Close`, or has broken off. -/
inductive Receiver where
  | reading
  | writing (rest : List UInt8)
  | closed
  | broken

/-- One direction of a bridged connection, from the application that writes to the one that
reads. -/
structure State where
  /-- All that the application has written. -/
  written : List UInt8
  /-- What of it the sending task has not read. -/
  unread : List UInt8
  /-- The application has ended its output. -/
  ended : Bool
  sender : Sender
  /-- `Close` has come from the other direction. -/
  peerClosed : Bool
  /-- The messages between the two ends. -/
  wire : List WsMessage
  receiver : Receiver
  /-- All that the other application has been given. -/
  given : List UInt8

def start : State := ⟨[], [], false, .reading, false, [], .reading, []⟩

inductive Step (s : State) : State → Prop
  /-- The application writes, and ends. -/
  | write (bytes : List UInt8) (hopen : s.ended = false) :
      Step s { s with written := s.written ++ bytes, unread := s.unread ++ bytes }
  | finish : Step s { s with ended := true }
  /-- The sending task reads at most 16 KiB, sends them, closes after the end, or breaks off. -/
  | read {chunk rest : List UInt8} (hsender : s.sender = .reading)
      (hunread : s.unread = chunk ++ rest) (hchunk : chunk ≠ [] ∧ chunk.length ≤ 16 * 1024) :
      Step s { s with sender := .sending chunk, unread := rest }
  | send {chunk : List UInt8} (hsender : s.sender = .sending chunk) :
      Step s { s with sender := .reading, wire := s.wire ++ [.binary chunk] }
  | close (hsender : s.sender = .reading) (hended : s.ended = true) (hunread : s.unread = []) :
      Step s { s with sender := .closed, wire := s.wire ++ [.close] }
  | sendFails (hsender : s.sender ≠ .closed) : Step s { s with sender := .broken }
  /-- The library gets the `Close` of the other direction, answers it, and sends pings and pongs. -/
  | peerCloses : Step s { s with peerClosed := true }
  | answer (hpeer : s.peerClosed = true) : Step s { s with wire := s.wire ++ [.close] }
  | ping : Step s { s with wire := s.wire ++ [.ping] }
  | pong : Step s { s with wire := s.wire ++ [.pong] }
  /-- The receiving task gets a message, writes its bytes piece by piece, ends at `Close`, or
  breaks off. -/
  | receive {msg : WsMessage} {wire : List WsMessage} (hreceiver : s.receiver = .reading)
      (hwire : s.wire = msg :: wire) (hmsg : msg ≠ .close) :
      Step s { s with receiver := .writing msg.payload, wire := wire }
  | give {bytes rest : List UInt8} (hreceiver : s.receiver = .writing (bytes ++ rest)) :
      Step s { s with receiver := .writing rest, given := s.given ++ bytes }
  | given (hreceiver : s.receiver = .writing []) : Step s { s with receiver := .reading }
  | receiveClose {wire : List WsMessage} (hreceiver : s.receiver = .reading)
      (hwire : s.wire = .close :: wire) : Step s { s with receiver := .closed, wire := wire }
  | receiveFails (hreceiver : s.receiver ≠ .closed) : Step s { s with receiver := .broken }

/-! ## Where the bytes are -/

/-- The bytes of the messages before a `Close`. -/
def arriving : List WsMessage → List UInt8
  | [] => []
  | .close :: _ => []
  | msg :: wire => msg.payload ++ arriving wire

theorem arriving_cons {msg : WsMessage} (hmsg : msg ≠ .close) (wire : List WsMessage) :
    arriving (msg :: wire) = msg.payload ++ arriving wire := by
  cases msg with
  | close => exact absurd rfl hmsg
  | _ => rfl

theorem arriving_concat {wire : List WsMessage} (hclose : .close ∉ wire) (msg : WsMessage) :
    arriving (wire ++ [msg]) = arriving wire ++ msg.payload := by
  induction wire with
  | nil => cases msg <;> simp [arriving, WsMessage.payload]
  | cons first wire ih =>
      rw [List.mem_cons, not_or] at hclose
      rw [List.cons_append, arriving_cons (Ne.symm hclose.1), arriving_cons (Ne.symm hclose.1),
        ih hclose.2, List.append_assoc]

/-- What comes after a `Close` does not arrive. -/
theorem arriving_concat_of_mem {wire : List WsMessage} (hclose : .close ∈ wire)
    (msg : WsMessage) : arriving (wire ++ [msg]) = arriving wire := by
  induction wire with
  | nil => cases hclose
  | cons first wire ih =>
      by_cases hfirst : first = .close
      · subst hfirst
        rfl
      · rw [List.cons_append, arriving_cons hfirst, arriving_cons hfirst,
          ih ((List.mem_cons.mp hclose).resolve_left (Ne.symm hfirst))]

/-- What a receiving task has still to give, of the messages on the wire and of its own. -/
def Receiver.underWay (wire : List WsMessage) : Receiver → List UInt8
  | .reading => arriving wire
  | .writing rest => rest ++ arriving wire
  | .closed | .broken => []

/-- The bytes a sending task has read and not sent. -/
def Sender.held : Sender → List UInt8
  | .sending chunk => chunk
  | _ => []

/-- Nothing that is sent from now on arrives. -/
def Receiver.Deaf (wire : List WsMessage) (receiver : Receiver) : Prop :=
  receiver = .broken ∨ receiver = .closed ∨ .close ∈ wire

theorem Receiver.Deaf.underWay_concat {wire : List WsMessage} {receiver : Receiver}
    (h : receiver.Deaf wire) (msg : WsMessage) :
    receiver.underWay (wire ++ [msg]) = receiver.underWay wire := by
  rcases h with rfl | rfl | hclose
  · rfl
  · rfl
  · cases receiver <;> simp only [underWay, arriving_concat_of_mem hclose]

theorem Receiver.underWay_concat {wire : List WsMessage} {receiver : Receiver}
    (h : ¬receiver.Deaf wire) (msg : WsMessage) :
    receiver.underWay (wire ++ [msg]) = receiver.underWay wire ++ msg.payload := by
  rw [Deaf, not_or, not_or] at h
  obtain ⟨hbroken, hclosed, hclose⟩ := h
  cases receiver with
  | reading => exact arriving_concat hclose msg
  | writing rest => simp only [underWay, arriving_concat hclose, List.append_assoc]
  | closed => exact absurd rfl hclosed
  | broken => exact absurd rfl hbroken

theorem Receiver.underWay_concat_of_payload {msg : WsMessage} (hmsg : msg.payload = [])
    (wire : List WsMessage) (receiver : Receiver) :
    receiver.underWay (wire ++ [msg]) = receiver.underWay wire := by
  by_cases h : receiver.Deaf wire
  · exact h.underWay_concat msg
  · rw [underWay_concat h, hmsg, List.append_nil]

variable {s t : State}

namespace State

/-- A task has broken off, or the answer to a `Close` cuts off what is sent after it. -/
def Cut (s : State) : Prop :=
  s.receiver = .broken ∨ s.sender = .broken ∨ s.peerClosed = true ∧ s.receiver.Deaf s.wire

structure Sound (s : State) : Prop where
  /-- Every byte written is given, under way, with the sending task or unread, or it was lost in
  a cut. -/
  account : ∃ lost, s.given ++ s.receiver.underWay s.wire ++ lost ++ s.unread = s.written ∧
    (s.Cut ∨ lost = s.sender.held)
  /-- The sending task closes after the last byte. -/
  closed : s.sender = .closed → s.ended = true ∧ s.unread = []
  /-- A `Close` comes from the sending task, or from the library as an answer. -/
  close : s.sender ≠ .closed → s.peerClosed = false → .close ∉ s.wire ∧ s.receiver ≠ .closed

/-- A chunk is sent: it gets on its way, or into a cut. -/
theorem Sound.send (h : s.Sound) {chunk : List UInt8} (hsender : s.sender = .sending chunk) :
    ∃ lost, s.given ++ s.receiver.underWay (s.wire ++ [.binary chunk]) ++ lost ++ s.unread =
        s.written ∧
      (Cut { s with sender := .reading, wire := s.wire ++ [.binary chunk] } ∨ lost = []) := by
  obtain ⟨lost, haccount, hlost⟩ := h.account
  by_cases hdeaf : s.receiver.Deaf s.wire
  · refine ⟨lost, by rwa [hdeaf.underWay_concat], .inl ?_⟩
    rcases hdeaf with hbroken | hdeaf
    · exact .inl hbroken
    · have hpeer : s.peerClosed = true := by
        by_contra hn
        obtain ⟨hwire, hreceiver⟩ := h.close (hsender ▸ nofun) (eq_false_of_ne_true hn)
        exact hdeaf.elim hreceiver hwire
      exact .inr (.inr ⟨hpeer, .inr (hdeaf.imp_right (List.mem_append_left _))⟩)
  · have hheld : lost = chunk := by
      rcases hlost with (hbroken | hbroken | ⟨-, hcut⟩) | hheld
      · exact absurd (.inl hbroken) hdeaf
      · cases hsender.symm.trans hbroken
      · exact absurd hcut hdeaf
      · rw [hheld, hsender, Sender.held]
    refine ⟨[], ?_, .inr rfl⟩
    rw [Receiver.underWay_concat hdeaf, ← haccount, hheld]
    simp [WsMessage.payload]

/-- A message without bytes leaves the account as it is. -/
theorem Sound.account_concat (h : s.Sound) {msg : WsMessage} (hmsg : msg.payload = []) :
    ∃ lost, s.given ++ s.receiver.underWay (s.wire ++ [msg]) ++ lost ++ s.unread = s.written ∧
      (Cut { s with wire := s.wire ++ [msg] } ∨ lost = s.sender.held) := by
  obtain ⟨lost, haccount, hlost⟩ := h.account
  refine ⟨lost, by rwa [Receiver.underWay_concat_of_payload hmsg], hlost.imp_left ?_⟩
  exact Or.imp_right (Or.imp_right (And.imp_right
    (Or.imp_right (Or.imp_right (List.mem_append_left _)))))

/-- While the receiving task has not ended, only what others did has cut the connection. -/
theorem Cut.cases_of_receiver (h : s.Cut) (hbroken : s.receiver ≠ .broken)
    (hclosed : s.receiver ≠ .closed) :
    s.sender = .broken ∨ s.peerClosed = true ∧ .close ∈ s.wire := by
  rcases h with h | h | ⟨hpeer, h | h | h⟩
  · exact absurd h hbroken
  · exact .inl h
  · exact absurd h hbroken
  · exact absurd h hclosed
  · exact .inr ⟨hpeer, h⟩

/-- While the sending task reads, it holds nothing, and only others have cut the connection. -/
theorem lost_of_reading {lost : List UInt8} (hlost : s.Cut ∨ lost = s.sender.held)
    (hsender : s.sender = .reading) (sender : Sender) :
    Cut { s with sender := sender } ∨ lost = [] := by
  rcases hlost with (hcut | hcut | hcut) | hheld
  · exact .inl (.inl hcut)
  · cases hsender.symm.trans hcut
  · exact .inl (.inr (.inr hcut))
  · rw [hheld, hsender]
    exact .inr rfl

theorem Sound.account_step (h : s.Sound) (hstep : Step s t) :
    ∃ lost, t.given ++ t.receiver.underWay t.wire ++ lost ++ t.unread = t.written ∧
      (t.Cut ∨ lost = t.sender.held) := by
  obtain ⟨lost, haccount, hlost⟩ := h.account
  cases hstep with
  | write bytes => exact ⟨lost, by simp only [← haccount, List.append_assoc], hlost⟩
  | finish => exact ⟨lost, haccount, hlost⟩
  | @read chunk rest hsender hunread =>
      refine ⟨lost ++ chunk, by simpa [hunread] using haccount, ?_⟩
      refine (lost_of_reading hlost hsender (.sending chunk)).imp_right fun hnone ↦ ?_
      rw [hnone]
      rfl
  | send hsender => exact h.send hsender
  | close hsender =>
      obtain ⟨lost, haccount, hlost⟩ := @h.account_concat _ .close rfl
      exact ⟨lost, haccount, lost_of_reading hlost hsender .closed⟩
  | sendFails => exact ⟨lost, haccount, .inl (.inr (.inl rfl))⟩
  | peerCloses =>
      exact ⟨lost, haccount, hlost.imp_left (Or.imp_right (Or.imp_right fun hcut ↦ ⟨rfl, hcut.2⟩))⟩
  | answer => exact h.account_concat rfl
  | ping => exact h.account_concat rfl
  | pong => exact h.account_concat rfl
  | receive hreceiver hwire hmsg =>
      refine ⟨lost, ?_, hlost.imp_left fun hcut ↦ ?_⟩
      · rw [hreceiver, hwire, Receiver.underWay, arriving_cons hmsg] at haccount
        exact haccount
      · rcases hcut.cases_of_receiver (by simp [hreceiver]) (by simp [hreceiver]) with hcut | hcut
        · exact .inr (.inl hcut)
        · rw [hwire, List.mem_cons] at hcut
          exact .inr (.inr ⟨hcut.1, .inr (.inr (hcut.2.resolve_left (Ne.symm hmsg)))⟩)
  | give hreceiver | given hreceiver =>
      refine ⟨lost, ?_, hlost.imp_left fun hcut ↦ ?_⟩
      · simpa [hreceiver, Receiver.underWay] using haccount
      · exact (hcut.cases_of_receiver (by simp [hreceiver]) (by simp [hreceiver])).elim
          (fun hcut ↦ .inr (.inl hcut)) fun hcut ↦ .inr (.inr ⟨hcut.1, .inr (.inr hcut.2)⟩)
  | receiveClose hreceiver hwire =>
      refine ⟨lost, ?_, hlost.imp_left fun hcut ↦ ?_⟩
      · rw [hreceiver, hwire] at haccount
        exact haccount
      · exact (hcut.cases_of_receiver (by simp [hreceiver]) (by simp [hreceiver])).elim
          (fun hcut ↦ .inr (.inl hcut)) fun hcut ↦ .inr (.inr ⟨hcut.1, .inr (.inl rfl)⟩)
  | receiveFails =>
      -- What was under way is lost with the receiving task.
      refine ⟨s.receiver.underWay s.wire ++ lost, ?_, .inl (.inl rfl)⟩
      simpa [Receiver.underWay] using haccount

theorem Sound.step (h : s.Sound) (hstep : Step s t) : t.Sound where
  account := h.account_step hstep
  closed hsender := by
    have hclosed := h.closed
    cases hstep with
    | write bytes hopen =>
        rw [(hclosed hsender).1] at hopen
        cases hopen
    | finish => exact ⟨rfl, (hclosed hsender).2⟩
    | close _ hended hunread => exact ⟨hended, hunread⟩
    | read | send | sendFails => cases hsender
    | _ => exact hclosed hsender
  close hsender hpeer := by
    have hclose := h.close
    cases hstep with
    | read hreading => exact hclose (by simp [hreading]) hpeer
    | send hsending =>
        obtain ⟨hwire, hreceiver⟩ := hclose (by simp [hsending]) hpeer
        exact ⟨by simp [hwire], hreceiver⟩
    | close => exact absurd rfl hsender
    | sendFails hopen => exact hclose hopen hpeer
    | peerCloses => cases hpeer
    | answer hclosed => cases hclosed.symm.trans hpeer
    | ping | pong =>
        obtain ⟨hwire, hreceiver⟩ := hclose hsender hpeer
        exact ⟨by simp [hwire], hreceiver⟩
    | receive _ hwire =>
        have hnone := (hclose hsender hpeer).1
        rw [hwire, List.mem_cons, not_or] at hnone
        exact ⟨hnone.2, nofun⟩
    | give | given | receiveFails => exact ⟨(hclose hsender hpeer).1, nofun⟩
    | receiveClose _ hwire =>
        have hnone := (hclose hsender hpeer).1
        rw [hwire] at hnone
        exact absurd List.mem_cons_self hnone
    | _ => exact hclose hsender hpeer

theorem sound (hrun : ReflTransGen Step start s) : s.Sound := by
  induction hrun with
  | refl => exact ⟨⟨[], rfl, .inr rfl⟩, nofun, fun _ _ ↦ ⟨nofun, nofun⟩⟩
  | tail _ hstep ih => exact ih.step hstep

/-- After the `Close` of the sending task nothing has been lost. -/
theorem Sound.given_eq (h : s.Sound) (hsender : s.sender = .closed)
    (hreceiver : s.receiver = .closed) (hpeer : s.peerClosed = false) : s.given = s.written := by
  obtain ⟨lost, haccount, hlost⟩ := h.account
  have hnone : lost = [] := by
    rcases hlost with (hcut | hcut | hcut) | hheld
    · cases hreceiver.symm.trans hcut
    · cases hsender.symm.trans hcut
    · cases hpeer.symm.trans hcut.1
    · rw [hheld, hsender]
      rfl
  rw [← haccount, hnone, hreceiver, (h.closed hsender).2]
  simp [Receiver.underWay]

end State

/-- In every order of steps and whatever fails: what is given is a beginning of what was written.
It is all of it if the input was ended by a `Close` and the other direction was not closed. -/
theorem bridged_in_order (hrun : ReflTransGen Step start s) :
    s.given <+: s.written ∧ (s.receiver = .closed → s.peerClosed = false →
      s.given = s.written ∧ s.ended = true) := by
  have h := State.sound hrun
  obtain ⟨lost, haccount, -⟩ := h.account
  constructor
  · exact ⟨s.receiver.underWay s.wire ++ lost ++ s.unread, by simp [← haccount]⟩
  · intro hreceiver hpeer
    have hsender : s.sender = .closed := by_contra fun hne ↦ (h.close hne hpeer).2 hreceiver
    exact ⟨h.given_eq hsender hreceiver hpeer, (h.closed hsender).1⟩

/-- Two bytes go over in two messages, with a ping between them. -/
theorem bridged_in_order_bytes :
    ∃ s, ReflTransGen Step start s ∧ s.receiver = .closed ∧ s.given = s.written ∧
      s.given = [7, 8] := by
  have hrun := ReflTransGen.head (@Step.write start [7, 8] rfl)
    (.head (@Step.read _ [7] [8] rfl rfl (by decide)) (.head (.send rfl) (.head .ping (.head .finish
    (.head (@Step.read _ [8] [] rfl rfl (by decide)) (.head (.send rfl)
    (.head (.close rfl rfl rfl) (.head (.receive rfl rfl nofun) (.head (@Step.give _ [7] [] rfl)
    (.head (.given rfl) (.head (.receive rfl rfl nofun) (.head (.given rfl)
    (.head (.receive rfl rfl nofun) (.head (@Step.give _ [8] [] rfl) (.head (.given rfl)
    (.single (.receiveClose rfl rfl)))))))))))))))))
  exact ⟨_, hrun, rfl, ((bridged_in_order hrun).2 rfl rfl).1, rfl⟩

end Arp.EndToEnd.WebSocket
