import Arp.Client.Commands
import Arp.Server.NatHole

/-!
# The secret of a rendezvous

The client joins the secret and its address with a bar; the server splits at the first bar
and trims both parts.  The owner's secret is stored as it was configured.  So the server
reads what the client wrote, and lets a visitor with the owner's secret pass, exactly if the
secret has no bar and no white space around it.  All that is asked of a secret elsewhere is
that it is not blank.
-/

namespace Arp.EndToEnd

open Arp.Common Arp.Lib Arp.Lib.Text Arp.Server Arp.Server.NatHole
open Arp.Client.Commands (Command)
open ProxyManager (run1)

/-- The text of a socket address is not empty, and has no white space around it. -/
def ShownPlainly (net : Net) (addr : SocketAddr) : Prop :=
  net.display addr ≠ "" ∧ trim (net.display addr) = net.display addr

/-- A secret the server finds again in what the client writes. -/
def PlainSecret (sk : String) : Prop := '|' ∉ sk.toList ∧ trim sk = sk

instance (sk : String) : Decidable (PlainSecret sk) :=
  inferInstanceAs (Decidable ('|' ∉ sk.toList ∧ trim sk = sk))

section Secret

variable {sk visitorAddr : String}

/-- Whatever the address is read as: a secret that is found again is plain. -/
theorem plainSecret_of_parse {addr : String}
    (h : parseSignedMsg (sk ++ "|" ++ visitorAddr) = .ok (sk, addr)) : PlainSecret sk := by
  obtain ⟨first, rest, hsplit, htrim, -⟩ := parseSignedMsg_eq_ok.mp h
  obtain ⟨hparts, hfirst⟩ := splitOnce_eq_some.mp hsplit
  have hbar : '|' ∉ sk.toList := by
    rw [← htrim]
    exact fun hmem ↦ hfirst (mem_of_mem_trim hmem)
  -- There is no bar on either side, so the first one is where the client has put it.
  have hjoined : sk.toList ++ '|' :: visitorAddr.toList = first.toList ++ '|' :: rest.toList := by
    rw [← hparts, String.toList_append, String.toList_append, List.append_assoc]
    rfl
  obtain ⟨hsk, -⟩ := append_cons_inj hbar hfirst hjoined
  rw [← String.toList_inj.mp hsk] at htrim
  exact ⟨hbar, htrim⟩

theorem parse_of_plainSecret (h : PlainSecret sk) (hsk : sk ≠ "") (haddr : visitorAddr ≠ "")
    (htrim : trim visitorAddr = visitorAddr) :
    parseSignedMsg (sk ++ "|" ++ visitorAddr) = .ok (sk, visitorAddr) := by
  refine parseSignedMsg_eq_ok.mpr ⟨sk, visitorAddr, splitOnce_eq_some.mpr ⟨?_, h.1⟩, h.2, htrim,
    hsk, haddr⟩
  rw [String.toList_append, String.toList_append, List.append_assoc]
  rfl

/-- The server reads the secret and the address as the client wrote them. -/
def ReadBack (sk visitorAddr : String) : Prop :=
  ∀ serverName msg, (Command.openXtcp serverName sk visitorAddr).message = .natHoleVisitor msg →
    parseSignedMsg msg.signedMsg = .ok (sk, visitorAddr)

/-- A visitor with the owner's secret comes to the point where the owner is asked, in
whatever state the server is when it reads the message and when it looks the owner up. -/
def LetThrough (net : Net) (sk visitorAddr : String) : Prop :=
  ∀ serverName msg, (Command.openXtcp serverName sk visitorAddr).message = .natHoleVisitor msg →
    ∀ (s s' : State) (visitorRunId : RunId) (owner : XtcpProxyInfo),
      s'.xtcpRegistry.lookup msg.proxyName = some owner → owner.sk = sk →
        (handleVisitor net s visitorRunId msg).pc = .parsed ∧
          lookupOwner s' (handleVisitor net s visitorRunId msg) = .inserting owner

theorem readBack_iff :
    ReadBack sk visitorAddr ↔
      parseSignedMsg (sk ++ "|" ++ visitorAddr) = .ok (sk, visitorAddr) := by
  constructor
  · intro h
    exact h "" ⟨"", sk ++ "|" ++ visitorAddr⟩ rfl
  · rintro h serverName msg hmsg
    obtain rfl := Message.natHoleVisitor.inj hmsg
    exact h

theorem letThrough_of_parse {net : Net} {addr : String}
    (h : parseSignedMsg (sk ++ "|" ++ visitorAddr) = .ok (sk, addr)) :
    LetThrough net sk visitorAddr := by
  rintro serverName msg hmsg s s' visitorRunId owner howner hsk
  have hparse : parseSignedMsg msg.signedMsg = .ok (sk, addr) := by
    rw [← Message.natHoleVisitor.inj hmsg]
    exact h
  rw [handleVisitor_of_parse hparse]
  exact ⟨rfl, lookupOwner_eq_inserting.mpr ⟨howner, hsk⟩⟩

theorem exists_parse_of_letThrough {net : Net} (h : LetThrough net sk visitorAddr) :
    ∃ addr, parseSignedMsg (sk ++ "|" ++ visitorAddr) = .ok (sk, addr) := by
  -- An owner with this secret, and a visitor that asks for it.
  obtain ⟨hparsed, hfound⟩ := h "" ⟨"", sk ++ "|" ++ visitorAddr⟩ rfl start
    { start with xtcpRegistry := AList.insert "" ⟨run1, sk, ""⟩ ∅ } run1 ⟨run1, sk, ""⟩
    (AList.lookup_insert _) rfl
  obtain ⟨signedSk, addr, hparse⟩ := exists_parse_of_handleVisitor hparsed
  rw [handleVisitor_of_parse hparse] at hfound
  obtain rfl := (lookupOwner_eq_inserting.mp hfound).2
  exact ⟨addr, hparse⟩

/-- For every secret that is not blank and every address: the server reads back what the
client wrote, and lets a visitor with the owner's secret through, exactly if the secret is
plain. -/
theorem own_secret_passes_iff {net : Net} {addr : SocketAddr} (hsk : isBlank sk = false)
    (haddr : ShownPlainly net addr) :
    (ReadBack sk (net.display addr) ↔ PlainSecret sk) ∧
      (LetThrough net sk (net.display addr) ↔ PlainSecret sk) := by
  have hparse (h : PlainSecret sk) :=
    parse_of_plainSecret h (ne_empty_of_isBlank hsk) haddr.1 haddr.2
  rw [readBack_iff]
  refine ⟨⟨plainSecret_of_parse, hparse⟩, fun h ↦ ?_, fun h ↦ letThrough_of_parse (hparse h)⟩
  obtain ⟨addr', hread⟩ := exists_parse_of_letThrough h
  exact plainSecret_of_parse hread

end Secret

/-- The address a visitor listens at. -/
def anyAddr : SocketAddr := ⟨.v4 0 0 0 0, 40000⟩

theorem letThrough_key : LetThrough sampleNet "key" (sampleNet.display anyAddr) :=
  (own_secret_passes_iff (by decide) ⟨by decide, by decide⟩).2.mpr (by decide)

/-- Secrets with a bar or a blank are accepted everywhere, and read as other ones. -/
theorem secrets_misread :
    (isBlank "a|b" = false ∧
      parseSignedMsg ("a|b" ++ "|" ++ sampleNet.display anyAddr) = .ok ("a", "b|0.0.0.0:40000") ∧
      ¬ReadBack "a|b" (sampleNet.display anyAddr) ∧
      ¬LetThrough sampleNet "a|b" (sampleNet.display anyAddr)) ∧
    isBlank " key" = false ∧
      parseSignedMsg (" key" ++ "|" ++ sampleNet.display anyAddr) = .ok ("key", "0.0.0.0:40000") ∧
      ¬ReadBack " key" (sampleNet.display anyAddr) ∧
      ¬LetThrough sampleNet " key" (sampleNet.display anyAddr) := by
  have hnot (sk : String) (hplain : ¬PlainSecret sk) :
      ¬ReadBack sk (sampleNet.display anyAddr) ∧
        ¬LetThrough sampleNet sk (sampleNet.display anyAddr) := by
    constructor
    · exact fun h ↦ hplain (plainSecret_of_parse (readBack_iff.mp h))
    · intro h
      obtain ⟨addr, hread⟩ := exists_parse_of_letThrough h
      exact hplain (plainSecret_of_parse hread)
  exact ⟨⟨rfl, rfl, hnot _ (by decide)⟩, rfl, rfl, hnot _ (by decide)⟩

end Arp.EndToEnd
