import Arp.Client.Validated

/-!
# What becomes of the calls for proxies

A call that registers or closes a proxy goes through the channel of commands and the message
loop, and something may come of it for as long as its command is on the way or it waits.
`Pursues` says what becomes of the calls, of the channel and of the slots while nobody makes
another call for a proxy.

If the calls for proxies that are under way follow a plan (`Control.Obeys`), they still do after
a step: what is in the slot for registrations is the command of a call, and planned.
-/

namespace Arp.Client

open Arp.Common Arp.Lib Arp.Lib.Machine

namespace Commands

/-! ## Calls that change what is registered -/

/-- The name of the proxy a command registers or closes. -/
def Command.target : Command → Option String
  | openXtcp _ _ _ => none
  | registerProxy proxyConfig _ => some proxyConfig.name
  | closeProxy proxyName => some proxyName

/-- How the calls go on while none but visitors' calls are added. -/
abbrev Proceeds (answered : Nat → Prop) (calls calls' : List Call) : Prop :=
  Goes (fun _ ↦ True) answered (fun call ↦ call.command.target = none) calls calls'

namespace Control

variable {c c' : Control} {i j : Nat} {answered : Nat → Prop}

/-- Something may still come of a call: its command is on the channel or being sent, or it
has not returned. -/
def Active (c : Control) (i : Nat) : Prop :=
  i ∈ c.commands ∨ c.loop = .sending i ∨
    ∃ call, c.calls[i]? = some call ∧ ∀ result, call.pc ≠ .returned result

/-- What a control does with the calls that were made, while nobody makes a call that
registers or closes a proxy. -/
structure Pursues (answered : Nat → Prop) (c c' : Control) : Prop where
  calls : Proceeds answered c.calls c'.calls
  active : ∀ i, i ∈ c'.commands ∨ c'.loop = .sending i → c.Active i
  xtcp : ∀ i, c'.pendingXtcp = some i → c.pendingXtcp = some i ∨
    ∃ command, c.commandOf i = some command ∧ command.target = none
  register : ∀ p, c'.pendingProxyResp = some p → c.pendingProxyResp = some p ∨
    c.commandOf p.replyTx = some (.registerProxy p.proxyConfig p.multiplexer) ∧
      c.Active p.replyTx

namespace Pursues

/-- The calls, the channel and the slots stay, or lose something. -/
theorem of_calls (hcalls : Proceeds answered c.calls c'.calls)
    (hcommands : ∀ i ∈ c'.commands, i ∈ c.commands)
    (hloop : ∀ i, c'.loop = .sending i → c.Active i)
    (hxtcp : ∀ i, c'.pendingXtcp = some i → c.pendingXtcp = some i)
    (hregister : ∀ p, c'.pendingProxyResp = some p → c.pendingProxyResp = some p) :
    Pursues answered c c' where
  calls := hcalls
  active i hi := hi.elim (fun hi ↦ .inl (hcommands i hi)) (hloop i)
  xtcp i hi := .inl (hxtcp i hi)
  register p hp := .inl (hregister p hp)

theorem refl (c : Control) : Pursues answered c c :=
  of_calls (.refl _) (fun _ ↦ id) (fun _ hi ↦ .inr (.inl hi)) (fun _ ↦ id) fun _ ↦ id

theorem issue {command : Command} (h : command.target = none) :
    Pursues answered c (c.issue command) :=
  of_calls (.append h c.calls) (fun _ ↦ id) (fun _ hi ↦ .inr (.inl hi)) (fun _ ↦ id) fun _ ↦ id

theorem advance {f : Call → Option Call} (h : c.advance i f = some c')
    (hf : ∀ call call', f call = some call' → call.Becomes True (answered i) call') :
    Pursues answered c c' := by
  obtain ⟨call, call', hcall, hcall', rfl⟩ := advance_eq_some.mp h
  exact of_calls (.set hcall (hf call call' hcall')) (fun _ ↦ id) (fun _ hi ↦ .inr (.inl hi))
    (fun _ ↦ id) fun _ ↦ id

/-- A command comes onto the channel from a call that has not returned. -/
theorem enqueue (h : c.advance i Call.enqueue = some c') :
    Pursues answered c { c' with commands := c'.commands ++ [i] } := by
  obtain ⟨call, call', hcall, hcall', rfl⟩ := advance_eq_some.mp h
  refine ⟨.set hcall (Call.becomes_enqueue hcall'), ?_, fun _ ↦ .inl, fun _ ↦ .inl⟩
  rintro j (hj | hj)
  · rcases List.mem_append.mp hj with hold | hnew
    · exact .inl hold
    · obtain rfl := List.mem_singleton.mp hnew
      refine .inr (.inr ⟨call, hcall, fun result hpc ↦ ?_⟩)
      rw [(Call.enqueue_eq_some.mp hcall').1] at hpc
      cases hpc
  · exact .inr (.inl hj)

theorem reply {channel : Channel} (h : Pursues answered c c')
    (hchannel : ∀ answer, channel = .sent (.ok answer) → answered i) :
    Pursues answered c (c'.reply i channel) where
  calls := .trans (fun _ _ _ hbecomes htarget ↦ (congrArg _ hbecomes.command).trans htarget)
    h.calls (.reply hchannel c'.calls)
  active := h.active
  xtcp := h.xtcp
  register := h.register

theorem takeSlot {k : Kind} {channel : Channel} (h : Pursues answered c c')
    (hchannel : ∀ answer, channel = .sent (.ok answer) → ∀ j ∈ c'.pending k, answered j) :
    Pursues answered c (c'.takeSlot k channel) := by
  unfold Control.takeSlot
  split
  · exact h
  · next j hj =>
      refine reply ?_ fun answer hok ↦ hchannel answer hok j hj
      cases k with
      | xtcp => exact ⟨h.calls, h.active, fun i hi ↦ (by cases hi), h.register⟩
      | register => exact ⟨h.calls, h.active, h.xtcp, fun p hp ↦ (by cases hp)⟩

/-- A command that was made is still the command of its call. -/
theorem commandOf (h : Pursues answered c c') {command : Command}
    (hi : c.commandOf i = some command) : c'.commandOf i = some command :=
  commandOf_of_goes h.calls hi

/-- The commands that register or close a proxy were there before. -/
theorem commandOf_old (h : Pursues answered c c') {command : Command}
    (hi : c'.commandOf i = some command) (htarget : command.target ≠ none) :
    c.commandOf i = some command := by
  obtain ⟨call', hcall', rfl⟩ := Option.map_eq_some_iff.mp hi
  obtain ⟨call, hcall⟩ := (h.calls.new i call' hcall').resolve_right htarget
  have hkept := h.commandOf (commandOf_of_getElem? hcall)
  rw [hi] at hkept
  exact (commandOf_of_getElem? hcall).trans hkept.symm

/-- The loop takes a command. -/
theorem handleControlCommand {rest : List Nat} {command : Command}
    (hcommands : c.commands = i :: rest)
    (hcommand : c.commandOf i = some command) :
    Pursues answered c ({ c with commands := rest }.handleControlCommand i command) := by
  have hactive : c.Active i := .inl (by rw [hcommands]; exact List.mem_cons_self)
  have hrest : ∀ j ∈ rest, c.Active j := fun j hj ↦
    .inl (by rw [hcommands]; exact List.mem_cons_of_mem i hj)
  have hrests : Pursues answered c { c with commands := rest } := by
    refine ⟨.refl _, ?_, fun _ ↦ .inl, fun _ ↦ .inl⟩
    rintro j (hj | hj)
    · exact hrest j hj
    · exact .inr (.inl hj)
  have hsending : ∀ j, j ∈ rest ∨ LoopPc.sending i = .sending j → c.Active j := by
    rintro j (hj | hj)
    · exact hrest j hj
    · exact LoopPc.sending.inj hj ▸ hactive
  cases command with
  | openXtcp serverName sk visitorAddr =>
      rw [Control.handleControlCommand]
      split
      · exact hrests.reply fun answer hok ↦ by cases hok
      · refine ⟨.refl _, hsending, fun j hj ↦ ?_, fun _ ↦ .inl⟩
        exact .inr ⟨_, Option.some.inj hj ▸ hcommand, rfl⟩
  | registerProxy proxyConfig multiplexer =>
      rw [Control.handleControlCommand]
      split
      · exact hrests.reply fun answer hok ↦ by cases hok
      · refine ⟨.refl _, hsending, fun _ ↦ .inl, fun p hp ↦ ?_⟩
        obtain rfl := Option.some.inj hp
        exact .inr ⟨hcommand, hactive⟩
  | closeProxy proxyName => exact ⟨.refl _, hsending, fun _ ↦ .inl, fun _ ↦ .inl⟩

/-- The loop goes to where it sends nothing. -/
theorem withLoop (loop : LoopPc) (h : ∀ i, loop ≠ .sending i) :
    Pursues answered c { c with loop := loop } :=
  of_calls (.refl _) (fun _ ↦ id) (fun i hi ↦ absurd hi (h i)) (fun _ ↦ id) fun _ ↦ id

/-- The loop stops sending, and the call in a slot does not get what it asked for. -/
theorem dropSlot {loop : LoopPc} {k : Kind} {channel : Channel} (hloop : ∀ i, loop ≠ .sending i)
    (hchannel : ∀ answer, channel ≠ .sent (.ok answer)) :
    Pursues answered c ({ c with loop := loop }.takeSlot k channel) :=
  (withLoop loop hloop).takeSlot fun answer hok ↦ absurd hok (hchannel answer)

end Pursues

/-- A step of the control that makes no call for a proxy. -/
theorem pursues_of_act {tcpMux : Bool} {a : Act}
    (hregister : ∀ proxyConfig, a ≠ .registerProxyDynamic proxyConfig)
    (hclose : ∀ proxyName, a ≠ .closeProxyDynamic proxyName)
    (h : c.act tcpMux a = some c') : c.Pursues answered c' := by
  cases a with
  | requestXtcpPeer serverName sk visitorAddr => exact Option.some.inj h ▸ .issue rfl
  | registerProxyDynamic proxyConfig => exact absurd rfl (hregister proxyConfig)
  | closeProxyDynamic proxyName => exact absurd rfl (hclose proxyName)
  | enqueue i =>
      simp only [act] at h
      split at h
      · obtain ⟨c₁, hc₁, rfl⟩ := Option.map_eq_some_iff.mp h
        exact .enqueue hc₁
      · cases h
  | receive i => exact .advance h fun call call' ↦ Call.becomes_receive
  | expire i => exact .advance h fun call call' ↦ Call.becomes_expire fun _ ↦ trivial
  | clear i =>
      obtain ⟨k, -, h⟩ := Option.bind_eq_some_iff.mp h
      obtain ⟨c₁, hc₁, rfl⟩ := Option.map_eq_some_iff.mp h
      have hgone : c.Pursues answered c₁ := .advance hc₁ fun call call' ↦ Call.becomes_giveUp
      exact hgone.takeSlot fun answer hok ↦ by cases hok
  | take =>
      simp only [act] at h
      split at h
      · next i rest hserving hcommands =>
          obtain ⟨call, hcall, rfl⟩ := Option.map_eq_some_iff.mp h
          exact .handleControlCommand hcommands (commandOf_of_getElem? hcall)
      · cases h
  | fails =>
      simp only [act] at h
      split at h
      · exact Option.some.inj h ▸ .withLoop _ fun i hi ↦ by cases hi
      · exact Option.some.inj h ▸ .withLoop _ fun i hi ↦ by cases hi
      · cases h
  | finishXtcp | finishProxy =>
      simp only [act] at h
      split at h
      · obtain rfl := Option.some.inj h
        exact .dropSlot (fun i hi ↦ by cases hi) fun answer hok ↦ by cases hok
      · cases h

end Control

/-- A call gets what it has asked for in a step. -/
def Answers (s : State) : Event → Nat → Prop
  | .sent, i => s.control.loop = .sending i ∧
      ∃ proxyName, s.control.commandOf i = some (.closeProxy proxyName)
  | .newProxyResp _ _ error _, i => error = "" ∧
      ∃ p, s.control.pendingProxyResp = some p ∧ p.replyTx = i
  | .natHoleResp _ _ _ _, i => s.control.pendingXtcp = some i
  | _, _ => False

open Control (Pursues)

theorem pursues_of_step {tcpMux : Bool} {seenAs : String → String} {s t : State} {e : Event}
    (hregister : ∀ proxyConfig, e ≠ .act (.registerProxyDynamic proxyConfig))
    (hclose : ∀ proxyName, e ≠ .act (.closeProxyDynamic proxyName))
    (h : step tcpMux seenAs s e = some t) : s.control.Pursues (Answers s e) t.control := by
  cases steps_of_step h with
  | act a hact =>
      obtain ⟨c, hc, rfl⟩ := Option.map_eq_some_iff.mp hact
      exact Control.pursues_of_act (fun proxyConfig ha ↦ hregister proxyConfig (congrArg _ ha))
        (fun proxyName ha ↦ hclose proxyName (congrArg _ ha)) hc
  | started hstarting => exact .withLoop _ fun i hi ↦ by cases hi
  | sent i call hloop hcall =>
      have hserves : s.control.Pursues (Answers s .sent) { s.control with loop := .serving } :=
        .withLoop _ fun i hi ↦ by cases hi
      have hcommand := Control.commandOf_of_getElem? hcall
      cases hc : call.command with
      | openXtcp serverName sk visitorAddr => exact hserves
      | registerProxy proxyConfig multiplexer => exact hserves
      | closeProxy proxyName =>
          rw [hc] at hcommand
          refine Pursues.reply ?_ fun answer hok ↦ ⟨hloop, proxyName, hcommand⟩
          exact ⟨hserves.calls, hserves.active, hserves.xtcp, hserves.register⟩
  | sendFails err delivered i call hloop hcall =>
      cases call.command with
      | openXtcp serverName sk visitorAddr =>
          exact .dropSlot (fun i hi ↦ by cases hi) fun answer hok ↦ by cases hok
      | registerProxy proxyConfig multiplexer =>
          exact .dropSlot (fun i hi ↦ by cases hi) fun answer hok ↦ by cases hok
      | closeProxy proxyName =>
          refine Pursues.reply (.withLoop _ fun i hi ↦ ?_) fun answer hok ↦ ?_
          · cases hi
          · cases hok
  | newProxyResp m remoteAddr error now i proxyConfig multiplexer hserving hi hcommand =>
      have hsame : s.control.Pursues (Answers s (.newProxyResp m remoteAddr error now))
          s.control := .refl _
      rw [State.newProxyResp]
      dsimp only
      unfold Control.handleNewProxyResp
      split
      · exact hsame
      · next p hp =>
          split
          · exact hsame.takeSlot fun answer hok ↦ by cases hok
          · next herror =>
              refine Pursues.takeSlot ?_ fun answer hok j hj ↦ ?_
              · exact ⟨hsame.calls, hsame.active, hsame.xtcp, hsame.register⟩
              · obtain ⟨q, hq, rfl⟩ := Option.map_eq_some_iff.mp hj
                exact ⟨Decidable.not_not.mp herror, q, hq, rfl⟩
  | natHoleResp m clientAddr relayAddr error i serverName sk visitorAddr hserving hi hcommand =>
      exact Pursues.takeSlot (.refl _) fun answer hok j hj ↦ hj
  | ownerOffline m hserving =>
      exact Pursues.takeSlot (.refl _) fun answer hok ↦ by cases hok

/-! ## Calls that follow a plan -/

/-- No registration or closing is in progress, and an XTCP request is in the slot for XTCP
requests. -/
structure Control.AtRest (c : Control) : Prop where
  active : ∀ i command, c.Active i → c.commandOf i = some command → command.target = none
  xtcp : ∀ i, c.pendingXtcp = some i →
    ∃ command, c.commandOf i = some command ∧ command.target = none
  register : c.pendingProxyResp = none

/-- The calls that register or close a proxy and of which something may still come are among
those from a number on, and these follow a plan. -/
structure Control.Obeys (plan : Command → Prop) (n : Nat) (c : Control) : Prop where
  le : n ≤ c.calls.length
  made : ∀ i command, n ≤ i → c.commandOf i = some command → command.target ≠ none → plan command
  active : ∀ i command, c.Active i → c.commandOf i = some command → command.target ≠ none → n ≤ i
  xtcp : ∀ i, c.pendingXtcp = some i →
    ∃ command, c.commandOf i = some command ∧ command.target = none
  register : ∀ p, c.pendingProxyResp = some p → n ≤ p.replyTx ∧
    c.commandOf p.replyTx = some (.registerProxy p.proxyConfig p.multiplexer)

namespace Control

variable {c c' : Control} {n i : Nat} {plan : Command → Prop} {answered : Nat → Prop}

theorem lt_of_commandOf {command : Command} (h : c.commandOf i = some command) :
    i < c.calls.length := by
  obtain ⟨call, hcall, -⟩ := Option.map_eq_some_iff.mp h
  exact (List.getElem?_eq_some_iff.mp hcall).1

theorem AtRest.obeys (h : c.AtRest) : c.Obeys plan c.calls.length where
  le := le_rfl
  made i command hi hcommand := absurd (lt_of_commandOf hcommand) hi.not_gt
  active i command hi hcommand htarget := absurd (h.active i command hi hcommand) htarget
  xtcp := h.xtcp
  register p hp := by
    rw [h.register] at hp
    cases hp

/-- Old calls keep their commands when one more is made. -/
theorem commandOf_issue_of {command command' : Command} (h : c.commandOf i = some command) :
    (c.issue command').commandOf i = some command := by
  rw [commandOf, issue, List.getElem?_append_left (lt_of_commandOf h)]
  exact h

/-- Only the new call is active that was not before. -/
theorem active_of_issue {command : Command} (h : (c.issue command).Active i) :
    c.Active i ∨ i = c.calls.length := by
  rcases h with hi | hi | ⟨call, hcall, hpc⟩
  · exact .inl (.inl hi)
  · exact .inl (.inr (.inl hi))
  · rcases eq_or_of_getElem?_concat hcall with ⟨rfl, -⟩ | hold
    · exact .inr rfl
    · exact .inl (.inr (.inr ⟨call, hold, hpc⟩))

namespace Obeys

/-- A call is made that is planned. -/
theorem issue {command : Command} (h : c.Obeys plan n) (hplan : plan command) :
    (c.issue command).Obeys plan n where
  le := by
    rw [Control.issue, List.length_append]
    exact h.le.trans (Nat.le_add_right _ _)
  made i command' hi hcommand htarget := by
    rcases commandOf_issue hcommand with hold | rfl
    · exact h.made i command' hi hold htarget
    · exact hplan
  active i command' hi hcommand htarget := by
    rcases active_of_issue hi with hi | rfl
    · rcases lt_or_ge i c.calls.length with hlt | hge
      · have hold : c.commandOf i = some command' := by
          rw [← hcommand, Control.commandOf, Control.commandOf, Control.issue,
            List.getElem?_append_left hlt]
        exact h.active i command' hi hold htarget
      · exact h.le.trans hge
    · exact h.le
  xtcp i hi := by
    obtain ⟨command', hcommand, htarget⟩ := h.xtcp i hi
    exact ⟨command', commandOf_issue_of hcommand, htarget⟩
  register p hp := ⟨(h.register p hp).1, commandOf_issue_of (h.register p hp).2⟩

/-- While nobody makes a call for a proxy, the plan is kept to. -/
theorem pursues (h : c.Obeys plan n) (hgoes : c.Pursues answered c') : c'.Obeys plan n where
  le := by
    rcases Nat.lt_or_ge c'.calls.length c.calls.length with hlt | hge
    · obtain ⟨_, hlost, -⟩ := hgoes.calls.old c'.calls.length _ (List.getElem?_eq_getElem hlt)
      rw [List.getElem?_eq_none le_rfl] at hlost
      cases hlost
    · exact h.le.trans hge
  made i command hi hcommand htarget :=
    h.made i command hi (hgoes.commandOf_old hcommand htarget) htarget
  active i command hi hcommand htarget := by
    refine h.active i command ?_ (hgoes.commandOf_old hcommand htarget) htarget
    rcases hi with hi | hi | ⟨call', hcall', hpc⟩
    · exact hgoes.active i (.inl hi)
    · exact hgoes.active i (.inr hi)
    · have hold := hgoes.commandOf_old hcommand htarget
      obtain ⟨call, hcall, -⟩ := Option.map_eq_some_iff.mp hold
      have hbecomes := hgoes.calls.becomes hcall hcall'
      exact .inr (.inr ⟨call, hcall, fun result h ↦ hpc result (hbecomes.returned result h)⟩)
  xtcp i hi := by
    have hslot : ∃ command, c.commandOf i = some command ∧ command.target = none :=
      (hgoes.xtcp i hi).elim (h.xtcp i) id
    obtain ⟨command, hcommand, htarget⟩ := hslot
    exact ⟨command, hgoes.commandOf hcommand, htarget⟩
  register p hp := by
    rcases hgoes.register p hp with hold | ⟨hcommand, hactive⟩
    · exact ⟨(h.register p hold).1, hgoes.commandOf (h.register p hold).2⟩
    · refine ⟨h.active p.replyTx _ hactive hcommand ?_, hgoes.commandOf hcommand⟩
      exact Option.some_ne_none _

end Obeys

end Control

end Commands

end Arp.Client
