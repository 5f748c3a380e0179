import Arp.Client.Commands

/-!
# Registrations that are answered in time

As long as no registration runs out of time, the slot for registrations is emptied by the
message loop alone, and whoever is in it still waits.  `Prompt` says so, together with what
this rests on: a command is on the channel once, and the call of a command the loop has not
taken waits.

`Becomes` says what becomes of a call, and `Goes` of the list of the calls.  The steps of a
control on its own leave alone the registered proxies and the registration the server was asked
for (`Keeps`), and all but the taking of a command also the slot and the loop (`Rests`).
-/

namespace Arp.Client.Commands

open Arp.Common Arp.Lib

/-! ## How calls go on -/

namespace Call

variable {call call' call'' : Call}

/-- The call got what it asked for. -/
def content (call : Call) : Bool :=
  match call.pc with
  | .waiting (.sent (.ok _)) | .returned (.ok _) => true
  | _ => false

/-- How a call goes on: it is about to give up a registration only if it has run out of time, and
has got what it asked for only if it was answered. -/
structure Becomes (expired answered : Prop) (call call' : Call) : Prop where
  command : call'.command = call.command
  sending : call'.pc = .sending → call.pc = .sending
  content : call.content = true → call'.content = true
  answered : call'.content = true → call.content = true ∨ answered
  clearing : call.command.kind = some .register →
    ∀ e, call'.pc = .clearing e → call.pc = .clearing e ∨ expired
  returned : ∀ result, call.pc = .returned result → call'.pc = .returned result

variable {expired answered : Prop}

theorem Becomes.refl (call : Call) : call.Becomes expired answered call :=
  ⟨rfl, id, id, .inl, fun _ _ ↦ .inl, fun _ ↦ id⟩

theorem Becomes.trans (h : call.Becomes expired answered call')
    (h' : call'.Becomes expired answered call'') : call.Becomes expired answered call'' where
  command := h'.command.trans h.command
  sending := h.sending ∘ h'.sending
  content := h'.content ∘ h.content
  answered hcontent := (h'.answered hcontent).elim h.answered .inr
  clearing hkind e he :=
    (h'.clearing (by rw [h.command]; exact hkind) e he).elim (h.clearing hkind e) .inr
  returned result hpc := h'.returned result (h.returned result hpc)

theorem becomes_enqueue (h : call.enqueue = some call') :
    call.Becomes expired answered call' := by
  obtain ⟨hpc, rfl⟩ := enqueue_eq_some.mp h
  constructor <;> simp [content, hpc]

theorem becomes_receive (h : call.receive = some call') :
    call.Becomes expired answered call' := by
  obtain ⟨command, pc⟩ := call
  unfold receive at h
  split at h
  · next result hpc =>
      obtain rfl : pc = .waiting (.sent result) := hpc
      cases h
      cases result <;> constructor <;> simp [content]
  · next hpc =>
      obtain rfl : pc = .waiting .closed := hpc
      cases h
      cases command <;> constructor <;> simp [content, Command.kind]
  · cases h

theorem becomes_expire (hexpired : call.command.kind = some .register → expired)
    (h : call.expire = some call') : call.Becomes expired answered call' := by
  obtain ⟨command, pc⟩ := call
  unfold expire at h
  split at h
  · next hpc =>
      obtain rfl : pc = .waiting .empty := hpc
      cases h
      cases command with
      | registerProxy proxyConfig multiplexer =>
          constructor
          case clearing => exact fun _ _ _ ↦ .inr (hexpired rfl)
          all_goals simp [content]
      | openXtcp serverName sk visitorAddr => constructor <;> simp [content, Command.kind]
      | closeProxy proxyName => constructor <;> simp [content, Command.kind]
  · cases h

theorem becomes_giveUp (h : call.giveUp = some call') : call.Becomes expired answered call' := by
  obtain ⟨e, hpc, rfl⟩ := giveUp_eq_some.mp h
  constructor <;> simp [content, hpc]

theorem becomes_reply {channel : Channel} (h : ∀ answer, channel = .sent (.ok answer) → answered)
    (call : Call) : call.Becomes expired answered (call.reply channel) := by
  obtain ⟨command, pc⟩ := call
  unfold reply
  split
  · next hpc =>
      obtain rfl : pc = .waiting .empty := hpc
      constructor
      case answered =>
        intro hcontent
        unfold content at hcontent
        split at hcontent
        · next answer hpc => exact .inr (h answer (CallPc.waiting.inj hpc))
        · next hpc => cases hpc
        · cases hcontent
      all_goals simp [content]
  · exact .refl _

end Call

/-- How the calls go on.  No call is lost, and those that are new are of some sort. -/
structure Goes (expired answered : Nat → Prop) (fresh : Call → Prop) (calls calls' : List Call) :
    Prop where
  old : ∀ (i : Nat) (call : Call), calls[i]? = some call →
    ∃ call', calls'[i]? = some call' ∧ call.Becomes (expired i) (answered i) call'
  new : ∀ (i : Nat) (call' : Call), calls'[i]? = some call' →
    (∃ call, calls[i]? = some call) ∨ fresh call'

namespace Goes

variable {expired answered : Nat → Prop} {fresh : Call → Prop} {calls calls' calls'' : List Call}
  {i : Nat} {call call' : Call}

theorem refl (calls : List Call) : Goes expired answered fresh calls calls :=
  ⟨fun _ call hcall ↦ ⟨call, hcall, .refl call⟩, fun _ call hcall ↦ .inl ⟨call, hcall⟩⟩

theorem becomes (h : Goes expired answered fresh calls calls') (hcall : calls[i]? = some call)
    (hcall' : calls'[i]? = some call') : call.Becomes (expired i) (answered i) call' := by
  obtain ⟨call₀, hcall₀, hbecomes⟩ := h.old i call hcall
  exact Option.some.inj (hcall₀.symm.trans hcall') ▸ hbecomes

/-- A call that is content stays so. -/
theorem exists_content (h : Goes expired answered fresh calls calls')
    (hcontent : ∃ call, calls[i]? = some call ∧ call.content = true) :
    ∃ call, calls'[i]? = some call ∧ call.content = true := by
  obtain ⟨call, hcall, hcontent⟩ := hcontent
  obtain ⟨call', hcall', hbecomes⟩ := h.old i call hcall
  exact ⟨call', hcall', hbecomes.content hcontent⟩

theorem trans (hfresh : ∀ i call call', call.Becomes (expired i) (answered i) call' →
      fresh call → fresh call')
    (h : Goes expired answered fresh calls calls')
    (h' : Goes expired answered fresh calls' calls'') :
    Goes expired answered fresh calls calls'' := by
  constructor
  · intro i call hcall
    obtain ⟨call', hcall', hbecomes⟩ := h.old i call hcall
    obtain ⟨call'', hcall'', hbecomes'⟩ := h'.old i call' hcall'
    exact ⟨call'', hcall'', hbecomes.trans hbecomes'⟩
  · intro i call'' hcall''
    rcases h'.new i call'' hcall'' with ⟨call', hcall'⟩ | hnew
    · exact (h.new i call' hcall').imp id (hfresh i _ _ (h'.becomes hcall' hcall''))
    · exact .inr hnew

/-- A call starts. -/
theorem append {command : Command} (h : fresh ⟨command, .sending⟩) (calls : List Call) :
    Goes expired answered fresh calls (calls ++ [⟨command, .sending⟩]) := by
  constructor
  · intro i call hcall
    refine ⟨call, ?_, .refl call⟩
    rw [List.getElem?_append_left (List.getElem?_eq_some_iff.mp hcall).1, hcall]
  · intro i call' hcall'
    rcases eq_or_of_getElem?_concat hcall' with ⟨-, rfl⟩ | hold
    · exact .inr h
    · exact .inl ⟨call', hold⟩

/-- A call goes on. -/
theorem set (hcall : calls[i]? = some call) (h : call.Becomes (expired i) (answered i) call') :
    Goes expired answered fresh calls (calls.set i call') := by
  constructor
  · intro j x hx
    by_cases hij : i = j
    · subst hij
      obtain rfl := Option.some.inj (hcall.symm.trans hx)
      exact ⟨call', List.getElem?_set_self (List.getElem?_eq_some_iff.mp hcall).1, h⟩
    · exact ⟨x, (List.getElem?_set_ne hij).trans hx, .refl x⟩
  · intro j x hx
    rcases eq_or_of_getElem?_set hx with ⟨rfl, -⟩ | ⟨-, hold⟩
    · exact .inl ⟨call, hcall⟩
    · exact .inl ⟨x, hold⟩

/-- A call is replied to, or its sender dropped. -/
theorem reply {channel : Channel} (h : ∀ answer, channel = .sent (.ok answer) → answered i)
    (calls : List Call) :
    Goes expired answered fresh calls (calls.modify i (Call.reply channel)) := by
  constructor
  · intro j x hx
    by_cases hij : i = j
    · subst hij
      refine ⟨x.reply channel, ?_, Call.becomes_reply h x⟩
      rw [List.getElem?_modify_eq, hx]
      rfl
    · refine ⟨x, ?_, .refl x⟩
      rw [List.getElem?_modify_ne _ _ hij, hx]
  · intro j x hx
    rw [List.getElem?_modify] at hx
    obtain ⟨call, hcall, -⟩ := Option.map_eq_some_iff.mp hx
    exact .inl ⟨call, hcall⟩

end Goes

/-- The call is not about to give up a registration. -/
def Call.Stays (call : Call) : Prop :=
  call.command.kind = some .register → ∀ e, call.pc ≠ .clearing e

/-- How the calls go on if no registration runs out of time. -/
abbrev Evolves (calls calls' : List Call) : Prop :=
  Goes (fun _ ↦ False) (fun _ ↦ True) Call.Stays calls calls'

theorem Evolves.reply (calls : List Call) (i : Nat) (channel : Channel) :
    Evolves calls (calls.modify i (Call.reply channel)) :=
  Goes.reply (fun _ _ ↦ trivial) calls

theorem Call.Stays.becomes {call call' : Call} {answered : Prop} (h : call.Stays)
    (hbecomes : call.Becomes False answered call') : call'.Stays := by
  intro hkind e he
  rw [hbecomes.command] at hkind
  exact h hkind e ((hbecomes.clearing hkind e he).resolve_right id)

namespace Control

variable {c c' : Control} {i j : Nat} {k : Kind} {channel : Channel} {f : Call → Option Call}

theorem commandOf_of_goes {expired answered : Nat → Prop} {fresh : Call → Prop}
    {command : Command} (h : Goes expired answered fresh c.calls c'.calls)
    (hi : c.commandOf i = some command) : c'.commandOf i = some command := by
  obtain ⟨call, hcall, rfl⟩ := Option.map_eq_some_iff.mp hi
  obtain ⟨call', hcall', hbecomes⟩ := h.old i call hcall
  rw [commandOf, hcall', Option.map_some, hbecomes.command]

theorem kindOf_of_evolves (h : Evolves c.calls c'.calls) (hi : c.commandOf i ≠ none) :
    c'.kindOf i = c.kindOf i := by
  obtain ⟨command, hcommand⟩ := Option.ne_none_iff_exists'.mp hi
  rw [kindOf_eq, kindOf_eq, hcommand, commandOf_of_goes h hcommand]

theorem evolves_takeSlot : Evolves c.calls (c.takeSlot k channel).calls := by
  unfold takeSlot
  split
  · exact .refl _
  · cases k <;> exact .reply c.calls _ channel

theorem evolves_advance (h : c.advance i f = some c')
    (hf : ∀ call call', c.calls[i]? = some call → f call = some call' →
      call.Becomes False True call') : Evolves c.calls c'.calls := by
  obtain ⟨call, call', hcall, hcall', rfl⟩ := advance_eq_some.mp h
  exact .set hcall (hf call call' hcall hcall')

/-- The loop stays where it is, or starts to send the message of the command. -/
theorem loop_handleControlCommand (c : Control) (i : Nat) (command : Command) :
    (c.handleControlCommand i command).loop = c.loop ∨
      (c.handleControlCommand i command).loop = .sending i := by
  cases command with
  | openXtcp serverName sk visitorAddr =>
      rw [handleControlCommand]
      split
      · exact .inl rfl
      · exact .inr rfl
  | registerProxy proxyConfig multiplexer =>
      rw [handleControlCommand]
      split
      · exact .inl rfl
      · exact .inr rfl
  | closeProxy proxyName => exact .inr rfl

/-- A good answer registers the proxy in the slot. -/
theorem handleNewProxyResp_of_ok {p : PendingProxyResp} {resp : NewProxyRespMsg} {now : Nat}
    (hp : c.pendingProxyResp = some p) (hok : resp.error = "") :
    ∃ pm, (∀ name, name ∈ pm.proxies ↔
        name = p.proxyConfig.name ∨ name ∈ c.proxyManager.proxies) ∧
      c.handleNewProxyResp resp now = { c with proxyManager := pm }.takeSlot .register
        (.sent (.ok (.registered resp.remoteAddr))) := by
  unfold handleNewProxyResp
  split
  · next hnone => cases hnone.symm.trans hp
  · next p' hp' =>
      obtain rfl := Option.some.inj (hp'.symm.trans hp)
      rw [if_neg (not_not.mpr hok)]
      refine ⟨_, fun name ↦ ?_, rfl⟩
      exact ProxyManager.mem_registerProxy

/-- Any other answer only empties the slot. -/
theorem handleNewProxyResp_of_error {resp : NewProxyRespMsg} {now : Nat}
    (herror : resp.error ≠ "") : ∃ e, c.handleNewProxyResp resp now =
      c.takeSlot .register (.sent (.error e)) := by
  unfold handleNewProxyResp
  split
  · next hnone =>
      refine ⟨.connectionClosed, ?_⟩
      rw [takeSlot, pending, hnone]
      rfl
  · rw [if_pos herror]
    exact ⟨_, rfl⟩

/-- The registration in the slot: its call and its name. -/
def registration (c : Control) : Option (Option Nat × String) :=
  c.pendingProxyResp.map fun p ↦ (some p.replyTx, p.proxyConfig.name)

/-- The registration the server was asked for. -/
def asking (c : Control) : Option (Option Nat × String) :=
  match c.loop with
  | .sending i => if c.kindOf i = some .register then none else c.registration
  | _ => c.registration

end Control

/-! ## Registrations that still wait -/

/-- A registration whose command is on the channel, or which is in the slot, still waits, and
none is about to empty the slot. -/
structure Prompt (c : Control) : Prop where
  nodup : c.commands.Nodup
  queued : ∀ i ∈ c.commands, ∃ call, c.calls[i]? = some call ∧ call.pc ≠ .sending
  pending : ∀ p, c.pendingProxyResp = some p → p.replyTx ∉ c.commands ∧
    c.commandOf p.replyTx = some (.registerProxy p.proxyConfig p.multiplexer)
  xtcp : ∀ i, c.pendingXtcp = some i → c.kindOf i = some .xtcp
  sending : ∀ i, c.loop = .sending i → c.commandOf i ≠ none ∧
    (c.kindOf i = some .register → c.pending .register = some i)
  waits : ∀ i call, c.calls[i]? = some call → call.command.kind = some .register →
    i ∈ c.commands ∨ c.pending .register = some i → call.pc = .waiting .empty
  clearing : ∀ (i : Nat) (call : Call), c.calls[i]? = some call → call.Stays

namespace Prompt

variable {c c' : Control} {i j : Nat} {k : Kind} {channel : Channel} {f : Call → Option Call}
  {rest : List Nat}

theorem new : Prompt .new where
  nodup := List.nodup_nil
  queued i hi := absurd hi List.not_mem_nil
  pending p hp := by cases hp
  xtcp i hi := by cases hi
  sending i hi := by cases hi
  waits i call hcall := by cases hcall
  clearing i call hcall := by cases hcall

/-- The call in the slot. -/
theorem exists_call {p : PendingProxyResp} (h : Prompt c) (hp : c.pendingProxyResp = some p) :
    ∃ call, c.calls[p.replyTx]? = some call ∧
      call.command = .registerProxy p.proxyConfig p.multiplexer ∧ call.pc = .waiting .empty := by
  obtain ⟨call, hcall, hcommand⟩ := Option.map_eq_some_iff.mp (h.pending p hp).2
  refine ⟨call, hcall, hcommand, h.waits _ call hcall (by rw [hcommand]; rfl) (.inr ?_)⟩
  rw [Control.pending, hp]
  rfl

/-- A good answer reaches the call in the slot. -/
theorem exists_content {p : PendingProxyResp} (h : Prompt c) (hp : c.pendingProxyResp = some p)
    (answer : Answer) :
    ∃ call, (c.takeSlot .register (.sent (.ok answer))).calls[p.replyTx]? = some call ∧
      call.content = true := by
  obtain ⟨call, hcall, -, hpc⟩ := h.exists_call hp
  have hpending : c.pending .register = some p.replyTx := by
    rw [Control.pending, hp]
    rfl
  refine ⟨{ call with pc := .waiting (.sent (.ok answer)) }, ?_, rfl⟩
  rw [Control.takeSlot, hpending]
  simp [Control.reply, Control.vacate, hcall, Call.reply, hpc]

/-- The registration whose message is being sent is in the slot. -/
theorem registration_of_sending {proxyConfig : ProxyConfig} {multiplexer : String} (h : Prompt c)
    (hloop : c.loop = .sending i)
    (hcommand : c.commandOf i = some (.registerProxy proxyConfig multiplexer)) :
    c.registration = some (some i, proxyConfig.name) := by
  have hkind : c.kindOf i = some .register := Control.kindOf_of_commandOf hcommand
  obtain ⟨p, hp, rfl⟩ := Option.map_eq_some_iff.mp ((h.sending i hloop).2 hkind)
  have hsame := Option.some.inj (hcommand.symm.trans (h.pending p hp).2)
  rw [Command.registerProxy.injEq] at hsame
  rw [Control.registration, hp, hsame.1]
  rfl

/-- Steps that leave the channel and the slot for registrations alone, and the registrations
that wait in them. -/
theorem frame (h : Prompt c) (hcalls : Evolves c.calls c'.calls)
    (hcommands : c'.commands = c.commands)
    (hregister : c'.pendingProxyResp = c.pendingProxyResp)
    (hxtcp : ∀ i, c'.pendingXtcp = some i → c.pendingXtcp = some i)
    (hloop : ∀ i, c'.loop = .sending i → c.loop = .sending i)
    (hwaits : ∀ i call call', c.calls[i]? = some call → c'.calls[i]? = some call' →
      call.command.kind = some .register → i ∈ c.commands ∨ c.pending .register = some i →
        call'.pc = call.pc) : Prompt c' := by
  have hpending : c'.pending .register = c.pending .register :=
    congrArg (Option.map PendingProxyResp.replyTx) hregister
  constructor
  · rw [hcommands]
    exact h.nodup
  · intro i hi
    obtain ⟨call, hcall, hpc⟩ := h.queued i (hcommands ▸ hi)
    obtain ⟨call', hcall', hbecomes⟩ := hcalls.old i call hcall
    exact ⟨call', hcall', mt hbecomes.sending hpc⟩
  · intro p hp
    obtain ⟨htaken, hcommand⟩ := h.pending p (hregister ▸ hp)
    exact ⟨hcommands ▸ htaken, Control.commandOf_of_goes hcalls hcommand⟩
  · intro i hi
    have hki := h.xtcp i (hxtcp i hi)
    rw [Control.kindOf_of_evolves hcalls fun hnone ↦ ?_, hki]
    rw [Control.kindOf_eq, hnone] at hki
    cases hki
  · intro i hi
    obtain ⟨hknown, hentered⟩ := h.sending i (hloop i hi)
    obtain ⟨command, hcommand⟩ := Option.ne_none_iff_exists'.mp hknown
    refine ⟨?_, fun hkind ↦ ?_⟩
    · rw [Control.commandOf_of_goes hcalls hcommand]
      exact Option.some_ne_none command
    · rw [Control.kindOf_of_evolves hcalls hknown] at hkind
      exact hpending.trans (hentered hkind)
  · intro i call' hcall' hkind hi
    rw [hcommands, hpending] at hi
    have hold : ∃ call, c.calls[i]? = some call := by
      rcases hi with hi | hi
      · exact (h.queued i hi).imp fun _ h ↦ h.1
      · obtain ⟨p, hp, rfl⟩ := Option.map_eq_some_iff.mp hi
        exact (h.exists_call hp).imp fun _ h ↦ h.1
    obtain ⟨call, hcall⟩ := hold
    rw [(hcalls.becomes hcall hcall').command] at hkind
    rw [hwaits i call call' hcall hcall' hkind hi]
    exact h.waits i call hcall hkind hi
  · intro i call' hcall'
    rcases hcalls.new i call' hcall' with ⟨call, hcall⟩ | hnew
    · exact (h.clearing i call hcall).becomes (hcalls.becomes hcall hcall')
    · exact hnew

theorem withLoop {loop : LoopPc} (h : Prompt c) (hloop : ∀ i, loop ≠ .sending i) :
    Prompt { c with loop := loop } :=
  h.frame (.refl _) rfl rfl (fun _ ↦ id) (fun i hi ↦ absurd hi (hloop i))
    fun _ _ _ hcall hcall' _ _ ↦ by rw [Option.some.inj (hcall.symm.trans hcall')]

theorem withManager {pm : ProxyManager} (h : Prompt c) : Prompt { c with proxyManager := pm } :=
  h.frame (.refl _) rfl rfl (fun _ ↦ id) (fun _ ↦ id)
    fun _ _ _ hcall hcall' _ _ ↦ by rw [Option.some.inj (hcall.symm.trans hcall')]

theorem issue (h : Prompt c) (command : Command) : Prompt (c.issue command) := by
  refine h.frame (.append (fun _ _ ↦ nofun) c.calls) rfl rfl (fun _ ↦ id) (fun _ ↦ id) ?_
  intro i call call' hcall hcall' _ _
  have hlt : i < c.calls.length := (List.getElem?_eq_some_iff.mp hcall).1
  rw [Control.issue, List.getElem?_append_left hlt] at hcall'
  rw [Option.some.inj (hcall.symm.trans hcall')]

/-- A call goes on that is no registration, or one that does not wait. -/
theorem advance (h : Prompt c) (hadvance : c.advance i f = some c')
    (hf : ∀ call call', c.calls[i]? = some call → f call = some call' →
      call.Becomes False True call' ∧
        (call.command.kind = some .register → call.pc ≠ .waiting .empty)) : Prompt c' := by
  have hevolves := Control.evolves_advance hadvance fun call call' hcall hcall' ↦
    (hf call call' hcall hcall').1
  obtain ⟨call, call', hcall, hcall', rfl⟩ := Control.advance_eq_some.mp hadvance
  refine h.frame hevolves rfl rfl (fun _ ↦ id) (fun _ ↦ id) ?_
  intro j x x' hx hx' hkind hj
  rcases eq_or_of_getElem?_set hx' with ⟨rfl, -⟩ | ⟨-, hx'⟩
  · obtain rfl := Option.some.inj (hcall.symm.trans hx)
    exact absurd (h.waits j call hcall hkind hj) ((hf call call' hcall hcall').2 hkind)
  · rw [Option.some.inj (hx.symm.trans hx')]

/-- Somebody is replied to who is no registration that waits in the channel or the slot. -/
theorem reply (h : Prompt c) (hi : c.kindOf i = some .register →
      i ∉ c.commands ∧ c.pending .register ≠ some i) : Prompt (c.reply i channel) := by
  refine h.frame (.reply c.calls i channel) rfl rfl (fun _ ↦ id) (fun _ ↦ id) ?_
  intro j call call' hcall hcall' hkind hj
  rw [Control.reply, List.getElem?_modify, hcall, Option.map_eq_map, Option.map_some] at hcall'
  obtain rfl := Option.some.inj hcall'
  split
  · next hij =>
      subst hij
      obtain ⟨hcommands, hslot⟩ := hi (by rw [Control.kindOf, hcall]; exact hkind)
      exact absurd hj (not_or.mpr ⟨hcommands, hslot⟩)
  · rfl

theorem takeXtcp (h : Prompt c) : Prompt (c.takeSlot .xtcp channel) := by
  unfold Control.takeSlot
  split
  · exact h
  · next i hi =>
      have hempty : Prompt (c.vacate .xtcp) :=
        h.frame (.refl _) rfl rfl (fun i hi ↦ by cases hi) (fun _ ↦ id)
          fun _ _ _ hcall hcall' _ _ ↦ by rw [Option.some.inj (hcall.symm.trans hcall')]
      refine hempty.reply fun hkind ↦ ?_
      cases (h.xtcp i hi).symm.trans hkind

/-- The loop empties the slot for registrations. -/
theorem takeRegister (h : Prompt c) (hloop : ∀ i, c.loop ≠ .sending i) :
    Prompt (c.takeSlot .register channel) := by
  unfold Control.takeSlot
  split
  · exact h
  · next i hi =>
      obtain ⟨p, hp, rfl⟩ := Option.map_eq_some_iff.mp hi
      have hempty : Prompt (c.vacate .register) := {
        nodup := h.nodup
        queued := h.queued
        pending := fun p hp ↦ by cases hp
        xtcp := h.xtcp
        sending := fun i hi ↦ absurd hi (hloop i)
        waits := fun i call hcall hkind hi ↦ h.waits i call hcall hkind
          (.inl (hi.resolve_right fun hnone ↦ by cases hnone))
        clearing := h.clearing }
      exact hempty.reply fun _ ↦ ⟨(h.pending p hp).1, fun hnone ↦ by cases hnone⟩

/-- A command is put on the channel, for the first time. -/
theorem enqueue (h : Prompt c) (hadvance : c.advance i Call.enqueue = some c') :
    Prompt { c' with commands := c'.commands ++ [i] } := by
  obtain ⟨call, call', hcall, hcall', hc'⟩ := Control.advance_eq_some.mp hadvance
  obtain ⟨hpc, rfl⟩ := Call.enqueue_eq_some.mp hcall'
  have hprompt : Prompt c' := h.advance hadvance fun x x' _ hx' ↦
    ⟨Call.becomes_enqueue hx', fun _ hwaits ↦ by
      cases (Call.enqueue_eq_some.mp hx').1.symm.trans hwaits⟩
  have hnew : i ∉ c'.commands := by
    rw [← hc']
    intro hi
    obtain ⟨x, hx, hsending⟩ := h.queued i hi
    exact hsending (Option.some.inj (hcall.symm.trans hx) ▸ hpc)
  have hwaiting : c'.calls[i]? = some { call with pc := .waiting .empty } := by
    rw [← hc']
    exact List.getElem?_set_self (List.getElem?_eq_some_iff.mp hcall).1
  constructor
  · exact hprompt.nodup.append (List.nodup_singleton i) (List.disjoint_singleton.mpr hnew)
  · intro j hj
    rcases List.mem_append.mp hj with hold | hlast
    · exact hprompt.queued j hold
    · rw [List.mem_singleton.mp hlast]
      exact ⟨_, hwaiting, CallPc.noConfusion⟩
  · intro p hp
    obtain ⟨htaken, hcommand⟩ := hprompt.pending p hp
    refine ⟨fun hj ↦ ?_, hcommand⟩
    rcases List.mem_append.mp hj with hold | hlast
    · exact htaken hold
    · -- The registration in the slot has been put on the channel before.
      have hp' : c.pendingProxyResp = some p := by rw [← hp, ← hc']
      obtain ⟨x, hx, -, hwaits⟩ := h.exists_call hp'
      rw [List.mem_singleton.mp hlast] at hx
      obtain rfl := Option.some.inj (hcall.symm.trans hx)
      cases hpc.symm.trans hwaits
  · exact hprompt.xtcp
  · exact hprompt.sending
  · intro j x hx hkind hj
    rcases hj with hj | hslot
    · rcases List.mem_append.mp hj with hold | hlast
      · exact hprompt.waits j x hx hkind (.inl hold)
      · rw [List.mem_singleton.mp hlast] at hx
        rw [← Option.some.inj (hwaiting.symm.trans hx)]
    · exact hprompt.waits j x hx hkind (.inr hslot)
  · exact hprompt.clearing

/-- The loop takes a command off the channel. -/
theorem pop (h : Prompt c) (hcommands : c.commands = i :: rest) :
    Prompt { c with commands := rest } where
  nodup := (List.nodup_cons.mp (hcommands ▸ h.nodup)).2
  queued j hj := h.queued j (hcommands ▸ List.mem_cons_of_mem i hj)
  pending p hp := by
    obtain ⟨htaken, hcommand⟩ := h.pending p hp
    exact ⟨fun hrest ↦ htaken (hcommands ▸ List.mem_cons_of_mem i hrest), hcommand⟩
  xtcp := h.xtcp
  sending := h.sending
  waits j call hcall hkind hj := h.waits j call hcall hkind
    (hj.imp_left fun hrest ↦ hcommands ▸ List.mem_cons_of_mem i hrest)
  clearing := h.clearing

/-- The loop starts to send the message of a command that is no registration. -/
theorem withSending {xtcp : Option Nat} (h : Prompt c)
    (hxtcp : ∀ j, xtcp = some j → c.kindOf j = some .xtcp) (hknown : c.commandOf i ≠ none)
    (hkind : c.kindOf i ≠ some .register) :
    Prompt { c with pendingXtcp := xtcp, loop := .sending i } where
  nodup := h.nodup
  queued := h.queued
  pending := h.pending
  xtcp := hxtcp
  sending j hj := by
    obtain rfl := LoopPc.sending.inj hj
    exact ⟨hknown, fun hregister ↦ absurd hregister hkind⟩
  waits := h.waits
  clearing := h.clearing

/-- The loop enters a registration into the slot and starts to send its message. -/
theorem enter {proxyConfig : ProxyConfig} {multiplexer : String} (h : Prompt c)
    (hcommands : c.commands = i :: rest)
    (hcommand : c.commandOf i = some (.registerProxy proxyConfig multiplexer)) :
    Prompt { c with
      commands := rest
      pendingProxyResp := some ⟨i, proxyConfig, multiplexer⟩
      loop := .sending i } where
  nodup := (h.pop hcommands).nodup
  queued := (h.pop hcommands).queued
  pending p hp := by
    obtain rfl := Option.some.inj hp
    exact ⟨(List.nodup_cons.mp (hcommands ▸ h.nodup)).1, hcommand⟩
  xtcp := h.xtcp
  sending j hj := by
    obtain rfl := LoopPc.sending.inj hj
    refine ⟨fun hnone ↦ ?_, fun _ ↦ rfl⟩
    cases hcommand.symm.trans hnone
  waits j call hcall hkind hj := by
    refine h.waits j call hcall hkind (.inl ?_)
    rw [hcommands]
    rcases hj with hrest | hslot
    · exact List.mem_cons_of_mem i hrest
    · rw [← Option.some.inj hslot]
      exact List.mem_cons_self
  clearing := h.clearing

end Prompt

/-! ## Steps that concern no message -/

/-- What the steps of a control on its own leave as it was. -/
structure Keeps (c c' : Control) : Prop where
  prompt : Prompt c'
  evolves : Evolves c.calls c'.calls
  asking : c'.asking = c.asking
  registration : ∀ q, c.registration = some q → c'.registration = some q
  manager : c'.proxyManager = c.proxyManager

/-- What those leave as it was that take no command. -/
structure Rests (c c' : Control) : Prop where
  prompt : Prompt c'
  evolves : Evolves c.calls c'.calls
  loop : c'.loop = c.loop
  register : c'.pendingProxyResp = c.pendingProxyResp
  manager : c'.proxyManager = c.proxyManager

variable {c c' : Control} {i : Nat} {rest : List Nat} {command : Command}

theorem Rests.keeps (h : Prompt c) (hrests : Rests c c') : Keeps c c' := by
  have hsame : c'.registration = c.registration := by
    rw [Control.registration, Control.registration, hrests.register]
  refine ⟨hrests.prompt, hrests.evolves, ?_, fun q hq ↦ hsame.trans hq, hrests.manager⟩
  unfold Control.asking
  rw [hrests.loop, hsame]
  split
  · next i hi => rw [Control.kindOf_of_evolves hrests.evolves (h.sending i hi).1]
  · rfl

/-- The loop takes a command. -/
theorem Keeps.take (h : Prompt c) (hserving : c.loop = .serving)
    (hcommands : c.commands = i :: rest) (hcommand : c.commandOf i = some command) :
    Keeps c ({ c with commands := rest }.handleControlCommand i command) := by
  have hkind := Control.kindOf_of_commandOf hcommand
  have hknown : c.commandOf i ≠ none := by
    rw [hcommand]
    exact Option.some_ne_none command
  have hasking : c.asking = c.registration := by rw [Control.asking, hserving]
  -- Sending another message leaves the registration in the slot.
  have hsending : ∀ xtcp, (∀ j, xtcp = some j → c.kindOf j = some .xtcp) →
      c.kindOf i ≠ some .register →
      Keeps c { c with commands := rest, pendingXtcp := xtcp, loop := .sending i } := by
    intro xtcp hxtcp hother
    refine ⟨(h.pop hcommands).withSending hxtcp hknown hother, .refl _, ?_, fun _ ↦ id, rfl⟩
    rw [hasking]
    exact if_neg hother
  cases command with
  | openXtcp serverName sk visitorAddr =>
      have hother : c.kindOf i ≠ some .register := by
        rw [hkind]
        exact fun h ↦ by cases h
      rw [Control.handleControlCommand]
      split
      · exact Rests.keeps h ⟨(h.pop hcommands).reply fun hregister ↦ absurd hregister hother,
          Evolves.reply c.calls i _, rfl, rfl, rfl⟩
      · refine hsending (some i) (fun j hj ↦ ?_) hother
        rw [← Option.some.inj hj]
        exact hkind
  | registerProxy proxyConfig multiplexer =>
      rw [Control.handleControlCommand]
      split
      · refine Rests.keeps h ⟨(h.pop hcommands).reply fun _ ↦ ⟨?_, fun hslot ↦ ?_⟩,
          Evolves.reply c.calls i _, rfl, rfl, rfl⟩
        · exact (List.nodup_cons.mp (hcommands ▸ h.nodup)).1
        · obtain ⟨p, hp, rfl⟩ := Option.map_eq_some_iff.mp hslot
          exact (h.pending p hp).1 (hcommands ▸ List.mem_cons_self)
      · next hempty =>
          have hnone : c.pendingProxyResp = none := by simpa using hempty
          have hnone' : c.registration = none := by rw [Control.registration, hnone]; rfl
          refine ⟨h.enter hcommands hcommand, .refl _, ?_, fun q hq ↦ ?_, rfl⟩
          · rw [hasking, hnone']
            exact if_pos hkind
          · cases hnone'.symm.trans hq
  | closeProxy proxyName =>
      exact hsending c.pendingXtcp h.xtcp (by rw [hkind]; exact fun h ↦ by cases h)

/-- A call goes on that is no registration, or one that does not wait. -/
theorem Rests.advance {f : Call → Option Call} (h : Prompt c) (hadvance : c.advance i f = some c')
    (hf : ∀ call call', c.calls[i]? = some call → f call = some call' →
      call.Becomes False True call' ∧
        (call.command.kind = some .register → call.pc ≠ .waiting .empty)) : Rests c c' := by
  have hprompt := h.advance hadvance hf
  have hevolves := Control.evolves_advance hadvance fun call call' hcall hcall' ↦
    (hf call call' hcall hcall').1
  obtain ⟨call, call', -, -, rfl⟩ := Control.advance_eq_some.mp hadvance
  exact ⟨hprompt, hevolves, rfl, rfl, rfl⟩

/-- A step of the control on its own takes a command, or ends the message loop, or leaves the
loop where it is. -/
theorem Rests.act {tcpMux : Bool} {a : Control.Act} (h : Prompt c) (htake : a ≠ .take)
    (hexpire : ∀ i, a = .expire i → c.kindOf i ≠ some .register)
    (ht : c.act tcpMux a = some c') : c'.loop.over = true ∨ Rests c c' := by
  cases Control.acts_of_act ht with
  | issue command => exact .inr ⟨h.issue command, .append (fun _ _ ↦ nofun) c.calls, rfl, rfl, rfl⟩
  | enqueue i c₁ hc₁ =>
      have hevolves := Control.evolves_advance hc₁ fun _ _ _ ↦ Call.becomes_enqueue
      obtain ⟨call, call', -, -, hsame⟩ := Control.advance_eq_some.mp hc₁
      exact .inr ⟨h.enqueue hc₁, hevolves, by rw [← hsame], by rw [← hsame], by rw [← hsame]⟩
  | receive i hc' =>
      refine .inr (.advance h hc' fun call call' _ hcall' ↦ ⟨Call.becomes_receive hcall', ?_⟩)
      intro _ hpc
      rw [Call.receive, hpc] at hcall'
      cases hcall'
  | expire i hc' =>
      refine .inr (.advance h hc' fun call call' hcall hcall' ↦ ?_)
      have hother : call.command.kind ≠ some .register := by
        have hkind := hexpire i rfl
        rw [Control.kindOf, hcall] at hkind
        exact hkind
      exact ⟨Call.becomes_expire (fun hkind ↦ hother hkind) hcall', fun hkind ↦ absurd hkind hother⟩
  | clear i hc' =>
      obtain ⟨k, hk, hc'⟩ := Option.bind_eq_some_iff.mp hc'
      obtain ⟨c₁, hc₁, rfl⟩ := Option.map_eq_some_iff.mp hc'
      have hkept : Rests c c₁ := .advance h hc₁ fun call call' _ hcall' ↦
        ⟨Call.becomes_giveUp hcall', fun _ hpc ↦ by
          obtain ⟨e, he, -⟩ := Call.giveUp_eq_some.mp hcall'
          cases hpc.symm.trans he⟩
      obtain ⟨call, call', hcall, hcall', hsame⟩ := Control.advance_eq_some.mp hc₁
      obtain ⟨e, he, -⟩ := Call.giveUp_eq_some.mp hcall'
      rw [Control.kindOf, hcall] at hk
      cases k with
      | register => exact absurd he (h.clearing i call hcall hk e)
      | xtcp =>
          refine .inr ⟨hkept.prompt.takeXtcp, .trans
            (fun _ _ _ hbecomes hstays ↦ hstays.becomes hbecomes) hkept.evolves
            Control.evolves_takeSlot, ?_, ?_, ?_⟩
          · rw [Control.loop_takeSlot, ← hsame]
          · rw [Control.pendingProxyResp_takeSlot, ← hsame]
            rfl
          · rw [Control.proxyManager_takeSlot, ← hsame]
  | take => exact absurd rfl htake
  | fails loop hover => exact .inl hover
  | finishXtcp | finishProxy => exact .inl (by rw [Control.loop_takeSlot]; rfl)

/-- Once the message loop has returned, it stays so. -/
theorem Control.over_of_act {tcpMux : Bool} {c c' : Control} {a : Control.Act}
    (h : c.loop.over = true) (ht : c.act tcpMux a = some c') : c'.loop.over = true := by
  have hadvance : ∀ {i f c₁}, c.advance i f = some c₁ → c₁.loop.over = true := by
    intro i f c₁ hc₁
    obtain ⟨call, call', -, -, rfl⟩ := advance_eq_some.mp hc₁
    exact h
  cases acts_of_act ht with
  | issue command => exact h
  | enqueue i c₁ hc₁ => exact @hadvance i _ c₁ hc₁
  | receive i hc' | expire i hc' => exact hadvance hc'
  | clear i hc' =>
      obtain ⟨k, -, hc'⟩ := Option.bind_eq_some_iff.mp hc'
      obtain ⟨c₁, hc₁, rfl⟩ := Option.map_eq_some_iff.mp hc'
      rw [loop_takeSlot]
      exact hadvance hc₁
  | take i rest call hserving hcommands hcall =>
      rw [hserving] at h
      cases h
  | fails loop hover => exact hover
  | finishXtcp | finishProxy =>
      rw [loop_takeSlot]
      rfl

end Arp.Client.Commands
