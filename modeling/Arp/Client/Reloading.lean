import Arp.Client.Pursuit

/-!
# A reload on its own

`reload_proxies` compares names: it closes the running proxies that the file does not name,
and registers those of the file that do not run.  Each of its calls goes through the channel
of commands and the message loop, and it waits for one before it makes the next.

`Reloading` is a control with one reload, whoever has started it, while nobody else registers
or closes proxies.  The calls of a reload follow a plan (`Reload.Planned`) in which no two
commands are about the same name, so the order in which they take effect does not matter, and
what is not in the plan is left as it was.  A proxy of the file that runs with other settings
under the same name is not in the plan.  So the client comes to hold what the file says
exactly if there is no such proxy (`reload_exact_iff`).
-/

namespace Arp.Client

open Arp.Common Arp.Lib Arp.Lib.Machine

/-! ## What commands do to the configurations held -/

/-- The configurations a client holds, and when they came. -/
abbrev Held := Table String (ProxyConfig × Nat)

namespace Commands.Command

variable {command command' : Command} {held : Held} {now : Nat}

/-- What becomes of the configurations when a command has its effect. -/
def apply (held : Held) (now : Nat) : Command → Held
  | openXtcp _ _ _ => held
  | registerProxy proxyConfig multiplexer =>
    held.insert proxyConfig.name ({ proxyConfig with multiplexer := multiplexer }, now)
  | closeProxy proxyName => held.erase proxyName

/-- A command has had its effect. -/
def Done (held : Held) : Command → Prop
  | openXtcp _ _ _ => True
  | registerProxy proxyConfig multiplexer =>
    ∃ now, held.lookup proxyConfig.name =
      some ({ proxyConfig with multiplexer := multiplexer }, now)
  | closeProxy proxyName => held.lookup proxyName = none

theorem done_of_target (h : command.target = none) : command.Done held := by
  cases command with
  | openXtcp serverName sk visitorAddr => exact trivial
  | registerProxy proxyConfig multiplexer => cases h
  | closeProxy proxyName => cases h

theorem done_apply : command.Done (command.apply held now) := by
  cases command with
  | openXtcp serverName sk visitorAddr => exact trivial
  | registerProxy proxyConfig multiplexer =>
      exact ⟨now, by rw [apply, Table.lookup_insert_ite, if_pos rfl]⟩
  | closeProxy proxyName =>
      show (held.erase proxyName).lookup proxyName = none
      rw [Table.lookup_erase_ite, if_pos rfl]

theorem lookup_apply {name : String} (h : command.target ≠ some name) :
    (command.apply held now).lookup name = held.lookup name := by
  cases command with
  | openXtcp serverName sk visitorAddr => rfl
  | registerProxy proxyConfig multiplexer =>
      rw [apply, Table.lookup_insert_ite, if_neg]
      exact fun hname ↦ h (congrArg some hname.symm)
  | closeProxy proxyName =>
      rw [apply, Table.lookup_erase_ite, if_neg]
      exact fun hname ↦ h (congrArg some hname.symm)

/-- A command about another name undoes nothing. -/
theorem Done.apply (h : command'.Done held) (htarget : command'.target ≠ command.target) :
    command'.Done (command.apply held now) := by
  cases command' with
  | openXtcp serverName sk visitorAddr => exact trivial
  | registerProxy proxyConfig multiplexer =>
      obtain ⟨since, hsince⟩ := h
      exact ⟨since, (lookup_apply htarget.symm).trans hsince⟩
  | closeProxy proxyName => exact (lookup_apply htarget.symm).trans h

end Commands.Command

namespace Service

open Commands (Control Command Call Answers)

variable {tcpMux : Bool} {seenAs : String → String} {plan : Command → Prop} {n : Nat}
  {held held₀ : Held}

/-- What a step does to the configurations: nothing, and then none but visitors' calls are
answered, or what the command of one call asks for, and then no other call is answered. -/
theorem heldAfter_cases {s : Commands.State} (h : s.control.Obeys plan n)
    (e : Commands.Event) :
    (Session.heldAfter s.control held e = held ∧ ∀ i, Answers s e i →
      ∃ command, s.control.commandOf i = some command ∧ command.target = none) ∨
    ∃ i command now, n ≤ i ∧ s.control.commandOf i = some command ∧ command.target ≠ none ∧
      (∀ j, Answers s e j → j = i) ∧
        Session.heldAfter s.control held e = command.apply held now := by
  cases e with
  | act a => exact .inl ⟨rfl, fun i hi ↦ hi.elim⟩
  | started => exact .inl ⟨rfl, fun i hi ↦ hi.elim⟩
  | sendFails e delivered => exact .inl ⟨rfl, fun i hi ↦ hi.elim⟩
  | natHoleResp => exact .inl ⟨rfl, h.xtcp⟩
  | ownerOffline => exact .inl ⟨rfl, fun _ ↦ False.elim⟩
  | sent =>
      by_cases hclose : ∃ i proxyName, s.control.loop = .sending i ∧
          s.control.commandOf i = some (.closeProxy proxyName)
      · obtain ⟨i, proxyName, hloop, hcommand⟩ := hclose
        have htarget : (Command.closeProxy proxyName).target ≠ none := Option.some_ne_none _
        refine .inr ⟨i, .closeProxy proxyName, 0,
          h.active i _ (.inr (.inl hloop)) hcommand htarget, hcommand, htarget, fun j hj ↦ ?_, ?_⟩
        · exact (Commands.LoopPc.sending.inj (hloop.symm.trans hj.1)).symm
        · simp only [Session.heldAfter, hloop, hcommand, Command.apply]
      · refine .inl ⟨?_, fun i hi ↦ ?_⟩
        · unfold Session.heldAfter
          grind
        · obtain ⟨hloop, proxyName, hcommand⟩ := hi
          exact absurd ⟨i, proxyName, hloop, hcommand⟩ hclose
  | newProxyResp m remoteAddr error now =>
      cases hpending : s.control.pendingProxyResp with
      | none =>
          refine .inl ⟨by simp only [Session.heldAfter, hpending], fun i hi ↦ ?_⟩
          obtain ⟨-, p, hp, -⟩ := hi
          rw [hpending] at hp
          cases hp
      | some p =>
          by_cases herror : error = ""
          · obtain ⟨hle, hcommand⟩ := h.register p hpending
            refine .inr ⟨p.replyTx, .registerProxy p.proxyConfig p.multiplexer, now, hle, hcommand,
              Option.some_ne_none _, fun j hj ↦ ?_, ?_⟩
            · obtain ⟨-, q, hq, rfl⟩ := hj
              rw [hpending] at hq
              rw [Option.some.inj hq]
            · simp only [Session.heldAfter, hpending, herror, Command.apply]
              rfl
          · refine .inl ⟨by simp only [Session.heldAfter, hpending, if_pos herror], fun i hi ↦ ?_⟩
            exact absurd hi.1 herror

/-- What a plan has come to: the calls from a number on that got what they asked for have had
their effect, and names that are not in the plan are as they were. -/
structure Tracks (plan : Command → Prop) (n : Nat) (held₀ : Held) (c : Control) (held : Held) :
    Prop where
  done : ∀ (i : Nat) (call : Call), n ≤ i → c.calls[i]? = some call → call.content = true →
    call.command.Done held
  untouched : ∀ name, (∀ command, plan command → command.target ≠ some name) →
    held.lookup name = held₀.lookup name

namespace Tracks

/-- A call that is made has no effect yet. -/
theorem issue {c : Control} {command : Command} (h : Tracks plan n held₀ c held) :
    Tracks plan n held₀ (c.issue command) held where
  done i call hi hcall hcontent := by
    rcases eq_or_of_getElem?_concat hcall with ⟨-, rfl⟩ | hold
    · cases hcontent
    · exact h.done i call hi hold hcontent
  untouched := h.untouched

/-- The plan does not undo what it has done: no two of its commands are about one name. -/
theorem step {s t : Commands.State} {e : Commands.Event}
    (hplan : ∀ command command', plan command → plan command' →
      command.target = command'.target → command = command')
    (hobeys : s.control.Obeys plan n) (h : Tracks plan n held₀ s.control held)
    (hgoes : s.control.Pursues (Answers s e) t.control) :
    Tracks plan n held₀ t.control (Session.heldAfter s.control held e) := by
  have hobeys' := hobeys.pursues hgoes
  -- Who is content was so before, or is so by this step.
  have hsplit : ∀ (j : Nat) (call' : Call), n ≤ j → t.control.calls[j]? = some call' →
      call'.content = true → call'.command.target = none ∨
      call'.command.Done held ∨ Answers s e j := by
    intro j call' hj hcall' hcontent
    rcases hgoes.calls.new j call' hcall' with ⟨call, hcall⟩ | hnone
    · obtain ⟨_, hsame, hfollows⟩ := hgoes.calls.old j call hcall
      obtain rfl := Option.some.inj (hcall'.symm.trans hsame)
      refine .inr ((hfollows.answered hcontent).imp (fun hold ↦ ?_) id)
      rw [hfollows.command]
      exact h.done j call hj hcall hold
    · exact .inl hnone
  rcases heldAfter_cases hobeys e with ⟨hsame, hanswers⟩ |
    ⟨i, command, now, hi, hcommand, htarget, hanswers, happly⟩
  · rw [hsame]
    refine ⟨fun j call' hj hcall' hcontent ↦ ?_, h.untouched⟩
    rcases hsplit j call' hj hcall' hcontent with hnone | hdone | hanswer
    · exact Command.done_of_target hnone
    · exact hdone
    · obtain ⟨command, hcommand, htarget⟩ := hanswers j hanswer
      have hkept := hgoes.commandOf hcommand
      rw [Control.commandOf_of_getElem? hcall'] at hkept
      exact Command.done_of_target (Option.some.inj hkept ▸ htarget)
  · rw [happly]
    have hplanned := hobeys.made i command hi hcommand htarget
    refine ⟨fun j call' hj hcall' hcontent ↦ ?_, fun name hname ↦ ?_⟩
    · by_cases heq : call'.command = command
      · rw [heq]
        exact Command.done_apply
      · rcases hsplit j call' hj hcall' hcontent with hnone | hdone | hanswer
        · exact Command.done_of_target hnone
        · refine hdone.apply fun hboth ↦ heq ?_
          have hcommand' := Control.commandOf_of_getElem? hcall'
          exact hplan _ _ (hobeys'.made j _ hj hcommand' (hboth ▸ htarget)) hplanned hboth
        · obtain rfl := hanswers j hanswer
          have hkept := hgoes.commandOf hcommand
          rw [Control.commandOf_of_getElem? hcall'] at hkept
          exact absurd (Option.some.inj hkept) heq
    · rw [Command.lookup_apply (hname command hplanned)]
      exact h.untouched name hname

end Tracks

/-! ## The plan of a reload -/

namespace Reload

variable {c : Control} {r r' r₀ : Reload} {file : ClientConfig} {names : List String}

/-- What is left to do for a reload, as commands. -/
def Planned (tcpMux : Bool) (r : Reload) : Command → Prop
  | .closeProxy proxyName => proxyName ∈ r.stale
  | .registerProxy proxyConfig multiplexer =>
    proxyConfig ∈ r.fresh ∧ multiplexer = effectiveMultiplexer tcpMux proxyConfig
  | .openXtcp _ _ _ => False

theorem mem_stale_begin {name : String} : name ∈ (Reload.begin file names).stale ↔
    name ∈ names ∧ name ∉ file.proxies.map ProxyConfig.name := by
  simp only [Reload.begin, List.mem_filter, decide_eq_true_eq]

theorem mem_fresh_begin {proxy : ProxyConfig} : proxy ∈ (Reload.begin file names).fresh ↔
    proxy ∈ file.proxies ∧ proxy.name ∉ names := by
  simp only [Reload.begin, List.mem_filter, decide_eq_true_eq]

/-- The commands of a reload are about names that run and are not in the file, or are in the
file and do not run. -/
theorem mem_iff_of_planned {command : Command} {name : String}
    (h : (Reload.begin file names).Planned tcpMux command) (htarget : command.target = some name) :
    name ∈ names ↔ name ∉ file.proxies.map ProxyConfig.name := by
  cases command with
  | openXtcp serverName sk visitorAddr => exact h.elim
  | closeProxy proxyName =>
      obtain rfl : proxyName = name := Option.some.inj htarget
      obtain ⟨hlisted, habsent⟩ := mem_stale_begin.mp h
      exact iff_of_true hlisted habsent
  | registerProxy proxyConfig multiplexer =>
      obtain rfl : proxyConfig.name = name := Option.some.inj htarget
      obtain ⟨hfile, habsent⟩ := mem_fresh_begin.mp h.1
      exact iff_of_false habsent (not_not_intro (List.mem_map_of_mem hfile))

/-- No two commands of a reload are about the same proxy. -/
theorem planned_inj (hfile : (file.proxies.map ProxyConfig.name).Nodup) {command command' : Command}
    (h : (Reload.begin file names).Planned tcpMux command)
    (h' : (Reload.begin file names).Planned tcpMux command')
    (htarget : command.target = command'.target) : command = command' := by
  cases command with
  | openXtcp serverName sk visitorAddr => exact h.elim
  | closeProxy proxyName =>
      cases command' with
      | openXtcp serverName sk visitorAddr => exact h'.elim
      | closeProxy proxyName' => rw [Option.some.inj htarget]
      | registerProxy proxyConfig multiplexer =>
          refine absurd ?_ (mem_stale_begin.mp h).2
          rw [show proxyName = proxyConfig.name from Option.some.inj htarget]
          exact List.mem_map_of_mem (mem_fresh_begin.mp h'.1).1
  | registerProxy proxyConfig multiplexer =>
      cases command' with
      | openXtcp serverName sk visitorAddr => exact h'.elim
      | closeProxy proxyName =>
          refine absurd ?_ (mem_stale_begin.mp h').2
          rw [show proxyName = proxyConfig.name from (Option.some.inj htarget).symm]
          exact List.mem_map_of_mem (mem_fresh_begin.mp h.1).1
      | registerProxy proxyConfig' multiplexer' =>
          obtain ⟨hfresh, rfl⟩ := h
          obtain ⟨hfresh', rfl⟩ := h'
          rw [List.inj_on_of_nodup_map hfile (mem_fresh_begin.mp hfresh).1
            (mem_fresh_begin.mp hfresh').1 (Option.some.inj htarget)]

theorem not_planned_of_done (h : r.done = true) (command : Command) :
    ¬r.Planned tcpMux command := by
  simp only [done, Bool.and_eq_true, List.isEmpty_iff] at h
  obtain ⟨⟨-, hstale⟩, hfresh⟩ := h
  cases command with
  | openXtcp serverName sk visitorAddr => exact id
  | closeProxy proxyName =>
      rw [Planned, hstale]
      exact List.not_mem_nil
  | registerProxy proxyConfig multiplexer =>
      rw [Planned, hfresh]
      exact fun h ↦ List.not_mem_nil h.1

/-- What a step of a reload can do. -/
inductive Nexts (tcpMux : Bool) (c : Control) (r : Reload) : Control → Reload → Prop
  /-- A call has returned. -/
  | returned (i : Nat) (call : Call) (result : Result Commands.Answer) (hr : r.call = some i)
      (hcall : c.calls[i]? = some call) (hresult : call.result = some result) :
      Nexts tcpMux c r c (r.count call.command result)
  /-- A call is made. -/
  | issue (r' : Reload) (command : Command) (hr : r.call = none)
      (hr' : r'.call = some c.calls.length)
      (hplan : ∀ command', r.Planned tcpMux command' ↔
        command' = command ∨ r'.Planned tcpMux command') :
      Nexts tcpMux c r (c.issue command) r'

theorem nexts_of_next {c' : Control} (h : r.next tcpMux c = some (c', r')) :
    Nexts tcpMux c r c' r' := by
  obtain ⟨stale, fresh, call, added, removed⟩ := r
  unfold next at h
  split at h
  · next i hr =>
      obtain ⟨call, hcall, h⟩ := Option.bind_eq_some_iff.mp h
      obtain ⟨result, hresult, h⟩ := Option.map_eq_some_iff.mp h
      cases h
      exact .returned i call result hr hcall hresult
  · next name stale' hr hstale =>
      cases h
      obtain rfl : stale = name :: stale' := hstale
      refine .issue _ (.closeProxy name) hr rfl fun command' ↦ ?_
      cases command' <;> simp [Planned]
  · next proxy fresh' hr hstale hfresh =>
      cases h
      obtain rfl : fresh = proxy :: fresh' := hfresh
      refine .issue _ (.registerProxy proxy (effectiveMultiplexer tcpMux proxy)) hr rfl
        fun command' ↦ ?_
      cases command' with
      | openXtcp serverName sk visitorAddr => simp [Planned]
      | closeProxy proxyName => simp [Planned]
      | registerProxy proxyConfig multiplexer =>
          simp only [Planned, List.mem_cons, Command.registerProxy.injEq]
          grind
  · cases h

/-- Counting a result leaves what is to be done. -/
theorem planned_count {command command' : Command} {result : Result Commands.Answer} :
    (r.count command result).Planned tcpMux command' ↔ r.Planned tcpMux command' := by
  have hsame : (r.count command result).stale = r.stale ∧
      (r.count command result).fresh = r.fresh := by
    unfold count
    split <;> exact ⟨rfl, rfl⟩
  cases command' with
  | openXtcp serverName sk visitorAddr => rfl
  | closeProxy proxyName => rw [Planned, Planned, hsame.1]
  | registerProxy proxyConfig multiplexer => rw [Planned, Planned, hsame.2]

end Reload

/-! ## A control and a reload -/

/-- A control with one reload, and the configurations held. -/
structure Reloading where
  commands : Commands.State
  held : Held
  reload : Reload

namespace Reloading

/-- What can happen. -/
inductive Event where
  /-- A step of the control and of the calls made on it. -/
  | commands (e : Commands.Event)
  /-- The reload goes on. -/
  | goOn

/-- One step. -/
def step (tcpMux : Bool) (seenAs : String → String) (s : Reloading) : Event → Option Reloading
  | .commands e =>
    if Session.admits s.commands.control e then
      (Commands.step tcpMux seenAs s.commands e).map fun commands ↦ { s with
        commands := commands
        held := Session.heldAfter s.commands.control s.held e }
    else none
  | .goOn => (s.reload.next tcpMux s.commands.control).map fun (c, r) ↦ { s with
      commands := { s.commands with control := c }
      reload := r }

/-- A reload that has read a file. -/
def begin (commands : Commands.State) (held : Held) (file : ClientConfig) (names : List String) :
    Reloading :=
  ⟨commands, held, .begin file names⟩

/-- A call the reload has waited for has not failed. -/
def Succeeds (s : Reloading) : Event → Prop
  | .commands _ => True
  | .goOn => ∀ i ∈ s.reload.call, ∀ call ∈ s.commands.control.calls[i]?,
      ∀ result ∈ call.result, result.isOk = true

instance (s : Reloading) : ∀ e, Decidable (s.Succeeds e)
  | .commands _ => .isTrue trivial
  | .goOn => inferInstanceAs (Decidable (∀ i ∈ s.reload.call,
      ∀ call ∈ s.commands.control.calls[i]?, ∀ result ∈ call.result, result.isOk = true))

/-- A reload that has begun with some calls made and some configurations held: its calls follow
its plan, and what it has planned it has still to do, waits for or has got. -/
structure Underway (tcpMux : Bool) (r₀ : Reload) (n : Nat) (held₀ : Held) (s : Reloading) :
    Prop where
  obeys : s.commands.control.Obeys (r₀.Planned tcpMux) n
  tracks : Tracks (r₀.Planned tcpMux) n held₀ s.commands.control s.held
  made : s.commands.control.proxyManager.MadeFrom s.held
  left : ∀ command, s.reload.Planned tcpMux command → r₀.Planned tcpMux command
  progress : ∀ command, r₀.Planned tcpMux command → s.reload.Planned tcpMux command ∨
    ∃ (i : Nat) (call : Call), n ≤ i ∧ s.commands.control.calls[i]? = some call ∧
      call.command = command ∧ (s.reload.call = some i ∨ call.content = true)

variable {s t : Reloading} {r₀ : Reload}

theorem content_of_result {call : Call} {result : Result Commands.Answer}
    (h : call.result = some result) (hok : result.isOk = true) : call.content = true := by
  obtain ⟨command, pc⟩ := call
  unfold Call.result at h
  split at h
  · next result' hpc =>
      obtain rfl : pc = .returned result' := hpc
      obtain rfl := Option.some.inj h
      cases result' with
      | ok answer => rfl
      | error e => cases hok
  · cases h

namespace Underway

theorem commands {e : Commands.Event} {commands' : Commands.State}
    (hplan : ∀ command command', r₀.Planned tcpMux command → r₀.Planned tcpMux command' →
      command.target = command'.target → command = command')
    (h : Underway tcpMux r₀ n held₀ s) (hadmits : Session.admits s.commands.control e = true)
    (hstep : Commands.step tcpMux seenAs s.commands e = some commands') :
    Underway tcpMux r₀ n held₀
      { s with commands := commands', held := Session.heldAfter s.commands.control s.held e } := by
  have hgoes : s.commands.control.Pursues (Answers s.commands e) commands'.control := by
    refine Commands.pursues_of_step (fun proxyConfig he ↦ ?_) (fun proxyName he ↦ ?_) hstep
    · subst he
      cases hadmits
    · subst he
      cases hadmits
  refine ⟨h.obeys.pursues hgoes, h.tracks.step hplan h.obeys hgoes,
    madeFrom_of_step h.made hstep, h.left, fun command hcommand ↦ ?_⟩
  refine (h.progress command hcommand).imp id ?_
  rintro ⟨i, call, hi, hcall, rfl, hwaits⟩
  obtain ⟨call', hcall', hfollows⟩ := hgoes.calls.old i call hcall
  exact ⟨i, call', hi, hcall', hfollows.command, hwaits.imp id hfollows.content⟩

theorem goOn {c : Control} {r : Reload} (h : Underway tcpMux r₀ n held₀ s)
    (hok : s.Succeeds .goOn) (hnext : s.reload.next tcpMux s.commands.control = some (c, r)) :
    Underway tcpMux r₀ n held₀
      { s with commands := { s.commands with control := c }, reload := r } := by
  cases Reload.nexts_of_next hnext with
  | returned i call result hr hcall hresult =>
      have hcontent := content_of_result hresult (hok i hr call hcall result hresult)
      refine ⟨h.obeys, h.tracks, h.made, fun command hleft ↦ h.left command
        (Reload.planned_count.mp hleft), fun command hcommand ↦ ?_⟩
      refine (h.progress command hcommand).imp Reload.planned_count.mpr ?_
      rintro ⟨j, call', hj, hcall', rfl, hwaits | hgot⟩
      · -- The call that was waited for is the one that has returned.
        obtain rfl := Option.some.inj (hr.symm.trans hwaits)
        obtain rfl := Option.some.inj (hcall.symm.trans hcall')
        exact ⟨i, call, hj, hcall, rfl, .inr hcontent⟩
      · exact ⟨j, call', hj, hcall', rfl, .inr hgot⟩
  | issue _ command hr hr' hplan =>
      have hplanned : r₀.Planned tcpMux command := h.left command ((hplan command).mpr (.inl rfl))
      refine ⟨h.obeys.issue hplanned, h.tracks.issue, h.made,
        fun command' hleft ↦ h.left command' ((hplan command').mpr (.inr hleft)),
        fun command' hcommand' ↦ ?_⟩
      rcases h.progress command' hcommand' with hleft | ⟨i, call, hi, hcall, rfl, hwaits⟩
      · refine ((hplan command').mp hleft).symm.imp id ?_
        rintro rfl
        exact ⟨_, ⟨command', .sending⟩, h.obeys.le, List.getElem?_concat_length, rfl, .inl hr'⟩
      · right
        rcases hwaits with hwaits | hgot
        · rw [hr] at hwaits
          cases hwaits
        · refine ⟨i, call, hi, ?_, rfl, .inr hgot⟩
          rw [Control.issue, List.getElem?_append_left (List.getElem?_eq_some_iff.mp hcall).1]
          exact hcall

/-- At the end the whole plan has had its effect. -/
theorem done_of_done (h : Underway tcpMux r₀ n held₀ s) (hdone : s.reload.done = true)
    {command : Command} (hcommand : r₀.Planned tcpMux command) : command.Done s.held := by
  rcases h.progress command hcommand with hleft | ⟨i, call, hi, hcall, rfl, hwaits | hgot⟩
  · exact absurd hleft (Reload.not_planned_of_done hdone command)
  · simp [Reload.done, hwaits] at hdone
  · exact h.tracks.done i call hi hcall hgot

end Underway

/-! ### The reloads of a session -/

/-- What a session has to do with one of its reloads. -/
def of (s : Session) (r : Reload) : Reloading := ⟨s.commands, s.held, r⟩

section Sessions

variable {config : ClientConfig} {σ σ' : Session} {r : Reload}

/-- The steps of the control are those of every reload. -/
theorem step_of_commands {e : Commands.Event}
    (h : Session.step config seenAs σ (.commands e) = some σ') :
    step config.transport.tcpMux seenAs (of σ r) (.commands e) = some (of σ' r) ∧
      σ'.sighup = σ.sighup ∧ σ'.handlers = σ.handlers := by
  simp only [Session.step] at h
  split at h
  · next hadmits =>
      obtain ⟨commands', hcommands', rfl⟩ := Option.map_eq_some_iff.mp h
      refine ⟨?_, rfl, rfl⟩
      rw [step, if_pos (show Session.admits (of σ r).commands.control e = true from hadmits),
        show Commands.step _ _ (of σ r).commands e = some commands' from hcommands']
      rfl
  · cases h

/-- The listener for SIGHUP goes on with its reload. -/
theorem step_of_reload (hr : σ.sighup = some r) (hdone : r.done = false)
    (h : Session.step config seenAs σ .reload = some σ') :
    ∃ r', σ'.sighup = some r' ∧
      step config.transport.tcpMux seenAs (of σ r) .goOn = some (of σ' r') := by
  simp only [Session.step, hr, Option.bind_some, Session.goOn, hdone, Bool.false_eq_true,
    if_false] at h
  obtain ⟨⟨c, r'⟩, hnext, rfl⟩ := Option.map_eq_some_iff.mp h
  refine ⟨r', rfl, ?_⟩
  rw [step, show (of σ r).reload.next _ (of σ r).commands.control = some (c, r') from hnext]
  rfl

/-- The handler of a request goes on with its reload. -/
theorem step_of_handle {i : Nat} (hr : σ.handlers[i]? = some (.reloading r))
    (hdone : r.done = false) (h : Session.step config seenAs σ (.handle i) = some σ') :
    ∃ r', σ'.handlers[i]? = some (.reloading r') ∧
      step config.transport.tcpMux seenAs (of σ r) .goOn = some (of σ' r') := by
  simp only [Session.step, hr, Option.bind_some, Session.handle, hdone, Bool.false_eq_true,
    if_false] at h
  obtain ⟨⟨c, r'⟩, hnext, rfl⟩ := Option.map_eq_some_iff.mp h
  refine ⟨r', ?_, ?_⟩
  · exact List.getElem?_set_self (List.getElem?_eq_some_iff.mp hr).1
  · rw [step, show (of σ r).reload.next _ (of σ r).commands.control = some (c, r') from hnext]
    rfl

end Sessions

/-! ### What a reload leads to -/

/-- The configurations held are exactly those of a file, as they are registered. -/
structure Exact (tcpMux : Bool) (file : ClientConfig) (held : Held) : Prop where
  each : ∀ proxy ∈ file.proxies, ∃ now,
    held.lookup proxy.name = some (effectiveConfig tcpMux proxy, now)
  only : ∀ name, name ∉ file.proxies.map ProxyConfig.name → held.lookup name = none

/-- The manager has exactly the proxies of a file, with the settings of the file, and another
reload of the file has nothing to do: it closes and registers none, and counts `(0, 0)`. -/
structure Settled (tcpMux : Bool) (file : ClientConfig) (s : Reloading) : Prop where
  made : s.commands.control.proxyManager.MadeFrom s.held
  holds : Exact tcpMux file s.held
  again : ∀ names, s.commands.control.proxyManager.Lists names →
    Reload.begin file names = ⟨[], [], none, 0, 0⟩

/-- What the file has under the name of a running proxy is what this runs with. -/
def Unchanged (tcpMux : Bool) (file : ClientConfig) (held : Held) : Prop :=
  ∀ proxy ∈ file.proxies, ∀ p ∈ held.lookup proxy.name, p.1 = effectiveConfig tcpMux proxy

section Reloads

variable {commands : Commands.State} {file : ClientConfig} {names : List String}

/-- The names that are listed are those of the configurations held. -/
theorem mem_names_iff (hlists : commands.control.proxyManager.Lists names)
    (hmade : commands.control.proxyManager.MadeFrom held) {name : String} :
    name ∈ names ↔ held.lookup name ≠ none := by
  rw [hlists.mem_iff, ← AList.lookup_isSome, Option.isSome_iff_ne_none]
  have hname := hmade name
  rw [ProxyManager.getProxy] at hname
  rw [hname, Ne, Option.map_eq_none_iff]

/-- A reload of a file that is held has nothing to do. -/
theorem begin_of_exact (hlists : commands.control.proxyManager.Lists names)
    (hmade : commands.control.proxyManager.MadeFrom held) (hexact : Exact tcpMux file held) :
    Reload.begin file names = ⟨[], [], none, 0, 0⟩ := by
  have hstale : (Reload.begin file names).stale = [] := by
    refine List.eq_nil_iff_forall_not_mem.mpr fun name hname ↦ ?_
    obtain ⟨hlisted, habsent⟩ := Reload.mem_stale_begin.mp hname
    exact (mem_names_iff hlists hmade).mp hlisted (hexact.only name habsent)
  have hfresh : (Reload.begin file names).fresh = [] := by
    refine List.eq_nil_iff_forall_not_mem.mpr fun proxy hproxy ↦ ?_
    obtain ⟨hfile, habsent⟩ := Reload.mem_fresh_begin.mp hproxy
    obtain ⟨now, hnow⟩ := hexact.each proxy hfile
    refine habsent ((mem_names_iff hlists hmade).mpr ?_)
    rw [hnow]
    exact Option.some_ne_none _
  simp only [Reload.begin] at hstale hfresh ⊢
  rw [hstale, hfresh]

theorem underway_begin (hrest : commands.control.AtRest)
    (hmade : commands.control.proxyManager.MadeFrom held) :
    Underway tcpMux (.begin file names) commands.control.calls.length held
      (.begin commands held file names) where
  obeys := hrest.obeys
  tracks := by
    refine ⟨fun i call hi hcall ↦ ?_, fun name _ ↦ rfl⟩
    exact absurd (List.getElem?_eq_some_iff.mp hcall).1 hi.not_gt
  made := hmade
  left _ := id
  progress _ := .inl

theorem underway_of_run (hfile : (file.proxies.map ProxyConfig.name).Nodup)
    (hrest : commands.control.AtRest) (hmade : commands.control.proxyManager.MadeFrom held)
    {es : List Event}
    (hok : Along (step tcpMux seenAs) Succeeds (.begin commands held file names) es)
    (hrun : run (step tcpMux seenAs) (.begin commands held file names) es = some t) :
    Underway tcpMux (.begin file names) commands.control.calls.length held t := by
  refine along_invariant ?_ hok hrun (underway_begin hrest hmade)
  intro s e t h hok hstep
  cases e with
  | commands e =>
      simp only [step] at hstep
      split at hstep
      · next hadmits =>
          obtain ⟨commands', hcommands', rfl⟩ := Option.map_eq_some_iff.mp hstep
          exact h.commands (fun _ _ ↦ Reload.planned_inj hfile) hadmits hcommands'
      · cases hstep
  | goOn =>
      obtain ⟨⟨c, r⟩, hnext, rfl⟩ := Option.map_eq_some_iff.mp hstep
      exact h.goOn hok hnext

/-- A reload of a file with distinct names, all of whose calls succeed, leaves the client with
what the file says exactly if the file has nothing new under the names of running proxies. -/
theorem reload_exact_iff (hfile : (file.proxies.map ProxyConfig.name).Nodup)
    (hlists : commands.control.proxyManager.Lists names)
    (hrest : commands.control.AtRest) (hmade : commands.control.proxyManager.MadeFrom held)
    {es : List Event}
    (hok : Along (step tcpMux seenAs) Succeeds (.begin commands held file names) es)
    (hrun : run (step tcpMux seenAs) (.begin commands held file names) es = some t)
    (hdone : t.reload.done = true) :
    Settled tcpMux file t ↔ Unchanged tcpMux file held := by
  have h := underway_of_run hfile hrest hmade hok hrun
  -- A name that was listed and is in the file is in no command.
  have hkept : ∀ proxy ∈ file.proxies, proxy.name ∈ names →
      t.held.lookup proxy.name = held.lookup proxy.name := by
    intro proxy hproxy hname
    refine h.tracks.untouched proxy.name fun command hcommand htarget ↦ ?_
    exact (Reload.mem_iff_of_planned hcommand htarget).mp hname (List.mem_map_of_mem hproxy)
  constructor
  · intro hsettled proxy hproxy p hp
    have hname : proxy.name ∈ names := by
      rw [mem_names_iff hlists hmade, hp]
      exact Option.some_ne_none _
    obtain ⟨now, hnow⟩ := hsettled.holds.each proxy hproxy
    rw [hkept proxy hproxy hname, hp] at hnow
    rw [Option.some.inj hnow]
  · intro hunchanged
    suffices hexact : Exact tcpMux file t.held from
      ⟨h.made, hexact, fun names' hlists' ↦ begin_of_exact hlists' h.made hexact⟩
    constructor
    · intro proxy hproxy
      by_cases hname : proxy.name ∈ names
      · obtain ⟨p, hp⟩ := Option.ne_none_iff_exists'.mp ((mem_names_iff hlists hmade).mp hname)
        refine ⟨p.2, ?_⟩
        rw [hkept proxy hproxy hname, hp, ← hunchanged proxy hproxy p hp]
      · have hplanned : (Reload.begin file names).Planned tcpMux
            (.registerProxy proxy (effectiveMultiplexer tcpMux proxy)) :=
          ⟨Reload.mem_fresh_begin.mpr ⟨hproxy, hname⟩, rfl⟩
        exact h.done_of_done hdone hplanned
    · intro name habsent
      by_cases hname : name ∈ names
      · have hplanned : (Reload.begin file names).Planned tcpMux (.closeProxy name) :=
          Reload.mem_stale_begin.mpr ⟨hname, habsent⟩
        exact h.done_of_done hdone hplanned
      · rw [h.tracks.untouched name, ← not_not (a := held.lookup name = none)]
        · exact fun hheld ↦ hname ((mem_names_iff hlists hmade).mpr hheld)
        · intro command hcommand htarget
          exact hname ((Reload.mem_iff_of_planned hcommand htarget).mpr habsent)

/-! ### Clients that reload -/

/-- A client that runs some proxies. -/
def running (proxies : List ProxyConfig) : Commands.State :=
  { Commands.start with
    control := { Control.new with
      loop := .serving
      proxyManager := proxies.foldl (fun pm proxy ↦ pm.registerProxy proxy 0) ⟨∅⟩ } }

/-- What it holds. -/
def heldBy (proxies : List ProxyConfig) : Held :=
  proxies.foldl (fun held proxy ↦ held.insert proxy.name (proxy, 0)) ∅

theorem atRest_running (proxies : List ProxyConfig) : (running proxies).control.AtRest where
  active i command hi hcommand := by cases hcommand
  xtcp i hi := by cases hi
  register := rfl

theorem madeFrom_heldBy (proxies : List ProxyConfig) :
    (running proxies).control.proxyManager.MadeFrom (heldBy proxies) := by
  have hfold : ∀ (pm : ProxyManager) (held : Held), pm.MadeFrom held →
      (proxies.foldl (fun pm proxy ↦ pm.registerProxy proxy 0) pm).MadeFrom
        (proxies.foldl (fun held proxy ↦ held.insert proxy.name (proxy, 0)) held) := by
    induction proxies with
    | nil => exact fun pm held h ↦ h
    | cons proxy proxies ih => exact fun pm held h ↦ ih _ _ (h.registerProxy proxy 0)
  exact hfold _ _ fun name ↦ rfl

open Registration (tcpProxy)

/-- A proxy is closed, and another registered. -/
def replaces : List Event :=
  [.goOn, .commands (.act (.enqueue 0)), .commands (.act .take), .commands .sent,
    .commands (.act (.receive 0)), .goOn, .goOn, .commands (.act (.enqueue 1)),
    .commands (.act .take), .commands .sent, .commands (.newProxyResp 0 "" "" 5),
    .commands (.act (.receive 1)), .goOn]

/-- A client runs two proxies, of which the new file has one, with one more. -/
theorem settled_replaces : ∃ t,
    run (step false id) (.begin (running [tcpProxy "db" 6001, tcpProxy "web" 6002])
      (heldBy [tcpProxy "db" 6001, tcpProxy "web" 6002])
      (clientOf [tcpProxy "db" 6001, tcpProxy "ssh" 6003]) ["db", "web"]) replaces = some t ∧
    t.reload = ⟨[], [], none, 1, 1⟩ ∧ t.held.keys = ["ssh", "db"] ∧
    Settled false (clientOf [tcpProxy "db" 6001, tcpProxy "ssh" 6003]) t := by
  refine exists_run (fun t ↦ (t.reload, t.held.keys)) (⟨[], [], none, 1, 1⟩, ["ssh", "db"]) rfl
    fun t hrun hfacts ↦ ?_
  obtain ⟨hreload, hkeys⟩ := Prod.mk.inj hfacts
  refine ⟨hreload, hkeys, ?_⟩
  have hdone : t.reload.done = true := by rw [hreload]; rfl
  refine (reload_exact_iff (by decide) (by decide) (atRest_running _) (madeFrom_heldBy _)
    (by decide) hrun hdone).mpr ?_
  intro proxy hproxy p hp
  rcases List.mem_cons.mp hproxy with rfl | hproxy
  · exact Option.some.inj hp ▸ rfl
  · rw [List.mem_singleton.mp hproxy] at hp
    cases hp

/-- The port of a running proxy is changed in the file.  The reload makes no call and is
done. -/
theorem changed_port_kept :
    (running [tcpProxy "web" 6001]).control.proxyManager.Lists ["web"] ∧
    ((clientOf [tcpProxy "web" 6002]).proxies.map ProxyConfig.name).Nodup ∧
    (Reload.begin (clientOf [tcpProxy "web" 6002]) ["web"]).done = true ∧
    ¬Settled false (clientOf [tcpProxy "web" 6002])
      (.begin (running [tcpProxy "web" 6001]) (heldBy [tcpProxy "web" 6001])
        (clientOf [tcpProxy "web" 6002]) ["web"]) := by
  refine ⟨by decide, by decide, by decide, fun hsettled ↦ ?_⟩
  obtain ⟨now, hnow⟩ := hsettled.holds.each _ (List.mem_singleton_self _)
  have hport : (6001 : UInt16) = 6002 :=
    Option.some.inj (congrArg (fun p ↦ p.map fun q ↦ q.1.remotePort) hnow)
  exact absurd hport (by decide)

end Reloads

end Reloading

end Service

end Arp.Client
