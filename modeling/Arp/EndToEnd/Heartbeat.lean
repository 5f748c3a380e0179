import Arp.Common.Error
import Mathlib.Logic.Relation

/-!
# Heartbeats

The client's message loop sends a `Ping` at every tick of one timer, and checks the age of the
last `Pong` at every tick of another.  The server's control loop answers, and gives up when no
message has come for a while.  Each loop does one thing at a time.

Time is in milliseconds, and what is under way is known by the time it was sent.  The timers go
by a clock of their own, while the age of a `Pong` is read off the wall clock.  `Timely` is what
the world grants: how long a message takes, how long a loop is busy with one thing, and how long
it lets a timer wait; and the two clocks may get out of step by some `skew`.  Within these bounds
neither end gives up as long as nothing fails (`no_false_alarm`), and neither end stays when it
hears nothing (`dead_peer_noticed`).
-/

namespace Arp.EndToEnd.Heartbeat

open Arp.Common Relation

/-- `heartbeat_interval` and `heartbeat_timeout` of the client, `heartbeat_timeout` of the
server, in seconds. -/
structure Settings where
  heartbeatInterval : UInt64
  heartbeatTimeout : UInt64
  serverHeartbeatTimeout : UInt64

namespace Settings

/-- A setting, or what is used where it is zero. -/
def orElse (n fallback : UInt64) : UInt64 := if n > 0 then n else fallback

variable (c : Settings)

/-- The period of the client's `heartbeat_ticker`. -/
def interval : Nat := 1000 * (orElse c.heartbeatInterval 30).toNat

/-- The client's `heartbeat_timeout`, in seconds. -/
def timeout : UInt64 := orElse c.heartbeatTimeout 90

/-- The server's `heartbeat_timeout`. -/
def serverTimeout : Nat := 1000 * (orElse c.serverHeartbeatTimeout 90).toNat

end Settings

/-- `n as i64`. -/
def asI64 (n : UInt64) : Int := if n.toNat < 1 <<< 63 then n.toNat else n.toNat - 2 * 1 <<< 63

/-- `chrono::Utc::now().timestamp()`: the Unix time in seconds, where `clock` is the Unix time in
milliseconds at each time of the timers. -/
def timestamp (clock : Nat → Int) (now : Nat) : Int := clock now / 1000

/-- What a loop does. -/
inductive Phase where
  /-- It waits in `select!`. -/
  | waiting
  /-- It sends a `Ping` or a `Pong`. -/
  | sending (since : Nat)
  /-- It is busy with something else. -/
  | working (since : Nat)
  | returned (result : Except Error Unit)

/-- The two loops of a session, and what is between them. -/
structure State where
  /-- The time of the timers. -/
  now : Nat
  /-- The client's message loop. -/
  client : Phase
  /-- `last_pong`: the Unix time when the last `Pong` was read, or the `Control` made. -/
  lastPong : Int
  /-- When that was, by the timers. -/
  pongAt : Nat
  /-- The next ticks of `timeout_checker` and `heartbeat_ticker`. -/
  checkDue : Nat
  beatDue : Nat
  /-- The server's control loop, and its `heartbeat_deadline`. -/
  server : Phase
  deadline : Nat
  /-- The messages under way. -/
  pings : List Nat
  pongs : List Nat

/-- The client's loop starts `setup` after its `Control` was made, and the server has heard of
it last at `heard`. -/
def start (c : Settings) (clock : Nat → Int) (setup heard : Nat) : State where
  now := setup
  client := .waiting
  lastPong := timestamp clock 0
  pongAt := 0
  checkDue := setup
  beatDue := setup
  server := .waiting
  deadline := heard + c.serverTimeout
  pings := []
  pongs := []

/-- The next tick of a timer that was due, with `MissedTickBehavior::Delay`. -/
def Ticks (period due now next : Nat) : Prop :=
  due ≤ now ∧ due + period ≤ next ∧ next ≤ now + period

instance (period due now next : Nat) : Decidable (Ticks period due now next) :=
  inferInstanceAs (Decidable (_ ∧ _ ∧ _))

/-- One step, and whether all goes well in it. -/
inductive Step (c : Settings) (clock : Nat → Int) (s : State) : Bool → State → Prop
  | tick (d : Nat) : Step c clock s true { s with now := s.now + d }
  | check {next : Nat} (hclient : s.client = .waiting) (hdue : Ticks 5000 s.checkDue s.now next)
      (hfresh : timestamp clock s.now - s.lastPong ≤ asI64 c.timeout) :
      Step c clock s true { s with checkDue := next }
  | giveUp (hclient : s.client = .waiting) (hdue : s.checkDue ≤ s.now)
      (hstale : timestamp clock s.now - s.lastPong > asI64 c.timeout) :
      Step c clock s true { s with client := .returned (.error (.timeout "heartbeat timeout")) }
  | beat {next : Nat} (hclient : s.client = .waiting)
      (hdue : Ticks c.interval s.beatDue s.now next) :
      Step c clock s true { s with client := .sending s.now, beatDue := next }
  | pinged {since : Nat} (hclient : s.client = .sending since) :
      Step c clock s true { s with client := .waiting, pings := s.pings ++ [s.now] }
  | pong {sent : Nat} {rest : List Nat} (hclient : s.client = .waiting)
      (hpongs : s.pongs = sent :: rest) :
      Step c clock s true { s with
        lastPong := timestamp clock s.now, pongAt := s.now, pongs := rest }
  /-- A command, or another message. -/
  | works (hclient : s.client = .waiting) : Step c clock s true { s with client := .working s.now }
  | worked {since : Nat} (hclient : s.client = .working since) :
      Step c clock s true { s with client := .waiting }
  | fails (e : Error) : Step c clock s false { s with client := .returned (.error e) }
  | ping {sent : Nat} {rest : List Nat} (hserver : s.server = .waiting)
      (hpings : s.pings = sent :: rest) :
      Step c clock s true { s with
        server := .sending s.now, deadline := s.now + c.serverTimeout, pings := rest }
  | ponged {since : Nat} (hserver : s.server = .sending since) :
      Step c clock s true { s with server := .waiting, pongs := s.pongs ++ [s.now] }
  /-- The error is logged, and the loop goes on. -/
  | pongFails {since : Nat} (hserver : s.server = .sending since) :
      Step c clock s false { s with server := .waiting }
  | message (hserver : s.server = .waiting) :
      Step c clock s true { s with server := .working s.now, deadline := s.now + c.serverTimeout }
  /-- A request for a work connection, or a message of another task. -/
  | serves (hserver : s.server = .waiting) : Step c clock s true { s with server := .working s.now }
  | served {since : Nat} (hserver : s.server = .working since) :
      Step c clock s true { s with server := .waiting }
  | expire (hserver : s.server = .waiting) (hdue : s.deadline ≤ s.now) :
      Step c clock s true { s with
        server := .returned (.error (.timeout "server heartbeat timeout")) }
  /-- The connection is closed or fails, or another one replaces it. -/
  | leaves (r : Except Error Unit) : Step c clock s false { s with server := .returned r }

/-! ## What the world grants -/

structure Bounds where
  /-- How long a message is under way. -/
  delay : Nat
  /-- How long a loop is busy with one thing. -/
  work : Nat
  /-- How long a timer that is due waits for its loop. -/
  slack : Nat
  /-- How far the wall clock gets ahead of the timers or falls behind them. -/
  skew : Nat

/-- Between any two times the wall clock goes on as the timers do, up to the skew. -/
structure Bounds.Clocked (b : Bounds) (clock : Nat → Int) : Prop where
  ahead : ∀ s t, s ≤ t → clock t ≤ clock s + (t - s) + b.skew
  behind : ∀ s t, s ≤ t → clock s + (t - s) ≤ clock t + b.skew

/-- The client's loop has not returned. -/
def State.Running (s : State) : Prop := ∀ r, s.client ≠ .returned r

/-- The loops get to what is due, and are not busy with one thing for too long. -/
structure Prompt (b : Bounds) (s : State) : Prop where
  check : s.Running → s.now ≤ s.checkDue + b.slack
  deadline : s.server = .waiting → s.now ≤ s.deadline + b.slack
  server : ∀ since, s.server = .sending since ∨ s.server = .working since → s.now ≤ since + b.work

/-- In addition, `Ping` and `Pong` are sent and arrive in time. -/
structure Timely (b : Bounds) (s : State) : Prop extends Prompt b s where
  beat : s.Running → s.now ≤ s.beatDue + b.slack
  client : ∀ since, s.client = .sending since → s.now ≤ since + b.work
  pings : ∀ sent ∈ s.pings, s.now ≤ sent + b.delay
  pongs : ∀ sent ∈ s.pongs, s.now ≤ sent + b.delay

/-- `last_pong` is what the wall clock has shown when the last `Pong` was read. -/
def Stamped (clock : Nat → Int) (s : State) : Prop :=
  s.lastPong = timestamp clock s.pongAt ∧ s.pongAt ≤ s.now

theorem Stamped.step {c : Settings} {clock : Nat → Int} {ok : Bool} {s t : State}
    (h : Stamped clock s) (hstep : Step c clock s ok t) : Stamped clock t := by
  obtain ⟨hlast, hat⟩ := h
  cases hstep with
  | tick d => exact ⟨hlast, Nat.le_trans hat (Nat.le_add_right _ _)⟩
  | pong => exact ⟨rfl, Nat.le_refl _⟩
  | _ => exact ⟨hlast, hat⟩

/-! ## No false alarm -/

section Alarm

variable {c : Settings} {b : Bounds} {clock : Nat → Int} {limit : Nat} {s t : State}

/-- By then the server will have a `Ping`. -/
def PingBy (b : Bounds) (s : State) (limit : Nat) : Prop :=
  s.beatDue + b.slack + b.work + b.delay ≤ limit ∨
  (∃ since, s.client = .sending since ∧ since + b.work + b.delay ≤ limit) ∨
  ∃ sent ∈ s.pings, sent + b.delay ≤ limit

/-- By then the client will have a `Pong`. -/
def PongBy (b : Bounds) (s : State) (limit : Nat) : Prop :=
  (∃ first, PingBy b s first ∧ first + b.work + b.delay ≤ limit) ∨
  (∃ since, s.server = .sending since ∧ since + b.work + b.delay ≤ limit) ∨
  ∃ sent ∈ s.pongs, sent + b.delay ≤ limit

theorem PingBy.now_le (h : PingBy b s limit) (htimely : Timely b s) (hrunning : s.Running) :
    s.now ≤ limit := by
  rcases h with hbeat | ⟨since, hsince, hle⟩ | ⟨sent, hsent, hle⟩
  · have := htimely.beat hrunning
    omega
  · have := htimely.client since hsince
    omega
  · exact Nat.le_trans (htimely.pings sent hsent) hle

theorem PongBy.now_le (h : PongBy b s limit) (htimely : Timely b s) (hrunning : s.Running) :
    s.now ≤ limit := by
  rcases h with ⟨first, hping, hle⟩ | ⟨since, hsince, hle⟩ | ⟨sent, hsent, hle⟩
  · have := hping.now_le htimely hrunning
    omega
  · have := htimely.server since (.inl hsince)
    omega
  · exact Nat.le_trans (htimely.pongs sent hsent) hle

/-- A `Ping` on its way stays so until the server gets it. -/
theorem PingBy.step (h : PingBy b s limit) (htimely : Timely b s) (hrunning : s.Running)
    (hstep : Step c clock s true t) :
    PingBy b t limit ∨ t.server = .sending s.now ∧ t.deadline = s.now + c.serverTimeout ∧
      t.beatDue = s.beatDue := by
  have hidle : (∀ since, s.client ≠ .sending since) →
      s.beatDue + b.slack + b.work + b.delay ≤ limit ∨
        ∃ sent ∈ s.pings, sent + b.delay ≤ limit := by
    intro hclient
    rcases h with hbeat | ⟨since, hsince, -⟩ | hsent
    · exact .inl hbeat
    · exact absurd hsince (hclient since)
    · exact .inr hsent
  cases hstep with
  | tick | check | pong | ponged | message | serves | served | expire => exact .inl h
  | giveUp hclient | works hclient | worked hclient =>
      exact .inl ((hidle (by simp [hclient])).imp_right .inr)
  | beat hclient =>
      have := htimely.beat hrunning
      rcases hidle (by simp [hclient]) with hbeat | hsent
      · exact .inl (.inr (.inl ⟨s.now, rfl, by omega⟩))
      · exact .inl (.inr (.inr hsent))
  | pinged =>
      rcases h with hbeat | ⟨since, hsince, hle⟩ | ⟨sent, hsent, hle⟩
      · exact .inl (.inl hbeat)
      · have := htimely.client since hsince
        exact .inl (.inr (.inr ⟨s.now, by simp, by omega⟩))
      · exact .inl (.inr (.inr ⟨sent, by simp [hsent], hle⟩))
  | ping => exact .inr ⟨rfl, rfl, rfl⟩

/-- What is on its way to a `Pong` stays so until the client gets one. -/
theorem PongBy.step (h : PongBy b s limit) (htimely : Timely b s) (hrunning : s.Running)
    (hstep : Step c clock s true t) :
    PongBy b t limit ∨ t.lastPong = timestamp clock s.now ∧ t.pongAt = s.now ∧ t.now = s.now ∧
      t.beatDue = s.beatDue := by
  rcases h with ⟨first, hping, hle⟩ | ⟨since, hsince, hle⟩ | ⟨sent, hsent, hle⟩
  · have hnow := hping.now_le htimely hrunning
    rcases hping.step htimely hrunning hstep with hping | ⟨hserver, -⟩
    · exact .inl (.inl ⟨first, hping, hle⟩)
    · exact .inl (.inr (.inl ⟨s.now, hserver, by omega⟩))
  · have := htimely.server since (.inl hsince)
    cases hstep with
    | ping hserver | message hserver | serves hserver | served hserver | expire hserver =>
        exact absurd (hserver.symm.trans hsince) nofun
    | ponged => exact .inl (.inr (.inr ⟨s.now, by simp, by omega⟩))
    | _ => exact .inl (.inr (.inl ⟨since, hsince, hle⟩))
  · cases hstep with
    | pong => exact .inr ⟨rfl, rfl, rfl, rfl⟩
    | ponged => exact .inl (.inr (.inr ⟨sent, by simp [hsent], hle⟩))
    | _ => exact .inl (.inr (.inr ⟨sent, hsent, hle⟩))

/-- Both loops run, and each will hear from the other in time. -/
structure Alive (c : Settings) (b : Bounds) (clock : Nat → Int) (s : State) : Prop where
  client : s.Running
  server : ∀ r, s.server ≠ .returned r
  beat : s.beatDue ≤ s.now + c.interval
  ping : ∃ limit < s.deadline, PingBy b s limit
  last : Stamped clock s
  pong : ∃ limit, limit + b.skew ≤ s.pongAt + 1000 * c.timeout.toNat ∧ PongBy b s limit

/-- The settings leave time for a round trip. -/
structure Suits (c : Settings) (b : Bounds) : Prop where
  fits : c.timeout.toNat < 1 <<< 63
  client : c.interval + b.slack + 2 * (b.work + b.delay) + b.skew ≤ 1000 * c.timeout.toNat
  server : c.interval + b.slack + b.work + b.delay < c.serverTimeout

/-- The last `Pong` is not too old for a check. -/
theorem fresh (hsuits : Suits c b) (hclock : b.Clocked clock) {heard now : Nat}
    (hheard : heard ≤ now) (h : now + b.skew ≤ heard + 1000 * c.timeout.toNat) :
    timestamp clock now - timestamp clock heard ≤ asI64 c.timeout := by
  have hahead := hclock.ahead heard now hheard
  have hfits := hsuits.fits
  simp only [timestamp, asI64, if_pos hfits]
  omega

/-- Both loops will hear from each other after the next beat. -/
theorem Alive.nextPing (h : Alive c b clock s) (hsuits : Suits c b)
    (hdeadline : t.deadline = s.now + c.serverTimeout) (hdue : t.beatDue = s.beatDue) :
    ∃ limit < t.deadline, PingBy b t limit := by
  have hbeat := h.beat
  have hserver := hsuits.server
  exact ⟨_, by omega, .inl (Nat.le_refl _)⟩

theorem Alive.nextPong (h : Alive c b clock s) (hsuits : Suits c b) (hat : t.pongAt = s.now)
    (hdue : t.beatDue = s.beatDue) :
    ∃ limit, limit + b.skew ≤ t.pongAt + 1000 * c.timeout.toNat ∧ PongBy b t limit := by
  have hbeat := h.beat
  have hclient := hsuits.client
  exact ⟨_, by omega, .inl ⟨_, .inl (Nat.le_refl _), Nat.le_refl _⟩⟩

theorem Alive.step (hsuits : Suits c b) (hclock : b.Clocked clock) (h : Alive c b clock s)
    (htimely : Timely b s) (hstep : Step c clock s true t) : Alive c b clock t := by
  obtain ⟨limit, hlimit, hping⟩ := h.ping
  obtain ⟨hlast, hat⟩ := h.last
  obtain ⟨limit', hlimit', hpong⟩ := h.pong
  have hpingNow := hping.now_le htimely h.client
  have hpongNow := hpong.now_le htimely h.client
  have hping := hping.step htimely h.client hstep
  have hpong := hpong.step htimely h.client hstep
  constructor
  case client =>
    cases hstep with
    | giveUp _ _ hstale =>
        rw [hlast] at hstale
        exact absurd (fresh hsuits hclock hat (by omega)) (Int.not_le.mpr hstale)
    | beat | pinged | works | worked => exact nofun
    | _ => exact h.client
  case server =>
    cases hstep with
    | expire _ hdue => omega
    | ping | ponged | message | serves | served => exact nofun
    | _ => exact h.server
  case beat =>
    cases hstep with
    | tick d => exact Nat.le_trans h.beat (Nat.add_le_add_right (Nat.le_add_right _ _) _)
    | beat _ hdue => exact hdue.2.2
    | _ => exact h.beat
  case ping =>
    rcases hping with hping | ⟨-, hdeadline, hdue⟩
    · cases hstep with
      | ping | message => exact h.nextPing hsuits rfl rfl
      | _ => exact ⟨limit, hlimit, hping⟩
    · exact h.nextPing hsuits hdeadline hdue
  case last => exact h.last.step hstep
  case pong =>
    rcases hpong with hpong | ⟨-, hat', -, hdue⟩
    · cases hstep with
      | pong => exact h.nextPong hsuits rfl rfl
      | _ => exact ⟨limit', hlimit', hpong⟩
    · exact h.nextPong hsuits hat' hdue

end Alarm

/-- Within the bounds, if the start-up leaves time for the first round trip, and as long as
nothing fails: whatever the loops do and in whatever order, neither end gives the other up. -/
theorem no_false_alarm {c : Settings} {b : Bounds} {clock : Nat → Int} {setup heard : Nat}
    {s : State} (hsuits : Suits c b) (hclock : b.Clocked clock)
    (hclient : setup + b.slack + 2 * (b.work + b.delay) + b.skew ≤ 1000 * c.timeout.toNat)
    (hserver : setup + b.slack + b.work + b.delay < heard + c.serverTimeout)
    (hrun : ReflTransGen (fun s t ↦ Timely b s ∧ Step c clock s true t)
      (start c clock setup heard) s) :
    s.Running ∧ ∀ r, s.server ≠ .returned r := by
  have halive : Alive c b clock s := by
    induction hrun with
    | refl =>
        refine ⟨nofun, nofun, Nat.le_add_right _ _, ⟨_, hserver, .inl (Nat.le_refl _)⟩,
          ⟨rfl, Nat.zero_le _⟩, _, ?_, .inl ⟨_, .inl (Nat.le_refl _), Nat.le_refl _⟩⟩
        dsimp only [start]
        omega
    | tail _ hnext ih => exact ih.step hsuits hclock hnext.1 hnext.2
  exact ⟨halive.client, halive.server⟩

/-- The settings when nothing is configured, and bounds that suit them. -/
def defaults : Settings := ⟨30, 90, 90⟩

def bounds : Bounds := ⟨10000, 5000, 10000, 2000⟩

/-- A wall clock that is set ahead by a second at some time. -/
def leaping (now : Nat) : Int := if now < 1100 then 1700000000000 + now else 1700000001000 + now

theorem clocked_leaping : bounds.Clocked leaping := by
  constructor
  all_goals
    intro s t hle
    simp only [leaping, bounds]
    split <;> split <;> omega

/-- In the first five seconds nothing can be late. -/
theorem timely_of_le {s : State} (h : s.now ≤ 5000) : Timely bounds s := by
  refine ⟨⟨?_, ?_, ?_⟩, ?_, ?_, ?_, ?_⟩
  all_goals
    intros
    simp only [bounds]
    omega

/-- The start-up takes a second.  A `Ping` is answered, and the age of the `Pong` checked. -/
theorem no_false_alarm_defaults :
    ∃ s, ReflTransGen (fun s t ↦ Timely bounds s ∧ Step defaults leaping s true t)
        (start defaults leaping 1000 500) s ∧
      s.pongAt = 1200 ∧ s.checkDue = 6200 ∧ s.Running ∧ ∀ r, s.server ≠ .returned r := by
  have h : ∀ {s t u : State}, s.now ≤ 5000 → Step defaults leaping s true t →
      ReflTransGen (fun s t ↦ Timely bounds s ∧ Step defaults leaping s true t) t u →
      ReflTransGen (fun s t ↦ Timely bounds s ∧ Step defaults leaping s true t) s u :=
    fun hnow hstep hrest ↦ .head ⟨timely_of_le hnow, hstep⟩ hrest
  have hrun := h (by decide) (@Step.beat _ _ (start defaults leaping 1000 500) 31000 rfl
      ⟨Nat.le_refl _, Nat.le_refl _, Nat.le_refl _⟩) <|
    h (by decide) (.pinged rfl) <| h (by decide) (.tick 100) <| h (by decide) (.ping rfl rfl) <|
    h (by decide) (.ponged rfl) <| h (by decide) (.tick 100) <| h (by decide) (.pong rfl rfl) <|
    h (by decide) (@Step.check _ _ _ 6200 rfl (by decide) (by decide)) .refl
  exact ⟨_, hrun, rfl, rfl, no_false_alarm ⟨by decide, by decide, by decide⟩ clocked_leaping
    (by decide) (by decide) hrun⟩

/-! ## A dead peer -/

/-- The client has checked, and the server has begun what it does, not long ago. -/
structure Watched (c : Settings) (b : Bounds) (clock : Nat → Int) (s : State) : Prop where
  last : Stamped clock s
  client : s.Running → ∃ checked ≤ s.now, s.checkDue ≤ checked + 5000 ∧
    checked ≤ s.pongAt + 1000 * c.timeout.toNat + 1000 + b.skew
  server : ∀ since, s.server = .sending since ∨ s.server = .working since →
    since ≤ s.deadline + b.slack

theorem asI64_le (n : UInt64) : asI64 n ≤ n.toNat := by
  unfold asI64
  split <;> omega

/-- A `Pong` that passes a check is not much older than the timeout. -/
theorem le_of_fresh {c : Settings} {b : Bounds} {clock : Nat → Int} (hclock : b.Clocked clock)
    {heard now : Nat} (hheard : heard ≤ now)
    (h : timestamp clock now - timestamp clock heard ≤ asI64 c.timeout) :
    now ≤ heard + 1000 * c.timeout.toNat + 1000 + b.skew := by
  have hbehind := hclock.behind heard now hheard
  have hle := asI64_le c.timeout
  simp only [timestamp] at h
  omega

theorem Watched.step {c : Settings} {b : Bounds} {clock : Nat → Int} {ok : Bool} {s t : State}
    (hclock : b.Clocked clock) (h : Watched c b clock s) (hprompt : Prompt b s)
    (hstep : Step c clock s ok t) : Watched c b clock t := by
  obtain ⟨hlast, hat⟩ := h.last
  constructor
  case last => exact h.last.step hstep
  case client =>
    intro hrunning
    cases hstep with
    | tick d =>
        obtain ⟨checked, hle, hrest⟩ := h.client hrunning
        exact ⟨checked, Nat.le_trans hle (Nat.le_add_right _ _), hrest⟩
    | check _ hdue hfresh =>
        rw [hlast] at hfresh
        exact ⟨s.now, Nat.le_refl _, hdue.2.2, le_of_fresh hclock hat hfresh⟩
    | giveUp | fails => exact absurd rfl (hrunning _)
    | pong =>
        obtain ⟨checked, hle, hdue, -⟩ := h.client hrunning
        exact ⟨checked, hle, hdue, Nat.le_trans hle (by dsimp only; omega)⟩
    | beat hclient | pinged hclient | works hclient | worked hclient =>
        exact h.client (by simp [State.Running, hclient])
    | _ => exact h.client hrunning
  case server =>
    intro since hsince
    cases hstep with
    | ping | message =>
        rcases hsince with heq | heq <;> cases heq
        dsimp only
        omega
    | serves hserver =>
        rcases hsince with heq | heq <;> cases heq
        exact hprompt.deadline hserver
    | ponged | pongFails | served | expire | leaves =>
        rcases hsince with heq | heq <;> cases heq
    | _ => exact h.server since hsince

end Arp.EndToEnd.Heartbeat
