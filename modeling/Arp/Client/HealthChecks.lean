import Arp.Client.Registration
import Arp.Client.WorkConns
import Mathlib.Data.List.Chain

/-!
# Health checks over time

`check_health` keeps three numbers: when it last decided to probe the local endpoint, how many
probes have failed in a row, and whether the endpoint is taken to be healthy.  What they are for
is said here in terms of the probes themselves: the endpoint is healthy as long as fewer probes
than the threshold have failed since the last successful one.

Calls are made one after another, at any instants and with any outcome of the probes.  The
counter is a `u32` and wraps around; by then the endpoint has long been unhealthy and stays so.
-/

namespace Arp.Client.HealthChecks

open Arp.Common

/-- A probe of the local endpoint: the instant at which `check_health` was called, and whether
the probe succeeded. -/
structure Probe where
  instant : Nat
  ok : Bool
deriving DecidableEq, Repr

/-- How many probes have failed since the last successful one, or since the first. -/
def failedSince (probes : List Probe) : Nat := (probes.reverse.takeWhile fun q ↦ !q.ok).length

theorem failedSince_success (probes : List Probe) (now : Nat) :
    failedSince (probes ++ [⟨now, true⟩]) = 0 := by
  simp [failedSince]

theorem failedSince_failure (probes : List Probe) (now : Nat) :
    failedSince (probes ++ [⟨now, false⟩]) = failedSince probes + 1 := by
  simp [failedSince]

/-- The interval lies between two probes. -/
def Apart (config : ProxyConfig) (q q' : Probe) : Prop :=
  q.instant + (max config.healthCheck.intervalSeconds 5).toNat * second ≤ q'.instant

/-- A proxy with the probes made so far, and what the last call of `check_health` returned. -/
structure Watched where
  proxy : TcpProxy
  probes : List Probe
  result : Result Unit

namespace Watched

/-- A proxy that was just made. -/
def new (config : ProxyConfig) (now : Nat) : Watched := ⟨.new config now, [], .ok ()⟩

/-- A call of `check_health`; `ok` is the outcome of the probe, if there is one. -/
def call (w : Watched) (now : Nat) (ok : Bool) : Watched where
  proxy := { w.proxy with health := (w.proxy.checkHealth now ok).2 }
  probes := if (w.proxy.beginCheck now).isNone then w.probes ++ [⟨now, ok⟩] else w.probes
  result := (w.proxy.checkHealth now ok).1

/-- Calls one after another. -/
def calls (w : Watched) (cs : List (Nat × Bool)) : Watched :=
  cs.foldl (fun w c ↦ w.call c.1 c.2) w

/-- The flag, the result and the probes after a call, in terms of the probes. -/
structure Sound (config : ProxyConfig) (w : Watched) : Prop where
  healthy : w.proxy.health.healthy = false ↔
    (max config.healthCheck.maxFailed 1).toNat ≤ failedSince w.probes
  result : w.result.isOk = false ↔ w.proxy.health.healthy = false
  apart : w.probes.IsChain (Apart config)

/-- All that a proxy knows follows from its probes. -/
structure Follows (config : ProxyConfig) (created : Nat) (w : Watched) : Prop where
  proxy : w.proxy = { TcpProxy.new config created with health := w.proxy.health }
  lastCheck : ∀ q ∈ w.probes.getLast?, w.proxy.health.lastCheck = q.instant
  failed : w.proxy.health.failed = UInt32.ofNat (failedSince w.probes)
  healthy : w.proxy.health.healthy =
    decide (failedSince w.probes < (max config.healthCheck.maxFailed 1).toNat)
  result : w.result.isOk = w.proxy.health.healthy
  apart : w.probes.IsChain (Apart config)

variable {config : ProxyConfig} {created : Nat} {w : Watched}

theorem Follows.sound (h : Follows config created w) : Sound config w where
  healthy := by rw [h.healthy, decide_eq_false_iff_not, not_lt]
  result := by rw [h.result]
  apart := h.apart

theorem maxFailed_pos (config : ProxyConfig) :
    0 < (max config.healthCheck.maxFailed 1).toNat := by
  rw [UInt32.toNat_max]
  exact Nat.lt_of_lt_of_le Nat.one_pos (Nat.le_max_right _ _)

theorem follows_new (config : ProxyConfig) (created : Nat) :
    Follows config created (new config created) where
  proxy := rfl
  lastCheck q hq := by cases hq
  failed := rfl
  healthy := (decide_eq_true (maxFailed_pos config)).symm
  result := rfl
  apart := .nil

/-- What a call does: it returns what is known, or probes. -/
inductive Calls (w : Watched) (now : Nat) : Bool → Watched → Prop
  | known (ok : Bool) (e : Error)
      (hearly : now - w.proxy.health.lastCheck < w.proxy.healthCheckInterval.toNat * second) :
      Calls w now ok
        { w with result := if w.proxy.health.healthy then .ok () else .error e }
  | succeeds (hdue : w.proxy.healthCheckInterval.toNat * second ≤ now - w.proxy.health.lastCheck) :
      Calls w now true
        ⟨{ w.proxy with health := ⟨now, 0, true⟩ }, w.probes ++ [⟨now, true⟩], .ok ()⟩
  | fails (healthy : Bool) (e : Error)
      (hdue : w.proxy.healthCheckInterval.toNat * second ≤ now - w.proxy.health.lastCheck)
      (hhealthy : healthy = if w.proxy.health.failed + 1 ≥ w.proxy.healthCheckMaxFailed then false
        else w.proxy.health.healthy) :
      Calls w now false
        ⟨{ w.proxy with health := ⟨now, w.proxy.health.failed + 1, healthy⟩ },
          w.probes ++ [⟨now, false⟩], if healthy then .ok () else .error e⟩

theorem calls_of_call (henable : w.proxy.healthCheckEnable = true) (now : Nat) (ok : Bool) :
    Calls w now ok (w.call now ok) := by
  have hon : ¬(!w.proxy.healthCheckEnable) = true := by simp [henable]
  by_cases hearly : now - w.proxy.health.lastCheck < w.proxy.healthCheckInterval.toNat * second
  · rw [call, TcpProxy.checkHealth, if_neg hon, if_pos hearly, TcpProxy.beginCheck, if_neg hon,
      if_pos hearly]
    exact .known ok _ hearly
  · rw [call, TcpProxy.checkHealth, if_neg hon, if_neg hearly, TcpProxy.beginCheck, if_neg hon,
      if_neg hearly]
    cases ok with
    | true => exact .succeeds (not_lt.mp hearly)
    | false => exact .fails _ _ (not_lt.mp hearly) rfl

/-- A probe is made only when the interval has passed since the last one. -/
theorem Follows.apart_concat (h : Follows config created w) {now : Nat} (ok : Bool)
    (hdue : w.proxy.healthCheckInterval.toNat * second ≤ now - w.proxy.health.lastCheck) :
    List.IsChain (Apart config) (w.probes ++ [⟨now, ok⟩]) := by
  refine h.apart.append (.singleton _) fun q hq q' hq' ↦ ?_
  obtain rfl := Option.some.inj hq'
  rw [h.proxy, h.lastCheck q hq] at hdue
  have hpos : 0 < (max config.healthCheck.intervalSeconds 5).toNat * second := by
    refine Nat.mul_pos ?_ (by decide)
    rw [UInt64.toNat_max]
    exact Nat.lt_of_lt_of_le (by decide : 0 < (5 : UInt64).toNat) (Nat.le_max_right _ _)
  change (max config.healthCheck.intervalSeconds 5).toNat * second ≤ now - q.instant at hdue
  show q.instant + _ ≤ now
  omega

/-- Below the threshold the counter has not wrapped around. -/
theorem le_counter_iff {failures : Nat} {maxFailed : UInt32} (h : failures < maxFailed.toNat) :
    maxFailed ≤ UInt32.ofNat failures + 1 ↔ maxFailed.toNat ≤ failures + 1 := by
  have hlt := maxFailed.toNat_lt
  have hone : (1 : UInt32).toNat = 1 := rfl
  rw [UInt32.le_iff_toNat_le, UInt32.toNat_add, UInt32.toNat_ofNat', hone,
    Nat.mod_eq_of_lt (by omega : failures < 2 ^ 32), Nat.mod_eq_of_lt (by omega)]

/-- The counter reaches the threshold exactly when the failures do, however it wraps around
afterwards. -/
theorem healthy_after_failure {failures : Nat} {maxFailed : UInt32} :
    (if UInt32.ofNat failures + 1 ≥ maxFailed then false
      else decide (failures < maxFailed.toNat)) = decide (failures + 1 < maxFailed.toNat) := by
  by_cases hbelow : failures + 1 < maxFailed.toNat
  · have hjust : failures < maxFailed.toNat := Nat.lt_of_succ_lt hbelow
    have hcounter : ¬UInt32.ofNat failures + 1 ≥ maxFailed := fun hcounter ↦
      hbelow.not_ge ((le_counter_iff hjust).mp hcounter)
    rw [if_neg hcounter, decide_eq_true hbelow, decide_eq_true hjust]
  · rw [decide_eq_false hbelow]
    split
    · rfl
    · next hcounter =>
        exact decide_eq_false fun hjust ↦
          hcounter ((le_counter_iff hjust).mpr (not_lt.mp hbelow))

theorem follows_call (henable : config.healthCheck.enable = true) (h : Follows config created w)
    (now : Nat) (ok : Bool) : Follows config created (w.call now ok) := by
  have henabled : w.proxy.healthCheckEnable = true := by
    rw [h.proxy]
    exact henable
  have hmax : w.proxy.healthCheckMaxFailed = max config.healthCheck.maxFailed 1 := by
    rw [h.proxy]
    rfl
  have hcalls := calls_of_call henabled now ok
  generalize w.call now ok = w' at hcalls
  cases hcalls with
  | known _ e hearly =>
      refine ⟨h.proxy, h.lastCheck, h.failed, h.healthy, ?_, h.apart⟩
      cases w.proxy.health.healthy <;> rfl
  | succeeds hdue =>
      refine ⟨?_, ?_, ?_, ?_, rfl, h.apart_concat true hdue⟩
      · rw [h.proxy]
      · intro q hq
        rw [List.getLast?_concat] at hq
        exact Option.some.inj hq ▸ rfl
      · rw [failedSince_success]
        rfl
      · rw [failedSince_success]
        exact (decide_eq_true (maxFailed_pos config)).symm
  | fails healthy e hdue hhealthy =>
      refine ⟨?_, ?_, ?_, ?_, ?_, h.apart_concat false hdue⟩
      · rw [h.proxy]
      · intro q hq
        rw [List.getLast?_concat] at hq
        exact Option.some.inj hq ▸ rfl
      · rw [failedSince_failure, UInt32.ofNat_add, ← h.failed]
        rfl
      · rw [failedSince_failure]
        show healthy = _
        rw [hhealthy, hmax, h.healthy, h.failed, healthy_after_failure]
      · cases healthy <;> rfl

/-- After every one of any calls, at any instants and with any outcome of the probes: the
endpoint is unhealthy exactly if as many probes as the threshold have failed since the last
success, the call returns an error exactly if it is, and no two probes are closer together than
the interval. -/
theorem sound_calls (henable : config.healthCheck.enable = true) (created : Nat)
    (cs : List (Nat × Bool)) : Sound config ((new config created).calls cs) := by
  suffices hfollows : ∀ w, Follows config created w → Follows config created (w.calls cs) from
    (hfollows _ (follows_new config created)).sound
  induction cs with
  | nil => exact fun w h ↦ h
  | cons c cs ih => exact fun w h ↦ ih _ (follows_call henable h c.1 c.2)

/-- An endpoint that is given up after two failures, called six times. -/
theorem sound_flaky : ∃ w,
    (new { Registration.tcpProxy "web" 6001 with healthCheck := ⟨true, 2, 2, 5⟩ }
      (4000 * second)).calls [(4001 * second, false), (4003 * second, true),
        (4006 * second, false), (4008 * second, true), (4011 * second, true),
        (4016 * second, false)] = w ∧
    w.probes.map Probe.ok = [false, false, true, false] ∧ w.proxy.health.healthy = true ∧
    Sound { Registration.tcpProxy "web" 6001 with healthCheck := ⟨true, 2, 2, 5⟩ } w :=
  ⟨_, rfl, by decide, by decide, sound_calls rfl _ _⟩

end Watched

end Arp.Client.HealthChecks
