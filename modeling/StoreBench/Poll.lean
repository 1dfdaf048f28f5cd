/-
Polling: a probe is asked until it succeeds, fails for good, or the time is up. The deadline is
fixed at the beginning and only looked at behind the sleep that follows an attempt, so there is
always a first attempt and the last failure is at hand when the time is up. `eventually` runs on a
clock that moves only while somebody sleeps and ticks in milliseconds, so that a sleep ends with a
tick; `pollWith` can be interrupted during its sleeps and reads the time from a clock that is given.
A span too long for any point in time is no deadline. What a poll comes to holds how often the probe
was called; its ending tells the same number as 32 bits count it, which wrap.
-/

import StoreBench.Poll.Probe

namespace StoreBench.Poll

variable {α ε : Type}

/-- The sleep behind an attempt that is worth another one. -/
def interval : Duration := .ofMilliseconds 500

/-- The point in time at which a poll that begins at zero must have succeeded, if there is one. -/
def deadline? (timeout : Duration) : Option Nat :=
  if timeout.isRepresentable then some timeout.nanoseconds else none

def isOver (deadline? : Option Nat) (now : Nat) : Bool :=
  deadline?.any (· ≤ now)

/-! ### The counter -/

/-- The counter of attempts behind so many calls of the probe: each adds one to it. It has 32 bits
and wraps, as in a build that does not check for overflow. -/
def counted : Nat → UInt32
  | 0 => 0
  | calls + 1 => counted calls + 1

theorem toNat_counted (calls : Nat) : (counted calls).toNat = calls % UInt32.size := by
  induction calls with
  | zero => rfl
  | succ calls ih =>
      rw [counted, UInt32.toNat_add, ih]
      exact Nat.mod_add_mod calls UInt32.size 1

/-- The clock ticks in milliseconds: nanoseconds between two ticks. -/
def tick : Nat := (Duration.ofMilliseconds 1).nanoseconds

/-- When a sleep ends that begins at a point in time: with the first tick at or behind its span. All
that is used of the timer is that it is not early (`le_wake`), that it ends sleeps with a tick
(`tick_dvd_wake`) and that it is exact between ticks (`wake_of_tick`). -/
def wake (now : Nat) (span : Duration) : Nat :=
  (now + span.nanoseconds + (tick - 1)) / tick * tick

/-- A sleep ends with a tick. -/
theorem tick_dvd_wake (now : Nat) (span : Duration) : tick ∣ wake now span :=
  Nat.dvd_mul_left _ _

/-- A sleep over whole milliseconds that begins at a tick is exact. -/
theorem wake_of_tick (ticks span : Nat) :
    wake (ticks * tick) (.ofMilliseconds span) = (ticks + span) * tick := by
  simp only [wake, tick, Duration.ofMilliseconds]
  omega

/-- A sleep of no length that begins with a tick is over at once. -/
theorem wake_zero {now : Nat} (h : tick ∣ now) : wake now ⟨0⟩ = now := by
  obtain ⟨ticks, rfl⟩ := h
  rw [Nat.mul_comm]
  exact wake_of_tick ticks 0

/-! ### Polling on a clock that moves while sleeping -/

structure Run (α ε : Type) where
  ending : Ending α ε
  /-- How often the probe was called. -/
  calls : Nat
  /-- Nanoseconds since the beginning. -/
  clock : Nat
deriving Repr, DecidableEq

/-- Goes on after `calls` attempts at the time `clock` with a probe that makes the attempts of the
list and then fails for good. -/
def eventuallyFrom (exhausted : ε) (deadline? : Option Nat) (calls clock : Nat) :
    List (Attempt α ε) → Run α ε
  | [] => ⟨.fatal exhausted, calls + 1, clock⟩
  | attempt :: rest =>
    let answered := wake clock attempt.delay
    match attempt.outcome with
    | .success value => ⟨.success value, calls + 1, answered⟩
    | .fatal failure => ⟨.fatal failure, calls + 1, answered⟩
    | .retryable failure =>
      let now := wake answered interval
      if isOver deadline? now then
        ⟨.timeout (counted (calls + 1)) ⟨now⟩ failure, calls + 1, now⟩
      else eventuallyFrom exhausted deadline? (calls + 1) now rest

/-- Polls with a timeout, beginning at time zero. -/
def eventually (exhausted : ε) (timeout : Duration) (attempts : List (Attempt α ε)) : Run α ε :=
  eventuallyFrom exhausted (deadline? timeout) 0 0 attempts

/-! ### Polling that can be interrupted -/

/-- Goes on after `calls` attempts, the interrupter being raised or not. The clock tells the time
behind the sleep of each attempt, counted from one. -/
def pollFrom (exhausted : ε) (deadline? : Option Nat) (clock : Nat → Nat) (calls : Nat)
    (raised : Bool) : List (Attempt α ε) → Ending α ε × Nat
  | [] => (.fatal exhausted, calls + 1)
  | attempt :: rest =>
    let raised := raised || attempt.interrupts
    match attempt.outcome with
    | .success value => (.success value, calls + 1)
    | .fatal failure => (.fatal failure, calls + 1)
    | .retryable failure =>
      let now := clock (calls + 1)
      if raised then (.interrupted (counted (calls + 1)), calls + 1)
      else if isOver deadline? now then
        (.timeout (counted (calls + 1)) ⟨now⟩ failure, calls + 1)
      else pollFrom exhausted deadline? clock (calls + 1) raised rest

/-- Polls with a timeout and an interrupter, which may be raised from the beginning. The answer
holds how often the probe was asked. -/
def pollWith (exhausted : ε) (timeout : Duration) (clock : Nat → Nat) (raised : Bool)
    (attempts : List (Attempt α ε)) : Ending α ε × Nat :=
  pollFrom exhausted (deadline? timeout) clock 0 raised attempts

/-- Polls with a timeout and an interrupter that nobody else holds. -/
def poll (exhausted : ε) (timeout : Duration) (clock : Nat → Nat)
    (attempts : List (Attempt α ε)) : Ending α ε × Nat :=
  pollWith exhausted timeout clock false
    (attempts.map fun attempt => { attempt with interrupts := false })

/-- The clock of a poll whose attempts take no time and whose sleeps are exact. -/
def exactClock (n : Nat) : Nat := n * interval.nanoseconds

end StoreBench.Poll
