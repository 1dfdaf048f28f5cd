/-
Both ways of polling come to the same as long as nobody interrupts.

* `Paces` says of a clock that it tells the times at which the sleeps of a poll end. On such a clock
  the poll that can be interrupted takes the same steps as the other one
  (`pollFrom_eq_result_of_paces`), whatever the delays of its attempts.
* `polls_agree` says so of attempts that take no time: then the clock moves in the sleeps alone.
-/

import StoreBench.Proofs.Poll.Eventually

namespace StoreBench.Poll

variable {α ε : Type}

/-- How a poll ends and how often the probe is asked in it. -/
def Run.result (run : Run α ε) : Ending α ε × Nat :=
  (run.ending, run.calls)

/-! ### Clocks that tell the time of a poll -/

/-- The clock tells when the sleeps behind the attempts end, of which the first is made when `calls`
others are over. -/
def Paces (clock : Nat → Nat) : Nat → List (Attempt α ε) → Prop
  | _, [] => True
  | calls, attempt :: rest =>
    clock (calls + 1) = wake (wake (clock calls) attempt.delay) interval ∧
      Paces clock (calls + 1) rest

theorem tick_dvd_exactClock (n : Nat) : tick ∣ exactClock n :=
  Nat.dvd_mul_left_of_dvd ⟨500, rfl⟩ n

/-- A sleep that begins when another one ends is exact. -/
theorem wake_exactClock (n : Nat) : wake (exactClock n) interval = exactClock (n + 1) := by
  have exact : exactClock n = n * 500 * tick := (Nat.mul_assoc n 500 tick).symm
  rw [exact, interval, wake_of_tick]
  change (n * 500 + 500) * tick = (n + 1) * (500 * tick)
  rw [← Nat.succ_mul, Nat.mul_assoc]

/-- Where attempts take no time, only the sleeps move the clock. -/
theorem paces_exactClock {attempts : List (Attempt α ε)} (prompt : ∀ a ∈ attempts, a.delay = ⟨0⟩)
    (calls : Nat) : Paces exactClock calls attempts := by
  induction attempts generalizing calls with
  | nil => trivial
  | cons attempt rest ih =>
      refine ⟨?_, ih (fun a member => prompt a (List.mem_cons_of_mem attempt member)) (calls + 1)⟩
      rw [prompt attempt List.mem_cons_self, wake_zero (tick_dvd_exactClock calls), wake_exactClock]

/-! ### Going on in both ways -/

/-- A poll that nobody interrupts takes the steps of the one that cannot be interrupted, if its
clock tells the same time. -/
theorem pollFrom_eq_result_of_paces {clock : Nat → Nat} {attempts : List (Attempt α ε)}
    {calls : Nat} (exhausted : ε) (deadline? : Option Nat)
    (quiet : ∀ a ∈ attempts, a.interrupts = false) (paces : Paces clock calls attempts) :
    pollFrom exhausted deadline? clock calls false attempts =
      (eventuallyFrom exhausted deadline? calls (clock calls) attempts).result := by
  induction attempts generalizing calls with
  | nil => rfl
  | cons attempt rest ih =>
      obtain ⟨now, paces⟩ := paces
      have down : (false || attempt.interrupts) = false := quiet attempt List.mem_cons_self
      have others := ih (fun a member => quiet a (List.mem_cons_of_mem attempt member)) paces
      rw [pollFrom, eventuallyFrom, down, ← now]
      cases attempt.outcome with
      | success value => rfl
      | fatal failure => rfl
      | retryable failure =>
          cases late : isOver deadline? (clock (calls + 1)) with
          | true => simp [late, Run.result]
          | false => simpa [late] using others

/-- The poll that cannot be interrupted takes no notice of attempts to do so. -/
theorem eventuallyFrom_map_quiet (exhausted : ε) (deadline? : Option Nat) (calls clock : Nat)
    (attempts : List (Attempt α ε)) :
    eventuallyFrom exhausted deadline? calls clock
        (attempts.map fun attempt => { attempt with interrupts := false }) =
      eventuallyFrom exhausted deadline? calls clock attempts := by
  induction attempts generalizing calls clock with
  | nil => rfl
  | cons attempt rest ih => simp only [List.map_cons, eventuallyFrom, ih]

/-! ### Runs -/

/-- The two ways of polling agree on attempts that take no time: they ask the probe equally often
and end with the same value, the same fatal failure, or a timeout with the same attempts, the same
time and the same last failure. The interrupter is one that nobody else holds, or one that is not
raised and that no attempt raises. -/
theorem polls_agree (exhausted : ε) (timeout : Duration) {attempts : List (Attempt α ε)}
    (prompt : ∀ a ∈ attempts, a.delay = ⟨0⟩) :
    poll exhausted timeout exactClock attempts = (eventually exhausted timeout attempts).result ∧
      ((∀ a ∈ attempts, a.interrupts = false) →
        pollWith exhausted timeout exactClock false attempts =
          (eventually exhausted timeout attempts).result) := by
  constructor
  · have quiet : ∀ a ∈ attempts.map fun attempt => { attempt with interrupts := false },
        a.interrupts = false := by simp
    have prompt_quiet : ∀ a ∈ attempts.map fun attempt => { attempt with interrupts := false },
        a.delay = ⟨0⟩ := by simpa using prompt
    rw [eventually, ← eventuallyFrom_map_quiet]
    exact pollFrom_eq_result_of_paces exhausted _ quiet (paces_exactClock prompt_quiet 0)
  · intro quiet
    exact pollFrom_eq_result_of_paces exhausted _ quiet (paces_exactClock prompt 0)

/-- Attempts that take no time and of which the first two come to nothing. -/
def thirdTime : List (Attempt String String) :=
  [⟨.retryable "first", ⟨0⟩, false⟩, ⟨.retryable "second", ⟨0⟩, false⟩,
    ⟨.success "third", ⟨0⟩, false⟩]

/-- A deadline that the second sleep reaches exactly ends both polls before the third attempt. -/
theorem thirdTime_polls_agree :
    (∀ a ∈ thirdTime, a.delay = ⟨0⟩) ∧ (∀ a ∈ thirdTime, a.interrupts = false) ∧
      poll "exhausted" (.ofMilliseconds 1000) exactClock thirdTime =
        (.timeout 2 (.ofMilliseconds 1000) "second", 2) ∧
      pollWith "exhausted" (.ofMilliseconds 1000) exactClock false thirdTime =
        (.timeout 2 (.ofMilliseconds 1000) "second", 2) := by
  have prompt : ∀ a ∈ thirdTime, a.delay = ⟨0⟩ := by decide
  have quiet : ∀ a ∈ thirdTime, a.interrupts = false := by decide
  have agree := polls_agree "exhausted" (.ofMilliseconds 1000) prompt
  exact ⟨prompt, quiet, agree.1.trans (by decide), (agree.2 quiet).trans (by decide)⟩

end StoreBench.Poll
