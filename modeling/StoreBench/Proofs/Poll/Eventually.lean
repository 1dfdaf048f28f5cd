/-
Polling on a clock that moves only while somebody sleeps. `clockAfter` reads the clock behind each
call's delay and the sleep that follows it, and `Stops` says when a call ends the poll and what it
then comes to. `eventually_ends_at_first_stop` says that the poll ends at the first such call, that the
probe is called as often as that and no more, and that no call but the first begins at or behind the
deadline. The poll counts its calls without a bound; what its ending tells of them has 32 bits.
-/

import StoreBench.Proofs.Poll.FirstStop

namespace StoreBench.Poll

variable {α ε : Type}

/-! ### The clock -/

/-- The clock behind the call with the number `k` and the sleep that follows it, if every call so
far is followed by a sleep. -/
def clockAfter (exhausted : ε) (attempts : List (Attempt α ε)) : Nat → Nat
  | 0 => 0
  | k + 1 =>
    wake (wake (clockAfter exhausted attempts k) (call exhausted attempts (k + 1)).delay) interval

/-- The clock when the call with the number `k` is answered: its delay is over and no sleep has
followed it. -/
def answeredAt (exhausted : ε) (attempts : List (Attempt α ε)) (k : Nat) : Nat :=
  wake (clockAfter exhausted attempts (k - 1)) (call exhausted attempts k).delay

theorem tick_dvd_clockAfter (exhausted : ε) (attempts : List (Attempt α ε)) (k : Nat) :
    tick ∣ clockAfter exhausted attempts k := by
  cases k with
  | zero => exact Nat.dvd_zero _
  | succ k => exact tick_dvd_wake _ _

/-- Behind the end of the list a call is answered when it begins. -/
theorem answeredAt_of_length_le (exhausted : ε) {attempts : List (Attempt α ε)} {k : Nat}
    (h : attempts.length ≤ k) :
    answeredAt exhausted attempts (k + 1) = clockAfter exhausted attempts k := by
  rw [answeredAt, call_of_length_le exhausted h]
  exact wake_zero (tick_dvd_clockAfter exhausted attempts k)

/-! ### The calls that stop a poll -/

/-- The call with the number `k` stops a poll, which then comes to the run: the call succeeds, or it
fails for good, or it is worth another one but the time is up behind the sleep that follows it. A
timeout too long for any point in time is never up. -/
inductive Stops (exhausted : ε) (timeout : Duration) (attempts : List (Attempt α ε)) (k : Nat) :
    Run α ε → Prop
  | success {value : α} :
    (call exhausted attempts k).outcome = .success value →
      Stops exhausted timeout attempts k
        ⟨.success value, k, answeredAt exhausted attempts k⟩
  | fatal {failure : ε} :
    (call exhausted attempts k).outcome = .fatal failure →
      Stops exhausted timeout attempts k
        ⟨.fatal failure, k, answeredAt exhausted attempts k⟩
  | timeout {failure : ε} :
    (call exhausted attempts k).outcome = .retryable failure →
      timeout.isRepresentable = true →
      timeout.nanoseconds ≤ clockAfter exhausted attempts k →
      Stops exhausted timeout attempts k
        ⟨.timeout (counted k) ⟨clockAfter exhausted attempts k⟩ failure, k,
          clockAfter exhausted attempts k⟩

section Rounds

variable {exhausted : ε} {timeout : Duration} {attempts : List (Attempt α ε)}

/-- A poll that runs out of time tells how many calls there were, as 32 bits count them. -/
theorem Stops.toNat_attempts {k : Nat} {run : Run α ε}
    (h : Stops exhausted timeout attempts k run) {n : UInt32}
    (told : run.ending.attempts? = some n) : n.toNat = k % UInt32.size := by
  cases h with
  | success => cases told
  | fatal => cases told
  | timeout =>
      cases told
      exact toNat_counted k

theorem exists_stops_behind_end :
    ∃ run, Stops exhausted timeout attempts (attempts.length + 1) run :=
  ⟨_, .fatal (by rw [call_of_length_le exhausted (Nat.le_refl _)])⟩

/-- A call that stops nothing is worth another one, and behind it the time is not up. -/
theorem of_not_stops {k : Nat} (h : ¬ ∃ run, Stops exhausted timeout attempts k run) :
    (∃ failure, (call exhausted attempts k).outcome = .retryable failure) ∧
      (timeout.isRepresentable = true →
        clockAfter exhausted attempts k < timeout.nanoseconds) := by
  cases outcome : (call exhausted attempts k).outcome with
  | success value => exact absurd ⟨_, .success outcome⟩ h
  | fatal failure => exact absurd ⟨_, .fatal outcome⟩ h
  | retryable failure =>
      refine ⟨⟨failure, rfl⟩, fun representable => ?_⟩
      by_contra late
      exact h ⟨_, .timeout outcome representable (Nat.le_of_not_lt late)⟩

/-! ### Rounds -/

/-- A round that stops the poll ends it. -/
theorem eventuallyFrom_of_stops {k : Nat} {run : Run α ε}
    (h : Stops exhausted timeout attempts (k + 1) run) :
    eventuallyFrom exhausted (deadline? timeout) k (clockAfter exhausted attempts k)
      (attempts.drop k) = run := by
  by_cases inside : k < attempts.length
  · rw [drop_eq_call_cons exhausted inside, eventuallyFrom, ← clockAfter]
    cases h with
    | success outcome => simp [outcome, answeredAt]
    | fatal outcome => simp [outcome, answeredAt]
    | timeout outcome representable late =>
        simp [outcome, isOver_deadline?_iff.mpr ⟨representable, late⟩]
  · have behind : attempts.length ≤ k := Nat.le_of_not_lt inside
    rw [List.drop_eq_nil_of_le behind]
    cases h with
    | success outcome => simp [call_of_length_le exhausted behind] at outcome
    | timeout outcome => simp [call_of_length_le exhausted behind] at outcome
    | fatal outcome =>
        simp only [call_of_length_le exhausted behind, Outcome.fatal.injEq] at outcome
        subst outcome
        rw [eventuallyFrom, answeredAt_of_length_le exhausted behind]

/-- A round that does not stop the poll leads to the next one. -/
theorem eventuallyFrom_of_not_stops {k : Nat}
    (h : ¬ ∃ run, Stops exhausted timeout attempts (k + 1) run) :
    eventuallyFrom exhausted (deadline? timeout) k (clockAfter exhausted attempts k)
        (attempts.drop k) =
      eventuallyFrom exhausted (deadline? timeout) (k + 1) (clockAfter exhausted attempts (k + 1))
        (attempts.drop (k + 1)) := by
  obtain ⟨⟨failure, outcome⟩, early⟩ := of_not_stops h
  have inside := lt_length_of_retryable outcome
  have time_left := isOver_deadline?_eq_false_iff.mpr early
  rw [drop_eq_call_cons exhausted inside, eventuallyFrom, ← clockAfter]
  simp [outcome, time_left]

end Rounds

/-! ### Runs -/

/-- A poll ends at the first call that stops it, after exactly so many calls, and the list of
attempts bounds their number. If the time is up, the ending tells that number, as far as 32 bits
count. Before the last call every one is worth another, and the deadline, if there is one, is still
ahead when the next begins. -/
theorem eventually_ends_at_first_stop (exhausted : ε) (timeout : Duration)
    (attempts : List (Attempt α ε)) :
    ∃ k, IsLeast {k | 1 ≤ k ∧ ∃ run, Stops exhausted timeout attempts k run} k ∧
      k ≤ attempts.length + 1 ∧
      Stops exhausted timeout attempts k (eventually exhausted timeout attempts) ∧
      (∀ n, (eventually exhausted timeout attempts).ending.attempts? = some n →
        n.toNat = k % UInt32.size) ∧
      ∀ j, 1 ≤ j → j < k →
        (∃ failure, (call exhausted attempts j).outcome = .retryable failure) ∧
        (timeout.isRepresentable = true →
          clockAfter exhausted attempts j < timeout.nanoseconds) := by
  obtain ⟨k, least, bound, ends⟩ := exists_first_stop
    (fun k => eventuallyFrom exhausted (deadline? timeout) k (clockAfter exhausted attempts k)
      (attempts.drop k))
    (fun _ => eventuallyFrom_of_not_stops) (fun _ _ => eventuallyFrom_of_stops)
    exists_stops_behind_end
  refine ⟨k, least, bound, ends, fun n told => ends.toNat_attempts told, ?_⟩
  intro j positive before
  refine of_not_stops fun stops => ?_
  exact absurd (least.2 ⟨positive, stops⟩) (Nat.not_le_of_lt before)

-- A success counts although the deadline passes during its attempt.
example : eventually "exhausted" (.ofMilliseconds 600)
    [⟨.retryable "early", ⟨0⟩, false⟩, ⟨.success "late", .ofMilliseconds 2000, false⟩] =
      ⟨.success "late", 2, 2500000000⟩ := by decide

end StoreBench.Poll
