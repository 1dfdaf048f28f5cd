/-
Polling that can be interrupted. The flag of the interrupter may be up from the beginning or be
raised by any call, and it stays up. `StopsWith` says when a call ends the poll and what it then
comes to: an answer of the probe comes before the flag, and the flag before the deadline.
`pollWith_ends_at_first_stop` says that the poll ends at the first such call and that no call follows a
sleep that was interrupted. The clock may read anything. The calls are counted without a bound; what
an ending tells of them has 32 bits.
-/

import StoreBench.Proofs.Poll.FirstStop

namespace StoreBench.Poll

variable {α ε : Type}

/-! ### The flag -/

/-- The flag is up when the call with the number `k` is answered: it was up from the beginning, or
this call or one before it raised it. -/
def RaisedBy (exhausted : ε) (raised : Bool) (attempts : List (Attempt α ε)) (k : Nat) : Prop :=
  raised = true ∨ ∃ j, 1 ≤ j ∧ j ≤ k ∧ (call exhausted attempts j).interrupts = true

/-- The call with the number `k` stops a poll, which then comes to the ending after `k` calls: the
call succeeds, or it fails for good, or it is worth another one but the flag is up, or the flag is
down but the time is up behind the sleep. -/
inductive StopsWith (exhausted : ε) (timeout : Duration) (clock : Nat → Nat) (raised : Bool)
    (attempts : List (Attempt α ε)) (k : Nat) : Ending α ε × Nat → Prop
  | success {value : α} :
    (call exhausted attempts k).outcome = .success value →
      StopsWith exhausted timeout clock raised attempts k (.success value, k)
  | fatal {failure : ε} :
    (call exhausted attempts k).outcome = .fatal failure →
      StopsWith exhausted timeout clock raised attempts k (.fatal failure, k)
  | interrupted {failure : ε} :
    (call exhausted attempts k).outcome = .retryable failure →
      RaisedBy exhausted raised attempts k →
      StopsWith exhausted timeout clock raised attempts k (.interrupted (counted k), k)
  | timeout {failure : ε} :
    (call exhausted attempts k).outcome = .retryable failure →
      ¬ RaisedBy exhausted raised attempts k →
      timeout.isRepresentable = true → timeout.nanoseconds ≤ clock k →
      StopsWith exhausted timeout clock raised attempts k (.timeout (counted k) ⟨clock k⟩ failure, k)

section Rounds

variable {exhausted : ε} {timeout : Duration} {clock : Nat → Nat} {raised : Bool}
  {attempts : List (Attempt α ε)}

/-- A poll that is interrupted or runs out of time tells how many calls there were, as 32 bits count
them. -/
theorem StopsWith.toNat_attempts {k : Nat} {result : Ending α ε × Nat}
    (h : StopsWith exhausted timeout clock raised attempts k result) {n : UInt32}
    (told : result.1.attempts? = some n) : n.toNat = k % UInt32.size := by
  cases h with
  | success => cases told
  | fatal => cases told
  | interrupted =>
      cases told
      exact toNat_counted k
  | timeout =>
      cases told
      exact toNat_counted k

end Rounds

/-! ### Runs -/

-- The flag that the first call raises counts before the deadline that its sleep reaches.
example : pollWith "exhausted" (.ofMilliseconds 500) exactClock false
    [(⟨.retryable "pending", ⟨0⟩, true⟩ : Attempt String String)] = (.interrupted 1, 1) := by decide

end StoreBench.Poll
