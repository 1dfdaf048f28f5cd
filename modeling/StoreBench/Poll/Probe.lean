/-
Probes and how polling ends. A probe is asked again and again; each attempt succeeds, fails in a way
that is worth another attempt, or fails for good. `Ending` is how a poll ends: with the value of an
attempt or with the reason why none came, which may tell how many attempts there were: a number of
32 bits.
-/

import StoreBench.Poll.Duration

namespace StoreBench

/-! ### Attempts -/

inductive Outcome (α ε : Type)
  | success (value : α)
  /-- Not yet; worth another attempt. -/
  | retryable (failure : ε)
  /-- Never; no further attempt is worth it. -/
  | fatal (failure : ε)
deriving Repr, DecidableEq

def Outcome.failure? {α ε : Type} : Outcome α ε → Option ε
  | .success _ => none
  | .retryable e => some e
  | .fatal e => some e

def Outcome.isFatal? {α ε : Type} : Outcome α ε → Option Bool
  | .success _ => none
  | .retryable _ => some false
  | .fatal _ => some true

structure Attempt (α ε : Type) where
  outcome : Outcome α ε
  /-- The probe sleeps so long before it answers. -/
  delay : Duration
  /-- The probe raises the interrupter of the poll. -/
  interrupts : Bool
deriving Repr, DecidableEq

/-! ### Endings -/

/-- How a poll ends. -/
inductive Ending (α ε : Type)
  | success (value : α)
  | fatal (failure : ε)
  | interrupted (attempts : UInt32)
  /-- The time is up; `last` is the failure of the last attempt. -/
  | timeout (attempts : UInt32) (elapsed : Duration) (last : ε)
deriving Repr, DecidableEq

namespace Ending

variable {α ε : Type}

def isTimeout : Ending α ε → Bool
  | .timeout .. => true
  | _ => false

/-- The number of attempts that the ending tells. -/
def attempts? : Ending α ε → Option UInt32
  | .interrupted attempts => some attempts
  | .timeout attempts _ _ => some attempts
  | _ => none

/-- The failure of the probe that the poll ended with. -/
def cause? : Ending α ε → Option ε
  | .fatal e => some e
  | .timeout _ _ last => some last
  | _ => none

/-- Why the poll ended without success, in words; failures are shown by `text`. -/
def message (text : ε → String) : Ending α ε → String
  | .success _ => ""
  | .fatal e => "Probe failed fatally: " ++ text e
  | .interrupted attempts =>
    "Polling interrupted after " ++ Text.decimal attempts.toNat ++ " attempts"
  | .timeout attempts elapsed last =>
    "No success after " ++ Text.decimal attempts.toNat ++ " attempts in " ++ elapsed.text ++ ": "
      ++ text last

end Ending

end StoreBench
