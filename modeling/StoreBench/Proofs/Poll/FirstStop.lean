/-
The calls of a probe that makes the attempts of a list, and the first of them at which a poll stops.
Both ways of polling ask the probe, look at what came of the call and either stop or go on, so both
are runs of one shape: `exists_first_stop` says where such a run stops and with what, from what a
single round does.
-/

import Mathlib.Data.Nat.Find
import Mathlib.Order.Bounds.Defs
import StoreBench.Poll

namespace StoreBench.Poll

variable {α ε : Type}

/-! ### Calls -/

/-- What the call with the number `k` meets, calls being counted from one. Behind the end of the
list a call fails for good and takes no time. -/
def call (exhausted : ε) (attempts : List (Attempt α ε)) (k : Nat) : Attempt α ε :=
  attempts[k - 1]?.getD ⟨.fatal exhausted, ⟨0⟩, false⟩

/-- The attempts not made before the call with the number `k + 1` are this one and the others. -/
theorem drop_eq_call_cons (exhausted : ε) {attempts : List (Attempt α ε)} {k : Nat}
    (h : k < attempts.length) :
    attempts.drop k = call exhausted attempts (k + 1) :: attempts.drop (k + 1) := by
  rw [List.drop_eq_getElem_cons h]
  simp [call, h]

theorem call_of_length_le (exhausted : ε) {attempts : List (Attempt α ε)} {k : Nat}
    (h : attempts.length ≤ k) :
    call exhausted attempts (k + 1) = ⟨.fatal exhausted, ⟨0⟩, false⟩ := by
  simp [call, List.getElem?_eq_none h]

/-- Only a call inside the list is worth another one. -/
theorem lt_length_of_retryable {exhausted failure : ε} {attempts : List (Attempt α ε)} {k : Nat}
    (h : (call exhausted attempts (k + 1)).outcome = .retryable failure) :
    k < attempts.length := by
  by_contra outside
  rw [call_of_length_le exhausted (Nat.le_of_not_lt outside)] at h
  cases h

/-! ### The deadline -/

theorem isOver_deadline?_iff {timeout : Duration} {now : Nat} :
    isOver (deadline? timeout) now = true ↔
      timeout.isRepresentable = true ∧ timeout.nanoseconds ≤ now := by
  unfold deadline?
  split
  · rename_i representable
    simp [isOver, representable]
  · rename_i unbounded
    simp [isOver, unbounded]

theorem isOver_deadline?_eq_false_iff {timeout : Duration} {now : Nat} :
    isOver (deadline? timeout) now = false ↔
      (timeout.isRepresentable = true → now < timeout.nanoseconds) := by
  rw [Bool.eq_false_iff, ne_eq, isOver_deadline?_iff, not_and, Nat.not_le]

/-! ### Where a run stops -/

/-- A run that goes on behind `k` calls as behind `k + 1` unless the call in between stops it comes
unchanged to the first call that does. -/
theorem eq_of_no_stop {β : Type} {resumed : Nat → β} {P : Nat → Prop}
    (goes_on : ∀ k, ¬ P (k + 1) → resumed k = resumed (k + 1)) {k : Nat}
    (none_before : ∀ j, 1 ≤ j → j ≤ k → ¬ P j) : resumed 0 = resumed k := by
  induction k with
  | zero => rfl
  | succ k ih =>
      have before : resumed 0 = resumed k :=
        ih fun j hj hjk => none_before j hj (Nat.le_succ_of_le hjk)
      rw [before]
      exact goes_on k (none_before (k + 1) (Nat.le_add_left 1 k) (Nat.le_refl _))

/-- A run ends at the first call that stops it, with what that call comes to. `resumed k` is what
comes of the run when `k` calls are behind it, and `Ends k` holds of what comes of a run that stops
at the call `k`. -/
theorem exists_first_stop {β : Type} (resumed : Nat → β) {Ends : Nat → β → Prop}
    (goes_on : ∀ k, (¬ ∃ result, Ends (k + 1) result) → resumed k = resumed (k + 1))
    (ends : ∀ k result, Ends (k + 1) result → resumed k = result)
    {n : Nat} (stops : ∃ result, Ends (n + 1) result) :
    ∃ k, IsLeast {k | 1 ≤ k ∧ ∃ result, Ends k result} k ∧ k ≤ n + 1 ∧ Ends k (resumed 0) := by
  classical
  have exists_stop : ∃ k, 1 ≤ k ∧ ∃ result, Ends k result := ⟨n + 1, Nat.le_add_left 1 n, stops⟩
  have least : IsLeast {k | 1 ≤ k ∧ ∃ result, Ends k result} (Nat.find exists_stop) :=
    ⟨Nat.find_spec exists_stop, fun j hj => Nat.find_min' exists_stop hj⟩
  refine ⟨Nat.find exists_stop, least, least.2 ⟨Nat.le_add_left 1 n, stops⟩, ?_⟩
  obtain ⟨positive, result, hresult⟩ := least.1
  obtain ⟨k, hk⟩ : ∃ k, Nat.find exists_stop = k + 1 := ⟨_, (Nat.sub_add_cancel positive).symm⟩
  rw [hk] at least hresult ⊢
  -- No call up to `k` stops the run, so it comes to the round of the stopping call as it began.
  have reached : resumed 0 = resumed k := by
    refine eq_of_no_stop (P := fun j => ∃ result, Ends j result) goes_on fun j hj hjk hstop => ?_
    exact absurd (least.2 ⟨hj, hstop⟩) (by omega)
  rw [reached, ends k result hresult]
  exact hresult

end StoreBench.Poll
