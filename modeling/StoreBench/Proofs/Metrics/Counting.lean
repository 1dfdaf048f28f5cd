/-
What counters come to over the steps of a session.

* `Step.Counts`, `Step.Sets` and `Step.gain` say of a step what it does to one counter. Steps that
  do not count leave all registries alone (`registries_after_of_not_counts`).
* `value_afterAll_of_not_sets` says what a run of steps that does not set a counter adds to it: the
  sum of what its steps add, at sixty-four bits.
* `Tally` is the value that a run leaves at a counter that begins at zero: what it was last set to
  and all that was added behind that. `tally_iff` says that the counter has that value at the end of
  a run if no addition on the way leads out of sixty-four bits.
-/

import Mathlib.Data.List.Induction
import StoreBench.Metrics.Session
import StoreBench.Proofs.Text.Numeral

namespace StoreBench.Session

variable {s : Session} {step : Step} {steps : List Step} {registry symbol : String}
  {statistic : Statistic}

/-! ### What a step does to a counter -/

/-- The step counts with the counter of the symbol in the registry, whatever the description of the
statistic that it names. -/
inductive Step.Counts (registry symbol : String) : Step → Prop
  | increment {statistic : Statistic} :
    statistic.symbol = symbol → Counts registry symbol (.increment registry statistic)
  | add {statistic : Statistic} {delta : Int64} :
    statistic.symbol = symbol → Counts registry symbol (.add registry statistic delta)
  | set {statistic : Statistic} {n : Int64} :
    statistic.symbol = symbol → Counts registry symbol (.set registry statistic n)

/-- The step sets the counter. -/
inductive Step.Sets (registry symbol : String) : Step → Prop
  | set {statistic : Statistic} {n : Int64} :
    statistic.symbol = symbol → Sets registry symbol (.set registry statistic n)

/-- What the step adds to the counter. -/
def Step.gain (registry symbol : String) : Step → Int
  | .increment name t => if name = registry ∧ t.symbol = symbol then 1 else 0
  | .add name t delta => if name = registry ∧ t.symbol = symbol then delta.toInt else 0
  | _ => 0

/-- What the steps add to the counter. -/
def gained (registry symbol : String) : List Step → Int
  | [] => 0
  | step :: steps => step.gain registry symbol + gained registry symbol steps

theorem Step.Sets.counts (h : step.Sets registry symbol) : step.Counts registry symbol := by
  cases h with
  | set same => exact .set same

theorem Step.gain_of_not_counts (h : ¬ step.Counts registry symbol) :
    step.gain registry symbol = 0 := by
  cases step with
  | increment name t =>
      refine if_neg ?_
      rintro ⟨rfl, same⟩
      exact h (.increment same)
  | add name t delta =>
      refine if_neg ?_
      rintro ⟨rfl, same⟩
      exact h (.add same)
  | _ => rfl

/-- A step that counts with no counter leaves all registries as they are. -/
theorem registries_after_of_not_counts (h : ∀ registry symbol, ¬ step.Counts registry symbol)
    (s : Session) : (s.after step).registries = s.registries := by
  cases step with
  | increment name t => exact absurd (.increment rfl) (h name t.symbol)
  | add name t delta => exact absurd (.add rfl) (h name t.symbol)
  | set name t n => exact absurd (.set rfl) (h name t.symbol)
  | reset id => exact registries_reset s id
  | resetAll ids => exact registries_resetAll s ids
  | logThenReset ids =>
      change (s.logThenReset ids).1.registries = s.registries
      rw [fst_logThenReset, registries_resetAll]
  | _ => rfl

/-- A step that does not set a counter adds to it, and often nothing. -/
theorem value_after_of_not_sets (h : ¬ step.Sets registry statistic.symbol) (s : Session) :
    (s.after step).value registry statistic =
      s.value registry statistic + Int64.ofInt (step.gain registry statistic.symbol) := by
  by_cases counts : ∃ name symbol, step.Counts name symbol
  · obtain ⟨name, symbol, counts⟩ := counts
    cases counts with
    | @increment t =>
        change (s.add name t 1).value registry statistic = _
        rw [value_add, Step.gain]
        split <;> simp
    | @add t delta =>
        change (s.add name t delta).value registry statistic = _
        rw [value_add, Step.gain]
        split <;> simp
    | @set t n =>
        have elsewhere : ¬ (name = registry ∧ t.symbol = statistic.symbol) := by
          rintro ⟨rfl, same⟩
          exact h (.set same)
        change (s.set name t n).value registry statistic =
          s.value registry statistic + Int64.ofInt 0
        rw [value_set, if_neg elsewhere]
        simp
  · have none_counts : ∀ name symbol, ¬ step.Counts name symbol := fun name symbol counting =>
      counts ⟨name, symbol, counting⟩
    rw [Step.gain_of_not_counts (none_counts _ _)]
    simp [value, registries_after_of_not_counts none_counts s]

/-- A step that does not count with a counter leaves its value. -/
theorem value_after_of_not_counts (h : ¬ step.Counts registry statistic.symbol) (s : Session) :
    (s.after step).value registry statistic = s.value registry statistic := by
  rw [value_after_of_not_sets (mt Step.Sets.counts h), Step.gain_of_not_counts h]
  simp

theorem value_after_of_sets {t : Statistic} (same : t.symbol = statistic.symbol) (n : Int64)
    (s : Session) : (s.after (.set registry t n)).value registry statistic = n := by
  change (s.set registry t n).value registry statistic = n
  rw [value_set, if_pos ⟨rfl, same⟩]

/-! ### What a run adds to a counter -/

theorem afterAll_append (s : Session) (first second : List Step) :
    s.afterAll (first ++ second) = (s.afterAll first).afterAll second :=
  List.foldl_append

theorem afterAll_append_cons (s : Session) (before after : List Step) (step : Step) :
    s.afterAll (before ++ step :: after) = ((s.afterAll before).after step).afterAll after :=
  afterAll_append s before (step :: after)

/-- A run that does not set a counter adds to it what its steps add, at sixty-four bits. -/
theorem value_afterAll_of_not_sets (never : ∀ step ∈ steps, ¬ step.Sets registry statistic.symbol)
    (s : Session) :
    (s.afterAll steps).value registry statistic =
      s.value registry statistic + Int64.ofInt (gained registry statistic.symbol steps) := by
  induction steps generalizing s with
  | nil => simp [afterAll, gained]
  | cons step steps ih =>
      have first := value_after_of_not_sets (never step List.mem_cons_self) s
      have others := ih (fun later member => never later (List.mem_cons_of_mem step member))
        (s.after step)
      calc (s.afterAll (step :: steps)).value registry statistic
          = (s.after step).value registry statistic +
              Int64.ofInt (gained registry statistic.symbol steps) := others
        _ = s.value registry statistic +
              Int64.ofInt (gained registry statistic.symbol (step :: steps)) := by
            rw [first, gained, Int64.ofInt_add, Int64.add_assoc]

/-! ### Runs that stay within sixty-four bits -/

/-- The step adds nothing that leads out of sixty-four bits. -/
def Step.fits (s : Session) : Step → Bool
  | .increment registry statistic => Text.fitsInt64 ((s.value registry statistic).toInt + 1)
  | .add registry statistic delta =>
    Text.fitsInt64 ((s.value registry statistic).toInt + delta.toInt)
  | _ => true

/-- No step of the run adds something that leads out of sixty-four bits. -/
def fits (s : Session) : List Step → Bool
  | [] => true
  | step :: steps => step.fits s && (s.after step).fits steps

theorem fits_append (s : Session) (first second : List Step) :
    s.fits (first ++ second) = (s.fits first && (s.afterAll first).fits second) := by
  induction first generalizing s with
  | nil => simp [fits, afterAll]
  | cons step first ih => simp [fits, afterAll, ih, Bool.and_assoc]

/-- A sum that fits sixty-four bits is not wrapped. -/
theorem toInt_add_ofInt {a : Int64} {n : Int} (h : Text.fitsInt64 (a.toInt + n) = true) :
    (a + Int64.ofInt n).toInt = a.toInt + n := by
  have sum : a + Int64.ofInt n = Int64.ofInt (a.toInt + n) := by
    rw [Int64.ofInt_add, Int64.ofInt_toInt]
  rw [sum, Text.toInt_ofInt_of_fitsInt64 h]

/-- What a step of such a run adds to a counter keeps the counter within sixty-four bits. -/
theorem fitsInt64_gain (fit : step.fits s = true) (registry : String) (statistic : Statistic) :
    Text.fitsInt64 ((s.value registry statistic).toInt + step.gain registry statistic.symbol) =
      true := by
  by_cases counts : step.Counts registry statistic.symbol
  · cases counts with
    | @increment t same =>
        have here : s.value registry t = s.value registry statistic :=
          Counters.value_congr same _
        simpa [Step.gain, same, Step.fits, here] using fit
    | @add t delta same =>
        have here : s.value registry t = s.value registry statistic :=
          Counters.value_congr same _
        simpa [Step.gain, same, Step.fits, here] using fit
    | set same => simpa [Step.gain] using Text.fitsInt64_toInt (s.value registry statistic)
  · rw [Step.gain_of_not_counts counts, Int.add_zero]
    exact Text.fitsInt64_toInt _

/-- A run that stays within sixty-four bits and does not set a counter adds to it exactly what its
steps add. -/
theorem toInt_value_afterAll_of_not_sets (fit : s.fits steps = true)
    (never : ∀ step ∈ steps, ¬ step.Sets registry statistic.symbol) :
    ((s.afterAll steps).value registry statistic).toInt =
      (s.value registry statistic).toInt + gained registry statistic.symbol steps := by
  induction steps generalizing s with
  | nil => simp [afterAll, gained]
  | cons step steps ih =>
      obtain ⟨fit_first, fit_others⟩ := Bool.and_eq_true_iff.mp fit
      have first := value_after_of_not_sets (never step List.mem_cons_self) s
      have others := ih fit_others fun later member =>
        never later (List.mem_cons_of_mem step member)
      calc ((s.afterAll (step :: steps)).value registry statistic).toInt
          = ((s.after step).value registry statistic).toInt +
              gained registry statistic.symbol steps := others
        _ = (s.value registry statistic).toInt + step.gain registry statistic.symbol +
              gained registry statistic.symbol steps := by
            rw [first, toInt_add_ofInt (fitsInt64_gain fit_first registry statistic)]
        _ = (s.value registry statistic).toInt +
              gained registry statistic.symbol (step :: steps) := by
            rw [gained, Int.add_assoc]

/-! ### The value of a counter -/

/-- In every list there is a last element with a property, unless none has it. -/
theorem exists_last_or_forall_not {α : Type} (P : α → Prop) (l : List α) :
    (∀ a ∈ l, ¬ P a) ∨ ∃ before a after, l = before ++ a :: after ∧ P a ∧ ∀ b ∈ after, ¬ P b := by
  induction l using List.reverseRecOn with
  | nil => exact .inl (by simp)
  | append_singleton l last ih =>
      by_cases holds : P last
      · exact .inr ⟨l, last, [], rfl, holds, by simp⟩
      · rcases ih with never | ⟨before, a, after, rfl, found, later⟩
        · refine .inl fun a member => ?_
          rcases List.mem_append.mp member with member | member
          · exact never a member
          · rwa [List.mem_singleton.mp member]
        · refine .inr ⟨before, a, after ++ [last], by simp, found, fun b member => ?_⟩
          rcases List.mem_append.mp member with member | member
          · exact later b member
          · rwa [List.mem_singleton.mp member]

/-- The steps leave the number at the counter, which begins at zero: nothing sets it and all is
added, or it is set and all that follows is added to that. -/
inductive Tally (registry symbol : String) : List Step → Int → Prop
  | added {steps : List Step} :
    (∀ step ∈ steps, ¬ step.Sets registry symbol) →
      Tally registry symbol steps (gained registry symbol steps)
  | set {before after : List Step} {statistic : Statistic} {n : Int64} :
    statistic.symbol = symbol → (∀ step ∈ after, ¬ step.Sets registry symbol) →
      Tally registry symbol (before ++ .set registry statistic n :: after)
        (n.toInt + gained registry symbol after)

theorem exists_tally (registry symbol : String) (steps : List Step) :
    ∃ n, Tally registry symbol steps n := by
  rcases exists_last_or_forall_not (Step.Sets registry symbol) steps with
    never | ⟨before, _, after, rfl, ⟨same⟩, later⟩
  · exact ⟨_, .added never⟩
  · exact ⟨_, .set same later⟩

theorem toInt_value_of_tally {n : Int} (fit : empty.fits steps = true)
    (tally : Tally registry statistic.symbol steps n) :
    ((empty.afterAll steps).value registry statistic).toInt = n := by
  cases tally with
  | added never =>
      rw [toInt_value_afterAll_of_not_sets fit never, value_empty]
      simp
  | @set before after t n same later =>
      rw [fits_append] at fit
      obtain ⟨-, fit⟩ := Bool.and_eq_true_iff.mp fit
      obtain ⟨-, fit⟩ := Bool.and_eq_true_iff.mp fit
      rw [afterAll_append_cons, toInt_value_afterAll_of_not_sets fit later,
        value_after_of_sets same]

/-- Behind a run that stays within sixty-four bits the value of a counter is its tally. -/
theorem tally_iff {n : Int} (fit : empty.fits steps = true) :
    Tally registry statistic.symbol steps n ↔
      ((empty.afterAll steps).value registry statistic).toInt = n := by
  refine ⟨toInt_value_of_tally fit, ?_⟩
  rintro rfl
  obtain ⟨n, tally⟩ := exists_tally registry statistic.symbol steps
  rw [toInt_value_of_tally fit tally]
  exact tally

end StoreBench.Session
