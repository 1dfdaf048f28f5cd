/-
What a movement reports that begins anew from time to time, against one that never does.

* `reports` lists what a movement reports over the steps of a session, each time just before it
  begins anew, be it by itself, in a list, or in a list that is logged as well.
* `Advanced` says that a movement is on the same counter as before and that its baseline has gone on
  by an amount; amounts add up (`Advanced.trans`). Over any steps the amount is the sum of the
  reports (`exists_advanced_afterAll`), whatever the steps do to the counter.
* `change_eq_total_reports_add_change` says that the reports and what the movement reports in the
  end come to what the other one, begun with it, reports at once.
-/

import StoreBench.Proofs.Metrics.Batches

namespace StoreBench.Session

variable {s : Session} {step : Step} {steps : List Step} {id : String} {m n : Movement}

/-! ### Reports -/

/-- How far the movement with the name has come, if there is one. -/
def change? (s : Session) (id : String) : Option Int64 :=
  (s.movement? id).map (Movement.change s.registries)

/-- The names of the movements that the step lets begin anew, in order. -/
def Step.resets : Step → List String
  | .reset id => [id]
  | .resetAll ids => ids
  | .logThenReset ids => ids
  | _ => []

/-- What the movement reports each time that its turn comes to begin anew in the list of names, just
before it does. -/
def reportsIn (id : String) (s : Session) : List String → List Int64
  | [] => []
  | name :: names =>
    (if name = id then (s.change? id).toList else []) ++ reportsIn id (s.reset name) names

/-- What the movement reports over the steps, each time just before it begins anew. -/
def reports (id : String) (s : Session) : List Step → List Int64
  | [] => []
  | step :: steps => reportsIn id s step.resets ++ reports id (s.after step) steps

/-- The sum of the reports, which does not wrap. -/
def total (reports : List Int64) : Int :=
  (reports.map Int64.toInt).sum

theorem total_append (first second : List Int64) :
    total (first ++ second) = total first + total second := by
  simp [total]

@[simp] theorem total_singleton (report : Int64) : total [report] = report.toInt := by
  simp [total]

/-! ### Baselines that go on -/

/-- The second movement is on the counter of the first, and its baseline has gone on by the
amount. -/
structure Advanced (m n : Movement) (amount : Int) : Prop where
  counter : (n.registry, n.statistic) = (m.registry, m.statistic)
  starting : n.starting = m.starting + Int64.ofInt amount

theorem Advanced.refl (m : Movement) : Advanced m m 0 :=
  ⟨rfl, by simp⟩

theorem Advanced.trans {p : Movement} {a b : Int} (first : Advanced m n a)
    (second : Advanced n p b) : Advanced m p (a + b) := by
  refine ⟨second.counter.trans first.counter, ?_⟩
  rw [second.starting, first.starting, Int64.ofInt_add, Int64.add_assoc]

/-- A movement that begins anew goes on by what it reports. -/
theorem advanced_reset (r : Registries) (m : Movement) :
    Advanced m (m.reset r) (m.change r).toInt := by
  refine ⟨rfl, ?_⟩
  rw [Int64.ofInt_toInt, Movement.change, Movement.starting_reset, Int64.add_comm,
    Int64.sub_add_cancel]

theorem exists_advanced_reset (found : s.movement? id = some m) (name : String) :
    ∃ n, (s.reset name).movement? id = some n ∧
      Advanced m n (total (if name = id then (s.change? id).toList else [])) := by
  rw [movement?_reset, change?, found]
  split
  · refine ⟨m.reset s.registries, rfl, ?_⟩
    simpa using advanced_reset s.registries m
  · exact ⟨m, rfl, .refl m⟩

theorem exists_advanced_resetAll (found : s.movement? id = some m) (names : List String) :
    ∃ n, (s.resetAll names).movement? id = some n ∧
      Advanced m n (total (reportsIn id s names)) := by
  induction names generalizing s m with
  | nil => exact ⟨m, found, .refl m⟩
  | cons name names ih =>
      obtain ⟨p, there, first⟩ := exists_advanced_reset found name
      obtain ⟨n, behind, others⟩ := ih there
      refine ⟨n, behind, ?_⟩
      rw [reportsIn, total_append]
      exact first.trans others

/-- Unless a step watches under the name, all that it does to the movement is to let it begin anew,
as often as it lists the name. -/
theorem movement?_after_of_not_watches (h : ¬ step.Watches id) (s : Session) :
    (s.after step).movement? id = (s.resetAll step.resets).movement? id := by
  cases step with
  | watch name registry statistic =>
      have other : name ≠ id := by
        rintro rfl
        exact h .watch
      exact (movement?_watch s name registry statistic id).trans (if_neg other)
  | logThenReset ids =>
      rw [after_logThenReset]
      rfl
  | _ => rfl

/-- Over steps that do not watch under its name anew, a movement goes on by all that it reports. -/
theorem exists_advanced_afterAll (never : ∀ step ∈ steps, ¬ step.Watches id)
    (found : s.movement? id = some m) :
    ∃ n, (s.afterAll steps).movement? id = some n ∧
      Advanced m n (total (reports id s steps)) := by
  induction steps generalizing s m with
  | nil => exact ⟨m, found, .refl m⟩
  | cons step steps ih =>
      obtain ⟨idle, never⟩ := List.forall_mem_cons.mp never
      obtain ⟨p, there, first⟩ := exists_advanced_resetAll found step.resets
      rw [← movement?_after_of_not_watches idle] at there
      obtain ⟨n, behind, others⟩ := ih never there
      refine ⟨n, behind, ?_⟩
      rw [reports, total_append]
      exact first.trans others

/-! ### Movements begun together -/

/-- The two names have movements on one counter, with the same baseline. -/
structure Twins (s : Session) (whole part : String) (m n : Movement) : Prop where
  whole : s.movement? whole = some m
  part : s.movement? part = some n
  registry : n.registry = m.registry
  symbol : n.statistic.symbol = m.statistic.symbol
  starting : n.starting = m.starting

/-- The steps begin to watch one counter under two names, either first, with nothing between. -/
inductive BeginTogether (whole part registry symbol : String) : List Step → Prop
  | wholeFirst {a b : Statistic} : a.symbol = symbol → b.symbol = symbol →
    BeginTogether whole part registry symbol [.watch whole registry a, .watch part registry b]
  | partFirst {a b : Statistic} : a.symbol = symbol → b.symbol = symbol →
    BeginTogether whole part registry symbol [.watch part registry b, .watch whole registry a]

section Together

variable {whole part registry symbol : String} {start : List Step}

theorem exists_twins (apart : whole ≠ part)
    (together : BeginTogether whole part registry symbol start) (s : Session) :
    ∃ m n, (s.afterAll start).Twins whole part m n := by
  have begun : ∃ a b : Statistic, b.symbol = a.symbol ∧
      (s.afterAll start).movement? whole = some (.start s.registries registry a) ∧
      (s.afterAll start).movement? part = some (.start s.registries registry b) := by
    cases together with
    | @wholeFirst a b first second =>
        refine ⟨a, b, second.trans first.symm, ?_⟩
        change ((s.watch whole registry a).watch part registry b).movement? whole = _ ∧
          ((s.watch whole registry a).watch part registry b).movement? part = _
        simp [apart.symm]
    | @partFirst a b first second =>
        refine ⟨a, b, second.trans first.symm, ?_⟩
        change ((s.watch part registry b).watch whole registry a).movement? whole = _ ∧
          ((s.watch part registry b).watch whole registry a).movement? part = _
        simp [apart]
  obtain ⟨a, b, same, whole_found, part_found⟩ := begun
  exact ⟨_, _, whole_found, part_found, rfl, same, Counters.value_congr same _⟩

/-- Of twins the one that never begins anew has come as far as the other one reported and reports
now, at sixty-four bits. -/
theorem change_of_twins (twins : s.Twins whole part m n)
    (never : ∀ step ∈ steps, ¬ step.Begins whole) (kept : ∀ step ∈ steps, ¬ step.Watches part) :
    ∃ p, (s.afterAll steps).movement? whole = some m ∧
      (s.afterAll steps).movement? part = some p ∧
      m.change (s.afterAll steps).registries =
        Int64.ofInt (total (reports part s steps)) + p.change (s.afterAll steps).registries := by
  obtain ⟨p, behind, advanced⟩ := exists_advanced_afterAll kept twins.part
  refine ⟨p, (movement?_afterAll_of_not_begins never s).trans twins.whole, behind, ?_⟩
  obtain ⟨registry, statistic⟩ := Prod.mk.inj advanced.counter
  have current : p.current (s.afterAll steps).registries =
      m.current (s.afterAll steps).registries := by
    rw [Movement.current, registry, statistic, twins.registry]
    exact Counters.value_congr twins.symbol _
  have starting := advanced.starting
  rw [twins.starting] at starting
  rw [Movement.change, Movement.change, current, starting]
  grind

/-- Of two movements begun together on one counter, let one never begin anew, and the other as often
and in whatever way, while the counter is added to and set at will. Then the first has come as far
as the other one reported in all, each time just before it began anew and once more now, but for
whole turns of sixty-four bits. -/
theorem change_eq_total_reports_add_change (apart : whole ≠ part)
    (together : BeginTogether whole part registry symbol start)
    (never : ∀ step ∈ steps, ¬ step.Begins whole) (kept : ∀ step ∈ steps, ¬ step.Watches part)
    (s : Session) :
    ∃ m n, (s.afterAll (start ++ steps)).movement? whole = some m ∧
      (s.afterAll (start ++ steps)).movement? part = some n ∧
      (m.change (s.afterAll (start ++ steps)).registries).toInt =
        (total (reports part (s.afterAll start) steps) +
          (n.change (s.afterAll (start ++ steps)).registries).toInt).bmod Int64.size := by
  obtain ⟨m, n, twins⟩ := exists_twins apart together s
  obtain ⟨p, same, behind, sum⟩ := change_of_twins twins never kept
  rw [afterAll_append]
  refine ⟨m, p, same, behind, ?_⟩
  have wrapped : m.change ((s.afterAll start).afterAll steps).registries =
      Int64.ofInt (total (reports part (s.afterAll start) steps) +
        (p.change ((s.afterAll start).afterAll steps).registries).toInt) := by
    rw [sum, Int64.ofInt_add, Int64.ofInt_toInt]
  rw [wrapped, Int64.toInt_ofInt]

end Together

/-- Two movements begin on one counter, which they name by different descriptions. -/
def begun : List Step :=
  [.watch "whole" "main" (.named "reads"), .watch "parts" "main" ⟨"reads", "by range"⟩]

/-- The counter jumps to one end of its range and from there to the other, and one of the movements
begins anew behind each jump. -/
def jumps : List Step :=
  [.set "main" (.named "reads") Int64.maxValue, .reset "parts",
    .set "main" ⟨"reads", "in all"⟩ Int64.minValue, .logThenReset ["other", "parts"],
    .add "main" (.named "reads") 5]

/-- The reports come to more than a counter can hold, and wrapped they are how far the movement has
come that never begins anew. -/
theorem jumps_add_up :
    "whole" ≠ "parts" ∧ BeginTogether "whole" "parts" "main" "reads" begun ∧
      (∀ step ∈ jumps, ¬ step.Begins "whole") ∧ (∀ step ∈ jumps, ¬ step.Watches "parts") ∧
      reports "parts" (empty.afterAll begun) jumps = [Int64.maxValue, 1] ∧
      ∃ m n, (empty.afterAll (begun ++ jumps)).movement? "whole" = some m ∧
        (empty.afterAll (begun ++ jumps)).movement? "parts" = some n ∧
        (m.change (empty.afterAll (begun ++ jumps)).registries).toInt =
          (total [Int64.maxValue, 1] +
            (n.change (empty.afterAll (begun ++ jumps)).registries).toInt).bmod Int64.size := by
  have apart : "whole" ≠ "parts" := by decide
  have together : BeginTogether "whole" "parts" "main" "reads" begun := .wholeFirst rfl rfl
  have never : ∀ step ∈ jumps, ¬ step.Begins "whole" := by
    intro step member begins
    cases begins <;> simp_all [jumps]
  have kept : ∀ step ∈ jumps, ¬ step.Watches "parts" := by
    intro step member watches
    cases watches
    simp [jumps] at member
  have reported : reports "parts" (empty.afterAll begun) jumps = [Int64.maxValue, 1] := by
    decide +kernel
  have sum := change_eq_total_reports_add_change apart together never kept empty
  rw [reported] at sum
  exact ⟨apart, together, never, kept, reported, sum⟩

end StoreBench.Session
