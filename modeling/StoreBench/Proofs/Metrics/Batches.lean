/-
Lists of movements that are logged and begin anew in one pass.

* `logAll_reset_of_not_mem` says that a movement which begins anew changes no line of other
  movements, even of those on its own counter: it changes no counter, and they keep their baselines.
* `logThenReset_eq` says that logging and resetting a list of different movements in one pass is
  logging all of it and then resetting all of it.
* `logThenReset_logs_and_resets` says in full which lines there are and what becomes of the session.
-/

import Mathlib.Data.List.Basic
import StoreBench.Proofs.Metrics.Baselines

namespace StoreBench

/-! ### Movements that begin anew -/

namespace Movement

theorem starting_reset (r : Registries) (m : Movement) : (m.reset r).starting = m.current r := rfl

theorem current_reset (r : Registries) (m : Movement) : (m.reset r).current r = m.current r := rfl

theorem change_reset (r : Registries) (m : Movement) : (m.reset r).change r = 0 := by
  rw [change, current_reset, starting_reset, Int64.sub_self]

end Movement

namespace Session

variable {s : Session} {name id : String} {ids : List String} {m : Movement}

/-! ### One pass and two -/

theorem logLine?_reset_of_ne (other : name ≠ id) (s : Session) :
    (s.reset name).logLine? id = s.logLine? id := by
  rw [logLine?, registries_reset, movement?_reset, if_neg other, logLine?]

/-- The lines of a list show nothing of a movement outside the list that begins anew. -/
theorem logAll_reset_of_not_mem (outside : name ∉ ids) (s : Session) :
    (s.reset name).logAll ids = s.logAll ids := by
  refine List.filterMap_congr fun id member => logLine?_reset_of_ne ?_ s
  rintro rfl
  exact outside member

/-- Logged before it begins anew, each movement of a list is shown as it was at the start. -/
theorem snd_logThenReset (distinct : ids.Nodup) (s : Session) :
    (s.logThenReset ids).2 = s.logAll ids := by
  induction ids generalizing s with
  | nil => rfl
  | cons id ids ih =>
      obtain ⟨outside, distinct⟩ := List.nodup_cons.mp distinct
      calc (s.logThenReset (id :: ids)).2
          = (s.logLine? id).toList ++ ((s.reset id).logThenReset ids).2 := rfl
        _ = (s.logLine? id).toList ++ s.logAll ids := by
            rw [ih distinct, logAll_reset_of_not_mem outside]
        _ = s.logAll (id :: ids) := by
            rw [logAll, logAll, List.filterMap_cons]
            cases s.logLine? id <;> rfl

theorem logThenReset_eq (distinct : ids.Nodup) (s : Session) :
    s.logThenReset ids = (s.resetAll ids, s.logAll ids) :=
  Prod.ext (fst_logThenReset s ids) (snd_logThenReset distinct s)

/-! ### Lines and session -/

/-- Where all names of a list have movements, there is one line for each, in the order of the
list. -/
theorem logAll_of_movements {ms : List Movement} (found : ids.map s.movement? = ms.map some) :
    s.logAll ids = ms.map fun m => ⟨.info, m.line s.registries⟩ := by
  calc s.logAll ids
      = (ids.map s.movement?).filterMap
          (Option.map fun m => (⟨.info, m.line s.registries⟩ : LogLine)) :=
        List.filterMap_map.symm
    _ = (ms.map some).filterMap
          (Option.map fun m => (⟨.info, m.line s.registries⟩ : LogLine)) := by rw [found]
    _ = ms.map fun m => ⟨.info, m.line s.registries⟩ := by
        rw [List.filterMap_map]
        exact congrFun List.filterMap_eq_map ms

/-- A movement of the list begins anew: on its counter as before, and with nothing to report. -/
theorem exists_movement?_resetAll (member : id ∈ ids) (found : s.movement? id = some m) :
    ∃ n, (s.resetAll ids).movement? id = some n ∧
      (n.registry, n.statistic) = (m.registry, m.statistic) ∧
      n.starting = n.current (s.resetAll ids).registries ∧
      n.change (s.resetAll ids).registries = 0 := by
  refine ⟨m.reset s.registries, ?_, rfl, ?_, ?_⟩
  · rw [movement?_resetAll, if_pos member, found, Option.map_some]
  · rw [registries_resetAll, Movement.current_reset, Movement.starting_reset]
  · rw [registries_resetAll, Movement.change_reset]

/-- Logging and resetting a list of different movements in one pass is logging them all and then
resetting them all: it answers with the same lines, each of which shows its movement as it was
before any began anew, and leaves the same session. There every movement of the list begins at the
value of its counter, every other movement has its baseline still, and no counter has changed. -/
theorem logThenReset_logs_and_resets (distinct : ids.Nodup) (s : Session) :
    s.perform (.logThenReset ids) =
        (s.afterAll [.logAll ids, .resetAll ids], (s.perform (.logAll ids)).2) ∧
      s.logThenReset ids = (s.resetAll ids, s.logAll ids) ∧
      (∀ ms : List Movement, ids.map s.movement? = ms.map some →
        (s.logThenReset ids).2 = ms.map fun m => ⟨.info, m.line s.registries⟩) ∧
      (∀ id ∈ ids, ∀ m, s.movement? id = some m →
        ∃ n, (s.logThenReset ids).1.movement? id = some n ∧
          (n.registry, n.statistic) = (m.registry, m.statistic) ∧
          n.starting = n.current (s.logThenReset ids).1.registries ∧
          n.change (s.logThenReset ids).1.registries = 0) ∧
      (∀ id ∉ ids, (s.logThenReset ids).1.movement? id = s.movement? id) ∧
      (s.logThenReset ids).1.registries = s.registries := by
  rw [logThenReset_eq distinct]
  refine ⟨?_, rfl, fun _ found => logAll_of_movements found,
    fun _ member _ found => exists_movement?_resetAll member found, fun id outside => ?_,
    registries_resetAll s ids⟩
  · simp only [perform, logThenReset_eq distinct]
    rfl
  · rw [movement?_resetAll, if_neg outside]

/-- Three movements on one counter, named by two descriptions. -/
def shared : Session :=
  empty.afterAll [.watch "lists" "main" (.named "reads"), .add "main" (.named "reads") 2,
    .watch "heads" "main" ⟨"reads", "by range"⟩, .watch "kept" "main" (.named "reads"),
    .increment "main" (.named "reads")]

/-- The line of the second movement shows its baseline and not that of the first, which has begun
anew on the same counter before it. -/
theorem shared_logs_and_resets :
    ["lists", "heads"].Nodup ∧
      (shared.logThenReset ["lists", "heads"]).2 =
        [⟨.info, "reads starting=0 current=3 diff=3"⟩,
          ⟨.info, "reads starting=2 current=3 diff=1"⟩] ∧
      (shared.logThenReset ["lists", "heads"]).1.movement? "kept" =
        some ⟨"main", .named "reads", 2⟩ := by
  have distinct : ["lists", "heads"].Nodup := by decide
  obtain ⟨-, -, lines, -, others, -⟩ := logThenReset_logs_and_resets distinct shared
  have found : ["lists", "heads"].map shared.movement? =
      [⟨"main", .named "reads", 0⟩, ⟨"main", ⟨"reads", "by range"⟩, 2⟩].map some := by
    decide +kernel
  have kept : shared.movement? "kept" = some ⟨"main", .named "reads", 2⟩ := by decide +kernel
  refine ⟨distinct, (lines _ found).trans (by decide +kernel), ?_⟩
  exact (others "kept" (by decide)).trans kept

/-- A movement that is listed twice has nothing to show the second time. -/
example : (shared.logThenReset ["lists", "lists"]).2 ≠ shared.logAll ["lists", "lists"] := by
  decide +kernel

end Session

end StoreBench
