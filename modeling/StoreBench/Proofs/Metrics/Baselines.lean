/-
What movements report behind the steps of a session.

* `Step.Watches` and `Step.Begins` say of a step whether it begins to watch under a name, and
  whether the movement with the name begins anew with it. All other steps leave that movement as it
  is (`movement?_after_of_not_begins`).
* `LastBegins` is the last step of a run with which a movement begins. `Tracked` says by that step,
  and by the one that began to watch it last, which movement a name has behind the run;
  `tracked_iff` says that it is the one.
* `afterAll_tallied_and_tracked` says of every run of a session what its counters hold and what its
  movements report, and of every step what it cannot change.
-/

import StoreBench.Proofs.Metrics.Counting

namespace StoreBench.Session

variable {s : Session} {step : Step} {steps : List Step} {id registry symbol : String}
  {statistic : Statistic} {m : Movement}

/-! ### What a step does to a movement -/

/-- The step begins to watch a counter under the name. -/
inductive Step.Watches (id : String) : Step → Prop
  | watch {registry : String} {statistic : Statistic} : Watches id (.watch id registry statistic)

/-- The movement with the name begins with the step, for the first time or anew. -/
inductive Step.Begins (id : String) : Step → Prop
  | watch {registry : String} {statistic : Statistic} : Begins id (.watch id registry statistic)
  | reset : Begins id (.reset id)
  | resetAll {ids : List String} : id ∈ ids → Begins id (.resetAll ids)
  | logThenReset {ids : List String} : id ∈ ids → Begins id (.logThenReset ids)

theorem Step.Watches.begins (h : step.Watches id) : step.Begins id := by
  cases h with
  | watch => exact .watch

/-- A movement that begins counts nothing. -/
theorem Step.Begins.not_counts (h : step.Begins id) : ¬ step.Counts registry symbol := by
  intro counts
  cases h <;> cases counts

theorem after_logThenReset (s : Session) (ids : List String) :
    s.after (.logThenReset ids) = s.after (.resetAll ids) :=
  fst_logThenReset s ids

theorem movement?_after_of_not_begins (h : ¬ step.Begins id) (s : Session) :
    (s.after step).movement? id = s.movement? id := by
  cases step with
  | watch name registry statistic =>
      have other : name ≠ id := by
        rintro rfl
        exact h .watch
      exact (movement?_watch s name registry statistic id).trans (if_neg other)
  | reset name =>
      have other : name ≠ id := by
        rintro rfl
        exact h .reset
      exact (movement?_reset s name id).trans (if_neg other)
  | resetAll ids =>
      exact (movement?_resetAll s ids id).trans (if_neg fun member => h (.resetAll member))
  | logThenReset ids =>
      rw [after_logThenReset]
      exact (movement?_resetAll s ids id).trans (if_neg fun member => h (.logThenReset member))
  | _ => rfl

/-- A step with which a movement begins either watches it or takes it as it was and begins anew. -/
theorem movement?_after_of_begins (h : step.Begins id) (s : Session) :
    (∃ registry statistic, step = .watch id registry statistic ∧
        (s.after step).movement? id = some (.start s.registries registry statistic)) ∨
      ¬ step.Watches id ∧
        (s.after step).movement? id = (s.movement? id).map (Movement.reset s.registries) := by
  cases h with
  | @watch registry statistic =>
      exact .inl ⟨registry, statistic, rfl,
        (movement?_watch s id registry statistic id).trans (if_pos rfl)⟩
  | reset => exact .inr ⟨nofun, (movement?_reset s id id).trans (if_pos rfl)⟩
  | @resetAll ids member => exact .inr ⟨nofun, (movement?_resetAll s ids id).trans (if_pos member)⟩
  | @logThenReset ids member =>
      rw [after_logThenReset]
      exact .inr ⟨nofun, (movement?_resetAll s ids id).trans (if_pos member)⟩

/-- A movement that begins with a step has the value of its counter there for its baseline. -/
theorem starting_of_begins (h : step.Begins id) (found : (s.after step).movement? id = some m) :
    m.starting = s.value m.registry m.statistic := by
  rcases movement?_after_of_begins h s with ⟨registry, statistic, rfl, begun⟩ | ⟨-, begun⟩
  · cases found.symm.trans begun
    rfl
  · rw [begun] at found
    obtain ⟨earlier, -, rfl⟩ := Option.map_eq_some_iff.mp found
    rfl

/-- The counter that a movement is on, by its registry and its statistic. -/
def counter? (s : Session) (id : String) : Option (String × Statistic) :=
  (s.movement? id).map fun m => (m.registry, m.statistic)

theorem counter?_after_watch (s : Session) (id registry : String) (statistic : Statistic) :
    (s.after (.watch id registry statistic)).counter? id = some (registry, statistic) := by
  change ((s.watch id registry statistic).movement? id).map _ = _
  rw [movement?_watch, if_pos rfl]
  rfl

/-- Whatever begins anew stays on its counter. -/
theorem counter?_after_of_not_watches (h : ¬ step.Watches id) (s : Session) :
    (s.after step).counter? id = s.counter? id := by
  unfold counter?
  by_cases begins : step.Begins id
  · rcases movement?_after_of_begins begins s with ⟨registry, statistic, rfl, -⟩ | ⟨-, begun⟩
    · exact absurd .watch h
    · rw [begun, Option.map_map]
      rfl
  · rw [movement?_after_of_not_begins begins]

/-! ### What a run leaves of a movement -/

theorem movement?_afterAll_of_not_begins (never : ∀ step ∈ steps, ¬ step.Begins id) (s : Session) :
    (s.afterAll steps).movement? id = s.movement? id := by
  induction steps generalizing s with
  | nil => rfl
  | cons step steps ih =>
      have others := ih (fun later member => never later (List.mem_cons_of_mem step member))
        (s.after step)
      exact others.trans (movement?_after_of_not_begins (never step List.mem_cons_self) s)

theorem counter?_afterAll_of_not_watches (never : ∀ step ∈ steps, ¬ step.Watches id)
    (s : Session) : (s.afterAll steps).counter? id = s.counter? id := by
  induction steps generalizing s with
  | nil => rfl
  | cons step steps ih =>
      have others := ih (fun later member => never later (List.mem_cons_of_mem step member))
        (s.after step)
      exact others.trans (counter?_after_of_not_watches (never step List.mem_cons_self) s)

/-- The movement with the name begins last with the step between the first steps and the others. -/
def LastBegins (id : String) (steps before after : List Step) : Prop :=
  ∃ start : Step, steps = before ++ start :: after ∧ start.Begins id ∧
    ∀ step ∈ after, ¬ step.Begins id

/-- The counter was last begun to be watched under the name. -/
def LastWatched (id : String) (steps : List Step) (registry : String) (statistic : Statistic) :
    Prop :=
  ∃ before after, steps = before ++ .watch id registry statistic :: after ∧
    ∀ step ∈ after, ¬ step.Watches id

theorem starting_of_lastBegins {before after : List Step} (last : LastBegins id steps before after)
    (found : (s.afterAll steps).movement? id = some m) :
    m.starting = (s.afterAll before).value m.registry m.statistic := by
  obtain ⟨start, rfl, begins, later⟩ := last
  rw [afterAll_append_cons, movement?_afterAll_of_not_begins later] at found
  exact starting_of_begins begins found

/-- A movement that begins changes no counter, so what is added behind its beginning is what is
added to the value at its beginning. -/
theorem change_of_lastBegins {before after : List Step} (last : LastBegins id steps before after)
    (found : (s.afterAll steps).movement? id = some m)
    (never : ∀ step ∈ after, ¬ step.Sets m.registry m.statistic.symbol) :
    m.change (s.afterAll steps).registries =
      Int64.ofInt (gained m.registry m.statistic.symbol after) := by
  have starting := starting_of_lastBegins last found
  obtain ⟨start, rfl, begins, -⟩ := last
  have current : m.current (s.afterAll (before ++ start :: after)).registries =
      m.starting + Int64.ofInt (gained m.registry m.statistic.symbol after) := by
    change (s.afterAll (before ++ start :: after)).value m.registry m.statistic = _
    rw [afterAll_append_cons, value_afterAll_of_not_sets never,
      value_after_of_not_counts begins.not_counts, starting]
  rw [Movement.change, current, Int64.add_comm, Int64.add_sub_cancel]

theorem counter?_of_lastWatched (watched : LastWatched id steps registry statistic) (s : Session) :
    (s.afterAll steps).counter? id = some (registry, statistic) := by
  obtain ⟨before, after, rfl, later⟩ := watched
  rw [afterAll_append_cons, counter?_afterAll_of_not_watches later, counter?_after_watch]

/-! ### The movements behind a run -/

/-- Behind the steps the name has the movement: it is on the counter that was last begun to be
watched under the name, and its baseline is the value which that counter had when the movement last
began. -/
structure Tracked (id : String) (steps : List Step) (m : Movement) : Prop where
  watched : LastWatched id steps m.registry m.statistic
  begun : ∃ before after, LastBegins id steps before after ∧
    m.starting = (empty.afterAll before).value m.registry m.statistic

theorem exists_lastBegins (found : (empty.afterAll steps).movement? id = some m) :
    ∃ before after, LastBegins id steps before after := by
  rcases exists_last_or_forall_not (Step.Begins id) steps with
    never | ⟨before, start, after, split, begins, later⟩
  · rw [movement?_afterAll_of_not_begins never, movement?_empty] at found
    cases found
  · exact ⟨before, after, start, split, begins, later⟩

theorem lastWatched_of_movement? (found : (empty.afterAll steps).movement? id = some m) :
    LastWatched id steps m.registry m.statistic := by
  have on : (empty.afterAll steps).counter? id = some (m.registry, m.statistic) := by
    rw [counter?, found, Option.map_some]
  rcases exists_last_or_forall_not (Step.Watches id) steps with
    never | ⟨before, _, after, split, ⟨⟩, later⟩
  · rw [counter?_afterAll_of_not_watches never, counter?, movement?_empty] at on
    cases on
  · cases (counter?_of_lastWatched ⟨before, after, split, later⟩ empty).symm.trans on
    exact ⟨before, after, split, later⟩

/-- A movement is the counter that it is on and the value at its baseline. -/
theorem eq_of_counter_of_starting {m n : Movement}
    (counter : (m.registry, m.statistic) = (n.registry, n.statistic))
    (starting : m.starting = n.starting) : m = n := by
  obtain ⟨registry, statistic, value⟩ := m
  obtain ⟨_, _, _⟩ := n
  cases counter
  cases starting
  rfl

/-- Behind a run of a session a name has the movement that was tracked under it, and no other. -/
theorem tracked_iff : Tracked id steps m ↔ (empty.afterAll steps).movement? id = some m := by
  constructor
  · rintro ⟨watched, before, after, last, starting⟩
    obtain ⟨n, found, counter⟩ :=
      Option.map_eq_some_iff.mp (counter?_of_lastWatched watched empty)
    obtain ⟨registry, statistic⟩ := Prod.mk.inj counter
    have baseline := starting_of_lastBegins last found
    rw [registry, statistic, ← starting] at baseline
    rw [found, eq_of_counter_of_starting counter baseline]
  · intro found
    obtain ⟨before, after, last⟩ := exists_lastBegins found
    exact ⟨lastWatched_of_movement? found, before, after, last, starting_of_lastBegins last found⟩

/-! ### Runs -/

/-- What a run of a session comes to whose additions stay within sixty-four bits. Each counter holds
its tally. Each name has the movement that was tracked under it, which reports the value of its
counter now and that value less the one at its baseline, wrapped to sixty-four bits; where nothing
has set the counter since, this is what has been added to it since. A step that does not count
changes no registry, and a movement reports the same behind a step that neither begins it nor counts
with its counter. -/
theorem afterAll_tallied_and_tracked (fit : empty.fits steps = true) :
    (∀ registry statistic n, Tally registry statistic.symbol steps n ↔
        ((empty.afterAll steps).value registry statistic).toInt = n) ∧
      (∀ id m, Tracked id steps m ↔ (empty.afterAll steps).movement? id = some m) ∧
      (∀ id m, (empty.afterAll steps).movement? id = some m →
        m.current (empty.afterAll steps).registries =
            (empty.afterAll steps).value m.registry m.statistic ∧
          (m.change (empty.afterAll steps).registries).toInt =
            ((m.current (empty.afterAll steps).registries).toInt - m.starting.toInt).bmod
              Int64.size ∧
          ∀ before after, LastBegins id steps before after →
            (∀ step ∈ after, ¬ step.Sets m.registry m.statistic.symbol) →
            m.change (empty.afterAll steps).registries =
              Int64.ofInt (gained m.registry m.statistic.symbol after)) ∧
      (∀ s step, (∀ registry symbol, ¬ Step.Counts registry symbol step) →
        (after s step).registries = s.registries) ∧
      ∀ s step id m, movement? s id = some m → ¬ Step.Begins id step →
        ¬ Step.Counts m.registry m.statistic.symbol step →
        (after s step).movement? id = some m ∧
          m.current (after s step).registries = m.current s.registries ∧
          m.change (after s step).registries = m.change s.registries := by
  refine ⟨fun _ _ _ => tally_iff fit, fun _ _ => tracked_iff, fun id m found => ?_,
    fun s step silent => registries_after_of_not_counts silent s, ?_⟩
  · exact ⟨rfl, Int64.toInt_sub _ _, fun before after last => change_of_lastBegins last found⟩
  · intro s step id m found idle elsewhere
    have current : m.current (s.after step).registries = m.current s.registries :=
      value_after_of_not_counts elsewhere s
    refine ⟨(movement?_after_of_not_begins idle s).trans found, current, ?_⟩
    rw [Movement.change, current, Movement.change]

/-- Steps behind the last baseline of a movement: they name its counter by other descriptions, and
also count with the same symbol in another registry. -/
def behindReset : List Step :=
  [.add "main" ⟨"reads", "by range"⟩ 7, .add "other" (.named "reads") 5,
    .increment "main" (.named "reads"), .read "lists"]

/-- A run whose movement begins a second time when its counter has been set. -/
def resetRun : List Step :=
  .watch "lists" "main" (.named "reads") :: .set "main" ⟨"reads", "in all"⟩ 10 ::
    .resetAll ["lists"] :: behindReset

theorem not_begins_of_mem_behindReset {step : Step} (member : step ∈ behindReset) (id : String) :
    ¬ step.Begins id := by
  intro begins
  cases begins <;> simp [behindReset] at member

theorem not_sets_of_mem_behindReset {step : Step} (member : step ∈ behindReset)
    (registry symbol : String) : ¬ step.Sets registry symbol := by
  intro sets
  cases sets
  simp [behindReset] at member

/-- A counter is one for all descriptions, and a movement counts from its last baseline. -/
theorem resetRun_tallied_and_tracked :
    empty.fits resetRun = true ∧
      ((empty.afterAll resetRun).value "main" (.named "reads")).toInt = 18 ∧
      (empty.afterAll resetRun).movement? "lists" = some ⟨"main", .named "reads", 10⟩ ∧
      Movement.change (empty.afterAll resetRun).registries ⟨"main", .named "reads", 10⟩ =
        Int64.ofInt 8 := by
  have fit : empty.fits resetRun = true := by decide +kernel
  obtain ⟨tallied, tracked, reports, -, -⟩ := afterAll_tallied_and_tracked fit
  have tally : Tally "main" "reads" resetRun 18 := by
    refine @Tally.set "main" "reads" [.watch "lists" "main" (.named "reads")]
      (.resetAll ["lists"] :: behindReset) ⟨"reads", "in all"⟩ 10 rfl ?_
    exact List.forall_mem_cons.mpr ⟨nofun, fun _ member => not_sets_of_mem_behindReset member _ _⟩
  have last : LastBegins "lists" resetRun
      [.watch "lists" "main" (.named "reads"), .set "main" ⟨"reads", "in all"⟩ 10] behindReset :=
    ⟨_, rfl, .resetAll (by simp), fun _ member => not_begins_of_mem_behindReset member _⟩
  have watched : LastWatched "lists" resetRun "main" (.named "reads") := by
    refine ⟨[], _, rfl, List.forall_mem_cons.mpr ⟨nofun, List.forall_mem_cons.mpr ⟨nofun, ?_⟩⟩⟩
    exact fun _ member watches => not_begins_of_mem_behindReset member _ watches.begins
  have found := (tracked "lists" ⟨"main", .named "reads", 10⟩).mp
    ⟨watched, _, _, last, by decide +kernel⟩
  refine ⟨fit, (tallied "main" (.named "reads") 18).mp tally, found, ?_⟩
  exact (reports _ _ found).2.2 _ _ last fun _ member => not_sets_of_mem_behindReset member _ _

end StoreBench.Session
