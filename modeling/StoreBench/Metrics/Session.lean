/-
A session of measuring: registries that count and movements that are watched, by their names.
`perform` says of each step what it answers and what the session is afterwards. Steps that count
change registries only, steps that watch or reset change movements only (`movements_count`,
`registries_reset`), and all others change nothing. Lists of movements can be logged, reset, or both
in one pass.
-/

import StoreBench.Metrics

namespace StoreBench

/-- Registries and the movements watched on them, by name. -/
structure Session where
  registries : Registries
  movements : Std.ExtTreeMap String Movement
deriving DecidableEq

namespace Session

def empty : Session := ⟨.empty, ∅⟩

/-! ### Counting -/

def count (s : Session) (registry : String) (change : Counters → Counters) : Session :=
  { s with registries := s.registries.modify registry change }

def add (s : Session) (registry : String) (statistic : Statistic) (delta : Int64) : Session :=
  s.count registry fun c => c.add statistic delta

def increment (s : Session) (registry : String) (statistic : Statistic) : Session :=
  s.add registry statistic 1

def set (s : Session) (registry : String) (statistic : Statistic) (n : Int64) : Session :=
  s.count registry fun c => c.set statistic n

def value (s : Session) (registry : String) (statistic : Statistic) : Int64 :=
  (s.registries.get registry).value statistic

/-! ### Watching -/

def movement? (s : Session) (id : String) : Option Movement :=
  s.movements[id]?

/-- Begins to watch a counter under the name, in the place of what was watched under it. -/
def watch (s : Session) (id registry : String) (statistic : Statistic) : Session :=
  { s with movements := s.movements.insert id (.start s.registries registry statistic) }

/-- Lets the movement with the name begin now. -/
def reset (s : Session) (id : String) : Session :=
  match s.movement? id with
  | some m => { s with movements := s.movements.insert id (m.reset s.registries) }
  | none => s

def logLine? (s : Session) (id : String) : Option LogLine :=
  (s.movement? id).map fun m => ⟨.info, m.line s.registries⟩

/-- Lets each movement of the list begin now, in order. -/
def resetAll (s : Session) (ids : List String) : Session :=
  ids.foldl reset s

/-- The log lines of the movements of the list, in order. -/
def logAll (s : Session) (ids : List String) : List LogLine :=
  ids.filterMap s.logLine?

/-- Logs each movement of the list and lets it begin now before the next is logged. -/
def logThenReset (s : Session) : List String → Session × List LogLine
  | [] => (s, [])
  | id :: ids =>
    let (after, lines) := (s.reset id).logThenReset ids
    (after, (s.logLine? id).toList ++ lines)

/-! ### Steps -/

/-- A step of a session. -/
inductive Step
  | increment (registry : String) (statistic : Statistic)
  | add (registry : String) (statistic : Statistic) (delta : Int64)
  | set (registry : String) (statistic : Statistic) (n : Int64)
  | value (registry : String) (statistic : Statistic)
  | snapshot (registry : String) (statistic : Statistic)
  | watch (id registry : String) (statistic : Statistic)
  | reset (id : String)
  | read (id : String)
  /-- Shows the baseline field by field. -/
  | describe (id : String)
  | require (id : String) (expected : Int64)
  | requireWith (id message : String) (expected : Int64)
  | requireSame (id other : String)
  | compare (id other : String)
  | resetAll (ids : List String)
  | logAll (ids : List String)
  | logThenReset (ids : List String)
deriving Repr, DecidableEq

/-- What a step answers. -/
inductive Answer
  | done
  | value (n : Int64)
  | snapshot (s : Snapshot)
  /-- What a movement is of, how far it has come, and its line. -/
  | movement (statistic : Statistic) (starting current change : Int64) (line : String)
  | words (text : String)
  | verdict (outcome : Except Fault Unit)
  | order (o : Ordering)
  | logged (lines : List LogLine)
  /-- No movement has the name that the step asks for. -/
  | unknown
deriving Repr

/-- Asks the movement with the name. -/
def ask (s : Session) (id : String) (question : Movement → Answer) : Answer :=
  ((s.movement? id).map question).getD .unknown

/-- Asks the two movements with the names. -/
def askBoth (s : Session) (id other : String) (question : Movement → Movement → Answer) : Answer :=
  s.ask id fun m => s.ask other (question m)

/-- The session after a step, and what the step answers. -/
def perform (s : Session) : Step → Session × Answer
  | .increment registry statistic =>
    let t := s.increment registry statistic
    (t, .value (t.value registry statistic))
  | .add registry statistic delta =>
    let t := s.add registry statistic delta
    (t, .value (t.value registry statistic))
  | .set registry statistic n => (s.set registry statistic n, .done)
  | .value registry statistic => (s, .value (s.value registry statistic))
  | .snapshot registry statistic => (s, .snapshot (.take s.registries registry statistic))
  | .watch id registry statistic => (s.watch id registry statistic, .done)
  | .reset id => (s.reset id, .done)
  | .read id =>
    (s, s.ask id fun m =>
      .movement m.statistic m.starting (m.current s.registries) (m.change s.registries)
        (m.line s.registries))
  | .describe id => (s, s.ask id fun m => .words m.fields)
  | .require id expected => (s, s.ask id fun m => .verdict (m.require s.registries expected))
  | .requireWith id message expected =>
    (s, s.ask id fun m => .verdict (m.requireWith s.registries message expected))
  | .requireSame id other =>
    (s, s.askBoth id other fun m n => .verdict (m.requireSame s.registries n))
  | .compare id other => (s, s.askBoth id other fun m n => .order (m.compare s.registries n))
  | .resetAll ids => (s.resetAll ids, .done)
  | .logAll ids => (s, .logged (s.logAll ids))
  | .logThenReset ids =>
    let (t, lines) := s.logThenReset ids
    (t, .logged lines)

def after (s : Session) (step : Step) : Session :=
  (s.perform step).1

def afterAll (s : Session) (steps : List Step) : Session :=
  steps.foldl after s

/-! ### What each operation does to counters -/

theorem value_count (s : Session) (name : String) (change : Counters → Counters)
    (registry : String) (statistic : Statistic) :
    (s.count name change).value registry statistic =
      if name = registry then (change (s.registries.get registry)).value statistic
      else s.value registry statistic := by
  simp only [value, count, Registries.get_modify]
  by_cases same : name = registry
  · simp [same]
  · simp [same]

@[simp] theorem value_add (s : Session) (name : String) (t : Statistic) (delta : Int64)
    (registry : String) (statistic : Statistic) :
    (s.add name t delta).value registry statistic =
      if name = registry ∧ t.symbol = statistic.symbol then s.value registry statistic + delta
      else s.value registry statistic := by
  rw [add, value_count, Counters.value_add]
  by_cases here : name = registry
  · simp [here, value]
  · simp [here]

@[simp] theorem value_set (s : Session) (name : String) (t : Statistic) (n : Int64)
    (registry : String) (statistic : Statistic) :
    (s.set name t n).value registry statistic =
      if name = registry ∧ t.symbol = statistic.symbol then n
      else s.value registry statistic := by
  rw [set, value_count, Counters.value_set]
  by_cases here : name = registry
  · simp [here, value]
  · simp [here]

@[simp] theorem value_empty (registry : String) (statistic : Statistic) :
    empty.value registry statistic = 0 := by
  simp [value, empty]

@[simp] theorem registries_watch (s : Session) (id registry : String) (statistic : Statistic) :
    (s.watch id registry statistic).registries = s.registries := rfl

@[simp] theorem registries_reset (s : Session) (id : String) :
    (s.reset id).registries = s.registries := by
  unfold reset
  split <;> rfl

@[simp] theorem registries_resetAll (s : Session) (ids : List String) :
    (s.resetAll ids).registries = s.registries := by
  induction ids generalizing s with
  | nil => rfl
  | cons id ids ih => exact (ih (s.reset id)).trans (registries_reset s id)

/-! ### What each operation does to movements -/

@[simp] theorem movements_count (s : Session) (registry : String) (change : Counters → Counters) :
    (s.count registry change).movements = s.movements := rfl

@[simp] theorem movement?_empty (id : String) : empty.movement? id = none := by
  simp [movement?, empty]

theorem movement?_insert (s : Session) (name : String) (m : Movement) (id : String) :
    { s with movements := s.movements.insert name m }.movement? id =
      if name = id then some m else s.movement? id := by
  simp [movement?, Std.ExtTreeMap.getElem?_insert]

@[simp] theorem movement?_watch (s : Session) (name registry : String) (statistic : Statistic)
    (id : String) :
    (s.watch name registry statistic).movement? id =
      if name = id then some (.start s.registries registry statistic) else s.movement? id :=
  movement?_insert s name _ id

theorem movement?_reset (s : Session) (name id : String) :
    (s.reset name).movement? id =
      if name = id then (s.movement? id).map (Movement.reset s.registries)
      else s.movement? id := by
  unfold reset
  split
  · rename_i m found
    rw [movement?_insert]
    split
    · rename_i same
      rw [← same, found]
      rfl
    · rfl
  · rename_i absent
    split
    · rename_i same
      rw [← same, absent]
      rfl
    · rfl

/-- A movement that begins now does so as often as it is told to. -/
theorem reset_reset (r : Registries) (m : Movement) : (m.reset r).reset r = m.reset r := rfl

theorem movement?_resetAll (s : Session) (ids : List String) (id : String) :
    (s.resetAll ids).movement? id =
      if id ∈ ids then (s.movement? id).map (Movement.reset s.registries)
      else s.movement? id := by
  induction ids generalizing s with
  | nil => simp [resetAll]
  | cons name ids ih =>
      have others := ih (s.reset name)
      rw [registries_reset, movement?_reset] at others
      simp only [resetAll, List.foldl_cons] at others ⊢
      rw [others]
      by_cases same : name = id
      · cases s.movement? id <;> simp [same, reset_reset]
      · simp [same, Ne.symm same]

/-- Logging on the way does not change what resetting comes to. -/
@[simp] theorem fst_logThenReset (s : Session) (ids : List String) :
    (s.logThenReset ids).1 = s.resetAll ids := by
  induction ids generalizing s with
  | nil => rfl
  | cons id ids ih => exact ih (s.reset id)

end Session

end StoreBench
