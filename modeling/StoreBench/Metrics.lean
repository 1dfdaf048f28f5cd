/-
Counters of the client under test and how far they have moved. A registry counts by the symbol of a
statistic; a counter that was never touched reads zero. A `Movement` remembers the value at its
baseline and reads the counter afresh whenever it is asked; differences wrap at sixty-four bits.
-/

import StoreBench.Check
import Std.Data.ExtTreeMap

namespace StoreBench

/-! ### Counters -/

structure Statistic where
  symbol : String
  description : String
deriving Repr, DecidableEq

/-- The statistic with the symbol and no description. -/
def Statistic.named (symbol : String) : Statistic := ⟨symbol, ""⟩

/-- Counters by the symbols of their statistics. -/
structure Counters where
  values : Std.ExtTreeMap String Int64
deriving DecidableEq

namespace Counters

def empty : Counters := ⟨∅⟩

def value (c : Counters) (s : Statistic) : Int64 :=
  (c.values[s.symbol]?).getD 0

def set (c : Counters) (s : Statistic) (n : Int64) : Counters :=
  ⟨c.values.insert s.symbol n⟩

def add (c : Counters) (s : Statistic) (delta : Int64) : Counters :=
  c.set s (c.value s + delta)

@[simp] theorem value_empty (s : Statistic) : empty.value s = 0 := by
  simp [value, empty]

@[simp] theorem value_set (c : Counters) (s t : Statistic) (n : Int64) :
    (c.set s n).value t = if s.symbol = t.symbol then n else c.value t := by
  simp only [value, set, Std.ExtTreeMap.getElem?_insert, Std.LawfulEqCmp.compare_eq_iff_eq]
  split <;> simp

/-- Statistics with one symbol have one counter, whatever their descriptions. -/
theorem value_congr {s t : Statistic} (same : s.symbol = t.symbol) (c : Counters) :
    c.value s = c.value t := by
  rw [value, value, same]

@[simp] theorem value_add (c : Counters) (s t : Statistic) (delta : Int64) :
    (c.add s delta).value t = if s.symbol = t.symbol then c.value t + delta else c.value t := by
  rw [add, value_set]
  split
  · rename_i same
    rw [value_congr same]
  · rfl

end Counters

/-- Registries of counters by name. A registry that was never touched has no touched counters. -/
structure Registries where
  counters : Std.ExtTreeMap String Counters
deriving DecidableEq

namespace Registries

def empty : Registries := ⟨∅⟩

def get (r : Registries) (name : String) : Counters :=
  (r.counters[name]?).getD .empty

def modify (r : Registries) (name : String) (change : Counters → Counters) : Registries :=
  ⟨r.counters.insert name (change (r.get name))⟩

@[simp] theorem get_empty (name : String) : empty.get name = .empty := by
  simp [get, empty]

@[simp] theorem get_modify (r : Registries) (name other : String) (change : Counters → Counters) :
    (r.modify name change).get other = if name = other then change (r.get name) else r.get other := by
  simp only [get, modify, Std.ExtTreeMap.getElem?_insert, Std.LawfulEqCmp.compare_eq_iff_eq]
  split <;> simp

end Registries

/-! ### Snapshots and movements -/

structure Snapshot where
  statistic : Statistic
  value : Int64
deriving Repr, DecidableEq

/-- The value of a counter now. -/
def Snapshot.take (r : Registries) (registry : String) (s : Statistic) : Snapshot :=
  ⟨s, (r.get registry).value s⟩

/-- How far a counter has moved since a baseline. -/
structure Movement where
  registry : String
  baseline : Snapshot
deriving Repr, DecidableEq

namespace Movement

/-- A movement that begins now. -/
def start (r : Registries) (registry : String) (s : Statistic) : Movement :=
  ⟨registry, .take r registry s⟩

def statistic (m : Movement) : Statistic := m.baseline.statistic

/-- The same movement, beginning now. -/
def reset (r : Registries) (m : Movement) : Movement :=
  ⟨m.registry, .take r m.registry m.statistic⟩

def starting (m : Movement) : Int64 := m.baseline.value

def current (r : Registries) (m : Movement) : Int64 :=
  (r.get m.registry).value m.statistic

/-- The value now less the value at the baseline. -/
def change (r : Registries) (m : Movement) : Int64 :=
  m.current r - m.starting

/-! ### Words -/

def number (n : Int64) : String := Text.decimal n.toInt

def line (r : Registries) (m : Movement) : String :=
  m.statistic.symbol ++ " starting=" ++ number m.starting ++ " current=" ++ number (m.current r)
    ++ " diff=" ++ number (m.change r)

/-- The baseline of a movement, field by field. -/
def fields (m : Movement) : String :=
  "MetricDiff \x7b baseline: CounterSnapshot \x7b statistic: Statistic \x7b symbol: "
    ++ Text.quoted m.statistic.symbol ++ ", description: " ++ Text.quoted m.statistic.description
    ++ " \x7d, value: " ++ number m.starting ++ " \x7d, .. \x7d"

/-! ### Assertions -/

/-- Fails with the message unless the counter has moved by the amount. -/
def requireWith (r : Registries) (m : Movement) (message : String) (expected : Int64) :
    Except Fault Unit :=
  let actual := m.change r
  if actual = expected then .ok ()
  else .error (.movement message m.statistic.symbol expected actual)

/-- Fails unless the counter has moved by the amount. -/
def require (r : Registries) (m : Movement) (expected : Int64) : Except Fault Unit :=
  m.requireWith r ("Count of " ++ m.line r) expected

/-- Fails unless the two counters have moved by the same amount. -/
def requireSame (r : Registries) (m other : Movement) : Except Fault Unit :=
  m.requireWith r (m.line r ++ " != " ++ other.line r) (other.change r)

/-- How the amounts compare by which the two counters have moved. -/
def compare (r : Registries) (m other : Movement) : Ordering :=
  if m.change r < other.change r then .lt
  else if m.change r = other.change r then .eq
  else .gt

end Movement

end StoreBench
