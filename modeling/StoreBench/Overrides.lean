/-
Overrides: values that a single test run forces on properties, ahead of all settings. A value that
is empty or the word `unset` forces nothing (`Overrides.effective?`), so that a build may pass every
property through. `Overrides.ofVariables` takes the values from variables of an environment.
-/

import Std.Data.ExtTreeMap
import StoreBench.Text.Words

namespace StoreBench

/-- The values that a run forces on properties, by key. -/
structure Overrides where
  values : Std.ExtTreeMap String String
deriving DecidableEq

namespace Overrides

/-- The value that declares a property to be unset. -/
def unset : String := "unset"

def empty : Overrides := ⟨∅⟩

def insert (o : Overrides) (key value : String) : Overrides :=
  ⟨o.values.insert key value⟩

/-- Adds pairs of keys and values in order; the last value of a key stays. -/
def insertMany (o : Overrides) (pairs : List (String × String)) : Overrides :=
  pairs.foldl (fun o pair => o.insert pair.1 pair.2) o

def ofList (pairs : List (String × String)) : Overrides :=
  empty.insertMany pairs

/-- The value at a key, whatever it is. -/
def get? (o : Overrides) (key : String) : Option String :=
  o.values[key]?

/-- The value may override: it is neither empty nor `unset`. -/
def isEffective (value : String) : Bool :=
  value != "" && value != unset

/-- The value at a key, if it may override. -/
def effective? (o : Overrides) (key : String) : Option String :=
  (o.get? key).filter isEffective

def size (o : Overrides) : Nat :=
  o.values.size

def isEmpty (o : Overrides) : Bool :=
  o.values.isEmpty

/-! ### Variables of an environment -/

/-- The character of a key that stands for a character of a variable's name: capital letters of
ASCII become small and an underscore becomes a dot. -/
def keyChar (c : Char) : Char :=
  if c == '_' then '.' else c.toLower

/-- The key that a variable gives a value to: its name behind `start`, if it begins so. -/
def variableKey? (start name : String) : Option String :=
  (Text.behind? start name).map fun rest => rest.map keyChar

/-- The overrides that variables with the given beginning of their names stand for, the last one of
a key counting. -/
def ofVariables (start : String) (environment : List (String × String)) : Overrides :=
  ofList (environment.filterMap fun v => (variableKey? start v.1).map fun key => (key, v.2))

/-! ### What each operation does to the values -/

@[ext] theorem ext {o p : Overrides} (h : ∀ key, o.get? key = p.get? key) : o = p := by
  cases o
  cases p
  simp only [mk.injEq]
  exact Std.ExtTreeMap.ext_getElem? h

@[simp] theorem get?_empty (key : String) : empty.get? key = none := by
  simp [get?, empty]

@[simp] theorem get?_insert (o : Overrides) (key value other : String) :
    (o.insert key value).get? other = if key = other then some value else o.get? other := by
  simp [get?, insert, Std.ExtTreeMap.getElem?_insert]

end Overrides

end StoreBench
