/-
Interrupters. A copy of an interrupter shares its flag, so all copies of one interrupter form a
family with a single flag, and a flag once raised stays raised. A sleep ends early, and says so,
exactly when the flag is up.
-/

import StoreBench.Poll.Duration

namespace StoreBench

/-- Interrupters in the order of their creation, each by the family it belongs to, and the families
whose flag is raised. -/
structure Interrupters where
  families : List Nat
  raised : List Nat
deriving Repr, DecidableEq

namespace Interrupters

/-- A single interrupter whose flag is down. -/
def single : Interrupters := ⟨[0], []⟩

/-- A family that no interrupter belongs to: one beyond the greatest. -/
def freshFamily (w : Interrupters) : Nat :=
  w.families.foldl max 0 + 1

/-- The flag of the interrupter at the place is raised. -/
def isRaised (w : Interrupters) (i : Nat) : Bool :=
  w.families[i]?.any w.raised.contains

def flags (w : Interrupters) : List Bool :=
  w.families.map w.raised.contains

/-- Adds an interrupter of a family of its own. -/
def create (w : Interrupters) : Interrupters :=
  { w with families := w.families ++ [w.freshFamily] }

/-- Adds a copy of the interrupter at the place. -/
def copy (w : Interrupters) (i : Nat) : Interrupters :=
  { w with families := w.families ++ w.families[i]?.toList }

/-- Raises the flag of the interrupter at the place. -/
def interrupt (w : Interrupters) (i : Nat) : Interrupters :=
  { w with raised := w.families[i]?.toList ++ w.raised }

/-- Sleeps on the interrupter at the place: `false` if it is interrupted, `true` after the whole
span. A span that leads to no point in time never ends unless interrupted; that is `none`. -/
def sleep (w : Interrupters) (i : Nat) (d : Duration) : Option Bool :=
  if w.isRaised i then some false
  else if d.isRepresentable then some true
  else none

/-- The interrupter at the place as a message shows it. -/
def describe (w : Interrupters) (i : Nat) : String :=
  "Interrupter \x7b interrupted: " ++ (if w.isRaised i then "true" else "false") ++ " \x7d"

/-! ### Steps -/

inductive Step
  | create
  | copy (i : Nat)
  | interrupt (i : Nat)
  | sleep (i : Nat) (d : Duration)
  | look
deriving Repr, DecidableEq

def after (w : Interrupters) : Step → Interrupters
  | .create => w.create
  | .copy i => w.copy i
  | .interrupt i => w.interrupt i
  | .sleep _ _ => w
  | .look => w

def afterAll (w : Interrupters) (steps : List Step) : Interrupters :=
  steps.foldl after w

end Interrupters

end StoreBench
