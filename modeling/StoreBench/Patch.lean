/-
Changes of settings that may fail. The settings afterwards are there whether or not the change
succeeds, so a change that must not leave half of its work behind reads first and writes last.
-/

import StoreBench.Fault
import StoreBench.Settings

namespace StoreBench

abbrev Patch (α : Type) := ExceptT Fault (StateM Settings) α

namespace Patch

variable {α β : Type}

/-- The outcome of a change and the settings after it. -/
def outcome (p : Patch α) (s : Settings) : Except Fault α × Settings :=
  (ExceptT.run p).run s

/-- A step of a change that only reads the settings. -/
def reading (read : Settings → Except Fault α) : Patch α :=
  ExceptT.mk (fun s => (read s, s))

/-! ### What each step does -/

@[simp] theorem outcome_pure (a : α) (s : Settings) : outcome (pure a) s = (.ok a, s) := rfl

@[simp] theorem outcome_reading (read : Settings → Except Fault α) (s : Settings) :
    (reading read).outcome s = (read s, s) := rfl

@[simp] theorem outcome_modify (change : Settings → Settings) (s : Settings) :
    outcome (modify change) s = (.ok (), change s) := rfl

/-- The second of two changes begins where the first ends, if the first succeeds. -/
theorem outcome_bind (p : Patch α) (next : α → Patch β) (s : Settings) :
    outcome (p >>= next) s =
      match p.outcome s with
      | (.ok a, t) => (next a).outcome t
      | (.error f, t) => (.error f, t) := by
  simp only [outcome, ExceptT.run_bind, StateT.run_bind]
  rcases (ExceptT.run p).run s with ⟨r, t⟩
  cases r <;> rfl

end Patch

end StoreBench
