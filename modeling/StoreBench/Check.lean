/-
Checks that log. A check ends in a value or a fault, and the lines that it has logged stay either
way. `assume` turns a failed condition into a violated assumption and logs its message.
-/

import StoreBench.Fault

namespace StoreBench

inductive Level
  | info
  | warn
deriving Repr, DecidableEq

structure LogLine where
  level : Level
  message : String
deriving Repr, DecidableEq

/-- A check: what it ends in and the lines that it logs on the way. -/
@[ext] structure Check (α : Type) where
  outcome : Except Fault α
  log : List LogLine

namespace Check

variable {α β : Type}

/-- A check that logs nothing. -/
def ofExcept (r : Except Fault α) : Check α := ⟨r, []⟩

/-- Goes on with the value of a check unless it has failed. The lines of both stay in order. -/
def andThen (c : Check α) (next : α → Check β) : Check β :=
  match c.outcome with
  | .ok a => ⟨(next a).outcome, c.log ++ (next a).log⟩
  | .error f => ⟨.error f, c.log⟩

instance : Monad Check where
  pure a := ofExcept (.ok a)
  bind := andThen

/-- Holds the condition to be necessary for a test: where it fails, the test is to be skipped. -/
def assume (message : String) (condition : Bool) : Check Unit :=
  if condition then ofExcept (.ok ()) else ⟨.error (.assumption message), [⟨.warn, message⟩]⟩

/-! ### How checks are put together -/

@[simp] theorem pure_eq (a : α) : (pure a : Check α) = ofExcept (.ok a) := rfl

@[simp] theorem ofExcept_ok_bind (a : α) (next : α → Check β) :
    (ofExcept (.ok a) >>= next) = next a := rfl

@[simp] theorem ofExcept_error_bind (f : Fault) (next : α → Check β) :
    (ofExcept (.error f) >>= next) = ofExcept (.error f) := rfl

@[simp] theorem assume_true (message : String) : assume message true = ofExcept (.ok ()) := rfl

/-- Behind a violated assumption nothing more happens. -/
@[simp] theorem assume_false_bind (message : String) (next : Unit → Check β) :
    (assume message false >>= next) = ⟨.error (.assumption message), [⟨.warn, message⟩]⟩ := rfl

end Check

end StoreBench
