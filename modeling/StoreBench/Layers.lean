/-
Where the value of a property comes from: the overrides of the run, else the settings, else the
default of the asker. Only an effective override counts, and it is taken as it is; a text of the
settings loses the white space around it. The typed readers refuse a malformed value, wherever it
comes from, and never fall back to a lower layer.
-/

import StoreBench.ByteSize
import StoreBench.Fault
import StoreBench.Overrides
import StoreBench.Settings

namespace StoreBench

/-- The layers above the asker's default. -/
structure Layers where
  overrides : Overrides
  settings : Option Settings

namespace Layers

/-- The text of a property in the settings, or the default. -/
def candidate (l : Layers) (key default : String) : String :=
  (l.settings.bind (·.trimmed? key)).getD default

def resolve (l : Layers) (key default : String) : String :=
  (l.overrides.effective? key).getD (l.candidate key default)

/-- Reads the text of a property, which must be of the kind named. -/
def resolveAs {α : Type} (read : String → Option α) (kind : String) (l : Layers)
    (key default : String) : Except Fault α :=
  let text := l.resolve key default
  match read text with
  | some value => .ok value
  | none => .error (.parse key text kind)

def resolveInt64 (l : Layers) (key : String) (default : Int64) : Except Fault Int64 :=
  l.resolveAs Text.int64? "integer" key (Text.decimal default.toInt)

def resolveInt32 (l : Layers) (key : String) (default : Int32) : Except Fault Int32 :=
  l.resolveAs Text.int32? "integer" key (Text.decimal default.toInt)

def readBool? (s : String) : Option Bool :=
  if s == "true" then some true else if s == "false" then some false else none

def resolveBool (l : Layers) (key : String) (default : Bool) : Except Fault Bool :=
  l.resolveAs readBool? "boolean" key (Text.boolWord default)

def resolveBytes (l : Layers) (key default : String) : Except Fault Int64 :=
  l.resolveAs ByteSize.parse? "byte size" key default

@[simp] theorem readBool?_boolWord (b : Bool) : readBool? (Text.boolWord b) = some b := by
  cases b <;> decide

end Layers

end StoreBench
