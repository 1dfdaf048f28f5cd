/-
Settings from text and from files. References to overrides are replaced before the text is read as
YAML; a reference without an effective override refuses the whole text.
-/

import StoreBench.Overrides
import StoreBench.Placeholder
import StoreBench.Settings.Flatten
import StoreBench.Yaml.Load

namespace StoreBench

namespace Settings

/-- The settings of a YAML text whose references to overrides are replaced first. -/
def ofYaml (overrides : Overrides) (text : String) : Except Fault Settings := do
  let expanded ← Placeholder.substitute overrides.effective? text
  let value ← (Yaml.load expanded).mapError Fault.yaml
  ofValue value

inductive AtPath
  | file (bytes : ByteArray)
  | refused (reason : Unreadable)

def AtPath.text? : AtPath → Except Unreadable String
  | .file bytes =>
    match String.fromUTF8? bytes with
    | some text => .ok text
    | none => .error .notText
  | .refused reason => .error reason

/-- The settings of the file at a path. -/
def ofFile (overrides : Overrides) (path : String) (content : AtPath) : Except Fault Settings := do
  let text ← content.text?.mapError fun reason => .configuration (.unreadable path reason)
  ofYaml overrides text

/-- The longest name that a directory holds, in octets. -/
def maxName : Nat := 255

/-- The longest path, in octets. -/
def maxPath : Nat := 4095

/-- What reading finds at a path seen from an empty directory: the ways to it and to the directories
above it are made of dots alone, and nothing else has a name there. -/
def AtPath.inEmptyDirectory (path : String) : AtPath :=
  let isWay (step : String) : Bool := step == "" || step == "." || step == ".."
  if path.toList.contains '\x00' then .refused .nullInPath
  else if path == "" then .refused .missing
  else if maxPath < path.utf8ByteSize then .refused .nameTooLong
  else
    match (path.splitOn "/").find? (!isWay ·) with
    | none => .refused .directory
    | some name => .refused (if maxName < name.utf8ByteSize then .nameTooLong else .missing)

end Settings

end StoreBench
