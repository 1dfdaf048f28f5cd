/-
Settings from the value of a YAML document. The keys on the way to a leaf, joined by dots, are the
key of its text; a leaf is a scalar or a list of scalars, whose texts are joined by commas. Of two
leaves with one key the later counts. Keys must be scalars and so must the items of a list; a tag
in front of a value of a mapping counts for nothing.
-/

import StoreBench.Fault
import StoreBench.Settings
import StoreBench.Yaml.Value

namespace StoreBench.Settings

/-! ### Leaves -/

/-- The text of a scalar without a tag; null is empty text. -/
def scalarText? : Yaml.Value → Option String
  | .null => some ""
  | .bool b => some (Text.boolWord b)
  | .number n => some n.text
  | .text s => some s
  | .sequence _ => none
  | .mapping _ => none
  | .tagged _ _ => none

/-- The key one step below `above`. Nothing is above the outermost keys. -/
def keyBelow (above segment : String) : String :=
  if above == "" then segment else above ++ "." ++ segment

/-- The texts of the items of the list at a key. -/
def itemTexts (key : String) : List Yaml.Value → Except Fault (List String)
  | [] => .ok []
  | item :: items =>
    match scalarText? item with
    | some s => (itemTexts key items).map (s :: ·)
    | none => .error (.configuration (.nestedList key))

mutual

/-- The keys and texts of the leaves of a value below `above`, in document order. -/
def leaves (above : String) : Yaml.Value → Except Fault (List (String × String))
  | .null => .ok [(above, "")]
  | .bool b => .ok [(above, Text.boolWord b)]
  | .number n => .ok [(above, n.text)]
  | .text s => .ok [(above, s)]
  | .sequence items => (itemTexts above items).map fun texts => [(above, Text.joined "," texts)]
  | .mapping entries => entryLeaves above entries
  | .tagged _ value => leaves above value

/-- The keys and texts of the leaves of a mapping's entries below `above`. -/
def entryLeaves (above : String) :
    List (Yaml.Value × Yaml.Value) → Except Fault (List (String × String))
  | [] => .ok []
  | (key, value) :: entries =>
    match scalarText? key with
    | some segment => do
      let first ← leaves (keyBelow above segment) value
      let others ← entryLeaves above entries
      return first ++ others
    | none => .error (.configuration (.unsupportedKey above))

end

/-! ### Settings -/

/-- The settings that a document's value stands for: none for null, the leaves of a mapping. No
other value will do. -/
def ofValue : Yaml.Value → Except Fault Settings
  | .null => .ok .empty
  | .mapping entries => (entryLeaves "" entries).map Settings.ofList
  | other => .error (.configuration (.notMapping other.describe))

end StoreBench.Settings
