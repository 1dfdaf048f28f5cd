/-
The tokens of a YAML text. The end of the text is the end of the token list.
-/

import StoreBench.Yaml.Tag

namespace StoreBench.Yaml

inductive Style
  | plain
  | singleQuoted
  | doubleQuoted
  | literal
  | folded
deriving Repr, DecidableEq

inductive Token
  | version (major minor : Nat)
  /-- The tags of the handle begin with the given text. -/
  | handle (name : String) (expansion : TagText)
  | documentStart
  | documentEnd
  | blockSequence
  | blockMapping
  | blockEnd
  | openSequence
  | closeSequence
  | openMapping
  | closeMapping
  | item
  | comma
  | key
  | value
  | alias (name : String)
  | anchor (name : String)
  | tag (handle : String) (suffix : TagText)
  | scalar (text : String) (style : Style)
deriving Repr, DecidableEq

end StoreBench.Yaml
