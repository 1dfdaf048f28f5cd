/-
Why a YAML text is refused. No fault carries a text: what a caller may tell apart is its kind.
-/

namespace StoreBench.Yaml

inductive Fault
  /-- A character that no document may hold. -/
  | character
  /-- Text that is no token where it stands. -/
  | token
  /-- Tokens that form no document. -/
  | arrangement
  | secondDocument
  | unknownAnchor
  /-- More aliases followed than the size of the document allows. -/
  | tooManyAliases
  | tooDeep
  | duplicateKey
  /-- A number too wide for the words that hold numbers. -/
  | tooWide
  /-- A value of another kind than its tag or its reader asks for. -/
  | kind
deriving Repr, DecidableEq

end StoreBench.Yaml
