/-
Reading nodes whose kind is known beforehand: text, truth values, whole numbers in a range, and
values that may be left out. A plain scalar is read for what it says, whatever its tag; a literal
block counts as a number or truth value only if its tag asks for one.
-/

import StoreBench.Yaml.Load

namespace StoreBench.Yaml.Document

/-- The node itself, or the one that an alias stands for. -/
def resolved (d : Document) : Node → Except Fault Node
  | .alias label =>
    match d.target? label with
    | some node => .ok node
    | none => .error .unknownAnchor
  | node => .ok node

def textOf (d : Document) (node : Node) : Except Fault String := do
  match ← d.resolved node with
  | .scalar _ s _ => return s
  | _ => throw .kind

/-- The text of a scalar that can be read as the kind of value with the given core tag. -/
def bareText (d : Document) (core : String) (node : Node) : Except Fault String := do
  match ← d.resolved node with
  | .scalar tag s style =>
    if style == .plain || (style == .literal && tag == some (Tag.core core)) then return s
    else throw .kind
  | _ => throw .kind

/-- The value read, which must be there. -/
def demand {α : Type} : Option α → Except Fault α
  | some value => .ok value
  | none => .error .kind

def boolOf (d : Document) (node : Node) : Except Fault Bool := do
  demand (Scalar.bool? (← d.bareText "bool" node))

/-- A whole number without a minus sign, below the bound. -/
def naturalOf (d : Document) (bound : Nat) (node : Node) : Except Fault Nat := do
  demand ((Scalar.unsigned? (← d.bareText "int" node).toList).filter (· < bound))

/-- A whole number of sixty-four bits. -/
def int64Of (d : Document) (node : Node) : Except Fault Int64 := do
  let n ← demand ((Scalar.int? (← d.bareText "int" node).toList).filter Text.fitsInt64)
  return Int64.ofInt n

/-- A value that is left out where nothing or null is written. A scalar with quotes or with a tag
is written, unless the tag is that of null. -/
def optionOf {α : Type} (d : Document) (read : Node → Except Fault α) (node : Node) :
    Except Fault (Option α) := do
  let node ← d.resolved node
  match node with
  | .scalar tag s .plain =>
    if tag == some (Tag.core "null") then
      if Scalar.isNull s then return none else throw .kind
    else if tag.isNone && (s == "" || Scalar.isNull s) then return none
    else some <$> read node
  | _ => some <$> read node

/-- The entries of the outermost mapping, the keys by their source texts. An empty document has
none. -/
def fields (d : Document) : Except Fault (List (String × Node)) :=
  match d.root with
  | none => .ok []
  | some (.scalar _ "" .plain) => .ok []
  | some (.mapping _ entries) => entries.mapM fun entry => do
    return (← d.textOf entry.1, entry.2)
  | some _ => .error .kind

end StoreBench.Yaml.Document
