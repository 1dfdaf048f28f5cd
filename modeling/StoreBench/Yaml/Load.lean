/-
Reading values. `Value.ofDocument` puts the node that an alias stands for in its place and gives
every scalar its meaning; it bounds how deep collections nest and how many aliases are followed, so
that a small text cannot grow without limit. `load` reads the value of a text.
-/

import StoreBench.Yaml.Node
import StoreBench.Yaml.Token.Stream
import StoreBench.Yaml.Value

namespace StoreBench.Yaml

/-! ### Documents -/

def parse (s : String) : Except Fault Document := do
  Document.ofTokens? (← Scan.tokens s)

/-! ### Scalars -/

namespace Scalar

/-- The value of a scalar whose meaning is known. -/
def Meaning.toValue (s : String) : Meaning → Value
  | .null => .null
  | .bool b => .bool b
  | .number n => .number n
  | .text => .text s

/-- The value of a scalar without a tag. -/
def untagged (s : String) (style : Style) : Except Fault Value :=
  if style == .plain then (meaning s).map (Meaning.toValue s) else .ok (.text s)

/-- The value of a scalar whose tag is known everywhere. The tags for truth values, whole numbers,
floating-point numbers and null ask for that kind; with any other the scalar is text. -/
def withGlobal (s : String) (tag : Tag) : Except Fault Value :=
  let demand (value? : Option Value) : Except Fault Value :=
    match value? with
    | some value => .ok value
    | none => .error .kind
  if tag == .core "bool" then demand ((bool? s).map .bool)
  else if tag == .core "int" then do demand ((← wordInt? s.toList).map fun n => .number (.int n))
  else if tag == .core "float" then demand ((float? s.toList).map fun x => .number (.float x))
  else if tag == .core "null" then demand (if isNull s then some .null else none)
  else .ok (.text s)

end Scalar

/-! ### Values -/

namespace Value

/-- A step of reading values; the state counts the aliases followed. -/
abbrev Reader := StateT Nat (Except Fault)

/-- Collections nest at most this deep. -/
def maxDepth : Nat := 128

/-- At most this many aliases are followed for each node and end of a collection. -/
def maxAliases : Nat := 100

def follow (d : Document) (label : Nat) : Reader Node := do
  let followed := (← get) + 1
  set followed
  if followed > d.size * maxAliases then throw .tooManyAliases
  match d.target? label with
  | some node => return node
  | none => throw .unknownAnchor

/-- Reads the entries of a mapping; a key must not come twice. -/
def readEntries (inner : Node → Reader Value) :
    List (Node × Node) → List (Value × Value) → Reader (List (Value × Value))
  | [], before => return before.reverse
  | (k, v) :: rest, before => do
    let k ← inner k
    if before.any fun entry => entry.1.sameKey k then throw .duplicateKey
    let v ← inner v
    readEntries inner rest ((k, v) :: before)

/-- The value with the tag of the document itself that stands in front of it. A tag of any other sort
counts for nothing there. -/
def withTag : Option Tag → Value → Value
  | some (.named name), value => .tagged name value
  | _, value => value

/-- Reads a node that is no alias. `inner` reads the nodes inside a collection, if one may nest
here. -/
def readTarget (inner : Option (Node → Reader Value)) : Node → Reader Value
  | .alias _ => throw .unknownAnchor
  | .scalar (some (.global full)) s _ => Scalar.withGlobal s (.global full)
  | .scalar tag s style => withTag tag <$> Scalar.untagged s style
  | .sequence tag items => do
    let some inner := inner | throw .tooDeep
    return withTag tag (.sequence (← items.mapM inner))
  | .mapping tag entries => do
    let some inner := inner | throw .tooDeep
    return withTag tag (.mapping (← readEntries inner entries []))

/-- Reads a node, an alias being followed first. -/
def readWith (d : Document) (inner : Option (Node → Reader Value)) : Node → Reader Value
  | .alias label => do readTarget inner (← follow d label)
  | node => readTarget inner node

/-- Reads a node in which collections nest at most to the given depth. -/
def readNode (d : Document) : Nat → Node → Reader Value
  | 0 => readWith d none
  | depth + 1 => readWith d (some (readNode d depth))

/-- The value of a document; that of an empty text is null. -/
def ofDocument (d : Document) : Except Fault Value :=
  match d.root with
  | none => .ok .null
  | some root => (·.1) <$> (readNode d maxDepth root).run 0

end Value

def load (s : String) : Except Fault Value := do
  Value.ofDocument (← parse s)

end StoreBench.Yaml
