/-
A YAML document as a tree of nodes. Tags are kept as written, handles resolved; aliases keep the
label of the anchor they name. `Document.ofTokens?` reads the one document of a token list. The
text's end is the end of the list; a token that may not stand where it does refuses the text.
-/

import StoreBench.Yaml.Fault
import StoreBench.Yaml.Token

namespace StoreBench.Yaml

/-! ### Nodes -/

inductive Node
  /-- Stands for the node that carries the anchor with this label. -/
  | alias (label : Nat)
  | scalar (tag : Option Tag) (text : String) (style : Style)
  | sequence (tag : Option Tag) (items : List Node)
  | mapping (tag : Option Tag) (entries : List (Node × Node))

structure Anchored where
  label : Nat
  /-- How many nodes and ends of collections come before it. -/
  position : Nat
  node : Node

structure Document where
  /-- The outermost node; a text without any token has none. -/
  root : Option Node
  anchored : List Anchored
  /-- How many nodes and ends of collections there are. -/
  size : Nat

/-- The node that an alias with the label stands for. Should two nodes carry the label, the one
that begins later is meant. -/
def Document.target? (d : Document) (label : Nat) : Option Node :=
  let step (best : Option Anchored) (a : Anchored) : Option Anchored :=
    if a.label == label && best.all (·.position ≤ a.position) then some a else best
  (d.anchored.foldl step none).map Anchored.node

namespace Node

/-- The empty scalar that stands where a node is left out. -/
def empty : Node := .scalar none "" .plain

/-! ### Reading nodes from tokens -/

/-- What is known while nodes are read. -/
structure Reading where
  tokens : List Token
  /-- The text that each tag handle stands for. -/
  handles : List (String × TagText)
  /-- The label of each anchor name seen, the last anchor of a name counting. -/
  labels : List (String × Nat)
  anchored : List Anchored
  size : Nat

/-- A step of reading nodes. -/
abbrev Reader := StateT Reading (Except Fault)

def peek : Reader (Option Token) := do
  return (← get).tokens.head?

def advance : Reader Unit :=
  modify fun r => { r with tokens := r.tokens.drop 1 }

/-- Counts a node or the end of a collection. -/
def count : Reader Unit :=
  modify fun r => { r with size := r.size + 1 }

/-- Passes over the next token if it is the given one, and says whether it was. -/
def accept (t : Token) : Reader Bool := do
  let found := (← peek) == some t
  if found then advance
  return found

/-- The next token is one of the given ones, or the text ends. -/
def atAny (stops : List Token) : Reader Bool := do
  return (← peek).all stops.contains

def atSome (stops : List Token) : Reader Bool := do
  return (← peek).any stops.contains

def readEmpty : Reader Node := do
  count
  return empty

/-- The full text of the tag: a handle stands for a text, an empty one for nothing. -/
def resolveTag (handle : String) (suffix : TagText) : Reader Tag := do
  if handle == "" then return .ofText suffix
  match (← get).handles.lookup handle with
  | some expansion => return .ofText (expansion ++ suffix)
  | none => throw .arrangement

/-- The tag and the anchor in front of a node, in either order and each at most once. -/
def readProperties : Reader (Option String × Option Tag) := do
  let anchor? : Reader (Option String) := do
    match ← peek with
    | some (.anchor name) => advance; return some name
    | _ => return none
  let tag? : Reader (Option Tag) := do
    match ← peek with
    | some (.tag handle suffix) => advance; return some (← resolveTag handle suffix)
    | _ => return none
  match ← anchor? with
  | some name => return (some name, ← tag?)
  | none =>
    let tag ← tag?
    return (← if tag.isSome then anchor? else pure none, tag)

/-- Gives the anchor name the next label: the number of different names so far. -/
def declare (name : String) : Reader Nat := do
  let r ← get
  let label := r.labels.length
  set { r with labels := (name, label) :: r.labels.filter fun entry => entry.1 != name }
  return label

def label (name : String) : Reader Nat := do
  match (← get).labels.lookup name with
  | some label => return label
  | none => throw .unknownAnchor

/-- Reads a node with the given reader and keeps it for the aliases of its anchor. -/
def withAnchor (anchor? : Option String) (read : Reader Node) : Reader Node := do
  match anchor? with
  | none => read
  | some name =>
    let label ← declare name
    let position := (← get).size
    let node ← read
    modify fun r => { r with anchored := ⟨label, position, node⟩ :: r.anchored }
    return node

inductive Place
  | flow
  | block
  /-- In a block mapping, where a sequence needs no indentation of its own. -/
  | entry
deriving DecidableEq

mutual

def read : Nat → Place → Reader Node
  | 0, _ => throw .arrangement
  | fuel + 1, place => do
    if let some (.alias name) ← peek then
      advance
      count
      return .alias (← label name)
    let (anchor?, tag) ← readProperties
    let next ← peek
    withAnchor anchor? do
      count
      match next with
      | some (.scalar text style) => advance; return .scalar tag text style
      | some .openSequence => advance; return .sequence tag (← readFlowItems fuel true)
      | some .openMapping => advance; return .mapping tag (← readFlowEntries fuel true)
      | some .blockSequence =>
        if place == .flow then leftOut anchor? tag
        else do advance; return .sequence tag (← readItems fuel)
      | some .blockMapping =>
        if place == .flow then leftOut anchor? tag
        else do advance; return .mapping tag (← readEntries fuel)
      | some .item =>
        if place == .entry then return .sequence tag (← readBareItems fuel)
        else leftOut anchor? tag
      | _ => leftOut anchor? tag
where
  /-- A node of which only an anchor or a tag is written. -/
  leftOut (anchor? : Option String) (tag : Option Tag) : Reader Node :=
    if anchor?.isSome || tag.isSome then return .scalar tag "" .plain else throw .arrangement

/-- Reads a node unless one of the tokens stands here, which leave it out. -/
def readUnless : Nat → Place → List Token → Reader Node
  | 0, _, _ => throw .arrangement
  | fuel + 1, place, stops => do
    if ← atSome stops then readEmpty else read fuel place

/-- The items of a block sequence up to its end. -/
def readItems : Nat → Reader (List Node)
  | 0 => throw .arrangement
  | fuel + 1 => do
    if ← accept .item then
      let item ← readUnless fuel .block [.item, .blockEnd]
      return item :: (← readItems fuel)
    if ← accept .blockEnd then
      count
      return []
    throw .arrangement

/-- The items of a sequence that stands at the column of the mapping around it. -/
def readBareItems : Nat → Reader (List Node)
  | 0 => throw .arrangement
  | fuel + 1 => do
    if ← accept .item then
      let item ← readUnless fuel .block [.item, .key, .value, .blockEnd]
      return item :: (← readBareItems fuel)
    count
    return []

/-- The entries of a block mapping up to its end. -/
def readEntries : Nat → Reader (List (Node × Node))
  | 0 => throw .arrangement
  | fuel + 1 => do
    if ← accept .key then
      let key ← readUnless fuel .entry [.key, .value, .blockEnd]
      let value ←
        if ← accept .value then readUnless fuel .entry [.key, .value, .blockEnd] else readEmpty
      return (key, value) :: (← readEntries fuel)
    if ← accept .blockEnd then
      count
      return []
    throw .arrangement

/-- The items between square brackets up to the closing one. An item with a key is a mapping of
one entry. -/
def readFlowItems : Nat → Bool → Reader (List Node)
  | 0, _ => throw .arrangement
  | fuel + 1, first => do
    if ← accept .closeSequence then
      count
      return []
    if !first then
      if !(← accept .comma) then throw .arrangement
      if ← accept .closeSequence then
        count
        return []
    let item ← if ← accept .key then readPair fuel else read fuel .flow
    return item :: (← readFlowItems fuel false)

/-- The single entry of a mapping that is written as an item. Where its key is left out, the token
that stands in its place is passed over. -/
def readPair : Nat → Reader Node
  | 0 => throw .arrangement
  | fuel + 1 => do
    count
    let key ←
      if ← atSome [.value, .comma, .closeSequence] then do
        advance
        readEmpty
      else read fuel .flow
    let value ←
      if ← accept .value then readUnless fuel .flow [.comma, .closeSequence] else readEmpty
    count
    return .mapping none [(key, value)]

/-- The entries between braces up to the closing one. -/
def readFlowEntries : Nat → Bool → Reader (List (Node × Node))
  | 0, _ => throw .arrangement
  | fuel + 1, first => do
    if ← accept .closeMapping then
      count
      return []
    if !first then
      if !(← accept .comma) then throw .arrangement
      if ← accept .closeMapping then
        count
        return []
    let entry ←
      if ← accept .key then do
        let key ← readUnless fuel .flow [.value, .comma, .closeMapping]
        let value ←
          if ← accept .value then readUnless fuel .flow [.comma, .closeMapping] else readEmpty
        pure (key, value)
      else do
        let key ← read fuel .flow
        pure (key, ← readEmpty)
    return entry :: (← readFlowEntries fuel false)

end

end Node

/-! ### Documents -/

namespace Document

/-- The directives in front of a document: at most one version, which must be 1.1 or 1.2, and each
tag handle once. -/
def readDirectives : List Token → Bool → List (String × TagText) →
    Except Fault (List (String × TagText) × List Token)
  | .version major minor :: rest, seen, handles =>
    if seen || major != 1 || (minor != 1 && minor != 2) then .error .arrangement
    else readDirectives rest true handles
  | .handle name expansion :: rest, seen, handles =>
    if (handles.lookup name).isSome then .error .arrangement
    else readDirectives rest seen ((name, expansion) :: handles)
  | rest, _, handles => .ok (handles, rest)

/-- The handles that every document has, behind its own. -/
def commonHandles : List (String × TagText) :=
  [("!", .ofString "!"), ("!!", Tag.coreText)]

/-- Reads the outermost node and everything behind it, which must be marks of a document's end. -/
def readRoot (tokens : List Token) (handles : List (String × TagText))
    (explicit : Bool) : Except Fault Document := do
  let read : Node.Reader Node := do
    if explicit && (← Node.atAny [.documentStart, .documentEnd]) then Node.readEmpty
    else Node.read (4 * tokens.length + 4) .block
  let (root, r) ← read ⟨tokens, handles ++ commonHandles, [], [], 0⟩
  match r.tokens.dropWhile (· == .documentEnd) with
  | [] => return ⟨some root, r.anchored, r.size⟩
  | .documentStart :: _ => throw .secondDocument
  | _ => throw .arrangement

/-- Reads the one document of a text. -/
def ofTokens? (tokens : List Token) : Except Fault Document :=
  match tokens with
  | [] => .ok ⟨none, [], 1⟩
  | .version _ _ :: _ => explicit
  | .handle _ _ :: _ => explicit
  | .documentStart :: _ => explicit
  | _ => readRoot tokens [] false
where
  /-- Reads a document that begins with its directives and its mark. -/
  explicit : Except Fault Document := do
    let (handles, rest) ← readDirectives tokens false []
    match rest with
    | .documentStart :: rest => readRoot rest handles true
    | _ => throw .arrangement

end Document

end StoreBench.Yaml
