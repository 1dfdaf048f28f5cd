/-
The tokens of a whole text. A colon may turn what stands before it into a key, so the beginning of
a possible key is remembered and its tokens are put in front of it when the colon comes. Columns of
block collections are kept innermost first; a line that begins left of them ends them.
`tokens` reads a text; its list ends where the text ends.
-/

import StoreBench.Yaml.Token.Scalar
import StoreBench.Yaml.Token.Property

namespace StoreBench.Yaml.Scan

/-! ### The state of reading -/

/-- The beginning of what may turn out to be a key. -/
structure PendingKey where
  /-- Nothing but a key may stand here. -/
  required : Bool
  /-- Tokens before it. -/
  position : Nat
  line : Nat
  column : Nat
  offset : Nat

/-- The tokens read so far and what the next ones depend on. -/
structure State where
  cursor : Cursor
  /-- The last token first. -/
  read : List Token
  count : Nat
  /-- The columns of the open block collections, innermost first. -/
  columns : List Nat
  /-- The possible key of the innermost brackets, or of the block outside all of them. -/
  pending : Option PendingKey
  /-- The possible keys around them, innermost first: one for each open bracket. -/
  outer : List (Option PendingKey)
  /-- A key may begin at this place. -/
  keyAllowed : Bool

namespace State

def start (s : List Char) : State :=
  ⟨Cursor.start s, [], 0, [], none, [], true⟩

def inFlow (s : State) : Bool := !s.outer.isEmpty

/-- The least column of what belongs to the innermost block collection. -/
def floor (s : State) : Nat :=
  match s.columns with
  | [] => 0
  | column :: _ => column + 1

def push (s : State) (t : Token) : State :=
  { s with read := t :: s.read, count := s.count + 1 }

/-- Puts a token in front of all but the first `position` tokens. -/
def insert (s : State) (position : Nat) (t : Token) : State :=
  { s with read := s.read.insertIdx (s.count - position) t, count := s.count + 1 }

def moveTo (s : State) (c : Cursor) : State := { s with cursor := c }

def allowKey (s : State) (allowed : Bool) : State := { s with keyAllowed := allowed }

/-! ### Keys -/

/-- A possible key is out of reach of a colon at the place: it began on another line or more than
1024 octets before. -/
def PendingKey.isStale (key : PendingKey) (c : Cursor) : Bool :=
  key.line < c.line || key.offset + 1024 < c.offset

/-- Gives up the possible keys that are out of reach; a required one must not be. -/
def dropStale (s : State) : Except Fault State :=
  let stale (key? : Option PendingKey) : Bool := key?.any (PendingKey.isStale · s.cursor)
  let lost (key? : Option PendingKey) : Bool := stale key? && key?.any PendingKey.required
  let keep (key? : Option PendingKey) : Option PendingKey := if stale key? then none else key?
  if lost s.pending || s.outer.any lost then .error .token
  else .ok { s with pending := keep s.pending, outer := s.outer.map keep }

/-- Gives up the possible key of the innermost brackets, which must not be required. -/
def dropKey (s : State) : Except Fault State :=
  if s.pending.any PendingKey.required then .error .token
  else .ok { s with pending := none }

/-- Remembers this place as the beginning of a possible key. -/
def markKey (s : State) : Except Fault State :=
  if s.keyAllowed then do
    let s ← s.dropKey
    let required := !s.inFlow && s.columns.head? == some s.cursor.column
    return { s with
      pending := some ⟨required, s.count, s.cursor.line, s.cursor.column, s.cursor.offset⟩ }
  else .ok s

/-! ### Block collections -/

/-- Outside brackets, opens a block collection at the column if none is open there, in front of
all but the first `position` tokens. -/
def openBlock (s : State) (column position : Nat) (t : Token) : State :=
  if !s.inFlow && s.columns.head?.all (· < column) then
    { s with columns := column :: s.columns }.insert position t
  else s

/-- Ends the block collections right of the column, or all of them if there is none. -/
def closeBlocks (column? : Option Nat) (s : State) : State :=
  if s.inFlow then s
  else
    let closed := s.columns.takeWhile fun column => column?.all (· < column)
    { s with
      columns := s.columns.drop closed.length
      read := closed.map (fun _ => Token.blockEnd) ++ s.read
      count := s.count + closed.length }

end State

/-! ### Reading one token -/

/-- The place of the next token, comments and empty lines behind it. Tabs are blanks only inside
brackets and where no key may begin; a line break outside brackets lets a key begin. -/
def toToken : Nat → State → State
  | 0, s => s
  | fuel + 1, s =>
    let c := if s.cursor.column == 0 && s.cursor.at? byteOrderMark then s.cursor.skip 1
      else s.cursor
    let blank := fun x => x == ' ' || (x == '\t' && (s.inFlow || !s.keyAllowed))
    let c := ((c.run blank).2).skipComment
    match c.breakLine with
    | some (_, next) => toToken fuel { s with cursor := next, keyAllowed := s.keyAllowed || !s.inFlow }
    | none => s.moveTo c

/-- A mark that begins or ends a document, or the place of a directive: all blocks end. -/
def outsideBlocks (s : State) : Except Fault State := do
  return ((← (s.closeBlocks none).dropKey).allowKey false)

def openFlow (s : State) (t : Token) : Except Fault State := do
  let s ← s.markKey
  return { s with
    outer := s.pending :: s.outer
    pending := none
    keyAllowed := true
    cursor := s.cursor.skip 1 }.push t

def closeFlow (s : State) (t : Token) : Except Fault State := do
  let s ← s.dropKey
  return { s with
    pending := s.outer.head?.getD s.pending
    outer := s.outer.drop 1
    keyAllowed := false
    cursor := s.cursor.skip 1 }.push t

/-- A mark of one character that begins an item, a key or a value outside brackets. -/
def blockMark (s : State) (collection mark : Token) (keyAfter : Bool) : Except Fault State := do
  if !s.inFlow && !s.keyAllowed then throw .token
  let s ← (s.openBlock s.cursor.column s.count collection).dropKey
  return { s with keyAllowed := keyAfter, cursor := s.cursor.skip 1 }.push mark

/-- A colon. If a key is pending, its tokens go in front of what began there. -/
def valueMark (s : State) : Except Fault State :=
  match s.pending with
  | some key =>
    let s := (s.insert key.position .key).openBlock key.column key.position .blockMapping
    .ok ({ s with pending := none, keyAllowed := false, cursor := s.cursor.skip 1 }.push .value)
  | none => blockMark s .blockMapping .value (!s.inFlow)

/-- A token that may begin a key. -/
def keyStart (s : State) (scan : Cursor → Except Fault (Token × Cursor)) : Except Fault State := do
  let s ← s.markKey
  let (t, c) ← scan s.cursor
  return ((s.allowKey false).moveTo c).push t

def blockScalar (s : State) (folded : Bool) : Except Fault State := do
  let s ← s.dropKey
  let (text, c) ← block folded s.floor (s.cursor.skip 1)
  let style := if folded then Style.folded else Style.literal
  return ((s.allowKey true).moveTo c).push (.scalar (String.ofList text) style)

def quotedScalar (s : State) (quote : Char) (style : Style) : Except Fault State :=
  keyStart s fun c => do
    let (text, c) ← quoted quote (c.skip 1)
    return (.scalar (String.ofList text) style, c)

/-- A plain scalar; a key may begin behind it if its line has ended. -/
def plainScalar (s : State) : Except Fault State := do
  let s ← s.markKey
  let (text, lineEnded, c) ← plain s.inFlow s.floor s.cursor
  return ((s.allowKey lineEnded).moveTo c).push (.scalar (String.ofList text) .plain)

/-- The character is a mark that no plain scalar begins with. -/
def isMark (c : Char) : Bool :=
  "-?:,[]\x7b\x7d#&*!|>'\"%@\x60".toList.contains c

/-- A plain scalar may begin with these characters. A dash may begin one before anything but a
blank, a question mark or colon outside brackets before anything but white space. -/
def beginsPlain (inFlow : Bool) : List Char → Bool
  | [] => false
  | c :: rest =>
    !(isSpace c || isBreak c || isMark c)
      || (c == '-' && !rest.head?.any isSpace)
      || (!inFlow && (c == '?' || c == ':') && !endsWord rest)

def oneToken (s : State) (x : Char) : Except Fault State :=
  let c := s.cursor
  let separate := endsWord (c.rest.drop 1)
  if c.column == 0 && x == '%' then do
    let s ← outsideBlocks s
    let (t, c) ← directive c
    return (s.moveTo c).push t
  else if c.atTriple '-' then do
    return ((← outsideBlocks s).moveTo (c.skip 3)).push .documentStart
  else if c.atTriple '.' then do
    return ((← outsideBlocks s).moveTo (c.skip 3)).push .documentEnd
  else if x == '[' then openFlow s .openSequence
  else if x == '\x7b' then openFlow s .openMapping
  else if x == ']' then closeFlow s .closeSequence
  else if x == '\x7d' then closeFlow s .closeMapping
  else if x == ',' then do
    return (((← s.dropKey).allowKey true).moveTo (c.skip 1)).push .comma
  else if x == '-' && separate then blockMark s .blockSequence .item true
  else if x == '?' && (s.inFlow || separate) then blockMark s .blockMapping .key (!s.inFlow)
  else if x == ':' && (s.inFlow || separate) then valueMark s
  else if x == '*' then keyStart s fun c => do
    let (name, c) ← anchorName c
    return (.alias name, c)
  else if x == '&' then keyStart s fun c => do
    let (name, c) ← anchorName c
    return (.anchor name, c)
  else if x == '!' then keyStart s (tag s.inFlow)
  else if x == '|' && !s.inFlow then blockScalar s false
  else if x == '>' && !s.inFlow then blockScalar s true
  else if x == '\'' then quotedScalar s '\'' .singleQuoted
  else if x == '"' then quotedScalar s '"' .doubleQuoted
  else if beginsPlain s.inFlow c.rest then plainScalar s
  else .error .token

/-! ### Reading all tokens -/

/-- Reads tokens up to the end of the text. -/
def allTokens : Nat → State → Except Fault State
  | 0, _ => .error .token
  | fuel + 1, s => do
    let s := toToken (s.cursor.rest.length + 1) s
    let s := (← s.dropStale).closeBlocks (some s.cursor.column)
    match s.cursor.peek with
    | none => (s.closeBlocks none).dropKey
    | some x => allTokens fuel (← oneToken s x)

def tokens (s : String) : Except Fault (List Token) :=
  if s.toList.all isAllowed then do
    let state ← allTokens (s.length + 1) (State.start s.toList)
    return state.read.reverse
  else .error .character

end StoreBench.Yaml.Scan
