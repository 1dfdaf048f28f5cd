/-
The text of scalars. A scalar may run over several lines; `Gap` is the white space between two of
its words and `Gap.fold` what counts of it. `plain`, `quoted` and `block` read a scalar in each of
its written forms and leave the place behind it.
-/

import StoreBench.Text.Numeral
import StoreBench.Yaml.Cursor
import StoreBench.Yaml.Fault
import StoreBench.Yaml.Token

namespace StoreBench.Yaml.Scan

open StoreBench

/-! ### White space inside scalars -/

/-- White space between two words: the blanks before the first line break and the line breaks. -/
structure Gap where
  spaces : List Char
  breaks : List Char

def Gap.none : Gap := ⟨[], []⟩

/-- What counts of a gap. Blanks stay when no line ends; one line feed becomes a space, of several
the first is dropped; a separator that is kept as it is stays in any case. -/
def Gap.fold (gap : Gap) : List Char :=
  match gap.breaks with
  | [] => gap.spaces
  | ['\n'] => [' ']
  | '\n' :: more => more
  | breaks => breaks

/-- Reads a gap. On its further lines no tab may stand left of the column `floor`. -/
def readGap (floor : Nat) : Nat → Cursor → List Char → Except Fault (Gap × Cursor)
  | 0, c, breaks => .ok (⟨[], breaks⟩, c)
  | fuel + 1, c, breaks =>
    let (spaces, next) := c.run isSpace
    let firstTab := c.column + (spaces.takeWhile (· != '\t')).length
    if !breaks.isEmpty && firstTab < next.column && firstTab < floor then .error .token
    else
      match next.breakLine with
      | some (mark, line) => readGap floor fuel line (breaks ++ [mark])
      | none => .ok (⟨if breaks.isEmpty then spaces else [], breaks⟩, next)

/-! ### Plain scalars -/

/-- The character ends a plain scalar inside brackets. -/
def isFlowMark (c : Char) : Bool :=
  c == ',' || c == '[' || c == ']' || c == '{' || c == '}'

/-- The next word of a plain scalar; inside brackets a colon must not touch a mark. -/
def plainWord (inFlow : Bool) : List Char → Except Fault (List Char)
  | [] => .ok []
  | c :: rest =>
    if isSpace c || isBreak c then .ok []
    else if c == ':' && inFlow && rest.head?.any (fun x => isFlowMark x || x == '?') then
      .error .token
    else if c == ':' && endsWord rest then .ok []
    else if inFlow && isFlowMark c then .ok []
    else (plainWord inFlow rest).map (c :: ·)

/-- The words of a plain scalar after `text` and the gap before this place. The answer says too
whether a line has ended behind the last word. -/
def plainFrom (inFlow : Bool) (floor : Nat) :
    Nat → Cursor → List Char → Gap → Except Fault (List Char × Bool × Cursor)
  | 0, c, text, gap => .ok (text, !gap.breaks.isEmpty, c)
  | fuel + 1, c, text, gap =>
    if c.atDocumentMark || c.at? '#' then .ok (text, !gap.breaks.isEmpty, c)
    else do
      let word ← plainWord inFlow c.rest
      if word.isEmpty then return (text, !gap.breaks.isEmpty, c)
      let text := text ++ gap.fold ++ word
      let c := c.skip word.length
      if !c.rest.head?.any (fun x => isSpace x || isBreak x) then return (text, false, c)
      let (gap, c) ← readGap floor (c.rest.length + 1) c []
      if !inFlow && c.column < floor then return (text, !gap.breaks.isEmpty, c)
      plainFrom inFlow floor fuel c text gap

/-- Reads a plain scalar whose further lines begin at the column `floor` or right of it. -/
def plain (inFlow : Bool) (floor : Nat) (c : Cursor) :
    Except Fault (List Char × Bool × Cursor) :=
  plainFrom inFlow floor (c.rest.length + 1) c [] Gap.none

/-! ### Quoted scalars -/

/-- The character that a letter behind a backslash stands for. -/
def escaped? : Char → Option Char
  | '0' => some '\x00'
  | 'a' => some '\x07'
  | 'b' => some '\x08'
  | 't' => some '\t'
  | '\t' => some '\t'
  | 'n' => some '\n'
  | 'v' => some '\x0b'
  | 'f' => some '\x0c'
  | 'r' => some '\r'
  | 'e' => some '\x1b'
  | ' ' => some ' '
  | '"' => some '"'
  | '/' => some '/'
  | '\\' => some '\\'
  | 'N' => some '\u0085'
  | '_' => some '\u00a0'
  | 'L' => some '\u2028'
  | 'P' => some '\u2029'
  | _ => none

/-- How many digits of a code point follow a letter behind a backslash. -/
def codeWidth? : Char → Option Nat
  | 'x' => some 2
  | 'u' => some 4
  | 'U' => some 8
  | _ => none

def charOfCode? (n : Nat) : Option Char :=
  if n.isValidChar then some (Char.ofNat n) else none

/-- The character that an escape stands for, by what follows the backslash, and its length. -/
def readEscape : List Char → Except Fault (Char × Nat)
  | [] => .error .token
  | letter :: rest =>
    match escaped? letter, codeWidth? letter with
    | some c, _ => .ok (c, 1)
    | none, some width =>
      let digits := rest.take width
      match if digits.length == width then Text.natural? 16 digits else none with
      | some n =>
        match charOfCode? n with
        | some c => .ok (c, width + 1)
        | none => .error .token
      | none => .error .token
    | none, none => .error .token

/-- The next word between single quotes and its written length; two quotes stand for one. -/
def singleWord : List Char → List Char × Nat
  | '\'' :: '\'' :: rest =>
    let (word, length) := singleWord rest
    ('\'' :: word, length + 2)
  | c :: rest =>
    if c == '\'' || isSpace c || isBreak c then ([], 0)
    else
      let (word, length) := singleWord rest
      (c :: word, length + 1)
  | [] => ([], 0)

/-- The next word between double quotes. The answer says too whether a backslash before a line
break has ended it; the place is then the beginning of the next line. -/
def doubleWord : Nat → Cursor → Except Fault (List Char × Bool × Cursor)
  | 0, c => .ok ([], false, c)
  | fuel + 1, c =>
    match c.rest with
    | [] => .ok ([], false, c)
    | '\\' :: rest =>
      if rest.head?.any isBreak then .ok ([], true, (c.skip 1).skipBreak)
      else do
        let (x, length) ← readEscape rest
        let (word, joined, c) ← doubleWord fuel (c.skip (length + 1))
        return (x :: word, joined, c)
    | x :: _ =>
      if x == '"' || isSpace x || isBreak x then .ok ([], false, c)
      else do
        let (word, joined, c) ← doubleWord fuel (c.skip 1)
        return (x :: word, joined, c)

/-- The next word of a quoted scalar. -/
def quotedWord (quote : Char) (c : Cursor) : Except Fault (List Char × Bool × Cursor) :=
  if quote == '\'' then
    let (word, length) := singleWord c.rest
    .ok (word, false, c.skip length)
  else doubleWord (c.rest.length + 1) c

/-- The text of a quoted scalar after `text`, up to the closing quote. -/
def quotedFrom (quote : Char) :
    Nat → Cursor → List Char → Except Fault (List Char × Cursor)
  | 0, _, _ => .error .token
  | fuel + 1, c, text =>
    if c.atDocumentMark || c.rest.isEmpty then .error .token
    else do
      let (word, joined, c) ← quotedWord quote c
      let text := text ++ word
      if c.at? quote then return (text, c.skip 1)
      let (gap, c) ← readGap 0 (c.rest.length + 1) c []
      quotedFrom quote fuel c (text ++ if joined then gap.breaks else gap.fold)

def quoted (quote : Char) (c : Cursor) : Except Fault (List Char × Cursor) :=
  quotedFrom quote (c.rest.length + 1) c []

/-! ### Block scalars -/

/-- What happens to the line breaks at the end of a block scalar. -/
inductive Chomping
  | strip
  | clip
  | keep
deriving Repr, DecidableEq

/-- The sign that asks for a chomping. -/
def chomping? : Char → Option Chomping
  | '-' => some .strip
  | '+' => some .keep
  | _ => none

/-- The digit that gives the indentation of a block scalar, if one stands here; it is not zero. -/
def indentDigit (c : Cursor) : Except Fault (Option Nat × Cursor) :=
  match c.peek.bind (Text.digitValue? 10) with
  | some 0 => .error .token
  | some n => .ok (some n, c.skip 1)
  | none => .ok (none, c)

/-- A sign and a digit in either order, each at most once. -/
def blockHeader (c : Cursor) : Except Fault (Chomping × Option Nat × Cursor) :=
  match c.peek.bind chomping? with
  | some chomping => do
    let (increment, c) ← indentDigit (c.skip 1)
    return (chomping, increment, c)
  | none => do
    let (increment, c) ← indentDigit c
    match increment, c.peek.bind chomping? with
    | some _, some chomping => return (chomping, increment, c.skip 1)
    | _, _ => return (.clip, increment, c)

/-- The empty lines at this place, up to the text of the next line that has one. While the
indentation is not known (`indent = 0`) all spaces belong to it; the answer holds the greatest
column reached. -/
def blockBreaks (indent : Nat) :
    Nat → Cursor → Nat → List Char → Except Fault (List Char × Nat × Cursor)
  | 0, c, widest, breaks => .ok (breaks, widest, c)
  | fuel + 1, c, widest, breaks =>
    let spaces := (c.rest.takeWhile (· == ' ')).length
    let c := c.skip (if indent == 0 then spaces else min spaces (indent - c.column))
    let widest := max widest c.column
    if (indent == 0 || c.column < indent) && c.at? '\t' then .error .token
    else
      match c.breakLine with
      | some (mark, line) => blockBreaks indent fuel line widest (breaks ++ [mark])
      | none => .ok (breaks, widest, c)

structure Block where
  text : List Char
  /-- The break of the last line with text. -/
  last : List Char
  /-- The breaks of the empty lines behind it. -/
  empty : List Char
  /-- The last line with text begins with a blank. -/
  indented : Bool

/-- The lines of a block scalar from this place. Where lines are folded, a line feed between two
lines that do not begin with a blank becomes a space, or nothing if empty lines follow it. -/
def blockLines (folded : Bool) (indent : Nat) :
    Nat → Cursor → Block → Except Fault (Block × Cursor)
  | 0, c, block => .ok (block, c)
  | fuel + 1, c, block =>
    if c.column != indent || c.rest.isEmpty then .ok (block, c)
    else do
      let indented := c.rest.head?.any isSpace
      let joint :=
        if folded && block.last == ['\n'] && !block.indented && !indented then
          if block.empty.isEmpty then [' '] else []
        else block.last
      let (line, c) := c.run fun _ => true
      let (last, c) :=
        match c.breakLine with
        | some (mark, next) => ([mark], next)
        | none => ([], c)
      let (empty, _, c) ← blockBreaks indent (c.rest.length + 1) c 0 []
      blockLines folded indent fuel c
        ⟨block.text ++ joint ++ block.empty ++ line, last, empty, indented⟩

/-- Reads a block scalar behind its mark. `floor` is one more than the column of the collection
around it and the least indentation of its lines; a digit counts from that column. -/
def block (folded : Bool) (floor : Nat) (c : Cursor) : Except Fault (List Char × Cursor) := do
  let (chomping, increment, c) ← blockHeader c
  let c := c.skipSpaces.skipComment
  if !c.endsLine then throw .token
  let c := c.skipBreak
  let given := (increment.map fun n => floor - 1 + n).getD 0
  let (empty, widest, c) ← blockBreaks given (c.rest.length + 1) c 0 []
  let indent := if given == 0 then max widest (max floor 1) else given
  let (block, c) ← blockLines folded indent (c.rest.length + 1) c ⟨[], [], empty, false⟩
  let tail :=
    match chomping with
    | .strip => []
    | .clip => block.last
    | .keep => block.last ++ block.empty
  return (block.text ++ tail, c)

end StoreBench.Yaml.Scan
