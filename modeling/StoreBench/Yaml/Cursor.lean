/-
A place in a YAML text: the characters still to be read and where the first of them stands. Line
breaks, blanks and the characters that may occur at all are told apart here; `Cursor.run` takes the
characters of one line that have a property and `Cursor.breakLine` takes a line break.
-/

import StoreBench.Text.Ranges

namespace StoreBench.Yaml

/-! ### Characters -/

def allowedRanges : Text.Ranges :=
  [(0x09, 0x0A), (0x0D, 0x0D), (0x20, 0x7E), (0x85, 0x85), (0xA0, 0xD7FF), (0xE000, 0xFFFD),
    (0x10000, 0x10FFFF)]

def isAllowed (c : Char) : Bool :=
  allowedRanges.holds c

def isSpace (c : Char) : Bool :=
  c == ' ' || c == '\t'

def isBreak (c : Char) : Bool :=
  c == '\n' || c == '\r' || c == '\u0085' || c == '\u2028' || c == '\u2029'

/-- The text ends here, or the next character is a space, a tab or a line break. -/
def endsWord (s : List Char) : Bool :=
  match s with
  | [] => true
  | c :: _ => isSpace c || isBreak c

/-- A letter, a digit, `_` or `-` of ASCII: the characters of names. -/
def isNameChar (c : Char) : Bool :=
  c.isAlphanum || c == '_' || c == '-'

/-- The mark of byte order, which may begin a line. -/
def byteOrderMark : Char := '\ufeff'

/-! ### Places -/

/-- How many octets the characters take. -/
def octets (s : List Char) : Nat :=
  s.foldr (fun c n => c.utf8Size + n) 0

/-- A place in a text. -/
structure Cursor where
  rest : List Char
  line : Nat
  column : Nat
  /-- Octets before this place. -/
  offset : Nat

namespace Cursor

def start (s : List Char) : Cursor := ⟨s, 0, 0, 0⟩

def peek (c : Cursor) : Option Char := c.rest.head?

def at? (c : Cursor) (x : Char) : Bool := c.rest.head? == some x

/-- The place after `n` further characters of this line. -/
def skip (c : Cursor) (n : Nat) : Cursor :=
  ⟨c.rest.drop n, c.line, c.column + n, c.offset + octets (c.rest.take n)⟩

/-- The longest run of characters of this line with the property, and the place after it. -/
def run (c : Cursor) (p : Char → Bool) : List Char × Cursor :=
  let taken := c.rest.takeWhile fun x => p x && !isBreak x
  (taken, c.skip taken.length)

def skipSpaces (c : Cursor) : Cursor :=
  (c.run isSpace).2

def skipComment (c : Cursor) : Cursor :=
  if c.at? '#' then (c.run fun _ => true).2 else c

/-- The line break at this place as it counts in a scalar, and the beginning of the next line. A
carriage return, a line feed, both together and the next-line character count as a line feed; the
line and paragraph separators stay what they are. -/
def breakLine (c : Cursor) : Option (Char × Cursor) :=
  match c.rest with
  | '\r' :: '\n' :: rest => some ('\n', ⟨rest, c.line + 1, 0, c.offset + 2⟩)
  | x :: rest =>
    if isBreak x then
      let kept := if x == '\u2028' || x == '\u2029' then x else '\n'
      some (kept, ⟨rest, c.line + 1, 0, c.offset + x.utf8Size⟩)
    else none
  | [] => none

/-- The beginning of the next line if a line break stands here, else this place. -/
def skipBreak (c : Cursor) : Cursor :=
  match c.breakLine with
  | some (_, next) => next
  | none => c

/-- The text ends here or a line break follows. -/
def endsLine (c : Cursor) : Bool :=
  match c.rest with
  | [] => true
  | x :: _ => isBreak x

/-- A line begins here with three equal marks and nothing joined to them. -/
def atTriple (c : Cursor) (x : Char) : Bool :=
  c.column == 0 && c.rest.take 3 == [x, x, x] && endsWord (c.rest.drop 3)

/-- A line that begins or ends a document stands here. -/
def atDocumentMark (c : Cursor) : Bool :=
  c.atTriple '-' || c.atTriple '.'

@[simp] theorem skip_zero (c : Cursor) : c.skip 0 = c := rfl

end Cursor

end StoreBench.Yaml
