/-
Writing scalars as values of a block mapping whose keys begin their lines. A text is written plain
where a reader takes the plain form for that text and nothing else; with line feeds it becomes a
literal block; otherwise it stands between single quotes, or between double quotes if it holds
characters that only an escape can show. Lines are never broken for their length.
-/

import StoreBench.Yaml.Scalar
import StoreBench.Yaml.Token.Scalar

namespace StoreBench.Yaml

/-! ### What a text allows -/

def printableRanges : Text.Ranges :=
  [(0x0A, 0x0A), (0x20, 0x7E), (0xA0, 0xD7FF), (0xE000, 0xFEFE), (0xFF00, 0xFFFD),
    (0x10000, 0x10FFFF)]

def isPrintable (c : Char) : Bool :=
  printableRanges.holds c

/-- Two neighbouring characters have the two properties. -/
def anyNeighbours (p q : Char → Bool) : List Char → Bool
  | [] => false
  | [_] => false
  | c :: d :: rest => (p c && q d) || anyNeighbours p q (d :: rest)

/-- A mark at the beginning of a text would be taken for something else than text. -/
def marksStart : List Char → Bool
  | [] => false
  | c :: rest =>
    "#,[]\x7b\x7d&*!|>'\"%@\x60".toList.contains c
      || ("?:-".toList.contains c && endsWord rest)

/-- A mark inside a text would be taken for something else than text: a colon before white space or
a number sign behind it. -/
def marksInside (s : List Char) : Bool :=
  s.getLast? == some ':' && 2 ≤ s.length
    || anyNeighbours (· == ':') (fun c => isSpace c || isBreak c) (s.drop 1)
    || anyNeighbours (fun c => isSpace c || isBreak c) (· == '#') s

/-- The text begins like a mark of a document. -/
def startsDocument (s : List Char) : Bool :=
  s.take 3 == ['-', '-', '-'] || s.take 3 == ['.', '.', '.']

/-- A character needs an escape, or a blank stands before a line break: only double quotes will
do. -/
def needsEscape (s : List Char) : Bool :=
  !s.all isPrintable || anyNeighbours (· == ' ') isBreak s

def allowsPlain (s : List Char) : Bool :=
  !(needsEscape s || s.any isBreak || s.head? == some ' ' || s.getLast? == some ' '
    || startsDocument s || marksStart s || marksInside s)

def allowsSingle (s : List Char) : Bool :=
  !(needsEscape s || anyNeighbours isBreak (· == ' ') s)

def allowsLiteral (s : List Char) : Bool :=
  !(needsEscape s || s.getLast? == some ' ')

/-! ### The choice -/

/-- Without quotes the text would be read as something else than text, or looks like a number. -/
def isAmbiguous (s : String) : Bool :=
  Scalar.isPadded s.toList
    || match Scalar.meaning s with
      | .ok .text => false
      | _ => true

def styleOf (s : String) : Style :=
  let chars := s.toList
  if chars.contains '\n' then
    if allowsLiteral chars then .literal else .doubleQuoted
  else if !isAmbiguous s && allowsPlain chars then .plain
  else if allowsSingle chars then .singleQuoted
  else .doubleQuoted

/-! ### Forms -/

/-- The spaces in front of the further lines of a scalar. -/
def margin : List Char := [' ', ' ']

/-- The text between single quotes. A line that follows a line break gets the margin; `broken` says
that a line break has just been written. -/
def singleForm (broken : Bool) : List Char → List Char
  | [] => if broken then margin else []
  | c :: rest =>
    if isBreak c then c :: singleForm true rest
    else (if broken then margin else []) ++ (if c == '\'' then ['\'', '\''] else [c])
      ++ singleForm false rest

/-- The letter that stands behind a backslash for the character. -/
def escapeLetter? : Char → Option Char
  | '\x00' => some '0'
  | '\x07' => some 'a'
  | '\x08' => some 'b'
  | '\t' => some 't'
  | '\n' => some 'n'
  | '\x0b' => some 'v'
  | '\x0c' => some 'f'
  | '\r' => some 'r'
  | '\x1b' => some 'e'
  | '"' => some '"'
  | '\\' => some '\\'
  | '\u0085' => some 'N'
  | '\u2028' => some 'L'
  | '\u2029' => some 'P'
  | _ => none

/-- The number in base sixteen with capital letters and the given number of digits at least. -/
def paddedHex (width n : Nat) : List Char :=
  let digits := (Nat.toDigits 16 n).map Char.toUpper
  List.replicate (width - digits.length) '0' ++ digits

/-- The form of a character between double quotes. -/
def doubleForm (c : Char) : List Char :=
  if isPrintable c && !isBreak c && c != '"' && c != '\\' then [c]
  else
    match escapeLetter? c with
    | some letter => ['\\', letter]
    | none =>
      if c.toNat ≤ 0xFF then '\\' :: 'x' :: paddedHex 2 c.toNat
      else '\\' :: 'u' :: paddedHex 4 c.toNat

/-- The sign behind the mark of a literal block: whether the line breaks at the end of the text are
none, one, or to be kept as they are. -/
def chompingSign (s : List Char) : List Char :=
  match s.reverse with
  | [] => ['-']
  | last :: before =>
    if !isBreak last then ['-']
    else if before.head?.all isBreak then ['+']
    else []

/-- The lines of a literal block, each with the margin; `broken` says that a line begins. -/
def literalLines (broken : Bool) : List Char → List Char
  | [] => []
  | c :: rest =>
    if isBreak c then c :: literalLines true rest
    else (if broken then margin else []) ++ c :: literalLines false rest

/-- A literal block. Where the text begins with a blank or a line break, a digit tells the
margin. -/
def literalForm (s : List Char) : List Char :=
  let digit := if s.head?.any fun c => c == ' ' || isBreak c then ['2'] else []
  '|' :: digit ++ chompingSign s ++ '\n' :: literalLines true s

def textForm (s : String) : List Char :=
  match styleOf s with
  | .plain => s.toList
  | .literal => literalForm s.toList
  | .doubleQuoted => '"' :: s.toList.flatMap doubleForm ++ ['"']
  | _ => '\'' :: singleForm false s.toList ++ ['\'']

/-! ### Lines -/

/-- The written form of a scalar. -/
structure Written where
  form : List Char
  /-- The form ends where a line begins. -/
  endsLine : Bool
deriving Repr, DecidableEq

/-- A word that needs no quotes. -/
def Written.word (s : String) : Written := ⟨s.toList, false⟩

def Written.ofText (s : String) : Written :=
  ⟨textForm s, styleOf s == .literal && s.toList.getLast?.any isBreak⟩

/-- The line or lines of a key and its value. -/
def Written.line (w : Written) (key : String) : String :=
  key ++ ": " ++ String.ofList w.form ++ if w.endsLine then "" else "\n"

end StoreBench.Yaml
