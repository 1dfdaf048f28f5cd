/-
Anchors, aliases, tags and directives. Each reader starts at the mark of its token and leaves the
place behind it.
-/

import StoreBench.Text.Numeral
import StoreBench.Yaml.Cursor
import StoreBench.Yaml.Fault
import StoreBench.Yaml.Token

namespace StoreBench.Yaml.Scan

open StoreBench

/-! ### Anchors -/

/-- What may follow the name of an anchor or alias. -/
def endsAnchor (s : List Char) : Bool :=
  endsWord s || s.head?.any fun c => "?:,]\x7d%@\x60".toList.contains c

/-- Reads the name behind the mark of an anchor or alias. -/
def anchorName (c : Cursor) : Except Fault (String × Cursor) :=
  let (name, c) := (c.skip 1).run isNameChar
  if name.isEmpty || !endsAnchor c.rest then .error .token
  else .ok (String.ofList name, c)

/-! ### Tags -/

/-- The character may stand in a tag; brackets and commas only where `wide` holds. -/
def isTagChar (wide : Bool) (c : Char) : Bool :=
  isNameChar c || ";/?:@&=+$.%!~*'()".toList.contains c || (wide && ",[]".toList.contains c)

/-- The length of the sequence of octets that an octet begins. -/
def octetWidth? (n : Nat) : Option Nat :=
  if n < 0x80 then some 1
  else if n < 0xC0 then none
  else if n < 0xE0 then some 2
  else if n < 0xF0 then some 3
  else if n < 0xF8 then some 4
  else none

/-- The octet written as a percent sign and two digits. -/
def octet? : List Char → Option Nat
  | '%' :: high :: low :: _ => Text.natural? 16 [high, low]
  | _ => none

/-- The bits of the octets that continue a character, `n` octets from here. -/
def octetsFrom (s : List Char) : Nat → Nat → Except Fault Nat
  | 0, code => .ok code
  | n + 1, code =>
    match octet? s with
    | some octet =>
      if octet / 64 == 2 then octetsFrom (s.drop 3) n (code * 64 + octet % 64)
      else .error .token
    | none => .error .token

/-- The least code that a sequence of octets of the width is meant for; a lesser one has a shorter
sequence. -/
def leastCode : Nat → Nat
  | 2 => 0x80
  | 3 => 0x800
  | 4 => 0x10000
  | _ => 0

/-- The character that begins with the octet written here, if its octets encode one, and the length
of its written form. -/
def escapedTagChar (s : List Char) : Except Fault (Option Char × Nat) :=
  match octet? s with
  | none => .error .token
  | some first =>
    match octetWidth? first with
    | none => .error .token
    | some 1 => .ok (some (Char.ofNat first), 3)
    | some width => do
      let code ← octetsFrom (s.drop 3) (width - 1) (first % (0x80 >>> width))
      let encodes := leastCode width ≤ code && code.isValidChar
      return (if encodes then some (Char.ofNat code) else none, 3 * width)

/-- The characters of a tag from this place, percent escapes resolved. -/
def tagChars (wide : Bool) : Nat → Cursor → Except Fault (TagText × Cursor)
  | 0, c => .ok ([], c)
  | fuel + 1, c =>
    match c.peek with
    | none => .ok ([], c)
    | some x =>
      if !isTagChar wide x then .ok ([], c)
      else do
        let (y, length) ← if x == '%' then escapedTagChar c.rest else .ok (some x, 1)
        let (rest, c) ← tagChars wide fuel (c.skip length)
        return (y :: rest, c)

def tagText (wide : Bool) (c : Cursor) : Except Fault (TagText × Cursor) :=
  tagChars wide (c.rest.length + 1) c

/-- A handle from this place: an exclamation mark, a name and, if there is one, a further mark. -/
def tagHandle (c : Cursor) : List Char × Cursor :=
  let (name, c) := (c.skip 1).run isNameChar
  if c.at? '!' then ('!' :: name ++ ['!'], c.skip 1) else ('!' :: name, c)

/-- The text is a handle that a further mark closes. -/
def isClosedHandle (handle : List Char) : Bool :=
  2 ≤ handle.length && handle.getLast? == some '!'

/-- Reads a tag as a handle and a suffix. A tag between angle brackets and the mark alone have an
empty handle. What stands behind a null character counts for nothing. -/
def tag (inFlow : Bool) (c : Cursor) : Except Fault (Token × Cursor) := do
  let (token, c) ←
    if (c.skip 1).at? '<' then do
      let (suffix, c) ← tagText true (c.skip 2)
      if suffix.isEmpty || !c.at? '>' then throw .token
      pure (Token.tag "" suffix.beforeNull, c.skip 1)
    else do
      let (handle, c) := tagHandle c
      let (text, c) ← tagText false c
      if isClosedHandle handle then
        if text.isEmpty then throw .token
        pure (Token.tag (String.ofList handle) text.beforeNull, c)
      else
        let suffix := (handle.drop 1).map some ++ text.beforeNull
        if suffix.isEmpty then pure (Token.tag "" [some '!'], c)
        else pure (Token.tag "!" suffix, c)
  if !endsWord c.rest && !(inFlow && c.at? ',') then throw .token
  return (token, c)

/-! ### Directives -/

/-- A number of at most nine digits. -/
def versionNumber (c : Cursor) : Except Fault (Nat × Cursor) :=
  let (digits, c) := c.run Char.isDigit
  match Text.natural? 10 digits with
  | some n => if digits.length ≤ 9 then .ok (n, c) else .error .token
  | none => .error .token

/-- Reads a directive up to the end of its line. -/
def directive (c : Cursor) : Except Fault (Token × Cursor) := do
  let (name, c) := (c.skip 1).run isNameChar
  if !endsWord c.rest then throw .token
  let (token, c) ←
    match String.ofList name with
    | "YAML" => do
      let (major, c) ← versionNumber c.skipSpaces
      if !c.at? '.' then throw .token
      let (minor, c) ← versionNumber (c.skip 1)
      pure (Token.version major minor, c)
    | "TAG" => do
      let c := c.skipSpaces
      if !c.at? '!' then throw .token
      let (handle, c) := tagHandle c
      if !isClosedHandle handle && handle != ['!'] then throw .token
      if !c.rest.head?.any isSpace then throw .token
      let (expansion, c) ← tagText true c.skipSpaces
      if expansion.isEmpty || !endsWord c.rest then throw .token
      pure (Token.handle (String.ofList handle) expansion.beforeNull, c)
    | _ => throw .token
  let c := c.skipSpaces.skipComment
  if !c.endsLine then throw .token
  return (token, c.skipBreak)

end StoreBench.Yaml.Scan
