/-
Tags. The text of a tag is written in octets, so an escape may hold octets that encode no character;
`TagText` keeps such a place apart from every character. A null character ends the text.
`Tag.ofText` tells the tags of a document itself, which begin with an exclamation mark, from those
known everywhere.
-/

namespace StoreBench.Yaml

/-! ### Texts -/

/-- The text of a tag; `none` stands for octets that encode no character. -/
abbrev TagText := List (Option Char)

namespace TagText

/-- The text whose octets encode the string. -/
def ofString (s : String) : TagText :=
  s.toList.map some

/-- The text up to its first null character. -/
def beforeNull (text : TagText) : TagText :=
  text.takeWhile (· != some '\x00')

/-- The string that the octets of the text encode, if they encode one. -/
def toString? (text : TagText) : Option String :=
  (text.mapM id).map String.ofList

end TagText

/-! ### Tags -/

inductive Tag
  /-- A tag of the document itself, without its exclamation mark; the mark alone is its own name. -/
  | named (name : String)
  /-- A tag of the document itself whose octets encode no name. It counts for nothing. -/
  | nameless
  /-- A tag known everywhere, by its full text. -/
  | global (text : TagText)
deriving Repr, DecidableEq

namespace Tag

/-- The tag with the given full text. -/
def ofText : TagText → Tag
  | [some '!'] => .named "!"
  | some '!' :: name => ((TagText.toString? name).map .named).getD .nameless
  | text => .global text

/-- What the full texts of the core schema's tags begin with. -/
def coreText : TagText := .ofString "tag:yaml.org,2002:"

/-- The tag of the core schema with the given name. -/
def core (name : String) : Tag :=
  .global (coreText ++ .ofString name)

end Tag

end StoreBench.Yaml
