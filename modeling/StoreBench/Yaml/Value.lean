/-
The value of a document: a tree of scalars, sequences and mappings, in which a tag of the document
itself is kept. `Value.describe` writes a value for a message; `Value.sameKey` says when two keys of a
mapping clash.
-/

import StoreBench.Text.Quoted
import StoreBench.Text.Words
import StoreBench.Yaml.Scalar

namespace StoreBench.Yaml

open StoreBench

inductive Value
  | null
  | bool (b : Bool)
  | number (n : Number)
  | text (s : String)
  | sequence (items : List Value)
  /-- Keys and values in the order written; no two keys are the same. -/
  | mapping (entries : List (Value × Value))
  /-- A value with a tag of the document itself. -/
  | tagged (tag : String) (value : Value)

namespace Value

/-! ### Keys -/

/-- The name of a tag without an exclamation mark in front, if anything stands behind the mark. -/
def tagName (tag : String) : String :=
  match tag.toList with
  | ['!'] => tag
  | '!' :: name => String.ofList name
  | _ => tag

mutual

/-- The two values are the same key. Mappings are compared without regard to order. -/
def sameKey : Value → Value → Bool
  | .null, .null => true
  | .bool a, .bool b => a == b
  | .number m, .number n => m.sameKey n
  | .text s, .text t => s == t
  | .sequence xs, .sequence ys => sameItems xs ys
  | .mapping es, .mapping fs => es.length == fs.length && sameEntries es fs
  | .tagged s x, .tagged t y => tagName s == tagName t && sameKey x y
  | _, _ => false

/-- The two lists hold the same keys, place by place. -/
def sameItems : List Value → List Value → Bool
  | [], [] => true
  | x :: xs, y :: ys => sameKey x y && sameItems xs ys
  | _, _ => false

/-- Every entry of the first list is an entry of the second. -/
def sameEntries : List (Value × Value) → List (Value × Value) → Bool
  | [], _ => true
  | (k, v) :: es, fs => fs.any (fun f => sameKey k f.1 && sameKey v f.2) && sameEntries es fs

end

/-! ### Messages -/

/-- Texts with commas between them. -/
def commaList (texts : List String) : String :=
  ", ".intercalate texts

mutual

def describe : Value → String
  | .null => "Null"
  | .bool b => "Bool(" ++ Text.boolWord b ++ ")"
  | .number n => "Number(" ++ n.text ++ ")"
  | .text s => "String(" ++ Text.quoted s ++ ")"
  | .sequence items => "Sequence [" ++ commaList (describeItems items) ++ "]"
  | .mapping entries => "Mapping \x7b" ++ commaList (describeEntries entries) ++ "\x7d"
  | .tagged tag value =>
    "TaggedValue \x7b tag: !" ++ tagName tag ++ ", value: " ++ describe value ++ " \x7d"

def describeItems : List Value → List String
  | [] => []
  | item :: items => describe item :: describeItems items

def describeEntries : List (Value × Value) → List String
  | [] => []
  | (key, value) :: entries => (describeKey key ++ ": " ++ describe value) :: describeEntries entries

/-- A key as a message shows it: truth values, numbers and strings without the name of their
kind. -/
def describeKey : Value → String
  | .bool b => Text.boolWord b
  | .number n => n.text
  | .text s => Text.quoted s
  | key => describe key

end

end Value

end StoreBench.Yaml
