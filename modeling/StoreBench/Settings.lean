/-
Settings: texts by key, as configuration files hold them. Listing them goes by key in the order of
code points. `Settings.get?_set` and `Settings.ext` say all that writing and reading amount to.
-/

import Std.Data.ExtTreeMap
import StoreBench.Text.Numeral
import StoreBench.Text.Ranges
import StoreBench.Text.Words

namespace StoreBench

structure Settings where
  entries : Std.ExtTreeMap String String
deriving DecidableEq

namespace Settings

def empty : Settings := ⟨∅⟩

/-! ### Writing -/

def set (s : Settings) (key text : String) : Settings :=
  ⟨s.entries.insert key text⟩

/-- Sets the text at a key to the word for a truth value. -/
def setBool (s : Settings) (key : String) (b : Bool) : Settings :=
  s.set key (Text.boolWord b)

def setInt (s : Settings) (key : String) (n : Int64) : Settings :=
  s.set key (Text.decimal n.toInt)

/-- Sets texts in order; the last one at a key stays. -/
def setMany (s : Settings) (pairs : List (String × String)) : Settings :=
  pairs.foldl (fun s pair => s.set pair.1 pair.2) s

def ofList (pairs : List (String × String)) : Settings :=
  empty.setMany pairs

/-! ### Reading -/

/-- The text at a key as it is. -/
def get? (s : Settings) (key : String) : Option String :=
  s.entries[key]?

/-- The text at a key without white space at its ends. -/
def trimmed? (s : Settings) (key : String) : Option String :=
  (s.get? key).map Text.trimmed

/-- The text is the word, capital and small letters of ASCII being the same. -/
def isWord (word text : String) : Bool :=
  text.map Char.toLower == word

/-- The truth value at a key, or the default where no such word stands. -/
def getBool (s : Settings) (key : String) (default : Bool) : Bool :=
  match s.trimmed? key with
  | some text => if isWord "true" text then true else if isWord "false" text then false else default
  | none => default

def contains (s : Settings) (key : String) : Bool :=
  s.entries.contains key

/-- All keys with their texts, in the order of the keys. -/
def toList (s : Settings) : List (String × String) :=
  s.entries.toList

/-! ### What each operation does to the texts -/

@[ext] theorem ext {s t : Settings} (h : ∀ key, s.get? key = t.get? key) : s = t := by
  cases s
  cases t
  simp only [mk.injEq]
  exact Std.ExtTreeMap.ext_getElem? h

@[simp] theorem get?_empty (key : String) : empty.get? key = none := by
  simp [get?, empty]

@[simp] theorem get?_set (s : Settings) (key text other : String) :
    (s.set key text).get? other = if key = other then some text else s.get? other := by
  simp [get?, set, Std.ExtTreeMap.getElem?_insert]

theorem getBool_congr {s t : Settings} {key : String} (same : s.get? key = t.get? key)
    (default : Bool) : s.getBool key default = t.getBool key default := by
  simp only [getBool, trimmed?, same]

theorem contains_eq_isSome (s : Settings) (key : String) :
    s.contains key = (s.get? key).isSome :=
  Std.ExtTreeMap.contains_eq_isSome_getElem?

end Settings

end StoreBench
