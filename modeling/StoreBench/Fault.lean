/-
Why an operation of the bench fails. A fault names its cause; `Fault.message` words it and
`Fault.kind` classes it for callers that only dispatch. A violated assumption asks for a test to be
skipped, not failed (`Fault.isAssumption`).
-/

import StoreBench.Text.Numeral
import StoreBench.Text.Quoted
import StoreBench.Text.Words
import StoreBench.Yaml.Fault

namespace StoreBench

/-! ### Causes -/

/-- A field of an entry whose value is not the expected one; both values by their texts. -/
structure Mismatch where
  field : String
  expected : String
  actual : String
deriving Repr, DecidableEq

inductive Unreadable
  | missing
  | directory
  | nullInPath
  /-- A name, or the whole path, is longer than directories allow. -/
  | nameTooLong
  | notText
deriving Repr, DecidableEq

/-- What is wrong with settings or with how they are asked for. -/
inductive Misconfiguration
  /-- References to keys that nothing is known for, in the order of first occurrence. -/
  | unresolved (keys : List String)
  | unreadable (path : String) (reason : Unreadable)
  /-- A document that is no mapping, as a message shows it. -/
  | notMapping (found : String)
  /-- A key of a mapping that is no scalar; `above` is the key that leads to the mapping. -/
  | unsupportedKey (above : String)
  /-- An item of the list at the key that is no scalar. -/
  | nestedList (key : String)
  | unknownBackend (name : String) (known : List String)
  | otherValue (key : String) (expected actual : Option String)
  /-- Any other cause, in the words given. -/
  | stated (words : String)
deriving Repr, DecidableEq

inductive Fault
  /-- The value at the key cannot be read as what is asked for. -/
  | parse (key value target : String)
  | configuration (cause : Misconfiguration)
  | assumption (message : String)
  /-- A counter has not moved as expected. -/
  | movement (message statistic : String) (expected actual : Int64)
  /-- The entry at the path differs from the expected one. -/
  | entry (path : String) (mismatches : List Mismatch)
  | io (words : String)
  | yaml (cause : Yaml.Fault)
deriving Repr, DecidableEq

inductive Fault.Kind
  | parse
  | configuration
  | assumption
  | assertion
  | io
deriving Repr, DecidableEq

namespace Fault

/-! ### Classes -/

def kind : Fault → Kind
  | .parse .. => .parse
  | .configuration _ => .configuration
  | .yaml _ => .configuration
  | .assumption _ => .assumption
  | .movement .. => .assertion
  | .entry .. => .assertion
  | .io _ => .io

/-- The test should be skipped rather than failed. -/
def isAssumption (f : Fault) : Bool :=
  f.kind == .assumption

theorem isAssumption_iff {f : Fault} :
    f.isAssumption = true ↔ ∃ message, f = .assumption message := by
  cases f <;> simp [isAssumption, kind]

end Fault

/-! ### Words -/

def Mismatch.message (m : Mismatch) : String :=
  m.field ++ ": expected " ++ m.expected ++ ", got " ++ m.actual

def Unreadable.message : Unreadable → String
  | .missing => "No such file or directory (os error 2)"
  | .directory => "Is a directory (os error 21)"
  | .nullInPath => "file name contained an unexpected NUL byte"
  | .nameTooLong => "File name too long (os error 36)"
  | .notText => "stream did not contain valid UTF-8"

def Misconfiguration.message : Misconfiguration → String
  | .unresolved keys => "Unresolved placeholders: " ++ Text.joined ", " keys
  | .unreadable path reason =>
    "Failed to read " ++ Text.quoted path ++ ": " ++ reason.message
  | .notMapping found => "Top level of configuration must be a mapping, got " ++ found
  | .unsupportedKey above => "Unsupported key under " ++ Text.quoted above
  | .nestedList key => "Nested list value under " ++ key
  | .unknownBackend name known =>
    "Unknown metadata store backend: \"" ++ name ++ "\" (expected one of "
      ++ Text.joined ", " known ++ ")"
  | .otherValue key expected actual =>
    "Value of " ++ key ++ ": expected " ++ Text.quotedOption expected
      ++ ", got " ++ Text.quotedOption actual
  | .stated words => words

/-- The message of a fault. A fault of a YAML text has no words of its own. -/
def Fault.message : Fault → String
  | .parse key value target =>
    "Cannot parse value of " ++ key ++ " as " ++ target ++ ": " ++ Text.quoted value
  | .configuration cause => "Configuration error: " ++ cause.message
  | .assumption message => "Assumption violated: " ++ message
  | .movement message statistic expected actual =>
    message ++ ": " ++ statistic ++ " expected " ++ Text.decimal expected.toInt
      ++ " but diff was " ++ Text.decimal actual.toInt
  | .entry path mismatches =>
    "Status mismatch for " ++ path ++ ": " ++ Text.joined "; " (mismatches.map Mismatch.message)
  | .io words => "I/O error: " ++ words
  | .yaml _ => "YAML error"

end StoreBench
