/-
Entries of a file system as it reports them, and the comparison of an entry with what a test
expects. The expected entry is a filter: length and time of modification always count, a number
other than zero and a text that is given count too, everything else does not.
-/

import StoreBench.Fault
import StoreBench.Text.Numeral

namespace StoreBench

/-! ### Permissions -/

structure Permission where
  bits : UInt16
deriving Repr, DecidableEq

namespace Permission

/-- The permission with the bits, those beyond the twelve that have a meaning dropped. -/
def ofBits (bits : UInt16) : Permission :=
  ⟨bits &&& 0o7777⟩

/-- The bits for reading, writing and executing, of the owner, the group and all others. -/
def flags : List (UInt16 × Char) :=
  [(0o400, 'r'), (0o200, 'w'), (0o100, 'x'), (0o040, 'r'), (0o020, 'w'), (0o010, 'x'),
    (0o004, 'r'), (0o002, 'w'), (0o001, 'x')]

/-- The permission as nine letters or dashes, with a `t` behind them if the sticky bit is set. -/
def text (p : Permission) : String :=
  let letters := flags.map fun flag => if p.bits &&& flag.1 != 0 then flag.2 else '-'
  String.ofList (letters ++ if p.bits &&& 0o1000 != 0 then ['t'] else [])

end Permission

/-! ### Entries -/

/-- A file or directory. Times are in milliseconds, lengths in bytes. -/
structure Entry where
  path : String := ""
  isDirectory : Bool := false
  length : UInt64 := 0
  blockSize : UInt64 := 0
  modified : Int64 := 0
  accessed : Int64 := 0
  replication : UInt16 := 0
  owner : Option String := none
  group : Option String := none
  permission : Option Permission := none
deriving Repr, DecidableEq

namespace Entry

/-! ### Comparing -/

/-- The mismatch of a field, if the texts stand for different values. -/
def differ {α : Type} [DecidableEq α] (text : α → String) (field : String) (expected actual : α) :
    List Mismatch :=
  if expected = actual then [] else [⟨field, text expected, text actual⟩]

/-- The mismatch of a field that counts unless the expected value is zero. -/
def differUnless {α : Type} [DecidableEq α] (text : α → String) (zero : α) (field : String)
    (expected actual : α) : List Mismatch :=
  if expected = zero then [] else differ text field expected actual

/-- The mismatch of a field that counts if a value is expected. -/
def differGiven {α : Type} [DecidableEq α] (text : α → String) (field : String)
    (expected actual : Option α) : List Mismatch :=
  match expected, actual with
  | none, _ => []
  | some want, some got => differ text field want got
  | some want, none => [⟨field, text want, "<none>"⟩]

def word64 (n : UInt64) : String := Text.decimal n.toNat

def word16 (n : UInt16) : String := Text.decimal n.toNat

def signed64 (n : Int64) : String := Text.decimal n.toInt

/-- The mismatches of the fields that files and directories have in common. -/
def commonMismatches (actual expected : Entry) : List Mismatch :=
  differ signed64 "modification_time" expected.modified actual.modified
    ++ differUnless word64 0 "block_size" expected.blockSize actual.blockSize
    ++ differUnless word16 0 "replication" expected.replication actual.replication
    ++ differUnless signed64 0 "access_time" expected.accessed actual.accessed
    ++ differGiven id "owner" expected.owner actual.owner
    ++ differGiven id "group" expected.group actual.group
    ++ differGiven Permission.text "permission" expected.permission actual.permission

/-- The mismatches of an entry that should be of the kind and length given. -/
def mismatches (isDirectory : Bool) (length : UInt64) (actual expected : Entry) : List Mismatch :=
  differ Text.boolWord "is_directory" isDirectory actual.isDirectory
    ++ differ word64 "len" length actual.length
    ++ commonMismatches actual expected

def settle (actual : Entry) (found : List Mismatch) : Except Fault Unit :=
  if found.isEmpty then .ok () else .error (.entry actual.path found)

/-- Checks that the entry is a file as expected; every mismatch is reported. -/
def verifyFile (actual expected : Entry) : Except Fault Unit :=
  settle actual (mismatches false expected.length actual expected)

/-- Checks that the entry is a directory of length zero and otherwise as expected. -/
def verifyDirectory (actual expected : Entry) : Except Fault Unit :=
  settle actual (mismatches true 0 actual expected)

end Entry

end StoreBench
