/-
Sizes in bytes: a whole number and at most one letter that multiplies it by a power of 1024.
-/

import StoreBench.Text.Numeral
import StoreBench.Text.Ranges

namespace StoreBench.ByteSize

/-- The power of 1024 that a letter stands for. -/
def power? (c : Char) : Option Nat :=
  match c.toLower with
  | 'k' => some 1
  | 'm' => some 2
  | 'g' => some 3
  | 't' => some 4
  | 'p' => some 5
  | 'e' => some 6
  | _ => none

/-- The number that stands before a letter, and the power that the letter stands for; a text that
ends with no such letter is all number. -/
def parts (s : List Char) : List Char × Nat :=
  match s.getLast?.bind power? with
  | some power => (s.dropLast, power)
  | none => (s, 0)

/-- The size that a text gives, white space around it aside. Neither the number nor the size may
leave sixty-four bits. -/
def parse? (s : String) : Option Int64 :=
  let (digits, power) := parts (Text.trim s.toList)
  let number? := (Text.signed? 10 digits).filter Text.fitsInt64
  ((number?.map fun n => n * (Nat.pow 1024 power : Int)).filter Text.fitsInt64).map Int64.ofInt

end StoreBench.ByteSize
