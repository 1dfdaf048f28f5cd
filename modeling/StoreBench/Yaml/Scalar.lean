/-
What a plain scalar means. Null and the truth values have a few spellings each; a whole number is
decimal or begins with `0x`, `0o` or `0b`; a number with a point or an exponent, and a whole number
too wide for 128 bits, is a floating-point number; everything else is text. `Number.text` is the
text of a number: decimal for a whole number, the fewest digits for any other.
-/

import StoreBench.Decimal.Double
import StoreBench.Yaml.Fault

namespace StoreBench.Yaml

open StoreBench

/-! ### Numbers -/

inductive Number
  | int (n : Int)
  | float (x : Decimal.Double)
deriving Repr, DecidableEq

/-- Floating-point numbers are written with the fewest digits that identify them, positionally from
a hundred-thousandth up to below `10 ^ 16`, and with an exponent without padding otherwise. -/
def Number.layout : Decimal.Layout where
  plainFrom := -5
  plainBelow := 16
  infinity := ".inf"
  negativeInfinity := "-.inf"
  nan := ".nan"

def Number.text : Number → String
  | .int n => Text.decimal n
  | .float x => x.render Number.layout

/-- Two numbers are the same key: equal as whole numbers or as floating-point numbers, never across
the two kinds. -/
def Number.sameKey : Number → Number → Bool
  | .int m, .int n => m == n
  | .float x, .float y => x.sameValue y
  | _, _ => false

namespace Scalar

/-! ### Spellings -/

def isNull (s : String) : Bool :=
  ["null", "Null", "NULL", "~"].contains s

/-- The truth value with the spelling. -/
def bool? (s : String) : Option Bool :=
  if ["true", "True", "TRUE"].contains s then some true
  else if ["false", "False", "FALSE"].contains s then some false
  else none

/-- A zero followed by further digits only, behind at most one sign: no number. -/
def isPadded (s : List Char) : Bool :=
  let digits :=
    match s with
    | '-' :: rest => rest
    | '+' :: rest => rest
    | _ => s
  2 ≤ digits.length && digits.head? == some '0' && digits.all Char.isDigit

/-- The base that a letter behind a zero announces. -/
def radix? : Char → Option Nat
  | 'x' => some 16
  | 'o' => some 8
  | 'b' => some 2
  | _ => none

/-- A number behind a zero and the letter of its base. -/
def radixed? : List Char → Option Nat
  | '0' :: letter :: digits => (radix? letter).bind fun base => Text.natural? base digits
  | _ => none

/-- A whole number without a minus sign; a plus sign may stand in front. -/
def unsigned? (s : List Char) : Option Nat :=
  let body :=
    match s with
    | '+' :: rest => rest
    | _ => s
  match radixed? body with
  | some n => some n
  | none => if isPadded s then none else Text.natural? 10 body

/-- A whole number with a minus sign in front. -/
def negative? : List Char → Option Int
  | '-' :: body =>
    let n? :=
      match radixed? body with
      | some n => some n
      | none => if isPadded body then none else Text.natural? 10 body
    n?.map fun n => -(n : Int)
  | _ => none

def int? (s : List Char) : Option Int :=
  match unsigned? s with
  | some n => some n
  | none => negative? s

/-- A floating-point number: a decimal numeral, an infinity behind at most one sign, or what is not
a number. -/
def float? (s : List Char) : Option Decimal.Double :=
  let body :=
    match s with
    | '+' :: rest => rest
    | '-' :: rest => rest
    | _ => s
  if [".inf", ".Inf", ".INF"].contains (String.ofList body) then
    some (if s.head? == some '-' then .negativeInfinity else .infinity)
  else if [".nan", ".NaN", ".NAN"].contains (String.ofList s) then some .nan
  else Decimal.Double.read? s

/-! ### Widths -/

/-- The number fits sixty-four bits, with a sign or without. -/
def fitsWord (n : Int) : Bool :=
  Int64.minValue.toInt ≤ n && n < UInt64.size

/-- The number fits 128 bits, with a sign or without. -/
def fitsDoubleWord (n : Int) : Bool :=
  Int64.minValue.toInt * UInt64.size ≤ n && n < UInt64.size * UInt64.size

/-- The whole number with this text that fits 128 bits; one that does not fit sixty-four is
refused. -/
def wordInt? (s : List Char) : Except Fault (Option Int) :=
  match (int? s).filter fitsDoubleWord with
  | some n => if fitsWord n then .ok (some n) else .error .tooWide
  | none => .ok none

/-! ### Meaning -/

inductive Meaning
  | null
  | bool (b : Bool)
  | number (n : Number)
  | text
deriving Repr, DecidableEq

/-- The meaning of a plain scalar without a tag. -/
def meaning (s : String) : Except Fault Meaning :=
  if s == "" || isNull s then .ok .null
  else
    match bool? s with
    | some b => .ok (.bool b)
    | none => do
      if let some n ← wordInt? s.toList then return .number (.int n)
      if isPadded s.toList then return .text
      match float? s.toList with
      | some x => return .number (.float x)
      | none => return .text

end Scalar

end StoreBench.Yaml
