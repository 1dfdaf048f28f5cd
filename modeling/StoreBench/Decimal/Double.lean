/-
Binary floating-point numbers of sixty-four bits, kept as their bits, so that two of them are equal
exactly when they are the same number in the same form. `Double.render` writes one in a layout;
`Double.read?` reads a decimal numeral, rounding to the nearest number.
-/

import StoreBench.Decimal.Nearest
import StoreBench.Decimal.Shortest
import StoreBench.Text.Numeral

namespace StoreBench.Decimal

/-- A floating-point number, by its bits. -/
structure Double where
  bits : UInt64
deriving Repr, DecidableEq

namespace Double

/-! ### Parts of the bits -/

def isNegative (x : Double) : Bool :=
  x.bits >>> 63 != 0

def magnitude (x : Double) : Nat :=
  (x.bits &&& 0x7FFFFFFFFFFFFFFF).toNat

/-- The number with the sign and the other bits. -/
def ofMagnitude (negative : Bool) (bits : Nat) : Double :=
  ⟨if negative then .ofNat bits ||| 0x8000000000000000 else .ofNat bits⟩

def isSpecial (x : Double) : Bool :=
  infiniteBits ≤ x.magnitude

def isNaN (x : Double) : Bool :=
  infiniteBits < x.magnitude

/-- The two numbers have one value. The two zeros do, and what is not a number equals itself. -/
def sameValue (x y : Double) : Bool :=
  x.isNaN && y.isNaN || !x.isNaN && !y.isNaN &&
    (x.bits == y.bits || x.magnitude == 0 && y.magnitude == 0)

def infinity : Double := .ofMagnitude false infiniteBits

def negativeInfinity : Double := .ofMagnitude true infiniteBits

def nan : Double := .ofMagnitude false (infiniteBits + exponentStep / 2)

end Double

/-! ### Writing -/

structure Layout where
  /-- The least exponent of the leading digit that is written positionally. -/
  plainFrom : Int
  /-- The least exponent above it that is not. -/
  plainBelow : Int
  infinity : String
  negativeInfinity : String
  nan : String

/-- The digits with a point, `whole` of them before it; zeros fill the places on both sides. -/
def placed (digits : List Char) (whole : Int) : List Char :=
  if whole ≤ 0 then
    ['0', '.'] ++ List.replicate (-whole).toNat '0' ++ digits
  else if digits.length ≤ whole.toNat then
    digits ++ List.replicate (whole.toNat - digits.length) '0' ++ ['.', '0']
  else
    digits.take whole.toNat ++ ['.'] ++ digits.drop whole.toNat

/-- The digits as a leading digit, a fraction if there is one, and an exponent. -/
def scientific (digits : List Char) (exponent : Int) : List Char :=
  let fraction := digits.drop 1
  digits.take 1 ++ (if fraction.isEmpty then [] else '.' :: fraction) ++
    'e' :: (Text.decimal exponent).toList

def Figure.layOut (d : Figure) (style : Layout) : List Char :=
  let digits := Nat.toDigits 10 d.digits
  let exponent := d.exponent + digits.length - 1
  if d.digits == 0 then placed digits 1
  else if style.plainFrom ≤ exponent && exponent < style.plainBelow then
    placed digits (exponent + 1)
  else scientific digits exponent

/-- The number with the fewest digits that identify it. -/
def Double.render (x : Double) (style : Layout) : String :=
  if x.isNaN then style.nan
  else if x.isSpecial then
    if x.isNegative then style.negativeInfinity else style.infinity
  else
    let body := (shortest x.magnitude).layOut style
    String.ofList (if x.isNegative then '-' :: body else body)

/-! ### Reading -/

/-- The characters of a decimal numeral: its sign, the digits around the point, its exponent. -/
structure Numeral where
  negative : Bool
  whole : List Char
  fraction : List Char
  exponent : Int
deriving Repr, DecidableEq

/-- The exponent behind the mark `e`, or zero where the text ends. -/
def readExponent? : List Char → Option Int
  | [] => some 0
  | 'e' :: rest => Text.signed? 10 rest
  | 'E' :: rest => Text.signed? 10 rest
  | _ => none

/-- Reads digits with at most one point among them and at most one sign in front, then an exponent;
there must be a digit on at least one side of the point. -/
def Numeral.read? (s : List Char) : Option Numeral := do
  let (negative, body) :=
    match s with
    | '-' :: rest => (true, rest)
    | '+' :: rest => (false, rest)
    | _ => (false, s)
  let whole := body.takeWhile Char.isDigit
  let behind := body.dropWhile Char.isDigit
  let (fraction, tail) :=
    match behind with
    | '.' :: rest => (rest.takeWhile Char.isDigit, rest.dropWhile Char.isDigit)
    | _ => ([], behind)
  if whole.isEmpty && fraction.isEmpty then none
  else
    let exponent ← readExponent? tail
    some ⟨negative, whole, fraction, exponent⟩

/-- The bits of the number nearest to `m * 10 ^ e`. Beyond four hundred digits on either side of
the point every number other than zero is infinite or zero. -/
def decimalBits (m : Nat) (e : Int) : Nat :=
  let leading := e + (Nat.toDigits 10 m).length
  if m == 0 || leading < -400 then 0
  else if 400 < leading then infiniteBits
  else nearestBits (scaled m 10 e) (scaled 1 10 (-e))

/-- The number nearest to the numeral's value; its sign is kept at zero too. -/
def Numeral.toDouble (x : Numeral) : Double :=
  let m := (x.whole ++ x.fraction).foldl (fun n c => n * 10 + (c.toNat - '0'.toNat)) 0
  .ofMagnitude x.negative (decimalBits m (x.exponent - x.fraction.length))

/-- Reads a decimal numeral whose nearest number is finite. -/
def Double.read? (s : List Char) : Option Double :=
  ((Numeral.read? s).map Numeral.toDouble).filter fun x => !x.isSpecial

end StoreBench.Decimal
