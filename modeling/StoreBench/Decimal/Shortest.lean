/-
The fewest decimal digits that identify a binary floating-point number of sixty-four bits. The
reals that round to the number are its basin, and all that is asked of a basin is asked in whole
numbers over one denominator. `Basin.shortest` tries ever finer powers of ten and takes the first
that has a multiple in the basin, of two multiples the closer and of two equally close the even one.
-/

import StoreBench.Decimal.Bits
import StoreBench.Decimal.Scale

namespace StoreBench.Decimal

/-! ### Figures and basins -/

/-- A decimal, `digits * 10 ^ exponent`. -/
structure Figure where
  digits : Nat
  exponent : Int
deriving Repr, DecidableEq

/-- The reals that round to a number, all over the denominator `parts`: those between `low` and
`high`, and the two ends too if `closed` holds. The number itself is `center`. -/
structure Basin where
  low : Nat
  center : Nat
  high : Nat
  parts : Nat
  closed : Bool
deriving Repr, DecidableEq

/-- The basin of the finite number with the bits. It reaches halfway to both neighbours, and the
one below a power of two is half as far away as the one above. A tie goes to even digits. -/
def Basin.ofBits (bits : Nat) : Basin :=
  let digits := digitsOf bits
  let unit := unitOf bits
  let below := if bits % exponentStep == 0 && exponentStep < bits then 1 else 2
  { low := scaled (4 * digits - below) 2 unit
    center := scaled (4 * digits) 2 unit
    high := scaled (4 * digits + 2) 2 unit
    parts := scaled 4 2 (-unit)
    closed := digits % 2 == 0 }

namespace Basin

/-- Compares a figure with a number over the denominator of the basin. -/
def compareTo (b : Basin) (d : Figure) (n : Nat) : Ordering :=
  compare (scaled (d.digits * b.parts) 10 d.exponent) (scaled n 10 (-d.exponent))

def holds (b : Basin) (d : Figure) : Bool :=
  match b.compareTo d b.low, b.compareTo d b.high with
  | .gt, .lt => true
  | .eq, _ => b.closed
  | _, .eq => b.closed
  | _, _ => false

/-! ### The search -/

/-- The multiple of `10 ^ i` that is next to the number and rounds to it. -/
def onGrid? (b : Basin) (i : Int) : Option Figure :=
  let n := scaled b.center 10 (-i) / scaled b.parts 10 i
  match b.holds ⟨n, i⟩, b.holds ⟨n + 1, i⟩ with
  | true, false => some ⟨n, i⟩
  | false, true => some ⟨n + 1, i⟩
  | false, false => none
  | true, true =>
    match b.compareTo ⟨2 * n + 1, i⟩ (2 * b.center) with
    | .lt => some ⟨n + 1, i⟩
    | .gt => some ⟨n, i⟩
    | .eq => some ⟨n + n % 2, i⟩

/-- The least exponent from `guess` on whose power of ten is above the number, within the given
steps. -/
def scaleFrom (b : Basin) : Nat → Int → Int
  | 0, guess => guess
  | steps + 1, guess =>
    if b.compareTo ⟨1, guess⟩ b.center == .gt then guess else b.scaleFrom steps (guess + 1)

/-- The least exponent whose power of ten is above the number. Three decimal digits are a little
less than ten binary ones, so the difference of the binary logarithms gives a guess that is too low
by three at most. -/
def scale (b : Basin) : Int :=
  b.scaleFrom 8 (((b.center.log2 : Int) - b.parts.log2 - 1) * 30103 / 100000 - 1)

end Basin

/-- The figure without zeros at its end, as far as the given steps reach. -/
def Figure.strip : Nat → Figure → Figure
  | 0, d => d
  | steps + 1, d =>
    if d.digits != 0 && d.digits % 10 == 0 then
      Figure.strip steps ⟨d.digits / 10, d.exponent + 1⟩
    else d

/-- The exact decimal value of the finite number with the bits. -/
def exactFigure (bits : Nat) : Figure :=
  let unit := unitOf bits
  ⟨scaled (scaled (digitsOf bits) 2 unit) 5 (-unit), min unit 0⟩

/-- The shortest figure that rounds to the finite number with the bits, and of these the closest.
Seventeen digits are enough for every number; the exact value stands behind them. -/
def shortest (bits : Nat) : Figure :=
  if bits == 0 then ⟨0, 0⟩
  else
    let b := Basin.ofBits bits
    let top := b.scale - 1
    let found? := (List.range 17).findSome? fun (n : Nat) => b.onGrid? (top - n)
    (found?.getD (exactFigure bits)).strip 400

end StoreBench.Decimal
