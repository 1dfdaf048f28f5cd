/-
The binary floating-point number of sixty-four bits that is nearest to a fraction of whole numbers.
The unit of its last digit is fixed first, the fraction is divided by it, and the quotient is
rounded to the nearest whole number, of two equally near ones to the even one. A quotient that is
rounded up to the next power of two carries into the exponent, so no second step is needed.
-/

import StoreBench.Decimal.Bits
import StoreBench.Decimal.Scale

namespace StoreBench.Decimal

/-- The whole number nearest to `n / d`; halfway between two it is the even one. -/
def roundedQuotient (n d : Nat) : Nat :=
  let below := n / d
  match compare (2 * (n % d)) d with
  | .lt => below
  | .gt => below + 1
  | .eq => below + below % 2

/-- The binary logarithm of `n / d`, rounded down. -/
def quotientLog (n d : Nat) : Int :=
  let guess := (n.log2 : Int) - d.log2
  if scaled d 2 guess ≤ scaled n 2 (-guess) then guess else guess - 1

/-- The unit of the numbers around `n / d`: they have fifty-three digits, unless the last would be
finer than that of the least numbers. -/
def unitAround (n d : Nat) : Int :=
  max leastUnit (quotientLog n d - 52)

/-- The bits of the number nearest to `n / d`, or of infinity where that is beyond all numbers. -/
def nearestBits (n d : Nat) : Nat :=
  if n == 0 then 0
  else
    let unit := unitAround n d
    let digits := roundedQuotient (scaled n 2 (-unit)) (scaled d 2 unit)
    min (bitsOf digits unit) infiniteBits

@[simp] theorem nearestBits_zero (d : Nat) : nearestBits 0 d = 0 := rfl

end StoreBench.Decimal
