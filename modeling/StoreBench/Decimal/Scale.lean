/-
Scaling a whole number by a power of another. A negative exponent leaves the number alone: what is
compared with it, or divided by it, is scaled by the opposite exponent, so that two values that are
not whole numbers meet as whole numbers.
-/

namespace StoreBench.Decimal

/-- The number times the power of the base, if the exponent is not negative. -/
def scaled (n base : Nat) (exponent : Int) : Nat :=
  n * Nat.pow base exponent.toNat

@[simp] theorem scaled_zero (n base : Nat) : scaled n base 0 = n := by
  simp [scaled]

end StoreBench.Decimal
