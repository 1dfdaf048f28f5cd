/-
The bits of a floating-point number of sixty-four bits, its sign aside. They hold binary digits and
the exponent of the last of them, so that the number is `digitsOf bits * 2 ^ unitOf bits`.
`bitsOf` puts the two together again (`bitsOf_digitsOf`); digits that run over carry into the
exponent, as they should.
-/

namespace StoreBench.Decimal

/-- The exponent counts from the fifty-third bit on. -/
def exponentStep : Nat := 0x10000000000000

/-- The exponent of the last digit of the least numbers. -/
def leastUnit : Int := -1074

/-- The bits of infinity; those of what is not a number are above them. -/
def infiniteBits : Nat := 0x7FF * exponentStep

/-- The binary digits of the finite number with the bits. -/
def digitsOf (bits : Nat) : Nat :=
  if bits < exponentStep then bits else exponentStep + bits % exponentStep

/-- The exponent of the last of these digits. -/
def unitOf (bits : Nat) : Int :=
  leastUnit + (bits / exponentStep - 1 : Nat)

/-- The bits of `digits * 2 ^ unit`, which must have no more digits than there is room for. -/
def bitsOf (digits : Nat) (unit : Int) : Nat :=
  (unit - leastUnit).toNat * exponentStep + digits

@[simp] theorem bitsOf_digitsOf (bits : Nat) : bitsOf (digitsOf bits) (unitOf bits) = bits := by
  have parts := Nat.div_add_mod bits exponentStep
  by_cases small : bits < exponentStep
  · have digits : digitsOf bits = bits := if_pos small
    rw [bitsOf, digits]
    simp only [unitOf, exponentStep] at *
    omega
  · have digits : digitsOf bits = exponentStep + bits % exponentStep := if_neg small
    rw [bitsOf, digits]
    simp only [unitOf, exponentStep] at *
    omega

end StoreBench.Decimal
