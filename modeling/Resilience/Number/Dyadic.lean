import Resilience.Number.Word

/-!
# Floats as exact values

A finite float is a natural number times a power of two, up to sign (`Dyadic.ofFloat`). Exact
questions about floats, such as the nearest whole number of nanoseconds or the shortest decimal,
are settled on these two numbers. A quotient is rounded to the nearest whole number, and a half to
the even neighbour (`roundQuotient`).
-/

namespace Resilience.Number

/-- The value `mantissa * 2 ^ exponent`. -/
structure Dyadic where
  mantissa : Nat
  exponent : Int
deriving DecidableEq, Repr, Inhabited

namespace Dyadic

/-- The least mantissa of a float that is not among the smallest ones : two to the power 52. -/
def leading : Nat := 0x10000000000000

/-- The exponent of the smallest floats. -/
def leastExponent : Int := -1074

/-- The magnitude of a finite float. -/
def ofFloat (x : Float) : Dyadic :=
  let bits := x.toBits.toNat
  let fraction := bits % leading
  let raised : Nat := bits / leading % 0x800
  if raised = 0 then ⟨fraction, leastExponent⟩
  else ⟨fraction + leading, leastExponent - 1 + raised⟩

/-- The value as a quotient. -/
def toQuotient (d : Dyadic) : Nat × Nat :=
  (d.mantissa * Nat.pow 2 d.exponent.toNat, Nat.pow 2 (-d.exponent).toNat)

end Dyadic

/-- Whether the sign bit of a float is set. -/
def isNegative (x : Float) : Bool := wordLimit / 2 < x.toBits.toNat

/-- The whole number nearest to `num / den`, the even one of two equally near. -/
def roundQuotient (num den : Nat) : Nat :=
  let q := num / den
  let r := num % den
  if 2 * r < den ∨ (2 * r = den ∧ q % 2 = 0) then q else q + 1

end Resilience.Number
