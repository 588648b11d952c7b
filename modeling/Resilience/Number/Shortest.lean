import Resilience.Number.Dyadic

/-!
# The shortest decimal of a float

A float stands for all reals that round to it, an interval around its exact value with its ends
included when the mantissa is even (`Rounding`). Of the decimals in that interval `shortest` takes
one with the fewest digits, and of those the one nearest to the exact value.

Decimals of `n` digits form a grid around the value, so it is enough to look at the value's two
neighbours on the grids of one, two and up to seventeen digits, in exact arithmetic.
-/

namespace Resilience.Number

/-- The decimal `digits * 10 ^ exponent`. -/
structure Decimal where
  digits : Nat
  exponent : Int
deriving DecidableEq, Repr, Inhabited

/-- The reals that round to a float, in units of a quarter of its last binary place. -/
structure Rounding where
  low : Nat
  value : Nat
  high : Nat
  /-- The exponent of two that one unit stands for. -/
  unit : Int
  /-- Whether the ends belong to it. -/
  closed : Bool

namespace Rounding

/-- The reals nearer to `d` than to any other float. Below a power of two the floats lie twice as
close. -/
def ofDyadic (d : Dyadic) : Rounding :=
  let m := d.mantissa
  { low := 4 * m - (if m = Dyadic.leading ∧ d.exponent ≠ Dyadic.leastExponent then 1 else 2)
    value := 4 * m
    high := 4 * m + 2
    unit := d.exponent - 2
    closed := m % 2 = 0 }

/-- Factors `(a, b)` such that `c * 10 ^ k` compares to `x` units as `c * a` to `x * b`. -/
def factors (r : Rounding) (k : Int) : Nat × Nat :=
  (Nat.pow 10 k.toNat * Nat.pow 2 (-r.unit).toNat,
    Nat.pow 10 (-k).toNat * Nat.pow 2 r.unit.toNat)

/-- Whether `c * 10 ^ k` rounds to the float. -/
def holds (r : Rounding) (k : Int) (c : Nat) : Bool :=
  let (a, b) := r.factors k
  if r.closed then r.low * b ≤ c * a ∧ c * a ≤ r.high * b
  else r.low * b < c * a ∧ c * a < r.high * b

/-- The multiple of `10 ^ k` that rounds to the float, the nearer one if two neighbours do. -/
def onGrid? (r : Rounding) (k : Int) : Option Nat :=
  let (a, b) := r.factors k
  let c := r.value * b / a
  match r.holds k c, r.holds k (c + 1) with
  | true, true => some (roundQuotient (r.value * b) a)
  | true, false => some c
  | false, true => some (c + 1)
  | false, false => none

/-- The exponent of the leading decimal digit of the value, found by counting up from `e`. -/
def leading (r : Rounding) : Nat → Int → Int
  | 0, e => e
  | fuel + 1, e =>
    let (a, b) := r.factors (e + 1)
    if a ≤ r.value * b then r.leading fuel (e + 1) else e

end Rounding

/-- `d` without zeros at its end. -/
def Decimal.trimmed (d : Decimal) : Nat → Decimal
  | 0 => d
  | fuel + 1 =>
    if d.digits ≠ 0 ∧ d.digits % 10 = 0 then
      Decimal.trimmed ⟨d.digits / 10, d.exponent + 1⟩ fuel
    else d

/-- The shortest decimal that rounds to a finite float other than zero. -/
def shortest (x : Float) : Decimal :=
  let r := Rounding.ofDyadic (.ofFloat x)
  let e := r.leading 640 (-330)
  let found := (List.range 17).findSome? fun (n : Nat) =>
    (r.onGrid? (e - n)).map fun c => Decimal.mk c (e - n)
  (found.getD ⟨0, 0⟩).trimmed 20

end Resilience.Number
