import Resilience.Number.Shortest

/-!
# Written floats

Floats are written with the fewest digits that read back. The value with one digit before the
point tells the form : written out with a point between the exponents of `FloatForm.plain`, with
an exponent of ten outside them.
-/

namespace Resilience.Number

/-- How floats are written. -/
structure FloatForm where
  /-- The least exponent of ten written out. -/
  least : Int
  /-- The greatest exponent of ten written out. -/
  greatest : Int
  /-- What stands after a whole number. -/
  whole : String
  /-- What announces an exponent of ten that is not negative. -/
  raised : String
  /-- What announces a negative one. -/
  lowered : String

/-- Numbers from `0.00001` up to sixteen digits are written out, always with a point. Other
numbers have an exponent with its sign. -/
def FloatForm.plain : FloatForm := ⟨-5, 15, ".0", "e+", "e-"⟩

/-- `n` zeros. -/
def zeros (n : Nat) : String := String.ofList (List.replicate n '0')

/-- A number with these digits whose first has the value `10 ^ e`. -/
def FloatForm.place (form : FloatForm) (digits : List Char) (e : Int) : String :=
  if form.least ≤ e ∧ e ≤ form.greatest then
    if (digits.length : Int) ≤ e + 1 then
      String.ofList digits ++ zeros (e + 1 - digits.length).toNat ++ form.whole
    else if 0 ≤ e then
      String.ofList (digits.take (e + 1).toNat) ++ "." ++ String.ofList (digits.drop (e + 1).toNat)
    else
      "0." ++ zeros (-e - 1).toNat ++ String.ofList digits
  else
    let head := String.ofList (digits.take 1)
    let tail := String.ofList (digits.drop 1)
    let mark := if 0 ≤ e then form.raised else form.lowered
    head ++ (if digits.length ≤ 1 then "" else "." ++ tail) ++ mark ++ toString e.natAbs

/-- A finite float as text. -/
def FloatForm.write (form : FloatForm) (x : Float) : String :=
  let sign := if isNegative x then "-" else ""
  if x == 0 then sign ++ "0" ++ form.whole
  else
    let d := shortest x
    let digits := Nat.toDigits 10 d.digits
    sign ++ form.place digits (d.exponent + digits.length - 1)

end Resilience.Number
