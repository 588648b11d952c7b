import Resilience.Number.Dyadic

/-!
# Numerals

A `Numeral` is a decimal as written : a sign, digits before and after the point and an exponent.
Two rules give it a float. `nearest` is the float nearest to the exact value. `scaled?` multiplies
or divides a 64-bit significand once by a power of ten, which is quicker and now and then one place
off; there a value too large for a float has no answer.
-/

namespace Resilience.Number

/-- Whether `c` is one of the ten ASCII digits. -/
def isDigit (c : Char) : Bool := '0' ≤ c && c ≤ '9'

/-- The digits at the front of a text and what follows them. -/
def takeDigits (cs : List Char) : List Nat × List Char :=
  ((cs.takeWhile isDigit).map fun c => c.toNat - '0'.toNat, cs.dropWhile isDigit)

/-- The number with these decimal digits. -/
def ofDigits (ds : List Nat) : Nat := ds.foldl (fun n d => 10 * n + d) 0

/-- A decimal as written. -/
structure Numeral where
  negative : Bool
  /-- The digits before the point. -/
  whole : List Nat
  /-- The digits after the point. -/
  fraction : List Nat
  exponent : Int
deriving DecidableEq, Repr, Inhabited

/-- Extends `n` by digits while it stays within 64 bits. Answers the digits left over. -/
def extend (n : Nat) : List Nat → Nat × List Nat
  | [] => (n, [])
  | d :: ds => if 10 * n + d ≤ wordLimit then extend (10 * n + d) ds else (n, d :: ds)

/-- `10 ^ k` as the float nearest to it. -/
def powerOfTen (k : Nat) : Float := Float.ofScientific 1 false k

/-- The greatest power of ten that is a finite float. -/
def greatestPower : Nat := 308

/-- `x * 10 ^ e` by one product or quotient, after quotients by the greatest power while `e` is
below its negative. None where the product is infinite. -/
def scale? : Nat → Float → Int → Option Float
  | 0, x, _ => some x
  | fuel + 1, x, e =>
    if e.natAbs ≤ greatestPower then
      if 0 ≤ e then
        let y := x * powerOfTen e.natAbs
        if y.isInf then none else some y
      else
        some (x / powerOfTen e.natAbs)
    else if x == 0 then some x
    else if 0 ≤ e then none
    else scale? fuel (x / powerOfTen greatestPower) (e + greatestPower)

namespace Numeral

/-- The sign of the numeral on a magnitude. -/
def signed (n : Numeral) (x : Float) : Float := if n.negative then -x else x

/-- The digits of the numeral as one number, and the exponent of ten it is to be multiplied by. -/
def scientific (n : Numeral) : Nat × Int :=
  (ofDigits (n.whole ++ n.fraction), n.exponent - n.fraction.length)

/-- Exponents of ten beyond which a value is no finite float, and below whose negative it is
nearest to zero. -/
def exponentBound : Int := 400

/-- The float nearest to the numeral's value. -/
def nearest (n : Numeral) : Float :=
  let (digits, e) := n.scientific
  let size : Int := (Nat.toDigits 10 digits).length + e
  n.signed <|
    if digits = 0 ∨ size < -exponentBound then 0
    else if exponentBound < size then 1 / 0
    else Float.ofScientific digits (e < 0) e.natAbs

/-- The significand of the numeral, as many of its digits as 64 bits hold, and the exponent of ten
it is to be multiplied by. Digits left over before the point count in the exponent, digits left
over after it are dropped. -/
def significand (n : Numeral) : Nat × Int :=
  let (w, unread) := extend 0 n.whole
  let (s, dropped) := extend w n.fraction
  (s, n.exponent + unread.length - (n.fraction.length - dropped.length : Nat))

/-- The numeral's value by one product or quotient of its significand. -/
def scaled? (n : Numeral) : Option Float :=
  let (s, e) := n.significand
  (scale? 4 (Float.ofNat s) e).map n.signed

end Numeral

/-- Reads a whole number of at most `limit` : digits, with a plus sign before them or not. -/
def readNatural (limit : Nat) (s : String) : Option Nat :=
  let cs := match s.toList with
    | '+' :: cs => cs
    | cs => cs
  match takeDigits cs with
  | ([], _) => none
  | (ds, []) => if ofDigits ds ≤ limit then some (ofDigits ds) else none
  | (_, _ :: _) => none

/-- Whether a minus sign is at the front of a text, and what follows the sign if there is one. -/
def takeSign : List Char → Bool × List Char
  | '+' :: cs => (false, cs)
  | '-' :: cs => (true, cs)
  | cs => (false, cs)

/-- The exponent at the front of a text, zero if there is none. A mark without digits is
refused. -/
def readExponent : List Char → Option (Int × List Char)
  | [] => some (0, [])
  | c :: cs =>
    if c = 'e' ∨ c = 'E' then
      match takeDigits (takeSign cs).2 with
      | ([], _) => none
      | (d :: ds, rest) =>
        let e : Int := ofDigits (d :: ds)
        some (if (takeSign cs).1 then -e else e, rest)
    else
      some (0, c :: cs)

/-- Reads digits with at most one point among or around them, and an exponent or none. -/
def readNumeral (negative : Bool) (cs : List Char) : Option Numeral :=
  let (whole, cs) := takeDigits cs
  let (fraction, cs) := match cs with
    | '.' :: cs => takeDigits cs
    | cs => ([], cs)
  if whole.isEmpty && fraction.isEmpty then none
  else match readExponent cs with
    | some (e, []) => some ⟨negative, whole, fraction, e⟩
    | _ => none

/-- Reads a float : a numeral, or one of the words for infinity and for no number in any case,
with a sign before it or not. -/
def readFloat (s : String) : Option Float :=
  let (negative, cs) := takeSign s.toList
  let sign (x : Float) : Float := if negative then -x else x
  match String.ofList (cs.map Char.toLower) with
  | "inf" | "infinity" => some (sign (1 / 0))
  | "nan" => some (0 / 0)
  | _ => (readNumeral negative cs).map Numeral.nearest

end Resilience.Number
