import Resilience.Document.Fault
import Resilience.Number.Numeral

/-!
# Numbers in documents

A number written without point and exponent is whole, kept exactly while its magnitude fits 64 bits
(63 and the sign below zero). All other numbers are floats, among them the negative zero. A number
too large for a float is flawed for a reader that wants it, and may be passed over.
-/

namespace Resilience.Document

/-- The value of a number. -/
inductive Quantity where
  | natural (n : Nat)
  /-- The number `-n`, for a positive `n`. -/
  | negative (n : Nat)
  | float (x : Float)

namespace Quantity

/-- The largest magnitude of a negative whole number. -/
def negativeLimit : Nat := Number.wordLimit / 2 + 1

/-- The value of a numeral, whole if `integral` and small enough. -/
def ofNumeral? (integral : Bool) (n : Number.Numeral) : Option Quantity :=
  let magnitude := Number.ofDigits n.whole
  if integral && !n.negative && magnitude ≤ Number.wordLimit then some (natural magnitude)
  else if integral && n.negative && 0 < magnitude && magnitude ≤ negativeLimit then
    some (negative magnitude)
  else n.scaled?.map float

/-- The value as a float. -/
def toFloat : Quantity → Float
  | natural n => Float.ofNat n
  | negative n => -Float.ofNat n
  | float x => x

end Quantity

/-- The characters of a number at the front of a text : its numeral, whether it was written without
point and exponent, and what follows. -/
inductive NumberScan where
  | read (n : Number.Numeral) (integral : Bool) (rest : List Char)
  | flawed (flaw : Flaw)

/-- The flaw of a number that lacks a digit before `rest`. -/
def missingDigit (rest : List Char) : Flaw :=
  ⟨if rest.isEmpty then .cut else .malformed, some .malformed⟩

/-- The digits before the point : a zero alone, or digits that start with another. -/
def scanWhole (cs : List Char) : Except Flaw (List Nat × List Char) :=
  match Number.takeDigits cs with
  | ([], rest) => .error (missingDigit rest)
  | (d :: ds, rest) =>
    if d = 0 ∧ ds ≠ [] then .error (.plain .malformed) else .ok (d :: ds, rest)

/-- The digits after the point, none if there is no point. -/
def scanFraction (cs : List Char) : Except Flaw (List Nat × List Char) :=
  match cs with
  | '.' :: cs =>
    match Number.takeDigits cs with
    | ([], rest) => .error (missingDigit rest)
    | (d :: ds, rest) => .ok (d :: ds, rest)
  | cs => .ok ([], cs)

/-- The exponent, zero if there is none. -/
def scanExponent (cs : List Char) : Except Flaw (Int × List Char) :=
  match Number.readExponent cs with
  | some r => .ok r
  | none => .error (missingDigit (Number.takeSign (cs.drop 1)).2)

/-- The number at the front of a text, its sign apart. -/
def scanMagnitude (negative : Bool) (cs : List Char) : NumberScan :=
  match scanWhole cs with
  | .error flaw => .flawed flaw
  | .ok (whole, afterWhole) =>
    match scanFraction afterWhole with
    | .error flaw => .flawed flaw
    | .ok (fraction, afterFraction) =>
      match scanExponent afterFraction with
      | .error flaw => .flawed flaw
      | .ok (exponent, rest) =>
        .read ⟨negative, whole, fraction, exponent⟩ (rest.length == afterWhole.length) rest

/-- The number at the front of a text that starts with a digit or a minus sign. -/
def scanNumber (cs : List Char) : NumberScan :=
  match cs with
  | '-' :: cs => scanMagnitude true cs
  | cs => scanMagnitude false cs

/-! ## What is left is shorter -/

theorem length_of_takeDigits {cs : List Char} {d : Nat} {ds : List Nat} {rest : List Char}
    (h : Number.takeDigits cs = (d :: ds, rest)) : rest.length < cs.length := by
  simp only [Number.takeDigits, Prod.mk.injEq] at h
  obtain ⟨h, rfl⟩ := h
  have hpos : 0 < (cs.takeWhile Number.isDigit).length := by
    have := congrArg List.length h
    simp only [List.length_map, List.length_cons] at this
    omega
  have := congrArg List.length (List.takeWhile_append_dropWhile (p := Number.isDigit) (l := cs))
  rw [List.length_append] at this
  omega

theorem length_takeSign_le (cs : List Char) : (Number.takeSign cs).2.length ≤ cs.length := by
  unfold Number.takeSign
  split <;> simp

theorem length_of_readExponent {cs : List Char} {e : Int} {rest : List Char}
    (h : Number.readExponent cs = some (e, rest)) : rest.length ≤ cs.length := by
  unfold Number.readExponent at h
  split at h
  · grind
  · next c cs =>
    have hs := length_takeSign_le cs
    split at h
    · split at h
      · cases h
      · next hd =>
        have := length_of_takeDigits hd
        simp only [Option.some.injEq, Prod.mk.injEq] at h
        obtain ⟨-, rfl⟩ := h
        simp only [List.length_cons]
        omega
    · grind

theorem length_of_scanWhole {cs : List Char} {ds : List Nat} {rest : List Char}
    (h : scanWhole cs = .ok (ds, rest)) : rest.length < cs.length := by
  unfold scanWhole at h
  split at h
  · cases h
  · next hd =>
    split at h
    · cases h
    · cases h
      exact length_of_takeDigits hd

theorem length_of_scanFraction {cs : List Char} {ds : List Nat} {rest : List Char}
    (h : scanFraction cs = .ok (ds, rest)) : rest.length ≤ cs.length := by
  unfold scanFraction at h
  split at h
  · split at h
    · cases h
    · next hd =>
      cases h
      have := length_of_takeDigits hd
      simp only [List.length_cons]
      omega
  · cases h
    exact Nat.le_refl _

theorem length_of_scanExponent {cs : List Char} {e : Int} {rest : List Char}
    (h : scanExponent cs = .ok (e, rest)) : rest.length ≤ cs.length := by
  unfold scanExponent at h
  split at h
  · next hr =>
    cases h
    exact length_of_readExponent hr
  · cases h

theorem length_of_scanMagnitude {negative integral : Bool} {cs rest : List Char}
    {n : Number.Numeral} (h : scanMagnitude negative cs = .read n integral rest) :
    rest.length < cs.length := by
  unfold scanMagnitude at h
  split at h
  · cases h
  · next hw =>
    split at h
    · cases h
    · next hf =>
      split at h
      · cases h
      · next he =>
        cases h
        have hw := length_of_scanWhole hw
        have hf := length_of_scanFraction hf
        have he := length_of_scanExponent he
        omega

theorem length_of_scanNumber {integral : Bool} {cs rest : List Char} {n : Number.Numeral}
    (h : scanNumber cs = .read n integral rest) : rest.length < cs.length := by
  unfold scanNumber at h
  split at h
  · have := length_of_scanMagnitude h
    simp only [List.length_cons]
    omega
  · exact length_of_scanMagnitude h

end Resilience.Document
