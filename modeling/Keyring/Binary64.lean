/-!
# Floating-point numbers

The floating-point numbers of 64 bits that are finite and not negative.  A mantissa has at most
53 bits, and has all of them unless the exponent is the least one, so that different numbers
have different parts.  A ratio is rounded to the nearest number, and from the middle between
two of them to the one with the even mantissa.
-/

namespace Keyring

/-- The number `mantissa * 2 ^ exponent`. -/
structure Binary64 where
  mantissa : Nat
  exponent : Int
deriving DecidableEq

namespace Binary64

/-- The exponent of the least numbers. -/
def minExponent : Int := -1074

/-- The exponent of the largest numbers. -/
def maxExponent : Int := 971

/-- The least number that has more bits than a mantissa. -/
def mantissaBound : Nat := Nat.pow 2 53

/-- The ratio `a / b` divided by `2 ^ exponent`, as a ratio. -/
def scale (a b : Nat) (exponent : Int) : Nat × Nat :=
  if exponent < 0 then (a * Nat.pow 2 exponent.natAbs, b)
  else (a, b * Nat.pow 2 exponent.natAbs)

/-- The integer nearest to a ratio, and from the middle between two of them the even one. -/
def roundRatio (a b : Nat) : Nat :=
  let q := a / b
  let twice := 2 * (a % b)
  if twice < b then q else if b < twice then q + 1 else q + q % 2

/-- The exponent of the number that is nearest to a ratio. -/
def exponentOf (a b : Nat) : Int :=
  let e : Int := (a.log2 : Int) - (b.log2 : Int) - 52
  let (c, d) := scale a b e
  max minExponent (if 2 * (c / d) < mantissaBound then e - 1 else e)

/-- The number that is nearest to `a / b`, unless that is too large. -/
def ofRatio? (a b : Nat) : Option Binary64 :=
  let e := exponentOf a b
  let (c, d) := scale a b e
  let m := roundRatio c d
  let x : Binary64 := if m = mantissaBound then ⟨m / 2, e + 1⟩ else ⟨m, e⟩
  if a = 0 then some ⟨0, minExponent⟩
  else if x.exponent ≤ maxExponent then some x
  else none

/-- The number that is nearest to `n`, unless that is too large. -/
def ofNat? (n : Nat) : Option Binary64 :=
  ofRatio? n 1

/-- The number that is nearest to `n * 10 ^ exponent`, unless that is too large. -/
def ofDecimal? (n : Nat) (exponent : Int) : Option Binary64 :=
  if exponent < 0 then ofRatio? n (Nat.pow 10 exponent.natAbs)
  else ofRatio? (n * Nat.pow 10 exponent.natAbs) 1

/-- The number that is nearest to a product, unless that is too large. -/
def mul? (x y : Binary64) : Option Binary64 :=
  let (a, b) := scale (x.mantissa * y.mantissa) 1 (-(x.exponent + y.exponent))
  ofRatio? a b

/-- The largest integer that is not larger than a number. -/
def floor (x : Binary64) : Nat :=
  let (a, b) := scale x.mantissa 1 (-x.exponent)
  a / b

/-- The integer that a number is, if it is one. -/
def toNat? (x : Binary64) : Option Nat :=
  let (a, b) := scale x.mantissa 1 (-x.exponent)
  if a % b = 0 then some (a / b) else none

end Binary64

end Keyring
