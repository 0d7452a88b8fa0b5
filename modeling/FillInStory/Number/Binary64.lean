/-! # Numbers in binary floating point

A finite non-negative number in the 64-bit binary format is a significand below 2^53 times a power of two
from 2^-1074 to 2^971. Here such numbers are made from exact ratios by rounding to the nearest, a tie going
to the even significand, and every operation is its exact result rounded once.
-/

namespace FillInStory

/-- The number `significand * 2 ^ exponent`. -/
structure Binary64 where
  significand : Nat
  exponent : Int
  deriving DecidableEq, Repr

def twoTo (k : Nat) : Nat := Nat.pow 2 k

def tenTo (k : Nat) : Nat := Nat.pow 10 k

/-- The quotient of two numbers rounded to the nearest, a tie to the even one. -/
def roundedQuotient (n d : Nat) : Nat :=
  let rest := n % d
  if 2 * rest < d || (2 * rest = d && n / d % 2 = 0) then n / d else n / d + 1

namespace Binary64

def zero : Binary64 := ⟨0, -1074⟩

/-- The numerator and denominator of `n / d * 2 ^ e`. -/
def scaledRatio (n d : Nat) (e : Int) : Nat × Nat := (n * twoTo e.toNat, d * twoTo (-e).toNat)

/-- The number nearest to a ratio, unless that lies beyond the largest one. -/
def ofRatio? (n d : Nat) : Option Binary64 :=
  if n = 0 then some zero
  else
    let guess : Int := (n.log2 : Int) - d.log2 - 52
    let (a, b) := scaledRatio n d (-guess)
    let exponent := max (-1074) (if a / b < twoTo 52 then guess - 1 else guess)
    let (a, b) := scaledRatio n d (-exponent)
    let significand := roundedQuotient a b
    let rounded : Binary64 :=
      if significand = twoTo 53 then ⟨twoTo 52, exponent + 1⟩ else ⟨significand, exponent⟩
    if rounded.exponent ≤ 971 then some rounded else none

/-- The product of two numbers, unless it is too large. -/
def times? (x y : Binary64) : Option Binary64 :=
  let (n, d) := scaledRatio (x.significand * y.significand) 1 (x.exponent + y.exponent)
  ofRatio? n d

/-- The quotient of two numbers, the second not zero, unless it is too large. -/
def over? (x y : Binary64) : Option Binary64 :=
  let (n, d) := scaledRatio x.significand y.significand (x.exponent - y.exponent)
  ofRatio? n d

/-- The power of ten nearest to `10 ^ k`. -/
def powerOfTen? (k : Nat) : Option Binary64 := ofRatio? (tenTo k) 1

/-- The largest exponent of ten by which a number is scaled at once. -/
def scaleLimit : Nat := 308

/-- A number divided by `10 ^ k`, in one step or two; what is left after two steps is zero. -/
def overPowerOfTen? (x : Binary64) (k : Nat) : Option Binary64 := do
  let first ← x.over? (← powerOfTen? (min k scaleLimit))
  first.over? (← powerOfTen? (min (k - scaleLimit) scaleLimit))

/-- The number that `digits * 10 ^ exponent` is read as: the digits are rounded first, and the scaled
number once more. Too large a number is none. -/
def ofDecimal? (digits : Nat) (exponent : Int) : Option Binary64 := do
  let x ← ofRatio? digits 1
  if x.significand = 0 then some zero
  else if exponent < 0 then x.overPowerOfTen? (-exponent).toNat
  else if exponent.toNat ≤ scaleLimit then x.times? (← powerOfTen? exponent.toNat)
  else none

end Binary64

end FillInStory
