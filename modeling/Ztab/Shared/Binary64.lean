import Mathlib.Algebra.Group.Int.Defs
import Mathlib.Algebra.Group.Nat.Defs
import Mathlib.Data.Nat.Log

set_option autoImplicit false

/-!
# Decimal literals as binary64 values

Rounding to the nearest representable value, ties to even, on exact integers.
-/

/-- A finite value, `±mantissa · 2 ^ exponent`, in the form `ofDecimal` gives it. -/
structure Binary64 where
  negative : Bool
  mantissa : Nat
  exponent : Int
  deriving DecidableEq, Repr

namespace Binary64

def precision : Nat := 53

def minExponent : Int := -1074

def maxExponent : Int := 971

def roundQuotient (numerator denominator : Nat) : Nat :=
  let quotient := numerator / denominator
  let twice := 2 * (numerator % denominator)
  if twice < denominator then quotient
  else if denominator < twice then quotient + 1
  else if quotient % 2 = 0 then quotient else quotient + 1

def scale (numerator denominator : Nat) : Int :=
  let difference : Int := numerator.log2 - denominator.log2
  let reached := denominator * 2 ^ difference.toNat ≤ numerator * 2 ^ (-difference).toNat
  max minExponent ((if reached then difference else difference - 1) - (precision - 1))

/-- The literal `±digits · 10 ^ power`; nothing when it rounds beyond the largest finite value. -/
def ofDecimal (negative : Bool) (digits : Nat) (power : Int) : Option Binary64 :=
  let numerator := digits * 10 ^ power.toNat
  let denominator := 10 ^ (-power).toNat
  if digits = 0 then some ⟨negative, 0, minExponent⟩
  else
    let exponent := scale numerator denominator
    let mantissa := roundQuotient (numerator * 2 ^ (-exponent).toNat)
      (denominator * 2 ^ exponent.toNat)
    -- Rounding up may carry into one more bit.
    let carried := mantissa = 2 ^ precision
    let rounded : Binary64 :=
      if carried then ⟨negative, 2 ^ (precision - 1), exponent + 1⟩
      else ⟨negative, mantissa, exponent⟩
    if maxExponent < rounded.exponent then none else some rounded

def truncate (value : Binary64) : Int :=
  let magnitude := value.mantissa * 2 ^ value.exponent.toNat / 2 ^ (-value.exponent).toNat
  if value.negative then -(magnitude : Int) else magnitude

def isWhole (value : Binary64) : Bool :=
  value.mantissa * 2 ^ value.exponent.toNat % 2 ^ (-value.exponent).toNat = 0

end Binary64
