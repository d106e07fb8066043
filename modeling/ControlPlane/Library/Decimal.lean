import Mathlib.Data.Nat.Log

/-!
# Decimal floating point

Non-negative decimals as coefficient and exponent, with the operations of the
General Decimal Arithmetic specification that a context of fixed precision
offers: results of products and quotients are rounded half to even to the
precision, and rescaling to an integer rounds half up and is refused when the
result needs more digits than the precision.
-/

namespace DecimalArithmetic

/-- The value `coefficient * 10 ^ exponent`. -/
structure Decimal where
  coefficient : Nat
  exponent : Int
  deriving DecidableEq, Repr

/-- Number of decimal digits; zero has one. -/
def digits (coefficient : Nat) : Nat := Nat.log 10 coefficient + 1

/-- Quotient rounded to the nearest natural number, ties to the even one. -/
def roundHalfEven (value unit : Nat) : Nat :=
  let quotient := value / unit
  let remainder := value % unit
  if 2 * remainder < unit then quotient
  else if unit < 2 * remainder then quotient + 1
  else if quotient % 2 = 0 then quotient else quotient + 1

/-- Quotient rounded to the nearest natural number, ties upward. -/
def roundHalfUp (value unit : Nat) : Nat := (2 * value + unit) / (2 * unit)

namespace Decimal

variable (precision : Nat)

/-- An integer, which a constructor never rounds. -/
def ofNat (value : Nat) : Decimal := ⟨value, 0⟩

/-- Round a result to the precision of the context. -/
def fix (value : Decimal) : Decimal :=
  let excess := digits value.coefficient - precision
  if excess = 0 then value
  else
    let rounded := roundHalfEven value.coefficient (Nat.pow 10 excess)
    -- A carry out of the leading digit leaves a trailing zero to drop.
    if precision < digits rounded then ⟨rounded / 10, value.exponent + excess + 1⟩
    else ⟨rounded, value.exponent + excess⟩

/-- Product in a context. -/
def mul (left right : Decimal) : Decimal :=
  fix precision ⟨left.coefficient * right.coefficient, left.exponent + right.exponent⟩

/-- Drop trailing zeros of an exact quotient while its exponent is below the ideal one. -/
def reduce : Nat → Decimal → Decimal
  | 0, value => value
  | steps + 1, value =>
      if value.coefficient % 10 = 0 then
        reduce steps ⟨value.coefficient / 10, value.exponent + 1⟩
      else value

/-- Quotient in a context; the divisor is not zero. An inexact quotient gets a
sticky last digit, so that the final rounding sees on which side of a tie it lies. -/
def div (left right : Decimal) : Decimal :=
  if left.coefficient = 0 then fix precision ⟨0, left.exponent - right.exponent⟩
  else
    let shift : Int := (digits right.coefficient : Int) - digits left.coefficient + precision + 1
    let numerator := left.coefficient * Nat.pow 10 shift.toNat
    let denominator := right.coefficient * Nat.pow 10 (-shift).toNat
    let quotient := numerator / denominator
    let exponent := left.exponent - right.exponent - shift
    if numerator % denominator = 0 then
      fix precision (reduce shift.toNat ⟨quotient, exponent⟩)
    else fix precision ⟨if quotient % 5 = 0 then quotient + 1 else quotient, exponent⟩

/-- Rescale to an integer, rounding half up; `none` is an invalid operation. -/
def quantizeUnit (value : Decimal) : Option Nat :=
  let rounded :=
    if 0 ≤ value.exponent then value.coefficient * Nat.pow 10 value.exponent.toNat
    else roundHalfUp value.coefficient (Nat.pow 10 (-value.exponent).toNat)
  if value.coefficient ≠ 0 ∧ (precision : Int) < value.exponent + digits value.coefficient then none
  else if precision < digits rounded then none
  else some rounded

end Decimal

end DecimalArithmetic
