import Mathlib.Algebra.Order.Field.Rat
import Mathlib.Data.Int.Log
import Mathlib.Data.Rat.Floor
import PromptEncryption.Support.Python

/-!
# Support — rounding

What a `float` operation makes of its exact result (`Rounding`).  CPython rounds to `binary64`, the
format of IEEE 754 with 53 bits, to the nearest and between two to the even one; beyond the largest
the result is infinite.  In exact arithmetic the result is itself (`Float.finite`).
-/

namespace Python

/-- What the exact result of an operation on `float`s is rounded to. -/
abbrev Rounding := ℚ → Float

/-- The nearest integer, and of two the even one. -/
def roundHalfEven (q : ℚ) : ℤ :=
  if Int.fract q < 1 / 2 ∨ Int.fract q = 1 / 2 ∧ ⌊q⌋ % 2 = 0 then ⌊q⌋ else ⌊q⌋ + 1

/-- The exponent of the last of 53 bits, or of the only place of the smallest numbers. -/
def lastPlace (q : ℚ) : ℤ := max (Int.log 2 |q| - 52) (-1074)

/-- Rounding to `binary64`. -/
def binary64 : Rounding := fun q =>
  let r : ℚ := roundHalfEven (q / 2 ^ lastPlace q) * 2 ^ lastPlace q
  if |r| < 2 ^ 1024 then .finite r else .inf (decide (q < 0))

example : binary64 (9 / 10) = .finite (8106479329266893 / 2 ^ 53) := by decide +kernel

end Python
