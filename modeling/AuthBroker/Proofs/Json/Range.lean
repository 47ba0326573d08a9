import AuthBroker.Proofs.Decimal.Rounding
import AuthBroker.Proofs.Json.Numeral

namespace AuthBroker.Json

open Decimal

/-! Which numerals are out of range.

A numeral has a number when it denotes less than `1.79 · 10 ^ 308`, and it has none from
`1.8 · 10 ^ 308` on; the greatest floating-point number lies between.  The digits that a
significand has no room for and the three roundings move a number by far less than that.
-/

variable {magnitude : Magnitude}

variable {significand : Nat} {exponent : Int}

/-- Two numbers differ by no more than what a full significand leaves out. -/
def Close (left right : ℚ) : Prop :=
  left ≤ right * (1 + 1 / 10 ^ 18) ∧ right ≤ left * (1 + 1 / 10 ^ 18)

theorem Close.refl {number : ℚ} (nonneg : 0 ≤ number) : Close number number := by
  constructor <;> linarith

theorem Close.mul {left right factor : ℚ} (close : Close left right) (nonneg : 0 ≤ factor) :
    Close (left * factor) (right * factor) := by
  constructor
  · rw [mul_right_comm]
    exact mul_le_mul_of_nonneg_right close.1 nonneg
  · rw [mul_right_comm]
    exact mul_le_mul_of_nonneg_right close.2 nonneg

/-- The power of ten that an exponent writes. -/
def writtenPower : Option Exponent → Int
  | none => 0
  | some exponent =>
      if exponent.isNegative then -(Decimal.valueFrom 0 exponent.digits : Int)
      else Decimal.valueFrom 0 exponent.digits

def Numeral.places (numeral : Numeral) : List UInt8 :=
  numeral.fraction.getD []

/-- What a numeral denotes, apart from its sign. -/
def Numeral.size (numeral : Numeral) : ℚ :=
  Decimal.valueFrom 0 (numeral.whole ++ numeral.places) *
    10 ^ (-numeral.places.length + writtenPower numeral.exponent : Int)

end AuthBroker.Json
