namespace AuthBroker.Decimal

/-! Finite binary floating-point numbers of 64 bits, in exact arithmetic.

A magnitude is `significand · 2 ^ power`.  `Magnitude.nearest` rounds a quotient of
natural numbers to the nearest magnitude, a tie going to the even significand;
multiplication and division round the exact result once.
-/

/-- A magnitude.  The significand has at most 53 bits and the power is at least
−1074; a significand of fewer than 53 bits occurs with that least power only. -/
structure Magnitude where
  significand : Nat
  power : Int
deriving DecidableEq, Repr

/-- A finite number: a magnitude and a sign.  Zero has both signs. -/
structure Binary64 where
  negative : Bool
  magnitude : Magnitude
deriving DecidableEq, Repr

namespace Magnitude

def zero : Magnitude := ⟨0, -1074⟩

def isZero (magnitude : Magnitude) : Bool :=
  magnitude.significand = 0

/-- The quotient rounded to a whole number, a half going to the even neighbour. -/
def roundHalfEven (numerator denominator : Nat) : Nat :=
  let quotient := numerator / denominator
  let twice := 2 * (numerator % denominator)
  if twice < denominator then quotient
  else if denominator < twice then quotient + 1
  else if quotient % 2 = 0 then quotient
  else quotient + 1

/-- `value · 2 ^ power` as a numerator and a denominator. -/
def scaled (value : Nat) (power : Int) : Nat × Nat :=
  match power with
  | .ofNat up => (value * Nat.pow 2 up, 1)
  | .negSucc down => (value, Nat.pow 2 (down + 1))

/-- The greatest `power` with `2 ^ power ≤ numerator / denominator`, both positive. -/
def binaryExponent (numerator denominator : Nat) : Int :=
  let guess : Int := (Nat.log2 numerator : Int) - (Nat.log2 denominator : Int)
  let (up, down) := scaled 1 guess
  if numerator * down < denominator * up then guess - 1 else guess

/-- The magnitude nearest to a quotient; `none` when it lies above every finite one. -/
def nearest (numerator denominator : Nat) : Option Magnitude :=
  if numerator = 0 then some zero
  else
    let power := max (binaryExponent numerator denominator - 52) (-1074)
    let (up, down) := scaled 1 power
    let rounded := roundHalfEven (numerator * down) (denominator * up)
    let result : Magnitude :=
      if rounded = Nat.pow 2 53 then ⟨Nat.pow 2 52, power + 1⟩ else ⟨rounded, power⟩
    if 971 < result.power then none else some result

def fraction (magnitude : Magnitude) : Nat × Nat :=
  scaled magnitude.significand magnitude.power

def mul (left right : Magnitude) : Option Magnitude :=
  let (a, b) := left.fraction
  let (c, d) := right.fraction
  nearest (a * c) (b * d)

def div (left right : Magnitude) : Option Magnitude :=
  let (a, b) := left.fraction
  let (c, d) := right.fraction
  nearest (a * d) (b * c)

/-- The magnitude nearest to `digits · 10 ^ exponent`.  Exponents that leave no
doubt about the result are cut short before the power is computed. -/
def ofDecimal (digits : Nat) (exponent : Int) : Option Magnitude :=
  if digits = 0 then some zero
  else
    let size : Int := (Nat.toDigits 10 digits).length
    if 400 < size + exponent then none
    else if size + exponent < -400 then some zero
    else match exponent with
      | .ofNat up => nearest (digits * Nat.pow 10 up) 1
      | .negSucc down => nearest digits (Nat.pow 10 (down + 1))

end Magnitude

end AuthBroker.Decimal
