import AuthBroker.Decimal.Binary64

namespace AuthBroker.Decimal

/-! The shortest decimal that reads back as a given magnitude.

Among the decimals with the fewest significant digits whose nearest magnitude is
the given one, `Magnitude.shortest` takes the one nearest to it.  Of two that are
equally near the one with the even last digit is taken, or the greater one.
-/

/-- Which of two equally near decimals is taken. -/
inductive Tie
  | even
  | up
deriving DecidableEq, Repr

/-- `digits · 10 ^ exponent`, the first of the digits not zero unless all are. -/
structure Scientific where
  digits : List Char
  exponent : Int
deriving DecidableEq, Repr

namespace Magnitude

/-- `value · 10 ^ power` as a numerator and a denominator. -/
def tenfold (value : Nat) (power : Int) : Nat × Nat :=
  match power with
  | .ofNat up => (value * Nat.pow 10 up, 1)
  | .negSucc down => (value, Nat.pow 10 (down + 1))

/-- The greatest `power` with `10 ^ power ≤ numerator / denominator`, both positive. -/
def decimalExponent (numerator denominator : Nat) : Int :=
  if denominator ≤ numerator then
    ((Nat.toDigits 10 (numerator / denominator)).length : Int) - 1
  else
    let size := (Nat.toDigits 10 (denominator / numerator)).length
    if numerator * Nat.pow 10 (size - 1) = denominator then 1 - (size : Int) else -(size : Int)

def readsAs (magnitude : Magnitude) (digits : Nat) (exponent : Int) : Bool :=
  let (numerator, denominator) := tenfold digits exponent
  nearest numerator denominator == some magnitude

/-- The decimal with the last place `exponent` that is nearest to the magnitude
among the two around it which read back. -/
def neighbour (tie : Tie) (magnitude : Magnitude) (exponent : Int) : Option Nat :=
  let (a, b) := magnitude.fraction
  let (c, d) := tenfold 1 exponent
  let numerator := a * d
  let denominator := b * c
  let below := numerator / denominator
  let twice := 2 * (numerator % denominator)
  if twice = 0 then some below
  else
    let nearer :=
      if twice < denominator || (twice == denominator && tie = .even && below % 2 = 0) then below
      else below + 1
    let farther := if nearer = below then below + 1 else below
    if magnitude.readsAs nearer exponent then some nearer
    else if magnitude.readsAs farther exponent then some farther
    else none

/-- Searches last places from `exponent` downwards for one with a neighbour. -/
def search (tie : Tie) (magnitude : Magnitude) : Nat → Int → Nat × Int
  | 0, exponent => ((magnitude.neighbour tie exponent).getD 0, exponent)
  | more + 1, exponent =>
      match magnitude.neighbour tie exponent with
      | some digits => (digits, exponent)
      | none => magnitude.search tie more (exponent - 1)

def dropTrailingZeros (digits : List Char) : List Char :=
  (digits.reverse.dropWhile (· == '0')).reverse

/-- The shortest decimal of a magnitude.  Seventeen digits always suffice. -/
def shortest (tie : Tie) (magnitude : Magnitude) : Scientific :=
  if magnitude.isZero then ⟨['0'], 0⟩
  else
    let (numerator, denominator) := magnitude.fraction
    let (value, last) := magnitude.search tie 16 (decimalExponent numerator denominator)
    let digits := Nat.toDigits 10 value
    ⟨dropTrailingZeros digits, last + digits.length - 1⟩

end Magnitude

namespace Scientific

/-- Zeros up to the point, the digits, zeros after them: no exponent is written. -/
def positional (number : Scientific) : List Char :=
  match number.exponent with
  | .negSucc down => '0' :: '.' :: (List.replicate down '0' ++ number.digits)
  | .ofNat up =>
      let whole := number.digits.take (up + 1)
      let fraction := number.digits.drop (up + 1)
      whole ++ List.replicate (up + 1 - whole.length) '0' ++
        '.' :: (if fraction.isEmpty then ['0'] else fraction)

/-- One digit before the point, and an exponent with its sign. -/
def exponential (number : Scientific) : List Char :=
  let mantissa := match number.digits with
    | first :: second :: rest => first :: '.' :: second :: rest
    | digits => digits
  let size := Nat.toDigits 10 number.exponent.natAbs
  mantissa ++ 'e' :: (if number.exponent < 0 then '-' else '+') :: size

end Scientific

namespace Binary64

def signed (number : Binary64) (text : List Char) : String :=
  String.ofList (if number.negative then '-' :: text else text)

/-- Positional from 10⁻⁵ up to 10¹⁶, exponential outside; a tie goes to the even
digit. -/
def compact (number : Binary64) : String :=
  let scientific := number.magnitude.shortest .even
  number.signed
    (if -5 ≤ scientific.exponent ∧ scientific.exponent < 16 then scientific.positional
     else scientific.exponential)

/-- Positional whatever the size; a tie goes up. -/
def expanded (number : Binary64) : String :=
  number.signed (number.magnitude.shortest .up).positional

end Binary64

end AuthBroker.Decimal
