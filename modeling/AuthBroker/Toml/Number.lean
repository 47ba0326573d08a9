import AuthBroker.Toml.Value
import AuthBroker.Word

namespace AuthBroker.Toml

/-! Numbers.

A number is taken for one by its first digits and by a point or an exponent.  The
digits of a decimal integer with underscores are looked at only when its value is
made, so there are integers without a value.
-/

def isDecimal (char : Char) : Bool :=
  '0' ≤ char && char ≤ '9'

def isHex (char : Char) : Bool :=
  isDecimal char || ('a' ≤ char && char ≤ 'f') || ('A' ≤ char && char ≤ 'F')

def isOctal (char : Char) : Bool :=
  '0' ≤ char && char ≤ '7'

def isBinary (char : Char) : Bool :=
  char = '0' || char = '1'

def digitOf (char : Char) : Nat :=
  if '0' ≤ char && char ≤ '9' then char.toNat - '0'.toNat
  else if 'a' ≤ char && char ≤ 'f' then char.toNat - 'a'.toNat + 10
  else char.toNat - 'A'.toNat + 10

def valueIn (base : Nat) (digits : List Char) : Nat :=
  digits.foldl (fun value char => value * base + digitOf char) 0

/-- Takes a sign off: whether there is one, and whether it is a minus. -/
def takeSign : List Char → Bool × Bool × List Char
  | '+' :: rest => (true, false, rest)
  | '-' :: rest => (true, true, rest)
  | rest => (false, false, rest)

/-- Whether every underscore stands between two digits; `after` tells whether what
precedes the text counts as one. -/
def spaced (isDigit : Char → Bool) : Bool → List Char → Bool
  | _, [] => true
  | after, char :: rest =>
      if char = '_' then after && rest.head?.any isDigit && spaced isDigit false rest
      else spaced isDigit (isDigit char) rest

def withoutUnderscores (text : List Char) : List Char :=
  text.filter (· != '_')

/-! ### Integers -/

/-- The integers that are values: those of 128 bits, with a sign or without. -/
def inRange (value : Int) : Bool :=
  Word.fitsSigned 128 value || Word.fitsUnsigned 128 value

/-- The value of digits with underscores.  More than 128 digits are out of range in
every base. -/
def wholeValue? (negative : Bool) (base : Nat) (isDigit : Char → Bool) (text : List Char) :
    Option Int :=
  let digits := withoutUnderscores text
  if digits.isEmpty || !digits.all isDigit then none
  else if 128 < (digits.dropWhile (· == '0')).length then none
  else
    let size : Int := valueIn base digits
    let value := if negative then -size else size
    if inRange value then some value else none

/-- Reads an integer after the two characters that name its base.  It may have no
digits. -/
def basedInteger? (base : Nat) (isDigit : Char → Bool) (text : List Char) : Option Scalar :=
  if text.all (fun char => isDigit char || char = '_') && spaced isDigit false text then
    some (.integer (wholeValue? false base isDigit text))
  else none

/-- Reads a decimal integer after its sign.  No zero precedes other digits.  Next to
underscores hexadecimal digits will do, and elsewhere after the first of them anything
will. -/
def decimalInteger? (signed negative : Bool) (text : List Char) : Option Scalar :=
  if text.isEmpty || (text.head? = some '0' && 1 < text.length) then none
  else if spaced isHex signed text then some (.integer (wholeValue? negative 10 isDecimal text))
  else none

/-! ### Real numbers -/

def isExponentLetter (char : Char) : Bool :=
  char = 'e' || char = 'E'

def isRealMark (char : Char) : Bool :=
  char = '.' || isExponentLetter char

def areDigits (text : List Char) : Bool :=
  !text.isEmpty && text.all isDecimal

def exponent? (text : List Char) : Option Int :=
  let (_, negative, digits) := takeSign text
  if areDigits digits then
    some (if negative then -(valueIn 10 digits : Int) else valueIn 10 digits)
  else none

/-- The digits before and after the point of a number that has a point, or else all of
them before it. -/
def mantissa? (text : List Char) : Option (List Char × List Char) :=
  let whole := text.takeWhile (· != '.')
  match text.dropWhile (· != '.') with
  | [] => if areDigits whole then some (whole, []) else none
  | _ :: fraction => if areDigits whole && areDigits fraction then some (whole, fraction) else none

/-- The number of a mantissa and an exponent, if it is not too large. -/
def finite? (negative : Bool) (mantissa : List Char × List Char) (exponent : Int) : Option Real :=
  (Decimal.Magnitude.ofDecimal (valueIn 10 (mantissa.1 ++ mantissa.2))
    (exponent - mantissa.2.length)).map fun magnitude => .finite ⟨negative, magnitude⟩

/-- Reads the mantissa and the exponent of a real number without underscores. -/
def realParts? (text : List Char) : Option ((List Char × List Char) × Int) :=
  match mantissa? (text.takeWhile fun char => !isExponentLetter char) with
  | none => none
  | some mantissa =>
      match text.dropWhile fun char => !isExponentLetter char with
      | [] => some (mantissa, 0)
      | _ :: exponent => (exponent? exponent).map fun exponent => (mantissa, exponent)

def real? (signed negative : Bool) (text : List Char) : Option Scalar :=
  if spaced isDecimal signed text then
    match realParts? (withoutUnderscores text) with
    | none => none
    | some (mantissa, exponent) =>
        if text.head? = some '0' && 1 < mantissa.1.length then none
        else some (.real (finite? negative mantissa exponent))
  else none

end AuthBroker.Toml
