import AuthBroker.Word

namespace AuthBroker.Decimal

/-! Whole numbers in decimal notation. -/

def isDigit (octet : UInt8) : Bool :=
  0x30 ≤ octet && octet ≤ 0x39

def digitValue (octet : UInt8) : Nat :=
  octet.toNat - 0x30

/-- The digits of a number, most significant first and without a leading zero. -/
def digits (value : Nat) : List Char :=
  Nat.toDigits 10 value

/-- A number in decimal: a minus sign when it is negative, then its digits. -/
def signedDigits : Int → List Char
  | .ofNat value => digits value
  | .negSucc value => '-' :: digits (value + 1)

def text (value : Nat) : String :=
  String.ofList (digits value)

def signedText (value : Int) : String :=
  String.ofList (signedDigits value)

/-- The value of a run of digits, given the value of the digits before it. -/
def valueFrom (start : Nat) (run : List UInt8) : Nat :=
  run.foldl (fun value octet => value * 10 + digitValue octet) start

def charDigit? (char : Char) : Option Nat :=
  if '0' ≤ char && char ≤ '9' then some (char.toNat - '0'.toNat) else none

/-- The value of a nonempty run of digit characters. -/
def unsigned? : List Char → Option Nat
  | [] => none
  | run => run.foldl
      (fun value char => do pure ((← value) * 10 + (← charDigit? char))) (some 0)

/-- The value of a sign, which may be missing, and a nonempty run of digits. -/
def signed? : List Char → Option Int
  | '+' :: run => (unsigned? run).map fun value => (value : Int)
  | '-' :: run => (unsigned? run).map fun value => -(value : Int)
  | run => (unsigned? run).map fun value => (value : Int)

/-- The value of a text that denotes a 32-bit signed integer. -/
def int32? (text : String) : Option Int :=
  match signed? text.toList with
  | some value => if Word.fitsSigned 32 value then some value else none
  | none => none

end AuthBroker.Decimal
