import AuthBroker.Json.Fault
import AuthBroker.Json.Value
import AuthBroker.Text.Utf8
import AuthBroker.Word

namespace AuthBroker.Json

/-! The lexemes of JSON: blanks, names, strings and numbers.

Each reader takes the octets from its lexeme on and gives what it read together with
the octets after it, or a fault.
-/

def isBlank (octet : UInt8) : Bool :=
  octet = 0x20 || octet = 0x0A || octet = 0x09 || octet = 0x0D

def dropBlank (octets : List UInt8) : List UInt8 :=
  octets.dropWhile isBlank

def expectName : List UInt8 → List UInt8 → Except Fault (List UInt8)
  | [], rest => .ok rest
  | _ :: _, [] => .error ⟨.endInValue, .here, []⟩
  | expected :: name, octet :: rest =>
      if octet = expected then expectName name rest
      else .error ⟨.expectedIdent, .here, rest⟩

/-! ### Strings -/

def hexDigit? (octet : UInt8) : Option Nat :=
  if 0x30 ≤ octet && octet ≤ 0x39 then some (octet.toNat - 0x30)
  else if 0x41 ≤ octet && octet ≤ 0x46 then some (octet.toNat - 0x41 + 10)
  else if 0x61 ≤ octet && octet ≤ 0x66 then some (octet.toNat - 0x61 + 10)
  else none

def hexUnit : List UInt8 → Except Fault (Nat × List UInt8)
  | a :: b :: c :: d :: rest =>
      match hexDigit? a, hexDigit? b, hexDigit? c, hexDigit? d with
      | some a, some b, some c, some d => .ok (a * 4096 + b * 256 + c * 16 + d, rest)
      | _, _, _, _ => .error ⟨.invalidEscape, .here, rest⟩
  | _ => .error ⟨.endInString, .here, []⟩

def isLeading (unit : Nat) : Bool :=
  0xD800 ≤ unit && unit ≤ 0xDBFF

def isTrailing (unit : Nat) : Bool :=
  0xDC00 ≤ unit && unit ≤ 0xDFFF

/-- Reads the trailing half that has to follow a leading surrogate. -/
def trailingHalf (leading : Nat) : List UInt8 → Except Fault (Char × List UInt8)
  | [] => .error ⟨.endInString, .here, []⟩
  | backslash :: rest =>
      if backslash ≠ 0x5C then .error ⟨.unfinishedSurrogate, .here, rest⟩
      else match rest with
        | [] => .error ⟨.endInString, .here, []⟩
        | letter :: rest =>
            if letter ≠ 0x75 then .error ⟨.unfinishedSurrogate, .here, rest⟩
            else match hexUnit rest with
              | .error fault => .error fault
              | .ok (trailing, rest) =>
                  if isTrailing trailing then
                    .ok (Char.ofNat (0x10000 + (leading - 0xD800) * 1024
                      + (trailing - 0xDC00)), rest)
                  else .error ⟨.loneSurrogate, .here, rest⟩

def shortEscape? (letter : UInt8) : Option Char :=
  if letter = 0x22 then some '"'
  else if letter = 0x5C then some '\\'
  else if letter = 0x2F then some '/'
  else if letter = 0x62 then some '\x08'
  else if letter = 0x66 then some '\x0c'
  else if letter = 0x6E then some '\n'
  else if letter = 0x72 then some '\r'
  else if letter = 0x74 then some '\t'
  else none

def escape : List UInt8 → Except Fault (Char × List UInt8)
  | [] => .error ⟨.endInString, .here, []⟩
  | letter :: rest =>
      if letter = 0x75 then
        match hexUnit rest with
        | .error fault => .error fault
        | .ok (unit, rest) =>
            if isTrailing unit then .error ⟨.loneSurrogate, .here, rest⟩
            else if isLeading unit then trailingHalf unit rest
            else .ok (Char.ofNat unit, rest)
      else match shortEscape? letter with
        | some char => .ok (char, rest)
        | none => .error ⟨.invalidEscape, .here, rest⟩

/-- Reads a string after its opening quote into octets, newest first, with every
escape replaced.  Each step takes an octet, so the octets themselves are fuel enough. -/
def stringOctets : List UInt8 → List UInt8 → List UInt8 →
    Except Fault (List UInt8 × List UInt8)
  | [], _, rest => .error ⟨.endInString, .here, rest⟩
  | _ :: _, _, [] => .error ⟨.endInString, .here, []⟩
  | _ :: fuel, held, octet :: rest =>
      if octet = 0x22 then .ok (held, rest)
      else if octet = 0x5C then
        match escape rest with
        | .error fault => .error fault
        | .ok (char, rest) =>
            stringOctets fuel ((String.utf8EncodeChar char).reverseAux held) rest
      else if octet < 0x20 then .error ⟨.controlCharacter, .here, rest⟩
      else stringOctets fuel (octet :: held) rest

/-- Reads a string after its opening quote.  Its octets have to be well-formed. -/
def string (octets : List UInt8) : Except Fault (String × List UInt8) :=
  match stringOctets octets [] octets with
  | .error fault => .error fault
  | .ok (held, rest) =>
      let content := held.reverse
      match Text.Utf8.string? content with
      | some text => .ok (text, rest)
      | none =>
          .error ⟨.invalidCodePoint, .back (content.length - Text.Utf8.validLength content), rest⟩

/-! ### Numbers -/

def maxSignificand : Nat := Word.count 64 - 1

/-- Appends digits to a significand while it stays in range; gives the significand,
how many digits it took, and the digits it did not take. -/
def absorb : Nat → Nat → List UInt8 → Nat × Nat × List UInt8
  | significand, count, [] => (significand, count, [])
  | significand, count, digit :: digits =>
      let next := significand * 10 + Decimal.digitValue digit
      if maxSignificand < next then (significand, count, digit :: digits)
      else absorb next (count + 1) digits

/-- `magnitude` times a power of ten that is itself rounded first. -/
def timesPower (magnitude : Decimal.Magnitude) (power : Nat) : Option Decimal.Magnitude :=
  (Decimal.Magnitude.nearest (Nat.pow 10 power) 1).bind magnitude.mul

def overPower (magnitude : Decimal.Magnitude) (power : Nat) : Option Decimal.Magnitude :=
  (Decimal.Magnitude.nearest (Nat.pow 10 power) 1).bind magnitude.div

/-- The magnitude of `significand · 10 ^ exponent` by one rounded multiplication or
division, after divisions by 10 ^ 308 while the exponent is too low for a power. -/
def scale : Nat → Decimal.Magnitude → Int → Option Decimal.Magnitude
  | 0, magnitude, _ => some magnitude
  | fuel + 1, magnitude, exponent =>
      if exponent.natAbs ≤ 308 then
        if 0 ≤ exponent then timesPower magnitude exponent.natAbs
        else overPower magnitude exponent.natAbs
      else if magnitude.isZero then some magnitude
      else if 0 ≤ exponent then none
      else (overPower magnitude 308).bind fun magnitude => scale fuel magnitude (exponent + 308)

/-- The magnitude of a number with a fraction or an exponent; `none` when it is out of
range.  A significand is zero after three divisions, so a few turns are enough. -/
def magnitude? (significand : Nat) (exponent : Int) : Option Decimal.Magnitude :=
  (Decimal.Magnitude.nearest significand 1).bind fun magnitude => scale 5 magnitude exponent

def real (negative : Bool) (significand : Nat) (exponent : Int) (rest : List UInt8) :
    Except Fault (Number × List UInt8) :=
  match magnitude? significand exponent with
  | some magnitude => .ok (.real ⟨negative, magnitude⟩, rest)
  | none => .error ⟨.numberOutOfRange, .here, rest⟩

def maxExponent : Nat := Word.count 31 - 1

/-- Adds digits to an exponent.  `none` when it outgrows its range, with the octets
after the digit that did it. -/
def exponentDigits : Nat → List UInt8 → Option Nat × List UInt8
  | value, [] => (some value, [])
  | value, octet :: rest =>
      if Decimal.isDigit octet then
        let next := value * 10 + Decimal.digitValue octet
        if maxExponent < next then (none, rest) else exponentDigits next rest
      else (some value, octet :: rest)

def exponentSign : List UInt8 → Bool × List UInt8
  | octet :: rest =>
      if octet = 0x2B then (false, rest)
      else if octet = 0x2D then (true, rest)
      else (false, octet :: rest)
  | [] => (false, [])

def exponent (negative : Bool) (significand : Nat) (start : Int) (octets : List UInt8) :
    Except Fault (Number × List UInt8) :=
  let (down, rest) := exponentSign octets
  match rest with
  | [] => .error ⟨.endInValue, .here, []⟩
  | octet :: rest =>
      if Decimal.isDigit octet then
        match exponentDigits (Decimal.digitValue octet) rest with
        | (some value, rest) =>
            real negative significand (if down then start - value else start + value) rest
        | (none, rest) =>
            if significand ≠ 0 && !down then .error ⟨.numberOutOfRange, .here, rest⟩
            else .ok (.real ⟨negative, .zero⟩, rest.dropWhile Decimal.isDigit)
      else .error ⟨.invalidNumber, .here, rest⟩

def isExponentLetter (octet : UInt8) : Bool :=
  octet = 0x65 || octet = 0x45

def exponentOrEnd (negative : Bool) (significand : Nat) (start : Int) (octets : List UInt8) :
    Except Fault (Number × List UInt8) :=
  match octets with
  | octet :: rest =>
      if isExponentLetter octet then exponent negative significand start rest
      else real negative significand start octets
  | [] => real negative significand start []

def fraction (negative : Bool) (significand : Nat) (start : Int) (octets : List UInt8) :
    Except Fault (Number × List UInt8) :=
  match octets.takeWhile Decimal.isDigit, octets.dropWhile Decimal.isDigit with
  | [], [] => .error ⟨.endInValue, .peek, []⟩
  | [], octet :: rest => .error ⟨.invalidNumber, .peek, octet :: rest⟩
  | digits, rest =>
      let (significand, count, _) := absorb significand 0 digits
      exponentOrEnd negative significand (start - count) rest

/-- An integer without fraction and exponent.  Minus zero and what lies below the
signed range are real numbers. -/
def integer (negative : Bool) (significand : Nat) (rest : List UInt8) :
    Except Fault (Number × List UInt8) :=
  if !negative then .ok (.integer significand, rest)
  else if significand = 0 || Word.count 63 < significand then real true significand 0 rest
  else .ok (.integer (-(significand : Int)), rest)

def afterDigits (negative : Bool) (digits rest : List UInt8) :
    Except Fault (Number × List UInt8) :=
  let (significand, _, dropped) := absorb 0 0 digits
  match rest with
  | octet :: tail =>
      if octet = 0x2E then fraction negative significand dropped.length tail
      else if isExponentLetter octet then exponent negative significand dropped.length tail
      else if dropped.isEmpty then integer negative significand rest
      else real negative significand dropped.length rest
  | [] =>
      if dropped.isEmpty then integer negative significand []
      else real negative significand dropped.length []

def number (negative : Bool) : List UInt8 → Except Fault (Number × List UInt8)
  | [] => .error ⟨.endInValue, .here, []⟩
  | octet :: rest =>
      if octet = 0x30 then
        match rest with
        | next :: _ =>
            if Decimal.isDigit next then .error ⟨.invalidNumber, .peek, rest⟩
            else afterDigits negative [octet] rest
        | [] => afterDigits negative [octet] []
      else if Decimal.isDigit octet then
        afterDigits negative (octet :: rest.takeWhile Decimal.isDigit)
          (rest.dropWhile Decimal.isDigit)
      else .error ⟨.invalidNumber, .here, rest⟩

end AuthBroker.Json
