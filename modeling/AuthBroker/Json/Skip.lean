import AuthBroker.Json.Turn

namespace AuthBroker.Json

/-! Passing over a value that nobody asked for.

Only the grammar is checked: numbers of any size, strings of any octets and any
depth of nesting pass.  The lists and objects that are open stand on a stack.
-/

/-- Passes over a string after its opening quote.  A control character is met before
it is consumed.  Each step takes an octet, so the octets themselves are fuel enough. -/
def skipString : List UInt8 → List UInt8 → Except Fault (List UInt8)
  | [], rest => .error ⟨.endInString, .here, rest⟩
  | _ :: _, [] => .error ⟨.endInString, .here, []⟩
  | _ :: fuel, octet :: rest =>
      if octet = 0x22 then .ok rest
      else if octet = 0x5C then
        match rest with
        | [] => .error ⟨.endInString, .here, []⟩
        | letter :: rest =>
            if letter = 0x75 then
              match hexUnit rest with
              | .error fault => .error fault
              | .ok (_, rest) => skipString fuel rest
            else if (shortEscape? letter).isSome then skipString fuel rest
            else .error ⟨.invalidEscape, .here, rest⟩
      else if octet < 0x20 then .error ⟨.controlCharacter, .here, octet :: rest⟩
      else skipString fuel rest

def skipExponent (octets : List UInt8) : Except Fault (List UInt8) :=
  match (exponentSign octets).2 with
  | [] => .error ⟨.invalidNumber, .here, []⟩
  | octet :: rest =>
      if Decimal.isDigit octet then .ok (rest.dropWhile Decimal.isDigit)
      else .error ⟨.invalidNumber, .here, rest⟩

def skipFraction (octets : List UInt8) : Except Fault (List UInt8) :=
  match octets.takeWhile Decimal.isDigit, octets.dropWhile Decimal.isDigit with
  | [], rest => .error ⟨.invalidNumber, .peek, rest⟩
  | _ :: _, octet :: rest =>
      if isExponentLetter octet then skipExponent rest else .ok (octet :: rest)
  | _ :: _, [] => .ok []

def skipAfterDigits : List UInt8 → Except Fault (List UInt8)
  | octet :: rest =>
      if octet = 0x2E then skipFraction rest
      else if isExponentLetter octet then skipExponent rest
      else .ok (octet :: rest)
  | [] => .ok []

def skipNumber : List UInt8 → Except Fault (List UInt8)
  | [] => .error ⟨.invalidNumber, .here, []⟩
  | octet :: rest =>
      if octet = 0x30 then
        match rest with
        | next :: _ =>
            if Decimal.isDigit next then .error ⟨.invalidNumber, .peek, rest⟩
            else skipAfterDigits rest
        | [] => .ok []
      else if Decimal.isDigit octet then skipAfterDigits (rest.dropWhile Decimal.isDigit)
      else .error ⟨.invalidNumber, .here, rest⟩

inductive Bracket
  | list
  | object
deriving DecidableEq, Repr

def Bracket.closing : Bracket → UInt8
  | .list => 0x5D
  | .object => 0x7D

def Bracket.endOfInput : Bracket → Cause
  | .list => .endInList
  | .object => .endInObject

def Bracket.expectedEnd : Bracket → Cause
  | .list => .expectedListEnd
  | .object => .expectedObjectEnd

/-- Passes over a key, from its opening quote on, and its colon. -/
def skipKey (octets : List UInt8) : Except Fault (List UInt8) :=
  match dropBlank octets with
  | [] => .error ⟨.endInObject, .peek, []⟩
  | octet :: rest =>
      if octet = 0x22 then
        match skipString rest rest with
        | .error fault => .error fault
        | .ok rest => colon rest
      else .error ⟨.keyNotString, .peek, octet :: rest⟩

/-- The octets at which the next value of a bracket starts. -/
def Bracket.enter (bracket : Bracket) (octets : List UInt8) : Except Fault (List UInt8) :=
  match bracket with
  | .list => .ok octets
  | .object => skipKey octets

mutual

/-- Passes over one value and then over what its open brackets still hold. -/
def skipValue : Nat → List Bracket → List UInt8 → Except Fault (List UInt8)
  | 0, _, octets => .error ⟨.endInValue, .peek, octets⟩
  | fuel + 1, brackets, octets =>
      match dropBlank octets with
      | [] => .error ⟨.endInValue, .peek, []⟩
      | octet :: rest =>
          if octet = 0x6E then
            match expectName [0x75, 0x6C, 0x6C] rest with
            | .error fault => .error fault
            | .ok rest => skipRest fuel true brackets rest
          else if octet = 0x74 then
            match expectName [0x72, 0x75, 0x65] rest with
            | .error fault => .error fault
            | .ok rest => skipRest fuel true brackets rest
          else if octet = 0x66 then
            match expectName [0x61, 0x6C, 0x73, 0x65] rest with
            | .error fault => .error fault
            | .ok rest => skipRest fuel true brackets rest
          else if octet = 0x2D then
            match skipNumber rest with
            | .error fault => .error fault
            | .ok rest => skipRest fuel true brackets rest
          else if Decimal.isDigit octet then
            match skipNumber (octet :: rest) with
            | .error fault => .error fault
            | .ok rest => skipRest fuel true brackets rest
          else if octet = 0x22 then
            match skipString rest rest with
            | .error fault => .error fault
            | .ok rest => skipRest fuel true brackets rest
          else if octet = 0x5B then skipRest fuel false (.list :: brackets) rest
          else if octet = 0x7B then skipRest fuel false (.object :: brackets) rest
          else .error ⟨.expectedValue, .peek, octet :: rest⟩

/-- Goes on after a value, or after an opening bracket when `comma` is false. -/
def skipRest : Nat → Bool → List Bracket → List UInt8 → Except Fault (List UInt8)
  | 0, _, _, octets => .error ⟨.endInValue, .peek, octets⟩
  | _ + 1, _, [], octets => .ok octets
  | fuel + 1, comma, bracket :: brackets, octets =>
      match dropBlank octets with
      | [] => .error ⟨bracket.endOfInput, .peek, []⟩
      | octet :: rest =>
          if octet = bracket.closing then skipRest fuel true brackets rest
          else if comma then
            if octet = 0x2C then
              match bracket.enter rest with
              | .error fault => .error fault
              | .ok rest => skipValue fuel (bracket :: brackets) rest
            else .error ⟨bracket.expectedEnd, .peek, octet :: rest⟩
          else
            match bracket.enter (octet :: rest) with
            | .error fault => .error fault
            | .ok rest => skipValue fuel (bracket :: brackets) rest

end

/-- Passes over one value that has no more than `most` octets.  Of two steps one takes
an octet at least. -/
def skip (most : Nat) (octets : List UInt8) : Except Fault (List UInt8) :=
  skipValue (2 * most + 2) [] octets

end AuthBroker.Json
