import AuthBroker.Mismatch

namespace AuthBroker.Json

/-! What is wrong with a JSON document, and where.

A reader that meets a fault leaves the octets it has not consumed.  The place of the
fault follows from their number: the last octet consumed, or the octet after it.
-/

inductive Cause
  | endInValue
  | endInString
  | endInList
  | endInObject
  | expectedValue
  | expectedIdent
  | expectedColon
  | expectedListEnd
  | expectedObjectEnd
  | invalidNumber
  | numberOutOfRange
  | controlCharacter
  | invalidEscape
  | loneSurrogate
  | unfinishedSurrogate
  | invalidCodePoint
  | keyNotString
  | trailingComma
  | trailingCharacters
  | tooDeep
  | wrongType (found : Found) (expected : String)
  | wrongLength (size : Nat) (expected : String)
  | missingField (name : String)
  | duplicateField (name : String)
deriving DecidableEq, Repr

def Cause.message : Cause → String
  | .endInValue => "EOF while parsing a value"
  | .endInString => "EOF while parsing a string"
  | .endInList => "EOF while parsing a list"
  | .endInObject => "EOF while parsing an object"
  | .expectedValue => "expected value"
  | .expectedIdent => "expected ident"
  | .expectedColon => "expected `:`"
  | .expectedListEnd => "expected `,` or `]`"
  | .expectedObjectEnd => "expected `,` or `\x7d`"
  | .invalidNumber => "invalid number"
  | .numberOutOfRange => "number out of range"
  | .controlCharacter => "control character (\\u0000-\\u001F) found while parsing a string"
  | .invalidEscape => "invalid escape"
  | .loneSurrogate => "lone leading surrogate in hex escape"
  | .unfinishedSurrogate => "unexpected end of hex escape"
  | .invalidCodePoint => "invalid unicode code point"
  | .keyNotString => "key must be a string"
  | .trailingComma => "trailing comma"
  | .trailingCharacters => "trailing characters"
  | .tooDeep => "recursion limit exceeded"
  | .wrongType found expected => invalidType found expected
  | .wrongLength size expected =>
      "invalid length " ++ Decimal.text size ++ ", expected " ++ expected
  | .missingField name => "missing field `" ++ name ++ "`"
  | .duplicateField name => "duplicate field `" ++ name ++ "`"

/-- Where a fault lies, seen from the octets consumed. -/
inductive Place
  /-- At the last octet consumed. -/
  | here
  /-- At the next octet, if there is one. -/
  | peek
  /-- A number of columns before the last octet consumed, within its line. -/
  | back (columns : Nat)
deriving DecidableEq, Repr

structure Fault where
  cause : Cause
  place : Place
  rest : List UInt8
deriving DecidableEq, Repr

/-- A fault with its line, from one, and its column, which counts the octets of the
line up to and including the place. -/
structure Diagnosis where
  cause : Cause
  line : Nat
  column : Nat
deriving DecidableEq, Repr

def position (octets : List UInt8) : Nat × Nat :=
  octets.foldl
    (fun (place : Nat × Nat) (octet : UInt8) =>
      if octet = 0x0A then (place.1 + 1, 0) else (place.1, place.2 + 1))
    (1, 0)

def Fault.diagnose (fault : Fault) (document : List UInt8) : Diagnosis :=
  let consumed := document.length - fault.rest.length
  match fault.place with
  | .here =>
      let (line, column) := position (document.take consumed)
      ⟨fault.cause, line, column⟩
  | .peek =>
      let (line, column) := position (document.take (consumed + 1))
      ⟨fault.cause, line, column⟩
  | .back columns =>
      let (line, column) := position (document.take consumed)
      ⟨fault.cause, line, column - columns⟩

def Diagnosis.message (diagnosis : Diagnosis) : String :=
  diagnosis.cause.message ++ " at line " ++ Decimal.text diagnosis.line ++
    " column " ++ Decimal.text diagnosis.column

end AuthBroker.Json
