import AuthBroker.Json.Value
import AuthBroker.Text.Utf8

namespace AuthBroker.Json

/-! Writing a document without blanks.

A document is written in pieces: one for each mark, and for a string those that its
escapes divide it into.  In a string only the quote, the backslash and the control
characters below U+0020 are escaped.
-/

/-- The two characters of a lower-case hexadecimal number below 256. -/
def hexPair (value : Nat) : List Char :=
  [Nat.digitChar (value / 16), Nat.digitChar (value % 16)]

def escapeChar (char : Char) : List Char :=
  if char = '"' then ['\\', '"']
  else if char = '\\' then ['\\', '\\']
  else if char = '\x08' then ['\\', 'b']
  else if char = '\x0c' then ['\\', 'f']
  else if char = '\n' then ['\\', 'n']
  else if char = '\r' then ['\\', 'r']
  else if char = '\t' then ['\\', 't']
  else if char.toNat < 0x20 then ['\\', 'u', '0', '0'] ++ hexPair char.toNat
  else [char]

def mustEscape (char : Char) : Bool :=
  char = '"' || char = '\\' || char.toNat < 0x20

/-- The pieces of a string: its quotes, one for each escape, and one for each run of
characters that stand for themselves. -/
def stringPieces (text : String) : List (List UInt8) :=
  let runs := text.toList.splitBy fun char next => !mustEscape char && !mustEscape next
  [0x22] :: (runs.map fun run => Text.Utf8.encode (run.flatMap escapeChar)) ++ [[0x22]]

def commaBefore (first : Bool) : List (List UInt8) :=
  if first then [] else [[0x2C]]

mutual

def Value.pieces : Value → List (List UInt8)
  | .null => [Text.Utf8.bytes "null"]
  | .boolean true => [Text.Utf8.bytes "true"]
  | .boolean false => [Text.Utf8.bytes "false"]
  | .number value => [Text.Utf8.bytes value.text]
  | .string value => stringPieces value
  | .array items => [0x5B] :: (itemPieces true items ++ [[0x5D]])
  | .object members => [0x7B] :: (memberPieces true members ++ [[0x7D]])

def itemPieces (first : Bool) : List Value → List (List UInt8)
  | [] => []
  | value :: items => commaBefore first ++ value.pieces ++ itemPieces false items

def memberPieces (first : Bool) : List (String × Value) → List (List UInt8)
  | [] => []
  | (key, value) :: members =>
      commaBefore first ++ stringPieces key ++ [0x3A] :: (value.pieces
        ++ memberPieces false members)

end

def Value.octets (value : Value) : List UInt8 :=
  value.pieces.flatten

end AuthBroker.Json
