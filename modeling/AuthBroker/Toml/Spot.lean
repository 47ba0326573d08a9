import AuthBroker.Decimal.Digits
import AuthBroker.Text.Utf8
import AuthBroker.Toml.Value

namespace AuthBroker.Toml

/-! Spots: spans as they are shown to a person. -/

structure Spot where
  /-- Counted from one, as the column is. -/
  line : Nat
  column : Nat
  content : List Char
  width : Nat
deriving DecidableEq, Repr

def between (start stop : Place) : List Char :=
  start.take (start.length - stop.length)

def octetCount (text : List Char) : Nat :=
  (Text.Utf8.bytes (String.ofList text)).length

def isNotLineFeed (char : Char) : Bool :=
  char != '\n'

def Span.spot (span : Span) (document : List Char) : Spot :=
  let before := between document span.start
  let indent := (before.reverse.takeWhile isNotLineFeed).reverse
  ⟨before.count '\n' + 1, indent.length + 1,
    indent ++ span.start.takeWhile isNotLineFeed, octetCount (between span.start span.stop)⟩

namespace Spot

/-- How many marks stand under the line: one for an octet of the span as far as the
line goes, and at least one. -/
def marks (spot : Spot) : Nat :=
  max 1 (min spot.width (octetCount spot.content - (spot.column - 1)))

/-- A remark with the line that it is about and marks under the span. -/
def report (spot : Spot) (remark : String) : String :=
  let line := Decimal.text spot.line
  let margin := String.ofList (List.replicate (line.length + 1) ' ') ++ "|"
  "TOML parse error at line " ++ line ++ ", column " ++ Decimal.text spot.column ++ "\n" ++
    margin ++ "\n" ++
    line ++ " | " ++ String.ofList spot.content ++ "\n" ++
    margin ++ String.ofList (List.replicate spot.column ' ') ++
    String.ofList (List.replicate spot.marks '^') ++ "\n" ++
    remark ++ "\n"

end Spot

end AuthBroker.Toml
