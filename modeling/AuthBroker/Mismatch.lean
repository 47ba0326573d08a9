import AuthBroker.Decimal.Digits
import AuthBroker.Text.Quoted
import AuthBroker.Word

namespace AuthBroker

/-! A value of another kind than the reader of a document expects. -/

inductive Found
  | null
  | boolean (value : Bool)
  | integer (value : Int)
  /-- A number with a fraction or an exponent, as it is shown. -/
  | real (shown : String)
  | text (value : String)
  | sequence
  | map
deriving DecidableEq, Repr

/-- Integers that need more than 64 bits are marked by the range of 128 bits, with a
sign or without, that they are in. -/
def Found.describe : Found → String
  | .null => "null"
  | .boolean true => "boolean `true`"
  | .boolean false => "boolean `false`"
  | .integer value =>
      if Word.fitsSigned 64 value || Word.fitsUnsigned 64 value then
        "integer `" ++ Decimal.signedText value ++ "`"
      else if Word.fitsSigned 128 value then
        "integer `" ++ Decimal.signedText value ++ "` as i128"
      else "integer `" ++ Decimal.signedText value ++ "` as u128"
  | .real shown => "floating point `" ++ shown ++ "`"
  | .text value => "string " ++ Text.quote value
  | .sequence => "sequence"
  | .map => "map"

def invalidType (found : Found) (expected : String) : String :=
  "invalid type: " ++ found.describe ++ ", expected " ++ expected

end AuthBroker
