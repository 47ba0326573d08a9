import AuthBroker.Decimal.Shortest
import AuthBroker.Mismatch

namespace AuthBroker.Json

/-! JSON documents. -/

/-- A number: a 64-bit integer, signed or unsigned, or a floating-point number. -/
inductive Number
  | integer (value : Int)
  | real (value : Decimal.Binary64)
deriving DecidableEq, Repr

def Number.text : Number → String
  | .integer value => Decimal.signedText value
  | .real value => value.compact

def Number.found : Number → Found
  | .integer value => .integer value
  | .real value => .real value.compact

inductive Value
  | null
  | boolean (value : Bool)
  | number (value : Number)
  | string (value : String)
  | array (items : List Value)
  | object (members : List (String × Value))

end AuthBroker.Json
