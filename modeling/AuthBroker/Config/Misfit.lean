import AuthBroker.Config.Field
import AuthBroker.Mismatch

namespace AuthBroker.Config

/-! What does not fit in the root table of a configuration file. -/

inductive Misfit
  | unknownField (name : String)
  | wrongType (found : Found) (expected : String)
  | negative (value : Int)
  /-- A number without a value: an integer if it is whole. -/
  | valueless (whole : Bool)
deriving DecidableEq, Repr

def Misfit.message : Misfit → String
  | .unknownField name =>
      "unknown field `" ++ name ++ "`, expected one of " ++
        String.intercalate ", " (Field.all.map fun field => "`" ++ field.name ++ "`")
  | .wrongType found expected => invalidType found expected
  | .negative value =>
      "invalid value: integer `" ++ Decimal.signedText value ++ "`, expected u64"
  | .valueless true => "integer number overflowed"
  | .valueless false => "floating-point number overflowed"

end AuthBroker.Config
