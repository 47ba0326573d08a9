import AuthBroker.ExitCodes
import AuthBroker.Failure
import AuthBroker.Reply.Basic

namespace AuthBroker

/-! What a reply means for an attempt.  Only a result authenticates. -/

structure Authenticated where
  /-- The directory that the helper named as the user's own. -/
  profile : String
deriving DecidableEq, Repr

/-- Whether the user has no profile directory yet. -/
def Authenticated.missingProfile (authenticated : Authenticated) : Bool :=
  authenticated.profile.isEmpty

abbrev Verdict := Except Failure Authenticated

/-- The text for an execution error.  A key that denotes a 32-bit number is looked up
among the exit codes first, since the helper gives one of its errors by code. -/
def executionText (catalog : Catalog) (codes : ExitCodes) (key : String) : String :=
  match Decimal.int32? key with
  | some code => (codes.lookup code).getD (catalog.resolve key)
  | none => catalog.resolve key

def classify (catalog : Catalog) (codes : ExitCodes) : Reply → Verdict
  | .tagged .result text => .ok ⟨text⟩
  | .tagged .pamInfo text => .error (.credential .pamInfo text)
  | .tagged .pamError text => .error (.credential .pamError text)
  | .tagged .systemError text => .error (.credential .system text)
  | .tagged .requestError text => .error (.protocol (.requestRejected text))
  | .tagged .executionError key => .error (.execution key (executionText catalog codes key))
  | .invalid reason => .error (.protocol (.invalidReply reason))

end AuthBroker
