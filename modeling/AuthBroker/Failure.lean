import AuthBroker.Duration
import AuthBroker.FilePath
import AuthBroker.Request.Failure

namespace AuthBroker

open AuthBroker.Stream

/-! Failures of the broker: what an attempt or a configuration can end in. -/

/-- Coarse kinds of failure, for a caller to branch on. -/
inductive FailureKind
  | launch
  | protocol
  | timeout
  | credential
  /-- The user was authenticated but the session could not be started. -/
  | execution
  /-- The helper exited with a code other than zero, or with zero and no reply. -/
  | helperExit
  | cancelled
  | io
  | config
deriving DecidableEq, Repr

inductive CredentialOrigin
  | pamInfo
  | pamError
  | system
deriving DecidableEq, Repr

def CredentialOrigin.text : CredentialOrigin → String
  | .pamInfo => "PAM"
  | .pamError => "PAM"
  | .system => "system"

/-- What the broker was doing with the helper when the system failed it. -/
inductive Activity
  | writing
  | waiting
deriving DecidableEq, Repr

def Activity.text : Activity → String
  | .writing => "failed to write request to authentication helper"
  | .waiting => "failed to wait for authentication helper"

inductive Failure
  | launch (path : FilePath) (error : IoError)
  | protocol (failure : ProtocolFailure)
  | timeout (after : Duration)
  | credential (origin : CredentialOrigin) (text : String)
  | execution (key : String) (text : String)
  | helperExit (code : Option Int) (text : String)
  | cancelled
  | io (activity : Activity) (error : IoError)
  | config (text : String)
deriving DecidableEq, Repr

namespace Failure

def ofFrame (error : Frame.Error) : Failure :=
  .protocol (.frame error)

def kind : Failure → FailureKind
  | .launch _ _ => .launch
  | .protocol _ => .protocol
  | .timeout _ => .timeout
  | .credential _ _ => .credential
  | .execution _ _ => .execution
  | .helperExit _ _ => .helperExit
  | .cancelled => .cancelled
  | .io _ _ => .io
  | .config _ => .config

def message : Failure → String
  | .launch path error =>
      "failed to launch authentication helper " ++ path.display ++ ": " ++ error.message
  | .protocol failure => failure.message
  | .timeout after =>
      "authentication helper did not respond within " ++ Decimal.text after.millis ++ "ms"
  | .credential origin text => origin.text ++ " authentication error: " ++ text
  | .execution _ text =>
      "authenticated, but the session could not be started: " ++ text
  | .helperExit _ text => text
  | .cancelled => "authentication was cancelled"
  | .io activity error => activity.text ++ ": " ++ error.message
  | .config text => text

def source? : Failure → Option String
  | .launch _ error => some error.message
  | .io _ error => some error.message
  | .protocol failure => failure.source?
  | _ => none

end Failure

end AuthBroker
