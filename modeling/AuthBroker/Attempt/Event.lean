import AuthBroker.Attempt.Lifecycle
import AuthBroker.Mode
import AuthBroker.Verdict

namespace AuthBroker.Attempt

/-! What an attempt writes to the log. -/

inductive Level
  | debug
  | info
  | warning
  | error
deriving DecidableEq, Repr

def Level.name : Level → String
  | .debug => "DEBUG"
  | .info => "INFO"
  | .warning => "WARN"
  | .error => "ERROR"

inductive Event
  | advanced (mode : Mode) (source target : Lifecycle)
  | helperExited (status : WaitStatus)
  | authenticated (user : Authenticated)
  | refused (failure : Failure)
  | sessionUnlaunched (failure : Failure)
  | sessionUnsent (failure : Failure)
  | sessionHandedOff
deriving DecidableEq, Repr

inductive Field
  | username (name : String)
  | mode (mode : Mode)
  | resourceKey (key : String)
  | exitCode (code : Int)
  /-- The number of the process that the caller got. -/
  | pid (number : Nat)
  /-- The number of a helper that was waited for. -/
  | helperPid (number : Nat)
deriving DecidableEq, Repr

namespace Event

/-- A cancellation is the caller's own doing and no error. -/
def level : Event → Level
  | .advanced _ _ _ => .debug
  | .helperExited _ => .debug
  | .authenticated user => if user.missingProfile then .warning else .info
  | .refused .cancelled => .info
  | .refused _ => .error
  | .sessionUnlaunched _ => .error
  | .sessionUnsent _ => .error
  | .sessionHandedOff => .info

def refusalText : Failure → String
  | .credential origin text => origin.text ++ " rejected authentication: " ++ text
  | .execution _ text => "authentication helper failed to run: " ++ text
  | .protocol failure => "authentication helper protocol error: " ++ failure.message
  | .helperExit _ text => "authentication failed: " ++ text
  | .timeout after =>
      "authentication helper timed out after " ++ Decimal.text after.millis ++ "ms"
  | .cancelled => "authentication cancelled"
  | .launch path error => "authentication failed: " ++ (Failure.launch path error).message
  | .io activity error => "authentication failed: " ++ (Failure.io activity error).message
  | .config text => "authentication failed: " ++ text

def message : Event → String
  | .advanced _ source target =>
      "authentication attempt " ++ source.name ++ " -> " ++ target.name
  | .helperExited status => "authentication helper exited: " ++ status.text
  | .authenticated user =>
      if user.missingProfile then "user authenticated but has no profile directory"
      else "user authenticated"
  | .refused failure => refusalText failure
  | .sessionUnlaunched failure => "failed to start session helper: " ++ failure.message
  | .sessionUnsent failure => "failed to send session request: " ++ failure.message
  | .sessionHandedOff => "handed off session worker"

def details (pid : Nat) : Event → List Field
  | .advanced mode _ _ => [.mode mode]
  | .refused (.execution key _) => [.resourceKey key]
  | .refused (.helperExit (some code) _) => [.exitCode code]
  | .sessionHandedOff => [.pid pid]
  | _ => []

/-- The fields of an event in an attempt for a user, whose helper is the process of the given
number.  The exit of the helper is noted with that number instead of the user. -/
def fields (username : String) (pid : Nat) : Event → List Field
  | .helperExited _ => [.helperPid pid]
  | event => .username username :: event.details pid

end Event

end AuthBroker.Attempt
