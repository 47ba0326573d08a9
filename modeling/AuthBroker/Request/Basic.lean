import AuthBroker.Environment
import AuthBroker.Text.Quoted

namespace AuthBroker

/-! Requests: what the broker asks of the helper. -/

/-- A password.  Its debug form does not depend on it. -/
structure Secret where
  exposed : String
deriving DecidableEq

def Secret.isEmpty (secret : Secret) : Bool :=
  secret.exposed.isEmpty

def Secret.debug (_ : Secret) : String :=
  "Secret(<redacted>)"

inductive Request
  /-- Authenticate, then run a program as the user. -/
  | run (username : String) (secret : Secret) (arguments : List String)
      (environment : Environment)
  | probe (username : String) (secret : Secret)
deriving DecidableEq

namespace Request

def username : Request → String
  | .run username _ _ _ => username
  | .probe username _ => username

def secret : Request → Secret
  | .run _ secret _ _ => secret
  | .probe _ secret => secret

def runName : String := "AuthAndRun"

def probeName : String := "AuthOnly"

def name : Request → String
  | .run _ _ _ _ => runName
  | .probe _ _ => probeName

def commaList (texts : List String) : String :=
  String.intercalate ", " texts

/-- The form of a request in diagnostics.  The secret does not show. -/
def debug : Request → String
  | .run username secret arguments environment =>
      "Run \x7b username: " ++ Text.quote username ++ ", secret: " ++ secret.debug ++
        ", arguments: [" ++ commaList (arguments.map Text.quote) ++ "], environment: \x7b" ++
        commaList (environment.entries.map fun entry =>
          Text.quote entry.1 ++ ": " ++ Text.quote entry.2) ++ "\x7d \x7d"
  | .probe username secret =>
      "Probe \x7b username: " ++ Text.quote username ++ ", secret: " ++ secret.debug ++ " \x7d"

end Request

end AuthBroker
