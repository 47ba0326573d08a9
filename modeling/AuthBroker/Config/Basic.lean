import AuthBroker.Config.Misfit
import AuthBroker.Failure
import AuthBroker.Toml.Spot

namespace AuthBroker

/-! The configuration of a broker.

`Settings` has what a file gives, every field optional; `Config` is what a broker runs
with.  `Settings.resolve` checks the path and the name of the helper and fills in what
is missing.
-/

structure Settings where
  helperPath : Option FilePath
  helperName : Option String
  probeTimeout : Option Nat
  replyReadTimeout : Option Nat
  requestWriteTimeout : Option Nat
  forwardEnv : Option (List String)
deriving DecidableEq, Repr

def Settings.empty : Settings := ⟨none, none, none, none, none, none⟩

/-- Timeouts are in milliseconds. -/
structure Config where
  helperPath : Option FilePath
  helperName : String
  /-- How long a probe waits for the helper to take its request and exit. -/
  probeTimeout : Nat
  /-- How long reading the reply may take once the helper has exited. -/
  replyReadTimeout : Nat
  /-- How long writing the request of a session may take. -/
  requestWriteTimeout : Nat
  forwardEnv : List String
deriving DecidableEq, Repr

namespace Config

def standard : Config :=
  ⟨none, "runas-helper", 3000, 500, 1000, ["PATH", "LANG", "LC_ALL"]⟩

def withHelperPath (path : FilePath) : Config :=
  { standard with helperPath := some path }

inductive Defect
  | relativePath (path : FilePath)
  | badName (name : String)
  | unreadable (path : FilePath) (error : Stream.IoError)
  | malformed
  | longKey
  | unfit (spot : Toml.Spot) (misfit : Misfit)
deriving DecidableEq, Repr

/-- A number without a value counts as malformed. -/
def Defect.message : Defect → String
  | .relativePath path => "helper_path must be absolute, got " ++ path.display
  | .badName name => "helper_name must be a bare file name, got " ++ Text.quote name
  | .unreadable path error => "failed to read " ++ path.display ++ ": " ++ error.message
  | .malformed => "invalid broker config: syntax"
  | .longKey => "invalid broker config: recursion limit\n"
  | .unfit _ (.valueless _) => "invalid broker config: syntax"
  | .unfit spot misfit =>
      "invalid broker config: line " ++ Decimal.text spot.line ++ ", column " ++
        Decimal.text spot.column ++ ": " ++ misfit.message

/-- The message of a defect, with the line of the file that it is about if there is
one. -/
def Defect.report : Defect → String
  | .unfit spot misfit => "invalid broker config: " ++ spot.report misfit.message
  | defect => defect.message

def Defect.failure (defect : Defect) : Failure :=
  .config defect.message

/-- Whether a name may name a file beside the broker: it is not empty and has no
slash. -/
def isBareName (name : String) : Bool :=
  !name.isEmpty && !name.toList.contains '/'

end Config

def Settings.checkPath (settings : Settings) : Except Config.Defect (Option FilePath) :=
  match settings.helperPath with
  | some path => if path.isAbsolute then .ok (some path) else .error (.relativePath path)
  | none => .ok none

/-- The name given by settings, when it is bare; the standard name without one. -/
def Settings.checkName (settings : Settings) : Except Config.Defect String :=
  match settings.helperName with
  | some name => if Config.isBareName name then .ok name else .error (.badName name)
  | none => .ok Config.standard.helperName

def Settings.resolve (settings : Settings) : Except Config.Defect Config :=
  match settings.checkPath with
  | .error defect => .error defect
  | .ok path =>
      match settings.checkName with
      | .error defect => .error defect
      | .ok name =>
          .ok ⟨path, name, settings.probeTimeout.getD Config.standard.probeTimeout,
            settings.replyReadTimeout.getD Config.standard.replyReadTimeout,
            settings.requestWriteTimeout.getD Config.standard.requestWriteTimeout,
            settings.forwardEnv.getD Config.standard.forwardEnv⟩

end AuthBroker
