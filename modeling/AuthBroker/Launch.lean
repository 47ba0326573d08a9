import AuthBroker.Config.Basic
import AuthBroker.Environment
import AuthBroker.FileTree
import AuthBroker.Mode
import AuthBroker.Variables

namespace AuthBroker

open AuthBroker.Stream

/-! Launching the helper.

A launch is settled by the configuration, the path of the running broker, the
variables of the broker and the mode.  Nothing of a request has a part in it.
-/

structure Launch where
  program : FilePath
  arguments : List String
  environment : Environment (List UInt8)
deriving DecidableEq

namespace Launch

/-- The path of the helper: the configured one, or else the configured name in the
directory of the running broker. -/
def helperPath (config : Config) (executable : FilePath) : FilePath :=
  match config.helperPath with
  | some path => path
  | none =>
      (executable.parent?.getD (.ofParts true [])).join (.ofString config.helperName)

def isVariableName (name : String) : Bool :=
  !name.isEmpty && !name.toList.contains '=' && !name.toList.contains '\x00'

def forward (surrounding : Variables) (environment : Environment (List UInt8)) (name : String) :
    Environment (List UInt8) :=
  if isVariableName name then
    match surrounding.value? name with
    | some value => environment.insert name value
    | none => environment
  else environment

/-- The environment of the helper: of the broker's own variables, those named in the
configuration. -/
def restrict (surrounding : Variables) (names : List String) : Environment (List UInt8) :=
  names.foldl (forward surrounding) .empty

def plan (config : Config) (executable : FilePath) (surrounding : Variables) (mode : Mode) :
    Launch :=
  ⟨helperPath config executable, mode.arguments, restrict surrounding config.forwardEnv⟩

def equalsSign : UInt8 := 0x3D

/-- The environment as the program gets it: one text for each variable. -/
def variableOctets (launch : Launch) : List (List UInt8) :=
  launch.environment.entries.map fun entry => Text.Utf8.bytes entry.1 ++ equalsSign :: entry.2

/-- The texts of the environment as they are shown, in order. -/
def variableTexts (launch : Launch) : List String :=
  (launch.variableOctets.map Text.Utf8.lossy).mergeSort fun left right => left ≤ right

/-- The most octets that one text given to a program may have. -/
def maxText : Nat := 131071

/-- Starts the program.  The texts are given to it once its file was found. -/
def start (launch : Launch) (tree : FileTree) : Except IoError Unit :=
  match tree.execute launch.program with
  | .error error => .error error
  | .ok () =>
      if launch.variableOctets.any fun text => maxText < text.length then
        .error .textTooLong
      else .ok ()

end Launch

end AuthBroker
