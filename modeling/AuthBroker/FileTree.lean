import AuthBroker.FilePath
import AuthBroker.Stream.Error

namespace AuthBroker

open AuthBroker.Stream

/-! Files as the system finds them by their paths.

A tree lists what exists; whatever it does not list is missing.  A path is followed
part by part, and every part before the last has to be a directory.
-/

inductive FileTree.Node
  | directory
  | file (executable : Bool) (content : List UInt8)
deriving DecidableEq, Repr

/-- What exists, by paths without idle parts.  The empty path stands for the directory
in which paths that are not absolute begin. -/
structure FileTree where
  entries : List (FilePath × FileTree.Node)
deriving Repr

namespace FileTree

def maxPath : Nat := 4095

def maxPart : Nat := 255

def node? (tree : FileTree) (path : FilePath) : Option Node :=
  (tree.entries.find? fun entry => entry.1 == path).map Prod.snd

/-- The parts up to a place after one more part.  Two dots go back, but not past the
start. -/
def descend (before : List (List UInt8)) (part : List UInt8) : List (List UInt8) :=
  if part = [FilePath.dot] then before
  else if part = [FilePath.dot, FilePath.dot] then before.dropLast
  else before ++ [part]

def follow (tree : FileTree) (absolute : Bool) (before : List (List UInt8)) :
    List (List UInt8) → Except IoError Node
  | [] =>
      match tree.node? (.ofParts absolute before) with
      | some node => .ok node
      | none => .error .noEntry
  | part :: parts =>
      match tree.node? (.ofParts absolute before) with
      | none => .error .noEntry
      | some (.file _ _) => .error .notDirectory
      | some .directory =>
          if maxPart < part.length then .error .nameTooLong
          else follow tree absolute (descend before part) parts

/-- What a path leads to.  A slash at its end asks for a directory. -/
def lookup (tree : FileTree) (path : FilePath) : Except IoError Node :=
  if path.octets.isEmpty then .error .noEntry
  else if maxPath < path.octets.length then .error .nameTooLong
  else
    tree.follow path.isAbsolute []
      (path.components ++
        if path.octets.getLast? = some FilePath.slash then [[FilePath.dot]] else [])

def read (tree : FileTree) (path : FilePath) : Except IoError (List UInt8) :=
  if path.octets.contains 0 then
    .error (.worded .invalidInput "file name contained an unexpected NUL byte")
  else
    match tree.lookup path with
    | .error error => .error error
    | .ok .directory => .error .isDirectory
    | .ok (.file _ content) => .ok content

def execute (tree : FileTree) (path : FilePath) : Except IoError Unit :=
  if path.octets.contains 0 then
    .error (.worded .invalidInput "nul byte found in provided data")
  else
    match tree.lookup path with
    | .error error => .error error
    | .ok .directory => .error .accessDenied
    | .ok (.file executable _) => if executable then .ok () else .error .accessDenied

end FileTree

end AuthBroker
