import AuthBroker.Text.Utf8

namespace AuthBroker

/-! Paths of files: octets, for which no encoding is promised. -/

structure FilePath where
  octets : List UInt8
deriving DecidableEq, Repr

namespace FilePath

def slash : UInt8 := 0x2F

def dot : UInt8 := 0x2E

def ofString (text : String) : FilePath :=
  ⟨Text.Utf8.bytes text⟩

/-- A path as it is shown; ill-formed parts read U+FFFD. -/
def display (path : FilePath) : String :=
  Text.Utf8.lossy path.octets

def isAbsolute (path : FilePath) : Bool :=
  path.octets.head? == some slash

def splitSlashes (octets : List UInt8) : List (List UInt8) :=
  octets.foldr
    (fun octet parts =>
      if octet = slash then [] :: parts
      else match parts with
        | part :: rest => (octet :: part) :: rest
        | [] => [[octet]])
    [[]]

/-- The components of a path: what stands between slashes and is not empty. -/
def components (path : FilePath) : List (List UInt8) :=
  (splitSlashes path.octets).filter fun part => !part.isEmpty

/-- Whether a part of a path leads nowhere: it is empty or a single dot. -/
def isIdle (part : List UInt8) : Bool :=
  part.isEmpty || part == [dot]

def ofParts (absolute : Bool) (parts : List (List UInt8)) : FilePath :=
  ⟨(if absolute then [slash] else []) ++ List.intercalate [slash] parts⟩

/-- The dot that a relative path can begin with. -/
def leadingDot (path : FilePath) : List (List UInt8) :=
  if path.isAbsolute then [] else ((splitSlashes path.octets).take 1).filter (· == [dot])

/-- The parts of a path after its root or its leading dot. -/
def body (path : FilePath) : List (List UInt8) :=
  (splitSlashes path.octets).drop (if path.isAbsolute then 1 else path.leadingDot.length)

/-- The directory that a path names an entry of: the path without its last part.  Idle
parts at its end do not count.  A path of no other part has no parent, but a leading dot
is a part of its own. -/
def parent? (path : FilePath) : Option FilePath :=
  match path.body.reverse.dropWhile isIdle with
  | [] => if path.leadingDot.isEmpty then none else some (ofParts false [])
  | _ :: before =>
      some (ofParts path.isAbsolute (path.leadingDot ++ (before.dropWhile isIdle).reverse))

/-- A name below a directory.  An absolute name stands for itself. -/
def join (directory : FilePath) (name : FilePath) : FilePath :=
  if name.isAbsolute then name
  else if directory.octets.isEmpty || directory.octets.getLast? == some slash then
    ⟨directory.octets ++ name.octets⟩
  else ⟨directory.octets ++ slash :: name.octets⟩

end FilePath

end AuthBroker
