import AuthBroker.Config.Basic
import AuthBroker.Decimal.Shortest
import AuthBroker.Toml.Document
import AuthBroker.Word

namespace AuthBroker.Config

/-! Configuration files.

A file is a TOML document whose root table has up to six fields.  The fields are
looked at in the order of their names, whatever the order of the document, and the
first that does not fit is reported at its place.
-/

open AuthBroker.Toml

/-- A span of the document, and what does not fit about it. -/
abbrev Complaint := Span × Misfit

/-- A real number as it is shown; it always has a point. -/
def shownReal : Toml.Real → String
  | .finite value => value.expanded
  | .infinite false => "inf"
  | .infinite true => "-inf"
  | .notNumber => "NaN"

/-- What is said of an item where something else was expected. -/
def mismatch (expected : String) : Item → Complaint
  | .scalar span (.text value) => (span, .wrongType (.text value) expected)
  | .scalar span (.integer (some value)) => (span, .wrongType (.integer value) expected)
  | .scalar span (.integer none) => (span, .valueless true)
  | .scalar span (.real (some value)) => (span, .wrongType (.real (shownReal value)) expected)
  | .scalar span (.real none) => (span, .valueless false)
  | .scalar span (.boolean value) => (span, .wrongType (.boolean value) expected)
  | .scalar span .moment => (span, .wrongType .map expected)
  | .array span _ => (span, .wrongType .sequence expected)
  | .tables span _ => (span, .wrongType .sequence expected)
  | .table span _ _ => (span, .wrongType .map expected)

def textOf (expected : String) : Item → Except Complaint String
  | .scalar _ (.text value) => .ok value
  | item => .error (mismatch expected item)

/-- An integer of 64 bits without a sign.  A negative one that fits 64 bits with a
sign is of the right kind and has the wrong value. -/
def countOf (item : Item) : Except Complaint Nat :=
  match item with
  | .scalar span (.integer (some value)) =>
      if Word.fitsUnsigned 64 value then .ok value.toNat
      else if Word.fitsSigned 64 value then .error (span, .negative value)
      else .error (mismatch "u64" item)
  | _ => .error (mismatch "u64" item)

def textsOf : Item → Except Complaint (List String)
  | .array _ items => items.mapM (textOf "a string")
  | .tables _ elements => elements.mapM (textOf "a string")
  | item => .error (mismatch "a sequence" item)

def assign (settings : Settings) (item : Item) : Field → Except Complaint Settings
  | .helperPath =>
      (textOf "path string" item).map fun value =>
        { settings with helperPath := some (.ofString value) }
  | .helperName =>
      (textOf "a string" item).map fun value => { settings with helperName := some value }
  | .probeTimeout =>
      (countOf item).map fun value => { settings with probeTimeout := some value }
  | .replyReadTimeout =>
      (countOf item).map fun value => { settings with replyReadTimeout := some value }
  | .requestWriteTimeout =>
      (countOf item).map fun value => { settings with requestWriteTimeout := some value }
  | .forwardEnv =>
      (textsOf item).map fun value => { settings with forwardEnv := some value }

def addEntry (settings : Settings) (entry : Key × Item) : Except Complaint Settings :=
  match Field.ofName? entry.1.name with
  | some field => assign settings entry.2 field
  | none => .error (entry.1.span, .unknownField entry.1.name)

def sortByName (entries : Entries) : Entries :=
  entries.mergeSort fun left right => left.1.name ≤ right.1.name

def ofEntries (entries : Entries) : Except Complaint Settings :=
  (sortByName entries).foldlM addEntry Settings.empty

def ofFlaw : Flaw → Defect
  | .malformed => .malformed
  | .longKey => .longKey

/-- The settings of a document.  A mark of its encoding counts as a character of the
first line. -/
def readSettings (document : List Char) : Except Defect Settings :=
  match Toml.read document with
  | .error flaw => .error (ofFlaw flaw)
  | .ok entries =>
      match ofEntries entries with
      | .ok settings => .ok settings
      | .error (span, misfit) => .error (.unfit (span.spot document) misfit)

def ofDocument (document : List Char) : Except Defect Config :=
  match readSettings document with
  | .ok settings => settings.resolve
  | .error defect => .error defect

def notUtf8 : Stream.IoError :=
  .worded .invalidData "stream did not contain valid UTF-8"

/-- The configuration of a file, out of what reading the file gave. -/
def ofFile (path : FilePath) (content : Except Stream.IoError (List UInt8)) :
    Except Defect Config :=
  match content with
  | .error error => .error (.unreadable path error)
  | .ok octets =>
      match Text.Utf8.decode octets with
      | none => .error (.unreadable path notUtf8)
      | some document => ofDocument document

end AuthBroker.Config
