import AuthBroker.Catalog
import AuthBroker.WaitStatus

namespace AuthBroker

/-! What the exit codes of the helper mean. -/

def exitOk : Int := 0

def exitInitFailed : Int := 200

def exitBadInput : Int := 201

def exitNoInput : Int := 202

/-- Diagnoses by exit code.  Of entries with one code the last counts. -/
structure ExitCodes where
  entries : List (Int × String)
deriving DecidableEq, Repr

namespace ExitCodes

def ofCatalog (catalog : Catalog) : ExitCodes :=
  ⟨[(exitInitFailed, catalog.resolve Catalog.initFailedKey),
    (exitBadInput, catalog.resolve Catalog.badInputKey),
    (exitNoInput, catalog.resolve Catalog.noInputKey)]⟩

def english : ExitCodes := ofCatalog .english

def lookup (codes : ExitCodes) (code : Int) : Option String :=
  Listing.text? codes.entries code

/-- A code has the diagnosis of its last entry. -/
theorem lookup_eq_some_iff {codes : ExitCodes} {code : Int} {text : String} :
    codes.lookup code = some text ↔
      ∃ before after, codes.entries = before ++ (code, text) :: after ∧ ∀ entry ∈ after, entry.1 ≠ code :=
  Listing.text?_eq_some_iff

theorem lookup_eq_none_iff {codes : ExitCodes} {code : Int} :
    codes.lookup code = none ↔ ∀ entry ∈ codes.entries, entry.1 ≠ code :=
  Listing.text?_eq_none_iff

/-- The diagnosis of a code; a code without one is its own number. -/
def describeCode (codes : ExitCodes) (code : Int) : String :=
  (codes.lookup code).getD (Decimal.signedText code)

/-- The diagnosis of a status.  A helper that a signal ended has no code. -/
def describe (codes : ExitCodes) (status : WaitStatus) : String :=
  match status.kind with
  | .exited code => codes.describeCode code
  | .signaled signal => "terminated by signal " ++ Decimal.text signal
  | _ => status.text

end ExitCodes

end AuthBroker
