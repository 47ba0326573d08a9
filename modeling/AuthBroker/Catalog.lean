import AuthBroker.Listing

namespace AuthBroker

/-! Message catalogs: texts for the keys by which the helper names its errors. -/

/-- What looks up the text of a key, in whatever way. -/
structure Catalog where
  lookup : String → Option String

namespace Catalog

/-- A catalog of listed texts. -/
def ofListing (listing : List (String × String)) : Catalog :=
  ⟨Listing.text? listing⟩

def initFailedKey : String := "Error_AuthInitFailed"

def badInputKey : String := "Error_AuthBadInput"

def noInputKey : String := "Error_AuthNoInput"

def inputFormatKey : String := "Error_RunAsUser_InputFormatInvalid"

def messageTypeKey : String := "Error_RunAsUser_MessageTypeInvalid"

/-- The text of a key, or the key when it has none. -/
def resolve (catalog : Catalog) (key : String) : String :=
  (catalog.lookup key).getD key

def english : Catalog :=
  ofListing [
    (initFailedKey, "authentication helper failed to initialize"),
    (badInputKey, "authentication helper received a malformed request"),
    (noInputKey, "authentication helper received no username or password"),
    (inputFormatKey, "the authentication request is not a JSON object"),
    (messageTypeKey, "the authentication request has an unknown message type")]

/-- A catalog of listed texts has for a key the text of its last entry. -/
theorem lookup_ofListing_eq_some_iff {listing : List (String × String)} {key text : String} :
    (ofListing listing).lookup key = some text ↔
      ∃ before after, listing = before ++ (key, text) :: after ∧ ∀ entry ∈ after, entry.1 ≠ key :=
  Listing.text?_eq_some_iff

end Catalog

end AuthBroker
