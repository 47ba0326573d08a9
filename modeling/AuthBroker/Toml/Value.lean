import AuthBroker.Decimal.Binary64

namespace AuthBroker.Toml

/-! TOML documents.

Keys and items carry their span in the document, out of which a line and a column are
made when they are asked for.
-/

/-- A place in a document: the characters of the document from there on. -/
abbrev Place := List Char

/-- A stretch of a document: the place where it starts and the place after it. -/
structure Span where
  start : Place
  stop : Place

structure Key where
  name : String
  span : Span

inductive Real
  | finite (value : Decimal.Binary64)
  | infinite (negative : Bool)
  | notNumber
deriving DecidableEq, Repr

/-- The value of a scalar.  A number may have none: an integer that is out of range or
has no digits, a real number that is too large. -/
inductive Scalar
  | text (value : String)
  | integer (value : Option Int)
  | real (value : Option Real)
  | boolean (value : Bool)
  | moment
deriving DecidableEq, Repr

/-- How a table came to be, which decides how it may be added to. -/
inductive Origin
  /-- Written in braces; complete from the start. -/
  | inline
  | header
  | implied
  | dotted
deriving DecidableEq, Repr

inductive Item
  | scalar (span : Span) (value : Scalar)
  | array (span : Span) (items : List Item)
  | table (span : Span) (origin : Origin) (entries : List (Key × Item))
  /-- The tables of one doubled header, in order. -/
  | tables (span : Span) (elements : List Item)

abbrev Entries := List (Key × Item)

def Item.span : Item → Span
  | .scalar span _ => span
  | .array span _ => span
  | .table span _ _ => span
  | .tables span _ => span

end AuthBroker.Toml
