import AuthBroker.Json.Reader
import AuthBroker.Proofs.Json.Numeral

namespace AuthBroker.Json

/-! The grammar of JSON documents.

`Spells` relates the octets of a value to the value.  The items of a list and the members
of an object both stand in a `Row`, with a comma before each but the first; no comma
stands before a closing bracket.  A document is one value between blanks, nested no deeper
than the reader goes.
-/

/-! ### Rows -/

/-- What stands before an item: blanks, and a comma unless the item is the first. -/
inductive Lead : Bool → List UInt8 → Prop
  | first {gap : List UInt8} (blank : Blank gap) : Lead true gap
  | comma {before after : List UInt8} (blankBefore : Blank before) (blankAfter : Blank after) :
      Lead false (before ++ 0x2C :: after)

/-- Items up to a closing bracket; the flag says whether the next item is the first. -/
inductive Row {α : Type} (spells : List UInt8 → α → Prop) : Bool → List UInt8 → List α → Prop
  | ended {first : Bool} {gap : List UInt8} (blank : Blank gap) : Row spells first gap []
  | item {first : Bool} {lead text body : List UInt8} {item : α} {items : List α}
      (leads : Lead first lead) (spelt : spells text item) (more : Row spells false body items) :
      Row spells first (lead ++ text ++ body) (item :: items)

/-- A member of an object: its key, a colon and its value. -/
inductive Member (spells : List UInt8 → Value → Prop) : List UInt8 → String × Value → Prop
  | intro {spelling before after text : List UInt8} {key : String} {value : Value}
      (quoted : Quoted spelling key) (blankBefore : Blank before) (blankAfter : Blank after)
      (spelt : spells text value) :
      Member spells (0x22 :: spelling ++ before ++ 0x3A :: after ++ text) (key, value)

/-! ### Values and documents -/

/-- The octets that spell a value, without blanks around them. -/
inductive Spells : List UInt8 → Value → Prop
  | null : Spells [0x6E, 0x75, 0x6C, 0x6C] .null
  | yes : Spells [0x74, 0x72, 0x75, 0x65] (.boolean true)
  | no : Spells [0x66, 0x61, 0x6C, 0x73, 0x65] (.boolean false)
  | number {numeral : Numeral} {value : Number} (denotes : numeral.value? = some value) :
      Spells numeral.octets (.number value)
  | string {spelling : List UInt8} {text : String} (quoted : Quoted spelling text) :
      Spells (0x22 :: spelling) (.string text)
  | list {body : List UInt8} {items : List Value} (row : Row Spells true body items) :
      Spells (0x5B :: body ++ [0x5D]) (.array items)
  | object {body : List UInt8} {members : List (String × Value)}
      (row : Row (Member Spells) true body members) :
      Spells (0x7B :: body ++ [0x7D]) (.object members)

mutual

/-- How many lists and objects are open in one another. -/
def Value.nesting : Value → Nat
  | .null => 0
  | .boolean _ => 0
  | .number _ => 0
  | .string _ => 0
  | .array items => itemsNesting items + 1
  | .object members => membersNesting members + 1

def itemsNesting : List Value → Nat
  | [] => 0
  | value :: items => max value.nesting (itemsNesting items)

def membersNesting : List (String × Value) → Nat
  | [] => 0
  | (_, value) :: members => max value.nesting (membersNesting members)

end

/-- The documents of a value that can be read. -/
def Document (document : List UInt8) (value : Value) : Prop :=
  ∃ before text after, Blank before ∧ Spells text value ∧ Blank after ∧
    document = before ++ text ++ after ∧ value.nesting ≤ 127

end AuthBroker.Json
