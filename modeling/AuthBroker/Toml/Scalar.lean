import AuthBroker.Toml.Escape
import AuthBroker.Toml.Moment

namespace AuthBroker.Toml

/-! The scalars that lexemes denote. -/

/-- Reads a decimal number, a date or a time.  What follows the first digits tells
which. -/
def decimal? (text : List Char) : Option Scalar :=
  let (signed, negative, number) := takeSign text
  match number.dropWhile isDecimal with
  | [] => decimalInteger? signed negative number
  | next :: rest =>
      if next = '-' || next = ':' then if isMoment text then some .moment else none
      else if (next :: rest).contains ' ' then none
      else if (next :: rest).any isRealMark then real? signed negative number
      else if next = '_' then decimalInteger? signed negative number
      else none

def bareScalar? (text : List Char) : Option Scalar :=
  match text with
  | ['t', 'r', 'u', 'e'] => some (.boolean true)
  | ['f', 'a', 'l', 's', 'e'] => some (.boolean false)
  | '0' :: 'x' :: digits => basedInteger? 16 isHex digits
  | '0' :: 'o' :: digits => basedInteger? 8 isOctal digits
  | '0' :: 'b' :: digits => basedInteger? 2 isBinary digits
  | _ =>
      match takeSign text with
      | (_, negative, ['i', 'n', 'f']) => some (.real (some (.infinite negative)))
      | (_, _, ['n', 'a', 'n']) => some (.real (some .notNumber))
      | _ => decimal? text

def Lexeme.scalar? (lexeme : Lexeme) : Option Scalar :=
  match lexeme.form with
  | .bare => bareScalar? lexeme.inside
  | _ => lexeme.text?.map fun chars => .text (String.ofList chars)

end AuthBroker.Toml
