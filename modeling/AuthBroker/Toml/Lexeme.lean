import AuthBroker.Toml.Value

namespace AuthBroker.Toml

/-! The lexemes of TOML, and the blanks, line ends and comments between them.

A lexeme is split off by its outline.  Whether its characters denote anything is not
asked here.
-/

def isBlank (char : Char) : Bool :=
  char = ' ' || char = '\t'

def dropBlank (text : List Char) : List Char :=
  text.dropWhile isBlank

/-- The control characters that may stand nowhere but in a line end. -/
def isControl (char : Char) : Bool :=
  (char.toNat < 0x20 && char != '\t') || char.toNat = 0x7F

/-- Reads a line end: a line feed, which a carriage return may precede. -/
def lineEnd? : List Char → Option (List Char)
  | '\n' :: rest => some rest
  | '\r' :: '\n' :: rest => some rest
  | _ => none

/-- Drops a comment, if there is one, up to the end of its line.  What has a control
character is no comment. -/
def dropComment (text : List Char) : List Char :=
  match text with
  | '#' :: rest =>
      match rest.dropWhile fun char => !isControl char with
      | [] => []
      | rest => if (lineEnd? rest).isSome then rest else text
  | _ => text

/-- Drops blanks, comments and line ends.  Each line takes a character, so the text
itself is fuel enough. -/
def dropVoid : List Char → List Char → List Char
  | [], text => text
  | _ :: fuel, text =>
      match lineEnd? (dropComment (dropBlank text)) with
      | some rest => dropVoid fuel rest
      | none => dropComment (dropBlank text)

def skipVoid (text : List Char) : List Char :=
  dropVoid text text

/-! ### Quoted lexemes -/

/-- How a lexeme is written: bare, between double or single quotes, or between three
of them, which lets it have several lines. -/
inductive Form
  | bare
  | basic
  | literal
  | basicLines
  | literalLines
deriving DecidableEq, Repr

structure Quotation where
  inside : List Char
  closed : Bool
  rest : List Char
deriving DecidableEq, Repr

/-- Splits a quotation of one line off; `held` is newest first.  After a backslash a
double quote does not close. -/
def quotation (quote : Char) : Bool → List Char → List Char → Quotation
  | _, held, [] => ⟨held.reverse, false, []⟩
  | escaped, held, char :: rest =>
      if char = '\n' then ⟨held.reverse, false, char :: rest⟩
      else if char = quote && !escaped then ⟨held.reverse, true, rest⟩
      else quotation quote (quote = '"' && char = '\\' && !escaped) (char :: held) rest

/-- How many quotes belong to a quotation that three quotes end, when a quote is
next: as many as precede the last three, two at most; none if it goes on. -/
def closing? (quote : Char) (text : List Char) : Option Nat :=
  let count := (text.takeWhile (· == quote)).length
  if count < 3 then none else some (min (count - 3) 2)

def linesQuotation (quote : Char) : Bool → List Char → List Char → Quotation
  | _, held, [] => ⟨held.reverse, false, []⟩
  | escaped, held, char :: rest =>
      if char = quote && !escaped then
        match closing? quote (char :: rest) with
        | some quotes =>
            ⟨(List.replicate quotes quote ++ held).reverse, true, rest.drop (quotes + 2)⟩
        | none => linesQuotation quote false (char :: held) rest
      else linesQuotation quote (quote = '"' && char = '\\' && !escaped) (char :: held) rest

structure Lexeme where
  form : Form
  span : Span
  /-- The characters between the quotes, or all of a bare lexeme. -/
  inside : List Char
  /-- Whether the quotes at its end are there; a bare lexeme needs none. -/
  closed : Bool

def Quotation.lexeme (quotation : Quotation) (form : Form) (start : Place) : Lexeme × List Char :=
  (⟨form, ⟨start, quotation.rest⟩, quotation.inside, quotation.closed⟩, quotation.rest)

def quoted? (text : List Char) : Option (Lexeme × List Char) :=
  match text with
  | '"' :: '"' :: '"' :: rest => some ((linesQuotation '"' false [] rest).lexeme .basicLines text)
  | '"' :: rest => some ((quotation '"' false [] rest).lexeme .basic text)
  | '\'' :: '\'' :: '\'' :: rest =>
      some ((linesQuotation '\'' false [] rest).lexeme .literalLines text)
  | '\'' :: rest => some ((quotation '\'' false [] rest).lexeme .literal text)
  | _ => none

/-! ### Bare lexemes -/

def endsBare (char : Char) : Bool :=
  isBlank char || char = '\n' || char = '\r' || char = '#' || char = ',' || char = '.'
    || char = '=' || char = '[' || char = ']' || char = '\x7b' || char = '\x7d'

def isQuote (char : Char) : Bool :=
  char = '"' || char = '\''

def bare? (start : Place) : List Char × List Char → Option (Lexeme × List Char)
  | ([], _) => none
  | (chars, rest) => some (⟨.bare, ⟨start, rest⟩, chars, true⟩, rest)

def keyLexeme? (text : List Char) : Option (Lexeme × List Char) :=
  match quoted? text with
  | some part => some part
  | none =>
      bare? text
        (text.takeWhile fun char => !endsBare char, text.dropWhile fun char => !endsBare char)

/-- Splits a bare value off.  Dots belong to it, and so do blanks with more of a bare
value after them, as between a date and a time.  `held` are its characters so far,
newest first, `rest` is the text after them, `blanks` what was read of that since. -/
def bareValue (held blanks rest : List Char) : List Char → List Char × List Char
  | [] => (held.reverse, rest)
  | char :: more =>
      if isBlank char then bareValue held (char :: blanks) rest more
      else if if blanks.isEmpty then char = '.' || !endsBare char
          else !endsBare char && !isQuote char then
        bareValue (char :: (blanks ++ held)) [] more more
      else (held.reverse, rest)

def valueLexeme? (text : List Char) : Option (Lexeme × List Char) :=
  match quoted? text with
  | some part => some part
  | none => bare? text (bareValue [] [] text text)

end AuthBroker.Toml
