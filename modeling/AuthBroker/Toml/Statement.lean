import AuthBroker.Toml.Lexeme

namespace AuthBroker.Toml

/-! The statements of a document as they are written.

Nothing is made here of keys and values; the statements show only which lexemes belong
together.
-/

inductive Term
  | scalar (lexeme : Lexeme)
  | array (span : Span) (items : List Term)
  /-- Each entry has the parts of its key and its value. -/
  | table (span : Span) (entries : List (List Lexeme × Term))

inductive Statement
  | assignment (parts : List Lexeme) (value : Term)
  | header (span : Span) (parts : List Lexeme)
  | doubledHeader (span : Span) (parts : List Lexeme)

/-- Reads the parts of a key, with dots between them; `held` is newest first.  Blanks
may stand around every part.  Each part takes a character, so the text itself is fuel
enough. -/
def keyParts : List Char → List Lexeme → List Char → Option (List Lexeme × List Char)
  | [], _, _ => none
  | _ :: fuel, held, text =>
      match keyLexeme? (dropBlank text) with
      | none => none
      | some (part, rest) =>
          match dropBlank rest with
          | '.' :: rest => keyParts fuel (part :: held) rest
          | rest => some ((part :: held).reverse, rest)

/-- Reads the parts of a key and the blanks around them. -/
def key (text : List Char) : Option (List Lexeme × List Char) :=
  keyParts text [] text

/-! ### Values -/

/-- Arrays and inline tables may stand so deep. -/
def maxDepth : Nat := 80

mutual

/-- Reads a value; `depth` more arrays or inline tables may be opened. -/
def readTerm : Nat → Nat → List Char → Option (Term × List Char)
  | 0, _, _ => none
  | fuel + 1, depth, text =>
      match text with
      | '[' :: rest =>
          match depth with
          | 0 => none
          | depth + 1 =>
              match readItems fuel depth [] rest with
              | some (items, rest) => some (.array ⟨text, rest⟩ items, rest)
              | none => none
      | '\x7b' :: rest =>
          match depth with
          | 0 => none
          | depth + 1 =>
              match readEntries fuel depth [] rest with
              | some (entries, rest) => some (.table ⟨text, rest⟩ entries, rest)
              | none => none
      | _ => (valueLexeme? text).map fun (lexeme, rest) => (.scalar lexeme, rest)

/-- Reads the items of an array up to its end; `held` are those before, newest first.
Line ends and comments may stand between them, and a comma after the last. -/
def readItems : Nat → Nat → List Term → List Char → Option (List Term × List Char)
  | 0, _, _, _ => none
  | fuel + 1, depth, held, text =>
      match skipVoid text with
      | ']' :: rest => some (held.reverse, rest)
      | text =>
          match readTerm fuel depth text with
          | none => none
          | some (item, rest) =>
              match skipVoid rest with
              | ']' :: rest => some ((item :: held).reverse, rest)
              | ',' :: rest => readItems fuel depth (item :: held) rest
              | _ => none

/-- Reads the entries of an inline table up to its end.  Line ends and comments may
stand everywhere but within a key. -/
def readEntries : Nat → Nat → List (List Lexeme × Term) → List Char →
    Option (List (List Lexeme × Term) × List Char)
  | 0, _, _, _ => none
  | fuel + 1, depth, held, text =>
      match skipVoid text with
      | '\x7d' :: rest => some (held.reverse, rest)
      | text =>
          match key text with
          | none => none
          | some (parts, rest) =>
              match skipVoid rest with
              | '=' :: rest =>
                  match readTerm fuel depth (skipVoid rest) with
                  | none => none
                  | some (value, rest) =>
                      match skipVoid rest with
                      | '\x7d' :: rest => some (((parts, value) :: held).reverse, rest)
                      | ',' :: rest => readEntries fuel depth ((parts, value) :: held) rest
                      | _ => none
              | _ => none

end

/-! ### Statements -/

def headerParts (text : List Char) : Option (List Lexeme × List Char) :=
  match key text with
  | some (parts, ']' :: rest) => some (parts, rest)
  | _ => none

/-- Reads a statement of at most `size` characters. -/
def readStatement (size : Nat) (text : List Char) : Option (Statement × List Char) :=
  match text with
  | '[' :: '[' :: rest =>
      match headerParts rest with
      | some (parts, ']' :: rest) => some (.doubledHeader ⟨text, rest⟩ parts, rest)
      | _ => none
  | '[' :: rest =>
      match headerParts rest with
      | some (parts, rest) => some (.header ⟨text, rest⟩ parts, rest)
      | none => none
  | _ =>
      match key text with
      | some (parts, '=' :: rest) =>
          match readTerm (2 * size + 2) maxDepth (dropBlank rest) with
          | some (value, rest) => some (.assignment parts value, rest)
          | none => none
      | _ => none

/-- After a statement its line ends, or the document. -/
def statementEnd (text : List Char) : Option (List Char) :=
  match dropComment (dropBlank text) with
  | [] => some []
  | rest => lineEnd? rest

/-- Reads the statements of a text of at most `size` characters; `held` are those
before, newest first. -/
def readStatements : Nat → List Statement → List Char → Option (List Statement)
  | 0, held, text => if (skipVoid text).isEmpty then some held.reverse else none
  | size + 1, held, text =>
      match skipVoid text with
      | [] => some held.reverse
      | text =>
          match readStatement (size + 1) text with
          | none => none
          | some (statement, rest) =>
              match statementEnd rest with
              | some rest => readStatements size (statement :: held) rest
              | none => none

def statements? (document : List Char) : Option (List Statement) :=
  readStatements document.length [] document

end AuthBroker.Toml
