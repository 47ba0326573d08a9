import AuthBroker.Toml.Lexeme

namespace AuthBroker.Toml

/-! The texts that quoted lexemes denote.

Between double quotes a backslash starts an escape, between single quotes all stands
for itself.  Control characters are written by escapes only.
-/

def hexValue? (char : Char) : Option Nat :=
  if '0' ≤ char && char ≤ '9' then some (char.toNat - '0'.toNat)
  else if 'a' ≤ char && char ≤ 'f' then some (char.toNat - 'a'.toNat + 10)
  else if 'A' ≤ char && char ≤ 'F' then some (char.toNat - 'A'.toNat + 10)
  else none

/-- Reads hexadecimal digits, as many as are asked for. -/
def hexDigits : Nat → Nat → List Char → Option (Nat × List Char)
  | 0, value, rest => some (value, rest)
  | _ + 1, _, [] => none
  | count + 1, value, char :: rest =>
      match hexValue? char with
      | some digit => hexDigits count (value * 16 + digit) rest
      | none => none

/-- Reads a character by number; surrogates and numbers above U+10FFFF are none. -/
def charByNumber (count : Nat) (text : List Char) : Option (Char × List Char) :=
  match hexDigits count 0 text with
  | some (value, rest) =>
      if value < 0xD800 || (0xE000 ≤ value && value < 0x110000) then
        some (Char.ofNat value, rest)
      else none
  | none => none

def escape : List Char → Option (Char × List Char)
  | 'b' :: rest => some ('\x08', rest)
  | 't' :: rest => some ('\t', rest)
  | 'n' :: rest => some ('\n', rest)
  | 'f' :: rest => some ('\x0c', rest)
  | 'r' :: rest => some ('\r', rest)
  | 'e' :: rest => some ('\x1b', rest)
  | '"' :: rest => some ('"', rest)
  | '\\' :: rest => some ('\\', rest)
  | 'x' :: rest => charByNumber 2 rest
  | 'u' :: rest => charByNumber 4 rest
  | 'U' :: rest => charByNumber 8 rest
  | _ => none

/-- The text of a basic string of one line; `held` is newest first.  Each step takes a
character, so the characters themselves are fuel enough. -/
def basicText : List Char → List Char → List Char → Option (List Char)
  | _, held, [] => some held.reverse
  | [], _, _ :: _ => none
  | _ :: fuel, held, char :: rest =>
      if char = '\\' then
        match escape rest with
        | some (char, rest) => basicText fuel (char :: held) rest
        | none => none
      else if isControl char then none
      else basicText fuel (char :: held) rest

def literalText (inside : List Char) : Option (List Char) :=
  if inside.any isControl then none else some inside

/-- Drops the line end at which a string of several lines may start. -/
def dropFirstLineEnd (text : List Char) : List Char :=
  (lineEnd? text).getD text

/-- Drops blanks and line ends.  Each line takes a character, so the text itself is
fuel enough. -/
def dropLineEnds : List Char → List Char → List Char
  | [], text => text
  | _ :: fuel, text =>
      match lineEnd? (dropBlank text) with
      | some rest => dropLineEnds fuel rest
      | none => dropBlank text

/-- After a backslash at the end of a line, blanks and line ends up to the next other
character do not count. -/
def joinLines (text : List Char) : Option (List Char) :=
  match lineEnd? (dropBlank text) with
  | some rest => some (dropLineEnds rest rest)
  | none => none

def basicLinesText : List Char → List Char → List Char → Option (List Char)
  | _, held, [] => some held.reverse
  | [], _, _ :: _ => none
  | _ :: fuel, held, char :: rest =>
      if char = '\\' then
        match joinLines rest with
        | some rest => basicLinesText fuel held rest
        | none =>
            match escape rest with
            | some (char, rest) => basicLinesText fuel (char :: held) rest
            | none => none
      else if char = '\r' then
        match rest with
        | '\n' :: rest => basicLinesText fuel ('\n' :: char :: held) rest
        | _ => none
      else if isControl char && char != '\n' then none
      else basicLinesText fuel (char :: held) rest

/-- The text of a literal string of several lines; `held` is newest first. -/
def literalLinesText : List Char → List Char → Option (List Char)
  | held, [] => some held.reverse
  | held, '\r' :: '\n' :: rest => literalLinesText ('\n' :: '\r' :: held) rest
  | held, char :: rest =>
      if isControl char && char != '\n' then none else literalLinesText (char :: held) rest

def Lexeme.text? (lexeme : Lexeme) : Option (List Char) :=
  if lexeme.closed then
    match lexeme.form with
    | .bare => none
    | .basic => basicText lexeme.inside [] lexeme.inside
    | .literal => literalText lexeme.inside
    | .basicLines => basicLinesText lexeme.inside [] (dropFirstLineEnd lexeme.inside)
    | .literalLines => literalLinesText [] (dropFirstLineEnd lexeme.inside)
  else none

def isKeyChar (char : Char) : Bool :=
  ('a' ≤ char && char ≤ 'z') || ('A' ≤ char && char ≤ 'Z') || ('0' ≤ char && char ≤ '9')
    || char = '_' || char = '-'

/-- The key that a lexeme names.  A key has one line. -/
def Lexeme.key? (lexeme : Lexeme) : Option Key :=
  match lexeme.form with
  | .bare =>
      if lexeme.inside.all isKeyChar then some ⟨String.ofList lexeme.inside, lexeme.span⟩ else none
  | .basicLines => none
  | .literalLines => none
  | _ => lexeme.text?.map fun chars => ⟨String.ofList chars, lexeme.span⟩

end AuthBroker.Toml
