import AuthBroker.Text.Hidden

namespace AuthBroker.Text

/-! Quoted text, as diagnostics show a string from outside.

The text stands between double quotes on one line.  A quote, a backslash and the
four common controls have a short escape, every other hidden character is written
as its number, and all else is written as it is.
-/

/-- A hidden character by number: a backslash, `u`, and the number in braces. -/
def escapeByNumber (char : Char) : List Char :=
  ['\\', 'u', '\x7b'] ++ Nat.toDigits 16 char.toNat ++ ['\x7d']

def quoteChar (char : Char) : List Char :=
  if char = '"' then ['\\', '"']
  else if char = '\\' then ['\\', '\\']
  else if char = '\x00' then ['\\', '0']
  else if char = '\t' then ['\\', 't']
  else if char = '\r' then ['\\', 'r']
  else if char = '\n' then ['\\', 'n']
  else if isHidden char then escapeByNumber char
  else [char]

def quoteChars (text : List Char) : List Char :=
  '"' :: (text.flatMap quoteChar ++ ['"'])

def quote (text : String) : String :=
  String.ofList (quoteChars text.toList)

end AuthBroker.Text
