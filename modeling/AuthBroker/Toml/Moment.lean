import AuthBroker.Toml.Number

namespace AuthBroker.Toml

/-! Dates and times.

They are checked, and nothing more is kept of them.  Seconds may be missing, and there
may be a sixty-first.
-/

/-- Reads digits, exactly as many as are asked for. -/
def fixedDigits (count : Nat) (text : List Char) : Option (Nat × List Char) :=
  let digits := text.takeWhile isDecimal
  if digits.length = count then some (valueIn 10 digits, text.drop count) else none

def isLeapYear (year : Nat) : Bool :=
  year % 4 = 0 && (year % 100 != 0 || year % 400 = 0)

def daysIn (year month : Nat) : Nat :=
  if month = 2 then (if isLeapYear year then 29 else 28)
  else if month = 4 || month = 6 || month = 9 || month = 11 then 30
  else 31

def date (text : List Char) : Option (List Char) :=
  match fixedDigits 4 text with
  | some (year, '-' :: rest) =>
      match fixedDigits 2 rest with
      | some (month, '-' :: rest) =>
          match fixedDigits 2 rest with
          | some (day, rest) =>
              if 1 ≤ month && month ≤ 12 && 1 ≤ day && day ≤ daysIn year month then some rest
              else none
          | none => none
      | _ => none
  | _ => none

def secondFraction : List Char → Option (List Char)
  | '.' :: rest =>
      match rest.takeWhile isDecimal with
      | [] => none
      | _ => some (rest.dropWhile isDecimal)
  | rest => some rest

/-- Reads the seconds of a time; they may be missing. -/
def seconds : List Char → Option (List Char)
  | ':' :: rest =>
      match fixedDigits 2 rest with
      | some (second, rest) => if second ≤ 60 then secondFraction rest else none
      | none => none
  | rest => some rest

def time (text : List Char) : Option (List Char) :=
  match fixedDigits 2 text with
  | some (hour, ':' :: rest) =>
      match fixedDigits 2 rest with
      | some (minute, rest) => if hour ≤ 23 && minute ≤ 59 then seconds rest else none
      | none => none
  | _ => none

/-- Reads an offset from universal time; it may be missing. -/
def offset (text : List Char) : Option (List Char) :=
  match text with
  | 'Z' :: rest => some rest
  | 'z' :: rest => some rest
  | sign :: rest =>
      if sign = '+' || sign = '-' then
        match fixedDigits 2 rest with
        | some (hour, ':' :: rest) =>
            match fixedDigits 2 rest with
            | some (minute, rest) => if hour ≤ 23 && minute ≤ 59 then some rest else none
            | none => none
        | _ => none
      else some text
  | [] => some []

/-- Whether the characters are a date, a time, or both with an offset perhaps. -/
def isMoment (text : List Char) : Bool :=
  match date text with
  | some [] => true
  | some (separator :: rest) =>
      if separator = 'T' || separator = 't' || separator = ' ' then
        ((time rest).bind offset) == some []
      else false
  | none => time text == some []

end AuthBroker.Toml
