import AuthBroker.Json.Printer
import AuthBroker.Json.Reader
import AuthBroker.Reply.Basic

namespace AuthBroker.Reply

/-! Replies as payloads: a list of a tag and a text.

Reading never fails: what is no reply becomes an invalid one.  The helper gives some
texts as bare numbers, so a number or a truth value counts as its text.  Items after
the second are not looked at.
-/

open AuthBroker.Json

inductive Defect
  | notJson (diagnosis : Diagnosis)
  | notList
  | tooShort (size : Nat)
  | tagNotString
  | unknownTag (name : String)
  | notScalar (tag : Tag)
deriving DecidableEq, Repr

def Defect.message : Defect → String
  | .notJson diagnosis => "reply is not valid JSON: " ++ diagnosis.message
  | .notList => "reply is not an array"
  | .tooShort size => "reply has " ++ Decimal.text size ++ " element(s), expected 2"
  | .tagNotString => "reply tag is not a string"
  | .unknownTag name => "unknown reply tag " ++ Text.quote name
  | .notScalar tag => "payload for " ++ tag.name ++ " is not a scalar"

def scalarText? : Value → Option String
  | .string text => some text
  | .number number => some number.text
  | .boolean true => some "true"
  | .boolean false => some "false"
  | .null => none
  | .array _ => none
  | .object _ => none

def ofValue : Value → Except Defect (Tag × String)
  | .array (first :: second :: _) =>
      match first with
      | .string name =>
          match Tag.ofName? name with
          | none => .error (.unknownTag name)
          | some tag =>
              match scalarText? second with
              | none => .error (.notScalar tag)
              | some text => .ok (tag, text)
      | _ => .error .tagNotString
  | .array items => .error (.tooShort items.length)
  | _ => .error .notList

def parse (payload : List UInt8) : Except Defect (Tag × String) :=
  match Json.read payload with
  | .error fault => .error (.notJson (fault.diagnose payload))
  | .ok value => ofValue value

def decode (payload : List UInt8) : Reply :=
  match parse payload with
  | .ok (tag, text) => .tagged tag text
  | .error defect => .invalid defect.message

def encode (tag : Tag) (text : String) : List UInt8 :=
  (Value.array [.string tag.name, .string text]).octets

end AuthBroker.Reply
