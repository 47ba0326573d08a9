import AuthBroker.Json.Skip

namespace AuthBroker.Request

/-! The fields of a request as a document gives them.

The document is an object with these fields in any order, or a list of their values in
the order of the wire.  `Draft` holds what was read so far; `Wire` is the complete
record.
-/

open AuthBroker.Json

structure Wire where
  name : String
  username : String
  password : String
  arguments : Option (List String)
  environment : Option (List String)
deriving DecidableEq, Repr

/-- The fields read so far.  A list that was given as null counts as read. -/
structure Draft where
  name : Option String
  username : Option String
  password : Option String
  arguments : Option (Option (List String))
  environment : Option (Option (List String))
deriving DecidableEq, Repr

def Draft.empty : Draft := ⟨none, none, none, none, none⟩

inductive Field
  | name | username | password | arguments | environment
deriving DecidableEq, Repr

namespace Field

def key : Field → String
  | .name => "name"
  | .username => "username"
  | .password => "password"
  | .arguments => "arguments"
  | .environment => "environment"

def all : List Field :=
  [.name, .username, .password, .arguments, .environment]

def ofKey? (key : String) : Option Field :=
  all.find? fun field => field.key == key

end Field

def Draft.has (draft : Draft) : Field → Bool
  | .name => draft.name.isSome
  | .username => draft.username.isSome
  | .password => draft.password.isSome
  | .arguments => draft.arguments.isSome
  | .environment => draft.environment.isSome

/-- The record of a draft, or the first field that is missing. -/
def Draft.finish (draft : Draft) : Except Field Wire :=
  match draft.name, draft.username, draft.password with
  | none, _, _ => .error .name
  | some _, none, _ => .error .username
  | some _, some _, none => .error .password
  | some name, some username, some password =>
      .ok ⟨name, username, password, draft.arguments.join, draft.environment.join⟩

def recordName : String := "struct WireRequest"

def aString : String := "a string"

def aSequence : String := "a sequence"

/-- The fault of a value of the wrong type.  A name, a number or a string is consumed
first, and its own fault goes first; a list or an object is not consumed. -/
def wrongType (expected : String) (octet : UInt8) (rest : List UInt8) : Fault :=
  if octet = 0x6E then
    match expectName [0x75, 0x6C, 0x6C] rest with
    | .error fault => fault
    | .ok rest => ⟨.wrongType .null expected, .here, rest⟩
  else if octet = 0x74 then
    match expectName [0x72, 0x75, 0x65] rest with
    | .error fault => fault
    | .ok rest => ⟨.wrongType (.boolean true) expected, .here, rest⟩
  else if octet = 0x66 then
    match expectName [0x61, 0x6C, 0x73, 0x65] rest with
    | .error fault => fault
    | .ok rest => ⟨.wrongType (.boolean false) expected, .here, rest⟩
  else if octet = 0x2D then
    match number true rest with
    | .error fault => fault
    | .ok (value, rest) => ⟨.wrongType value.found expected, .here, rest⟩
  else if Decimal.isDigit octet then
    match number false (octet :: rest) with
    | .error fault => fault
    | .ok (value, rest) => ⟨.wrongType value.found expected, .here, rest⟩
  else if octet = 0x22 then
    match string rest with
    | .error fault => fault
    | .ok (value, rest) => ⟨.wrongType (.text value) expected, .here, rest⟩
  else if octet = 0x5B then ⟨.wrongType .sequence expected, .here, octet :: rest⟩
  else if octet = 0x7B then ⟨.wrongType .map expected, .here, octet :: rest⟩
  else ⟨.expectedValue, .peek, octet :: rest⟩

def readString (octets : List UInt8) : Except Fault (String × List UInt8) :=
  match dropBlank octets with
  | [] => .error ⟨.endInValue, .peek, []⟩
  | octet :: rest =>
      if octet = 0x22 then string rest
      else .error (wrongType aString octet rest)

/-- Reads the items of a list of strings; `held` are those before, newest first.  Each
item takes an octet at least. -/
def readStrings : Nat → Bool → List String → List UInt8 →
    Except Fault (List String × List UInt8)
  | 0, _, _, octets => .error ⟨.endInList, .peek, octets⟩
  | fuel + 1, first, held, octets =>
      match listTurn first octets with
      | .error fault => .error fault
      | .ok (.close rest) => .ok (held.reverse, rest)
      | .ok (.item rest) =>
          match readString rest with
          | .error fault => .error fault
          | .ok (text, rest) => readStrings fuel false (text :: held) rest

def readList (octets : List UInt8) : Except Fault (Option (List String) × List UInt8) :=
  match dropBlank octets with
  | [] => .error ⟨.endInValue, .peek, []⟩
  | octet :: rest =>
      if octet = 0x6E then
        match expectName [0x75, 0x6C, 0x6C] rest with
        | .error fault => .error fault
        | .ok rest => .ok (none, rest)
      else if octet = 0x5B then
        match readStrings (rest.length + 1) true [] rest with
        | .error fault => .error fault
        | .ok (texts, rest) => .ok (some texts, rest)
      else .error (wrongType aSequence octet rest)

def Draft.readField (draft : Draft) (field : Field) (octets : List UInt8) :
    Except Fault (Draft × List UInt8) :=
  match field with
  | .name =>
      (readString octets).map fun (text, rest) => ({ draft with name := some text }, rest)
  | .username =>
      (readString octets).map fun (text, rest) => ({ draft with username := some text }, rest)
  | .password =>
      (readString octets).map fun (text, rest) => ({ draft with password := some text }, rest)
  | .arguments =>
      (readList octets).map fun (list, rest) => ({ draft with arguments := some list }, rest)
  | .environment =>
      (readList octets).map fun (list, rest) => ({ draft with environment := some list }, rest)

/-- After a fault of the record as a whole, blanks and a closing bracket that stands
right there are consumed before the place is taken. -/
def afterObject (octets : List UInt8) : List UInt8 :=
  match dropBlank octets with
  | octet :: rest => if octet = 0x7D then rest else octet :: rest
  | [] => []

/-- Reads the members of an object.  Members of other names are passed over.  Each
member takes an octet at least. -/
def readMembers : Nat → Bool → Draft → List UInt8 → Except Fault (Wire × List UInt8)
  | 0, _, _, octets => .error ⟨.endInObject, .peek, octets⟩
  | fuel + 1, first, draft, octets =>
      match objectTurn first octets with
      | .error fault => .error fault
      | .ok (.close rest) =>
          match draft.finish with
          | .ok wire => .ok (wire, rest)
          | .error field => .error ⟨.missingField field.key, .here, rest⟩
      | .ok (.item rest) =>
          match string rest with
          | .error fault => .error fault
          | .ok (key, rest) =>
              match Field.ofKey? key with
              | none =>
                  match colon rest with
                  | .error fault => .error fault
                  | .ok rest =>
                      match skip fuel rest with
                      | .error fault => .error fault
                      | .ok rest => readMembers fuel false draft rest
              | some field =>
                  if draft.has field then
                    .error ⟨.duplicateField field.key, .here, afterObject rest⟩
                  else
                    match colon rest with
                    | .error fault => .error fault
                    | .ok rest =>
                        match draft.readField field rest with
                        | .error fault => .error fault
                        | .ok (draft, rest) => readMembers fuel false draft rest

def Field.required : Nat := 3

def listEnd (octets : List UInt8) : Except Fault (List UInt8) :=
  match dropBlank octets with
  | [] => .error ⟨.endInList, .peek, []⟩
  | octet :: rest =>
      if octet = 0x5D then .ok rest
      else if octet = 0x2C then
        match dropBlank rest with
        | next :: rest =>
            if next = 0x5D then .error ⟨.trailingComma, .peek, next :: rest⟩
            else .error ⟨.trailingCharacters, .peek, next :: rest⟩
        | [] => .error ⟨.trailingCharacters, .peek, []⟩
      else .error ⟨.trailingCharacters, .peek, octet :: rest⟩

/-- Reads the fields of a list in the order of the wire; `index` of them were read. -/
def readItems (index : Nat) (draft : Draft) (octets : List UInt8) :
    List Field → Except Fault (Wire × List UInt8)
  | [] =>
      match listEnd octets with
      | .error fault => .error fault
      | .ok rest =>
          match draft.finish with
          | .ok wire => .ok (wire, rest)
          | .error field => .error ⟨.missingField field.key, .here, rest⟩
  | field :: fields =>
      match listTurn (index == 0) octets with
      | .error fault => .error fault
      | .ok (.close rest) =>
          match draft.finish with
          | .ok wire => .ok (wire, rest)
          | .error _ =>
              .error ⟨.wrongLength index (recordName ++ " with 5 elements"), .here, rest⟩
      | .ok (.item rest) =>
          match draft.readField field rest with
          | .error fault => .error fault
          | .ok (draft, rest) => readItems (index + 1) draft rest fields

/-- Reads the fields of a request from a document with nothing after it. -/
def readWire (document : List UInt8) : Except Fault Wire :=
  let record : Except Fault (Wire × List UInt8) :=
    match dropBlank document with
    | [] => .error ⟨.endInValue, .peek, []⟩
    | octet :: rest =>
        if octet = 0x7B then readMembers (rest.length + 1) true .empty rest
        else if octet = 0x5B then readItems 0 .empty rest Field.all
        else .error (wrongType recordName octet rest)
  match record with
  | .error fault => .error fault
  | .ok (wire, rest) =>
      match documentEnd rest with
      | .error fault => .error fault
      | .ok () => .ok wire

end AuthBroker.Request
