import AuthBroker.Json.Lexeme

namespace AuthBroker.Json

/-! What stands between the items of a list or the members of an object. -/

/-- Another item or member follows, or the closing bracket was consumed. -/
inductive Turn
  | item (rest : List UInt8)
  | close (rest : List UInt8)
deriving DecidableEq, Repr

/-- Looks for the next item of a list.  The octets of an item start with its value. -/
def listTurn (first : Bool) (octets : List UInt8) : Except Fault Turn :=
  match dropBlank octets with
  | [] => .error ⟨.endInList, .peek, []⟩
  | octet :: rest =>
      if octet = 0x5D then .ok (.close rest)
      else if first then .ok (.item (octet :: rest))
      else if octet = 0x2C then
        match dropBlank rest with
        | [] => .error ⟨.endInValue, .peek, []⟩
        | next :: rest =>
            if next = 0x5D then .error ⟨.trailingComma, .peek, next :: rest⟩
            else .ok (.item (next :: rest))
      else .error ⟨.expectedListEnd, .peek, octet :: rest⟩

/-- Looks for the next member of an object.  The octets of a member start after the
opening quote of its key. -/
def objectTurn (first : Bool) (octets : List UInt8) : Except Fault Turn :=
  match dropBlank octets with
  | [] => .error ⟨.endInObject, .peek, []⟩
  | octet :: rest =>
      if octet = 0x7D then .ok (.close rest)
      else if first then
        if octet = 0x22 then .ok (.item rest)
        else .error ⟨.keyNotString, .peek, octet :: rest⟩
      else if octet = 0x2C then
        match dropBlank rest with
        | [] => .error ⟨.endInValue, .peek, []⟩
        | next :: rest =>
            if next = 0x22 then .ok (.item rest)
            else if next = 0x7D then .error ⟨.trailingComma, .peek, next :: rest⟩
            else .error ⟨.keyNotString, .peek, next :: rest⟩
      else .error ⟨.expectedObjectEnd, .peek, octet :: rest⟩

def colon (octets : List UInt8) : Except Fault (List UInt8) :=
  match dropBlank octets with
  | [] => .error ⟨.endInObject, .peek, []⟩
  | octet :: rest =>
      if octet = 0x3A then .ok rest
      else .error ⟨.expectedColon, .peek, octet :: rest⟩

/-- After a document there may be blanks only. -/
def documentEnd (octets : List UInt8) : Except Fault Unit :=
  match dropBlank octets with
  | [] => .ok ()
  | octet :: rest => .error ⟨.trailingCharacters, .peek, octet :: rest⟩

end AuthBroker.Json
