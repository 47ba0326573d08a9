import AuthBroker.Json.Turn

namespace AuthBroker.Json

/-! Reading a document of any shape.

Lists and objects may stand 127 deep.  Every call takes one unit of fuel, and between
two calls that both take none of the document there is one that does, so twice the
length of the document is fuel enough.
-/

/-- How many lists and objects may be open at once. -/
def maxDepth : Nat := 127

mutual

/-- Reads one value; `depth` more lists or objects may be opened. -/
def readValue : Nat → Nat → List UInt8 → Except Fault (Value × List UInt8)
  | 0, _, octets => .error ⟨.endInValue, .peek, octets⟩
  | fuel + 1, depth, octets =>
      match dropBlank octets with
      | [] => .error ⟨.endInValue, .peek, []⟩
      | octet :: rest =>
          if octet = 0x6E then
            match expectName [0x75, 0x6C, 0x6C] rest with
            | .error fault => .error fault
            | .ok rest => .ok (.null, rest)
          else if octet = 0x74 then
            match expectName [0x72, 0x75, 0x65] rest with
            | .error fault => .error fault
            | .ok rest => .ok (.boolean true, rest)
          else if octet = 0x66 then
            match expectName [0x61, 0x6C, 0x73, 0x65] rest with
            | .error fault => .error fault
            | .ok rest => .ok (.boolean false, rest)
          else if octet = 0x2D then
            match number true rest with
            | .error fault => .error fault
            | .ok (value, rest) => .ok (.number value, rest)
          else if Decimal.isDigit octet then
            match number false (octet :: rest) with
            | .error fault => .error fault
            | .ok (value, rest) => .ok (.number value, rest)
          else if octet = 0x22 then
            match string rest with
            | .error fault => .error fault
            | .ok (value, rest) => .ok (.string value, rest)
          else if octet = 0x5B then
            match depth with
            | 0 => .error ⟨.tooDeep, .peek, octet :: rest⟩
            | depth + 1 =>
                match readItems fuel depth true [] rest with
                | .error fault => .error fault
                | .ok (items, rest) => .ok (.array items, rest)
          else if octet = 0x7B then
            match depth with
            | 0 => .error ⟨.tooDeep, .peek, octet :: rest⟩
            | depth + 1 =>
                match readMembers fuel depth true [] rest with
                | .error fault => .error fault
                | .ok (members, rest) => .ok (.object members, rest)
          else .error ⟨.expectedValue, .peek, octet :: rest⟩

/-- Reads the items of a list up to its end; `held` are those before, newest first. -/
def readItems : Nat → Nat → Bool → List Value → List UInt8 →
    Except Fault (List Value × List UInt8)
  | 0, _, _, _, octets => .error ⟨.endInList, .peek, octets⟩
  | fuel + 1, depth, first, held, octets =>
      match listTurn first octets with
      | .error fault => .error fault
      | .ok (.close rest) => .ok (held.reverse, rest)
      | .ok (.item rest) =>
          match readValue fuel depth rest with
          | .error fault => .error fault
          | .ok (value, rest) => readItems fuel depth false (value :: held) rest

/-- Reads the members of an object up to its end; `held` are those before, newest
first. -/
def readMembers : Nat → Nat → Bool → List (String × Value) → List UInt8 →
    Except Fault (List (String × Value) × List UInt8)
  | 0, _, _, _, octets => .error ⟨.endInObject, .peek, octets⟩
  | fuel + 1, depth, first, held, octets =>
      match objectTurn first octets with
      | .error fault => .error fault
      | .ok (.close rest) => .ok (held.reverse, rest)
      | .ok (.item rest) =>
          match string rest with
          | .error fault => .error fault
          | .ok (key, rest) =>
              match colon rest with
              | .error fault => .error fault
              | .ok rest =>
                  match readValue fuel depth rest with
                  | .error fault => .error fault
                  | .ok (value, rest) =>
                      readMembers fuel depth false ((key, value) :: held) rest

end

/-- Reads a document that holds one value and nothing after it. -/
def read (document : List UInt8) : Except Fault Value :=
  match readValue (2 * document.length + 2) maxDepth document with
  | .error fault => .error fault
  | .ok (value, rest) =>
      match documentEnd rest with
      | .error fault => .error fault
      | .ok () => .ok value

end AuthBroker.Json
