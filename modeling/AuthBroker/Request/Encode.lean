import AuthBroker.Json.Printer
import AuthBroker.Request.Basic

namespace AuthBroker.Request

/-! Requests as payloads.

A payload holds a password, so its storage must never move while it is filled.  The
document is therefore written twice: once into a counter, and once into storage of
exactly the counted size.
-/

def entryText (entry : String × String) : String :=
  entry.1 ++ "=" ++ entry.2

/-- The document of a request, its members in the order of the wire. -/
def document : Request → Json.Value
  | .run username secret arguments environment =>
      .object [("name", .string runName), ("username", .string username),
        ("password", .string secret.exposed),
        ("arguments", .array (arguments.map .string)),
        ("environment", .array (environment.entries.map fun entry => .string (entryText entry)))]
  | .probe username secret =>
      .object [("name", .string probeName), ("username", .string username),
        ("password", .string secret.exposed)]

/-- The writes that make up a payload, in order. -/
def pieces (request : Request) : List (List UInt8) :=
  request.document.pieces

/-- Storage that is filled from its start and moves when it is too small. -/
structure Buffer where
  octets : Array UInt8
  capacity : Nat
  moves : Nat
  size_le_capacity : octets.size ≤ capacity

namespace Buffer

theorem size_append (octets : Array UInt8) (piece : List UInt8) :
    (octets ++ piece).size = octets.size + piece.length := by
  rw [← Array.length_toList, Array.toList_appendList, List.length_append, Array.length_toList]

def withCapacity (capacity : Nat) : Buffer :=
  ⟨#[], capacity, 0, Nat.zero_le capacity⟩

/-- Appends octets.  Storage that is too small moves to twice its size, or to the size
that is needed when that is more, and never to less than eight octets. -/
def write (buffer : Buffer) (piece : List UInt8) : Buffer :=
  if fits : buffer.octets.size + piece.length ≤ buffer.capacity then
    ⟨buffer.octets ++ piece, buffer.capacity, buffer.moves, size_append _ _ ▸ fits⟩
  else
    let size := buffer.octets.size + piece.length
    ⟨buffer.octets ++ piece, max 8 (max (2 * buffer.capacity) size), buffer.moves + 1, by
      rw [size_append]; omega⟩

def spare (buffer : Buffer) : Nat :=
  buffer.capacity - buffer.octets.size

end Buffer

/-- The size of a payload: each write only adds to a count. -/
def measure (request : Request) : Nat :=
  request.pieces.foldl (fun count piece => count + piece.length) 0

def buffer (request : Request) : Buffer :=
  request.pieces.foldl Buffer.write (Buffer.withCapacity request.measure)

def encode (request : Request) : List UInt8 :=
  request.buffer.octets.toList

end AuthBroker.Request
