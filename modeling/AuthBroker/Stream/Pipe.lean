import AuthBroker.Stream.Error

namespace AuthBroker.Stream

/-! Pipes: octets between a writer and a reader, a limited number at a time.

A write to a full pipe and a read from an empty one get no answer yet.  A write that
nobody can read fails; a read that nobody can write for returns no octet.
-/

structure Pipe where
  /-- Octets that were written and not read. -/
  held : List UInt8
  capacity : Nat
  hasReader : Bool
  hasWriter : Bool
deriving DecidableEq, Repr

namespace Pipe

def usualCapacity : Nat := 65536

def ofCapacity (capacity : Nat) : Pipe := ⟨[], capacity, true, true⟩

def room (pipe : Pipe) : Nat :=
  pipe.capacity - pipe.held.length

/-- One write: how many of the offered octets were taken. -/
def write (pipe : Pipe) (offered : List UInt8) : Option (Except IoError Nat × Pipe) :=
  if !pipe.hasReader then some (.error .noReader, pipe)
  else if pipe.room = 0 then none
  else
    some (.ok (min pipe.room offered.length),
      { pipe with held := pipe.held ++ offered.take pipe.room })

def read (pipe : Pipe) (most : Nat) : Option (List UInt8 × Pipe) :=
  if pipe.held.isEmpty then (if pipe.hasWriter then none else some ([], pipe))
  else some (pipe.held.take most, { pipe with held := pipe.held.drop most })

def closeReader (pipe : Pipe) : Pipe :=
  { pipe with held := [], hasReader := false }

def closeWriter (pipe : Pipe) : Pipe :=
  { pipe with hasWriter := false }

end Pipe

end AuthBroker.Stream
