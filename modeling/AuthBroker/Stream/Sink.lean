import AuthBroker.Stream.Channel

namespace AuthBroker.Stream

/-! A byte stream as its writer meets it.

To a writer a stream is what its calls answer and what becomes of it.  A call that takes
some of the octets that it is offered takes the first ones.

A sink takes a limited number of octets a call and has room for a limited number in
all.  Without room it refuses once with its error, when it has one, and from then
on takes no octet.
-/

structure Writer (State : Type) where
  /-- One write: how many of the offered octets were taken. -/
  write : State → List UInt8 → Except IoError Nat × State
  flush : State → Option IoError × State

structure Sink where
  limit : Option Nat
  /-- How many octets there is room for; no number means any. -/
  room : Option Nat
  refusal : Option IoError
  flushFailure : Option IoError
deriving DecidableEq, Repr

namespace Sink

def unlimited : Sink := ⟨none, none, none, none⟩

/-- How many of the offered octets a call takes when there is room. -/
def portion (limit : Option Nat) (offered : List UInt8) : Nat :=
  match limit with
  | some most => (offered.take most).length
  | none => offered.length

/-- One write: how many of the offered octets were taken, or the refusal. -/
def write (sink : Sink) (offered : List UInt8) : Except IoError Nat × Sink :=
  match sink.room with
  | none => (.ok (portion sink.limit offered), sink)
  | some 0 =>
      match sink.refusal with
      | some error => (.error error, { sink with refusal := none })
      | none => (.ok 0, sink)
  | some room =>
      let count := min room (portion sink.limit offered)
      (.ok count, { sink with room := some (room - count) })

/-- One flush.  A failure is reported once. -/
def flush (sink : Sink) : Option IoError × Sink :=
  (sink.flushFailure, { sink with flushFailure := none })

def writer : Writer Sink := ⟨write, flush⟩

end Sink

end AuthBroker.Stream
