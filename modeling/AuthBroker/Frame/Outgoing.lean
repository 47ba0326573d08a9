import AuthBroker.Frame.Basic
import AuthBroker.Stream.Sink

namespace AuthBroker.Frame

open AuthBroker.Stream

/-! A frame on its way out.

`Outgoing` is what a writer knows between two calls of the system: what was taken,
what is left, and whether it is still writing.  The length is offered by itself, and the
payload once the length was taken.  A call that was interrupted is made again; a call that
takes nothing and any other error end the transfer; when nothing is left the stream is
flushed once.
-/

inductive Outgoing.Stage
  | writing
  | flushing
  | finished
  | failed (error : Error)
deriving DecidableEq, Repr

structure Outgoing where
  /-- The octets that the stream has taken, newest first. -/
  taken : List UInt8
  rest : List UInt8
  stage : Outgoing.Stage
deriving DecidableEq, Repr

namespace Outgoing

/-- An oversized payload fails before an octet is offered. -/
def start (payload : List UInt8) : Outgoing :=
  if maxSize < payload.length then ⟨[], [], .failed (.tooLarge payload.length)⟩
  else ⟨[], octets payload, .writing⟩

def delivered (outgoing : Outgoing) : List UInt8 :=
  outgoing.taken.reverse

/-- The octets that the next call offers: what is left of the length, or of the payload. -/
def offered (outgoing : Outgoing) : List UInt8 :=
  match lengthSize - (outgoing.taken.take lengthSize).length with
  | 0 => outgoing.rest
  | missing => outgoing.rest.take missing

/-- The stream took `count` octets of those that were left. -/
def accept (outgoing : Outgoing) (count : Nat) : Outgoing :=
  match outgoing.stage with
  | .writing =>
      match count with
      | 0 => { outgoing with stage := .failed (.io (.plain .writeZero)) }
      | count =>
          let rest := outgoing.rest.drop count
          ⟨(outgoing.rest.take count).reverseAux outgoing.taken, rest,
            if rest.isEmpty then .flushing else .writing⟩
  | _ => outgoing

def refuse (outgoing : Outgoing) (error : IoError) : Outgoing :=
  match outgoing.stage with
  | .writing =>
      if error.isInterrupted then outgoing
      else { outgoing with stage := .failed (.io error) }
  | _ => outgoing

def flushed (outgoing : Outgoing) (failure : Option IoError) : Outgoing :=
  match outgoing.stage, failure with
  | .flushing, none => { outgoing with stage := .finished }
  | .flushing, some error => { outgoing with stage := .failed (.io error) }
  | _, _ => outgoing

/-- Writes what is left.  Every call takes an octet, ends the transfer or was interrupted. -/
def writeTo {State : Type} (writer : Writer State) :
    Nat → Outgoing → State → Outgoing × State
  | 0, outgoing, state => (outgoing, state)
  | fuel + 1, outgoing, state =>
      match outgoing.stage with
      | .writing =>
          match writer.write state outgoing.offered with
          | (.ok count, state) => writeTo writer fuel (outgoing.accept count) state
          | (.error error, state) => writeTo writer fuel (outgoing.refuse error) state
      | .flushing =>
          match writer.flush state with
          | (failure, state) => (outgoing.flushed failure, state)
      | .finished => (outgoing, state)
      | .failed _ => (outgoing, state)

end Outgoing

/-- Writes one frame to a stream, which may interrupt it once, and flushes it. -/
def writeTo {State : Type} (writer : Writer State) (payload : List UInt8) (state : State) :
    Outgoing × State :=
  let outgoing := Outgoing.start payload
  outgoing.writeTo writer (outgoing.rest.length + 3) state

def write (payload : List UInt8) (sink : Sink) : Outgoing × Sink :=
  writeTo Sink.writer payload sink

end AuthBroker.Frame
