import AuthBroker.Frame.Basic
import AuthBroker.Stream.Channel

namespace AuthBroker.Frame

open AuthBroker.Stream

/-! A frame on its way in.

`Incoming` is what a reader knows between two calls of the system.  It asks for the
rest of the length, then for the rest of the payload, and for nothing beyond it.  A
call that was interrupted is made again and any other error ends the frame.
-/

inductive Incoming
  /-- Octets of the length, newest first; fewer than four. -/
  | length (held : List UInt8)
  /-- Octets of a payload of the given size, newest first, and how many are missing. -/
  | payload (size missing : Nat) (held : List UInt8)
  | ended (result : Except Error (List UInt8))

namespace Incoming

def start : Incoming := .length []

def wanted : Incoming → Nat
  | .length held => lengthSize - held.length
  | .payload _ missing _ => missing
  | .ended _ => 0

def ofSize (size : Nat) : Incoming :=
  if maxSize < size then .ended (.error (.tooLarge size))
  else if size = 0 then .ended (.ok [])
  else .payload size size []

/-- Octets arrived, no more than were asked for. -/
def receive (incoming : Incoming) (octets : List UInt8) : Incoming :=
  match incoming with
  | .length held =>
      let held := octets.reverseAux held
      if held.length < lengthSize then .length held
      else ofSize (lengthValue held.reverse)
  | .payload size missing held =>
      let held := octets.reverseAux held
      let missing := missing - octets.length
      if missing = 0 then .ended (.ok held.reverse) else .payload size missing held
  | .ended result => .ended result

def close : Incoming → Incoming
  | .length [] => .ended (.error .closed)
  | .length held => .ended (.error (.truncated lengthSize held.length))
  | .payload size missing _ => .ended (.error (.truncated size (size - missing)))
  | .ended result => .ended result

def fail (incoming : Incoming) (error : IoError) : Incoming :=
  match incoming with
  | .ended result => .ended result
  | incoming => if error.isInterrupted then incoming else .ended (.error (.io error))

/-- Reads from a channel until the frame has ended.  Every read takes an octet or an
error from the channel or meets its end, which bounds their number.  `limit` says how
many octets the stream gives at a turn. -/
def readFrom (limit : Nat → Option Nat) : Nat → Nat → Incoming → Channel → Incoming × Channel
  | 0, _, incoming, channel => (incoming, channel)
  | fuel + 1, turn, incoming, channel =>
      match incoming with
      | .ended result => (.ended result, channel)
      | incoming =>
          match channel.read (limit turn) incoming.wanted with
          | (.error error, channel) => readFrom limit fuel (turn + 1) (incoming.fail error) channel
          | (.ok [], channel) => (incoming.close, channel)
          | (.ok octets, channel) =>
              readFrom limit fuel (turn + 1) (incoming.receive octets) channel

def result? : Incoming → Option (Except Error (List UInt8))
  | .ended result => some result
  | _ => none

end Incoming

def read (limit : Nat → Option Nat) (channel : Channel) :
    Except Error (List UInt8) × Channel :=
  let (incoming, rest) := Incoming.start.readFrom limit (channel.weight + 1) 0 channel
  (incoming.result?.getD (.error .closed), rest)

end AuthBroker.Frame
