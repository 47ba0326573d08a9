import AuthBroker.Stream.Error

namespace AuthBroker.Stream

/-! A byte stream as its reader meets it: runs of octets with errors between them.

One read returns octets of one run only, never more than it asked for and never
more than a limit that the stream sets.  An error is met once.  A stream with no
event left is at its end, which a read reports by returning no octet.
-/

inductive Event
  | octets (run : List UInt8)
  | failure (error : IoError)
deriving DecidableEq, Repr

def Event.weight : Event → Nat
  | .octets run => run.length
  | .failure _ => 1

structure Channel where
  events : List Event
deriving DecidableEq, Repr

namespace Channel

def empty : Channel := ⟨[]⟩

def push (channel : Channel) (event : Event) : Channel :=
  ⟨channel.events ++ [event]⟩

/-- The octets that are still to be read, across errors. -/
def pending (channel : Channel) : List UInt8 :=
  channel.events.flatMap fun
    | .octets run => run
    | .failure _ => []

/-- The number of reads that are certain to empty the stream. -/
def weight (channel : Channel) : Nat :=
  channel.events.foldr (fun event total => event.weight + total) 0

def least (limit : Option Nat) (wanted : Nat) : Nat :=
  match limit with
  | some most => min most wanted
  | none => wanted

def readEvents (count : Nat) : List Event → Except IoError (List UInt8) × List Event
  | [] => (.ok [], [])
  | .octets [] :: rest => readEvents count rest
  | .octets run :: rest => (.ok (run.take count), .octets (run.drop count) :: rest)
  | .failure error :: rest => (.error error, rest)

/-- One read of at most `wanted` octets, under the stream's own limit. -/
def read (limit : Option Nat) (wanted : Nat) (channel : Channel) :
    Except IoError (List UInt8) × Channel :=
  let (answer, events) := readEvents (least limit wanted) channel.events
  (answer, ⟨events⟩)

end Channel

end AuthBroker.Stream
