import AuthBroker.Helper.Script
import AuthBroker.Stream.Pipe

namespace AuthBroker

open AuthBroker.Stream

/-! A helper at work.

A helper follows its script between three pipes.  An action that has to wait for the
other end of a pipe, or for its time, is not done yet and is tried again later.
-/

structure Helper where
  script : List Helper.Action
  reached : List Helper.Mark
  received : List UInt8
  input : Pipe
  output : Pipe
  errors : Pipe
  /-- Whether somebody takes everything from the standard error at once. -/
  errorsDrained : Bool
  /-- When it sleeps, the time at which it wakes up. -/
  wake : Nat
  /-- The time until which a child of it keeps the output open. -/
  outputHeld : Option Nat
  status : Option WaitStatus
deriving DecidableEq, Repr

namespace Helper

def start (script : List Action) (capacity : Nat) (errorsDrained : Bool) : Helper :=
  ⟨script, [], [], .ofCapacity capacity, .ofCapacity capacity, .ofCapacity capacity,
    errorsDrained, 0, none, none⟩

def request (helper : Helper) : List UInt8 :=
  helper.received.reverse

/-- Ends with a status.  Its ends of the pipes are closed, but for an output that a
child of it holds. -/
def finish (helper : Helper) (status : WaitStatus) : Helper :=
  { helper with
    script := []
    status := some status
    input := helper.input.closeReader
    output := if helper.outputHeld.isSome then helper.output else helper.output.closeWriter
    errors := helper.errors.closeWriter }

def killSignal : Nat := 9

def kill (helper : Helper) : Helper :=
  match helper.status with
  | some _ => helper
  | none => { helper with outputHeld := none }.finish (.ofSignal killSignal)

/-- One try at writing octets: the pipe, and what is left to write. -/
def tryWrite (pipe : Pipe) (octets : List UInt8) : Option (Pipe × List UInt8) :=
  match octets with
  | [] => some (pipe, [])
  | octets =>
      match pipe.write octets with
      | some (.ok count, pipe) => some (pipe, octets.drop count)
      | some (.error _, pipe) => some (pipe, [])
      | none => none

def act (helper : Helper) (now : Nat) (action : Action) (later : List Action) : Option Helper :=
  match action with
  | .reach mark => some { helper with script := later, reached := helper.reached ++ [mark] }
  | .readInput =>
      match helper.input.read Pipe.usualCapacity with
      | none => none
      | some ([], _) => some { helper with script := later }
      | some (octets, input) =>
          some { helper with input, received := octets.reverseAux helper.received }
  | .complain octets =>
      (tryWrite helper.errors octets).map fun (errors, rest) =>
        { helper with
          script := if rest.isEmpty then later else .complain rest :: later
          errors := if helper.errorsDrained then { errors with held := [] } else errors }
  | .sleep millis => some { helper with script := later, wake := now + millis }
  | .print octets =>
      (tryWrite helper.output octets).map fun (output, rest) =>
        { helper with
          script := if rest.isEmpty then later else .print rest :: later
          output }
  | .holdOutput millis =>
      -- a child that is gone at once holds nothing
      let outputHeld := if millis = 0 then helper.outputHeld else some (now + millis)
      some { helper with script := later, outputHeld }
  | .exit code => some (helper.finish (.ofCode code))
  | .raise signal =>
      match signalEffect signal with
      | .nothing => some { helper with script := later }
      | .stop => none
      | .death => some (helper.finish (.ofSignal signal))

/-- One step of a helper; none when it has to wait, or has ended. -/
def step (helper : Helper) (now : Nat) : Option Helper :=
  if now < helper.wake then none
  else
    match helper.status, helper.script with
    | some _, _ => none
    | none, [] => some (helper.finish (.ofCode 0))
    | none, action :: later => helper.act now action later

/-- The next time at which something happens without anybody else. -/
def alarm? (helper : Helper) (now : Nat) : Option Nat :=
  let wake := if helper.status.isNone && now < helper.wake then some helper.wake else none
  match wake, helper.outputHeld with
  | some wake, some held => some (min wake held)
  | some wake, none => some wake
  | none, held => held

def elapse (helper : Helper) (now : Nat) : Helper :=
  match helper.outputHeld with
  | some held =>
      if held ≤ now then
        { helper with
          outputHeld := none
          output := if helper.status.isSome then helper.output.closeWriter else helper.output }
      else helper
  | none => helper

def Action.weight : Action → Nat
  | .complain octets => octets.length + 1
  | .print octets => octets.length + 1
  | _ => 1

/-- How many steps of a helper are certain to end it, apart from its input. -/
def effort (helper : Helper) : Nat :=
  helper.script.foldl (fun sum action => sum + action.weight) 1

end Helper

end AuthBroker
