import AuthBroker.Frame.Basic
import AuthBroker.WaitStatus

namespace AuthBroker.Helper

/-! What a helper does, as a list of actions.

Helpers differ in how far they follow the rules: one may never read its request, write
half a frame, hang, or die of a signal.
-/

/-- Points of a script that can be seen from outside when they are reached. -/
inductive Mark
  | started
  /-- The helper has dealt with its input. -/
  | ready
deriving DecidableEq, Repr

inductive Action
  | reach (mark : Mark)
  | readInput
  | complain (octets : List UInt8)
  | sleep (millis : Nat)
  | print (octets : List UInt8)
  /-- Leaves a child behind that keeps the standard output open for a time. -/
  | holdOutput (millis : Nat)
  | exit (code : Nat)
  | raise (signal : Nat)
deriving DecidableEq, Repr

/-- What a signal does to a process that has not asked for it. -/
inductive SignalEffect
  | nothing
  | stop
  | death
deriving DecidableEq, Repr

def signalEffect (signal : Nat) : SignalEffect :=
  if signal = 0 ∨ 64 < signal then .nothing
  else if signal ∈ [17, 18, 23, 28] then .nothing
  else if signal ∈ [19, 20, 21, 22] then .stop
  else .death

structure Behaviour where
  readsInput : Bool
  complaint : List UInt8
  hangs : Bool
  output : List UInt8
  holdsOutput : Bool
  /-- The signal that it kills itself with, instead of an exit. -/
  signal : Option Nat
  code : Nat
deriving DecidableEq, Repr

namespace Behaviour

def hangTime : Nat := 30000

def holdTime : Nat := 1000

def script (behaviour : Behaviour) : List Action :=
  [.reach .started] ++
    (if behaviour.readsInput then [.readInput] else []) ++
    [.reach .ready, .complain behaviour.complaint] ++
    (if behaviour.hangs then [.sleep hangTime] else []) ++
    [.print behaviour.output] ++
    (if behaviour.holdsOutput then [.holdOutput holdTime] else []) ++
    (match behaviour.signal with
      | some signal => [.raise signal]
      | none => []) ++
    [.exit behaviour.code]

end Behaviour

end AuthBroker.Helper
