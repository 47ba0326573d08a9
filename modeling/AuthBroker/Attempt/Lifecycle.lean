import AuthBroker.Failure

namespace AuthBroker.Attempt

/-! The states that an attempt goes through; the last four end it. -/

inductive Lifecycle
  | notStarted
  | launched
  | requestSent
  | awaitingExit
  | succeeded
  | failed
  | timedOut
  /-- Launching the helper, writing to it or waiting for it failed. -/
  | crashed
deriving DecidableEq, Repr

namespace Lifecycle

def all : List Lifecycle :=
  [.notStarted, .launched, .requestSent, .awaitingExit, .succeeded, .failed, .timedOut,
    .crashed]

def name : Lifecycle → String
  | .notStarted => "NotStarted"
  | .launched => "Launched"
  | .requestSent => "RequestSent"
  | .awaitingExit => "AwaitingExit"
  | .succeeded => "Succeeded"
  | .failed => "Failed"
  | .timedOut => "TimedOut"
  | .crashed => "Crashed"

def isTerminal : Lifecycle → Bool
  | .notStarted => false
  | .launched => false
  | .requestSent => false
  | .awaitingExit => false
  | .succeeded => true
  | .failed => true
  | .timedOut => true
  | .crashed => true

def ofFailureKind : FailureKind → Lifecycle
  | .timeout => .timedOut
  | .launch => .crashed
  | .io => .crashed
  | .protocol => .failed
  | .credential => .failed
  | .execution => .failed
  | .helperExit => .failed
  | .cancelled => .failed
  | .config => .failed

end Lifecycle

end AuthBroker.Attempt
