import AuthBroker.Attempt.Basic
import AuthBroker.Helper.Basic
import AuthBroker.Launch

namespace AuthBroker

open AuthBroker.Attempt

/-! An attempt and its helper, working against each other.

The two are joined by pipes and share a clock that counts milliseconds from the
launch.  A step is one of three: the attempt makes progress, the helper makes progress,
or, when neither can, the caller cancels or time passes until something happens.
-/

/-- When the caller cancels an attempt. -/
inductive Cancellation
  | never
  /-- It is cancelled already. -/
  | before
  | onceReached (mark : Helper.Mark)
deriving DecidableEq, Repr

structure Exchange where
  attempt : Attempt
  helper : Helper
  clock : Nat
  /-- The time at which what the attempt is doing has taken too long. -/
  deadline : Nat
  cancellation : Cancellation

namespace Exchange

def start (broker : Broker) (mode : Mode) (payload : List UInt8) (script : List Helper.Action)
    (capacity : Nat) (cancellation : Cancellation) : Exchange :=
  ⟨.launched mode payload, .start script capacity (mode == .probe), 0,
    sendTime broker.config mode, cancellation⟩

def cancelled (exchange : Exchange) : Bool :=
  exchange.cancellation == .before

/-- Whether the mark that the caller waits for is reached. -/
def markReached (exchange : Exchange) : Bool :=
  match exchange.cancellation with
  | .onceReached mark => exchange.helper.reached.contains mark
  | _ => false

def answer (helper : Helper) : Call → Answer × Helper
  | .write octets =>
      match helper.input.write octets with
      | none => (.pending, helper)
      | some (.ok count, input) => (.wrote count, { helper with input })
      | some (.error error, input) => (.failed error, { helper with input })
  | .wait =>
      match helper.status with
      | none => (.pending, helper)
      | some status => (.exited status, helper)
  | .read most =>
      match helper.output.read most with
      | none => (.pending, helper)
      | some (octets, output) => (.received octets, { helper with output })

/-- Follows an attempt into its next stage: a probe closes the input once the request
is sent, and reading the reply has a time of its own. -/
def follow (broker : Broker) (exchange : Exchange) (attempt : Attempt) : Exchange :=
  match exchange.attempt.stage, attempt.stage with
  | .sending, .waiting =>
      { exchange with
        attempt
        helper := { exchange.helper with input := exchange.helper.input.closeWriter } }
  | .waiting, .reading _ =>
      { exchange with attempt, deadline := exchange.clock + broker.config.replyReadTimeout }
  | _, _ => { exchange with attempt }

/-- A step of the attempt; none when its call has no answer yet and nothing else has
come to pass. -/
def attemptStep (broker : Broker) (exchange : Exchange) : Option Exchange :=
  let cancelled := exchange.cancelled && exchange.attempt.heedsCancellation
  let expired := exchange.deadline ≤ exchange.clock
  match exchange.attempt.ending?, exchange.attempt.call? with
  | some _, _ => none
  | none, none =>
      some (exchange.follow broker (exchange.attempt.step broker ⟨cancelled, .pending, expired⟩))
  | none, some call =>
      if cancelled then
        some (exchange.follow broker (exchange.attempt.step broker ⟨cancelled, .pending, expired⟩))
      else
        match answer exchange.helper call with
        | (.pending, _) =>
            if expired then
              some (exchange.follow broker
                (exchange.attempt.step broker ⟨cancelled, .pending, expired⟩))
            else none
        | (answer, helper) =>
            some ({ exchange with helper }.follow broker
              (exchange.attempt.step broker ⟨cancelled, answer, expired⟩))

def helperStep (exchange : Exchange) : Option Exchange :=
  (exchange.helper.step exchange.clock).map fun helper => { exchange with helper }

/-- Lets time pass until the helper does something by itself or the deadline comes. -/
def passTime (exchange : Exchange) : Option Exchange :=
  let clock := match exchange.helper.alarm? exchange.clock with
    | some alarm => min alarm exchange.deadline
    | none => exchange.deadline
  if exchange.clock < clock then
    some { exchange with clock, helper := exchange.helper.elapse clock }
  else none

/-- A step of neither side: a caller that waits for a mark looks for it from time to time,
and cancels the attempt when it is there; else time passes. -/
def timeStep (exchange : Exchange) : Option Exchange :=
  if exchange.markReached then some { exchange with cancellation := .before }
  else exchange.passTime

/-- The next step: of the attempt if it can go on, else of the helper, else of time. -/
def step (broker : Broker) (exchange : Exchange) : Option Exchange :=
  match exchange.attemptStep broker with
  | some next => some next
  | none =>
      match exchange.helperStep with
      | some next => some next
      | none => exchange.timeStep

def run (broker : Broker) : Nat → Exchange → Exchange
  | 0, exchange => exchange
  | fuel + 1, exchange =>
      match exchange.attempt.ending? with
      | some _ => exchange
      | none =>
          match exchange.step broker with
          | some next => run broker fuel next
          | none => exchange

/-- A number of steps that is enough: each moves an octet, ends an action or passes one of
few times. -/
def effort (exchange : Exchange) : Nat :=
  2 * exchange.attempt.outgoing.rest.length + 2 * exchange.helper.effort + 16

def complete (broker : Broker) (exchange : Exchange) : Exchange :=
  exchange.run broker exchange.effort

def cleanup (helper : Helper) : Child.Cleanup :=
  ⟨.ok helper.status, .ok (), .ok (), helper.kill.status.map .ok⟩

def dismiss (exchange : Exchange) : Exchange :=
  { exchange with
    attempt := exchange.attempt.dismiss (cleanup exchange.helper)
    helper := exchange.helper.kill }

end Exchange

end AuthBroker
