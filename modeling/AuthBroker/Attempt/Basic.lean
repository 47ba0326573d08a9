import AuthBroker.Attempt.Event
import AuthBroker.Child
import AuthBroker.Config.Basic
import AuthBroker.Frame.Incoming
import AuthBroker.Frame.Outgoing
import AuthBroker.Reply.Payload

namespace AuthBroker

open AuthBroker.Stream

/-! A broker: what it needs to know for every attempt. -/

structure Broker where
  config : Config
  catalog : Catalog
  codes : ExitCodes

def Broker.english (config : Config) : Broker :=
  ⟨config, .english, .english⟩

namespace Attempt

/-! Attempts, step by step.

An attempt makes one call of the system after another: it writes the request, waits
for the helper to exit and reads the reply.  At each step it learns what became of its
call, whether its time is over and whether its caller has cancelled it.

While a probe writes or waits, a cancellation is seen first.  Then comes the answer to
the call, and only without an answer the deadline.  While it reads the reply a probe does
not look for a cancellation.
An attempt to start a session is over when the request is written, and cannot be
cancelled.
-/

inductive Ending
  | authenticated (user : Authenticated)
  /-- The helper has its request and belongs to the caller. -/
  | handedOff
  | failed (failure : Failure)
deriving DecidableEq, Repr

def Ending.ofVerdict : Verdict → Ending
  | .ok user => .authenticated user
  | .error failure => .failed failure

inductive Stage
  | sending
  | waiting
  | reading (incoming : Frame.Incoming)
  | over (ending : Ending)

/-- A call of the system that an attempt is in. -/
inductive Call
  | write (octets : List UInt8)
  | wait
  | read (most : Nat)
deriving DecidableEq, Repr

inductive Answer
  /-- Nothing yet. -/
  | pending
  | wrote (count : Nat)
  | exited (status : WaitStatus)
  /-- The octets that were read; none at the end of the stream. -/
  | received (octets : List UInt8)
  | failed (error : IoError)
deriving DecidableEq, Repr

/-- What an attempt learns at one step. -/
structure Tick where
  cancelled : Bool
  answer : Answer
  /-- Whether the time for what the attempt is doing is over. -/
  expired : Bool
deriving DecidableEq, Repr

/-- Whether a call has come to nothing in its time. -/
def Tick.timedOut (tick : Tick) : Bool :=
  tick.expired && tick.answer == .pending

end Attempt

structure Attempt where
  mode : Mode
  lifecycle : Attempt.Lifecycle
  stage : Attempt.Stage
  /-- The frame of the request. -/
  outgoing : Frame.Outgoing
  /-- The process of the helper; no call is made for it without a launch. -/
  child : Child
  /-- The log of the attempt, oldest entry first. -/
  log : List Attempt.Event

namespace Attempt

def start (mode : Mode) (payload : List UInt8) : Attempt :=
  ⟨mode, .notStarted, .sending, .start payload, .started, []⟩

def note (attempt : Attempt) (event : Event) : Attempt :=
  { attempt with log := attempt.log ++ [event] }

def advance (attempt : Attempt) (target : Lifecycle) : Attempt :=
  { attempt with lifecycle := target }.note (.advanced attempt.mode attempt.lifecycle target)

def Ending.lifecycle : Ending → Lifecycle
  | .authenticated _ => .succeeded
  | .handedOff => .succeeded
  | .failed failure => .ofFailureKind failure.kind

/-- The entry that closes the log of an attempt whose helper was launched. -/
def Ending.event (mode : Mode) : Ending → Event
  | .authenticated user => .authenticated user
  | .handedOff => .sessionHandedOff
  | .failed failure =>
      match mode with
      | .probe => .refused failure
      | .run => .sessionUnsent failure

def finish (attempt : Attempt) (ending : Ending) : Attempt :=
  { (attempt.advance ending.lifecycle).note (ending.event attempt.mode) with
    stage := .over ending }

def fail (attempt : Attempt) (failure : Failure) : Attempt :=
  attempt.finish (.failed failure)

def launched (mode : Mode) (payload : List UInt8) : Attempt :=
  (start mode payload).advance .launched

def unlaunched (mode : Mode) (payload : List UInt8) (failure : Failure) : Attempt :=
  match mode with
  | .probe => (start mode payload).fail failure
  | .run =>
      { ((start mode payload).advance .crashed).note (.sessionUnlaunched failure) with
        stage := .over (.failed failure) }

/-- The call that an attempt is in.  A frame that is too large is never offered. -/
def call? (attempt : Attempt) : Option Call :=
  match attempt.stage with
  | .sending =>
      match attempt.outgoing.stage with
      | .writing => some (.write attempt.outgoing.offered)
      | _ => none
  | .waiting => some .wait
  | .reading incoming => some (.read incoming.wanted)
  | .over _ => none

def heedsCancellation (attempt : Attempt) : Bool :=
  match attempt.mode, attempt.stage with
  | .probe, .sending => true
  | .probe, .waiting => true
  | _, _ => false

/-- An outgoing frame after an answer.  A pipe has nothing to flush. -/
def transmit (outgoing : Frame.Outgoing) : Answer → Frame.Outgoing
  | .wrote count => (outgoing.accept count).flushed none
  | .failed error => outgoing.refuse error
  | _ => outgoing

def absorb (incoming : Frame.Incoming) : Answer → Frame.Incoming
  | .received [] => incoming.close
  | .received octets => incoming.receive octets
  | .failed error => incoming.fail error
  | _ => incoming

/-- How a request that was not sent fails an attempt. -/
def sendFailure : Frame.Error → Failure
  | .io error => .io .writing error
  | error => .ofFrame error

/-- The time that an attempt of a mode has to write its request. -/
def sendTime (config : Config) : Mode → Nat
  | .probe => config.probeTimeout
  | .run => config.requestWriteTimeout

def sent (attempt : Attempt) : Attempt :=
  match attempt.mode with
  | .probe =>
      { (attempt.advance .requestSent).advance .awaitingExit with stage := .waiting }
  | .run => (attempt.advance .requestSent).finish .handedOff

/-- The helper has exited.  Only the exit code zero promises a reply. -/
def helperExited (codes : ExitCodes) (attempt : Attempt) (status : WaitStatus) : Attempt :=
  let attempt := attempt.note (.helperExited status)
  let code := status.code?.map Int.ofNat
  if code = some exitOk then { attempt with stage := .reading .start }
  else attempt.fail (.helperExit code (codes.describe status))

/-- What a frame that has ended means.  A helper that exits well and writes no frame
has failed all the same. -/
def frameVerdict (catalog : Catalog) (codes : ExitCodes) :
    Except Frame.Error (List UInt8) → Verdict
  | .ok payload => classify catalog codes (Reply.decode payload)
  | .error .closed => .error (.helperExit (some exitOk) (codes.describeCode exitOk))
  | .error error => .error (.ofFrame error)

def expire (attempt : Attempt) (millis : Nat) : Attempt :=
  attempt.fail (.timeout (.ofMillis millis))

def stepSending (broker : Broker) (attempt : Attempt) (tick : Tick) : Attempt :=
  let outgoing := transmit attempt.outgoing tick.answer
  let attempt := { attempt with outgoing }
  match outgoing.stage with
  | .finished => attempt.sent
  | .failed error => attempt.fail (sendFailure error)
  | _ =>
      if tick.timedOut then attempt.expire (sendTime broker.config attempt.mode) else attempt

/-- Learns the status of the helper, or why it cannot be learnt. -/
def await (attempt : Attempt) (answer : Except IoError WaitStatus) : Attempt :=
  { attempt with child := (attempt.child.await answer).2 }

def stepWaiting (broker : Broker) (attempt : Attempt) (tick : Tick) : Attempt :=
  match tick.answer with
  | .exited status => (attempt.await (.ok status)).helperExited broker.codes status
  | .failed error => (attempt.await (.error error)).fail (.io .waiting error)
  | _ => if tick.timedOut then attempt.expire broker.config.probeTimeout else attempt

def stepReading (broker : Broker) (attempt : Attempt) (incoming : Frame.Incoming) (tick : Tick) :
    Attempt :=
  match absorb incoming tick.answer with
  | .ended result =>
      attempt.finish (.ofVerdict (frameVerdict broker.catalog broker.codes result))
  | incoming =>
      if tick.timedOut then attempt.expire broker.config.replyReadTimeout
      else { attempt with stage := .reading incoming }

def step (broker : Broker) (attempt : Attempt) (tick : Tick) : Attempt :=
  if tick.cancelled && attempt.heedsCancellation then attempt.fail .cancelled
  else
    match attempt.stage with
    | .sending => stepSending broker attempt tick
    | .waiting => stepWaiting broker attempt tick
    | .reading incoming => stepReading broker attempt incoming tick
    | .over _ => attempt

/-- Cleans up after an attempt that is over: the helper is ended, unless it was handed
over. -/
def dismiss (attempt : Attempt) (cleanup : Child.Cleanup) : Attempt :=
  match attempt.stage with
  | .over .handedOff => attempt
  | _ => { attempt with child := attempt.child.terminate cleanup }

def ending? (attempt : Attempt) : Option Ending :=
  match attempt.stage with
  | .over ending => some ending
  | _ => none

/-! ### What a caller learns of an ending -/

namespace Ending

def succeeded : Ending → Bool
  | .failed _ => false
  | _ => true

/-- The profile directory of the user, or nothing. -/
def profile : Ending → String
  | .authenticated user => user.profile
  | _ => ""

def missingProfile : Ending → Bool
  | .authenticated user => user.missingProfile
  | _ => false

def failure? : Ending → Option Failure
  | .failed failure => some failure
  | _ => none

def diagnostic? (ending : Ending) : Option String :=
  ending.failure?.map Failure.message

def failureKind? (ending : Ending) : Option FailureKind :=
  ending.failure?.map Failure.kind

end Ending

end Attempt

end AuthBroker
