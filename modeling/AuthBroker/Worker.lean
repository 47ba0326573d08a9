import AuthBroker.Exchange

namespace AuthBroker

open AuthBroker.Stream

/-! Workers: helpers that were handed over to run a session.

The caller owns the worker and its three pipes.  What the caller waits for lets the
worker go on; nothing else does.
-/

/-- Where the writing end of a worker's input is. -/
inductive Worker.InputEnd
  | untaken
  | taken
  | closed
deriving DecidableEq, Repr

structure Worker where
  child : Child
  helper : Helper
  clock : Nat
  inputEnd : Worker.InputEnd
  outputTaken : Bool
  errorsTaken : Bool
deriving DecidableEq, Repr

namespace Worker

def ofExchange (exchange : Exchange) : Worker :=
  ⟨exchange.attempt.child, exchange.helper, exchange.clock, .untaken, false, false⟩

/-- Whether the worker has a process number: not once its status was observed. -/
def hasNumber (worker : Worker) : Bool :=
  worker.child.observed.isNone

/-- Lets the worker make one step, or time pass; none when neither is possible. -/
def progress (worker : Worker) : Option Worker :=
  match worker.helper.step worker.clock with
  | some helper => some { worker with helper }
  | none =>
      match worker.helper.alarm? worker.clock with
      | none => none
      | some alarm =>
          if worker.clock < alarm then
            some { worker with clock := alarm, helper := worker.helper.elapse alarm }
          else none

def effort (worker : Worker) : Nat :=
  2 * (worker.helper.effort + worker.helper.input.held.length) + 16

/-- Lets the worker go on until something holds, or it cannot go on. -/
def goOnUntil (reached : Helper → Bool) : Nat → Worker → Worker
  | 0, worker => worker
  | fuel + 1, worker =>
      if reached worker.helper then worker
      else match worker.progress with
        | some next => goOnUntil reached fuel next
        | none => worker

/-! ### Input -/

/-- Takes the writing end of the input: whether it was still there. -/
def takeInput (worker : Worker) : Bool × Worker :=
  match worker.inputEnd with
  | .untaken => (true, { worker with inputEnd := .taken })
  | _ => (false, worker)

def dropInput (worker : Worker) : Worker :=
  { worker with
    inputEnd := .closed
    helper := { worker.helper with input := worker.helper.input.closeWriter } }

/-- Closes the writing end that the caller has taken: whether it had one. -/
def closeInput (worker : Worker) : Bool × Worker :=
  match worker.inputEnd with
  | .taken => (true, worker.dropInput)
  | _ => (false, worker)

def writeAll : Nat → List UInt8 → Worker → Except IoError Unit × Worker
  | 0, _, worker => (.ok (), worker)
  | _ + 1, [], worker => (.ok (), worker)
  | fuel + 1, octets, worker =>
      match worker.helper.input.write octets with
      | some (.ok count, input) =>
          writeAll fuel (octets.drop count)
            { worker with helper := { worker.helper with input } }
      | some (.error error, _) => (.error error, worker)
      | none =>
          match worker.progress with
          | some next => writeAll fuel octets next
          | none => (.ok (), worker)

/-- Writes to the input, if the caller has taken it. -/
def write (worker : Worker) (octets : List UInt8) : Option (Except IoError Unit) × Worker :=
  match worker.inputEnd with
  | .taken =>
      let (result, worker) := worker.writeAll (worker.effort + 2 * octets.length) octets
      (some result, worker)
  | _ => (none, worker)

/-! ### Output -/

def drainOutput : Nat → List UInt8 → Worker → List UInt8 × Worker
  | 0, held, worker => (held.reverse, worker)
  | fuel + 1, held, worker =>
      match worker.helper.output.read Pipe.usualCapacity with
      | some ([], _) => (held.reverse, worker)
      | some (octets, output) =>
          drainOutput fuel (octets.reverseAux held)
            { worker with helper := { worker.helper with output } }
      | none =>
          match worker.progress with
          | some next => drainOutput fuel held next
          | none => (held.reverse, worker)

def drainErrors : Nat → List UInt8 → Worker → List UInt8 × Worker
  | 0, held, worker => (held.reverse, worker)
  | fuel + 1, held, worker =>
      match worker.helper.errors.read Pipe.usualCapacity with
      | some ([], _) => (held.reverse, worker)
      | some (octets, errors) =>
          drainErrors fuel (octets.reverseAux held)
            { worker with helper := { worker.helper with errors } }
      | none =>
          match worker.progress with
          | some next => drainErrors fuel held next
          | none => (held.reverse, worker)

/-- Takes the standard output and reads it to its end; none when it was taken before. -/
def readOutput (worker : Worker) : Option (List UInt8) × Worker :=
  if worker.outputTaken then (none, worker)
  else
    let (octets, worker) :=
      { worker with outputTaken := true }.drainOutput
        (worker.effort + worker.helper.output.held.length) []
    (some octets, worker)

/-- Takes the standard error and reads it to its end; none when it was taken before. -/
def readErrors (worker : Worker) : Option (List UInt8) × Worker :=
  if worker.errorsTaken then (none, worker)
  else
    let (octets, worker) :=
      { worker with errorsTaken := true }.drainErrors
        (worker.effort + worker.helper.errors.held.length) []
    (some octets, worker)

/-! ### Life -/

def awaitMark (worker : Worker) (mark : Helper.Mark) : Worker :=
  worker.goOnUntil (fun helper => helper.reached.contains mark) worker.effort

def tryWait (worker : Worker) : Option WaitStatus × Worker :=
  let (answer, child) := worker.child.poll (.ok worker.helper.status)
  (answer.toOption.join, { worker with child })

def dropUntaken (worker : Worker) : Worker :=
  if worker.inputEnd = .untaken then worker.dropInput else worker

/-- Waits for the worker to end.  An input that nobody took is closed first, or a
worker that reads it would never end. -/
def wait (worker : Worker) : Option WaitStatus × Worker :=
  let worker := worker.dropUntaken
  let worker := worker.goOnUntil (fun helper => helper.status.isSome) worker.effort
  match worker.helper.status with
  | none => (none, worker)
  | some status =>
      let (answer, child) := worker.child.await (.ok status)
      (answer.toOption, { worker with child })

/-- Kills the worker and all its children, if it has not ended.  The wait after that
closes an input that nobody took. -/
def terminate (worker : Worker) : Worker :=
  let worker := if worker.helper.status.isNone then worker.dropUntaken else worker
  { worker with
    child := worker.child.terminate (Exchange.cleanup worker.helper)
    helper := worker.helper.kill }

/-- Whether the worker has not been waited for to its end. -/
def isLeft (worker : Worker) : Bool :=
  worker.child.observed.isNone

end Worker

end AuthBroker
