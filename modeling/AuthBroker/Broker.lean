import AuthBroker.Credentials
import AuthBroker.Request.Encode
import AuthBroker.Worker

namespace AuthBroker

open AuthBroker.Stream

/-! Attempts of a broker from their launch to their end. -/

structure Surroundings where
  executable : FilePath
  files : FileTree
  environment : Variables

def Request.mode : Request → Mode
  | .run _ _ _ _ => .run
  | .probe _ _ => .probe

/-- What is left of an attempt that is over. -/
structure Report where
  launch : Launch
  attempt : Attempt
  /-- The helper with the pipes to it, if it was launched. -/
  exchange : Option Exchange

namespace Broker

/-- Makes an attempt.  Unless the helper was handed over it is gone in the end. -/
def attempt (broker : Broker) (surroundings : Surroundings) (request : Request)
    (script : List Helper.Action) (cancellation : Cancellation) : Report :=
  let launch :=
    Launch.plan broker.config surroundings.executable surroundings.environment request.mode
  match launch.start surroundings.files with
  | .error error =>
      ⟨launch, .unlaunched request.mode request.encode (.launch launch.program error), none⟩
  | .ok () =>
      let exchange :=
        (Exchange.start broker request.mode request.encode script Pipe.usualCapacity
          cancellation).complete broker
      let exchange :=
        if exchange.attempt.ending? = some .handedOff then exchange else exchange.dismiss
      ⟨launch, exchange.attempt, some exchange⟩

/-- Checks credentials without running anything.  The caller may cancel. -/
def authenticateOnly (broker : Broker) (surroundings : Surroundings) (credentials : Credentials)
    (script : List Helper.Action) (cancellation : Cancellation) : Report :=
  broker.attempt surroundings credentials.probe script cancellation

/-- Starts a session: the helper checks the credentials and becomes what it is to run. -/
def authenticateAndRun (broker : Broker) (surroundings : Surroundings) (credentials : Credentials)
    (target : RunSpec) (script : List Helper.Action) : Report :=
  broker.attempt surroundings (credentials.run target) script .never

end Broker

namespace Report

def worker? (report : Report) : Option Worker :=
  match report.attempt.ending? with
  | some .handedOff => report.exchange.map Worker.ofExchange
  | _ => none

/-- Whether a helper is left that nobody has waited for. -/
def helperLeft (report : Report) : Bool :=
  report.exchange.any fun exchange => exchange.attempt.child.observed.isNone

def helper? (report : Report) : Option Helper :=
  report.exchange.map Exchange.helper

end Report

end AuthBroker
