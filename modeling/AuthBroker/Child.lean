import AuthBroker.Stream.Error
import AuthBroker.WaitStatus

namespace AuthBroker

open AuthBroker.Stream

/-! The child process of an attempt, and how it is cleaned up.

The system keeps the number of a child that has exited until its status was observed.
From then on the number may belong to another process, so a child whose status was
observed is neither signalled nor asked about again.
-/

inductive Child.Call
  | poll
  | await
  | killGroup
  | kill
deriving DecidableEq, Repr

structure Child where
  observed : Option WaitStatus
  calls : List Child.Call
deriving DecidableEq, Repr

namespace Child

def started : Child := ⟨none, []⟩

def Call.isSignal : Call → Bool
  | .poll => false
  | .await => false
  | .killGroup => true
  | .kill => true

def call (child : Child) (call : Call) : Child :=
  { child with calls := child.calls ++ [call] }

def observe (child : Child) (status : WaitStatus) : Child :=
  { child with observed := some status }

/-- Asks for the status of a child; `answer` is what the system says if it is asked. -/
def poll (child : Child) (answer : Except IoError (Option WaitStatus)) :
    Except IoError (Option WaitStatus) × Child :=
  match child.observed with
  | some status => (.ok (some status), child)
  | none =>
      match answer with
      | .ok (some status) => (.ok (some status), (child.call .poll).observe status)
      | answer => (answer, child.call .poll)

/-- Waits for the status of a child; `answer` is what the system says if it is asked. -/
def await (child : Child) (answer : Except IoError WaitStatus) : Except IoError WaitStatus × Child :=
  match child.observed with
  | some status => (.ok status, child)
  | none =>
      match answer with
      | .ok status => (.ok status, (child.call .await).observe status)
      | .error error => (.error error, child.call .await)

structure Cleanup where
  poll : Except IoError (Option WaitStatus)
  killGroup : Except IoError Unit
  kill : Except IoError Unit
  /-- The answer to the last wait; none when it takes longer than a second. -/
  await : Option (Except IoError WaitStatus)
deriving Repr

/-- Ends a child that has not exited.  It is polled, and if that shows no exit, its
group and it are killed and it is waited for; no answer stops the next call. -/
def terminate (child : Child) (cleanup : Cleanup) : Child :=
  match child.poll cleanup.poll with
  | (.ok (some _), child) => child
  | (_, child) =>
      let child := (child.call .killGroup).call .kill
      match cleanup.await with
      | some answer => (child.await answer).2
      | none => child.call .await

end Child

end AuthBroker
