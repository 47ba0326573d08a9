import AuthBroker.Child
import Mathlib.Data.List.Basic

namespace AuthBroker.Child

open AuthBroker.Stream

/-! The life of a child.

Whoever holds a child may poll it, wait for it and terminate it, in any order and any number of
times, and the system may give any answer each time.  The record of a life has the calls that
came of it, each with the status that its answer showed.  A call that shows one is the last.
-/

inductive Operation
  | poll (answer : Except IoError (Option WaitStatus))
  | await (answer : Except IoError WaitStatus)
  | terminate (cleanup : Cleanup)

structure Entry where
  call : Call
  shown : Option WaitStatus
deriving DecidableEq, Repr

def perform (child : Child) : Operation → Child
  | .poll answer => (child.poll answer).2
  | .await answer => (child.await answer).2
  | .terminate cleanup => child.terminate cleanup

def live (operations : List Operation) : Child :=
  operations.foldl perform .started

/-- The calls that come of an operation on a child whose status was not observed. -/
def Operation.entries : Operation → List Entry
  | .poll answer => [⟨.poll, answer.toOption.join⟩]
  | .await answer => [⟨.await, answer.toOption⟩]
  | .terminate cleanup =>
      match cleanup.poll.toOption.join with
      | some status => [⟨.poll, some status⟩]
      | none =>
          [⟨.poll, none⟩, ⟨.killGroup, none⟩, ⟨.kill, none⟩,
            ⟨.await, cleanup.await.bind Except.toOption⟩]

def recordFrom : List Operation → Child → List Entry
  | [], _ => []
  | operation :: operations, child =>
      (if child.observed.isSome then [] else operation.entries) ++
        recordFrom operations (child.perform operation)

def record (operations : List Operation) : List Entry :=
  recordFrom operations .started

variable {child : Child} {operation : Operation} {operations : List Operation} {status : WaitStatus}

theorem perform_unobserved (unobserved : child.observed = none) (operation : Operation) :
    child.perform operation =
      ⟨operation.entries.findSome? Entry.shown, child.calls ++ operation.entries.map Entry.call⟩ := by
  obtain ⟨observed, calls⟩ := child
  cases unobserved
  cases operation with
  | poll answer =>
      rcases answer with error | _ | status <;> rfl
  | await answer =>
      rcases answer with error | status <;> rfl
  | terminate cleanup =>
      obtain ⟨poll, killGroup, kill, await⟩ := cleanup
      -- a poll that fails and one that shows no exit come to the same calls
      rcases poll with error | _ | status <;> rcases await with _ | error | last <;>
        simp [perform, terminate, Child.poll, Child.await, call, observe, Operation.entries,
          Except.toOption]

theorem live_concat (operations : List Operation) (operation : Operation) :
    live (operations ++ [operation]) = (live operations).perform operation := by
  simp [live]

theorem terminate_unobserved (unobserved : child.observed = none) (cleanup : Cleanup) :
    (∃ status, cleanup.poll = .ok (some status) ∧ (child.terminate cleanup).observed = some status) ∨
      (child.terminate cleanup).calls = child.calls ++ [.poll, .killGroup, .kill, .await] := by
  have performed : child.terminate cleanup = _ := perform_unobserved unobserved (.terminate cleanup)
  rw [performed, Operation.entries]
  rcases cleanup.poll with error | _ | status
  · exact .inr rfl
  · exact .inr rfl
  · exact .inl ⟨status, rfl, rfl⟩

end AuthBroker.Child
