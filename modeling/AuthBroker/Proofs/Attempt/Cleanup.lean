import AuthBroker.Proofs.Attempt.History
import AuthBroker.Proofs.Child
import AuthBroker.Worker

namespace AuthBroker

open AuthBroker.Stream

/-! What becomes of the helper.

An attempt learns of its helper only by waiting for it, so until the helper has exited its child
is as it was started.  When the attempt is over, cleaning up leaves the child reaped or killed; a
helper that was handed over was not touched at all, and its new owner goes on with the same child.
-/

namespace Worker

variable {worker next : Worker}

end Worker

namespace Attempt

variable {broker : Broker} {mode : Mode} {payload : List UInt8} {attempt next : Attempt} {tick : Tick}

theorem child_helperExited (codes : ExitCodes) (attempt : Attempt) (status : WaitStatus) :
    (attempt.helperExited codes status).child = attempt.child := by
  unfold helperExited
  dsimp only
  split <;> rfl

theorem child_sent (attempt : Attempt) : attempt.sent.child = attempt.child := by
  unfold sent
  split <;> rfl

theorem Goes.child (goes : Goes broker attempt tick next) :
    next.child = attempt.child ∨ ∃ answer, next.child = attempt.child.perform (.await answer) := by
  cases goes with
  | sent _ _ => exact .inl (child_sent _)
  | @exited status _ _ => exact .inr ⟨.ok status, child_helperExited _ _ _⟩
  | @unwatched error _ _ => exact .inr ⟨.error error, rfl⟩
  | _ => exact .inl rfl

theorem child_step (broker : Broker) (attempt : Attempt) (tick : Tick) :
    (attempt.step broker tick).child = attempt.child ∨
      ∃ answer, (attempt.step broker tick).child = attempt.child.perform (.await answer) := by
  rcases step_cases broker attempt tick with ⟨-, -, stepped⟩ | ⟨-, goes⟩
  · exact .inl (by rw [stepped]; rfl)
  · exact goes.child

/-- The child of the attempt has lived through some operations. -/
def Tended (attempt : Attempt) : Prop :=
  ∃ operations, attempt.child = Child.live operations

theorem Tended.step (tended : attempt.Tended) (tick : Tick) : (attempt.step broker tick).Tended := by
  obtain ⟨operations, lived⟩ := tended
  rcases child_step broker attempt tick with same | ⟨answer, awaited⟩
  · exact ⟨operations, same.trans lived⟩
  · exact ⟨operations ++ [.await answer], by rw [awaited, lived, Child.live_concat]⟩

/-- The child is as it was started while the attempt has not learnt of its exit, and when the
helper was handed over. -/
structure Untouched (mode : Mode) (attempt : Attempt) : Prop where
  sameMode : attempt.mode = mode
  underway : attempt.stage = .sending ∨ attempt.stage = .waiting → attempt.child = .started
  handedOff : attempt.stage = .over .handedOff → mode = .run ∧ attempt.child = .started

theorem Untouched.finish {ending : Ending} (sameMode : attempt.mode = mode) (kept : ending ≠ .handedOff) :
    Untouched mode (attempt.finish ending) := by
  refine ⟨sameMode, by simp [Attempt.finish], fun ended => ?_⟩
  exact absurd (Stage.over.inj ended) kept

theorem Untouched.sent (untouched : Untouched mode attempt) (fresh : attempt.child = .started) :
    Untouched mode attempt.sent := by
  have sameMode := untouched.sameMode
  cases mode with
  | probe =>
      have waiting : attempt.sent =
          { (attempt.advance .requestSent).advance .awaitingExit with stage := .waiting } := by
        rw [Attempt.sent, sameMode]
      rw [waiting]
      exact ⟨sameMode, fun _ => fresh, by simp⟩
  | run =>
      have handed : attempt.sent = (attempt.advance .requestSent).finish .handedOff := by
        rw [Attempt.sent, sameMode]
      rw [handed]
      exact ⟨sameMode, fun _ => fresh, fun _ => ⟨rfl, fresh⟩⟩

theorem Untouched.helperExited (codes : ExitCodes) (status : WaitStatus) (sameMode : attempt.mode = mode) :
    Untouched mode (attempt.helperExited codes status) := by
  unfold Attempt.helperExited
  dsimp only
  split
  · exact ⟨sameMode, by simp, by simp⟩
  · exact .finish sameMode (by simp)

theorem Untouched.step (untouched : Untouched mode attempt) (tick : Tick) :
    Untouched mode (attempt.step broker tick) := by
  have sameMode := untouched.sameMode
  rcases step_cases broker attempt tick with ⟨-, -, stepped⟩ | ⟨-, goes⟩
  · rw [stepped]
    exact .finish sameMode (by simp)
  · generalize attempt.step broker tick = next at goes
    cases goes with
    | sent stage _ =>
        have fresh := untouched.underway (.inl stage)
        exact .sent ⟨sameMode, fun _ => fresh, untouched.handedOff⟩ fresh
    | unsent _ _ => exact .finish sameMode (by simp)
    | writes _ _ _ => exact ⟨sameMode, untouched.underway, untouched.handedOff⟩
    | waits _ => exact untouched
    | exited _ _ => exact .helperExited _ _ sameMode
    | unwatched _ _ => exact .finish sameMode (by simp)
    | reads _ _ => exact ⟨sameMode, by simp, by simp⟩
    | @replied _ result _ _ =>
        refine .finish sameMode ?_
        cases frameVerdict broker.catalog broker.codes result <;> simp [Ending.ofVerdict]
    | late _ _ => exact .finish sameMode (by simp)
    | ended _ => exact untouched

theorem untouched_follow (broker : Broker) (mode : Mode) (payload : List UInt8) (ticks : List Tick) :
    Untouched mode ((launched mode payload).follow broker ticks) :=
  follow_keeps ⟨rfl, fun _ => rfl, by simp [launched, start, advance, note]⟩
    (fun _ tick untouched => untouched.step tick) ticks

end Attempt

end AuthBroker
