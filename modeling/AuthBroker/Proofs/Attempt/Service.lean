import AuthBroker.Proofs.Attempt.Run
import AuthBroker.Proofs.Frame.Incoming
import AuthBroker.Proofs.Frame.Outgoing

namespace AuthBroker.Attempt

open AuthBroker.Frame

/-! What the system answers to an attempt whose helper was launched.

A helper has left some octets on its output and a status.  A call for its input takes some
of what it is offered, the wait gives the status, and reads give the octets piece by piece
up to their end.  Answers may be long in coming, and writes and reads may be interrupted.
-/

/-- What is answered to a call, with the output before it and after it. -/
inductive Answers (status : WaitStatus) : List UInt8 → Call → Answer → List UInt8 → Prop
  | wrote {output offered : List UInt8} {count : Nat} (positive : 0 < count)
      (few : count ≤ offered.length) :
      Answers status output (.write offered) (.wrote count) output
  | exited {output : List UInt8} : Answers status output .wait (.exited status) output
  | received {run output : List UInt8} {most : Nat} (notEmpty : run ≠ []) (few : run.length ≤ most) :
      Answers status (run ++ output) (.read most) (.received run) output
  | ended {most : Nat} : Answers status [] (.read most) (.received []) []

variable {broker : Broker} {attempt : Attempt} {answer : Answer} {taken left : List UInt8}

/-! ### Single steps -/

theorem step_sending_writing (stage : attempt.stage = .sending)
    (writing : (transmit attempt.outgoing answer).stage = .writing) :
    attempt.step broker ⟨false, answer, false⟩ =
      { attempt with outgoing := transmit attempt.outgoing answer } := by
  simp only [step, stage, stepSending, writing, Tick.timedOut, Bool.false_and, Bool.false_eq_true,
    if_false]

theorem step_waiting_exited (stage : attempt.stage = .waiting) (status : WaitStatus) :
    attempt.step broker ⟨false, .exited status, false⟩ =
      (attempt.await (.ok status)).helperExited broker.codes status := by
  simp only [step, stage, stepWaiting, Bool.false_and, Bool.false_eq_true, if_false]

theorem step_waiting_pending (stage : attempt.stage = .waiting) :
    attempt.step broker ⟨false, .pending, false⟩ = attempt := by
  simp only [step, stage, stepWaiting, Tick.timedOut, Bool.false_and, Bool.false_eq_true, if_false]

theorem step_reading_ended {incoming : Incoming} {result : Except Frame.Error (List UInt8)}
    (stage : attempt.stage = .reading incoming) (ended : absorb incoming answer = .ended result) :
    attempt.step broker ⟨false, answer, false⟩ =
      attempt.finish (.ofVerdict (frameVerdict broker.catalog broker.codes result)) := by
  simp only [step, stage, stepReading, ended, Bool.false_and, Bool.false_eq_true, if_false]

theorem step_reading_short {incoming : Incoming} (stage : attempt.stage = .reading incoming)
    (absorbed : absorb incoming answer = .after taken) (short : Short taken) :
    attempt.step broker ⟨false, answer, false⟩ = { attempt with stage := .reading (.after taken) } := by
  by_cases long : lengthSize ≤ taken.length
  · rw [Incoming.after_of_short short long] at absorbed ⊢
    simp only [step, stage, stepReading, absorbed, Tick.timedOut, Bool.false_and,
      Bool.false_eq_true, if_false]
  · rw [Incoming.after_of_few (Nat.lt_of_not_le long)] at absorbed ⊢
    simp only [step, stage, stepReading, absorbed, Tick.timedOut, Bool.false_and,
      Bool.false_eq_true, if_false]

/-! ### Frames and answers -/

variable {rest : List UInt8} {count : Nat} {error : Stream.IoError}

/-- The frame after some of it was taken: a pipe is flushed with its last octet. -/
theorem transmit_wrote (taken : List UInt8) (notEmpty : rest ≠ []) (positive : 0 < count) :
    transmit (.after taken rest) (.wrote count) =
      if rest.drop count = [] then ⟨(taken ++ rest).reverse, [], .finished⟩
      else .after (taken ++ rest.take count) (rest.drop count) := by
  rw [transmit, Outgoing.accept_after notEmpty positive]
  split_ifs with complete
  · have everything : rest.take count = rest :=
      List.take_of_length_le (List.drop_eq_nil_iff.mp complete)
    rw [complete, everything]
    rfl
  · exact Outgoing.flushed_after complete none

theorem step_wrote (broker : Broker) {late : Bool} (stage : attempt.stage = .sending)
    (outgoing : attempt.outgoing = .after taken rest) (notEmpty : rest ≠ []) (positive : 0 < count) :
    attempt.step broker ⟨false, .wrote count, late⟩ =
      if rest.drop count = [] then { attempt with outgoing := ⟨(taken ++ rest).reverse, [], .finished⟩ }.sent
      else { attempt with outgoing := .after (taken ++ rest.take count) (rest.drop count) } := by
  have moved := transmit_wrote taken notEmpty positive
  rw [← outgoing] at moved
  have inTime : (⟨false, .wrote count, late⟩ : Tick).timedOut = false := Bool.and_false late
  rw [step_of_sending rfl stage]
  by_cases complete : rest.drop count = []
  · rw [if_pos complete] at moved ⊢
    simp only [stepSending, moved]
  · rw [if_neg complete] at moved ⊢
    have writing : (Outgoing.after (taken ++ rest.take count) (rest.drop count)).stage = .writing :=
      Outgoing.stage_after complete
    simp only [stepSending, moved, writing, inTime, Bool.false_eq_true, if_false]

/-- A probe goes on sending, or waits when the last octet was taken. -/
theorem goes_on_of_wrote (broker : Broker) (late : Bool) (probe : attempt.mode = .probe)
    (stage : attempt.stage = .sending) (outgoing : attempt.outgoing = .after taken rest) (notEmpty : rest ≠ [])
    (positive : 0 < count) :
    let next := attempt.step broker ⟨false, .wrote count, late⟩
    next.mode = .probe ∧ (next.stage = .sending ∨ next.stage = .waiting) ∧ next.outgoing.rest = rest.drop count := by
  intro next
  have stepped : next = _ := step_wrote broker stage outgoing notEmpty positive
  rw [stepped]
  split
  · rename_i complete
    rw [complete]
    simp only [sent, probe]
    exact ⟨rfl, .inr trivial, rfl⟩
  · exact ⟨probe, .inl stage, rfl⟩

theorem transmit_interrupted (notEmpty : rest ≠ []) (interruption : error.isInterrupted = true) :
    transmit (.after taken rest) (.failed error) = .after taken rest := by
  rw [transmit, Outgoing.refuse_after notEmpty, if_pos interruption]

theorem absorb_received (short : Short taken) (notEmpty : left ≠ [])
    (few : left.length ≤ (Incoming.after taken).wanted) :
    absorb (.after taken) (.received left) = .after (taken ++ left) := by
  cases left with
  | nil => contradiction
  | cons octet left => exact Incoming.receive_after short few

theorem absorb_ended (short : Short taken) :
    absorb (.after taken) (.received []) = .ended (.error (shortage taken)) :=
  Incoming.close_after short

end AuthBroker.Attempt
