import AuthBroker.Proofs.Attempt.Run
import AuthBroker.Proofs.Attempt.Service
import AuthBroker.Proofs.Reply.FailClosed

namespace AuthBroker.Attempt

open AuthBroker.Frame

/-! The verdict of a probe.

A probe that is served in time and not cancelled ends in a verdict that depends on the
status of the helper and on its output, and not on how the answers came.  The frame at
the head of the output is looked at only after an exit with code zero, and what comes
after that frame is not looked at.
-/

/-- What a probe makes of a status and an output. -/
def probeVerdict (broker : Broker) (status : WaitStatus) (output : List UInt8) : Verdict :=
  let size := lengthValue (output.take 4)
  if status.kind ≠ .exited 0 then
    .error (.helperExit (status.code?.map Int.ofNat) (broker.codes.describe status))
  else if output = [] then .error (.helperExit (some 0) (broker.codes.describeCode 0))
  else if output.length < 4 then .error (.protocol (.frame (.truncated 4 output.length)))
  else if 1048576 < size then .error (.protocol (.frame (.tooLarge size)))
  else if output.length - 4 < size then
    .error (.protocol (.frame (.truncated size (output.length - 4))))
  else classify broker.catalog broker.codes (Reply.decode ((output.drop 4).take size))

variable {broker : Broker} {status : WaitStatus} {payload output left rest : List UInt8}
  {attempt : Attempt}

/-! ### The verdict by cases -/

theorem code_eq_zero_iff : status.code?.map Int.ofNat = some exitOk ↔ status.kind = .exited 0 := by
  rw [WaitStatus.code?, exitOk]
  cases status.kind with
  | exited code => simp
  | _ => simp

theorem probeVerdict_of_failure (failed : status.kind ≠ .exited 0) :
    probeVerdict broker status output =
      .error (.helperExit (status.code?.map Int.ofNat) (broker.codes.describe status)) :=
  if_pos failed

theorem probeVerdict_of_short (exited : status.kind = .exited 0) (short : Short output) :
    probeVerdict broker status output =
      frameVerdict broker.catalog broker.codes (.error (shortage output)) := by
  have long : lengthSize = 4 := rfl
  rw [Short, maxSize, declared, long] at short
  rw [probeVerdict, if_neg (not_not.mpr exited), shortage, declared, long]
  split_ifs with empty few tooLarge truncated
  · rfl
  · rfl
  · omega
  · rfl
  · omega

theorem probeVerdict_of_whole (exited : status.kind = .exited 0) {frame : List UInt8}
    (whole : Whole frame) (more : List UInt8) :
    probeVerdict broker status (frame ++ more) = frameVerdict broker.catalog broker.codes
      (if maxSize < declared frame then .error (.tooLarge (declared frame))
        else .ok (frame.drop lengthSize)) := by
  have long : 4 ≤ frame.length := by
    rw [Whole, lengthSize] at whole
    omega
  have same : lengthValue ((frame ++ more).take 4) = declared frame := declared_append long
  have notEmpty : frame ++ more ≠ [] := by
    intro empty
    rw [(List.append_eq_nil_iff.mp empty).1] at long
    contradiction
  rw [Whole, maxSize, lengthSize] at whole
  rw [probeVerdict, if_neg (not_not.mpr exited), if_neg notEmpty, same, maxSize, lengthSize]
  simp only [List.length_append]
  rw [if_neg (by omega)]
  split_ifs at whole ⊢ with tooLarge truncated
  · rfl
  · omega
  · rw [List.drop_append_of_le_length long, List.take_left' (by rw [List.length_drop]; omega)]
    rfl

/-! ### The stages of a probe -/

/-- Where a probe stands that is served: the attempt, the output that is still to be read,
and how many answers are missing at most. -/
inductive Stands (broker : Broker) (status : WaitStatus) (output : List UInt8) :
    Attempt → List UInt8 → Nat → Prop
  | sending {attempt : Attempt} {taken rest : List UInt8} (mode : attempt.mode = .probe)
      (stage : attempt.stage = .sending) (outgoing : attempt.outgoing = .after taken rest)
      (notEmpty : rest ≠ []) :
      Stands broker status output attempt output (rest.length + output.length + 2)
  | waiting {attempt : Attempt} (stage : attempt.stage = .waiting) :
      Stands broker status output attempt output (output.length + 2)
  | reading {attempt : Attempt} {taken left : List UInt8}
      (stage : attempt.stage = .reading (.after taken)) (exited : status.kind = .exited 0)
      (split : output = taken ++ left) (short : Short taken) :
      Stands broker status output attempt left (left.length + 1)
  | ended {attempt : Attempt} {left : List UInt8}
      (stage : attempt.stage = .over (.ofVerdict (probeVerdict broker status output))) :
      Stands broker status output attempt left 0

theorem stands_wrote {taken rest : List UInt8} (mode : attempt.mode = .probe)
    (stage : attempt.stage = .sending) (outgoing : attempt.outgoing = .after taken rest)
    (notEmpty : rest ≠ []) {count : Nat} (positive : 0 < count) :
    ∃ effort < rest.length + output.length + 2, Stands broker status output
      (attempt.step broker ⟨false, .wrote count, false⟩) output effort := by
  have filled := List.length_pos_iff.mpr notEmpty
  rw [step_wrote broker stage outgoing notEmpty positive]
  split
  · refine ⟨output.length + 2, by omega, ?_⟩
    simp only [sent, mode]
    exact .waiting rfl
  · rename_i incomplete
    refine ⟨_, ?_, .sending mode stage rfl incomplete⟩
    rw [List.length_drop]
    omega

theorem stands_exited (stage : attempt.stage = .waiting) :
    ∃ effort < output.length + 2, Stands broker status output
      (attempt.step broker ⟨false, .exited status, false⟩) output effort := by
  rw [step_waiting_exited stage, helperExited]
  split_ifs with isZero
  · have exited := code_eq_zero_iff.mp isZero
    have short : Short [] := .inl (by decide)
    exact ⟨output.length + 1, by omega, .reading rfl exited rfl short⟩
  · have failed : status.kind ≠ .exited 0 := fun exited => isZero (code_eq_zero_iff.mpr exited)
    refine ⟨0, by omega, .ended ?_⟩
    rw [probeVerdict_of_failure failed]
    rfl

theorem stands_received {taken run : List UInt8} (stage : attempt.stage = .reading (.after taken))
    (exited : status.kind = .exited 0) (split : output = taken ++ run ++ left) (short : Short taken)
    (notEmpty : run ≠ []) (few : run.length ≤ (Incoming.after taken).wanted) :
    ∃ effort < (run ++ left).length + 1, Stands broker status output
      (attempt.step broker ⟨false, .received run, false⟩) left effort := by
  have received := absorb_received short notEmpty few
  have positive := List.length_pos_iff.mpr notEmpty
  rw [List.length_append]
  rcases Incoming.short_or_whole short few with still | whole
  · rw [step_reading_short stage received still]
    exact ⟨left.length + 1, by omega, .reading rfl exited split still⟩
  · rw [Incoming.after_whole whole] at received
    rw [step_reading_ended stage received]
    refine ⟨0, by omega, .ended ?_⟩
    rw [split, probeVerdict_of_whole exited whole]
    rfl

theorem stands_closed {taken : List UInt8} (stage : attempt.stage = .reading (.after taken))
    (exited : status.kind = .exited 0) (short : Short taken) :
    Stands broker status taken (attempt.step broker ⟨false, .received [], false⟩) [] 0 := by
  rw [step_reading_ended stage (absorb_ended short)]
  refine .ended ?_
  rw [probeVerdict_of_short exited short]
  rfl

theorem Stands.answered {effort : Nat} {call : Call} {answer : Answer}
    (stands : Stands broker status output attempt left effort) (called : attempt.call? = some call)
    (answers : Answers status left call answer rest) :
    ∃ effort' < effort,
      Stands broker status output (attempt.step broker ⟨false, answer, false⟩) rest effort' := by
  cases stands with
  | @sending taken rest mode stage outgoing notEmpty =>
      rw [call?, stage, outgoing] at called
      simp only [Outgoing.stage_after notEmpty, Option.some.injEq] at called
      rw [← called] at answers
      cases answers with
      | wrote positive few => exact stands_wrote mode stage outgoing notEmpty positive
  | waiting stage =>
      rw [call?, stage, Option.some.injEq] at called
      rw [← called] at answers
      cases answers with
      | exited => exact stands_exited stage
  | @reading taken left stage exited split short =>
      rw [call?, stage, Option.some.injEq] at called
      rw [← called] at answers
      cases answers with
      | @received run _ _ notEmpty few =>
          rw [← List.append_assoc] at split
          exact stands_received stage exited split short notEmpty few
      | ended =>
          rw [List.append_nil] at split
          rw [split]
          exact ⟨0, by omega, stands_closed stage exited short⟩
  | ended stage =>
      rw [call?, stage] at called
      contradiction

end AuthBroker.Attempt
