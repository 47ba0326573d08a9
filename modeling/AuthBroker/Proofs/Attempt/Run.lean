import AuthBroker.Attempt.Basic

namespace AuthBroker.Attempt

open AuthBroker.Stream

/-! Runs of an attempt.

A run is an attempt and what it learns at each step, whatever that is: answers may come in any
order or not at all, time may be over at any step, and the caller may cancel at any step.
What a step can do is said once, by `Goes`; what a whole run keeps follows from it.
-/

variable {broker : Broker} {attempt next : Attempt} {tick : Tick} {ticks : List Tick}

/-- An attempt after some steps. -/
def follow (broker : Broker) (ticks : List Tick) (attempt : Attempt) : Attempt :=
  ticks.foldl (step broker) attempt

theorem follow_cons (tick : Tick) (ticks : List Tick) (attempt : Attempt) :
    attempt.follow broker (tick :: ticks) = (attempt.step broker tick).follow broker ticks :=
  rfl

theorem follow_append (first second : List Tick) (attempt : Attempt) :
    attempt.follow broker (first ++ second) = (attempt.follow broker first).follow broker second :=
  List.foldl_append

/-- The attempts of a mode: one whose helper could not be launched, and any that comes of a
launch, cleaned up or not. -/
inductive Arises (broker : Broker) (mode : Mode) (payload : List UInt8) : Attempt → Prop
  | unlaunched (path : FilePath) (error : IoError) :
      Arises broker mode payload (unlaunched mode payload (.launch path error))
  | followed (ticks : List Tick) : Arises broker mode payload ((launched mode payload).follow broker ticks)
  | dismissed {attempt : Attempt} (cleanup : Child.Cleanup) (arises : Arises broker mode payload attempt) :
      Arises broker mode payload (attempt.dismiss cleanup)

/-- What every step keeps, a run keeps. -/
theorem follow_keeps {kept : Attempt → Prop} (begins : kept attempt)
    (keeps : ∀ attempt tick, kept attempt → kept (attempt.step broker tick)) (ticks : List Tick) :
    kept (attempt.follow broker ticks) := by
  induction ticks generalizing attempt with
  | nil => exact begins
  | cons tick ticks ih => exact ih (keeps attempt tick begins)

/-! ### Single steps -/

/-- The attempt with its frame after what it learns. -/
def transmitted (attempt : Attempt) (answer : Answer) : Attempt :=
  { attempt with outgoing := transmit attempt.outgoing answer }

/-- What a step can come to that is no cancellation. -/
inductive Goes (broker : Broker) (attempt : Attempt) (tick : Tick) : Attempt → Prop
  | sent (stage : attempt.stage = .sending)
      (finished : (transmit attempt.outgoing tick.answer).stage = .finished) :
      Goes broker attempt tick (attempt.transmitted tick.answer).sent
  | unsent {error : Frame.Error} (stage : attempt.stage = .sending)
      (failed : (transmit attempt.outgoing tick.answer).stage = .failed error) :
      Goes broker attempt tick ((attempt.transmitted tick.answer).fail (sendFailure error))
  | writes (stage : attempt.stage = .sending)
      (unfinished : (transmit attempt.outgoing tick.answer).stage ≠ .finished)
      (unfailed : ∀ error, (transmit attempt.outgoing tick.answer).stage ≠ .failed error) :
      Goes broker attempt tick (attempt.transmitted tick.answer)
  | waits (stage : attempt.stage = .waiting) : Goes broker attempt tick attempt
  | exited {status : WaitStatus} (stage : attempt.stage = .waiting) (answer : tick.answer = .exited status) :
      Goes broker attempt tick ((attempt.await (.ok status)).helperExited broker.codes status)
  | unwatched {error : IoError} (stage : attempt.stage = .waiting) (answer : tick.answer = .failed error) :
      Goes broker attempt tick ((attempt.await (.error error)).fail (.io .waiting error))
  | reads {incoming : Frame.Incoming} (stage : attempt.stage = .reading incoming)
      (unended : ∀ result, absorb incoming tick.answer ≠ .ended result) :
      Goes broker attempt tick { attempt with stage := .reading (absorb incoming tick.answer) }
  | replied {incoming : Frame.Incoming} {result : Except Frame.Error (List UInt8)}
      (stage : attempt.stage = .reading incoming) (ended : absorb incoming tick.answer = .ended result) :
      Goes broker attempt tick
        (attempt.finish (.ofVerdict (frameVerdict broker.catalog broker.codes result)))
  | late {millis : Nat} (unended : attempt.ending? = none) (timedOut : tick.timedOut = true) :
      Goes broker attempt tick (attempt.expire millis)
  | ended {ending : Ending} (stage : attempt.stage = .over ending) : Goes broker attempt tick attempt

theorem answer_of_timedOut (timedOut : tick.timedOut = true) : tick.answer = .pending := by
  simp only [Tick.timedOut, Bool.and_eq_true, beq_iff_eq] at timedOut
  exact timedOut.2

theorem goes_sending (stage : attempt.stage = .sending) :
    Goes broker attempt tick (stepSending broker attempt tick) := by
  have unended : attempt.ending? = none := by rw [ending?, stage]
  unfold stepSending
  dsimp only
  split
  · rename_i finished
    exact .sent stage finished
  · rename_i error failed
    exact .unsent stage failed
  · rename_i unfinished unfailed
    split
    · rename_i timedOut
      rw [answer_of_timedOut timedOut]
      exact .late unended timedOut
    · exact .writes stage unfinished unfailed

theorem goes_waiting (stage : attempt.stage = .waiting) :
    Goes broker attempt tick (stepWaiting broker attempt tick) := by
  have unended : attempt.ending? = none := by rw [ending?, stage]
  unfold stepWaiting
  split
  · rename_i status answer
    exact .exited stage answer
  · rename_i error answer
    exact .unwatched stage answer
  · split
    · rename_i timedOut
      exact .late unended timedOut
    · exact .waits stage

theorem goes_reading {incoming : Frame.Incoming} (stage : attempt.stage = .reading incoming) :
    Goes broker attempt tick (stepReading broker attempt incoming tick) := by
  have unended : attempt.ending? = none := by rw [ending?, stage]
  unfold stepReading
  split
  · rename_i result ended
    exact .replied stage ended
  · rename_i incomplete
    split
    · rename_i timedOut
      exact .late unended timedOut
    · exact .reads stage incomplete

/-- A step is a cancellation, or goes on by what it learns. -/
theorem step_cases (broker : Broker) (attempt : Attempt) (tick : Tick) :
    (tick.cancelled = true ∧ attempt.heedsCancellation = true ∧
      attempt.step broker tick = attempt.fail .cancelled) ∨
    (tick.cancelled && attempt.heedsCancellation) = false ∧
      Goes broker attempt tick (attempt.step broker tick) := by
  cases calm : tick.cancelled && attempt.heedsCancellation with
  | true =>
      obtain ⟨fired, heeds⟩ := Bool.and_eq_true_iff.mp calm
      exact .inl ⟨fired, heeds, by simp [step, fired, heeds]⟩
  | false =>
      refine .inr ⟨rfl, ?_⟩
      rw [step, calm, if_neg Bool.false_ne_true]
      cases stage : attempt.stage with
      | sending => exact goes_sending stage
      | waiting => exact goes_waiting stage
      | reading incoming => exact goes_reading stage
      | _ => exact .ended stage

theorem step_cancelled (fired : tick.cancelled = true) (heeds : attempt.heedsCancellation = true) :
    attempt.step broker tick = attempt.fail .cancelled := by
  rw [step, fired, heeds]
  rfl

theorem step_of_sending (calm : tick.cancelled = false) (stage : attempt.stage = .sending) :
    attempt.step broker tick = stepSending broker attempt tick := by
  rw [step, calm, stage]
  rfl

theorem step_of_waiting (calm : tick.cancelled = false) (stage : attempt.stage = .waiting) :
    attempt.step broker tick = stepWaiting broker attempt tick := by
  rw [step, calm, stage]
  rfl

/-- Nothing follows the end. -/
theorem step_over {ending : Ending} (ended : attempt.ending? = some ending) :
    attempt.step broker tick = attempt := by
  unfold ending? at ended
  split at ended
  · rename_i final stage
    have unheeded : attempt.heedsCancellation = false := by
      unfold heedsCancellation
      rw [stage]
      cases attempt.mode <;> rfl
    simp [step, stage, unheeded]
  · contradiction

theorem follow_over {ending : Ending} (ended : attempt.ending? = some ending) (ticks : List Tick) :
    attempt.follow broker ticks = attempt := by
  induction ticks with
  | nil => rfl
  | cons tick ticks ih => rw [follow_cons, step_over ended, ih]

/-- Cleaning up bears on the child alone. -/
theorem exists_dismiss (attempt : Attempt) (cleanup : Child.Cleanup) :
    ∃ child, attempt.dismiss cleanup = { attempt with child } := by
  unfold dismiss
  split
  · exact ⟨attempt.child, rfl⟩
  · exact ⟨_, rfl⟩

theorem ending?_dismiss (attempt : Attempt) (cleanup : Child.Cleanup) :
    (attempt.dismiss cleanup).ending? = attempt.ending? := by
  obtain ⟨child, same⟩ := exists_dismiss attempt cleanup
  rw [same]
  rfl

theorem lifecycle_dismiss (attempt : Attempt) (cleanup : Child.Cleanup) :
    (attempt.dismiss cleanup).lifecycle = attempt.lifecycle := by
  obtain ⟨child, same⟩ := exists_dismiss attempt cleanup
  rw [same]

/-- A call that comes to nothing in its time ends an attempt. -/
theorem ending?_step_late (cancelled : Bool)
    (unsent : attempt.stage = .sending → attempt.outgoing.stage ≠ .finished) :
    (attempt.step broker ⟨cancelled, .pending, true⟩).ending? ≠ none := by
  have late : (⟨cancelled, .pending, true⟩ : Tick).timedOut = true := rfl
  rcases step_cases broker attempt ⟨cancelled, .pending, true⟩ with ⟨-, -, stepped⟩ | ⟨calm, -⟩
  · rw [stepped]
    simp [fail, finish, ending?]
  · rw [step, calm, if_neg Bool.false_ne_true]
    split
    · rename_i stage
      unfold stepSending
      dsimp only [transmit]
      split
      · rename_i finished
        exact absurd finished (unsent stage)
      · simp [fail, finish, ending?]
      · simp [late, expire, fail, finish, ending?]
    · simp [stepWaiting, late, expire, fail, finish, ending?]
    · unfold stepReading
      split
      · simp [finish, ending?]
      · simp [late, expire, fail, finish, ending?]
    · rename_i ending stage
      simp [ending?, stage]

end AuthBroker.Attempt
