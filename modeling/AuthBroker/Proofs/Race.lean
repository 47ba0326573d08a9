import AuthBroker.Proofs.Attempt.ProbeVerdict
import AuthBroker.Proofs.Interleaving

namespace AuthBroker.Exchange

open AuthBroker.Attempt AuthBroker.Stream

/-! Whether the write or the exit comes first.

When the helper of a probe exits with a code other than zero, the probe fails at its next step: for
the exit if all of the request was taken by then, and otherwise for the write that nobody reads.
-/

/-- How an attempt fails whose helper exits now with a code other than zero. -/
def exitFailure (broker : Broker) (payload : List UInt8) (attempt : Attempt) (code : Nat) : Failure :=
  if Frame.maxSize < payload.length then .protocol (.frame (.tooLarge payload.length))
  else if .requestSent ∈ attempt.history then .helperExit (some code) (broker.codes.describeCode code)
  else .io .writing .noReader

variable {broker : Broker} {payload : List UInt8} {code : Nat} {attempt : Attempt} {helper later : Helper}
  {exchange next : Exchange} {status : WaitStatus} {reply : Answer}

/-! ### Until the helper exits -/

/-- A probe in time whose helper runs: it sends or waits, or its request is too large to be sent. -/
inductive Undecided (payload : List UInt8) : Attempt → Prop
  | underway {given : List UInt8} {attempt : Attempt} (probe : attempt.mode = .probe)
      (small : payload.length ≤ Frame.maxSize) (sends : Sends payload given attempt)
      (stage : attempt.stage = .sending ∨ attempt.stage = .waiting) : Undecided payload attempt
  | unsendable (oversized : Frame.maxSize < payload.length) : Undecided payload (launched .probe payload)
  | refused {attempt : Attempt} (oversized : Frame.maxSize < payload.length)
      (ended : attempt.ending? = some (.failed (.protocol (.frame (.tooLarge payload.length))))) :
      Undecided payload attempt

theorem undecided_launched (payload : List UInt8) : Undecided payload (launched .probe payload) := by
  by_cases small : payload.length ≤ Frame.maxSize
  · exact .underway rfl small (sends_launched .probe small) (.inl rfl)
  · exact .unsendable (Nat.lt_of_not_le small)

theorem step_sending_pending (stage : attempt.stage = .sending) (writing : attempt.outgoing.stage = .writing) :
    attempt.step broker ⟨false, .pending, false⟩ = attempt :=
  step_sending_writing stage writing

theorem Undecided.sending {given rest : List UInt8} (probe : attempt.mode = .probe)
    (small : payload.length ≤ Frame.maxSize) (stage : attempt.stage = .sending)
    (outgoing : attempt.outgoing = .after given rest) (notEmpty : rest ≠ [])
    (frame : given ++ rest = Frame.octets payload) (unsent : .requestSent ∉ attempt.history)
    (responds : Responds helper attempt.call? reply later) (reader : helper.input.hasReader = true) :
    Undecided payload (attempt.step broker ⟨false, reply, false⟩) := by
  have sends : Sends payload given attempt := .underway stage outgoing notEmpty frame unsent
  have called := call?_after stage outgoing notEmpty
  rw [called] at responds
  rcases responds.readable reader (Frame.Outgoing.offered_ne_nil given notEmpty) with
    rfl | ⟨count, rfl, positive, few⟩
  · have writing : attempt.outgoing.stage = .writing := by rw [outgoing, Frame.Outgoing.stage_after notEmpty]
    rw [step_sending_pending stage writing]
    exact .underway probe small sends (.inl stage)
  · have modest : attempt.modest ⟨false, .wrote count, false⟩ = true := by simp [Attempt.modest, called, few]
    obtain ⟨sameMode, goesOn, -⟩ := goes_on_of_wrote broker false probe stage outgoing notEmpty positive
    exact .underway sameMode small (sends.step modest) goesOn

theorem Undecided.step (undecided : Undecided payload attempt)
    (responds : Responds helper attempt.call? reply later) (running : helper.status = none)
    (reader : helper.input.hasReader = true) : Undecided payload (attempt.step broker ⟨false, reply, false⟩) := by
  cases undecided with
  | refused oversized ended =>
      rw [step_over ended]
      exact .refused oversized ended
  | unsendable oversized =>
      rw [step_oversized oversized]
      exact .refused oversized rfl
  | underway probe small sends stage =>
      cases sends with
      | underway sending outgoing notEmpty frame unsent =>
          exact .sending probe small sending outgoing notEmpty frame unsent responds reader
      | cut ended cause notEmpty frame unsent =>
          rw [step_over ended]
          exact .underway probe small (.cut ended cause notEmpty frame unsent) stage
      | complete past sent =>
          have waiting := stage.resolve_left past
          rw [call?, waiting] at responds
          rw [responds.unexited running, step_waiting_pending waiting]
          exact .underway probe small (.complete past sent) stage

/-- What holds as long as the helper runs: it reads on, and in time the probe is undecided. -/
structure Contends (payload : List UInt8) (exchange : Exchange) : Prop where
  reader : exchange.helper.status = none → exchange.helper.input.hasReader = true
  inTime : exchange.helper.status = none → exchange.clock < exchange.deadline → Undecided payload exchange.attempt

theorem Contends.turn (contends : Contends payload exchange) (turn : Turn broker exchange next) :
    Contends payload next := by
  cases turn with
  | @time clock later =>
      obtain ⟨status, input⟩ := elapse_kept exchange.helper clock
      refine ⟨fun running => ?_, fun running early => ?_⟩
      · rw [status] at running
        rw [input]
        exact contends.reader running
      · rw [status] at running
        exact contends.inTime running (Nat.lt_of_le_of_lt later early)
  | helper running moves =>
      exact ⟨fun still => (moves.reader still).trans (contends.reader running), fun _ => contends.inTime running⟩
  | attempt advances =>
      obtain ⟨clock, status, reader⟩ := advances.kept
      refine ⟨fun running => ?_, fun running early => ?_⟩
      · rw [reader]
        exact contends.reader (status ▸ running)
      · rw [status] at running
        cases advances with
        | mk unended responds =>
            -- the deadline has not moved, so the probe was in time before this step
            rw [clock, deadline_of_running running responds] at early
            rw [follow_attempt, decide_eq_false (Nat.not_le.mpr early)]
            exact (contends.inTime running early).step responds running (contends.reader running)

theorem contends_of_interleaves (interleaves : Interleaves broker exchange next) (contends : Contends payload exchange) :
    Contends payload next := by
  induction interleaves with
  | refl => exact contends
  | tail _ turn ih => exact ih.turn turn

/-! ### Once it has exited -/

theorem Undecided.settles (undecided : Undecided payload attempt) (unended : attempt.ending? = none)
    (responds : Responds helper attempt.call? reply later) (closed : helper.input.hasReader = false)
    (exited : helper.status = some status) (kind : status.kind = .exited code) (failed : code ≠ 0) (late : Bool) :
    (attempt.step broker ⟨false, reply, late⟩).ending? =
      some (.failed (exitFailure broker payload attempt code)) := by
  cases undecided with
  | refused _ ended => simp [unended] at ended
  | unsendable oversized =>
      rw [step_oversized oversized, exitFailure, if_pos oversized]
      rfl
  | underway probe small sends stage =>
      rw [exitFailure, if_neg (Nat.not_lt.mpr small)]
      cases sends with
      | cut ended _ _ _ _ => simp [unended] at ended
      | @underway _ rest _ sending outgoing notEmpty _ unsent =>
          rw [call?_after sending outgoing notEmpty] at responds
          have refused : (transmit attempt.outgoing reply).stage = .failed (.io .noReader) := by
            rw [outgoing, responds.unread closed, transmit, Frame.Outgoing.refuse_after notEmpty]
            rfl
          rw [step_of_sending rfl sending, stepSending_failed refused, if_neg unsent]
          rfl
      | complete past sent =>
          have waiting := stage.resolve_left past
          rw [call?, waiting] at responds
          have nonzero : status.code?.map Int.ofNat ≠ some exitOk := by
            rw [Ne, code_eq_zero_iff, kind]
            simpa using failed
          rw [responds.exited exited, step_of_waiting rfl waiting, if_pos sent]
          simp only [stepWaiting, helperExited, if_neg nonzero]
          simp [fail, finish, ending?, WaitStatus.code?, ExitCodes.describe, kind]

theorem Undecided.ending (undecided : Undecided payload attempt) (broker : Broker) (code : Nat) :
    attempt.ending? = none ∨ attempt.ending? = some (.failed (exitFailure broker payload attempt code)) := by
  cases undecided with
  | underway _ _ _ stage => rcases stage with stage | stage <;> exact .inl (by rw [ending?, stage])
  | unsendable _ => exact .inl rfl
  | refused oversized ended => exact .inr (by rw [ended, exitFailure, if_pos oversized])

/-- What holds once the helper has exited: the probe has made no step since, or has failed. -/
structure Settles (broker : Broker) (payload : List UInt8) (before : Attempt) (status : WaitStatus) (code : Nat)
    (exchange : Exchange) : Prop where
  exited : exchange.helper.status = some status
  closed : exchange.helper.input.hasReader = false
  attempt : exchange.attempt = before ∨
    exchange.attempt.ending? = some (.failed (exitFailure broker payload before code))

theorem Settles.advance {before : Attempt} (settles : Settles broker payload before status code exchange)
    (undecided : Undecided payload before) (kind : status.kind = .exited code) (failed : code ≠ 0)
    (advances : Advances broker exchange next) :
    next.attempt.ending? = some (.failed (exitFailure broker payload before code)) := by
  cases advances with
  | mk unended responds =>
      rw [follow_attempt]
      -- the attempt that takes the step is the one that the exit has met
      rcases settles.attempt with same | ended
      · rw [same] at unended responds ⊢
        exact undecided.settles unended responds settles.closed settles.exited kind failed _
      · simp [unended] at ended

theorem Settles.turn {before : Attempt} (settles : Settles broker payload before status code exchange)
    (undecided : Undecided payload before) (kind : status.kind = .exited code) (failed : code ≠ 0)
    (turn : Turn broker exchange next) : Settles broker payload before status code next := by
  cases turn with
  | helper running _ => simp [settles.exited] at running
  | @time clock _ =>
      obtain ⟨status, input⟩ := elapse_kept exchange.helper clock
      exact ⟨status.trans settles.exited, by rw [input]; exact settles.closed, settles.attempt⟩
  | attempt advances =>
      have ended := settles.advance undecided kind failed advances
      obtain ⟨-, status, reader⟩ := advances.kept
      exact ⟨status.trans settles.exited, reader.trans settles.closed, .inr ended⟩

/-- In whatever order a probe and its helper have gone on, once the helper exits in time with a code other than
zero the probe fails at its very next step, however that is ordered.  Which failure it is depends on what came
before the exit. -/
theorem exit_settles (broker : Broker) (payload : List UInt8) (script : List Helper.Action) (capacity : Nat)
    (before : Exchange) (status : WaitStatus) (code : Nat)
    (reached : Interleaves broker (start broker .probe payload script capacity .never) before)
    (running : before.helper.status = none) (inTime : before.clock < before.deadline)
    (exited : status.kind = .exited code) (failed : code ≠ 0) (later : Exchange)
    (follows : Interleaves broker { before with helper := before.helper.finish status } later) :
    (later.attempt.ending? = none ∨
      later.attempt.ending? = some (.failed (exitFailure broker payload before.attempt code))) ∧
    (later.attempt.ending? = none → (∃ next, Advances broker later next) ∧ ∀ next, Advances broker later next →
      next.attempt.ending? = some (.failed (exitFailure broker payload before.attempt code))) := by
  -- what holds up to the exit says what the probe had come to; from there on another invariant carries it
  have begun : Contends payload (start broker .probe payload script capacity .never) :=
    ⟨fun _ => rfl, fun _ _ => undecided_launched payload⟩
  have undecided := (contends_of_interleaves reached begun).inTime running inTime
  have settles : Settles broker payload before.attempt status code later := by
    induction follows with
    | refl => exact ⟨rfl, rfl, .inl rfl⟩
    | tail _ turn ih => exact ih.turn undecided exited failed turn
  refine ⟨?_, fun unended => ⟨exists_advance unended, fun next => settles.advance undecided exited failed⟩⟩
  rcases settles.attempt with same | ended
  · rw [same]
    exact undecided.ending broker code
  · exact .inr ended

/-- A helper that exits before the first octet of its request was written. -/
theorem exit_settles_unread :
    let broker := Broker.english .standard
    let begun := start broker .probe [7] [] Pipe.usualCapacity .never
    let exited := { begun with helper := begun.helper.finish (.ofCode 200) }
    (∃ next, Advances broker exited next) ∧ ∀ next, Advances broker exited next →
      next.attempt.ending? = some (.failed (.io .writing .noReader)) := by
  intro broker begun exited
  have settled := exit_settles broker [7] [] Pipe.usualCapacity begun (.ofCode 200) 200 .refl rfl
    (by decide +kernel) (by decide +kernel) (by decide) exited .refl
  have failure : exitFailure broker [7] begun.attempt 200 = .io .writing .noReader := by decide +kernel
  rw [failure] at settled
  exact settled.2 rfl

/-- One helper exits with the code 200 at once, and its probe ends in two ways. -/
theorem order_matters :
    let broker := Broker.english .standard
    let begun := start broker .probe [7] [.exit 200] Pipe.usualCapacity .never
    ∃ first second, Interleaves broker begun first ∧ Interleaves broker begun second ∧
      (first.helper.status = some (.ofCode 200) ∧ first.clock = 0 ∧ first.attempt.ending? =
        some (.failed (.helperExit (some 200) (broker.codes.describeCode 200)))) ∧
      second.helper.status = some (.ofCode 200) ∧ second.clock = 0 ∧
      second.attempt.ending? = some (.failed (.io .writing .noReader)) := by
  intro broker begun
  let exited := { begun with helper := begun.helper.finish (.ofCode 200) }
  have exits : Interleaves broker begun exited := interleaves_helper rfl (.exits _)
  refine ⟨begun.run broker 8, exited.run broker 8, interleaves_run rfl 8, exits.trans (interleaves_run rfl 8), ?_⟩
  decide +kernel

end AuthBroker.Exchange
