import AuthBroker.Proofs.Exchange
import AuthBroker.Proofs.Helper.Remaining

namespace AuthBroker

open AuthBroker.Attempt AuthBroker.Stream

/-! Attempts come to an end.

Whatever the helper does, each step of an exchange leaves less to do than there was, and there is a step until
the attempt is over.  So the steps that an exchange is given are enough, and an attempt of a broker is over when
its report is made.
-/

namespace Attempt

variable {broker : Broker} {attempt next : Attempt} {tick : Tick} {reply : Answer} {outgoing : Frame.Outgoing}

/-- How far a stage is from the end.  Reading the reply has a time of its own, which begins after the wait. -/
def Stage.distance : Stage → Nat
  | .sending => 4
  | .waiting => 3
  | .reading _ => 1
  | .over _ => 0

/-- What is left for an attempt.  Each octet of the request is written, and taken by the helper later. -/
def remains (attempt : Attempt) : Nat :=
  attempt.stage.distance + 2 * attempt.outgoing.rest.length

/-- A pipe is flushed together with its last octet. -/
theorem unflushed_transmit (unflushed : outgoing.stage ≠ .flushing) (reply : Answer) :
    (transmit outgoing reply).stage ≠ .flushing := by
  cases reply with
  | wrote count =>
      generalize accepted : outgoing.accept count = later
      obtain ⟨taken, rest, stage⟩ := later
      rw [transmit, accepted]
      cases stage <;> simp [Frame.Outgoing.flushed]
  | failed error =>
      rw [transmit, Frame.Outgoing.refuse]
      split
      · split
        · exact unflushed
        · simp
      · exact unflushed
  | _ => exact unflushed

/-- A step changes the frame only by what it learns of it. -/
theorem outgoing_step (broker : Broker) (attempt : Attempt) (tick : Tick) :
    (attempt.step broker tick).outgoing = attempt.outgoing ∨
      (attempt.step broker tick).outgoing = transmit attempt.outgoing tick.answer := by
  rcases step_cases broker attempt tick with ⟨-, -, stepped⟩ | ⟨-, goes⟩
  · rw [stepped]
    exact .inl rfl
  · generalize attempt.step broker tick = next at goes
    cases goes with
    | sent _ _ =>
        refine .inr ?_
        unfold sent
        split <;> rfl
    | unsent _ _ => exact .inr rfl
    | writes _ _ _ => exact .inr rfl
    | exited _ _ =>
        refine .inl ?_
        unfold helperExited
        dsimp only
        split <;> rfl
    | _ => exact .inl rfl

theorem unflushed_step (unflushed : attempt.outgoing.stage ≠ .flushing) (tick : Tick) :
    (attempt.step broker tick).outgoing.stage ≠ .flushing := by
  rcases outgoing_step broker attempt tick with same | transmitted
  · rwa [same]
  · rw [transmitted]
    exact unflushed_transmit unflushed tick.answer

theorem unflushed_launched (mode : Mode) (payload : List UInt8) :
    (launched mode payload).outgoing.stage ≠ .flushing := by
  by_cases oversized : Frame.maxSize < payload.length
  · rw [launched_oversized oversized]
    simp
  · have outgoing : (launched mode payload).outgoing = .after [] (Frame.octets payload) :=
      Frame.Outgoing.start_of_small (Nat.le_of_not_lt oversized)
    rw [outgoing, Frame.Outgoing.stage_after (by simp [Frame.octets, Frame.lengthOctets])]
    simp

theorem remains_of_sending (stage : attempt.stage = .sending) :
    attempt.remains = 4 + 2 * attempt.outgoing.rest.length := by
  rw [remains, stage]
  rfl

theorem remains_finish (attempt : Attempt) (ending : Ending) :
    (attempt.finish ending).remains = 2 * attempt.outgoing.rest.length :=
  Nat.zero_add _

theorem remains_sent_le (attempt : Attempt) : attempt.sent.remains ≤ 3 + 2 * attempt.outgoing.rest.length := by
  unfold sent
  split
  · exact Nat.le_refl _
  · rw [remains_finish]
    exact Nat.le_add_left _ _

theorem distance_pos (unended : attempt.ending? = none) : 0 < attempt.stage.distance := by
  cases stage : attempt.stage with
  | sending => exact Nat.succ_pos _
  | waiting => exact Nat.succ_pos _
  | reading incoming => exact Nat.succ_pos _
  | _ => simp [ending?, stage] at unended

/-- What ends an attempt leaves nothing to do but what is left of the frame, even if it waited. -/
theorem remains_lt_of_ended (unended : attempt.ending? = none) (ended : next.ending? ≠ none)
    (outgoing : next.outgoing = attempt.outgoing) :
    next.remains < attempt.remains ∧ (attempt.stage = .waiting → next.remains + 1 < attempt.remains) := by
  have last : next.stage.distance = 0 := by
    unfold ending? at ended
    split at ended
    · rename_i stage
      rw [stage]
      rfl
    · contradiction
  have first := distance_pos unended
  rw [remains, remains, outgoing, last]
  refine ⟨by omega, fun waiting => ?_⟩
  rw [waiting, Stage.distance]
  omega

/-- A frame that is not written to its end and not given up is still being written. -/
theorem writing_of_open (unflushed : outgoing.stage ≠ .flushing) (unfinished : outgoing.stage ≠ .finished)
    (unfailed : ∀ error, outgoing.stage ≠ .failed error) : outgoing.stage = .writing := by
  cases stage : outgoing.stage with
  | writing => rfl
  | flushing => exact absurd stage unflushed
  | finished => exact absurd stage unfinished
  | failed error => exact absurd stage (unfailed error)

/-- A step of sending leaves the stage, or what is left of the frame is still being written. -/
theorem Goes.remains_sending (goes : Goes broker attempt tick next) (stage : attempt.stage = .sending)
    (unflushed : attempt.outgoing.stage ≠ .flushing) :
    next.remains ≤ 3 + 2 * (transmit attempt.outgoing tick.answer).rest.length ∨
      (transmit attempt.outgoing tick.answer).stage = .writing ∧
        next.remains = 4 + 2 * (transmit attempt.outgoing tick.answer).rest.length := by
  cases goes with
  | sent _ _ => exact .inl (remains_sent_le _)
  | unsent _ _ =>
      refine .inl ?_
      rw [fail, remains_finish]
      exact Nat.le_add_left _ _
  | writes _ unfinished unfailed =>
      refine .inr ⟨writing_of_open (unflushed_transmit unflushed _) unfinished unfailed, ?_⟩
      rw [remains, transmitted, stage]
      rfl
  | late _ timedOut =>
      refine .inl ?_
      rw [answer_of_timedOut timedOut, expire, fail, remains_finish]
      exact Nat.le_add_left _ _
  | _ => simp_all

/-- An attempt that makes no call goes on by itself: its frame is sent, or was too large. -/
theorem remains_uncalled_lt (unended : attempt.ending? = none) (unflushed : attempt.outgoing.stage ≠ .flushing)
    (uncalled : attempt.call? = none) (calm : (tick.cancelled && attempt.heedsCancellation) = false)
    (pending : tick.answer = .pending) :
    (attempt.step broker tick).remains < attempt.remains ∧ attempt.stage ≠ .waiting := by
  cases stage : attempt.stage with
  | waiting => simp [call?, stage] at uncalled
  | reading incoming => simp [call?, stage] at uncalled
  | sending =>
      refine ⟨?_, by simp⟩
      obtain ⟨fired, heeds, -⟩ | ⟨-, goes⟩ := step_cases broker attempt tick
      · simp [fired, heeds] at calm
      · have same : transmit attempt.outgoing tick.answer = attempt.outgoing := by rw [pending]; rfl
        have left := goes.remains_sending stage unflushed
        rw [same] at left
        rcases left with fewer | ⟨writing, -⟩
        · rw [remains_of_sending stage]
          omega
        · simp [call?, stage, writing] at uncalled
  | _ => simp [ending?, stage] at unended

end Attempt

/-- A caller who waits for a mark can still cancel. -/
def Cancellation.outstanding : Cancellation → Nat
  | .onceReached _ => 1
  | _ => 0

namespace Exchange

variable {broker : Broker} {exchange next : Exchange} {attempt : Attempt} {helper later : Helper} {reply : Answer}
  {call : Call} {now fuel : Nat} {expired : Bool}

/-! ### Answers -/

theorem length_offered_le (outgoing : Frame.Outgoing) : outgoing.offered.length ≤ outgoing.rest.length := by
  unfold Frame.Outgoing.offered
  split
  · exact Nat.le_refl _
  · exact List.length_take_le' _ _

theorem rest_transmit_wrote {outgoing : Frame.Outgoing} (writing : outgoing.stage = .writing) (count : Nat) :
    (transmit outgoing (.wrote count)).rest = outgoing.rest.drop count := by
  have kept (outgoing : Frame.Outgoing) : (outgoing.flushed none).rest = outgoing.rest := by
    unfold Frame.Outgoing.flushed
    split <;> rfl
  rw [transmit, kept]
  unfold Frame.Outgoing.accept
  rw [writing]
  cases count with
  | zero => rfl
  | succ count => rfl

theorem transmit_nothing {outgoing : Frame.Outgoing} (writing : outgoing.stage = .writing) :
    (transmit outgoing (.wrote 0)).stage ≠ .writing := by
  simp [transmit, Frame.Outgoing.accept, writing, Frame.Outgoing.flushed]

/-- What a pipe takes of a frame was left of it before, and a frame that is still written has lost something. -/
theorem remains_write_le (now : Nat) {outgoing : Frame.Outgoing} (writing : outgoing.stage = .writing)
    (answered : answer helper (.write outgoing.offered) = (reply, later)) (come : reply ≠ .pending) :
    2 * (transmit outgoing reply).rest.length + later.remains now ≤ 2 * outgoing.rest.length + helper.remains now ∧
      ((transmit outgoing reply).stage = .writing →
        2 * (transmit outgoing reply).rest.length + later.remains now <
          2 * outgoing.rest.length + helper.remains now) := by
  by_cases reader : helper.input.hasReader = true
  · by_cases full : helper.input.room = 0
    · simp only [answer, Pipe.write, reader, full, Bool.not_true, Bool.false_eq_true, if_false, if_true,
        Prod.mk.injEq] at answered
      exact absurd answered.1.symm come
    · simp only [answer, Pipe.write, reader, full, Bool.not_true, Bool.false_eq_true, if_false, Prod.mk.injEq] at answered
      obtain ⟨rfl, rfl⟩ := answered
      have few := length_offered_le outgoing
      generalize taken : min helper.input.room outgoing.offered.length = count
      have within : count ≤ outgoing.rest.length := by omega
      rw [rest_transmit_wrote writing, List.length_drop]
      simp only [Helper.remains, List.length_append, List.length_take, taken]
      refine ⟨by omega, fun still => ?_⟩
      have positive : count ≠ 0 := by
        intro nothing
        subst nothing
        exact transmit_nothing writing still
      omega
  · simp only [answer, Pipe.write, reader, Bool.not_false, if_true, Prod.mk.injEq] at answered
    obtain ⟨rfl, rfl⟩ := answered
    have refused : transmit outgoing (.failed .noReader) = { outgoing with stage := .failed (.io .noReader) } := by
      rw [transmit, Frame.Outgoing.refuse, writing]
      rfl
    rw [refused]
    exact ⟨Nat.le_refl _, fun still => by contradiction⟩

/-- Less is left after an answer, and after a wait so much less that reading can have a time of its own. -/
structure Nearer (attempt : Attempt) (helper : Helper) (now : Nat) (next : Attempt) (later : Helper) : Prop where
  less : next.remains + later.remains now < attempt.remains + helper.remains now
  afterWait : attempt.stage = .waiting → next.remains + later.remains now + 1 < attempt.remains + helper.remains now

theorem nearer_sending (stage : attempt.stage = .sending) (unflushed : attempt.outgoing.stage ≠ .flushing)
    (called : attempt.call? = some call) (answered : answer helper call = (reply, later)) (come : reply ≠ .pending) :
    Nearer attempt helper now (attempt.step broker ⟨false, reply, expired⟩) later := by
  have writing : attempt.outgoing.stage = .writing ∧ call = .write attempt.outgoing.offered := by
    rw [call?, stage] at called
    dsimp only at called
    split at called
    · rename_i writing
      cases called
      exact ⟨writing, rfl⟩
    · contradiction
  obtain ⟨writing, rfl⟩ := writing
  obtain ⟨fewer, strictly⟩ := remains_write_le now writing answered come
  obtain ⟨fired, -⟩ | ⟨-, goes⟩ := step_cases broker attempt ⟨false, reply, expired⟩
  · contradiction
  · refine ⟨?_, fun waiting => by simp [stage] at waiting⟩
    rw [remains_of_sending stage]
    rcases goes.remains_sending stage unflushed with past | ⟨still, left⟩
    · dsimp only at past
      omega
    · have less := strictly still
      dsimp only at left
      omega

theorem nearer_waiting (stage : attempt.stage = .waiting) (answered : answer helper .wait = (reply, later))
    (come : reply ≠ .pending) : Nearer attempt helper now (attempt.step broker ⟨false, reply, expired⟩) later := by
  cases exited : helper.status with
  | none =>
      simp only [answer, exited, Prod.mk.injEq] at answered
      exact absurd answered.1.symm come
  | some status =>
      simp only [answer, exited, Prod.mk.injEq] at answered
      obtain ⟨rfl, rfl⟩ := answered
      have near : (attempt.step broker ⟨false, .exited status, expired⟩).remains ≤
          1 + 2 * attempt.outgoing.rest.length := by
        rw [step_of_waiting rfl stage]
        unfold stepWaiting helperExited
        dsimp only
        split
        · exact Nat.le_refl _
        · rw [fail, remains_finish]
          exact Nat.le_add_left _ _
      have far : attempt.remains = 3 + 2 * attempt.outgoing.rest.length := by
        rw [remains, stage]
        rfl
      exact ⟨by omega, fun _ => by omega⟩

theorem exists_close (incoming : Frame.Incoming) : ∃ result, incoming.close = .ended result := by
  unfold Frame.Incoming.close
  split <;> exact ⟨_, rfl⟩

theorem nearer_reading {incoming : Frame.Incoming} {most : Nat} (stage : attempt.stage = .reading incoming)
    (answered : answer helper (.read most) = (reply, later)) (come : reply ≠ .pending) :
    Nearer attempt helper now (attempt.step broker ⟨false, reply, expired⟩) later := by
  cases read : helper.output.read most with
  | none =>
      simp only [answer, read, Prod.mk.injEq] at answered
      exact absurd answered.1.symm come
  | some found =>
      obtain ⟨octets, output⟩ := found
      simp only [answer, read, Prod.mk.injEq] at answered
      obtain ⟨rfl, rfl⟩ := answered
      have fewer := Helper.read_length read
      have far : attempt.remains = 1 + 2 * attempt.outgoing.rest.length := by
        rw [remains, stage]
        rfl
      obtain ⟨fired, -⟩ | ⟨-, goes⟩ := step_cases broker attempt ⟨false, .received octets, expired⟩
      · contradiction
      · refine ⟨?_, fun waiting => by simp [stage] at waiting⟩
        generalize attempt.step broker ⟨false, .received octets, expired⟩ = next at goes
        cases goes with
        | replied _ _ =>
            rw [remains_finish, far]
            simp only [Helper.remains]
            omega
        | @reads incoming _ unended =>
            have taken : octets ≠ [] := by
              rintro rfl
              obtain ⟨result, closed⟩ := exists_close incoming
              exact unended result closed
            have positive := List.length_pos_iff.mpr taken
            have near : ({ attempt with stage := .reading (absorb incoming (.received octets)) } : Attempt).remains =
              1 + 2 * attempt.outgoing.rest.length := rfl
            rw [near, far]
            simp only [Helper.remains]
            omega
        | late _ timedOut => exact absurd (answer_of_timedOut timedOut) come
        | _ => simp_all

/-- Whatever an attempt is answered, it comes nearer to its end. -/
theorem nearer_answered (unflushed : attempt.outgoing.stage ≠ .flushing) (called : attempt.call? = some call)
    (answered : answer helper call = (reply, later)) (come : reply ≠ .pending) :
    Nearer attempt helper now (attempt.step broker ⟨false, reply, expired⟩) later := by
  cases stage : attempt.stage with
  | sending => exact nearer_sending stage unflushed called answered come
  | waiting =>
      simp only [call?, stage, Option.some.injEq] at called
      exact nearer_waiting stage (called ▸ answered) come
  | reading incoming =>
      simp only [call?, stage, Option.some.injEq] at called
      exact nearer_reading stage (called ▸ answered) come
  | _ => simp [call?, stage] at called

theorem nearer_of_ended (unended : attempt.ending? = none) {tick : Tick} (pending : tick.answer = .pending)
    (ended : (attempt.step broker tick).ending? ≠ none) :
    Nearer attempt helper now (attempt.step broker tick) helper := by
  have same : (attempt.step broker tick).outgoing = attempt.outgoing := by
    rcases outgoing_step broker attempt tick with same | transmitted
    · exact same
    · rw [transmitted, pending]
      rfl
  obtain ⟨less, afterWait⟩ := remains_lt_of_ended unended ended same
  exact ⟨Nat.add_lt_add_right less _, fun waiting => by have := afterWait waiting; omega⟩

/-! ### Steps -/

/-- What is left for both sides, and to come with time. -/
def remains (exchange : Exchange) : Nat :=
  exchange.attempt.remains + exchange.helper.remains exchange.clock + exchange.cancellation.outstanding +
    if exchange.clock < exchange.deadline then 1 else 0

/-- What holds throughout an exchange, so that nothing keeps it from going on. -/
structure Sound (exchange : Exchange) : Prop where
  unflushed : exchange.attempt.outgoing.stage ≠ .flushing
  prompt : exchange.helper.Prompt exchange.clock

theorem remains_follow_lt (nearer : Nearer exchange.attempt exchange.helper exchange.clock attempt later) :
    ({ exchange with helper := later }.follow broker attempt).remains < exchange.remains := by
  obtain ⟨less, afterWait⟩ := nearer
  unfold follow
  split
  · have same : ({ later with input := later.input.closeWriter } : Helper).remains exchange.clock =
        later.remains exchange.clock := rfl
    simp only [remains, same]
    omega
  · rename_i incoming waiting _
    have leap := afterWait waiting
    simp only [remains]
    split_ifs <;> omega
  · simp only [remains]
    omega

theorem nearer_occasion (sound : exchange.Sound) (unended : exchange.attempt.ending? = none)
    (occasion : Occasion exchange reply later) : Nearer exchange.attempt exchange.helper exchange.clock
      (exchange.attempt.step broker (exchange.tick reply)) later := by
  have ended (fired : (exchange.cancelled && exchange.attempt.heedsCancellation) = true) :
      (exchange.attempt.step broker (exchange.tick .pending)).ending? ≠ none := by
    rw [step_cancelled fired (Bool.and_eq_true_iff.mp fired).2]
    simp [fail, finish, ending?]
  cases occasion with
  | cancelled fired => exact nearer_of_ended unended rfl (ended fired)
  | uncalled uncalled =>
      cases fired : exchange.cancelled && exchange.attempt.heedsCancellation with
      | true => exact nearer_of_ended unended rfl (ended fired)
      | false =>
          have calm : ((exchange.tick .pending).cancelled && exchange.attempt.heedsCancellation) = false := by
            rw [tick, fired]
            rfl
          obtain ⟨less, unwaited⟩ := remains_uncalled_lt unended sound.unflushed uncalled calm rfl
          exact ⟨Nat.add_lt_add_right less _, fun waiting => absurd waiting unwaited⟩
  | @late call called pending expired =>
      have learnt : exchange.tick .pending =
          ⟨exchange.cancelled && exchange.attempt.heedsCancellation, .pending, true⟩ := by
        rw [tick, decide_eq_true expired]
      have unsent : exchange.attempt.stage = .sending → exchange.attempt.outgoing.stage ≠ .finished := by
        intro sending finished
        simp [call?, sending, finished] at called
      refine nearer_of_ended unended rfl ?_
      rw [learnt]
      exact ending?_step_late _ unsent
  | answered called calm answered come =>
      have learnt : exchange.tick reply = ⟨false, reply, exchange.deadline ≤ exchange.clock⟩ := by
        rw [tick, calm]
      rw [learnt]
      exact nearer_answered sound.unflushed called answered come

/-- Time passes until the next alarm of the helper, or until the deadline when that is earlier. -/
theorem exists_clock (passed : exchange.passTime = some next) : ∃ clock, exchange.clock < clock ∧
    next = { exchange with clock, helper := exchange.helper.elapse clock } ∧
      (clock = exchange.deadline ∨
        exchange.helper.alarm? exchange.clock = some clock ∧ clock ≤ exchange.deadline) := by
  unfold passTime at passed
  dsimp only at passed
  cases set : exchange.helper.alarm? exchange.clock with
  | none =>
      simp only [set, Option.ite_none_right_eq_some, Option.some.injEq] at passed
      exact ⟨_, passed.1, passed.2.symm, .inl rfl⟩
  | some alarm =>
      simp only [set, Option.ite_none_right_eq_some, Option.some.injEq] at passed
      refine ⟨_, passed.1, passed.2.symm, ?_⟩
      rcases Nat.le_total alarm exchange.deadline with first | first
      · rw [Nat.min_eq_left first]
        exact .inr ⟨rfl, first⟩
      · exact .inl (Nat.min_eq_right first)

theorem remains_passTime_lt (sound : exchange.Sound) (passed : exchange.passTime = some next) :
    next.remains < exchange.remains := by
  obtain ⟨clock, later, rfl, due | ⟨set, inTime⟩⟩ := exists_clock passed
  · have fewer : (exchange.helper.elapse clock).remains clock ≤ exchange.helper.remains exchange.clock :=
      Helper.remains_elapse_le (Nat.le_of_lt later)
    rw [due] at later
    simp only [remains, due, if_pos later, Nat.lt_irrefl, if_false]
    rw [due] at fewer
    omega
  · have fewer := Helper.remains_elapse_lt sound.prompt set
    simp only [remains, if_pos (Nat.lt_of_lt_of_le later inTime)]
    split_ifs <;> omega

theorem remains_timeStep_lt (sound : exchange.Sound) (stepped : exchange.timeStep = some next) :
    next.remains < exchange.remains := by
  unfold timeStep at stepped
  split at stepped
  · rename_i reached
    cases stepped
    unfold markReached at reached
    split at reached
    · rename_i waits
      simp only [remains, waits, Cancellation.outstanding]
      omega
    · contradiction
  · exact remains_passTime_lt sound stepped

theorem remains_step_lt (sound : exchange.Sound) (stepped : exchange.step broker = some next) :
    next.remains < exchange.remains := by
  unfold step at stepped
  split at stepped
  · rename_i advanced
    cases stepped
    obtain ⟨unended, reply, later, occasion, rfl⟩ := exists_occasion advanced
    exact remains_follow_lt (nearer_occasion sound unended occasion)
  · split at stepped
    · rename_i helped
      cases stepped
      obtain ⟨later, moved, rfl⟩ := Option.map_eq_some_iff.mp helped
      have less := Helper.remains_step_lt moved
      simp only [remains]
      omega
    · exact remains_timeStep_lt sound stepped

/-! ### Runs -/

theorem sound_start (broker : Broker) (mode : Mode) (payload : List UInt8) (script : List Helper.Action)
    (capacity : Nat) (cancellation : Cancellation) :
    (start broker mode payload script capacity cancellation).Sound :=
  ⟨unflushed_launched mode payload, fun held holding => by contradiction⟩

theorem Occasion.outputHeld (occasion : Occasion exchange reply later) :
    later.outputHeld = exchange.helper.outputHeld := by
  cases occasion with
  | @answered call _ _ _ _ answered _ =>
      have same : (answer exchange.helper call).2.outputHeld = exchange.helper.outputHeld := by
        unfold answer
        split <;> split <;> rfl
      rwa [answered] at same
  | _ => rfl

theorem Sound.step (sound : exchange.Sound) (stepped : exchange.step broker = some next) : next.Sound := by
  obtain ⟨unflushed, prompt⟩ := sound
  unfold Exchange.step at stepped
  split at stepped
  · rename_i advanced
    cases stepped
    obtain ⟨-, reply, later, occasion, rfl⟩ := exists_occasion advanced
    refine ⟨?_, ?_⟩
    · rw [follow_attempt]
      exact unflushed_step unflushed _
    · obtain ⟨input, deadline, followed⟩ := exists_follow broker { exchange with helper := later }
        (exchange.attempt.step broker (exchange.tick reply))
      rw [followed]
      exact fun held holding => prompt held (occasion.outputHeld ▸ holding)
  · split at stepped
    · rename_i helped
      cases stepped
      obtain ⟨later, moved, rfl⟩ := Option.map_eq_some_iff.mp helped
      exact ⟨unflushed, prompt.step moved⟩
    · unfold timeStep at stepped
      split at stepped
      · cases stepped
        exact ⟨unflushed, prompt⟩
      · obtain ⟨clock, -, rfl, -⟩ := exists_clock stepped
        exact ⟨unflushed, Helper.prompt_elapse exchange.helper clock⟩

/-- An attempt that cannot go on is waiting for an answer, and has time left for it. -/
theorem inTime_of_idle (unended : exchange.attempt.ending? = none) (idle : exchange.attemptStep broker = none) :
    exchange.clock < exchange.deadline := by
  unfold attemptStep at idle
  dsimp only at idle
  split at idle
  · rename_i ended
    simp [unended] at ended
  · contradiction
  · split at idle
    · contradiction
    · split at idle
      · split at idle
        · contradiction
        · rename_i early
          exact Nat.lt_of_not_le early
      · contradiction

theorem exists_passTime (prompt : exchange.helper.Prompt exchange.clock)
    (inTime : exchange.clock < exchange.deadline) : ∃ next, exchange.passTime = some next := by
  unfold passTime
  cases set : exchange.helper.alarm? exchange.clock with
  | none => exact ⟨_, if_pos inTime⟩
  | some alarm => exact ⟨_, if_pos (Nat.lt_min.mpr ⟨prompt.lt_alarm set, inTime⟩)⟩

/-- Until its attempt is over an exchange can go on. -/
theorem Sound.exists_step (sound : exchange.Sound) (unended : exchange.attempt.ending? = none) :
    ∃ next, exchange.step broker = some next := by
  unfold Exchange.step
  cases idle : exchange.attemptStep broker with
  | some next => exact ⟨next, rfl⟩
  | none =>
      cases exchange.helperStep with
      | some next => exact ⟨next, rfl⟩
      | none =>
          obtain ⟨next, passed⟩ := exists_passTime sound.prompt (inTime_of_idle unended idle)
          simp only [timeStep, passed]
          split
          · exact ⟨_, rfl⟩
          · exact ⟨next, rfl⟩

/-- As many steps as there is left to do are enough. -/
theorem Sound.run_over (sound : exchange.Sound) (enough : exchange.remains ≤ fuel) :
    (exchange.run broker fuel).attempt.ending? ≠ none := by
  induction fuel generalizing exchange with
  | zero =>
      intro unended
      have left : 0 < exchange.attempt.stage.distance := distance_pos unended
      simp only [remains, Attempt.remains] at enough
      omega
  | succ fuel ih =>
      unfold run
      split
      · rename_i ending ended
        simp [ended]
      · rename_i unended
        obtain ⟨next, stepped⟩ : ∃ next, exchange.step broker = some next := sound.exists_step unended
        rw [stepped]
        have less := remains_step_lt sound stepped
        exact ih (sound.step stepped) (by omega)

theorem remains_start_le (broker : Broker) (mode : Mode) (payload : List UInt8) (script : List Helper.Action)
    (capacity : Nat) (cancellation : Cancellation) :
    (start broker mode payload script capacity cancellation).remains ≤
      (start broker mode payload script capacity cancellation).effort := by
  have burden := Helper.burden_le_effort (.start script capacity (mode == .probe))
  have once : cancellation.outstanding ≤ 1 := by
    cases cancellation <;> exact Nat.le_add_left _ _
  have begun : (start broker mode payload script capacity cancellation).remains =
      4 + 2 * (launched mode payload).outgoing.rest.length + (Helper.burden script + 1) + cancellation.outstanding +
        if 0 < sendTime broker.config mode then 1 else 0 := rfl
  have effort : (start broker mode payload script capacity cancellation).effort =
      2 * (launched mode payload).outgoing.rest.length +
        2 * (Helper.start script capacity (mode == .probe)).effort + 16 := rfl
  rw [begun, effort]
  simp only [Helper.start] at burden ⊢
  split_ifs <;> omega

/-- An exchange that is worked through has ended, whatever the helper does and whenever the caller cancels. -/
theorem complete_over (broker : Broker) (mode : Mode) (payload : List UInt8) (script : List Helper.Action)
    (capacity : Nat) (cancellation : Cancellation) :
    ((start broker mode payload script capacity cancellation).complete broker).attempt.ending? ≠ none :=
  (sound_start broker mode payload script capacity cancellation).run_over
    (remains_start_le broker mode payload script capacity cancellation)

end Exchange

/-- What a broker returns is over, with its helper launched or not. -/
theorem Broker.attempt_over (broker : Broker) (surroundings : Surroundings) (request : Request)
    (script : List Helper.Action) (cancellation : Cancellation) :
    (broker.attempt surroundings request script cancellation).attempt.ending? ≠ none := by
  have complete := Exchange.complete_over broker request.mode request.encode script Pipe.usualCapacity cancellation
  unfold Broker.attempt
  dsimp only
  split
  · unfold unlaunched
    split <;> simp [fail, finish, ending?]
  · split
    · exact complete
    · rw [Exchange.dismiss, ending?_dismiss]
      exact complete

end AuthBroker
