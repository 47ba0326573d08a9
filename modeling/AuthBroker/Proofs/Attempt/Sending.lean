import AuthBroker.Proofs.Attempt.History
import AuthBroker.Proofs.Attempt.Service
import AuthBroker.Proofs.Child
import AuthBroker.Proofs.Frame.Torn

namespace AuthBroker.Attempt

open AuthBroker.Frame AuthBroker.Stream

/-! What an attempt puts on the input of its helper.

The octets that the system has taken and those that are left always make up the frame of the
request.  The request counts as sent when none are left, and whatever ends the attempt before
that leaves some behind.
-/

variable {broker : Broker} {mode : Mode} {attempt next : Attempt} {tick : Tick} {ticks : List Tick}
  {payload given rest : List UInt8} {answer : Answer} {error : Frame.Error} {state : Lifecycle}

/-- The octets that the system takes with its answer to a call. -/
def Call.portion (call : Call) (answer : Answer) : List UInt8 :=
  match call, answer with
  | .write offered, .wrote count => offered.take count
  | _, _ => []

/-- The octets that the system takes at a step.  A caller who cancels a probe comes before
its call. -/
def taken (attempt : Attempt) (tick : Tick) : List UInt8 :=
  if tick.cancelled && attempt.heedsCancellation then []
  else (attempt.call?.map fun call => call.portion tick.answer).getD []

/-- The octets that a run puts on the input of the helper. -/
def input (broker : Broker) : List Tick → Attempt → List UInt8
  | [], _ => []
  | tick :: ticks, attempt => attempt.taken tick ++ input broker ticks (attempt.step broker tick)

/-- Whether the system takes no more octets than it was offered. -/
def modest (attempt : Attempt) (tick : Tick) : Bool :=
  match attempt.call?, tick.answer with
  | some (.write offered), .wrote count => count ≤ offered.length
  | _, _ => true

def allModest (broker : Broker) : List Tick → Attempt → Bool
  | [], _ => true
  | tick :: ticks, attempt => attempt.modest tick && allModest broker ticks (attempt.step broker tick)

/-- The failures that cut a request off. -/
inductive CutsOff : Failure → Prop
  | cancelled : CutsOff .cancelled
  | timeout (after : Duration) : CutsOff (.timeout after)
  | io (error : IoError) : CutsOff (.io .writing error)

/-- How far an attempt has got with its frame, and what of it was taken. -/
inductive Sends (payload : List UInt8) : List UInt8 → Attempt → Prop
  | underway {given rest : List UInt8} {attempt : Attempt} (stage : attempt.stage = .sending)
      (outgoing : attempt.outgoing = .after given rest) (notEmpty : rest ≠ [])
      (frame : given ++ rest = octets payload) (unsent : .requestSent ∉ attempt.history) :
      Sends payload given attempt
  | cut {given rest : List UInt8} {attempt : Attempt} {failure : Failure}
      (ended : attempt.ending? = some (.failed failure)) (cause : CutsOff failure) (notEmpty : rest ≠ [])
      (frame : given ++ rest = octets payload) (unsent : .requestSent ∉ attempt.history) :
      Sends payload given attempt
  | complete {attempt : Attempt} (past : attempt.stage ≠ .sending) (sent : .requestSent ∈ attempt.history) :
      Sends payload (octets payload) attempt

theorem input_append (first second : List Tick) (attempt : Attempt) : input broker (first ++ second) attempt =
    input broker first attempt ++ input broker second (attempt.follow broker first) := by
  induction first generalizing attempt with
  | nil => rfl
  | cons tick first ih => rw [List.cons_append, input, ih, input, List.append_assoc, follow_cons]

theorem allModest_append (first second : List Tick) (attempt : Attempt) :
    allModest broker (first ++ second) attempt =
      (allModest broker first attempt && allModest broker second (attempt.follow broker first)) := by
  induction first generalizing attempt with
  | nil => rfl
  | cons tick first ih => rw [List.cons_append, allModest, ih, allModest, Bool.and_assoc, follow_cons]

/-! ### Calls and answers -/

/-- A call offers the first of the octets that are left. -/
theorem exists_offered (given rest : List UInt8) :
    ∃ most, (Outgoing.after given rest).offered = rest.take most := by
  unfold Outgoing.offered
  split
  · exact ⟨rest.length, (List.take_length).symm⟩
  · exact ⟨_, rfl⟩

theorem take_offered {count : Nat} (few : count ≤ (Outgoing.after given rest).offered.length) :
    (Outgoing.after given rest).offered.take count = rest.take count := by
  obtain ⟨most, offered⟩ := exists_offered given rest
  rw [offered, List.length_take] at few
  rw [offered, List.take_take, Nat.min_eq_left (by omega)]

/-- What becomes of a frame with an answer. -/
inductive Transmits (given rest portion : List UInt8) : Outgoing → Prop
  | some {left : List UInt8} (notEmpty : left ≠ []) (split : portion ++ left = rest) :
      Transmits given rest portion (.after (given ++ portion) left)
  | all {outgoing : Outgoing} (everything : portion = rest) (finished : outgoing.stage = .finished) :
      Transmits given rest portion outgoing
  | none {outgoing : Outgoing} {error : IoError} (nothing : portion = [])
      (failed : outgoing.stage = .failed (.io error)) : Transmits given rest portion outgoing

theorem transmits (notEmpty : rest ≠ [])
    (few : ∀ count, answer = .wrote count → count ≤ (Outgoing.after given rest).offered.length) :
    Transmits given rest ((Call.write (Outgoing.after given rest).offered).portion answer)
      (transmit (.after given rest) answer) := by
  have unmoved : Transmits given rest [] (.after given rest) := by
    have same : Transmits given rest [] (.after (given ++ []) rest) := .some notEmpty (List.nil_append rest)
    rwa [List.append_nil] at same
  cases answer with
  | wrote count =>
      rw [Call.portion, take_offered (few count rfl)]
      cases count with
      | zero =>
          rw [transmit, Outgoing.accept_nothing given notEmpty]
          exact .none rfl rfl
      | succ count =>
          rw [transmit_wrote given notEmpty (Nat.succ_pos count)]
          split_ifs with complete
          · exact .all (List.take_of_length_le (List.drop_eq_nil_iff.mp complete)) rfl
          · exact .some complete (List.take_append_drop (count + 1) rest)
  | failed error =>
      cases interruption : error.isInterrupted with
      | true =>
          rw [transmit_interrupted notEmpty interruption]
          exact unmoved
      | false =>
          rw [transmit, Outgoing.refuse_after notEmpty, interruption, if_neg Bool.false_ne_true]
          exact .none rfl rfl
  | _ => exact unmoved

theorem taken_past (past : attempt.stage ≠ .sending) : attempt.taken tick = [] := by
  cases stage : attempt.stage with
  | sending => exact absurd stage past
  | _ => simp [taken, call?, stage, Call.portion]

theorem taken_pending (pending : tick.answer = .pending) : attempt.taken tick = [] := by
  have nothing (call : Call) : call.portion tick.answer = [] := by
    rw [pending]
    cases call <;> rfl
  rw [taken]
  split
  · rfl
  · cases attempt.call? with
    | none => rfl
    | some call => exact nothing call

theorem modest_pending (pending : tick.answer = .pending) : attempt.modest tick = true := by
  unfold modest
  split
  · rename_i wrote
    rw [pending] at wrote
    contradiction
  · rfl

theorem taken_cancelled (fired : tick.cancelled = true) (heeds : attempt.heedsCancellation = true) :
    attempt.taken tick = [] := by
  rw [taken, fired, heeds]
  rfl

theorem call?_after (stage : attempt.stage = .sending) (outgoing : attempt.outgoing = .after given rest)
    (notEmpty : rest ≠ []) : attempt.call? = some (.write (Outgoing.after given rest).offered) := by
  rw [call?, stage, outgoing, Outgoing.stage_after notEmpty]

theorem taken_after (stage : attempt.stage = .sending) (outgoing : attempt.outgoing = .after given rest)
    (notEmpty : rest ≠ []) (calm : (tick.cancelled && attempt.heedsCancellation) = false) :
    attempt.taken tick = (Call.write (Outgoing.after given rest).offered).portion tick.answer := by
  rw [taken, calm, if_neg Bool.false_ne_true, call?_after stage outgoing notEmpty]
  rfl

/-! ### States that were gone through -/

theorem history_of_log (log : next.log = attempt.log) : next.history = attempt.history := by
  rw [history, moves, log]
  rfl

theorem mem_history_finish (ending : Ending) (gone : state ∈ attempt.history) :
    state ∈ (attempt.finish ending).history := by
  rw [history_finish]
  exact List.mem_append_left _ gone

theorem unsent_fail {failure : Failure} (unsent : .requestSent ∉ attempt.history) :
    .requestSent ∉ (attempt.fail failure).history := by
  rw [fail, history_finish, List.mem_append, List.mem_singleton]
  rintro (sent | last)
  · exact unsent sent
  · cases failure <;> contradiction

theorem past_sent (attempt : Attempt) :
    attempt.sent.stage ≠ .sending ∧ .requestSent ∈ attempt.sent.history := by
  have requested : .requestSent ∈ (attempt.advance .requestSent).history := by
    rw [history_advance]
    exact List.mem_append_right _ (List.mem_singleton_self _)
  unfold sent
  split
  · refine ⟨by simp, ?_⟩
    have awaiting : .requestSent ∈ ((attempt.advance .requestSent).advance .awaitingExit).history := by
      rw [history_advance]
      exact List.mem_append_left _ requested
    exact awaiting
  · exact ⟨by simp [finish], mem_history_finish _ requested⟩

/-- An attempt that has done with its frame does not come back to it. -/
theorem past_step (past : attempt.stage ≠ .sending) (gone : state ∈ attempt.history) :
    (attempt.step broker tick).stage ≠ .sending ∧ state ∈ (attempt.step broker tick).history := by
  rcases step_cases broker attempt tick with ⟨-, -, stepped⟩ | ⟨-, goes⟩
  · rw [stepped]
    exact ⟨by simp [fail, finish], mem_history_finish _ gone⟩
  · generalize attempt.step broker tick = next at goes
    cases goes with
    | sent stage _ => contradiction
    | unsent stage _ => contradiction
    | writes stage _ _ => contradiction
    | waits _ => exact ⟨past, gone⟩
    | ended _ => exact ⟨past, gone⟩
    | reads _ _ => exact ⟨by simp, gone⟩
    | replied _ _ => exact ⟨by simp [finish], mem_history_finish _ gone⟩
    | late _ _ => exact ⟨by simp [expire, fail, finish], mem_history_finish _ gone⟩
    | unwatched _ _ => exact ⟨by simp [fail, finish], mem_history_finish _ gone⟩
    | @exited status _ _ =>
        have noted : state ∈ ((attempt.await (.ok status)).note (.helperExited status)).history := by
          rw [history_note _ rfl]
          exact gone
        unfold helperExited
        dsimp only
        split
        · exact ⟨by simp, noted⟩
        · exact ⟨by simp [fail, finish], mem_history_finish _ noted⟩

/-! ### Runs -/

theorem sends_launched (mode : Mode) (small : payload.length ≤ maxSize) :
    Sends payload [] (launched mode payload) := by
  have begun : (launched mode payload).history = [.notStarted, .launched] := rfl
  refine .underway rfl (Outgoing.start_of_small small) ?_ rfl ?_
  · rw [← List.length_pos_iff, length_octets]
    exact Nat.add_pos_left (by decide) _
  · rw [begun]
    decide

theorem Sends.fail {failure : Failure} (notEmpty : rest ≠ []) (frame : given ++ rest = octets payload)
    (unsent : .requestSent ∉ attempt.history) (cause : CutsOff failure) :
    Sends payload given (attempt.fail failure) :=
  .cut rfl cause notEmpty frame (unsent_fail unsent)

/-- While it is sending, an attempt goes on with its frame, has sent it or is cut off. -/
theorem Goes.sends {call : Call} (goes : Goes broker attempt tick next) (stage : attempt.stage = .sending)
    (becomes : Transmits given rest (call.portion tick.answer) (transmit attempt.outgoing tick.answer))
    (notEmpty : rest ≠ []) (frame : given ++ rest = octets payload)
    (unsent : .requestSent ∉ attempt.history) : Sends payload (given ++ call.portion tick.answer) next := by
  cases goes with
  | sent _ finished =>
      generalize transmit attempt.outgoing tick.answer = outgoing at becomes finished
      cases becomes with
      | some left _ => simp [Outgoing.stage_after left] at finished
      | none _ failed => simp [failed] at finished
      | all everything _ =>
          rw [everything, frame]
          exact .complete (past_sent _).1 (past_sent _).2
  | unsent _ failed =>
      generalize transmit attempt.outgoing tick.answer = outgoing at becomes failed
      cases becomes with
      | some left _ => simp [Outgoing.stage_after left] at failed
      | all _ finished => simp [failed] at finished
      | none nothing refused =>
          rw [failed] at refused
          cases refused
          rw [nothing, List.append_nil]
          exact .fail notEmpty frame (history_of_log rfl ▸ unsent) (.io _)
  | writes _ unfinished unfailed =>
      generalize remains : transmit attempt.outgoing tick.answer = outgoing at becomes unfinished unfailed
      cases becomes with
      | all _ finished => exact absurd finished unfinished
      | none _ failed => exact absurd failed (unfailed _)
      | some left split =>
          refine .underway stage remains left ?_ unsent
          rw [List.append_assoc, split, frame]
  | late _ timedOut =>
      have nothing : call.portion tick.answer = [] := by
        rw [answer_of_timedOut timedOut]
        cases call <;> rfl
      rw [nothing, List.append_nil]
      exact .fail notEmpty frame unsent (.timeout _)
  | _ => simp_all

theorem Sends.step (sends : Sends payload given attempt) (modest : attempt.modest tick = true) :
    Sends payload (given ++ attempt.taken tick) (attempt.step broker tick) := by
  cases sends with
  | cut ended cause notEmpty frame unsent =>
      have past : attempt.stage ≠ .sending := by simp [stage_of_ending? ended]
      rw [taken_past past, List.append_nil, step_over ended]
      exact .cut ended cause notEmpty frame unsent
  | complete past sent =>
      rw [taken_past past, List.append_nil]
      exact .complete (past_step past sent).1 (past_step past sent).2
  | @underway _ rest _ stage outgoing notEmpty frame unsent =>
      have few : ∀ count, tick.answer = .wrote count → count ≤ (Outgoing.after given rest).offered.length := by
        intro count wrote
        simpa [Attempt.modest, call?_after stage outgoing notEmpty, wrote] using modest
      rcases step_cases broker attempt tick with ⟨fired, heeds, stepped⟩ | ⟨calm, goes⟩
      · rw [taken_cancelled fired heeds, List.append_nil, stepped]
        exact .fail notEmpty frame unsent .cancelled
      · rw [taken_after stage outgoing notEmpty calm]
        exact goes.sends stage (outgoing ▸ transmits notEmpty few) notEmpty frame unsent

theorem Sends.follow (sends : Sends payload given attempt) (modest : allModest broker ticks attempt = true) :
    Sends payload (given ++ input broker ticks attempt) (attempt.follow broker ticks) := by
  -- what was taken before the run is general, so that each step adds to it
  induction ticks generalizing given attempt with
  | nil =>
      rw [input, List.append_nil]
      exact sends
  | cons tick ticks ih =>
      obtain ⟨first, others⟩ := Bool.and_eq_true_iff.mp modest
      rw [input, ← List.append_assoc]
      exact ih (sends.step first) others

theorem Sends.eq_of_sent (sends : Sends payload given attempt) (sent : .requestSent ∈ attempt.history) :
    given = octets payload := by
  cases sends with
  | underway _ _ _ _ unsent => contradiction
  | cut _ _ _ _ unsent => contradiction
  | complete _ _ => rfl

theorem Sends.prefix_of_unsent (sends : Sends payload given attempt) (unsent : .requestSent ∉ attempt.history) :
    ∃ rest, rest ≠ [] ∧ given ++ rest = octets payload := by
  cases sends with
  | underway _ _ notEmpty frame _ => exact ⟨_, notEmpty, frame⟩
  | cut _ _ notEmpty frame _ => exact ⟨_, notEmpty, frame⟩
  | complete _ sent => contradiction

theorem Sends.cutsOff {ending : Ending} (sends : Sends payload given attempt)
    (unsent : .requestSent ∉ attempt.history) (ended : attempt.ending? = some ending) :
    ∃ failure, ending = .failed failure ∧ CutsOff failure := by
  cases sends with
  | underway stage _ _ _ _ => simp [ending?, stage] at ended
  | complete _ sent => contradiction
  | cut cut cause _ _ _ =>
      rw [cut] at ended
      cases ended
      exact ⟨_, rfl, cause⟩

/-- An attempt that has neither sent its frame nor ended offers what comes next of it. -/
theorem Sends.exists_offer (sends : Sends payload given attempt) (unsent : .requestSent ∉ attempt.history)
    (unended : attempt.ending? = none) :
    ∃ offered, offered ≠ [] ∧ attempt.call? = some (.write offered) ∧ given ++ offered <+: octets payload := by
  cases sends with
  | cut ended _ _ _ _ => simp [ended] at unended
  | complete _ sent => contradiction
  | @underway _ rest _ stage outgoing notEmpty frame _ =>
      obtain ⟨most, offered⟩ := exists_offered given rest
      refine ⟨_, Outgoing.offered_ne_nil given notEmpty, call?_after stage outgoing notEmpty, ?_⟩
      rw [← frame, List.prefix_append_right_inj, offered]
      exact List.take_prefix most rest

/-! ### Requests that are too large -/

/-- The failure of a request that is too large, whatever is answered.  Only a cancellation
comes before it. -/
def oversize (mode : Mode) (payload : List UInt8) (tick : Tick) : Failure :=
  if tick.cancelled ∧ mode = .probe then .cancelled else .protocol (.frame (.tooLarge payload.length))

theorem lifecycle_oversize : ((launched mode payload).fail (oversize mode payload tick)).lifecycle = .failed := by
  unfold oversize
  split <;> rfl

theorem transmit_failed (answer : Answer) :
    transmit ⟨given, rest, .failed error⟩ answer = ⟨given, rest, .failed error⟩ := by
  cases answer <;> rfl

theorem stepSending_failed (failed : (transmit attempt.outgoing tick.answer).stage = .failed error) :
    stepSending broker attempt tick = (attempt.transmitted tick.answer).fail (sendFailure error) := by
  unfold stepSending
  simp only [failed]
  rfl

theorem launched_oversized (oversized : maxSize < payload.length) :
    (launched mode payload).outgoing = ⟨[], [], .failed (.tooLarge payload.length)⟩ :=
  if_pos oversized

theorem step_oversized (oversized : maxSize < payload.length) (tick : Tick) :
    (launched mode payload).step broker tick = (launched mode payload).fail (oversize mode payload tick) := by
  have same : transmit (launched mode payload).outgoing tick.answer = (launched mode payload).outgoing := by
    rw [launched_oversized oversized, transmit_failed]
  have failed : (transmit (launched mode payload).outgoing tick.answer).stage =
      .failed (.tooLarge payload.length) := by
    rw [same, launched_oversized oversized]
  have unmoved : (launched mode payload).transmitted tick.answer = launched mode payload := by
    rw [transmitted, same]
  have heeds : (launched mode payload).heedsCancellation = (mode == .probe) := by
    cases mode <;> rfl
  by_cases before : tick.cancelled = true ∧ mode = .probe
  · rw [oversize, if_pos before, step, heeds, before.1, before.2]
    rfl
  · have calm : (tick.cancelled && (launched mode payload).heedsCancellation) = false := by
      rw [heeds]
      cases fired : tick.cancelled with
      | false => rfl
      | true =>
          cases mode with
          | probe => exact absurd ⟨fired, rfl⟩ before
          | run => rfl
    -- the cases of a step leave open which of a failed frame and the deadline comes first
    rw [oversize, if_neg before, step, calm, if_neg Bool.false_ne_true]
    change stepSending broker (launched mode payload) tick = _
    rw [stepSending_failed failed, unmoved]
    rfl

theorem input_over {ending : Ending} (ended : attempt.ending? = some ending) (ticks : List Tick) :
    input broker ticks attempt = [] := by
  have past : attempt.stage ≠ .sending := by simp [stage_of_ending? ended]
  induction ticks with
  | nil => rfl
  | cons tick ticks ih => rw [input, taken_past past, step_over ended, ih, List.append_nil]

/-- A request that is too large leaves nothing on the input of the helper. -/
theorem input_oversized (oversized : maxSize < payload.length) (ticks : List Tick) :
    input broker ticks (launched mode payload) = [] := by
  cases ticks with
  | nil => rfl
  | cons tick ticks =>
      have uncalled : (launched mode payload).call? = none := by
        rw [call?, launched_oversized oversized]
        rfl
      have first : (launched mode payload).taken tick = [] := by
        rw [taken, uncalled]
        exact ite_self []
      rw [input, first, step_oversized oversized]
      exact input_over rfl ticks

/-- Cleaning up after a helper that nobody has waited for: it has exited already, or it is
killed with its group and waited for. -/
theorem terminate_started (cleanup : Child.Cleanup) :
    (∃ status, cleanup.poll = .ok (some status)) ∨
      (Child.started.terminate cleanup).calls = [.poll, .killGroup, .kill, .await] := by
  refine (Child.terminate_unobserved rfl cleanup).imp_left ?_
  rintro ⟨status, shown, -⟩
  exact ⟨status, shown⟩

end AuthBroker.Attempt
