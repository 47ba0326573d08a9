import AuthBroker.Broker
import AuthBroker.Proofs.Attempt.Sending
import AuthBroker.Proofs.Helper.Steps

namespace AuthBroker

open AuthBroker.Attempt AuthBroker.Stream

/-! An attempt and its helper.

Whatever the helper does, an exchange is a run of its attempt, and the helper gets the octets of
that run in their order: those that it has read, then those that the pipe holds for it.  Only an
end that closes the pipe loses some, and they are the last ones.
-/

/-- The octets that have arrived at the input of a helper, read or not. -/
def Helper.arrived (helper : Helper) : List UInt8 :=
  helper.request ++ helper.input.held

namespace Exchange

variable {broker : Broker} {mode : Mode} {payload : List UInt8} {script : List Helper.Action}
  {cancellation : Cancellation} {helper later : Helper} {exchange next : Exchange}
  {attempt : Attempt} {ticks : List Tick} {call : Call} {now : Nat}

/-! ### The helper -/

/-- What a helper does to its input by itself: it may read it, and close it for good. -/
structure Leaves (helper later : Helper) : Prop where
  arrived : later.arrived <+: helper.arrived
  whole : later.input.hasReader = true → helper.input.hasReader = true ∧ later.arrived = helper.arrived

theorem Leaves.of_same (received : later.received = helper.received) (input : later.input = helper.input) :
    Leaves helper later := by
  have same : later.arrived = helper.arrived := by
    rw [Helper.arrived, Helper.request, received, input]
    rfl
  exact ⟨same ▸ List.prefix_rfl, fun reader => ⟨input ▸ reader, same⟩⟩

theorem leaves_finish (status : WaitStatus) : Leaves helper (helper.finish status) := by
  refine ⟨?_, by simp [Helper.finish, Pipe.closeReader]⟩
  rw [Helper.arrived, Helper.finish, Helper.request, Pipe.closeReader, List.append_nil]
  exact List.prefix_append _ _

theorem leaves_step (stepped : helper.step now = some later) : Leaves helper later := by
  obtain ⟨-, -, does⟩ := Helper.step_eq_some_iff.mp stepped
  cases does with
  | @reads octets input _ _ read _ =>
      obtain ⟨held, rfl, same⟩ := Helper.read_leaves read
      have same : Helper.arrived { helper with
          input := { helper.input with held }, received := octets.reverseAux helper.received } = helper.arrived := by
        simp [Helper.arrived, Helper.request, ← same]
      exact ⟨same ▸ List.prefix_rfl, fun isOpen => ⟨isOpen, same⟩⟩
  | returns _ => exact leaves_finish _
  | exits _ => exact leaves_finish _
  | dies _ _ => exact leaves_finish _
  | _ => exact .of_same rfl rfl

theorem leaves_elapse (now : Nat) : Leaves helper (helper.elapse now) := by
  unfold Helper.elapse
  split
  · split
    · exact .of_same rfl rfl
    · exact .of_same rfl rfl
  · exact .of_same rfl rfl

theorem leaves_kill : Leaves helper helper.kill := by
  unfold Helper.kill
  split
  · exact .of_same rfl rfl
  · have finished : Leaves { helper with outputHeld := none } _ :=
      leaves_finish (.ofSignal Helper.killSignal)
    exact ⟨finished.arrived, finished.whole⟩

/-! ### The attempt -/

/-- What the answer to a call does to the input of the helper. -/
structure Gives (helper : Helper) (call : Call) (answer : Answer) (later : Helper) : Prop where
  arrived : later.arrived = helper.arrived ++ call.portion answer
  reader : later.input.hasReader = helper.input.hasReader
  modest : ∀ offered count, call = .write offered → answer = .wrote count → count ≤ offered.length
  closed : helper.input.hasReader = false → call.portion answer = []

theorem Gives.of_idle {answer : Answer} (idle : ∀ count, answer ≠ .wrote count)
    (received : later.received = helper.received) (input : later.input = helper.input) :
    Gives helper call answer later := by
  have nothing : call.portion answer = [] := by
    unfold Call.portion
    split
    · exact absurd rfl (idle _)
    · rfl
  refine ⟨?_, by rw [input], fun offered count _ wrote => absurd wrote (idle count), fun _ => nothing⟩
  rw [nothing, List.append_nil, Helper.arrived, Helper.request, received, input]
  rfl

theorem gives (helper : Helper) (call : Call) :
    Gives helper call (answer helper call).1 (answer helper call).2 := by
  cases call with
  | wait =>
      unfold answer
      dsimp only
      split <;> exact .of_idle (by simp) rfl rfl
  | read most =>
      unfold answer
      dsimp only
      split <;> exact .of_idle (by simp) rfl rfl
  | write offered =>
      by_cases reader : helper.input.hasReader = true
      · by_cases full : helper.input.room = 0
        · have answered : answer helper (.write offered) = (.pending, helper) := by
            simp [answer, Pipe.write, reader, full]
          rw [answered]
          exact .of_idle (by simp) rfl rfl
        · have answered : answer helper (.write offered) = (.wrote (min helper.input.room offered.length),
              { helper with input.held := helper.input.held ++ offered.take helper.input.room }) := by
            simp [answer, Pipe.write, reader, full]
          rw [answered]
          refine ⟨?_, rfl, ?_, fun closed => by simp [reader] at closed⟩
          · simp [Helper.arrived, Helper.request, Call.portion, List.take_eq_take_iff]
          · intro other count called wrote
            cases called
            cases wrote
            exact Nat.min_le_right _ _
      · have answered : answer helper (.write offered) = (.failed .noReader, helper) := by
          simp [answer, Pipe.write, reader]
        rw [answered]
        exact .of_idle (by simp) rfl rfl

/-- The exchange has come to this by a run of its attempt, and the helper got what that run put
on its input, as long as it kept it open. -/
structure Joined (broker : Broker) (mode : Mode) (payload : List UInt8) (ticks : List Tick)
    (exchange : Exchange) : Prop where
  follows : exchange.attempt = (launched mode payload).follow broker ticks
  modest : allModest broker ticks (launched mode payload) = true
  arrived : exchange.helper.arrived <+: input broker ticks (launched mode payload)
  whole : exchange.helper.input.hasReader = true →
    exchange.helper.arrived = input broker ticks (launched mode payload)

theorem joined_start : Joined broker mode payload []
    (start broker mode payload script Pipe.usualCapacity cancellation) :=
  ⟨rfl, rfl, List.prefix_rfl, fun _ => rfl⟩

theorem Joined.leaves (joined : Joined broker mode payload ticks exchange)
    (attempt : next.attempt = exchange.attempt) (leaves : Leaves exchange.helper next.helper) :
    Joined broker mode payload ticks next := by
  refine ⟨attempt.trans joined.follows, joined.modest, leaves.arrived.trans joined.arrived, ?_⟩
  intro reader
  obtain ⟨reader', same⟩ := leaves.whole reader
  exact same.trans (joined.whole reader')

/-- What an attempt learns with an answer at this point. -/
def tick (exchange : Exchange) (reply : Answer) : Tick :=
  ⟨exchange.cancelled && exchange.attempt.heedsCancellation, reply, exchange.deadline ≤ exchange.clock⟩

/-- What lets an attempt take a step, with what it is answered and the helper after that: there is no call to
answer, it is cancelled, its time is over, or its call is answered. -/
inductive Occasion (exchange : Exchange) : Answer → Helper → Prop
  | uncalled (uncalled : exchange.attempt.call? = none) : Occasion exchange .pending exchange.helper
  | cancelled (fired : (exchange.cancelled && exchange.attempt.heedsCancellation) = true) :
      Occasion exchange .pending exchange.helper
  | late {call : Call} (called : exchange.attempt.call? = some call)
      (pending : answer exchange.helper call = (.pending, exchange.helper))
      (expired : exchange.deadline ≤ exchange.clock) : Occasion exchange .pending exchange.helper
  | answered {call : Call} {reply : Answer} {later : Helper} (called : exchange.attempt.call? = some call)
      (calm : (exchange.cancelled && exchange.attempt.heedsCancellation) = false)
      (answered : answer exchange.helper call = (reply, later)) (come : reply ≠ .pending) :
      Occasion exchange reply later

theorem helper_of_pending (pending : answer helper call = (.pending, later)) : later = helper := by
  unfold answer at pending
  split at pending <;> split at pending <;> simp_all

theorem exists_occasion (stepped : exchange.attemptStep broker = some next) :
    exchange.attempt.ending? = none ∧ ∃ reply later, Occasion exchange reply later ∧
      next = { exchange with helper := later }.follow broker (exchange.attempt.step broker (exchange.tick reply)) := by
  unfold attemptStep at stepped
  dsimp only at stepped
  split at stepped
  · contradiction
  · rename_i unended uncalled
    cases stepped
    exact ⟨unended, _, _, .uncalled uncalled, rfl⟩
  · rename_i call unended called
    refine ⟨unended, ?_⟩
    split at stepped
    · rename_i fired
      cases stepped
      exact ⟨_, _, .cancelled fired, rfl⟩
    · rename_i calm
      split at stepped
      · rename_i idle pending
        split at stepped
        · rename_i expired
          cases stepped
          have unmoved := helper_of_pending pending
          exact ⟨_, _, .late called (unmoved ▸ pending) expired, rfl⟩
        · contradiction
      · rename_i reply later come answered
        cases stepped
        exact ⟨_, _, .answered called (Bool.eq_false_iff.mpr calm) answered come, rfl⟩

theorem follow_attempt (exchange : Exchange) (attempt : Attempt) :
    (exchange.follow broker attempt).attempt = attempt := by
  unfold follow
  split <;> rfl

theorem exists_follow (broker : Broker) (exchange : Exchange) (attempt : Attempt) :
    ∃ input deadline, exchange.follow broker attempt =
      { exchange with attempt, deadline, helper := { exchange.helper with input } } := by
  unfold follow
  split <;> exact ⟨_, _, rfl⟩

theorem follow_helper (broker : Broker) (exchange : Exchange) (attempt : Attempt) :
    (exchange.follow broker attempt).helper.arrived = exchange.helper.arrived ∧
      (exchange.follow broker attempt).helper.input.hasReader = exchange.helper.input.hasReader := by
  unfold follow
  split <;> exact ⟨rfl, rfl⟩

theorem Joined.advance {tick : Tick} (joined : Joined broker mode payload ticks exchange)
    (modest : exchange.attempt.modest tick = true)
    (arrived : later.arrived = exchange.helper.arrived ++ exchange.attempt.taken tick)
    (reader : later.input.hasReader = exchange.helper.input.hasReader)
    (closed : exchange.helper.input.hasReader = false → exchange.attempt.taken tick = []) :
    Joined broker mode payload (ticks ++ [tick])
      ({ exchange with helper := later }.follow broker (exchange.attempt.step broker tick)) := by
  obtain ⟨sameArrived, sameReader⟩ :=
    follow_helper broker { exchange with helper := later } (exchange.attempt.step broker tick)
  have put : input broker (ticks ++ [tick]) (launched mode payload) =
      input broker ticks (launched mode payload) ++ exchange.attempt.taken tick := by
    rw [input_append, ← joined.follows, input, input, List.append_nil]
  refine ⟨?_, ?_, ?_, ?_⟩
  · rw [follow_attempt, joined.follows, follow_append]
    rfl
  · rw [allModest_append, ← joined.follows, joined.modest, allModest, modest]
    rfl
  · rw [sameArrived, arrived, put]
    cases isOpen : exchange.helper.input.hasReader with
    | true => rw [joined.whole isOpen]
    | false =>
        rw [closed isOpen, List.append_nil, List.append_nil]
        exact joined.arrived
  · intro isOpen
    rw [sameReader, reader] at isOpen
    rw [sameArrived, arrived, put, joined.whole isOpen]

theorem Joined.attemptStep (joined : Joined broker mode payload ticks exchange)
    (stepped : exchange.attemptStep broker = some next) :
    ∃ tick, Joined broker mode payload (ticks ++ [tick]) next := by
  obtain ⟨-, reply, later, occasion, rfl⟩ := exists_occasion stepped
  -- without an answer nothing moves in the pipe, whether the attempt goes on or not
  have idle {tick : Tick} (pending : tick.answer = .pending) : ∃ last, Joined broker mode payload
      (ticks ++ [last]) (exchange.follow broker (exchange.attempt.step broker tick)) := by
    have nothing : exchange.attempt.taken tick = [] := taken_pending pending
    exact ⟨_, joined.advance (modest_pending pending) (by rw [nothing, List.append_nil]) rfl fun _ => nothing⟩
  cases occasion with
  | uncalled _ => exact idle rfl
  | cancelled _ => exact idle rfl
  | late _ _ _ => exact idle rfl
  | @answered call _ _ called calm answered _ =>
      have given := gives exchange.helper call
      rw [answered] at given
      have put : exchange.attempt.taken (exchange.tick reply) = call.portion reply := by
        rw [taken, called, tick, calm]
        rfl
      refine ⟨_, joined.advance ?_ (put ▸ given.arrived) given.reader (put ▸ given.closed)⟩
      unfold Attempt.modest
      split
      · rename_i offered count called' wrote
        rw [called] at called'
        exact decide_eq_true (given.modest offered count (Option.some.inj called') wrote)
      · rfl

theorem Joined.step (joined : Joined broker mode payload ticks exchange)
    (stepped : exchange.step broker = some next) : ∃ ticks, Joined broker mode payload ticks next := by
  unfold Exchange.step at stepped
  split at stepped
  · rename_i advanced
    cases stepped
    obtain ⟨tick, continues⟩ := joined.attemptStep advanced
    exact ⟨ticks ++ [tick], continues⟩
  · split at stepped
    · rename_i helped
      cases stepped
      obtain ⟨later, stepped, rfl⟩ := Option.map_eq_some_iff.mp helped
      exact ⟨ticks, joined.leaves rfl (leaves_step stepped)⟩
    · unfold timeStep at stepped
      split at stepped
      · cases stepped
        exact ⟨ticks, joined.leaves rfl (.of_same rfl rfl)⟩
      · simp only [passTime, Option.ite_none_right_eq_some, Option.some.injEq] at stepped
        obtain ⟨-, rfl⟩ := stepped
        exact ⟨ticks, joined.leaves rfl (leaves_elapse _)⟩

theorem Joined.run (joined : Joined broker mode payload ticks exchange) (fuel : Nat) :
    ∃ ticks, Joined broker mode payload ticks (exchange.run broker fuel) := by
  induction fuel generalizing ticks exchange with
  | zero => exact ⟨ticks, joined⟩
  | succ fuel ih =>
      unfold Exchange.run
      split
      · exact ⟨ticks, joined⟩
      · split
        · rename_i next stepped
          obtain ⟨ticks, continues⟩ := joined.step stepped
          exact ih continues
        · exact ⟨ticks, joined⟩

/-- After a dismissal the helper is gone, and its status was learnt. -/
theorem dismiss_gone (unhanded : exchange.attempt.ending? ≠ some .handedOff) :
    exchange.dismiss.helper.status ≠ none ∧ exchange.dismiss.attempt.child.observed ≠ none := by
  obtain ⟨status, killed⟩ : ∃ status, exchange.helper.kill.status = some status := by
    unfold Helper.kill
    split
    · exact ⟨_, by assumption⟩
    · exact ⟨_, rfl⟩
  have terminated : (exchange.attempt.child.terminate (cleanup exchange.helper)).observed ≠ none := by
    obtain ⟨observed, calls⟩ := exchange.attempt.child
    cases observed with
    | some found => simp [Child.terminate, Child.poll]
    | none =>
        cases found : exchange.helper.status with
        | some early => simp [Child.terminate, Child.poll, cleanup, found, Child.observe]
        | none =>
            simp [Child.terminate, Child.poll, cleanup, found, killed, Child.await, Child.call, Child.observe]
  refine ⟨by rw [dismiss, killed]; simp, ?_⟩
  have dismissed : exchange.dismiss.attempt.child =
      exchange.attempt.child.terminate (cleanup exchange.helper) := by
    unfold dismiss Attempt.dismiss
    split
    · rename_i handed
      exact absurd (by rw [ending?, handed]) unhanded
    · rfl
  rwa [dismissed]

/-! ### Requests that are too large -/

theorem run_over {ending : Ending} (ended : exchange.attempt.ending? = some ending) (fuel : Nat) :
    exchange.run broker fuel = exchange := by
  cases fuel with
  | zero => rfl
  | succ fuel => rw [run, ended]

/-- A request that is too large ends its exchange at the first step. -/
theorem complete_oversized (broker : Broker) (mode : Mode) (script : List Helper.Action) (capacity : Nat)
    (cancellation : Cancellation) (oversized : Frame.maxSize < payload.length) :
    ((start broker mode payload script capacity cancellation).complete broker).attempt =
      (launched mode payload).fail (if cancellation = .before ∧ mode = .probe then .cancelled
        else .protocol (.frame (.tooLarge payload.length))) := by
  generalize begun : start broker mode payload script capacity cancellation = exchange
  have attempt : exchange.attempt = launched mode payload := by rw [← begun]; rfl
  have uncalled : exchange.attempt.call? = none := by
    rw [attempt, call?, launched_oversized oversized]
    rfl
  have unended : exchange.attempt.ending? = none := by rw [attempt]; rfl
  have before : (exchange.cancelled && (launched mode payload).heedsCancellation) = true ∧ mode = .probe ↔
      cancellation = .before ∧ mode = .probe := by
    rw [← begun]
    cases mode with
    | run => simp
    | probe =>
        have heeds : (launched .probe payload).heedsCancellation = true := rfl
        cases cancellation <;> simp [start, cancelled, heeds]
  have first : exchange.step broker = some (exchange.follow broker ((launched mode payload).fail
      (if cancellation = .before ∧ mode = .probe then .cancelled
        else .protocol (.frame (.tooLarge payload.length))))) := by
    rw [step, attemptStep, unended, uncalled]
    simp only
    rw [attempt, step_oversized oversized, oversize, if_congr before rfl rfl]
  obtain ⟨fuel, effort⟩ : ∃ fuel, exchange.effort = fuel + 1 := ⟨_, rfl⟩
  rw [complete, effort, run, unended]
  simp only [first]
  rw [run_over (by rw [follow_attempt]; rfl), follow_attempt]

end Exchange

/-- An attempt whose helper was launched is worked through, and cleaned up unless the helper
was handed over. -/
theorem exchange_of_attempt {broker : Broker} {surroundings : Surroundings} {request : Request}
    {script : List Helper.Action} {cancellation : Cancellation} {exchange : Exchange}
    (made : (broker.attempt surroundings request script cancellation).exchange = some exchange) :
    ∃ completed, completed = (Exchange.start broker request.mode request.encode script Pipe.usualCapacity
        cancellation).complete broker ∧
      (completed.attempt.ending? = some .handedOff ∧ exchange = completed ∨
        completed.attempt.ending? ≠ some .handedOff ∧ exchange = completed.dismiss) := by
  refine ⟨_, rfl, ?_⟩
  unfold Broker.attempt at made
  dsimp only at made
  split at made
  · contradiction
  · have same := (Option.some.inj made).symm
    split at same
    · rename_i handed
      exact .inl ⟨handed, same⟩
    · rename_i unhanded
      exact .inr ⟨unhanded, same⟩

/-- The attempts that a broker makes are among those that arise. -/
theorem arises_attempt (broker : Broker) (surroundings : Surroundings) (request : Request)
    (script : List Helper.Action) (cancellation : Cancellation) :
    Arises broker request.mode request.encode
      (broker.attempt surroundings request script cancellation).attempt := by
  obtain ⟨ticks, joined⟩ := (Exchange.joined_start : Exchange.Joined broker request.mode request.encode []
    (Exchange.start broker request.mode request.encode script Pipe.usualCapacity cancellation)).run
    (Exchange.effort _)
  have arises := joined.follows ▸ Arises.followed ticks
  unfold Broker.attempt
  dsimp only
  split
  · exact .unlaunched _ _
  · split
    · exact arises
    · exact .dismissed _ arises

/-- An attempt comes to an exchange when its helper can be launched. -/
theorem exists_exchange {broker : Broker} {surroundings : Surroundings} {request : Request}
    (script : List Helper.Action) (cancellation : Cancellation)
    (started : (Launch.plan broker.config surroundings.executable surroundings.environment request.mode).start
      surroundings.files = .ok ()) :
    ∃ exchange, (broker.attempt surroundings request script cancellation).exchange = some exchange ∧
      (broker.attempt surroundings request script cancellation).attempt = exchange.attempt := by
  simp only [Broker.attempt, started]
  exact ⟨_, rfl, rfl⟩

end AuthBroker
