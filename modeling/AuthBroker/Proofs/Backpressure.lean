import AuthBroker.Proofs.Helper.Replying
import AuthBroker.Proofs.Interleaving

namespace AuthBroker.Exchange

open AuthBroker.Attempt AuthBroker.Stream

/-! Replies that a pipe cannot hold.

The broker reads the reply of a probe once the helper has exited, and the helper exits once it has printed
its reply.  Until then nobody takes an octet out of the pipe between them.  With a reply that fits the pipe
the helper never waits for room; with a larger one it never exits, and the probe waits until its time is over.
-/

/-- A turn in which the helper keeps to its script. -/
inductive ScriptedTurn (broker : Broker) (exchange : Exchange) : Exchange → Prop
  | attempt {next : Exchange} (advances : Advances broker exchange next) : ScriptedTurn broker exchange next
  | helper {later : Helper} (running : exchange.helper.status = none)
      (acts : exchange.helper.Acts exchange.clock later) : ScriptedTurn broker exchange { exchange with helper := later }
  | time {clock : Nat} (later : exchange.clock ≤ clock) :
      ScriptedTurn broker exchange { exchange with clock, helper := exchange.helper.elapse clock }

/-- Any order of such turns. -/
def Unfolds (broker : Broker) : Exchange → Exchange → Prop :=
  Relation.ReflTransGen (ScriptedTurn broker)

/-- The helper is blocked, and in its time the probe can do nothing but wait for its exit. -/
structure Stuck (exchange : Exchange) : Prop where
  inTime : exchange.clock < exchange.deadline
  waits : exchange.attempt.stage = .waiting
  blocked : exchange.helper.Blocked exchange.clock

variable {broker : Broker} {exchange next : Exchange} {helper later : Helper} {attempt : Attempt} {call : Option Call}
  {reply : Answer} {capacity : Nat} {now : Nat} {payload octets : List UInt8} {script : List Helper.Action}

theorem unfolds_run (calm : exchange.cancellation = .never) (fuel : Nat) :
    Unfolds broker exchange (exchange.run broker fuel) := by
  refine run_of_steps (fun {exchange next} calm stepped => ?_) calm fuel
  refine ⟨?_, (cancellation_of_interleaves (interleaves_step calm stepped)).trans calm⟩
  rcases step_cases calm stepped with advances | helped | ⟨clock, later, rfl⟩
  · exact .single (.attempt advances)
  · obtain ⟨later, moved, rfl⟩ := Option.map_eq_some_iff.mp helped
    obtain ⟨running, -, -⟩ := Helper.step_eq_some_iff.mp moved
    exact .single (.helper running (.usual moved))
  · exact .single (.time later)

/-! ### What the attempt does to the pipes -/

/-- What an answer changes of a helper: its input gets octets, and its output is only ever read. -/
theorem Responds.exists_pipes (responds : Responds helper call reply later) :
    ∃ held output, later = { helper with input := { helper.input with held }, output } ∧
      output.hasReader = helper.output.hasReader ∧ helper.output.room ≤ output.room ∧
      ((∀ most, call ≠ some (.read most)) → output = helper.output) := by
  have unread (held : List UInt8) (call : Option Call) : ∃ held' output,
      { helper with input := { helper.input with held } } =
        { helper with input := { helper.input with held := held' }, output } ∧
      output.hasReader = helper.output.hasReader ∧ helper.output.room ≤ output.room ∧
      ((∀ most, call ≠ some (.read most)) → output = helper.output) :=
    ⟨held, helper.output, rfl, rfl, Nat.le_refl _, fun _ => rfl⟩
  cases responds with
  | uncalled => exact unread helper.input.held _
  | partly _ _ _ _ => exact unread _ _
  | usual call =>
      unfold answer
      cases call with
      | wait =>
          dsimp only
          split <;> exact unread helper.input.held _
      | write offered =>
          dsimp only
          split
          · exact unread helper.input.held _
          · rename_i wrote
            obtain ⟨held, rfl⟩ := Helper.write_leaves wrote
            exact unread held _
          · rename_i refused
            obtain ⟨held, rfl⟩ := Helper.write_leaves refused
            exact unread held _
      | read most =>
          dsimp only
          split
          · exact unread helper.input.held _
          · rename_i read
            have shorter := Nat.le.intro ((Nat.add_comm _ _).trans (Helper.read_length read))
            obtain ⟨held, rfl, -⟩ := Helper.read_leaves read
            exact ⟨_, _, rfl, rfl, Nat.sub_le_sub_left shorter _, fun other => absurd rfl (other most)⟩

/-! ### Replies that fit -/

theorem ScriptedTurn.spacious (spacious : exchange.helper.Spacious) (turn : ScriptedTurn broker exchange next) :
    next.helper.Spacious := by
  cases turn with
  | helper running acts => exact spacious.act running acts
  | @time clock _ => exact spacious.elapse clock
  | attempt advances =>
      cases advances with
      | @mk answer helper _ responds =>
          obtain ⟨held, output, rfl, reader, room, -⟩ := responds.exists_pipes
          obtain ⟨input, deadline, followed⟩ := exists_follow broker
            { exchange with helper := { exchange.helper with input := { exchange.helper.input with held }, output } }
            (exchange.attempt.step broker ⟨false, answer, exchange.deadline ≤ exchange.clock⟩)
          rw [followed]
          refine ⟨reader.trans spacious.read, fun running => ?_⟩
          obtain ⟨taken, left, replies, enough⟩ := spacious.room running
          exact ⟨taken, left, replies, Nat.le_trans enough room⟩

theorem unstuck_of_fits (fits : octets.length ≤ capacity) (replies : Helper.Replies false octets script)
    (unfolds : Unfolds broker (start broker .probe payload script capacity .never) exchange) : ¬ exchange.Stuck := by
  have begun : (start broker .probe payload script capacity .never).helper.Spacious :=
    ⟨rfl, fun _ => ⟨false, octets, replies, fits⟩⟩
  have spacious : exchange.helper.Spacious := by
    induction unfolds with
    | refl => exact begun
    | tail _ turn ih => exact turn.spacious ih
  exact fun stuck => spacious.unblocked stuck.blocked

/-! ### Replies that do not fit -/

/-- A probe that waits for its helper to take the request or to exit, or whose time is over.  The flag says
whether the input of the helper is still open. -/
inductive Unreplied (broker : Broker) (attempt : Attempt) : Bool → Prop
  | sending {given rest : List UInt8} (probe : attempt.mode = .probe) (stage : attempt.stage = .sending)
      (outgoing : attempt.outgoing = .after given rest) (notEmpty : rest ≠ []) : Unreplied broker attempt true
  | waiting (stage : attempt.stage = .waiting) : Unreplied broker attempt false
  | late {isOpen : Bool}
      (ended : attempt.ending? = some (.failed (.timeout (.ofMillis broker.config.probeTimeout)))) :
      Unreplied broker attempt isOpen

/-- What holds while a helper is at work on a reply that does not fit. -/
structure Awaits (broker : Broker) (reply : List UInt8) (capacity : Nat) (exchange : Exchange) : Prop where
  helper : exchange.helper.Serves reply capacity
  deadline : exchange.deadline = broker.config.probeTimeout
  attempt : Unreplied broker exchange.attempt exchange.helper.input.hasWriter

theorem Awaits.elapse (awaits : Awaits broker octets capacity exchange) (clock : Nat) :
    Awaits broker octets capacity { exchange with clock, helper := exchange.helper.elapse clock } := by
  obtain ⟨serves, deadline, unreplied⟩ := awaits
  obtain ⟨outputHeld, elapsed⟩ := Helper.elapse_running serves.running clock
  rw [elapsed]
  exact ⟨⟨serves.running, serves.readers, serves.capacities, serves.held, serves.drained, serves.printing⟩,
    deadline, unreplied⟩

theorem follow_of_stage (kept : attempt.stage = exchange.attempt.stage ∨ ∃ ending, attempt.stage = .over ending) :
    exchange.follow broker attempt = { exchange with attempt } := by
  unfold follow
  split
  · rename_i sending waiting
    simp [sending, waiting] at kept
  · rename_i waiting reading
    simp [waiting, reading] at kept
  · rfl

theorem follow_sent (sending : exchange.attempt.stage = .sending) (waiting : attempt.stage = .waiting) :
    exchange.follow broker attempt =
      { exchange with attempt, helper := { exchange.helper with input := exchange.helper.input.closeWriter } } := by
  rw [follow, sending, waiting]

theorem stage_sent (probe : attempt.mode = .probe) : attempt.sent.stage = .waiting := by
  simp only [sent, probe]

/-- Nothing has come of a call: the probe stays as it is, unless its time is over. -/
theorem Unreplied.step_pending {isOpen : Bool} (unreplied : Unreplied broker attempt isOpen)
    (unended : attempt.ending? = none) (late : Bool) : attempt.step broker ⟨false, .pending, late⟩ =
      if late then attempt.expire broker.config.probeTimeout else attempt := by
  have overdue : (⟨false, .pending, late⟩ : Tick).timedOut = late := Bool.and_true late
  cases unreplied with
  | late ended => simp [unended] at ended
  | waiting stage =>
      rw [step_of_waiting rfl stage]
      simp only [stepWaiting, overdue]
  | sending probe stage outgoing notEmpty =>
      have writing : attempt.outgoing.stage = .writing := by rw [outgoing, Frame.Outgoing.stage_after notEmpty]
      have time : sendTime broker.config attempt.mode = broker.config.probeTimeout := by rw [probe]; rfl
      rw [step_of_sending rfl stage, ← time]
      simp only [stepSending, transmit, writing, overdue]

theorem Unreplied.isOpen_of_sending {isOpen : Bool} (unreplied : Unreplied broker attempt isOpen)
    (stage : attempt.stage = .sending) : isOpen = true := by
  cases unreplied with
  | sending _ _ _ _ => rfl
  | waiting waiting => simp [stage] at waiting
  | late ended => simp [ending?, stage] at ended

theorem Unreplied.waiting_of_closed (unreplied : Unreplied broker attempt false) (unended : attempt.ending? = none) :
    attempt.stage = .waiting := by
  cases unreplied with
  | waiting stage => exact stage
  | late ended => simp [unended] at ended

theorem Unreplied.ending {isOpen : Bool} (unreplied : Unreplied broker attempt isOpen) : attempt.ending? = none ∨
    attempt.ending? = some (.failed (.timeout (.ofMillis broker.config.probeTimeout))) := by
  cases unreplied with
  | sending _ stage _ _ => exact .inl (by rw [ending?, stage])
  | waiting stage => exact .inl (by rw [ending?, stage])
  | late ended => exact .inr ended

theorem Awaits.idle (awaits : Awaits broker octets capacity exchange) (unended : exchange.attempt.ending? = none)
    (late : Bool) : Awaits broker octets capacity
      (exchange.follow broker (exchange.attempt.step broker ⟨false, .pending, late⟩)) := by
  obtain ⟨serves, deadline, unreplied⟩ := awaits
  rw [unreplied.step_pending unended]
  cases late with
  | false =>
      rw [follow_of_stage (by exact .inl rfl)]
      exact ⟨serves, deadline, unreplied⟩
  | true =>
      rw [follow_of_stage (by exact .inr ⟨_, rfl⟩)]
      exact ⟨serves, deadline, .late rfl⟩

/-- Some of the request was taken: the probe goes on sending, or closes the input and waits. -/
theorem Awaits.wrote {given rest : List UInt8} {count : Nat} (awaits : Awaits broker octets capacity exchange)
    (probe : exchange.attempt.mode = .probe) (stage : exchange.attempt.stage = .sending)
    (outgoing : exchange.attempt.outgoing = .after given rest) (notEmpty : rest ≠ []) (positive : 0 < count)
    (late : Bool) : Awaits broker octets capacity
      (exchange.follow broker (exchange.attempt.step broker ⟨false, .wrote count, late⟩)) := by
  obtain ⟨serves, deadline, unreplied⟩ := awaits
  rw [step_wrote broker stage outgoing notEmpty positive]
  split
  · rw [follow_sent stage (by exact stage_sent probe)]
    refine ⟨?_, deadline, .waiting (stage_sent probe)⟩
    obtain ⟨taken, left, replies, whole, -⟩ := serves.printing
    exact ⟨serves.running, serves.readers, serves.capacities, serves.held, serves.drained, taken, left, replies, whole,
      fun _ => rfl⟩
  · rename_i incomplete
    have isOpen := unreplied.isOpen_of_sending stage
    rw [follow_of_stage (by exact .inl rfl)]
    refine ⟨serves, deadline, ?_⟩
    rw [isOpen]
    exact .sending probe stage rfl incomplete

theorem Unreplied.unreading {isOpen : Bool} (unreplied : Unreplied broker attempt isOpen) (most : Nat) :
    attempt.call? ≠ some (.read most) := by
  cases unreplied with
  | sending _ stage outgoing notEmpty => simp [call?_after stage outgoing notEmpty]
  | waiting stage => simp [call?, stage]
  | late ended =>
      have stage := stage_of_ending? ended
      simp [call?, stage]

/-- Until the helper exits an answer is long in coming, or says that the pipe took some of the request. -/
theorem Unreplied.answers {isOpen : Bool} (unreplied : Unreplied broker attempt isOpen)
    (unended : attempt.ending? = none) (responds : Responds helper attempt.call? reply later)
    (running : helper.status = none) (reader : helper.input.hasReader = true) :
    reply = .pending ∨ ∃ given rest count, attempt.mode = .probe ∧ attempt.stage = .sending ∧
      attempt.outgoing = .after given rest ∧ rest ≠ [] ∧ reply = .wrote count ∧ 0 < count := by
  cases unreplied with
  | late ended => simp [unended] at ended
  | waiting stage =>
      rw [call?, stage] at responds
      exact .inl (responds.unexited running)
  | @sending given rest probe stage outgoing notEmpty =>
      rw [call?_after stage outgoing notEmpty] at responds
      refine (responds.readable reader (Frame.Outgoing.offered_ne_nil given notEmpty)).imp_right ?_
      rintro ⟨count, wrote, positive, -⟩
      exact ⟨given, rest, count, probe, stage, outgoing, notEmpty, wrote, positive⟩

theorem Awaits.advance (awaits : Awaits broker octets capacity exchange) (advances : Advances broker exchange next) :
    Awaits broker octets capacity next := by
  cases advances with
  | mk unended responds =>
      have serves := awaits.helper
      have answer := awaits.attempt.answers unended responds serves.running serves.readers.1
      obtain ⟨held, output, rfl, -, -, unread⟩ := responds.exists_pipes
      rw [unread awaits.attempt.unreading]
      have answered : Awaits broker octets capacity
          { exchange with helper := { exchange.helper with input := { exchange.helper.input with held } } } :=
        ⟨⟨serves.running, serves.readers, serves.capacities, serves.held, serves.drained, serves.printing⟩,
          awaits.deadline, awaits.attempt⟩
      rcases answer with rfl | ⟨given, rest, count, probe, stage, outgoing, notEmpty, rfl, positive⟩
      · exact answered.idle unended _
      · exact answered.wrote probe stage outgoing notEmpty positive _

theorem Awaits.turn (awaits : Awaits broker octets capacity exchange) (overfull : capacity < octets.length)
    (turn : ScriptedTurn broker exchange next) : Awaits broker octets capacity next := by
  cases turn with
  | attempt advances => exact awaits.advance advances
  | helper running acts =>
      refine ⟨awaits.helper.act overfull acts, awaits.deadline, ?_⟩
      rw [awaits.helper.hasWriter_act acts]
      exact awaits.attempt
  | time later => exact awaits.elapse _

theorem awaits_of_unfolds (awaits : Awaits broker octets capacity exchange) (overfull : capacity < octets.length)
    (unfolds : Unfolds broker exchange next) : Awaits broker octets capacity next := by
  induction unfolds with
  | refl => exact awaits
  | tail _ turn ih => exact ih.turn overfull turn

/-- The sleep that is left to the helper ends before the time of the probe does. -/
structure OnTime (exchange : Exchange) : Prop where
  unended : exchange.attempt.ending? = none
  inTime : max exchange.clock exchange.helper.wake + Helper.naps exchange.helper.script < exchange.deadline

/-- How much there is to do until the output of the helper is full. -/
def toil (exchange : Exchange) : Nat :=
  3 * exchange.attempt.outgoing.rest.length + 2 * (exchange.helper.input.held.length + exchange.helper.effort) +
    if exchange.clock < exchange.helper.wake then 1 else 0

theorem OnTime.awaken (onTime : OnTime exchange) (running : exchange.helper.status = none)
    (asleep : exchange.clock < exchange.helper.wake) :
    ∃ next, ScriptedTurn broker exchange next ∧ OnTime next ∧ next.toil < exchange.toil := by
  obtain ⟨outputHeld, elapsed⟩ := Helper.elapse_running running exchange.helper.wake
  refine ⟨_, .time (Nat.le_of_lt asleep), ?_⟩
  rw [elapsed]
  refine ⟨⟨onTime.unended, ?_⟩, ?_⟩
  · have inTime := onTime.inTime
    dsimp only
    omega
  · rw [toil, toil, if_pos asleep, if_neg (Nat.lt_irrefl _)]
    exact Nat.lt_succ_self _

theorem OnTime.getsOn (onTime : OnTime exchange) (running : exchange.helper.status = none)
    (awake : exchange.helper.wake ≤ exchange.clock) (getsOn : exchange.helper.GetsOn exchange.clock later) :
    ∃ next, ScriptedTurn broker exchange next ∧ OnTime next ∧ next.toil < exchange.toil := by
  refine ⟨_, .helper running (.usual getsOn.stepped), ⟨onTime.unended, ?_⟩, ?_⟩
  · have inTime := onTime.inTime
    have kept := getsOn.inTime
    dsimp only
    omega
  · have less := getsOn.less
    rw [toil, toil]
    dsimp only
    split <;> omega

theorem Unreplied.sending_of_open (unreplied : Unreplied broker attempt true) (unended : attempt.ending? = none) :
    ∃ given rest, attempt.mode = .probe ∧ attempt.stage = .sending ∧ attempt.outgoing = .after given rest ∧ rest ≠ [] := by
  cases unreplied with
  | sending probe stage outgoing notEmpty => exact ⟨_, _, probe, stage, outgoing, notEmpty⟩
  | late ended => simp [unended] at ended

theorem follow_of_sending (broker : Broker) (helper : Helper) (attempt : Attempt)
    (sending : exchange.attempt.stage = .sending) : ∃ hasWriter, { exchange with helper }.follow broker attempt =
      { exchange with attempt, helper := { helper with input := { helper.input with hasWriter } } } := by
  unfold follow
  simp only [sending]
  split
  · exact ⟨false, rfl⟩
  · contradiction
  · exact ⟨_, rfl⟩

theorem OnTime.of_sent {held : List UInt8} (onTime : OnTime exchange)
    (awake : exchange.helper.wake ≤ exchange.clock) (unended : attempt.ending? = none)
    (less : 3 * attempt.outgoing.rest.length + 2 * held.length <
      3 * exchange.attempt.outgoing.rest.length + 2 * exchange.helper.input.held.length) (hasWriter : Bool) :
    let input := { exchange.helper.input with held, hasWriter }
    let next := { exchange with attempt, helper := { exchange.helper with input } }
    OnTime next ∧ next.toil < exchange.toil := by
  intro input next
  refine ⟨⟨unended, onTime.inTime⟩, ?_⟩
  have same : next.helper.effort = exchange.helper.effort := Helper.effort_of_script rfl
  have still : ¬ next.clock < next.helper.wake := Nat.not_lt.mpr awake
  have moved : 3 * next.attempt.outgoing.rest.length + 2 * next.helper.input.held.length <
      3 * exchange.attempt.outgoing.rest.length + 2 * exchange.helper.input.held.length := less
  rw [toil, toil, same, if_neg still]
  omega

theorem OnTime.offers (awaits : Awaits broker octets capacity exchange) (positive : 0 < capacity)
    (onTime : OnTime exchange) (awake : exchange.helper.wake ≤ exchange.clock)
    (empty : exchange.helper.input.held = []) (isOpen : exchange.helper.input.hasWriter = true) :
    ∃ next, ScriptedTurn broker exchange next ∧ OnTime next ∧ next.toil < exchange.toil := by
  obtain ⟨given, rest, probe, stage, outgoing, notEmpty⟩ := (isOpen ▸ awaits.attempt).sending_of_open onTime.unended
  have one : 1 ≤ exchange.helper.input.room := by
    rw [Pipe.room, empty, awaits.helper.capacities.1]
    exact positive
  have offers : 1 ≤ (Frame.Outgoing.after given rest).offered.length :=
    List.length_pos_iff.mpr (Frame.Outgoing.offered_ne_nil given notEmpty)
  have responds : Responds exchange.helper (some (.write (Frame.Outgoing.after given rest).offered)) (.wrote 1) _ :=
    .partly awaits.helper.readers.1 Nat.one_pos one offers
  rw [← call?_after stage outgoing notEmpty] at responds
  refine ⟨_, .attempt (.mk onTime.unended responds), ?_⟩
  obtain ⟨-, goesOn, left⟩ :=
    goes_on_of_wrote broker (exchange.deadline ≤ exchange.clock) probe stage outgoing notEmpty Nat.one_pos
  generalize exchange.attempt.step broker ⟨false, .wrote 1, exchange.deadline ≤ exchange.clock⟩ = attempt at goesOn left
  obtain ⟨hasWriter, followed⟩ := follow_of_sending broker _ attempt stage
  rw [followed]
  refine onTime.of_sent awake (by rcases goesOn with stage | stage <;> rw [ending?, stage]) ?_ hasWriter
  have before : exchange.attempt.outgoing.rest = rest := by rw [outgoing]; rfl
  have positive := List.length_pos_iff.mpr notEmpty
  rw [left, before, empty, List.nil_append, List.length_take, Nat.min_eq_left offers, List.length_drop]
  simp only [List.length_nil]
  omega

theorem Awaits.goes_on (awaits : Awaits broker octets capacity exchange) (overfull : capacity < octets.length)
    (positive : 0 < capacity) (onTime : OnTime exchange) :
    exchange.Stuck ∨ ∃ next, ScriptedTurn broker exchange next ∧ OnTime next ∧ next.toil < exchange.toil := by
  have running := awaits.helper.running
  by_cases asleep : exchange.clock < exchange.helper.wake
  · exact .inr (onTime.awaken running asleep)
  · have awake := Nat.le_of_not_lt asleep
    rcases awaits.helper.getsOn overfull positive awake with ⟨later, getsOn⟩ | ⟨blocked, closed⟩ | ⟨empty, isOpen⟩
    · exact .inr (onTime.getsOn running awake getsOn)
    · have waits : exchange.attempt.stage = .waiting := (closed ▸ awaits.attempt).waiting_of_closed onTime.unended
      have inTime : exchange.clock < exchange.deadline := by
        have inTime := onTime.inTime
        omega
      exact .inl ⟨inTime, waits, blocked⟩
    · exact .inr (onTime.offers awaits positive awake empty isOpen)

theorem Awaits.exists_stuck (awaits : Awaits broker octets capacity exchange) (overfull : capacity < octets.length)
    (positive : 0 < capacity) (onTime : OnTime exchange) :
    ∃ stuck, Unfolds broker exchange stuck ∧ stuck.Stuck := by
  induction effort : exchange.toil using Nat.strong_induction_on generalizing exchange with
  | _ toil ih =>
      rcases awaits.goes_on overfull positive onTime with stuck | ⟨next, turn, still, less⟩
      · exact ⟨exchange, .refl, stuck⟩
      · obtain ⟨stuck, unfolds, ends⟩ := ih _ (effort ▸ less) (awaits.turn overfull turn) still rfl
        exact ⟨stuck, .head turn unfolds, ends⟩

/-! ### Probes that are stuck -/

theorem Stuck.advance (stuck : exchange.Stuck) (advances : Advances broker exchange next) : next = exchange := by
  cases advances with
  | mk unended responds =>
      rw [call?, stuck.waits] at responds
      rw [decide_eq_false (Nat.not_le.mpr stuck.inTime), responds.unexited stuck.blocked.running,
        step_waiting_pending stuck.waits, follow_of_stage (by exact .inl rfl)]
      cases responds with
      | usual _ =>
          have unmoved : (answer exchange.helper .wait).2 = exchange.helper := by
            unfold answer
            dsimp only
            split <;> rfl
          rw [unmoved]

/-- Before its deadline nothing but time goes on in a probe that is stuck. -/
theorem Stuck.turn (stuck : exchange.Stuck) (turn : ScriptedTurn broker exchange next)
    (inTime : next.clock < exchange.deadline) :
    next.Stuck ∧ next.deadline = exchange.deadline ∧ exchange.clock ≤ next.clock := by
  cases turn with
  | attempt advances =>
      rw [stuck.advance advances]
      exact ⟨stuck, rfl, Nat.le_refl _⟩
  | helper _ acts => exact absurd acts stuck.blocked.acts
  | @time clock later =>
      obtain ⟨running, awake, printing, read, full⟩ := stuck.blocked
      obtain ⟨outputHeld, elapsed⟩ := Helper.elapse_running running clock
      rw [elapsed]
      exact ⟨⟨inTime, stuck.waits, ⟨running, Nat.le_trans awake later, printing, read, full⟩⟩, rfl, later⟩

theorem ScriptedTurn.clock_le (turn : ScriptedTurn broker exchange next) : exchange.clock ≤ next.clock := by
  cases turn with
  | attempt advances => exact Nat.le_of_eq advances.kept.1.symm
  | helper _ _ => exact Nat.le_refl _
  | time later => exact later

theorem Stuck.unfolds (stuck : exchange.Stuck) (unfolds : Unfolds broker exchange next)
    (inTime : next.clock < exchange.deadline) : next.Stuck ∧ next.deadline = exchange.deadline := by
  induction unfolds with
  | refl => exact ⟨stuck, rfl⟩
  | tail _ turn ih =>
      obtain ⟨still, deadline⟩ := ih (Nat.lt_of_le_of_lt turn.clock_le inTime)
      obtain ⟨ends, same, -⟩ := still.turn turn (deadline.symm ▸ inTime)
      exact ⟨ends, same.trans deadline⟩

theorem awaits_start (small : payload.length ≤ Frame.maxSize) (replies : Helper.Replies false octets script) :
    Awaits broker octets capacity (start broker .probe payload script capacity .never) := by
  refine ⟨Helper.serves_start replies capacity, rfl, ?_⟩
  refine .sending rfl rfl (Frame.Outgoing.start_of_small small) ?_
  rw [← List.length_pos_iff, Frame.length_octets]
  exact Nat.add_pos_left (by decide) _

theorem exists_stuck (small : payload.length ≤ Frame.maxSize) (overfull : capacity < octets.length)
    (positive : 0 < capacity) (replies : Helper.Replies false octets script)
    (rested : Helper.naps script < broker.config.probeTimeout) :
    ∃ stuck, Unfolds broker (start broker .probe payload script capacity .never) stuck ∧ stuck.Stuck := by
  have inTime : 0 + Helper.naps script < broker.config.probeTimeout := by rwa [Nat.zero_add]
  exact (awaits_start small replies).exists_stuck overfull positive ⟨rfl, inTime⟩

/-- A reply whose frame fits the pipe never gets its probe stuck.  With a larger one the helper never exits and
the probe can end in no other way than at its deadline; if the helper does not oversleep it, the probe can get
stuck, and then stays so. -/
theorem reply_blocks_iff_overfull (broker : Broker) (payload reply : List UInt8) (script : List Helper.Action)
    (capacity : Nat) (positive : 0 < capacity) (replies : Helper.Replies false (Frame.octets reply) script) :
    let begun := start broker .probe payload script capacity .never
    ((Frame.octets reply).length ≤ capacity → ∀ later, Unfolds broker begun later → ¬ later.Stuck) ∧
    (capacity < (Frame.octets reply).length → payload.length ≤ Frame.maxSize →
      (∀ later, Unfolds broker begun later → later.helper.status = none ∧ (later.attempt.ending? = none ∨
        later.attempt.ending? = some (.failed (.timeout (.ofMillis broker.config.probeTimeout))))) ∧
      (Helper.naps script < broker.config.probeTimeout → ∃ stuck, Unfolds broker begun stuck ∧ stuck.Stuck ∧
        ∀ later, Unfolds broker stuck later → later.clock < broker.config.probeTimeout → later.Stuck)) := by
  intro begun
  refine ⟨fun fits later unfolds => unstuck_of_fits fits replies unfolds, fun overfull small => ?_⟩
  have awaits : Awaits broker (Frame.octets reply) capacity begun := awaits_start small replies
  refine ⟨fun later unfolds => ?_, fun rested => ?_⟩
  · have still := awaits_of_unfolds awaits overfull unfolds
    exact ⟨still.helper.running, still.attempt.ending⟩
  · obtain ⟨stuck, unfolds, ends⟩ := exists_stuck small overfull positive replies rested
    have deadline := (awaits_of_unfolds awaits overfull unfolds).deadline
    refine ⟨stuck, unfolds, ends, fun later goesOn inTime => (ends.unfolds goesOn ?_).1⟩
    rw [deadline]
    exact inTime

/-- A pipe of one octet does not even take the frame of an empty reply. -/
theorem empty_reply_blocks :
    let broker := Broker.english .standard
    let script := [.readInput, .print (Frame.octets []), .exit 0]
    ∃ stuck, Unfolds broker (start broker .probe [7] script 1 .never) stuck ∧ stuck.Stuck ∧
      ∀ later, Unfolds broker stuck later → later.clock < 3000 → later.Stuck := by
  intro broker script
  have blocks := reply_blocks_iff_overfull broker [7] [] script 1 Nat.one_pos (Helper.replies_plainly _)
  exact (blocks.2 (by decide) (by decide)).2 (by decide)

/-- Not every reply that may be framed gets through: a pipe of the usual size takes no 70000 octets. -/
theorem legal_reply_blocks : ¬ ∀ (broker : Broker) (payload reply : List UInt8) (script : List Helper.Action)
    (capacity : Nat), 0 < capacity → payload.length ≤ Frame.maxSize → reply.length ≤ Frame.maxSize →
      Helper.Replies false (Frame.octets reply) script → ∀ later,
        Unfolds broker (start broker .probe payload script capacity .never) later → ¬ later.Stuck := by
  intro unstuck
  have size : (List.replicate 70000 (0 : UInt8)).length = 70000 := List.length_replicate
  have replies := Helper.replies_plainly (Frame.octets (List.replicate 70000 0))
  have overfull : Pipe.usualCapacity < (Frame.octets (List.replicate 70000 0)).length := by
    rw [Frame.length_octets, size]
    decide
  have small : ([] : List UInt8).length ≤ Frame.maxSize := Nat.zero_le _
  have stuck : ∃ stuck, Unfolds (.english .standard) _ stuck ∧ stuck.Stuck :=
    exists_stuck small overfull (by decide) replies (by decide)
  obtain ⟨stuck, unfolds, ends⟩ := stuck
  exact unstuck _ _ _ _ _ (by decide) small (by rw [size]; decide) replies stuck unfolds ends

end AuthBroker.Exchange
