import AuthBroker.Proofs.Exchange
import Mathlib.Logic.Relation

namespace AuthBroker.Exchange

open AuthBroker.Attempt AuthBroker.Stream

/-! An attempt and its helper in any order.

The exchange that runs lets the attempt go on as far as it can, then the helper.  The system may let
either side go on at any time, and a write may take any part of what it was offered.
-/

/-- What the system answers an attempt.  One that makes no call goes on by itself. -/
inductive Responds (helper : Helper) : Option Call → Answer → Helper → Prop
  | uncalled : Responds helper none .pending helper
  | usual (call : Call) : Responds helper (some call) (answer helper call).1 (answer helper call).2
  | partly {offered : List UInt8} {count : Nat} (reader : helper.input.hasReader = true) (positive : 0 < count)
      (room : count ≤ helper.input.room) (few : count ≤ offered.length) :
      Responds helper (some (.write offered)) (.wrote count)
        { helper with input := { helper.input with held := helper.input.held ++ offered.take count } }

/-- What a helper can do at a step, whatever its script is. -/
inductive Moves (helper : Helper) : Helper → Prop
  | reads {most : Nat} {octets : List UInt8} {input : Pipe} (read : helper.input.read most = some (octets, input)) :
      Moves helper { helper with input, received := octets.reverseAux helper.received }
  | prints {octets : List UInt8} {result : Except IoError Nat} {output : Pipe}
      (written : helper.output.write octets = some (result, output)) : Moves helper { helper with output }
  | alone (script : List Helper.Action) (reached : List Helper.Mark) (errors : Pipe) (wake : Nat)
      (outputHeld : Option Nat) : Moves helper { helper with script, reached, errors, wake, outputHeld }
  | exits (status : WaitStatus) : Moves helper (helper.finish status)

/-- The attempt takes a step, and nobody has cancelled it. -/
inductive Advances (broker : Broker) (exchange : Exchange) : Exchange → Prop
  | mk {answer : Answer} {helper : Helper} (unended : exchange.attempt.ending? = none)
      (responds : Responds exchange.helper exchange.attempt.call? answer helper) :
      Advances broker exchange ({ exchange with helper }.follow broker
        (exchange.attempt.step broker ⟨false, answer, exchange.deadline ≤ exchange.clock⟩))

inductive Turn (broker : Broker) (exchange : Exchange) : Exchange → Prop
  | attempt {next : Exchange} (advances : Advances broker exchange next) : Turn broker exchange next
  | helper {helper : Helper} (running : exchange.helper.status = none) (moves : Moves exchange.helper helper) :
      Turn broker exchange { exchange with helper }
  | time {clock : Nat} (later : exchange.clock ≤ clock) :
      Turn broker exchange { exchange with clock, helper := exchange.helper.elapse clock }

/-- Any order of turns. -/
def Interleaves (broker : Broker) : Exchange → Exchange → Prop :=
  Relation.ReflTransGen (Turn broker)

variable {broker : Broker} {script : List Helper.Action} {now : Nat} {call : Option Call} {helper later : Helper}
  {exchange next : Exchange} {status : WaitStatus} {reply : Answer}

/-! ### The exchange that runs is one order of turns -/

theorem interleaves_helper (running : exchange.helper.status = none) (moves : Moves exchange.helper later) :
    Interleaves broker exchange { exchange with helper := later } :=
  .single (.helper running moves)

theorem interleaves_print {octets rest : List UInt8} {output : Pipe} (running : exchange.helper.status = none)
    (written : Helper.tryWrite exchange.helper.output octets = some (output, rest)) (script : List Helper.Action) :
    Interleaves broker exchange { exchange with helper := { exchange.helper with script, output } } := by
  have printed : Interleaves broker exchange { exchange with helper := { exchange.helper with output } } := by
    unfold Helper.tryWrite at written
    split at written
    · cases written
      exact .refl
    · split at written
      · rename_i wrote
        cases written
        exact interleaves_helper running (.prints wrote)
      · rename_i refused
        cases written
        exact interleaves_helper running (.prints refused)
      · contradiction
  exact printed.trans (interleaves_helper running (.alone script _ _ _ _))

theorem interleaves_helperStep (stepped : exchange.helperStep = some next) : Interleaves broker exchange next := by
  obtain ⟨later, moved, rfl⟩ := Option.map_eq_some_iff.mp stepped
  obtain ⟨running, -, does⟩ := Helper.step_eq_some_iff.mp moved
  cases does with
  | reads _ read _ => exact interleaves_helper running (.reads read)
  | prints _ written => exact interleaves_print running written _
  | returns _ => exact interleaves_helper running (.exits _)
  | exits _ => exact interleaves_helper running (.exits _)
  | dies _ _ => exact interleaves_helper running (.exits _)
  | _ => exact interleaves_helper running (.alone _ _ _ _ _)

theorem advances_attemptStep (calm : exchange.cancelled = false) (stepped : exchange.attemptStep broker = some next) :
    Advances broker exchange next := by
  obtain ⟨unended, reply, later, occasion, rfl⟩ := exists_occasion stepped
  have learnt : exchange.tick reply = ⟨false, reply, exchange.deadline ≤ exchange.clock⟩ := by
    rw [tick, calm]
    rfl
  rw [learnt]
  refine .mk unended ?_
  cases occasion with
  | uncalled uncalled =>
      rw [uncalled]
      exact .uncalled
  | cancelled fired => simp [calm] at fired
  | @late call called pending _ =>
      have usual : Responds exchange.helper (some call) _ _ := .usual call
      rwa [pending, ← called] at usual
  | @answered call _ _ called _ answered _ =>
      have usual : Responds exchange.helper (some call) _ _ := .usual call
      rwa [answered, ← called] at usual

/-- Which side a step of the exchange is of. -/
theorem step_cases (calm : exchange.cancellation = .never) (stepped : exchange.step broker = some next) :
    Advances broker exchange next ∨ exchange.helperStep = some next ∨
      ∃ clock, exchange.clock ≤ clock ∧ next = { exchange with clock, helper := exchange.helper.elapse clock } := by
  have uncancelled : exchange.cancelled = false := by rw [cancelled, calm]; rfl
  unfold step at stepped
  split at stepped
  · rename_i advanced
    cases stepped
    exact .inl (advances_attemptStep uncancelled advanced)
  · split at stepped
    · rename_i helped
      cases stepped
      exact .inr (.inl helped)
    · have unmarked : exchange.markReached = false := by rw [markReached, calm]
      simp only [timeStep, unmarked, Bool.false_eq_true, if_false, passTime, Option.ite_none_right_eq_some,
        Option.some.injEq] at stepped
      obtain ⟨later, rfl⟩ := stepped
      exact .inr (.inr ⟨_, Nat.le_of_lt later, rfl⟩)

theorem interleaves_step (calm : exchange.cancellation = .never) (stepped : exchange.step broker = some next) :
    Interleaves broker exchange next := by
  rcases step_cases calm stepped with advances | helped | ⟨clock, later, rfl⟩
  · exact .single (.attempt advances)
  · exact interleaves_helperStep helped
  · exact .single (.time later)

theorem Turn.cancellation (turn : Turn broker exchange next) : next.cancellation = exchange.cancellation := by
  cases turn with
  | attempt advances =>
      cases advances with
      | mk _ _ =>
          unfold follow
          split <;> rfl
  | helper _ _ => rfl
  | time _ => rfl

theorem cancellation_of_interleaves (interleaves : Interleaves broker exchange next) :
    next.cancellation = exchange.cancellation := by
  induction interleaves with
  | refl => rfl
  | tail _ turn ih => exact turn.cancellation.trans ih

/-- Where every step is some turns that cancel nothing, so is a run. -/
theorem run_of_steps {turn : Exchange → Exchange → Prop}
    (steps : ∀ {exchange next : Exchange}, exchange.cancellation = .never → exchange.step broker = some next →
      Relation.ReflTransGen turn exchange next ∧ next.cancellation = .never)
    (calm : exchange.cancellation = .never) (fuel : Nat) :
    Relation.ReflTransGen turn exchange (exchange.run broker fuel) := by
  induction fuel generalizing exchange with
  | zero => exact .refl
  | succ fuel ih =>
      unfold run
      split
      · exact .refl
      · split
        · rename_i next stepped
          obtain ⟨first, still⟩ := steps calm stepped
          exact first.trans (ih still)
        · exact .refl

theorem interleaves_run (calm : exchange.cancellation = .never) (fuel : Nat) :
    Interleaves broker exchange (exchange.run broker fuel) := by
  refine run_of_steps (fun calm stepped => ?_) calm fuel
  have first := interleaves_step calm stepped
  exact ⟨first, (cancellation_of_interleaves first).trans calm⟩

/-! ### What the system answers -/

theorem status_answer (helper : Helper) (call : Call) : (answer helper call).2.status = helper.status := by
  unfold answer
  split <;> split <;> rfl

theorem Responds.kept (responds : Responds helper call reply later) :
    later.status = helper.status ∧ later.input.hasReader = helper.input.hasReader := by
  cases responds with
  | uncalled => exact ⟨rfl, rfl⟩
  | usual call => exact ⟨status_answer helper call, (gives helper call).reader⟩
  | partly _ _ _ _ => exact ⟨rfl, rfl⟩

theorem Responds.unexited (responds : Responds helper (some .wait) reply later)
    (running : helper.status = none) : reply = .pending := by
  cases responds with
  | usual _ => simp [answer, running]

/-- As long as somebody may read it, a write waits or some of it is taken. -/
theorem Responds.readable {offered : List UInt8}
    (responds : Responds helper (some (.write offered)) reply later) (reader : helper.input.hasReader = true)
    (notEmpty : offered ≠ []) :
    reply = .pending ∨ ∃ count, reply = .wrote count ∧ 0 < count ∧ count ≤ offered.length := by
  cases responds with
  | @partly _ count _ positive _ few => exact .inr ⟨count, rfl, positive, few⟩
  | usual _ =>
      by_cases full : helper.input.room = 0
      · exact .inl (by simp [answer, Pipe.write, reader, full])
      · have taken : (answer helper (.write offered)).1 = .wrote (min helper.input.room offered.length) := by
          simp [answer, Pipe.write, reader, full]
        have positive := Nat.lt_min.mpr ⟨Nat.pos_of_ne_zero full, List.length_pos_iff.mpr notEmpty⟩
        exact .inr ⟨_, taken, positive, Nat.min_le_right _ _⟩

theorem Responds.unread {offered : List UInt8} (closed : helper.input.hasReader = false)
    (responds : Responds helper (some (.write offered)) reply later) : reply = .failed .noReader := by
  cases responds with
  | usual _ => simp [answer, Pipe.write, closed]
  | partly reader _ _ _ => simp [closed] at reader

theorem Responds.exited (exited : helper.status = some status)
    (responds : Responds helper (some .wait) reply later) : reply = .exited status := by
  cases responds with
  | usual _ => simp [answer, exited]

/-! ### What the turns keep -/

theorem elapse_kept (helper : Helper) (clock : Nat) :
    (helper.elapse clock).status = helper.status ∧ (helper.elapse clock).input = helper.input := by
  unfold Helper.elapse
  split
  · split <;> exact ⟨rfl, rfl⟩
  · exact ⟨rfl, rfl⟩

theorem follow_kept (broker : Broker) (exchange : Exchange) (attempt : Attempt) :
    (exchange.follow broker attempt).clock = exchange.clock ∧
      (exchange.follow broker attempt).helper.status = exchange.helper.status := by
  unfold follow
  split <;> exact ⟨rfl, rfl⟩

theorem Advances.kept (advances : Advances broker exchange next) :
    next.clock = exchange.clock ∧ next.helper.status = exchange.helper.status ∧
      next.helper.input.hasReader = exchange.helper.input.hasReader := by
  cases advances with
  | @mk reply helper _ responds =>
      obtain ⟨status, reader⟩ := responds.kept
      obtain ⟨clock, sameStatus⟩ := follow_kept broker { exchange with helper }
        (exchange.attempt.step broker ⟨false, reply, exchange.deadline ≤ exchange.clock⟩)
      exact ⟨clock, sameStatus.trans status, (follow_helper broker _ _).2.trans reader⟩

theorem Moves.reader (moves : Moves helper later) (running : later.status = none) :
    later.input.hasReader = helper.input.hasReader := by
  cases moves with
  | reads read =>
      obtain ⟨held, rfl, -⟩ := Helper.read_leaves read
      rfl
  | prints _ => rfl
  | alone _ _ _ _ _ => rfl
  | exits _ => simp [Helper.finish] at running

/-- Only an exit brings a probe to its reply, so nothing else gives it more time. -/
theorem deadline_of_running {expired : Bool} (running : exchange.helper.status = none)
    (responds : Responds exchange.helper exchange.attempt.call? reply later) :
    ({ exchange with helper := later }.follow broker (exchange.attempt.step broker ⟨false, reply, expired⟩)).deadline =
      exchange.deadline := by
  unfold follow
  dsimp only
  split
  · rfl
  · rename_i incoming waiting reading
    rw [call?, waiting] at responds
    rw [responds.unexited running] at reading
    rw [step_of_waiting rfl waiting] at reading
    unfold stepWaiting at reading
    dsimp only at reading
    split at reading
    · cases reading
    · simp [waiting] at reading
  · rfl

theorem exists_advance (unended : exchange.attempt.ending? = none) : ∃ next, Advances broker exchange next := by
  cases called : exchange.attempt.call? with
  | none => exact ⟨_, .mk unended (called ▸ Responds.uncalled)⟩
  | some call => exact ⟨_, .mk unended (called ▸ Responds.usual call)⟩

end AuthBroker.Exchange
