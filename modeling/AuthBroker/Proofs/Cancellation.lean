import AuthBroker.Proofs.Attempt.Cleanup
import AuthBroker.Proofs.Exchange

namespace AuthBroker

namespace Attempt

/-! Cancelling a probe.

While a probe sends or waits, a cancellation comes before everything else that becomes known at the
same step.  Once the helper has exited with code zero the probe reads the reply, and then a
cancellation makes no difference.
-/

variable {broker : Broker} {payload : List UInt8} {attempt next : Attempt} {tick : Tick} {ticks : List Tick}

theorem heeds_iff (probe : attempt.mode = .probe) :
    attempt.heedsCancellation = true ↔ attempt.stage = .sending ∨ attempt.stage = .waiting := by
  rw [heedsCancellation, probe]
  cases attempt.stage <;> simp

theorem mode_follow (broker : Broker) (mode : Mode) (payload : List UInt8) (ticks : List Tick) :
    ((launched mode payload).follow broker ticks).mode = mode :=
  (untouched_follow broker mode payload ticks).sameMode

theorem step_unheeded (deaf : attempt.heedsCancellation = false) (cancelled : Bool) :
    attempt.step broker { tick with cancelled } = attempt.step broker tick := by
  simp only [step, deaf, Bool.and_false]
  rfl

theorem follow_cancelled {before after : List Tick} (fired : tick.cancelled = true)
    (heeds : (attempt.follow broker before).heedsCancellation = true) :
    attempt.follow broker (before ++ tick :: after) = (attempt.follow broker before).fail .cancelled := by
  rw [follow_append, follow_cons, step_cancelled fired heeds]
  exact follow_over rfl after

theorem input_cancelled {before after : List Tick} (fired : tick.cancelled = true)
    (heeds : (attempt.follow broker before).heedsCancellation = true) :
    input broker (before ++ tick :: after) attempt = input broker before attempt := by
  have ended : ((attempt.follow broker before).fail .cancelled).ending? = some (.failed .cancelled) := rfl
  rw [input_append, input, taken_cancelled fired heeds, step_cancelled fired heeds, input_over ended]
  rw [List.append_nil, List.append_nil]

/-! ### Only a cancellation cancels -/

theorem frameVerdict_ne_cancelled (result : Except Frame.Error (List UInt8)) :
    frameVerdict broker.catalog broker.codes result ≠ .error .cancelled := by
  cases result with
  | ok payload =>
      unfold frameVerdict classify
      dsimp only
      split <;> simp
  | error error => cases error <;> simp [frameVerdict, Failure.ofFrame]

theorem Goes.uncancelled (goes : Goes broker attempt tick next)
    (before : attempt.ending? ≠ some (.failed .cancelled)) : next.ending? ≠ some (.failed .cancelled) := by
  cases goes with
  | sent _ _ =>
      unfold Attempt.sent
      split <;> simp [ending?, finish, note, advance]
  | @unsent error _ _ => cases error <;> simp [fail, finish, ending?, sendFailure, Failure.ofFrame]
  | writes stage _ _ => simp [transmitted, ending?, stage]
  | exited _ _ =>
      unfold helperExited
      dsimp only
      split <;> simp [fail, finish, ending?]
  | @replied _ result _ _ =>
      -- a verdict on a reply is never a cancellation
      have verdict := @frameVerdict_ne_cancelled broker result
      cases known : frameVerdict broker.catalog broker.codes result with
      | ok user => simp [finish, ending?, Ending.ofVerdict]
      | error failure =>
          rw [known] at verdict
          simpa [finish, ending?, Ending.ofVerdict] using verdict
  | reads _ _ => simp [ending?]
  | unwatched _ _ => simp [fail, finish, ending?]
  | late _ _ => simp [expire, fail, finish, ending?]
  | waits _ => exact before
  | ended _ => exact before

theorem exists_cancellation (before : attempt.ending? ≠ some (.failed .cancelled))
    (ended : (attempt.follow broker ticks).ending? = some (.failed .cancelled)) :
    ∃ earlier tick later, ticks = earlier ++ tick :: later ∧ tick.cancelled = true ∧
      (attempt.follow broker earlier).heedsCancellation = true := by
  induction ticks generalizing attempt with
  | nil => contradiction
  | cons tick ticks ih =>
      -- the first step that is cancelled, or a later one
      rcases step_cases broker attempt tick with ⟨fired, heeds, -⟩ | ⟨-, goes⟩
      · exact ⟨[], tick, ticks, rfl, fired, heeds⟩
      · obtain ⟨earlier, last, later, split, fired, heeds⟩ := ih (goes.uncancelled before) ended
        exact ⟨tick :: earlier, last, later, by rw [split]; rfl, fired, heeds⟩

/-- A probe that is cancelled while it sends or waits fails at that step for the cancellation, whatever
else is known by then and whatever follows, and puts nothing more on the input of its helper.  A probe
that is cancelled before its first step puts nothing there at all.  No other probe ends cancelled: one
that reads the reply goes on as if it were not cancelled. -/
theorem cancellation_wins_until_exit (broker : Broker) (payload : List UInt8) (ticks : List Tick) :
    let probe := launched .probe payload
    (∀ earlier tick later, ticks = earlier ++ tick :: later → tick.cancelled = true →
      (probe.follow broker earlier).stage = .sending ∨ (probe.follow broker earlier).stage = .waiting →
      probe.follow broker ticks = (probe.follow broker earlier).fail .cancelled ∧
        input broker ticks probe = input broker earlier probe) ∧
    (∀ tick later, ticks = tick :: later → tick.cancelled = true →
      probe.follow broker ticks = probe.fail .cancelled ∧ input broker ticks probe = []) ∧
    ((probe.follow broker ticks).ending? = some (.failed .cancelled) →
      ∃ earlier tick later, ticks = earlier ++ tick :: later ∧ tick.cancelled = true ∧
        ((probe.follow broker earlier).stage = .sending ∨ (probe.follow broker earlier).stage = .waiting)) ∧
    ∀ incoming tick cancelled, (probe.follow broker ticks).stage = .reading incoming →
      (probe.follow broker ticks).step broker { tick with cancelled } = (probe.follow broker ticks).step broker tick := by
  intro probe
  have heeds (earlier : List Tick) := heeds_iff (mode_follow broker .probe payload earlier)
  refine ⟨?_, ?_, fun ended => ?_, ?_⟩
  · intro earlier tick later split fired underway
    rw [split]
    have heeded := (heeds earlier).mpr underway
    exact ⟨follow_cancelled fired heeded, input_cancelled fired heeded⟩
  · intro tick later split fired
    have heeded : (probe.follow broker []).heedsCancellation = true := rfl
    rw [split]
    exact ⟨follow_cancelled fired heeded, input_cancelled fired heeded⟩
  · have begun : probe.ending? ≠ some (.failed .cancelled) := by simp [probe, launched, start, advance, note, ending?]
    obtain ⟨earlier, tick, later, split, fired, heeded⟩ := exists_cancellation begun ended
    exact ⟨earlier, tick, later, split, fired, (heeds earlier).mp heeded⟩
  · intro incoming tick cancelled stage
    have deaf : (probe.follow broker ticks).heedsCancellation = false := by
      rw [← Bool.not_eq_true, heeds, stage]
      simp
    exact step_unheeded deaf cancelled

/-- The exit of the helper, the deadline and the cancellation come at once. -/
theorem cancellation_wins_at_exit :
    let ticks : List Tick := [⟨false, .wrote 4, false⟩, ⟨false, .wrote 1, false⟩, ⟨true, .exited ⟨0⟩, true⟩]
    ((launched .probe [7]).follow (.english .standard) ticks).ending? = some (.failed .cancelled) ∧
      input (.english .standard) ticks (launched .probe [7]) = [1, 0, 0, 0, 7] := by
  intro ticks
  have waiting : ((launched .probe [7]).follow (.english .standard) (ticks.take 2)).stage = .waiting := by rfl
  obtain ⟨ended, put⟩ := (cancellation_wins_until_exit (.english .standard) [7] ticks).1
    (ticks.take 2) ⟨true, .exited ⟨0⟩, true⟩ [] rfl rfl (.inr waiting)
  rw [ended, put]
  exact ⟨rfl, by decide +kernel⟩

end Attempt

/-- A helper has exited with code zero while a child of it keeps the output open.  The caller cancels the
attempt while it waits for the reply, and a second later it ends for the missing reply. -/
theorem Exchange.cancelled_while_reading :
    let broker := Broker.english { Config.standard with replyReadTimeout := 20000 }
    let request := Request.probe "alice" ⟨"hunter2"⟩
    let behaviour : Helper.Behaviour := ⟨true, [], false, [], true, none, 0⟩
    let begun := start broker .probe request.encode behaviour.script Stream.Pipe.usualCapacity (.onceReached .ready)
    ((begun.run broker 12).cancelled = true ∧ (begun.run broker 12).attempt.ending? = none) ∧
      (begun.complete broker).attempt.ending? =
        some (.failed (.helperExit (some 0) (broker.codes.describeCode 0))) := by
  decide +kernel

end AuthBroker
