import AuthBroker.Proofs.Attempt.Sending

namespace AuthBroker.Attempt

open AuthBroker.Stream

/-! Probes that crash.

A probe crashes when the system cannot launch its helper, does not take the request for it, or does
not tell how it ended, and for nothing else.  A reply that cannot be read is a failure of the protocol
like a reply that is cut short, and does not count as a crash.
-/

variable {broker : Broker} {payload : List UInt8} {attempt next : Attempt} {tick : Tick} {ticks : List Tick}
  {outgoing : Frame.Outgoing} {answer : Answer} {call : Call} {failure : Failure}

/-- The answers to a call that a probe crashes for, and the failure that it has then.  A write that
was interrupted has done nothing and is made again. -/
inductive Breaks : Call → Answer → Failure → Prop
  | refused {offered : List UInt8} {error : IoError} (lasting : error.isInterrupted = false) :
      Breaks (.write offered) (.failed error) (.io .writing error)
  | stalled {offered : List UInt8} : Breaks (.write offered) (.wrote 0) (.io .writing (.plain .writeZero))
  | unwatched {error : IoError} : Breaks .wait (.failed error) (.io .waiting error)

/-- What holds of a probe in the middle of a call: its frame is being written or is too large, and the
reply that it reads has not ended. -/
structure Amid (attempt : Attempt) : Prop where
  sending : attempt.stage = .sending →
    attempt.outgoing.stage = .writing ∨ ∃ size, attempt.outgoing.stage = .failed (.tooLarge size)
  reading : ∀ incoming, attempt.stage = .reading incoming → ∀ result, incoming ≠ .ended result

/-! ### Frames and answers -/

theorem transmit_cases (writing : outgoing.stage = .writing) (answer : Answer) :
    (transmit outgoing answer).stage = .writing ∨ (transmit outgoing answer).stage = .finished ∨
      ∃ error, (transmit outgoing answer).stage = .failed (.io error) ∧
        ∀ offered, Breaks (.write offered) answer (.io .writing error) := by
  cases answer with
  | wrote count =>
      cases count with
      | zero =>
          refine .inr (.inr ⟨.plain .writeZero, ?_, fun _ => .stalled⟩)
          simp [transmit, Frame.Outgoing.accept, Frame.Outgoing.flushed, writing]
      | succ count =>
          by_cases complete : outgoing.rest.drop (count + 1) = []
          · refine .inr (.inl ?_)
            simp [transmit, Frame.Outgoing.accept, Frame.Outgoing.flushed, writing, complete]
          · refine .inl ?_
            simp [transmit, Frame.Outgoing.accept, Frame.Outgoing.flushed, writing, complete]
  | failed error =>
      cases interruption : error.isInterrupted with
      | true => exact .inl (by simp [transmit, Frame.Outgoing.refuse, writing, interruption])
      | false =>
          refine .inr (.inr ⟨error, ?_, fun _ => .refused interruption⟩)
          simp [transmit, Frame.Outgoing.refuse, writing, interruption]
  | _ => exact .inl writing

theorem transmit_broken {offered : List UInt8} (writing : outgoing.stage = .writing)
    (breaks : Breaks (.write offered) answer failure) :
    ∃ error, (transmit outgoing answer).stage = .failed (.io error) ∧ failure = .io .writing error := by
  cases breaks with
  | stalled =>
      exact ⟨_, by simp [transmit, Frame.Outgoing.accept, Frame.Outgoing.flushed, writing], rfl⟩
  | refused lasting =>
      exact ⟨_, by simp [transmit, Frame.Outgoing.refuse, writing, lasting], rfl⟩

theorem transmit_tooLarge {size : Nat} (failed : outgoing.stage = .failed (.tooLarge size)) (answer : Answer) :
    transmit outgoing answer = outgoing := by
  obtain ⟨taken, rest, stage⟩ := outgoing
  cases failed
  exact transmit_failed answer

theorem lifecycle_frameVerdict_ne_crashed (result : Except Frame.Error (List UInt8)) :
    (Ending.ofVerdict (frameVerdict broker.catalog broker.codes result)).lifecycle ≠ .crashed := by
  cases result with
  | ok payload =>
      unfold frameVerdict classify
      dsimp only
      split <;> simp [Ending.ofVerdict, Ending.lifecycle, Failure.kind, Lifecycle.ofFailureKind]
  | error error =>
      cases error <;>
        simp [frameVerdict, Failure.ofFrame, Ending.ofVerdict, Ending.lifecycle, Failure.kind, Lifecycle.ofFailureKind]

/-! ### What a step keeps -/

theorem Amid.past (unsent : attempt.stage ≠ .sending) (unread : ∀ incoming, attempt.stage ≠ .reading incoming) :
    Amid attempt :=
  ⟨fun stage => absurd stage unsent, fun incoming stage => absurd stage (unread incoming)⟩

theorem amid_launched (payload : List UInt8) : Amid (launched .probe payload) := by
  refine ⟨fun _ => ?_, by simp [launched, start, advance, note]⟩
  simp only [launched, start, advance, note, Frame.Outgoing.start]
  split
  · exact .inr ⟨_, rfl⟩
  · exact .inl rfl

theorem Amid.step (amid : Amid attempt) (tick : Tick) : Amid (attempt.step broker tick) := by
  rcases step_cases broker attempt tick with ⟨-, -, stepped⟩ | ⟨-, goes⟩
  · rw [stepped]
    exact .past (by simp [fail, finish]) (by simp [fail, finish])
  · generalize attempt.step broker tick = next at goes
    cases goes with
    | sent _ _ =>
        refine .past (past_sent _).1 fun incoming => ?_
        unfold Attempt.sent
        split <;> simp [finish]
    | writes stage unfinished unfailed =>
        refine ⟨fun _ => .inl ?_, by simp [transmitted, stage]⟩
        rcases amid.sending stage with writing | ⟨size, failed⟩
        · rcases transmit_cases writing tick.answer with still | done | ⟨error, broken, -⟩
          · exact still
          · exact absurd done unfinished
          · exact absurd broken (unfailed _)
        · exact absurd ((transmit_tooLarge failed tick.answer).symm ▸ failed) (unfailed _)
    | waits _ => exact amid
    | exited _ _ =>
        unfold helperExited
        dsimp only
        split
        · exact ⟨by simp, by simp [Frame.Incoming.start]⟩
        · exact .past (by simp [fail, finish]) (by simp [fail, finish])
    | reads _ unended =>
        refine ⟨by simp, fun incoming stage => ?_⟩
        rw [← Stage.reading.inj stage]
        exact unended
    | ended _ => exact amid
    | _ => exact .past (by simp [fail, finish, expire]) (by simp [fail, finish, expire])

/-! ### Single steps -/

/-- The call that an attempt makes at each stage. -/
inductive Makes (attempt : Attempt) : Call → Prop
  | write (stage : attempt.stage = .sending) (writing : attempt.outgoing.stage = .writing) :
      Makes attempt (.write attempt.outgoing.offered)
  | wait (stage : attempt.stage = .waiting) : Makes attempt .wait
  | read {incoming : Frame.Incoming} (stage : attempt.stage = .reading incoming) :
      Makes attempt (.read incoming.wanted)

theorem call?_eq_some_iff : attempt.call? = some call ↔ Makes attempt call := by
  constructor
  · intro called
    unfold call? at called
    split at called
    · rename_i stage
      split at called
      · rename_i writing
        cases called
        exact .write stage writing
      · contradiction
    · rename_i stage
      cases called
      exact .wait stage
    · rename_i incoming stage
      cases called
      exact .read stage
    · contradiction
  · intro makes
    cases makes with
    | write stage writing => simp only [call?, stage, writing]
    | wait stage => simp only [call?, stage]
    | read stage => simp only [call?, stage]

/-- A probe crashes at a step that breaks it off. -/
theorem step_broken (broker : Broker) (calm : tick.cancelled = false) (makes : Makes attempt call)
    (breaks : Breaks call tick.answer failure) :
    (attempt.step broker tick).ending? = some (.failed failure) ∧ (attempt.step broker tick).lifecycle = .crashed := by
  cases makes with
  | write stage writing =>
      obtain ⟨error, failed, same⟩ := transmit_broken writing breaks
      rw [step_of_sending calm stage, stepSending_failed failed, same]
      exact ⟨rfl, rfl⟩
  | wait stage =>
      generalize answered : tick.answer = answer at breaks
      cases breaks with
      | unwatched =>
          rw [step_of_waiting calm stage, stepWaiting]
          simp only [answered]
          exact ⟨rfl, rfl⟩
  | read stage => cases breaks

theorem Progress.uncrashed (progress : Progress .probe attempt) (unended : attempt.ending? = none) :
    attempt.lifecycle ≠ .crashed := by
  obtain ⟨states, -, onPath, underway⟩ := progress.underway unended
  intro crashed
  have last : .crashed ∈ states := by
    refine List.mem_of_getLast? ?_
    rw [underway.passed.current, crashed]
  exact absurd (onPath.subset last) (by decide)

/-- No other step crashes a probe. -/
theorem breaks_of_crashed (progress : Progress .probe attempt) (amid : Amid attempt)
    (unended : attempt.ending? = none) (crashed : (attempt.step broker tick).lifecycle = .crashed) :
    tick.cancelled = false ∧ ∃ call failure, Makes attempt call ∧ Breaks call tick.answer failure := by
  have before := progress.uncrashed unended
  rcases step_cases broker attempt tick with ⟨-, -, stepped⟩ | ⟨calm, goes⟩
  · rw [stepped] at crashed
    contradiction
  have uncancelled (heeds : attempt.heedsCancellation = true) : tick.cancelled = false := by
    simpa only [heeds, Bool.and_true] using calm
  obtain ⟨_, _, _, underway⟩ := progress.underway unended
  generalize attempt.step broker tick = next at goes crashed
  cases goes with
  | sent _ _ =>
      have probe : (attempt.transmitted tick.answer).mode = .probe := underway.mode
      simp only [sent, probe] at crashed
      contradiction
  | unsent stage failed =>
      refine ⟨uncancelled (by simp only [heedsCancellation, underway.mode, stage]), ?_⟩
      rcases amid.sending stage with writing | ⟨size, oversized⟩
      · rcases transmit_cases writing tick.answer with still | done | ⟨cause, -, breaks⟩
        · rw [still] at failed
          contradiction
        · rw [done] at failed
          contradiction
        · exact ⟨_, _, .write stage writing, breaks _⟩
      · rw [transmit_tooLarge oversized, oversized] at failed
        cases failed
        contradiction
  | unwatched stage answer =>
      refine ⟨uncancelled (by simp only [heedsCancellation, underway.mode, stage]), ?_⟩
      exact ⟨_, _, .wait stage, by rw [answer]; exact .unwatched⟩
  | exited _ _ =>
      unfold helperExited at crashed
      dsimp only at crashed
      split at crashed
      · exact absurd crashed before
      · contradiction
  | replied _ _ => exact absurd crashed (lifecycle_frameVerdict_ne_crashed _)
  | late _ _ => contradiction
  | _ => exact absurd crashed before

/-- A probe that cannot read on fails for its frame, cancelled or not. -/
theorem step_unread {most : Nat} {error : IoError} (broker : Broker) (amid : Amid attempt)
    (makes : Makes attempt (.read most)) (lasting : error.isInterrupted = false)
    (answer : tick.answer = .failed error) :
    (attempt.step broker tick).ending? = some (.failed (.protocol (.frame (.io error)))) ∧
      (attempt.step broker tick).lifecycle = .failed := by
  cases makes with
  | @read incoming stage =>
      have deaf : attempt.heedsCancellation = false := by
        rw [heedsCancellation, stage]
        cases attempt.mode <;> rfl
      have failed : incoming.fail error = .ended (.error (.io error)) := by
        cases incoming with
        | ended result => exact absurd rfl (amid.reading _ stage result)
        | _ => simp only [Frame.Incoming.fail, lasting, Bool.false_eq_true, if_false]
      simp only [step, deaf, Bool.and_false, Bool.false_eq_true, if_false, stage, stepReading, answer, absorb, failed]
      exact ⟨rfl, rfl⟩

/-! ### Runs -/

theorem amid_follow (broker : Broker) (payload : List UInt8) (ticks : List Tick) :
    Amid ((launched .probe payload).follow broker ticks) :=
  follow_keeps (amid_launched payload) (fun _ tick amid => amid.step tick) ticks

theorem follow_of_step_ended {ending : Ending} {earlier later : List Tick}
    (ended : ((attempt.follow broker earlier).step broker tick).ending? = some ending) :
    attempt.follow broker (earlier ++ tick :: later) = (attempt.follow broker earlier).step broker tick := by
  rw [follow_append, follow_cons, follow_over ended]

theorem exists_breaks (progress : Progress .probe attempt) (amid : Amid attempt) (unended : attempt.ending? = none)
    (crashed : (attempt.follow broker ticks).lifecycle = .crashed) :
    ∃ earlier tick later call failure, ticks = earlier ++ tick :: later ∧ tick.cancelled = false ∧
      Makes (attempt.follow broker earlier) call ∧ Breaks call tick.answer failure := by
  induction ticks generalizing attempt with
  | nil => exact absurd crashed (progress.uncrashed unended)
  | cons tick ticks ih =>
      -- an attempt that is over stays as it is, so it has crashed at this step
      cases ended : (attempt.step broker tick).ending? with
      | some ending =>
          rw [follow_cons, follow_over ended] at crashed
          obtain ⟨calm, call, failure, makes, breaks⟩ := breaks_of_crashed progress amid unended crashed
          exact ⟨[], tick, ticks, call, failure, rfl, calm, makes, breaks⟩
      | none =>
          obtain ⟨earlier, last, later, call, failure, split, calm, makes, breaks⟩ :=
            ih (progress.step tick) (amid.step tick) ended crashed
          exact ⟨tick :: earlier, last, later, call, failure, by rw [split]; rfl, calm, makes, breaks⟩

/-- When a probe ends up crashed.  One whose helper was not launched does.  One with a helper does exactly
when it was not cancelled at a step where its request was not taken or its helper's end was not told, and it
fails for just that.  When a reply cannot be read, at whatever octet of it, the probe fails for its frame and
has not crashed. -/
theorem crashed_iff_broken (broker : Broker) (payload : List UInt8) (cleanup : Child.Cleanup) :
    (∀ path error, ((unlaunched .probe payload (.launch path error)).dismiss cleanup).lifecycle = .crashed) ∧
    (∀ ticks, (((launched .probe payload).follow broker ticks).dismiss cleanup).lifecycle = .crashed ↔
      ∃ earlier tick later call failure, ticks = earlier ++ tick :: later ∧ tick.cancelled = false ∧
        ((launched .probe payload).follow broker earlier).call? = some call ∧ Breaks call tick.answer failure) ∧
    (∀ earlier tick later call failure, tick.cancelled = false →
      ((launched .probe payload).follow broker earlier).call? = some call → Breaks call tick.answer failure →
      (((launched .probe payload).follow broker (earlier ++ tick :: later)).dismiss cleanup).ending? =
        some (.failed failure)) ∧
    ∀ earlier tick later most error, ((launched .probe payload).follow broker earlier).call? = some (.read most) →
      tick.answer = .failed error → error.isInterrupted = false →
      let final := ((launched .probe payload).follow broker (earlier ++ tick :: later)).dismiss cleanup
      final.ending? = some (.failed (.protocol (.frame (.io error)))) ∧ final.lifecycle = .failed := by
  have broken {earlier later : List Tick} {tick : Tick} {call : Call} {failure : Failure} (calm : tick.cancelled = false)
      (called : ((launched .probe payload).follow broker earlier).call? = some call)
      (breaks : Breaks call tick.answer failure) :
      ((launched .probe payload).follow broker (earlier ++ tick :: later)).ending? = some (.failed failure) ∧
        ((launched .probe payload).follow broker (earlier ++ tick :: later)).lifecycle = .crashed := by
    have ends := step_broken broker calm (call?_eq_some_iff.mp called) breaks
    rw [follow_of_step_ended ends.1]
    exact ends
  refine ⟨fun path error => ?_, fun ticks => ?_, ?_, ?_⟩
  · rw [lifecycle_dismiss]
    rfl
  · rw [lifecycle_dismiss]
    constructor
    · intro crashed
      obtain ⟨earlier, tick, later, call, failure, split, calm, makes, breaks⟩ :=
        exists_breaks (progress_launched .probe payload) (amid_launched payload) rfl crashed
      exact ⟨earlier, tick, later, call, failure, split, calm, call?_eq_some_iff.mpr makes, breaks⟩
    · intro found
      obtain ⟨earlier, tick, later, call, failure, rfl, calm, called, breaks⟩ := found
      exact (broken calm called breaks).2
  · intro earlier tick later call failure calm called breaks
    rw [ending?_dismiss]
    exact (broken calm called breaks).1
  · intro earlier tick later most error called answer lasting final
    have ends := step_unread broker (amid_follow broker payload earlier) (call?_eq_some_iff.mp called)
      lasting answer
    rw [ending?_dismiss, lifecycle_dismiss, follow_of_step_ended ends.1]
    exact ends

/-- A helper closes its input when it has the length of its request. -/
theorem crashed_iff_broken_input :
    let broker := Broker.english .standard
    let ticks : List Tick := [⟨false, .wrote 4, false⟩, ⟨false, .failed .noReader, true⟩]
    let cleanup : Child.Cleanup := ⟨.ok none, .ok (), .ok (), none⟩
    let final := ((launched .probe [7]).follow broker ticks).dismiss cleanup
    final.lifecycle = .crashed ∧ final.ending? = some (.failed (.io .writing .noReader)) := by
  intro broker ticks cleanup final
  have called : ((launched .probe [7]).follow broker (ticks.take 1)).call? = some (.write [7]) := by rfl
  have breaks : Breaks (.write [7]) (.failed .noReader) (.io .writing .noReader) := .refused rfl
  obtain ⟨-, crashed, fails, -⟩ := crashed_iff_broken broker [7] cleanup
  exact ⟨(crashed ticks).mpr ⟨_, _, [], _, _, rfl, rfl, called, breaks⟩,
    fails _ ⟨false, .failed .noReader, true⟩ [] _ _ rfl called breaks⟩

/-- A helper has exited with code zero, and the first read of its reply fails.  The probe has not crashed. -/
theorem unread_reply_not_crashed :
    let broker := Broker.english .standard
    let exited : List Tick := [⟨false, .wrote 4, false⟩, ⟨false, .wrote 1, false⟩, ⟨false, .exited ⟨0⟩, false⟩]
    let final := (launched .probe [7]).follow broker (exited ++ [⟨false, .failed (.system 5), false⟩])
    ((launched .probe [7]).follow broker exited).call? = some (.read 4) ∧ final.lifecycle ≠ .crashed ∧
      final.lifecycle = .failed ∧ final.ending? = some (.failed (.protocol (.frame (.io (.system 5))))) := by
  decide +kernel

end AuthBroker.Attempt
