import AuthBroker.Proofs.Attempt.Run
import Mathlib.Data.List.Infix

namespace AuthBroker.Attempt

/-! The states that an attempt goes through.

An attempt goes along the path of its mode, leaves it at some state for a last one, and stays
there.  Each move is one entry of its log, and one more entry, which is the only one that is
not for debugging, tells how it ended.
-/

/-- The move from a state to the next that an entry of a log records. -/
def Event.move? : Event → Option (Lifecycle × Lifecycle)
  | .advanced _ source target => some (source, target)
  | _ => none

def moves (attempt : Attempt) : List (Lifecycle × Lifecycle) :=
  attempt.log.filterMap Event.move?

/-- The states of an attempt, oldest first. -/
def history (attempt : Attempt) : List Lifecycle :=
  .notStarted :: attempt.moves.map Prod.snd

/-- What the log of an attempt shows above the level of debugging. -/
def verdicts (attempt : Attempt) : List Event :=
  attempt.log.filter fun event => event.level != .debug

/-- The states of a mode before the last one. -/
def path : Mode → List Lifecycle
  | .probe => [.notStarted, .launched, .requestSent, .awaitingExit]
  | .run => [.notStarted, .launched, .requestSent]

def Ending.level (ending : Ending) : Level :=
  match ending with
  | .failed .cancelled => .info
  | .failed _ => .error
  | _ => if ending.missingProfile then .warning else .info

variable {broker : Broker} {mode : Mode} {attempt next : Attempt} {states : List Lifecycle}
  {ending : Ending} {event : Event} {tick : Tick}

/-! ### Entries and moves -/

theorem moves_note (attempt : Attempt) (event : Event) :
    (attempt.note event).moves = attempt.moves ++ event.move?.toList := by
  rw [moves, note, List.filterMap_append]
  cases event <;> rfl

theorem history_note (attempt : Attempt) (still : event.move? = none) :
    (attempt.note event).history = attempt.history := by
  rw [history, moves_note, still, Option.toList_none, List.append_nil]
  rfl

theorem history_advance (attempt : Attempt) (target : Lifecycle) :
    (attempt.advance target).history = attempt.history ++ [target] := by
  rw [history, advance, moves_note]
  simp [history, moves, Event.move?]

theorem move?_event (ending : Ending) (mode : Mode) : (ending.event mode).move? = none := by
  cases ending with
  | failed failure => cases mode <;> rfl
  | _ => rfl

theorem history_finish (attempt : Attempt) (ending : Ending) :
    (attempt.finish ending).history = attempt.history ++ [ending.lifecycle] := by
  rw [← history_advance]
  exact history_note _ (move?_event ending attempt.mode)

theorem verdicts_note (attempt : Attempt) (event : Event) : (attempt.note event).verdicts =
    attempt.verdicts ++ if event.level = .debug then [] else [event] := by
  rw [verdicts, note, List.filter_append]
  by_cases quiet : event.level = .debug
  · simp [verdicts, quiet]
  · simp [verdicts, quiet]

theorem level_event (apt : ending = .failed .cancelled → mode = .probe) :
    (ending.event mode).level = ending.level := by
  cases ending with
  | authenticated user => rfl
  | handedOff => rfl
  | failed failure =>
      cases mode with
      | probe => cases failure <;> rfl
      | run =>
          cases failure with
          | cancelled => simp at apt
          | _ => rfl

theorem level_ne_debug (ending : Ending) : ending.level ≠ .debug := by
  unfold Ending.level
  split
  · decide
  · decide
  · split <;> decide

theorem zip_tail_concat {α : Type} {items : List α} {last : α} (ends : items.getLast? = some last) (item : α) :
    (items ++ [item]).zip (items ++ [item]).tail = items.zip items.tail ++ [(last, item)] := by
  induction items with
  | nil => contradiction
  | cons head items ih =>
      cases items with
      | nil =>
          cases ends
          rfl
      | cons second items =>
          have more := ih (by rwa [List.getLast?_cons_cons] at ends)
          simpa using more

/-- The attempt has gone through these states, and is in the last of them. -/
structure Passed (states : List Lifecycle) (attempt : Attempt) : Prop where
  history : attempt.history = states
  moves : attempt.moves = states.zip states.tail
  current : states.getLast? = some attempt.lifecycle

theorem Passed.of_log (passed : Passed states attempt) (log : next.log = attempt.log)
    (lifecycle : next.lifecycle = attempt.lifecycle) : Passed states next := by
  refine ⟨?_, ?_, ?_⟩
  · rw [Attempt.history, Attempt.moves, log]
    exact passed.history
  · rw [Attempt.moves, log]
    exact passed.moves
  · rw [lifecycle]
    exact passed.current

theorem Passed.note (passed : Passed states attempt) (still : event.move? = none) :
    Passed states (attempt.note event) := by
  have unmoved : (attempt.note event).moves = attempt.moves := by
    rw [moves_note, still, Option.toList_none, List.append_nil]
  exact ⟨(history_note attempt still).trans passed.history, unmoved.trans passed.moves, passed.current⟩

theorem Passed.advance (passed : Passed states attempt) (target : Lifecycle) :
    Passed (states ++ [target]) (attempt.advance target) := by
  have moved : (attempt.advance target).moves = attempt.moves ++ [(attempt.lifecycle, target)] :=
    moves_note _ _
  refine ⟨?_, ?_, ?_⟩
  · rw [history_advance, passed.history]
  · rw [moved, passed.moves, zip_tail_concat passed.current]
  · rw [List.getLast?_concat]
    rfl

/-! ### Attempts on their way -/

/-- The attempt has gone through these states and has not told how it ended. -/
structure Underway (mode : Mode) (states : List Lifecycle) (attempt : Attempt) : Prop where
  mode : attempt.mode = mode
  passed : Passed states attempt
  quiet : attempt.verdicts = []

/-- The attempt is over: it has left the path of its mode, for the state of its ending, and
has told of it once. -/
structure Closed (mode : Mode) (ending : Ending) (attempt : Attempt) : Prop where
  passed : ∃ states, states ≠ [] ∧ states <+: path mode ∧ (ending.succeeded = true → states = path mode) ∧
    Passed (states ++ [ending.lifecycle]) attempt
  verdict : ∃ event, attempt.verdicts = [event] ∧ event.level = ending.level

/-- What holds of an attempt at each stage. -/
def Progress (mode : Mode) (attempt : Attempt) : Prop :=
  match attempt.stage with
  | .sending => Underway mode [.notStarted, .launched] attempt ∧ attempt.outgoing.stage ≠ .finished
  | .waiting => mode = .probe ∧ Underway mode (path mode) attempt
  | .reading _ => mode = .probe ∧ Underway mode (path mode) attempt
  | .over ending => Closed mode ending attempt

theorem Underway.of_log (underway : Underway mode states attempt) (sameMode : next.mode = attempt.mode)
    (log : next.log = attempt.log) (lifecycle : next.lifecycle = attempt.lifecycle) :
    Underway mode states next := by
  refine ⟨sameMode.trans underway.mode, underway.passed.of_log log lifecycle, ?_⟩
  rw [verdicts, log]
  exact underway.quiet

theorem Underway.advance (underway : Underway mode states attempt) (target : Lifecycle) :
    Underway mode (states ++ [target]) (attempt.advance target) := by
  refine ⟨underway.mode, underway.passed.advance target, ?_⟩
  rw [Attempt.advance, verdicts_note]
  exact (List.append_nil _).trans underway.quiet

theorem Underway.finish (underway : Underway mode states attempt) (begun : states ≠ [])
    (onPath : states <+: path mode) (complete : ending.succeeded = true → states = path mode)
    (apt : ending = .failed .cancelled → mode = .probe) : Progress mode (attempt.finish ending) := by
  have advanced := underway.advance ending.lifecycle
  have level := level_event apt
  rw [← underway.mode] at level
  refine ⟨⟨states, begun, onPath, complete, ?_⟩, ending.event attempt.mode, ?_, level⟩
  · exact (advanced.passed.note (move?_event ending attempt.mode)).of_log rfl rfl
  · have loud : (ending.event attempt.mode).level ≠ .debug := level ▸ level_ne_debug ending
    have told := verdicts_note (attempt.advance ending.lifecycle) (ending.event attempt.mode)
    rw [advanced.quiet, if_neg loud] at told
    exact told

theorem Underway.fail {failure : Failure} (underway : Underway mode states attempt) (begun : states ≠ [])
    (onPath : states <+: path mode) (apt : failure = .cancelled → mode = .probe) :
    Progress mode (attempt.fail failure) :=
  underway.finish begun onPath (fun succeeded => by contradiction) fun same => apt (Ending.failed.inj same)

theorem launched_onPath (mode : Mode) : [.notStarted, .launched] <+: path mode := by
  cases mode with
  | probe => exact ⟨[.requestSent, .awaitingExit], rfl⟩
  | run => exact ⟨[.requestSent], rfl⟩

theorem Progress.sending (progress : Progress mode attempt) (stage : attempt.stage = .sending) :
    Underway mode [.notStarted, .launched] attempt ∧ attempt.outgoing.stage ≠ .finished := by
  simpa only [Progress, stage] using progress

theorem Progress.waiting (progress : Progress mode attempt) (stage : attempt.stage = .waiting) :
    mode = .probe ∧ Underway mode (path mode) attempt := by
  simpa only [Progress, stage] using progress

theorem Progress.reading {incoming : Frame.Incoming} (progress : Progress mode attempt)
    (stage : attempt.stage = .reading incoming) : mode = .probe ∧ Underway mode (path mode) attempt := by
  simpa only [Progress, stage] using progress

theorem stage_of_ending? (ended : attempt.ending? = some ending) : attempt.stage = .over ending := by
  unfold ending? at ended
  split at ended
  · rename_i final stage
    rw [stage, Option.some.inj ended]
  · contradiction

theorem Progress.closed (progress : Progress mode attempt) (ended : attempt.ending? = some ending) :
    Closed mode ending attempt := by
  simpa only [Progress, stage_of_ending? ended] using progress

theorem Progress.underway (progress : Progress mode attempt) (unended : attempt.ending? = none) :
    ∃ states, states ≠ [] ∧ states <+: path mode ∧ Underway mode states attempt := by
  cases stage : attempt.stage with
  | sending => exact ⟨_, by decide, launched_onPath mode, (progress.sending stage).1⟩
  | waiting =>
      obtain ⟨rfl, underway⟩ := progress.waiting stage
      exact ⟨_, by decide, List.prefix_rfl, underway⟩
  | reading incoming =>
      obtain ⟨rfl, underway⟩ := progress.reading stage
      exact ⟨_, by decide, List.prefix_rfl, underway⟩
  | _ => simp [ending?, stage] at unended

theorem Progress.transmitted (progress : Progress mode attempt) (stage : attempt.stage = .sending)
    (answer : Answer) : Underway mode [.notStarted, .launched] (attempt.transmitted answer) :=
  (progress.sending stage).1.of_log rfl rfl rfl

/-! ### What a step keeps -/

theorem progress_sent (underway : Underway mode [.notStarted, .launched] attempt) :
    Progress mode attempt.sent := by
  have requested := underway.advance .requestSent
  unfold sent
  rw [underway.mode]
  cases mode with
  | probe => exact ⟨rfl, (requested.advance .awaitingExit).of_log rfl rfl rfl⟩
  | run => exact requested.finish (by decide) List.prefix_rfl (fun _ => rfl) (by simp)

theorem progress_exited (codes : ExitCodes) (status : WaitStatus)
    (underway : Underway .probe (path .probe) attempt) :
    Progress .probe (attempt.helperExited codes status) := by
  have noted : Underway .probe (path .probe) (attempt.note (.helperExited status)) := by
    refine ⟨underway.mode, underway.passed.note rfl, ?_⟩
    rw [verdicts_note]
    exact (List.append_nil _).trans underway.quiet
  unfold helperExited
  dsimp only
  split
  · exact ⟨rfl, noted.of_log rfl rfl rfl⟩
  · exact noted.fail (by decide) List.prefix_rfl (fun _ => rfl)

theorem progress_launched (mode : Mode) (payload : List UInt8) : Progress mode (launched mode payload) := by
  have started : Underway mode [.notStarted] (start mode payload) := ⟨rfl, ⟨rfl, rfl, rfl⟩, rfl⟩
  have unsent : (Frame.Outgoing.start payload).stage ≠ .finished := by
    unfold Frame.Outgoing.start
    split <;> simp
  exact ⟨started.advance .launched, unsent⟩

theorem progress_unlaunched (mode : Mode) (payload : List UInt8) (path : FilePath) (error : Stream.IoError) :
    Progress mode (unlaunched mode payload (.launch path error)) := by
  have started : Underway mode [.notStarted] (start mode payload) := ⟨rfl, ⟨rfl, rfl, rfl⟩, rfl⟩
  have onPath : [.notStarted] <+: Attempt.path mode := by cases mode <;> exact ⟨_, rfl⟩
  cases mode with
  | probe => exact started.fail (by decide) onPath (by simp)
  | run =>
      have crashed := started.advance .crashed
      exact ⟨⟨_, by decide, onPath, by simp [Ending.succeeded], (crashed.passed.note rfl).of_log rfl rfl⟩,
        _, rfl, rfl⟩

theorem Progress.step (progress : Progress mode attempt) (tick : Tick) :
    Progress mode (attempt.step broker tick) := by
  rcases step_cases broker attempt tick with ⟨-, heeds, stepped⟩ | ⟨-, goes⟩
  · have unended : attempt.ending? = none := by
      unfold heedsCancellation at heeds
      split at heeds
      · simp [ending?, *]
      · simp [ending?, *]
      · contradiction
    have probe : attempt.mode = .probe := by
      unfold heedsCancellation at heeds
      split at heeds
      · assumption
      · assumption
      · contradiction
    obtain ⟨states, begun, onPath, underway⟩ := progress.underway unended
    rw [stepped]
    exact underway.fail begun onPath fun _ => underway.mode.symm.trans probe
  · generalize attempt.step broker tick = next at goes
    cases goes with
    | sent stage finished =>
        exact progress_sent (progress.transmitted stage tick.answer)
    | unsent stage failed =>
        refine (progress.transmitted stage tick.answer).fail (by decide) (launched_onPath mode) fun same => ?_
        unfold sendFailure at same
        split at same <;> contradiction
    | writes stage unfinished unfailed =>
        have unmoved : (attempt.transmitted tick.answer).stage = .sending := stage
        rw [Progress, unmoved]
        exact ⟨progress.transmitted stage tick.answer, unfinished⟩
    | waits stage => exact progress
    | @exited status stage answer =>
        obtain ⟨rfl, underway⟩ := progress.waiting stage
        exact progress_exited broker.codes status (underway.of_log rfl rfl rfl)
    | @unwatched error stage answer =>
        obtain ⟨rfl, underway⟩ := progress.waiting stage
        have awaited : Underway .probe (path .probe) (attempt.await (.error error)) :=
          underway.of_log rfl rfl rfl
        exact awaited.fail (by decide) List.prefix_rfl (fun _ => rfl)
    | reads stage unended =>
        obtain ⟨rfl, underway⟩ := progress.reading stage
        exact ⟨rfl, underway.of_log rfl rfl rfl⟩
    | replied stage ended =>
        obtain ⟨rfl, underway⟩ := progress.reading stage
        exact underway.finish (by decide) List.prefix_rfl (fun _ => rfl) (fun _ => rfl)
    | late unended timedOut =>
        obtain ⟨states, begun, onPath, underway⟩ := progress.underway unended
        exact underway.fail begun onPath (by simp)
    | ended stage => exact progress

/-- Cleaning up leaves no trace in the states and in the log. -/
theorem Progress.dismiss (progress : Progress mode attempt) (cleanup : Child.Cleanup) :
    Progress mode (attempt.dismiss cleanup) := by
  obtain ⟨child, same⟩ := exists_dismiss attempt cleanup
  rw [same]
  cases stage : attempt.stage with
  | sending =>
      obtain ⟨underway, unsent⟩ := progress.sending stage
      simpa only [Progress, stage] using ⟨underway.of_log rfl rfl rfl, unsent⟩
  | waiting =>
      obtain ⟨probe, underway⟩ := progress.waiting stage
      simpa only [Progress, stage] using ⟨probe, underway.of_log rfl rfl rfl⟩
  | reading incoming =>
      obtain ⟨probe, underway⟩ := progress.reading stage
      simpa only [Progress, stage] using ⟨probe, underway.of_log rfl rfl rfl⟩
  | _ =>
      obtain ⟨⟨states, begun, onPath, complete, passed⟩, verdict⟩ :=
        progress.closed (show attempt.ending? = some _ by rw [ending?, stage])
      simpa only [Progress, stage] using
        ⟨⟨states, begun, onPath, complete, passed.of_log rfl rfl⟩, verdict⟩

theorem progress_of_arises {payload : List UInt8} (arises : Arises broker mode payload attempt) :
    Progress mode attempt := by
  induction arises with
  | unlaunched path error => exact progress_unlaunched mode payload path error
  | followed ticks =>
      exact follow_keeps (progress_launched mode payload) (fun _ tick progress => progress.step tick) ticks
  | dismissed cleanup _ ih => exact ih.dismiss cleanup

/-! ### Endings -/

theorem isTerminal_lifecycle (ending : Ending) : ending.lifecycle.isTerminal = true := by
  cases ending with
  | failed failure => cases failure <;> rfl
  | _ => rfl

theorem lifecycle_eq_succeeded_iff : ending.lifecycle = .succeeded ↔ ending.succeeded = true := by
  cases ending with
  | failed failure => cases failure <;> simp [Ending.lifecycle, Ending.succeeded, Lifecycle.ofFailureKind, Failure.kind]
  | _ => simp [Ending.lifecycle, Ending.succeeded]

theorem lifecycle_eq_timedOut_iff : ending.lifecycle = .timedOut ↔ ending.failureKind? = some .timeout := by
  cases ending with
  | failed failure =>
      cases failure <;>
        simp [Ending.lifecycle, Ending.failureKind?, Ending.failure?, Lifecycle.ofFailureKind, Failure.kind]
  | _ => simp [Ending.lifecycle, Ending.failureKind?, Ending.failure?]

theorem succeeded_iff : ending.succeeded = true ↔
    ending.failure? = none ∧ ending.failureKind? = none ∧ ending.diagnostic? = none := by
  cases ending <;> simp [Ending.succeeded, Ending.failure?, Ending.failureKind?, Ending.diagnostic?]

theorem path_not_terminal (mode : Mode) : ∀ state ∈ path mode, state.isTerminal = false := by
  cases mode <;> decide

theorem nodup_path (mode : Mode) : (path mode).Nodup := by
  cases mode <;> decide

theorem Underway.nodup (underway : Underway mode states attempt) (onPath : states <+: path mode) :
    attempt.history.Nodup := by
  rw [underway.passed.history]
  exact onPath.sublist.nodup (nodup_path mode)

theorem Closed.nodup (closed : Closed mode ending attempt) : attempt.history.Nodup := by
  obtain ⟨states, -, onPath, -, passed⟩ := closed.passed
  rw [passed.history, List.nodup_append]
  refine ⟨onPath.sublist.nodup (nodup_path mode), by simp, ?_⟩
  intro state member final last same
  have terminal := isTerminal_lifecycle ending
  rw [← List.mem_singleton.mp last, ← same, path_not_terminal mode state (onPath.subset member)] at terminal
  contradiction

theorem Ending.level_cases (ending : Ending) :
    (ending = .authenticated ⟨""⟩ → ending.level = .warning) ∧
    (ending.succeeded = true → ending ≠ .authenticated ⟨""⟩ → ending.level = .info) ∧
    (ending = .failed .cancelled → ending.level = .info) ∧
    ∀ failure, ending = .failed failure → failure ≠ .cancelled → ending.level = .error := by
  cases ending with
  | authenticated user =>
      obtain ⟨profile⟩ := user
      simp [level, missingProfile, Authenticated.missingProfile, String.isEmpty_iff]
  | handedOff => simp [level, missingProfile]
  | failed failure => cases failure <;> simp [level, succeeded]

/-- The states of an attempt, and what its log shows.  The attempt goes along the path of its
mode, one entry of the log a move, and leaves it once, for a last state in which it stays: it
succeeds only from the end of the path.  Until then a call that takes too long ends it.  What
its caller learns agrees with the last state, and one entry of the log tells of it. -/
theorem keeps_to_path (broker : Broker) (mode : Mode) (payload : List UInt8) (attempt : Attempt)
    (arises : Arises broker mode payload attempt) :
    attempt.moves = attempt.history.zip attempt.history.tail ∧
    attempt.history.getLast? = some attempt.lifecycle ∧ attempt.history.Nodup ∧
    (attempt.ending? = none → attempt.history ≠ [] ∧ attempt.history <+: path mode ∧
      attempt.verdicts = [] ∧
      ∀ cancelled, (attempt.step broker ⟨cancelled, .pending, true⟩).ending? ≠ none) ∧
    ∀ ending, attempt.ending? = some ending →
      (∃ states, states ≠ [] ∧ states <+: path mode ∧ attempt.history = states ++ [attempt.lifecycle] ∧
        (attempt.lifecycle = .succeeded → states = path mode)) ∧
      attempt.lifecycle.isTerminal = true ∧ (∀ ticks, attempt.follow broker ticks = attempt) ∧
      (attempt.lifecycle = .succeeded ↔ ending.succeeded = true) ∧
      (ending.succeeded = true ↔
        ending.failure? = none ∧ ending.failureKind? = none ∧ ending.diagnostic? = none) ∧
      (attempt.lifecycle = .timedOut ↔ ending.failureKind? = some .timeout) ∧
      (ending.succeeded = false → ending.profile = "" ∧ ending.missingProfile = false) ∧
      ∃ event, attempt.verdicts = [event] ∧
        (ending = .authenticated ⟨""⟩ → event.level = .warning) ∧
        (ending.succeeded = true → ending ≠ .authenticated ⟨""⟩ → event.level = .info) ∧
        (ending = .failed .cancelled → event.level = .info) ∧
        ∀ failure, ending = .failed failure → failure ≠ .cancelled → event.level = .error := by
  have progress := progress_of_arises arises
  cases ended : attempt.ending? with
  | none =>
      obtain ⟨states, begun, onPath, underway⟩ := progress.underway ended
      have history := underway.passed.history
      refine ⟨?_, ?_, underway.nodup onPath, fun _ => ⟨?_, ?_, underway.quiet, ?_⟩, by simp⟩
      · rw [history, underway.passed.moves]
      · rw [history, underway.passed.current]
      · rwa [history]
      · rwa [history]
      · intro cancelled
        exact ending?_step_late cancelled fun stage => (progress.sending stage).2
  | some final =>
      have closed := progress.closed ended
      obtain ⟨states, begun, onPath, complete, passed⟩ := closed.passed
      obtain ⟨event, told, level⟩ := closed.verdict
      have last : attempt.lifecycle = final.lifecycle := by
        have current := passed.current
        rw [List.getLast?_concat] at current
        exact (Option.some.inj current).symm
      have history := passed.history
      refine ⟨?_, ?_, closed.nodup, by simp, ?_⟩
      · rw [history, passed.moves]
      · rw [history, passed.current]
      · intro ending same
        rw [← Option.some.inj same, last]
        refine ⟨⟨states, begun, onPath, history, ?_⟩, isTerminal_lifecycle final, follow_over ended,
          lifecycle_eq_succeeded_iff, succeeded_iff, lifecycle_eq_timedOut_iff, ?_, event, told, ?_⟩
        · intro succeeded
          exact complete (lifecycle_eq_succeeded_iff.mp succeeded)
        · intro unsuccessful
          cases final with
          | failed failure => exact ⟨rfl, rfl⟩
          | _ => contradiction
        · rw [level]
          exact final.level_cases

/-- A probe whose helper has its request, exits with code zero and names no directory. -/
theorem keeps_to_path_warning :
    let broker := Broker.english .standard
    let reply := Reply.encode .result ""
    let ticks : List Tick := [.wrote 4, .wrote 1, .exited ⟨0⟩, .received (Frame.lengthOctets reply.length),
      .received reply].map fun answer => ⟨false, answer, false⟩
    let attempt := (launched .probe [7]).follow broker ticks
    attempt.ending? = some (.authenticated ⟨""⟩) ∧ attempt.history = path .probe ++ [.succeeded] ∧
      ∃ event, attempt.verdicts = [event] ∧ event.level = .warning := by
  intro broker reply ticks attempt
  have ended : attempt.ending? = some (.authenticated ⟨""⟩) := by decide +kernel
  obtain ⟨-, -, -, -, closed⟩ := keeps_to_path broker .probe [7] attempt (.followed ticks)
  obtain ⟨⟨states, -, -, history, complete⟩, -, -, succeeded, -, -, -, event, told, warns, -⟩ :=
    closed _ ended
  have final : attempt.lifecycle = .succeeded := succeeded.mpr rfl
  rw [complete final, final] at history
  exact ⟨ended, history, event, told, warns rfl⟩

end AuthBroker.Attempt
