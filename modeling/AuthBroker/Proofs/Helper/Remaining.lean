import AuthBroker.Proofs.Helper.Replying
import Mathlib.Tactic.SplitIfs

namespace AuthBroker.Helper

open AuthBroker.Stream

/-! What is left for a helper to do.

Each step of a helper takes octets from one pipe, puts some into another or is done with an action, whatever
its script is.  So what is left goes down with each step, and can go up with none.
-/

/-- What an action leaves to do.  An octet that is printed is taken by the reader later, and what a sleep or a
child begins comes to an end later. -/
def Action.burden : Action → Nat
  | .complain octets => octets.length + 1
  | .print octets => 2 * octets.length + 1
  | .sleep _ => 2
  | .holdOutput _ => 2
  | _ => 1

def burden (script : List Action) : Nat :=
  script.foldr (fun action sum => action.burden + sum) 0

/-- What is left, with the octets that its pipes hold and the times that it waits for. -/
def remains (helper : Helper) (now : Nat) : Nat :=
  burden helper.script + helper.input.held.length + helper.output.held.length +
    helper.outputHeld.toList.length + (if helper.status = none then 1 else 0) +
    (if now < helper.wake then 1 else 0)

/-- A child holds the output for some time yet. -/
def Prompt (helper : Helper) (now : Nat) : Prop :=
  ∀ held, helper.outputHeld = some held → now < held

variable {helper later : Helper} {now clock alarm : Nat} {action : Action} {script : List Action}
  {pipe output : Pipe} {octets rest : List UInt8}

theorem burden_cons (action : Action) (script : List Action) :
    burden (action :: script) = action.burden + burden script :=
  rfl

theorem burden_le_effort (helper : Helper) : burden helper.script + 2 ≤ 2 * helper.effort := by
  generalize scripted : helper.script = script
  induction script generalizing helper with
  | nil =>
      rw [effort, scripted]
      exact Nat.le_refl _
  | cons action script ih =>
      have later := ih { helper with script } rfl
      have weight : action.burden ≤ 2 * action.weight := by
        cases action <;> simp only [Action.burden, Action.weight] <;> omega
      rw [effort_cons scripted, burden_cons]
      omega

/-! ### Steps -/

/-- Octets that a try leaves are fewer than before, and those it moves are in the pipe. -/
theorem tryWrite_moves (written : tryWrite pipe octets = some (output, rest)) :
    ∃ count, output.held.length = pipe.held.length + count ∧ rest.length + count ≤ octets.length ∧
      (rest.isEmpty = false → 0 < count) := by
  obtain ⟨count, -, rfl, ⟨rfl, moved⟩ | ⟨rfl, -⟩⟩ := tryWrite_cases written
  · refine ⟨(octets.take count).length, List.length_append, ?_, fun filled => ?_⟩
    · have same : (octets.drop count).length + (octets.take count).length = octets.length := by
        rw [Nat.add_comm, ← List.length_append, List.take_append_drop]
      exact Nat.le_of_eq same
    · rw [List.isEmpty_eq_false_iff, ← List.length_pos_iff, List.length_drop] at filled
      have positive := moved (List.length_pos_iff.mp (by omega))
      rw [List.length_take]
      omega
  · refine ⟨(octets.take count).length, List.length_append, ?_, fun filled => Bool.noConfusion filled⟩
    rw [List.length_nil, Nat.zero_add]
    exact List.length_take_le' _ _

theorem remains_finish_lt (running : helper.status = none) (status : WaitStatus) :
    (helper.finish status).remains now < helper.remains now := by
  have output : (helper.finish status).output.held = helper.output.held := by
    unfold finish
    dsimp only
    split <;> rfl
  have left : (helper.finish status).remains now = 0 + 0 + helper.output.held.length +
      helper.outputHeld.toList.length + 0 + (if now < helper.wake then 1 else 0) := by
    rw [remains, output]
    rfl
  rw [left, remains, if_pos running]
  omega

theorem remains_step_lt (stepped : helper.step now = some later) : later.remains now < helper.remains now := by
  obtain ⟨running, -, does⟩ := step_eq_some_iff.mp stepped
  cases does with
  | returns _ => exact remains_finish_lt running _
  | exits _ => exact remains_finish_lt running _
  | dies _ _ => exact remains_finish_lt running _
  | reads _ read notEmpty =>
      have fewer := read_length read
      have positive := List.length_pos_iff.mpr notEmpty
      simp only [remains]
      omega
  | hasRead scripted _ =>
      simp only [remains, scripted, burden_cons, Action.burden]
      omega
  | survives scripted _ =>
      simp only [remains, scripted, burden_cons, Action.burden]
      omega
  | reaches scripted =>
      simp only [remains, scripted, burden_cons, Action.burden]
      omega
  | @complains octets rest errors script scripted written =>
      obtain ⟨count, -, fewer, moved⟩ := tryWrite_moves written
      cases complete : rest.isEmpty with
      | true =>
          simp only [remains, scripted, burden_cons, Action.burden, if_true]
          omega
      | false =>
          have positive := moved complete
          simp only [remains, scripted, burden_cons, Action.burden, Bool.false_eq_true, if_false]
          omega
  | @prints octets rest output script scripted written =>
      obtain ⟨count, held, fewer, moved⟩ := tryWrite_moves written
      cases complete : rest.isEmpty with
      | true =>
          simp only [remains, scripted, burden_cons, Action.burden, if_true, held]
          omega
      | false =>
          have positive := moved complete
          simp only [remains, scripted, burden_cons, Action.burden, Bool.false_eq_true, if_false, held]
          omega
  | sleeps scripted =>
      simp only [remains, scripted, burden_cons, Action.burden]
      split_ifs <;> omega
  | @holds millis script scripted =>
      have begun : (if millis = 0 then helper.outputHeld else some (now + millis)).toList.length ≤
          helper.outputHeld.toList.length + 1 := by
        split_ifs
        · exact Nat.le_succ _
        · exact Nat.le_add_left _ _
      simp only [remains, scripted, burden_cons, Action.burden]
      omega

/-- A step that begins to hold the output does so for some time. -/
theorem Prompt.step (prompt : helper.Prompt now) (stepped : helper.step now = some later) : later.Prompt now := by
  obtain ⟨-, -, does⟩ := step_eq_some_iff.mp stepped
  cases does with
  | holds _ =>
      intro held begun
      dsimp only at begun
      split at begun
      · exact prompt held begun
      · cases begun
        omega
  | _ => exact prompt

/-! ### Time -/

theorem alarm_cases (set : helper.alarm? now = some alarm) :
    (now < helper.wake ∧ alarm = helper.wake) ∨ helper.outputHeld = some alarm := by
  unfold alarm? at set
  dsimp only at set
  split at set
  · rename_i waking held
    split_ifs at waking with asleep
    cases waking
    cases set
    rcases Nat.le_total helper.wake _ with first | first
    · exact .inl ⟨(Bool.and_eq_true_iff.mp asleep).2 |> of_decide_eq_true, Nat.min_eq_left first⟩
    · exact .inr (by rw [held, Nat.min_eq_right first])
  · rename_i waking held
    split_ifs at waking with asleep
    cases waking
    cases set
    exact .inl ⟨of_decide_eq_true (Bool.and_eq_true_iff.mp asleep).2, rfl⟩
  · exact .inr set

theorem Prompt.lt_alarm (prompt : helper.Prompt now) (set : helper.alarm? now = some alarm) : now < alarm := by
  rcases alarm_cases set with ⟨asleep, rfl⟩ | held
  · exact asleep
  · exact prompt alarm held

/-- The output is held on to, or let go. -/
theorem elapse_cases (helper : Helper) (clock : Nat) :
    (helper.elapse clock = helper ∧ ∀ held, helper.outputHeld = some held → clock < held) ∨
    ∃ held output, helper.outputHeld = some held ∧ output.held = helper.output.held ∧
      helper.elapse clock = { helper with outputHeld := none, output } := by
  unfold elapse
  split
  · rename_i held holding
    split
    · refine .inr ⟨held, _, holding, ?_, rfl⟩
      split <;> rfl
    · rename_i early
      refine .inl ⟨rfl, fun held' same => ?_⟩
      rw [holding, Option.some.injEq] at same
      exact same ▸ Nat.lt_of_not_le early
  · rename_i free
    exact .inl ⟨rfl, fun held holding => by simp [free] at holding⟩

theorem prompt_elapse (helper : Helper) (clock : Nat) : (helper.elapse clock).Prompt clock := by
  rcases elapse_cases helper clock with ⟨same, prompt⟩ | ⟨held, output, -, -, elapsed⟩
  · rw [same]
    exact prompt
  · rw [elapsed]
    intro held holding
    contradiction

theorem remains_elapse_le (passed : now ≤ clock) : (helper.elapse clock).remains clock ≤ helper.remains now := by
  rcases elapse_cases helper clock with ⟨same, -⟩ | ⟨held, output, holding, octets, elapsed⟩
  · rw [same, remains, remains]
    split_ifs <;> omega
  · rw [elapsed, remains, remains, octets, holding]
    simp only [Option.toList_none, Option.toList_some, List.length_nil, List.length_singleton]
    split_ifs <;> omega

/-- When an alarm is due there is one thing less to wait for. -/
theorem remains_elapse_lt (prompt : helper.Prompt now) (set : helper.alarm? now = some clock) :
    (helper.elapse clock).remains clock < helper.remains now := by
  have passed := Nat.le_of_lt (prompt.lt_alarm set)
  rcases elapse_cases helper clock with ⟨same, early⟩ | ⟨held, output, holding, octets, elapsed⟩
  · rcases alarm_cases set with ⟨asleep, rfl⟩ | held
    · rw [same, remains, remains, if_pos asleep, if_neg (Nat.lt_irrefl _)]
      exact Nat.lt_succ_self _
    · exact absurd (early clock held) (Nat.lt_irrefl _)
  · rw [elapsed, remains, remains, octets, holding]
    simp only [Option.toList_none, Option.toList_some, List.length_nil, List.length_singleton]
    split_ifs <;> omega

end AuthBroker.Helper
