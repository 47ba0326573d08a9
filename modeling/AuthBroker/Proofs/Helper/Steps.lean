import AuthBroker.Helper.Basic

namespace AuthBroker.Helper

open AuthBroker.Stream

/-! What a step of a helper can do.

This is said once, with a case for each action and each way in which it can go, and so is what the pipes do
for it.  What steps preserve is proved by these cases and not by those of the functions.
-/

/-- What a helper can do at a time, if it is awake and has not ended. -/
inductive Does (helper : Helper) (now : Nat) : Helper → Prop
  | returns (nothing : helper.script = []) : Does helper now (helper.finish (.ofCode 0))
  | reaches {mark : Mark} {script : List Action} (scripted : helper.script = .reach mark :: script) :
      Does helper now { helper with script, reached := helper.reached ++ [mark] }
  | reads {octets : List UInt8} {input : Pipe} {script : List Action} (scripted : helper.script = .readInput :: script)
      (read : helper.input.read Pipe.usualCapacity = some (octets, input)) (notEmpty : octets ≠ []) :
      Does helper now { helper with input, received := octets.reverseAux helper.received }
  | hasRead {input : Pipe} {script : List Action} (scripted : helper.script = .readInput :: script)
      (read : helper.input.read Pipe.usualCapacity = some ([], input)) : Does helper now { helper with script }
  | complains {octets rest : List UInt8} {errors : Pipe} {script : List Action}
      (scripted : helper.script = .complain octets :: script)
      (written : tryWrite helper.errors octets = some (errors, rest)) :
      Does helper now { helper with
        script := if rest.isEmpty then script else .complain rest :: script
        errors := if helper.errorsDrained then { errors with held := [] } else errors }
  | prints {octets rest : List UInt8} {output : Pipe} {script : List Action}
      (scripted : helper.script = .print octets :: script)
      (written : tryWrite helper.output octets = some (output, rest)) :
      Does helper now { helper with script := if rest.isEmpty then script else .print rest :: script, output }
  | sleeps {millis : Nat} {script : List Action} (scripted : helper.script = .sleep millis :: script) :
      Does helper now { helper with script, wake := now + millis }
  | holds {millis : Nat} {script : List Action} (scripted : helper.script = .holdOutput millis :: script) :
      Does helper now { helper with
        script
        outputHeld := if millis = 0 then helper.outputHeld else some (now + millis) }
  | exits {code : Nat} {script : List Action} (scripted : helper.script = .exit code :: script) :
      Does helper now (helper.finish (.ofCode code))
  | survives {signal : Nat} {script : List Action} (scripted : helper.script = .raise signal :: script)
      (effect : signalEffect signal = .nothing) : Does helper now { helper with script }
  | dies {signal : Nat} {script : List Action} (scripted : helper.script = .raise signal :: script)
      (effect : signalEffect signal = .death) : Does helper now (helper.finish (.ofSignal signal))

variable {helper later : Helper} {now : Nat} {action : Action} {script : List Action} {pipe rest : Pipe}
  {octets left : List UInt8} {most : Nat}

theorem does_act (scripted : helper.script = action :: script) (acted : helper.act now action script = some later) :
    Does helper now later := by
  cases action with
  | reach mark =>
      cases acted
      exact .reaches scripted
  | readInput =>
      unfold act at acted
      dsimp only at acted
      split at acted
      · contradiction
      · rename_i read
        cases acted
        exact .hasRead scripted read
      · rename_i notEmpty read
        cases acted
        exact .reads scripted read notEmpty
  | complain octets =>
      obtain ⟨⟨errors, rest⟩, written, rfl⟩ := Option.map_eq_some_iff.mp acted
      exact .complains scripted written
  | sleep millis =>
      cases acted
      exact .sleeps scripted
  | print octets =>
      obtain ⟨⟨output, rest⟩, written, rfl⟩ := Option.map_eq_some_iff.mp acted
      exact .prints scripted written
  | holdOutput millis =>
      cases acted
      exact .holds scripted
  | exit code =>
      cases acted
      exact .exits scripted
  | raise signal =>
      unfold act at acted
      dsimp only at acted
      split at acted
      · rename_i effect
        cases acted
        exact .survives scripted effect
      · contradiction
      · rename_i effect
        cases acted
        exact .dies scripted effect

theorem step_does (does : Does helper now later) (running : helper.status = none) (awake : helper.wake ≤ now) :
    helper.step now = some later := by
  rw [step, if_neg (Nat.not_lt.mpr awake), running]
  cases does with
  | returns nothing => rw [nothing]
  | @reads octets _ _ scripted read notEmpty =>
      obtain ⟨octet, octets, rfl⟩ := List.exists_cons_of_ne_nil notEmpty
      simp only [scripted, act, read]
  | hasRead scripted read => simp only [scripted, act, read]
  | complains scripted written => simp only [scripted, act, written, Option.map_some]
  | prints scripted written => simp only [scripted, act, written, Option.map_some]
  | survives scripted effect => simp only [scripted, act, effect]
  | dies scripted effect => simp only [scripted, act, effect]
  | reaches scripted =>
      rw [scripted]
      rfl
  | sleeps scripted =>
      rw [scripted]
      rfl
  | holds scripted =>
      rw [scripted]
      rfl
  | exits scripted =>
      rw [scripted]
      rfl

theorem step_eq_some_iff :
    helper.step now = some later ↔ helper.status = none ∧ helper.wake ≤ now ∧ Does helper now later := by
  refine ⟨fun stepped => ?_, fun ⟨running, awake, does⟩ => step_does does running awake⟩
  unfold step at stepped
  split at stepped
  · contradiction
  · rename_i awake
    split at stepped
    · contradiction
    · rename_i running nothing
      cases stepped
      exact ⟨running, Nat.le_of_not_lt awake, .returns nothing⟩
    · rename_i running scripted
      exact ⟨running, Nat.le_of_not_lt awake, does_act scripted stepped⟩

/-! ### Pipes -/

theorem read_leaves (read : pipe.read most = some (octets, rest)) :
    ∃ held, rest = { pipe with held } ∧ octets ++ held = pipe.held := by
  unfold Pipe.read at read
  split at read
  · split at read
    · contradiction
    · cases read
      exact ⟨_, rfl, rfl⟩
  · cases read
    exact ⟨_, rfl, List.take_append_drop _ _⟩

theorem read_length (read : pipe.read most = some (octets, rest)) :
    octets.length + rest.held.length = pipe.held.length := by
  obtain ⟨held, rfl, same⟩ := read_leaves read
  rw [← same, List.length_append]

/-- Only a pipe that nobody writes to is read to its end. -/
theorem read_nothing (read : pipe.read most = some ([], rest)) (positive : 0 < most) : pipe.hasWriter = false := by
  unfold Pipe.read at read
  split at read
  · cases closed : pipe.hasWriter with
    | true => simp [closed] at read
    | false => rfl
  · simp_all [Nat.ne_of_gt positive]

theorem write_leaves {result : Except IoError Nat} (written : pipe.write octets = some (result, rest)) :
    ∃ held, rest = { pipe with held } := by
  unfold Pipe.write at written
  split at written
  · cases written
    exact ⟨_, rfl⟩
  · split at written
    · contradiction
    · cases written
      exact ⟨_, rfl⟩

/-- What a try at writing got into a pipe: some octets, if there were any, or none as nobody reads there. -/
theorem tryWrite_cases (written : tryWrite pipe octets = some (rest, left)) :
    ∃ count ≤ pipe.room, rest = { pipe with held := pipe.held ++ octets.take count } ∧
      (left = octets.drop count ∧ (octets ≠ [] → 0 < count) ∨ left = [] ∧ pipe.hasReader = false) := by
  unfold tryWrite at written
  split at written
  · cases written
    exact ⟨0, Nat.zero_le _, by simp, .inl ⟨rfl, fun filled => absurd rfl filled⟩⟩
  · rename_i filled
    have positive := List.length_pos_iff.mpr filled
    unfold Pipe.write at written
    by_cases reader : pipe.hasReader = true
    · by_cases full : pipe.room = 0
      · simp [reader, full] at written
      · simp only [reader, full, Bool.not_true, Bool.false_eq_true, if_false, Option.some.injEq, Prod.mk.injEq] at written
        obtain ⟨rfl, rfl⟩ := written
        refine ⟨min pipe.room octets.length, Nat.min_le_left _ _, ?_, .inl ⟨rfl, fun _ => by omega⟩⟩
        simp [List.take_eq_take_iff, reader]
    · simp only [reader, Bool.not_false, if_true, Option.some.injEq, Prod.mk.injEq] at written
      obtain ⟨rfl, rfl⟩ := written
      exact ⟨0, Nat.zero_le _, by simp, .inr ⟨rfl, Bool.eq_false_iff.mpr reader⟩⟩

/-- A write to a pipe with room leaves less than there was, if anything. -/
theorem exists_tryWrite (reader : pipe.hasReader = true) (room : octets = [] ∨ 0 < pipe.room) :
    ∃ rest left, tryWrite pipe octets = some (rest, left) ∧ (left.isEmpty = false → left.length < octets.length) := by
  cases octets with
  | nil => exact ⟨pipe, [], rfl, fun filled => Bool.noConfusion filled⟩
  | cons octet octets =>
      have room : 0 < pipe.room := room.resolve_left (List.cons_ne_nil _ _)
      have written : tryWrite pipe (octet :: octets) =
          some ({ pipe with held := pipe.held ++ (octet :: octets).take pipe.room },
            (octet :: octets).drop (min pipe.room (octet :: octets).length)) := by
        simp only [tryWrite, Pipe.write, reader, Nat.ne_of_gt room, Bool.not_true, Bool.false_eq_true, if_false]
      refine ⟨_, _, written, fun _ => ?_⟩
      rw [List.length_drop, List.length_cons]
      omega

end AuthBroker.Helper
