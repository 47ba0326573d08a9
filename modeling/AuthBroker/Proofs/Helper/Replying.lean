import AuthBroker.Proofs.Helper.Steps

namespace AuthBroker.Helper

open AuthBroker.Stream

/-! Helpers that read their request, print a reply and exit.

What such a helper can do at a step is said once, by `Proceeds`.  Whether its output has room for the reply
decides the rest: with room it is never blocked, and without it never exits, but gets on until the output is
full.
-/

/-- Actions that have nothing to do with the request and the reply. -/
def Action.isAside : Action → Bool
  | .reach _ => true
  | .complain _ => true
  | .sleep _ => true
  | .holdOutput _ => true
  | .raise signal => decide (signalEffect signal = .nothing)
  | _ => false

/-- The scripts that read the request, print octets and exit well.  The flag says that the request was read,
and the octets are those that are still to be printed. -/
inductive Replies : Bool → List UInt8 → List Action → Prop
  | returns : Replies true [] []
  | exits (later : List Action) : Replies true [] (.exit 0 :: later)
  | read {left : List UInt8} {later : List Action} (replies : Replies true left later) :
      Replies false left (.readInput :: later)
  | print {octets left : List UInt8} {later : List Action} (replies : Replies true left later) :
      Replies true (octets ++ left) (.print octets :: later)
  | aside {taken : Bool} {left : List UInt8} {action : Action} {later : List Action}
      (aside : action.isAside = true) (replies : Replies taken left later) : Replies taken left (action :: later)

def Action.nap : Action → Nat
  | .sleep millis => millis
  | _ => 0

/-- How long a script sleeps in all. -/
def naps (script : List Action) : Nat :=
  script.foldr (fun action sum => action.nap + sum) 0

/-- A step of a helper by its script, which may get less out of a pipe or into it than there is room for. -/
inductive Acts (helper : Helper) (now : Nat) : Helper → Prop
  | usual {later : Helper} (stepped : helper.step now = some later) : Acts helper now later
  | reads {most : Nat} {octets : List UInt8} {input : Pipe} {script : List Action} (running : helper.status = none)
      (awake : helper.wake ≤ now) (reading : helper.script = .readInput :: script) (notEmpty : octets ≠ [])
      (read : helper.input.read most = some (octets, input)) :
      Acts helper now { helper with input, received := octets.reverseAux helper.received }
  | prints {octets : List UInt8} {count : Nat} {script : List Action} (running : helper.status = none)
      (awake : helper.wake ≤ now) (printing : helper.script = .print octets :: script) (positive : 0 < count)
      (room : count ≤ helper.output.room) (few : count < octets.length) :
      Acts helper now { helper with
        script := .print (octets.drop count) :: script
        output := { helper.output with held := helper.output.held ++ octets.take count } }

/-- A helper that can do nothing but wait for room in its output. -/
structure Blocked (helper : Helper) (now : Nat) : Prop where
  running : helper.status = none
  awake : helper.wake ≤ now
  printing : ∃ octets later, octets ≠ [] ∧ helper.script = .print octets :: later
  read : helper.output.hasReader = true
  full : helper.output.room = 0

variable {helper later : Helper} {now capacity : Nat} {taken : Bool} {reply left octets : List UInt8}
  {action : Action} {script : List Action}

theorem replies_plainly (octets : List UInt8) : Replies false octets [.readInput, .print octets, .exit 0] := by
  have printed : Replies true (octets ++ []) [.print octets, .exit 0] := .print (.exits [])
  rw [List.append_nil] at printed
  exact .read printed

theorem naps_cons (action : Action) (script : List Action) : naps (action :: script) = action.nap + naps script :=
  rfl

theorem effort_cons (scripted : helper.script = action :: script) :
    helper.effort = action.weight + { helper with script }.effort := by
  have shift (actions : List Action) (start : Nat) : actions.foldl (fun sum action => sum + action.weight) start =
      start + actions.foldl (fun sum action => sum + action.weight) 0 := by
    induction actions generalizing start with
    | nil => rfl
    | cons action actions ih =>
        simp only [List.foldl_cons]
        rw [ih, ih (0 + action.weight)]
        omega
  rw [effort, effort, scripted, List.foldl_cons, shift, shift script 1]
  omega

theorem elapse_running (running : helper.status = none) (clock : Nat) :
    ∃ outputHeld, helper.elapse clock = { helper with outputHeld } := by
  unfold elapse
  split
  · split
    · exact ⟨none, by simp [running]⟩
    · exact ⟨_, rfl⟩
  · exact ⟨_, rfl⟩

/-! ### What a step can do -/

/-- A step of a helper that is to reply. -/
inductive Proceeds (taken : Bool) (left : List UInt8) (helper : Helper) : Helper → Prop
  | reads {most : Nat} {octets : List UInt8} {input : Pipe} (read : helper.input.read most = some (octets, input))
      (notEmpty : octets ≠ []) :
      Proceeds taken left helper { helper with input, received := octets.reverseAux helper.received }
  | taken {script : List Action} (closed : helper.input.hasWriter = false) (replies : Replies true left script) :
      Proceeds taken left helper { helper with script }
  | prints {octets rest : List UInt8} {script : List Action} (room : octets.length ≤ helper.output.room)
      (split : octets ++ rest = left) (replies : Replies taken rest script) :
      Proceeds taken left helper
        { helper with script, output := { helper.output with held := helper.output.held ++ octets } }
  | aside {script : List Action} {reached : List Mark} {errors : Pipe} {wake : Nat} {outputHeld : Option Nat}
      (replies : Replies taken left script)
      (drained : helper.errorsDrained = true → helper.errors.held = [] → errors = helper.errors) :
      Proceeds taken left helper { helper with script, reached, errors, wake, outputHeld }
  | exits (status : WaitStatus) (nothing : left = []) : Proceeds taken left helper (helper.finish status)

theorem replies_later (replies : Replies taken left (action :: script)) (aside : action.isAside = true) :
    Replies taken left script := by
  cases replies with
  | aside _ replies => exact replies
  | exits _ => contradiction
  | read _ => contradiction
  | print _ => contradiction

theorem replies_rest (octets : List UInt8) (replies : Replies true left script) :
    Replies true (octets ++ left) (if octets.isEmpty then script else .print octets :: script) := by
  cases octets with
  | nil => exact replies
  | cons octet octets => exact .print replies

theorem proceeds_does (replies : Replies taken left helper.script) (reader : helper.output.hasReader = true)
    (does : Does helper now later) : Proceeds taken left helper later := by
  cases does with
  | returns nothing =>
      rw [nothing] at replies
      cases replies with
      | returns => exact .exits _ rfl
  | reads _ read notEmpty => exact .reads read notEmpty
  | hasRead scripted read =>
      rw [scripted] at replies
      cases replies with
      | aside aside _ => contradiction
      | read replies => exact .taken (read_nothing read (by decide)) replies
  | @complains octets _ _ _ scripted written =>
      have replies := replies_later (scripted ▸ replies) rfl
      obtain ⟨count, -, rfl, -⟩ := tryWrite_cases written
      refine .aside ?_ fun drained empty => ?_
      · split
        · exact replies
        · exact .aside rfl replies
      · rw [if_pos drained, ← empty]
  | @prints octets _ _ _ scripted written =>
      rw [scripted] at replies
      obtain ⟨count, room, rfl, ⟨rfl, -⟩ | ⟨-, unread⟩⟩ := tryWrite_cases written
      · cases replies with
        | aside aside _ => contradiction
        | print replies =>
            refine .prints (Nat.le_trans (List.length_take_le _ _) room) ?_ (replies_rest _ replies)
            rw [← List.append_assoc, List.take_append_drop]
      · simp [reader] at unread
  | exits scripted =>
      rw [scripted] at replies
      cases replies with
      | aside aside _ => contradiction
      | exits _ => exact .exits _ rfl
  | dies scripted effect =>
      rw [scripted] at replies
      cases replies with
      | aside aside _ => simp [Action.isAside, effect] at aside
  | @survives signal _ scripted effect =>
      have aside : (Action.raise signal).isAside = true := decide_eq_true effect
      exact .aside (replies_later (scripted ▸ replies) aside) fun _ _ => rfl
  | reaches scripted => exact .aside (replies_later (scripted ▸ replies) rfl) fun _ _ => rfl
  | sleeps scripted => exact .aside (replies_later (scripted ▸ replies) rfl) fun _ _ => rfl
  | holds scripted => exact .aside (replies_later (scripted ▸ replies) rfl) fun _ _ => rfl

/-- What a step of a replying helper can come to. -/
theorem proceeds (replies : Replies taken left helper.script) (reader : helper.output.hasReader = true)
    (acts : helper.Acts now later) : Proceeds taken left helper later := by
  cases acts with
  | usual stepped =>
      obtain ⟨-, -, does⟩ := step_eq_some_iff.mp stepped
      exact proceeds_does replies reader does
  | reads _ _ _ notEmpty read => exact .reads read notEmpty
  | @prints octets count _ _ _ printing _ room _ =>
      rw [printing] at replies
      cases replies with
      | aside aside _ => contradiction
      | print replies =>
          refine .prints (Nat.le_trans (List.length_take_le _ _) room) ?_ (.print replies)
          rw [← List.append_assoc, List.take_append_drop]

theorem Blocked.acts (blocked : helper.Blocked now) : ¬ Acts helper now later := by
  obtain ⟨running, awake, ⟨octets, script, notEmpty, printing⟩, read, full⟩ := blocked
  intro acts
  cases acts with
  | reads _ _ reading _ _ => simp [printing] at reading
  | prints _ _ _ positive room _ =>
      rw [full] at room
      omega
  | usual stepped =>
      rw [step, if_neg (Nat.not_lt.mpr awake), running, printing] at stepped
      obtain ⟨⟨output, rest⟩, written, -⟩ := Option.map_eq_some_iff.mp stepped
      cases octets with
      | nil => contradiction
      | cons octet octets => simp [tryWrite, Pipe.write, read, full] at written

/-! ### Replies that fit -/

/-- As long as the helper runs, its output has room for what is still to be printed. -/
structure Spacious (helper : Helper) : Prop where
  read : helper.output.hasReader = true
  room : helper.status = none → ∃ taken left, Replies taken left helper.script ∧ left.length ≤ helper.output.room

theorem Spacious.act (spacious : Spacious helper) (running : helper.status = none) (acts : helper.Acts now later) :
    Spacious later := by
  obtain ⟨taken, left, replies, room⟩ := spacious.room running
  cases proceeds replies spacious.read acts with
  | reads _ _ => exact ⟨spacious.read, fun _ => ⟨_, _, replies, room⟩⟩
  | taken _ replies => exact ⟨spacious.read, fun _ => ⟨_, _, replies, room⟩⟩
  | aside replies _ => exact ⟨spacious.read, fun _ => ⟨_, _, replies, room⟩⟩
  | @prints octets rest _ _ split replies =>
      refine ⟨spacious.read, fun _ => ⟨_, _, replies, ?_⟩⟩
      change rest.length ≤ helper.output.capacity - (helper.output.held ++ octets).length
      rw [← split, List.length_append, Pipe.room] at room
      rw [List.length_append]
      omega
  | exits _ _ =>
      refine ⟨?_, fun running => by simp [finish] at running⟩
      unfold finish
      dsimp only
      split <;> exact spacious.read

theorem Spacious.elapse (spacious : Spacious helper) (clock : Nat) : Spacious (helper.elapse clock) := by
  unfold Helper.elapse
  split
  · split
    · cases ended : helper.status with
      | none => exact ⟨spacious.read, fun _ => spacious.room ended⟩
      | some status => exact ⟨spacious.read, fun running => by simp at running⟩
    · exact spacious
  · exact spacious

/-- A helper with room for its reply is not blocked. -/
theorem Spacious.unblocked (spacious : Spacious helper) : ¬ helper.Blocked now := by
  intro blocked
  obtain ⟨taken, left, replies, room⟩ := spacious.room blocked.running
  obtain ⟨octets, later, notEmpty, printing⟩ := blocked.printing
  rw [printing] at replies
  cases replies with
  | aside aside _ => contradiction
  | print _ =>
      have positive := List.length_pos_iff.mpr notEmpty
      rw [blocked.full, List.length_append] at room
      omega

/-! ### Replies that do not fit -/

/-- A helper that is at work on a reply, and has nothing else to wait for than its pipes. -/
structure Serves (reply : List UInt8) (capacity : Nat) (helper : Helper) : Prop where
  running : helper.status = none
  readers : helper.input.hasReader = true ∧ helper.output.hasReader = true
  capacities : helper.input.capacity = capacity ∧ helper.output.capacity = capacity
  held : helper.output.held.length ≤ capacity
  drained : helper.errorsDrained = true ∧ helper.errors = .ofCapacity capacity
  printing : ∃ taken left, Replies taken left helper.script ∧ helper.output.held ++ left = reply ∧
    (taken = true → helper.input.hasWriter = false)

theorem serves_start (replies : Replies false reply script) (capacity : Nat) :
    Serves reply capacity (.start script capacity true) :=
  ⟨rfl, ⟨rfl, rfl⟩, ⟨rfl, rfl⟩, Nat.zero_le _, ⟨rfl, rfl⟩, ⟨false, reply, replies, rfl, Bool.noConfusion⟩⟩

/-- Where the pipe cannot hold the reply, its helper has always something left to print. -/
theorem Serves.act (serves : Serves reply capacity helper) (overfull : capacity < reply.length)
    (acts : helper.Acts now later) : Serves reply capacity later := by
  obtain ⟨running, readers, capacities, held, drained, taken, left, replies, whole, closed⟩ := serves
  cases proceeds replies readers.2 acts with
  | reads read _ =>
      obtain ⟨kept, rfl, -⟩ := read_leaves read
      exact ⟨running, readers, capacities, held, drained, taken, left, replies, whole, closed⟩
  | taken isClosed replies =>
      exact ⟨running, readers, capacities, held, drained, true, left, replies, whole, fun _ => isClosed⟩
  | aside replies quiet =>
      have empty : helper.errors.held = [] := by rw [drained.2]; rfl
      rw [quiet drained.1 empty]
      exact ⟨running, readers, capacities, held, drained, taken, left, replies, whole, closed⟩
  | prints room split replies =>
      refine ⟨running, readers, capacities, ?_, drained, taken, _, replies, ?_, closed⟩
      · rw [Pipe.room, capacities.2] at room
        rw [List.length_append]
        omega
      · rw [← whole, ← split, List.append_assoc]
  | exits status nothing =>
      rw [nothing, List.append_nil] at whole
      rw [whole] at held
      exact absurd overfull (Nat.not_lt.mpr held)

theorem Serves.hasWriter_act (serves : Serves reply capacity helper) (acts : helper.Acts now later) :
    later.input.hasWriter = helper.input.hasWriter := by
  obtain ⟨taken, left, replies, -, -⟩ := serves.printing
  cases proceeds replies serves.readers.2 acts with
  | reads read _ =>
      obtain ⟨held, rfl, -⟩ := read_leaves read
      rfl
  | _ => rfl

/-! ### Helpers that get on -/

/-- The helper gets on by a step: less is left of its input or its script, and no time is lost but for sleep. -/
structure GetsOn (helper : Helper) (now : Nat) (later : Helper) : Prop where
  stepped : helper.step now = some later
  less : later.input.held.length + later.effort < helper.input.held.length + helper.effort
  inTime : max now later.wake + naps later.script ≤ now + naps helper.script

theorem effort_of_script (same : later.script = helper.script) : later.effort = helper.effort := by
  rw [effort, effort, same]

/-- An action that was done as a whole. -/
theorem GetsOn.of_all (running : helper.status = none) (awake : helper.wake ≤ now)
    (scripted : helper.script = action :: script) (does : Does helper now later)
    (script' : later.script = script) (input : later.input = helper.input) (wake : max now later.wake ≤ now + action.nap) :
    GetsOn helper now later := by
  refine ⟨step_does does running awake, ?_, ?_⟩
  · have shorter : { helper with script }.effort = later.effort := effort_of_script script'.symm
    have positive : 0 < action.weight := by cases action <;> exact Nat.succ_pos _
    rw [input, effort_cons scripted, shorter]
    omega
  · rw [script', scripted, naps_cons]
    omega

/-- An action of which some octets are left. -/
theorem GetsOn.of_some {action' : Action} (running : helper.status = none) (awake : helper.wake ≤ now)
    (scripted : helper.script = action :: script) (does : Does helper now later)
    (script' : later.script = action' :: script) (input : later.input = helper.input) (wake : later.wake = helper.wake)
    (less : action'.weight < action.weight) (same : action'.nap = action.nap) : GetsOn helper now later := by
  refine ⟨step_does does running awake, ?_, ?_⟩
  · have shorter : { later with script }.effort = { helper with script }.effort := effort_of_script rfl
    rw [input, effort_cons scripted, effort_cons script', shorter]
    omega
  · rw [script', scripted, naps_cons, naps_cons, wake, same]
    omega

theorem getsOn_aside (serves : Serves reply capacity helper) (positive : 0 < capacity) (awake : helper.wake ≤ now)
    (scripted : helper.script = action :: script) (aside : action.isAside = true) : ∃ later, GetsOn helper now later := by
  have stays : max now helper.wake ≤ now + action.nap := by omega
  cases action with
  | readInput => contradiction
  | print _ => contradiction
  | exit _ => contradiction
  | raise signal =>
      have harmless : signalEffect signal = .nothing := of_decide_eq_true aside
      exact ⟨_, .of_all serves.running awake scripted (.survives scripted harmless) rfl rfl stays⟩
  | complain octets =>
      have reader : helper.errors.hasReader = true := by rw [serves.drained.2]; rfl
      have room : octets = [] ∨ 0 < helper.errors.room := by rw [serves.drained.2]; exact .inr positive
      obtain ⟨output, rest, written, shorter⟩ := exists_tryWrite reader room
      have does : Does helper now _ := .complains scripted written
      cases complete : rest.isEmpty with
      | true => exact ⟨_, .of_all serves.running awake scripted does (if_pos complete) rfl stays⟩
      | false =>
          have remains : (if rest.isEmpty = true then script else .complain rest :: script) = .complain rest :: script := by
            rw [complete, if_neg Bool.false_ne_true]
          exact ⟨_, .of_some serves.running awake scripted does remains rfl rfl (Nat.succ_lt_succ (shorter complete)) rfl⟩
  | sleep millis =>
      exact ⟨_, .of_all serves.running awake scripted (.sleeps scripted) rfl rfl (by simp [Action.nap])⟩
  | reach _ => exact ⟨_, .of_all serves.running awake scripted (.reaches scripted) rfl rfl stays⟩
  | holdOutput _ => exact ⟨_, .of_all serves.running awake scripted (.holds scripted) rfl rfl stays⟩

/-- Unless it has to wait for more of the request, a helper gets on with reading it. -/
theorem getsOn_read (running : helper.status = none) (awake : helper.wake ≤ now)
    (scripted : helper.script = .readInput :: script) :
    (∃ later, GetsOn helper now later) ∨ helper.input.held = [] ∧ helper.input.hasWriter = true := by
  cases held : helper.input.held with
  | nil =>
      cases closed : helper.input.hasWriter with
      | true => exact .inr ⟨rfl, rfl⟩
      | false =>
          have read : helper.input.read Pipe.usualCapacity = some ([], helper.input) := by
            simp only [Pipe.read, held, closed, List.isEmpty_nil, if_true, Bool.false_eq_true, if_false]
          exact .inl ⟨_, .of_all running awake scripted (.hasRead scripted read) rfl rfl (by simp only [Action.nap]; omega)⟩
  | cons octet octets =>
      have read : helper.input.read Pipe.usualCapacity = some ((octet :: octets).take Pipe.usualCapacity,
          { helper.input with held := (octet :: octets).drop Pipe.usualCapacity }) := by
        simp only [Pipe.read, held, List.isEmpty_cons, Bool.false_eq_true, if_false]
      have does : Does helper now _ := .reads scripted read (by simp [Pipe.usualCapacity])
      have shorter : ((octet :: octets).drop Pipe.usualCapacity).length < helper.input.held.length := by
        rw [held, List.length_drop, List.length_cons]
        exact Nat.sub_lt (Nat.succ_pos _) (by decide)
      refine .inl ⟨_, step_does does running awake, Nat.add_lt_add_right shorter _, ?_⟩
      exact Nat.add_le_add_right (Nat.max_le.mpr ⟨Nat.le_refl _, awake⟩) _

theorem getsOn_print (serves : Serves reply capacity helper) (awake : helper.wake ≤ now)
    (scripted : helper.script = .print octets :: script) (room : octets = [] ∨ 0 < helper.output.room) :
    ∃ later, GetsOn helper now later := by
  obtain ⟨output, rest, written, shorter⟩ := exists_tryWrite serves.readers.2 room
  have does : Does helper now _ := .prints scripted written
  cases complete : rest.isEmpty with
  | true =>
      exact ⟨_, .of_all serves.running awake scripted does (if_pos complete) rfl (by simp only [Action.nap]; omega)⟩
  | false =>
      have remains : (if rest.isEmpty = true then script else .print rest :: script) = .print rest :: script := by
        rw [complete, if_neg Bool.false_ne_true]
      exact ⟨_, .of_some serves.running awake scripted does remains rfl rfl (Nat.succ_lt_succ (shorter complete)) rfl⟩

/-- A helper at work gets on, or waits for room in its output or for more of the request. -/
theorem Serves.getsOn (serves : Serves reply capacity helper) (overfull : capacity < reply.length)
    (positive : 0 < capacity) (awake : helper.wake ≤ now) : (∃ later, GetsOn helper now later) ∨
      helper.Blocked now ∧ helper.input.hasWriter = false ∨ helper.input.held = [] ∧ helper.input.hasWriter = true := by
  obtain ⟨taken, left, replies, whole, closed⟩ := serves.printing
  have unprinted : left ≠ [] := by
    rintro rfl
    rw [← whole, List.append_nil] at overfull
    exact absurd overfull (Nat.not_lt.mpr serves.held)
  cases scripted : helper.script with
  | nil =>
      rw [scripted] at replies
      cases replies with
      | returns => contradiction
  | cons action script =>
      rw [scripted] at replies
      cases replies with
      | aside aside _ => exact .inl (getsOn_aside serves positive awake scripted aside)
      | exits _ => contradiction
      | read _ => exact (getsOn_read serves.running awake scripted).imp_right .inr
      | @print octets _ _ _ =>
          by_cases room : octets = [] ∨ 0 < helper.output.room
          · exact .inl (getsOn_print serves awake scripted room)
          · obtain ⟨notEmpty, full⟩ := not_or.mp room
            exact .inr (.inl ⟨⟨serves.running, awake, ⟨octets, script, notEmpty, scripted⟩, serves.readers.2,
              Nat.eq_zero_of_not_pos full⟩, closed rfl⟩)

end AuthBroker.Helper
