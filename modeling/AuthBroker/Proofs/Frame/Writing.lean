import AuthBroker.Proofs.Frame.Torn

namespace AuthBroker

open AuthBroker.Stream

/-! What a writer leaves in a sink.

A sink has room for some octets, then refuses once with its error if it has one, and takes nothing after that.
The room alone decides how far a frame gets: one that fits is taken as a whole and the flush settles it, of any
other the sink takes as much as it has room for and is not flushed.  How much it takes at a call makes no difference.
-/

/-- A writer that counts how often its stream is flushed. -/
def Stream.Writer.counted {State : Type} (writer : Writer State) : Writer (State × Nat) where
  write := fun state offered =>
    let (answer, next) := writer.write state.1 offered
    (answer, (next, state.2))
  flush := fun state =>
    let (failure, next) := writer.flush state.1
    (failure, (next, state.2 + 1))

/-- What a sink without room has to say in the end.  A call that it interrupts is made again, and the interruption
is over then. -/
def Stream.Sink.complaint (sink : Sink) : IoError :=
  match sink.refusal with
  | some error => if error.isInterrupted then .plain .writeZero else error
  | none => .plain .writeZero

/-- The sink after it has taken so many octets. -/
def Stream.Sink.filled (sink : Sink) (count : Nat) : Sink :=
  { sink with room := sink.room.map (· - count) }

/-- The sink after it was found to be full, and its refusal was met. -/
def Stream.Sink.exhausted (sink : Sink) : Sink :=
  { sink with room := some 0, refusal := none }

namespace Frame

/-- What becomes of a frame and of its sink, and how often the sink is flushed. -/
structure Writing where
  outgoing : Outgoing
  sink : Sink
  flushes : Nat

/-- All of the frame is taken, and the flush settles the transfer. -/
def Writing.whole (payload : List UInt8) (sink : Sink) : Writing where
  outgoing := ⟨(octets payload).reverse, [], match sink.flushFailure with
    | none => .finished
    | some error => .failed (.io error)⟩
  sink := { sink.filled (4 + payload.length) with flushFailure := none }
  flushes := 1

/-- Only the first octets of the frame are taken. -/
def Writing.torn (payload : List UInt8) (sink : Sink) (room : Nat) : Writing where
  outgoing := ⟨((octets payload).take room).reverse, (octets payload).drop room, .failed (.io sink.complaint)⟩
  sink := sink.exhausted
  flushes := 0

/-- What writing a payload to a sink comes to. -/
def writing (payload : List UInt8) (sink : Sink) : Writing :=
  if maxSize < payload.length then ⟨⟨[], [], .failed (.tooLarge payload.length)⟩, sink, 0⟩
  else match sink.room with
    | none => .whole payload sink
    | some room => if 4 + payload.length ≤ room then .whole payload sink else .torn payload sink room

variable {State : Type} {writer : Writer State} {sink : Sink} {payload taken rest offered : List UInt8}
  {fuel room flushes : Nat}

/-! ### Calls -/

/-- A sink with room takes some of what it is offered. -/
theorem exists_write (through : sink.limit ≠ some 0) (roomy : sink.room ≠ some 0) (notEmpty : offered ≠ []) :
    ∃ count, sink.write offered = (.ok count, sink.filled count) ∧ 0 < count ∧ count ≤ offered.length ∧
      ∀ room, sink.room = some room → count ≤ room := by
  obtain ⟨limit, room, refusal, flushFailure⟩ := sink
  obtain ⟨positive, few⟩ : 0 < Sink.portion limit offered ∧ Sink.portion limit offered ≤ offered.length :=
    Sink.portion_bounds through notEmpty
  cases room with
  | none => exact ⟨Sink.portion limit offered, rfl, positive, few, by simp⟩
  | some room =>
      cases room with
      | zero => exact absurd rfl roomy
      | succ room =>
          refine ⟨min (room + 1) (Sink.portion limit offered), rfl, by omega, by omega, ?_⟩
          intro bound same
          cases same
          exact Nat.min_le_left _ _

theorem filled_zero : sink.filled 0 = sink := by
  cases sink with
  | mk limit room refusal flushFailure => cases room <;> rfl

theorem filled_filled (count more : Nat) : (sink.filled count).filled more = sink.filled (count + more) := by
  cases hasRoom : sink.room <;> simp [Sink.filled, hasRoom, Nat.sub_sub]

theorem counted_write (writer : Writer State) (state : State) (flushes : Nat) (offered : List UInt8) :
    writer.counted.write (state, flushes) offered =
      ((writer.write state offered).1, ((writer.write state offered).2, flushes)) :=
  rfl

namespace Outgoing

/-- Counting flushes makes no difference to what is written. -/
theorem writeTo_counted (outgoing : Outgoing) (state : State) (flushes : Nat) :
    outgoing.writeTo writer fuel state =
      ((outgoing.writeTo writer.counted fuel (state, flushes)).1,
        (outgoing.writeTo writer.counted fuel (state, flushes)).2.1) := by
  induction fuel generalizing outgoing state with
  | zero => rfl
  | succ fuel ih =>
      rw [writeTo, writeTo, counted_write]
      cases outgoing.stage with
      | writing =>
          obtain ⟨answer, next⟩ := writer.write state outgoing.offered
          cases answer with
          | ok count => exact ih _ _
          | error error => exact ih _ _
      | flushing => rfl
      | finished => rfl
      | failed error => rfl

theorem length_offered_le (taken : List UInt8) : (after taken rest).offered.length ≤ rest.length := by
  rw [offered]
  split
  · exact Nat.le_refl _
  · rw [List.length_take]
    exact Nat.min_le_right _ _

/-- One call to a sink with room moves octets into the sink, and takes as many off its room. -/
theorem exists_writeTo (taken : List UInt8) (fuel flushes : Nat) (through : sink.limit ≠ some 0)
    (roomy : sink.room ≠ some 0) (notEmpty : rest ≠ []) :
    ∃ count, 0 < count ∧ count ≤ rest.length ∧ (∀ room, sink.room = some room → count ≤ room) ∧
      (after taken rest).writeTo Sink.writer.counted (fuel + 1) (sink, flushes) =
        (after (taken ++ rest.take count) (rest.drop count)).writeTo Sink.writer.counted fuel
          (sink.filled count, flushes) := by
  obtain ⟨count, wrote, positive, few, within⟩ := exists_write through roomy (offered_ne_nil taken notEmpty)
  refine ⟨count, positive, Nat.le_trans few (length_offered_le taken), within, ?_⟩
  have called : Sink.writer.write sink (after taken rest).offered = (.ok count, sink.filled count) := wrote
  rw [writeTo, stage_after notEmpty, counted_write, called]
  simp only
  rw [accept_after notEmpty positive]

/-- A frame that fits is taken as a whole, and the sink is flushed once. -/
theorem writeTo_fitting (taken : List UInt8) (flushes : Nat) (through : sink.limit ≠ some 0)
    (fits : ∀ room, sink.room = some room → rest.length ≤ room) (enough : rest.length < fuel) :
    (after taken rest).writeTo Sink.writer.counted fuel (sink, flushes) =
      ((after (taken ++ rest) []).flushed sink.flushFailure,
        ({ sink.filled rest.length with flushFailure := none }, flushes + 1)) := by
  induction fuel generalizing taken rest sink with
  | zero => contradiction
  | succ fuel ih =>
      by_cases empty : rest = []
      · rw [empty, List.append_nil, List.length_nil, filled_zero, writeTo]
        rfl
      · have positive := List.length_pos_iff.mpr empty
        have roomy : sink.room ≠ some 0 := fun full => absurd (fits 0 full) (by omega)
        obtain ⟨count, some, few, -, moved⟩ := exists_writeTo taken fuel flushes through roomy empty
        have length : (rest.drop count).length = rest.length - count := List.length_drop
        have fits' : ∀ room, (sink.filled count).room = .some room → (rest.drop count).length ≤ room := by
          intro room left
          obtain ⟨before, roomBefore, rfl⟩ := Option.map_eq_some_iff.mp left
          have bound := fits before roomBefore
          omega
        have through' : (sink.filled count).limit ≠ .some 0 := through
        have written := ih (taken ++ rest.take count) through' fits' (by omega)
        rw [moved, written, List.append_assoc, List.take_append_drop, length, filled_filled,
          Nat.add_sub_cancel' few]
        rfl

/-- A full sink refuses, or takes nothing. -/
theorem writeTo_full (taken : List UInt8) (flushes : Nat) (full : sink.room = some 0) (notEmpty : rest ≠ [])
    (enough : 2 ≤ fuel) : (after taken rest).writeTo Sink.writer.counted fuel (sink, flushes) =
      (⟨taken.reverse, rest, .failed (.io sink.complaint)⟩, (sink.exhausted, flushes)) := by
  obtain ⟨fuel, rfl⟩ := Nat.exists_eq_add_of_le' enough
  obtain ⟨limit, room, refusal, flushFailure⟩ := sink
  obtain rfl : room = some 0 := full
  -- without an error left to meet, the next call takes nothing
  have takesNothing (fuel : Nat) :
      (after taken rest).writeTo Sink.writer.counted (fuel + 1) (⟨limit, some 0, none, flushFailure⟩, flushes) =
        (⟨taken.reverse, rest, .failed (.io (.plain .writeZero))⟩, (⟨limit, some 0, none, flushFailure⟩, flushes)) := by
    have called : Sink.writer.write ⟨limit, some 0, none, flushFailure⟩ (after taken rest).offered =
        (.ok 0, ⟨limit, some 0, none, flushFailure⟩) := rfl
    rw [writeTo, stage_after notEmpty, counted_write, called]
    simp only
    rw [accept_nothing taken notEmpty, writeTo_failed]
  cases refusal with
  | none => exact takesNothing (fuel + 1)
  | some error =>
      have called : Sink.writer.write ⟨limit, some 0, some error, flushFailure⟩ (after taken rest).offered =
          (.error error, ⟨limit, some 0, none, flushFailure⟩) := rfl
      rw [writeTo, stage_after notEmpty, counted_write, called]
      simp only
      rw [refuse_after notEmpty, Sink.complaint]
      simp only
      cases error.isInterrupted with
      | true =>
          rw [if_pos rfl, if_pos rfl]
          exact takesNothing fuel
      | false =>
          rw [if_neg Bool.false_ne_true, if_neg Bool.false_ne_true]
          exact writeTo_failed _ _

/-- Of a frame that does not fit, what there is room for is taken, and the sink is not flushed. -/
theorem writeTo_unfitting (taken : List UInt8) (flushes : Nat) (through : sink.limit ≠ some 0)
    (limited : sink.room = some room) (unfitting : room < rest.length) (enough : room + 2 ≤ fuel) :
    (after taken rest).writeTo Sink.writer.counted fuel (sink, flushes) =
      (⟨(taken ++ rest.take room).reverse, rest.drop room, .failed (.io sink.complaint)⟩,
        (sink.exhausted, flushes)) := by
  induction fuel generalizing taken rest sink room with
  | zero => omega
  | succ fuel ih =>
      have notEmpty : rest ≠ [] := List.length_pos_iff.mp (by omega)
      by_cases full : room = 0
      · subst full
        rw [writeTo_full taken flushes limited notEmpty enough, List.take_zero, List.append_nil, List.drop_zero]
      · have roomy : sink.room ≠ some 0 := by
          rw [limited]
          exact fun same => full (Option.some.inj same)
        obtain ⟨count, positive, -, within, moved⟩ := exists_writeTo taken fuel flushes through roomy notEmpty
        have fewer := within room limited
        have through' : (sink.filled count).limit ≠ some 0 := through
        have limited' : (sink.filled count).room = some (room - count) := by
          rw [Sink.filled, limited]
          rfl
        have unfitting' : room - count < (rest.drop count).length := by
          rw [List.length_drop]
          omega
        have split : room = count + (room - count) := by omega
        have written := ih (taken ++ rest.take count) through' limited' unfitting' (by omega)
        rw [moved, written, List.append_assoc, ← List.take_add, List.drop_drop, ← split]
        rfl

end Outgoing

/-! ### Frames -/

theorem flushed_whole (payload : List UInt8) (failure : Option IoError) :
    (Outgoing.after (octets payload) []).flushed failure = ⟨(octets payload).reverse, [], match failure with
      | none => .finished
      | some error => .failed (.io error)⟩ := by
  cases failure <;> rfl

theorem writeTo_eq_writing (payload : List UInt8) (flushes : Nat) (through : sink.limit ≠ some 0) :
    writeTo Sink.writer.counted payload (sink, flushes) =
      ((writing payload sink).outgoing, ((writing payload sink).sink, flushes + (writing payload sink).flushes)) := by
  rw [writeTo, writing]
  by_cases tooLarge : maxSize < payload.length
  · rw [if_pos tooLarge, Outgoing.start, if_pos tooLarge]
    exact Outgoing.writeTo_failed _ _
  · rw [if_neg tooLarge, Outgoing.start_of_small (Nat.le_of_not_lt tooLarge)]
    have length : (octets payload).length = 4 + payload.length := length_octets payload
    have enough : (octets payload).length < (octets payload).length + 3 := by omega
    have whole (fits : ∀ room, sink.room = some room → (octets payload).length ≤ room) :
        (Outgoing.after [] (octets payload)).writeTo Sink.writer.counted ((octets payload).length + 3)
          (sink, flushes) = ((Writing.whole payload sink).outgoing,
            ((Writing.whole payload sink).sink, flushes + (Writing.whole payload sink).flushes)) := by
      rw [Outgoing.writeTo_fitting [] flushes through fits enough, List.nil_append, flushed_whole, length]
      rfl
    cases hasRoom : sink.room with
    | none => exact whole (by simp [hasRoom])
    | some room =>
        by_cases fits : 4 + payload.length ≤ room
        · rw [hasRoom] at whole
          simp only [if_pos fits]
          apply whole
          intro bound same
          cases same
          rwa [length]
        · have enough' : room + 2 ≤ (octets payload).length + 3 := by omega
          simp only [if_neg fits]
          exact Outgoing.writeTo_unfitting [] flushes through hasRoom (by omega) enough'

theorem delivered_writing (payload : List UInt8) (sink : Sink) :
    (writing payload sink).outgoing.delivered = [] ∨ payload.length ≤ maxSize ∧
      ∃ count, (writing payload sink).outgoing.delivered = (octets payload).take count := by
  rw [writing]
  by_cases tooLarge : maxSize < payload.length
  · rw [if_pos tooLarge]
    exact .inl rfl
  · have whole : (Writing.whole payload sink).outgoing.delivered = (octets payload).take (octets payload).length := by
      rw [List.take_length]
      exact List.reverse_reverse _
    rw [if_neg tooLarge]
    refine .inr ⟨Nat.le_of_not_lt tooLarge, ?_⟩
    cases sink.room with
    | none => exact ⟨_, whole⟩
    | some room =>
        by_cases fits : 4 + payload.length ≤ room
        · simp only [if_pos fits]
          exact ⟨_, whole⟩
        · simp only [if_neg fits]
          exact ⟨room, List.reverse_reverse _⟩

/-- How much the sink takes at a call stays as it is and makes no difference. -/
theorem writing_limit (payload : List UInt8) (sink : Sink) (limit : Option Nat) :
    (writing payload { sink with limit := limit }).outgoing = (writing payload sink).outgoing ∧
      (writing payload { sink with limit := limit }).sink = { (writing payload sink).sink with limit := limit } := by
  obtain ⟨limit', room, refusal, flushFailure⟩ := sink
  by_cases tooLarge : maxSize < payload.length
  · simp only [writing, if_pos tooLarge, and_self]
  · cases room with
    | none => simp only [writing, if_neg tooLarge, Writing.whole, Sink.filled, and_self]
    | some room =>
        by_cases fits : 4 + payload.length ≤ room
        · simp only [writing, if_neg tooLarge, if_pos fits, Writing.whole, Sink.filled, and_self]
        · simp only [writing, if_neg tooLarge, if_neg fits, Writing.torn, Sink.exhausted, Sink.complaint, and_self]

/-- A frame is written as the room of its sink has it, and nothing else counts: not how much the sink takes at a call.
The first octets that arrive say how long the payload is. -/
theorem write_eq_writing (payload : List UInt8) (sink : Sink) (through : sink.limit ≠ some 0) :
    write payload sink = ((writing payload sink).outgoing, (writing payload sink).sink) ∧
    (∀ flushes, (writeTo Sink.writer.counted payload (sink, flushes)).2.2 =
      flushes + (writing payload sink).flushes) ∧
    (∀ limit, limit ≠ some 0 → write payload { sink with limit := limit } =
      ((write payload sink).1, { (write payload sink).2 with limit := limit })) ∧
    (4 ≤ (write payload sink).1.delivered.length →
      lengthValue ((write payload sink).1.delivered.take 4) = payload.length) := by
  have counts (sink : Sink) (through : sink.limit ≠ some 0) :
      write payload sink = ((writing payload sink).outgoing, (writing payload sink).sink) := by
    have counted := writeTo_eq_writing payload 0 through
    rw [writeTo] at counted
    rw [write, writeTo, Outgoing.writeTo_counted _ _ 0, counted]
  refine ⟨counts sink through, fun flushes => ?_, fun limit through' => ?_, fun long => ?_⟩
  · rw [writeTo_eq_writing payload flushes through]
  · obtain ⟨outgoing, left⟩ := writing_limit payload sink limit
    rw [counts _ through', counts sink through, outgoing, left]
  · rw [counts sink through] at long ⊢
    rcases delivered_writing payload sink with nothing | ⟨small, count, some⟩
    · rw [nothing] at long
      contradiction
    · rw [some] at long ⊢
      have enough : 4 ≤ count := by
        rw [List.length_take] at long
        omega
      rw [List.take_take, Nat.min_eq_left enough]
      exact declared_octets small

/-- A sink with room for five octets that interrupts the writer and then takes nothing. -/
theorem write_eq_writing_interrupted :
    let sink : Sink := ⟨some 3, some 5, some (.system 4), some (.plain .other)⟩
    write [7, 8, 9] sink =
      (⟨[7, 0, 0, 0, 3], [8, 9], .failed (.io (.plain .writeZero))⟩,
        ⟨some 3, some 0, none, some (.plain .other)⟩) ∧
      (writeTo Sink.writer.counted [7, 8, 9] (sink, 0)).2.2 = 0 := by
  intro sink
  obtain ⟨written, flushes, -⟩ := write_eq_writing [7, 8, 9] sink (by decide)
  rw [written, flushes]
  exact ⟨by decide, by decide⟩

/-- An error at the end of the room need not be the one that is reported. -/
theorem interruption_unreported :
    ¬ ∀ (payload : List UInt8) (sink : Sink) (room : Nat) (error : IoError), payload.length ≤ maxSize →
      sink.limit ≠ some 0 → sink.room = some room → room < 4 + payload.length → sink.refusal = some error →
      (write payload sink).1.stage = .failed (.io error) := by
  intro reported
  have stage := reported [0x61, 0x62, 0x63] ⟨none, some 6, some (.plain .interrupted), none⟩ 6 (.plain .interrupted)
    (by decide) (by decide) rfl (by decide) rfl
  exact absurd stage (by decide)

end Frame

end AuthBroker
