import AuthBroker.Proofs.Frame.Delivery

namespace AuthBroker

open AuthBroker.Stream

/-! Frames that are cut off.

A stream that stops taking octets leaves a reader with the octets that it took.  They are
the first ones of a frame, and too few for one, so the reader finds out that something is
missing and how much: no part of a frame passes for a frame, not even a part of its length.
-/

/-- What a stream with room for so many more octets answers to a call.  It may interrupt
its writer, but not for ever. -/
inductive Stream.Writer.Meets {State : Type} (states : Nat → Nat → State → Prop)
    (room patience : Nat) (offered : List UInt8) : Except IoError Nat × State → Prop
  | takes {count : Nat} {next : State} (positive : 0 < count) (few : count ≤ offered.length)
      (within : count ≤ room) (continues : states (room - count) patience next) :
      Meets states room patience offered (.ok count, next)
  | interrupts {error : IoError} {next : State} {fewer : Nat} (interruption : error.isInterrupted = true)
      (less : fewer < patience) (continues : states room fewer next) :
      Meets states room patience offered (.error error, next)
  | takesNothing {next : State} (full : room = 0) : Meets states room patience offered (.ok 0, next)
  | refuses {error : IoError} {next : State} (full : room = 0) (lasting : error.isInterrupted = false) :
      Meets states room patience offered (.error error, next)

/-- In these states a stream has the given room, and interrupts no more often than given. -/
def Stream.Writer.Limited {State : Type} (writer : Writer State) (states : Nat → Nat → State → Prop) : Prop :=
  ∀ room patience state, states room patience state → ∀ offered, offered ≠ [] →
    Writer.Meets states room patience offered (writer.write state offered)

/-- A sink interrupts once at most, when it refuses. -/
theorem Stream.Sink.limited : Sink.writer.Limited fun room patience sink =>
    sink.limit ≠ some 0 ∧ sink.room = some room ∧ ∀ error, sink.refusal = some error → 0 < patience := by
  intro room patience sink ⟨through, roomy, patient⟩ offered notEmpty
  change Writer.Meets _ room patience offered (Sink.write sink offered)
  cases room with
  | zero =>
      cases refusal : sink.refusal with
      | none =>
          rw [show Sink.write sink offered = (.ok 0, sink) by simp [write, roomy, refusal]]
          exact .takesNothing rfl
      | some error =>
          rw [show Sink.write sink offered = (.error error, { sink with refusal := none }) by
            simp [write, roomy, refusal]]
          cases interruption : error.isInterrupted with
          | true => exact .interrupts interruption (patient error refusal) ⟨through, roomy, by simp⟩
          | false => exact .refuses rfl interruption
  | succ room =>
      obtain ⟨positive, few⟩ := portion_bounds through notEmpty
      rw [show Sink.write sink offered = (.ok (min (room + 1) (portion sink.limit offered)),
        { sink with room := some (room + 1 - min (room + 1) (portion sink.limit offered)) }) by
          simp [write, roomy]]
      exact .takes (by omega) (by omega) (by omega) ⟨through, rfl, patient⟩

namespace Frame

variable {State : Type} {writer : Writer State} {states : Nat → Nat → State → Prop} {state : State}
  {room patience fuel : Nat} {payload rest : List UInt8} {channel : Channel} {limit : Nat → Option Nat}

/-! ### Writing -/

namespace Outgoing

theorem writeTo_failed (taken : List UInt8) (error : Error) :
    (⟨taken, rest, .failed error⟩ : Outgoing).writeTo writer fuel state =
      (⟨taken, rest, .failed error⟩, state) := by
  cases fuel with
  | zero => rfl
  | succ fuel => rfl

theorem accept_nothing (taken : List UInt8) (notEmpty : rest ≠ []) :
    (after taken rest).accept 0 = ⟨taken.reverse, rest, .failed (.io (.plain .writeZero))⟩ := by
  unfold accept
  rw [stage_after notEmpty]
  rfl

/-- Without room for all of it, what there is room for is taken and the transfer fails. -/
theorem writeTo_torn (taken : List UInt8) (limited : writer.Limited states)
    (begins : states room patience state) (torn : room < rest.length) (enough : room + patience < fuel) :
    ∃ error next, (after taken rest).writeTo writer fuel state =
      (⟨(taken ++ rest.take room).reverse, rest.drop room, .failed (.io error)⟩, next) := by
  -- each call takes off the room or off the patience, until there is no room
  induction fuel generalizing taken rest room patience state with
  | zero => contradiction
  | succ fuel ih =>
      have notEmpty : rest ≠ [] := List.length_pos_iff.mp (by omega)
      have meets := limited room patience state begins _ (offered_ne_nil taken notEmpty)
      rw [writeTo, stage_after notEmpty]
      generalize writer.write state (after taken rest).offered = answer at meets
      cases meets with
      | @takes count next positive few within continues =>
          have torn' : room - count < (rest.drop count).length := by
            rw [List.length_drop]
            omega
          obtain ⟨error, last, written⟩ := ih (taken ++ rest.take count) continues torn' (by omega)
          have split : room = count + (room - count) := by omega
          refine ⟨error, last, ?_⟩
          simp only
          rw [accept_after notEmpty positive, written, List.append_assoc, ← List.take_add, ← split,
            List.drop_drop, ← split]
      | @interrupts error next fewer interruption less continues =>
          simp only
          rw [refuse_after notEmpty, if_pos interruption]
          exact ih taken continues torn (by omega)
      | takesNothing full =>
          simp only
          rw [accept_nothing taken notEmpty, writeTo_failed, full]
          exact ⟨_, _, by rw [List.take_zero, List.append_nil, List.drop_zero]⟩
      | refuses full lasting =>
          simp only
          rw [refuse_after notEmpty, lasting, if_neg Bool.false_ne_true, writeTo_failed, full]
          exact ⟨_, _, by rw [List.take_zero, List.append_nil, List.drop_zero]⟩

/-- With room for all of it, everything is taken and the flush decides. -/
theorem writeTo_roomy (taken : List UInt8) (limited : writer.Limited states)
    (begins : states room patience state) (fits : rest.length ≤ room)
    (enough : rest.length + patience < fuel) :
    ∃ left fewer last, states left fewer last ∧ ((after taken rest).writeTo writer fuel state).1 =
      (after (taken ++ rest) []).flushed (writer.flush last).1 := by
  induction fuel generalizing taken rest room patience state with
  | zero => contradiction
  | succ fuel ih =>
      by_cases empty : rest = []
      · refine ⟨room, patience, state, begins, ?_⟩
        rw [empty, List.append_nil, writeTo]
        rfl
      · have notEmpty := List.length_pos_iff.mpr empty
        have meets := limited room patience state begins _ (offered_ne_nil taken empty)
        rw [writeTo, stage_after empty]
        generalize writer.write state (after taken rest).offered = answer at meets
        cases meets with
        | @takes count next positive few within continues =>
            have shorter : (rest.drop count).length = rest.length - count := List.length_drop
            have fits' : (rest.drop count).length ≤ room - count := by omega
            obtain ⟨left, fewer, last, ends, written⟩ :=
              ih (taken ++ rest.take count) continues fits' (by omega)
            refine ⟨left, fewer, last, ends, ?_⟩
            simp only
            rw [accept_after empty positive, written, List.append_assoc, List.take_append_drop]
        | @interrupts error next fewer interruption less continues =>
            simp only
            rw [refuse_after empty, if_pos interruption]
            exact ih taken continues fits (by omega)
        | takesNothing full => omega
        | refuses full lasting => omega

end Outgoing

/-! ### Reading -/

/-- A part of a frame is too short for a frame. -/
theorem short_take_octets (small : payload.length ≤ maxSize) (torn : room < lengthSize + payload.length) :
    Short ((octets payload).take room) := by
  have whole : Whole ((octets payload).take room ++ (octets payload).drop room) := by
    rw [List.take_append_drop]
    exact whole_octets small
  apply whole.short
  rw [← List.length_pos_iff, List.length_drop, length_octets]
  omega

theorem shortage_take_octets (small : payload.length ≤ maxSize) (torn : room < lengthSize + payload.length) :
    shortage ((octets payload).take room) =
      if room = 0 then .closed
      else if room < lengthSize then .truncated lengthSize room
      else .truncated payload.length (room - lengthSize) := by
  have length : ((octets payload).take room).length = room := by
    rw [List.length_take, length_octets]
    omega
  have empty : (octets payload).take room = [] ↔ room = 0 := by
    rw [← List.length_eq_zero_iff, length]
  simp only [shortage, empty, length]
  split_ifs with none few
  · rfl
  · rfl
  · rw [← declared_octets small, ← List.take_append_drop room (octets payload),
      declared_append (by omega), List.take_append_drop]

/-- A frame that is cut off is not accepted.  The stream has room for so many octets; without
room it fails or takes nothing, and it may interrupt the writer at any time.  The reader finds
what the stream took, cut into any runs, with interruptions among them, and then the end.
When only the flush fails, the frame is there.  The number of calls is one that the writer
cannot use up; `writeTo` allows for two interruptions. -/
theorem read_torn (payload : List UInt8) (room patience calls : Nat) (state : State) (channel : Channel)
    (limit : Nat → Option Nat) (limited : writer.Limited states) (begins : states room patience state)
    (small : payload.length ≤ maxSize) (enough : 4 + payload.length + patience < calls)
    (carried : channel.pending = ((Outgoing.start payload).writeTo writer calls state).1.delivered)
    (interruptions : ∀ error, .failure error ∈ channel.events → error.isInterrupted = true)
    (through : ∀ turn, limit turn ≠ some 0) :
    (room < 4 + payload.length →
      (∃ error, ((Outgoing.start payload).writeTo writer calls state).1.stage = .failed (.io error)) ∧
      channel.pending = (octets payload).take room ∧
      (read limit channel).1 = .error (if room = 0 then .closed
        else if room < 4 then .truncated 4 room
        else .truncated payload.length (room - 4))) ∧
    (4 + payload.length ≤ room → ∃ left fewer last, states left fewer last ∧
      ((writer.flush last).1 = none →
        ((Outgoing.start payload).writeTo writer calls state).1.stage = .finished) ∧
      (∀ error, (writer.flush last).1 = some error →
        ((Outgoing.start payload).writeTo writer calls state).1.stage = .failed (.io error)) ∧
      (read limit channel).1 = .ok payload) := by
  rw [Outgoing.start_of_small small] at carried ⊢
  constructor
  · intro torn
    have torn' : room < (octets payload).length := by rwa [length_octets]
    have enough' : room + patience < calls := by omega
    obtain ⟨error, next, written⟩ := Outgoing.writeTo_torn [] limited begins torn' enough'
    rw [written, Outgoing.delivered, List.reverse_reverse, List.nil_append] at carried
    have supply := supply_of_interruptions interruptions
    rw [carried] at supply
    obtain ⟨rest, found, -⟩ := read_short through supply (short_take_octets small torn)
    rw [written, found, shortage_take_octets small torn]
    exact ⟨⟨error, rfl⟩, carried, rfl⟩
  · intro fits
    have fits' : (octets payload).length ≤ room := by rwa [length_octets]
    have enough' : (octets payload).length + patience < calls := by rwa [length_octets]
    obtain ⟨left, fewer, last, ends, written⟩ := Outgoing.writeTo_roomy [] limited begins fits' enough'
    rw [written, List.nil_append] at carried
    refine ⟨left, fewer, last, ends, ?_, ?_, ?_⟩
    · intro flushed
      rw [written, flushed]
      rfl
    · intro error flushed
      rw [written, flushed]
      rfl
    · have whole : channel.pending = octets payload := by
        rw [carried, Outgoing.delivered]
        cases (writer.flush last).1 <;> exact List.reverse_reverse _
      obtain ⟨rest, found, -⟩ := read_of_pending small whole interruptions through
      rw [found]

/-- A sink that has room for six octets, and interrupts the writer before it takes no more. -/
theorem read_torn_interrupted :
    let sink : Sink := ⟨some 2, some 6, some (.plain .interrupted), none⟩
    let channel : Channel := ⟨[.octets [3, 0], .failure (.system 4), .octets [0, 0, 1, 2]]⟩
    (∃ error, (write [1, 2, 3] sink).1.stage = .failed (.io error)) ∧
      (read (fun _ => some 3) channel).1 = .error (.truncated 3 2) := by
  intro sink channel
  have calls : (Outgoing.start [1, 2, 3]).rest.length + 3 = 10 := by decide
  have carried : channel.pending = ((Outgoing.start [1, 2, 3]).writeTo Sink.writer 10 sink).1.delivered := by
    decide
  obtain ⟨failed, -, found⟩ := (read_torn [1, 2, 3] 6 1 10 sink channel (fun _ => some 3) Sink.limited
    ⟨by decide, rfl, by decide⟩ (by decide) (by decide) carried
    (by simp [channel, IoError.isInterrupted]) (by simp)).1 (by decide)
  rw [write, writeTo, calls]
  exact ⟨failed, found⟩

end Frame

end AuthBroker
