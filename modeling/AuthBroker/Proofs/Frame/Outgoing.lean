import AuthBroker.Frame.Outgoing
import Mathlib.Tactic.SplitIfs

namespace AuthBroker

open AuthBroker.Stream

/-! Writing to a stream that never fails.

The writer is described by the octets that were taken and those that are left.  Each call
moves some from the second to the first, so a frame arrives as a whole whatever the stream
takes at a time.
-/

/-- In these states a stream takes some of what it is offered, and stays in them. -/
structure Stream.Writer.Willing {State : Type} (writer : Writer State) (states : State → Prop) : Prop where
  takes : ∀ state, states state → ∀ offered, offered ≠ [] → ∃ count next,
    writer.write state offered = (.ok count, next) ∧ 0 < count ∧ count ≤ offered.length ∧ states next
  flushes : ∀ state, states state → ∃ next, writer.flush state = (none, next) ∧ states next

/-- A call offers some octets, and a limit that lets an octet through lets some through. -/
theorem Stream.Sink.portion_bounds {limit : Option Nat} {offered : List UInt8} (through : limit ≠ some 0)
    (notEmpty : offered ≠ []) : 0 < portion limit offered ∧ portion limit offered ≤ offered.length := by
  have positive := List.length_pos_iff.mpr notEmpty
  cases limit with
  | none => exact ⟨positive, Nat.le_refl _⟩
  | some most =>
      have notZero : most ≠ 0 := fun zero => through (congrArg some zero)
      rw [portion, List.length_take]
      omega

/-- A sink with room for any number of octets takes some of them at each call. -/
theorem Stream.Sink.willing : Sink.writer.Willing fun sink =>
    sink.limit ≠ some 0 ∧ sink.room = none ∧ sink.flushFailure = none where
  takes := by
    intro sink ⟨through, room, flush⟩ offered notEmpty
    obtain ⟨positive, few⟩ := portion_bounds through notEmpty
    exact ⟨portion sink.limit offered, sink, by simp [writer, write, room], positive, few, through, room, flush⟩
  flushes := by
    intro sink ⟨through, room, flush⟩
    exact ⟨{ sink with flushFailure := none }, by simp [writer, Sink.flush, flush], through, room, rfl⟩

namespace Frame

variable {State : Type} {writer : Writer State} {states : State → Prop} {state : State}
  {taken rest : List UInt8} {fuel count : Nat}

namespace Outgoing

/-- The writer whose octets are taken up to a point. -/
def after (taken rest : List UInt8) : Outgoing :=
  ⟨taken.reverse, rest, if rest.isEmpty then .flushing else .writing⟩

theorem start_of_small {payload : List UInt8} (small : payload.length ≤ maxSize) :
    start payload = after [] (octets payload) := by
  rw [start, if_neg (Nat.not_lt.mpr small)]
  rfl

theorem stage_after (notEmpty : rest ≠ []) : (after taken rest).stage = .writing := by
  have filled : rest.isEmpty = false := List.isEmpty_eq_false_iff.mpr notEmpty
  rw [after, filled]
  rfl

theorem accept_after (notEmpty : rest ≠ []) (positive : 0 < count) :
    (after taken rest).accept count = after (taken ++ rest.take count) (rest.drop count) := by
  cases count with
  | zero => contradiction
  | succ count =>
      have moved : (after taken rest).accept (count + 1) =
          ⟨(rest.take (count + 1)).reverseAux taken.reverse, rest.drop (count + 1),
            if (rest.drop (count + 1)).isEmpty then .flushing else .writing⟩ := by
        unfold accept
        rw [stage_after notEmpty]
        rfl
      rw [moved, after, List.reverse_append, List.reverseAux_eq]

theorem refuse_after (notEmpty : rest ≠ []) (error : IoError) : (after taken rest).refuse error =
    if error.isInterrupted then after taken rest
    else ⟨taken.reverse, rest, .failed (.io error)⟩ := by
  rw [refuse, stage_after notEmpty]
  rfl

theorem flushed_after (notEmpty : rest ≠ []) (failure : Option IoError) :
    (after taken rest).flushed failure = after taken rest := by
  unfold flushed
  rw [stage_after notEmpty]

theorem offered_ne_nil (taken : List UInt8) (notEmpty : rest ≠ []) : (after taken rest).offered ≠ [] := by
  rw [offered]
  split
  · exact notEmpty
  · rename_i missing notZero
    have positive := List.length_pos_iff.mpr notEmpty
    have wanting : 0 < lengthSize - ((after taken rest).taken.take lengthSize).length :=
      Nat.pos_of_ne_zero fun zero => notZero zero
    rw [← List.length_pos_iff, List.length_take]
    exact Nat.lt_min.mpr ⟨wanting, positive⟩

/-- A willing stream takes everything. -/
theorem writeTo_after (taken : List UInt8) (willing : writer.Willing states) (begins : states state)
    (enough : rest.length < fuel) :
    ∃ next, (after taken rest).writeTo writer fuel state =
      (⟨(taken ++ rest).reverse, [], .finished⟩, next) ∧ states next := by
  -- taken and remaining octets always make up the frame
  induction fuel generalizing taken rest state with
  | zero => contradiction
  | succ fuel ih =>
      by_cases empty : rest = []
      · obtain ⟨next, flushed, ends⟩ := willing.flushes state begins
        refine ⟨next, ?_, ends⟩
        rw [empty, List.append_nil, writeTo]
        simp [after, flushed, Outgoing.flushed]
      · obtain ⟨count, next, wrote, positive, -, continues⟩ :=
          willing.takes state begins _ (offered_ne_nil taken empty)
        have shorter : (rest.drop count).length < fuel := by
          have notEmpty := List.length_pos_iff.mpr empty
          rw [List.length_drop]
          omega
        obtain ⟨last, written, ends⟩ := ih (taken ++ rest.take count) continues shorter
        refine ⟨last, ?_, ends⟩
        rw [writeTo, stage_after empty]
        simp only [wrote]
        rw [accept_after empty positive, written, List.append_assoc, List.take_append_drop]

end Outgoing

/-- A frame is written to a willing stream as it is. -/
theorem writeTo_willing {payload : List UInt8} (willing : writer.Willing states)
    (begins : states state) (small : payload.length ≤ maxSize) :
    ∃ next, writeTo writer payload state = (⟨(octets payload).reverse, [], .finished⟩, next) ∧
      states next := by
  rw [writeTo, Outgoing.start_of_small small]
  exact Outgoing.writeTo_after [] willing begins (by simp [Outgoing.after])

end Frame

end AuthBroker
