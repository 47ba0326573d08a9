import AuthBroker.Proofs.Frame.Incoming
import AuthBroker.Proofs.Frame.Outgoing

namespace AuthBroker.Frame

open AuthBroker.Stream

/-! Frames one after another.

What a willing stream takes of some payloads is their frames in a row.  A reader that finds
these octets before it, however they are cut and interrupted, takes one frame at each call
and leaves the rest for the next.
-/

variable {State : Type} {writer : Writer State} {states : State → Prop} {state : State}
  {payload : List UInt8} {payloads : List (List UInt8)} {channel : Channel}
  {limits : List (Nat → Option Nat)}

/-- Writes payloads one after another. -/
def writeMany (writer : Writer State) : List (List UInt8) → State → List Outgoing × State
  | [], state => ([], state)
  | payload :: payloads, state =>
      let (outgoing, state) := writeTo writer payload state
      let (others, state) := writeMany writer payloads state
      (outgoing :: others, state)

/-- Reads frames one after another, each under a limit of its own. -/
def readMany : List (Nat → Option Nat) → Channel → List (Except Error (List UInt8)) × Channel
  | [], channel => ([], channel)
  | limit :: limits, channel =>
      let (result, channel) := read limit channel
      let (others, channel) := readMany limits channel
      (result :: others, channel)

/-- The octets that streams have taken, in order. -/
def deliveredBy (outgoing : List Outgoing) : List UInt8 :=
  outgoing.flatMap Outgoing.delivered

theorem writeMany_willing (willing : writer.Willing states) (begins : states state)
    (small : ∀ payload ∈ payloads, payload.length ≤ maxSize) :
    (∀ outgoing ∈ (writeMany writer payloads state).1, outgoing.stage = .finished) ∧
      deliveredBy (writeMany writer payloads state).1 = payloads.flatMap octets := by
  induction payloads generalizing state with
  | nil => exact ⟨by simp [writeMany], rfl⟩
  | cons payload payloads ih =>
      obtain ⟨next, written, continues⟩ :=
        writeTo_willing willing begins (small payload List.mem_cons_self)
      obtain ⟨finished, delivered⟩ :=
        ih continues fun other member => small other (List.mem_cons_of_mem payload member)
      rw [writeMany, written]
      refine ⟨fun outgoing member => ?_, ?_⟩
      · rcases List.mem_cons.mp member with same | later
        · rw [same]
        · exact finished outgoing later
      · rw [deliveredBy] at delivered ⊢
        rw [List.flatMap_cons, List.flatMap_cons, delivered, Outgoing.delivered, List.reverse_reverse]

/-- A channel without a lasting error supplies everything that it holds. -/
theorem supply_of_interruptions
    (interruptions : ∀ error, .failure error ∈ channel.events → error.isInterrupted = true) :
    channel.supply = (channel.pending, none) := by
  obtain ⟨events⟩ := channel
  induction events with
  | nil => rfl
  | cons event events ih =>
      have supplied : Channel.supplyOf events = (Channel.pending ⟨events⟩, none) :=
        ih fun error member => interruptions error (List.mem_cons_of_mem event member)
      cases event with
      | octets run =>
          rw [Channel.supply, Channel.supplyOf, supplied]
          rfl
      | failure error =>
          rw [Channel.supply, Channel.supplyOf, if_pos (interruptions error List.mem_cons_self), supplied]
          rfl

/-- One frame with nothing after it is read, however it is cut and interrupted. -/
theorem read_of_pending {limit : Nat → Option Nat} (small : payload.length ≤ maxSize)
    (pending : channel.pending = octets payload)
    (interruptions : ∀ error, .failure error ∈ channel.events → error.isInterrupted = true)
    (through : ∀ turn, limit turn ≠ some 0) :
    ∃ rest, read limit channel = (.ok payload, rest) ∧ rest.pending = [] := by
  have supply := supply_of_interruptions interruptions
  rw [pending, ← List.append_nil (octets payload)] at supply
  obtain ⟨rest, found, -, left⟩ := read_octets small through supply
  rw [pending] at left
  exact ⟨rest, found, List.append_right_eq_self.mp left.symm⟩

theorem readMany_octets (through : ∀ limit ∈ limits, ∀ turn, limit turn ≠ some 0)
    (calls : limits.length = payloads.length + 1)
    (small : ∀ payload ∈ payloads, payload.length ≤ maxSize)
    (supply : channel.supply = (payloads.flatMap octets, none))
    (pending : channel.pending = payloads.flatMap octets) :
    (readMany limits channel).1 = payloads.map .ok ++ [.error .closed] ∧
      (readMany limits channel).2.pending = [] := by
  -- what a frame leaves in the channel is again a run of frames
  induction payloads generalizing limits channel with
  | nil =>
      obtain ⟨limit, rfl⟩ := List.length_eq_one_iff.mp calls
      obtain ⟨rest, closed, pending'⟩ := read_closed (through limit List.mem_cons_self) supply
      simp only [readMany, closed]
      exact ⟨rfl, pending'.symm.trans pending⟩
  | cons payload payloads ih =>
      obtain ⟨limit, limits, rfl⟩ := List.exists_cons_of_length_eq_add_one calls
      rw [List.flatMap_cons] at supply pending
      obtain ⟨rest, taken, supply', pending'⟩ :=
        read_octets (small payload List.mem_cons_self) (through limit List.mem_cons_self) supply
      rw [pending, List.append_cancel_left_eq] at pending'
      obtain ⟨results, exhausted⟩ :=
        ih (fun other member => through other (List.mem_cons_of_mem limit member))
          (Nat.succ.inj calls) (fun other member => small other (List.mem_cons_of_mem payload member))
          supply' pending'.symm
      have first : readMany (limit :: limits) channel =
          (.ok payload :: (readMany limits rest).1, (readMany limits rest).2) := by
        simp only [readMany, taken]
      rw [first, results]
      exact ⟨rfl, exhausted⟩

/-- Frames arrive as they were written.  The stream that takes them never fails and takes
some octets at each call; what it took is cut into any runs, with interruptions among
them, and is read under any limits that let an octet through. -/
theorem readMany_writeMany (payloads : List (List UInt8)) (state : State) (channel : Channel)
    (limits : List (Nat → Option Nat)) (willing : writer.Willing states) (begins : states state)
    (small : ∀ payload ∈ payloads, payload.length ≤ maxSize)
    (carried : channel.pending = deliveredBy (writeMany writer payloads state).1)
    (interruptions : ∀ error, .failure error ∈ channel.events → error.isInterrupted = true)
    (through : ∀ limit ∈ limits, ∀ turn, limit turn ≠ some 0)
    (calls : limits.length = payloads.length + 1) :
    (∀ outgoing ∈ (writeMany writer payloads state).1, outgoing.stage = .finished) ∧
      (readMany limits channel).1 = payloads.map .ok ++ [.error .closed] ∧
      (readMany limits channel).2.pending = [] := by
  obtain ⟨finished, delivered⟩ := writeMany_willing willing begins small
  rw [delivered] at carried
  have supply := supply_of_interruptions interruptions
  rw [carried] at supply
  exact ⟨finished, readMany_octets through calls small supply carried⟩

/-- Two frames, written three octets at a time and read under changing limits. -/
theorem readMany_writeMany_two :
    let payloads : List (List UInt8) := [[1, 2], []]
    let sink : Sink := { Sink.unlimited with limit := some 3 }
    let channel : Channel := ⟨[.octets [2, 0], .failure (.plain .interrupted), .octets [], .octets [0, 0, 1],
      .failure (.system 4), .octets [2, 0, 0, 0, 0]]⟩
    let limits : List (Nat → Option Nat) := [fun _ => some 1, fun turn => some (turn + 1), fun _ => none]
    (readMany limits channel).1 = [.ok [1, 2], .ok [], .error .closed] ∧
      (readMany limits channel).2.pending = [] ∧
      channel.pending = deliveredBy (writeMany Sink.writer payloads sink).1 := by
  intro payloads sink channel limits
  have carried : channel.pending = deliveredBy (writeMany Sink.writer payloads sink).1 := by decide
  have outcome := readMany_writeMany payloads sink channel limits Sink.willing (by decide) (by decide)
    carried (by simp [channel, IoError.isInterrupted]) (by simp [limits]) rfl
  exact ⟨outcome.2.1, outcome.2.2, carried⟩

end AuthBroker.Frame
