import AuthBroker.Proofs.Frame.Incoming

namespace AuthBroker.Frame

open AuthBroker.Stream

/-! What a reader takes out of a stream.

The frame that a stream gives is settled by the octets before its first lasting error and by that
error.  How the octets are cut into runs, where the reader is interrupted and how much each read may
give make no difference, neither to the result nor to what is left for the next reader.
-/

/-- The outcome of reading a frame, and how many octets and errors the stream has lost by it. -/
structure Reading where
  result : Except Error (List UInt8)
  taken : Nat

/-- All octets are taken, and the error after them if there is one. -/
def Reading.short (octets : List UInt8) (error : Option IoError) (shortage : Error) : Reading :=
  match error with
  | some error => ⟨.error (.io error), octets.length + 1⟩
  | none => ⟨.error shortage, octets.length⟩

/-- What reading a frame comes to when these octets are followed by an error, or by the end.  The
first octet of a size counts ones, and each of the other three counts 256 times as much as the one
before it. -/
def reading (octets : List UInt8) (error : Option IoError) : Reading :=
  match octets with
  | [] => .short [] error .closed
  | first :: second :: third :: fourth :: payload =>
      let size := first.toNat + 256 * second.toNat + 65536 * third.toNat + 16777216 * fourth.toNat
      if 1048576 < size then ⟨.error (.tooLarge size), 4⟩
      else if size ≤ payload.length then ⟨.ok (payload.take size), 4 + size⟩
      else .short octets error (.truncated size payload.length)
  | few => .short few error (.truncated 4 few.length)

variable {octets left more : List UInt8} {error : Option IoError} {channel : Channel}
  {limit : Nat → Option Nat}

/-- The size that the first four octets declare. -/
theorem declared_cons (first second third fourth : UInt8) (payload : List UInt8) :
    declared (first :: second :: third :: fourth :: payload) =
      first.toNat + 256 * second.toNat + 65536 * third.toNat + 16777216 * fourth.toNat := by
  have folded : declared (first :: second :: third :: fourth :: payload) =
      first.toNat + 256 * (second.toNat + 256 * (third.toNat + 256 * (fourth.toNat + 256 * 0))) := rfl
  rw [folded]
  omega

theorem reading_eq (octets : List UInt8) (error : Option IoError) : reading octets error =
    if octets.length < lengthSize then
      .short octets error (if octets = [] then .closed else .truncated lengthSize octets.length)
    else if maxSize < declared octets then ⟨.error (.tooLarge (declared octets)), lengthSize⟩
    else if declared octets ≤ octets.length - lengthSize then
      ⟨.ok ((octets.drop lengthSize).take (declared octets)), lengthSize + declared octets⟩
    else .short octets error (.truncated (declared octets) (octets.length - lengthSize)) := by
  match octets with
  | [] => rfl
  | [_] => rfl
  | [_, _] => rfl
  | [_, _, _] => rfl
  | first :: second :: third :: fourth :: payload =>
      have long : ¬ (first :: second :: third :: fourth :: payload).length < lengthSize := by
        simp only [List.length_cons, lengthSize]
        omega
      rw [if_neg long, declared_cons]
      rfl

theorem reading_of_short (short : Short octets) :
    reading octets error = .short octets error (shortage octets) := by
  rw [reading_eq, shortage]
  by_cases few : octets.length < lengthSize
  · by_cases empty : octets = []
    · rw [if_pos few, if_pos empty, if_pos empty]
    · rw [if_pos few, if_neg empty, if_neg empty, if_pos few]
  · obtain ⟨small, within⟩ := short.resolve_left few
    have notEmpty : octets ≠ [] := by
      intro empty
      rw [empty] at few
      contradiction
    have lacking : ¬ declared octets ≤ octets.length - lengthSize := by omega
    rw [if_neg few, if_neg (Nat.not_lt.mpr small), if_neg lacking, if_neg notEmpty, if_neg few]

theorem reading_of_whole (whole : Whole left) : reading (left ++ more) error =
    ⟨if maxSize < declared left then .error (.tooLarge (declared left)) else .ok (left.drop lengthSize),
      left.length⟩ := by
  have long : lengthSize ≤ left.length := by
    rw [Whole] at whole
    omega
  have enough : ¬ (left ++ more).length < lengthSize := by
    rw [List.length_append]
    exact Nat.not_lt.mpr (Nat.le_trans long (Nat.le_add_right _ _))
  rw [Whole] at whole
  rw [reading_eq, declared_append long, if_neg enough]
  split_ifs at whole ⊢ with tooLarge fits
  · rw [whole, Nat.add_zero]
  · have payload : ((left ++ more).drop lengthSize).take (declared left) = left.drop lengthSize := by
      rw [List.drop_append_of_le_length long]
      exact List.take_left' (by rw [List.length_drop]; omega)
    rw [payload, whole]
  · rw [List.length_append] at fits
    omega

/-- What is not too short has a frame at its head, or a length that is too large. -/
theorem exists_whole (long : ¬ Short octets) : ∃ left more, octets = left ++ more ∧ Whole left := by
  rw [Short, not_or, Nat.not_lt, not_and, Nat.not_lt] at long
  obtain ⟨long, fits⟩ := long
  refine ⟨_, _, (List.take_append_drop
    (lengthSize + if maxSize < declared octets then 0 else declared octets) octets).symm, ?_⟩
  have enough : lengthSize + (if maxSize < declared octets then 0 else declared octets) ≤ octets.length := by
    split_ifs with tooLarge
    · exact long
    · exact fits (Nat.le_of_not_lt tooLarge)
  have length := List.length_take_of_le enough
  have same : declared (octets.take (lengthSize + if maxSize < declared octets then 0 else declared octets)) =
      declared octets := by
    rw [declared, declared, List.take_take, Nat.min_eq_left (Nat.le_add_right _ _)]
  rw [Whole, length, same]

theorem read_reading (through : ∀ turn, limit turn ≠ some 0) :
    (read limit channel).1 = (reading channel.supply.1 channel.supply.2).result ∧
      (read limit channel).2.content =
        channel.content.drop (reading channel.supply.1 channel.supply.2).taken := by
  have enough := Nat.lt_succ_self channel.weight
  by_cases short : Short channel.supply.1
  · have short' : Short ([] ++ channel.supply.1) := short
    obtain ⟨rest, found, content⟩ := Incoming.readFrom_short 0 through short' enough
    rw [Incoming.after_nil] at found
    rw [read, found, reading_of_short short]
    cases lasting : channel.supply.2 with
    | none =>
        rw [lasting] at content
        refine ⟨rfl, ?_⟩
        rw [content]
        exact (List.drop_left' (List.length_map _)).symm
    | some error =>
        rw [lasting] at content
        refine ⟨rfl, ?_⟩
        rw [content, ← List.append_assoc]
        exact (List.drop_left' (by rw [List.length_append, List.length_map]; rfl)).symm
  · obtain ⟨left, more, split, whole⟩ := exists_whole short
    have supply : channel.supply = (left ++ more, channel.supply.2) := Prod.ext split rfl
    have whole' : Whole ([] ++ left) := whole
    obtain ⟨rest, found, -, content⟩ := Incoming.readFrom_whole 0 through whole' supply enough
    rw [Incoming.after_nil, List.nil_append, Incoming.after_whole whole] at found
    rw [read, found, split, reading_of_whole whole, content]
    exact ⟨rfl, (List.drop_left' (List.length_map _)).symm⟩

/-- A frame is read as its stream has it.  Channels that hold the same octets and the same lasting
errors in the same order give the same result and keep the same rest, whatever the limits are. -/
theorem read_eq_reading (limit : Nat → Option Nat) (channel : Channel)
    (through : ∀ turn, limit turn ≠ some 0) :
    ((read limit channel).1 = (reading channel.supply.1 channel.supply.2).result ∧
      (read limit channel).2.content =
        channel.content.drop (reading channel.supply.1 channel.supply.2).taken) ∧
    ∀ (other : Channel) (limit' : Nat → Option Nat), (∀ turn, limit' turn ≠ some 0) →
      other.content = channel.content →
      (read limit' other).1 = (read limit channel).1 ∧
        (read limit' other).2.content = (read limit channel).2.content := by
  have reads : (read limit channel).1 = _ ∧ _ := read_reading through
  refine ⟨reads, fun other limit' through' same => ?_⟩
  have reads' : (read limit' other).1 = _ ∧ _ := read_reading through'
  rw [Channel.supply_of_content same, same] at reads'
  exact ⟨reads'.1.trans reads.1.symm, reads'.2.trans reads.2.symm⟩

/-- A payload of 258 octets, which the first two octets of its size tell, arrives in pieces and
after an interruption.  What follows the frame is left for the next reader. -/
theorem read_eq_reading_pieces :
    let payload : List UInt8 := List.replicate 100 97 ++ List.replicate 158 98
    let channel : Channel := ⟨[.octets [2], .failure (.system 4), .octets [1, 0], .octets [],
      .octets (0 :: payload.take 200), .octets (payload.drop 200 ++ [7]),
      .failure (.plain .connectionReset), .octets [9]]⟩
    (read (fun _ => some 3) channel).1 = .ok payload ∧
      (read (fun _ => some 3) channel).2.content =
        [.inl 7, .inr (.plain .connectionReset), .inl 9] := by
  intro payload channel
  obtain ⟨⟨result, rest⟩, -⟩ := read_eq_reading (fun _ => some 3) channel (by simp)
  have supply : channel.supply =
      (2 :: 1 :: 0 :: 0 :: payload ++ [7], some (.plain .connectionReset)) := by
    decide +kernel
  have whole : Whole (2 :: 1 :: 0 :: 0 :: payload) := by
    unfold Whole
    decide +kernel
  have small : ¬ maxSize < declared (2 :: 1 :: 0 :: 0 :: payload) := by decide +kernel
  rw [supply, reading_of_whole whole, if_neg small] at result rest
  rw [result, rest]
  exact ⟨rfl, by decide +kernel⟩

end AuthBroker.Frame
