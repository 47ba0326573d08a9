import AuthBroker.Proofs.Request.Wire

namespace AuthBroker.Request

/-! The storage of a payload.

The first pass over a document counts the octets of its pieces, and the second one writes them.  Storage of the
counted size takes every piece without moving and is full at the end.  Any less would move on the way, and leave
behind a copy of the password that nobody wipes.
-/

namespace Buffer

variable {buffer : Buffer} {piece : List UInt8}

/-! ### One write -/

theorem size_write (buffer : Buffer) (piece : List UInt8) :
    (buffer.write piece).octets.size = buffer.octets.size + piece.length := by
  unfold write
  split <;> exact size_append buffer.octets piece

theorem write_of_fits (fits : buffer.octets.size + piece.length ≤ buffer.capacity) :
    (buffer.write piece).capacity = buffer.capacity ∧ (buffer.write piece).moves = buffer.moves := by
  rw [write, dif_pos fits]
  exact ⟨rfl, rfl⟩

theorem moves_write_of_tight (tight : buffer.capacity < buffer.octets.size + piece.length) :
    (buffer.write piece).moves = buffer.moves + 1 := by
  rw [write, dif_neg (Nat.not_le_of_gt tight)]

theorem moves_le_write (buffer : Buffer) (piece : List UInt8) : buffer.moves ≤ (buffer.write piece).moves := by
  by_cases fits : buffer.octets.size + piece.length ≤ buffer.capacity
  · exact (write_of_fits fits).2.ge
  · exact (moves_write_of_tight (Nat.lt_of_not_le fits)).ge.trans' (Nat.le_succ _)

/-! ### Many writes -/

theorem moves_le_foldl (buffer : Buffer) (pieces : List (List UInt8)) :
    buffer.moves ≤ (pieces.foldl write buffer).moves := by
  induction pieces generalizing buffer with
  | nil => exact Nat.le_refl _
  | cons piece pieces ih => exact (moves_le_write buffer piece).trans (ih (buffer.write piece))

theorem size_foldl (buffer : Buffer) (pieces : List (List UInt8)) :
    (pieces.foldl write buffer).octets.size = buffer.octets.size + pieces.flatten.length := by
  rw [← Array.length_toList, foldl_write, List.length_append, Array.length_toList]

/-- Room for all pieces together is room for each of them when its turn comes. -/
theorem foldl_write_of_fits (pieces : List (List UInt8))
    (fits : buffer.octets.size + pieces.flatten.length ≤ buffer.capacity) :
    (pieces.foldl write buffer).capacity = buffer.capacity ∧ (pieces.foldl write buffer).moves = buffer.moves := by
  induction pieces generalizing buffer with
  | nil => exact ⟨rfl, rfl⟩
  | cons piece pieces ih =>
      rw [List.flatten_cons, List.length_append] at fits
      have first : buffer.octets.size + piece.length ≤ buffer.capacity := by omega
      obtain ⟨capacity, moves⟩ := write_of_fits first
      have more : (buffer.write piece).octets.size + pieces.flatten.length ≤ (buffer.write piece).capacity := by
        rw [size_write, capacity]
        omega
      rw [List.foldl_cons, (ih more).1, (ih more).2]
      exact ⟨capacity, moves⟩

/-- Storage moves exactly when it has no room for all pieces together. -/
theorem moves_foldl_eq_iff (pieces : List (List UInt8)) :
    (pieces.foldl write buffer).moves = buffer.moves ↔
      buffer.octets.size + pieces.flatten.length ≤ buffer.capacity := by
  refine ⟨fun unmoved => ?_, fun fits => (foldl_write_of_fits pieces fits).2⟩
  induction pieces generalizing buffer with
  | nil => exact buffer.size_le_capacity
  | cons piece pieces ih =>
      have later := moves_le_foldl (buffer.write piece) pieces
      rw [List.foldl_cons] at unmoved
      by_cases fits : buffer.octets.size + piece.length ≤ buffer.capacity
      · obtain ⟨capacity, moves⟩ := write_of_fits fits
        have rest := ih (unmoved.trans moves.symm)
        rw [size_write, capacity] at rest
        rw [List.flatten_cons, List.length_append]
        omega
      · -- A move is never taken back, so the last count would be above the first.
        have moved := moves_write_of_tight (Nat.lt_of_not_le fits)
        omega

end Buffer

/-! ### Both passes -/

theorem foldl_count (count : Nat) (pieces : List (List UInt8)) :
    pieces.foldl (fun count piece => count + piece.length) count = count + pieces.flatten.length := by
  induction pieces generalizing count with
  | nil => rfl
  | cons piece pieces ih => rw [List.foldl_cons, ih, List.flatten_cons, List.length_append, Nat.add_assoc]

theorem measure_eq (request : Request) : request.measure = request.pieces.flatten.length := by
  rw [measure, foldl_count, Nat.zero_add]

/-- The count of the first pass is the size of the payload.  After any number of writes of the second pass, the
storage has the octets written so far, within the counted size, and was not moved; at the end none of it is spare.
No smaller storage would have done. -/
theorem measure_exact (request : Request) :
    request.measure = request.encode.length ∧
    (∀ count,
      let written := request.pieces.take count
      let held := written.foldl Buffer.write (.withCapacity request.measure)
      held.octets.toList = written.flatten ∧ held.octets.size ≤ request.measure ∧
      held.capacity = request.measure ∧ held.moves = 0) ∧
    (request.buffer.octets.size = request.buffer.capacity ∧ request.buffer.moves = 0) ∧
    ∀ capacity, (request.pieces.foldl Buffer.write (.withCapacity capacity)).moves = 0 ↔
      request.measure ≤ capacity := by
  have empty (capacity : Nat) : (Buffer.withCapacity capacity).octets.size = 0 := rfl
  have within (count : Nat) : (request.pieces.take count).flatten.length ≤ request.measure := by
    rw [measure_eq]
    exact ((List.take_sublist count request.pieces).flatten).length_le
  have steady (count : Nat) :
      ((request.pieces.take count).foldl Buffer.write (.withCapacity request.measure)).capacity = request.measure ∧
      ((request.pieces.take count).foldl Buffer.write (.withCapacity request.measure)).moves = 0 := by
    refine Buffer.foldl_write_of_fits (request.pieces.take count) ?_
    rw [empty, Nat.zero_add]
    exact within count
  refine ⟨?_, fun count => ⟨?_, ?_, steady count⟩, ?_, fun capacity => ?_⟩
  · rw [measure_eq, encode_eq]
    rfl
  · rw [foldl_write]
    rfl
  · rw [Buffer.size_foldl, empty, Nat.zero_add]
    exact within count
  · obtain ⟨capacity, moves⟩ := steady request.pieces.length
    rw [List.take_length] at capacity moves
    refine ⟨?_, moves⟩
    rw [buffer, capacity, Buffer.size_foldl, empty, Nat.zero_add]
    exact (measure_eq request).symm
  · rw [measure_eq, ← Nat.zero_add request.pieces.flatten.length, ← empty capacity]
    exact Buffer.moves_foldl_eq_iff request.pieces

end AuthBroker.Request
