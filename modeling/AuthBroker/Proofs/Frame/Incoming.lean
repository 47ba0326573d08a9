import AuthBroker.Frame.Incoming
import AuthBroker.Proofs.Stream.Channel
import Mathlib.Tactic.SplitIfs

namespace AuthBroker.Frame

open AuthBroker.Stream

/-! What a reader makes of the octets before it.

How far a frame has come depends on the octets that were taken and not on how they came,
so the reader is described as a function of them.  It asks for no octet beyond the
frame: once the octets are a whole frame it has ended, and before that it wants some more,
but no more than are missing.
-/

variable {taken left more : List UInt8} {size : Nat}

/-! ### Lengths -/

theorem lengthValue_lengthOctets (small : size < 4294967296) :
    lengthValue (lengthOctets size) = size := by
  simp only [lengthValue, lengthOctets, List.foldr, UInt8.toNat_ofNat', Nat.reducePow]
  omega

theorem length_lengthOctets (size : Nat) : (lengthOctets size).length = lengthSize :=
  rfl

/-- The length at the start of some octets. -/
def declared (octets : List UInt8) : Nat :=
  lengthValue (octets.take lengthSize)

/-- The octets are too few for a frame. -/
def Short (octets : List UInt8) : Prop :=
  octets.length < lengthSize ∨
    declared octets ≤ maxSize ∧ octets.length < lengthSize + declared octets

/-- The octets are what a reader takes in all: a frame, or just a length that is too
large. -/
def Whole (octets : List UInt8) : Prop :=
  octets.length = lengthSize + if maxSize < declared octets then 0 else declared octets

/-- Why octets that are too few are no frame. -/
def shortage (octets : List UInt8) : Error :=
  if octets = [] then .closed
  else if octets.length < lengthSize then .truncated lengthSize octets.length
  else .truncated (declared octets) (octets.length - lengthSize)

theorem declared_append (long : lengthSize ≤ taken.length) : declared (taken ++ left) = declared taken := by
  rw [declared, declared, List.take_append_of_le_length long]

theorem declared_octets {payload : List UInt8} (small : payload.length ≤ maxSize) :
    declared (octets payload) = payload.length := by
  have bound : maxSize < 4294967296 := by decide
  rw [declared, octets, List.take_left' (length_lengthOctets _)]
  exact lengthValue_lengthOctets (Nat.lt_of_le_of_lt small bound)

theorem length_octets (payload : List UInt8) :
    (octets payload).length = lengthSize + payload.length := by
  rw [octets, List.length_append, length_lengthOctets]

theorem whole_octets {payload : List UInt8} (small : payload.length ≤ maxSize) :
    Whole (octets payload) := by
  rw [Whole, length_octets, declared_octets small, if_neg (Nat.not_lt.mpr small)]

theorem Whole.short (whole : Whole (taken ++ left)) (notEmpty : left ≠ []) : Short taken := by
  have positive := List.length_pos_iff.mpr notEmpty
  by_cases long : lengthSize ≤ taken.length
  · rw [Whole, declared_append long, List.length_append] at whole
    split_ifs at whole with tooLarge
    · omega
    · exact .inr ⟨Nat.le_of_not_lt tooLarge, by omega⟩
  · exact .inl (Nat.lt_of_not_le long)

theorem Short.of_append (short : Short (taken ++ left)) : Short taken := by
  by_cases long : lengthSize ≤ taken.length
  · rw [Short, declared_append long, List.length_append] at short
    rcases short with few | ⟨small, few⟩
    · omega
    · exact .inr ⟨small, by omega⟩
  · exact .inl (Nat.lt_of_not_le long)

namespace Incoming

/-! ### The reader after some octets -/

/-- The reader that has taken some octets. -/
def after (taken : List UInt8) : Incoming :=
  if taken.length < lengthSize then .length taken.reverse
  else if maxSize < declared taken then .ended (.error (.tooLarge (declared taken)))
  else if taken.length < lengthSize + declared taken then
    .payload (declared taken) (lengthSize + declared taken - taken.length)
      (taken.drop lengthSize).reverse
  else .ended (.ok ((taken.drop lengthSize).take (declared taken)))

theorem after_nil : after [] = start :=
  rfl

theorem after_of_few (few : taken.length < lengthSize) : after taken = .length taken.reverse :=
  if_pos few

theorem after_of_short (short : Short taken) (long : lengthSize ≤ taken.length) :
    after taken = .payload (declared taken) (lengthSize + declared taken - taken.length)
      (taken.drop lengthSize).reverse := by
  rcases short with few | ⟨small, few⟩
  · omega
  · rw [after, if_neg (Nat.not_lt.mpr long), if_neg (Nat.not_lt.mpr small), if_pos few]

theorem after_whole (whole : Whole taken) : after taken = .ended
    (if maxSize < declared taken then .error (.tooLarge (declared taken))
      else .ok (taken.drop lengthSize)) := by
  rw [Whole] at whole
  rw [after, if_neg (by omega)]
  split_ifs at whole ⊢ with tooLarge few
  · rfl
  · omega
  · rw [List.take_of_length_le]
    rw [List.length_drop]
    omega

theorem after_octets {payload : List UInt8} (small : payload.length ≤ maxSize) :
    after (octets payload) = .ended (.ok payload) := by
  rw [after_whole (whole_octets small), declared_octets small, if_neg (Nat.not_lt.mpr small), octets,
    List.drop_left' (length_lengthOctets _)]

/-- A reader that has not ended wants something. -/
theorem wanted_pos (short : Short taken) : 0 < (after taken).wanted := by
  by_cases long : lengthSize ≤ taken.length
  · rw [after_of_short short long, wanted]
    rcases short with few | ⟨_, few⟩ <;> omega
  · rw [after_of_few (Nat.lt_of_not_le long), wanted, List.length_reverse]
    omega

/-- A reader wants no more than a whole frame is missing. -/
theorem wanted_le (whole : Whole (taken ++ left)) (notEmpty : left ≠ []) :
    (after taken).wanted ≤ left.length := by
  have short := whole.short notEmpty
  have positive := List.length_pos_iff.mpr notEmpty
  by_cases long : lengthSize ≤ taken.length
  · rw [after_of_short short long, wanted]
    rw [Whole, declared_append long, List.length_append] at whole
    split_ifs at whole <;> omega
  · rw [after_of_few (Nat.lt_of_not_le long), wanted, List.length_reverse]
    rw [Whole, List.length_append] at whole
    split_ifs at whole <;> omega

/-- With octets that were wanted a frame is still short, or it is whole. -/
theorem short_or_whole (short : Short taken) (few : left.length ≤ (after taken).wanted) :
    Short (taken ++ left) ∨ Whole (taken ++ left) := by
  by_cases still : Short (taken ++ left)
  · exact .inl still
  · refine .inr ?_
    rw [Short, List.length_append] at still
    rw [Whole, List.length_append]
    by_cases long : lengthSize ≤ taken.length
    · rw [after_of_short short long, wanted] at few
      rw [declared_append long] at still ⊢
      rcases short with tooFew | ⟨small, within⟩
      · omega
      · rw [if_neg (Nat.not_lt.mpr small)]
        omega
    · rw [after_of_few (Nat.lt_of_not_le long), wanted, List.length_reverse] at few
      split_ifs with tooLarge
      · omega
      · omega

/-- The last octets of the length settle what follows. -/
theorem ofSize_eq_after (complete : taken.length = lengthSize) :
    ofSize (lengthValue taken) = after taken := by
  have same : declared taken = lengthValue taken := by
    rw [declared, List.take_of_length_le (Nat.le_of_eq complete)]
  have noMore : taken.drop lengthSize = [] := List.drop_eq_nil_of_le (Nat.le_of_eq complete)
  rw [ofSize, after, same, complete, noMore, if_neg (Nat.lt_irrefl _)]
  split_ifs with tooLarge isEmpty few few
  · rfl
  · omega
  · rw [List.take_nil]
  · rw [Nat.add_sub_cancel_left]
    rfl
  · omega

theorem receive_after_length (few : taken.length < lengthSize)
    (fits : taken.length + left.length ≤ lengthSize) :
    (after taken).receive left = after (taken ++ left) := by
  have held : left.reverseAux taken.reverse = (taken ++ left).reverse := by
    rw [List.reverse_append, List.reverseAux_eq]
  rw [after_of_few few]
  simp only [receive, held, List.length_reverse, List.reverse_reverse, List.length_append]
  split_ifs with stillFew
  · exact (after_of_few (by rwa [List.length_append])).symm
  · exact ofSize_eq_after (by rw [List.length_append]; omega)

theorem receive_after_payload (short : Short taken) (long : lengthSize ≤ taken.length)
    (fits : taken.length + left.length ≤ lengthSize + declared taken) :
    (after taken).receive left = after (taken ++ left) := by
  have small : ¬ maxSize < declared taken := by
    rcases short with few | ⟨small, _⟩ <;> omega
  have held : left.reverseAux (taken.drop lengthSize).reverse =
      ((taken ++ left).drop lengthSize).reverse := by
    rw [List.drop_append_of_le_length long, List.reverse_append, List.reverseAux_eq]
  have missing : lengthSize + declared taken - taken.length - left.length =
      lengthSize + declared taken - (taken ++ left).length := by
    rw [List.length_append, Nat.sub_sub]
  have long' : ¬ (taken ++ left).length < lengthSize := by
    rw [List.length_append]
    omega
  rw [after_of_short short long, after, if_neg long', declared_append long, if_neg small]
  simp only [receive, held, missing, List.reverse_reverse]
  rw [List.length_append]
  split_ifs with complete few few
  · omega
  · rw [List.take_of_length_le]
    rw [List.length_drop, List.length_append]
    omega
  · rfl
  · omega

/-- The reader goes on as if all octets had come at once. -/
theorem receive_after (short : Short taken) (few : left.length ≤ (after taken).wanted) :
    (after taken).receive left = after (taken ++ left) := by
  by_cases long : lengthSize ≤ taken.length
  · rw [after_of_short short long, wanted] at few
    refine receive_after_payload short long ?_
    rcases short with tooFew | ⟨_, within⟩ <;> omega
  · have fewer := Nat.lt_of_not_le long
    rw [after_of_few fewer, wanted, List.length_reverse] at few
    exact receive_after_length fewer (by omega)

theorem close_after (short : Short taken) : (after taken).close = .ended (.error (shortage taken)) := by
  by_cases long : lengthSize ≤ taken.length
  · have notEmpty : taken ≠ [] := by
      intro empty
      rw [empty] at long
      contradiction
    rw [after_of_short short long, close, shortage, if_neg notEmpty, if_neg (by omega)]
    rcases short with few | ⟨_, few⟩
    · omega
    · rw [show declared taken - (lengthSize + declared taken - taken.length) =
        taken.length - lengthSize by omega]
  · rw [after_of_few (Nat.lt_of_not_le long), shortage, if_pos (Nat.lt_of_not_le long)]
    cases taken with
    | nil => rfl
    | cons octet taken =>
        rw [if_neg (List.cons_ne_nil octet taken), close, List.length_reverse]
        simp

theorem fail_after (short : Short taken) (error : IoError) : (after taken).fail error =
    if error.isInterrupted then after taken else .ended (.error (.io error)) := by
  by_cases long : lengthSize ≤ taken.length
  · rw [after_of_short short long]
    rfl
  · rw [after_of_few (Nat.lt_of_not_le long)]
    rfl

/-! ### Reading from a channel -/

variable {limit : Nat → Option Nat} {fuel turn : Nat} {channel : Channel} {error : Option IoError}

/-- A reader that has not ended makes a call and goes by its answer. -/
theorem readFrom_after (short : Short taken) :
    readFrom limit (fuel + 1) turn (after taken) channel =
      match channel.read (limit turn) (after taken).wanted with
      | (.error error, channel) => readFrom limit fuel (turn + 1) ((after taken).fail error) channel
      | (.ok [], channel) => ((after taken).close, channel)
      | (.ok octets, channel) =>
          readFrom limit fuel (turn + 1) ((after taken).receive octets) channel := by
  by_cases long : lengthSize ≤ taken.length
  · rw [after_of_short short long]
    rfl
  · rw [after_of_few (Nat.lt_of_not_le long)]
    rfl

theorem readFrom_ended (result : Except Error (List UInt8)) :
    readFrom limit fuel turn (.ended result) channel = (.ended result, channel) := by
  cases fuel with
  | zero => rfl
  | succ fuel => rfl

/-- A whole frame at the head of the supply is taken, and no octet more. -/
theorem readFrom_whole (turn : Nat) (through : ∀ turn, limit turn ≠ some 0) (whole : Whole (taken ++ left))
    (supply : channel.supply = (left ++ more, error)) (enough : channel.weight < fuel) :
    ∃ rest, readFrom limit fuel turn (after taken) channel = (after (taken ++ left), rest) ∧
      rest.supply = (more, error) ∧ channel.content = left.map .inl ++ rest.content := by
  -- the reader stays the one of all octets taken so far, and every read makes the channel lighter
  induction fuel generalizing taken left turn channel with
  | zero => contradiction
  | succ fuel ih =>
      by_cases empty : left = []
      · rw [empty, List.append_nil] at whole ⊢
        refine ⟨channel, ?_, by rw [supply, empty, List.nil_append], rfl⟩
        rw [after_whole whole, readFrom_ended]
      · have short := whole.short empty
        have wanted := wanted_le whole empty
        have reads := channel.reads (through turn) (wanted_pos short)
        rw [readFrom_after short]
        generalize channel.read (limit turn) (after taken).wanted = outcome at reads
        obtain ⟨answer, rest⟩ := outcome
        simp only at reads
        cases reads with
        | @octets run _ notEmpty few content supply' lighter =>
            rw [supply, Prod.mk.injEq] at supply'
            obtain ⟨later, rfl⟩ : run <+: left :=
              List.prefix_of_prefix_length_le ⟨_, supply'.1.symm⟩ (List.prefix_append left more)
                (Nat.le_trans few wanted)
            rw [← List.append_assoc] at whole
            have supplied : rest.supply = (later ++ more, error) := by
              rw [List.append_assoc, List.append_cancel_left_eq] at supply'
              exact Prod.ext supply'.1.symm supply'.2.symm
            obtain ⟨rest', read, supply'', content'⟩ :=
              ih (turn + 1) whole supplied (by omega)
            refine ⟨rest', ?_, supply'', by rw [content, content', List.map_append, List.append_assoc]⟩
            cases run with
            | nil => contradiction
            | cons octet run =>
                simp only
                rw [receive_after short few, read, List.append_assoc]
        | interrupted interruption content supply' lighter =>
            simp only
            rw [fail_after short, if_pos interruption, content]
            exact ih (turn + 1) whole (supply' ▸ supply) (by omega)
        | failed lasting content supply' lighter =>
            rw [supply, Prod.mk.injEq, List.append_eq_nil_iff] at supply'
            exact absurd supply'.1.1 empty
        | ended content supply' =>
            rw [supply, Prod.mk.injEq, List.append_eq_nil_iff] at supply'
            exact absurd supply'.1.1 empty

/-- A supply that is too small is taken as a whole, and its error ends the frame. -/
theorem readFrom_short (turn : Nat) (through : ∀ turn, limit turn ≠ some 0)
    (short : Short (taken ++ channel.supply.1)) (enough : channel.weight < fuel) :
    ∃ rest, readFrom limit fuel turn (after taken) channel =
        (.ended (.error (match channel.supply.2 with
          | some error => .io error
          | none => shortage (taken ++ channel.supply.1))), rest) ∧
      channel.content = channel.supply.1.map .inl ++ (channel.supply.2.toList.map .inr ++ rest.content) := by
  induction fuel generalizing taken turn channel with
  | zero => contradiction
  | succ fuel ih =>
      have short' := short.of_append
      have reads := channel.reads (through turn) (wanted_pos short')
      rw [readFrom_after short']
      generalize channel.read (limit turn) (after taken).wanted = outcome at reads
      obtain ⟨answer, rest⟩ := outcome
      simp only at reads
      cases reads with
      | @octets run _ notEmpty few content supply lighter =>
          rw [supply] at short ⊢
          rw [← List.append_assoc] at short ⊢
          obtain ⟨rest', read, content'⟩ := ih (turn + 1) short (by omega)
          refine ⟨rest', ?_, by rw [content, content', List.map_append, List.append_assoc]⟩
          cases run with
          | nil => contradiction
          | cons octet run =>
              simp only
              rw [receive_after short' few, read]
      | interrupted interruption content supply lighter =>
          simp only
          rw [fail_after short', if_pos interruption, content]
          rw [supply] at short ⊢
          exact ih (turn + 1) short (by omega)
      | failed lasting content supply lighter =>
          simp only
          rw [fail_after short', lasting, if_neg Bool.false_ne_true, readFrom_ended, supply]
          exact ⟨rest, rfl, content⟩
      | ended content supply =>
          simp only
          rw [supply] at short ⊢
          rw [List.append_nil, close_after short']
          exact ⟨.empty, rfl, content⟩

end Incoming

variable {limit : Nat → Option Nat} {channel : Channel} {error : Option IoError}

/-- A frame at the head of the supply is read, and nothing of what comes after it. -/
theorem read_octets {payload : List UInt8} (small : payload.length ≤ maxSize)
    (through : ∀ turn, limit turn ≠ some 0) (supply : channel.supply = (octets payload ++ more, error)) :
    ∃ rest, read limit channel = (.ok payload, rest) ∧ rest.supply = (more, error) ∧
      channel.pending = octets payload ++ rest.pending := by
  have whole : Whole ([] ++ octets payload) := whole_octets small
  obtain ⟨rest, taken, supply', content⟩ :=
    Incoming.readFrom_whole 0 through whole supply (Nat.lt_succ_self channel.weight)
  refine ⟨rest, ?_, supply', Channel.pending_of_content content⟩
  rw [Incoming.after_nil, List.nil_append, Incoming.after_octets small] at taken
  rw [read, taken]
  rfl

/-- Too few octets for a frame are not read as one. -/
theorem read_short {held : List UInt8} (through : ∀ turn, limit turn ≠ some 0)
    (supply : channel.supply = (held, none)) (short : Short held) :
    ∃ rest, read limit channel = (.error (shortage held), rest) ∧ channel.pending = held ++ rest.pending := by
  have short' : Short ([] ++ channel.supply.1) := by rwa [supply]
  obtain ⟨rest, taken, content⟩ :=
    Incoming.readFrom_short 0 through short' (Nat.lt_succ_self channel.weight)
  rw [supply] at taken content
  refine ⟨rest, ?_, Channel.pending_of_content content⟩
  rw [Incoming.after_nil] at taken
  rw [read, taken]
  rfl

/-- Without an octet there is no frame. -/
theorem read_closed (through : ∀ turn, limit turn ≠ some 0) (supply : channel.supply = ([], none)) :
    ∃ rest, read limit channel = (.error .closed, rest) ∧ channel.pending = rest.pending :=
  read_short through supply (.inl (by decide))

end AuthBroker.Frame
