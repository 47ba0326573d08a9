import AuthBroker.Stream.Channel
import Mathlib.Tactic.SplitIfs

namespace AuthBroker.Stream.Channel

/-! What one read of a channel can come to.

A reader that asks again after an interruption is supplied with the octets up to the first
lasting error.  Each read takes some octets off the supply, meets that error or an
interruption, or finds the channel at its end.
-/

/-- The octets before the first error that is no interruption, and that error. -/
def supplyOf : List Event → List UInt8 × Option IoError
  | [] => ([], none)
  | .octets run :: events => (run ++ (supplyOf events).1, (supplyOf events).2)
  | .failure error :: events =>
      if error.isInterrupted then supplyOf events else ([], some error)

def supply (channel : Channel) : List UInt8 × Option IoError :=
  supplyOf channel.events

def contentOf : List Event → List (UInt8 ⊕ IoError)
  | [] => []
  | .octets run :: events => run.map .inl ++ contentOf events
  | .failure error :: events =>
      if error.isInterrupted then contentOf events else .inr error :: contentOf events

/-- The octets and the lasting errors, in order; how the octets are cut and where the reader is
interrupted does not show. -/
def content (channel : Channel) : List (UInt8 ⊕ IoError) :=
  contentOf channel.events

/-- What a read of at most `wanted` octets answers, and the channel after it. -/
inductive Reads (wanted : Nat) (channel : Channel) : Except IoError (List UInt8) → Channel → Prop
  | octets {run : List UInt8} {rest : Channel} (notEmpty : run ≠ []) (few : run.length ≤ wanted)
      (content : channel.content = run.map .inl ++ rest.content)
      (supply : channel.supply = (run ++ rest.supply.1, rest.supply.2))
      (lighter : rest.weight < channel.weight) : Reads wanted channel (.ok run) rest
  | interrupted {error : IoError} {rest : Channel} (interruption : error.isInterrupted = true)
      (content : channel.content = rest.content) (supply : channel.supply = rest.supply)
      (lighter : rest.weight < channel.weight) : Reads wanted channel (.error error) rest
  | failed {error : IoError} {rest : Channel} (lasting : error.isInterrupted = false)
      (content : channel.content = .inr error :: rest.content) (supply : channel.supply = ([], some error))
      (lighter : rest.weight < channel.weight) : Reads wanted channel (.error error) rest
  | ended (content : channel.content = []) (supply : channel.supply = ([], none)) :
      Reads wanted channel (.ok []) .empty

variable {wanted : Nat} {events : List Event}

theorem pending_eq_content (channel : Channel) : channel.pending = channel.content.filterMap Sum.getLeft? := by
  obtain ⟨events⟩ := channel
  induction events with
  | nil => rfl
  | cons event events ih =>
      cases event with
      | octets run =>
          have all : (run.map (Sum.inl (β := IoError))).filterMap Sum.getLeft? = run := by
            simp [List.filterMap_map, Function.comp_def]
          rw [content, contentOf, List.filterMap_append, all, ← content, ← ih]
          rfl
      | failure error =>
          have same : pending ⟨.failure error :: events⟩ = pending ⟨events⟩ := rfl
          rw [same, ih, content, content, contentOf]
          split_ifs
          · rfl
          · rw [List.filterMap_cons_none (by rfl)]

/-- The octets of a content before its first error, and that error. -/
def suppliedBy : List (UInt8 ⊕ IoError) → List UInt8 × Option IoError
  | [] => ([], none)
  | .inl octet :: content => (octet :: (suppliedBy content).1, (suppliedBy content).2)
  | .inr error :: _ => ([], some error)

theorem suppliedBy_append (run : List UInt8) (content : List (UInt8 ⊕ IoError)) :
    suppliedBy (run.map .inl ++ content) = (run ++ (suppliedBy content).1, (suppliedBy content).2) := by
  induction run with
  | nil => rfl
  | cons octet run ih => rw [List.map_cons, List.cons_append, suppliedBy, ih, List.cons_append]

theorem supply_eq_content (channel : Channel) : channel.supply = suppliedBy channel.content := by
  obtain ⟨events⟩ := channel
  induction events with
  | nil => rfl
  | cons event events ih =>
      have held : supplyOf events = suppliedBy (contentOf events) := ih
      cases event with
      | octets run => rw [supply, content, supplyOf, contentOf, suppliedBy_append, held]
      | failure error =>
          rw [supply, content, supplyOf, contentOf]
          split_ifs
          · exact held
          · rfl

theorem pending_of_content {channel rest : Channel} {run : List UInt8}
    (content : channel.content = run.map .inl ++ rest.content) : channel.pending = run ++ rest.pending := by
  rw [pending_eq_content, content, List.filterMap_append, ← pending_eq_content]
  simp [List.filterMap_map, Function.comp_def]

/-- What a reader is supplied with shows in the content. -/
theorem supply_of_content {channel other : Channel} (same : other.content = channel.content) :
    other.supply = channel.supply := by
  rw [supply_eq_content, supply_eq_content, same]

theorem weight_octets (run : List UInt8) :
    weight ⟨.octets run :: events⟩ = run.length + weight ⟨events⟩ :=
  rfl

theorem weight_failure (error : IoError) :
    weight ⟨.failure error :: events⟩ = 1 + weight ⟨events⟩ :=
  rfl

/-- An empty run holds nothing up. -/
theorem Reads.skip {answer : Except IoError (List UInt8)} {rest : Channel}
    (reads : Reads wanted ⟨events⟩ answer rest) : Reads wanted ⟨.octets [] :: events⟩ answer rest := by
  have same : supply ⟨.octets [] :: events⟩ = supply ⟨events⟩ := rfl
  have unmoved : weight ⟨.octets [] :: events⟩ = weight ⟨events⟩ := by
    rw [weight_octets, List.length_nil, Nat.zero_add]
  cases reads with
  | octets notEmpty few content supply lighter =>
      exact .octets notEmpty few content (same.trans supply) (unmoved ▸ lighter)
  | interrupted interruption content supply lighter =>
      exact .interrupted interruption content (same.trans supply) (unmoved ▸ lighter)
  | failed lasting content supply lighter =>
      exact .failed lasting content (same.trans supply) (unmoved ▸ lighter)
  | ended content supply => exact .ended content (same.trans supply)

theorem reads_events (count : Nat) (positive : 0 < count) (few : count ≤ wanted) :
    Reads wanted ⟨events⟩ (readEvents count events).1 ⟨(readEvents count events).2⟩ := by
  induction events with
  | nil => exact .ended rfl rfl
  | cons event events ih =>
      cases event with
      | failure error =>
          have lighter : weight ⟨events⟩ < weight ⟨.failure error :: events⟩ := by
            rw [weight_failure]
            omega
          by_cases interruption : error.isInterrupted = true
          · exact .interrupted interruption (if_pos interruption) (if_pos interruption) lighter
          · exact .failed (eq_false_of_ne_true interruption) (if_neg interruption) (if_neg interruption) lighter
      | octets run =>
          cases run with
          | nil => exact ih.skip
          | cons octet run =>
              have taken : readEvents count (.octets (octet :: run) :: events) =
                  (.ok ((octet :: run).take count), .octets ((octet :: run).drop count) :: events) :=
                rfl
              rw [taken]
              have notEmpty : (octet :: run).take count ≠ [] := by
                rw [← List.length_pos_iff, List.length_take, List.length_cons]
                omega
              have split := List.take_append_drop count (octet :: run)
              refine .octets notEmpty ?_ ?_ ?_ ?_
              · rw [List.length_take]
                omega
              · simp only [content, contentOf]
                rw [← List.append_assoc, ← List.map_append, split]
              · simp only [supply, supplyOf]
                rw [← List.append_assoc, split]
              · rw [weight_octets, weight_octets, List.length_drop, List.length_cons]
                omega

/-- A read under a limit that lets an octet through. -/
theorem reads (channel : Channel) {limit : Option Nat} (through : limit ≠ some 0)
    (positive : 0 < wanted) :
    Reads wanted channel (channel.read limit wanted).1 (channel.read limit wanted).2 := by
  have least : 0 < least limit wanted ∧ least limit wanted ≤ wanted := by
    cases limit with
    | none => exact ⟨positive, Nat.le_refl wanted⟩
    | some most =>
        have notZero : most ≠ 0 := fun zero => through (congrArg some zero)
        exact ⟨Nat.lt_min.mpr ⟨Nat.pos_of_ne_zero notZero, positive⟩, Nat.min_le_right most wanted⟩
  exact reads_events (Channel.least limit wanted) least.1 least.2

end AuthBroker.Stream.Channel
