import AuthBroker.Proofs.Json.Integer
import AuthBroker.Proofs.Json.Writing
import AuthBroker.Proofs.Reply.ExecutionText
import AuthBroker.Proofs.Reply.FailClosed

namespace AuthBroker.Reply

open AuthBroker.Json (Blank Quoted Row Lead Spells Document Plain)
open AuthBroker.Text.Utf8 (bytes)
open AuthBroker.Decimal (signedText)

/-! Replies with a bare number.

The helper gives one of its errors as a number instead of a text.  A whole number of 64 bits counts as its digits, so
it makes no difference whether they stand between quotes.  As an execution error, a number in the range of exit codes
is diagnosed like the exit of a helper with that code.
-/

/-- A payload that lists a name and one more item.  Blanks stand between any two lexemes, and escapes in the name. -/
inductive Pair (name : String) (second : List UInt8) : List UInt8 → Prop
  | intro {outside before spelling ahead after behind beyond : List UInt8} (quoted : Quoted spelling name)
      (blanks : ∀ gap ∈ [outside, before, ahead, after, behind, beyond], Blank gap) :
      Pair name second (outside ++ 0x5B :: (before ++ 0x22 :: spelling ++ (ahead ++ 0x2C :: after) ++ second ++ behind) ++
        0x5D :: beyond)

variable {name text : String} {second payload : List UInt8} {value : Json.Value} {tag : Tag} {number : Int}
  {catalog : Catalog} {codes : ExitCodes}

theorem document_of_pair (pair : Pair name second payload) (spells : Spells second value) (flat : value.nesting = 0) :
    Document payload (.array [.string name, value]) := by
  cases pair with
  | @intro outside before spelling ahead after behind beyond quoted blanks =>
      have later : Row Spells false ((ahead ++ 0x2C :: after) ++ second ++ behind) [value] :=
        .item (.comma (blanks ahead (by simp)) (blanks after (by simp))) spells (.ended (blanks behind (by simp)))
      have row := Row.item (.first (blanks before (by simp))) (Spells.string quoted) later
      refine ⟨outside, _, beyond, blanks outside (by simp), .list row, blanks beyond (by simp), by simp, ?_⟩
      simp only [Json.Value.nesting, Json.itemsNesting, flat]
      decide

theorem decode_of_pair (pair : Pair tag.name second payload) (spells : Spells second value) (flat : value.nesting = 0)
    (scalar : Scalar value text) : decode payload = .tagged tag text :=
  decode_eq_tagged_iff.mpr ⟨value, [], document_of_pair pair spells flat, scalar⟩

/-! ### The digits of a number -/

theorem plain_signedText (number : Int) : Plain (bytes (signedText number)) := by
  have digit {size : Nat} : Plain (Text.Utf8.encode (Decimal.digits size)) := by
    intro octet member
    have isDigit := Json.isDigit_of_mem_encode (Decimal.run_digits size).2 octet member
    have bounds := Json.digit_toNat isDigit
    simp only [ne_eq, ← UInt8.toNat_inj, UInt8.le_iff_toNat_le, UInt8.reduceToNat]
    omega
  rw [bytes, signedText, String.toList_ofList]
  cases number with
  | ofNat size => exact digit
  | negSucc size =>
      intro octet member
      rcases List.mem_cons.mp member with rfl | later
      · decide
      · exact digit octet later

/-- Between quotes the digits are a spelling of themselves. -/
theorem spells_signedText (number : Int) :
    Spells (0x22 :: bytes (signedText number) ++ [0x22]) (.string (signedText number)) := by
  have content := Json.content_plain (plain_signedText number)
  exact .string ⟨_, content, rfl⟩

/-! ### Diagnoses -/

/-- A number that the catalog does not know is diagnosed as an exit code. -/
theorem executionText_signedText (least : -2 ^ 31 ≤ number) (below : number < 2 ^ 31)
    (unlisted : catalog.lookup (signedText number) = none) :
    executionText catalog codes (signedText number) = codes.describeCode number := by
  have names : Names (signedText number) number := ⟨Decimal.denotes_signedText number, least, below⟩
  rw [executionText_of_names names, Catalog.resolve, unlisted]
  rfl

theorem executionText_of_outside (outside : number < -2 ^ 31 ∨ 2 ^ 31 ≤ number) :
    executionText catalog codes (signedText number) = catalog.resolve (signedText number) :=
  executionText_of_unnamed (unnamed_of_denotes (Decimal.denotes_signedText number) outside)

theorem describe_of_code {status : WaitStatus} (exited : status.code?.map Int.ofNat = some number) :
    codes.describe status = codes.describeCode number := by
  rw [WaitStatus.code?] at exited
  rw [ExitCodes.describe]
  cases kind : status.kind with
  | exited code =>
      rw [kind] at exited
      exact congrArg codes.describeCode (Option.some.inj exited)
  | _ => simp [kind] at exited

/-- A whole number of 64 bits makes the same reply as its digits between quotes.  As an execution error it is diagnosed
as the exit code that it is, if it is in the range of codes and the catalog does not know it; a number beyond that
range is never taken for a code. -/
theorem decode_number (tag : Tag) (number : Int) (low : -2 ^ 63 ≤ number) (high : number < 2 ^ 64)
    (numeric textual : List UInt8) (bare : Pair tag.name (bytes (signedText number)) numeric)
    (quoted : Pair tag.name (0x22 :: bytes (signedText number) ++ [0x22]) textual) :
    decode numeric = .tagged tag (signedText number) ∧ decode textual = decode numeric ∧
    (tag = .executionError → ∀ catalog codes,
      (-2 ^ 31 ≤ number → number < 2 ^ 31 → catalog.lookup (signedText number) = none →
        classify catalog codes (decode numeric) = .error (.execution (signedText number) (codes.describeCode number)) ∧
        ∀ status : WaitStatus, status.code?.map Int.ofNat = some number →
          codes.describe status = codes.describeCode number) ∧
      (number < -2 ^ 31 ∨ 2 ^ 31 ≤ number → classify catalog codes (decode numeric) =
        .error (.execution (signedText number) (catalog.resolve (signedText number))))) := by
  have read : decode numeric = .tagged tag (signedText number) :=
    decode_of_pair bare (Json.spells_integer low high) rfl (.integer number)
  refine ⟨read, ?_, ?_⟩
  · rw [read]
    exact decode_of_pair quoted (spells_signedText number) rfl (.string _)
  · rintro rfl catalog codes
    refine ⟨fun least below unlisted => ⟨?_, fun status => describe_of_code⟩, fun outside => ?_⟩
    · rw [read, classify, executionText_signedText least below unlisted]
    · rw [read, classify, executionText_of_outside outside]

/-- The helper tells that a user name or a password is missing by the bare code 202. -/
theorem decode_number_missing :
    let numeric := bytes "[ \"rtvs-error\", 202 ]"
    let textual := bytes "[\"rtvs-error\",\"202\"]"
    let shown := "authentication helper received no username or password"
    decode numeric = .tagged .executionError "202" ∧ decode textual = decode numeric ∧
      classify .english .english (decode numeric) = .error (.execution "202" shown) ∧
      ExitCodes.english.describe (.ofCode 202) = shown := by
  intro numeric textual shown
  have plain : Plain (bytes Tag.executionError.name) := by
    unfold Plain
    decide +kernel
  have name : Quoted (bytes Tag.executionError.name ++ [0x22]) Tag.executionError.name :=
    ⟨_, Json.content_plain plain, rfl⟩
  have bare : Pair Tag.executionError.name (bytes (signedText 202)) numeric :=
    @Pair.intro _ _ [] [0x20] _ [] [0x20] [0x20] [] name (by simp [Blank, Json.isBlank])
  have quoted : Pair Tag.executionError.name (0x22 :: bytes (signedText 202) ++ [0x22]) textual :=
    @Pair.intro _ _ [] [] _ [] [] [] [] name (by simp [Blank])
  obtain ⟨read, same, diagnosed⟩ := decode_number .executionError 202 (by decide) (by decide) numeric textual bare quoted
  obtain ⟨shows, exits⟩ := (diagnosed rfl .english .english).1 (by decide) (by decide) (by decide)
  exact ⟨read, same, shows, exits (.ofCode 202) (by decide)⟩

end AuthBroker.Reply
