import AuthBroker.Proofs.Decimal.Digits
import AuthBroker.Verdict

namespace AuthBroker.Reply

open AuthBroker.Decimal (Denotes int32? int32?_eq_some_iff)

/-! The texts of execution errors.

The helper names an execution error by a key of the catalog, or by one of its exit codes in decimal.  A key is a code
only if its value is in the range of codes, so the digits of a larger number name nothing but themselves.
-/

/-- A key that is a code: it denotes an integer of 32 bits. -/
def Names (key : String) (code : Int) : Prop :=
  Denotes key.toList code ∧ -2 ^ 31 ≤ code ∧ code < 2 ^ 31

/-- The text of a key: that of the code it names, else that of the catalog, else the key. -/
inductive Shows (catalog : Catalog) (codes : ExitCodes) (key : String) : String → Prop
  | coded {code : Int} {text : String} (names : Names key code) (found : codes.lookup code = some text) :
      Shows catalog codes key text
  | listed {text : String} (uncoded : ∀ code, Names key code → codes.lookup code = none)
      (found : catalog.lookup key = some text) : Shows catalog codes key text
  | bare (uncoded : ∀ code, Names key code → codes.lookup code = none) (missing : catalog.lookup key = none) :
      Shows catalog codes key key

variable {catalog : Catalog} {codes : ExitCodes} {key other text : String} {code : Int}

theorem executionText_of_names (names : Names key code) :
    executionText catalog codes key = (codes.lookup code).getD (catalog.resolve key) := by
  simp only [executionText, int32?_eq_some_iff.mpr names]

theorem executionText_of_unnamed (unnamed : ∀ code, ¬ Names key code) :
    executionText catalog codes key = catalog.resolve key := by
  cases read : int32? key with
  | none => simp only [executionText, read]
  | some code => exact absurd (int32?_eq_some_iff.mp read) (unnamed code)

/-- A key whose code has no text is looked up in the catalog. -/
theorem executionText_of_uncoded (uncoded : ∀ code, Names key code → codes.lookup code = none) :
    executionText catalog codes key = catalog.resolve key := by
  by_cases named : ∃ code, Names key code
  · obtain ⟨code, names⟩ := named
    rw [executionText_of_names names, uncoded code names, Option.getD_none]
  · exact executionText_of_unnamed (not_exists.mp named)

theorem executionText_eq_iff : executionText catalog codes key = text ↔ Shows catalog codes key text := by
  constructor
  · rintro rfl
    by_cases coded : ∃ code, Names key code ∧ codes.lookup code ≠ none
    · obtain ⟨code, names, has⟩ := coded
      obtain ⟨text, found⟩ := Option.ne_none_iff_exists'.mp has
      rw [executionText_of_names names, found, Option.getD_some]
      exact .coded names found
    · have uncoded : ∀ code, Names key code → codes.lookup code = none := by
        intro code names
        exact not_ne_iff.mp fun has => coded ⟨code, names, has⟩
      rw [executionText_of_uncoded uncoded, Catalog.resolve]
      cases found : catalog.lookup key with
      | none => exact .bare uncoded found
      | some text => exact .listed uncoded found
  · intro shows
    cases shows with
    | coded names found => rw [executionText_of_names names, found, Option.getD_some]
    | listed uncoded found => rw [executionText_of_uncoded uncoded, Catalog.resolve, found, Option.getD_some]
    | bare uncoded missing => rw [executionText_of_uncoded uncoded, Catalog.resolve, missing, Option.getD_none]

/-- A key beyond the range of codes names none. -/
theorem unnamed_of_denotes {value : Int} (denotes : Denotes key.toList value) (outside : value < -2 ^ 31 ∨ 2 ^ 31 ≤ value) :
    ∀ code, ¬ Names key code := by
  rintro code ⟨denotes', least, below⟩
  rw [denotes.unique denotes'] at outside
  omega

/-- An execution error keeps its key and shows the text of that key.  Keys of one code that has a text show the same
text, and a key beyond the range of codes shows the same whatever texts the codes have. -/
theorem classify_executionError (catalog : Catalog) (codes : ExitCodes) (key : String) :
    (∀ verdict, classify catalog codes (.tagged .executionError key) = verdict ↔
      ∃ text, verdict = .error (.execution key text) ∧ Shows catalog codes key text) ∧
    (∀ other code, Names key code → Names other code → codes.lookup code ≠ none → ∃ text,
      classify catalog codes (.tagged .executionError key) = .error (.execution key text) ∧
      classify catalog codes (.tagged .executionError other) = .error (.execution other text)) ∧
    ∀ value, Denotes key.toList value → value < -2 ^ 31 ∨ 2 ^ 31 ≤ value → ∀ codes',
      classify catalog codes' (.tagged .executionError key) = classify catalog codes (.tagged .executionError key) := by
  refine ⟨fun verdict => ?_, fun other code names names' has => ?_, fun value denotes outside codes' => ?_⟩
  · simp only [classify, ← executionText_eq_iff]
    constructor
    · rintro rfl
      exact ⟨_, rfl, rfl⟩
    · rintro ⟨text, rfl, rfl⟩
      rfl
  · obtain ⟨text, found⟩ := Option.ne_none_iff_exists'.mp has
    refine ⟨text, ?_, ?_⟩
    · rw [classify, executionText_of_names names, found, Option.getD_some]
    · rw [classify, executionText_of_names names', found, Option.getD_some]
  · have unnamed := unnamed_of_denotes denotes outside
    rw [classify, classify, executionText_of_unnamed unnamed, executionText_of_unnamed unnamed]

example : executionText .english .english "+00202" = executionText .english .english "202" := by decide

example : executionText .english .english "4294967498" = "4294967498" := by decide

end AuthBroker.Reply
