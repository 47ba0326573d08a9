import AuthBroker.Decimal.Digits
import Mathlib.Algebra.Order.Ring.Int
import Mathlib.Data.List.Basic

namespace AuthBroker.Word

/-! The ranges of words, as powers of two. -/

theorem fitsUnsigned_iff {bits : Nat} {value : Int} :
    fitsUnsigned bits value = true ↔ 0 ≤ value ∧ value < 2 ^ bits := by
  have exact : ((count bits : Nat) : Int) = 2 ^ bits := Int.natCast_pow 2 bits
  rw [fitsUnsigned, Bool.and_eq_true, decide_eq_true_eq, decide_eq_true_eq, exact]

theorem fitsSigned_iff {bits : Nat} {value : Int} :
    fitsSigned bits value = true ↔ -2 ^ (bits - 1) ≤ value ∧ value < 2 ^ (bits - 1) := by
  have exact : ((count (bits - 1) : Nat) : Int) = 2 ^ (bits - 1) := Int.natCast_pow 2 (bits - 1)
  rw [fitsSigned, Bool.and_eq_true, decide_eq_true_eq, decide_eq_true_eq, exact]

end AuthBroker.Word

namespace AuthBroker.Decimal

/-! Integers in decimal notation.

The digits of a number have no zero in front, but digits that are read may.  `Denotes` says which integer a text of
digits denotes, whatever its size; a reader of 32 bits takes the integers of its range and refuses all others.
-/

/-- Digits, of which there is one at least. -/
def Run (run : List Char) : Prop :=
  run ≠ [] ∧ ∀ char ∈ run, char.isDigit = true

/-- The integer that digits denote, with a sign before them or without one. -/
inductive Denotes : List Char → Int → Prop
  | plain {run : List Char} (digits : Run run) : Denotes run (Nat.ofDigitChars 10 run 0 : Nat)
  | plus {run : List Char} (digits : Run run) : Denotes ('+' :: run) (Nat.ofDigitChars 10 run 0 : Nat)
  | minus {run : List Char} (digits : Run run) : Denotes ('-' :: run) (-(Nat.ofDigitChars 10 run 0 : Nat))

variable {run text : List Char} {char : Char} {value : Int}

/-! ### The digits of a number -/

theorem digits_ne_nil (value : Nat) : digits value ≠ [] :=
  Nat.toDigits_ne_nil

theorem isDigit_of_mem_digits {value : Nat} (member : char ∈ digits value) : char.isDigit = true :=
  Nat.isDigit_of_mem_toDigits (by decide) (by decide) member

theorem run_digits (value : Nat) : Run (digits value) :=
  ⟨digits_ne_nil value, fun _ => isDigit_of_mem_digits⟩

theorem ofDigitChars_digits (value : Nat) : Nat.ofDigitChars 10 (digits value) 0 = value :=
  Nat.ofDigitChars_ten_toDigits

theorem digits_head_eq_zero (value : Nat) (zero : (digits value).head? = some '0') : digits value = ['0'] := by
  induction value using Nat.strongRecOn with
  | ind value ih =>
      by_cases small : value < 10
      · rw [digits, Nat.toDigits_of_lt_base small] at zero ⊢
        rw [Option.some.inj zero]
      · have more : digits value = digits (value / 10) ++ [(value % 10).digitChar] :=
          Nat.toDigits_of_base_le (by decide) (by omega)
        have head : (digits (value / 10)).head? = some '0' := by
          rwa [more, List.head?_append_of_ne_nil _ (digits_ne_nil _)] at zero
        -- only zero has the digit zero first, and a tenth of the number is not zero
        have digits := ih (value / 10) (by omega) head
        have same : value / 10 = 0 := by
          rw [← ofDigitChars_digits (value / 10)]
          exact congrArg (fun run => Nat.ofDigitChars 10 run 0) digits
        omega

theorem denotes_signedDigits (value : Int) : Denotes (signedDigits value) value := by
  cases value with
  | ofNat value =>
      have plain := Denotes.plain (run_digits value)
      rwa [ofDigitChars_digits] at plain
  | negSucc value =>
      have minus := Denotes.minus (run_digits (value + 1))
      rwa [ofDigitChars_digits] at minus

theorem denotes_signedText (value : Int) : Denotes (signedText value).toList value := by
  rw [signedText, String.toList_ofList]
  exact denotes_signedDigits value

/-! ### Reading an integer -/

theorem charDigit?_of_isDigit (isDigit : char.isDigit = true) : charDigit? char = some (char.toNat - '0'.toNat) := by
  have bounds : '0' ≤ char ∧ char ≤ '9' := by simpa [Char.isDigit, Char.le_def] using isDigit
  simp [charDigit?, bounds]

theorem charDigit?_of_not_isDigit (other : char.isDigit = false) : charDigit? char = none := by
  have bounds : ¬ ('0' ≤ char ∧ char ≤ '9') := by simpa [Char.isDigit, Char.le_def] using other
  simpa [charDigit?] using bounds

/-- What has no value has none with more digits. -/
theorem foldl_none (run : List Char) :
    run.foldl (fun value char => do pure ((← value) * 10 + (← charDigit? char))) none = (none : Option Nat) := by
  induction run with
  | nil => rfl
  | cons char run ih => exact ih

theorem foldl_digits (run : List Char) (start : Nat) :
    run.foldl (fun value char => do pure ((← value) * 10 + (← charDigit? char))) (some start) =
      if run.all Char.isDigit then some (Nat.ofDigitChars 10 run start) else none := by
  induction run generalizing start with
  | nil => rfl
  | cons char run ih =>
      rw [List.foldl_cons, List.all_cons, Nat.ofDigitChars_cons]
      cases isDigit : char.isDigit with
      | true =>
          rw [Nat.mul_comm 10 start, Bool.true_and, ← ih, charDigit?_of_isDigit isDigit]
          rfl
      | false =>
          rw [charDigit?_of_not_isDigit isDigit]
          exact foldl_none run

theorem unsigned?_eq_some_iff {value : Nat} :
    unsigned? run = some value ↔ Run run ∧ Nat.ofDigitChars 10 run 0 = value := by
  cases run with
  | nil => simp [unsigned?, Run]
  | cons char run =>
      rw [unsigned?, foldl_digits]
      · simp [Run]
      · exact List.cons_ne_nil char run

/-- A sign is no digit, so digits do not start with one. -/
theorem Run.ne_cons (digits : Run text) {sign : Char} (notDigit : sign.isDigit = false) : text ≠ sign :: run := by
  rintro rfl
  rw [digits.2 sign List.mem_cons_self] at notDigit
  contradiction

theorem signed?_of_unsigned (notPlus : ∀ run, text ≠ '+' :: run) (notMinus : ∀ run, text ≠ '-' :: run) :
    signed? text = (unsigned? text).map fun (size : Nat) => (size : Int) := by
  rw [signed?]
  · cases unsigned? text <;> rfl
  · exact fun run => notPlus run
  · exact fun run => notMinus run

theorem signed?_plus : signed? ('+' :: run) = (unsigned? run).map fun (size : Nat) => (size : Int) := by
  rw [signed?]
  cases unsigned? run <;> rfl

theorem signed?_minus : signed? ('-' :: run) = (unsigned? run).map fun (size : Nat) => -(size : Int) := by
  rw [signed?]
  cases unsigned? run <;> rfl

theorem map_unsigned?_eq_some_iff {sense : Nat → Int} : (unsigned? run).map sense = some value ↔
    Run run ∧ sense (Nat.ofDigitChars 10 run 0) = value := by
  rw [Option.map_eq_some_iff]
  constructor
  · intro read
    obtain ⟨size, found, rfl⟩ := read
    obtain ⟨digits, rfl⟩ := unsigned?_eq_some_iff.mp found
    exact ⟨digits, rfl⟩
  · intro denoted
    exact ⟨_, unsigned?_eq_some_iff.mpr ⟨denoted.1, rfl⟩, denoted.2⟩

theorem signed?_eq_some_iff : signed? text = some value ↔ Denotes text value := by
  constructor
  · intro read
    by_cases plus : ∃ run, text = '+' :: run
    · obtain ⟨run, rfl⟩ := plus
      rw [signed?_plus] at read
      obtain ⟨digits, rfl⟩ := map_unsigned?_eq_some_iff.mp read
      exact .plus digits
    by_cases minus : ∃ run, text = '-' :: run
    · obtain ⟨run, rfl⟩ := minus
      rw [signed?_minus] at read
      obtain ⟨digits, rfl⟩ := map_unsigned?_eq_some_iff.mp read
      exact .minus digits
    rw [signed?_of_unsigned (not_exists.mp plus) (not_exists.mp minus)] at read
    obtain ⟨digits, rfl⟩ := map_unsigned?_eq_some_iff.mp read
    exact .plain digits
  · intro denotes
    cases denotes with
    | plus digits =>
        rw [signed?_plus]
        exact map_unsigned?_eq_some_iff.mpr ⟨digits, rfl⟩
    | minus digits =>
        rw [signed?_minus]
        exact map_unsigned?_eq_some_iff.mpr ⟨digits, rfl⟩
    | plain digits =>
        rw [signed?_of_unsigned (fun run => digits.ne_cons (by decide)) (fun run => digits.ne_cons (by decide))]
        exact map_unsigned?_eq_some_iff.mpr ⟨digits, rfl⟩

theorem Denotes.unique {other : Int} (denotes : Denotes text value) (denotes' : Denotes text other) : value = other := by
  have read := signed?_eq_some_iff.mpr denotes
  rw [signed?_eq_some_iff.mpr denotes'] at read
  exact (Option.some.inj read).symm

/-- An integer of 32 bits is read from any of its spellings, and nothing else is read. -/
theorem int32?_eq_some_iff {text : String} :
    int32? text = some value ↔ Denotes text.toList value ∧ -2 ^ 31 ≤ value ∧ value < 2 ^ 31 := by
  have fits (found : Int) : Word.fitsSigned 32 found = true ↔ -2 ^ 31 ≤ found ∧ found < 2 ^ 31 := Word.fitsSigned_iff
  rw [← signed?_eq_some_iff, int32?]
  cases signed? text.toList with
  | none => simp
  | some found =>
      simp only [fits, Option.some.injEq]
      by_cases inRange : -2 ^ 31 ≤ found ∧ found < 2 ^ 31
      · rw [if_pos inRange, Option.some.injEq]
        constructor
        · rintro rfl
          exact ⟨rfl, inRange⟩
        · exact And.left
      · rw [if_neg inRange]
        constructor
        · intro never
          contradiction
        · rintro ⟨rfl, inside⟩
          exact absurd inside inRange

end AuthBroker.Decimal
