import AuthBroker.Proofs.Decimal.Digits
import AuthBroker.Toml.Scalar
import Mathlib.Data.List.Basic
import Mathlib.Data.List.TakeWhile

namespace AuthBroker.Toml

/-! Whole numbers in decimal notation.

A bare lexeme of digits without a leading zero is an integer.  The digits of a number are such a lexeme, and the
integer is that number if 128 bits can hold it.
-/

variable {run rest : List Char} {value : Nat}

/-! ### Digits -/

def Decimals (run : List Char) : Prop :=
  ∀ char ∈ run, isDecimal char = true

theorem Decimals.not_mem (decimals : Decimals run) {char : Char} (notDecimal : isDecimal char = false) : char ∉ run := by
  intro member
  rw [decimals char member] at notDecimal
  contradiction

theorem decimals_digits (value : Nat) : Decimals (Decimal.digits value) := by
  intro char member
  have isDigit : char.isDigit = true := Decimal.isDigit_of_mem_digits member
  simpa [isDecimal, Char.isDigit, Char.le_def] using isDigit

theorem valueIn_of_decimals (decimals : Decimals run) (start : Nat) :
    run.foldl (fun value char => value * 10 + digitOf char) start = Nat.ofDigitChars 10 run start := by
  induction run generalizing start with
  | nil => rfl
  | cons char run ih =>
      have isDecimal := decimals char List.mem_cons_self
      rw [List.foldl_cons, Nat.ofDigitChars_cons, ih fun other member => decimals other (List.mem_cons_of_mem _ member),
        Nat.mul_comm, digitOf, if_pos (show ('0' ≤ char && char ≤ '9') = true from isDecimal)]

theorem valueIn_digits (value : Nat) : valueIn 10 (Decimal.digits value) = value := by
  rw [valueIn, valueIn_of_decimals (decimals_digits value)]
  exact Decimal.ofDigitChars_digits value

/-! ### Integers -/

theorem withoutUnderscores_eq (decimals : Decimals run) : withoutUnderscores run = run := by
  refine List.filter_eq_self.mpr fun char member => bne_iff_ne.mpr fun same => ?_
  exact decimals.not_mem (by decide) (same ▸ member)

theorem spaced_of_not_mem {isDigit : Char → Bool} (noUnderscore : '_' ∉ run) (after : Bool) :
    spaced isDigit after run = true := by
  induction run generalizing after with
  | nil => rfl
  | cons char run ih =>
      rw [List.mem_cons, not_or] at noUnderscore
      rw [spaced, if_neg (Ne.symm noUnderscore.1)]
      exact ih noUnderscore.2 _

theorem takeSign_of_decimals (decimals : Decimals run) : takeSign run = (false, false, run) := by
  unfold takeSign
  split
  · exact absurd List.mem_cons_self (decimals.not_mem (by decide))
  · exact absurd List.mem_cons_self (decimals.not_mem (by decide))
  · rfl

theorem bareScalar?_of_decimals (decimals : Decimals run) (nonempty : run ≠ [])
    (noLeadingZero : run.head? = some '0' → run = ['0']) :
    bareScalar? run = some (.integer (wholeValue? false 10 isDecimal run)) := by
  have absent (char : Char) (notDecimal : isDecimal char = false) : char ∉ run := decimals.not_mem notDecimal
  have number : decimal? run = some (.integer (wholeValue? false 10 isDecimal run)) := by
    have ended : run.dropWhile isDecimal = [] := List.dropWhile_eq_nil_iff.mpr decimals
    have first : ¬ (run.isEmpty || (run.head? = some '0' && 1 < run.length)) = true := by
      simp only [Bool.or_eq_true, List.isEmpty_iff, nonempty, Bool.and_eq_true, decide_eq_true_eq, false_or]
      rintro ⟨zero, long⟩
      rw [noLeadingZero zero] at long
      contradiction
    simp only [decimal?, takeSign_of_decimals decimals, ended]
    rw [decimalInteger?, if_neg first, if_pos (spaced_of_not_mem (absent '_' (by decide)) false)]
  unfold bareScalar?
  split
  · exact absurd (by simp) (absent 't' (by decide))
  · exact absurd (by simp) (absent 'f' (by decide))
  · exact absurd (by simp) (absent 'x' (by decide))
  · exact absurd (by simp) (absent 'o' (by decide))
  · exact absurd (by simp) (absent 'b' (by decide))
  · rw [takeSign_of_decimals decimals]
    split
    · rename_i same
      cases same
      exact absurd (by simp) (absent 'i' (by decide))
    · rename_i same
      cases same
      exact absurd (by simp) (absent 'a' (by decide))
    · exact number

theorem wholeValue?_digits (small : value < Word.count 128) :
    wholeValue? false 10 isDecimal (Decimal.digits value) = some (value : Int) := by
  have short : (Decimal.digits value).length ≤ 128 := by
    exact (Nat.length_toDigits_le_iff (by decide) (by decide)).mpr (Nat.lt_of_lt_of_le small (by decide))
  have dropped := (List.dropWhile_sublist (l := Decimal.digits value) (· == '0')).length_le
  have fits : inRange value = true := by
    have bound : (value : Int) < Word.count 128 := Int.ofNat_lt.mpr small
    simp [inRange, Word.fitsUnsigned, bound]
  have areDigits : (Decimal.digits value).all isDecimal = true := List.all_eq_true.mpr (decimals_digits value)
  have nonempty : (Decimal.digits value).isEmpty = false := by simpa using Decimal.digits_ne_nil value
  have notLong : ¬ 128 < ((Decimal.digits value).dropWhile (· == '0')).length := by omega
  simp only [wholeValue?, withoutUnderscores_eq (decimals_digits value), nonempty, areDigits, notLong, valueIn_digits]
  simp [fits]

theorem bareScalar?_digits (small : value < Word.count 128) :
    bareScalar? (Decimal.digits value) = some (.integer (some (value : Int))) := by
  rw [bareScalar?_of_decimals (decimals_digits value) (Decimal.digits_ne_nil value) (Decimal.digits_head_eq_zero value),
    wholeValue?_digits small]

end AuthBroker.Toml
