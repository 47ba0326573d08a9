import AuthBroker.Proofs.Decimal.Digits
import AuthBroker.Proofs.Json.Grammar

namespace AuthBroker.Json

/-! Integers of 64 bits as JSON spells them.

The digits of such an integer, with a minus sign if it is negative, are a numeral that denotes the integer itself: all
digits fit the significand, and neither the lowest signed value nor the highest unsigned one is rounded.
-/

open AuthBroker.Text.Utf8

variable {run : List Char} {char : Char} {value : Int}

/-! ### Digits as octets -/

theorem encodeChar_of_isDigit (isDigit : char.isDigit = true) :
    String.utf8EncodeChar char = [UInt8.ofNat char.toNat] ∧ 0x30 ≤ char.toNat ∧ char.toNat ≤ 0x39 := by
  have bounds : 0x30 ≤ char.toNat ∧ char.toNat ≤ 0x39 := by
    simpa [Char.isDigit, UInt32.le_iff_toNat_le] using isDigit
  refine ⟨?_, bounds⟩
  rw [encodeChar_eq, if_pos (Nat.le_trans bounds.2 (by decide))]

theorem isDigit_of_mem_encode (digits : ∀ char ∈ run, char.isDigit = true) :
    ∀ octet ∈ encode run, Decimal.isDigit octet = true := by
  intro octet member
  obtain ⟨char, among, inside⟩ := List.mem_flatMap.mp member
  obtain ⟨form, low, high⟩ := encodeChar_of_isDigit (digits char among)
  rw [form, List.mem_singleton] at inside
  have number : octet.toNat = char.toNat := by
    rw [inside, UInt8.toNat_ofNat']
    omega
  simp only [Decimal.isDigit, Bool.and_eq_true, decide_eq_true_eq, UInt8.le_iff_toNat_le, UInt8.reduceToNat, number]
  exact ⟨low, high⟩

theorem digits_encode (digits : Decimal.Run run) : Digits (encode run) := by
  refine ⟨fun empty => ?_, isDigit_of_mem_encode digits.2⟩
  obtain ⟨char, later, rfl⟩ := List.exists_cons_of_ne_nil digits.1
  rw [encode_cons] at empty
  exact encodeChar_ne_nil char (List.append_eq_nil_iff.mp empty).1

theorem valueFrom_encode (digits : ∀ char ∈ run, char.isDigit = true) (start : Nat) :
    Decimal.valueFrom start (encode run) = Nat.ofDigitChars 10 run start := by
  induction run generalizing start with
  | nil => rfl
  | cons char run ih =>
      obtain ⟨form, low, high⟩ := encodeChar_of_isDigit (digits char List.mem_cons_self)
      have digit : Decimal.digitValue (UInt8.ofNat char.toNat) = char.toNat - '0'.toNat := by
        rw [Decimal.digitValue, UInt8.toNat_ofNat', Nat.mod_eq_of_lt (by omega)]
        rfl
      calc Decimal.valueFrom start (encode (char :: run))
          _ = Decimal.valueFrom (start * 10 + Decimal.digitValue (UInt8.ofNat char.toNat)) (encode run) := by
              rw [encode_cons, form]
              rfl
          _ = Nat.ofDigitChars 10 run (start * 10 + (char.toNat - '0'.toNat)) := by
              rw [digit, ih fun other member => digits other (List.mem_cons_of_mem char member)]
          _ = Nat.ofDigitChars 10 (char :: run) start := by rw [Nat.ofDigitChars_cons, Nat.mul_comm]

/-- Digits are all taken while their value has room. -/
theorem absorb_of_fits {octets : List UInt8} {significand : Nat} (count : Nat)
    (fits : Decimal.valueFrom significand octets ≤ maxSignificand) :
    absorb significand count octets = (Decimal.valueFrom significand octets, count + octets.length, []) := by
  induction octets generalizing significand count with
  | nil => rfl
  | cons octet octets ih =>
      have room : ¬ maxSignificand < significand * 10 + Decimal.digitValue octet :=
        Nat.not_lt.mpr (Nat.le_trans (valueFrom_ge octets _) fits)
      have more := ih (count + 1) (show Decimal.valueFrom (significand * 10 + Decimal.digitValue octet) octets ≤ _ from fits)
      rw [absorb, if_neg room, more, List.length_cons, Nat.add_right_comm]
      rfl

theorem absorb_digits {size : Nat} (small : size < 2 ^ 64) :
    absorb 0 0 (encode (Decimal.digits size)) = (size, (encode (Decimal.digits size)).length, []) := by
  have value : Decimal.valueFrom 0 (encode (Decimal.digits size)) = size := by
    rw [valueFrom_encode (Decimal.run_digits size).2, Decimal.ofDigitChars_digits]
  have fits : Decimal.valueFrom 0 (encode (Decimal.digits size)) ≤ maxSignificand := by
    rw [value, maxSignificand, Word.count]
    exact Nat.le_sub_one_of_lt small
  rw [absorb_of_fits 0 fits, value, Nat.zero_add]

/-! ### The numeral of an integer -/

theorem head_encode_digits {size : Nat} (zero : (encode (Decimal.digits size)).head? = some 0x30) :
    encode (Decimal.digits size) = [0x30] := by
  obtain ⟨first, later, split⟩ := List.exists_cons_of_ne_nil (Decimal.digits_ne_nil size)
  have member : first ∈ Decimal.digits size := by simp [split]
  obtain ⟨form, low, high⟩ := encodeChar_of_isDigit (Decimal.isDigit_of_mem_digits member)
  have same : UInt8.ofNat first.toNat = 0x30 := by
    rw [split, encode_cons, form] at zero
    exact Option.some.inj zero
  have isZero : first = '0' := by
    refine Char.toNat_inj.mp ?_
    have number := congrArg UInt8.toNat same
    rw [UInt8.toNat_ofNat', Nat.mod_eq_of_lt (by omega)] at number
    exact number
  rw [Decimal.digits_head_eq_zero size (by rw [split, isZero]; rfl)]
  rfl

def integerNumeral (value : Int) : Numeral where
  negative := decide (value < 0)
  whole := encode (Decimal.digits value.natAbs)
  fraction := none
  exponent := none
  areDigits := digits_encode (Decimal.run_digits value.natAbs)
  noLeadingZero := head_encode_digits
  fractionDigits := by simp

theorem octets_integerNumeral (value : Int) : (integerNumeral value).octets = bytes (Decimal.signedText value) := by
  have whole (size : Nat) : (encode (Decimal.digits size)) ++ fractionOctets none ++ exponentOctets none =
      encode (Decimal.digits size) := by simp [fractionOctets, exponentOctets]
  rw [bytes, Decimal.signedText, String.toList_ofList]
  cases value with
  | ofNat size =>
      rw [Numeral.octets, if_neg (by simp [integerNumeral])]
      exact whole size
  | negSucc size =>
      rw [Numeral.octets, if_pos (by simp [integerNumeral, Int.negSucc_lt_zero])]
      exact congrArg (0x2D :: ·) (whole (size + 1))

/-- Integers of 64 bits, signed or unsigned, are denoted as they are. -/
theorem value?_integerNumeral (low : -2 ^ 63 ≤ value) (high : value < 2 ^ 64) :
    (integerNumeral value).value? = some (.integer value) := by
  have small : value.natAbs < 2 ^ 64 := by omega
  have denoted : (integerNumeral value).value? = whole? (decide (value < 0)) value.natAbs := by
    simp only [Numeral.value?, integerNumeral, denote, absorb_digits small]
    rfl
  rw [denoted]
  by_cases negative : value < 0
  · have room : ¬ (decide (value.natAbs = 0) || decide (Word.count 63 < value.natAbs)) = true := by
      have count : Word.count 63 = 2 ^ 63 := rfl
      simp only [Bool.or_eq_true, decide_eq_true_eq, count]
      omega
    have size : -(value.natAbs : Int) = value := by omega
    rw [decide_eq_true negative, whole?, if_neg (by decide), if_neg room, size]
  · have size : (value.natAbs : Int) = value := by omega
    rw [decide_eq_false negative, whole?, if_pos (by decide), size]

theorem spells_integer (low : -2 ^ 63 ≤ value) (high : value < 2 ^ 64) :
    Spells (bytes (Decimal.signedText value)) (.number (.integer value)) := by
  rw [← octets_integerNumeral]
  exact .number (value?_integerNumeral low high)

end AuthBroker.Json
