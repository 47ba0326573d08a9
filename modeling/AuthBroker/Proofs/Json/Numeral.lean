import AuthBroker.Proofs.Json.Spelling

namespace AuthBroker.Json

/-! How JSON spells numbers, and which number a numeral denotes.

A numeral ends where no further octet could belong to it, so the reader of numbers has to
look one octet ahead.  The number itself is settled by the digits alone: a whole number of
64 bits stays an integer, and anything else is a significand with a power of ten, which
may be too large for a floating-point number.
-/

/-! ### Numerals -/

/-- A run of digits that is not empty. -/
def Digits (octets : List UInt8) : Prop :=
  octets ≠ [] ∧ ∀ octet ∈ octets, Decimal.isDigit octet = true

/-- An exponent: its letter, its sign if it has one, and its digits. -/
structure Exponent where
  letter : UInt8
  sign : List UInt8
  digits : List UInt8
  isLetter : isExponentLetter letter = true
  isSign : sign = [] ∨ sign = [0x2B] ∨ sign = [0x2D]
  areDigits : Digits digits

/-- A number as it is written.  No digit stands after a leading zero. -/
structure Numeral where
  negative : Bool
  whole : List UInt8
  fraction : Option (List UInt8)
  exponent : Option Exponent
  areDigits : Digits whole
  noLeadingZero : whole.head? = some 0x30 → whole = [0x30]
  fractionDigits : ∀ digits ∈ fraction, Digits digits

def exponentOctets : Option Exponent → List UInt8
  | none => []
  | some exponent => exponent.letter :: (exponent.sign ++ exponent.digits)

def fractionOctets : Option (List UInt8) → List UInt8
  | none => []
  | some digits => 0x2E :: digits

/-- A numeral after its sign. -/
def Numeral.unsigned (numeral : Numeral) : List UInt8 :=
  numeral.whole ++ fractionOctets numeral.fraction ++ exponentOctets numeral.exponent

def Numeral.octets (numeral : Numeral) : List UInt8 :=
  if numeral.negative then 0x2D :: numeral.unsigned else numeral.unsigned

/-! ### Denotations -/

/-- A floating-point number from its parts, unless it is out of range. -/
def real? (negative : Bool) (significand : Nat) (power : Int) : Option Number :=
  (magnitude? significand power).map fun magnitude => .real ⟨negative, magnitude⟩

/-- A whole number.  Minus zero and what lies below the signed range are floating-point
numbers. -/
def whole? (negative : Bool) (significand : Nat) : Option Number :=
  if !negative then some (.integer significand)
  else if significand = 0 || Word.count 63 < significand then real? true significand 0
  else some (.integer (-(significand : Int)))

def Exponent.isNegative (exponent : Exponent) : Bool :=
  exponent.sign == [0x2D]

/-- A number with an exponent.  One that is beyond 31 bits makes the number zero, or
puts it out of range. -/
def Exponent.apply (exponent : Exponent) (negative : Bool) (significand : Nat) (start : Int) :
    Option Number :=
  let power := Decimal.valueFrom 0 exponent.digits
  if power ≤ maxExponent then
    real? negative significand (if exponent.isNegative then start - power else start + power)
  else if significand ≠ 0 && !exponent.isNegative then none
  else some (.real ⟨negative, .zero⟩)

def applyExponent (negative : Bool) (significand : Nat) (start : Int) :
    Option Exponent → Option Number
  | none => real? negative significand start
  | some exponent => exponent.apply negative significand start

/-- The number of the parts of a numeral.  Digits of the fraction count down from the
power, and digits that the significand has no room for count up. -/
def denote (negative : Bool) (whole : List UInt8) :
    Option (List UInt8) → Option Exponent → Option Number
  | none, none =>
      let (significand, _, dropped) := absorb 0 0 whole
      if dropped.isEmpty then whole? negative significand
      else real? negative significand dropped.length
  | none, some exponent =>
      let (significand, _, dropped) := absorb 0 0 whole
      exponent.apply negative significand dropped.length
  | some digits, exponent =>
      let (lead, _, dropped) := absorb 0 0 whole
      let (significand, count, _) := absorb lead 0 digits
      applyExponent negative significand (dropped.length - count) exponent

/-- The number that a numeral denotes, unless it is out of range. -/
def Numeral.value? (numeral : Numeral) : Option Number :=
  denote numeral.negative numeral.whole numeral.fraction numeral.exponent

/-! ### Where a numeral ends -/

/-- No digit follows. -/
def NoDigit (rest : List UInt8) : Prop :=
  ∀ octet ∈ rest.head?, Decimal.isDigit octet = false

/-- Nothing follows that could belong to a numeral. -/
def Ends (rest : List UInt8) : Prop :=
  ∀ octet ∈ rest.head?, Decimal.isDigit octet = false ∧ octet ≠ 0x2E ∧
    isExponentLetter octet = false

variable {octets rest : List UInt8} {negative : Bool} {significand : Nat} {start : Int}
  {value : Number}

theorem Ends.noDigit (ends : Ends rest) : NoDigit rest :=
  fun octet member => (ends octet member).1

theorem ends_nil : Ends [] := by
  simp [Ends]

theorem ends_cons {octet : UInt8} (notDigit : Decimal.isDigit octet = false)
    (notPoint : octet ≠ 0x2E) (notLetter : isExponentLetter octet = false) :
    Ends (octet :: rest) := by
  intro other member
  rw [List.head?_cons, Option.mem_def, Option.some.injEq] at member
  exact member ▸ ⟨notDigit, notPoint, notLetter⟩

theorem Digits.takeWhile (digits : Digits octets) (noDigit : NoDigit rest) :
    (octets ++ rest).takeWhile Decimal.isDigit = octets := by
  rw [List.takeWhile_append_of_pos digits.2]
  cases rest with
  | nil => simp
  | cons octet rest => simp [noDigit octet rfl]

theorem dropWhile_digits {run : List UInt8} (digits : ∀ octet ∈ run, Decimal.isDigit octet = true)
    (noDigit : NoDigit rest) : (run ++ rest).dropWhile Decimal.isDigit = rest := by
  rw [List.dropWhile_append_of_pos digits]
  cases rest with
  | nil => simp
  | cons octet rest => simp [noDigit octet rfl]

theorem noDigit_dropWhile (octets : List UInt8) : NoDigit (octets.dropWhile Decimal.isDigit) := by
  intro octet member
  have kept := List.head?_dropWhile_not Decimal.isDigit octets
  rw [Option.mem_def.mp member] at kept
  simpa using kept

/-- The digits at the head of some octets, if there is one at least. -/
theorem digits_cons_takeWhile {octet : UInt8} (isDigit : Decimal.isDigit octet = true)
    (octets : List UInt8) : Digits (octet :: octets.takeWhile Decimal.isDigit) := by
  refine ⟨List.cons_ne_nil _ _, fun other member => ?_⟩
  rcases List.mem_cons.mp member with rfl | later
  · exact isDigit
  · exact List.mem_takeWhile_imp later

/-! ### Reading a numeral -/

theorem real_eq_ok_iff {after : List UInt8} :
    real negative significand start octets = .ok (value, after) ↔
      real? negative significand start = some value ∧ octets = after := by
  cases found : magnitude? significand start with
  | none => simp [real, real?, found]
  | some magnitude => simp [real, real?, found]

theorem integer_eq_ok_iff {after : List UInt8} :
    integer negative significand octets = .ok (value, after) ↔
      whole? negative significand = some value ∧ octets = after := by
  unfold integer whole?
  split_ifs
  · simp
  · exact real_eq_ok_iff
  · simp

theorem valueFrom_ge (run : List UInt8) (value : Nat) : value ≤ Decimal.valueFrom value run := by
  induction run generalizing value with
  | nil => exact Nat.le_refl _
  | cons octet run ih =>
      calc value ≤ value * 10 + Decimal.digitValue octet := by omega
        _ ≤ Decimal.valueFrom value (octet :: run) := ih _

/-- Digits add up to their value, or the value outgrows its range at one of them. -/
theorem exponentDigits_append {run : List UInt8} (digits : ∀ octet ∈ run, Decimal.isDigit octet = true)
    (noDigit : NoDigit rest) (value : Nat) (small : value ≤ maxExponent) :
    (Decimal.valueFrom value run ≤ maxExponent ∧
        exponentDigits value (run ++ rest) = (some (Decimal.valueFrom value run), rest)) ∨
      (maxExponent < Decimal.valueFrom value run ∧ ∃ later,
        exponentDigits value (run ++ rest) = (none, later ++ rest) ∧
          ∀ octet ∈ later, Decimal.isDigit octet = true) := by
  induction run generalizing value with
  | nil =>
      refine Or.inl ⟨small, ?_⟩
      cases rest with
      | nil => rfl
      | cons octet rest => simp [exponentDigits, noDigit octet rfl, Decimal.valueFrom]
  | cons octet run ih =>
      have isDigit := digits octet List.mem_cons_self
      have laterDigits := fun other member => digits other (List.mem_cons_of_mem octet member)
      have unfolded : Decimal.valueFrom value (octet :: run) =
          Decimal.valueFrom (value * 10 + Decimal.digitValue octet) run := rfl
      rw [List.cons_append, exponentDigits, if_pos isDigit, unfolded]
      by_cases outgrown : maxExponent < value * 10 + Decimal.digitValue octet
      · refine Or.inr ⟨outgrown.trans_le (valueFrom_ge run _), run, ?_, laterDigits⟩
        simp [outgrown]
      · simpa [outgrown] using ih laterDigits _ (Nat.le_of_not_lt outgrown)

theorem digit_toNat {octet : UInt8} (isDigit : Decimal.isDigit octet = true) :
    0x30 ≤ octet.toNat ∧ octet.toNat ≤ 0x39 := by
  simpa [Decimal.isDigit, UInt8.le_iff_toNat_le] using isDigit

theorem digit_ne {octet : UInt8} (isDigit : Decimal.isDigit octet = true) {letter : UInt8}
    (notDigit : Decimal.isDigit letter = false) : octet ≠ letter := by
  intro same
  rw [same, notDigit] at isDigit
  contradiction

theorem exponentSign_append {sign octets : List UInt8}
    (isSign : sign = [] ∨ sign = [0x2B] ∨ sign = [0x2D]) (digits : Digits octets) (rest : List UInt8) :
    exponentSign (sign ++ octets ++ rest) = (sign == [0x2D], octets ++ rest) := by
  rcases isSign with rfl | rfl | rfl
  · obtain ⟨octet, later, rfl⟩ := List.exists_cons_of_ne_nil digits.1
    have isDigit := digits.2 octet List.mem_cons_self
    have notPlus : octet ≠ 0x2B := digit_ne isDigit (by decide)
    have notMinus : octet ≠ 0x2D := digit_ne isDigit (by decide)
    simp [exponentSign, notPlus, notMinus]
  · simp [exponentSign]
  · simp [exponentSign]

theorem exists_sign (octets : List UInt8) : ∃ sign, (sign = [] ∨ sign = [0x2B] ∨ sign = [0x2D]) ∧
    octets = sign ++ (exponentSign octets).2 := by
  cases octets with
  | nil => exact ⟨[], Or.inl rfl, rfl⟩
  | cons octet octets =>
      rw [exponentSign]
      split_ifs with plus minus
      · exact ⟨[0x2B], Or.inr (Or.inl rfl), by simp [plus]⟩
      · exact ⟨[0x2D], Or.inr (Or.inr rfl), by simp [minus]⟩
      · exact ⟨[], Or.inl rfl, rfl⟩

/-- A spelt exponent is read to its end, and then its number decides. -/
theorem exponent_eq_ok_iff (spelt : Exponent) (noDigit : NoDigit rest) {after : List UInt8} :
    exponent negative significand start (spelt.sign ++ spelt.digits ++ rest) = .ok (value, after) ↔
      spelt.apply negative significand start = some value ∧ rest = after := by
  obtain ⟨octet, run, split⟩ := List.exists_cons_of_ne_nil spelt.areDigits.1
  have digits := spelt.areDigits.2
  rw [split] at digits
  have isDigit := digits octet List.mem_cons_self
  have bounds := digit_toNat isDigit
  have power : Decimal.valueFrom 0 spelt.digits =
      Decimal.valueFrom (Decimal.digitValue octet) run := by
    simp [split, Decimal.valueFrom]
  have small : Decimal.digitValue octet ≤ maxExponent := by
    have least : 9 ≤ maxExponent := by decide
    exact Nat.le_trans (by rw [Decimal.digitValue]; omega) least
  have laterDigits := fun other member => digits other (List.mem_cons_of_mem octet member)
  have signed : exponentSign (spelt.sign ++ spelt.digits ++ rest) =
      (spelt.isNegative, spelt.digits ++ rest) :=
    exponentSign_append spelt.isSign spelt.areDigits rest
  rw [exponent, signed, split]
  simp only [List.cons_append, isDigit, if_true, Exponent.apply, power]
  rcases exponentDigits_append laterDigits noDigit _ small with ⟨fits, read⟩ | ⟨outgrown, later, read, run⟩
  · simp only [read, fits, if_true, real_eq_ok_iff]
  · simp only [read, Nat.not_le.mpr outgrown, if_false, dropWhile_digits run noDigit]
    split_ifs <;> simp

theorem exists_exponent {letter : UInt8} (isLetter : isExponentLetter letter = true)
    {after : List UInt8}
    (read : exponent negative significand start octets = .ok (value, after)) :
    ∃ spelt : Exponent, spelt.letter = letter ∧ ∃ rest,
      octets = spelt.sign ++ spelt.digits ++ rest ∧ NoDigit rest := by
  obtain ⟨sign, isSign, split⟩ := exists_sign octets
  rw [exponent] at read
  simp only at read
  split at read
  · contradiction
  · rename_i octet later found
    by_cases isDigit : Decimal.isDigit octet = true
    · refine ⟨⟨letter, sign, _, isLetter, isSign, digits_cons_takeWhile isDigit later⟩, rfl, _, ?_,
        noDigit_dropWhile later⟩
      rw [found] at split
      simp [split]
    · simp [isDigit] at read

/-! A fraction and an exponent come after the digits of the whole part. -/

theorem exponentOrEnd_eq_ok_iff (spelt : Option Exponent) (ends : Ends rest) {after : List UInt8} :
    exponentOrEnd negative significand start (exponentOctets spelt ++ rest) = .ok (value, after) ↔
      applyExponent negative significand start spelt = some value ∧ rest = after := by
  cases spelt with
  | none =>
      cases rest with
      | nil => exact real_eq_ok_iff
      | cons octet rest =>
          have notLetter := (ends octet rfl).2.2
          simpa [exponentOctets, exponentOrEnd, applyExponent, notLetter] using real_eq_ok_iff
  | some spelt =>
      simpa [exponentOctets, exponentOrEnd, applyExponent, spelt.isLetter] using
        exponent_eq_ok_iff spelt ends.noDigit

theorem spelt_of_exponent {letter : UInt8} (isLetter : isExponentLetter letter = true)
    (read : exponent negative significand start octets = .ok (value, rest)) :
    ∃ spelt : Exponent, spelt.letter = letter ∧ octets = spelt.sign ++ spelt.digits ++ rest ∧
      spelt.apply negative significand start = some value := by
  obtain ⟨spelt, same, after, rfl, noDigit⟩ := exists_exponent isLetter read
  obtain ⟨denotes, rfl⟩ := (exponent_eq_ok_iff spelt noDigit).mp read
  exact ⟨spelt, same, rfl, denotes⟩

theorem spelt_of_exponentOrEnd
    (read : exponentOrEnd negative significand start octets = .ok (value, rest)) :
    ∃ spelt, octets = exponentOctets spelt ++ rest ∧
      applyExponent negative significand start spelt = some value := by
  cases octets with
  | nil =>
      obtain ⟨denotes, same⟩ := real_eq_ok_iff.mp read
      exact ⟨none, same, denotes⟩
  | cons octet octets =>
      rw [exponentOrEnd] at read
      split_ifs at read with isLetter
      · obtain ⟨spelt, rfl, split, denotes⟩ := spelt_of_exponent isLetter read
        exact ⟨some spelt, by rw [split]; rfl, denotes⟩
      · obtain ⟨denotes, same⟩ := real_eq_ok_iff.mp read
        exact ⟨none, same, denotes⟩

theorem noDigit_of_letter {letter : UInt8} (isLetter : isExponentLetter letter = true) :
    NoDigit (letter :: rest) := by
  intro octet member
  rw [List.head?_cons, Option.mem_def, Option.some.injEq] at member
  simp only [isExponentLetter, Bool.or_eq_true, decide_eq_true_eq] at isLetter
  rcases isLetter with rfl | rfl <;> rw [← member] <;> decide

theorem noDigit_exponentOctets (spelt : Option Exponent) (ends : Ends rest) :
    NoDigit (exponentOctets spelt ++ rest) := by
  cases spelt with
  | none => exact ends.noDigit
  | some spelt => exact noDigit_of_letter spelt.isLetter

theorem fraction_eq_ok_iff {run : List UInt8} (digits : Digits run) (spelt : Option Exponent)
    (ends : Ends rest) {after : List UInt8} :
    fraction negative significand start (run ++ (exponentOctets spelt ++ rest)) =
        .ok (value, after) ↔
      applyExponent negative (absorb significand 0 run).1 (start - (absorb significand 0 run).2.1)
        spelt = some value ∧ rest = after := by
  have noDigit := noDigit_exponentOctets spelt ends
  rw [fraction, digits.takeWhile noDigit, dropWhile_digits digits.2 noDigit]
  split
  · exact absurd rfl digits.1
  · exact absurd rfl digits.1
  · exact exponentOrEnd_eq_ok_iff spelt ends

theorem spelt_of_fraction
    (read : fraction negative significand start octets = .ok (value, rest)) :
    ∃ run spelt, Digits run ∧ octets = run ++ (exponentOctets spelt ++ rest) ∧
      applyExponent negative (absorb significand 0 run).1 (start - (absorb significand 0 run).2.1)
        spelt = some value := by
  have split := List.takeWhile_append_dropWhile (p := Decimal.isDigit) (l := octets)
  have digits := fun octet member => List.mem_takeWhile_imp (p := Decimal.isDigit) (l := octets)
    (x := octet) member
  rw [fraction] at read
  split at read
  · contradiction
  · contradiction
  · rename_i after notEmpty notBroken
    obtain ⟨spelt, split', denotes⟩ := spelt_of_exponentOrEnd read
    refine ⟨_, spelt, ⟨?_, digits⟩, ?_, denotes⟩
    · intro empty
      cases shape : octets.dropWhile Decimal.isDigit with
      | nil => exact notEmpty empty shape
      | cons octet later => exact notBroken octet later empty shape
    · rw [← split', split]

theorem point_of_letter {letter : UInt8} (isLetter : isExponentLetter letter = true) :
    letter ≠ 0x2E := by
  intro same
  subst same
  exact absurd isLetter (by decide)

theorem afterDigits_eq_ok_iff {whole : List UInt8} (run : Option (List UInt8))
    (digits : ∀ octets ∈ run, Digits octets) (spelt : Option Exponent) (ends : Ends rest)
    {after : List UInt8} :
    afterDigits negative whole (fractionOctets run ++ (exponentOctets spelt ++ rest)) =
        .ok (value, after) ↔
      denote negative whole run spelt = some value ∧ rest = after := by
  cases run with
  | some run =>
      simpa [afterDigits, fractionOctets, denote] using fraction_eq_ok_iff (digits run rfl) spelt ends
  | none =>
      cases spelt with
      | some spelt =>
          have notPoint := point_of_letter spelt.isLetter
          simpa [afterDigits, fractionOctets, exponentOctets, denote, notPoint, spelt.isLetter] using
            exponent_eq_ok_iff spelt ends.noDigit
      | none =>
          cases rest with
          | nil =>
              simp only [afterDigits, fractionOctets, exponentOctets, denote, List.nil_append]
              split_ifs
              · exact integer_eq_ok_iff
              · exact real_eq_ok_iff
          | cons octet rest =>
              obtain ⟨_, notPoint, notLetter⟩ := ends octet rfl
              simp only [afterDigits, fractionOctets, exponentOctets, denote, List.nil_append,
                notPoint, notLetter, Bool.false_eq_true, if_false]
              split_ifs
              · exact integer_eq_ok_iff
              · exact real_eq_ok_iff

theorem spelt_of_afterDigits {whole : List UInt8}
    (read : afterDigits negative whole octets = .ok (value, rest)) :
    ∃ run spelt, (∀ octets ∈ run, Digits octets) ∧
      octets = fractionOctets run ++ (exponentOctets spelt ++ rest) ∧
      denote negative whole run spelt = some value := by
  have bare : (if (absorb 0 0 whole).2.2.isEmpty then integer negative (absorb 0 0 whole).1 octets
      else real negative (absorb 0 0 whole).1 (absorb 0 0 whole).2.2.length octets) =
        .ok (value, rest) →
      octets = rest ∧ denote negative whole none none = some value := by
    intro read
    simp only [denote]
    split_ifs at read ⊢
    · exact (integer_eq_ok_iff.mp read).symm
    · exact (real_eq_ok_iff.mp read).symm
  cases octets with
  | nil =>
      obtain ⟨same, denotes⟩ := bare (by simpa [afterDigits] using read)
      exact ⟨none, none, by simp, same, denotes⟩
  | cons octet octets =>
      simp only [afterDigits] at read
      by_cases isPoint : octet = 0x2E
      · rw [if_pos isPoint] at read
        obtain ⟨run, spelt, digits, split, denotes⟩ := spelt_of_fraction read
        refine ⟨some run, spelt, ?_, by rw [isPoint, split]; rfl, denotes⟩
        simpa using digits
      · rw [if_neg isPoint] at read
        by_cases isLetter : isExponentLetter octet = true
        · rw [if_pos isLetter] at read
          obtain ⟨spelt, rfl, split, denotes⟩ := spelt_of_exponent isLetter read
          exact ⟨none, some spelt, by simp, by rw [split]; rfl, denotes⟩
        · rw [if_neg isLetter] at read
          obtain ⟨same, denotes⟩ := bare read
          exact ⟨none, none, by simp, same, denotes⟩

theorem noDigit_tail (run : Option (List UInt8)) (spelt : Option Exponent) (ends : Ends rest) :
    NoDigit (fractionOctets run ++ (exponentOctets spelt ++ rest)) := by
  cases run with
  | none => exact noDigit_exponentOctets spelt ends
  | some run =>
      intro octet member
      rw [fractionOctets, List.cons_append, List.head?_cons, Option.mem_def,
        Option.some.injEq] at member
      exact member ▸ by decide

/-- The reader of numbers reads a numeral where it ends. -/
theorem number_of_numeral (numeral : Numeral) (ends : Ends rest)
    (denotes : numeral.value? = some value) :
    number numeral.negative (numeral.unsigned ++ rest) = .ok (value, rest) := by
  have read := (afterDigits_eq_ok_iff numeral.fraction numeral.fractionDigits numeral.exponent
    ends).mpr ⟨denotes, rfl⟩
  have noDigit := noDigit_tail numeral.fraction numeral.exponent ends
  have digits := numeral.areDigits.2
  have noLeadingZero := numeral.noLeadingZero
  rw [Numeral.unsigned, List.append_assoc, List.append_assoc]
  generalize fractionOctets numeral.fraction ++ (exponentOctets numeral.exponent ++ rest) = tail
    at read noDigit ⊢
  obtain ⟨octet, later, split⟩ := List.exists_cons_of_ne_nil numeral.areDigits.1
  rw [split] at read digits noLeadingZero ⊢
  rw [List.cons_append, number.eq_def]
  by_cases isZero : octet = 0x30
  · obtain ⟨-, rfl⟩ := List.cons_eq_cons.mp (noLeadingZero (by rw [isZero]; rfl))
    cases tail with
    | nil => simpa [isZero] using read
    | cons next tail => simpa [isZero, noDigit next rfl] using read
  · have isDigit := digits octet List.mem_cons_self
    have laterDigits := fun other member => digits other (List.mem_cons_of_mem octet member)
    simp only [isZero, isDigit, if_true, if_false, dropWhile_digits laterDigits noDigit]
    have run := Digits.takeWhile ⟨List.cons_ne_nil octet later, digits⟩ noDigit
    rw [List.cons_append, List.takeWhile_cons_of_pos isDigit] at run
    rw [run, read]

/-- What the reader of numbers accepts is a numeral, and gives its number. -/
theorem numeral_of_number (read : number negative octets = .ok (value, rest)) :
    ∃ numeral : Numeral, numeral.negative = negative ∧ octets = numeral.unsigned ++ rest ∧
      numeral.value? = some value := by
  have finish {whole tail : List UInt8} (areDigits : Digits whole)
      (noLeadingZero : whole.head? = some 0x30 → whole = [0x30])
      (read : afterDigits negative whole tail = .ok (value, rest)) :
      ∃ numeral : Numeral, numeral.negative = negative ∧ whole ++ tail = numeral.unsigned ++ rest ∧
        numeral.value? = some value := by
    obtain ⟨run, spelt, digits, rfl, denotes⟩ := spelt_of_afterDigits read
    exact ⟨⟨negative, whole, run, spelt, areDigits, noLeadingZero, digits⟩, rfl,
      by simp [Numeral.unsigned], denotes⟩
  cases octets with
  | nil => simp [number] at read
  | cons octet octets =>
      rw [number.eq_def] at read
      by_cases isZero : octet = 0x30
      · have zeroDigits : Digits [octet] := ⟨List.cons_ne_nil _ _, by simp [isZero]; decide⟩
        have ended : afterDigits negative [octet] octets = .ok (value, rest) := by
          cases octets with
          | nil => simpa [isZero] using read
          | cons next octets =>
              simp only [isZero, if_true] at read ⊢
              split_ifs at read
              exact read
        exact finish zeroDigits (fun _ => by rw [isZero]) ended
      · simp only [isZero, if_false] at read
        split_ifs at read with isDigit
        obtain ⟨numeral, same, split, denotes⟩ := finish (digits_cons_takeWhile isDigit octets)
          (fun zero => absurd (Option.some.inj zero) isZero) read
        refine ⟨numeral, same, ?_, denotes⟩
        rwa [List.cons_append, List.takeWhile_append_dropWhile] at split

end AuthBroker.Json
