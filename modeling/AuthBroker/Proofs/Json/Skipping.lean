import AuthBroker.Json.Skip
import AuthBroker.Proofs.Json.Reading

namespace AuthBroker.Json

/-! Values that are passed over.

Only the form of such a value is looked at.  Its strings need not be well-formed, its numbers may be of any
size, and it may be nested to any depth.  `Skippable` is the grammar of the form, and the reader that goes over
it with a stack of open brackets accepts that grammar and nothing else.
-/

/-! ### The grammar -/

/-- The letters of the short escapes: a quote, a backslash, a slash, and b, f, n, r and t. -/
def shortLetters : List UInt8 :=
  [0x22, 0x5C, 0x2F, 0x62, 0x66, 0x6E, 0x72, 0x74]

/-- What may stand between the quotes of a string that nobody asks for.  An escape has to be known, but two
halves of a surrogate pair need not belong together. -/
inductive LooseContent : List UInt8 → Prop
  | nil : LooseContent []
  | plain {octet : UInt8} {body : List UInt8} (notQuote : octet ≠ 0x22) (notBackslash : octet ≠ 0x5C)
      (noControl : 0x20 ≤ octet) (more : LooseContent body) : LooseContent (octet :: body)
  | letter {letter : UInt8} {body : List UInt8} (known : letter ∈ shortLetters) (more : LooseContent body) :
      LooseContent (0x5C :: letter :: body)
  | unit {digits body : List UInt8} {unit : Nat} (hex : Hex digits unit) (more : LooseContent body) :
      LooseContent (0x5C :: 0x75 :: digits ++ body)

def Bracket.opening : Bracket → UInt8
  | .list => 0x5B
  | .object => 0x7B

/-- What stands before the value of an item: nothing in a list, and a key with its colon in an object. -/
inductive Label : Bracket → List UInt8 → Prop
  | unlabelled : Label .list []
  | key {body before after : List UInt8} (content : LooseContent body) (blankBefore : Blank before)
      (blankAfter : Blank after) : Label .object (0x22 :: body ++ 0x22 :: before ++ 0x3A :: after)

/-- A value, or what is left between two brackets; the flag says whether the next item is the first. -/
inductive Part
  | value
  | inside (bracket : Bracket) (first : Bool)

inductive Skippable : Part → List UInt8 → Prop
  | null : Skippable .value [0x6E, 0x75, 0x6C, 0x6C]
  | yes : Skippable .value [0x74, 0x72, 0x75, 0x65]
  | no : Skippable .value [0x66, 0x61, 0x6C, 0x73, 0x65]
  | number (numeral : Numeral) : Skippable .value numeral.octets
  | string {body : List UInt8} (content : LooseContent body) : Skippable .value (0x22 :: body ++ [0x22])
  | bracketed {bracket : Bracket} {body : List UInt8} (items : Skippable (.inside bracket true) body) :
      Skippable .value (bracket.opening :: body ++ [bracket.closing])
  | ended {bracket : Bracket} {first : Bool} {gap : List UInt8} (blank : Blank gap) :
      Skippable (.inside bracket first) gap
  | item {bracket : Bracket} {first : Bool} {lead label text body : List UInt8} (leads : Lead first lead)
      (labels : Label bracket label) (value : Skippable .value text)
      (more : Skippable (.inside bracket false) body) :
      Skippable (.inside bracket first) (lead ++ label ++ text ++ body)

variable {octets rest gap body label text : List UInt8} {bracket : Bracket} {first : Bool} {fuel most : Nat}

/-! ### Strings -/

theorem isSome_shortEscape? {letter : UInt8} : (shortEscape? letter).isSome = true ↔ letter ∈ shortLetters := by
  unfold shortEscape?
  split_ifs <;> simp_all [shortLetters]

theorem content_of_skipString {fuel : List UInt8} (skipped : skipString fuel octets = .ok rest) :
    ∃ body, LooseContent body ∧ octets = body ++ 0x22 :: rest := by
  induction fuel generalizing octets with
  | nil => simp [skipString] at skipped
  | cons _ fuel ih =>
      cases octets with
      | nil => simp [skipString] at skipped
      | cons octet octets =>
          rw [skipString.eq_def] at skipped
          simp only at skipped
          split_ifs at skipped with isQuote isBackslash isControl
          · cases skipped
            exact ⟨[], .nil, by rw [isQuote]; rfl⟩
          · cases octets with
            | nil => simp at skipped
            | cons letter octets =>
                simp only at skipped
                split_ifs at skipped with isHex known
                · split at skipped
                  · contradiction
                  · rename_i found
                    obtain ⟨digits, hex, rfl⟩ := hexUnit_eq_ok_iff.mp found
                    obtain ⟨body, more, rfl⟩ := ih skipped
                    exact ⟨_, .unit hex more, by rw [isBackslash, isHex]; simp⟩
                · obtain ⟨body, more, rfl⟩ := ih skipped
                  exact ⟨_, .letter (isSome_shortEscape?.mp known) more, by rw [isBackslash]; rfl⟩
          · obtain ⟨body, more, rfl⟩ := ih skipped
            exact ⟨_, .plain isQuote isBackslash (UInt8.not_lt.mp isControl) more, rfl⟩

theorem skipString_of_content (content : LooseContent body) (fuel : List UInt8) (rest : List UInt8)
    (enough : body.length < fuel.length) : skipString fuel (body ++ 0x22 :: rest) = .ok rest := by
  induction content generalizing fuel with
  | nil =>
      cases fuel with
      | nil => simp at enough
      | cons => simp [skipString]
  | plain notQuote notBackslash noControl more ih =>
      cases fuel with
      | nil => simp at enough
      | cons _ fuel =>
          rw [List.cons_append, skipString.eq_def]
          simp only [notQuote, notBackslash, UInt8.not_lt.mpr noControl, if_false]
          exact ih fuel (by simpa using enough)
  | @letter letter body known more ih =>
      cases fuel with
      | nil => simp at enough
      | cons _ fuel =>
          have known := isSome_shortEscape?.mpr known
          obtain ⟨char, found⟩ := Option.isSome_iff_exists.mp known
          simp only [List.length_cons] at enough
          simp only [List.cons_append, skipString, if_true, shortEscape?_ne_hex found, if_false, known]
          exact ih fuel (by omega)
  | @unit digits body unit hex more ih =>
      cases fuel with
      | nil => simp at enough
      | cons _ fuel =>
          have read : hexUnit (digits ++ (body ++ 0x22 :: rest)) = .ok (unit, body ++ 0x22 :: rest) :=
            hexUnit_eq_ok_iff.mpr ⟨digits, hex, rfl⟩
          simp only [List.cons_append, List.length_cons, List.length_append] at enough
          simp only [List.cons_append, List.append_assoc, skipString, if_true, read]
          exact ih fuel (by omega)

/-! ### Numbers -/

theorem exponent_of_skipExponent {letter : UInt8} (isLetter : isExponentLetter letter = true)
    (skipped : skipExponent octets = .ok rest) :
    ∃ spelt : Exponent, letter :: octets = exponentOctets (some spelt) ++ rest := by
  obtain ⟨sign, isSign, split⟩ := exists_sign octets
  unfold skipExponent at skipped
  split at skipped
  · contradiction
  · rename_i octet later found
    split_ifs at skipped with isDigit
    cases skipped
    refine ⟨⟨letter, sign, _, isLetter, isSign, digits_cons_takeWhile isDigit later⟩, ?_⟩
    rw [split, found]
    simp [exponentOctets]

theorem skipExponent_octets (spelt : Exponent) (noDigit : NoDigit rest) :
    skipExponent (spelt.sign ++ spelt.digits ++ rest) = .ok rest := by
  obtain ⟨octet, run, split⟩ := List.exists_cons_of_ne_nil spelt.areDigits.1
  have digits := spelt.areDigits.2
  rw [split] at digits
  have laterDigits := fun other member => digits other (List.mem_cons_of_mem octet member)
  rw [skipExponent, exponentSign_append spelt.isSign spelt.areDigits rest, split]
  simp only [List.cons_append, digits octet List.mem_cons_self, if_true, dropWhile_digits laterDigits noDigit]

theorem parts_of_skipFraction (skipped : skipFraction octets = .ok rest) :
    ∃ run spelt, Digits run ∧ octets = run ++ (exponentOctets spelt ++ rest) := by
  have split := List.takeWhile_append_dropWhile (p := Decimal.isDigit) (l := octets)
  have digits := fun octet member => List.mem_takeWhile_imp (p := Decimal.isDigit) (l := octets) (x := octet) member
  unfold skipFraction at skipped
  split at skipped
  · contradiction
  · rename_i digit run octet later found found'
    have areDigits : Digits (octets.takeWhile Decimal.isDigit) := ⟨by simp [found], digits⟩
    split_ifs at skipped with isLetter
    · obtain ⟨spelt, split'⟩ := exponent_of_skipExponent isLetter skipped
      exact ⟨_, some spelt, areDigits, by rw [← split', ← found', split]⟩
    · cases skipped
      exact ⟨_, none, areDigits, by rw [← found', exponentOctets, List.nil_append, split]⟩
  · rename_i digit run found found'
    cases skipped
    refine ⟨_, none, ⟨by simp [found], digits⟩, ?_⟩
    rw [exponentOctets, List.nil_append, ← found', split]

theorem parts_of_skipAfterDigits (skipped : skipAfterDigits octets = .ok rest) :
    ∃ run spelt, (∀ digits ∈ run, Digits digits) ∧ octets = fractionOctets run ++ (exponentOctets spelt ++ rest) := by
  unfold skipAfterDigits at skipped
  split at skipped
  · rename_i octet later
    split_ifs at skipped with isPoint isLetter
    · obtain ⟨run, spelt, digits, rfl⟩ := parts_of_skipFraction skipped
      exact ⟨some run, spelt, by simpa using digits, by rw [isPoint]; rfl⟩
    · obtain ⟨spelt, split⟩ := exponent_of_skipExponent isLetter skipped
      exact ⟨none, some spelt, by simp, split⟩
    · cases skipped
      exact ⟨none, none, by simp, rfl⟩
  · cases skipped
    exact ⟨none, none, by simp, rfl⟩

theorem skipExponentOrEnd {run : List UInt8} (digits : Digits run) (spelt : Option Exponent) (ends : Ends rest) :
    skipFraction (run ++ (exponentOctets spelt ++ rest)) = .ok rest := by
  have noDigit := noDigit_exponentOctets spelt ends
  have taken := digits.takeWhile noDigit
  have dropped := dropWhile_digits digits.2 noDigit
  obtain ⟨digit, later, rfl⟩ := List.exists_cons_of_ne_nil digits.1
  unfold skipFraction
  rw [taken, dropped]
  cases spelt with
  | none =>
      cases rest with
      | nil => rfl
      | cons octet rest => simp [exponentOctets, (ends octet rfl).2.2]
  | some spelt => simpa [exponentOctets, spelt.isLetter] using skipExponent_octets spelt ends.noDigit

theorem skipAfterDigits_octets (run : Option (List UInt8)) (digits : ∀ octets ∈ run, Digits octets)
    (spelt : Option Exponent) (ends : Ends rest) :
    skipAfterDigits (fractionOctets run ++ (exponentOctets spelt ++ rest)) = .ok rest := by
  cases run with
  | some run => simpa [skipAfterDigits, fractionOctets] using skipExponentOrEnd (digits run rfl) spelt ends
  | none =>
      cases spelt with
      | some spelt =>
          simpa [skipAfterDigits, fractionOctets, exponentOctets, point_of_letter spelt.isLetter, spelt.isLetter] using
            skipExponent_octets spelt ends.noDigit
      | none =>
          cases rest with
          | nil => rfl
          | cons octet rest =>
              obtain ⟨-, notPoint, notLetter⟩ := ends octet rfl
              simp [skipAfterDigits, fractionOctets, exponentOctets, notPoint, notLetter]

theorem numeral_of_skipNumber (negative : Bool) (skipped : skipNumber octets = .ok rest) :
    ∃ numeral : Numeral, numeral.negative = negative ∧ octets = numeral.unsigned ++ rest := by
  have finish {whole tail : List UInt8} (areDigits : Digits whole)
      (noLeadingZero : whole.head? = some 0x30 → whole = [0x30]) (skipped : skipAfterDigits tail = .ok rest) :
      ∃ numeral : Numeral, numeral.negative = negative ∧ whole ++ tail = numeral.unsigned ++ rest := by
    obtain ⟨run, spelt, digits, rfl⟩ := parts_of_skipAfterDigits skipped
    exact ⟨⟨negative, whole, run, spelt, areDigits, noLeadingZero, digits⟩, rfl, by simp [Numeral.unsigned]⟩
  cases octets with
  | nil => simp [skipNumber] at skipped
  | cons octet octets =>
      rw [skipNumber.eq_def] at skipped
      by_cases isZero : octet = 0x30
      · have zeroDigits : Digits [octet] := ⟨List.cons_ne_nil _ _, by simp [isZero]; decide⟩
        have ended : skipAfterDigits octets = .ok rest := by
          cases octets with
          | nil => simpa [isZero, skipAfterDigits] using skipped
          | cons next octets =>
              simp only [isZero, if_true] at skipped
              split_ifs at skipped
              exact skipped
        exact finish zeroDigits (fun _ => by rw [isZero]) ended
      · simp only [isZero, if_false] at skipped
        split_ifs at skipped with isDigit
        obtain ⟨numeral, same, split⟩ := finish (digits_cons_takeWhile isDigit octets)
          (fun zero => absurd (Option.some.inj zero) isZero) skipped
        refine ⟨numeral, same, ?_⟩
        rwa [List.cons_append, List.takeWhile_append_dropWhile] at split

theorem skipNumber_octets (numeral : Numeral) (ends : Ends rest) : skipNumber (numeral.unsigned ++ rest) = .ok rest := by
  have skipped := skipAfterDigits_octets numeral.fraction numeral.fractionDigits numeral.exponent ends
  have noDigit := noDigit_tail numeral.fraction numeral.exponent ends
  have digits := numeral.areDigits.2
  have noLeadingZero := numeral.noLeadingZero
  rw [Numeral.unsigned, List.append_assoc, List.append_assoc]
  generalize fractionOctets numeral.fraction ++ (exponentOctets numeral.exponent ++ rest) = tail
    at skipped noDigit ⊢
  obtain ⟨octet, later, split⟩ := List.exists_cons_of_ne_nil numeral.areDigits.1
  rw [split] at digits noLeadingZero ⊢
  rw [List.cons_append, skipNumber.eq_def]
  by_cases isZero : octet = 0x30
  · obtain ⟨-, rfl⟩ := List.cons_eq_cons.mp (noLeadingZero (by rw [isZero]; rfl))
    cases tail with
    | nil => simpa [isZero, skipAfterDigits] using skipped
    | cons next tail => simpa [isZero, noDigit next rfl] using skipped
  · have isDigit := digits octet List.mem_cons_self
    have laterDigits := fun other member => digits other (List.mem_cons_of_mem octet member)
    simp only [isZero, isDigit, if_true, if_false, dropWhile_digits laterDigits noDigit, skipped]

/-! ### Brackets -/

theorem Label.enter (labels : Label bracket label) (blank : Blank gap) :
    ∃ after, Blank after ∧ ∀ rest, bracket.enter (gap ++ label ++ rest) = .ok (after ++ rest) := by
  cases labels with
  | unlabelled => exact ⟨gap, blank, fun rest => by rw [List.append_nil]; rfl⟩
  | @key body before after content blankBefore blankAfter =>
      refine ⟨after, blankAfter, fun rest => ?_⟩
      have skipped := skipString_of_content content (body ++ 0x22 :: (before ++ 0x3A :: (after ++ rest)))
        (before ++ 0x3A :: (after ++ rest)) (by simp)
      have divided : colon (before ++ 0x3A :: (after ++ rest)) = .ok (after ++ rest) :=
        colon_eq_ok_iff.mpr ⟨before, blankBefore, rfl⟩
      simp only [List.append_assoc, List.cons_append, Bracket.enter, skipKey]
      rw [dropBlank_append blank (by decide)]
      simp only [if_true, skipped, divided]

theorem label_of_enter {lead : List UInt8} (entered : bracket.enter octets = .ok (gap ++ rest)) (blank : Blank gap)
    (leads : Lead first lead) :
    ∃ lead' label, Lead first lead' ∧ Label bracket label ∧ lead ++ octets = lead' ++ label ++ rest := by
  cases bracket with
  | list =>
      cases entered
      exact ⟨lead ++ gap, [], leads.append blank, .unlabelled, by simp⟩
  | object =>
      rw [Bracket.enter, skipKey] at entered
      rcases blank_or_dark octets with ⟨-, shape⟩ | ⟨gap', octet, later, blank', -, rfl, shape⟩
      · simp [shape] at entered
      simp only [shape] at entered
      split_ifs at entered with isQuote
      split at entered
      · contradiction
      · rename_i skipped
        obtain ⟨body, content, rfl⟩ := content_of_skipString skipped
        obtain ⟨before, blankBefore, rfl⟩ := colon_eq_ok_iff.mp entered
        exact ⟨lead ++ gap', _, leads.append blank', .key content blankBefore blank, by simp [isQuote]⟩

theorem Skippable.exists_head (value : Skippable .value text) :
    ∃ octet tail, text = octet :: tail ∧ isBlank octet = false ∧ octet ≠ 0x5D := by
  cases value with
  | number numeral => exact numeral.exists_head
  | @bracketed bracket _ _ => cases bracket <;> exact ⟨_, _, rfl, by decide, by decide⟩
  | _ => exact ⟨_, _, rfl, by decide, by decide⟩

theorem Label.exists_head (labels : Label bracket label) (value : Skippable .value text) :
    ∃ octet tail, label ++ text = octet :: tail ∧ isBlank octet = false ∧ octet ≠ bracket.closing := by
  cases labels with
  | unlabelled => exact value.exists_head
  | key _ _ _ => exact ⟨0x22, _, rfl, by decide, by decide⟩

/-- After an item comes a blank, a comma or the closing bracket. -/
theorem Skippable.ends (more : Skippable (.inside bracket false) body) :
    Ends (body ++ bracket.closing :: rest) := by
  have closing : Ends (bracket.closing :: rest) := by
    cases bracket <;> exact ends_cons (by decide) (by decide) (by decide)
  cases more with
  | ended blank => exact ends_blank blank closing
  | item leads _ _ _ =>
      cases leads with
      | comma blankBefore _ =>
          simp only [List.append_assoc, List.cons_append]
          exact ends_blank blankBefore (ends_cons (by decide) (by decide) (by decide))

/-! ### Completeness -/

/-- Going over a part takes some fuel, and then what comes after it is looked at. -/
def Passes : Part → List UInt8 → Prop
  | .value, text => ∃ cost, cost + 1 ≤ 2 * text.length ∧ ∀ fuel brackets gap rest, Blank gap → Ends rest →
      skipValue (fuel + cost) brackets (gap ++ text ++ rest) = skipRest fuel true brackets rest
  | .inside bracket first, body => ∃ cost, cost ≤ 2 * body.length + 1 ∧ ∀ fuel brackets rest,
      skipRest (fuel + cost) (!first) (bracket :: brackets) (body ++ bracket.closing :: rest) =
        skipRest fuel true brackets rest

variable {brackets : List Bracket}

/-- The reader goes by the octet after the blanks. -/
theorem skipValue_append {octet : UInt8} (blank : Blank gap) (dark : isBlank octet = false) :
    skipValue (fuel + 1) brackets (gap ++ octet :: rest) = skipValue (fuel + 1) brackets (octet :: rest) := by
  rw [skipValue, skipValue, dropBlank_append blank dark, dropBlank_of_dark dark]

/-- A value of one lexeme takes one unit. -/
theorem passes_of_step (value : Skippable .value text) (step : ∀ fuel brackets rest, Ends rest →
    skipValue (fuel + 1) brackets (text ++ rest) = skipRest fuel true brackets rest) : Passes .value text := by
  obtain ⟨octet, tail, rfl, dark, -⟩ := value.exists_head
  refine ⟨1, by simp, fun fuel brackets gap rest blank ends => ?_⟩
  rw [List.append_assoc, List.cons_append, skipValue_append blank dark, ← step fuel brackets rest ends]
  rfl

theorem passes_number (numeral : Numeral) : Passes .value numeral.octets := by
  refine passes_of_step (.number numeral) fun fuel brackets rest ends => ?_
  have skipped := skipNumber_octets numeral ends
  by_cases negative : numeral.negative = true
  · rw [Numeral.octets, if_pos negative]
    simp [skipValue, dropBlank_of_dark, isBlank, skipped]
  · rw [Numeral.octets, if_neg negative]
    obtain ⟨octet, later, split⟩ := List.exists_cons_of_ne_nil numeral.areDigits.1
    have isDigit := numeral.areDigits.2 octet (by simp [split])
    rw [Numeral.unsigned, split] at skipped ⊢
    simp only [List.cons_append] at skipped ⊢
    have other (letter : UInt8) (notDigit : Decimal.isDigit letter = false) : octet ≠ letter :=
      digit_ne isDigit notDigit
    rw [skipValue, dropBlank_of_dark (digit_dark isDigit).1]
    simp only [other 0x6E (by decide), other 0x74 (by decide), other 0x66 (by decide),
      other 0x2D (by decide), isDigit, skipped, if_true, if_false]

theorem passes_bracketed (items : Passes (.inside bracket true) body) :
    Passes .value (bracket.opening :: body ++ [bracket.closing]) := by
  obtain ⟨cost, few, passes⟩ := items
  refine ⟨cost + 1, ?_, fun fuel brackets gap rest blank _ => ?_⟩
  · simp only [List.cons_append, List.length_cons, List.length_append, List.length_nil]
    omega
  · have opened : skipValue (fuel + (cost + 1)) brackets (gap ++ bracket.opening :: (body ++ bracket.closing :: rest)) =
        skipRest (fuel + cost) false (bracket :: brackets) (body ++ bracket.closing :: rest) := by
      cases bracket <;> rw [← Nat.add_assoc, skipValue_append blank (by decide)] <;>
        simp [skipValue, dropBlank_of_dark, isBlank, Bracket.opening, Decimal.isDigit]
    rw [← passes fuel brackets rest, Bool.not_true, ← opened]
    simp

theorem passes_ended (blank : Blank gap) : Passes (.inside bracket first) gap := by
  refine ⟨1, by omega, fun fuel brackets rest => ?_⟩
  have dark : isBlank bracket.closing = false := by cases bracket <;> decide
  rw [skipRest, dropBlank_append blank dark]
  simp

theorem passes_item {lead : List UInt8} (leads : Lead first lead) (labels : Label bracket label)
    (value : Skippable .value text) (more : Skippable (.inside bracket false) body)
    (passes : Passes .value text) (passes' : Passes (.inside bracket false) body) :
    Passes (.inside bracket first) (lead ++ label ++ text ++ body) := by
  obtain ⟨cost, few, passes⟩ := passes
  obtain ⟨cost', few', passes'⟩ := passes'
  refine ⟨cost' + cost + 1, ?_, fun fuel brackets rest => ?_⟩
  · simp only [List.length_append]
    omega
  · have taken (gap : List UInt8) (blank : Blank gap) : skipValue (fuel + cost' + cost) (bracket :: brackets)
        (gap ++ (text ++ (body ++ bracket.closing :: rest))) = skipRest fuel true brackets rest := by
      rw [← List.append_assoc, passes _ _ _ _ blank more.ends]
      exact passes' fuel brackets rest
    cases leads with
    | first blank =>
        obtain ⟨octet, tail, split, dark, notClosing⟩ := labels.exists_head value
        obtain ⟨after, blankAfter, entered⟩ := labels.enter blank_nil
        have entered := entered (text ++ (body ++ bracket.closing :: rest))
        have shape : lead ++ label ++ text ++ body ++ bracket.closing :: rest =
            lead ++ octet :: (tail ++ (body ++ bracket.closing :: rest)) := by
          rw [← List.cons_append, ← split]
          simp only [List.append_assoc]
        rw [List.nil_append, ← List.append_assoc, split, List.cons_append] at entered
        rw [shape, Bool.not_true, ← Nat.add_assoc, ← Nat.add_assoc, skipRest, dropBlank_append blank dark]
        simp only [notClosing, Bool.false_eq_true, if_false, entered]
        exact taken after blankAfter
    | @comma before gap blankBefore blankGap =>
        obtain ⟨after, blankAfter, entered⟩ := labels.enter blankGap
        have entered := entered (text ++ (body ++ bracket.closing :: rest))
        have notClosing : 0x2C ≠ bracket.closing := by cases bracket <;> decide
        have shape : before ++ 0x2C :: gap ++ label ++ text ++ body ++ bracket.closing :: rest =
            before ++ 0x2C :: (gap ++ label ++ (text ++ (body ++ bracket.closing :: rest))) := by
          simp only [List.append_assoc, List.cons_append]
        rw [shape, Bool.not_false, ← Nat.add_assoc, ← Nat.add_assoc, skipRest, dropBlank_append blankBefore (by decide)]
        simp only [notClosing, if_true, if_false, entered]
        exact taken after blankAfter

theorem passes_of_skippable {part : Part} (skippable : Skippable part octets) : Passes part octets := by
  induction skippable with
  | null => exact passes_of_step .null fun _ _ _ _ => by simp [skipValue, dropBlank_of_dark, expectName, isBlank]
  | yes => exact passes_of_step .yes fun _ _ _ _ => by simp [skipValue, dropBlank_of_dark, expectName, isBlank]
  | no => exact passes_of_step .no fun _ _ _ _ => by simp [skipValue, dropBlank_of_dark, expectName, isBlank]
  | number numeral => exact passes_number numeral
  | @string body content =>
      refine passes_of_step (.string content) fun fuel brackets rest _ => ?_
      have skipped := skipString_of_content content (body ++ 0x22 :: rest) rest (by simp)
      simp [skipValue, dropBlank_of_dark, isBlank, Decimal.isDigit, skipped]
  | bracketed _ ih => exact passes_bracketed ih
  | ended blank => exact passes_ended blank
  | item leads labels value more ih ih' => exact passes_item leads labels value more ih ih'

theorem skip_of_skippable (blank : Blank gap) (value : Skippable .value text) (ends : Ends rest)
    (enough : text.length ≤ most) : skip most (gap ++ text ++ rest) = .ok rest := by
  obtain ⟨cost, few, passes⟩ := passes_of_skippable value
  obtain ⟨fuel, spare⟩ : ∃ fuel, 2 * most + 2 = fuel + 1 + cost := ⟨2 * most + 1 - cost, by omega⟩
  rw [skip, spare, passes _ _ _ _ blank ends, skipRest]

/-! ### Soundness -/

/-- With some fuel, what is gone over as a value is one. -/
def PassedValue (fuel : Nat) : Prop :=
  ∀ {brackets octets rest}, skipValue fuel brackets octets = .ok rest → ∃ gap text after fuel',
    Blank gap ∧ Skippable .value text ∧ octets = gap ++ text ++ after ∧ fuel' < fuel ∧
      skipRest fuel' true brackets after = .ok rest

/-- With some fuel, what is gone over up to a closing bracket may stand there. -/
def PassedRest (fuel : Nat) : Prop :=
  ∀ {first bracket brackets octets rest}, skipRest fuel (!first) (bracket :: brackets) octets = .ok rest →
    ∃ body after fuel', Skippable (.inside bracket first) body ∧ octets = body ++ bracket.closing :: after ∧
      fuel' < fuel ∧ skipRest fuel' true brackets after = .ok rest

theorem passedValue_succ (rests : PassedRest fuel) : PassedValue (fuel + 1) := by
  intro brackets octets rest skipped
  rcases blank_or_dark octets with ⟨-, shape⟩ | ⟨gap, octet, later, blank, -, rfl, shape⟩
  · simp [skipValue, shape] at skipped
  rw [skipValue, shape] at skipped
  -- a value of one lexeme leaves the brackets as they are
  have lexeme {text after : List UInt8} (value : Skippable .value text) (split : octet :: later = text ++ after)
      (skipped : skipRest fuel true brackets after = .ok rest) : ∃ gap' text after fuel', Blank gap' ∧
        Skippable .value text ∧ gap ++ octet :: later = gap' ++ text ++ after ∧ fuel' < fuel + 1 ∧
          skipRest fuel' true brackets after = .ok rest :=
    ⟨gap, text, after, fuel, blank, value, by rw [split, List.append_assoc], Nat.lt_succ_self _, skipped⟩
  have bracketed (bracket : Bracket) (isOpening : octet = bracket.opening)
      (skipped : skipRest fuel false (bracket :: brackets) later = .ok rest) : ∃ gap' text after fuel', Blank gap' ∧
        Skippable .value text ∧ gap ++ octet :: later = gap' ++ text ++ after ∧ fuel' < fuel + 1 ∧
          skipRest fuel' true brackets after = .ok rest := by
    have opened : skipRest fuel (!true) (bracket :: brackets) later = .ok rest := skipped
    obtain ⟨body, after, fuel', items, rfl, less, skipped⟩ := rests opened
    exact ⟨gap, _, after, fuel', blank, .bracketed items, by simp [isOpening], Nat.lt_succ_of_lt less, skipped⟩
  simp only at skipped
  split_ifs at skipped with isNull isTrue isFalse isMinus isDigit isQuote isList isObject
  · split at skipped
    · contradiction
    · rename_i named
      exact lexeme .null (by rw [isNull, expectName_eq_ok_iff.mp named]; rfl) skipped
  · split at skipped
    · contradiction
    · rename_i named
      exact lexeme .yes (by rw [isTrue, expectName_eq_ok_iff.mp named]; rfl) skipped
  · split at skipped
    · contradiction
    · rename_i named
      exact lexeme .no (by rw [isFalse, expectName_eq_ok_iff.mp named]; rfl) skipped
  · split at skipped
    · contradiction
    · rename_i counted
      obtain ⟨numeral, negative, split⟩ := numeral_of_skipNumber true counted
      exact lexeme (.number numeral) (by simp [Numeral.octets, negative, isMinus, split]) skipped
  · split at skipped
    · contradiction
    · rename_i counted
      obtain ⟨numeral, negative, split⟩ := numeral_of_skipNumber false counted
      exact lexeme (.number numeral) (by simp [Numeral.octets, negative, split]) skipped
  · split at skipped
    · contradiction
    · rename_i taken
      obtain ⟨body, content, rfl⟩ := content_of_skipString taken
      exact lexeme (.string content) (by simp [isQuote]) skipped
  · exact bracketed .list isList skipped
  · exact bracketed .object isObject skipped

theorem passedRest_succ (values : PassedValue fuel) (rests : ∀ fuel' < fuel, PassedRest fuel') :
    PassedRest (fuel + 1) := by
  intro first bracket brackets octets rest skipped
  rcases blank_or_dark octets with ⟨-, shape⟩ | ⟨gap, octet, later, blank, -, rfl, shape⟩
  · simp [skipRest, shape] at skipped
  rw [skipRest, shape] at skipped
  -- what the next item is does not depend on how its start was found
  have item {lead octets after : List UInt8} (leads : Lead first lead) (entered : bracket.enter octets = .ok after)
      (split : gap ++ octet :: later = lead ++ octets)
      (skipped : skipValue fuel (bracket :: brackets) after = .ok rest) :
      ∃ body after fuel', Skippable (.inside bracket first) body ∧
        gap ++ octet :: later = body ++ bracket.closing :: after ∧ fuel' < fuel + 1 ∧
          skipRest fuel' true brackets after = .ok rest := by
    obtain ⟨gap', text, after, fuel', blank', value, rfl, less, skipped⟩ := values skipped
    rw [List.append_assoc] at entered
    obtain ⟨lead', label, leads', labels, split'⟩ := label_of_enter entered blank' leads
    have continued : skipRest fuel' (!false) (bracket :: brackets) after = .ok rest := skipped
    obtain ⟨body, after, fuel'', more, rfl, less', skipped⟩ := rests fuel' less continued
    refine ⟨_, after, fuel'', .item leads' labels value more, ?_, by omega, skipped⟩
    rw [split, split']
    simp only [List.append_assoc]
  simp only at skipped
  split_ifs at skipped with isClosing isFirst isComma
  · exact ⟨gap, later, fuel, .ended blank, by rw [isClosing], Nat.lt_succ_self _, skipped⟩
  · split at skipped
    · contradiction
    · rename_i entered
      have comma : Lead first (gap ++ 0x2C :: []) := by
        have notFirst : first = false := by simpa using isFirst
        rw [notFirst]
        exact .comma blank blank_nil
      exact item comma entered (by simp [isComma]) skipped
  · split at skipped
    · contradiction
    · rename_i entered
      have leads : Lead first gap := by
        have isFirst : first = true := by simpa using isFirst
        rw [isFirst]
        exact .first blank
      exact item leads entered rfl skipped

theorem passed (fuel : Nat) : PassedValue fuel ∧ PassedRest fuel := by
  -- an item may leave any smaller fuel to what follows it
  induction fuel using Nat.strong_induction_on with
  | _ fuel ih =>
      cases fuel with
      | zero =>
          refine ⟨?_, ?_⟩
          · intro brackets octets rest skipped
            simp [skipValue] at skipped
          · intro first bracket brackets octets rest skipped
            simp [skipRest] at skipped
      | succ fuel =>
          have before := ih fuel (Nat.lt_succ_self fuel)
          refine ⟨passedValue_succ before.2, passedRest_succ before.1 fun fuel' less => ?_⟩
          exact (ih fuel' (Nat.lt_succ_of_lt less)).2

theorem skippable_of_skip (skipped : skip most octets = .ok rest) :
    ∃ gap text, Blank gap ∧ Skippable .value text ∧ octets = gap ++ text ++ rest := by
  obtain ⟨gap, text, after, fuel, blank, value, rfl, -, ended⟩ := (passed _).1 skipped
  cases fuel with
  | zero => simp [skipRest] at ended
  | succ fuel =>
      rw [skipRest] at ended
      cases ended
      exact ⟨gap, text, blank, value, rfl⟩

/-! ### Values that are spelt -/

theorem looseContent_of_content {content : List UInt8} (spelt : Content body content) : LooseContent body := by
  induction spelt with
  | nil => exact .nil
  | plain notQuote notBackslash noControl more ih => exact .plain notQuote notBackslash noControl ih
  | escape spelt more ih =>
      cases spelt with
      | letter found => exact .letter (isSome_shortEscape?.mp (by rw [found]; rfl)) ih
      | unit hex _ _ => exact .unit hex ih
      | pair first second _ _ =>
          have pair := LooseContent.unit first (.unit second ih)
          simpa using pair

theorem skippable_of_quoted {spelling : List UInt8} {word : String} (quoted : Quoted spelling word) :
    Skippable .value (0x22 :: spelling) := by
  obtain ⟨body, content, rfl⟩ := quoted
  exact .string (looseContent_of_content content)

theorem skipString_of_quoted {spelling : List UInt8} {word : String} (quoted : Quoted spelling word)
    (rest : List UInt8) : skipString (spelling ++ rest) (spelling ++ rest) = .ok rest := by
  obtain ⟨body, content, rfl⟩ := quoted
  have skipped := skipString_of_content (looseContent_of_content content) (body ++ [0x22] ++ rest) rest (by simp)
  rwa [List.append_assoc, List.singleton_append] at skipped ⊢

/-- A row can be passed over if each item can, with the key that labels it. -/
theorem skippable_of_row {α : Type} {spells : List UInt8 → α → Prop} {bracket : Bracket} {items : List α}
    (row : Row spells first body items) (each : ∀ {text item}, spells text item → text.length ≤ body.length →
      ∃ label spelt, Label bracket label ∧ Skippable .value spelt ∧ text = label ++ spelt) :
    Skippable (.inside bracket first) body := by
  induction row with
  | ended blank => exact .ended blank
  | @item _ lead text body item items leads spelt more ih =>
      obtain ⟨label, value, labels, skippable, rfl⟩ := each spelt (by simp only [List.length_append]; omega)
      rw [← List.append_assoc]
      refine .item leads labels skippable (ih fun {text item} spelt short => each spelt ?_)
      simp only [List.length_append]
      omega

/-- A value that is spelt can be passed over. -/
theorem skippable_of_spells {value : Value} (spelt : Spells text value) : Skippable .value text := by
  -- the items of a list and the members of an object are shorter than what they stand in
  induction size : text.length using Nat.strong_induction_on generalizing text value with
  | _ length ih =>
      subst size
      cases spelt with
      | null => exact .null
      | yes => exact .yes
      | no => exact .no
      | @number numeral _ _ => exact .number numeral
      | string quoted => exact skippable_of_quoted quoted
      | @list body items row =>
          refine @Skippable.bracketed .list _ (skippable_of_row row fun {text item} spelt short => ?_)
          exact ⟨[], text, .unlabelled, ih _ (by simp; omega) spelt rfl, rfl⟩
      | @object body members row =>
          refine @Skippable.bracketed .object _ (skippable_of_row row fun {text member} spelt short => ?_)
          cases spelt with
          | @intro spelling before after text key value quoted blank blank' spelt =>
              obtain ⟨content, isContent, rfl⟩ := quoted
              simp only [List.length_append, List.length_cons] at short
              refine ⟨_, text, .key (looseContent_of_content isContent) blank blank', ih _ (by simp; omega) spelt rfl, ?_⟩
              simp

/-! ### One place, one value -/

theorem Numeral.exists_start (numeral : Numeral) :
    ∃ octet tail, numeral.octets = octet :: tail ∧ (octet = 0x2D ∨ Decimal.isDigit octet = true) := by
  obtain ⟨octet, later, split⟩ := List.exists_cons_of_ne_nil numeral.areDigits.1
  by_cases negative : numeral.negative = true
  · exact ⟨0x2D, numeral.unsigned, by rw [Numeral.octets, if_pos negative], .inl rfl⟩
  · rw [Numeral.octets, if_neg negative, Numeral.unsigned, split]
    exact ⟨octet, _, rfl, .inr (numeral.areDigits.2 octet (by simp [split]))⟩

/-- The first octet tells a string, a null and a list from each other and from all other values. -/
theorem Skippable.kind {octet : UInt8} {tail : List UInt8} (value : Skippable .value (octet :: tail)) :
    (octet = 0x22 ∧ ∃ body, LooseContent body ∧ tail = body ++ [0x22]) ∨
    (octet = 0x6E ∧ tail = [0x75, 0x6C, 0x6C]) ∨
    (octet = 0x5B ∧ ∃ body, Skippable (.inside .list true) body ∧ tail = body ++ [0x5D]) ∨
    octet ∉ ([0x22, 0x6E, 0x5B] : List UInt8) := by
  generalize shape : octet :: tail = text at value
  cases value with
  | null =>
      cases shape
      exact .inr (.inl ⟨rfl, rfl⟩)
  | yes | no =>
      cases shape
      exact .inr (.inr (.inr (by decide)))
  | number numeral =>
      obtain ⟨start, later, split, isStart⟩ := numeral.exists_start
      rw [split] at shape
      cases shape
      refine .inr (.inr (.inr ?_))
      rcases isStart with rfl | isDigit
      · decide
      · intro known
        simp only [List.mem_cons, List.not_mem_nil, or_false] at known
        rcases known with rfl | rfl | rfl <;> contradiction
  | @string body content =>
      cases shape
      exact .inl ⟨rfl, body, content, rfl⟩
  | @bracketed bracket body items =>
      cases bracket with
      | list =>
          cases shape
          exact .inr (.inr (.inl ⟨rfl, body, items, rfl⟩))
      | object =>
          cases shape
          exact .inr (.inr (.inr (by decide)))

/-- Of the items of a list there is one end. -/
theorem inside_unique {bracket : Bracket} {body' rest' : List UInt8} (items : Skippable (.inside bracket first) body)
    (items' : Skippable (.inside bracket first) body')
    (same : body ++ bracket.closing :: rest = body' ++ bracket.closing :: rest') : rest = rest' := by
  obtain ⟨cost, -, passes⟩ := passes_of_skippable items
  obtain ⟨cost', -, passes'⟩ := passes_of_skippable items'
  have one := passes (cost' + 1) [] rest
  have other := passes' (cost + 1) [] rest'
  rw [same, show cost' + 1 + cost = cost + 1 + cost' by omega, other] at one
  simpa [skipRest, eq_comm] using one

end AuthBroker.Json
