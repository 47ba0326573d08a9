import AuthBroker.Proofs.Json.Twins

namespace AuthBroker.Json

/-! Lexemes of twins.

A name or a number ends at a quote at the latest, so its octets are the same in both documents.  A string is the same
in both unless it is the veiled one; the key before it is known by what it spells.
-/

variable {name : String} {octets octets' rest : List UInt8} {octet : UInt8} {related : List UInt8 → List UInt8 → Prop}

/-! ### Names and numbers -/

theorem Keeps.span (keeps : Keeps related) (stays : UInt8 → Bool) (notQuote : stays 0x22 = false)
    (both : related octets octets') : octets.takeWhile stays = octets'.takeWhile stays ∧
      related (octets.dropWhile stays) (octets'.dropWhile stays) := by
  induction octets generalizing octets' with
  | nil =>
      obtain ⟨-, rfl⟩ | ⟨_, _, _, shape, -⟩ := keeps.view both
      · exact ⟨rfl, both⟩
      · contradiction
  | cons octet tail ih =>
      obtain ⟨tail', rfl, more⟩ := keeps.next both
      by_cases stay : stays octet = true
      · have other : octet ≠ 0x22 := by
          rintro rfl
          rw [notQuote] at stay
          contradiction
        obtain ⟨taken, dropped⟩ := ih (more other)
        rw [List.takeWhile_cons_of_pos stay, List.takeWhile_cons_of_pos stay, List.dropWhile_cons_of_pos stay,
          List.dropWhile_cons_of_pos stay, taken]
        exact ⟨rfl, dropped⟩
      · rw [List.takeWhile_cons_of_neg stay, List.takeWhile_cons_of_neg stay, List.dropWhile_cons_of_neg stay,
          List.dropWhile_cons_of_neg stay]
        exact ⟨rfl, both⟩

theorem Keeps.dropBlank (keeps : Keeps related) (both : related octets octets') :
    related (dropBlank octets) (dropBlank octets') :=
  (keeps.span isBlank (by decide) both).2

/-- The blanks are dropped, and both are at their end or go on with the same octet. -/
theorem Keeps.dark (keeps : Keeps related) (both : related octets octets') :
    Json.dropBlank octets = [] ∧ Json.dropBlank octets' = [] ∨
      ∃ octet tail tail', Json.dropBlank octets = octet :: tail ∧ Json.dropBlank octets' = octet :: tail' ∧
        related (octet :: tail) (octet :: tail') ∧ tail.length = tail'.length ∧ (octet ≠ 0x22 → related tail tail') := by
  have dropped := keeps.dropBlank both
  obtain ⟨ended, ended'⟩ | ⟨octet, tail, tail', shape, shape', size, more⟩ := keeps.view dropped
  · exact .inl ⟨ended, ended'⟩
  · rw [shape, shape'] at dropped
    exact .inr ⟨octet, tail, tail', shape, shape', dropped, size, more⟩

theorem Keeps.expectName (keeps : Keeps related) {word : List UInt8} (notQuote : 0x22 ∉ word)
    (both : related octets octets') : Agree related (expectName word octets) (expectName word octets') := by
  induction word generalizing octets octets' with
  | nil => exact .ok both
  | cons expected word ih =>
      obtain ⟨other, notQuote⟩ := List.ne_and_not_mem_of_not_mem_cons notQuote
      obtain ⟨rfl, rfl⟩ | ⟨octet, tail, tail', rfl, rfl, size, more⟩ := keeps.view both
      · exact agree_error rfl
      · rw [Json.expectName, Json.expectName]
        split_ifs with same
        · exact ih notQuote (more (same ▸ other.symm))
        · exact agree_error size

theorem digit_ne_quote (isDigit : Decimal.isDigit octet = true) : octet ≠ 0x22 :=
  digit_ne isDigit (by decide)

theorem letter_ne_quote (isLetter : isExponentLetter octet = true) : octet ≠ 0x22 := by
  rintro rfl
  contradiction

variable {negative : Bool} {significand : Nat} {start : Int}

theorem Keeps.real (keeps : Keeps related) (both : related octets octets') :
    Agree (Along related) (real negative significand start octets) (real negative significand start octets') := by
  unfold Json.real
  cases magnitude? significand start with
  | some magnitude => exact .ok ⟨rfl, both⟩
  | none => exact agree_error (keeps.size both)

theorem Keeps.exponentDigits (keeps : Keeps related) (value : Nat) (both : related octets octets') :
    (exponentDigits value octets).1 = (exponentDigits value octets').1 ∧
      related (exponentDigits value octets).2 (exponentDigits value octets').2 := by
  induction octets generalizing octets' value with
  | nil =>
      obtain ⟨-, rfl⟩ | ⟨_, _, _, shape, -⟩ := keeps.view both
      · exact ⟨rfl, both⟩
      · contradiction
  | cons octet tail ih =>
      obtain ⟨tail', rfl, more⟩ := keeps.next both
      rw [Json.exponentDigits, Json.exponentDigits]
      split_ifs with isDigit
      · have more := more (digit_ne_quote isDigit)
        dsimp only
        split_ifs with outgrown
        · exact ⟨rfl, more⟩
        · exact ih _ more
      · exact ⟨rfl, both⟩

theorem Keeps.exponentSign (keeps : Keeps related) (both : related octets octets') :
    (exponentSign octets).1 = (exponentSign octets').1 ∧ related (exponentSign octets).2 (exponentSign octets').2 := by
  obtain ⟨rfl, rfl⟩ | ⟨octet, tail, tail', rfl, rfl, -, more⟩ := keeps.view both
  · exact ⟨rfl, both⟩
  · rw [Json.exponentSign, Json.exponentSign]
    split_ifs with isPlus isMinus
    · exact ⟨rfl, more (by rw [isPlus]; decide)⟩
    · exact ⟨rfl, more (by rw [isMinus]; decide)⟩
    · exact ⟨rfl, both⟩

theorem Keeps.exponent (keeps : Keeps related) (both : related octets octets') :
    Agree (Along related) (exponent negative significand start octets) (exponent negative significand start octets') := by
  obtain ⟨sign, more⟩ := keeps.exponentSign both
  unfold Json.exponent
  obtain ⟨ended, ended'⟩ | ⟨octet, tail, tail', shape, shape', size, more⟩ := keeps.view more
  · simp only [ended, ended']
    exact agree_error rfl
  · simp only [shape, shape', sign]
    by_cases isDigit : Decimal.isDigit octet = true
    · simp only [isDigit, if_true]
      have digits := keeps.exponentDigits (Decimal.digitValue octet) (more (digit_ne_quote isDigit))
      generalize Json.exponentDigits (Decimal.digitValue octet) tail = read at digits
      generalize Json.exponentDigits (Decimal.digitValue octet) tail' = read' at digits
      obtain ⟨value, left⟩ := read
      obtain ⟨value', left'⟩ := read'
      obtain ⟨rfl, left⟩ := digits
      cases value with
      | some value => exact keeps.real left
      | none =>
          dsimp only
          split_ifs with outgrown
          · exact agree_error (keeps.size left)
          · exact .ok ⟨rfl, (keeps.span Decimal.isDigit (by decide) left).2⟩
    · simp only [isDigit]
      exact agree_error size

theorem Keeps.exponentOrEnd (keeps : Keeps related) (both : related octets octets') :
    Agree (Along related) (exponentOrEnd negative significand start octets)
      (exponentOrEnd negative significand start octets') := by
  obtain ⟨rfl, rfl⟩ | ⟨octet, tail, tail', rfl, rfl, -, more⟩ := keeps.view both
  · exact keeps.real both
  · rw [Json.exponentOrEnd, Json.exponentOrEnd]
    split_ifs with isLetter
    · exact keeps.exponent (more (letter_ne_quote isLetter))
    · exact keeps.real both

theorem Keeps.fraction (keeps : Keeps related) (both : related octets octets') :
    Agree (Along related) (fraction negative significand start octets) (fraction negative significand start octets') := by
  obtain ⟨digits, left⟩ := keeps.span Decimal.isDigit (by decide) both
  unfold Json.fraction
  rw [digits]
  cases octets'.takeWhile Decimal.isDigit with
  | nil =>
      obtain ⟨ended, ended'⟩ | ⟨octet, tail, tail', shape, shape', size, -⟩ := keeps.view left
      · rw [ended, ended']
        exact agree_error rfl
      · rw [shape, shape']
        exact agree_error (congrArg (· + 1) size)
  | cons digit digits =>
      dsimp only
      exact keeps.exponentOrEnd left

theorem Keeps.integer (keeps : Keeps related) (both : related octets octets') :
    Agree (Along related) (integer negative significand octets) (integer negative significand octets') := by
  unfold Json.integer
  split_ifs
  · exact .ok ⟨rfl, both⟩
  · exact keeps.real both
  · exact .ok ⟨rfl, both⟩

theorem Keeps.afterDigits (keeps : Keeps related) {digits : List UInt8} (both : related octets octets') :
    Agree (Along related) (afterDigits negative digits octets) (afterDigits negative digits octets') := by
  unfold Json.afterDigits
  dsimp only
  obtain ⟨rfl, rfl⟩ | ⟨octet, tail, tail', rfl, rfl, -, more⟩ := keeps.view both
  · dsimp only
    split_ifs
    · exact keeps.integer both
    · exact keeps.real both
  · dsimp only
    split_ifs with isPoint isLetter
    · exact keeps.fraction (more (by rw [isPoint]; decide))
    · exact keeps.exponent (more (letter_ne_quote isLetter))
    · exact keeps.integer both
    · exact keeps.real both

theorem Keeps.number (keeps : Keeps related) (both : related octets octets') :
    Agree (Along related) (number negative octets) (number negative octets') := by
  obtain ⟨rfl, rfl⟩ | ⟨octet, tail, tail', rfl, rfl, size, more⟩ := keeps.view both
  · exact agree_error rfl
  · rw [Json.number.eq_def, Json.number.eq_def]
    dsimp only
    split_ifs with isZero isDigit
    · have more := more (by rw [isZero]; decide)
      obtain ⟨rfl, rfl⟩ | ⟨next, later, later', rfl, rfl, -, -⟩ := keeps.view more
      · exact keeps.afterDigits more
      · dsimp only
        split_ifs
        · exact agree_error size
        · exact keeps.afterDigits more
    · obtain ⟨digits, left⟩ := keeps.span Decimal.isDigit (by decide) (more (digit_ne_quote isDigit))
      rw [digits]
      exact keeps.afterDigits left
    · exact agree_error size

/-! ### Strings -/

theorem hexUnit_cases (octets : List UInt8) : (∃ digits unit rest, Hex digits unit ∧ octets = digits ++ rest) ∨
    hexUnit octets =
      .error (if octets.length < 4 then ⟨.endInString, .here, []⟩ else ⟨.invalidEscape, .here, octets.drop 4⟩) := by
  cases read : hexUnit octets with
  | ok found =>
      obtain ⟨digits, hex, split⟩ := hexUnit_eq_ok_iff.mp read
      exact .inl ⟨digits, _, _, hex, split⟩
  | error fault =>
      right
      rw [hexUnit.eq_def] at read
      split at read
      · split at read
        · contradiction
        · cases read
          simp
      · rename_i short
        cases read
        rw [if_pos]
        match octets with
        | a :: b :: c :: d :: rest => exact absurd rfl (short a b c d rest)
        | [] | [_] | [_, _] | [_, _, _] => simp

theorem step_of_hexDigit {value : Nat} (found : hexDigit? octet = some value) :
    Quotation.inside.step octet = .inside := by
  have notQuote : octet ≠ 0x22 := by
    rintro rfl
    contradiction
  have notBackslash : octet ≠ 0x5C := by
    rintro rfl
    contradiction
  rw [Quotation.step, if_neg notQuote, if_neg notBackslash]

theorem Twins.of_digit {value : Nat} (found : hexDigit? octet = some value)
    (twins : Twins name .inside (octet :: octets) rest) :
    ∃ octets', rest = octet :: octets' ∧ Twins name .inside octets octets' := by
  obtain ⟨shape, -⟩ | ⟨_, _, tail', shape, rfl, -, more⟩ := twins.view (by decide)
  · contradiction
  · cases shape
    rw [step_of_hexDigit found] at more
    exact ⟨tail', rfl, more⟩

theorem Twins.of_hex {digits : List UInt8} {unit : Nat} (hex : Hex digits unit)
    (twins : Twins name .inside (digits ++ octets) rest) :
    ∃ octets', rest = digits ++ octets' ∧ Twins name .inside octets octets' := by
  cases hex with
  | four first second third fourth =>
      simp only [List.cons_append, List.nil_append] at twins ⊢
      obtain ⟨_, rfl, three⟩ := Twins.of_digit first twins
      obtain ⟨_, rfl, two⟩ := Twins.of_digit second three
      obtain ⟨_, rfl, one⟩ := Twins.of_digit third two
      obtain ⟨octets', rfl, more⟩ := Twins.of_digit fourth one
      exact ⟨octets', rfl, more⟩

theorem Twins.hexUnit (twins : Twins name .inside octets octets') :
    Agree (Along (Twins name .inside)) (hexUnit octets) (hexUnit octets') := by
  obtain ⟨digits, unit, rest, hex, rfl⟩ | failed := hexUnit_cases octets
  · obtain ⟨rest', rfl, more⟩ := Twins.of_hex hex twins
    rw [hexUnit_eq_ok_iff.mpr ⟨digits, hex, rfl⟩, hexUnit_eq_ok_iff.mpr ⟨digits, hex, rfl⟩]
    exact .ok ⟨rfl, more⟩
  · obtain ⟨digits, unit, rest, hex, rfl⟩ | failed' := hexUnit_cases octets'
    · obtain ⟨rest', rfl, -⟩ := Twins.of_hex hex twins.symm
      rw [hexUnit_eq_ok_iff.mpr ⟨digits, hex, rfl⟩] at failed
      contradiction
    · rw [failed, failed', twins.size]
      split_ifs
      · exact agree_error rfl
      · exact agree_error (by simp [twins.size])

theorem Twins.trailingHalf {leading : Nat} (twins : Twins name .inside octets octets') :
    Agree (Along (Twins name .inside)) (trailingHalf leading octets) (trailingHalf leading octets') := by
  obtain ⟨rfl, rfl⟩ | ⟨octet, tail, tail', rfl, rfl, size, more⟩ := twins.view (by decide)
  · exact agree_error rfl
  unfold Json.trailingHalf
  dsimp only
  split_ifs with notBackslash
  · exact agree_error size
  rw [not_not.mp notBackslash] at more
  obtain ⟨rfl, rfl⟩ | ⟨letter, later, later', rfl, rfl, size, more⟩ := more.view (by decide)
  · exact agree_error rfl
  dsimp only
  split_ifs with notHex
  · exact agree_error size
  obtain ⟨fault, fault', failed, failed', like⟩ | ⟨unit, rest, rest', found, found', more⟩ := more.hexUnit.along
  · rw [failed, failed']
    exact .error like
  · rw [found, found']
    dsimp only
    split_ifs
    · exact .ok ⟨rfl, more⟩
    · exact agree_error more.size

theorem Twins.escape (twins : Twins name .escaped octets octets') :
    Agree (Along (Twins name .inside)) (escape octets) (escape octets') := by
  obtain ⟨rfl, rfl⟩ | ⟨letter, tail, tail', rfl, rfl, size, more⟩ := twins.view (by decide)
  · exact agree_error rfl
  unfold Json.escape
  dsimp only
  split_ifs with isHex
  · obtain ⟨fault, fault', failed, failed', like⟩ | ⟨unit, rest, rest', found, found', more⟩ := more.hexUnit.along
    · rw [failed, failed']
      exact .error like
    · rw [found, found']
      dsimp only
      split_ifs
      · exact agree_error more.size
      · exact more.trailingHalf
      · exact .ok ⟨rfl, more⟩
  · cases shortEscape? letter with
    | some char => exact .ok ⟨rfl, more⟩
    | none => exact agree_error size

/-- The steps of a string are counted by as many octets in both. -/
theorem Twins.stringOctets {fuel fuel' : List UInt8} (twins : Twins name .inside octets octets') (held : List UInt8)
    (enough : fuel.length = fuel'.length) :
    Agree (Along (Twins name .outside)) (stringOctets fuel held octets) (stringOctets fuel' held octets') := by
  induction fuel generalizing fuel' held octets octets' with
  | nil =>
      obtain rfl := List.eq_nil_of_length_eq_zero enough.symm
      exact agree_error twins.size
  | cons unit fuel ih =>
      obtain ⟨unit', fuel', rfl⟩ := List.exists_cons_of_length_eq_add_one enough.symm
      have enough := Nat.succ.inj enough
      obtain ⟨rfl, rfl⟩ | ⟨octet, tail, tail', rfl, rfl, size, more⟩ := twins.view (by decide)
      · exact agree_error rfl
      rw [Json.stringOctets, Json.stringOctets]
      rw [Quotation.step] at more
      split_ifs at more ⊢ with isQuote isBackslash isControl
      · exact .ok ⟨rfl, more⟩
      · obtain ⟨fault, fault', failed, failed', like⟩ | ⟨char, rest, rest', found, found', more⟩ := more.escape.along
        · rw [failed, failed']
          exact .error like
        · rw [found, found']
          exact ih more _ enough
      · exact agree_error size
      · exact ih more _ enough

theorem Twins.string (twins : Twins name .inside octets octets') :
    Agree (Along (Twins name .outside)) (string octets) (string octets') := by
  obtain ⟨fault, fault', failed, failed', like⟩ | ⟨content, rest, rest', found, found', more⟩ :=
    (twins.stringOctets [] twins.size).along
  · rw [Json.string, Json.string, failed, failed']
    exact .error like
  · rw [Json.string, Json.string, found, found']
    dsimp only
    cases Text.Utf8.string? content.reverse with
    | some text => exact .ok ⟨rfl, more⟩
    | none => exact agree_error more.size

/-- A string that stands before the veiled literal is the key. -/
theorem Opened.string (opened : Opened name octets octets') : Agree (fun read read' => read.1 = read'.1 ∧
    Keyed name read.1 read.2 read'.2) (string octets) (string octets') := by
  cases opened with
  | inside twins => exact twins.string.mono fun both => ⟨both.1, .inl both.2⟩
  | key quoted veiled =>
      rw [string_eq_ok_iff.mpr ⟨_, quoted, rfl⟩, string_eq_ok_iff.mpr ⟨_, quoted, rfl⟩]
      exact .ok ⟨rfl, .inr ⟨rfl, veiled⟩⟩

theorem Opened.along (opened : Opened name octets octets') :
    Agree (Along (Kin name)) (Json.string octets) (Json.string octets') :=
  opened.string.mono fun both => ⟨both.1, both.2.kin⟩

end AuthBroker.Json
