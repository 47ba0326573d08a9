import AuthBroker.Proofs.Json.Lockstep

namespace AuthBroker.Json

/-! Twins passed over.

A value of a member that nobody asked for is passed over, and so is the literal in which twins differ if it stands in
such a value.  Going over it takes the same steps in both documents, whatever brackets are open.
-/

variable {name : String} {octets octets' : List UInt8} {first : Bool} {fuel : Nat}
  {related : List UInt8 → List UInt8 → Prop}

/-! ### Turns -/

/-- The same turn, with what is left in each document. -/
inductive Turn.Along (item close : List UInt8 → List UInt8 → Prop) : Turn → Turn → Prop
  | item {rest rest' : List UInt8} (both : item rest rest') : Turn.Along item close (.item rest) (.item rest')
  | close {rest rest' : List UInt8} (both : close rest rest') : Turn.Along item close (.close rest) (.close rest')

/-- After the key comes a colon or the literal. -/
theorem Veiled.view (veiled : Veiled octets octets') :
    (∃ tail tail', dropBlank octets = 0x3A :: tail ∧ dropBlank octets' = 0x3A :: tail' ∧ Veiled tail tail') ∨
      ∃ literal literal' after, Literal literal ∧ Literal literal' ∧ literal.length = literal'.length ∧
        dropBlank octets = 0x22 :: (literal ++ after) ∧ dropBlank octets' = 0x22 :: (literal' ++ after) := by
  induction veiled with
  | @lead octet tail tail' leads more ih =>
      by_cases isBlank : Json.isBlank octet = true
      · simp only [dropBlank, List.dropWhile_cons_of_pos isBlank] at ih ⊢
        exact ih
      · obtain rfl := leads.resolve_left isBlank
        exact .inl ⟨tail, tail', dropBlank_of_dark (by decide), dropBlank_of_dark (by decide), more⟩
  | literal isLiteral isLiteral' size after =>
      exact .inr ⟨_, _, after, isLiteral, isLiteral', size, dropBlank_of_dark (by decide), dropBlank_of_dark (by decide)⟩

/-- Where an item or a member may follow.  Before the first one, the key is still to come. -/
def Due (name : String) (first : Bool) (octets octets' : List UInt8) : Prop :=
  Twins name .outside octets octets' ∨ first = false ∧ Veiled octets octets'

theorem Kin.due (kin : Kin name octets octets') : Due name false octets octets' := by
  rcases kin with twins | veiled
  · exact .inl twins
  · exact .inr ⟨rfl, veiled⟩

theorem Due.size (due : Due name first octets octets') : octets.length = octets'.length := by
  rcases due with twins | ⟨-, veiled⟩
  · exact twins.size
  · exact veiled.size

theorem Due.listTurn (due : Due name first octets octets') :
    Agree (Turn.Along (Twins name .outside) (Twins name .outside)) (listTurn first octets) (listTurn first octets') := by
  unfold Json.listTurn
  rcases due with twins | ⟨rfl, veiled⟩
  · obtain ⟨ended, ended'⟩ | ⟨octet, tail, tail', shape, shape', whole, size, more⟩ := keeps_twins.dark twins
    · rw [ended, ended']
      exact agree_error rfl
    rw [shape, shape']
    dsimp only
    split_ifs with isClosing isFirst isComma
    · exact .ok (.close (more (by rw [isClosing]; decide)))
    · exact .ok (.item whole)
    · obtain ⟨ended, ended'⟩ | ⟨next, later, later', shape, shape', whole, size, -⟩ :=
        keeps_twins.dark (more (by rw [isComma]; decide))
      · rw [ended, ended']
        exact agree_error rfl
      · rw [shape, shape']
        dsimp only
        split_ifs
        · exact agree_error (congrArg (· + 1) size)
        · exact .ok (.item whole)
    · exact agree_error (congrArg (· + 1) size)
  · -- neither a comma nor a bracket is veiled
    obtain ⟨tail, tail', shape, shape', more⟩ | ⟨literal, literal', after, -, -, size, shape, shape'⟩ := veiled.view
    · rw [shape, shape']
      exact agree_error (congrArg (· + 1) more.size)
    · rw [shape, shape']
      exact agree_error (by simp [size])

theorem Due.objectTurn (due : Due name first octets octets') :
    Agree (Turn.Along (Opened name) (Twins name .outside)) (objectTurn first octets) (objectTurn first octets') := by
  unfold Json.objectTurn
  rcases due with twins | ⟨rfl, veiled⟩
  · obtain ⟨ended, ended'⟩ | ⟨octet, tail, tail', shape, shape', whole, size, more⟩ := keeps_twins.dark twins
    · rw [ended, ended']
      exact agree_error rfl
    rw [shape, shape']
    dsimp only
    split_ifs with isClosing isFirst isQuote isComma
    · exact .ok (.close (more (by rw [isClosing]; decide)))
    · rw [isQuote] at whole
      exact .ok (.item whole.opened)
    · exact agree_error (congrArg (· + 1) size)
    · obtain ⟨ended, ended'⟩ | ⟨next, later, later', shape, shape', whole, size, -⟩ :=
        keeps_twins.dark (more (by rw [isComma]; decide))
      · rw [ended, ended']
        exact agree_error rfl
      · rw [shape, shape']
        dsimp only
        split_ifs with isQuote
        · rw [isQuote] at whole
          exact .ok (.item whole.opened)
        · exact agree_error (congrArg (· + 1) size)
        · exact agree_error (congrArg (· + 1) size)
    · exact agree_error (congrArg (· + 1) size)
  · obtain ⟨tail, tail', shape, shape', more⟩ | ⟨literal, literal', after, -, -, size, shape, shape'⟩ := veiled.view
    · rw [shape, shape']
      exact agree_error (congrArg (· + 1) more.size)
    · rw [shape, shape']
      exact agree_error (by simp [size])

theorem Keeps.colon (keeps : Keeps related) (both : related octets octets') :
    Agree related (colon octets) (colon octets') := by
  unfold Json.colon
  obtain ⟨ended, ended'⟩ | ⟨octet, tail, tail', shape, shape', -, size, more⟩ := keeps.dark both
  · rw [ended, ended']
    exact agree_error rfl
  · rw [shape, shape']
    dsimp only
    split_ifs with isColon
    · exact .ok (more (by rw [isColon]; decide))
    · exact agree_error (congrArg (· + 1) size)

theorem Keyed.colon {text : String} (keyed : Keyed name text octets octets') :
    Agree (Keyed name text) (colon octets) (colon octets') := by
  rcases keyed with twins | ⟨isKey, veiled⟩
  · exact (keeps_twins.colon twins).mono .inl
  · exact (keeps_veiled.colon veiled).mono fun veiled => .inr ⟨isKey, veiled⟩

theorem Keeps.documentEnd (keeps : Keeps related) (both : related octets octets') :
    Agree (fun _ _ => True) (documentEnd octets) (documentEnd octets') := by
  unfold Json.documentEnd
  obtain ⟨ended, ended'⟩ | ⟨octet, tail, tail', shape, shape', -, size, -⟩ := keeps.dark both
  · rw [ended, ended']
    exact .ok trivial
  · rw [shape, shape']
    exact agree_error (congrArg (· + 1) size)

/-! ### Numbers and strings passed over -/

theorem Keeps.skipExponent (keeps : Keeps related) (both : related octets octets') :
    Agree related (skipExponent octets) (skipExponent octets') := by
  unfold Json.skipExponent
  obtain ⟨ended, ended'⟩ | ⟨octet, tail, tail', shape, shape', size, more⟩ := keeps.view (keeps.exponentSign both).2
  · rw [ended, ended']
    exact agree_error rfl
  · rw [shape, shape']
    dsimp only
    split_ifs with isDigit
    · exact .ok (keeps.span Decimal.isDigit (by decide) (more (digit_ne_quote isDigit))).2
    · exact agree_error size

theorem Keeps.skipFraction (keeps : Keeps related) (both : related octets octets') :
    Agree related (skipFraction octets) (skipFraction octets') := by
  obtain ⟨digits, left⟩ := keeps.span Decimal.isDigit (by decide) both
  unfold Json.skipFraction
  rw [digits]
  cases octets'.takeWhile Decimal.isDigit with
  | nil => exact agree_error (keeps.size left)
  | cons digit digits =>
      obtain ⟨ended, ended'⟩ | ⟨octet, tail, tail', shape, shape', size, more⟩ := keeps.view left
      · rw [ended, ended'] at left ⊢
        exact .ok left
      · rw [shape, shape'] at left ⊢
        dsimp only
        split_ifs with isLetter
        · exact keeps.skipExponent (more (letter_ne_quote isLetter))
        · exact .ok left

theorem Keeps.skipAfterDigits (keeps : Keeps related) (both : related octets octets') :
    Agree related (skipAfterDigits octets) (skipAfterDigits octets') := by
  obtain ⟨rfl, rfl⟩ | ⟨octet, tail, tail', rfl, rfl, -, more⟩ := keeps.view both
  · exact .ok both
  · rw [Json.skipAfterDigits, Json.skipAfterDigits]
    split_ifs with isPoint isLetter
    · exact keeps.skipFraction (more (by rw [isPoint]; decide))
    · exact keeps.skipExponent (more (letter_ne_quote isLetter))
    · exact .ok both

theorem Keeps.skipNumber (keeps : Keeps related) (both : related octets octets') :
    Agree related (skipNumber octets) (skipNumber octets') := by
  obtain ⟨rfl, rfl⟩ | ⟨octet, tail, tail', rfl, rfl, size, more⟩ := keeps.view both
  · exact agree_error rfl
  · rw [Json.skipNumber.eq_def, Json.skipNumber.eq_def]
    dsimp only
    split_ifs with isZero isDigit
    · have more := more (by rw [isZero]; decide)
      obtain ⟨rfl, rfl⟩ | ⟨next, later, later', rfl, rfl, -, -⟩ := keeps.view more
      · exact .ok more
      · dsimp only
        split_ifs
        · exact agree_error size
        · exact keeps.skipAfterDigits more
    · exact keeps.skipAfterDigits (keeps.span Decimal.isDigit (by decide) (more (digit_ne_quote isDigit))).2
    · exact agree_error size

theorem Twins.skipString {fuel fuel' : List UInt8} (twins : Twins name .inside octets octets')
    (enough : fuel.length = fuel'.length) :
    Agree (Twins name .outside) (skipString fuel octets) (skipString fuel' octets') := by
  induction fuel generalizing fuel' octets octets' with
  | nil =>
      obtain rfl := List.eq_nil_of_length_eq_zero enough.symm
      exact agree_error twins.size
  | cons unit fuel ih =>
      obtain ⟨unit', fuel', rfl⟩ := List.exists_cons_of_length_eq_add_one enough.symm
      have enough := Nat.succ.inj enough
      obtain ⟨rfl, rfl⟩ | ⟨octet, tail, tail', rfl, rfl, size, more⟩ := twins.view (by decide)
      · exact agree_error rfl
      rw [Json.skipString.eq_def, Json.skipString.eq_def]
      rw [Quotation.step] at more
      dsimp only
      split_ifs at more ⊢ with isQuote isBackslash isControl
      · exact .ok more
      · obtain ⟨rfl, rfl⟩ | ⟨letter, later, later', rfl, rfl, size, more⟩ := more.view (by decide)
        · exact agree_error rfl
        dsimp only
        split_ifs with isHex known
        · obtain ⟨fault, fault', failed, failed', like⟩ | ⟨unit, rest, rest', found, found', more⟩ := more.hexUnit.along
          · rw [failed, failed']
            exact .error like
          · rw [found, found']
            exact ih more enough
        · exact ih more enough
        · exact agree_error size
      · exact agree_error (congrArg (· + 1) size)
      · exact ih more enough

/-- A string is passed over whether it is the same in both, the key or what is veiled. -/
theorem Kin.skipString (kin : Kin name (0x22 :: octets) (0x22 :: octets')) :
    Agree (Kin name) (skipString octets octets) (skipString octets' octets') := by
  rcases kin with twins | veiled
  · cases twins.opened with
    | inside twins => exact (twins.skipString twins.size).mono .inl
    | key quoted veiled =>
        rw [skipString_of_quoted quoted, skipString_of_quoted quoted]
        exact .ok (.inr veiled)
  · obtain ⟨_, _, shape, -⟩ | ⟨literal, literal', after, ⟨_, quoted⟩, ⟨_, quoted'⟩, -, shape, shape'⟩ := veiled.view
    · rw [dropBlank_of_dark (by decide)] at shape
      cases shape
    · rw [dropBlank_of_dark (by decide)] at shape shape'
      cases shape
      cases shape'
      rw [skipString_of_quoted quoted, skipString_of_quoted quoted']
      exact .ok (.inl (.same _ after))

/-! ### Values passed over -/

theorem Kin.skipKey (kin : Kin name octets octets') : Agree (Kin name) (skipKey octets) (skipKey octets') := by
  unfold Json.skipKey
  obtain ⟨ended, ended'⟩ | ⟨octet, tail, tail', shape, shape', whole, size, -⟩ := keeps_kin.dark kin
  · rw [ended, ended']
    exact agree_error rfl
  rw [shape, shape']
  dsimp only
  split_ifs with isQuote
  · rw [isQuote] at whole
    obtain ⟨fault, fault', failed, failed', like⟩ | ⟨rest, rest', taken, taken', more⟩ := whole.skipString.cases
    · rw [failed, failed']
      exact .error like
    · rw [taken, taken']
      exact keeps_kin.colon more
  · exact agree_error (congrArg (· + 1) size)

theorem Kin.enter (kin : Kin name octets octets') (bracket : Bracket) :
    Agree (Kin name) (bracket.enter octets) (bracket.enter octets') := by
  cases bracket with
  | list => exact .ok kin
  | object => exact kin.skipKey

/-- With some fuel, values are passed over alike. -/
def ValuesAgree (name : String) (fuel : Nat) : Prop :=
  ∀ {brackets octets octets'}, Kin name octets octets' →
    Agree (Kin name) (skipValue fuel brackets octets) (skipValue fuel brackets octets')

/-- With some fuel, what open brackets still hold is passed over alike. -/
def RestsAgree (name : String) (fuel : Nat) : Prop :=
  ∀ {comma brackets octets octets'}, Kin name octets octets' →
    Agree (Kin name) (skipRest fuel comma brackets octets) (skipRest fuel comma brackets octets')

theorem valuesAgree_succ (rests : RestsAgree name fuel) : ValuesAgree name (fuel + 1) := by
  intro brackets octets octets' kin
  rw [skipValue, skipValue]
  obtain ⟨ended, ended'⟩ | ⟨octet, tail, tail', shape, shape', whole, size, more⟩ := keeps_kin.dark kin
  · rw [ended, ended']
    exact agree_error rfl
  rw [shape, shape']
  dsimp only
  have words (word : List UInt8) (notQuote : 0x22 ∉ word) (other : octet ≠ 0x22) :=
    keeps_kin.expectName notQuote (more other)
  split_ifs with isNull isTrue isFalse isMinus isDigit isQuote isList isObject
  on_goal 7 => exact rests (more (by rw [isList]; decide))
  on_goal 7 => exact rests (more (by rw [isObject]; decide))
  on_goal 7 => exact agree_error (congrArg (· + 1) size)
  -- after a value of one lexeme what the brackets hold is next
  on_goal 1 => have agree := words [0x75, 0x6C, 0x6C] (by decide) (by rw [isNull]; decide)
  on_goal 2 => have agree := words [0x72, 0x75, 0x65] (by decide) (by rw [isTrue]; decide)
  on_goal 3 => have agree := words [0x61, 0x6C, 0x73, 0x65] (by decide) (by rw [isFalse]; decide)
  on_goal 4 => have agree := keeps_kin.skipNumber (more (by rw [isMinus]; decide))
  on_goal 5 => have agree := keeps_kin.skipNumber whole
  on_goal 6 => have agree := Kin.skipString (isQuote ▸ whole)
  all_goals
    obtain ⟨fault, fault', failed, failed', like⟩ | ⟨rest, rest', taken, taken', more⟩ := agree.cases
    · rw [failed, failed']
      exact .error like
    · rw [taken, taken']
      exact rests more

theorem restsAgree_succ (values : ValuesAgree name fuel) (rests : RestsAgree name fuel) : RestsAgree name (fuel + 1) := by
  intro comma brackets octets octets' kin
  cases brackets with
  | nil => exact .ok kin
  | cons bracket brackets =>
      rw [skipRest, skipRest]
      obtain ⟨ended, ended'⟩ | ⟨octet, tail, tail', shape, shape', whole, size, more⟩ := keeps_kin.dark kin
      · rw [ended, ended']
        exact agree_error rfl
      rw [shape, shape']
      dsimp only
      split_ifs with isClosing afterItem isComma
      · exact rests (more (by rw [isClosing]; cases bracket <;> decide))
      · obtain ⟨fault, fault', failed, failed', like⟩ | ⟨rest, rest', taken, taken', more⟩ :=
          (Kin.enter (more (by rw [isComma]; decide)) bracket).cases
        · rw [failed, failed']
          exact .error like
        · rw [taken, taken']
          exact values more
      · exact agree_error (congrArg (· + 1) size)
      · obtain ⟨fault, fault', failed, failed', like⟩ | ⟨rest, rest', taken, taken', more⟩ := (Kin.enter whole bracket).cases
        · rw [failed, failed']
          exact .error like
        · rw [taken, taken']
          exact values more

theorem passed_agree (name : String) (fuel : Nat) : ValuesAgree name fuel ∧ RestsAgree name fuel := by
  induction fuel with
  | zero => exact ⟨fun kin => agree_error (keeps_kin.size kin), fun kin => agree_error (keeps_kin.size kin)⟩
  | succ fuel ih => exact ⟨valuesAgree_succ ih.2, restsAgree_succ ih.1 ih.2⟩

theorem Kin.skip (kin : Kin name octets octets') (most : Nat) : Agree (Kin name) (skip most octets) (skip most octets') :=
  (passed_agree name _).1 kin

end AuthBroker.Json
