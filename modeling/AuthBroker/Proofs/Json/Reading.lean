import AuthBroker.Proofs.Json.Grammar

namespace AuthBroker.Json

/-! The reader and the grammar agree.

What the reader accepts is spelt as the grammar says, by induction on the fuel.  The other
way the fuel has to suffice: twice the length of a value, and one more than twice the
length of a row, pay for every call, since a value is never empty.  A numeral can only be
read where it ends, which what follows an item always sees to.
-/

variable {first : Bool} {octets rest gap lead : List UInt8}

/-! ### Turns -/

theorem Lead.append (leads : Lead first lead) (blank : Blank gap) : Lead first (lead ++ gap) := by
  cases leads with
  | first blankLead => exact .first (blankLead.append blank)
  | comma blankBefore blankAfter =>
      rw [List.append_assoc, List.cons_append]
      exact .comma blankBefore (blankAfter.append blank)

/-- Octets are blanks, or blanks with an octet after them that is none. -/
theorem blank_or_dark (octets : List UInt8) :
    (Blank octets ∧ dropBlank octets = []) ∨
      ∃ gap octet rest, Blank gap ∧ isBlank octet = false ∧ octets = gap ++ octet :: rest ∧
        dropBlank octets = octet :: rest := by
  obtain ⟨gap, blank, split, dark⟩ := exists_blank octets
  cases shape : dropBlank octets with
  | nil =>
      rw [shape, List.append_nil] at split
      exact .inl ⟨split ▸ blank, rfl⟩
  | cons octet rest =>
      rw [shape] at split dark
      exact .inr ⟨gap, octet, rest, blank, dark octet rfl, split, rfl⟩

theorem listTurn_eq_close (turned : listTurn first octets = .ok (.close rest)) :
    ∃ gap, Blank gap ∧ octets = gap ++ 0x5D :: rest := by
  rcases blank_or_dark octets with ⟨-, shape⟩ | ⟨gap, octet, later, blank, -, split, shape⟩
  · simp [listTurn, shape] at turned
  · simp only [listTurn, shape] at turned
    split_ifs at turned with isClosing
    · cases turned
      exact ⟨gap, blank, isClosing ▸ split⟩
    · cases turned
    · split at turned
      · contradiction
      · split_ifs at turned
        cases turned

theorem listTurn_eq_item (turned : listTurn first octets = .ok (.item rest)) :
    ∃ lead, Lead first lead ∧ octets = lead ++ rest := by
  rcases blank_or_dark octets with ⟨-, shape⟩ | ⟨gap, octet, later, blank, -, split, shape⟩
  · simp [listTurn, shape] at turned
  · simp only [listTurn, shape] at turned
    split_ifs at turned with _ isFirst isComma
    · cases turned
    · cases turned
      exact ⟨gap, isFirst ▸ .first blank, split⟩
    · rw [Bool.not_eq_true] at isFirst
      rcases blank_or_dark later with ⟨-, shape'⟩ | ⟨gap', next, tail, blank', -, split', shape'⟩
      · simp [shape'] at turned
      · simp only [shape'] at turned
        split_ifs at turned
        cases turned
        exact ⟨gap ++ 0x2C :: gap', isFirst ▸ .comma blank blank', by simp [split, split', isComma]⟩

theorem objectTurn_eq_close (turned : objectTurn first octets = .ok (.close rest)) :
    ∃ gap, Blank gap ∧ octets = gap ++ 0x7D :: rest := by
  rcases blank_or_dark octets with ⟨-, shape⟩ | ⟨gap, octet, later, blank, -, split, shape⟩
  · simp [objectTurn, shape] at turned
  · simp only [objectTurn, shape] at turned
    split_ifs at turned with isClosing
    · cases turned
      exact ⟨gap, blank, isClosing ▸ split⟩
    · cases turned
    · split at turned
      · contradiction
      · split_ifs at turned
        cases turned

theorem objectTurn_eq_item (turned : objectTurn first octets = .ok (.item rest)) :
    ∃ lead, Lead first lead ∧ octets = lead ++ 0x22 :: rest := by
  rcases blank_or_dark octets with ⟨-, shape⟩ | ⟨gap, octet, later, blank, -, split, shape⟩
  · simp [objectTurn, shape] at turned
  · simp only [objectTurn, shape] at turned
    split_ifs at turned with _ isFirst isQuote isComma
    · cases turned
    · cases turned
      exact ⟨gap, isFirst ▸ .first blank, isQuote ▸ split⟩
    · rw [Bool.not_eq_true] at isFirst
      rcases blank_or_dark later with ⟨-, shape'⟩ | ⟨gap', next, tail, blank', -, split', shape'⟩
      · simp [shape'] at turned
      · simp only [shape'] at turned
        split_ifs at turned with isQuote
        cases turned
        exact ⟨gap ++ 0x2C :: gap', isFirst ▸ .comma blank blank',
          by simp [split, split', isComma, isQuote]⟩

theorem listTurn_closing (blank : Blank gap) :
    listTurn first (gap ++ 0x5D :: rest) = .ok (.close rest) := by
  rw [listTurn, dropBlank_append blank (by decide)]
  simp

theorem listTurn_lead {octet : UInt8} (leads : Lead first lead) (dark : isBlank octet = false)
    (notClosing : octet ≠ 0x5D) :
    listTurn first (lead ++ octet :: rest) = .ok (.item (octet :: rest)) := by
  cases leads with
  | first blank =>
      rw [listTurn, dropBlank_append blank dark]
      simp [notClosing]
  | comma blankBefore blankAfter =>
      rw [List.append_assoc, List.cons_append, listTurn, dropBlank_append blankBefore (by decide)]
      simp [dropBlank_append blankAfter dark, notClosing]

theorem objectTurn_closing (blank : Blank gap) :
    objectTurn first (gap ++ 0x7D :: rest) = .ok (.close rest) := by
  rw [objectTurn, dropBlank_append blank (by decide)]
  simp

theorem objectTurn_lead (leads : Lead first lead) :
    objectTurn first (lead ++ 0x22 :: rest) = .ok (.item rest) := by
  cases leads with
  | first blank =>
      rw [objectTurn, dropBlank_append blank (by decide)]
      simp
  | comma blankBefore blankAfter =>
      rw [List.append_assoc, List.cons_append, objectTurn, dropBlank_append blankBefore (by decide)]
      simp [dropBlank_append blankAfter (show isBlank 0x22 = false by decide)]

theorem colon_eq_ok_iff :
    colon octets = .ok rest ↔ ∃ gap, Blank gap ∧ octets = gap ++ 0x3A :: rest := by
  constructor
  · intro read
    rcases blank_or_dark octets with ⟨-, shape⟩ | ⟨gap, octet, later, blank, -, split, shape⟩
    · simp [colon, shape] at read
    · simp only [colon, shape] at read
      split_ifs at read with isColon
      cases read
      exact ⟨gap, blank, isColon ▸ split⟩
  · intro shaped
    obtain ⟨gap, blank, rfl⟩ := shaped
    rw [colon, dropBlank_append blank (by decide)]
    simp

theorem documentEnd_eq_ok_iff : documentEnd octets = .ok () ↔ Blank octets := by
  constructor
  · intro ended
    rcases blank_or_dark octets with ⟨blank, -⟩ | ⟨gap, octet, later, blank, -, split, shape⟩
    · exact blank
    · simp [documentEnd, shape] at ended
  · intro blank
    simp [documentEnd, dropBlank_of_blank blank]

/-! ### Soundness -/

/-- Values read with some fuel are spelt by what was taken. -/
def ValuesSpelt (fuel : Nat) : Prop :=
  ∀ {depth octets value rest}, readValue fuel depth octets = .ok (value, rest) →
    ∃ gap text, Blank gap ∧ Spells text value ∧ octets = gap ++ text ++ rest ∧
      value.nesting ≤ depth

/-- Items read with some fuel are spelt by what was taken, less the closing bracket. -/
def ItemsSpelt (fuel : Nat) : Prop :=
  ∀ {depth first held octets found rest}, readItems fuel depth first held octets = .ok (found, rest) →
    ∃ body items, Row Spells first body items ∧ found = held.reverse ++ items ∧
      octets = body ++ 0x5D :: rest ∧ itemsNesting items ≤ depth

/-- Members read with some fuel are spelt by what was taken, less the closing bracket. -/
def MembersSpelt (fuel : Nat) : Prop :=
  ∀ {depth first held octets found rest},
    readMembers fuel depth first held octets = .ok (found, rest) →
    ∃ body members, Row (Member Spells) first body members ∧ found = held.reverse ++ members ∧
      octets = body ++ 0x7D :: rest ∧ membersNesting members ≤ depth

theorem itemsSpelt_succ {fuel : Nat} (values : ValuesSpelt fuel) (more : ItemsSpelt fuel) :
    ItemsSpelt (fuel + 1) := by
  intro depth first held octets found rest read
  rw [readItems] at read
  split at read
  · contradiction
  · rename_i turned
    cases read
    obtain ⟨gap, blank, split⟩ := listTurn_eq_close turned
    exact ⟨gap, [], .ended blank, by simp, split, Nat.zero_le depth⟩
  · rename_i later turned
    obtain ⟨lead, leads, rfl⟩ := listTurn_eq_item turned
    split at read
    · contradiction
    · rename_i value after taken
      obtain ⟨gap, text, blank, spelt, rfl, shallow⟩ := values taken
      obtain ⟨body, items, row, result, rfl, shallow'⟩ := more read
      refine ⟨lead ++ gap ++ text ++ body, value :: items, .item (leads.append blank) spelt row, ?_, ?_,
        Nat.max_le.mpr ⟨shallow, shallow'⟩⟩
      · simp [result]
      · simp only [List.append_assoc]

theorem membersSpelt_succ {fuel : Nat} (values : ValuesSpelt fuel) (more : MembersSpelt fuel) :
    MembersSpelt (fuel + 1) := by
  intro depth first held octets found rest read
  rw [readMembers] at read
  split at read
  · contradiction
  · rename_i turned
    cases read
    obtain ⟨gap, blank, split⟩ := objectTurn_eq_close turned
    exact ⟨gap, [], .ended blank, by simp, split, Nat.zero_le depth⟩
  · rename_i later turned
    obtain ⟨lead, leads, rfl⟩ := objectTurn_eq_item turned
    split at read
    · contradiction
    · rename_i key after named
      obtain ⟨spelling, quoted, rfl⟩ := string_eq_ok_iff.mp named
      split at read
      · contradiction
      · rename_i after divided
        obtain ⟨before, blankBefore, rfl⟩ := colon_eq_ok_iff.mp divided
        split at read
        · contradiction
        · rename_i value after taken
          obtain ⟨gap, text, blank, spelt, rfl, shallow⟩ := values taken
          obtain ⟨body, members, row, result, rfl, shallow'⟩ := more read
          have member : Member Spells (0x22 :: spelling ++ before ++ 0x3A :: gap ++ text) (key, value) :=
            .intro quoted blankBefore blank spelt
          refine ⟨_, (key, value) :: members, .item leads member row, ?_, ?_,
            Nat.max_le.mpr ⟨shallow, shallow'⟩⟩
          · simp [result]
          · simp only [List.append_assoc, List.cons_append]

theorem valuesSpelt_succ {fuel : Nat} (items : ItemsSpelt fuel) (members : MembersSpelt fuel) :
    ValuesSpelt (fuel + 1) := by
  intro depth octets value rest read
  rw [readValue] at read
  rcases blank_or_dark octets with ⟨-, shape⟩ | ⟨gap, octet, later, blank, -, rfl, shape⟩
  · simp [shape] at read
  rw [shape] at read
  -- Every branch spells its value by the octet that chose it and what was read after it.
  suffices spelt : ∃ text, Spells text value ∧ octet :: later = text ++ rest ∧ value.nesting ≤ depth by
    obtain ⟨text, spelt, split, shallow⟩ := spelt
    exact ⟨gap, text, blank, spelt, by rw [split, List.append_assoc], shallow⟩
  simp only at read
  split_ifs at read with isNull isTrue isFalse isMinus isDigit isQuote isList isObject
  · split at read
    · contradiction
    · rename_i named
      cases read
      exact ⟨_, .null, by rw [isNull, expectName_eq_ok_iff.mp named]; rfl, Nat.zero_le depth⟩
  · split at read
    · contradiction
    · rename_i named
      cases read
      exact ⟨_, .yes, by rw [isTrue, expectName_eq_ok_iff.mp named]; rfl, Nat.zero_le depth⟩
  · split at read
    · contradiction
    · rename_i named
      cases read
      exact ⟨_, .no, by rw [isFalse, expectName_eq_ok_iff.mp named]; rfl, Nat.zero_le depth⟩
  · split at read
    · contradiction
    · rename_i counted
      cases read
      obtain ⟨numeral, negative, split, denotes⟩ := numeral_of_number counted
      refine ⟨_, .number denotes, ?_, Nat.zero_le depth⟩
      simp [Numeral.octets, negative, isMinus, split]
  · split at read
    · contradiction
    · rename_i counted
      cases read
      obtain ⟨numeral, negative, split, denotes⟩ := numeral_of_number counted
      refine ⟨_, .number denotes, ?_, Nat.zero_le depth⟩
      simp [Numeral.octets, negative, split]
  · split at read
    · contradiction
    · rename_i taken
      cases read
      obtain ⟨spelling, quoted, split⟩ := string_eq_ok_iff.mp taken
      exact ⟨_, .string quoted, by rw [isQuote, split, List.cons_append], Nat.zero_le depth⟩
  · cases depth with
    | zero => simp at read
    | succ depth =>
        simp only at read
        split at read
        · contradiction
        · rename_i taken
          cases read
          obtain ⟨body, found, row, rfl, split, shallow⟩ := items taken
          exact ⟨_, .list row, by rw [isList, split]; simp, Nat.succ_le_succ shallow⟩
  · cases depth with
    | zero => simp at read
    | succ depth =>
        simp only at read
        split at read
        · contradiction
        · rename_i taken
          cases read
          obtain ⟨body, found, row, rfl, split, shallow⟩ := members taken
          exact ⟨_, .object row, by rw [isObject, split]; simp, Nat.succ_le_succ shallow⟩

theorem spelt_of_read (fuel : Nat) : ValuesSpelt fuel ∧ ItemsSpelt fuel ∧ MembersSpelt fuel := by
  -- the readers call one another with one unit less, so their statements go through together
  induction fuel with
  | zero =>
      refine ⟨?_, ?_, ?_⟩
      · intro depth octets value rest read
        simp [readValue] at read
      · intro depth first held octets found rest read
        simp [readItems] at read
      · intro depth first held octets found rest read
        simp [readMembers] at read
  | succ fuel ih =>
      obtain ⟨values, items, members⟩ := ih
      exact ⟨valuesSpelt_succ items members, itemsSpelt_succ values items,
        membersSpelt_succ values members⟩

/-! ### Completeness -/

theorem ends_blank (blank : Blank gap) (ends : Ends rest) : Ends (gap ++ rest) := by
  cases gap with
  | nil => exact ends
  | cons octet gap =>
      have isSpace := blank octet List.mem_cons_self
      simp only [isBlank, Bool.or_eq_true, decide_eq_true_eq] at isSpace
      rcases isSpace with ((rfl | rfl) | rfl) | rfl <;>
        exact ends_cons (by decide) (by decide) (by decide)

/-- After an item comes a blank, a comma or the closing bracket. -/
theorem Row.ends {α : Type} {spells : List UInt8 → α → Prop} {body : List UInt8} {items : List α}
    (row : Row spells false body items) (ends : Ends rest) : Ends (body ++ rest) := by
  cases row with
  | ended blank => exact ends_blank blank ends
  | item leads spelt more =>
      cases leads with
      | comma blankBefore blankAfter =>
          simp only [List.append_assoc, List.cons_append]
          exact ends_blank blankBefore (ends_cons (by decide) (by decide) (by decide))

theorem digit_dark {octet : UInt8} (isDigit : Decimal.isDigit octet = true) :
    isBlank octet = false ∧ octet ≠ 0x5D := by
  have other {letter : UInt8} (notDigit : Decimal.isDigit letter = false) := digit_ne isDigit notDigit
  refine ⟨?_, other (by decide)⟩
  simp only [isBlank, Bool.or_eq_false_iff, decide_eq_false_iff_not]
  exact ⟨⟨⟨other (by decide), other (by decide)⟩, other (by decide)⟩, other (by decide)⟩

theorem Numeral.exists_head (numeral : Numeral) : ∃ octet tail, numeral.octets = octet :: tail ∧
    isBlank octet = false ∧ octet ≠ 0x5D := by
  obtain ⟨octet, later, split⟩ := List.exists_cons_of_ne_nil numeral.areDigits.1
  have isDigit := numeral.areDigits.2 octet (by simp [split])
  by_cases negative : numeral.negative = true
  · exact ⟨0x2D, numeral.unsigned, by rw [Numeral.octets, if_pos negative], by decide, by decide⟩
  · rw [Numeral.octets, if_neg negative, Numeral.unsigned, split]
    exact ⟨octet, _, rfl, digit_dark isDigit⟩

theorem Spells.exists_head {text : List UInt8} {value : Value} (spelt : Spells text value) :
    ∃ octet tail, text = octet :: tail ∧ isBlank octet = false ∧ octet ≠ 0x5D := by
  cases spelt with
  | null => exact ⟨_, _, rfl, by decide, by decide⟩
  | yes => exact ⟨_, _, rfl, by decide, by decide⟩
  | no => exact ⟨_, _, rfl, by decide, by decide⟩
  | @number numeral _ denotes => exact numeral.exists_head
  | string quoted => exact ⟨_, _, rfl, by decide, by decide⟩
  | list row => exact ⟨_, _, rfl, by decide, by decide⟩
  | object row => exact ⟨_, _, rfl, by decide, by decide⟩

/-- With some fuel, values that are spelt are read. -/
def ReadsValues (fuel : Nat) : Prop :=
  ∀ {depth gap text value rest}, Blank gap → Spells text value → value.nesting ≤ depth → Ends rest →
    2 * text.length ≤ fuel → readValue fuel depth (gap ++ text ++ rest) = .ok (value, rest)

/-- With some fuel, rows of items are read up to their closing bracket. -/
def ReadsItems (fuel : Nat) : Prop :=
  ∀ {depth first held body items rest}, Row Spells first body items → itemsNesting items ≤ depth →
    2 * body.length + 1 ≤ fuel →
    readItems fuel depth first held (body ++ 0x5D :: rest) = .ok (held.reverse ++ items, rest)

/-- With some fuel, rows of members are read up to their closing bracket. -/
def ReadsMembers (fuel : Nat) : Prop :=
  ∀ {depth first held body members rest}, Row (Member Spells) first body members →
    membersNesting members ≤ depth → 2 * body.length + 1 ≤ fuel →
    readMembers fuel depth first held (body ++ 0x7D :: rest) = .ok (held.reverse ++ members, rest)

theorem readsItems_succ {fuel : Nat} (values : ReadsValues fuel) (more : ReadsItems fuel) :
    ReadsItems (fuel + 1) := by
  intro depth first held body items rest row shallow enough
  cases row with
  | ended blank =>
      rw [readItems, listTurn_closing blank]
      simp
  | @item _ lead text body item items leads spelt row =>
      obtain ⟨shallow, shallow'⟩ := Nat.max_le.mp shallow
      obtain ⟨octet, tail, split, dark, notClosing⟩ := spelt.exists_head
      have ends : Ends (body ++ 0x5D :: rest) :=
        row.ends (ends_cons (by decide) (by decide) (by decide))
      have length : text.length = tail.length + 1 := by rw [split, List.length_cons]
      simp only [List.length_append] at enough
      have turned : listTurn first (lead ++ (text ++ (body ++ 0x5D :: rest))) =
          .ok (.item (text ++ (body ++ 0x5D :: rest))) := by
        rw [split]
        exact listTurn_lead leads dark notClosing
      have taken : readValue fuel depth (text ++ (body ++ 0x5D :: rest)) =
          .ok (item, body ++ 0x5D :: rest) :=
        values blank_nil spelt shallow ends (by omega)
      rw [List.append_assoc, List.append_assoc, readItems, turned]
      simp only [taken]
      rw [more row shallow' (by omega), List.reverse_cons, List.append_assoc, List.singleton_append]

theorem readsMembers_succ {fuel : Nat} (values : ReadsValues fuel) (more : ReadsMembers fuel) :
    ReadsMembers (fuel + 1) := by
  intro depth first held body members rest row shallow enough
  cases row with
  | ended blank =>
      rw [readMembers, objectTurn_closing blank]
      simp
  | @item _ lead octets body member members leads spelt row =>
      cases spelt with
      | @intro spelling before after text key value quoted blankBefore blankAfter spelt =>
          obtain ⟨shallow, shallow'⟩ := Nat.max_le.mp shallow
          have ends : Ends (body ++ 0x7D :: rest) :=
            row.ends (ends_cons (by decide) (by decide) (by decide))
          simp only [List.length_append, List.length_cons] at enough
          have named : string (spelling ++ (before ++ 0x3A :: (after ++ text ++ (body ++ 0x7D :: rest)))) =
              .ok (key, before ++ 0x3A :: (after ++ text ++ (body ++ 0x7D :: rest))) :=
            string_eq_ok_iff.mpr ⟨spelling, quoted, rfl⟩
          have divided : colon (before ++ 0x3A :: (after ++ text ++ (body ++ 0x7D :: rest))) =
              .ok (after ++ text ++ (body ++ 0x7D :: rest)) :=
            colon_eq_ok_iff.mpr ⟨before, blankBefore, rfl⟩
          have taken : readValue fuel depth (after ++ text ++ (body ++ 0x7D :: rest)) =
              .ok (value, body ++ 0x7D :: rest) :=
            values blankAfter spelt shallow ends (by omega)
          simp only [List.append_assoc, List.cons_append] at named divided taken ⊢
          rw [readMembers, objectTurn_lead leads]
          simp only [named, divided, taken]
          rw [more row shallow' (by omega), List.reverse_cons, List.append_assoc,
            List.singleton_append]

/-- The reader of values goes by the octet after the blanks. -/
theorem readValue_append {fuel depth : Nat} {octet : UInt8} (blank : Blank gap)
    (dark : isBlank octet = false) :
    readValue (fuel + 1) depth (gap ++ octet :: rest) = readValue (fuel + 1) depth (octet :: rest) := by
  rw [readValue, readValue, dropBlank_append blank dark, dropBlank_of_dark dark]

/-- A digit starts a number and nothing else. -/
theorem readValue_digit {fuel depth : Nat} {octet : UInt8} {value : Number} {after : List UInt8}
    (isDigit : Decimal.isDigit octet = true) (counted : number false (octet :: rest) = .ok (value, after)) :
    readValue (fuel + 1) depth (octet :: rest) = .ok (.number value, after) := by
  have other (letter : UInt8) (notDigit : Decimal.isDigit letter = false) : octet ≠ letter :=
    digit_ne isDigit notDigit
  rw [readValue, dropBlank_of_dark (digit_dark isDigit).1]
  simp only [other 0x6E (by decide), other 0x74 (by decide), other 0x66 (by decide),
    other 0x2D (by decide), isDigit, counted, if_true, if_false]

theorem readsValues_succ {fuel : Nat} (items : ReadsItems fuel) (members : ReadsMembers fuel) :
    ReadsValues (fuel + 1) := by
  intro depth gap text value rest blank spelt shallow ends enough
  have skipped : readValue (fuel + 1) depth (gap ++ text ++ rest) =
      readValue (fuel + 1) depth (text ++ rest) := by
    obtain ⟨octet, tail, rfl, dark, -⟩ := spelt.exists_head
    rw [List.append_assoc, List.cons_append, readValue_append blank dark]
  rw [skipped]
  cases spelt with
  | null => simp [readValue, dropBlank_of_dark, expectName, isBlank]
  | yes => simp [readValue, dropBlank_of_dark, expectName, isBlank]
  | no => simp [readValue, dropBlank_of_dark, expectName, isBlank]
  | @number numeral value denotes =>
      have counted := number_of_numeral numeral ends denotes
      by_cases negative : numeral.negative = true
      · rw [negative] at counted
        rw [Numeral.octets, if_pos negative]
        simp [readValue, dropBlank_of_dark, isBlank, counted]
      · rw [Bool.not_eq_true] at negative
        obtain ⟨octet, later, split⟩ := List.exists_cons_of_ne_nil numeral.areDigits.1
        have isDigit := numeral.areDigits.2 octet (by simp [split])
        rw [negative, Numeral.unsigned, split] at counted
        rw [Numeral.octets, negative, if_neg Bool.false_ne_true, Numeral.unsigned, split]
        exact readValue_digit isDigit counted
  | @string spelling text quoted =>
      have taken : string (spelling ++ rest) = .ok (text, rest) :=
        string_eq_ok_iff.mpr ⟨spelling, quoted, rfl⟩
      simp [readValue, dropBlank_of_dark, isBlank, Decimal.isDigit, taken]
  | @list body found row =>
      cases depth with
      | zero => exact absurd shallow (Nat.not_succ_le_zero _)
      | succ depth =>
          simp only [List.length_append, List.length_cons, List.length_nil] at enough
          have taken : readItems fuel depth true [] (body ++ 0x5D :: rest) = .ok (found, rest) :=
            items row (Nat.le_of_succ_le_succ shallow) (by omega)
          simp [readValue, dropBlank_of_dark, isBlank, Decimal.isDigit, taken]
  | @object body found row =>
      cases depth with
      | zero => exact absurd shallow (Nat.not_succ_le_zero _)
      | succ depth =>
          simp only [List.length_append, List.length_cons, List.length_nil] at enough
          have taken : readMembers fuel depth true [] (body ++ 0x7D :: rest) = .ok (found, rest) :=
            members row (Nat.le_of_succ_le_succ shallow) (by omega)
          simp [readValue, dropBlank_of_dark, isBlank, Decimal.isDigit, taken]

theorem reads_of_spelt (fuel : Nat) : ReadsValues fuel ∧ ReadsItems fuel ∧ ReadsMembers fuel := by
  induction fuel with
  | zero =>
      refine ⟨?_, ?_, ?_⟩
      · intro depth gap text value rest _ spelt _ _ enough
        obtain ⟨octet, tail, rfl, -⟩ := spelt.exists_head
        simp at enough
      · intro depth first held body items rest _ _ enough
        simp at enough
      · intro depth first held body members rest _ _ enough
        simp at enough
  | succ fuel ih =>
      obtain ⟨values, items, members⟩ := ih
      exact ⟨readsValues_succ items members, readsItems_succ values items,
        readsMembers_succ values members⟩

/-! ### Documents -/

/-- A document is read as a value exactly when the grammar makes it a document of that
value. -/
theorem read_eq_ok_iff {document : List UInt8} {value : Value} :
    read document = .ok value ↔ Document document value := by
  constructor
  · intro accepted
    rw [read] at accepted
    split at accepted
    · contradiction
    · rename_i rest taken
      split at accepted
      · contradiction
      · rename_i ended
        cases accepted
        obtain ⟨gap, text, blank, spelt, split, shallow⟩ := (spelt_of_read _).1 taken
        exact ⟨gap, text, rest, blank, spelt, documentEnd_eq_ok_iff.mp ended, split, shallow⟩
  · intro document
    obtain ⟨before, text, after, blankBefore, spelt, blankAfter, split, shallow⟩ := document
    have ends : Ends after := by
      simpa using ends_blank blankAfter ends_nil
    have enough : 2 * text.length ≤ 2 * document.length + 2 := by
      simp only [split, List.length_append]
      omega
    have taken : readValue (2 * document.length + 2) maxDepth document = .ok (value, after) := by
      rw [split] at enough ⊢
      exact (reads_of_spelt _).1 blankBefore spelt shallow ends enough
    rw [read, taken]
    simp only [documentEnd_eq_ok_iff.mpr blankAfter]

/-- A document spells one value only. -/
theorem Document.unique {document : List UInt8} {left right : Value} (first : Document document left)
    (second : Document document right) : left = right := by
  have same := (read_eq_ok_iff.mpr first).symm.trans (read_eq_ok_iff.mpr second)
  exact Except.ok.inj same

/-- Octets spell one value only, however deep it is nested. -/
theorem spells_unique {text : List UInt8} {value value' : Value} (spelt : Spells text value)
    (spelt' : Spells text value') : value = value' := by
  have first := (reads_of_spelt (2 * text.length)).1 blank_nil spelt (Nat.le_max_left value.nesting value'.nesting)
    ends_nil (Nat.le_refl _)
  have second := (reads_of_spelt (2 * text.length)).1 blank_nil spelt' (Nat.le_max_right value.nesting value'.nesting)
    ends_nil (Nat.le_refl _)
  rw [first, Except.ok.injEq, Prod.mk.injEq] at second
  exact second.1

end AuthBroker.Json
