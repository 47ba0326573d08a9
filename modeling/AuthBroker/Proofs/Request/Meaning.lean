import AuthBroker.Proofs.Request.Grammar

namespace AuthBroker.Request

open AuthBroker.Json

/-! What the values of members mean.

To the reader of a request a value is a text, a list of texts or null, or else something that no field can be given.
The meaning of a value does not depend on its spelling: values that spell the same document mean the same.
-/

/-- What a value is to the reader of a request. -/
inductive Meaning
  | text (text : String)
  | list (texts : List String)
  | null
  /-- Any other value. -/
  | other

namespace Meaning

/-- The texts that a list consists of, if all of its items are texts. -/
def texts? : List Value → Option (List String)
  | [] => some []
  | .string word :: items => (texts? items).map (word :: ·)
  | _ :: _ => none

def ofValue : Value → Meaning
  | .string word => .text word
  | .null => .null
  | .array items => ((texts? items).map .list).getD .other
  | _ => .other

/-- What a field is given by a value of this meaning, if it can be given one. -/
def given? : Field → Meaning → Option Given
  | .arguments, .list words => some (.list (some words))
  | .arguments, .null => some (.list none)
  | .environment, .list words => some (.list (some words))
  | .environment, .null => some (.list none)
  | .name, .text word => some (.text word)
  | .username, .text word => some (.text word)
  | .password, .text word => some (.text word)
  | _, _ => none

end Meaning

/-- The spellings of the values that a field can be given. -/
inductive Plain : List UInt8 → Meaning → Prop
  | text {octets : List UInt8} {text : String} (spelt : SpellsText octets text) : Plain octets (.text text)
  | list {body : List UInt8} {texts : List String} (row : Row SpellsText true body texts) :
      Plain (0x5B :: body ++ [0x5D]) (.list texts)
  | null : Plain [0x6E, 0x75, 0x6C, 0x6C] .null

/-- What a value means by its spelling. -/
def Means (octets : List UInt8) (meaning : Meaning) : Prop :=
  Plain octets meaning ∨ meaning = .other ∧ Skippable .value octets ∧ ∀ plain, ¬ Plain octets plain

variable {octets text rest body : List UInt8} {meaning meaning' : Meaning} {value : Value} {items : List Value}
  {texts : List String} {first : Bool} {field : Field} {given : Given}

/-! ### One value, one meaning -/

theorem texts?_map (texts : List String) : Meaning.texts? (texts.map .string) = some texts := by
  induction texts with
  | nil => rfl
  | cons text texts ih =>
      rw [List.map_cons, Meaning.texts?, ih]
      rfl

theorem eq_map_of_texts? (found : Meaning.texts? items = some texts) : items = texts.map .string := by
  induction items generalizing texts with
  | nil =>
      cases found
      rfl
  | cons item items ih =>
      cases item with
      | string text =>
          obtain ⟨later, found', rfl⟩ := Option.map_eq_some_iff.mp found
          rw [ih found']
          rfl
      | _ => contradiction

theorem row_strings_of_texts (row : Row SpellsText first body texts) : Row Spells first body (texts.map .string) := by
  induction row with
  | ended blank => exact .ended blank
  | item leads spelt more ih =>
      obtain ⟨spelling, quoted, rfl⟩ := spelt
      exact .item leads (.string quoted) ih

theorem row_texts_of_strings (row : Row Spells first body (texts.map .string)) : Row SpellsText first body texts := by
  generalize shape : texts.map Value.string = items at row
  induction row generalizing texts with
  | ended blank =>
      obtain rfl := List.map_eq_nil_iff.mp shape
      exact .ended blank
  | item leads spelt more ih =>
      obtain ⟨text, texts, rfl, rfl, rfl⟩ := List.map_eq_cons_iff.mp shape
      cases spelt with
      | string quoted => exact .item leads ⟨_, quoted, rfl⟩ (ih rfl)

theorem Plain.exists_value (plain : Plain text meaning) :
    ∃ value, Spells text value ∧ Meaning.ofValue value = meaning := by
  cases plain with
  | text spelt =>
      obtain ⟨spelling, quoted, rfl⟩ := spelt
      exact ⟨_, .string quoted, rfl⟩
  | list row =>
      refine ⟨_, .list (row_strings_of_texts row), ?_⟩
      rw [Meaning.ofValue, texts?_map]
      rfl
  | null => exact ⟨_, .null, rfl⟩

theorem plain_of_spells (spelt : Spells text value) (known : Meaning.ofValue value ≠ .other) :
    Plain text (Meaning.ofValue value) := by
  cases spelt with
  | null => exact .null
  | string quoted => exact .text ⟨_, quoted, rfl⟩
  | @list body items row =>
      rw [Meaning.ofValue] at known ⊢
      cases found : Meaning.texts? items with
      | none =>
          rw [found] at known
          exact absurd rfl known
      | some texts =>
          rw [eq_map_of_texts? found] at row
          exact .list (row_texts_of_strings row)
  | _ => exact absurd rfl known

/-- The meaning of a value is settled by the value. -/
theorem eq_ofValue (spelt : Spells text value) (means : Means text meaning) : meaning = Meaning.ofValue value := by
  rcases means with plain | ⟨rfl, -, unknown⟩
  · obtain ⟨value', spelt', rfl⟩ := plain.exists_value
    rw [spells_unique spelt spelt']
  · by_contra different
    exact unknown _ (plain_of_spells spelt (Ne.symm different))

theorem Plain.unique (plain : Plain text meaning) (means : Means text meaning') : meaning' = meaning := by
  obtain ⟨value, spelt, rfl⟩ := plain.exists_value
  exact eq_ofValue spelt means

/-- A value means what it is. -/
theorem means_iff (spelt : Spells text value) : Means text meaning ↔ meaning = Meaning.ofValue value := by
  constructor
  · exact eq_ofValue spelt
  · rintro rfl
    by_cases known : Meaning.ofValue value = .other
    · refine .inr ⟨known, skippable_of_spells spelt, fun meaning plain => ?_⟩
      have same := eq_ofValue spelt (.inl plain)
      rw [known] at same
      rw [same] at plain
      contradiction
    · exact .inl (plain_of_spells spelt known)

/-- Whatever can be passed over has one meaning. -/
theorem existsUnique_means (value : Skippable .value text) : ∃! meaning, Means text meaning := by
  by_cases known : ∃ meaning, Plain text meaning
  · obtain ⟨meaning, plain⟩ := known
    exact ⟨meaning, .inl plain, fun meaning' means => plain.unique means⟩
  · have unknown := not_exists.mp known
    refine ⟨.other, .inr ⟨rfl, value, unknown⟩, fun meaning' means => ?_⟩
    rcases means with plain | ⟨same, -⟩
    · exact absurd plain (unknown meaning')
    · exact same

/-! ### One place, one value -/

theorem SpellsText.skippable {word : String} (spelt : SpellsText octets word) : Skippable .value octets := by
  obtain ⟨spelling, quoted, rfl⟩ := spelt
  exact skippable_of_quoted quoted

theorem skippable_of_texts (row : Row SpellsText first body texts) : Skippable (.inside .list first) body :=
  skippable_of_row row fun {text _} spelt _ => ⟨[], text, .unlabelled, spelt.skippable, rfl⟩

theorem Plain.skippable (plain : Plain octets meaning) : Skippable .value octets := by
  cases plain with
  | text spelt => exact spelt.skippable
  | list row => exact @Skippable.bracketed .list _ (skippable_of_texts row)
  | null => exact .null

theorem Means.skippable (means : Means octets meaning) : Skippable .value octets := by
  rcases means with plain | ⟨-, value, -⟩
  · exact plain.skippable
  · exact value

/-- Where a value stands that a field can be given, no other value stands. -/
theorem Plain.eq_of_skippable {text' rest' : List UInt8} (plain : Plain text' meaning) (value : Skippable .value text)
    (same : text ++ rest = text' ++ rest') : text = text' := by
  suffices rest = rest' by
    rw [this] at same
    exact List.append_cancel_right same
  obtain ⟨octet, tail, rfl, -⟩ := value.exists_head
  cases plain with
  | text spelt =>
      obtain ⟨_, ⟨body', content', rfl⟩, rfl⟩ := spelt
      obtain ⟨rfl, tails⟩ := List.cons_eq_cons.mp same
      obtain ⟨-, body, content, rfl⟩ | ⟨other, -⟩ | ⟨other, -⟩ | other := value.kind
      · have one := skipString_of_content content (0 :: body ++ body') rest (by simp)
        have two := skipString_of_content (looseContent_of_content content') (0 :: body ++ body') rest' (by simp)
        simp only [List.append_eq, List.append_assoc, List.singleton_append] at tails
        rw [tails, two, Except.ok.injEq] at one
        exact one.symm
      all_goals exact absurd other (by decide)
  | list row =>
      obtain ⟨rfl, tails⟩ := List.cons_eq_cons.mp same
      obtain ⟨other, -⟩ | ⟨other, -⟩ | ⟨-, body, items, rfl⟩ | other := value.kind
      · exact absurd other (by decide)
      · exact absurd other (by decide)
      · simp only [List.append_eq, List.append_assoc, List.singleton_append] at tails
        exact inside_unique items (skippable_of_texts row) tails
      · exact absurd other (by decide)
  | null =>
      obtain ⟨rfl, tails⟩ := List.cons_eq_cons.mp same
      obtain ⟨other, -⟩ | ⟨-, rfl⟩ | ⟨other, -⟩ | other := value.kind
      · exact absurd other (by decide)
      · exact List.append_cancel_left tails
      all_goals exact absurd other (by decide)

/-! ### What a field is given -/

theorem gives_of_given? (means : Means text meaning) (fits : meaning.given? field = some given) :
    Gives (some field) text given := by
  rcases means with plain | ⟨rfl, -⟩
  · cases plain with
    | text spelt => cases field <;> cases fits <;> exact .text rfl spelt
    | list row => cases field <;> cases fits <;> exact .list rfl (.list row)
    | null => cases field <;> cases fits <;> exact .list rfl .null
  · cases field <;> cases fits

theorem plain_of_gives (gives : Gives (some field) text given) :
    ∃ meaning, Plain text meaning ∧ meaning.given? field = some given := by
  cases gives with
  | @text _ _ word isText spelt =>
      refine ⟨.text word, .text spelt, ?_⟩
      cases field <;> first | contradiction | rfl
  | @list _ _ texts isList spelt =>
      cases spelt with
      | null =>
          refine ⟨.null, .null, ?_⟩
          cases field <;> first | contradiction | rfl
      | @list body words row =>
          refine ⟨.list words, .list row, ?_⟩
          cases field <;> first | contradiction | rfl

variable {gap : List UInt8} {draft : Draft}

/-- A field takes a value by its meaning. -/
theorem readField_of_fits (blank : Blank gap) (means : Means text meaning) (fits : meaning.given? field = some given)
    (rest : List UInt8) : draft.readField field (gap ++ text ++ rest) = .ok (draft.put field given, rest) :=
  readField_eq_ok_iff.mpr ⟨gap, text, given, blank, gives_of_given? means fits, rfl, rfl⟩

theorem exists_readField_error (draft : Draft) (blank : Blank gap) (means : Means text meaning)
    (unfit : meaning.given? field = none) (rest : List UInt8) :
    ∃ fault, draft.readField field (gap ++ text ++ rest) = .error fault := by
  cases read : draft.readField field (gap ++ text ++ rest) with
  | error fault => exact ⟨fault, rfl⟩
  | ok found =>
      -- the value taken would be the one that stands here
      obtain ⟨gap', text', given, blank', gives, split, -⟩ := readField_eq_ok_iff.mp read
      obtain ⟨meaning', plain, fits⟩ := plain_of_gives gives
      obtain ⟨octet, tail, head, dark, -⟩ := means.skippable.exists_head
      obtain ⟨octet', tail', head', dark', -⟩ := plain.skippable.exists_head
      have same : text ++ rest = text' ++ found.2 := by
        have dropped := congrArg dropBlank split
        rw [head, head'] at dropped ⊢
        simpa only [List.append_assoc, List.cons_append, dropBlank_append blank dark,
          dropBlank_append blank' dark'] using dropped
      obtain rfl := plain.eq_of_skippable means.skippable same
      rw [plain.unique means, fits] at unfit
      contradiction

end AuthBroker.Request
