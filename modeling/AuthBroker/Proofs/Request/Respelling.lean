import AuthBroker.Proofs.Request.Acceptance
import AuthBroker.Proofs.Request.Meaning

namespace AuthBroker.Request

open AuthBroker.Json

/-! Requests do not depend on their spelling.

An object is known by what its known members mean.  The members may stand in any order, between members of other
names and with any blanks, and their keys and values may be spelt in any way: the reader comes to the same request,
or to the same failure but for the diagnosis of a malformed payload.
-/

/-! ### Objects -/

/-- A member of a known name with what its value means, or a member of another name. -/
inductive Entry : List UInt8 → Option (Field × Meaning) → Prop
  | known {spelling before after text : List UInt8} {field : Field} {meaning : Meaning}
      (quoted : Quoted spelling field.key) (blankBefore : Blank before) (blankAfter : Blank after)
      (means : Means text meaning) : Entry (0x22 :: spelling ++ before ++ 0x3A :: after ++ text) (some (field, meaning))
  | unknown {spelling before after text : List UInt8} {key : String} (quoted : Quoted spelling key)
      (unknown : Field.ofKey? key = none) (blankBefore : Blank before) (blankAfter : Blank after)
      (value : Skippable .value text) : Entry (0x22 :: spelling ++ before ++ 0x3A :: after ++ text) none

/-- What the members of a field mean, in their order. -/
def meanings (entries : List (Option (Field × Meaning))) (field : Field) : List Meaning :=
  (entries.filterMap id).filterMap fun known => if known.1 = field then some known.2 else none

/-- A payload is an object between blanks, and each field is known once at most. -/
def Object (payload : List UInt8) (known : Field → Option Meaning) : Prop :=
  ∃ before body after entries, Blank before ∧ Row Entry true body entries ∧ Blank after ∧
    (∀ field, meanings entries field = (known field).toList) ∧ payload = before ++ 0x7B :: body ++ 0x7D :: after

/-- A list that is null counts as one that is absent. -/
def counted : Field → Option Meaning → Option Meaning
  | .arguments, some .null => none
  | .environment, some .null => none
  | _, known => known

/-- The record that the known members of an object ask for. -/
structure Asks (known : Field → Option Meaning) (wire : Wire) : Prop where
  name : counted .name (known .name) = some (.text wire.name)
  username : counted .username (known .username) = some (.text wire.username)
  password : counted .password (known .password) = some (.text wire.password)
  arguments : counted .arguments (known .arguments) = wire.arguments.map .list
  environment : counted .environment (known .environment) = wire.environment.map .list

/-- Two verdicts are the same, or both payloads are malformed. -/
inductive SameVerdict : Except ProtocolFailure Request → Except ProtocolFailure Request → Prop
  | same (verdict : Except ProtocolFailure Request) : SameVerdict verdict verdict
  | malformed (diagnosis diagnosis' : Diagnosis) :
      SameVerdict (.error (.malformed diagnosis)) (.error (.malformed diagnosis'))

variable {payload payload' body rest : List UInt8} {known known' : Field → Option Meaning} {wire : Wire} {field : Field}
  {meaning : Meaning} {entries : List (Option (Field × Meaning))} {before members : List (String × Given)}
  {first : Bool} {fuel : Nat} {draft : Draft}

/-! ### Members of entries -/

/-- What a member gives that stands for an entry. -/
inductive Fits : Option (Field × Meaning) → String × Given → Prop
  | known {field : Field} {meaning : Meaning} {given : Given} (fits : meaning.given? field = some given) :
      Fits (some (field, meaning)) (field.key, given)
  | unknown {key : String} (unknown : Field.ofKey? key = none) : Fits none (key, .ignored)

theorem meanings_cons_known (later : List (Option (Field × Meaning))) (field other : Field) (meaning : Meaning) :
    meanings (some (field, meaning) :: later) other = (if field = other then [meaning] else []) ++ meanings later other := by
  by_cases same : field = other <;> simp [meanings, same]

theorem meanings_cons_unknown (later : List (Option (Field × Meaning))) (field : Field) :
    meanings (none :: later) field = meanings later field := by
  rfl

/-- The members give what the entries mean. -/
theorem givenBy_of_fits (fits : List.Forall₂ Fits entries members) (field : Field) :
    (givenBy members field).map some = (meanings entries field).map (Meaning.given? field) := by
  induction fits with
  | nil => rfl
  | @cons _ _ entries members one _ ih =>
      cases one with
      | @known other meaning given fits =>
          rw [givenBy_cons, meanings_cons_known, List.map_append, List.map_append, ih]
          by_cases same : other = field
          · rw [if_pos (congrArg Field.key same), if_pos same, List.map_singleton, List.map_singleton, ← same, fits]
          · rw [if_neg fun key => same (key_injective key), if_neg same]
            rfl
      | @unknown key unknown =>
          have other : key ≠ field.key := by
            intro same
            rw [ofKey?_eq_some_iff.mpr same] at unknown
            contradiction
          rw [givenBy_cons, meanings_cons_unknown, if_neg other, List.nil_append, ih]

theorem row_of_entries (row : Row Entry first body entries)
    (fit : ∀ field meaning, meaning ∈ meanings entries field → (meaning.given? field).isSome) :
    ∃ members, Row Member first body members ∧ List.Forall₂ Fits entries members := by
  induction row with
  | ended blank => exact ⟨[], .ended blank, .nil⟩
  | item leads entry more ih =>
      cases entry with
      | @known spelling gap gap' text field meaning quoted blank blank' means =>
          have later (other : Field) (meaning' : Meaning) (member : meaning' ∈ meanings _ other) :
              (meaning'.given? other).isSome :=
            fit other meaning' (by rw [meanings_cons_known]; exact List.mem_append_right _ member)
          obtain ⟨members, row, fits⟩ := ih later
          have head := fit field meaning (by rw [meanings_cons_known, if_pos rfl]; exact List.mem_cons_self)
          obtain ⟨given, found⟩ := Option.isSome_iff_exists.mp head
          have gives : Gives (Field.ofKey? field.key) text given := by
            rw [ofKey?_eq_some_iff.mpr rfl]
            exact gives_of_given? means found
          exact ⟨_, .item leads (.intro quoted blank blank' gives) row, .cons (.known found) fits⟩
      | unknown quoted unknown blank blank' value =>
          obtain ⟨members, row, fits⟩ := ih fit
          exact ⟨_, .item leads (.intro quoted blank blank' (unknown ▸ .ignored value)) row, .cons (.unknown unknown) fits⟩

/-! ### Reading objects -/

/-- A reader that accepts has taken a member for each entry. -/
theorem fits_of_readMembers {after : List UInt8} (row : Row Entry first body entries) (holds : Holds before draft)
    (enough : body.length < fuel) (read : readMembers fuel first draft (body ++ 0x7D :: rest) = .ok (wire, after)) :
    ∃ members, List.Forall₂ Fits entries members ∧ Fills (before ++ members) wire ∧ after = rest := by
  induction row generalizing fuel draft before with
  | ended blank =>
      cases fuel with
      | zero => simp at enough
      | succ fuel =>
          rw [readMembers, objectTurn_closing blank] at read
          simp only at read
          split at read
          · rename_i finished
            cases read
            exact ⟨[], .nil, by rw [List.append_nil]; exact holds.finish.mp finished, rfl⟩
          · contradiction
  | @item first lead octets body entry entries leads spelt more ih =>
      cases fuel with
      | zero => simp at enough
      | succ fuel =>
          have ends : Ends (body ++ 0x7D :: rest) := more.ends (ends_cons (by decide) (by decide) (by decide))
          -- the turn, the key and the colon are read alike whatever the key
          have head (gap' text : List UInt8) {spelling gap : List UInt8} {key : String} (quoted : Quoted spelling key)
              (blank : Blank gap) :
              lead ++ (0x22 :: spelling ++ gap ++ 0x3A :: gap' ++ text) ++ body ++ 0x7D :: rest =
                lead ++ 0x22 :: (spelling ++ (gap ++ 0x3A :: (gap' ++ text ++ (body ++ 0x7D :: rest)))) ∧
              string (spelling ++ (gap ++ 0x3A :: (gap' ++ text ++ (body ++ 0x7D :: rest)))) =
                .ok (key, gap ++ 0x3A :: (gap' ++ text ++ (body ++ 0x7D :: rest))) ∧
              colon (gap ++ 0x3A :: (gap' ++ text ++ (body ++ 0x7D :: rest))) =
                .ok (gap' ++ text ++ (body ++ 0x7D :: rest)) :=
            ⟨by simp, string_eq_ok_iff.mpr ⟨spelling, quoted, rfl⟩, colon_eq_ok_iff.mpr ⟨gap, blank, rfl⟩⟩
          cases spelt with
          | @known spelling gap gap' text field meaning quoted blank blank' means =>
              obtain ⟨shape, named, divided⟩ := head gap' text quoted blank
              simp only [List.length_append, List.length_cons] at enough
              rw [shape, readMembers, objectTurn_lead leads] at read
              simp only [named, ofKey?_eq_some_iff.mpr (rfl : field.key = field.key), divided] at read
              split_ifs at read with repeated
              cases found : meaning.given? field with
              | none =>
                  obtain ⟨fault, failed⟩ := exists_readField_error draft blank' means found
                    (body ++ 0x7D :: rest)
                  simp only [failed] at read
                  contradiction
              | some given =>
                  simp only [readField_of_fits blank' means found] at read
                  have missing : draft.held field = [] := has_eq_false_iff.mp (by simpa using repeated)
                  obtain ⟨members, fits, fills, same⟩ :=
                    ih (holds.put (gives_of_given? means found) missing) (by omega) read
                  exact ⟨_, .cons (.known found) fits, by simpa using fills, same⟩
          | @unknown spelling gap gap' text key quoted unknown blank blank' value =>
              obtain ⟨shape, named, divided⟩ := head gap' text quoted blank
              simp only [List.length_append, List.length_cons] at enough
              have skipped : skip fuel (gap' ++ text ++ (body ++ 0x7D :: rest)) = .ok (body ++ 0x7D :: rest) :=
                skip_of_skippable blank' value ends (by omega)
              rw [shape, readMembers, objectTurn_lead leads] at read
              simp only [named, unknown, divided, skipped] at read
              obtain ⟨members, fits, fills, same⟩ := ih (holds.ignore unknown .ignored) (by omega) read
              exact ⟨_, .cons (.unknown unknown) fits, by simpa using fills, same⟩

theorem fits_of_readWire (row : Row Entry true body entries) {gap gap' : List UInt8} (blank : Blank gap)
    (read : readWire (gap ++ 0x7B :: body ++ 0x7D :: gap') = .ok wire) :
    ∃ members, List.Forall₂ Fits entries members ∧ Fills members wire := by
  rw [List.append_assoc, List.cons_append, readWire, dropBlank_append blank (by decide)] at read
  simp only [if_true] at read
  split at read
  · contradiction
  · rename_i taken
    split at read
    · contradiction
    · cases read
      obtain ⟨members, fits, fills, -⟩ := fits_of_readMembers row holds_empty (by simp) taken
      exact ⟨members, fits, fills⟩

/-! ### What is asked for -/

/-- The meaning of the one text or list that is given. -/
theorem fills_iff_asks (fits : List.Forall₂ Fits entries members)
    (once : ∀ field, meanings entries field = (known field).toList) : Fills members wire ↔ Asks known wire := by
  have given (field : Field) : (givenBy members field).map some = (known field).toList.map (Meaning.given? field) := by
    rw [givenBy_of_fits fits, once]
  have text {field : Field} {word : String} (isText : field.isList = false) :
      givenBy members field = [.text word] ↔ counted field (known field) = some (.text word) := by
    rw [← (List.map_injective_iff.mpr (Option.some_injective _)).eq_iff, given]
    cases field <;> first | contradiction | skip
    all_goals
      cases known _ with
      | none => simp [counted]
      | some meaning => cases meaning <;> simp [counted, Meaning.given?]
  have list {field : Field} {words : Option (List String)} (isList : field.isList = true) :
      (givenBy members field = [.list words] ∨ givenBy members field = [] ∧ words = none) ↔
        counted field (known field) = words.map .list := by
    rw [← (List.map_injective_iff.mpr (Option.some_injective _)).eq_iff,
      ← (List.map_injective_iff.mpr (Option.some_injective _)).eq_iff (b := []), given]
    cases field <;> first | contradiction | skip
    all_goals
      cases known _ with
      | none => cases words <;> simp [counted]
      | some meaning => cases meaning <;> cases words <;> simp [counted, Meaning.given?, eq_comm]
  constructor
  · intro fills
    exact ⟨(text rfl).mp fills.name, (text rfl).mp fills.username, (text rfl).mp fills.password,
      (list rfl).mp fills.arguments, (list rfl).mp fills.environment⟩
  · intro asks
    exact ⟨(text rfl).mpr asks.name, (text rfl).mpr asks.username, (text rfl).mpr asks.password,
      (list rfl).mpr asks.arguments, (list rfl).mpr asks.environment⟩

/-- Where a record is asked for, every value fits its field. -/
theorem Asks.isSome_given? (asks : Asks known wire) (found : known field = some meaning) :
    (meaning.given? field).isSome := by
  have list {field : Field} {words : Option (List String)} (isList : field.isList = true)
      (same : counted field (some meaning) = words.map .list) : meaning = .null ∨ ∃ texts, meaning = .list texts := by
    cases field <;> first | contradiction | skip
    all_goals cases meaning <;> cases words <;> simp_all [counted]
  cases field with
  | name =>
      have same := asks.name
      rw [found] at same
      cases same
      rfl
  | username =>
      have same := asks.username
      rw [found] at same
      cases same
      rfl
  | password =>
      have same := asks.password
      rw [found] at same
      cases same
      rfl
  | arguments =>
      have same := asks.arguments
      rw [found] at same
      rcases list rfl same with rfl | ⟨texts, rfl⟩ <;> rfl
  | environment =>
      have same := asks.environment
      rw [found] at same
      rcases list rfl same with rfl | ⟨texts, rfl⟩ <;> rfl

/-- An object is read as the record that its known members ask for. -/
theorem readWire_eq_ok_iff_asks (object : Object payload known) : readWire payload = .ok wire ↔ Asks known wire := by
  obtain ⟨gap, body, gap', entries, blank, row, blank', once, rfl⟩ := object
  constructor
  · intro read
    obtain ⟨members, fits, fills⟩ := fits_of_readWire row blank read
    exact (fills_iff_asks fits once).mp fills
  · intro asks
    have fit (field : Field) (meaning : Meaning) (member : meaning ∈ meanings entries field) :
        (meaning.given? field).isSome := by
      rw [once, Option.mem_toList] at member
      exact asks.isSome_given? member
    obtain ⟨members, members', fits⟩ := row_of_entries row fit
    refine readWire_eq_ok_iff.mpr ⟨gap, _, gap', blank, .object members' ((fills_iff_asks fits once).mpr asks), blank', ?_⟩
    simp

theorem Asks.congr (same : ∀ field, counted field (known field) = counted field (known' field)) :
    Asks known wire ↔ Asks known' wire := by
  constructor
  · rintro ⟨name, username, password, arguments, environment⟩
    rw [same] at name username password arguments environment
    exact ⟨name, username, password, arguments, environment⟩
  · rintro ⟨name, username, password, arguments, environment⟩
    rw [← same] at name username password arguments environment
    exact ⟨name, username, password, arguments, environment⟩

/-- The verdict on an object depends on what its known members mean, a null list counting as none.  What a value
means is settled by the value, and everything that may stand as one means something. -/
theorem decode_respelt :
    (∀ {payload payload' known known'}, Object payload known → Object payload' known' →
      (∀ field, counted field (known field) = counted field (known' field)) →
        SameVerdict (decode payload) (decode payload')) ∧
    (∀ {octets value meaning}, Spells octets value → (Means octets meaning ↔ meaning = Meaning.ofValue value)) ∧
    ∀ {octets}, Skippable .value octets → ∃! meaning, Means octets meaning := by
  refine ⟨fun {payload payload' known known'} object object' same => ?_, means_iff, existsUnique_means⟩
  have agree (wire : Wire) : readWire payload = .ok wire ↔ readWire payload' = .ok wire := by
    rw [readWire_eq_ok_iff_asks object, readWire_eq_ok_iff_asks object']
    exact Asks.congr same
  rw [decode, decode]
  cases read : readWire payload with
  | ok wire =>
      rw [(agree wire).mp read]
      exact .same _
  | error fault =>
      cases read' : readWire payload' with
      | ok wire =>
          rw [(agree wire).mpr read'] at read
          contradiction
      | error fault' => exact .malformed _ _

/-- A probe, and the same with escapes, a note and a null list, in another order. -/
theorem decode_respelt_probe : SameVerdict
    (decode (Text.Utf8.bytes "\x7b\"name\":\"AuthOnly\",\"username\":\"al\",\"password\":\"pw\"\x7d"))
    (decode (Text.Utf8.bytes (" \x7b\"note\":[\x7b\x7d],\"passw\\u006frd\":\"p\\u0077\",\"username\": \"al\"," ++
      "\"arguments\":null,\"name\":\"AuthOnly\"\x7d"))) := by
  let known : Field → Option Meaning
    | .name => some (.text "AuthOnly")
    | .username => some (.text "al")
    | .password => some (.text "pw")
    | _ => none
  let known' : Field → Option Meaning
    | .arguments => some .null
    | field => known field
  have text {spelling : List UInt8} {word : String} (quoted : Quoted spelling word) :
      Means (0x22 :: spelling) (.text word) := .inl (.text ⟨_, quoted, rfl⟩)
  have comma : Lead false [0x2C] := .comma blank_nil blank_nil
  have space : Blank [0x20] := by simp [Blank, isBlank]
  have note : Skippable .value [0x5B, 0x7B, 0x7D, 0x5D] :=
    @Skippable.bracketed .list _ (.item (.first blank_nil) .unlabelled
      (@Skippable.bracketed .object _ (.ended blank_nil)) (.ended blank_nil))
  have name : Quoted (Text.Utf8.bytes "name\"") Field.name.key := quoted_of_string (by decide +kernel)
  have username : Quoted (Text.Utf8.bytes "username\"") Field.username.key := quoted_of_string (by decide +kernel)
  have password : Quoted (Text.Utf8.bytes "password\"") Field.password.key := quoted_of_string (by decide +kernel)
  have password' : Quoted (Text.Utf8.bytes "passw\\u006frd\"") Field.password.key := quoted_of_string (by decide +kernel)
  have arguments : Quoted (Text.Utf8.bytes "arguments\"") Field.arguments.key := quoted_of_string (by decide +kernel)
  have noted : Quoted (Text.Utf8.bytes "note\"") "note" := quoted_of_string (by decide +kernel)
  have authOnly : Quoted (Text.Utf8.bytes "AuthOnly\"") "AuthOnly" := quoted_of_string (by decide +kernel)
  have al : Quoted (Text.Utf8.bytes "al\"") "al" := quoted_of_string (by decide +kernel)
  have pw : Quoted (Text.Utf8.bytes "pw\"") "pw" := quoted_of_string (by decide +kernel)
  have pw' : Quoted (Text.Utf8.bytes "p\\u0077\"") "pw" := quoted_of_string (by decide +kernel)
  have object : Object (Text.Utf8.bytes "\x7b\"name\":\"AuthOnly\",\"username\":\"al\",\"password\":\"pw\"\x7d") known :=
    ⟨[], _, [], _, blank_nil, .item (.first blank_nil) (.known name blank_nil blank_nil (text authOnly))
      (.item comma (.known username blank_nil blank_nil (text al))
      (.item comma (.known password blank_nil blank_nil (text pw)) (.ended blank_nil))), blank_nil,
      fun field => by cases field <;> rfl, by decide +kernel⟩
  have object' : Object (Text.Utf8.bytes (" \x7b\"note\":[\x7b\x7d],\"passw\\u006frd\":\"p\\u0077\"," ++
      "\"username\": \"al\",\"arguments\":null,\"name\":\"AuthOnly\"\x7d")) known' :=
    ⟨[0x20], _, [], _, space, .item (.first blank_nil) (.unknown noted rfl blank_nil blank_nil note)
      (.item comma (.known password' blank_nil blank_nil (text pw'))
      (.item comma (.known username blank_nil space (text al))
      (.item comma (.known arguments blank_nil blank_nil (.inl .null))
      (.item comma (.known name blank_nil blank_nil (text authOnly)) (.ended blank_nil))))), blank_nil,
      fun field => by cases field <;> rfl, by decide +kernel⟩
  exact decode_respelt.1 object object' fun field => by cases field <;> rfl

end AuthBroker.Request
