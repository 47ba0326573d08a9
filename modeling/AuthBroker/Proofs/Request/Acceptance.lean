import AuthBroker.Proofs.Request.Grammar
import AuthBroker.Proofs.Request.RoundTrip

namespace AuthBroker.Request

open AuthBroker.Json

/-! Which payloads are requests.

The reader of a record keeps a draft that holds what the members so far give.  It accepts the records of the
grammar, and from there a request follows by the name of the message.
-/

variable {octets rest body payload : List UInt8} {first : Bool} {fuel index : Nat} {field : Field} {fields : List Field}
  {draft : Draft} {given : Given} {before members : List (String × Given)} {items : List (Field × Given)} {wire : Wire}

/-! ### Objects -/

theorem row_of_readMembers (read : readMembers fuel first draft octets = .ok (wire, rest)) (holds : Holds before draft) :
    ∃ body members, Row Member first body members ∧ Fills (before ++ members) wire ∧ octets = body ++ 0x7D :: rest := by
  induction fuel generalizing first draft octets before with
  | zero => simp [readMembers] at read
  | succ fuel ih =>
      rw [readMembers] at read
      split at read
      · contradiction
      · rename_i turned
        split at read
        · rename_i finished
          cases read
          obtain ⟨gap, blank, split⟩ := objectTurn_eq_close turned
          exact ⟨gap, [], .ended blank, by rw [List.append_nil]; exact holds.finish.mp finished, split⟩
        · contradiction
      · rename_i turned
        obtain ⟨lead, leads, rfl⟩ := objectTurn_eq_item turned
        split at read
        · contradiction
        · rename_i key after named
          obtain ⟨spelling, quoted, rfl⟩ := string_eq_ok_iff.mp named
          -- a field and a member of another name go on alike once the value is read
          have member {gap gap' text after : List UInt8} {given : Given} {draft : Draft} (blank : Blank gap)
              (blank' : Blank gap') (gives : Gives (Field.ofKey? key) text given)
              (holds : Holds (before ++ [(key, given)]) draft)
              (read : readMembers fuel false draft after = .ok (wire, rest)) :
              ∃ body members, Row Member first body members ∧ Fills (before ++ members) wire ∧
                lead ++ 0x22 :: (spelling ++ (gap ++ 0x3A :: (gap' ++ text ++ after))) = body ++ 0x7D :: rest := by
            obtain ⟨body, members, row, fills, rfl⟩ := ih read holds
            rw [List.append_assoc] at fills
            exact ⟨_, _, .item leads (.intro quoted blank blank' gives) row, fills, by simp⟩
          split at read
          · rename_i unknown
            split at read
            · contradiction
            · rename_i divided
              obtain ⟨gap, blank, rfl⟩ := colon_eq_ok_iff.mp divided
              split at read
              · contradiction
              · rename_i skipped
                obtain ⟨gap', text, blank', value, rfl⟩ := skippable_of_skip skipped
                rw [unknown] at member
                exact member blank blank' (.ignored value) (holds.ignore unknown _) read
          · rename_i field known
            split_ifs at read with repeated
            split at read
            · contradiction
            · rename_i divided
              obtain ⟨gap, blank, rfl⟩ := colon_eq_ok_iff.mp divided
              split at read
              · contradiction
              · rename_i taken
                obtain ⟨gap', text, given, blank', gives, rfl, rfl⟩ := readField_eq_ok_iff.mp taken
                have missing : draft.held field = [] := has_eq_false_iff.mp (by simpa using repeated)
                have put := holds.put gives missing
                rw [← ofKey?_eq_some_iff.mp known] at put
                rw [known] at member
                exact member blank blank' gives put read

theorem readMembers_of_row (row : Row Member first body members) (holds : Holds before draft)
    (fills : Fills (before ++ members) wire) (rest : List UInt8) (enough : body.length < fuel) :
    readMembers fuel first draft (body ++ 0x7D :: rest) = .ok (wire, rest) := by
  induction row generalizing fuel draft before with
  | ended blank =>
      cases fuel with
      | zero => simp at enough
      | succ fuel =>
          rw [List.append_nil] at fills
          rw [readMembers, objectTurn_closing blank]
          simp only [holds.finish.mpr fills]
  | @item first lead octets body member members leads spelt more ih =>
      cases fuel with
      | zero => simp at enough
      | succ fuel =>
          cases spelt with
          | @intro spelling gap gap' text key given quoted blank blank' gives =>
              have ends : Ends (body ++ 0x7D :: rest) := more.ends (ends_cons (by decide) (by decide) (by decide))
              have named : string (spelling ++ (gap ++ 0x3A :: (gap' ++ text ++ (body ++ 0x7D :: rest)))) =
                  .ok (key, gap ++ 0x3A :: (gap' ++ text ++ (body ++ 0x7D :: rest))) :=
                string_eq_ok_iff.mpr ⟨spelling, quoted, rfl⟩
              have divided : colon (gap ++ 0x3A :: (gap' ++ text ++ (body ++ 0x7D :: rest))) =
                  .ok (gap' ++ text ++ (body ++ 0x7D :: rest)) := colon_eq_ok_iff.mpr ⟨gap, blank, rfl⟩
              have shape : lead ++ (0x22 :: spelling ++ gap ++ 0x3A :: gap' ++ text) ++ body ++ 0x7D :: rest =
                  lead ++ 0x22 :: (spelling ++ (gap ++ 0x3A :: (gap' ++ text ++ (body ++ 0x7D :: rest)))) := by simp
              have fills' : Fills ((before ++ [(key, given)]) ++ members) wire := by simpa using fills
              simp only [List.length_append, List.length_cons] at enough
              rw [shape, readMembers, objectTurn_lead leads]
              simp only [named]
              cases known : Field.ofKey? key with
              | none =>
                  rw [known] at gives
                  cases gives with
                  | ignored value =>
                      have skipped : skip fuel (gap' ++ text ++ (body ++ 0x7D :: rest)) = .ok (body ++ 0x7D :: rest) :=
                        skip_of_skippable blank' value ends (by omega)
                      simp only [divided, skipped]
                      exact ih (holds.ignore known _) fills' (by omega)
              | some field =>
                  rw [known] at gives
                  obtain rfl := ofKey?_eq_some_iff.mp known
                  -- the row gives no field twice, so none of the members before gave this one
                  have missing : draft.held field = [] := holds.missing fills
                  have taken : draft.readField field (gap' ++ text ++ (body ++ 0x7D :: rest)) =
                      .ok (draft.put field given, body ++ 0x7D :: rest) :=
                    readField_eq_ok_iff.mpr ⟨gap', text, given, blank', gives, rfl, rfl⟩
                  simp only [has_eq_false_iff.mpr missing, Bool.false_eq_true, if_false, divided, taken]
                  exact ih (holds.put gives missing) fills' (by omega)

/-! ### Lists -/

theorem listEnd_eq_ok_iff : listEnd octets = .ok rest ↔ ∃ gap, Blank gap ∧ octets = gap ++ 0x5D :: rest := by
  constructor
  · intro ended
    rcases blank_or_dark octets with ⟨-, shape⟩ | ⟨gap, octet, later, blank, -, split, shape⟩
    · simp [listEnd, shape] at ended
    · simp only [listEnd, shape] at ended
      split_ifs at ended with isClosing
      · cases ended
        exact ⟨gap, blank, isClosing ▸ split⟩
      · split at ended
        · split_ifs at ended
        · contradiction
  · intro shaped
    obtain ⟨gap, blank, rfl⟩ := shaped
    rw [listEnd, dropBlank_append blank (by decide)]
    simp

theorem Gives.exists_head {text : List UInt8} (gives : Gives (some field) text given) :
    ∃ octet tail, text = octet :: tail ∧ isBlank octet = false ∧ octet ≠ 0x5D := by
  cases gives with
  | text _ spells =>
      obtain ⟨spelling, -, rfl⟩ := spells
      exact ⟨_, _, rfl, by decide, by decide⟩
  | list _ spells =>
      cases spells with
      | null => exact ⟨_, _, rfl, by decide, by decide⟩
      | list _ => exact ⟨_, _, rfl, by decide, by decide⟩

theorem row_of_readItems (read : readItems index draft octets fields = .ok (wire, rest)) (holds : Holds before draft)
    (distinct : fields.Nodup) (fresh : ∀ field ∈ fields, draft.held field = []) :
    ∃ body items, Row Item (index == 0) body items ∧ items.map Prod.fst <+: fields ∧
      Fills (before ++ items.map asMember) wire ∧ octets = body ++ 0x5D :: rest := by
  induction fields generalizing index draft octets before with
  | nil =>
      rw [readItems] at read
      split at read
      · contradiction
      · rename_i ended
        split at read
        · rename_i finished
          cases read
          obtain ⟨gap, blank, split⟩ := listEnd_eq_ok_iff.mp ended
          exact ⟨gap, [], .ended blank, List.nil_prefix, by simpa using holds.finish.mp finished, split⟩
        · contradiction
  | cons field fields ih =>
      rw [readItems] at read
      split at read
      · contradiction
      · rename_i turned
        split at read
        · rename_i finished
          cases read
          obtain ⟨gap, blank, split⟩ := listTurn_eq_close turned
          exact ⟨gap, [], .ended blank, List.nil_prefix, by simpa using holds.finish.mp finished, split⟩
        · contradiction
      · rename_i turned
        obtain ⟨lead, leads, rfl⟩ := listTurn_eq_item turned
        split at read
        · contradiction
        · rename_i taken
          obtain ⟨gap, text, given, blank, gives, rfl, rfl⟩ := readField_eq_ok_iff.mp taken
          obtain ⟨notLater, distinct⟩ := List.nodup_cons.mp distinct
          have fresh' : ∀ other ∈ fields, (draft.put field given).held other = [] := by
            intro other member
            have different : other ≠ field := fun same => notLater (same ▸ member)
            rw [held_put gives, if_neg different]
            exact fresh other (List.mem_cons_of_mem _ member)
          obtain ⟨body, items, row, ordered, fills, rfl⟩ :=
            ih read (holds.put gives (fresh field List.mem_cons_self)) distinct fresh'
          refine ⟨_, (field, given) :: items, .item (leads.append blank) gives row, ?_, by simpa [asMember] using fills, ?_⟩
          · rw [List.map_cons]
            exact (List.prefix_cons_inj field).mpr ordered
          · simp only [List.append_assoc]

theorem readItems_of_row (row : Row Item (index == 0) body items) (ordered : items.map Prod.fst <+: fields)
    (holds : Holds before draft) (fills : Fills (before ++ items.map asMember) wire) (rest : List UInt8) :
    readItems index draft (body ++ 0x5D :: rest) fields = .ok (wire, rest) := by
  induction fields generalizing index draft body items before with
  | nil =>
      cases row with
      | ended blank =>
          rw [List.map_nil, List.append_nil] at fills
          rw [readItems, listEnd_eq_ok_iff.mpr ⟨_, blank, rfl⟩]
          simp only [holds.finish.mpr fills]
      | item _ _ _ => simp at ordered
  | cons field fields ih =>
      cases row with
      | ended blank =>
          rw [List.map_nil, List.append_nil] at fills
          rw [readItems, listTurn_closing blank]
          simp only [holds.finish.mpr fills]
      | @item _ lead text body item items leads gives more =>
          obtain ⟨field', given⟩ := item
          obtain ⟨same, ordered'⟩ := List.cons_prefix_cons.mp ordered
          obtain rfl : field' = field := same
          obtain ⟨octet, tail, split, dark, notClosing⟩ := gives.exists_head
          have turned : listTurn (index == 0) (lead ++ (text ++ (body ++ 0x5D :: rest))) =
              .ok (.item (text ++ (body ++ 0x5D :: rest))) := by
            rw [split]
            exact listTurn_lead leads dark notClosing
          have taken : draft.readField field' (text ++ (body ++ 0x5D :: rest)) =
              .ok (draft.put field' given, body ++ 0x5D :: rest) :=
            readField_eq_ok_iff.mpr ⟨[], text, given, blank_nil, gives, rfl, rfl⟩
          have fills' : Fills ((before ++ [(field'.key, given)]) ++ items.map asMember) wire := by
            simpa [asMember] using fills
          rw [List.append_assoc, List.append_assoc, readItems, turned]
          simp only [taken]
          exact ih more ordered' (holds.put gives (holds.missing fills)) fills'

/-! ### Documents -/

theorem readWire_eq_ok_iff : readWire payload = .ok wire ↔ Document payload wire := by
  constructor
  · intro accepted
    rw [readWire] at accepted
    rcases blank_or_dark payload with ⟨-, shape⟩ | ⟨gap, octet, later, blank, -, rfl, shape⟩
    · simp [shape] at accepted
    · have document {text rest : List UInt8} (record : Record text wire) (split : octet :: later = text ++ rest)
          (ended : documentEnd rest = .ok ()) : Document (gap ++ octet :: later) wire :=
        ⟨gap, text, rest, blank, record, documentEnd_eq_ok_iff.mp ended, by rw [split, List.append_assoc]⟩
      simp only [shape] at accepted
      split at accepted
      · contradiction
      · rename_i taken
        split at accepted
        · contradiction
        · rename_i ended
          cases accepted
          split_ifs at taken with isObject isList
          · obtain ⟨body, members, row, fills, rfl⟩ := row_of_readMembers taken holds_empty
            exact document (.object row fills) (by simp [isObject]) ended
          · obtain ⟨body, items, row, ordered, fills, rfl⟩ :=
              row_of_readItems taken holds_empty (by decide) (by decide)
            exact document (.list row ordered fills) (by simp [isList]) ended
  · intro document
    obtain ⟨gap, text, after, blank, record, blank', rfl⟩ := document
    have ended := documentEnd_eq_ok_iff.mpr blank'
    cases record with
    | @object body members _ row fills =>
        have taken : readMembers ((body ++ 0x7D :: after).length + 1) true .empty (body ++ 0x7D :: after) =
            .ok (wire, after) := readMembers_of_row row holds_empty fills after (by simp)
        have shape : gap ++ (0x7B :: body ++ [0x7D]) ++ after = gap ++ 0x7B :: (body ++ 0x7D :: after) := by simp
        rw [shape, readWire, dropBlank_append blank (by decide)]
        simp only [if_true, taken, ended]
    | @list body items _ row ordered fills =>
        have taken : readItems 0 .empty (body ++ 0x5D :: after) Field.all = .ok (wire, after) :=
          readItems_of_row (show Row Item ((0 : Nat) == 0) body items from row) ordered holds_empty fills after
        have shape : gap ++ (0x5B :: body ++ [0x5D]) ++ after = gap ++ 0x5B :: (body ++ 0x5D :: after) := by simp
        have notObject : (0x5B : UInt8) ≠ 0x7B := by decide
        rw [shape, readWire, dropBlank_append blank (by decide)]
        simp only [notObject, if_true, if_false, taken, ended]

/-! ### Requests -/

/-- An entry of the environment is a name that is not empty, an equals sign and a value. -/
def Sets (entry : String) (setting : String × String) : Prop :=
  Splits entry setting.1 setting.2 ∧ setting.1 ≠ ""

/-- The request that a record asks for.  Of the settings of one name the last one counts. -/
inductive Denotes (wire : Wire) : Request → Prop
  | probe (named : wire.name = probeName) : Denotes wire (.probe wire.username ⟨wire.password⟩)
  | run {arguments entries : List String} {settings : List (String × String)} {environment : Environment}
      (named : wire.name = runName) (hasArguments : wire.arguments = some arguments)
      (hasEnvironment : wire.environment = some entries) (sets : List.Forall₂ Sets entries settings)
      (settled : ∀ name, environment.get? name = settings.reverse.lookup name) :
      Denotes wire (.run wire.username ⟨wire.password⟩ arguments environment)

theorem parseEntry_eq_ok_iff {entry : String} {setting : String × String} :
    parseEntry entry = .ok setting ↔ Sets entry setting := by
  constructor
  · intro parsed
    rw [parseEntry] at parsed
    split at parsed
    · rename_i char name value found
      cases parsed
      refine ⟨splitEntry_toList.mp (by rw [found]; simp), ?_⟩
      simp
    · contradiction
    · contradiction
  · intro sets
    exact parseEntry_of_splits sets.1 sets.2

theorem parseEntries_eq_ok_iff {environment found : Environment} {entries : List String} :
    parseEntries environment entries = .ok found ↔ ∃ settings, List.Forall₂ Sets entries settings ∧
      ∀ name, found.get? name = (settings.reverse.lookup name).or (environment.get? name) := by
  induction entries generalizing environment with
  | nil =>
      rw [parseEntries]
      constructor
      · intro same
        cases same
        exact ⟨[], .nil, fun name => rfl⟩
      · rintro ⟨_, ⟨⟩, settled⟩
        exact congrArg _ (Environment.ext_get? fun name value => by rw [settled]; rfl)
  | cons entry entries ih =>
      -- what comes later counts, and the entry is put below it
      have put (name key value : String) (settings : List (String × String)) :
          (((key, value) :: settings).reverse.lookup name).or (environment.get? name) =
            (settings.reverse.lookup name).or ((environment.insert key value).get? name) := by
        rw [List.reverse_cons, List.lookup_append, Option.or_assoc, List.lookup_cons]
        by_cases same : name = key
        · rw [same, Environment.get?_insert_self, beq_self_eq_true]
          rfl
        · rw [Environment.get?_insert_of_ne same, beq_false_of_ne same]
          rfl
      rw [parseEntries]
      constructor
      · intro parsed
        split at parsed
        · contradiction
        · rename_i name value one
          obtain ⟨settings, sets, settled⟩ := ih.mp parsed
          refine ⟨(name, value) :: settings, .cons (parseEntry_eq_ok_iff.mp one) sets, fun wanted => ?_⟩
          rw [settled, put]
      · rintro ⟨_, ⟨⟩, settled⟩
        rename_i setting settings one sets
        obtain ⟨name, value⟩ := setting
        have parsed : parseEntry entry = .ok (name, value) := parseEntry_eq_ok_iff.mpr one
        simp only [parsed]
        exact ih.mpr ⟨settings, sets, fun wanted => by rw [settled, put]⟩

theorem ofWire_eq_ok_iff {request : Request} : ofWire wire = .ok request ↔ Denotes wire request := by
  have notProbe : runName ≠ probeName := by decide
  constructor
  · intro accepted
    rw [ofWire] at accepted
    split_ifs at accepted with isProbe isRun
    · cases accepted
      exact .probe isProbe
    · split at accepted
      · contradiction
      · contradiction
      · rename_i arguments entries hasArguments hasEnvironment
        split at accepted
        · contradiction
        · rename_i parsed
          cases accepted
          obtain ⟨settings, sets, settled⟩ := parseEntries_eq_ok_iff.mp parsed
          refine .run isRun hasArguments hasEnvironment sets fun name => ?_
          rw [settled, Environment.get?_empty, Option.or_none]
  · intro denotes
    cases denotes with
    | probe named => rw [ofWire, if_pos named]
    | @run arguments entries settings environment named hasArguments hasEnvironment sets settled =>
        have parsed : parseEntries .empty entries = .ok environment :=
          parseEntries_eq_ok_iff.mpr ⟨settings, sets, fun name => by
            rw [settled, Environment.get?_empty, Option.or_none]⟩
        rw [ofWire, if_neg (named ▸ notProbe), if_pos named, hasArguments, hasEnvironment]
        simp only [parsed]

/-- A payload is a request exactly when it is a document of a record that asks for it. -/
theorem decode_eq_ok_iff {request : Request} :
    decode payload = .ok request ↔ ∃ wire, Document payload wire ∧ Denotes wire request := by
  rw [decode]
  constructor
  · intro accepted
    split at accepted
    · contradiction
    · rename_i wire taken
      exact ⟨wire, readWire_eq_ok_iff.mp taken, ofWire_eq_ok_iff.mp accepted⟩
  · rintro ⟨wire, document, denotes⟩
    rw [readWire_eq_ok_iff.mpr document]
    exact ofWire_eq_ok_iff.mpr denotes

/-- A probe that is a list. -/
def listedProbe : List UInt8 :=
  Text.Utf8.bytes "[\"AuthOnly\",\"alice\",\"pw\"]"

/-- A probe with a member of an unknown name, whose string is no UTF-8. -/
def notedProbe : List UInt8 :=
  Text.Utf8.bytes "\x7b\"name\":\"AuthOnly\",\"username\":\"alice\",\"password\":\"pw\",\"note\":\"" ++
    0xFF :: Text.Utf8.bytes "\"\x7d"

/-- A request need not be an object, and it need not be UTF-8. -/
theorem not_only_utf8_objects :
    (¬ ∀ payload request, decode payload = .ok request → ∃ gap rest, Blank gap ∧ payload = gap ++ 0x7B :: rest) ∧
    ¬ ∀ payload request, decode payload = .ok request → ∃ text, payload = Text.Utf8.bytes text := by
  constructor
  · intro isObject
    have accepted : decode listedProbe = .ok (.probe "alice" ⟨"pw"⟩) := by decide +kernel
    have opening : listedProbe.head? = some 0x5B := by decide +kernel
    obtain ⟨gap, rest, blank, split⟩ := isObject _ _ accepted
    rw [split] at opening
    cases gap with
    | nil => exact absurd opening (by simp)
    | cons octet gap =>
        obtain rfl : octet = 0x5B := Option.some.inj opening
        exact absurd (blank 0x5B List.mem_cons_self) (by decide)
  · intro isText
    have accepted : decode notedProbe = .ok (.probe "alice" ⟨"pw"⟩) := by decide +kernel
    have broken : Text.Utf8.string? notedProbe = none := by decide +kernel
    obtain ⟨text, same⟩ := isText _ _ accepted
    rw [Text.Utf8.string?_eq_some_iff.mpr same] at broken
    exact Option.some_ne_none text broken

end AuthBroker.Request
