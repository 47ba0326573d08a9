import AuthBroker.Proofs.Json.Skipping
import AuthBroker.Request.Draft

namespace AuthBroker.Request

open AuthBroker.Json

/-! The grammar of requests.

A request is an object whose known members have fixed types, or a list of the values of these members in the
order of the wire.  What stands in a member of another name is passed over.  `Record` relates the octets of a
request to its fields; the reader accepts these octets and no others.
-/

/-! ### The grammar -/

def SpellsText (octets : List UInt8) (text : String) : Prop :=
  ∃ spelling, Quoted spelling text ∧ octets = 0x22 :: spelling

/-- A list of strings, which may be null. -/
inductive SpellsList : List UInt8 → Option (List String) → Prop
  | null : SpellsList [0x6E, 0x75, 0x6C, 0x6C] none
  | list {body : List UInt8} {texts : List String} (row : Row SpellsText true body texts) :
      SpellsList (0x5B :: body ++ [0x5D]) (some texts)

/-- What a member gives. -/
inductive Given
  | text (text : String)
  | list (texts : Option (List String))
  | ignored

def Field.isList : Field → Bool
  | .arguments => true
  | .environment => true
  | _ => false

/-- The value of a member.  One of an unknown name may hold any value. -/
inductive Gives : Option Field → List UInt8 → Given → Prop
  | text {field : Field} {octets : List UInt8} {text : String} (isText : field.isList = false)
      (spelt : SpellsText octets text) : Gives (some field) octets (.text text)
  | list {field : Field} {octets : List UInt8} {texts : Option (List String)} (isList : field.isList = true)
      (spelt : SpellsList octets texts) : Gives (some field) octets (.list texts)
  | ignored {octets : List UInt8} (value : Skippable .value octets) : Gives none octets .ignored

inductive Member : List UInt8 → String × Given → Prop
  | intro {spelling before after text : List UInt8} {key : String} {given : Given} (quoted : Quoted spelling key)
      (blankBefore : Blank before) (blankAfter : Blank after) (gives : Gives (Field.ofKey? key) text given) :
      Member (0x22 :: spelling ++ before ++ 0x3A :: after ++ text) (key, given)

/-- An item of a request that is a list. -/
def Item (octets : List UInt8) (item : Field × Given) : Prop :=
  Gives (some item.1) octets item.2

/-- An item counts as a member of its field's name. -/
def asMember (item : Field × Given) : String × Given :=
  (item.1.key, item.2)

/-- What the members of a field give, in their order. -/
def givenBy (members : List (String × Given)) (field : Field) : List Given :=
  (members.filter fun member => member.1 == field.key).map Prod.snd

/-- Each text is given once, and each list once at most.  A list that is not given counts as null. -/
structure Fills (members : List (String × Given)) (wire : Wire) : Prop where
  name : givenBy members .name = [.text wire.name]
  username : givenBy members .username = [.text wire.username]
  password : givenBy members .password = [.text wire.password]
  arguments : givenBy members .arguments = [.list wire.arguments] ∨
    givenBy members .arguments = [] ∧ wire.arguments = none
  environment : givenBy members .environment = [.list wire.environment] ∨
    givenBy members .environment = [] ∧ wire.environment = none

inductive Record : List UInt8 → Wire → Prop
  | object {body : List UInt8} {members : List (String × Given)} {wire : Wire} (row : Row Member true body members)
      (fills : Fills members wire) : Record (0x7B :: body ++ [0x7D]) wire
  | list {body : List UInt8} {items : List (Field × Given)} {wire : Wire} (row : Row Item true body items)
      (ordered : items.map Prod.fst <+: Field.all)
      (fills : Fills (items.map asMember) wire) : Record (0x5B :: body ++ [0x5D]) wire

/-- A payload is a record between blanks. -/
def Document (payload : List UInt8) (wire : Wire) : Prop :=
  ∃ before text after, Blank before ∧ Record text wire ∧ Blank after ∧ payload = before ++ text ++ after

variable {octets rest body : List UInt8} {first : Bool} {fuel : Nat} {field : Field} {draft draft' : Draft}
  {given : Given} {members : List (String × Given)} {wire : Wire}

/-! ### Strings and lists -/

theorem readString_eq_ok_iff {text : String} : readString octets = .ok (text, rest) ↔
    ∃ gap spelt, Blank gap ∧ SpellsText spelt text ∧ octets = gap ++ spelt ++ rest := by
  constructor
  · intro read
    rw [readString] at read
    rcases blank_or_dark octets with ⟨-, shape⟩ | ⟨gap, octet, later, blank, -, rfl, shape⟩
    · simp [shape] at read
    · simp only [shape] at read
      split_ifs at read with isQuote
      obtain ⟨spelling, quoted, rfl⟩ := string_eq_ok_iff.mp read
      exact ⟨gap, _, blank, ⟨spelling, quoted, rfl⟩, by simp [isQuote]⟩
  · intro shaped
    obtain ⟨gap, _, blank, ⟨spelling, quoted, rfl⟩, rfl⟩ := shaped
    have read : string (spelling ++ rest) = .ok (text, rest) := string_eq_ok_iff.mpr ⟨spelling, quoted, rfl⟩
    rw [List.append_assoc, List.cons_append, readString, dropBlank_append blank (by decide)]
    simp only [if_true, read]

theorem row_of_readStrings {held found : List String} (read : readStrings fuel first held octets = .ok (found, rest)) :
    ∃ body texts, Row SpellsText first body texts ∧ found = held.reverse ++ texts ∧
      octets = body ++ 0x5D :: rest := by
  induction fuel generalizing first held octets with
  | zero => simp [readStrings] at read
  | succ fuel ih =>
      rw [readStrings] at read
      split at read
      · contradiction
      · rename_i turned
        cases read
        obtain ⟨gap, blank, split⟩ := listTurn_eq_close turned
        exact ⟨gap, [], .ended blank, by simp, split⟩
      · rename_i turned
        obtain ⟨lead, leads, rfl⟩ := listTurn_eq_item turned
        split at read
        · contradiction
        · rename_i text after taken
          obtain ⟨gap, spelt, blank, spells, rfl⟩ := readString_eq_ok_iff.mp taken
          obtain ⟨body, texts, row, rfl, rfl⟩ := ih read
          refine ⟨_, text :: texts, .item (leads.append blank) spells row, by simp, ?_⟩
          simp only [List.append_assoc]

theorem readStrings_of_row {held texts : List String} (row : Row SpellsText first body texts) (rest : List UInt8)
    (enough : body.length < fuel) :
    readStrings fuel first held (body ++ 0x5D :: rest) = .ok (held.reverse ++ texts, rest) := by
  induction row generalizing fuel held with
  | ended blank =>
      cases fuel with
      | zero => simp at enough
      | succ fuel =>
          rw [readStrings, listTurn_closing blank]
          simp
  | @item _ lead spelt body text texts leads spells more ih =>
      cases fuel with
      | zero => simp at enough
      | succ fuel =>
          obtain ⟨spelling, quoted, rfl⟩ := spells
          have turned : listTurn _ (lead ++ 0x22 :: (spelling ++ (body ++ 0x5D :: rest))) = _ :=
            listTurn_lead leads (by decide) (by decide)
          have read : readString (0x22 :: (spelling ++ (body ++ 0x5D :: rest))) = .ok (text, body ++ 0x5D :: rest) :=
            readString_eq_ok_iff.mpr ⟨[], _, blank_nil, ⟨spelling, quoted, rfl⟩, rfl⟩
          simp only [List.length_append, List.length_cons] at enough
          simp only [List.append_assoc, List.cons_append]
          rw [readStrings, turned]
          simp only [read]
          rw [ih (by omega)]
          simp

theorem readList_eq_ok_iff {texts : Option (List String)} : readList octets = .ok (texts, rest) ↔
    ∃ gap spelt, Blank gap ∧ SpellsList spelt texts ∧ octets = gap ++ spelt ++ rest := by
  constructor
  · intro read
    rw [readList] at read
    rcases blank_or_dark octets with ⟨-, shape⟩ | ⟨gap, octet, later, blank, -, rfl, shape⟩
    · simp [shape] at read
    · simp only [shape] at read
      split_ifs at read with isNull isList
      · split at read
        · contradiction
        · rename_i named
          cases read
          exact ⟨gap, _, blank, .null, by rw [isNull, expectName_eq_ok_iff.mp named]; simp⟩
      · split at read
        · contradiction
        · rename_i taken
          cases read
          obtain ⟨body, texts, row, rfl, rfl⟩ := row_of_readStrings taken
          exact ⟨gap, _, blank, .list row, by simp [isList]⟩
  · intro shaped
    obtain ⟨gap, spelt, blank, spells, rfl⟩ := shaped
    cases spells with
    | null =>
        rw [List.append_assoc, List.cons_append, readList, dropBlank_append blank (by decide)]
        simp [expectName]
    | @list body texts row =>
        have read : readStrings ((body ++ 0x5D :: rest).length + 1) true [] (body ++ 0x5D :: rest) =
            .ok (texts, rest) := readStrings_of_row row rest (by simp)
        have shape : gap ++ (0x5B :: body ++ [0x5D]) ++ rest = gap ++ 0x5B :: (body ++ 0x5D :: rest) := by simp
        rw [shape, readList, dropBlank_append blank (by decide)]
        dsimp only
        rw [if_neg (by decide), if_pos rfl, read]

/-! ### Fields -/

def Draft.put (draft : Draft) : Field → Given → Draft
  | .name, .text text => { draft with name := some text }
  | .username, .text text => { draft with username := some text }
  | .password, .text text => { draft with password := some text }
  | .arguments, .list texts => { draft with arguments := some texts }
  | .environment, .list texts => { draft with environment := some texts }
  | _, _ => draft

/-- What was given of a field so far. -/
def Draft.held (draft : Draft) : Field → List Given
  | .name => draft.name.toList.map .text
  | .username => draft.username.toList.map .text
  | .password => draft.password.toList.map .text
  | .arguments => draft.arguments.toList.map .list
  | .environment => draft.environment.toList.map .list

theorem map_readString_eq_ok_iff {put : String → Draft} :
    (readString octets).map (fun (text, rest) => (put text, rest)) = .ok (draft', rest) ↔
      ∃ text, readString octets = .ok (text, rest) ∧ draft' = put text := by
  cases readString octets with
  | error fault => simp [Except.map]
  | ok read => simp [Except.map, Prod.ext_iff, eq_comm, and_comm]

theorem map_readList_eq_ok_iff {put : Option (List String) → Draft} :
    (readList octets).map (fun (texts, rest) => (put texts, rest)) = .ok (draft', rest) ↔
      ∃ texts, readList octets = .ok (texts, rest) ∧ draft' = put texts := by
  cases readList octets with
  | error fault => simp [Except.map]
  | ok read => simp [Except.map, Prod.ext_iff, eq_comm, and_comm]

theorem readField_eq_ok_iff : draft.readField field octets = .ok (draft', rest) ↔
    ∃ gap text given, Blank gap ∧ Gives (some field) text given ∧ octets = gap ++ text ++ rest ∧
      draft' = draft.put field given := by
  have texts (isText : field.isList = false) : (∃ text, readString octets = .ok (text, rest) ∧
      draft' = draft.put field (.text text)) ↔ ∃ gap text given, Blank gap ∧ Gives (some field) text given ∧
        octets = gap ++ text ++ rest ∧ draft' = draft.put field given := by
    constructor
    · rintro ⟨text, taken, same⟩
      obtain ⟨gap, spelt, blank, spells, split⟩ := readString_eq_ok_iff.mp taken
      exact ⟨gap, spelt, _, blank, .text isText spells, split, same⟩
    · rintro ⟨gap, spelt, given, blank, gives, split, same⟩
      cases gives with
      | text _ spells => exact ⟨_, readString_eq_ok_iff.mpr ⟨gap, spelt, blank, spells, split⟩, same⟩
      | list isList _ => simp [isText] at isList
  have lists (isList : field.isList = true) : (∃ texts, readList octets = .ok (texts, rest) ∧
      draft' = draft.put field (.list texts)) ↔ ∃ gap text given, Blank gap ∧ Gives (some field) text given ∧
        octets = gap ++ text ++ rest ∧ draft' = draft.put field given := by
    constructor
    · rintro ⟨texts, taken, same⟩
      obtain ⟨gap, spelt, blank, spells, split⟩ := readList_eq_ok_iff.mp taken
      exact ⟨gap, spelt, _, blank, .list isList spells, split, same⟩
    · rintro ⟨gap, spelt, given, blank, gives, split, same⟩
      cases gives with
      | text isText _ => simp [isList] at isText
      | list _ spells => exact ⟨_, readList_eq_ok_iff.mpr ⟨gap, spelt, blank, spells, split⟩, same⟩
  cases field with
  | arguments => exact map_readList_eq_ok_iff.trans (lists rfl)
  | environment => exact map_readList_eq_ok_iff.trans (lists rfl)
  | _ => exact map_readString_eq_ok_iff.trans (texts rfl)

theorem held_put {text : List UInt8} (gives : Gives (some field) text given) (other : Field) :
    (draft.put field given).held other = if other = field then [given] else draft.held other := by
  cases gives with
  | text isText _ => cases field <;> cases other <;> first | contradiction | rfl
  | list isList _ => cases field <;> cases other <;> first | contradiction | rfl

theorem has_eq_false_iff : draft.has field = false ↔ draft.held field = [] := by
  cases field <;> simp [Draft.has, Draft.held]

/-! ### Drafts -/

/-- A draft has what the members read so far give. -/
def Holds (members : List (String × Given)) (draft : Draft) : Prop :=
  ∀ field, givenBy members field = draft.held field

theorem holds_empty : Holds [] .empty := by
  intro field
  cases field <;> rfl

theorem givenBy_append (before after : List (String × Given)) (field : Field) :
    givenBy (before ++ after) field = givenBy before field ++ givenBy after field := by
  rw [givenBy, List.filter_append, List.map_append]
  rfl

theorem givenBy_cons (key : String) (given : Given) (after : List (String × Given)) (field : Field) :
    givenBy ((key, given) :: after) field = (if key = field.key then [given] else []) ++ givenBy after field := by
  by_cases same : key = field.key <;> simp [givenBy, same]

theorem ofKey?_eq_some_iff {key : String} : Field.ofKey? key = some field ↔ key = field.key := by
  constructor
  · intro found
    have same := List.find?_some found
    exact (beq_iff_eq.mp same).symm
  · rintro rfl
    cases field <;> rfl

theorem key_injective : Function.Injective Field.key := by
  intro field other same
  have found := ofKey?_eq_some_iff.mpr same
  rw [ofKey?_eq_some_iff.mpr rfl] at found
  exact Option.some.inj found

theorem Holds.ignore {key : String} (holds : Holds members draft) (unknown : Field.ofKey? key = none) (given : Given) :
    Holds (members ++ [(key, given)]) draft := by
  intro field
  have other : key ≠ field.key := by
    intro same
    rw [ofKey?_eq_some_iff.mpr same] at unknown
    contradiction
  rw [givenBy_append, givenBy_cons, if_neg other, holds field]
  exact List.append_nil _

theorem Holds.put {text : List UInt8} (holds : Holds members draft) (gives : Gives (some field) text given)
    (missing : draft.held field = []) : Holds (members ++ [(field.key, given)]) (draft.put field given) := by
  intro other
  rw [givenBy_append, givenBy_cons, held_put gives, holds other]
  by_cases same : other = field
  · rw [if_pos same, same, if_pos rfl, missing]
    rfl
  · rw [if_neg same, if_neg fun key => same (key_injective key).symm]
    exact List.append_nil _

theorem map_text_eq_iff {held : Option String} {text : String} :
    held.toList.map Given.text = [.text text] ↔ held = some text := by
  cases held <;> simp

theorem map_list_eq_iff {held : Option (Option (List String))} {texts : Option (List String)} :
    held.toList.map Given.list = [.list texts] ∨ held.toList.map Given.list = [] ∧ texts = none ↔
      held.join = texts := by
  cases held with
  | none => simp [eq_comm]
  | some held => simp

theorem Holds.finish (holds : Holds members draft) : draft.finish = .ok wire ↔ Fills members wire := by
  have filled : Fills members wire ↔ draft.name = some wire.name ∧ draft.username = some wire.username ∧
      draft.password = some wire.password ∧ draft.arguments.join = wire.arguments ∧
      draft.environment.join = wire.environment := by
    rw [← map_text_eq_iff, ← map_text_eq_iff, ← map_text_eq_iff, ← map_list_eq_iff, ← map_list_eq_iff]
    constructor
    · intro fills
      obtain ⟨name, username, password, arguments, environment⟩ := fills
      rw [holds] at name username password
      rw [holds] at arguments environment
      exact ⟨name, username, password, arguments, environment⟩
    · rintro ⟨name, username, password, arguments, environment⟩
      refine ⟨?_, ?_, ?_, ?_, ?_⟩ <;> rw [holds] <;> assumption
  rw [filled]
  obtain ⟨name, username, password, arguments, environment⟩ := draft
  obtain ⟨name', username', password', arguments', environment'⟩ := wire
  cases name <;> cases username <;> cases password <;> simp [Draft.finish]

/-- No field is given twice. -/
theorem Fills.givenBy_le (fills : Fills members wire) (field : Field) : (givenBy members field).length ≤ 1 := by
  have atMost {given : Given} {none : Prop}
      (once : givenBy members field = [given] ∨ givenBy members field = [] ∧ none) :
      (givenBy members field).length ≤ 1 := by
    rcases once with once | ⟨never, -⟩
    · rw [once]
      exact Nat.le_refl _
    · rw [never]
      exact Nat.zero_le _
  cases field with
  | name => exact Nat.le_of_eq (congrArg List.length fills.name)
  | username => exact Nat.le_of_eq (congrArg List.length fills.username)
  | password => exact Nat.le_of_eq (congrArg List.length fills.password)
  | arguments => exact atMost fills.arguments
  | environment => exact atMost fills.environment

theorem Holds.missing {before after : List (String × Given)} (holds : Holds before draft)
    (fills : Fills (before ++ (field.key, given) :: after) wire) : draft.held field = [] := by
  have once := fills.givenBy_le field
  rw [givenBy_append, givenBy_cons, if_pos rfl, holds field, List.length_append, List.length_append,
    List.length_singleton] at once
  exact List.eq_nil_of_length_eq_zero (by omega)

end AuthBroker.Request
