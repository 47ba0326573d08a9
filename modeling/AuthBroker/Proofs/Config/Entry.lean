import AuthBroker.Proofs.Config.RoundTrip

namespace AuthBroker.Config

open AuthBroker.Toml (Value Key Item Entries Span HoldsText)

/-! What one entry of a configuration file does.

An entry fits if it names a field and its item is of the kind of that field; it then sets the field and leaves the
others as they are.  Any other entry fails with a complaint about its key, its item, or an element of its item.
-/

/-! ### Items -/

/-- Arrays are written in brackets, or table by table under doubled headers. -/
def Lists (item : Item) (elements : List Item) : Prop :=
  ∃ span, item = .array span elements ∨ item = .tables span elements

def HoldsInteger (item : Item) (value : Int) : Prop :=
  ∃ span, item = .scalar span (.integer (some value))

/-- What an item is called. -/
inductive Looks : Item → Found → Prop
  | text (span : Span) (value : String) : Looks (.scalar span (.text value)) (.text value)
  | integer (span : Span) (value : Int) : Looks (.scalar span (.integer (some value))) (.integer value)
  | real (span : Span) (value : Toml.Real) : Looks (.scalar span (.real (some value))) (.real (shownReal value))
  | boolean (span : Span) (value : Bool) : Looks (.scalar span (.boolean value)) (.boolean value)
  | moment (span : Span) : Looks (.scalar span .moment) .map
  | list {item : Item} {elements : List Item} (lists : Lists item elements) : Looks item .sequence
  | table (span : Span) (origin : Toml.Origin) (entries : Entries) : Looks (.table span origin entries) .map

/-- What is said of an item where something else was expected. -/
inductive Refuses (expected : String) : Item → Complaint → Prop
  | mistyped {item : Item} {found : Found} (looks : Looks item found) :
      Refuses expected item (item.span, .wrongType found expected)
  | integer (span : Span) : Refuses expected (.scalar span (.integer none)) (span, .valueless true)
  | real (span : Span) : Refuses expected (.scalar span (.real none)) (span, .valueless false)

/-! ### Entries -/

def timeouts : List Field :=
  [.probeTimeout, .replyReadTimeout, .requestWriteTimeout]

/-- The value that a field has from an item of its kind. -/
inductive Suits (item : Item) : Field → Value → Prop
  | helperPath {text : String} (holds : HoldsText item text) : Suits item .helperPath (.text text)
  | helperName {text : String} (holds : HoldsText item text) : Suits item .helperName (.text text)
  | timeout {field : Field} {count : Nat} (timeout : field ∈ timeouts) (holds : HoldsInteger item count)
      (fits : count < 2 ^ 64) : Suits item field (.count count)
  | forwardEnv {elements : List Item} {texts : List String} (lists : Lists item elements)
      (hold : List.Forall₂ HoldsText elements texts) : Suits item .forwardEnv (.texts texts)

/-- What is said of an item that is not of the kind of a field. -/
inductive Objects (item : Item) : Field → Complaint → Prop
  | helperPath {complaint : Complaint} (other : ∀ text, ¬ HoldsText item text)
      (refuses : Refuses "path string" item complaint) : Objects item .helperPath complaint
  | helperName {complaint : Complaint} (other : ∀ text, ¬ HoldsText item text)
      (refuses : Refuses "a string" item complaint) : Objects item .helperName complaint
  | timeout {field : Field} {complaint : Complaint} (timeout : field ∈ timeouts)
      (other : ∀ value, ¬ HoldsInteger item value) (refuses : Refuses "u64" item complaint) :
      Objects item field complaint
  | negative {field : Field} {value : Int} (timeout : field ∈ timeouts) (holds : HoldsInteger item value)
      (fits : -2 ^ 63 ≤ value) (negative : value < 0) : Objects item field (item.span, .negative value)
  | outside {field : Field} {value : Int} (timeout : field ∈ timeouts) (holds : HoldsInteger item value)
      (outside : value < -2 ^ 63 ∨ 2 ^ 64 ≤ value) :
      Objects item field (item.span, .wrongType (.integer value) "u64")
  | forwardEnv {complaint : Complaint} (other : ∀ elements, ¬ Lists item elements)
      (refuses : Refuses "a sequence" item complaint) : Objects item .forwardEnv complaint
  /-- The first element that is not a text. -/
  | element {before after : List Item} {bad : Item} {complaint : Complaint}
      (lists : Lists item (before ++ bad :: after)) (hold : ∀ element ∈ before, ∃ text, HoldsText element text)
      (other : ∀ text, ¬ HoldsText bad text) (refuses : Refuses "a string" bad complaint) :
      Objects item .forwardEnv complaint

def Supplies (entry : Key × Item) (field : Field) (value : Value) : Prop :=
  entry.1.name = field.name ∧ Suits entry.2 field value

def Fits (entry : Key × Item) : Prop :=
  ∃ field value, Supplies entry field value

inductive Misfits (entry : Key × Item) : Complaint → Prop
  | unknown (unnamed : ∀ field : Field, entry.1.name ≠ field.name) :
      Misfits entry (entry.1.span, .unknownField entry.1.name)
  | unsuited {field : Field} {complaint : Complaint} (named : entry.1.name = field.name)
      (objects : Objects entry.2 field complaint) : Misfits entry complaint

variable {settings draft : Settings} {field : Field} {value : Value} {item : Item} {elements : List Item}
  {entry : Key × Item} {complaint : Complaint} {expected name : String}

/-! ### Reading an item -/

theorem refuses_iff : Refuses expected item complaint ↔ complaint = mismatch expected item := by
  constructor
  · intro refuses
    cases refuses with
    | mistyped looks =>
        cases looks with
        | list lists => obtain ⟨span, rfl | rfl⟩ := lists <;> rfl
        | _ => rfl
    | integer span => rfl
    | real span => rfl
  · rintro rfl
    cases item with
    | scalar span value =>
        cases value with
        | text value => exact .mistyped (.text span value)
        | integer value =>
            cases value with
            | none => exact .integer span
            | some value => exact .mistyped (.integer span value)
        | real value =>
            cases value with
            | none => exact .real span
            | some value => exact .mistyped (.real span value)
        | boolean value => exact .mistyped (.boolean span value)
        | moment => exact .mistyped (.moment span)
    | array span elements => exact .mistyped (.list ⟨span, .inl rfl⟩)
    | table span origin entries => exact .mistyped (.table span origin entries)
    | tables span elements => exact .mistyped (.list ⟨span, .inr rfl⟩)

theorem textOf_of_refuses (other : ∀ text, ¬ HoldsText item text) (refuses : Refuses expected item complaint) :
    textOf expected item = .error complaint := by
  rw [refuses_iff.mp refuses, textOf.eq_def]
  split
  · rename_i span text
    exact absurd ⟨span, rfl⟩ (other text)
  · rfl

theorem countOf_of_refuses (other : ∀ value, ¬ HoldsInteger item value) (refuses : Refuses "u64" item complaint) :
    countOf item = .error complaint := by
  rw [refuses_iff.mp refuses, countOf.eq_def]
  split
  · rename_i span value
    exact absurd ⟨span, rfl⟩ (other value)
  · rfl

theorem countOf_of_negative {number : Int} (holds : HoldsInteger item number) (fits : -2 ^ 63 ≤ number)
    (negative : number < 0) : countOf item = .error (item.span, .negative number) := by
  obtain ⟨span, rfl⟩ := holds
  have unsigned : ¬ Word.fitsUnsigned 64 number = true := by
    rw [Word.fitsUnsigned_iff]
    omega
  have signed : Word.fitsSigned 64 number = true := Word.fitsSigned_iff.mpr ⟨fits, by omega⟩
  rw [countOf, if_neg unsigned, if_pos signed]
  rfl

theorem countOf_of_outside {number : Int} (holds : HoldsInteger item number)
    (outside : number < -2 ^ 63 ∨ 2 ^ 64 ≤ number) :
    countOf item = .error (item.span, .wrongType (.integer number) "u64") := by
  obtain ⟨span, rfl⟩ := holds
  have unsigned : ¬ Word.fitsUnsigned 64 number = true := by
    rw [Word.fitsUnsigned_iff]
    omega
  have signed : ¬ Word.fitsSigned 64 number = true := by
    rw [Word.fitsSigned_iff]
    omega
  rw [countOf, if_neg unsigned, if_neg signed]
  rfl

theorem mapM_textOf_append {bad : Item} {later : List Item}
    (hold : ∀ element ∈ elements, ∃ text, HoldsText element text) (refused : textOf expected bad = .error complaint) :
    (elements ++ bad :: later).mapM (textOf expected) = .error complaint := by
  induction elements with
  | nil =>
      rw [List.nil_append, List.mapM_cons, refused]
      rfl
  | cons element elements ih =>
      obtain ⟨text, span, rfl⟩ := hold element List.mem_cons_self
      rw [List.cons_append, List.mapM_cons, ih fun other member => hold other (List.mem_cons_of_mem _ member)]
      rfl

theorem textsOf_of_lists (lists : Lists item elements) : textsOf item = elements.mapM (textOf "a string") := by
  obtain ⟨span, rfl | rfl⟩ := lists <;> rfl

theorem textsOf_of_refuses (other : ∀ elements, ¬ Lists item elements) (refuses : Refuses "a sequence" item complaint) :
    textsOf item = .error complaint := by
  rw [refuses_iff.mp refuses, textsOf.eq_def]
  split
  · rename_i span elements
    exact absurd ⟨span, .inl rfl⟩ (other elements)
  · rename_i span elements
    exact absurd ⟨span, .inr rfl⟩ (other elements)
  · rfl

/-! ### Adding an entry -/

theorem ofName?_of_unnamed (unnamed : ∀ field : Field, name ≠ field.name) : Field.ofName? name = none := by
  rw [Field.ofName?, List.find?_eq_none]
  intro field _ same
  exact unnamed field (beq_iff_eq.mp same).symm

theorem mem_timeouts : field ∈ timeouts ↔
    field = .probeTimeout ∨ field = .replyReadTimeout ∨ field = .requestWriteTimeout := by
  simp [timeouts]

/-- An entry that fits sets its field and leaves the others as they are. -/
theorem addEntry_of_supplies (supplies : Supplies entry field value) (draft : Settings) :
    ∃ next, addEntry draft entry = .ok next ∧ Gives next field (field.name, value) ∧
      ∀ other, other ≠ field → Agrees draft next other := by
  obtain ⟨named, suits⟩ := supplies
  rw [addEntry, named, ofName?_name]
  cases suits with
  | helperPath holds | helperName holds =>
      obtain ⟨span, shape⟩ := holds
      rw [shape]
      refine ⟨_, rfl, by constructor; rfl, ?_⟩
      intro other differs
      cases other <;> first | rfl | contradiction
  | timeout timeout holds fits =>
      obtain ⟨span, shape⟩ := holds
      rw [shape]
      rcases mem_timeouts.mp timeout with rfl | rfl | rfl <;>
        · refine ⟨_, by simp only [assign, countOf_of_fits fits]; rfl, by constructor; rfl, ?_⟩
          intro other differs
          cases other <;> first | rfl | contradiction
  | forwardEnv lists hold =>
      refine ⟨_, by simp only [assign, textsOf_of_lists lists, mapM_textOf _ hold]; rfl, by constructor; rfl, ?_⟩
      intro other differs
      cases other <;> first | rfl | contradiction

theorem assign_of_objects (objects : Objects item field complaint) (draft : Settings) :
    assign draft item field = .error complaint := by
  -- the timeouts read a count alike
  have counted (timeout : field ∈ timeouts) (refused : countOf item = .error complaint) :
      assign draft item field = .error complaint := by
    rcases mem_timeouts.mp timeout with rfl | rfl | rfl <;>
      · rw [assign, refused]
        rfl
  cases objects with
  | helperPath other refuses | helperName other refuses =>
      rw [assign, textOf_of_refuses other refuses]
      rfl
  | timeout timeout other refuses => exact counted timeout (countOf_of_refuses other refuses)
  | negative timeout holds fits negative => exact counted timeout (countOf_of_negative holds fits negative)
  | outside timeout holds outside => exact counted timeout (countOf_of_outside holds outside)
  | forwardEnv other refuses =>
      rw [assign, textsOf_of_refuses other refuses]
      rfl
  | element lists hold other refuses =>
      rw [assign, textsOf_of_lists lists, mapM_textOf_append hold (textOf_of_refuses other refuses)]
      rfl

theorem addEntry_of_misfits (misfits : Misfits entry complaint) (draft : Settings) :
    addEntry draft entry = .error complaint := by
  cases misfits with
  | unknown unnamed => rw [addEntry, ofName?_of_unnamed unnamed]
  | unsuited named objects =>
      rw [addEntry, named, ofName?_name]
      exact assign_of_objects objects draft

theorem texts_or_bad (elements : List Item) : (∃ texts, List.Forall₂ HoldsText elements texts) ∨
    ∃ before bad after, elements = before ++ bad :: after ∧ (∀ element ∈ before, ∃ text, HoldsText element text) ∧
      ∀ text, ¬ HoldsText bad text := by
  induction elements with
  | nil => exact .inl ⟨[], .nil⟩
  | cons element elements ih =>
      by_cases first : ∃ text, HoldsText element text
      · rcases ih with ⟨texts, hold⟩ | ⟨before, bad, after, rfl, hold, other⟩
        · obtain ⟨text, holds⟩ := first
          exact .inl ⟨text :: texts, .cons holds hold⟩
        · exact .inr ⟨element :: before, bad, after, rfl, List.forall_mem_cons.mpr ⟨first, hold⟩, other⟩
      · exact .inr ⟨[], element, elements, rfl, by simp, not_exists.mp first⟩

theorem timeout_suits_or_objects (timeout : field ∈ timeouts) (item : Item) :
    (∃ value, Suits item field value) ∨ ∃ complaint, Objects item field complaint := by
  by_cases whole : ∃ number, HoldsInteger item number
  · obtain ⟨number, holds⟩ := whole
    by_cases fits : 0 ≤ number ∧ number < 2 ^ 64
    · obtain ⟨count, rfl⟩ := Int.eq_ofNat_of_zero_le fits.1
      exact .inl ⟨_, .timeout timeout holds (by omega)⟩
    · by_cases signed : -2 ^ 63 ≤ number ∧ number < 0
      · exact .inr ⟨_, .negative timeout holds signed.1 signed.2⟩
      · exact .inr ⟨_, .outside timeout holds (by omega)⟩
  · exact .inr ⟨_, .timeout timeout (not_exists.mp whole) (refuses_iff.mpr rfl)⟩

theorem suits_or_objects (field : Field) (item : Item) :
    (∃ value, Suits item field value) ∨ ∃ complaint, Objects item field complaint := by
  cases field with
  | probeTimeout | replyReadTimeout | requestWriteTimeout => exact timeout_suits_or_objects (by simp [timeouts]) item
  | helperPath =>
      by_cases plain : ∃ text, HoldsText item text
      · obtain ⟨text, holds⟩ := plain
        exact .inl ⟨_, .helperPath holds⟩
      · exact .inr ⟨_, .helperPath (not_exists.mp plain) (refuses_iff.mpr rfl)⟩
  | helperName =>
      by_cases plain : ∃ text, HoldsText item text
      · obtain ⟨text, holds⟩ := plain
        exact .inl ⟨_, .helperName holds⟩
      · exact .inr ⟨_, .helperName (not_exists.mp plain) (refuses_iff.mpr rfl)⟩
  | forwardEnv =>
      by_cases list : ∃ elements, Lists item elements
      · obtain ⟨elements, lists⟩ := list
        rcases texts_or_bad elements with ⟨texts, hold⟩ | ⟨before, bad, after, rfl, hold, other⟩
        · exact .inl ⟨_, .forwardEnv lists hold⟩
        · exact .inr ⟨_, .element lists hold other (refuses_iff.mpr rfl)⟩
      · exact .inr ⟨_, .forwardEnv (not_exists.mp list) (refuses_iff.mpr rfl)⟩

theorem fits_or_misfits (entry : Key × Item) : Fits entry ∨ ∃ complaint, Misfits entry complaint := by
  by_cases known : ∃ field : Field, entry.1.name = field.name
  · obtain ⟨field, named⟩ := known
    rcases suits_or_objects field entry.2 with ⟨value, suits⟩ | ⟨complaint, objects⟩
    · exact .inl ⟨field, value, named, suits⟩
    · exact .inr ⟨complaint, .unsuited named objects⟩
  · exact .inr ⟨_, .unknown (not_exists.mp known)⟩

end AuthBroker.Config
