import AuthBroker.Config.File
import AuthBroker.Proofs.Toml.Lines
import Mathlib.Data.List.Nodup
import Mathlib.Data.List.Perm.Basic

namespace AuthBroker.Config

open AuthBroker.Toml (Value Key Item Entries Lines Assigns Carries Holds HoldsText)

/-! Configuration files that are written from settings.

A file has one line for each field that is present, in any order.  Reading it gives the settings back, so it makes the
same configuration as they do, or the same complaint about them.
-/

/-! ### The files of settings -/

def has (settings : Settings) : Field → Bool
  | .helperPath => settings.helperPath.isSome
  | .helperName => settings.helperName.isSome
  | .probeTimeout => settings.probeTimeout.isSome
  | .replyReadTimeout => settings.replyReadTimeout.isSome
  | .requestWriteTimeout => settings.requestWriteTimeout.isSome
  | .forwardEnv => settings.forwardEnv.isSome

/-- The key and the value of a field that is present. -/
inductive Gives (settings : Settings) : Field → String × Value → Prop
  | helperPath {text : String} (given : settings.helperPath = some (.ofString text)) :
      Gives settings .helperPath ("helper_path", .text text)
  | helperName {text : String} (given : settings.helperName = some text) :
      Gives settings .helperName ("helper_name", .text text)
  | probeTimeout {count : Nat} (given : settings.probeTimeout = some count) :
      Gives settings .probeTimeout ("probe_timeout_ms", .count count)
  | replyReadTimeout {count : Nat} (given : settings.replyReadTimeout = some count) :
      Gives settings .replyReadTimeout ("reply_read_timeout_ms", .count count)
  | requestWriteTimeout {count : Nat} (given : settings.requestWriteTimeout = some count) :
      Gives settings .requestWriteTimeout ("request_write_timeout_ms", .count count)
  | forwardEnv {texts : List String} (given : settings.forwardEnv = some texts) :
      Gives settings .forwardEnv ("forward_env", .texts texts)

/-- A document with a line for each of the fields, in their order. -/
def Writes (settings : Settings) (fields : List Field) (document : List Char) : Prop :=
  ∃ assignments, List.Forall₂ (Gives settings) fields assignments ∧ Lines document assignments

/-- Settings that a file can hold: the path is a text, and 64 bits hold each timeout. -/
structure Writable (settings : Settings) : Prop where
  path : ∀ path ∈ settings.helperPath, ∃ text, path = .ofString text
  probeTimeout : ∀ count ∈ settings.probeTimeout, count < Word.count 64
  replyReadTimeout : ∀ count ∈ settings.replyReadTimeout, count < Word.count 64
  requestWriteTimeout : ∀ count ∈ settings.requestWriteTimeout, count < Word.count 64

variable {settings draft : Settings} {field : Field} {fields : List Field} {assignment : String × Value}
  {assignments : List (String × Value)} {entry : Key × Item} {entries : Entries} {document : List Char}

theorem Gives.name (gives : Gives settings field assignment) : assignment.1 = field.name := by
  cases gives <;> rfl

theorem names_of_gives (give : List.Forall₂ (Gives settings) fields assignments) :
    assignments.map Prod.fst = fields.map Field.name := by
  induction give with
  | nil => rfl
  | cons gives give ih => rw [List.map_cons, List.map_cons, gives.name, ih]

theorem name_injective : Function.Injective Field.name := by
  intro field other same
  cases field <;> cases other <;> first | rfl | exact absurd same (by decide)

theorem ofName?_name (field : Field) : Field.ofName? field.name = some field := by
  cases field <;> rfl

theorem Gives.fits (gives : Gives settings field assignment) (writable : Writable settings) {count : Nat}
    (counted : assignment.2 = .count count) : count < Word.count 64 := by
  cases gives with
  | probeTimeout given =>
      cases counted
      exact writable.probeTimeout _ given
  | replyReadTimeout given =>
      cases counted
      exact writable.replyReadTimeout _ given
  | requestWriteTimeout given =>
      cases counted
      exact writable.requestWriteTimeout _ given
  | _ => contradiction

theorem exists_gives (writable : Writable settings) (present : has settings field = true) :
    ∃ assignment, Gives settings field assignment := by
  cases field with
  | helperPath =>
      obtain ⟨path, given⟩ := Option.isSome_iff_exists.mp present
      obtain ⟨text, rfl⟩ := writable.path path given
      exact ⟨_, .helperPath given⟩
  | _ =>
      obtain ⟨value, given⟩ := Option.isSome_iff_exists.mp present
      exact ⟨_, by constructor; exact given⟩

theorem exists_line (gives : Gives settings field assignment) (writable : Writable settings) :
    ∃ line, Assigns line assignment := by
  have fits : ∀ count, assignment.2 = .count count → count < Word.count 128 := by
    intro count counted
    exact Nat.lt_trans (gives.fits writable counted) (by decide)
  obtain ⟨lexeme, spells⟩ := Toml.exists_spells assignment.2 fits
  have named : assignment.1.toList ≠ [] ∧ assignment.1.toList.all Toml.isKeyChar = true := by
    rw [gives.name]
    cases field <;> decide
  exact ⟨_, .intro named.1 (List.all_eq_true.mp named.2) spells⟩

theorem exists_document (writable : Writable settings) (present : ∀ field ∈ fields, has settings field = true) :
    ∃ document, Writes settings fields document := by
  induction fields with
  | nil => exact ⟨[], [], .nil, .none⟩
  | cons field fields ih =>
      obtain ⟨assignment, gives⟩ := exists_gives writable (present field List.mem_cons_self)
      obtain ⟨line, assigns⟩ := exists_line gives writable
      obtain ⟨body, assignments, give, lines⟩ := ih fun other member => present other (List.mem_cons_of_mem _ member)
      exact ⟨_, _, .cons gives give, .line assigns lines⟩

/-! ### Reading one field -/

/-- Takes one field over. -/
def copy (settings draft : Settings) : Field → Settings
  | .helperPath => { draft with helperPath := settings.helperPath }
  | .helperName => { draft with helperName := settings.helperName }
  | .probeTimeout => { draft with probeTimeout := settings.probeTimeout }
  | .replyReadTimeout => { draft with replyReadTimeout := settings.replyReadTimeout }
  | .requestWriteTimeout => { draft with requestWriteTimeout := settings.requestWriteTimeout }
  | .forwardEnv => { draft with forwardEnv := settings.forwardEnv }

/-- An entry takes a field over, whatever was read before. -/
def Reads (settings : Settings) (entry : Key × Item) (field : Field) : Prop :=
  ∀ draft, addEntry draft entry = .ok (copy settings draft field)

theorem countOf_of_fits {span : Toml.Span} {count : Nat} (fits : count < Word.count 64) :
    countOf (.scalar span (.integer (some (count : Int)))) = .ok count := by
  have bound : (count : Int) < Word.count 64 := Int.ofNat_lt.mpr fits
  simp [countOf, Word.fitsUnsigned, bound]

theorem mapM_textOf {items : List Item} {texts : List String} (expected : String)
    (hold : List.Forall₂ HoldsText items texts) : items.mapM (textOf expected) = .ok texts := by
  induction hold with
  | nil => rfl
  | cons holds more ih =>
      obtain ⟨span, rfl⟩ := holds
      rw [List.mapM_cons, textOf, ih]
      rfl

theorem reads_of_gives (writable : Writable settings) (gives : Gives settings field assignment)
    (carries : Carries entry assignment) : Reads settings entry field := by
  intro draft
  obtain ⟨key, item⟩ := entry
  obtain ⟨named, holds⟩ := carries
  have known : Field.ofName? key.name = some field := by
    rw [show key.name = field.name from named.trans gives.name, ofName?_name]
  have fits : ∀ count, assignment.2 = .count count → count < Word.count 64 := fun _ => gives.fits writable
  simp only [addEntry, known]
  cases gives with
  | helperPath given | helperName given =>
      cases holds
      simp only [assign, textOf, copy, given]
      rfl
  | probeTimeout given | replyReadTimeout given | requestWriteTimeout given =>
      cases holds
      simp only [assign, countOf_of_fits (fits _ rfl), copy, given]
      rfl
  | forwardEnv given =>
      cases holds with
      | texts span hold =>
          simp only [assign, textsOf, mapM_textOf _ hold, copy, given]
          rfl

/-! ### Reading all fields -/

def Agrees (left right : Settings) : Field → Prop
  | .helperPath => left.helperPath = right.helperPath
  | .helperName => left.helperName = right.helperName
  | .probeTimeout => left.probeTimeout = right.probeTimeout
  | .replyReadTimeout => left.replyReadTimeout = right.replyReadTimeout
  | .requestWriteTimeout => left.requestWriteTimeout = right.requestWriteTimeout
  | .forwardEnv => left.forwardEnv = right.forwardEnv

theorem eq_of_agrees {left right : Settings} (agree : ∀ field, Agrees left right field) : left = right := by
  obtain ⟨_, _, _, _, _, _⟩ := left
  obtain ⟨_, _, _, _, _, _⟩ := right
  have helperPath := agree .helperPath
  have helperName := agree .helperName
  have probeTimeout := agree .probeTimeout
  have replyReadTimeout := agree .replyReadTimeout
  have requestWriteTimeout := agree .requestWriteTimeout
  have forwardEnv := agree .forwardEnv
  simp only [Agrees] at *
  simp only [helperPath, helperName, probeTimeout, replyReadTimeout, requestWriteTimeout, forwardEnv]

theorem agrees_copy {other : Field} (either : other = field ∨ Agrees draft settings other) :
    Agrees (copy settings draft field) settings other := by
  rcases either with rfl | agrees
  · cases other <;> rfl
  · cases field <;> cases other <;> first | rfl | exact agrees

theorem agrees_foldl_copy (either : field ∈ fields ∨ Agrees draft settings field) :
    Agrees (fields.foldl (copy settings) draft) settings field := by
  induction fields generalizing draft with
  | nil =>
      rcases either with never | agrees
      · contradiction
      · exact agrees
  | cons first fields ih =>
      refine ih ?_
      rcases either with member | agrees
      · rcases List.mem_cons.mp member with same | later
        · exact .inr (agrees_copy (.inl same))
        · exact .inl later
      · exact .inr (agrees_copy (.inr agrees))

theorem agrees_empty (absent : has settings field = false) : Agrees .empty settings field := by
  cases field <;>
    · have missing := Option.isNone_iff_eq_none.mp (Option.isSome_eq_false_iff.mp absent)
      exact missing.symm

theorem forall₂_reads (writable : Writable settings) (give : List.Forall₂ (Gives settings) fields assignments)
    (carry : List.Forall₂ Carries entries assignments) : List.Forall₂ (Reads settings) entries fields := by
  induction give generalizing entries with
  | nil =>
      cases carry
      exact .nil
  | cons gives give ih =>
      cases carry with
      | cons carries carry => exact .cons (reads_of_gives writable gives carries) (ih carry)

theorem foldlM_addEntry (reads : List.Forall₂ (Reads settings) entries fields) (draft : Settings) :
    entries.foldlM addEntry draft = .ok (fields.foldl (copy settings) draft) := by
  induction reads generalizing draft with
  | nil => rfl
  | cons step more ih =>
      rw [List.foldlM_cons, step]
      exact ih _

/-- The order of the entries does not count. -/
theorem ofEntries_of_gives (writable : Writable settings) (give : List.Forall₂ (Gives settings) fields assignments)
    (carry : List.Forall₂ Carries entries assignments) (complete : ∀ field, has settings field = true → field ∈ fields) :
    ofEntries entries = .ok settings := by
  -- sorting moves the entries about, and each takes over its own field wherever it stands
  have perm : (sortByName entries).Perm entries := List.mergeSort_perm entries _
  obtain ⟨sorted, reads, perm⟩ := List.perm_comp_forall₂ perm (forall₂_reads writable give carry)
  rw [ofEntries, foldlM_addEntry reads]
  refine congrArg Except.ok (eq_of_agrees fun field => agrees_foldl_copy ?_)
  cases present : has settings field with
  | true => exact .inl (perm.mem_iff.mpr (complete field present))
  | false => exact .inr (agrees_empty present)

/-! ### Documents -/

/-- Settings have a document for every order of their lines, and any such document makes the configuration that the
settings make, or fails as they do. -/
theorem ofDocument_of_writes (writable : Writable settings) (order : fields.Perm (Field.all.filter (has settings))) :
    (∃ document, Writes settings fields document) ∧
      ∀ document, Writes settings fields document → ofDocument document = settings.resolve := by
  have listed : ∀ field, field ∈ fields ↔ has settings field = true := by
    intro field
    have named : field ∈ Field.all := by cases field <;> decide
    rw [order.mem_iff, List.mem_filter]
    exact and_iff_right named
  refine ⟨exists_document writable fun field member => (listed field).mp member, ?_⟩
  intro document writes
  obtain ⟨assignments, give, lines⟩ := writes
  have distinct : (assignments.map Prod.fst).Nodup := by
    have nodup : fields.Nodup := order.nodup_iff.mpr (List.Nodup.filter _ (by decide))
    rw [names_of_gives give]
    exact nodup.map name_injective
  obtain ⟨entries, read, carry⟩ := Toml.read_of_lines lines distinct
  have made := ofEntries_of_gives writable give carry fun field present => (listed field).mpr present
  rw [ofDocument, readSettings, read]
  simp only [made]

/-- The largest timeout and a name with a control character, which is no bare name. -/
theorem ofDocument_of_writes_bell :
    ofDocument "probe_timeout_ms = 18446744073709551615\nhelper_name = \"\\u0007/\"".toList = .error (.badName "\x07/") := by
  let settings : Settings := ⟨none, some "\x07/", some 18446744073709551615, none, none, none⟩
  have fits : 18446744073709551615 < Word.count 64 := by decide
  have writable : Writable settings :=
    ⟨by simp [settings], by simpa [settings] using fits, by simp [settings], by simp [settings]⟩
  have order : [Field.probeTimeout, .helperName].Perm (Field.all.filter (has settings)) := by decide
  have hex : Toml.Hex ['0', '0', '0', '7'] [0, 0, 0, 7] := by simp [Toml.Hex, Toml.hexTable]
  have bell : Toml.Written ('\\' :: 'u' :: ['0', '0', '0', '7']) '\x07' := .number (by decide) hex rfl
  have slash : Toml.Written ['/'] '/' := .plain (by decide) (by decide) (by decide) (by decide)
  have content : Toml.Content ['\\', 'u', '0', '0', '0', '7', '/'] "\x07/".toList := .cons bell (.cons slash .nil)
  have timeout : Assigns ("probe_timeout_ms".toList ++ ' ' :: '=' :: ' ' :: Decimal.digits 18446744073709551615)
      ("probe_timeout_ms", .count 18446744073709551615) :=
    .intro (by decide) (List.all_eq_true.mp (by decide)) (.count _ (by decide))
  have name : Assigns ("helper_name".toList ++ ' ' :: '=' :: ' ' :: ('"' :: ['\\', 'u', '0', '0', '0', '7', '/'] ++ ['"']))
      ("helper_name", .text "\x07/") :=
    .intro (by decide) (List.all_eq_true.mp (by decide)) (.text ⟨_, content, rfl⟩)
  have writes : Writes settings [.probeTimeout, .helperName] _ :=
    ⟨_, .cons (.probeTimeout rfl) (.cons (.helperName rfl) .nil), .line timeout (.last name)⟩
  exact (ofDocument_of_writes writable order).2 _ writes

end AuthBroker.Config
