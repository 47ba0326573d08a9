import AuthBroker.Proofs.Config.Entry
import AuthBroker.Proofs.Config.Resolving
import AuthBroker.Proofs.Text.ByteOrder
import AuthBroker.Proofs.Toml.Distinct

namespace AuthBroker.Config

open AuthBroker.Toml (Value Key Item Entries Distinct Assigns)
open AuthBroker.Text.Utf8 (Below)

/-! Which documents make a configuration, and what is said of the others.

A root table makes a configuration if each of its entries suits the field that it names, and the path and the name of
the helper may stand.  Of the entries that do not fit, the one with the lowest name is reported, wherever it is in the
document; path and name are looked at once all entries fit.
-/

/-! ### Outcomes -/

def Given (entries : Entries) (field : Field) (value : Value) : Prop :=
  ∃ entry ∈ entries, Supplies entry field value

def Holds (config : Config) : Field → Value → Prop
  | .helperPath, .text text => config.helperPath = some (.ofString text)
  | .helperName, .text text => config.helperName = text
  | .probeTimeout, .count count => config.probeTimeout = count
  | .replyReadTimeout, .count count => config.replyReadTimeout = count
  | .requestWriteTimeout, .count count => config.requestWriteTimeout = count
  | .forwardEnv, .texts texts => config.forwardEnv = texts
  | _, _ => False

def HoldsDefault (config : Config) : Field → Prop
  | .helperPath => config.helperPath = none
  | .helperName => config.helperName = "runas-helper"
  | .probeTimeout => config.probeTimeout = 3000
  | .replyReadTimeout => config.replyReadTimeout = 500
  | .requestWriteTimeout => config.requestWriteTimeout = 1000
  | .forwardEnv => config.forwardEnv = ["PATH", "LANG", "LC_ALL"]

/-- The path, if there is one, starts with a slash. -/
def PathStands (entries : Entries) : Prop :=
  ∀ text, Given entries .helperPath (.text text) → text.toList.head? = some '/'

/-- The name, if there is one, is not empty and has no slash. -/
def NameStands (entries : Entries) : Prop :=
  ∀ text, Given entries .helperName (.text text) → text.toList ≠ [] ∧ '/' ∉ text.toList

/-- What a document with this root table comes to. -/
inductive Outcome (document : List Char) (entries : Entries) : Except Defect Config → Prop
  | accepted {config : Config} (fit : ∀ entry ∈ entries, Fits entry) (path : PathStands entries)
      (name : NameStands entries) (present : ∀ field value, Given entries field value → config.Holds field value)
      (absent : ∀ field, (∀ value, ¬ Given entries field value) → config.HoldsDefault field) :
      Outcome document entries (.ok config)
  | misfit {entry : Key × Item} {complaint : Complaint} (member : entry ∈ entries) (misfits : Misfits entry complaint)
      (least : ∀ other ∈ entries, Below other.1.name entry.1.name → Fits other) :
      Outcome document entries (.error (.unfit (complaint.1.spot document) complaint.2))
  | relativePath {text : String} (fit : ∀ entry ∈ entries, Fits entry) (given : Given entries .helperPath (.text text))
      (relative : text.toList.head? ≠ some '/') : Outcome document entries (.error (.relativePath (.ofString text)))
  | badName {text : String} (fit : ∀ entry ∈ entries, Fits entry) (path : PathStands entries)
      (given : Given entries .helperName (.text text)) (bad : text.toList = [] ∨ '/' ∈ text.toList) :
      Outcome document entries (.error (.badName text))

variable {settings draft : Settings} {config : Config} {field : Field} {value : Value} {entry : Key × Item}
  {entries before : Entries} {complaint : Complaint} {name : String} {path : FilePath} {document : List Char}
  {outcome : Except Defect Config}

/-! ### Adding all entries -/

/-- Settings with a value for each field that is given and for no other. -/
structure Collects (settings : Settings) (entries : Entries) : Prop where
  given : ∀ {field value}, Given entries field value → Gives settings field (field.name, value)
  absent : ∀ {field}, (∀ value, ¬ Given entries field value) → Agrees .empty settings field

theorem Gives.congr {assignment : String × Value} (gives : Gives draft field assignment)
    (agrees : Agrees draft settings field) : Gives settings field assignment := by
  cases gives <;>
    · rename_i given
      constructor
      exact agrees.symm.trans given

theorem Agrees.trans {left middle right : Settings} (agrees : Agrees left middle field)
    (agrees' : Agrees middle right field) : Agrees left right field := by
  cases field <;> exact Eq.trans agrees agrees'

theorem given_cons : Given (entry :: entries) field value ↔ Supplies entry field value ∨ Given entries field value := by
  simp [Given]

/-- A field keeps its value while entries of other names are added. -/
theorem foldlM_addEntry_of_fit (fit : ∀ entry ∈ entries, Fits entry) (distinct : Distinct entries) (draft : Settings) :
    ∃ settings, entries.foldlM addEntry draft = .ok settings ∧
      (∀ field value, Given entries field value → Gives settings field (field.name, value)) ∧
      ∀ field, (∀ value, ¬ Given entries field value) → Agrees draft settings field := by
  induction entries generalizing draft with
  | nil =>
      refine ⟨draft, rfl, ?_, ?_⟩
      · rintro field value ⟨entry, member, -⟩
        contradiction
      · intro field _
        cases field <;> rfl
  | cons entry entries ih =>
      rw [List.forall_mem_cons] at fit
      obtain ⟨fresh, distinct⟩ := List.nodup_cons.mp distinct
      obtain ⟨field, value, supplies⟩ := fit.1
      obtain ⟨next, added, gives, frame⟩ := addEntry_of_supplies supplies draft
      obtain ⟨settings, folded, given, absent⟩ := ih fit.2 distinct next
      refine ⟨settings, ?_, ?_, ?_⟩
      · rw [List.foldlM_cons, added]
        exact folded
      · intro field' value' given'
        rcases given_cons.mp given' with supplies' | later
        · obtain ⟨next', added', gives', -⟩ := addEntry_of_supplies supplies' draft
          rw [Except.ok.inj (added'.symm.trans added)] at gives'
          refine gives'.congr (absent field' ?_)
          rintro other ⟨entry', member, named, -⟩
          have same : entry'.1.name = entry.1.name := named.trans supplies'.1.symm
          exact fresh (List.mem_map.mpr ⟨entry', member, same⟩)
        · exact given field' value' later
      · intro field' missing
        have differs : field' ≠ field := by
          rintro rfl
          exact missing value (given_cons.mpr (.inl supplies))
        refine (frame field' differs).trans (absent field' ?_)
        intro other later
        exact missing other (given_cons.mpr (.inr later))

theorem foldlM_addEntry_of_misfits (fit : ∀ entry ∈ before, Fits entry) (misfits : Misfits entry complaint)
    (after : Entries) (draft : Settings) : (before ++ entry :: after).foldlM addEntry draft = .error complaint := by
  induction before generalizing draft with
  | nil =>
      rw [List.nil_append, List.foldlM_cons, addEntry_of_misfits misfits]
      rfl
  | cons first before ih =>
      rw [List.forall_mem_cons] at fit
      obtain ⟨field, value, supplies⟩ := fit.1
      obtain ⟨next, added, -⟩ := addEntry_of_supplies supplies draft
      rw [List.cons_append, List.foldlM_cons, added]
      exact ih fit.2 next

/-! ### The order of the entries -/

theorem sortByName_perm (entries : Entries) : (sortByName entries).Perm entries :=
  List.mergeSort_perm entries _

theorem distinct_sortByName (distinct : Distinct entries) : Distinct (sortByName entries) :=
  ((sortByName_perm entries).map _).nodup_iff.mpr distinct

theorem below_sortByName (distinct : Distinct entries) :
    (sortByName entries).Pairwise fun left right => Below left.1.name right.1.name := by
  have sorted : (sortByName entries).Pairwise fun left right => decide (left.1.name ≤ right.1.name) = true := by
    refine List.pairwise_mergeSort ?_ ?_ entries
    · intro left middle right first second
      exact decide_eq_true (String.le_trans (of_decide_eq_true first) (of_decide_eq_true second))
    · intro left right
      rw [Bool.or_eq_true, decide_eq_true_eq, decide_eq_true_eq]
      exact String.le_total _ _
  have apart : (sortByName entries).Pairwise fun left right => left.1.name ≠ right.1.name :=
    List.pairwise_map.mp (distinct_sortByName distinct)
  refine sorted.imp₂ ?_ apart
  intro left right order differs
  have notAbove : ¬ right.1.name < left.1.name := String.not_lt.mpr (of_decide_eq_true order)
  exact Text.Utf8.below_iff.mpr (Environment.above_of_not_below notAbove differs.symm)

/-- Of the entries that do not fit, one has the lowest name. -/
theorem fit_or_least (entries : Entries) : (∀ entry ∈ entries, Fits entry) ∨
    ∃ entry ∈ entries, (∃ complaint, Misfits entry complaint) ∧
      ∀ other ∈ entries, Below other.1.name entry.1.name → Fits other := by
  induction entries with
  | nil => exact .inl (by simp)
  | cons first entries ih =>
      rcases ih with fit | ⟨entry, member, misfits, least⟩
      · rcases fits_or_misfits first with fits | misfits
        · exact .inl (List.forall_mem_cons.mpr ⟨fits, fit⟩)
        · refine .inr ⟨first, List.mem_cons_self, misfits, List.forall_mem_cons.mpr ⟨?_, ?_⟩⟩
          · intro below
            exact absurd below (Below.irrefl _)
          · intro other among _
            exact fit other among
      · rcases fits_or_misfits first with fits | misfits'
        · exact .inr ⟨entry, List.mem_cons_of_mem _ member, misfits, List.forall_mem_cons.mpr ⟨fun _ => fits, least⟩⟩
        · by_cases lower : Below first.1.name entry.1.name
          · refine .inr ⟨first, List.mem_cons_self, misfits', List.forall_mem_cons.mpr ⟨?_, ?_⟩⟩
            · intro below
              exact absurd below (Below.irrefl _)
            · intro other among below
              refine least other among (Text.Utf8.below_iff.mpr ?_)
              exact String.lt_trans (Text.Utf8.below_iff.mp below) (Text.Utf8.below_iff.mp lower)
          · refine .inr ⟨entry, List.mem_cons_of_mem _ member, misfits, List.forall_mem_cons.mpr ⟨?_, least⟩⟩
            intro below
            exact absurd below lower

theorem ofEntries_of_fit (fit : ∀ entry ∈ entries, Fits entry) (distinct : Distinct entries) :
    ∃ settings, ofEntries entries = .ok settings ∧ Collects settings entries := by
  have same {entry : Key × Item} : entry ∈ sortByName entries ↔ entry ∈ entries := (sortByName_perm entries).mem_iff
  have moved {field : Field} {value : Value} : Given (sortByName entries) field value ↔ Given entries field value :=
    exists_congr fun entry => and_congr_left fun _ => same
  obtain ⟨settings, folded, given, absent⟩ :=
    foldlM_addEntry_of_fit (fun entry member => fit entry (same.mp member)) (distinct_sortByName distinct) .empty
  refine ⟨settings, folded, fun given' => given _ _ (moved.mpr given'), fun missing => absent _ ?_⟩
  intro value given'
  exact missing value (moved.mp given')

theorem ofEntries_of_misfits (distinct : Distinct entries) (member : entry ∈ entries)
    (misfits : Misfits entry complaint) (least : ∀ other ∈ entries, Below other.1.name entry.1.name → Fits other) :
    ofEntries entries = .error complaint := by
  have sorted := below_sortByName distinct
  have same := sortByName_perm entries
  rw [ofEntries]
  obtain ⟨before, after, split⟩ := List.append_of_mem (same.mem_iff.mpr member)
  rw [split] at sorted same ⊢
  -- what is sorted before the entry has a lower name
  refine foldlM_addEntry_of_misfits (fun other among => ?_) misfits after .empty
  have lower := (List.pairwise_append.mp sorted).2.2 other among entry List.mem_cons_self
  exact least other (same.mem_iff.mp (List.mem_append_left _ among)) lower

/-! ### What settings come to -/

theorem fills_iff_holds (gives : Gives settings field (name, value)) :
    Fills settings config field ↔ config.Holds field value := by
  cases gives <;>
    · rename_i given
      rw [Fills, given]
      rfl

theorem fills_iff_holdsDefault (absent : Agrees .empty settings field) :
    Fills settings config field ↔ config.HoldsDefault field := by
  cases field <;>
    · rw [Fills, ← absent]
      rfl

namespace Collects

theorem fills_iff (collects : Collects settings entries) : (∀ field, Fills settings config field) ↔
    (∀ field value, Given entries field value → config.Holds field value) ∧
      ∀ field, (∀ value, ¬ Given entries field value) → config.HoldsDefault field := by
  constructor
  · intro fills
    refine ⟨fun field value given => ?_, fun field missing => ?_⟩
    · exact (fills_iff_holds (collects.given given)).mp (fills field)
    · exact (fills_iff_holdsDefault (collects.absent missing)).mp (fills field)
  · rintro ⟨holds, standard⟩ field
    by_cases present : ∃ value, Given entries field value
    · obtain ⟨value, given⟩ := present
      exact (fills_iff_holds (collects.given given)).mpr (holds field value given)
    · have missing := not_exists.mp present
      exact (fills_iff_holdsDefault (collects.absent missing)).mpr (standard field missing)

theorem exists_given (collects : Collects settings entries) (present : has settings field = true) :
    ∃ value, Given entries field value := by
  by_contra missing
  have absent := collects.absent (not_exists.mp missing)
  cases field <;>
    · rw [has, ← absent] at present
      contradiction

theorem exists_path (collects : Collects settings entries) (set : settings.helperPath = some path) :
    ∃ text, Given entries .helperPath (.text text) ∧ path = .ofString text := by
  have present : has settings .helperPath = true := Option.isSome_of_eq_some set
  obtain ⟨value, given⟩ := collects.exists_given present
  cases collects.given given with
  | helperPath stored => exact ⟨_, given, Option.some.inj (set.symm.trans stored)⟩

theorem given_name (collects : Collects settings entries) (set : settings.helperName = some name) :
    Given entries .helperName (.text name) := by
  have present : has settings .helperName = true := Option.isSome_of_eq_some set
  obtain ⟨value, given⟩ := collects.exists_given present
  cases collects.given given with
  | helperName stored =>
      rw [Option.some.inj (set.symm.trans stored)]
      exact given

theorem absolute (collects : Collects settings entries) (stands : PathStands entries)
    (set : settings.helperPath = some path) : path.isAbsolute = true := by
  obtain ⟨text, given, rfl⟩ := collects.exists_path set
  exact isAbsolute_ofString_iff.mpr (stands text given)

theorem bare (collects : Collects settings entries) (stands : NameStands entries)
    (set : settings.helperName = some name) : isBareName name = true :=
  isBareName_iff.mpr (stands name (collects.given_name set))

end Collects

/-! ### Documents -/

theorem ofDocument_of_settings (taken : Toml.read document = .ok entries) (made : ofEntries entries = .ok settings) :
    ofDocument document = settings.resolve := by
  rw [ofDocument, readSettings, taken]
  simp only [made]

theorem ofDocument_of_complaint (taken : Toml.read document = .ok entries)
    (failed : ofEntries entries = .error complaint) :
    ofDocument document = .error (.unfit (complaint.1.spot document) complaint.2) := by
  rw [ofDocument, readSettings, taken]
  simp only [failed]

theorem ofDocument_of_outcome (taken : Toml.read document = .ok entries) (comes : Outcome document entries outcome) :
    ofDocument document = outcome := by
  have distinct := Toml.distinct_read taken
  cases comes with
  | accepted fit path name present absent =>
      obtain ⟨settings, made, collects⟩ := ofEntries_of_fit fit distinct
      obtain ⟨config, resolved, fills⟩ :=
        resolve_of_bare (fun _ => collects.absolute path) (fun _ => collects.bare name)
      rw [ofDocument_of_settings taken made, resolved, eq_of_fills fills (collects.fills_iff.mpr ⟨present, absent⟩)]
  | misfit member misfits least =>
      exact ofDocument_of_complaint taken (ofEntries_of_misfits distinct member misfits least)
  | relativePath fit given relative =>
      obtain ⟨settings, made, collects⟩ := ofEntries_of_fit fit distinct
      rw [ofDocument_of_settings taken made]
      cases collects.given given with
      | helperPath stored => exact resolve_of_relative stored (mt isAbsolute_ofString_iff.mp relative)
  | badName fit path given bad =>
      obtain ⟨settings, made, collects⟩ := ofEntries_of_fit fit distinct
      rw [ofDocument_of_settings taken made]
      cases collects.given given with
      | helperName stored =>
          refine resolve_of_badName (fun _ => collects.absolute path) stored ?_
          rw [isBareName_iff]
          rintro ⟨nonempty, bare⟩
          exact bad.elim nonempty bare

theorem exists_outcome (taken : Toml.read document = .ok entries) : ∃ outcome, Outcome document entries outcome := by
  rcases fit_or_least entries with fit | ⟨entry, member, ⟨complaint, misfits⟩, least⟩
  · by_cases path : PathStands entries
    · by_cases name : NameStands entries
      · obtain ⟨settings, -, collects⟩ := ofEntries_of_fit fit (Toml.distinct_read taken)
        obtain ⟨config, -, fills⟩ :=
          resolve_of_bare (fun _ => collects.absolute path) (fun _ => collects.bare name)
        obtain ⟨present, absent⟩ := collects.fills_iff.mp fills
        exact ⟨_, .accepted fit path name present absent⟩
      · simp only [NameStands, not_forall, not_and_or, not_not] at name
        obtain ⟨text, given, bad⟩ := name
        exact ⟨_, .badName fit path given bad⟩
    · simp only [PathStands, not_forall] at path
      obtain ⟨text, given, relative⟩ := path
      exact ⟨_, .relativePath fit given relative⟩
  · exact ⟨_, .misfit member misfits least⟩

/-- The root table of a document has each name once, and decides what the document comes to. -/
theorem ofDocument_eq_iff_outcome (taken : Toml.read document = .ok entries) :
    Distinct entries ∧ ∀ outcome, ofDocument document = outcome ↔ Outcome document entries outcome := by
  refine ⟨Toml.distinct_read taken, fun outcome => ⟨?_, ofDocument_of_outcome taken⟩⟩
  rintro rfl
  obtain ⟨outcome, comes⟩ := exists_outcome taken
  rw [ofDocument_of_outcome taken comes]
  exact comes

/-- A key that is unknown, and after it a list that is none; the list has the lower name. -/
theorem ofDocument_eq_iff_outcome_unlisted : ∃ spot, ofDocument "zeta = 1\nforward_env = 3".toList =
    .error (.unfit spot (.wrongType (.integer 3) "a sequence")) := by
  have unknown : Assigns ("zeta".toList ++ ' ' :: '=' :: ' ' :: Decimal.digits 1) ("zeta", .count 1) :=
    .intro (by decide) (List.all_eq_true.mp (by decide)) (.count _ (by decide))
  have unlisted : Assigns ("forward_env".toList ++ ' ' :: '=' :: ' ' :: Decimal.digits 3) ("forward_env", .count 3) :=
    .intro (by decide) (List.all_eq_true.mp (by decide)) (.count _ (by decide))
  obtain ⟨entries, taken, carry⟩ := Toml.read_of_lines (.line unknown (.last unlisted)) (by decide)
  obtain ⟨first, _, ⟨zeta, -⟩, more, rfl⟩ := List.forall₂_cons_right_iff.mp carry
  obtain ⟨⟨key, item⟩, _, ⟨named, holds⟩, nothing, rfl⟩ := List.forall₂_cons_right_iff.mp more
  cases List.forall₂_nil_right_iff.mp nothing
  have zeta : first.1.name = "zeta" := zeta
  cases holds with
  | count span =>
      have named : key.name = Field.forwardEnv.name := named
      let item : Item := .scalar span (.integer (some 3))
      have misfits : Misfits (key, item) (span, .wrongType (.integer 3) "a sequence") := by
        refine .unsuited named (.forwardEnv ?_ (.mistyped (.integer span 3)))
        rintro elements ⟨span, never | never⟩ <;> contradiction
      have member : (key, item) ∈ [first, (key, item)] := by simp
      refine ⟨_, ((ofDocument_eq_iff_outcome taken).2 _).mpr (.misfit member misfits ?_)⟩
      intro other among below
      simp only [List.mem_cons, List.not_mem_nil, or_false] at among
      rcases among with rfl | rfl
      · rw [zeta, named, Text.Utf8.below_iff] at below
        exact absurd below (by decide)
      · exact absurd below (Below.irrefl _)

end AuthBroker.Config
