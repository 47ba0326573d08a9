import AuthBroker.Toml.Document

namespace AuthBroker.Toml

/-! The names of the root table.

A statement puts a name that is new at the end; a name that is there already is given another item in its place, if
anything.  The names of the root table therefore stay distinct, whatever the statements are.
-/

def names (entries : Entries) : List String :=
  entries.map fun entry => entry.1.name

/-- No two entries have the same name. -/
def Distinct (entries : Entries) : Prop :=
  (names entries).Nodup

/-- Distinct names stay distinct. -/
def Keeps (act : Origin → Entries → Option Entries) : Prop :=
  ∀ origin entries changed, act origin entries = some changed → Distinct entries → Distinct changed

variable {name : String} {key : Key} {keys : List Key} {item : Item} {span : Span} {missing : Origin}
  {act : Origin → Entries → Option Entries} {entries changed root : Entries} {draft next : Draft}
  {statement : Statement} {statements : List Statement} {document : List Char}

theorem find?_eq_none_iff : find? entries name = none ↔ name ∉ names entries := by
  rw [find?, Option.map_eq_none_iff, List.find?_eq_none]
  simp [names]

theorem names_replace : names (replace name item entries) = names entries := by
  induction entries with
  | nil => rfl
  | cons entry entries ih =>
      rw [replace]
      split
      · rfl
      · exact congrArg (entry.1.name :: ·) ih

theorem names_put (present : key.name ∈ names entries) : names (put key item entries) = names entries := by
  induction entries with
  | nil => contradiction
  | cons entry entries ih =>
      rw [put]
      split
      · rename_i same
        exact congrArg (· :: names entries) same.symm
      · rename_i other
        have later : key.name ∈ names entries := (List.mem_cons.mp present).resolve_left (Ne.symm other)
        exact congrArg (entry.1.name :: ·) (ih later)

theorem distinct_append (fresh : find? entries key.name = none) (distinct : Distinct entries) :
    Distinct (entries ++ [(key, item)]) := by
  have new : key.name ∉ names entries := find?_eq_none_iff.mp fresh
  rw [Distinct, names, List.map_append]
  refine List.nodup_append.mpr ⟨distinct, List.nodup_cons.mpr ⟨List.not_mem_nil, List.nodup_nil⟩, ?_⟩
  intro old member other among same
  have same : old = key.name := same.trans (List.mem_singleton.mp among)
  exact new (same ▸ member)

theorem distinct_replace (distinct : Distinct entries) : Distinct (replace name item entries) := by
  rw [Distinct, names_replace]
  exact distinct

theorem distinct_put (found : find? entries key.name = some item) (distinct : Distinct entries) (other : Item) :
    Distinct (put key other entries) := by
  by_cases present : key.name ∈ names entries
  · rw [Distinct, names_put present]
    exact distinct
  · rw [find?_eq_none_iff.mpr present] at found
    contradiction

/-- Only the end of the path is left to the action: on the way there, the table in hand gets at most one new name. -/
theorem keeps_change (keeps : Keeps act) (path : List Key) : Keeps (change missing act path) := by
  intro origin entries changed made distinct
  cases path with
  | nil => exact keeps origin entries changed made distinct
  | cons key path =>
      rw [change] at made
      split at made
      · rename_i fresh
        obtain ⟨inner, -, rfl⟩ := Option.map_eq_some_iff.mp made
        exact distinct_append fresh distinct
      · split at made
        · contradiction
        · obtain ⟨inner, -, rfl⟩ := Option.map_eq_some_iff.mp made
          exact distinct_replace distinct
      · split at made
        · obtain ⟨inner, -, rfl⟩ := Option.map_eq_some_iff.mp made
          exact distinct_replace distinct
        · contradiction
      · contradiction
      · contradiction

theorem keeps_assign (keys : List Key) (item : Item) : Keeps (assign keys item) := by
  intro origin entries changed made
  rw [assign] at made
  split at made
  · contradiction
  · refine keeps_change ?_ _ origin entries changed made
    intro origin entries changed made distinct
    dsimp only at made
    split at made
    · contradiction
    · split at made
      · contradiction
      · rename_i fresh
        rw [← Option.some.inj made]
        exact distinct_append fresh distinct

theorem distinct_openTable (opened : openTable span keys root = some changed) (distinct : Distinct root) :
    Distinct changed := by
  rw [openTable] at opened
  split at opened
  · contradiction
  · refine keeps_change ?_ _ .header root changed opened distinct
    intro origin entries changed made distinct
    dsimp only at made
    split at made
    · rename_i fresh
      rw [← Option.some.inj made]
      exact distinct_append fresh distinct
    · rename_i found
      rw [← Option.some.inj made]
      exact distinct_put found distinct _
    · contradiction

theorem distinct_pushTable (pushed : pushTable span keys root = some changed) (distinct : Distinct root) :
    Distinct changed := by
  rw [pushTable] at pushed
  split at pushed
  · contradiction
  · refine keeps_change ?_ _ .header root changed pushed distinct
    intro origin entries changed made distinct
    dsimp only at made
    split at made
    · rename_i fresh
      rw [← Option.some.inj made]
      exact distinct_append fresh distinct
    · rw [← Option.some.inj made]
      exact distinct_replace distinct
    · contradiction

/-! ### Statement after statement -/

theorem orMalformed_eq_ok {α β : Type} {made : Option α} {wrap : α → β} {result : β}
    (wrapped : (orMalformed made).map wrap = .ok result) : ∃ value, made = some value ∧ wrap value = result := by
  cases made with
  | none => contradiction
  | some value => exact ⟨value, rfl, Except.ok.inj wrapped⟩

theorem distinct_add (added : draft.add statement = .ok next) (distinct : Distinct draft.root) :
    Distinct next.root := by
  cases statement with
  | assignment parts value =>
      rw [Draft.add] at added
      split at added
      · contradiction
      · split at added
        · contradiction
        · obtain ⟨root, made, rfl⟩ := orMalformed_eq_ok added
          exact keeps_change (keeps_assign _ _) _ _ _ _ made distinct
  | header span parts =>
      rw [Draft.add] at added
      split at added
      · contradiction
      · obtain ⟨root, opened, rfl⟩ := orMalformed_eq_ok added
        exact distinct_openTable opened distinct
  | doubledHeader span parts =>
      rw [Draft.add] at added
      split at added
      · contradiction
      · obtain ⟨root, pushed, rfl⟩ := orMalformed_eq_ok added
        exact distinct_pushTable pushed distinct

theorem distinct_foldlM_add (added : statements.foldlM Draft.add draft = .ok next) (distinct : Distinct draft.root) :
    Distinct next.root := by
  induction statements generalizing draft with
  | nil =>
      cases added
      exact distinct
  | cons statement statements ih =>
      rw [List.foldlM_cons] at added
      cases step : draft.add statement with
      | error flaw =>
          rw [step] at added
          contradiction
      | ok after =>
          rw [step] at added
          exact ih added (distinct_add step distinct)

theorem distinct_read (taken : read document = .ok entries) : Distinct entries := by
  rw [read] at taken
  split at taken
  · rename_i statements _
    rw [ofStatements] at taken
    cases folded : statements.foldlM Draft.add Draft.empty with
    | error flaw =>
        rw [folded] at taken
        contradiction
    | ok draft =>
        rw [folded] at taken
        rw [← Except.ok.inj taken]
        exact distinct_foldlM_add folded List.nodup_nil
  · contradiction

end AuthBroker.Toml
