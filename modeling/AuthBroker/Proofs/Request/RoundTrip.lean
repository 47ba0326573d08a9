import AuthBroker.Proofs.Environment
import AuthBroker.Proofs.Request.Wire
import AuthBroker.Proofs.Text.ByteOrder

namespace AuthBroker.Request

open AuthBroker.Text.Utf8

/-! What becomes of a request on its way to the helper.

Nothing is lost but the border between the name and the value of an environment entry: an
entry is one text, split again at its first equals sign.  So a name with an equals sign in it
comes back shorter, or not at all when nothing would be left of it.
-/

/-- The text is a name, an equals sign and a value, and there is none in the name. -/
def Splits (text name value : String) : Prop :=
  text = name ++ "=" ++ value ∧ '=' ∉ name.toList

/-- A name that cannot be told from the text of its entry. -/
def Nameless (name : String) : Prop :=
  name = "" ∨ ∃ tail, name = "=" ++ tail

variable {entry : String × String} {entries : List (String × String)} {text name value : String}

/-! ### One entry -/

theorem splitEntry_eq_some_iff {chars first second : List Char} :
    splitEntry chars = some (first, second) ↔ chars = first ++ '=' :: second ∧ '=' ∉ first := by
  constructor
  · intro found
    unfold splitEntry at found
    split at found
    · contradiction
    · rename_i equals later shape
      rw [Option.some.injEq, Prod.mk.injEq] at found
      obtain ⟨rfl, rfl⟩ := found
      have isEquals : equals = '=' := by
        have kept := List.head?_dropWhile_not (· != '=') chars
        rw [shape] at kept
        simpa using kept
      refine ⟨?_, fun member => ?_⟩
      · rw [isEquals] at shape
        rw [← shape, List.takeWhile_append_dropWhile]
      · simpa using List.mem_takeWhile_imp member
  · intro splits
    obtain ⟨rfl, clean⟩ := splits
    have before : ∀ char ∈ first, (char != '=') = true := by
      intro char member
      exact bne_iff_ne.mpr fun same => clean (same ▸ member)
    rw [splitEntry, List.dropWhile_append_of_pos before, List.takeWhile_append_of_pos before]
    simp

theorem splitEntry_toList : splitEntry text.toList = some (name.toList, value.toList) ↔
    Splits text name value := by
  have joined : (name ++ "=" ++ value).toList = name.toList ++ '=' :: value.toList := by simp
  rw [splitEntry_eq_some_iff, Splits, ← joined, String.toList_inj]

theorem Splits.unique {other : String} {held : String} (splits : Splits text name value)
    (splits' : Splits text other held) : name = other ∧ value = held := by
  have same := (splitEntry_toList.mpr splits).symm.trans (splitEntry_toList.mpr splits')
  rw [Option.some.injEq, Prod.mk.injEq, String.toList_inj, String.toList_inj] at same
  exact same

theorem splits_of_clean (clean : '=' ∉ name.toList) :
    Splits (entryText (name, value)) name value :=
  ⟨rfl, clean⟩

/-- Every entry splits somewhere, since there is an equals sign in its text. -/
theorem exists_splits (entry : String × String) : ∃ name value, Splits (entryText entry) name value := by
  cases found : splitEntry (entryText entry).toList with
  | none =>
      have spared : ∀ char ∈ (entryText entry).toList, (char != '=') = true := by
        unfold splitEntry at found
        split at found
        · rename_i shape
          exact List.dropWhile_eq_nil_iff.mp shape
        · contradiction
      have equals : ('=' != '=') = true := spared '=' (by simp [entryText])
      contradiction
  | some parts =>
      refine ⟨String.ofList parts.1, String.ofList parts.2, splitEntry_toList.mp ?_⟩
      rw [found, String.toList_ofList, String.toList_ofList]

theorem nameless_iff_head : Nameless name ↔ (entryText (name, value)).toList.head? = some '=' := by
  have joined : (entryText (name, value)).toList = name.toList ++ '=' :: value.toList := by
    simp [entryText]
  rw [joined, Nameless]
  constructor
  · intro headed
    rcases headed with rfl | ⟨tail, rfl⟩
    · simp
    · simp
  · intro head
    cases shape : name.toList with
    | nil => exact .inl (String.toList_inj.mp shape)
    | cons char chars =>
        have isEquals : char = '=' := by simpa [shape] using head
        refine .inr ⟨String.ofList chars, String.toList_inj.mp ?_⟩
        simp [shape, isEquals]

theorem Splits.empty_iff_head (splits : Splits text name value) :
    name = "" ↔ text.toList.head? = some '=' := by
  obtain ⟨rfl, clean⟩ := splits
  constructor
  · intro same
    subst same
    simp
  · intro head
    cases shape : name.toList with
    | nil => exact String.toList_inj.mp shape
    | cons char chars =>
        have isEquals : char = '=' := by simpa [shape] using head
        exact absurd (by simp [shape, isEquals]) clean

/-- Nothing is left of a name exactly when it cannot be told. -/
theorem Splits.empty_iff (splits : Splits (entryText entry) name value) :
    name = "" ↔ Nameless entry.1 := by
  rw [splits.empty_iff_head, nameless_iff_head]

theorem parseEntry_of_splits (splits : Splits text name value) (named : name ≠ "") :
    parseEntry text = .ok (name, value) := by
  have found := splitEntry_toList.mpr splits
  cases shape : name.toList with
  | nil => exact absurd (String.toList_inj.mp shape) named
  | cons char chars =>
      rw [shape] at found
      simp only [parseEntry, found]
      rw [← shape, String.ofList_toList, String.ofList_toList]

theorem parseEntry_of_nameless (nameless : Nameless entry.1) :
    parseEntry (entryText entry) = .error (.malformedEnvironment (entryText entry)) := by
  obtain ⟨name, value, splits⟩ := exists_splits entry
  have found := splitEntry_toList.mpr splits
  rw [splits.empty_iff.mpr nameless] at found
  simp [parseEntry, found]

/-! ### All entries -/

theorem parseEntries_append (environment : Environment) (texts : List String) (text : String) :
    parseEntries environment (texts ++ [text]) =
      match parseEntries environment texts with
      | .error failure => .error failure
      | .ok environment =>
          match parseEntry text with
          | .error failure => .error failure
          | .ok (name, value) => .ok (environment.insert name value) := by
  induction texts generalizing environment with
  | nil =>
      rw [List.nil_append, parseEntries, parseEntries]
      rfl
  | cons head texts ih =>
      rw [List.cons_append, parseEntries, parseEntries]
      cases parseEntry head with
      | error failure => rfl
      | ok setting => exact ih _

/-- The value of a name is settled by the last entry that is split there. -/
def Settles (entries : List (String × String)) (name value : String) : Prop :=
  ∃ entry ∈ entries, Splits (entryText entry) name value ∧
    ∀ other ∈ entries, ∀ held, Splits (entryText other) name held → ¬ Below entry.1 other.1

theorem settles_append (ordered : Environment.Ordered (entries ++ [entry])) :
    Settles (entries ++ [entry]) name value ↔ Splits (entryText entry) name value ∨
      (∀ held, ¬ Splits (entryText entry) name held) ∧ Settles entries name value := by
  have below : ∀ other ∈ entries, Below other.1 entry.1 := by
    intro other member
    have before := (List.pairwise_append.mp ordered).2.2 other member entry List.mem_cons_self
    exact below_iff.mpr before
  constructor
  · intro settles
    obtain ⟨winner, member, splits, last⟩ := settles
    rcases List.mem_append.mp member with earlier | final
    · refine .inr ⟨fun held splits' => ?_, winner, earlier, splits, fun other member' => ?_⟩
      · exact last entry (by simp) held splits' (below winner earlier)
      · exact last other (List.mem_append_left _ member')
    · exact .inl (List.mem_singleton.mp final ▸ splits)
  · intro either
    rcases either with splits | ⟨never, winner, member, splits, last⟩
    · refine ⟨entry, by simp, splits, fun other member held _ => ?_⟩
      rcases List.mem_append.mp member with earlier | final
      · exact (below other earlier).asymm
      · exact List.mem_singleton.mp final ▸ Below.irrefl entry.1
    · refine ⟨winner, List.mem_append_left _ member, splits, fun other member' held splits' => ?_⟩
      rcases List.mem_append.mp member' with earlier | final
      · exact last other earlier held splits'
      · exact absurd (List.mem_singleton.mp final ▸ splits') (never held)

/-- Entries whose names can be told make an environment in which the last one settles a
name. -/
theorem parseEntries_of_named (ordered : Environment.Ordered entries)
    (named : ∀ entry ∈ entries, ¬ Nameless entry.1) :
    ∃ environment, parseEntries .empty (entries.map entryText) = .ok environment ∧
      ∀ name value, environment.get? name = some value ↔ Settles entries name value := by
  -- from the last entry on, since it is the one that wins
  induction entries using List.reverseRecOn with
  | nil => exact ⟨.empty, rfl, by simp [Settles]⟩
  | append_singleton entries entry ih =>
      obtain ⟨environment, parsed, settled⟩ := ih (List.pairwise_append.mp ordered).1
        fun other member => named other (List.mem_append_left _ member)
      obtain ⟨name, value, splits⟩ := exists_splits entry
      have notEmpty : name ≠ "" :=
        fun empty => named entry (by simp) (splits.empty_iff.mp empty)
      refine ⟨environment.insert name value, ?_, fun wanted held => ?_⟩
      · rw [List.map_append, List.map_singleton, parseEntries_append, parsed]
        simp only [parseEntry_of_splits splits notEmpty]
      · rw [settles_append ordered, ← settled]
        by_cases same : wanted = name
        · rw [same, Environment.get?_insert_self, Option.some.injEq]
          constructor
          · intro same
            subst same
            exact .inl splits
          · intro either
            rcases either with splits' | ⟨never, -⟩
            · exact (splits.unique splits').2
            · exact absurd splits (never value)
        · rw [Environment.get?_insert_of_ne same]
          constructor
          · intro found
            exact .inr ⟨fun held splits' => same (splits'.unique splits).1, found⟩
          · intro either
            rcases either with splits' | ⟨-, found⟩
            · exact absurd (splits'.unique splits).1 same
            · exact found

/-- The first entry whose name cannot be told is what is complained of. -/
theorem parseEntries_of_nameless (environment : Environment)
    (nameless : ∃ entry ∈ entries, Nameless entry.1) :
    ∃ before entry after, entries = before ++ entry :: after ∧ Nameless entry.1 ∧
      (∀ other ∈ before, ¬ Nameless other.1) ∧
      parseEntries environment (entries.map entryText) =
        .error (.malformedEnvironment (entryText entry)) := by
  induction entries generalizing environment with
  | nil => simp at nameless
  | cons head tail ih =>
      rw [List.map_cons, parseEntries]
      by_cases headNameless : Nameless head.1
      · refine ⟨[], head, tail, rfl, headNameless, by simp, ?_⟩
        simp only [parseEntry_of_nameless headNameless]
      · obtain ⟨name, value, splits⟩ := exists_splits head
        have notEmpty : name ≠ "" := fun empty => headNameless (splits.empty_iff.mp empty)
        have later : ∃ entry ∈ tail, Nameless entry.1 := by
          simpa [headNameless] using nameless
        obtain ⟨before, entry, after, rfl, found, none, failed⟩ :=
          ih (environment.insert name value) later
        refine ⟨head :: before, entry, after, rfl, found, ?_, ?_⟩
        · intro other member
          rcases List.mem_cons.mp member with rfl | later
          · exact headNameless
          · exact none other later
        · simp only [parseEntry_of_splits splits notEmpty, failed]

/-- Entries whose names have no equals sign settle their own names. -/
theorem settles_iff_mem
    (clean : ∀ entry ∈ entries, '=' ∉ entry.1.toList) :
    Settles entries name value ↔ (name, value) ∈ entries := by
  have whole {winner : String × String} {found held : String} (member : winner ∈ entries)
      (splits : Splits (entryText winner) found held) : winner = (found, held) := by
    obtain ⟨same, same'⟩ := (splits_of_clean (clean winner member)).unique splits
    rw [← same, ← same']
  constructor
  · intro settles
    obtain ⟨winner, member, splits, -⟩ := settles
    exact whole member splits ▸ member
  · intro member
    refine ⟨(name, value), member, splits_of_clean (clean _ member), ?_⟩
    intro other member' held splits below
    rw [whole member' splits] at below
    exact Below.irrefl name below

/-! ### Requests -/

section Requests

variable (username : String) (secret : Secret) (arguments : List String) {environment : Environment}

theorem decode_run : decode (run username secret arguments environment).encode =
    match parseEntries .empty (environment.entries.map entryText) with
    | .error failure => .error failure
    | .ok found => .ok (.run username secret arguments found) := by
  have notProbe : runName ≠ probeName := by decide
  rw [decode, readWire_encode]
  cases parsed : parseEntries .empty (environment.entries.map entryText) with
  | error failure => simp only [wire, ofWire, notProbe, if_true, if_false, parsed]
  | ok found => simp only [wire, ofWire, notProbe, if_true, if_false, parsed]

theorem decode_probe : decode (probe username secret).encode = .ok (.probe username secret) := by
  rw [decode, readWire_encode]
  simp only [wire, ofWire, if_true]

/-- The entry complained of has the lowest of the names that cannot be told. -/
theorem decode_run_of_nameless (nameless : ∃ entry ∈ environment.entries, Nameless entry.1) :
    ∃ entry ∈ environment.entries, Nameless entry.1 ∧
      (∀ other ∈ environment.entries, Nameless other.1 → ¬ Below other.1 entry.1) ∧
      decode (run username secret arguments environment).encode =
        .error (.malformedEnvironment (entryText entry)) := by
  obtain ⟨before, entry, after, split, found, none, failed⟩ := parseEntries_of_nameless .empty nameless
  have ordered := environment.ordered
  rw [split] at ordered
  have above := (List.pairwise_cons.mp (List.pairwise_append.mp ordered).2.1).1
  refine ⟨entry, by simp [split], found, fun other member nameless => ?_, ?_⟩
  · rw [split] at member
    rcases List.mem_append.mp member with earlier | later
    · exact absurd nameless (none other earlier)
    · rcases List.mem_cons.mp later with rfl | later
      · exact Below.irrefl _
      · exact (below_iff.mpr (above other later)).asymm
  · rw [decode_run, failed]

theorem decode_run_of_named (named : ∀ entry ∈ environment.entries, ¬ Nameless entry.1) :
    ∃ found : Environment,
      decode (run username secret arguments environment).encode =
        .ok (.run username secret arguments found) ∧
      ∀ name value, found.get? name = some value ↔ Settles environment.entries name value := by
  obtain ⟨found, parsed, settled⟩ := parseEntries_of_named environment.ordered named
  exact ⟨found, by rw [decode_run, parsed], settled⟩

theorem decode_run_eq_ok_iff : decode (run username secret arguments environment).encode =
      .ok (.run username secret arguments environment) ↔
    ∀ entry ∈ environment.entries, entry.1 ≠ "" ∧ '=' ∉ entry.1.toList := by
  constructor
  · intro same
    have named : ∀ entry ∈ environment.entries, ¬ Nameless entry.1 := by
      intro entry member nameless
      obtain ⟨other, -, -, -, failed⟩ :=
        decode_run_of_nameless username secret arguments ⟨entry, member, nameless⟩
      rw [same] at failed
      contradiction
    obtain ⟨found, read, settled⟩ := decode_run_of_named username secret arguments named
    rw [same] at read
    cases read
    intro entry member
    obtain ⟨winner, -, ⟨-, clean⟩, -⟩ :=
      (settled entry.1 entry.2).mp (Environment.get?_eq_some_iff.mpr member)
    exact ⟨fun empty => named entry member (.inl empty), clean⟩
  · intro clean
    have named : ∀ entry ∈ environment.entries, ¬ Nameless entry.1 := by
      intro entry member nameless
      rcases nameless with empty | ⟨tail, headed⟩
      · exact (clean entry member).1 empty
      · exact (clean entry member).2 (by simp [headed])
    obtain ⟨found, read, settled⟩ := decode_run_of_named username secret arguments named
    have same : found = environment := by
      refine Environment.ext_get? fun name value => ?_
      rw [settled, Environment.get?_eq_some_iff]
      exact settles_iff_mem fun entry member => (clean entry member).2
    rw [read, same]

end Requests

/-- No name of the environment is empty or has an equals sign. -/
def Named : Request → Prop
  | .run _ _ _ environment => ∀ entry ∈ environment.entries, entry.1 ≠ "" ∧ '=' ∉ entry.1.toList
  | .probe _ _ => True

theorem decode_named {request : Request} (named : request.Named) : decode request.encode = .ok request := by
  cases request with
  | probe username secret => exact decode_probe username secret
  | run username secret arguments environment =>
      exact (decode_run_eq_ok_iff username secret arguments).mpr named

/-- What the helper reads of a request.  A probe arrives as it was sent.  A run is refused
for the lowest name that is empty or starts with an equals sign; otherwise it arrives with
its entries split anew, the last of those that collide winning.  So a request arrives as it
was sent exactly when it is a probe or its names can be told. -/
theorem decode_encode :
    (∀ username secret, decode (probe username secret).encode = .ok (.probe username secret)) ∧
    (∀ username secret arguments environment,
      (∃ entry ∈ environment.entries, Nameless entry.1) →
      ∃ entry ∈ environment.entries, Nameless entry.1 ∧
        (∀ other ∈ environment.entries, Nameless other.1 → ¬ Below other.1 entry.1) ∧
        decode (run username secret arguments environment).encode =
          .error (.malformedEnvironment (entry.1 ++ "=" ++ entry.2))) ∧
    (∀ username secret arguments environment,
      (∀ entry ∈ environment.entries, ¬ Nameless entry.1) →
      ∃ found : Environment,
        decode (run username secret arguments environment).encode =
          .ok (.run username secret arguments found) ∧
        ∀ name value, found.get? name = some value ↔ Settles environment.entries name value) ∧
    ∀ request, decode request.encode = .ok request ↔
      (∃ username secret, request = .probe username secret) ∨
      ∃ username secret arguments environment,
        request = .run username secret arguments environment ∧
        ∀ entry ∈ environment.entries, entry.1 ≠ "" ∧ '=' ∉ entry.1.toList := by
  refine ⟨decode_probe, fun username secret arguments _ => decode_run_of_nameless username secret arguments,
    fun username secret arguments _ => decode_run_of_named username secret arguments, fun request => ?_⟩
  cases request with
  | probe username secret => simp [decode_probe]
  | run username secret arguments environment =>
      rw [decode_run_eq_ok_iff]
      constructor
      · intro clean
        exact .inr ⟨username, secret, arguments, environment, rfl, clean⟩
      · intro shape
        rcases shape with ⟨_, _, same⟩ | ⟨_, _, _, _, same, clean⟩
        · contradiction
        · cases same
          exact clean

end AuthBroker.Request
