import AuthBroker.Environment
import Mathlib.Data.List.Pairwise
import Mathlib.Data.List.Induction
import Mathlib.Data.List.Perm.Basic
import Mathlib.Tactic.SplitIfs

namespace AuthBroker.Environment

/-! Looking up what was put into an environment.

An environment is settled by its values: two in which every name has the same value hold the
same entries, since both are in the order of the names.  So settings may come in any order, and
may be overridden any number of times: only the last setting of each name counts.
-/

variable {Value : Type} {environment other : Environment Value} {name : String} {value : Value}

theorem find?_place_self (entries : List (String × Value)) :
    (place name value entries).find? (fun entry => entry.1 == name) = some (name, value) := by
  induction entries with
  | nil => simp [place]
  | cons head tail ih =>
      rw [place]
      split_ifs with below same
      · simp
      · simp
      · have different : (head.1 == name) = false := beq_false_of_ne (Ne.symm same)
        rw [List.find?_cons, different, ih]

theorem find?_place_of_ne {wanted : String} (different : wanted ≠ name)
    (entries : List (String × Value)) :
    (place name value entries).find? (fun entry => entry.1 == wanted) =
      entries.find? (fun entry => entry.1 == wanted) := by
  have notWanted : (name == wanted) = false := beq_false_of_ne (Ne.symm different)
  induction entries with
  | nil => simp [place, notWanted]
  | cons head tail ih =>
      rw [place]
      split_ifs with below same
      · rw [List.find?_cons, notWanted]
      · rw [List.find?_cons, List.find?_cons, ← same, notWanted]
      · rw [List.find?_cons, List.find?_cons, ih]

@[simp] theorem get?_empty : (empty : Environment Value).get? name = none :=
  rfl

@[simp] theorem get?_insert_self : (environment.insert name value).get? name = some value := by
  rw [get?, insert, find?_place_self]
  rfl

theorem get?_insert_of_ne {wanted : String} (different : wanted ≠ name) :
    (environment.insert name value).get? wanted = environment.get? wanted := by
  rw [get?, insert, find?_place_of_ne different]
  rfl

theorem get?_eq_some_iff : environment.get? name = some value ↔ (name, value) ∈ environment.entries := by
  obtain ⟨entries, ordered⟩ := environment
  simp only [get?, Option.map_eq_some_iff]
  constructor
  · intro found
    obtain ⟨⟨found, _⟩, first, rfl⟩ := found
    have same : found = name := by simpa using List.find?_some first
    exact same ▸ List.mem_of_find?_eq_some first
  · intro member
    induction entries with
    | nil => contradiction
    | cons head tail ih =>
        obtain ⟨headBelow, tailOrdered⟩ := List.pairwise_cons.mp ordered
        rcases List.mem_cons.mp member with rfl | later
        · exact ⟨(name, value), by simp, rfl⟩
        · have different : (head.1 == name) = false := by
            refine beq_false_of_ne fun same => ?_
            exact String.lt_irrefl name (same ▸ headBelow (name, value) later)
          rw [List.find?_cons, different]
          exact ih tailOrdered later

theorem ordered_nodup {entries : List (String × Value)} (ordered : Ordered entries) :
    entries.Nodup := by
  refine List.Pairwise.imp (fun below same => ?_) ordered
  exact String.lt_irrefl _ (same ▸ below)

theorem ext_get? (same : ∀ name value, environment.get? name = some value ↔ other.get? name = some value) :
    environment = other := by
  obtain ⟨left, leftOrdered⟩ := environment
  obtain ⟨right, rightOrdered⟩ := other
  have members : ∀ entry, entry ∈ left ↔ entry ∈ right := by
    intro entry
    have given := same entry.1 entry.2
    rwa [get?_eq_some_iff, get?_eq_some_iff] at given
  have perm : left.Perm right :=
    (List.perm_ext_iff_of_nodup (ordered_nodup leftOrdered) (ordered_nodup rightOrdered)).mpr members
  have equal : left = right := by
    refine perm.eq_of_pairwise (fun first second _ _ below above => ?_) leftOrdered rightOrdered
    exact absurd (String.lt_trans below above) (String.lt_irrefl _)
  simp only [equal]

/-! ### Environments of settings -/

/-- A setting prevails when no later one has its name. -/
def Prevails (settings : List (String × Value)) (name : String) (value : Value) : Prop :=
  ∃ before after, settings = before ++ (name, value) :: after ∧ ∀ setting ∈ after, setting.1 ≠ name

variable {settings first second : List (String × Value)} {setting : String × Value}

theorem prevails_append : Prevails (settings ++ [setting]) name value ↔
    setting = (name, value) ∨ setting.1 ≠ name ∧ Prevails settings name value := by
  constructor
  · intro prevails
    obtain ⟨before, after, split, last⟩ := prevails
    cases after using List.reverseRecOn with
    | nil =>
        obtain ⟨-, same⟩ := List.append_inj' split rfl
        exact .inl (List.singleton_inj.mp same)
    | append_singleton after final =>
        rw [← List.cons_append, ← List.append_assoc] at split
        obtain ⟨earlier, same⟩ := List.append_inj' split rfl
        rw [List.singleton_inj.mp same]
        refine .inr ⟨last final (by simp), before, after, earlier, fun other member => ?_⟩
        exact last other (List.mem_append_left _ member)
  · intro either
    rcases either with rfl | ⟨different, before, after, rfl, last⟩
    · exact ⟨settings, [], rfl, by simp⟩
    · refine ⟨before, after ++ [setting], by simp, fun other member => ?_⟩
      rcases List.mem_append.mp member with earlier | final
      · exact last other earlier
      · exact List.mem_singleton.mp final ▸ different

theorem get?_ofList : (ofList settings).get? name = some value ↔ Prevails settings name value := by
  -- from the last setting on, since it is the one that was put in over all others
  induction settings using List.reverseRecOn with
  | nil => simp [ofList, Prevails]
  | append_singleton settings setting ih =>
      have inserted : ofList (settings ++ [setting]) = (ofList settings).insert setting.1 setting.2 := by
        rw [ofList, List.foldl_append]
        rfl
      rw [prevails_append, inserted, ← ih]
      by_cases same : setting.1 = name
      · rw [← same, get?_insert_self, Option.some.injEq]
        simp [Prod.ext_iff]
      · rw [get?_insert_of_ne (Ne.symm same)]
        simp [same, Prod.ext_iff]

/-- Only the settings that prevail count. -/
theorem ofList_congr (same : ∀ name value, Prevails first name value ↔ Prevails second name value) :
    ofList first = ofList second := by
  refine ext_get? fun name value => ?_
  rw [get?_ofList, get?_ofList, same]

end AuthBroker.Environment
