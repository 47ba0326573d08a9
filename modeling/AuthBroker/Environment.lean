namespace AuthBroker

/-! Environments: values by name, in the order of the names.

The names are in the order of their characters' numbers, which is that of their UTF-8
octets, and no name occurs twice; so an environment is one list for one set of
settings, however they were made.  The values are texts, unless it is said what they are.
-/

/-- Whether each name is below all names after it. -/
def Environment.Ordered {Value : Type} (entries : List (String × Value)) : Prop :=
  entries.Pairwise fun left right => left.1 < right.1

structure Environment (Value : Type := String) where
  entries : List (String × Value)
  ordered : Environment.Ordered entries
deriving DecidableEq

namespace Environment

variable {Value : Type}

def empty : Environment Value := ⟨[], List.Pairwise.nil⟩

/-- Puts an entry into its place, instead of one of the same name. -/
def place (name : String) (value : Value) : List (String × Value) → List (String × Value)
  | [] => [(name, value)]
  | entry :: entries =>
      if name < entry.1 then (name, value) :: entry :: entries
      else if name = entry.1 then (name, value) :: entries
      else entry :: place name value entries

theorem mem_place {name : String} {value : Value} {entries : List (String × Value)}
    {entry : String × Value} (member : entry ∈ place name value entries) :
    entry = (name, value) ∨ entry ∈ entries := by
  induction entries with
  | nil => exact Or.inl (by simpa [place] using member)
  | cons head tail ih =>
      unfold place at member
      split at member
      · simpa using member
      · split at member
        · rcases List.mem_cons.mp member with same | later
          · exact Or.inl same
          · exact Or.inr (List.mem_cons_of_mem _ later)
        · rcases List.mem_cons.mp member with same | later
          · exact Or.inr (by simp [same])
          · exact (ih later).imp_right (List.mem_cons_of_mem _)

theorem above_of_not_below {left right : String} (notBelow : ¬ left < right)
    (different : left ≠ right) : right < left := by
  by_cases below : right < left
  · exact below
  · exact absurd (String.le_antisymm (String.not_lt.mp below) (String.not_lt.mp notBelow)) different

theorem ordered_place {entries : List (String × Value)} (name : String) (value : Value)
    (ordered : Ordered entries) : Ordered (place name value entries) := by
  induction entries with
  | nil => simp [place, Ordered]
  | cons head tail ih =>
      obtain ⟨headBelow, tailOrdered⟩ := List.pairwise_cons.mp ordered
      unfold place
      split
      · rename_i below
        refine List.pairwise_cons.mpr ⟨fun entry member => ?_, ordered⟩
        rcases List.mem_cons.mp member with same | later
        · simpa [same] using below
        · exact String.lt_trans below (headBelow entry later)
      · split
        · rename_i same
          refine List.pairwise_cons.mpr ⟨fun entry member => ?_, tailOrdered⟩
          simpa [same] using headBelow entry member
        · rename_i notBelow different
          refine List.pairwise_cons.mpr ⟨fun entry member => ?_, ih tailOrdered⟩
          rcases mem_place member with same | later
          · simpa [same] using above_of_not_below notBelow different
          · exact headBelow entry later

/-- The environment with one more setting; it replaces an earlier one of the name. -/
def insert (environment : Environment Value) (name : String) (value : Value) : Environment Value :=
  ⟨place name value environment.entries, ordered_place name value environment.ordered⟩

/-- The environment that settings make, the last of equal names winning. -/
def ofList (settings : List (String × Value)) : Environment Value :=
  settings.foldl (fun environment setting => environment.insert setting.1 setting.2) empty

def get? (environment : Environment Value) (name : String) : Option Value :=
  (environment.entries.find? fun entry => entry.1 == name).map Prod.snd

end Environment

end AuthBroker
