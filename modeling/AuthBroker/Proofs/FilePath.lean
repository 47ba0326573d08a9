import AuthBroker.FilePath
import AuthBroker.Proofs.Text.Utf8

namespace AuthBroker.FilePath

/-! Where a path leads, as far as its text tells.

Idle parts of a path lead nowhere, two dots lead back, and any other part is the name of an entry.
So an absolute path leads from the root to a place, which is the list of the names on the way.
-/

variable {path base name : FilePath} {part : List UInt8} {parts : List (List UInt8)}

def leads (part : List UInt8) : Bool :=
  !isIdle part

/-- The parts of a path that lead somewhere. -/
def steps (path : FilePath) : List (List UInt8) :=
  (splitSlashes path.octets).filter leads

/-- The part that leads back. -/
def back : List UInt8 := [dot, dot]

/-- One step on from a place.  Nothing is before the root. -/
def enter (place : List (List UInt8)) (step : List UInt8) : List (List UInt8) :=
  if step = back then place.dropLast else place ++ [step]

/-- The place that an absolute path leads to. -/
def place (path : FilePath) : List (List UInt8) :=
  path.steps.foldl enter []

/-! ### Parts between slashes -/

theorem splitSlashes_slash (octets : List UInt8) : splitSlashes (slash :: octets) = [] :: splitSlashes octets := by
  rw [splitSlashes, List.foldr_cons, if_pos rfl]
  rfl

theorem exists_splitSlashes (octets : List UInt8) : ∃ part parts, splitSlashes octets = part :: parts := by
  cases octets with
  | nil => exact ⟨[], [], rfl⟩
  | cons octet octets =>
      rw [splitSlashes, List.foldr_cons]
      split
      · exact ⟨_, _, rfl⟩
      · split <;> exact ⟨_, _, rfl⟩

theorem splitSlashes_cons {octet : UInt8} {octets : List UInt8} (other : octet ≠ slash)
    (split : splitSlashes octets = part :: parts) : splitSlashes (octet :: octets) = (octet :: part) :: parts := by
  rw [splitSlashes] at split ⊢
  rw [List.foldr_cons, split, if_neg other]

theorem splitSlashes_append (left right : List UInt8) :
    splitSlashes (left ++ slash :: right) = splitSlashes left ++ splitSlashes right := by
  induction left with
  | nil => exact splitSlashes_slash right
  | cons octet left ih =>
      by_cases same : octet = slash
      · rw [same, List.cons_append, splitSlashes_slash, splitSlashes_slash, ih]
        rfl
      · obtain ⟨part, parts, split⟩ := exists_splitSlashes left
        rw [split] at ih
        rw [splitSlashes_cons same split, List.cons_append, splitSlashes_cons same ih]
        rfl

theorem splitSlashes_of_clean (clean : slash ∉ part) : splitSlashes part = [part] := by
  induction part with
  | nil => rfl
  | cons octet part ih =>
      rw [List.mem_cons, not_or] at clean
      exact splitSlashes_cons (Ne.symm clean.1) (ih clean.2)

theorem clean_of_mem_splitSlashes {octets : List UInt8} (member : part ∈ splitSlashes octets) : slash ∉ part := by
  induction octets generalizing part with
  | nil => simp_all [splitSlashes]
  | cons octet octets ih =>
      by_cases same : octet = slash
      · rw [same, splitSlashes_slash] at member
        rcases List.mem_cons.mp member with rfl | later
        · exact List.not_mem_nil
        · exact ih later
      · obtain ⟨first, others, split⟩ := exists_splitSlashes octets
        rw [splitSlashes_cons same split] at member
        rw [split] at ih
        rcases List.mem_cons.mp member with rfl | later
        · rw [List.mem_cons, not_or]
          exact ⟨Ne.symm same, ih (List.mem_cons_self ..)⟩
        · exact ih (List.mem_cons_of_mem _ later)

/-! ### Steps -/

theorem steps_append (left right : List UInt8) :
    (⟨left ++ slash :: right⟩ : FilePath).steps = (⟨left⟩ : FilePath).steps ++ (⟨right⟩ : FilePath).steps := by
  rw [steps, splitSlashes_append, List.filter_append]
  rfl

theorem steps_of_clean (clean : slash ∉ part) :
    (⟨part⟩ : FilePath).steps = if isIdle part then [] else [part] := by
  rw [steps, splitSlashes_of_clean clean, List.filter_singleton, leads]
  cases isIdle part <;> rfl

theorem steps_intercalate (clean : ∀ part ∈ parts, slash ∉ part) :
    (⟨List.intercalate [slash] parts⟩ : FilePath).steps = parts.filter leads := by
  induction parts with
  | nil => rfl
  | cons first parts ih =>
      have firstClean := clean first (List.mem_cons_self ..)
      have split : (first :: parts).filter leads =
          (if isIdle first then [] else [first]) ++ parts.filter leads := by
        rw [List.filter_cons, leads]
        cases isIdle first <;> rfl
      cases parts with
      | nil =>
          rw [split, List.filter_nil, List.append_nil, ← steps_of_clean firstClean]
          simp [List.intercalate]
      | cons second parts =>
          have joined : List.intercalate [slash] (first :: second :: parts) =
              first ++ slash :: List.intercalate [slash] (second :: parts) := by
            simp [List.intercalate]
          rw [joined, steps_append, steps_of_clean firstClean, split,
            ih fun part member => clean part (List.mem_cons_of_mem _ member)]

theorem steps_ofParts (absolute : Bool) (clean : ∀ part ∈ parts, slash ∉ part) :
    (ofParts absolute parts).steps = parts.filter leads := by
  cases absolute with
  | false => exact steps_intercalate clean
  | true => exact (steps_append [] _).trans (steps_intercalate clean)

/-! ### Directories -/

/-- The directory of an absolute path: its parent, and for the root the root. -/
def directory (path : FilePath) : FilePath :=
  path.parent?.getD (ofParts true [])

theorem filter_dropWhile (parts : List (List UInt8)) :
    (parts.dropWhile isIdle).filter leads = parts.filter leads := by
  induction parts with
  | nil => rfl
  | cons part parts ih =>
      rw [List.dropWhile_cons]
      split
      · rename_i idle
        rw [ih, List.filter_cons_of_neg (by simp [leads, idle])]
      · rfl

theorem filter_eq_reverse (parts : List (List UInt8)) : (parts.filter leads) =
    ((parts.reverse.dropWhile isIdle).filter leads).reverse := by
  rw [filter_dropWhile, List.filter_reverse, List.reverse_reverse]

/-- The last part that leads somewhere, with the idle parts around it, is what a parent leaves out. -/
theorem filter_dropLast {last : List UInt8} {before : List (List UInt8)}
    (ends : parts.reverse.dropWhile isIdle = last :: before) :
    (parts.filter leads).dropLast =
      (before.dropWhile isIdle).reverse.filter leads := by
  have last_leads : leads last = true := by
    have found := List.head?_dropWhile_not isIdle parts.reverse
    rw [ends] at found
    simpa [leads] using found
  rw [filter_eq_reverse, ends, List.filter_cons_of_pos last_leads, List.reverse_cons, List.dropLast_concat,
    List.filter_reverse, filter_dropWhile]

theorem filter_leadingDot (path : FilePath) : path.leadingDot.filter leads = [] := by
  rw [List.filter_eq_nil_iff]
  intro part member
  rw [leadingDot] at member
  split at member
  · contradiction
  · have same : part = [dot] := eq_of_beq (List.mem_filter.mp member).2
    subst same
    decide

/-- A root and a leading dot lead nowhere by themselves. -/
theorem steps_eq_filter_body (path : FilePath) : path.steps = path.body.filter leads := by
  obtain ⟨first, parts, split⟩ := exists_splitSlashes path.octets
  rw [steps, body, split]
  by_cases absolute : path.isAbsolute = true
  · rw [if_pos absolute]
    rw [isAbsolute, beq_iff_eq] at absolute
    obtain ⟨octets, rooted⟩ := List.head?_eq_some_iff.mp absolute
    rw [rooted, splitSlashes_slash] at split
    cases split
    rfl
  · rw [if_neg absolute, leadingDot, if_neg absolute, split]
    by_cases dotted : first = [dot]
    · subst dotted
      rfl
    · have kept : ((first :: parts).take 1).filter (· == [dot]) = [] := by simp [dotted]
      rw [kept]
      rfl

theorem clean_of_mem_body (member : part ∈ path.body) : slash ∉ part :=
  clean_of_mem_splitSlashes (List.mem_of_mem_drop member)

theorem clean_of_mem_leadingDot (member : part ∈ path.leadingDot) : slash ∉ part := by
  rw [leadingDot] at member
  split at member
  · contradiction
  · exact clean_of_mem_splitSlashes (List.mem_of_mem_take (List.mem_of_mem_filter member))

theorem steps_directory (path : FilePath) : path.directory.steps = path.steps.dropLast := by
  rw [steps_eq_filter_body path, directory, parent?]
  cases ends : path.body.reverse.dropWhile isIdle with
  | nil =>
      rw [filter_eq_reverse, ends]
      cases path.leadingDot <;> rfl
  | cons last before =>
      have clean : ∀ part ∈ path.leadingDot ++ (before.dropWhile isIdle).reverse, slash ∉ part := by
        intro part member
        rcases List.mem_append.mp member with leading | later
        · exact clean_of_mem_leadingDot leading
        · have within : part ∈ last :: before :=
            List.mem_cons_of_mem _ ((List.dropWhile_sublist _).mem (List.mem_reverse.mp later))
          rw [← ends] at within
          exact clean_of_mem_body (List.mem_reverse.mp ((List.dropWhile_sublist _).mem within))
      rw [filter_dropLast ends]
      have led := steps_ofParts path.isAbsolute clean
      rw [List.filter_append, filter_leadingDot, List.nil_append] at led
      exact led

theorem isAbsolute_directory (absolute : path.isAbsolute = true) : path.directory.isAbsolute = true := by
  have undotted : path.leadingDot = [] := by rw [leadingDot, if_pos absolute]
  rw [directory, parent?, absolute, undotted]
  split <;> rfl

example : [".", "./", "./a", "././a", "./a/b", "a", "/a/.", "/."].map (fun path => (ofString path).parent?.map display) =
    [some "", some "", some ".", some ".", some "./a", some "", some "/", none] := by
  decide +kernel

/-! ### Entries of directories -/

theorem steps_join (base : FilePath) (relative : name.isAbsolute = false) :
    (base.join name).steps = base.steps ++ name.steps := by
  rw [join, relative, if_neg Bool.false_ne_true]
  split
  · rename_i closed
    rcases Bool.or_eq_true_iff.mp closed with empty | slashed
    · rw [steps, steps, List.isEmpty_iff.mp empty]
      rfl
    · obtain ⟨front, split⟩ := List.getLast?_eq_some_iff.mp (beq_iff_eq.mp slashed)
      have same : base.steps = (⟨front⟩ : FilePath).steps := by
        rw [steps, split, ← steps, steps_append]
        exact List.append_nil _
      rw [same, split, List.append_assoc]
      exact steps_append front name.octets
  · exact steps_append base.octets name.octets

theorem isAbsolute_join (absolute : base.isAbsolute = true) : (base.join name).isAbsolute = true := by
  rw [isAbsolute, beq_iff_eq] at absolute
  obtain ⟨octets, split⟩ := List.head?_eq_some_iff.mp absolute
  rw [join]
  split
  · assumption
  · split <;> simp [isAbsolute, split]

/-! ### Places -/

theorem place_of_steps_append (further : path.steps = base.steps ++ [part]) :
    path.place = enter base.place part := by
  rw [place, further, List.foldl_append]
  rfl

/-- An absolute path that does not end in the part that leads back names an entry of its directory. -/
theorem place_directory (forth : path.steps.getLast? ≠ some back) :
    path.directory.place = path.place.dropLast := by
  cases ends : path.steps.getLast? with
  | none =>
      rw [place, place, steps_directory, List.getLast?_eq_none_iff.mp ends]
      rfl
  | some last =>
      have split := List.dropLast_append_getLast? last ends
      rw [← steps_directory] at split
      have goesOn : last ≠ back := fun same => forth (same ▸ ends)
      rw [place_of_steps_append split.symm, enter, if_neg goesOn, List.dropLast_concat]

end AuthBroker.FilePath
