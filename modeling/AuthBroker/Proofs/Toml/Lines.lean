import AuthBroker.Proofs.Toml.Distinct
import AuthBroker.Proofs.Toml.Terms

namespace AuthBroker.Toml

/-! Documents of one line for each key.

Each line gives a bare key its value.  The keys stand in the root table in the order of their lines, and no two
lines have the same key.
-/

/-! ### The lines -/

inductive Assigns : List Char → String × Value → Prop
  | intro {key : String} {lexeme : List Char} {value : Value} (nonempty : key.toList ≠ [])
      (plain : ∀ char ∈ key.toList, isKeyChar char = true) (spells : Spells lexeme value) :
      Assigns (key.toList ++ ' ' :: '=' :: ' ' :: lexeme) (key, value)

/-- The last line need not end. -/
inductive Lines : List Char → List (String × Value) → Prop
  | none : Lines [] []
  | last {line : List Char} {assignment : String × Value} (assigns : Assigns line assignment) : Lines line [assignment]
  | line {line body : List Char} {assignment : String × Value} {assignments : List (String × Value)}
      (assigns : Assigns line assignment) (more : Lines body assignments) :
      Lines (line ++ '\n' :: body) (assignment :: assignments)

variable {text rest after line body lexeme chars document : List Char} {size : Nat} {char : Char} {value : Value}
  {item : Item} {assignment : String × Value} {assignments : List (String × Value)} {statement : Statement}
  {statements held : List Statement} {root : Entries} {key : Key}

/-! ### Keys -/

theorem keyLexeme?_of_plain (rest : List Char) (nonempty : chars ≠ []) (plain : ∀ char ∈ chars, isKeyChar char = true) :
    keyLexeme? (chars ++ ' ' :: rest) =
      some (⟨.bare, ⟨chars ++ ' ' :: rest, ' ' :: rest⟩, chars, true⟩, ' ' :: rest) := by
  have belongs : ∀ char ∈ chars, (!endsBare char) = true := by
    intro char member
    rw [(plain_of_isKeyChar (plain char member)).inside]
    rfl
  have noQuote : ∀ char ∈ (chars ++ ' ' :: rest).head?, isQuote char = false := by
    intro char member
    rw [List.head?_append_of_ne_nil _ nonempty] at member
    exact (plain_of_isKeyChar (plain char (List.mem_of_mem_head? member))).noQuote
  have stops : (!endsBare ' ') = false := rfl
  rw [keyLexeme?, quoted?_eq_none noQuote, List.takeWhile_append_of_pos belongs, List.dropWhile_append_of_pos belongs]
  simp only [List.takeWhile_cons, List.dropWhile_cons, stops, Bool.false_eq_true, if_false, List.append_nil]
  exact bare?_of_ne_nil nonempty

theorem blank_space : Blank [' '] := by
  simp [Blank]

/-- A bare key before an equals sign is read as its one part. -/
theorem key_of_plain (rest : List Char) (nonempty : chars ≠ []) (plain : ∀ char ∈ chars, isKeyChar char = true) :
    ∃ part span, Toml.key (chars ++ ' ' :: '=' :: rest) = some ([part], '=' :: rest) ∧
      keysOf [part] = .ok [⟨String.ofList chars, span⟩] := by
  let span : Span := ⟨chars ++ ' ' :: '=' :: rest, ' ' :: '=' :: rest⟩
  refine ⟨⟨.bare, span, chars, true⟩, span, ?_, ?_⟩
  · have taken := keyLexeme?_of_plain ('=' :: rest) nonempty plain
    obtain ⟨first, later, rfl⟩ := List.exists_cons_of_ne_nil nonempty
    have dark := (plain_of_isKeyChar (plain first List.mem_cons_self)).dark
    have here : dropBlank (first :: later ++ ' ' :: '=' :: rest) = first :: later ++ ' ' :: '=' :: rest :=
      dropBlank_append blank_nil dark.1
    have there : dropBlank (' ' :: '=' :: rest) = '=' :: rest := dropBlank_append blank_space (by decide)
    have step (unit : Char) (fuel : List Char) : keyParts (unit :: fuel) [] (first :: later ++ ' ' :: '=' :: rest) =
        some ([⟨.bare, span, first :: later, true⟩], '=' :: rest) := by
      rw [keyParts, here, taken]
      simp only [there]
      rfl
    exact step first _
  · have all : chars.all isKeyChar = true := List.all_eq_true.mpr plain
    simp [keysOf, Lexeme.key?, all, maxParts]

/-! ### Statements -/

/-- What a statement is made of, once keys and items are made. -/
def Makes (statement : Statement) (assignment : String × Value) : Prop :=
  ∃ parts term key item, statement = .assignment parts term ∧ keysOf parts = .ok [key] ∧ key.name = assignment.1 ∧
    itemOf term = .ok item ∧ Holds item assignment.2

theorem Spells.exists_dark (spells : Spells lexeme value) : ∃ first tail, lexeme = first :: tail ∧ isBlank first = false := by
  cases spells with
  | text spelt =>
      obtain ⟨tail, rfl⟩ := spelt.exists_tail
      exact ⟨_, _, rfl, by decide⟩
  | count count _ =>
      obtain ⟨first, later, split⟩ := List.exists_cons_of_ne_nil (Decimal.digits_ne_nil count)
      exact ⟨first, later, split, (plain_of_isDecimal (decimals_digits count first (by simp [split]))).dark.1⟩
  | texts _ => exact ⟨_, _, rfl, by decide⟩

theorem readStatement_assignment (notHeader : text.head? ≠ some '[') {parts : List Lexeme}
    (keyed : Toml.key text = some (parts, '=' :: rest)) :
    readStatement size text = (readTerm (2 * size + 2) maxDepth (dropBlank rest)).map
      fun (value, rest) => (.assignment parts value, rest) := by
  unfold readStatement
  split
  · exact absurd rfl notHeader
  · exact absurd rfl notHeader
  · simp only [keyed]
    cases readTerm (2 * size + 2) maxDepth (dropBlank rest) <;> rfl

theorem readStatement_of_assigns (assigns : Assigns line assignment) (ends : LineEnds rest) (enough : line.length ≤ size) :
    ∃ statement, readStatement size (line ++ rest) = some (statement, rest) ∧ Makes statement assignment := by
  cases assigns with
  | @intro key lexeme value nonempty plain spells =>
      obtain ⟨term, item, made, holds, taken⟩ := readTerm_of_spells spells ends
      obtain ⟨first, tail, split, dark⟩ := spells.exists_dark
      have shape : key.toList ++ ' ' :: '=' :: ' ' :: lexeme ++ rest =
          key.toList ++ ' ' :: '=' :: ' ' :: (lexeme ++ rest) := by simp
      have notHeader : (key.toList ++ ' ' :: '=' :: ' ' :: (lexeme ++ rest)).head? ≠ some '[' := by
        rw [List.head?_append_of_ne_nil _ nonempty]
        intro same
        exact (plain_of_isKeyChar (plain '[' (List.mem_of_mem_head? same))).notList rfl
      have dropped : dropBlank (' ' :: (lexeme ++ rest)) = lexeme ++ rest := by
        rw [split]
        exact dropBlank_append blank_space dark
      have taken : readTerm (2 * size + 2) maxDepth (lexeme ++ rest) = some (term, rest) := by
        refine taken (2 * size + 1) 79 ?_
        simp only [List.length_append, List.length_cons] at enough
        omega
      obtain ⟨part, span, keyed, keys⟩ := key_of_plain (' ' :: (lexeme ++ rest)) nonempty plain
      refine ⟨.assignment [part] term, ?_, [part], term, _, item, rfl, keys, String.ofList_toList, made, holds⟩
      rw [shape, readStatement_assignment notHeader keyed, dropped, taken]
      rfl

theorem Assigns.exists_plain (assigns : Assigns line assignment) :
    ∃ first tail, line = first :: tail ∧ isKeyChar first = true := by
  cases assigns with
  | @intro key _ _ nonempty plain _ =>
      obtain ⟨first, later, split⟩ := List.exists_cons_of_ne_nil nonempty
      exact ⟨first, _, by rw [split]; rfl, plain first (by simp [split])⟩

/-- One line takes one unit. -/
theorem readStatements_line (rest : List Char) (assigns : Assigns line assignment) (ends : LineEnds rest)
    (ended : statementEnd rest = some after) (enough : line.length ≤ size + 1) : ∃ statement, Makes statement assignment ∧ ∀ held,
      readStatements (size + 1) held (line ++ rest) = readStatements size (statement :: held) after := by
  obtain ⟨statement, taken, makes⟩ := readStatement_of_assigns assigns ends enough
  obtain ⟨first, tail, rfl, plain⟩ := assigns.exists_plain
  have here : skipVoid (first :: tail ++ rest) = first :: tail ++ rest :=
    skipVoid_append blank_nil (plain_of_isKeyChar plain).dark
  refine ⟨statement, makes, fun held => ?_⟩
  rw [List.cons_append] at here taken ⊢
  rw [readStatements, here]
  simp only [taken, ended]

theorem readStatements_nil : readStatements size held [] = some held.reverse := by
  cases size <;> rfl

theorem readStatements_of_lines (lines : Lines body assignments) (enough : body.length ≤ size) :
    ∃ statements, List.Forall₂ Makes statements assignments ∧
      ∀ held, readStatements size held body = some (held.reverse ++ statements) := by
  induction lines generalizing size with
  | none => exact ⟨[], .nil, fun held => by rw [readStatements_nil, List.append_nil]⟩
  | last assigns =>
      obtain ⟨_, _, shape, -⟩ := assigns.exists_plain
      obtain ⟨size, rfl⟩ : ∃ less, size = less + 1 := ⟨size - 1, by rw [shape, List.length_cons] at enough; omega⟩
      obtain ⟨statement, makes, step⟩ := readStatements_line [] assigns (by simp [LineEnds]) rfl enough
      refine ⟨[statement], .cons makes .nil, fun held => ?_⟩
      rw [List.append_nil] at step
      rw [step, readStatements_nil, List.reverse_cons]
  | @line line body _ _ assigns _ ih =>
      rw [List.length_append, List.length_cons] at enough
      obtain ⟨size, rfl⟩ : ∃ less, size = less + 1 := ⟨size - 1, by omega⟩
      have here : line.length ≤ size + 1 := by omega
      have later : body.length ≤ size := by omega
      obtain ⟨statement, makes, step⟩ := readStatements_line ('\n' :: body) assigns (by simp [LineEnds]) rfl here
      obtain ⟨statements, make, more⟩ := ih later
      refine ⟨statement :: statements, .cons makes make, fun held => ?_⟩
      rw [step, more, List.reverse_cons, List.append_assoc, List.singleton_append]

/-! ### The root table -/

/-- An entry is what an assignment made. -/
def Carries (entry : Key × Item) (assignment : String × Value) : Prop :=
  entry.1.name = assignment.1 ∧ Holds entry.2 assignment.2

theorem assignIn_of_missing (missing : ∀ entry ∈ root, entry.1.name ≠ key.name) :
    assignIn [] [key] item root = some (root ++ [(key, item)]) := by
  have absent : find? root key.name = none := by
    rw [find?_eq_none_iff, names, List.mem_map]
    rintro ⟨entry, member, same⟩
    exact missing entry member same
  simp [assignIn, change, assign, splitLast, absent]

theorem add_of_makes (makes : Makes statement assignment) (missing : ∀ entry ∈ root, entry.1.name ≠ assignment.1) :
    ∃ entry, Carries entry assignment ∧ Draft.add ⟨[], root⟩ statement = .ok ⟨[], root ++ [entry]⟩ := by
  obtain ⟨parts, term, key, item, rfl, keyed, named, made, holds⟩ := makes
  rw [← named] at missing
  refine ⟨(key, item), ⟨named, holds⟩, ?_⟩
  simp only [Draft.add, keyed, made, assignIn_of_missing missing]
  rfl

theorem foldlM_add_of_makes (root : Entries) (make : List.Forall₂ Makes statements assignments)
    (distinct : (assignments.map Prod.fst).Nodup)
    (missing : ∀ assignment ∈ assignments, ∀ entry ∈ root, entry.1.name ≠ assignment.1) :
    ∃ entries, List.Forall₂ Carries entries assignments ∧
      statements.foldlM Draft.add ⟨[], root⟩ = .ok ⟨[], root ++ entries⟩ := by
  induction make generalizing root with
  | nil => exact ⟨[], .nil, by rw [List.append_nil]; rfl⟩
  | @cons statement assignment statements assignments makes make ih =>
      obtain ⟨entry, carries, added⟩ := add_of_makes makes (missing assignment List.mem_cons_self)
      rw [List.map_cons, List.nodup_cons] at distinct
      have missing' : ∀ other ∈ assignments, ∀ entry' ∈ root ++ [entry], entry'.1.name ≠ other.1 := by
        intro other among entry' member same
        rcases List.mem_append.mp member with earlier | latest
        · exact missing other (List.mem_cons_of_mem _ among) entry' earlier same
        · rw [List.mem_singleton.mp latest, carries.1] at same
          exact distinct.1 (same ▸ List.mem_map_of_mem among)
      obtain ⟨entries, carry, folded⟩ := ih _ distinct.2 missing'
      refine ⟨entry :: entries, .cons carries carry, ?_⟩
      rw [List.append_assoc, List.singleton_append] at folded
      rw [List.foldlM_cons, added]
      exact folded

theorem Lines.dropMark (lines : Lines document assignments) : dropMark document = document := by
  have plain : ∀ char ∈ document.head?, char ≠ '\uFEFF' := by
    have head {line : List Char} {assignment : String × Value} (assigns : Assigns line assignment) (rest : List Char) :
        ∀ char ∈ (line ++ rest).head?, char ≠ '\uFEFF' := by
      obtain ⟨first, tail, rfl, plain⟩ := assigns.exists_plain
      intro char member
      rw [← Option.some.inj member]
      exact (plain_of_isKeyChar plain).notMark
    cases lines with
    | none => simp
    | last assigns => simpa using head assigns []
    | line assigns _ => exact head assigns _
  unfold Toml.dropMark
  split
  · exact absurd rfl (plain '\uFEFF' rfl)
  · rfl

/-- Lines of different keys are read as their values, in the order of the lines. -/
theorem read_of_lines (lines : Lines document assignments) (distinct : (assignments.map Prod.fst).Nodup) :
    ∃ entries, read document = .ok entries ∧ List.Forall₂ Carries entries assignments := by
  obtain ⟨statements, make, taken⟩ := readStatements_of_lines lines (Nat.le_refl _)
  obtain ⟨entries, carry, folded⟩ := foldlM_add_of_makes [] make distinct (by simp)
  refine ⟨entries, ?_, carry⟩
  have found : statements? document = some statements := taken []
  have folded : statements.foldlM Draft.add Draft.empty = .ok ⟨[], entries⟩ := folded
  rw [read, lines.dropMark, found]
  simp only [ofStatements, folded]
  rfl

end AuthBroker.Toml
