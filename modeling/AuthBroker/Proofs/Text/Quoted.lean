import AuthBroker.Text.Quoted
import Mathlib.Data.List.Basic

namespace AuthBroker.Text

/-! Quoted texts tell what they quote.

Each character is written in one way, no way of writing one begins another, and none begins with a quote.  So a
quoted text ends where it seems to, whatever comes after it, and two texts are never quoted alike.  What is written
is always shown: a quoted text has neither a control character nor the end of a line.
-/

/-! ### Hexadecimal numbers -/

theorem exists_digit_of_mem {number : Nat} {char : Char} (member : char ∈ Nat.toDigits 16 number) :
    ∃ digit < 16, char = Nat.digitChar digit := by
  induction number using Nat.strongRecOn with
  | ind number ih =>
      by_cases small : number < 16
      · rw [Nat.toDigits_of_lt_base small, List.mem_singleton] at member
        exact ⟨number, small, member⟩
      · rw [Nat.toDigits_of_base_le (by decide) (Nat.le_of_not_lt small), List.mem_append,
          List.mem_singleton] at member
        rcases member with earlier | last
        · exact ih (number / 16) (by omega) earlier
        · exact ⟨number % 16, Nat.mod_lt number (by decide), last⟩

theorem digitChar_inj {digit other : Nat} (small : digit < 16) (small' : other < 16)
    (same : Nat.digitChar digit = Nat.digitChar other) : digit = other := by
  have table : ∀ digit < 16, ∀ other < 16, Nat.digitChar digit = Nat.digitChar other → digit = other := by decide
  exact table digit small other small' same

theorem toDigits_inj {number other : Nat} (same : Nat.toDigits 16 number = Nat.toDigits 16 other) :
    number = other := by
  have single {digit long : Nat} (small : digit < 16) (large : 16 ≤ long) :
      Nat.toDigits 16 digit ≠ Nat.toDigits 16 long := by
    intro same
    rw [Nat.toDigits_of_lt_base small, Nat.toDigits_of_base_le (by decide) large] at same
    have earlier := (List.append_singleton_inj.mp ((List.nil_append _).trans same)).1
    exact Nat.toDigits_ne_nil earlier.symm
  induction number using Nat.strongRecOn generalizing other with
  | ind number ih =>
      by_cases small : number < 16 <;> by_cases small' : other < 16
      · rw [Nat.toDigits_of_lt_base small, Nat.toDigits_of_lt_base small', List.singleton_inj] at same
        exact digitChar_inj small small' same
      · exact absurd same (single small (Nat.le_of_not_lt small'))
      · exact absurd same.symm (single small' (Nat.le_of_not_lt small))
      · rw [Nat.toDigits_of_base_le (by decide) (Nat.le_of_not_lt small),
          Nat.toDigits_of_base_le (by decide) (Nat.le_of_not_lt small'), List.append_singleton_inj] at same
        obtain ⟨earlier, last⟩ := same
        have quotients := ih (number / 16) (by omega) earlier
        have remainders := digitChar_inj (Nat.mod_lt _ (by decide)) (Nat.mod_lt _ (by decide)) last
        omega

theorem not_mem_toDigits {mark : Char} (number : Nat) (noDigit : ∀ digit < 16, Nat.digitChar digit ≠ mark) :
    mark ∉ Nat.toDigits 16 number := by
  intro member
  obtain ⟨digit, small, same⟩ := exists_digit_of_mem member
  exact noDigit digit small same.symm

/-! ### Characters -/

/-- The characters that have a short escape, by its letter. -/
def escapedBy? (letter : Char) : Option Char :=
  match letter with
  | '"' => some '"'
  | '\\' => some '\\'
  | '0' => some '\x00'
  | 't' => some '\t'
  | 'r' => some '\r'
  | 'n' => some '\n'
  | _ => none

/-- The ways in which a character is written between two quotes. -/
inductive Spells : List Char → Char → Prop
  | itself {char : Char} (notQuote : char ≠ '"') (notBackslash : char ≠ '\\') (seen : isHidden char = false) :
      Spells [char] char
  | letter {letter char : Char} (found : escapedBy? letter = some char) : Spells ['\\', letter] char
  | number (char : Char) : Spells (escapeByNumber char) char

variable {spelling spelling' text other rest rest' : List Char} {char char' : Char}

theorem spells_quoteChar (char : Char) : Spells (quoteChar char) char := by
  unfold quoteChar
  split_ifs with isQuote isBackslash isNull isTab isReturn isLine hidden
  · rw [isQuote]
    exact .letter rfl
  · rw [isBackslash]
    exact .letter rfl
  · rw [isNull]
    exact .letter rfl
  · rw [isTab]
    exact .letter rfl
  · rw [isReturn]
    exact .letter rfl
  · rw [isLine]
    exact .letter rfl
  · exact .number char
  · exact .itself isQuote isBackslash (Bool.eq_false_iff.mpr hidden)

/-- What stands before the first mark does not depend on what comes after it. -/
theorem append_mark_inj {mark : Char} {before before' : List Char} (free : mark ∉ before) (free' : mark ∉ before')
    (same : before ++ mark :: rest = before' ++ mark :: rest') : before = before' ∧ rest = rest' := by
  induction before generalizing before' with
  | nil =>
      cases before' with
      | nil => exact ⟨rfl, (List.cons.inj same).2⟩
      | cons char before' => exact absurd ((List.cons.inj same).1 ▸ List.mem_cons_self) free'
  | cons char before ih =>
      cases before' with
      | nil => exact absurd ((List.cons.inj same).1 ▸ List.mem_cons_self) free
      | cons char' before' =>
          obtain ⟨first, more⟩ := List.cons.inj same
          obtain ⟨equal, after⟩ := ih (fun member => free (List.mem_cons_of_mem char member))
            (fun member => free' (List.mem_cons_of_mem char' member)) more
          exact ⟨by rw [first, equal], after⟩

theorem escapeByNumber_append (char : Char) (rest : List Char) : escapeByNumber char ++ rest =
    '\\' :: 'u' :: '\x7b' :: (Nat.toDigits 16 char.toNat ++ '\x7d' :: rest) := by
  simp [escapeByNumber]

/-- No way of writing a character begins another, so a text of them can be read from its start. -/
theorem Spells.unique (spells : Spells spelling char) (spells' : Spells spelling' char')
    (same : spelling ++ rest = spelling' ++ rest') : char = char' ∧ rest = rest' := by
  have noNumber {found : Char} : escapedBy? 'u' ≠ some found := (Option.some_ne_none found).symm
  cases spells with
  | itself _ notBackslash _ =>
      cases spells' with
      | itself _ _ _ => exact List.cons.inj same
      | letter _ => exact absurd (List.cons.inj same).1 notBackslash
      | number _ =>
          rw [escapeByNumber_append] at same
          exact absurd (List.cons.inj same).1 notBackslash
  | letter found =>
      cases spells' with
      | itself _ notBackslash _ => exact absurd (List.cons.inj same).1.symm notBackslash
      | letter found' =>
          obtain ⟨letters, rests⟩ := List.cons.inj (List.cons.inj same).2
          rw [letters, found', Option.some.injEq] at found
          exact ⟨found.symm, rests⟩
      | number _ =>
          rw [escapeByNumber_append] at same
          rw [(List.cons.inj (List.cons.inj same).2).1] at found
          exact absurd found noNumber
  | number _ =>
      rw [escapeByNumber_append] at same
      cases spells' with
      | itself _ notBackslash _ => exact absurd (List.cons.inj same).1.symm notBackslash
      | letter found' =>
          rw [← (List.cons.inj (List.cons.inj same).2).1] at found'
          exact absurd found' noNumber
      | number _ =>
          rw [escapeByNumber_append] at same
          have numbers := (List.cons.inj (List.cons.inj (List.cons.inj same).2).2).2
          have closes : ∀ digit < 16, Nat.digitChar digit ≠ '\x7d' := by decide
          obtain ⟨digits, rests⟩ := append_mark_inj (not_mem_toDigits _ closes) (not_mem_toDigits _ closes) numbers
          exact ⟨Char.toNat_inj.mp (toDigits_inj digits), rests⟩

/-! ### Escapes -/

/-- Whether the character after a text is escaped: it comes after a backslash that is not escaped itself. -/
def escapesNext (text : List Char) : Bool :=
  text.foldl (fun escaped char => !escaped && char == '\\') false

theorem escapesNext_plain (notBackslash : char ≠ '\\') : escapesNext (char :: text) = escapesNext text := by
  rw [escapesNext, List.foldl_cons, Bool.not_false, Bool.true_and, beq_false_of_ne notBackslash]
  rfl

theorem escapesNext_pair (char : Char) (text : List Char) : escapesNext ('\\' :: char :: text) = escapesNext text :=
  rfl

/-- A text in which every backslash takes the next character along, and no other quote stands. -/
inductive Inside : List Char → Prop
  | nil : Inside []
  | plain {char : Char} {text : List Char} (notQuote : char ≠ '"') (notBackslash : char ≠ '\\')
      (more : Inside text) : Inside (char :: text)
  | pair {text : List Char} (char : Char) (more : Inside text) : Inside ('\\' :: char :: text)

theorem Inside.append (first : Inside text) (second : Inside other) : Inside (text ++ other) := by
  induction first with
  | nil => exact second
  | plain notQuote notBackslash _ ih => exact .plain notQuote notBackslash ih
  | pair char _ ih => exact .pair char ih

theorem inside_of_plain (plain : ∀ char ∈ text, char ≠ '"' ∧ char ≠ '\\') : Inside text := by
  induction text with
  | nil => exact .nil
  | cons char text ih =>
      obtain ⟨notQuote, notBackslash⟩ := plain char List.mem_cons_self
      exact .plain notQuote notBackslash (ih fun other member => plain other (List.mem_cons_of_mem char member))

theorem Spells.inside (spells : Spells spelling char) : Inside spelling := by
  cases spells with
  | itself notQuote notBackslash _ => exact .plain notQuote notBackslash .nil
  | letter _ => exact .pair _ .nil
  | number _ =>
      have digits : Inside (Nat.toDigits 16 char.toNat) := by
        have table : ∀ digit < 16, Nat.digitChar digit ≠ '"' ∧ Nat.digitChar digit ≠ '\\' := by decide
        refine inside_of_plain fun other member => ?_
        obtain ⟨digit, small, rfl⟩ := exists_digit_of_mem member
        exact table digit small
      have closing : Inside ['\x7d'] := .plain (by decide) (by decide) .nil
      rw [← List.append_nil (escapeByNumber char), escapeByNumber_append]
      exact .pair 'u' (.plain (by decide) (by decide) (digits.append closing))

theorem inside_quoted (text : List Char) : Inside (text.flatMap quoteChar) := by
  induction text with
  | nil => exact .nil
  | cons char text ih => exact (spells_quoteChar char).inside.append ih

theorem Inside.closed (inside : Inside text) : escapesNext text = false := by
  induction inside with
  | nil => rfl
  | plain _ notBackslash _ ih => exact (escapesNext_plain notBackslash).trans ih
  | pair char _ ih => exact (escapesNext_pair char _).trans ih

/-- No quote stands inside without a backslash that escapes it. -/
theorem Inside.escaped (inside : Inside text) {before after : List Char} (split : text = before ++ '"' :: after) :
    escapesNext before = true := by
  induction inside generalizing before with
  | nil => exact absurd split.symm (List.append_ne_nil_of_right_ne_nil _ (List.cons_ne_nil _ _))
  | plain notQuote notBackslash _ ih =>
      cases before with
      | nil => exact absurd (List.cons.inj split).1 notQuote
      | cons first before =>
          obtain ⟨rfl, more⟩ := List.cons.inj split
          exact (escapesNext_plain notBackslash).trans (ih more)
  | pair char _ ih =>
      cases before with
      | nil => exact absurd (List.cons.inj split).1 (by decide)
      | cons first before =>
          obtain ⟨rfl, more⟩ := List.cons.inj split
          cases before with
          | nil => rfl
          | cons second before =>
              exact (escapesNext_pair second before).trans (ih (List.cons.inj more).2)

/-! ### One line -/

/-- The characters of the general category Cc. -/
def isControl (char : Char) : Bool :=
  char.toNat < 0x20 || (0x7F ≤ char.toNat && char.toNat < 0xA0)

/-- The characters that end a line: from the line feed to the carriage return, the next line character, and the two
separators of lines and of paragraphs. -/
def endsLine (char : Char) : Bool :=
  (0x0A ≤ char.toNat && char.toNat ≤ 0x0D) || char.toNat == 0x85 || char.toNat == 0x2028 || char.toNat == 0x2029

def isOneLine (text : String) : Bool :=
  text.toList.all fun char => !isControl char && !endsLine char

theorem isOneLine_append (first second : String) :
    isOneLine (first ++ second) = (isOneLine first && isOneLine second) := by
  rw [isOneLine, String.toList_append, List.all_append]
  rfl

theorem isHidden_of_mem {range : Nat × Nat} (listed : range ∈ hiddenRanges)
    (outside : char.toNat < 0x20 ∨ 0x7F ≤ char.toNat) (within : range.1 ≤ char.toNat ∧ char.toNat ≤ range.2) :
    isHidden char = true := by
  have notPlain : (0x20 ≤ char.toNat && char.toNat < 0x7F) = false := by
    rw [Bool.and_eq_false_iff, decide_eq_false_iff_not, decide_eq_false_iff_not]
    omega
  rw [isHidden, notPlain]
  refine List.any_eq_true.mpr ⟨range, listed, ?_⟩
  simpa using within

/-- What ends a line, and every control character, is hidden. -/
theorem not_isHidden (seen : isHidden char = false) : isControl char = false ∧ endsLine char = false := by
  have low : (0x0, 0x1F) ∈ hiddenRanges := by decide +kernel
  have high : (0x7F, 0xA0) ∈ hiddenRanges := by decide +kernel
  have separators : (0x2028, 0x202F) ∈ hiddenRanges := by decide +kernel
  have apart {range : Nat × Nat} (listed : range ∈ hiddenRanges)
      (outside : char.toNat < 0x20 ∨ 0x7F ≤ char.toNat) : ¬ (range.1 ≤ char.toNat ∧ char.toNat ≤ range.2) := by
    intro within
    rw [isHidden_of_mem listed outside within] at seen
    contradiction
  have notLow := apart low
  have notHigh := apart high
  have notSeparator := apart separators
  simp only [isControl, endsLine, Bool.or_eq_false_iff, Bool.and_eq_false_iff, decide_eq_false_iff_not,
    beq_eq_false_iff_ne]
  omega

theorem Spells.seen (spells : Spells spelling char) : ∀ member ∈ spelling, isHidden member = false := by
  cases spells with
  | itself _ _ seen => simpa using seen
  | letter found =>
      rename_i letter
      have seen : isHidden letter = false := by
        unfold escapedBy? at found
        split at found
        all_goals first | rfl | contradiction
      simpa using ⟨rfl, seen⟩
  | number _ =>
      have table : ∀ digit < 16, isHidden (Nat.digitChar digit) = false := by decide
      intro member among
      rw [← List.append_nil (escapeByNumber char), escapeByNumber_append] at among
      simp only [List.mem_cons, List.mem_append, List.not_mem_nil, or_false] at among
      rcases among with rfl | rfl | rfl | digits | rfl
      · rfl
      · rfl
      · rfl
      · obtain ⟨digit, small, rfl⟩ := exists_digit_of_mem digits
        exact table digit small
      · rfl

/-! ### Quoted texts -/

/-- A text between two double quotes, which are the only ones in it that no backslash escapes, all on one line. -/
structure Quotation (quoted : String) : Prop where
  bounded : ∃ inside, quoted.toList = '"' :: (inside ++ ['"'])
  closed : ∀ before after, quoted.toList = before ++ '"' :: after →
    (escapesNext before = true ↔ before ≠ [] ∧ after ≠ [])
  oneLine : isOneLine quoted = true

theorem toList_quote (text : String) :
    (quote text).toList = '"' :: (text.toList.flatMap quoteChar ++ ['"']) := by
  rw [quote, String.toList_ofList]
  rfl

theorem seen_of_mem_quote (text : String) : ∀ char ∈ (quote text).toList, isHidden char = false := by
  intro char member
  rw [toList_quote, List.mem_cons, List.mem_append, List.mem_flatMap, List.mem_singleton] at member
  rcases member with rfl | ⟨quoted, -, among⟩ | rfl
  · rfl
  · exact (spells_quoteChar quoted).seen char among
  · rfl

theorem isOneLine_quote (text : String) : isOneLine (quote text) = true := by
  refine List.all_eq_true.mpr fun char member => ?_
  obtain ⟨noControl, goesOn⟩ := not_isHidden (seen_of_mem_quote text char member)
  rw [noControl, goesOn]
  rfl

theorem quotation_quote (text : String) : Quotation (quote text) where
  bounded := ⟨_, toList_quote text⟩
  closed before after split := by
    have inside := inside_quoted text.toList
    rw [toList_quote] at split
    generalize text.toList.flatMap quoteChar = body at inside split
    cases before with
    | nil => exact iff_of_false Bool.false_ne_true fun both => both.1 rfl
    | cons first before =>
        obtain ⟨rfl, more⟩ : '"' = first ∧ body ++ ['"'] = before ++ '"' :: after := List.cons.inj split
        have notBackslash : '"' ≠ '\\' := by decide
        rw [escapesNext_plain notBackslash]
        rcases List.eq_nil_or_concat after with rfl | ⟨after, last, rfl⟩
        · rw [← (List.append_singleton_inj.mp more).1, inside.closed]
          exact iff_of_false Bool.false_ne_true fun both => both.2 rfl
        · rw [List.concat_eq_append, ← List.cons_append, ← List.append_assoc, List.append_singleton_inj] at more
          exact iff_of_true (inside.escaped more.1) ⟨List.cons_ne_nil _ _, by simp⟩
  oneLine := isOneLine_quote text

theorem quoted_inj (same : text.flatMap quoteChar ++ '"' :: rest = other.flatMap quoteChar ++ '"' :: rest') :
    text = other ∧ rest = rest' := by
  have unquoted {char : Char} {more rest : List Char} : quoteChar char ++ more ≠ '"' :: rest := by
    intro begins
    have spells := spells_quoteChar char
    generalize quoteChar char = spelling at spells begins
    cases spells with
    | itself notQuote _ _ => exact notQuote (List.cons.inj begins).1
    | letter _ => exact absurd (List.cons.inj begins).1 (by decide)
    | number _ => exact absurd (List.cons.inj begins).1 (by decide)
  induction text generalizing other with
  | nil =>
      cases other with
      | nil => exact ⟨rfl, (List.cons.inj same).2⟩
      | cons char other =>
          rw [List.flatMap_cons, List.append_assoc] at same
          exact absurd same.symm unquoted
  | cons char text ih =>
      rw [List.flatMap_cons, List.append_assoc] at same
      cases other with
      | nil => exact absurd same unquoted
      | cons char' other =>
          rw [List.flatMap_cons, List.append_assoc] at same
          obtain ⟨chars, more⟩ := (spells_quoteChar char).unique (spells_quoteChar char') same
          obtain ⟨texts, rests⟩ := ih more
          exact ⟨by rw [chars, texts], rests⟩

/-- A message that shows a quoted text tells it, and what stands before and after it, if it has no quote before. -/
theorem framed_inj {lead lead' text other tail tail' : String} (plain : '"' ∉ lead.toList)
    (plain' : '"' ∉ lead'.toList) :
    lead ++ quote text ++ tail = lead' ++ quote other ++ tail' ↔ lead = lead' ∧ text = other ∧ tail = tail' := by
  refine ⟨fun same => ?_, fun ⟨leads, texts, tails⟩ => by rw [leads, texts, tails]⟩
  have lists := congrArg String.toList same
  simp only [String.toList_append, toList_quote, List.append_assoc, List.cons_append, List.nil_append] at lists
  obtain ⟨leads, rests⟩ := append_mark_inj plain plain' lists
  obtain ⟨texts, tails⟩ := quoted_inj rests
  exact ⟨String.toList_inj.mp leads, String.toList_inj.mp texts, String.toList_inj.mp tails⟩

/-- A quoted text ends where it seems to: neither it nor what comes after it can be taken for anything else. -/
theorem quote_append_inj {text other rest rest' : String} :
    quote text ++ rest = quote other ++ rest' ↔ text = other ∧ rest = rest' := by
  have plain : '"' ∉ "".toList := List.not_mem_nil
  have framed : "" ++ quote text ++ rest = "" ++ quote other ++ rest' ↔ "" = "" ∧ text = other ∧ rest = rest' :=
    framed_inj plain plain
  rwa [String.empty_append, String.empty_append, eq_self, true_and] at framed

example : quote "\\n\"\n" = "\"\\\\n\\\"\\n\"" := by
  decide +kernel

end AuthBroker.Text
