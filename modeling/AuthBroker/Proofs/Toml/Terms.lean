import AuthBroker.Proofs.Toml.Number
import AuthBroker.Proofs.Toml.Spelling
import AuthBroker.Toml.Document

namespace AuthBroker.Toml

/-! Reading values that are spelt on one line.

The outline of a value is taken first, and an item is made of it later.  A number ends with its line; a text ends
with its second quote unless a third one is next, which neither a comma, nor a bracket, nor a line end is.
-/

variable {text rest gap body lexeme held run : List Char} {fuel depth : Nat} {char : Char} {texts : List String}
  {terms : List Term} {value : Value}

/-! ### Gaps -/

/-- What ends a gap: no blank, no line end and no comment. -/
def Dark (char : Char) : Prop :=
  isBlank char = false ∧ char ≠ '#' ∧ char ≠ '\n' ∧ char ≠ '\r'

instance : DecidablePred Dark := fun char =>
  inferInstanceAs (Decidable (isBlank char = false ∧ char ≠ '#' ∧ char ≠ '\n' ∧ char ≠ '\r'))

theorem blank_nil : Blank [] := by
  simp [Blank]

theorem Blank.isBlank (blank : Blank gap) : ∀ char ∈ gap, isBlank char = true := by
  intro char member
  rcases blank char member with rfl | rfl <;> rfl

theorem dropBlank_append (blank : Blank gap) (dark : isBlank char = false) :
    dropBlank (gap ++ char :: rest) = char :: rest := by
  rw [dropBlank, List.dropWhile_append_of_pos blank.isBlank, List.dropWhile_cons_of_neg (by simp [dark])]

theorem skipVoid_append (blank : Blank gap) (dark : Dark char) : skipVoid (gap ++ char :: rest) = char :: rest := by
  obtain ⟨notBlank, notHash, notLineFeed, notReturn⟩ := dark
  have noComment : dropComment (char :: rest) = char :: rest := by
    simp [dropComment, notHash]
  have noLineEnd : lineEnd? (char :: rest) = none := by
    unfold lineEnd?
    split
    · rename_i same
      exact absurd (List.cons_eq_cons.mp same).1 notLineFeed
    · rename_i same
      exact absurd (List.cons_eq_cons.mp same).1 notReturn
    · rfl
  have step (unit : Char) (fuel : List Char) : dropVoid (unit :: fuel) (gap ++ char :: rest) = char :: rest := by
    simp only [dropVoid, dropBlank_append blank notBlank, noComment, noLineEnd]
  obtain ⟨first, later, split⟩ : ∃ first later, gap ++ char :: rest = first :: later :=
    List.exists_cons_of_ne_nil (by simp)
  have skipped := step first later
  rwa [← split] at skipped

/-- A text ends before what is no third quote. -/
theorem head?_append_ne (blank : Blank gap) (notQuote : rest.head? ≠ some '"') : (gap ++ rest).head? ≠ some '"' := by
  cases gap with
  | nil => exact notQuote
  | cons char gap =>
      have isSpace := blank.isBlank char List.mem_cons_self
      intro same
      rw [Option.some.inj same] at isSpace
      contradiction

/-! ### Scalars -/

def LineEnds (rest : List Char) : Prop :=
  ∀ char ∈ rest.head?, char = '\n'

theorem LineEnds.notQuote (ends : LineEnds rest) : rest.head? ≠ some '"' := by
  intro same
  exact absurd (ends '"' same) (by decide)

theorem bare?_of_ne_nil {start chars : List Char} (nonempty : chars ≠ []) :
    bare? start (chars, rest) = some (⟨.bare, ⟨start, rest⟩, chars, true⟩, rest) := by
  obtain ⟨char, chars, rfl⟩ := List.exists_cons_of_ne_nil nonempty
  rfl

/-- What opens no bracket is a scalar. -/
theorem readTerm_scalar (notList : text.head? ≠ some '[') (notTable : text.head? ≠ some '\x7b') :
    readTerm (fuel + 1) depth text = (valueLexeme? text).map fun (lexeme, rest) => (.scalar lexeme, rest) := by
  unfold readTerm
  split
  · exact absurd rfl notList
  · exact absurd rfl notTable
  · rfl

theorem quoted?_eq_none (noQuote : ∀ char ∈ text.head?, isQuote char = false) : quoted? text = none := by
  unfold quoted?
  split
  · exact absurd (noQuote '"' rfl) (by decide)
  · exact absurd (noQuote '"' rfl) (by decide)
  · exact absurd (noQuote '\'' rfl) (by decide)
  · exact absurd (noQuote '\'' rfl) (by decide)
  · rfl

def Denotes (term : Term) (text : String) : Prop :=
  ∃ span, itemOf term = .ok (.scalar span (.text text))

theorem readTerm_text {text : String} (spelt : SpellsText lexeme text) (notQuote : rest.head? ≠ some '"') :
    ∃ term, Denotes term text ∧ ∀ fuel depth, readTerm (fuel + 1) depth (lexeme ++ rest) = some (term, rest) := by
  obtain ⟨body, content, rfl⟩ := spelt
  have shape : '"' :: body ++ ['"'] ++ rest = '"' :: (body ++ '"' :: rest) := by simp
  let span : Span := ⟨'"' :: (body ++ '"' :: rest), rest⟩
  refine ⟨.scalar ⟨.basic, span, body, true⟩, ⟨span, ?_⟩, fun fuel depth => ?_⟩
  · have read : basicText body [] body = some text.toList := content.basicText (Nat.le_refl _)
    simp [itemOf, Lexeme.scalar?, Lexeme.text?, read, orMalformed, Except.map]
  · rw [shape, readTerm_scalar (by simp) (by simp), valueLexeme?, quoted?_of_content content notQuote]
    rfl

/-- A character of bare lexemes, which opens and ends nothing. -/
structure Plain (char : Char) : Prop where
  dark : Dark char
  inside : endsBare char = false
  noQuote : isQuote char = false
  notList : char ≠ '['
  notTable : char ≠ '\x7b'
  notMark : char ≠ '\uFEFF'

theorem plain_of_isKeyChar (isKeyChar : Toml.isKeyChar char = true) : Plain char := by
  have other (letter : Char) (notKeyChar : Toml.isKeyChar letter = false) : char ≠ letter := by
    rintro rfl
    rw [isKeyChar] at notKeyChar
    contradiction
  have noSpace : isBlank char = false := by
    simp [isBlank, other ' ' rfl, other '\t' rfl]
  constructor
  · exact ⟨noSpace, other '#' rfl, other '\n' rfl, other '\r' rfl⟩
  · simp [endsBare, noSpace, other '\n' rfl, other '\r' rfl, other '#' rfl, other ',' rfl, other '.' rfl, other '=' rfl,
      other '[' rfl, other ']' rfl, other '\x7b' rfl, other '\x7d' rfl]
  · simp [isQuote, other '"' rfl, other '\'' rfl]
  · exact other '[' rfl
  · exact other '\x7b' rfl
  · exact other '\uFEFF' rfl

theorem plain_of_isDecimal (isDecimal : Toml.isDecimal char = true) : Plain char := by
  refine plain_of_isKeyChar ?_
  rw [Toml.isDecimal] at isDecimal
  rw [isKeyChar, isDecimal]
  simp

theorem bareValue_of_decimals (decimals : Decimals run) (ends : LineEnds rest) :
    bareValue held [] (run ++ rest) (run ++ rest) = (held.reverse ++ run, rest) := by
  induction run generalizing held with
  | nil =>
      cases rest with
      | nil => simp [bareValue]
      | cons char rest =>
          obtain rfl : char = '\n' := ends char rfl
          simp [bareValue, isBlank, endsBare]
  | cons char run ih =>
      have plain := plain_of_isDecimal (decimals char List.mem_cons_self)
      have step : bareValue held [] (char :: (run ++ rest)) (char :: (run ++ rest)) =
          bareValue (char :: held) [] (run ++ rest) (run ++ rest) := by
        simp [bareValue, plain.dark.1, plain.inside]
      rw [List.cons_append, step, ih fun other member => decimals other (List.mem_cons_of_mem _ member)]
      simp

theorem readTerm_count {count : Nat} (fits : count < Word.count 128) (ends : LineEnds rest) :
    ∃ term span, itemOf term = .ok (.scalar span (.integer (some (count : Int)))) ∧
      ∀ fuel depth, readTerm (fuel + 1) depth (Decimal.digits count ++ rest) = some (term, rest) := by
  obtain ⟨first, later, split⟩ := List.exists_cons_of_ne_nil (Decimal.digits_ne_nil count)
  have head : (Decimal.digits count ++ rest).head? = some first := by
    rw [split]
    rfl
  have plain := plain_of_isDecimal (decimals_digits count first (by simp [split]))
  let span : Span := ⟨Decimal.digits count ++ rest, rest⟩
  have taken : valueLexeme? (Decimal.digits count ++ rest) =
      some (⟨.bare, span, Decimal.digits count, true⟩, rest) := by
    have noQuote : ∀ char ∈ (Decimal.digits count ++ rest).head?, isQuote char = false := by
      intro char member
      rw [head] at member
      exact Option.some.inj member ▸ plain.noQuote
    rw [valueLexeme?, quoted?_eq_none noQuote]
    simp only [bareValue_of_decimals (decimals_digits count) ends, List.reverse_nil, List.nil_append]
    exact bare?_of_ne_nil (Decimal.digits_ne_nil count)
  refine ⟨.scalar ⟨.bare, span, Decimal.digits count, true⟩, span, ?_, fun fuel depth => ?_⟩
  · simp only [itemOf, Lexeme.scalar?, bareScalar?_digits fits]
    rfl
  · rw [readTerm_scalar (by simp [head, plain.notList]) (by simp [head, plain.notTable]), taken]
    rfl

/-! ### Lists -/

/-- A text starts with a quote. -/
theorem SpellsText.exists_tail {text : String} (spelt : SpellsText lexeme text) : ∃ tail, lexeme = '"' :: tail := by
  obtain ⟨body, -, rfl⟩ := spelt
  exact ⟨_, rfl⟩

theorem readItems_cons {tail : List Char} {held : List Term} (skipped : skipVoid text = char :: tail) (notEnd : char ≠ ']') :
    readItems (fuel + 1) depth held text = (readTerm fuel depth (char :: tail)).bind fun (item, rest) =>
      match skipVoid rest with
      | ']' :: rest => some ((item :: held).reverse, rest)
      | ',' :: rest => readItems fuel depth (item :: held) rest
      | _ => none := by
  rw [readItems, skipped]
  split
  · rename_i same
    exact absurd (List.cons_eq_cons.mp same).1 notEnd
  · cases readTerm fuel depth (char :: tail) <;> rfl

/-- What follows an item decides how to go on. -/
theorem readItems_item {text : String} {after : List Char} (rest : List Char) (blank : Blank gap)
    (spelt : SpellsText lexeme text) (blankAfter : Blank after) (notQuote : rest.head? ≠ some '"') :
    ∃ term, Denotes term text ∧ ∀ fuel depth (held : List Term),
      readItems (fuel + 2) depth held (gap ++ lexeme ++ after ++ rest) = match skipVoid (after ++ rest) with
      | ']' :: rest => some ((term :: held).reverse, rest)
      | ',' :: rest => readItems (fuel + 1) depth (term :: held) rest
      | _ => none := by
  obtain ⟨term, denotes, taken⟩ := readTerm_text spelt (head?_append_ne blankAfter notQuote)
  obtain ⟨tail, rfl⟩ := spelt.exists_tail
  refine ⟨term, denotes, fun fuel depth held => ?_⟩
  have skipped : skipVoid (gap ++ '"' :: tail ++ after ++ rest) = '"' :: (tail ++ (after ++ rest)) := by
    simp only [List.append_assoc, List.cons_append]
    exact skipVoid_append blank (by decide)
  have taken : readTerm (fuel + 1) depth ('"' :: (tail ++ (after ++ rest))) = some (term, after ++ rest) := taken fuel depth
  rw [readItems_cons skipped (by decide), taken]
  rfl

theorem readItems_of_items (items : Items body texts) (rest : List Char) : ∃ terms, List.Forall₂ Denotes terms texts ∧
    ∀ fuel depth held, body.length < fuel →
      readItems fuel depth held (body ++ ']' :: rest) = some (held.reverse ++ terms, rest) := by
  have bracket {gap : List Char} (blank : Blank gap) : skipVoid (gap ++ ']' :: rest) = ']' :: rest :=
    skipVoid_append blank (by decide)
  induction items with
  | ended blank =>
      refine ⟨[], .nil, fun fuel depth held enough => ?_⟩
      obtain ⟨fuel, rfl⟩ := Nat.exists_eq_add_of_lt enough
      rw [readItems, bracket blank]
      simp
  | last blankBefore spelt blankAfter =>
      obtain ⟨term, denotes, taken⟩ := readItems_item (']' :: rest) blankBefore spelt blankAfter (by simp)
      refine ⟨[term], .cons denotes .nil, fun fuel depth held enough => ?_⟩
      obtain ⟨tail, rfl⟩ := spelt.exists_tail
      simp only [List.length_append, List.length_cons] at enough
      obtain ⟨fuel, rfl⟩ : ∃ more, fuel = more + 2 := ⟨fuel - 2, by omega⟩
      rw [taken, bracket blankAfter]
      simp
  | @item before lexeme after body _ _ blankBefore spelt blankAfter more ih =>
      obtain ⟨terms, denotes', more⟩ := ih
      obtain ⟨term, denotes, taken⟩ :=
        readItems_item (',' :: (body ++ ']' :: rest)) blankBefore spelt blankAfter (by simp)
      refine ⟨term :: terms, .cons denotes denotes', fun fuel depth held enough => ?_⟩
      have comma : skipVoid (after ++ ',' :: (body ++ ']' :: rest)) = ',' :: (body ++ ']' :: rest) :=
        skipVoid_append blankAfter (by decide)
      have shape : before ++ lexeme ++ after ++ ',' :: body ++ ']' :: rest =
          before ++ lexeme ++ after ++ ',' :: (body ++ ']' :: rest) := by simp
      obtain ⟨tail, rfl⟩ := spelt.exists_tail
      simp only [List.length_append, List.length_cons] at enough
      obtain ⟨fuel, rfl⟩ : ∃ more, fuel = more + 2 := ⟨fuel - 2, by omega⟩
      rw [shape, taken, comma]
      simp only
      rw [more _ _ _ (by omega)]
      simp

def HoldsText (item : Item) (text : String) : Prop :=
  ∃ span, item = .scalar span (.text text)

theorem itemsOf_of_denotes (held : List Item) (denote : List.Forall₂ Denotes terms texts) :
    ∃ items, itemsOf held terms = .ok (held.reverse ++ items) ∧ List.Forall₂ HoldsText items texts := by
  induction denote generalizing held with
  | nil => exact ⟨[], by simp [itemsOf], .nil⟩
  | cons denotes more ih =>
      obtain ⟨span, made⟩ := denotes
      obtain ⟨items, made', hold⟩ := ih (.scalar span (.text _) :: held)
      refine ⟨_ :: items, ?_, .cons ⟨span, rfl⟩ hold⟩
      rw [itemsOf, made, List.append_cons, ← List.reverse_cons, ← made']

/-! ### Values -/

/-- What the item of a value is. -/
inductive Holds : Item → Value → Prop
  | text {text : String} (span : Span) : Holds (.scalar span (.text text)) (.text text)
  | count {count : Nat} (span : Span) : Holds (.scalar span (.integer (some (count : Int)))) (.count count)
  | texts {items : List Item} {texts : List String} (span : Span) (hold : List.Forall₂ HoldsText items texts) :
      Holds (.array span items) (.texts texts)

theorem readTerm_of_spells (spells : Spells lexeme value) (ends : LineEnds rest) : ∃ term item,
    itemOf term = .ok item ∧ Holds item value ∧ ∀ fuel depth, lexeme.length ≤ fuel →
      readTerm (fuel + 1) (depth + 1) (lexeme ++ rest) = some (term, rest) := by
  cases spells with
  | text spelt =>
      obtain ⟨term, ⟨span, made⟩, taken⟩ := readTerm_text spelt ends.notQuote
      exact ⟨term, _, made, .text span, fun fuel depth _ => taken fuel _⟩
  | count count fits =>
      obtain ⟨term, span, made, taken⟩ := readTerm_count fits ends
      exact ⟨term, _, made, .count span, fun fuel depth _ => taken fuel _⟩
  | @texts body texts items =>
      obtain ⟨terms, denote, taken⟩ := readItems_of_items items rest
      obtain ⟨items, made, hold⟩ := itemsOf_of_denotes [] denote
      have shape : '[' :: body ++ [']'] ++ rest = '[' :: (body ++ ']' :: rest) := by simp
      let span : Span := ⟨'[' :: (body ++ ']' :: rest), rest⟩
      refine ⟨.array span terms, .array span items, ?_, .texts span hold, fun fuel depth enough => ?_⟩
      · rw [itemOf, made]
        rfl
      · simp only [List.length_append, List.length_cons, List.length_nil] at enough
        rw [shape, readTerm]
        simp only [taken fuel depth [] (by omega), List.reverse_nil, List.nil_append]
        rfl

end AuthBroker.Toml
