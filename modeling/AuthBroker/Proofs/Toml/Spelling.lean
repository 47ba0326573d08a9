import AuthBroker.Decimal.Digits
import AuthBroker.Toml.Escape
import Mathlib.Data.List.Forall2
import Mathlib.Data.List.TakeWhile
import Mathlib.Tactic.SplitIfs

namespace AuthBroker.Toml

/-! How TOML spells values on one line.

A text stands between double quotes.  Each of its characters stands for itself or is written by an escape, and the
quote, the backslash and control characters are always escaped.  A text has many spellings, and all are read
as that text.
-/

/-! ### The spelling -/

/-- The letters that stand for a character after a backslash. -/
def letters : List (Char × Char) :=
  [('b', '\x08'), ('t', '\t'), ('n', '\n'), ('f', '\x0c'), ('r', '\r'), ('e', '\x1b'), ('"', '"'), ('\\', '\\')]

/-- The letters after which the number of a character stands, and how many hexadecimal digits it has. -/
def numberLetters : List (Char × Nat) :=
  [('x', 2), ('u', 4), ('U', 8)]

/-- The hexadecimal digits, in either case. -/
def hexTable : List (Char × Nat) :=
  [('0', 0), ('1', 1), ('2', 2), ('3', 3), ('4', 4), ('5', 5), ('6', 6), ('7', 7), ('8', 8), ('9', 9), ('a', 10), ('b', 11),
    ('c', 12), ('d', 13), ('e', 14), ('f', 15), ('A', 10), ('B', 11), ('C', 12), ('D', 13), ('E', 14), ('F', 15)]

def Hex (digits : List Char) (values : List Nat) : Prop :=
  List.Forall₂ (fun digit value => (digit, value) ∈ hexTable) digits values

def numberFrom (start : Nat) (values : List Nat) : Nat :=
  values.foldl (fun number value => number * 16 + value) start

/-- The spellings of one character. -/
inductive Written : List Char → Char → Prop
  | plain {char : Char} (notQuote : char ≠ '"') (notBackslash : char ≠ '\\') (printable : 0x20 ≤ char.toNat)
      (notDelete : char.toNat ≠ 0x7F) : Written [char] char
  | letter {letter char : Char} (known : (letter, char) ∈ letters) : Written ['\\', letter] char
  | number {letter char : Char} {digits : List Char} {values : List Nat} (known : (letter, digits.length) ∈ numberLetters)
      (hex : Hex digits values) (denotes : numberFrom 0 values = char.toNat) : Written ('\\' :: letter :: digits) char

/-- What stands between the quotes. -/
inductive Content : List Char → List Char → Prop
  | nil : Content [] []
  | cons {part body chars : List Char} {char : Char} (written : Written part char) (more : Content body chars) :
      Content (part ++ body) (char :: chars)

def SpellsText (lexeme : List Char) (text : String) : Prop :=
  ∃ body, Content body text.toList ∧ lexeme = '"' :: body ++ ['"']

def Blank (gap : List Char) : Prop :=
  ∀ char ∈ gap, char = ' ' ∨ char = '\t'

/-- Texts with commas between them.  A comma may stand after the last. -/
inductive Items : List Char → List String → Prop
  | ended {gap : List Char} (blank : Blank gap) : Items gap []
  | last {before lexeme after : List Char} {text : String} (blankBefore : Blank before)
      (spelt : SpellsText lexeme text) (blankAfter : Blank after) : Items (before ++ lexeme ++ after) [text]
  | item {before lexeme after body : List Char} {text : String} {texts : List String} (blankBefore : Blank before)
      (spelt : SpellsText lexeme text) (blankAfter : Blank after) (more : Items body texts) :
      Items (before ++ lexeme ++ after ++ ',' :: body) (text :: texts)

inductive Value
  | text (text : String)
  | count (count : Nat)
  | texts (texts : List String)

inductive Spells : List Char → Value → Prop
  | text {lexeme : List Char} {text : String} (spelt : SpellsText lexeme text) : Spells lexeme (.text text)
  | count (count : Nat) (fits : count < Word.count 128) : Spells (Decimal.digits count) (.count count)
  | texts {body : List Char} {texts : List String} (items : Items body texts) : Spells ('[' :: body ++ [']']) (.texts texts)

variable {part body rest held digits chars lexeme gap : List Char} {letter char : Char} {values : List Nat} {text : String}

/-! ### Every value has a spelling -/

theorem exists_written (char : Char) : ∃ part, Written part char := by
  by_cases isQuote : char = '"'
  · exact ⟨['\\', '"'], .letter (by simp [letters, isQuote])⟩
  by_cases isBackslash : char = '\\'
  · exact ⟨['\\', '\\'], .letter (by simp [letters, isBackslash])⟩
  by_cases control : char.toNat < 0x20 ∨ char.toNat = 0x7F
  · have known : ∀ value : Fin 16, (Nat.digitChar value, value.val) ∈ hexTable := by decide
    have high := known ⟨char.toNat / 16, by omega⟩
    have low := known ⟨char.toNat % 16, by omega⟩
    have denotes : numberFrom 0 [0, 0, char.toNat / 16, char.toNat % 16] = char.toNat := by
      simp only [numberFrom, List.foldl_cons, List.foldl_nil]
      omega
    exact ⟨'\\' :: 'u' :: _, .number (by simp [numberLetters])
      (.cons (known 0) (.cons (known 0) (.cons high (.cons low .nil)))) denotes⟩
  · rw [not_or, Nat.not_lt] at control
    exact ⟨_, .plain isQuote isBackslash control.1 control.2⟩

theorem exists_content (chars : List Char) : ∃ body, Content body chars := by
  induction chars with
  | nil => exact ⟨[], .nil⟩
  | cons char chars ih =>
      obtain ⟨part, written⟩ := exists_written char
      obtain ⟨body, more⟩ := ih
      exact ⟨part ++ body, .cons written more⟩

theorem exists_spellsText (text : String) : ∃ lexeme, SpellsText lexeme text := by
  obtain ⟨body, content⟩ := exists_content text.toList
  exact ⟨_, body, content, rfl⟩

theorem exists_items (texts : List String) : ∃ body, Items body texts := by
  have blank : Blank [] := by simp [Blank]
  induction texts with
  | nil => exact ⟨[], .ended blank⟩
  | cons text texts ih =>
      obtain ⟨lexeme, spelt⟩ := exists_spellsText text
      obtain ⟨body, more⟩ := ih
      exact ⟨_, .item blank spelt blank more⟩

theorem exists_spells (value : Value) (fits : ∀ count, value = .count count → count < Word.count 128) :
    ∃ lexeme, Spells lexeme value := by
  cases value with
  | text text =>
      obtain ⟨lexeme, spelt⟩ := exists_spellsText text
      exact ⟨lexeme, .text spelt⟩
  | count count => exact ⟨_, .count count (fits count rfl)⟩
  | texts texts =>
      obtain ⟨body, items⟩ := exists_items texts
      exact ⟨_, .texts items⟩

/-! ### Escapes -/

theorem escape_letter (known : (letter, char) ∈ letters) : escape (letter :: rest) = some (char, rest) := by
  simp only [letters, List.mem_cons, Prod.mk.injEq, List.not_mem_nil, or_false] at known
  rcases known with ⟨rfl, rfl⟩ | ⟨rfl, rfl⟩ | ⟨rfl, rfl⟩ | ⟨rfl, rfl⟩ | ⟨rfl, rfl⟩ | ⟨rfl, rfl⟩ | ⟨rfl, rfl⟩ | ⟨rfl, rfl⟩ <;>
    rfl

theorem hexValue?_of_mem {value : Nat} (known : (char, value) ∈ hexTable) : hexValue? char = some value := by
  have all : ∀ pair ∈ hexTable, hexValue? pair.1 = some pair.2 := by decide
  exact all _ known

theorem hexDigits_of_hex (start : Nat) (hex : Hex digits values) :
    hexDigits digits.length start (digits ++ rest) = some (numberFrom start values, rest) := by
  induction hex generalizing start with
  | nil => rfl
  | cons known more ih =>
      simp only [List.length_cons, List.cons_append, hexDigits, hexValue?_of_mem known]
      exact ih _

theorem escape_number (known : (letter, digits.length) ∈ numberLetters) (hex : Hex digits values)
    (denotes : numberFrom 0 values = char.toNat) : escape (letter :: (digits ++ rest)) = some (char, rest) := by
  have named : charByNumber digits.length (digits ++ rest) = some (char, rest) := by
    have inRange : (char.toNat < 0xD800 || (0xE000 ≤ char.toNat && char.toNat < 0x110000)) = true := by
      have valid : char.toNat < 0xD800 ∨ (0xDFFF < char.toNat ∧ char.toNat < 0x110000) := char.valid
      simp only [Bool.or_eq_true, Bool.and_eq_true, decide_eq_true_eq]
      omega
    rw [charByNumber, hexDigits_of_hex 0 hex, denotes]
    simp only [inRange, if_true, Char.ofNat_toNat]
  simp only [numberLetters, List.mem_cons, Prod.mk.injEq, List.not_mem_nil, or_false] at known
  rcases known with ⟨rfl, long⟩ | ⟨rfl, long⟩ | ⟨rfl, long⟩ <;>
    · rw [long] at named
      exact named

/-! ### Quotations -/

/-- Neither a quote, nor a backslash, nor the end of a line. -/
def Inert (char : Char) : Prop :=
  char ≠ '"' ∧ char ≠ '\\' ∧ char ≠ '\n'

theorem inert_of_hex (hex : Hex digits values) : ∀ char ∈ digits, Inert char := by
  induction hex with
  | nil => simp
  | @cons digit _ _ _ known more ih =>
      have other {letter : Char} (notHex : hexValue? letter = none) : digit ≠ letter := by
        rintro rfl
        rw [hexValue?_of_mem known] at notHex
        contradiction
      intro char member
      rcases List.mem_cons.mp member with rfl | later
      · exact ⟨other (by decide), other (by decide), other (by decide)⟩
      · exact ih char later

theorem quotation_of_inert (inert : ∀ char ∈ part, Inert char) :
    quotation '"' false held (part ++ rest) = quotation '"' false (part.reverse ++ held) rest := by
  induction part generalizing held with
  | nil => rfl
  | cons char part ih =>
      obtain ⟨notQuote, notBackslash, notLineFeed⟩ := inert char List.mem_cons_self
      have step : quotation '"' false held (char :: (part ++ rest)) = quotation '"' false (char :: held) (part ++ rest) := by
        simp [quotation, notQuote, notBackslash, notLineFeed]
      rw [List.cons_append, step, ih fun other member => inert other (List.mem_cons_of_mem _ member)]
      simp

theorem quotation_escape (notLineFeed : letter ≠ '\n') :
    quotation '"' false held ('\\' :: letter :: rest) = quotation '"' false (letter :: '\\' :: held) rest := by
  simp [quotation, notLineFeed]

theorem Written.quotation (written : Written part char) :
    quotation '"' false held (part ++ rest) = quotation '"' false (part.reverse ++ held) rest := by
  cases written with
  | plain notQuote notBackslash printable _ =>
      refine quotation_of_inert fun other member => ?_
      obtain rfl := List.mem_singleton.mp member
      refine ⟨notQuote, notBackslash, ?_⟩
      rintro rfl
      exact absurd printable (by decide)
  | letter known =>
      refine quotation_escape ?_
      rintro rfl
      simp [letters] at known
  | @number letter _ digits _ known hex _ =>
      have notLineFeed : letter ≠ '\n' := by
        rintro rfl
        simp [numberLetters] at known
      rw [List.cons_append, List.cons_append, quotation_escape notLineFeed, quotation_of_inert (inert_of_hex hex)]
      simp

theorem Content.quotation (content : Content body chars) :
    quotation '"' false held (body ++ '"' :: rest) = ⟨held.reverse ++ body, true, rest⟩ := by
  induction content generalizing held with
  | nil => simp [Toml.quotation]
  | cons written more ih =>
      rw [List.append_assoc, written.quotation, ih]
      simp

/-- No text between quotes starts with a quote. -/
theorem Content.head?_ne (content : Content body chars) : body.head? ≠ some '"' := by
  cases content with
  | nil => simp
  | cons written more =>
      cases written with
      | plain notQuote _ _ _ => simpa using notQuote
      | letter _ => simp
      | number _ _ _ => simp

theorem quoted?_of_content (content : Content body chars) (notQuote : rest.head? ≠ some '"') :
    quoted? ('"' :: (body ++ '"' :: rest)) = some (⟨.basic, ⟨'"' :: (body ++ '"' :: rest), rest⟩, body, true⟩, rest) := by
  have closed : quotation '"' false [] (body ++ '"' :: rest) = ⟨body, true, rest⟩ := content.quotation
  unfold quoted?
  split
  · rename_i later three
    have three : body ++ '"' :: rest = '"' :: '"' :: later := (List.cons_eq_cons.mp three).2
    cases body with
    | nil => exact absurd (by rw [(List.cons_eq_cons.mp three).2]; rfl) notQuote
    | cons first body => exact absurd (congrArg some (List.cons_eq_cons.mp three).1) content.head?_ne
  · rename_i later _ one
    obtain rfl : body ++ '"' :: rest = later := (List.cons_eq_cons.mp one).2
    rw [closed]
    rfl
  · rename_i one
    exact absurd (List.cons_eq_cons.mp one).1 (by decide)
  · rename_i one
    exact absurd (List.cons_eq_cons.mp one).1 (by decide)
  · rename_i other _ _
    exact absurd rfl (other _)

/-! ### Texts -/

theorem Written.length_pos (written : Written part char) : 0 < part.length := by
  cases written <;> exact Nat.succ_pos _

theorem Written.basicText {unit : Char} {fuel : List Char} (written : Written part char) :
    basicText (unit :: fuel) held (part ++ rest) = basicText fuel (char :: held) rest := by
  cases written with
  | plain _ notBackslash printable notDelete =>
      have noControl : isControl char = false := by
        simp only [isControl, Bool.or_eq_false_iff, Bool.and_eq_false_imp, decide_eq_false_iff_not, decide_eq_true_eq]
        exact ⟨fun below => absurd below (Nat.not_lt.mpr printable), notDelete⟩
      simp [Toml.basicText, notBackslash, noControl]
  | letter known => simp [Toml.basicText, escape_letter known]
  | number known hex denotes => simp [Toml.basicText, escape_number known hex denotes]

theorem Content.basicText {fuel : List Char} (content : Content body chars) (enough : body.length ≤ fuel.length) :
    basicText fuel held body = some (held.reverse ++ chars) := by
  induction content generalizing fuel held with
  | nil => cases fuel <;> simp [Toml.basicText]
  | cons written more ih =>
      have positive := written.length_pos
      rw [List.length_append] at enough
      cases fuel with
      | nil =>
          rw [List.length_nil] at enough
          omega
      | cons unit fuel =>
          rw [List.length_cons] at enough
          rw [written.basicText, ih (by omega)]
          simp

end AuthBroker.Toml
