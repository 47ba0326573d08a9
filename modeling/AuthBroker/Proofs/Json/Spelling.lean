import AuthBroker.Json.Lexeme
import AuthBroker.Proofs.Text.Utf8
import Mathlib.Data.List.TakeWhile

namespace AuthBroker.Json

/-! How JSON spells blanks, names and strings.

A relation says which octets spell a lexeme and what they stand for, without a word about
how a reader finds them.  The readers of these lexemes need not look past their end, so
each of them accepts exactly what is spelt at the head of its octets.
-/

variable {octets rest : List UInt8}

/-! ### Blanks and names -/

/-- Octets that may stand between two lexemes. -/
def Blank (octets : List UInt8) : Prop :=
  ∀ octet ∈ octets, isBlank octet = true

theorem blank_nil : Blank [] := by
  simp [Blank]

theorem Blank.append {left right : List UInt8} (before : Blank left) (after : Blank right) :
    Blank (left ++ right) := by
  intro octet member
  rcases List.mem_append.mp member with inLeft | inRight
  · exact before octet inLeft
  · exact after octet inRight

/-- Blanks are dropped up to the first octet that is none. -/
theorem dropBlank_append {blank : List UInt8} {octet : UInt8} (isSpace : Blank blank)
    (dark : isBlank octet = false) : dropBlank (blank ++ octet :: rest) = octet :: rest := by
  rw [dropBlank, List.dropWhile_append_of_pos isSpace, List.dropWhile_cons_of_neg (by simp [dark])]

theorem dropBlank_of_dark {octet : UInt8} (dark : isBlank octet = false) :
    dropBlank (octet :: rest) = octet :: rest :=
  dropBlank_append blank_nil dark

theorem dropBlank_of_blank (isSpace : Blank octets) : dropBlank octets = [] :=
  List.dropWhile_eq_nil_iff.mpr isSpace

/-- What was dropped is blank, and the next octet is none. -/
theorem exists_blank (octets : List UInt8) : ∃ blank, Blank blank ∧ octets = blank ++ dropBlank octets ∧
    ∀ octet ∈ (dropBlank octets).head?, isBlank octet = false := by
  refine ⟨octets.takeWhile isBlank, fun octet member => List.mem_takeWhile_imp member,
    List.takeWhile_append_dropWhile.symm, fun octet member => ?_⟩
  have kept := List.head?_dropWhile_not isBlank octets
  rw [← dropBlank, Option.mem_def.mp member] at kept
  simpa using kept

theorem expectName_eq_ok_iff {name : List UInt8} :
    expectName name octets = .ok rest ↔ octets = name ++ rest := by
  induction name generalizing octets with
  | nil => simp [expectName]
  | cons expected name ih =>
      cases octets with
      | nil => simp [expectName]
      | cons octet octets =>
          by_cases same : octet = expected
          · simp [expectName, same, ih]
          · simp [expectName, same]

/-! ### Strings -/

/-- Four hexadecimal digits and their number. -/
inductive Hex : List UInt8 → Nat → Prop
  | four {a b c d : UInt8} {w x y z : Nat} (first : hexDigit? a = some w)
      (second : hexDigit? b = some x) (third : hexDigit? c = some y)
      (fourth : hexDigit? d = some z) : Hex [a, b, c, d] (w * 4096 + x * 256 + y * 16 + z)

/-- The spellings of a character after a backslash: a letter, a number that is no
surrogate, or two surrogates that belong together. -/
inductive Escape : List UInt8 → Char → Prop
  | letter {letter : UInt8} {char : Char} (found : shortEscape? letter = some char) :
      Escape [letter] char
  | unit {digits : List UInt8} {unit : Nat} (hex : Hex digits unit)
      (notTrailing : isTrailing unit = false) (notLeading : isLeading unit = false) :
      Escape (0x75 :: digits) (Char.ofNat unit)
  | pair {high low : List UInt8} {leading trailing : Nat} (first : Hex high leading)
      (second : Hex low trailing) (leads : isLeading leading = true)
      (trails : isTrailing trailing = true) :
      Escape (0x75 :: high ++ 0x5C :: 0x75 :: low)
        (Char.ofNat (0x10000 + (leading - 0xD800) * 1024 + (trailing - 0xDC00)))

/-- What stands between two quotes, and the octets that it stands for: an octet stands
for itself unless it is a quote, a backslash or a control, and an escape stands for the
form of its character. -/
inductive Content : List UInt8 → List UInt8 → Prop
  | nil : Content [] []
  | plain {octet : UInt8} {body content : List UInt8} (notQuote : octet ≠ 0x22)
      (notBackslash : octet ≠ 0x5C) (noControl : 0x20 ≤ octet) (more : Content body content) :
      Content (octet :: body) (octet :: content)
  | escape {spelling body content : List UInt8} {char : Char} (spelt : Escape spelling char)
      (more : Content body content) :
      Content (0x5C :: spelling ++ body) (String.utf8EncodeChar char ++ content)

/-- The spellings of a string after its opening quote.  Its octets are well-formed. -/
def Quoted (octets : List UInt8) (text : String) : Prop :=
  ∃ body, Content body (Text.Utf8.bytes text) ∧ octets = body ++ [0x22]

theorem hexUnit_eq_ok_iff {unit : Nat} :
    hexUnit octets = .ok (unit, rest) ↔ ∃ digits, Hex digits unit ∧ octets = digits ++ rest := by
  constructor
  · intro read
    unfold hexUnit at read
    split at read
    · split at read
      · rename_i first second third fourth
        cases read
        exact ⟨_, .four first second third fourth, rfl⟩
      · contradiction
    · contradiction
  · intro shaped
    obtain ⟨digits, hex, rfl⟩ := shaped
    cases hex with
    | four first second third fourth => simp [hexUnit, first, second, third, fourth]

theorem trailingHalf_eq_ok_iff {leading : Nat} {char : Char} :
    trailingHalf leading octets = .ok (char, rest) ↔
      ∃ digits trailing, Hex digits trailing ∧ isTrailing trailing = true ∧
        char = Char.ofNat (0x10000 + (leading - 0xD800) * 1024 + (trailing - 0xDC00)) ∧
        octets = 0x5C :: 0x75 :: digits ++ rest := by
  constructor
  · intro read
    unfold trailingHalf at read
    split at read
    · contradiction
    · split_ifs at read with notBackslash
      split at read
      · contradiction
      · split_ifs at read with notLetter
        split at read
        · contradiction
        · rename_i trailing after found
          split_ifs at read with trails
          rw [Except.ok.injEq, Prod.mk.injEq] at read
          obtain ⟨digits, hex, split⟩ := hexUnit_eq_ok_iff.mp found
          refine ⟨digits, trailing, hex, trails, read.1.symm, ?_⟩
          rw [not_not.mp notBackslash, not_not.mp notLetter, split, read.2]
          rfl
  · intro shaped
    obtain ⟨digits, trailing, hex, trails, same, split⟩ := shaped
    rw [same, split]
    have read : hexUnit (digits ++ rest) = .ok (trailing, rest) :=
      hexUnit_eq_ok_iff.mpr ⟨digits, hex, rfl⟩
    simp only [trailingHalf, List.cons_append, ne_eq, not_true, if_false, read, trails, if_true]

theorem shortEscape?_ne_hex {letter : UInt8} {char : Char} (found : shortEscape? letter = some char) :
    letter ≠ 0x75 := by
  intro same
  have missing : shortEscape? 0x75 = none := by decide
  rw [same, missing] at found
  contradiction

theorem isTrailing_of_isLeading {unit : Nat} (leads : isLeading unit = true) :
    isTrailing unit = false := by
  simp only [isLeading, isTrailing, Bool.and_eq_true, decide_eq_true_eq,
    Bool.and_eq_false_iff, decide_eq_false_iff_not] at leads ⊢
  omega

theorem spelt_of_escape {char : Char} (read : escape octets = .ok (char, rest)) :
    ∃ spelling, Escape spelling char ∧ octets = spelling ++ rest := by
  unfold escape at read
  split at read
  · contradiction
  · split_ifs at read with isHex
    · split at read
      · contradiction
      · rename_i unit _ found
        obtain ⟨digits, hex, split⟩ := hexUnit_eq_ok_iff.mp found
        split_ifs at read with trails leads
        · obtain ⟨low, trailing, second, trails, same, split'⟩ := trailingHalf_eq_ok_iff.mp read
          rw [same]
          refine ⟨_, .pair hex second leads trails, ?_⟩
          rw [isHex, split, split']
          simp only [List.cons_append, List.append_assoc]
        · cases read
          refine ⟨_, .unit hex (by simpa using trails) (by simpa using leads), ?_⟩
          simp [isHex, split]
    · split at read
      · rename_i found
        cases read
        exact ⟨_, .letter found, rfl⟩
      · contradiction

theorem escape_of_spelt {spelling : List UInt8} {char : Char} (spelt : Escape spelling char)
    (rest : List UInt8) : escape (spelling ++ rest) = .ok (char, rest) := by
  cases spelt with
  | letter found =>
      have notHex := shortEscape?_ne_hex found
      simp [escape, notHex, found]
  | @unit digits unit hex notTrailing notLeading =>
      have read : hexUnit (digits ++ rest) = .ok (unit, rest) :=
        hexUnit_eq_ok_iff.mpr ⟨digits, hex, rfl⟩
      simp [escape, read, notTrailing, notLeading]
  | @pair high low leading trailing first second leads trails =>
      have read : hexUnit (high ++ 0x5C :: 0x75 :: low ++ rest) =
          .ok (leading, 0x5C :: 0x75 :: low ++ rest) :=
        hexUnit_eq_ok_iff.mpr ⟨high, first, by simp⟩
      have half : trailingHalf leading (0x5C :: 0x75 :: low ++ rest) = .ok (_, rest) :=
        trailingHalf_eq_ok_iff.mpr ⟨low, trailing, second, trails, rfl, rfl⟩
      simp only [escape, List.cons_append, List.append_assoc, if_true] at read half ⊢
      rw [read]
      simp only [isTrailing_of_isLeading leads, leads, if_true, Bool.false_eq_true, if_false, half]

theorem content_of_stringOctets {fuel held found : List UInt8}
    (read : stringOctets fuel held octets = .ok (found, rest)) :
    ∃ body content, Content body content ∧ octets = body ++ 0x22 :: rest ∧
      found = content.reverse ++ held := by
  induction fuel generalizing held octets with
  | nil => simp [stringOctets] at read
  | cons _ fuel ih =>
      cases octets with
      | nil => simp [stringOctets] at read
      | cons octet octets =>
          rw [stringOctets] at read
          split_ifs at read with isQuote isBackslash isControl
          · cases read
            exact ⟨[], [], .nil, by simp [isQuote], rfl⟩
          · split at read
            · contradiction
            · rename_i char after escaped
              obtain ⟨spelling, spelt, split⟩ := spelt_of_escape escaped
              obtain ⟨body, content, more, split', result⟩ := ih read
              refine ⟨_, _, .escape spelt more, ?_, ?_⟩
              · rw [isBackslash, split, split']
                simp only [List.cons_append, List.append_assoc]
              · rw [result, List.reverseAux_eq, List.reverse_append, List.append_assoc]
          · obtain ⟨body, content, more, split, result⟩ := ih read
            refine ⟨_, _, .plain isQuote isBackslash (UInt8.not_lt.mp isControl) more, ?_, ?_⟩
            · rw [split, List.cons_append]
            · rw [result, List.reverse_cons, List.append_assoc, List.singleton_append]

theorem stringOctets_of_content {body content : List UInt8} (spelt : Content body content)
    (fuel held rest : List UInt8) (enough : body.length < fuel.length) :
    stringOctets fuel held (body ++ 0x22 :: rest) = .ok (content.reverse ++ held, rest) := by
  -- every step takes an octet of the body at least, so the fuel stays enough for the rest
  induction spelt generalizing fuel held with
  | nil =>
      cases fuel with
      | nil => simp at enough
      | cons => simp [stringOctets]
  | plain notQuote notBackslash noControl more ih =>
      cases fuel with
      | nil => simp at enough
      | cons _ fuel =>
          rw [List.cons_append, stringOctets, if_neg notQuote, if_neg notBackslash,
            if_neg (UInt8.not_lt.mpr noControl), ih _ _ (by simpa using enough)]
          simp
  | @escape spelling body content char spelt more ih =>
      cases fuel with
      | nil => simp at enough
      | cons _ fuel =>
          have escaped : escape (spelling ++ (body ++ 0x22 :: rest)) = .ok (char, body ++ 0x22 :: rest) :=
            escape_of_spelt spelt (body ++ 0x22 :: rest)
          rw [List.cons_append, List.cons_append, List.append_assoc, stringOctets,
            if_neg (by decide), if_pos rfl, escaped]
          simp only [List.cons_append, List.length_cons, List.length_append] at enough
          simp only [ih fuel _ (by omega), List.reverseAux_eq, List.reverse_append, List.append_assoc]

/-- The reader of strings accepts the spellings of a string and nothing else. -/
theorem string_eq_ok_iff {text : String} : string octets = .ok (text, rest) ↔
    ∃ spelling, Quoted spelling text ∧ octets = spelling ++ rest := by
  constructor
  · intro read
    unfold string at read
    split at read
    · contradiction
    · rename_i found
      simp only at read
      split at read
      · rename_i wellFormed
        obtain ⟨body, content, spelt, split, result⟩ := content_of_stringOctets found
        rw [result, List.append_nil, List.reverse_reverse, Text.Utf8.string?_eq_some_iff] at wellFormed
        cases read
        exact ⟨body ++ [0x22], ⟨body, wellFormed ▸ spelt, rfl⟩, by simp [split]⟩
      · contradiction
  · intro quoted
    obtain ⟨_, ⟨body, spelt, rfl⟩, rfl⟩ := quoted
    have found := stringOctets_of_content spelt (body ++ 0x22 :: rest) [] rest (by simp)
    have wellFormed : Text.Utf8.string? (Text.Utf8.bytes text) = some text :=
      Text.Utf8.string?_eq_some_iff.mpr rfl
    rw [List.append_assoc, List.singleton_append, string, found]
    simp only [List.append_nil, List.reverse_reverse, wellFormed]

theorem quoted_of_string {spelling : List UInt8} {word : String} (read : string spelling = .ok (word, [])) :
    Quoted spelling word := by
  obtain ⟨spelling', quoted, split⟩ := string_eq_ok_iff.mp read
  rwa [split, List.append_nil]

end AuthBroker.Json
