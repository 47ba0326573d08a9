import AuthBroker.Json.Printer
import AuthBroker.Proofs.Json.Grammar
import Mathlib.Data.List.SplitBy

namespace AuthBroker.Json

/-! What is written is spelt as the grammar has it.

A character that must not stand for itself is written as an escape of its own, and the octets
of any other are neither quotes, backslashes nor controls.  So no string reaches beyond its quotes, and a list of strings has the items that
were written.
-/

open AuthBroker.Text.Utf8

theorem Content.append {left right held found : List UInt8} (first : Content left held)
    (second : Content right found) : Content (left ++ right) (held ++ found) := by
  induction first with
  | nil => exact second
  | plain notQuote notBackslash noControl _ ih => exact .plain notQuote notBackslash noControl ih
  | @escape spelling body content char spelt _ ih =>
      simp only [List.cons_append, List.append_assoc]
      exact .escape spelt ih

/-- Octets that stand for themselves. -/
def Plain (octets : List UInt8) : Prop :=
  ∀ octet ∈ octets, octet ≠ 0x22 ∧ octet ≠ 0x5C ∧ 0x20 ≤ octet

theorem content_plain {octets : List UInt8} (plain : Plain octets) : Content octets octets := by
  induction octets with
  | nil => exact .nil
  | cons octet octets ih =>
      obtain ⟨notQuote, notBackslash, noControl⟩ := plain octet List.mem_cons_self
      exact .plain notQuote notBackslash noControl
        (ih fun other member => plain other (List.mem_cons_of_mem octet member))

theorem content_escape {spelling : List UInt8} {char : Char} (spelt : Escape spelling char) :
    Content (0x5C :: spelling) (String.utf8EncodeChar char) := by
  have once := Content.escape spelt .nil
  rwa [List.append_nil, List.append_nil] at once

/-- The octets of a character from U+0020 on stand for themselves, but for the quote and
the backslash. -/
theorem plain_encodeChar {char : Char} (notQuote : char ≠ '"') (notBackslash : char ≠ '\\')
    (noControl : 0x20 ≤ char.toNat) : Plain (String.utf8EncodeChar char) := by
  intro octet member
  have notQuote' : char.toNat ≠ 0x22 := fun same => notQuote (Char.toNat_inj.mp same)
  have notBackslash' : char.toNat ≠ 0x5C := fun same => notBackslash (Char.toNat_inj.mp same)
  have number := (form_of_char char).low_or_high member
  simp only [ne_eq, ← UInt8.toNat_inj, UInt8.le_iff_toNat_le, UInt8.reduceToNat]
  omega

theorem hexDigit?_digitChar (digit : Nat) (small : digit < 16) :
    ∃ octet, String.utf8EncodeChar (Nat.digitChar digit) = [octet] ∧ hexDigit? octet = some digit := by
  have table : ∀ digit < 16,
      (String.utf8EncodeChar (Nat.digitChar digit)).map hexDigit? = [some digit] := by decide
  exact List.map_eq_singleton_iff.mp (table digit small)

theorem content_control {char : Char} (control : char.toNat < 0x20) :
    Content (encode (['\\', 'u', '0', '0'] ++ hexPair char.toNat)) (String.utf8EncodeChar char) := by
  obtain ⟨high, highForm, highDigit⟩ := hexDigit?_digitChar (char.toNat / 16) (by omega)
  obtain ⟨low, lowForm, lowDigit⟩ := hexDigit?_digitChar (char.toNat % 16) (by omega)
  have zero : hexDigit? 0x30 = some 0 := by decide
  have number : 0 * 4096 + 0 * 256 + char.toNat / 16 * 16 + char.toNat % 16 = char.toNat := by omega
  have hex : Hex [0x30, 0x30, high, low] char.toNat :=
    number ▸ Hex.four zero zero highDigit lowDigit
  have spelt : Escape [0x75, 0x30, 0x30, high, low] (Char.ofNat char.toNat) := by
    refine .unit hex ?_ ?_
    · simp only [isTrailing, Bool.and_eq_false_iff, decide_eq_false_iff_not]
      omega
    · simp only [isLeading, Bool.and_eq_false_iff, decide_eq_false_iff_not]
      omega
  rw [Char.ofNat_toNat] at spelt
  have octets : encode (['\\', 'u', '0', '0'] ++ hexPair char.toNat) =
      [0x5C, 0x75, 0x30, 0x30, high, low] := by
    simp only [hexPair, encode_append, encode_cons, highForm, lowForm]
    rfl
  exact octets ▸ content_escape spelt

theorem content_letter {letter : UInt8} {char : Char} (found : shortEscape? letter = some char) :
    Content [0x5C, letter] (String.utf8EncodeChar char) :=
  content_escape (.letter found)

theorem content_escapeChar (char : Char) :
    Content (encode (escapeChar char)) (String.utf8EncodeChar char) := by
  by_cases isQuote : char = '"'
  · rw [isQuote]
    exact content_letter (by decide)
  by_cases isBackslash : char = '\\'
  · rw [isBackslash]
    exact content_letter (by decide)
  unfold escapeChar
  rw [if_neg isQuote, if_neg isBackslash]
  split_ifs with isBack isFeed isLine isReturn isTab isControl
  · rw [isBack]
    exact content_letter (by decide)
  · rw [isFeed]
    exact content_letter (by decide)
  · rw [isLine]
    exact content_letter (by decide)
  · rw [isReturn]
    exact content_letter (by decide)
  · rw [isTab]
    exact content_letter (by decide)
  · exact content_control isControl
  · have plain := content_plain (plain_encodeChar isQuote isBackslash (Nat.le_of_not_lt isControl))
    simpa [encode] using plain

theorem content_chars (chars : List Char) :
    Content (chars.map fun char => encode (escapeChar char)).flatten (encode chars) := by
  induction chars with
  | nil => exact .nil
  | cons char chars ih =>
      rw [List.map_cons, List.flatten_cons, encode_cons]
      exact (content_escapeChar char).append ih

/-- However a text is divided into runs, the same octets are written. -/
theorem flatten_runs (runs : List (List Char)) :
    (runs.map fun run => encode (run.flatMap escapeChar)).flatten =
      (runs.flatten.map fun char => encode (escapeChar char)).flatten := by
  have each (run : List Char) : encode (run.flatMap escapeChar) =
      (run.map fun char => encode (escapeChar char)).flatten := by
    rw [encode, List.flatMap_assoc]
    rfl
  induction runs with
  | nil => rfl
  | cons run runs ih =>
      rw [List.map_cons, List.flatten_cons, ih, each, List.flatten_cons, List.map_append, List.flatten_append]

theorem flatten_stringPieces (text : String) : (stringPieces text).flatten =
    0x22 :: ((text.toList.map fun char => encode (escapeChar char)).flatten ++ [0x22]) := by
  rw [stringPieces, List.cons_append, List.flatten_cons, List.flatten_append, flatten_runs, List.flatten_splitBy]
  rfl

example : (stringPieces "pw\"\x01é").map List.length = [1, 2, 2, 6, 2, 1] := by
  decide +kernel

/-- What is written for a string is a quote and a spelling of the string. -/
theorem exists_quoted (text : String) :
    ∃ spelling, Quoted spelling text ∧ (stringPieces text).flatten = 0x22 :: spelling :=
  ⟨_, ⟨_, content_chars text.toList, rfl⟩, flatten_stringPieces text⟩

theorem octets_string (text : String) : ∃ spelling, Quoted spelling text ∧
    (Value.string text).octets = 0x22 :: spelling :=
  exists_quoted text

theorem length_le_content (chars : List Char) :
    chars.length ≤ (chars.map fun char => encode (escapeChar char)).flatten.length := by
  induction chars with
  | nil => exact Nat.le_refl 0
  | cons char chars ih =>
      have written : encode (escapeChar char) ≠ [] := by
        intro empty
        have content := content_escapeChar char
        rw [empty] at content
        generalize octets : String.utf8EncodeChar char = spelt at content
        cases content
        exact encodeChar_ne_nil char octets
      have positive := List.length_pos_iff.mpr written
      rw [List.map_cons, List.flatten_cons, List.length_append, List.length_cons]
      omega

/-- A string is written in more octets than it has characters. -/
theorem length_lt_string (text : String) : text.length < (Value.string text).octets.length := by
  have content := length_le_content text.toList
  have octets : (Value.string text).octets =
      0x22 :: ((text.toList.map fun char => encode (escapeChar char)).flatten ++ [0x22]) :=
    flatten_stringPieces text
  rw [String.length_toList] at content
  rw [octets, List.length_cons, List.length_append]
  omega

/-! ### Lists -/

/-- What is written before an item leads to it. -/
theorem lead_commaBefore (first : Bool) : Lead first (commaBefore first).flatten := by
  cases first with
  | true => exact .first blank_nil
  | false => exact .comma blank_nil blank_nil

theorem flatten_items (first : Bool) (value : Value) (items : List Value) :
    (itemPieces first (value :: items)).flatten =
      (commaBefore first).flatten ++ (value.octets ++ (itemPieces false items).flatten) := by
  simp [itemPieces, Value.octets]

theorem row_strings (first : Bool) (texts : List String) :
    Row Spells first (itemPieces first (texts.map .string)).flatten (texts.map .string) := by
  induction texts generalizing first with
  | nil => exact .ended blank_nil
  | cons text texts ih =>
      obtain ⟨spelling, quoted, octets⟩ := octets_string text
      rw [List.map_cons, flatten_items, octets, ← List.append_assoc]
      exact .item (lead_commaBefore first) (.string quoted) (ih false)

theorem itemsNesting_strings (texts : List String) : itemsNesting (texts.map .string) = 0 := by
  induction texts with
  | nil => rfl
  | cons text texts ih => simp [itemsNesting, Value.nesting, ih]

/-- A list of strings is written as a document of it. -/
theorem document_strings (texts : List String) :
    Document (Value.array (texts.map .string)).octets (.array (texts.map .string)) := by
  have spelt : Spells (Value.array (texts.map .string)).octets (.array (texts.map .string)) := by
    have written := Spells.list (row_strings true texts)
    simpa [Value.octets, Value.pieces] using written
  refine ⟨[], _, [], blank_nil, spelt, blank_nil, by simp, ?_⟩
  rw [Value.nesting, itemsNesting_strings]
  decide

end AuthBroker.Json
