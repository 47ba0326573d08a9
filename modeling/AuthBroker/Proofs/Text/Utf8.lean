import AuthBroker.Text.Utf8
import Mathlib.Tactic

namespace AuthBroker.Text.Utf8

/-! Reading UTF-8 inverts writing it.

`Form` is the table of well-formed octet sequences with the numbers that they stand
for.  `takeChar` takes a form of this table, and `String.utf8EncodeChar` gives the one
form of a character; so the two are inverse, and everything about whole texts follows by
running over their characters.
-/

variable {octets rest : List UInt8} {lead second octet : UInt8} {char : Char} {value : Nat}

/-! ### Octets as numbers -/

theorem toNat_octet (value : Nat) (small : value < 256) : (UInt8.ofNat value).toNat = value := by
  rw [UInt8.toNat_ofNat', Nat.mod_eq_of_lt small]

theorem ofNat_eq_octet (same : value = octet.toNat) : UInt8.ofNat value = octet := by
  rw [same, UInt8.ofNat_toNat]

theorem width_eq_one_iff : width lead = 1 ↔ lead.toNat < 0x80 := by
  simp only [width, UInt8.lt_iff_toNat_lt, UInt8.reduceToNat]
  split_ifs <;> simp <;> omega

theorem width_eq_two_iff : width lead = 2 ↔ 0xC2 ≤ lead.toNat ∧ lead.toNat < 0xE0 := by
  simp only [width, UInt8.lt_iff_toNat_lt, UInt8.reduceToNat]
  split_ifs <;> simp <;> omega

theorem width_eq_three_iff : width lead = 3 ↔ 0xE0 ≤ lead.toNat ∧ lead.toNat < 0xF0 := by
  simp only [width, UInt8.lt_iff_toNat_lt, UInt8.reduceToNat]
  split_ifs <;> simp <;> omega

theorem width_eq_four_iff : width lead = 4 ↔ 0xF0 ≤ lead.toNat ∧ lead.toNat < 0xF5 := by
  simp only [width, UInt8.lt_iff_toNat_lt, UInt8.reduceToNat]
  split_ifs <;> simp <;> omega

theorem continues_iff : continues octet = true ↔ 0x80 ≤ octet.toNat ∧ octet.toNat ≤ 0xBF := by
  simp [continues, UInt8.le_iff_toNat_le]

/-- The second octets that a lead octet admits. -/
theorem follows_iff : follows lead second = true ↔
    (0x80 ≤ second.toNat ∧ second.toNat ≤ 0xBF) ∧
      (lead.toNat = 0xE0 → 0xA0 ≤ second.toNat) ∧ (lead.toNat = 0xED → second.toNat ≤ 0x9F) ∧
      (lead.toNat = 0xF0 → 0x90 ≤ second.toNat) ∧ (lead.toNat = 0xF4 → second.toNat ≤ 0x8F) := by
  simp only [follows, ← UInt8.toNat_inj, UInt8.reduceToNat]
  split_ifs <;>
    simp only [continues_iff, Bool.and_eq_true, decide_eq_true_eq, UInt8.le_iff_toNat_le,
      UInt8.reduceToNat] <;>
    omega

/-! ### One character -/

/-- The well-formed sequences: a number and the octets that stand for it. -/
inductive Form : Nat → List UInt8 → Prop
  | one {a : UInt8} (wide : width a = 1) : Form a.toNat [a]
  | two {a b : UInt8} (wide : width a = 2) (follow : follows a b = true) :
      Form (a.toNat % 32 * 64 + payload b) [a, b]
  | three {a b c : UInt8} (wide : width a = 3) (follow : follows a b = true)
      (third : continues c = true) :
      Form (a.toNat % 16 * 4096 + payload b * 64 + payload c) [a, b, c]
  | four {a b c d : UInt8} (wide : width a = 4) (follow : follows a b = true)
      (third : continues c = true) (fourth : continues d = true) :
      Form (a.toNat % 8 * 262144 + payload b * 4096 + payload c * 64 + payload d) [a, b, c, d]

theorem takeChar_of_form (form : Form value octets) (rest : List UInt8) :
    takeChar (octets ++ rest) = some (Char.ofNat value, rest) := by
  cases form with
  | one wide => simp [takeChar, wide]
  | two wide follow => simp [takeChar, wide, follow]
  | three wide follow third => simp [takeChar, wide, follow, third]
  | four wide follow third fourth => simp [takeChar, wide, follow, third, fourth]

theorem form_of_takeChar (taken : takeChar octets = some (char, rest)) :
    ∃ value form, Form value form ∧ octets = form ++ rest ∧ char = Char.ofNat value := by
  cases octets with
  | nil => simp [takeChar] at taken
  | cons lead tail =>
      simp only [takeChar] at taken
      split at taken
      · rename_i wide
        cases taken
        exact ⟨_, _, .one wide, rfl, rfl⟩
      · rename_i wide
        split at taken
        · cases taken
          exact ⟨_, _, .two wide ‹_›, rfl, rfl⟩
        · contradiction
      · rename_i wide
        split at taken
        · cases taken
          rename_i both
          obtain ⟨follow, third⟩ := Bool.and_eq_true_iff.mp both
          exact ⟨_, _, .three wide follow third, rfl, rfl⟩
        · contradiction
      · rename_i wide
        split at taken
        · cases taken
          rename_i all
          obtain ⟨both, fourth⟩ := Bool.and_eq_true_iff.mp all
          obtain ⟨follow, third⟩ := Bool.and_eq_true_iff.mp both
          exact ⟨_, _, .four wide follow third fourth, rfl, rfl⟩
        · contradiction
      · contradiction

theorem toNat_ofNat (valid : value.isValidChar) : (Char.ofNat value).toNat = value := by
  rw [Char.ofNat, dif_pos valid]
  rfl

/-- The form of a character, with its number in sight. -/
theorem encodeChar_eq (char : Char) : String.utf8EncodeChar char =
    if char.toNat ≤ 0x7F then [UInt8.ofNat char.toNat]
    else if char.toNat ≤ 0x7FF then
      [UInt8.ofNat (char.toNat / 64 % 32 + 0xC0), UInt8.ofNat (char.toNat % 64 + 0x80)]
    else if char.toNat ≤ 0xFFFF then
      [UInt8.ofNat (char.toNat / 4096 % 16 + 0xE0), UInt8.ofNat (char.toNat / 64 % 64 + 0x80),
        UInt8.ofNat (char.toNat % 64 + 0x80)]
    else
      [UInt8.ofNat (char.toNat / 262144 % 8 + 0xF0), UInt8.ofNat (char.toNat / 4096 % 64 + 0x80),
        UInt8.ofNat (char.toNat / 64 % 64 + 0x80), UInt8.ofNat (char.toNat % 64 + 0x80)] :=
  rfl

/-- A well-formed sequence stands for a character and is the form of that character. -/
theorem encodeChar_of_form (form : Form value octets) :
    String.utf8EncodeChar (Char.ofNat value) = octets := by
  have valid : value.isValidChar := by
    cases form <;>
      simp only [width_eq_one_iff, width_eq_two_iff, width_eq_three_iff, width_eq_four_iff,
        follows_iff, continues_iff, payload, Nat.isValidChar] at * <;>
      omega
  rw [encodeChar_eq, toNat_ofNat valid]
  cases form with
  | one wide =>
      rw [width_eq_one_iff] at wide
      rw [if_pos (by omega), UInt8.ofNat_toNat]
  | two wide follow =>
      rw [width_eq_two_iff] at wide
      rw [follows_iff] at follow
      rw [payload, if_neg (by omega), if_pos (by omega), List.cons.injEq, List.cons.injEq]
      refine ⟨ofNat_eq_octet ?_, ofNat_eq_octet ?_, rfl⟩ <;> omega
  | three wide follow third =>
      rw [width_eq_three_iff] at wide
      rw [follows_iff] at follow
      rw [continues_iff] at third
      rw [payload, payload, if_neg (by omega), if_neg (by omega), if_pos (by omega),
        List.cons.injEq, List.cons.injEq, List.cons.injEq]
      refine ⟨ofNat_eq_octet ?_, ofNat_eq_octet ?_, ofNat_eq_octet ?_, rfl⟩ <;> omega
  | four wide follow third fourth =>
      rw [width_eq_four_iff] at wide
      rw [follows_iff] at follow
      rw [continues_iff] at third fourth
      rw [payload, payload, payload, if_neg (by omega), if_neg (by omega), if_neg (by omega),
        List.cons.injEq, List.cons.injEq, List.cons.injEq, List.cons.injEq]
      refine ⟨ofNat_eq_octet ?_, ofNat_eq_octet ?_, ofNat_eq_octet ?_, ofNat_eq_octet ?_, rfl⟩ <;>
        omega

theorem Form.of_eq {other : Nat} (form : Form other octets) (same : value = other) :
    Form value octets :=
  same ▸ form

theorem form_of_char (char : Char) : Form char.toNat (String.utf8EncodeChar char) := by
  have valid : char.toNat < 0xD800 ∨ 0xDFFF < char.toNat ∧ char.toNat < 0x110000 := char.valid
  rw [encodeChar_eq]
  generalize char.toNat = value at valid
  split
  · have lead := toNat_octet value (by omega)
    exact .of_eq (.one (width_eq_one_iff.mpr (by omega))) lead.symm
  · split
    · have lead := toNat_octet (value / 64 % 32 + 0xC0) (by omega)
      have second := toNat_octet (value % 64 + 0x80) (by omega)
      refine .of_eq (.two (width_eq_two_iff.mpr ?_) (follows_iff.mpr ?_)) ?_ <;>
        simp only [payload, lead, second] <;> omega
    · split
      · have lead := toNat_octet (value / 4096 % 16 + 0xE0) (by omega)
        have second := toNat_octet (value / 64 % 64 + 0x80) (by omega)
        have third := toNat_octet (value % 64 + 0x80) (by omega)
        refine .of_eq (.three (width_eq_three_iff.mpr ?_) (follows_iff.mpr ?_)
          (continues_iff.mpr ?_)) ?_ <;>
          simp only [payload, lead, second, third] <;> omega
      · have lead := toNat_octet (value / 262144 % 8 + 0xF0) (by omega)
        have second := toNat_octet (value / 4096 % 64 + 0x80) (by omega)
        have third := toNat_octet (value / 64 % 64 + 0x80) (by omega)
        have fourth := toNat_octet (value % 64 + 0x80) (by omega)
        refine .of_eq (.four (width_eq_four_iff.mpr ?_) (follows_iff.mpr ?_)
          (continues_iff.mpr ?_) (continues_iff.mpr ?_)) ?_ <;>
          simp only [payload, lead, second, third, fourth] <;> omega

/-- The only octet of a short form is its number, and all those of a longer one are high. -/
theorem Form.low_or_high (form : Form value octets) (member : octet ∈ octets) :
    octet.toNat = value ∨ 0x80 ≤ octet.toNat := by
  cases form with
  | one wide => exact .inl (by rw [List.mem_singleton.mp member])
  | two wide follow =>
      rw [width_eq_two_iff] at wide
      rw [follows_iff] at follow
      simp only [List.mem_cons, List.not_mem_nil, or_false] at member
      rcases member with rfl | rfl <;> omega
  | three wide follow third =>
      rw [width_eq_three_iff] at wide
      rw [follows_iff] at follow
      rw [continues_iff] at third
      simp only [List.mem_cons, List.not_mem_nil, or_false] at member
      rcases member with rfl | rfl | rfl <;> omega
  | four wide follow third fourth =>
      rw [width_eq_four_iff] at wide
      rw [follows_iff] at follow
      rw [continues_iff] at third fourth
      simp only [List.mem_cons, List.not_mem_nil, or_false] at member
      rcases member with rfl | rfl | rfl | rfl <;> omega

/-- A character is taken off a list exactly when the list starts with its form. -/
theorem takeChar_eq_some_iff : takeChar octets = some (char, rest) ↔
    octets = String.utf8EncodeChar char ++ rest := by
  constructor
  · intro taken
    obtain ⟨value, form, formed, split, rfl⟩ := form_of_takeChar taken
    rw [split, encodeChar_of_form formed]
  · intro same
    subst same
    rw [takeChar_of_form (form_of_char char), Char.ofNat_toNat]

/-! ### Whole texts -/

@[simp] theorem encode_cons (char : Char) (text : List Char) :
    encode (char :: text) = String.utf8EncodeChar char ++ encode text :=
  List.flatMap_cons

@[simp] theorem encode_append (left right : List Char) :
    encode (left ++ right) = encode left ++ encode right :=
  List.flatMap_append

theorem encodeChar_ne_nil (char : Char) : String.utf8EncodeChar char ≠ [] :=
  String.utf8EncodeChar_ne_nil

/-- Reading goes on from character to character. -/
theorem scanFrom_encode (fuel : Nat) (held text : List Char) (enough : (encode text).length ≤ fuel) :
    scanFrom fuel held (encode text) = (held.reverse ++ text, []) := by
  induction text generalizing fuel held with
  | nil => cases fuel <;> simp [scanFrom, encode, takeChar]
  | cons char text ih =>
      have positive := List.length_pos_iff.mpr (encodeChar_ne_nil char)
      rw [encode_cons, List.length_append] at enough
      cases fuel with
      | zero => omega
      | succ fuel =>
          rw [encode_cons, scanFrom, takeChar_eq_some_iff.mpr rfl]
          simp [ih fuel (char :: held) (by omega)]

theorem scanFrom_eq (fuel : Nat) (held : List Char) (octets : List UInt8) :
    ∃ text, (scanFrom fuel held octets).1 = held.reverse ++ text ∧
      octets = encode text ++ (scanFrom fuel held octets).2 := by
  -- a character that is read is held before those that are read after it
  induction fuel generalizing held octets with
  | zero => exact ⟨[], by simp [scanFrom], by simp [scanFrom, encode]⟩
  | succ fuel ih =>
      cases taken : takeChar octets with
      | none => exact ⟨[], by simp [scanFrom, taken], by simp [scanFrom, taken, encode]⟩
      | some pair =>
          obtain ⟨char, rest⟩ := pair
          obtain ⟨text, read, split⟩ := ih (char :: held) rest
          refine ⟨char :: text, ?_, ?_⟩
          · simpa [scanFrom, taken] using read
          · rw [takeChar_eq_some_iff.mp taken, scanFrom, takeChar_eq_some_iff.mpr rfl, encode_cons,
              List.append_assoc, ← split]

theorem decode_eq_some_iff {text : List Char} : decode octets = some text ↔ octets = encode text := by
  constructor
  · intro decoded
    obtain ⟨read, readEq, split⟩ := scanFrom_eq octets.length [] octets
    simp only [decode, scan] at decoded
    split at decoded
    · rename_i found
      rw [found] at readEq split
      cases decoded
      rw [show text = read by simpa using readEq]
      simpa using split
    · contradiction
  · intro same
    subst same
    simp [decode, scan, scanFrom_encode]

/-- An octet list is read as a text exactly when it is the text's own octets. -/
theorem string?_eq_some_iff {text : String} : string? octets = some text ↔ octets = bytes text := by
  rw [string?, Option.map_eq_some_iff]
  constructor
  · intro read
    obtain ⟨chars, decoded, rfl⟩ := read
    simpa [bytes] using decode_eq_some_iff.mp decoded
  · intro same
    subst same
    exact ⟨text.toList, decode_eq_some_iff.mpr rfl, String.ofList_toList⟩

theorem bytes_injective : Function.Injective bytes := by
  intro left right same
  have read := string?_eq_some_iff.mpr same
  rwa [string?_eq_some_iff.mpr rfl, Option.some.injEq] at read

end AuthBroker.Text.Utf8
