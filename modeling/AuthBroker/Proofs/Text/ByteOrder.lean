import AuthBroker.Environment
import AuthBroker.Proofs.Text.Utf8

namespace AuthBroker.Text.Utf8

/-! The order of texts is the order of their octets.

The forms of two characters differ first where their numbers do, taken in groups of six
bits from the top; a shorter form starts with a lower octet.  Of two texts the lower one
therefore also comes first octet by octet.
-/

/-- The order of texts by their octets. -/
def Below (left right : String) : Prop :=
  List.Lex (· < ·) (bytes left) (bytes right)

/-- Numbers compare group by group, the highest group first. -/
theorem groups_lt {low high : Nat} (order : low < high) :
    low / 262144 < high / 262144 ∨ low / 262144 = high / 262144 ∧
      (low / 4096 % 64 < high / 4096 % 64 ∨ low / 4096 % 64 = high / 4096 % 64 ∧
        (low / 64 % 64 < high / 64 % 64 ∨ low / 64 % 64 = high / 64 % 64 ∧
          low % 64 < high % 64)) := by
  have lowSum : low = low / 262144 * 262144 + low / 4096 % 64 * 4096 + low / 64 % 64 * 64 +
      low % 64 := by omega
  have highSum : high = high / 262144 * 262144 + high / 4096 % 64 * 4096 + high / 64 % 64 * 64 +
      high % 64 := by omega
  have lowSmall : low / 4096 % 64 < 64 ∧ low / 64 % 64 < 64 ∧ low % 64 < 64 := by omega
  have highSmall : high / 4096 % 64 < 64 ∧ high / 64 % 64 < 64 ∧ high % 64 < 64 := by omega
  rw [lowSum, highSum] at order
  generalize low / 262144 = a, low / 4096 % 64 = b, low / 64 % 64 = c, low % 64 = d at *
  generalize high / 262144 = e, high / 4096 % 64 = f, high / 64 % 64 = g, high % 64 = h at *
  clear lowSum highSum
  omega

theorem lex_cons_iff {first second : UInt8} {left right : List UInt8} :
    List.Lex (· < ·) (first :: left) (second :: right) ↔
      first.toNat < second.toNat ∨ first.toNat = second.toNat ∧ List.Lex (· < ·) left right := by
  rw [List.cons_lex_cons_iff, UInt8.lt_iff_toNat_lt, UInt8.toNat_inj]

theorem encodeChar_append_lex {left right : Char} (below : left < right) (after beyond : List UInt8) :
    List.Lex (· < ·) (String.utf8EncodeChar left ++ after) (String.utf8EncodeChar right ++ beyond) := by
  have leftValid : left.toNat < 0xD800 ∨ 0xDFFF < left.toNat ∧ left.toNat < 0x110000 := left.valid
  have rightValid : right.toNat < 0xD800 ∨ 0xDFFF < right.toNat ∧ right.toNat < 0x110000 := right.valid
  have order : left.toNat < right.toNat := below
  rw [encodeChar_eq, encodeChar_eq]
  generalize left.toNat = low at *
  generalize right.toNat = high at *
  by_cases long : low ≤ 0xFFFF
  · split_ifs <;>
      simp only [List.cons_append, List.nil_append, lex_cons_iff, UInt8.toNat_ofNat',
        Nat.reducePow] <;>
      omega
  · have leadOctet (value : Nat) (small : value < 0x110000) :
        (value / 262144 % 8 + 0xF0) % 256 = value / 262144 + 0xF0 := by omega
    have laterOctet (value : Nat) : (value % 64 + 0x80) % 256 = value % 64 + 0x80 := by omega
    have longer : ¬ high ≤ 0xFFFF := by omega
    have notTwo (value : Nat) (big : ¬ value ≤ 0xFFFF) : ¬ value ≤ 0x7FF := by omega
    have notOne (value : Nat) (big : ¬ value ≤ 0xFFFF) : ¬ value ≤ 0x7F := by omega
    rw [if_neg (notOne low long), if_neg (notTwo low long), if_neg long,
      if_neg (notOne high longer), if_neg (notTwo high longer), if_neg longer]
    simp only [List.cons_append, List.nil_append, lex_cons_iff, UInt8.toNat_ofNat',
      Nat.reducePow, leadOctet low (by omega), leadOctet high (by omega), laterOctet]
    have groups := groups_lt order
    omega

theorem encode_lex {left right : List Char} (below : List.Lex (· < ·) left right) :
    List.Lex (· < ·) (encode left) (encode right) := by
  induction below with
  | nil =>
      rename_i char chars
      rw [encode_cons]
      cases found : String.utf8EncodeChar char with
      | nil => exact absurd found (encodeChar_ne_nil char)
      | cons octet octets => exact List.Lex.nil
  | rel before =>
      rw [encode_cons, encode_cons]
      exact encodeChar_append_lex before _ _
  | cons _ ih =>
      rw [encode_cons, encode_cons]
      exact List.Lex.append_left _ ih _

theorem Below.irrefl (text : String) : ¬ Below text text :=
  List.lex_irrefl (fun octet => UInt8.lt_irrefl octet) (bytes text)

theorem Below.asymm {left right : String} (below : Below left right) : ¬ Below right left :=
  List.lex_asymm (fun order => UInt8.lt_asymm order) below

theorem below_iff {left right : String} : Below left right ↔ left < right := by
  constructor
  · intro below
    by_cases before : left < right
    · exact before
    · by_cases same : left = right
      · exact absurd (same ▸ below) (Below.irrefl left)
      · have after : Below right left := encode_lex (Environment.above_of_not_below before same)
        exact absurd below after.asymm
  · exact encode_lex

end AuthBroker.Text.Utf8
