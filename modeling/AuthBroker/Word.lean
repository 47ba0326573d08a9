namespace AuthBroker.Word

/-! Integers that fit into words of a number of bits. -/

def count (bits : Nat) : Nat :=
  Nat.pow 2 bits

/-- Whether a word without a sign can hold an integer. -/
def fitsUnsigned (bits : Nat) (value : Int) : Bool :=
  0 ≤ value && value < count bits

/-- Whether a word with a sign can hold an integer; the sign takes one bit. -/
def fitsSigned (bits : Nat) (value : Int) : Bool :=
  -(count (bits - 1) : Int) ≤ value && value < count (bits - 1)

end AuthBroker.Word
