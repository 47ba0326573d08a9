namespace AuthBroker.Text.Utf8

/-! UTF-8 over lists of octets.

`takeChar` reads one well-formed character, following the table of well-formed
octet sequences of the Unicode standard: no overlong form, no surrogate, nothing
above U+10FFFF.  `scan` reads characters for as long as there are any; `decode`
accepts an octet list that `scan` reads to its end, and `lossy` replaces each
ill-formed part by U+FFFD.
-/

def encode (text : List Char) : List UInt8 :=
  text.flatMap String.utf8EncodeChar

def bytes (text : String) : List UInt8 :=
  encode text.toList

/-- How many octets a character has whose first octet is `lead`; zero for an octet
that starts no character. -/
def width (lead : UInt8) : Nat :=
  if lead < 0x80 then 1
  else if lead < 0xC2 then 0
  else if lead < 0xE0 then 2
  else if lead < 0xF0 then 3
  else if lead < 0xF5 then 4
  else 0

def continues (octet : UInt8) : Bool :=
  0x80 ≤ octet && octet ≤ 0xBF

/-- Whether `second` may follow `lead`.  Four lead octets narrow the range, which
keeps out overlong forms, surrogates and numbers above U+10FFFF. -/
def follows (lead second : UInt8) : Bool :=
  if lead = 0xE0 then 0xA0 ≤ second && second ≤ 0xBF
  else if lead = 0xED then 0x80 ≤ second && second ≤ 0x9F
  else if lead = 0xF0 then 0x90 ≤ second && second ≤ 0xBF
  else if lead = 0xF4 then 0x80 ≤ second && second ≤ 0x8F
  else continues second

def payload (octet : UInt8) : Nat :=
  octet.toNat % 64

def takeChar : List UInt8 → Option (Char × List UInt8)
  | [] => none
  | lead :: rest =>
      match width lead, rest with
      | 1, rest => some (Char.ofNat lead.toNat, rest)
      | 2, b :: rest =>
          if follows lead b then
            some (Char.ofNat (lead.toNat % 32 * 64 + payload b), rest)
          else none
      | 3, b :: c :: rest =>
          if follows lead b && continues c then
            some (Char.ofNat (lead.toNat % 16 * 4096 + payload b * 64 + payload c), rest)
          else none
      | 4, b :: c :: d :: rest =>
          if follows lead b && continues c && continues d then
            some (Char.ofNat (lead.toNat % 8 * 262144 + payload b * 4096 + payload c * 64
              + payload d), rest)
          else none
      | _, _ => none

/-- How many octets at the head of an ill-formed list are replaced together: the
longest part that could have begun a character, and at least one. -/
def brokenWidth : List UInt8 → Nat
  | lead :: b :: rest =>
      if 2 ≤ width lead && follows lead b then
        match rest with
        | c :: _ => if width lead = 4 && continues c then 3 else 2
        | [] => 2
      else 1
  | _ => 1

/-- Reads characters until one is ill-formed.  `held` is what was read so far,
newest first; each character takes one unit of fuel and at least one octet. -/
def scanFrom : Nat → List Char → List UInt8 → List Char × List UInt8
  | 0, held, octets => (held.reverse, octets)
  | fuel + 1, held, octets =>
      match takeChar octets with
      | some (char, rest) => scanFrom fuel (char :: held) rest
      | none => (held.reverse, octets)

/-- The longest well-formed beginning, as characters, and the octets after it. -/
def scan (octets : List UInt8) : List Char × List UInt8 :=
  scanFrom octets.length [] octets

def decode (octets : List UInt8) : Option (List Char) :=
  match scan octets with
  | (text, []) => some text
  | (_, _ :: _) => none

def string? (octets : List UInt8) : Option String :=
  (decode octets).map String.ofList

/-- The number of octets in the longest well-formed beginning. -/
def validLength (octets : List UInt8) : Nat :=
  octets.length - (scan octets).2.length

def lossyFrom : Nat → List Char → List UInt8 → List Char
  | 0, held, _ => held.reverse
  | fuel + 1, held, octets =>
      match takeChar octets with
      | some (char, rest) => lossyFrom fuel (char :: held) rest
      | none =>
          match octets with
          | [] => held.reverse
          | _ :: _ => lossyFrom fuel ('\uFFFD' :: held) (octets.drop (brokenWidth octets))

/-- The text of an octet list in which every ill-formed part reads U+FFFD. -/
def lossy (octets : List UInt8) : String :=
  String.ofList (lossyFrom octets.length [] octets)

end AuthBroker.Text.Utf8
