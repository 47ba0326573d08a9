import AuthBroker.Stream.Error

namespace AuthBroker.Frame

open AuthBroker.Stream

/-! Frames: a payload behind its length.

The length is a little-endian number of four octets and counts the payload alone.
A payload of more than one mebibyte is framed by neither side.
-/

def maxSize : Nat := 1048576

def lengthSize : Nat := 4

/-- The four octets of a length, least significant first. -/
def lengthOctets (size : Nat) : List UInt8 :=
  [UInt8.ofNat size, UInt8.ofNat (size / 256), UInt8.ofNat (size / 65536),
    UInt8.ofNat (size / 16777216)]

/-- The number that octets stand for, least significant first. -/
def lengthValue (octets : List UInt8) : Nat :=
  octets.foldr (fun octet value => octet.toNat + 256 * value) 0

def octets (payload : List UInt8) : List UInt8 :=
  lengthOctets payload.length ++ payload

inductive Error
  /-- The stream ended before any octet of the length. -/
  | closed
  | truncated (expected received : Nat)
  | tooLarge (size : Nat)
  | io (error : IoError)
deriving DecidableEq, Repr

def Error.message : Error → String
  | .closed => "stream closed before a frame was received"
  | .truncated expected received =>
      "truncated frame: expected " ++ Decimal.text expected ++ " bytes, received " ++
        Decimal.text received
  | .tooLarge size =>
      "frame of " ++ Decimal.text size ++ " bytes exceeds the " ++ Decimal.text maxSize ++
        " byte limit"
  | .io error => "frame i/o failed: " ++ error.message

end AuthBroker.Frame
