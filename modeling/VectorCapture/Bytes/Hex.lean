import VectorCapture.Text.Quoted
/-!
# Hexadecimal byte strings

A byte is written as two lower-case hexadecimal digits, the high nibble first, and a byte string
as the digits of its bytes in order.

Reading goes the other way over the bytes of a digit string. A string of odd length is refused
first; otherwise the first byte that is no digit, of either case, is reported with its position.
-/

namespace VectorCapture.Hex

open VectorCapture.Text

/-- The two digits of a byte, high nibble first. -/
def byteDigits (b : UInt8) : List Char :=
  [hexDigit (b.toNat / 16), hexDigit (b.toNat % 16)]

/-- The digits of a byte string. -/
def encodeChars (bs : List UInt8) : List Char :=
  bs.flatMap byteDigits

/-- The digits of a byte string, as text. -/
def encode (bs : List UInt8) : String :=
  String.ofList (encodeChars bs)

/-- Why a digit string names no byte string. -/
inductive DecodeError where
  /-- The string has an odd number of bytes. -/
  | oddLength
  /-- The byte at `index` is no hexadecimal digit. -/
  | invalidChar (byte : UInt8) (index : Nat)
  deriving DecidableEq, Repr

/-- The message of a decoding error; a bad byte is shown as the character of the same number,
quoted. -/
def DecodeError.message : DecodeError → String
  | .oddLength => "Odd number of digits"
  | .invalidChar b i =>
    "Invalid character " ++ quote .char (Char.ofNat b.toNat).toString ++ " at position " ++
      toString i

/-- The value of one hexadecimal digit, of either case. -/
def digitValue? (b : UInt8) : Option UInt8 :=
  if 48 ≤ b ∧ b ≤ 57 then some (b - 48)
  else if 97 ≤ b ∧ b ≤ 102 then some (b - 87)
  else if 65 ≤ b ∧ b ≤ 70 then some (b - 55)
  else none

/-- The bytes of pairs of digits, pushed onto the reversed list `acc`; `i` is the position of
the first digit of the rest. -/
def decodePairs (i : Nat) (acc : List UInt8) : List UInt8 → Except DecodeError (List UInt8)
  | hi :: lo :: rest =>
    match digitValue? hi, digitValue? lo with
    | some h, some l => decodePairs (i + 2) ((h * 16 + l) :: acc) rest
    | none, _ => .error (.invalidChar hi i)
    | some _, none => .error (.invalidChar lo (i + 1))
  | _ => .ok acc.reverse

/-- The byte string that a digit string names. -/
def decode (ds : List UInt8) : Except DecodeError (List UInt8) :=
  if ds.length % 2 = 1 then .error .oddLength else decodePairs 0 [] ds

end VectorCapture.Hex
