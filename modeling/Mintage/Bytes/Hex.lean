import Mintage.Bytes

/-!
# Hexadecimal text

Bytes are written as two lowercase digits each. Reading takes digits of either case; it refuses an
odd number of bytes before it looks at any digit, and then names the first byte that is no digit.
-/

namespace Mintage.Hex

/-- Why a text is not hexadecimal. -/
inductive Error where
  /-- The text has an odd number of bytes. -/
  | oddLength
  /-- The byte `found` at `index` is no digit. -/
  | invalidByte (found : UInt8) (index : Nat)
deriving DecidableEq

/-- The digits, by value. -/
def digits : List Char := "0123456789abcdef".toList

/-- The digit of a value below sixteen. -/
def digit (n : Nat) : Char := digits.getD n '0'

/-- The text of a natural number in hexadecimal, without leading zeros. -/
def ofNat (n : Nat) : String := String.ofList (Nat.toDigits 16 n)

/-- The two digits of each byte, the high one first. -/
def encodeChars : Bytes → List Char
  | [] => []
  | b :: bs => digit (b.toNat / 16) :: digit (b.toNat % 16) :: encodeChars bs

/-- The lowercase hexadecimal text of a byte string. -/
def encode (bs : Bytes) : String := String.ofList (encodeChars bs)

/-- The value of a digit of either case, given as a byte. -/
def digitValue? (b : UInt8) : Option Nat :=
  let n := b.toNat
  if 0x30 ≤ n ∧ n ≤ 0x39 then some (n - 0x30)
  else if 0x41 ≤ n ∧ n ≤ 0x46 then some (n - 0x37)
  else if 0x61 ≤ n ∧ n ≤ 0x66 then some (n - 0x57)
  else none

/-- The value of a digit of either case. -/
def value? (c : Char) : Option Nat :=
  if c.toNat < 128 then digitValue? (UInt8.ofNat c.toNat) else none

/-- The value of the digit `b`, which stands at `index`. -/
def digitAt (b : UInt8) (index : Nat) : Except Error Nat :=
  match digitValue? b with
  | some n => .ok n
  | none => .error (.invalidByte b index)

/-- Reads pairs of digits, the first of which stands at `index`. -/
def decodeFrom : (index : Nat) → Bytes → Except Error Bytes
  | _, [] => .ok []
  | _, [_] => .error .oddLength
  | index, a :: b :: rest => do
    let high ← digitAt a index
    let low ← digitAt b (index + 1)
    let tail ← decodeFrom (index + 2) rest
    return UInt8.ofNat (16 * high + low) :: tail

/-- The bytes that a hexadecimal text stands for. -/
def decode (text : String) : Except Error Bytes :=
  let bs := text.toUTF8.data.toList
  if bs.length % 2 = 1 then .error .oddLength else decodeFrom 0 bs

/-- A byte as a quoted Latin-1 character; what cannot be seen is written as an escape. -/
def quoteByte (b : UInt8) : String :=
  let n := b.toNat
  let inner :=
    if n = 0 then "\\0"
    else if n = 9 then "\\t"
    else if n = 10 then "\\n"
    else if n = 13 then "\\r"
    else if n = 0x27 then "\\'"
    else if n = 0x5c then "\\\\"
    else if n < 0x20 ∨ (0x7f ≤ n ∧ n ≤ 0xa0) ∨ n = 0xad then
      "\\u\x7b" ++ ofNat n ++ "\x7d"
    else (Char.ofNat n).toString
  "'" ++ inner ++ "'"

/-- The wording of an error. -/
def Error.message : Error → String
  | .oddLength => "Odd number of digits"
  | .invalidByte found index => s!"Invalid character {quoteByte found} at position {index}"

end Mintage.Hex
