import Mintage.Bytes

/-!
# DER

The binary form of key files: elements of a tag, a length and a content, which may consist of
elements again. A length is written in as few bytes as possible.
-/

namespace Mintage.Der

/-- An element. -/
structure Element where
  tag : UInt8
  content : Bytes
deriving DecidableEq

/-- Whether a byte is a tag. Tags of more than one byte do not occur. -/
def isTag (tag : UInt8) : Bool :=
  if tag < 0x40 then
    tag ∈ [0x01, 0x02, 0x03, 0x04, 0x05, 0x06, 0x09, 0x0a, 0x0c, 0x12, 0x13, 0x14, 0x15, 0x16, 0x17,
      0x18, 0x1a, 0x1e, 0x30, 0x31]
  else tag &&& 0x1f != 0x1f

/-- Takes a length off the front. -/
def length? : Bytes → Option (Nat × Bytes)
  | [] => none
  | b :: rest =>
    if b < 0x80 then some (b.toNat, rest)
    else
      let width := b.toNat - 0x80
      let n := ofBigEndian (rest.take width)
      let isShortest := 0x80 ≤ n ∧ 256 ^ (width - 1) ≤ n
      if 1 ≤ width ∧ width ≤ 4 ∧ width ≤ rest.length ∧ isShortest ∧ n < 2 ^ 28 then
        some (n, rest.drop width)
      else none

/-- The elements that a byte string consists of, at most `count` of them. -/
def elementsUpTo? : (count : Nat) → Bytes → Option (List Element)
  | _, [] => some []
  | 0, _ :: _ => none
  | count + 1, tag :: rest => do
    let (n, rest) ← length? rest
    if isTag tag ∧ n ≤ rest.length then
      return ⟨tag, rest.take n⟩ :: (← elementsUpTo? count (rest.drop n))
    else none

/-- The elements that a byte string consists of. -/
def elements? (bs : Bytes) : Option (List Element) := elementsUpTo? bs.length bs

/-- The elements within a single element with the given tag. -/
def within? (tag : UInt8) (bs : Bytes) : Option (List Element) := do
  match ← elements? bs with
  | [e] => if e.tag = tag then elements? e.content else none
  | _ => none

/-- Whether an element is marked by its position and has the given number; either form counts. -/
def Element.isField (e : Element) (number : UInt8) : Bool :=
  e.tag == 0x80 + number || e.tag == 0xa0 + number

/-- The bytes of a bit string whose length is a whole number of bytes. -/
def bitString? : Bytes → Option Bytes
  | 0 :: bytes => some bytes
  | _ => none

/-- Whether the bytes of an object identifier behind the first one are numbers of at most 32 bits,
when `taken` bytes of the present one have been seen. -/
def areArcs : (taken : Nat) → Bytes → Bool
  | taken, [] => taken == 0
  | taken, b :: bs =>
    (taken < 4 || b < 0x10) && areArcs (if b < 0x80 then 0 else taken + 1) bs

/-- Whether bytes are an object identifier. -/
def isIdentifier (bs : Bytes) : Bool :=
  3 ≤ bs.length && bs.length ≤ 39 &&
    match bs with
    | [] => false
    | first :: rest => first < 120 && areArcs 0 rest

end Mintage.Der
