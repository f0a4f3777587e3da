import Mintage.Identity
import Mintage.Wire

/-!
# Keys of the global state

Contracts refer to accounts, to contracts and to references in the global state by keys. A reference
carries access rights, a set of bits, and its text shows them as three octal digits.
-/

namespace Mintage

/-- An unforgeable reference to a value in the global state. -/
structure URef where
  address : Digest
  /-- The access rights, as a set of bits. -/
  rights : UInt8
deriving DecidableEq

namespace URef

/-- The rights to read, add and write. -/
def readAddWrite : UInt8 := 7

/-- A number of at most three octal digits, as exactly three. -/
def octal (n : UInt8) : String :=
  let digit (k : Nat) : Char := Hex.digit (k % 8)
  String.ofList [digit (n.toNat / 64), digit (n.toNat / 8), digit n.toNat]

/-- The text of a reference. -/
def text (u : URef) : String := "uref-" ++ Hex.encode u.address.bytes ++ "-" ++ octal u.rights

/-- The binary form: the address, then the rights. -/
def encode (u : URef) : Bytes := u.address.bytes ++ [u.rights]

/-- Takes a reference off the front. -/
def decode : Wire.Decoder URef := do
  let address ← Wire.decodeBlock 32
  let rights ← Wire.decodeByte
  return ⟨address, rights⟩

end URef

/-- A key in the global state. -/
inductive Key where
  /-- An account, by its hash. -/
  | account (hash : Digest)
  /-- A contract or contract package, by its hash. -/
  | hash (hash : Digest)
  /-- An unforgeable reference. -/
  | uref (uref : URef)
deriving DecidableEq

namespace Key

/-- The account or contract that the key refers to. -/
def identity? : Key → Option Identity
  | account h => some ⟨.account, h⟩
  | hash h => some ⟨.contract, h⟩
  | uref _ => none

/-- The text of a key. -/
def text : Key → String
  | account h => Identity.accountPrefix ++ Hex.encode h.bytes
  | hash h => Identity.contractPrefix ++ Hex.encode h.bytes
  | uref u => u.text

/-- The binary form: a tag, then the content. -/
def encode : Key → Bytes
  | account h => 0 :: h.bytes
  | hash h => 1 :: h.bytes
  | uref u => 2 :: u.encode

/-- Takes a key off the front. -/
def decode : Wire.Decoder Key := do
  match ← Wire.decodeByte with
  | 0 => return account (← Wire.decodeBlock 32)
  | 1 => return hash (← Wire.decodeBlock 32)
  | 2 => return uref (← URef.decode)
  | tag => throw (.unknownKey tag)

end Key

/-- The key of an account or contract. -/
def Identity.toKey (i : Identity) : Key :=
  match i.kind with
  | .account => .account i.hash
  | .contract => .hash i.hash

end Mintage
