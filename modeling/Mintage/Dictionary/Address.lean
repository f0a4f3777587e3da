import Mintage.Bytes.Base64
import Mintage.Key

/-!
# Addresses of dictionary items

A contract keeps data in named dictionaries. An item has a key, which is a text, and an address in
the global state: the digest of the address of the dictionary's seed followed by the item key. The
access rights of the seed do not matter.

Data about an account or contract is kept under an item key that is made of its hash
(`Identity.itemKey`), or of its key with the tag for the kind (`Identity.balanceKey`).
-/

namespace Mintage

/-- The item key for data about an identity: the digits of its hash, without any prefix. -/
def Identity.itemKey (i : Identity) : String := Hex.encode i.hash.bytes

/-- The item key of an owner in the balances of a CEP-18 token: the tagged key in base 64. -/
def Identity.balanceKey (i : Identity) : String := Base64.encode i.toKey.encode

namespace Dictionary

/-- The address of an item. -/
def address (seed : URef) (itemKey : String) : Digest :=
  Blake2b.digest (seed.address.bytes ++ Utf8.encode itemKey)

/-- The text of an address. -/
def addressText (address : Digest) : String := "dictionary-" ++ Hex.encode address.bytes

end Dictionary

end Mintage
