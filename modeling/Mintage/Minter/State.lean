import Mintage.Identity
import Mintage.Json.Record
import Mintage.Number.Bounded

/-!
# The state of a minter
-/

namespace Mintage.Minter

/-- The configuration of a minter and how far it got, as its named keys tell. -/
structure State where
  admin : Identity
  fundManager : Identity
  cep78PackageHash : Identity
  mintFee : U256
  /-- The number of tokens minted so far. -/
  mintCount : UInt64
  maxMint : UInt64
  onlyWhitelist : Bool
  allowMint : Bool
deriving DecidableEq

namespace State

/-- The number of tokens that can still be minted; none, if there are too many already. -/
def remaining (s : State) : UInt64 := if s.mintCount ≤ s.maxMint then s.maxMint - s.mintCount else 0

/-- Written as an object of the fields. -/
def toJson (s : State) : Json :=
  .obj [("admin", s.admin.toJson), ("fundManager", s.fundManager.toJson),
    ("cep78PackageHash", s.cep78PackageHash.toJson), ("mintFee", s.mintFee.toJson),
    ("mintCount", .ofNat s.mintCount.toNat), ("maxMint", .ofNat s.maxMint.toNat),
    ("onlyWhitelist", .bool s.onlyWhitelist), ("allowMint", .bool s.allowMint)]

/-- How to read a state. -/
def record : Json.Record State :=
  mk <$> .required "admin" Identity.readJson
    <*> .required "fundManager" Identity.readJson
    <*> .required "cep78PackageHash" Identity.readJson
    <*> .required "mintFee" Bounded.readJson
    <*> .required "mintCount" Json.Draft.readU64
    <*> .required "maxMint" Json.Draft.readU64
    <*> .required "onlyWhitelist" Json.Draft.readBool
    <*> .required "allowMint" Json.Draft.readBool

/-- Reads a state. -/
def readJson : Json.Reader State := record.read "struct MinterState"

instance : ToJson State := ⟨toJson⟩

instance : FromJson State := ⟨readJson⟩

end State

end Mintage.Minter
