import Mintage.Identity
import Mintage.Json.Record

/-!
# Addresses of contracts

A stored contract is known by its own hash and by the hash of the package that holds all its
versions.
-/

namespace Mintage

/-- The address of a stored contract. -/
structure ContractAddress where
  contractHash : Identity
  packageHash : Identity
deriving DecidableEq

namespace ContractAddress

/-- Reads the texts of the two hashes. -/
def parse (contractHash packageHash : String) : Except Identity.Error ContractAddress := do
  return ⟨← Identity.decode contractHash .contract, ← Identity.decode packageHash .contract⟩

/-- The text of an address. -/
def text (a : ContractAddress) : String := s!"{a.contractHash} (package {a.packageHash})"

instance : ToString ContractAddress := ⟨text⟩

/-- Written as an object of the two texts. -/
def toJson (a : ContractAddress) : Json :=
  .obj [("contractHash", a.contractHash.toJson), ("packageHash", a.packageHash.toJson)]

/-- The two texts of an address, unread. -/
def record : Json.Record (String × String) :=
  Prod.mk <$> .required "contractHash" Json.Draft.readString
    <*> .required "packageHash" Json.Draft.readString

/-- Reads an object of the two texts. -/
def readJson : Json.Reader ContractAddress := fun d => do
  let (contractHash, packageHash) ← record.read "struct ContractAddressJson" d
  match parse contractHash packageHash with
  | .ok a => return a
  | .error e => throw (.refused e.message)

instance : ToJson ContractAddress := ⟨toJson⟩

instance : FromJson ContractAddress := ⟨readJson⟩

end ContractAddress

end Mintage
