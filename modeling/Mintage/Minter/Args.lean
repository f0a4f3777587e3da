import Mintage.RuntimeArgs

/-!
# Arguments of the minter

The minter sells tokens of a collection for a fee, optionally to whitelisted accounts only. Each
record here holds what one of its entry points is given. `arguments` lists the fields as named
arguments, in the order of the fields; a field that is not set has no argument, whereas one that is
set to `false` or zero has.
-/

namespace Mintage.Minter

/-- Arguments of the minter's installation. -/
structure InstallArgs where
  admin : Identity
  /-- The account that receives the fees. -/
  fundManager : Identity
  /-- The package of the collection into which tokens are minted. -/
  cep78PackageHash : Identity
  mintFee : U256
  onlyWhitelist : Bool
  allowMint : Bool
  maxMint : UInt64
  /-- Under this name the installing account stores the hashes of contract and package. -/
  name : String
  /-- Whether the version that was installed before is disabled. -/
  disableOld : Bool
deriving DecidableEq

namespace InstallArgs

/-- The arguments, in order. -/
def arguments (a : InstallArgs) : List NamedArg :=
  [.of "admin" .key a.admin.toKey, .of "fund_manager" .key a.fundManager.toKey,
    .of "cep78_package_hash" .key a.cep78PackageHash.toKey, .of "mint_fee" .u256 a.mintFee,
    .of "only_whitelist" .bool a.onlyWhitelist, .of "allow_mint" .bool a.allowMint,
    .of "max_mint" .u64 a.maxMint, .of "name" .string a.name,
    .of "disable_old" .bool a.disableOld]

/-- The arguments of the install code. -/
def toRuntimeArgs (a : InstallArgs) : Except RuntimeArgs.DuplicateArgument RuntimeArgs :=
  RuntimeArgs.ofList a.arguments

/-- Written as an object of the fields. -/
def toJson (a : InstallArgs) : Json :=
  .obj [("admin", a.admin.toJson), ("fundManager", a.fundManager.toJson),
    ("cep78PackageHash", a.cep78PackageHash.toJson), ("mintFee", a.mintFee.toJson),
    ("onlyWhitelist", .bool a.onlyWhitelist), ("allowMint", .bool a.allowMint),
    ("maxMint", .ofNat a.maxMint.toNat), ("name", .str a.name), ("disableOld", .bool a.disableOld)]

/-- How to read the arguments. -/
def record : Json.Record InstallArgs :=
  mk <$> .required "admin" Identity.readJson
    <*> .required "fundManager" Identity.readJson
    <*> .required "cep78PackageHash" Identity.readJson
    <*> .required "mintFee" Bounded.readJson
    <*> .required "onlyWhitelist" Json.Draft.readBool
    <*> .required "allowMint" Json.Draft.readBool
    <*> .required "maxMint" Json.Draft.readU64
    <*> .required "name" Json.Draft.readString
    <*> .required "disableOld" Json.Draft.readBool

/-- Reads the arguments. -/
def readJson : Json.Reader InstallArgs := record.read "struct InstallArgs"

instance : ToJson InstallArgs := ⟨toJson⟩

instance : FromJson InstallArgs := ⟨readJson⟩

end InstallArgs

/-- Arguments of an upgrade, which installs another version into the package of the minter. -/
structure UpgradeArgs where
  name : String
  disableOld : Bool
deriving DecidableEq

namespace UpgradeArgs

/-- The arguments, in order. -/
def arguments (a : UpgradeArgs) : List NamedArg :=
  [.of "name" .string a.name, .of "disable_old" .bool a.disableOld]

/-- The arguments of the upgrade code. -/
def toRuntimeArgs (a : UpgradeArgs) : Except RuntimeArgs.DuplicateArgument RuntimeArgs :=
  RuntimeArgs.ofList a.arguments

/-- Written as an object of the fields. -/
def toJson (a : UpgradeArgs) : Json :=
  .obj [("name", .str a.name), ("disableOld", .bool a.disableOld)]

/-- How to read the arguments. -/
def record : Json.Record UpgradeArgs :=
  mk <$> .required "name" Json.Draft.readString <*> .required "disableOld" Json.Draft.readBool

/-- Reads the arguments. -/
def readJson : Json.Reader UpgradeArgs := record.read "struct UpgradeArgs"

instance : ToJson UpgradeArgs := ⟨toJson⟩

instance : FromJson UpgradeArgs := ⟨readJson⟩

end UpgradeArgs

/-- A partial update of the minter's configuration. The contract leaves fields that are not set as
they are. -/
structure ConfigUpdate where
  admin : Option Identity := none
  fundManager : Option Identity := none
  mintFee : Option U256 := none
  onlyWhitelist : Option Bool := none
  allowMint : Option Bool := none
  maxMint : Option UInt64 := none
deriving DecidableEq

namespace ConfigUpdate

/-- Whether no field is set. -/
def isEmpty (u : ConfigUpdate) : Bool := u = {}

/-- The arguments, in order: one for each field that is set. -/
def arguments (u : ConfigUpdate) : List NamedArg :=
  NamedArg.ofOption "admin" .key (u.admin.map Identity.toKey)
    ++ NamedArg.ofOption "fund_manager" .key (u.fundManager.map Identity.toKey)
    ++ NamedArg.ofOption "mint_fee" .u256 u.mintFee
    ++ NamedArg.ofOption "only_whitelist" .bool u.onlyWhitelist
    ++ NamedArg.ofOption "allow_mint" .bool u.allowMint
    ++ NamedArg.ofOption "max_mint" .u64 u.maxMint

/-- The arguments of the entry point. -/
def toRuntimeArgs (u : ConfigUpdate) : Except RuntimeArgs.DuplicateArgument RuntimeArgs :=
  RuntimeArgs.ofList u.arguments

/-- Written as an object of the fields that are set. -/
def toJson (u : ConfigUpdate) : Json :=
  Json.members [
    Json.member? "admin" Identity.toJson u.admin,
    Json.member? "fundManager" Identity.toJson u.fundManager,
    Json.member? "mintFee" Bounded.toJson u.mintFee,
    Json.member? "onlyWhitelist" Json.bool u.onlyWhitelist,
    Json.member? "allowMint" Json.bool u.allowMint,
    Json.member? "maxMint" (fun n : UInt64 => Json.ofNat n.toNat) u.maxMint]

/-- How to read an update. -/
def record : Json.Record ConfigUpdate :=
  mk <$> .optionalTail "admin" Identity.readJson
    <*> .optionalTail "fundManager" Identity.readJson
    <*> .optionalTail "mintFee" Bounded.readJson
    <*> .optionalTail "onlyWhitelist" Json.Draft.readBool
    <*> .optionalTail "allowMint" Json.Draft.readBool
    <*> .optionalTail "maxMint" Json.Draft.readU64

/-- Reads an update. -/
def readJson : Json.Reader ConfigUpdate := record.read "struct ConfigUpdate"

instance : ToJson ConfigUpdate := ⟨toJson⟩

instance : FromJson ConfigUpdate := ⟨readJson⟩

end ConfigUpdate

/-- Arguments for minting without a fee, which only the admin may do. -/
structure FreeMintArgs where
  /-- The owner of the new tokens. -/
  nftOwner : Identity
  count : UInt64
deriving DecidableEq

namespace FreeMintArgs

/-- The arguments, in order. -/
def arguments (a : FreeMintArgs) : List NamedArg :=
  [.of "nft_owner" .key a.nftOwner.toKey, .of "count" .u64 a.count]

/-- The arguments of the entry point. -/
def toRuntimeArgs (a : FreeMintArgs) : Except RuntimeArgs.DuplicateArgument RuntimeArgs :=
  RuntimeArgs.ofList a.arguments

end FreeMintArgs

/-- Arguments for minting for a fee. The session code transfers the amount from the purse of the
sender and calls the package of the minter. -/
structure NativeMintArgs where
  /-- The owner of the new tokens. -/
  nftOwner : Identity
  count : UInt64
  minterPackageHash : Identity
  /-- The fee for all tokens, in motes. -/
  amount : U512
deriving DecidableEq

namespace NativeMintArgs

/-- The arguments, in order. -/
def arguments (a : NativeMintArgs) : List NamedArg :=
  [.of "nft_owner" .key a.nftOwner.toKey, .of "count" .u64 a.count,
    .of "minter_package_hash" .key a.minterPackageHash.toKey, .of "amount" .u512 a.amount]

/-- The arguments of the session code. -/
def toRuntimeArgs (a : NativeMintArgs) : Except RuntimeArgs.DuplicateArgument RuntimeArgs :=
  RuntimeArgs.ofList a.arguments

end NativeMintArgs

end Mintage.Minter
