import Mintage.RuntimeArgs

/-!
# Installing a collection
-/

namespace Mintage.Cep78

/-- A list of identities as the contract takes it: as keys. -/
def keysOf (identities : List Identity) : List Key := identities.map Identity.toKey

/-- Arguments of a collection's installation. -/
structure InstallArgs where
  collectionName : String
  collectionSymbol : String
  totalTokenSupply : UInt64
  ownershipMode : OwnershipMode
  nftKind : NftKind
  holderMode : HolderMode
  whitelistMode : WhitelistMode
  mintingMode : MintingMode
  nftMetadataKind : MetadataKind
  identifierMode : IdentifierMode
  metadataMutability : MetadataMutability
  burnMode : BurnMode
  ownerReverseLookupMode : OwnerReverseLookupMode
  eventsMode : EventsMode
  /-- The schema of metadata that is validated by one; empty otherwise. -/
  jsonSchema : String := ""
  allowMinting : Option Bool := none
  /-- Accounts and contracts that may mint, if minting is open to a list of them. -/
  aclWhitelist : Option (List Identity) := none
deriving DecidableEq

namespace InstallArgs

/-- The arguments that are always there, in order. -/
def fixedArguments (a : InstallArgs) : List NamedArg :=
  [.of "collection_name" .string a.collectionName,
    .of "collection_symbol" .string a.collectionSymbol,
    .of "total_token_supply" .u64 a.totalTokenSupply,
    .of "ownership_mode" (.mode .ownership) a.ownershipMode,
    .of "nft_kind" (.mode .nftKind) a.nftKind,
    .of "holder_mode" (.mode .holder) a.holderMode,
    .of "whitelist_mode" (.mode .whitelist) a.whitelistMode,
    .of "minting_mode" (.mode .minting) a.mintingMode,
    .of "nft_metadata_kind" (.mode .metadataKind) a.nftMetadataKind,
    .of "identifier_mode" (.mode .identifier) a.identifierMode,
    .of "metadata_mutability" (.mode .metadataMutability) a.metadataMutability,
    .of "burn_mode" (.mode .burn) a.burnMode,
    .of "owner_reverse_lookup_mode" (.mode .ownerReverseLookup) a.ownerReverseLookupMode,
    .of "events_mode" (.mode .events) a.eventsMode,
    .of "json_schema" .string a.jsonSchema]

/-- The arguments, in order; a field that is not set has none. -/
def arguments (a : InstallArgs) : List NamedArg :=
  a.fixedArguments
    ++ NamedArg.ofOption "allow_minting" .bool a.allowMinting
    ++ NamedArg.ofOption "acl_whitelist" (.list .key) (a.aclWhitelist.map keysOf)

/-- The arguments of the install code. -/
def toRuntimeArgs (a : InstallArgs) : Except RuntimeArgs.DuplicateArgument RuntimeArgs :=
  RuntimeArgs.ofList a.arguments

/-- Written as an object of the fields, except for those that are not set. -/
def toJson (a : InstallArgs) : Json :=
  Json.members [
    Json.member "collectionName" (.str a.collectionName),
    Json.member "collectionSymbol" (.str a.collectionSymbol),
    Json.member "totalTokenSupply" (.ofNat a.totalTokenSupply.toNat),
    Json.member "ownershipMode" (Mode.ownership.toJson a.ownershipMode),
    Json.member "nftKind" (Mode.nftKind.toJson a.nftKind),
    Json.member "holderMode" (Mode.holder.toJson a.holderMode),
    Json.member "whitelistMode" (Mode.whitelist.toJson a.whitelistMode),
    Json.member "mintingMode" (Mode.minting.toJson a.mintingMode),
    Json.member "nftMetadataKind" (Mode.metadataKind.toJson a.nftMetadataKind),
    Json.member "identifierMode" (Mode.identifier.toJson a.identifierMode),
    Json.member "metadataMutability" (Mode.metadataMutability.toJson a.metadataMutability),
    Json.member "burnMode" (Mode.burn.toJson a.burnMode),
    Json.member "ownerReverseLookupMode" (Mode.ownerReverseLookup.toJson a.ownerReverseLookupMode),
    Json.member "eventsMode" (Mode.events.toJson a.eventsMode),
    Json.member "jsonSchema" (.str a.jsonSchema),
    Json.member? "allowMinting" Json.bool a.allowMinting,
    Json.member? "aclWhitelist" Identity.listToJson a.aclWhitelist]

/-- How to read the arguments. -/
def record : Json.Record InstallArgs :=
  mk <$> .required "collectionName" Json.Draft.readString
    <*> .required "collectionSymbol" Json.Draft.readString
    <*> .required "totalTokenSupply" Json.Draft.readU64
    <*> .required "ownershipMode" Mode.ownership.readJson
    <*> .required "nftKind" Mode.nftKind.readJson
    <*> .required "holderMode" Mode.holder.readJson
    <*> .required "whitelistMode" Mode.whitelist.readJson
    <*> .required "mintingMode" Mode.minting.readJson
    <*> .required "nftMetadataKind" Mode.metadataKind.readJson
    <*> .required "identifierMode" Mode.identifier.readJson
    <*> .required "metadataMutability" Mode.metadataMutability.readJson
    <*> .required "burnMode" Mode.burn.readJson
    <*> .required "ownerReverseLookupMode" Mode.ownerReverseLookup.readJson
    <*> .required "eventsMode" Mode.events.readJson
    <*> .defaulted "jsonSchema" Json.Draft.readString ""
    <*> .optionalTail "allowMinting" Json.Draft.readBool
    <*> .optionalTail "aclWhitelist" (Json.Draft.readList Identity.readJson)

/-- Reads the arguments. -/
def readJson : Json.Reader InstallArgs := record.read "struct Cep78InstallArgs"

instance : ToJson InstallArgs := ⟨toJson⟩

instance : FromJson InstallArgs := ⟨readJson⟩

end InstallArgs

end Mintage.Cep78
