import Mintage.Cep78.Mode
import Mintage.Json.Record

/-!
# What a collection says about itself
-/

namespace Mintage.Cep78

/-- Name, supply and configuration of a collection, as its named keys tell. -/
structure CollectionInfo where
  collectionName : String
  collectionSymbol : String
  totalTokenSupply : UInt64
  numberOfMintedTokens : UInt64
  allowMinting : Bool
  ownershipMode : OwnershipMode
  nftKind : NftKind
  holderMode : HolderMode
  whitelistMode : WhitelistMode
  mintingMode : MintingMode
  nftMetadataKind : MetadataKind
  identifierMode : IdentifierMode
  metadataMutability : MetadataMutability
  burnMode : BurnMode
  reportingMode : OwnerReverseLookupMode
deriving DecidableEq

namespace CollectionInfo

/-- Written as an object of the fields. -/
def toJson (i : CollectionInfo) : Json :=
  .obj [
    ("collectionName", .str i.collectionName),
    ("collectionSymbol", .str i.collectionSymbol),
    ("totalTokenSupply", .ofNat i.totalTokenSupply.toNat),
    ("numberOfMintedTokens", .ofNat i.numberOfMintedTokens.toNat),
    ("allowMinting", .bool i.allowMinting),
    ("ownershipMode", Mode.ownership.toJson i.ownershipMode),
    ("nftKind", Mode.nftKind.toJson i.nftKind),
    ("holderMode", Mode.holder.toJson i.holderMode),
    ("whitelistMode", Mode.whitelist.toJson i.whitelistMode),
    ("mintingMode", Mode.minting.toJson i.mintingMode),
    ("nftMetadataKind", Mode.metadataKind.toJson i.nftMetadataKind),
    ("identifierMode", Mode.identifier.toJson i.identifierMode),
    ("metadataMutability", Mode.metadataMutability.toJson i.metadataMutability),
    ("burnMode", Mode.burn.toJson i.burnMode),
    ("reportingMode", Mode.ownerReverseLookup.toJson i.reportingMode)]

/-- How to read the information. -/
def record : Json.Record CollectionInfo :=
  mk <$> .required "collectionName" Json.Draft.readString
    <*> .required "collectionSymbol" Json.Draft.readString
    <*> .required "totalTokenSupply" Json.Draft.readU64
    <*> .required "numberOfMintedTokens" Json.Draft.readU64
    <*> .required "allowMinting" Json.Draft.readBool
    <*> .required "ownershipMode" Mode.ownership.readJson
    <*> .required "nftKind" Mode.nftKind.readJson
    <*> .required "holderMode" Mode.holder.readJson
    <*> .required "whitelistMode" Mode.whitelist.readJson
    <*> .required "mintingMode" Mode.minting.readJson
    <*> .required "nftMetadataKind" Mode.metadataKind.readJson
    <*> .required "identifierMode" Mode.identifier.readJson
    <*> .required "metadataMutability" Mode.metadataMutability.readJson
    <*> .required "burnMode" Mode.burn.readJson
    <*> .required "reportingMode" Mode.ownerReverseLookup.readJson

/-- Reads the information. -/
def readJson : Json.Reader CollectionInfo := record.read "struct CollectionInfo"

instance : ToJson CollectionInfo := ⟨toJson⟩

instance : FromJson CollectionInfo := ⟨readJson⟩

end CollectionInfo

/-- What identifies a token. -/
inductive TokenIdentifier where
  /-- Its place in the order of minting. -/
  | index (n : UInt64)
  /-- A text that was chosen when it was minted. -/
  | hash (text : String)
deriving DecidableEq

/-- The item key under which data about a token is stored; also its text. -/
def TokenIdentifier.itemKey : TokenIdentifier → String
  | index n => toString n
  | hash text => text

end Mintage.Cep78
