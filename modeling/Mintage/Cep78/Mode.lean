import Mintage.Wire
import Mintage.Json.Reader

/-!
# Modes of a collection

A CEP-78 collection is configured by eleven modes. Each is a choice between a few named variants,
which the contract numbers from zero in the order of `Mode.variants` and stores in one byte.
-/

namespace Mintage.Cep78

/-- Who may transfer a token after it is minted. -/
inductive OwnershipMode where
  | minter
  | assigned
  | transferable
deriving DecidableEq

/-- What a token stands for. -/
inductive NftKind where
  | physical
  | digital
  | virtual
deriving DecidableEq

/-- Which kinds of entities may hold tokens. -/
inductive HolderMode where
  | accounts
  | contracts
  | mixed
deriving DecidableEq

/-- Whether the contract whitelist can change after installation. -/
inductive WhitelistMode where
  | unlocked
  | locked
deriving DecidableEq

/-- Who may mint. -/
inductive MintingMode where
  | installer
  | everybody
  | acl
deriving DecidableEq

/-- The format of the metadata of tokens. Each kind is kept in a dictionary of its own. -/
inductive MetadataKind where
  | cep78
  | nft721
  | raw
  | customValidated
deriving DecidableEq

/-- How tokens are identified. -/
inductive IdentifierMode where
  | ordinal
  | hash
deriving DecidableEq

/-- Whether the metadata of a token can change. -/
inductive MetadataMutability where
  | immutable
  | mutable
deriving DecidableEq

/-- Whether tokens can be burned. -/
inductive BurnMode where
  | burnable
  | nonBurnable
deriving DecidableEq

/-- Whether the contract tracks which tokens each owner holds. -/
inductive OwnerReverseLookupMode where
  | noLookUp
  | complete
  | transfersOnly
deriving DecidableEq

/-- Which events the contract emits. -/
inductive EventsMode where
  | noEvents
  | cep47
  | ces
deriving DecidableEq

/-- The modes of a collection. -/
inductive Mode where
  | ownership
  | nftKind
  | holder
  | whitelist
  | minting
  | metadataKind
  | identifier
  | metadataMutability
  | burn
  | ownerReverseLookup
  | events
deriving DecidableEq

namespace Mode

/-- The variants of a mode, as a type. -/
abbrev Value : Mode → Type
  | ownership => OwnershipMode
  | nftKind => NftKind
  | holder => HolderMode
  | whitelist => WhitelistMode
  | minting => MintingMode
  | metadataKind => MetadataKind
  | identifier => IdentifierMode
  | metadataMutability => MetadataMutability
  | burn => BurnMode
  | ownerReverseLookup => OwnerReverseLookupMode
  | events => EventsMode

instance decEqValue : (m : Mode) → DecidableEq m.Value
  | ownership => inferInstanceAs (DecidableEq OwnershipMode)
  | nftKind => inferInstanceAs (DecidableEq NftKind)
  | holder => inferInstanceAs (DecidableEq HolderMode)
  | whitelist => inferInstanceAs (DecidableEq WhitelistMode)
  | minting => inferInstanceAs (DecidableEq MintingMode)
  | metadataKind => inferInstanceAs (DecidableEq MetadataKind)
  | identifier => inferInstanceAs (DecidableEq IdentifierMode)
  | metadataMutability => inferInstanceAs (DecidableEq MetadataMutability)
  | burn => inferInstanceAs (DecidableEq BurnMode)
  | ownerReverseLookup => inferInstanceAs (DecidableEq OwnerReverseLookupMode)
  | events => inferInstanceAs (DecidableEq EventsMode)

/-- The name of a mode. -/
def name : Mode → String
  | ownership => "OwnershipMode"
  | nftKind => "NftKind"
  | holder => "HolderMode"
  | whitelist => "WhitelistMode"
  | minting => "MintingMode"
  | metadataKind => "NftMetadataKind"
  | identifier => "IdentifierMode"
  | metadataMutability => "MetadataMutability"
  | burn => "BurnMode"
  | ownerReverseLookup => "OwnerReverseLookupMode"
  | events => "EventsMode"

/-- All modes. -/
def all : List Mode :=
  [ownership, nftKind, holder, whitelist, minting, metadataKind, identifier, metadataMutability,
    burn, ownerReverseLookup, events]

/-- The variants of a mode with their names, in the order of their numbers. -/
def variants : (m : Mode) → List (String × m.Value)
  | ownership => [("Minter", .minter), ("Assigned", .assigned), ("Transferable", .transferable)]
  | nftKind => [("Physical", .physical), ("Digital", .digital), ("Virtual", .virtual)]
  | holder => [("Accounts", .accounts), ("Contracts", .contracts), ("Mixed", .mixed)]
  | whitelist => [("Unlocked", .unlocked), ("Locked", .locked)]
  | minting => [("Installer", .installer), ("Public", .everybody), ("Acl", .acl)]
  | metadataKind =>
    [("Cep78", .cep78), ("Nft721", .nft721), ("Raw", .raw), ("CustomValidated", .customValidated)]
  | identifier => [("Ordinal", .ordinal), ("Hash", .hash)]
  | metadataMutability => [("Immutable", .immutable), ("Mutable", .mutable)]
  | burn => [("Burnable", .burnable), ("NonBurnable", .nonBurnable)]
  | ownerReverseLookup =>
    [("NoLookUp", .noLookUp), ("Complete", .complete), ("TransfersOnly", .transfersOnly)]
  | events => [("NoEvents", .noEvents), ("Cep47", .cep47), ("Ces", .ces)]

/-- The number of a variant. -/
def number (m : Mode) (v : m.Value) : UInt8 :=
  UInt8.ofNat (m.variants.findIdx fun x => x.2 = v)

/-- The variant with a number. -/
def ofNumber? (m : Mode) (n : UInt8) : Option m.Value := (m.variants[n.toNat]?).map (·.2)

/-- The name of a variant. -/
def text (m : Mode) (v : m.Value) : String :=
  ((m.variants.find? fun x => x.2 = v).map (·.1)).getD ""

/-- The variant with a name. -/
def ofText? (m : Mode) (s : String) : Option m.Value := m.variants.lookup s

/-- The binary form: one byte with the number. -/
def encode (m : Mode) (v : m.Value) : Bytes := [m.number v]

/-- Takes a variant off the front. -/
def decode (m : Mode) : Wire.Decoder m.Value := do
  let n ← Wire.decodeByte
  match m.ofNumber? n with
  | some v => return v
  | none => throw (.unknownMode m.name n)

/-- Written as the name. -/
def toJson (m : Mode) (v : m.Value) : Json := .str (m.text v)

/-- Reads the name of a variant. -/
def readJson (m : Mode) : Json.Reader m.Value := Json.Draft.readName m.variants

end Mode

/-- The name of the dictionary that holds metadata of a kind. -/
def MetadataKind.dictionaryName : MetadataKind → String
  | cep78 => "metadata_cep78"
  | nft721 => "metadata_nft721"
  | raw => "metadata_raw"
  | customValidated => "metadata_custom_validated"

end Mintage.Cep78
