import Mintage.Cep18.Install
import Mintage.Cep78.Info
import Mintage.Cep78.Variables
import Mintage.ContractAddress
import Mintage.Minter.Args
import Mintage.Minter.State
import Mintage.Minter.Whitelist
import Mintage.Proofs.Arithmetic
import Mintage.Proofs.Identity
import Mintage.Proofs.Json.Forms

/-!
# Proofs: records that are written without loss

What users give to the commands and what they are shown are records in JSON. Each has a layout,
which says of each field its name, how its values are written and whether it may be missing. The
writer and the reader of the record both follow that one layout, so what one of them says the other
one understands.
-/

namespace Mintage

open Json Outcome

/-! ## Values of fields -/

theorem Identity.reads (i : Identity) : Reads readJson i.toJson i :=
  reads_parsed (parse_eq_ok_iff.mpr (decode_text i)) _

def Identity.codec : Codec Identity := ⟨toJson, readJson, reads, nofun⟩

def Identity.listCodec : Codec (List Identity) where
  write := listToJson
  read := Draft.readList readJson
  reads := fun _ => reads_list fun i _ => reads i
  ne_null := nofun

def Bounded.codec (bits : Nat) : Codec (Bounded bits) where
  write := toJson
  read := readJson
  reads := fun x => reads_parsed (parse_toString x) _
  ne_null := nofun

namespace Cep78.Mode

theorem ofText?_text (m : Mode) (v : m.Value) : m.ofText? (m.text v) = some v := by
  cases m <;> cases v <;> rfl

theorem reads (m : Mode) (v : m.Value) : Reads m.readJson (m.toJson v) v := by
  have hLookup : m.variants.lookup (m.text v) = some v := ofText?_text m v
  refine .of_str ?_
  have hVariant : Draft.variant (.str (.of (m.text v))) = .ok (m.text v, none, .ok ()) := rfl
  simp only [readJson, Draft.readName, hVariant, bind_of_ok, hLookup]
  rfl

def codec (m : Mode) : Codec m.Value := ⟨m.toJson, m.readJson, m.reads, nofun⟩

end Cep78.Mode

/-! ## Records of the minter -/

namespace Minter

def InstallArgs.layout : Layout InstallArgs InstallArgs :=
  Layout.first mk "admin" (.required Identity.codec) admin
    |>.field "fundManager" (.required Identity.codec) fundManager
    |>.field "cep78PackageHash" (.required Identity.codec) cep78PackageHash
    |>.field "mintFee" (.required (Bounded.codec 256)) mintFee
    |>.field "onlyWhitelist" (.required .bool) onlyWhitelist
    |>.field "allowMint" (.required .bool) allowMint
    |>.field "maxMint" (.required .u64) maxMint
    |>.field "name" (.required .text) name
    |>.field "disableOld" (.required .bool) disableOld

theorem InstallArgs.lossless_json : Lossless layout.fields toJson readJson :=
  layout.lossless (by decide) (fun _ => rfl) (fun _ => rfl) fun _ => rfl

def UpgradeArgs.layout : Layout UpgradeArgs UpgradeArgs :=
  Layout.first mk "name" (.required .text) name
    |>.field "disableOld" (.required .bool) disableOld

theorem UpgradeArgs.lossless_json : Lossless layout.fields toJson readJson :=
  layout.lossless (by decide) (fun _ => rfl) (fun _ => rfl) fun _ => rfl

def ConfigUpdate.layout : Layout ConfigUpdate ConfigUpdate :=
  Layout.first mk "admin" (.optional Identity.codec) admin
    |>.field "fundManager" (.optional Identity.codec) fundManager
    |>.field "mintFee" (.optional (Bounded.codec 256)) mintFee
    |>.field "onlyWhitelist" (.optional .bool) onlyWhitelist
    |>.field "allowMint" (.optional .bool) allowMint
    |>.field "maxMint" (.optional .u64) maxMint

theorem ConfigUpdate.lossless_json : Lossless layout.fields toJson readJson :=
  layout.lossless (by decide) (fun _ => rfl) (fun _ => rfl) fun _ => rfl

def WhitelistEntry.layout : Layout WhitelistEntry WhitelistEntry :=
  Layout.first mk "account" (.required Identity.codec) account
    |>.field "value" (.required .bool) value

theorem WhitelistEntry.lossless_json : Lossless layout.fields toJson readJson :=
  layout.lossless (by decide) (fun _ => rfl) (fun _ => rfl) fun _ => rfl

def State.layout : Layout State State :=
  Layout.first mk "admin" (.required Identity.codec) admin
    |>.field "fundManager" (.required Identity.codec) fundManager
    |>.field "cep78PackageHash" (.required Identity.codec) cep78PackageHash
    |>.field "mintFee" (.required (Bounded.codec 256)) mintFee
    |>.field "mintCount" (.required .u64) mintCount
    |>.field "maxMint" (.required .u64) maxMint
    |>.field "onlyWhitelist" (.required .bool) onlyWhitelist
    |>.field "allowMint" (.required .bool) allowMint

theorem State.lossless_json : Lossless layout.fields toJson readJson :=
  layout.lossless (by decide) (fun _ => rfl) (fun _ => rfl) fun _ => rfl

end Minter

/-! ## Records of a collection -/

namespace Cep78

def InstallArgs.layout : Layout InstallArgs InstallArgs :=
  Layout.first mk "collectionName" (.required .text) collectionName
    |>.field "collectionSymbol" (.required .text) collectionSymbol
    |>.field "totalTokenSupply" (.required .u64) totalTokenSupply
    |>.field "ownershipMode" (.required Mode.ownership.codec) ownershipMode
    |>.field "nftKind" (.required Mode.nftKind.codec) nftKind
    |>.field "holderMode" (.required Mode.holder.codec) holderMode
    |>.field "whitelistMode" (.required Mode.whitelist.codec) whitelistMode
    |>.field "mintingMode" (.required Mode.minting.codec) mintingMode
    |>.field "nftMetadataKind" (.required Mode.metadataKind.codec) nftMetadataKind
    |>.field "identifierMode" (.required Mode.identifier.codec) identifierMode
    |>.field "metadataMutability" (.required Mode.metadataMutability.codec) metadataMutability
    |>.field "burnMode" (.required Mode.burn.codec) burnMode
    |>.field "ownerReverseLookupMode" (.required Mode.ownerReverseLookup.codec)
      ownerReverseLookupMode
    |>.field "eventsMode" (.required Mode.events.codec) eventsMode
    |>.field "jsonSchema" (.defaulted .text "") jsonSchema
    |>.field "allowMinting" (.optional .bool) allowMinting
    |>.field "aclWhitelist" (.optional Identity.listCodec) aclWhitelist

theorem InstallArgs.lossless_json : Lossless layout.fields toJson readJson :=
  layout.lossless (by decide) (fun _ => rfl) (fun _ => rfl) fun _ => rfl

def Variables.layout : Layout Variables Variables :=
  Layout.first mk "allowMinting" (.optional .bool) allowMinting
    |>.field "contractWhitelist" (.optional Identity.listCodec) contractWhitelist
    |>.field "aclWhitelist" (.optional Identity.listCodec) aclWhitelist

theorem Variables.lossless_json : Lossless layout.fields toJson readJson :=
  layout.lossless (by decide) (fun _ => rfl) (fun _ => rfl) fun _ => rfl

def CollectionInfo.layout : Layout CollectionInfo CollectionInfo :=
  Layout.first mk "collectionName" (.required .text) collectionName
    |>.field "collectionSymbol" (.required .text) collectionSymbol
    |>.field "totalTokenSupply" (.required .u64) totalTokenSupply
    |>.field "numberOfMintedTokens" (.required .u64) numberOfMintedTokens
    |>.field "allowMinting" (.required .bool) allowMinting
    |>.field "ownershipMode" (.required Mode.ownership.codec) ownershipMode
    |>.field "nftKind" (.required Mode.nftKind.codec) nftKind
    |>.field "holderMode" (.required Mode.holder.codec) holderMode
    |>.field "whitelistMode" (.required Mode.whitelist.codec) whitelistMode
    |>.field "mintingMode" (.required Mode.minting.codec) mintingMode
    |>.field "nftMetadataKind" (.required Mode.metadataKind.codec) nftMetadataKind
    |>.field "identifierMode" (.required Mode.identifier.codec) identifierMode
    |>.field "metadataMutability" (.required Mode.metadataMutability.codec) metadataMutability
    |>.field "burnMode" (.required Mode.burn.codec) burnMode
    |>.field "reportingMode" (.required Mode.ownerReverseLookup.codec) reportingMode

theorem CollectionInfo.lossless_json : Lossless layout.fields toJson readJson :=
  layout.lossless (by decide) (fun _ => rfl) (fun _ => rfl) fun _ => rfl

end Cep78

/-! ## Records of a fungible token -/

namespace Cep18.InstallArgs

def layout : Layout InstallArgs InstallArgs :=
  Layout.first mk "name" (.required .text) name
    |>.field "symbol" (.required .text) symbol
    |>.field "decimals" (.required .u8) decimals
    |>.field "totalSupply" (.required (Bounded.codec 256)) totalSupply
    |>.field "enableMintAndBurn" (.required .bool) enableMintAndBurn

theorem lossless_json : Lossless layout.fields toJson readJson :=
  layout.lossless (by decide) (fun _ => rfl) (fun _ => rfl) fun _ => rfl

end Cep18.InstallArgs

/-! ## Addresses of contracts -/

namespace ContractAddress

def layout : Layout (String × String) (String × String) :=
  Layout.first Prod.mk "contractHash" (.required .text) Prod.fst
    |>.field "packageHash" (.required .text) Prod.snd

theorem lossless_texts : Lossless layout.fields
    (fun texts => .obj [("contractHash", .str texts.1), ("packageHash", .str texts.2)])
    (record.read "struct ContractAddressJson") :=
  layout.lossless (by decide) (fun _ => rfl) (fun _ => rfl) fun _ => rfl

/-- The texts that an address is read from need not be its own, but it can be read from these. -/
theorem parse_text_of_parse {contract package : String} {a : ContractAddress}
    (h : parse contract package = .ok a) :
    parse a.contractHash.text a.packageHash.text = .ok a := by
  obtain ⟨i, hContract, hMore⟩ := bind_eq_ok_iff.mp h
  obtain ⟨j, hPackage, hPair⟩ := bind_eq_ok_iff.mp hMore
  cases hPair
  have hOwn : Identity.decode i.text .contract = .ok i :=
    (Identity.decode_eq_ok_iff.mp hContract).1 ▸ Identity.decode_text i
  have hOwn' : Identity.decode j.text .contract = .ok j :=
    (Identity.decode_eq_ok_iff.mp hPackage).1 ▸ Identity.decode_text j
  simp only [parse, hOwn, hOwn', bind_of_ok]
  rfl

theorem reads_of_parse {contract package : String} {a : ContractAddress}
    (h : parse contract package = .ok a) : Reads readJson a.toJson a := by
  intro j hj
  have hTexts := lossless_texts.readBack (a.contractHash.text, a.packageHash.text) j hj
  simp only [readJson, hTexts, bind_of_ok, parse_text_of_parse h]
  rfl

end ContractAddress

/-- Records are written without loss. Each is read back from what was written of it, in whatever
order the members stand. A field that need not be set is written exactly if it is set, and is read
as not set exactly if it is missing or null. Numbers of 64 bits stand there as the integers that
they are. An address of a contract is read back if it was read from texts. -/
theorem records_are_written_without_loss :
    Lossless Minter.InstallArgs.layout.fields Minter.InstallArgs.toJson
      Minter.InstallArgs.readJson ∧
    Lossless Minter.UpgradeArgs.layout.fields Minter.UpgradeArgs.toJson
      Minter.UpgradeArgs.readJson ∧
    Lossless Minter.ConfigUpdate.layout.fields Minter.ConfigUpdate.toJson
      Minter.ConfigUpdate.readJson ∧
    Lossless Minter.WhitelistEntry.layout.fields Minter.WhitelistEntry.toJson
      Minter.WhitelistEntry.readJson ∧
    Lossless Minter.State.layout.fields Minter.State.toJson Minter.State.readJson ∧
    Lossless Cep78.InstallArgs.layout.fields Cep78.InstallArgs.toJson
      Cep78.InstallArgs.readJson ∧
    Lossless Cep78.Variables.layout.fields Cep78.Variables.toJson Cep78.Variables.readJson ∧
    Lossless Cep78.CollectionInfo.layout.fields Cep78.CollectionInfo.toJson
      Cep78.CollectionInfo.readJson ∧
    Lossless Cep18.InstallArgs.layout.fields Cep18.InstallArgs.toJson
      Cep18.InstallArgs.readJson ∧
    ∀ contract package a, ContractAddress.parse contract package = .ok a →
      Reads ContractAddress.readJson a.toJson a :=
  ⟨Minter.InstallArgs.lossless_json, Minter.UpgradeArgs.lossless_json,
    Minter.ConfigUpdate.lossless_json, Minter.WhitelistEntry.lossless_json,
    Minter.State.lossless_json, Cep78.InstallArgs.lossless_json, Cep78.Variables.lossless_json,
    Cep78.CollectionInfo.lossless_json, Cep18.InstallArgs.lossless_json,
    fun _ _ _ => ContractAddress.reads_of_parse⟩

/-- A switch that is set to off is written, one that is not set is not. An address is read back,
though the texts that it was read from are not its own. -/
theorem records_are_written_without_loss_of_off :
    let contract := "contract-ABABABABABABABABABABABABABABABABABABABABABABABABABABABABABABABAB"
    let package := "hash-0000000000000000000000000000000000000000000000000000000000000000"
    let a : ContractAddress :=
      ⟨⟨.contract, ⟨List.replicate 32 0xab, rfl⟩⟩, ⟨.contract, default⟩⟩
    Has (Member.written Minter.ConfigUpdate.layout.fields { allowMint := some false }) "allowMint"
      (.bool false) ∧
    Absent (Member.written Minter.ConfigUpdate.layout.fields { allowMint := some false })
      "onlyWhitelist" ∧
    ContractAddress.parse contract package = .ok a ∧ a.contractHash.text ≠ contract ∧
    Reads ContractAddress.readJson a.toJson a := by
  intro contract package a
  obtain ⟨-, -, hUpdate, -, -, -, -, -, -, hAddress⟩ := records_are_written_without_loss
  have hParsed : ContractAddress.parse contract package = .ok a :=
    Outcome.eq_ok_of_toOption (by decide)
  refine ⟨?_, ?_, hParsed, by decide, hAddress contract package a hParsed⟩
  · exact hUpdate.set Bool "allowMint" .bool Minter.ConfigUpdate.allowMint
      (by simp [Minter.ConfigUpdate.layout, Layout.fields]) _ _ rfl
  · exact hUpdate.unset Bool "onlyWhitelist" .bool Minter.ConfigUpdate.onlyWhitelist
      (by simp [Minter.ConfigUpdate.layout, Layout.fields]) _ rfl

end Mintage
