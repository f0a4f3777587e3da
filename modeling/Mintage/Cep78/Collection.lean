import Mintage.Cep78.Info
import Mintage.Cep78.Variables
import Mintage.Client

/-!
# Collections

A client of a CEP-78 collection builds the deploys that install it and update its variables, and
reads its configuration, balances, owners and metadata.
-/

namespace Mintage.Cep78

/-- A client of a collection. -/
structure Collection where
  client : ContractClient
  payments : PaymentTable

namespace Collection

/-- The client of the collection that a configuration names. -/
def ofConfig (c : NetworkConfig) : Collection :=
  { client := { assembler := c.assembler, bound := c.contracts.cep78 }, payments := c.payments }

/-! ## Deploys -/

/-- The deploy that installs a collection. -/
def install (c : Collection) (now : Timestamp) (wasm : Bytes) (args : InstallArgs)
    (signers : List Signer) : Except ClientError SignedDeploy := do
  let motes ← c.payments.cep78Install.toMotes.mapError .config
  c.client.install now wasm (← args.toRuntimeArgs.mapError .argument) motes signers

/-- The deploy that updates variables. Only the installer may do this. -/
def setVariables (c : Collection) (now : Timestamp) (v : Variables) (signers : List Signer) :
    Except ClientError SignedDeploy := do
  let motes ← c.payments.cep78SetVariables.toMotes.mapError .config
  let args ← v.update.toRuntimeArgs.mapError .argument
  c.client.callEntryPoint now "set_variables" args motes signers

/-- The warnings about an update of variables, which arise once its payment is known. -/
def setVariablesWarnings (c : Collection) (v : Variables) : List Warning :=
  match c.payments.cep78SetVariables.toMotes? with
  | some _ => if v.dropsAcl then [.aclNotSent] else []
  | none => []

/-! ## Reading -/

/-- The name of the collection. -/
def collectionName (c : Collection) : NodeAction String :=
  c.client.queryNamedValue ["collection_name"] (CLValue.as .string)

/-- The symbol of the collection. -/
def collectionSymbol (c : Collection) : NodeAction String :=
  c.client.queryNamedValue ["collection_symbol"] (CLValue.as .string)

/-- The number of tokens that may be minted in all. -/
def totalTokenSupply (c : Collection) : NodeAction UInt64 :=
  c.client.queryNamedValue ["total_token_supply"] (CLValue.as .u64)

/-- The number of tokens minted so far. -/
def numberOfMintedTokens (c : Collection) : NodeAction UInt64 :=
  c.client.queryNamedValue ["number_of_minted_tokens"] (CLValue.as .u64)

/-- The format of the metadata. -/
def nftMetadataKind (c : Collection) : NodeAction MetadataKind :=
  c.client.queryNamedValue ["nft_metadata_kind"] (CLValue.as (.mode .metadataKind))

/-- A mode of the collection, which is kept under a name. -/
def mode (c : Collection) (m : Mode) (name : String) : NodeAction m.Value :=
  c.client.queryNamedValue [name] (CLValue.as (.mode m))

/-- Whether minting is allowed. -/
def allowMinting (c : Collection) : NodeAction Bool :=
  c.client.queryNamedValue ["allow_minting"] (CLValue.as .bool)

/-- Name, supply and configuration. -/
def info (c : Collection) : NodeAction CollectionInfo :=
  (CollectionInfo.mk <$> Snapshot.mk c.collectionName
    <*> .mk c.collectionSymbol
    <*> .mk c.totalTokenSupply
    <*> .mk c.numberOfMintedTokens
    <*> .mk c.allowMinting
    <*> .mk (c.mode .ownership "ownership_mode")
    <*> .mk (c.mode .nftKind "nft_kind")
    <*> .mk (c.mode .holder "holder_mode")
    <*> .mk (c.mode .whitelist "whitelist_mode")
    <*> .mk (c.mode .minting "minting_mode")
    <*> .mk c.nftMetadataKind
    <*> .mk (c.mode .identifier "identifier_mode")
    <*> .mk (c.mode .metadataMutability "metadata_mutability")
    <*> .mk (c.mode .burn "burn_mode")
    <*> .mk (c.mode .ownerReverseLookup "reporting_mode")).action

/-- Whether an identity is on the list of those who may mint. One without an entry is not. -/
def isContractWhitelisted (c : Collection) (i : Identity) : NodeAction Bool := do
  return (← c.client.queryDictionary "acl_whitelist" i (CLValue.as .bool)).getD false

/-- Whether the account of a key is on the list of those who may mint. -/
def isAccountWhitelisted (c : Collection) (account : PublicKey) : NodeAction Bool :=
  c.isContractWhitelisted account.identity

/-- The number of tokens of an owner. One without an entry never had any. -/
def balanceOf (c : Collection) (owner : Identity) : NodeAction UInt64 := do
  return (← c.client.queryDictionary "balances" owner (CLValue.as .u64)).getD 0

/-- The owner of a token. -/
def ownerOf (c : Collection) (token : TokenIdentifier) : NodeAction (Lookup Identity) :=
  c.client.queryItem "token_owners" token.itemKey CLValue.asIdentity

/-- The metadata of a token in a format. -/
def metadataOfKind (c : Collection) (token : TokenIdentifier) (kind : MetadataKind) :
    NodeAction (Lookup String) :=
  c.client.queryItem kind.dictionaryName token.itemKey (CLValue.as .string)

/-- The metadata of a token in the format of the collection. -/
def metadataOf (c : Collection) (token : TokenIdentifier) : NodeAction (Lookup String) := do
  c.metadataOfKind token (← c.nftMetadataKind)

end Collection

end Mintage.Cep78
