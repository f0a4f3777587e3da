import Mintage.Client
import Mintage.Minter.Args
import Mintage.Minter.State
import Mintage.Minter.Whitelist

/-!
# Minters

A client of a minter builds the deploys that install, upgrade and call it, each for the payment that
is configured, and reads its named keys and its whitelist.
-/

namespace Mintage

/-- A client of a minter. -/
structure Minter where
  client : ContractClient
  payments : PaymentTable

namespace Minter

/-- The client of the minter that a configuration names. -/
def ofConfig (c : NetworkConfig) : Minter :=
  { client := { assembler := c.assembler, bound := c.contracts.minter }, payments := c.payments }

/-! ## Deploys -/

/-- The deploy that installs code for a payment. -/
def installCode (m : Minter) (now : Timestamp) (wasm : Bytes)
    (args : Except RuntimeArgs.DuplicateArgument RuntimeArgs) (payment : Decimal)
    (signers : List Signer) : Except ClientError SignedDeploy := do
  let motes ← payment.toMotes.mapError .config
  m.client.install now wasm (← args.mapError .argument) motes signers

/-- The deploy that calls an entry point for a payment. -/
def call (m : Minter) (now : Timestamp) (entryPoint : String)
    (args : Except ClientError RuntimeArgs) (payment : Decimal) (signers : List Signer) :
    Except ClientError SignedDeploy := do
  let args ← args
  let motes ← payment.toMotes.mapError .config
  m.client.callEntryPoint now entryPoint args motes signers

/-- The deploy that installs a minter. -/
def install (m : Minter) (now : Timestamp) (wasm : Bytes) (args : InstallArgs)
    (signers : List Signer) : Except ClientError SignedDeploy :=
  m.installCode now wasm args.toRuntimeArgs m.payments.minterInstall signers

/-- The deploy that installs another version of the minter. -/
def upgrade (m : Minter) (now : Timestamp) (wasm : Bytes) (args : UpgradeArgs)
    (signers : List Signer) : Except ClientError SignedDeploy :=
  m.installCode now wasm args.toRuntimeArgs m.payments.minterInstall signers

/-- The deploy that changes the fields of the configuration that an update sets. -/
def setConfig (m : Minter) (now : Timestamp) (update : ConfigUpdate) (signers : List Signer) :
    Except ClientError SignedDeploy :=
  m.call now "set_config" (update.toRuntimeArgs.mapError .argument) m.payments.minterSetConfig
    signers

/-- The deploy that mints without a fee. -/
def freeMint (m : Minter) (now : Timestamp) (args : FreeMintArgs) (signers : List Signer) :
    Except ClientError SignedDeploy :=
  m.call now "free_mint" (args.toRuntimeArgs.mapError .argument) m.payments.minterFreeMint signers

/-- The deploy that runs session code which pays the fee and mints. The client need not be bound:
the arguments name the minter. -/
def nativeMint (m : Minter) (now : Timestamp) (wasm : Bytes) (args : NativeMintArgs)
    (signers : List Signer) : Except ClientError SignedDeploy :=
  m.installCode now wasm args.toRuntimeArgs m.payments.minterNativeMint signers

/-- The deploy that puts accounts on the whitelist or takes them off. Other accounts keep their
status. -/
def setWhitelist (m : Minter) (now : Timestamp) (entries : List WhitelistEntry)
    (signers : List Signer) : Except ClientError SignedDeploy :=
  m.call now "set_whitelist" (whitelistArgs entries) m.payments.minterSetWhitelist signers

/-- The deploy that replaces the whole whitelist. -/
def resetWhitelist (m : Minter) (now : Timestamp) (entries : List WhitelistEntry)
    (signers : List Signer) : Except ClientError SignedDeploy :=
  m.call now "reset_whitelist" (whitelistArgs entries) m.payments.minterSetWhitelist signers

/-! ## Reading -/

/-- The administrator. -/
def admin (m : Minter) : NodeAction Identity :=
  m.client.queryNamedValue ["admin"] CLValue.asIdentity

/-- The account that receives the fees. -/
def fundManager (m : Minter) : NodeAction Identity :=
  m.client.queryNamedValue ["fund_manager"] CLValue.asIdentity

/-- The package of the collection. -/
def cep78PackageHash (m : Minter) : NodeAction Identity :=
  m.client.queryNamedValue ["cep78_package_hash"] CLValue.asIdentity

/-- The fee for a token, in motes. -/
def mintFee (m : Minter) : NodeAction U256 :=
  m.client.queryNamedValue ["mint_fee"] (CLValue.as .u256)

/-- The number of tokens minted so far. -/
def mintCount (m : Minter) : NodeAction UInt64 :=
  m.client.queryNamedValue ["mint_count"] (CLValue.as .u64)

/-- The number of tokens that may be minted in all. -/
def maxMint (m : Minter) : NodeAction UInt64 :=
  m.client.queryNamedValue ["max_mint"] (CLValue.as .u64)

/-- Whether only accounts on the whitelist may mint. -/
def onlyWhitelist (m : Minter) : NodeAction Bool :=
  m.client.queryNamedValue ["only_whitelist"] (CLValue.as .bool)

/-- Whether tokens may be minted. -/
def allowMint (m : Minter) : NodeAction Bool :=
  m.client.queryNamedValue ["allow_mint"] (CLValue.as .bool)

/-- The whole state. -/
def state (m : Minter) : NodeAction State :=
  (State.mk <$> Snapshot.mk m.admin <*> .mk m.fundManager <*> .mk m.cep78PackageHash
    <*> .mk m.mintFee <*> .mk m.mintCount <*> .mk m.maxMint <*> .mk m.onlyWhitelist
    <*> .mk m.allowMint).action

/-- The fee for a number of tokens, if it is `fee` for one. -/
def costOf (fee : U256) (count : UInt64) : Except ClientError U256 :=
  match fee.checkedMul (.ofUInt64 count) with
  | some cost => .ok cost
  | none => .error (.costOverflow count)

/-- The fee for a number of tokens, in motes. -/
def mintCost (m : Minter) (count : UInt64) : NodeAction U256 := do
  NodeAction.ofExcept (costOf (← m.mintFee) count)

/-- The arguments for minting a number of tokens for the present fee. -/
def nativeMintArgs (m : Minter) (nftOwner : Identity) (count : UInt64) :
    NodeAction NativeMintArgs := do
  let address ← NodeAction.ofExcept m.client.address
  let cost ← m.mintCost count
  match Bounded.ofNat? cost.val with
  | some amount => return ⟨nftOwner, count, address.packageHash, amount⟩
  | none => throw (.costOverflow count)

/-- The entry of an account on the whitelist. -/
def whitelistEntry (m : Minter) (account : Identity) : NodeAction (Lookup Bool) :=
  m.client.queryDictionary "whitelist_dict" account (CLValue.as .bool)

/-- Whether an account is on the whitelist. One without an entry is not. -/
def isWhitelisted (m : Minter) (account : Identity) : NodeAction Bool := do
  return (← m.whitelistEntry account).getD false

end Minter

end Mintage
