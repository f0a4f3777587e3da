import Mintage.Cep18.Install
import Mintage.Client

/-!
# Fungible tokens

A client of a CEP-18 token builds the deploys that install it, mint and approve, and reads its named
keys and balances.
-/

namespace Mintage.Cep18

/-- A client of a token. -/
structure Token where
  client : ContractClient
  payments : PaymentTable

namespace Token

/-- The client of the token that a configuration names. -/
def ofConfig (c : NetworkConfig) : Token :=
  { client := { assembler := c.assembler, bound := c.contracts.cep18 }, payments := c.payments }

/-! ## Deploys -/

/-- The deploy that installs a token. -/
def install (t : Token) (now : Timestamp) (wasm : Bytes) (args : InstallArgs)
    (signers : List Signer) : Except ClientError SignedDeploy := do
  let motes ← t.payments.cep18Install.toMotes.mapError .config
  t.client.install now wasm (← args.toRuntimeArgs.mapError .argument) motes signers

/-- The deploy that calls an entry point with an account or contract and an amount. -/
def callWithAmount (t : Token) (now : Timestamp) (entryPoint targetName : String)
    (target : Identity) (amount : U256) (signers : List Signer) :
    Except ClientError SignedDeploy := do
  let args ← (RuntimeArgs.ofList
    [.of targetName .key target.toKey, .of "amount" .u256 amount]).mapError .argument
  let motes ← t.payments.cep18Call.toMotes.mapError .config
  t.client.callEntryPoint now entryPoint args motes signers

/-- The deploy that mints for an owner. Only the installer may do this. -/
def mint (t : Token) (now : Timestamp) (owner : Identity) (amount : U256)
    (signers : List Signer) : Except ClientError SignedDeploy :=
  t.callWithAmount now "mint" "owner" owner amount signers

/-- The deploy that lets a spender transfer an amount of the sender's tokens. -/
def approve (t : Token) (now : Timestamp) (spender : Identity) (amount : U256)
    (signers : List Signer) : Except ClientError SignedDeploy :=
  t.callWithAmount now "approve" "spender" spender amount signers

/-! ## Reading -/

/-- The name of the token. -/
def name (t : Token) : NodeAction String :=
  t.client.queryNamedValue ["name"] (CLValue.as .string)

/-- The symbol of the token. -/
def symbol (t : Token) : NodeAction String :=
  t.client.queryNamedValue ["symbol"] (CLValue.as .string)

/-- The number of decimal places of amounts. -/
def decimals (t : Token) : NodeAction UInt8 :=
  t.client.queryNamedValue ["decimals"] (CLValue.as .u8)

/-- What all owners have together. -/
def totalSupply (t : Token) : NodeAction U256 :=
  t.client.queryNamedValue ["total_supply"] (CLValue.as .u256)

/-- What an owner has. One without an entry never had any. -/
def balanceOf (t : Token) (owner : Identity) : NodeAction U256 := do
  return (← t.client.queryItem "balances" owner.balanceKey (CLValue.as .u256)).getD .zero

end Token

end Mintage.Cep18
