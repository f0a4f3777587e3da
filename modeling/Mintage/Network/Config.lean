import Mintage.ContractAddress
import Mintage.Deploy.Assembler
import Mintage.File
import Mintage.Network.Payment

/-!
# Networks and their configuration

A network is chosen once, by one of its names or by a configuration file. Its configuration says
where the node is, which contracts are deployed and what deploys cost.
-/

namespace Mintage

/-- A network with a configuration of its own. -/
inductive Network where
  | localNet
  | testNet
  | mainNet
deriving DecidableEq

namespace Network

/-- The name of the chain, which is also the text of the network. -/
def chainName : Network → String
  | localNet => "casper-net-1"
  | testNet => "casper-test"
  | mainNet => "casper"

instance : ToString Network := ⟨chainName⟩

/-- The environment variable that holds the key to the hosted node. -/
def apiKeyVariable? : Network → Option String
  | localNet => none
  | testNet => some "VALIDATION_CLOUD_KEY"
  | mainNet => some "VALIDATION_CLOUD_KEY_MAIN"

/-- The names of the networks. -/
def names : List (String × Network) :=
  [("casper-net-1", localNet), ("local", localNet), ("casper-test", testNet), ("test", testNet),
    ("testnet", testNet), ("casper", mainNet), ("main", mainNet), ("mainnet", mainNet)]

/-- Written as the name of the chain. -/
def toJson (n : Network) : Json := .str n.chainName

/-- Reads the name of a chain. -/
def readJson : Json.Reader Network :=
  Json.Draft.readName ([localNet, testNet, mainNet].map fun n => (n.chainName, n))

instance : ToJson Network := ⟨toJson⟩

instance : FromJson Network := ⟨readJson⟩

end Network

/-- What can be wrong with a configuration. -/
inductive ConfigError where
  | unknownNetwork (name : String)
  | missingApiKey (network : Network)
  | malformedAddress (reason : Identity.Error)
  | invalidPayment (amount : Decimal)
  | unreadable (reason : File.Error)
  | notJson (reason : Json.ReadError)

/-- The wording of an error. -/
def ConfigError.message : ConfigError → String
  | .unknownNetwork name => "Unknown network `" ++ name ++ "`."
  | .missingApiKey network => s!"The node of {network} requires an API key."
  | .malformedAddress reason => "Invalid contract address: " ++ reason.message
  | .invalidPayment amount => s!"Payment of {amount} CSPR is not a whole number of motes."
  | .unreadable reason => "Could not read the configuration file: " ++ reason.message
  | .notJson reason => "Invalid configuration file: " ++ reason.message

/-- The network with a name. -/
def Network.parse (s : String) : Except ConfigError Network :=
  match names.lookup s with
  | some n => .ok n
  | none => .error (.unknownNetwork s)

/-- Converts an amount to motes. -/
def Decimal.toMotes (d : Decimal) : Except ConfigError U512 :=
  match d.toMotes? with
  | some motes => .ok motes
  | none => .error (.invalidPayment d)

/-- The addresses of the contracts, where they are known. -/
structure DeployedContracts where
  minter : Option ContractAddress := none
  cep78 : Option ContractAddress := none
  cep18 : Option ContractAddress := none
deriving DecidableEq

namespace DeployedContracts

/-- The addresses by the names of the contracts. -/
def named (c : DeployedContracts) : List (String × Option ContractAddress) :=
  [("minter", c.minter), ("cep78", c.cep78), ("cep18", c.cep18)]

/-- Written as an object of the known addresses. -/
def toJson (c : DeployedContracts) : Json :=
  Json.members (c.named.map fun (name, address) =>
    Json.member? name ContractAddress.toJson address)

/-- How to read addresses. -/
def record : Json.Record DeployedContracts :=
  mk <$> .optionalTail "minter" ContractAddress.readJson
    <*> .optionalTail "cep78" ContractAddress.readJson
    <*> .optionalTail "cep18" ContractAddress.readJson

/-- Reads the known addresses. -/
def readJson : Json.Reader DeployedContracts := record.read "struct DeployedContracts"

instance : ToJson DeployedContracts := ⟨toJson⟩

instance : FromJson DeployedContracts := ⟨readJson⟩

end DeployedContracts

/-- All that depends on the network. -/
structure NetworkConfig where
  network : Network
  /-- Where the node takes requests. -/
  nodeAddress : String
  contracts : DeployedContracts
  payments : PaymentTable

namespace NetworkConfig

/-- A contract address of two hashes. -/
def address (contract package : Nat) : ContractAddress :=
  ⟨⟨.contract, .ofNat 32 contract⟩, ⟨.contract, .ofNat 32 package⟩⟩

/-- The contracts that are known on a network. -/
def knownContracts : Network → DeployedContracts
  | .localNet =>
    { minter := some (address
        0x1b349329cda30830cb64564c1ee534c6dfe58c8e149886f3541c6c6f547c25fd
        0xfafd7ffb4edccaa4565192075ac81fdeeffe8690636e2ef211f4cc1a28a64725)
      cep78 := some (address
        0x100f84e65b6918d896c5fc45870551e5373663107dc361e3356ac6997a3e7700
        0x8f86deb1ac694d81270becf7301f4f073704b133acbf0561f2fe6278aa813a3c)
      cep18 := some (address
        0x80167344b3d4e90259ecd9335cbd229ee4949cc98e46a1ca4b7f4286c0a17704
        0x9e27c61a5f0fe5cbcf4a487610fbc03b3fb8b33c671604d3dbe172a4d500bc26) }
  | .testNet =>
    { minter := some (address
        0xcdd3e3c7f4d54795d25abbf77c217e36b8550ff941a316df0898724b98e644ef
        0xecf3bf7a4766c0c9e639b47fef132e482377227904e3882ed4b03b588420ed8d)
      cep78 := some (address
        0x54feec16c4dfeaffd3dcbda008e9c820db69c22d4717c91f5937fd25bcc3d4ad
        0xa12aee42d59ce868fd2d6d49c77f281fc7f7281151edd569b4511f0af4db8f42) }
  | .mainNet => {}

/-- The address of the node of a network. Hosted nodes need a key, which is part of the address. -/
def knownNode (network : Network) (apiKey : Option String) : Except ConfigError String :=
  match network, apiKey with
  | .localNet, _ => .ok "http://localhost:11101"
  | .testNet, some key => .ok ("https://testnet.casper.validationcloud.io/v1/" ++ key)
  | .mainNet, some key => .ok ("https://mainnet.casper.validationcloud.io/v1/" ++ key)
  | network, none => .error (.missingApiKey network)

/-- The configuration that is known of a network. -/
def forNetwork (network : Network) (apiKey : Option String) : Except ConfigError NetworkConfig := do
  return {
    network
    nodeAddress := ← knownNode network apiKey
    contracts := knownContracts network
    payments := {} }

/-- The assembler of deploys for the chain. -/
def assembler (c : NetworkConfig) : DeployAssembler := { chainName := c.network.chainName }

/-- Written as an object of the fields. -/
def toJson (c : NetworkConfig) : Json :=
  .obj [("network", c.network.toJson), ("nodeAddress", .str c.nodeAddress),
    ("contracts", c.contracts.toJson), ("payments", c.payments.toJson)]

/-- How to read a configuration. No contracts are known and deploys cost the usual amounts, unless
it says otherwise. -/
def record : Json.Record NetworkConfig :=
  mk <$> .required "network" Network.readJson
    <*> .required "nodeAddress" Json.Draft.readString
    <*> .defaulted "contracts" DeployedContracts.readJson {}
    <*> .defaulted "payments" PaymentTable.readJson {}

/-- Reads a configuration. -/
def readJson : Json.Reader NetworkConfig := record.read "struct NetworkConfig"

instance : ToJson NetworkConfig := ⟨toJson⟩

instance : FromJson NetworkConfig := ⟨readJson⟩

/-- The configuration in a file. -/
def ofFile (file : File) : Except ConfigError NetworkConfig :=
  match file with
  | .error reason => .error (.unreadable reason)
  | .ok bytes =>
    match Json.readBytes readJson bytes with
    | .ok c => .ok c
    | .error reason => .error (.notJson reason)

end NetworkConfig

end Mintage
