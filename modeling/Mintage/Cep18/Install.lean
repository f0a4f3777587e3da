import Mintage.RuntimeArgs

/-!
# Installing a fungible token
-/

namespace Mintage.Cep18

/-- Arguments of a token's installation. -/
structure InstallArgs where
  name : String
  symbol : String
  decimals : UInt8
  /-- What is credited to the installing account. -/
  totalSupply : U256
  /-- Whether the installer may mint and burn later. -/
  enableMintAndBurn : Bool
deriving DecidableEq

namespace InstallArgs

/-- The arguments, in order. The contract takes the switch as a number. -/
def arguments (a : InstallArgs) : List NamedArg :=
  [.of "name" .string a.name, .of "symbol" .string a.symbol, .of "decimals" .u8 a.decimals,
    .of "total_supply" .u256 a.totalSupply,
    .of "enable_mint_burn" .u8 (if a.enableMintAndBurn then 1 else 0)]

/-- The arguments of the install code. -/
def toRuntimeArgs (a : InstallArgs) : Except RuntimeArgs.DuplicateArgument RuntimeArgs :=
  RuntimeArgs.ofList a.arguments

/-- Written as an object of the fields. -/
def toJson (a : InstallArgs) : Json :=
  .obj [("name", .str a.name), ("symbol", .str a.symbol), ("decimals", .ofNat a.decimals.toNat),
    ("totalSupply", a.totalSupply.toJson), ("enableMintAndBurn", .bool a.enableMintAndBurn)]

/-- How to read the arguments. -/
def record : Json.Record InstallArgs :=
  mk <$> .required "name" Json.Draft.readString
    <*> .required "symbol" Json.Draft.readString
    <*> .required "decimals" Json.Draft.readU8
    <*> .required "totalSupply" Bounded.readJson
    <*> .required "enableMintAndBurn" Json.Draft.readBool

/-- Reads the arguments. -/
def readJson : Json.Reader InstallArgs := record.read "struct Cep18InstallArgs"

instance : ToJson InstallArgs := ⟨toJson⟩

instance : FromJson InstallArgs := ⟨readJson⟩

end InstallArgs

end Mintage.Cep18
