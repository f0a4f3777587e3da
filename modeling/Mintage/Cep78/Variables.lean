import Mintage.Cep78.Install

/-!
# Updating the variables of a collection

A caller says which variables of a collection shall change. The contract takes two sorts of updates:
one of the list of those who may mint, and one of all other variables. The latter comes first, and
then the list is not sent.
-/

namespace Mintage.Cep78

/-- Variables that shall change. -/
structure Variables where
  allowMinting : Option Bool := none
  /-- Contracts that may mint, if minting is up to the installer. -/
  contractWhitelist : Option (List Identity) := none
  /-- Accounts and contracts that may mint, if minting is open to a list of them. -/
  aclWhitelist : Option (List Identity) := none
deriving DecidableEq

/-- An update that the contract takes. -/
inductive VariablesUpdate where
  /-- Sets whether minting is allowed and which contracts may mint. -/
  | standard (allowMinting : Option Bool) (contractWhitelist : Option (List Identity))
  /-- Replaces the list of accounts and contracts that may mint. -/
  | aclWhitelist (identities : List Identity)
deriving DecidableEq

namespace VariablesUpdate

/-- The arguments, in order; a variable that is not set has none. -/
def arguments : VariablesUpdate → List NamedArg
  | standard allowMinting contractWhitelist =>
    NamedArg.ofOption "allow_minting" .bool allowMinting
      ++ NamedArg.ofOption "contract_whitelist" (.list (.bytes 32))
        (contractWhitelist.map fun contracts => contracts.map (·.hash))
  | aclWhitelist identities => [.of "acl_whitelist" (.list .key) (keysOf identities)]

/-- The arguments of the entry point. -/
def toRuntimeArgs (u : VariablesUpdate) : Except RuntimeArgs.DuplicateArgument RuntimeArgs :=
  RuntimeArgs.ofList u.arguments

end VariablesUpdate

namespace Variables

/-- Whether the list of those who may mint is given, but not sent. -/
def dropsAcl (v : Variables) : Bool :=
  v.aclWhitelist.isSome && (v.allowMinting.isSome || v.contractWhitelist.isSome)

/-- The update that is sent. -/
def update (v : Variables) : VariablesUpdate :=
  match v.aclWhitelist with
  | some identities =>
    if v.dropsAcl then .standard v.allowMinting v.contractWhitelist else .aclWhitelist identities
  | none => .standard v.allowMinting v.contractWhitelist

/-- Written as an object of the variables that are set. -/
def toJson (v : Variables) : Json :=
  Json.members [
    Json.member? "allowMinting" Json.bool v.allowMinting,
    Json.member? "contractWhitelist" Identity.listToJson v.contractWhitelist,
    Json.member? "aclWhitelist" Identity.listToJson v.aclWhitelist]

/-- How to read variables. -/
def record : Json.Record Variables :=
  mk <$> .optionalTail "allowMinting" Json.Draft.readBool
    <*> .optionalTail "contractWhitelist" (Json.Draft.readList Identity.readJson)
    <*> .optionalTail "aclWhitelist" (Json.Draft.readList Identity.readJson)

/-- Reads variables. -/
def readJson : Json.Reader Variables := record.read "struct Cep78Variables"

instance : ToJson Variables := ⟨toJson⟩

instance : FromJson Variables := ⟨readJson⟩

end Variables

end Mintage.Cep78
