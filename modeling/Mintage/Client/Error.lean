import Mintage.Deploy.Basic
import Mintage.Network.Config
import Mintage.Node.Error

/-!
# Errors of clients

What can go wrong when a client builds a deploy, submits it, or reads what a contract stores.
-/

namespace Mintage

/-- Why an operation of a client failed. -/
inductive ClientError where
  | unbound
  | alreadyBound (bound requested : ContractAddress)
  | argument (reason : RuntimeArgs.DuplicateArgument)
  | malformedIdentity (reason : Identity.Error)
  /-- The contract has no named value at the path. -/
  | notFound (path : List String)
  | decodeMismatch (reason : CLValue.Error)
  | network (reason : NodeError)
  | sign (reason : SignError)
  | invalidWhitelist (accounts values : Nat)
  | costOverflow (count : UInt64)
  | config (reason : ConfigError)

namespace ClientError

/-- The wording of an error. -/
def message : ClientError → String
  | unbound => "The client is not bound to a contract."
  | alreadyBound bound requested =>
    s!"The client is bound to {bound} and cannot be bound to {requested}."
  | argument reason => "Invalid arguments: " ++ reason.message
  | malformedIdentity reason => "Invalid identity: " ++ reason.message
  | notFound path => "Named value `" ++ "/".intercalate path ++ "` not found."
  | decodeMismatch reason => "Response was not as expected: " ++ reason.message
  | network reason => "Network error: " ++ reason.message
  | sign reason => "Could not sign deploy: " ++ reason.message
  | invalidWhitelist accounts values =>
    s!"Whitelist update has {accounts} accounts but {values} values."
  | costOverflow count => s!"The cost of minting {count} tokens overflows."
  | config reason => "Invalid network configuration: " ++ reason.message

end ClientError

end Mintage
