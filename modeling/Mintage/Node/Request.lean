import Mintage.Deploy.Basic
import Mintage.Dialogue
import Mintage.Node.Error

/-!
# What is asked of a node

Clients need three things of a node: that it takes a deploy, and that it tells values which a
contract stores, under its named keys or in its dictionaries.
-/

namespace Mintage

/-- A request to a node. -/
inductive NodeRequest where
  /-- Takes a deploy and tells the hash under which it is known. -/
  | submit (deploy : SignedDeploy)
  /-- Tells the value at a path under the named keys of a contract. -/
  | namedValue (contract : Identity) (path : List String)
  /-- Tells an item of a dictionary of a contract. -/
  | dictionaryItem (contract : Identity) (dictionary itemKey : String)

/-- The answer to a request. -/
abbrev NodeRequest.Answer : NodeRequest → Type
  | submit _ => Except NodeError Digest
  | namedValue _ _ => Except QueryError CLValue
  | dictionaryItem _ _ _ => Except QueryError CLValue

/-- A dialogue with a node. -/
abbrev NodeDialogue := Dialogue NodeRequest NodeRequest.Answer

end Mintage
