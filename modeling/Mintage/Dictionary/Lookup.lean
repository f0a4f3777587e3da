import Mintage.Dictionary.Address
import Mintage.Node.Request

/-!
# Looking up dictionary items

A lookup that reached the node either found an item or found that there is none. Both are results:
that there is no item is never an error, and an error never means that there is no item.
-/

namespace Mintage

/-- The result of a lookup that reached the node. -/
inductive Lookup (α : Type) where
  | found (value : α)
  | notFound
deriving DecidableEq

namespace Lookup

variable {α : Type}

/-- The value that was found. -/
def found? : Lookup α → Option α
  | found value => some value
  | notFound => none

/-- Whether a value was found. -/
def isFound (l : Lookup α) : Bool := l.found?.isSome

/-- The value that was found, or `default` if there is none. -/
def getD (l : Lookup α) (default : α) : α := l.found?.getD default

end Lookup

/-- Why a lookup has no result. -/
inductive DictionaryError where
  | queryFailed (reason : NodeError)
  | decodeMismatch (reason : CLValue.Error)

/-- The wording of an error. -/
def DictionaryError.message : DictionaryError → String
  | .queryFailed reason => "Dictionary query failed: " ++ reason.message
  | .decodeMismatch reason => "Could not decode dictionary item: " ++ reason.message

namespace Dictionary

variable {α : Type}

/-- What the answer to a query of an item says, where items are read by `decode`. -/
def outcome (decode : CLValue → Except CLValue.Error α) :
    Except QueryError CLValue → Except DictionaryError (Lookup α)
  | .ok value =>
    match decode value with
    | .ok a => .ok (.found a)
    | .error reason => .error (.decodeMismatch reason)
  | .error .notFound => .ok .notFound
  | .error (.failed reason) => .error (.queryFailed reason)

/-- Looks up an item of a dictionary of a contract. -/
def lookup (contract : Identity) (dictionary itemKey : String)
    (decode : CLValue → Except CLValue.Error α) :
    NodeDialogue (Except DictionaryError (Lookup α)) :=
  .ask (.dictionaryItem contract dictionary itemKey) fun answer => .done (outcome decode answer)

end Dictionary

end Mintage
