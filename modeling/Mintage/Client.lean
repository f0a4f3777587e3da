import Mintage.Client.Error
import Mintage.Dictionary.Lookup

/-!
# Clients of a contract

A client builds deploys for one contract and reads what that contract stores. It starts out bound to
an address or without one; once it is bound, the address never changes. An unbound client installs
code, but neither calls a contract nor reads from one.

Building deploys is a function. Submitting them and reading are dialogues with a node.
-/

namespace Mintage

/-- A dialogue with a node that ends with a value or an error. -/
abbrev NodeAction := ExceptT ClientError NodeDialogue

namespace NodeAction

variable {α β : Type}

/-- The action that asks a node nothing. -/
def ofExcept (e : Except ClientError α) : NodeAction α := ExceptT.mk (.done e)

/-- The action of a single question. -/
def request (q : NodeRequest) (outcome : q.Answer → Except ClientError α) : NodeAction α :=
  ExceptT.mk (.ask q fun answer => .done (outcome answer))

end NodeAction

/-- Independent actions, all of which are held even if one of them fails. Their result is that of
the first one that fails, or the values of all. -/
structure Snapshot (α : Type) where
  action : NodeAction α

namespace Snapshot

variable {α β : Type}

/-- Holds two actions one after the other, whether or not the first one fails. -/
def seq (f : Snapshot (α → β)) (x : Snapshot α) : Snapshot β where
  action := ExceptT.mk do
    let f ← f.action.run
    let x ← x.action.run
    return f <*> x

instance : Functor Snapshot where
  map f x := ⟨f <$> x.action⟩

instance : Seq Snapshot where
  seq f x := seq f (x ())

end Snapshot

/-- What is said about an operation that did not fail. -/
inductive Warning where
  /-- The node knows a deploy under another hash. -/
  | otherHash (expected reported : Digest)
  /-- A list of accounts was given and not sent. -/
  | aclNotSent
deriving DecidableEq

/-- The wording of a warning. -/
def Warning.message : Warning → String
  | .otherHash expected reported =>
    "Node reported a different deploy hash than the one computed locally. expected=" ++
      expected.text ++ " reported=" ++ reported.text
  | .aclNotSent => "The ACL whitelist is not updated together with other variables."

/-- A client of a contract. -/
structure ContractClient where
  assembler : DeployAssembler
  /-- The contract to which the client is bound. -/
  bound : Option ContractAddress := none

namespace ContractClient

variable {α : Type}

/-- A change in place. It may fail; what it has changed until then stays changed. -/
abbrev Change := ExceptT ClientError (StateM ContractClient)

/-- Binds the client to a contract. To bind it again is an error, unless it is the same one. -/
def Change.bindTo (requested : ContractAddress) : Change Unit := do
  match (← get).bound with
  | none => modify fun c => { c with bound := some requested }
  | some bound => if bound ≠ requested then throw (.alreadyBound bound requested)

/-- The client that is bound to a contract. -/
def bind (c : ContractClient) (requested : ContractAddress) : Except ClientError ContractClient :=
  match (Change.bindTo requested).run.run c with
  | (.ok (), bound) => .ok bound
  | (.error e, _) => .error e

/-- The contract to which the client is bound. -/
def address (c : ContractClient) : Except ClientError ContractAddress :=
  match c.bound with
  | none => .error .unbound
  | some address => .ok address

/-! ## Deploys -/

/-- The deploy of an item at the time `now`, sent by the first signer and signed by all. -/
def signed (c : ContractClient) (now : Timestamp) (session : DeployItem) (payment : U512)
    (signers : List Signer) : Except ClientError SignedDeploy :=
  match signers with
  | [] => .error (.sign .missingSignature)
  | first :: _ =>
    match (c.assembler.build now session payment first.publicKey).sign signers with
    | .ok d => .ok d
    | .error reason => .error (.sign reason)

/-- The deploy that runs wasm with arguments. -/
def install (c : ContractClient) (now : Timestamp) (wasm : Bytes) (args : RuntimeArgs)
    (payment : U512) (signers : List Signer) : Except ClientError SignedDeploy :=
  c.signed now (.moduleBytes wasm args) payment signers

/-- The deploy that calls an entry point of the contract. -/
def callEntryPoint (c : ContractClient) (now : Timestamp) (entryPoint : String)
    (args : RuntimeArgs) (payment : U512) (signers : List Signer) :
    Except ClientError SignedDeploy := do
  let address ← c.address
  c.signed now (DeployAssembler.call address.contractHash entryPoint args) payment signers

/-- Submits a deploy. The result is the hash under which the node knows it. -/
def submit (d : SignedDeploy) : NodeAction Digest := .request (.submit d) (Except.mapError .network)

/-- The warnings about a deploy that the node took and knows by a hash. -/
def submitWarnings (d : SignedDeploy) (reported : Digest) : List Warning :=
  if reported = d.hash then [] else [.otherHash d.hash reported]

/-- Signs a deploy and submits it. -/
def signAndSubmit (d : Deploy) (signers : List Signer) : NodeAction Digest :=
  match d.sign signers with
  | .ok signed => submit signed
  | .error reason => .ofExcept (.error (.sign reason))

/-! ## Reading -/

/-- What the answer to a query of a named value says, where values are read by `decode`. -/
def namedValueOutcome (path : List String) (decode : CLValue → Except CLValue.Error α) :
    Except QueryError CLValue → Except ClientError α
  | .ok value => (decode value).mapError .decodeMismatch
  | .error .notFound => .error (.notFound path)
  | .error (.failed reason) => .error (.network reason)

/-- Reads the value at a path under the named keys of the contract. -/
def queryNamedValue (c : ContractClient) (path : List String)
    (decode : CLValue → Except CLValue.Error α) : NodeAction α := do
  let address ← NodeAction.ofExcept c.address
  NodeAction.request (.namedValue address.contractHash path) (namedValueOutcome path decode)

/-- The error of a client whose lookup failed. -/
def lookupError : DictionaryError → ClientError
  | .queryFailed reason => .network reason
  | .decodeMismatch reason => .decodeMismatch reason

/-- Looks up an item of a dictionary of the contract. -/
def queryItem (c : ContractClient) (dictionary itemKey : String)
    (decode : CLValue → Except CLValue.Error α) : NodeAction (Lookup α) := do
  let address ← NodeAction.ofExcept c.address
  ExceptT.mk ((Except.mapError lookupError) <$>
    Dictionary.lookup address.contractHash dictionary itemKey decode)

/-- Looks up the item for an identity in a dictionary of the contract. -/
def queryDictionary (c : ContractClient) (dictionary : String) (i : Identity)
    (decode : CLValue → Except CLValue.Error α) : NodeAction (Lookup α) :=
  c.queryItem dictionary i.itemKey decode

end ContractClient

end Mintage
