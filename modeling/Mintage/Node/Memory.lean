import Mintage.Dictionary.Address
import Mintage.Node.Request

/-!
# A node kept in memory

A `MemoryNode` holds the values that contracts store, and the deploys that were submitted to it.
Deploys are checked and recorded, but not executed. Named values are found by contract and path;
dictionary items by their address, as in the global state, so that nothing but the digest keeps
different items apart.
-/

namespace Mintage

/-- A list of values under keys, with at most one value for each key that was put. -/
abbrev Store (K V : Type) := List (K × V)

namespace Store

variable {K V : Type} [DecidableEq K]

/-- The value under a key. -/
def get? (s : Store K V) (k : K) : Option V := (s.find? fun entry => entry.1 = k).map (·.2)

/-- The store without a key. -/
def erase (s : Store K V) (k : K) : Store K V := s.filter fun entry => entry.1 ≠ k

/-- Puts a value under a key in place of any other. -/
def put (s : Store K V) (k : K) (v : V) : Store K V := (k, v) :: s.erase k

theorem get?_erase (s : Store K V) (k l : K) :
    (s.erase k).get? l = if k = l then none else s.get? l := by
  induction s with
  | nil => simp [erase, get?]
  | cons entry s ih =>
    simp only [erase, get?, List.filter_cons, List.find?_cons] at ih ⊢
    by_cases hk : entry.1 = k <;> by_cases hl : entry.1 = l <;> by_cases hkl : k = l <;> simp_all

theorem get?_put (s : Store K V) (k l : K) (v : V) :
    (s.put k v).get? l = if k = l then some v else s.get? l := by
  have h := get?_erase s k l
  by_cases hkl : k = l
  · simp [put, get?, hkl]
  · simp only [put, get?, List.find?_cons, hkl, decide_false, if_false] at h ⊢
    exact h

end Store

/-- A node kept in memory. -/
structure MemoryNode where
  namedValues : Store (Identity × List String) CLValue := []
  items : Store Digest CLValue := []
  /-- The deploys taken so far, in order. -/
  submitted : List SignedDeploy := []
  /-- Whether the node does not answer. -/
  isUnavailable : Bool := false

namespace MemoryNode

/-- The seed of a dictionary of a contract. On the chain the contract makes it; here it is derived
from the contract and the name of the dictionary. -/
def seed (contract : Identity) (dictionary : String) : URef :=
  ⟨Blake2b.digest (contract.hash.bytes ++ Utf8.encode dictionary), URef.readAddWrite⟩

/-- The address of a dictionary item. -/
def itemAddress (contract : Identity) (dictionary itemKey : String) : Digest :=
  Dictionary.address (seed contract dictionary) itemKey

/-- Puts a value at a path under the named keys of a contract. -/
def setNamedValue (n : MemoryNode) (contract : Identity) (path : List String) (value : CLValue) :
    MemoryNode :=
  { n with namedValues := n.namedValues.put (contract, path) value }

/-- Puts an item into a dictionary of a contract. -/
def putItem (n : MemoryNode) (contract : Identity) (dictionary itemKey : String)
    (value : CLValue) : MemoryNode :=
  { n with items := n.items.put (itemAddress contract dictionary itemKey) value }

/-- Removes an item from a dictionary, and tells whether there was one. -/
def removeItem (n : MemoryNode) (contract : Identity) (dictionary itemKey : String) :
    Bool × MemoryNode :=
  let address := itemAddress contract dictionary itemKey
  ((n.items.get? address).isSome, { n with items := n.items.erase address })

/-- Makes the node answer or not. -/
def setUnavailable (n : MemoryNode) (isUnavailable : Bool) : MemoryNode := { n with isUnavailable }

/-- The error of a node that does not answer. -/
def switchedOff : NodeError := .unavailable "in-memory node switched off"

/-- The answer to a query that has or has not found a value. -/
def found (n : MemoryNode) (value : Option CLValue) : Except QueryError CLValue :=
  if n.isUnavailable then .error (.failed switchedOff)
  else match value with
    | some v => .ok v
    | none => .error .notFound

/-- Takes a deploy that is valid. -/
def submit (n : MemoryNode) (d : SignedDeploy) : Except NodeError Digest × MemoryNode :=
  if n.isUnavailable then (.error switchedOff, n)
  else match d.verify with
    | .ok () => (.ok d.hash, { n with submitted := n.submitted ++ [d] })
    | .error e =>
      (.error (.reported NodeError.invalidDeployCode ("invalid deploy: " ++ e.message) none), n)

/-- Answers a request. -/
def answer : (q : NodeRequest) → StateM MemoryNode q.Answer
  | .submit d => fun n => n.submit d
  | .namedValue contract path => fun n => (n.found (n.namedValues.get? (contract, path)), n)
  | .dictionaryItem contract dictionary itemKey => fun n =>
    (n.found (n.items.get? (itemAddress contract dictionary itemKey)), n)

end MemoryNode

end Mintage
