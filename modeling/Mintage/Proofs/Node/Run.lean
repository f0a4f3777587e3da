import Mintage.Client
import Mintage.Node.Memory

/-!
# Proofs: what a node in memory goes through

A node in memory is set up by its owner and asked by clients. A run is a list of operations, each of
which is one or the other; what a client does is a dialogue of any length. What is asked and
answered in a run is its record of exchanges.

An answer never touches what the owner has set up. All that it leaves behind is the deploy that it
takes, if it takes one.
-/

namespace Mintage

/-- A request and the answer to it. -/
structure Exchange where
  request : NodeRequest
  answer : request.Answer

/-- The deploy that was taken in an exchange. -/
def Exchange.taken? : Exchange → Option SignedDeploy
  | ⟨.submit d, .ok _⟩ => some d
  | _ => none

/-- What happens to a node in memory. -/
inductive NodeOperation : Type 1 where
  | setNamedValue (contract : Identity) (path : List String) (value : CLValue)
  | putItem (contract : Identity) (dictionary itemKey : String) (value : CLValue)
  | removeItem (contract : Identity) (dictionary itemKey : String)
  | setUnavailable (isUnavailable : Bool)
  /-- A client holds a dialogue with the node. -/
  | converse {α : Type} (dialogue : NodeDialogue α)

namespace MemoryNode

variable {α : Type}

/-! ## Answers -/

theorem answer_namedValue (n : MemoryNode) (contract : Identity) (path : List String) :
    answer (.namedValue contract path) n =
      (n.found (n.namedValues.get? (contract, path)), n) := rfl

theorem answer_dictionaryItem (n : MemoryNode) (contract : Identity) (dictionary itemKey : String) :
    answer (.dictionaryItem contract dictionary itemKey) n =
      (n.found (n.items.get? (itemAddress contract dictionary itemKey)), n) := rfl

theorem found_of_available {n : MemoryNode} (hAvailable : n.isUnavailable = false)
    (value : Option CLValue) : n.found value = value.elim (.error .notFound) .ok := by
  cases value with
  | none => simp [found, hAvailable]
  | some v => simp [found, hAvailable]

theorem found_of_unavailable {n : MemoryNode} (hUnavailable : n.isUnavailable = true)
    (value : Option CLValue) : n.found value = .error (.failed switchedOff) := by
  simp [found, hUnavailable]

/-! ## Dialogues -/

/-- The result of a dialogue with the node, and the node afterwards. -/
def hold (n : MemoryNode) (dialogue : NodeDialogue α) : α × MemoryNode := dialogue.run answer n

/-- What is asked and answered in a dialogue with the node. -/
def exchanges (n : MemoryNode) : NodeDialogue α → List Exchange
  | .done _ => []
  | .ask q next => ⟨q, (answer q n).1⟩ :: (answer q n).2.exchanges (next (answer q n).1)

@[simp] theorem hold_done (n : MemoryNode) (a : α) : n.hold (.done a) = (a, n) := rfl

@[simp] theorem hold_ask (n : MemoryNode) (q : NodeRequest) (next : q.Answer → NodeDialogue α) :
    n.hold (.ask q next) = (answer q n).2.hold (next (answer q n).1) := rfl

/-- An answer leaves nothing behind but the deploy that it takes. -/
theorem answer_node (n : MemoryNode) (q : NodeRequest) :
    (answer q n).2 = { n with
      submitted := n.submitted ++ (Exchange.taken? ⟨q, (answer q n).1⟩).toList } := by
  cases q with
  | submit d =>
    simp only [answer, submit]
    split
    · simp [Exchange.taken?]
    · split
      · simp [Exchange.taken?]
      · simp [Exchange.taken?]
  | namedValue contract path => simp [answer, Exchange.taken?]
  | dictionaryItem contract dictionary itemKey => simp [answer, Exchange.taken?]

/-- A dialogue leaves the deploys behind that are taken in it. -/
theorem hold_node (n : MemoryNode) (dialogue : NodeDialogue α) :
    (n.hold dialogue).2 = { n with
      submitted := n.submitted ++ (n.exchanges dialogue).filterMap Exchange.taken? } := by
  induction dialogue generalizing n with
  | done a => simp [exchanges]
  | ask q next ih =>
    rw [hold_ask, ih, answer_node, exchanges, List.filterMap_cons]
    split
    · rename_i hTaken
      simp [hTaken, answer_node]
    · rename_i d hTaken
      simp [hTaken, answer_node]

/-! ## Runs -/

/-- The node after an operation. -/
def step (n : MemoryNode) : NodeOperation → MemoryNode
  | .setNamedValue contract path value => n.setNamedValue contract path value
  | .putItem contract dictionary itemKey value => n.putItem contract dictionary itemKey value
  | .removeItem contract dictionary itemKey => (n.removeItem contract dictionary itemKey).2
  | .setUnavailable isUnavailable => n.setUnavailable isUnavailable
  | .converse dialogue => (n.hold dialogue).2

/-- What is asked and answered in an operation. -/
def stepExchanges (n : MemoryNode) : NodeOperation → List Exchange
  | .converse dialogue => n.exchanges dialogue
  | _ => []

/-- The node after one operation after the other. -/
def run (n : MemoryNode) : List NodeOperation → MemoryNode
  | [] => n
  | op :: ops => (n.step op).run ops

/-- What is asked and answered in a run. -/
def record (n : MemoryNode) : List NodeOperation → List Exchange
  | [] => []
  | op :: ops => n.stepExchanges op ++ (n.step op).record ops

end MemoryNode

end Mintage
