import Mintage.Json.Reader

/-!
# Errors of nodes

A call of a node fails because nobody answers, because the node answers with an error, or because
the answer makes no sense. A query has one more outcome, that there is no such value. Whether an
error of the node means just that is decided by its code and wording.
-/

namespace Mintage

/-- Why an answer of a node makes no sense. -/
inductive ReplyFault where
  | noResult (method : String)
  | noStateRoot
  /-- The stored value is of another kind than the values of contracts. -/
  | notAValue
  | json (reason : Json.ReadError)

/-- The wording of a fault. -/
def ReplyFault.message : ReplyFault → String
  | .noResult method => "Response to " ++ method ++ " has neither result nor error."
  | .noStateRoot => "Node has no state root hash yet."
  | .notAValue => "The stored value is not a CLValue."
  | .json reason => reason.message

/-- Why a call of a node failed. -/
inductive NodeError where
  /-- There was no answer, or none of the right form. -/
  | callFailed (reason : String)
  | invalidEndpoint (reason : String)
  /-- The node answered with an error. -/
  | reported (code : Int) (message : String) (data : Option Json)
  | unavailable (reason : String)
  | unparsable (fault : ReplyFault)

namespace NodeError

/-- The wording of an error. -/
def message : NodeError → String
  | callFailed reason => "Call failed: " ++ reason
  | invalidEndpoint reason => "Invalid node address `" ++ reason ++ "`."
  | reported code message _ => s!"Node returned error {code}: {message}"
  | unavailable reason => "Node is unavailable: " ++ reason
  | unparsable fault => "Error parsing JSON result: " ++ fault.message

/-- The code of an error in a query of the global state. -/
def queryFailedCode : Int := -32003

/-- The code of the refusal of a deploy. -/
def invalidDeployCode : Int := -32008

/-- Whether a text stands somewhere within another one. -/
def occursIn (text : List Char) : List Char → Bool
  | [] => text.isEmpty
  | c :: cs => text.isPrefixOf (c :: cs) || occursIn text cs

/-- Whether a text says that a value is missing. Upper and lower case count alike; no letter beyond
ASCII has one of the letters looked for as its lower case. -/
def saysNotFound (text : String) : Bool :=
  let cs := text.toList.map Char.toLower
  occursIn "valuenotfound".toList cs || occursIn "not found".toList cs

/-- Whether the node says that the value asked for does not exist. -/
def isNotFound : NodeError → Bool
  | reported code message data =>
    code == queryFailedCode && (saysNotFound message || data.any fun d => saysNotFound d.render)
  | _ => false

/-- Whether the node refused a deploy. To send it again is of no use. -/
def isInvalidDeploy : NodeError → Bool
  | reported code _ _ => code == invalidDeployCode
  | _ => false

end NodeError

/-- Why a query of a node has no value. -/
inductive QueryError where
  | failed (reason : NodeError)
  | notFound

namespace QueryError

/-- The wording of an error. -/
def message : QueryError → String
  | failed reason => "RPC error: " ++ reason.message
  | notFound => "Requested object not found."

/-- Whether the error says that the value does not exist. -/
def isNotFound : QueryError → Bool
  | failed reason => reason.isNotFound
  | notFound => true

/-- The error of a query that the node answered with an error. -/
def ofNode (e : NodeError) : QueryError := if e.isNotFound then notFound else failed e

end QueryError

end Mintage
