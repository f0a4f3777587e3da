import Mintage.Abort
import Mintage.Json.Record
import Mintage.Node.Request
import Mintage.Url

/-!
# Requests over JSON-RPC

A node on the network is asked by posting JSON to its address. A request carries a number, the name
of a method, and parameters; the answer carries a result or an error. `JsonRpc.answer` turns each
request of a client into such calls: an item of a dictionary takes two, one for the present state of
the chain and one for the item in that state.
-/

namespace Mintage

/-- What came back from a server. -/
structure HttpReply where
  status : Nat
  body : Bytes

namespace JsonRpc

/-- Checks the address of a node. -/
def checkAddress (address : String) : Except NodeError Unit :=
  match Url.check address with
  | .ok () => .ok ()
  | .error fault => .error (.invalidEndpoint (address ++ ": " ++ fault.message))

/-- Posts of JSON. Each is answered by a reply, or by the reason why there is none. -/
abbrev Posts := Dialogue Json fun _ => Except String HttpReply

/-- Calls of a node, on the way to which the program may stop; the state is the number of the next
one. -/
abbrev Calls := StateT Nat (ExceptT Abort Posts)

/-- The number of the first call. -/
def firstId : Nat := 1

/-- The body of a call. -/
def request (id : Nat) (method : String) (params : Json) : Json :=
  .obj [("jsonrpc", .str "2.0"), ("id", .ofNat id), ("method", .str method), ("params", params)]

/-- An error that the node reports. -/
structure ReportedError where
  code : Int
  message : String
  data : Option Json

/-- How to read a reported error. -/
def ReportedError.record : Json.Record ReportedError :=
  mk <$> .required "code" (Json.Draft.readInt 64)
    <*> .required "message" Json.Draft.readString
    <*> .optional "data" Json.Draft.readAny

/-- The body of an answer. -/
structure Response (α : Type) where
  result : Option α
  error : Option ReportedError

/-- Reads the body of an answer. -/
def Response.readJson {α : Type} (read : Json.Reader α) : Json.Reader (Response α) :=
  let readError := ReportedError.record.read "struct RpcResponseError"
  let record : Json.Record (Response α) :=
    mk <$> .optional "result" read <*> .optional "error" readError
  record.read "struct RpcResponse"

/-- What an answer says. A reported error counts even if there is a result as well. -/
def Response.outcome {α : Type} (method : String) (r : Response α) : Except NodeError α :=
  match r.error, r.result with
  | some e, _ => .error (.reported e.code e.message e.data)
  | none, some a => .ok a
  | none, none => .error (.unparsable (.noResult method))

/-- What a reply to a call says. -/
def outcome {α : Type} (method : String) (read : Json.Reader α) :
    Except String HttpReply → Except NodeError α
  | .error reason => .error (.callFailed reason)
  | .ok reply =>
    if 400 ≤ reply.status ∧ reply.status < 600 then
      .error (.callFailed s!"HTTP status {reply.status}")
    else match Json.readBytes (Response.readJson read) reply.body with
      | .error e => .error (.callFailed e.message)
      | .ok r => r.outcome method

/-- Calls a method. -/
def call {α : Type} (method : String) (params : Json) (read : Json.Reader α) :
    Calls (Except NodeError α) := fun id =>
  ExceptT.mk (.ask (request id method params) fun reply =>
    .done (.ok (outcome method read reply, id + 1)))

/-! ## Results -/

/-- Reads the hash of a deploy that was taken. -/
def readDeployHash : Json.Reader Digest :=
  (.required "deploy_hash" Digest.readJson : Json.Record _).read "struct PutDeployResult"

/-- Reads the hash of the state. -/
def readStateRoot : Json.Reader (Option String) :=
  (.optional "state_root_hash" Json.Draft.readString : Json.Record _).read
    "struct StateRootHashResult"

/-- Reads a stored value of any kind. -/
def readStoredValue : Json.Reader Json :=
  (.required "stored_value" Json.Draft.readAny : Json.Record _).read "struct StoredValueResult"

/-- The typed value within a stored value. -/
def typedValue (stored : Json) : Except QueryError CLValue :=
  match stored.get? "CLValue" with
  | none => .error (.failed (.unparsable .notAValue))
  | some value =>
    match CLValue.readJson value.toDraft with
    | .ok v => .ok v
    | .error reason => .error (.failed (.unparsable (.json reason.ofValue)))

/-- The typed value that a query found. -/
def queried : Except NodeError Json → Except QueryError CLValue
  | .ok stored => typedValue stored
  | .error e => .error (.ofNode e)

/-! ## Methods -/

/-- The hash of the present state. -/
def stateRootHash : Calls (Except NodeError String) := do
  match ← call "chain_get_state_root_hash" (.obj []) readStateRoot with
  | .ok (some hash) => return .ok hash
  | .ok none => return .error (.unparsable .noStateRoot)
  | .error e => return .error e

/-- Submits the JSON of a deploy. One whose time has no text has no JSON, and stops the program. -/
def submit : Option Json → Calls (Except NodeError Digest)
  | none => fun _ => throw (.unwritable Timestamp.outOfRange)
  | some deploy => call "account_put_deploy" (.obj [("deploy", deploy)]) readDeployHash

/-- Answers a request by calls. -/
def answer : (q : NodeRequest) → Calls q.Answer
  | .submit d => submit d.toJson?
  | .namedValue contract path => do
    let params := Json.obj [("state_identifier", .null), ("key", .str contract.text),
      ("path", .arr (path.map .str))]
    return queried (← call "query_global_state" params readStoredValue)
  | .dictionaryItem contract dictionary itemKey => do
    match ← stateRootHash with
    | .error e => return .error (.failed e)
    | .ok root =>
      let name := Json.obj [("key", .str contract.text), ("dictionary_name", .str dictionary),
        ("dictionary_item_key", .str itemKey)]
      let params := Json.obj [("state_root_hash", .str root),
        ("dictionary_identifier", .obj [("ContractNamedKey", name)])]
      return queried (← call "state_get_dictionary_item" params readStoredValue)

end JsonRpc

end Mintage
