import Mintage.Cep18.Token
import Mintage.Cep78.Collection
import Mintage.CommandLine.Command
import Mintage.CommandLine.Error
import Mintage.Minter
import Mintage.Node.JsonRpc

/-!
# Running a command

A run is a dialogue with files, environment variables, the clock and a node. A command that queries
ends with a text. A command that writes ends with a deploy: how it is built does not depend on what
becomes of it, which is either to be printed or to be submitted.
-/

namespace Mintage.CommandLine

/-- What a run asks of its surroundings. -/
inductive Question where
  /-- The content of a file. -/
  | file (path : String)
  /-- The value of an environment variable. -/
  | environment (name : String)
  /-- The present time. -/
  | time
  /-- A request to the node at an address. -/
  | node (address : String) (request : NodeRequest)

/-- The answer to a question. -/
abbrev Question.Answer : Question → Type
  | file _ => File
  | environment _ => Option String
  | time => Timestamp
  | node _ request => request.Answer

/-- A dialogue with the surroundings. -/
abbrev Session := Dialogue Question Question.Answer

/-- A part of a run. -/
abbrev Action := ExceptT CommandError Session

namespace Action

/-- The action of a single question. -/
def question (q : Question) : Action q.Answer := ExceptT.mk (.ask q fun a => .done (.ok a))

/-- Asks the node at an address. -/
def askNode (address : String) (request : NodeRequest) : Session request.Answer :=
  .ask (.node address request) .done

/-- The action that asks nothing. -/
def ofExcept {α ε : Type} (wrap : ε → CommandError) (e : Except ε α) : Action α :=
  ExceptT.mk (.done (e.mapError wrap))

/-- Holds an action of a client with the node at an address. -/
def ofNode {α : Type} (address : String) (a : NodeAction α) : Action α :=
  ExceptT.mk (Except.mapError .client <$> Dialogue.run (askNode address) a.run)

end Action

/-- What a command comes to. -/
inductive Outcome where
  /-- An answer to be printed. -/
  | answer (text : String)
  /-- A deploy to be submitted, and what is said about it. -/
  | deploy (signed : SignedDeploy) (warnings : List Warning)

/-! ## Files -/

/-- The configuration: that of a file, or else what is known of the network. -/
def loadConfig (i : Invocation) : Action NetworkConfig := do
  match i.config with
  | some path =>
    let file ← Action.question (.file path)
    Action.ofExcept (.unusableConfig path) (NetworkConfig.ofFile file)
  | none =>
    let apiKey ←
      match i.network.apiKeyVariable? with
      | none => pure none
      | some name => do
        match ← Action.question (.environment name) with
        | some value => pure (some value)
        | none => throw (.missingVariable name i.network)
    Action.ofExcept .config (NetworkConfig.forNetwork i.network apiKey)

/-- The secret key of the sender. -/
def loadKey (i : Invocation) : Action SecretKey := do
  match i.key with
  | none => throw .missingKey
  | some path =>
    let file ← Action.question (.file path)
    Action.ofExcept (.unusableKey path) (SecretKey.ofPemFile file)

/-- The value in a JSON file. -/
def loadJson {α : Type} [FromJson α] (path : String) : Action α := do
  let file ← Action.question (.file path)
  let bytes ← Action.ofExcept (.unreadable path) file
  Action.ofExcept (.notJson path) (Json.readBytes FromJson.readJson bytes)

/-- The wasm in a file. -/
def loadWasm (path : String) : Action Bytes := do
  let file ← Action.question (.file path)
  Action.ofExcept (.unreadableWasm path) file

/-! ## Commands -/

/-- The deploy that is built at the present time. -/
def build (write : Timestamp → Except ClientError SignedDeploy) (warnings : List Warning := []) :
    Action Outcome := do
  let now ← Action.question .time
  return .deploy (← Action.ofExcept .client (write now)) warnings

/-- Runs a command for the minter. -/
def runMinter (i : Invocation) (address : String) (m : Minter) :
    MinterCommand → Action Outcome
  | .install wasm args => do
    let key ← loadKey i
    let args ← loadJson args
    let wasm ← loadWasm wasm
    build fun now => m.install now wasm args [key.signer]
  | .upgrade wasm args => do
    let key ← loadKey i
    let wasm ← loadWasm wasm
    build fun now => m.upgrade now wasm args [key.signer]
  | .setConfig update => do
    if update.isEmpty then throw .nothingToSet
    let key ← loadKey i
    build fun now => m.setConfig now update [key.signer]
  | .freeMint args => do
    let key ← loadKey i
    build fun now => m.freeMint now args [key.signer]
  | .nativeMint wasm owner count => do
    let key ← loadKey i
    let owner := owner.getD key.publicKey.identity
    let args ← Action.ofNode address (m.nativeMintArgs owner count)
    let wasm ← loadWasm wasm
    build fun now => m.nativeMint now wasm args [key.signer]
  | .setWhitelist reset entries => do
    let key ← loadKey i
    build fun now =>
      if reset then m.resetWhitelist now entries [key.signer]
      else m.setWhitelist now entries [key.signer]
  | .showState => do
    return .answer (← Action.ofNode address m.state).toJson.pretty
  | .isWhitelisted account => do
    return .answer (toString (← Action.ofNode address (m.isWhitelisted account)))
  | .mintCost count => do
    return .answer (toString (← Action.ofNode address (m.mintCost count)))

/-- What is printed about a token: owner and metadata, or null where there is none. -/
def tokenJson (token : Cep78.TokenIdentifier) (owner : Lookup Identity)
    (metadata : Lookup String) : Json :=
  let orNull (j : Option Json) : Json := j.getD .null
  .obj [("metadata", orNull (metadata.found?.map .str)),
    ("owner", orNull (owner.found?.map Identity.toJson)), ("token", .str token.itemKey)]

/-- Runs a command for the collection. -/
def runCollection (i : Invocation) (address : String) (c : Cep78.Collection) :
    CollectionCommand → Action Outcome
  | .install wasm args => do
    let key ← loadKey i
    let args ← loadJson args
    let wasm ← loadWasm wasm
    build fun now => c.install now wasm args [key.signer]
  | .setVariables file => do
    let key ← loadKey i
    let v ← loadJson file
    build (fun now => c.setVariables now v [key.signer]) (c.setVariablesWarnings v)
  | .showInfo => do
    return .answer (← Action.ofNode address c.info).toJson.pretty
  | .isWhitelisted identity => do
    return .answer (toString (← Action.ofNode address (c.isContractWhitelisted identity)))
  | .balanceOf owner => do
    return .answer (toString (← Action.ofNode address (c.balanceOf owner)))
  | .token index => do
    let token := Cep78.TokenIdentifier.index index
    let info := tokenJson token <$> Snapshot.mk (c.ownerOf token) <*> .mk (c.metadataOf token)
    return .answer (← Action.ofNode address info.action).pretty

/-- Runs a command for the fungible token. -/
def runToken (i : Invocation) (address : String) (t : Cep18.Token) :
    TokenCommand → Action Outcome
  | .install wasm args => do
    let key ← loadKey i
    let args ← loadJson args
    let wasm ← loadWasm wasm
    build fun now => t.install now wasm args [key.signer]
  | .mint owner amount => do
    let key ← loadKey i
    build fun now => t.mint now owner amount [key.signer]
  | .approve spender amount => do
    let key ← loadKey i
    build fun now => t.approve now spender amount [key.signer]
  | .balanceOf owner => do
    return .answer (toString (← Action.ofNode address (t.balanceOf owner)))

/-- Runs a command, up to what becomes of its deploy. -/
def runCommand (i : Invocation) (config : NetworkConfig) : Action Outcome :=
  match i.command with
  | .minter command => runMinter i config.nodeAddress (.ofConfig config) command
  | .collection command => runCollection i config.nodeAddress (.ofConfig config) command
  | .token command => runToken i config.nodeAddress (.ofConfig config) command

/-! ## Runs -/

/-- What is printed at the end of a run. -/
structure Report where
  text : String
  warnings : List Warning := []

/-- Prints a deploy or submits it. -/
def finish (i : Invocation) (address : String) : Outcome → Action Report
  | .answer text => return { text }
  | .deploy signed warnings => do
    if i.dryRun then
      match signed.toJson? with
      | some j => return { text := j.pretty, warnings }
      | none => throw .timeOutOfRange
    else
      let hash ← Action.ofNode address (ContractClient.submit signed)
      return {
        text := "Deploy " ++ hash.text ++ " submitted."
        warnings := warnings ++ ContractClient.submitWarnings signed hash }

/-- Runs what the command line says. -/
def run (i : Invocation) : Action Report := do
  let config ← loadConfig i
  Action.ofExcept .node (JsonRpc.checkAddress config.nodeAddress)
  finish i config.nodeAddress (← runCommand i config)

/-- How a program ends. -/
inductive Ending where
  | done (report : Report)
  | misused (reason : UsageError)
  | failed (reason : CommandError)

namespace Ending

/-- The exit code. Help that was asked for is no failure. -/
def code : Ending → Nat
  | done _ | misused .helpAskedFor | misused .versionAskedFor => 0
  | misused _ | failed _ => 1

/-- What is printed to standard output. -/
def output : Ending → String
  | done report => report.text
  | misused .helpAskedFor => UsageError.helpAskedFor.message
  | misused .versionAskedFor => UsageError.versionAskedFor.message
  | misused _ | failed _ => ""

/-- What is printed to standard error, line by line. -/
def complaints : Ending → List String
  | done report => report.warnings.map Warning.message
  | misused .helpAskedFor | misused .versionAskedFor => []
  | misused reason => ["error: " ++ reason.message]
  | failed reason => [reason.text]

end Ending

/-- Runs the program with the words of its command line. -/
def program (words : List String) : Session Ending := do
  let network ← (.ask (.environment "NETWORK") .done : Session (Option String))
  match Invocation.parse network words with
  | .error reason => return .misused reason
  | .ok i =>
    match ← (run i).run with
    | .ok report => return .done report
    | .error reason => return .failed reason

end Mintage.CommandLine
