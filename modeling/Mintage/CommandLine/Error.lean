import Mintage.Client.Error

/-!
# Errors on the terminal

A command that fails prints one error and what caused it, the outermost cause first.
-/

namespace Mintage

/-- What caused the error. -/
def Identity.Error.causes : Identity.Error → List String
  | .invalidHex _ fault => [fault.message]
  | .wrongPrefix .. | .wrongLength .. => []

/-- What caused the error. -/
def CLValue.Error.causes : CLValue.Error → List String
  | .malformed _ cause => [cause.message]
  | .decodeMismatch .. | .notAnIdentity _ => []

/-- What caused the error. -/
def KeyError.causes : KeyError → List String
  | .notHex fault => [fault.message]
  | .unreadable reason => [reason.message]
  | _ => []

/-- What caused the error. -/
def ConfigError.causes : ConfigError → List String
  | .malformedAddress reason => reason.message :: reason.causes
  | .unreadable reason => [reason.message]
  | .notJson reason => [reason.message]
  | .unknownNetwork _ | .missingApiKey _ | .invalidPayment _ => []

/-- What caused the error. -/
def NodeError.causes : NodeError → List String
  | .callFailed reason => [reason]
  | .unparsable fault => [fault.message]
  | .invalidEndpoint _ | .reported .. | .unavailable _ => []

/-- What caused the error. -/
def ClientError.causes : ClientError → List String
  | .argument reason => [reason.message]
  | .malformedIdentity reason => reason.message :: reason.causes
  | .decodeMismatch reason => reason.message :: reason.causes
  | .network reason => reason.message :: reason.causes
  | .sign reason => [reason.message]
  | .config reason => reason.message :: reason.causes
  | .unbound | .alreadyBound .. | .notFound _ | .invalidWhitelist .. | .costOverflow _ => []

namespace CommandLine

/-- Why a command failed. -/
inductive CommandError where
  | missingKey
  | unusableKey (path : String) (reason : KeyError)
  | unusableConfig (path : String) (reason : ConfigError)
  | missingVariable (name : String) (network : Network)
  | config (reason : ConfigError)
  | node (reason : NodeError)
  | unreadable (path : String) (reason : File.Error)
  | notJson (path : String) (reason : Json.ReadError)
  | unreadableWasm (path : String) (reason : File.Error)
  /-- An update of the configuration that changes nothing. -/
  | nothingToSet
  | client (reason : ClientError)
  /-- The time of a deploy that shall be printed has no text. -/
  | timeOutOfRange

namespace CommandError

/-- The wording of an error. -/
def message : CommandError → String
  | missingKey => "This command needs the sender's key, given with --key."
  | unusableKey path _ => s!"Could not load key {path}."
  | unusableConfig path _ => s!"Could not load configuration {path}."
  | missingVariable name network => s!"{name} must be set for {network}."
  | config reason => reason.message
  | node reason => reason.message
  | unreadable path _ => s!"Could not read {path}."
  | notJson path _ => s!"Could not parse {path}."
  | unreadableWasm path _ => s!"Could not read wasm {path}."
  | nothingToSet => "No configuration field given."
  | client reason => reason.message
  | timeOutOfRange => Timestamp.outOfRange

/-- What caused the error. -/
def causes : CommandError → List String
  | unusableKey _ reason => reason.message :: reason.causes
  | unusableConfig _ reason => reason.message :: reason.causes
  | missingVariable .. => ["environment variable not found"]
  | config reason => reason.causes
  | node reason => reason.causes
  | unreadable _ reason => [reason.message]
  | notJson _ reason => [reason.message]
  | unreadableWasm _ reason => [reason.message]
  | client reason => reason.causes
  | missingKey | nothingToSet | timeOutOfRange => []

/-- A text whose further lines are indented by `width` blanks. -/
def indent (width : Nat) (text : String) : String :=
  ("\n" ++ "".pushn ' ' width).intercalate (text.splitOn "\n")

/-- The error and its causes as text. Causes are numbered if there are several; a cause of several
lines is indented as a whole. -/
def text (e : CommandError) : String :=
  "Error: " ++ e.message ++
    match e.causes with
    | [] => ""
    | [cause] => "\n\nCaused by:\n    " ++ indent 4 cause
    | causes =>
      "\n\nCaused by:" ++ String.join (causes.mapIdx fun i cause => s!"\n    {i}: {indent 7 cause}")

end CommandError

end CommandLine

end Mintage
