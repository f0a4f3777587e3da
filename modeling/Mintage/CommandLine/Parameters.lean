/-!
# Parameters of a command

The words behind a command are options with values, flags, and words that stand for themselves.
`Parameters α` says which of them a command takes and how an `α` is made of them. Parameters are put
together by `<$>` and `<*>` from single ones.

The words are first sorted into what was found (`Grammar.scan`). Then required parameters have to be
there, and after that each value is read.
-/

namespace Mintage.CommandLine

/-- Why words are no command. -/
inductive UsageError where
  | unexpectedWord (word : String)
  | missingValue (parameter : String)
  | missingParameter (parameter : String)
  | repeatedParameter (parameter : String)
  | missingCommand
  | invalidValue (parameter reason : String)
  | helpAskedFor
  | versionAskedFor
deriving DecidableEq

/-- The wording of an error. -/
def UsageError.message : UsageError → String
  | unexpectedWord word => "Found argument '" ++ word ++ "' which wasn't expected"
  | missingValue parameter => "The argument '" ++ parameter ++ "' requires a value"
  | missingParameter parameter => "The required argument '" ++ parameter ++ "' was not provided"
  | repeatedParameter parameter => "The argument '" ++ parameter ++ "' was provided more than once"
  | missingCommand => "A subcommand is required"
  | invalidValue parameter reason => "Invalid value for '" ++ parameter ++ "': " ++ reason
  | helpAskedFor => "mintage [--config <file>] [--key <file>] [--dry-run] --network <network> " ++
      "(minter | cep78 | cep18) <command>"
  | versionAskedFor => "mintage 0.1.0"

/-- The words that a command takes. -/
structure Grammar where
  /-- Options, each of which has a value. -/
  options : List String := []
  flags : List String := []
  /-- The parameter for words that stand for themselves, and whether it takes several of them. -/
  words : Option (String × Bool) := none
  /-- Names of commands; what follows one of them is left to it. -/
  commands : List String := []

/-- What was found among the words. -/
structure Found where
  /-- Options in order; a value may be missing. -/
  options : List (String × Option String) := []
  flags : List String := []
  words : List String := []
  /-- The command, and the words behind it. -/
  command : Option (String × List String) := none

/-- Notes that no value follows an option that waits for one. -/
def Found.giveUp (found : Found) : (pending : Option String) → Found
  | some name => { found with options := found.options ++ [(name, none)] }
  | none => found

/-- The name and the value of a word such as `--name=value`. -/
def splitLong (word : String) : String × Option String :=
  let body := word.toList.dropWhile (· = '-')
  let name := body.takeWhile (· ≠ '=')
  let value :=
    if name.length < body.length then
      some (String.ofList ((body.drop name.length).dropWhile (· = '=')))
    else none
  (String.ofList name, value)

namespace Grammar

/-- Takes a word that stands for itself. -/
def takeWord (g : Grammar) (found : Found) (word : String) : Except UsageError Found :=
  match g.words with
  | some (_, several) =>
    if several ∨ found.words.isEmpty then .ok { found with words := found.words ++ [word] }
    else .error (.unexpectedWord word)
  | none => .error (.unexpectedWord word)

/-- What is known behind a word: an option that still needs its value, and what was found. -/
abbrev Progress := Option String × Found

/-- Takes a word that begins with two dashes. -/
def takeLong (g : Grammar) (found : Found) (word : String) : Except UsageError Progress :=
  let (name, value) := splitLong word
  if g.options.contains name then
    match value with
    | some v => .ok (none, { found with options := found.options ++ [(name, some v)] })
    | none => .ok (some name, found)
  else if g.flags.contains name then
    .ok (none, { found with flags := found.flags ++ [name] })
  else if name = "help" then .error .helpAskedFor
  else if name = "version" then .error .versionAskedFor
  else .error (.unexpectedWord word)

/-- Whether a word cannot be the value of an option: it begins with a dash and goes on. -/
def isDashed (word : String) : Bool :=
  match word.toList with
  | '-' :: _ :: _ => true
  | _ => false

/-- Takes a word that begins with a dash. -/
def takeDashed (g : Grammar) (found : Found) (word : String) : Except UsageError Progress :=
  match word.toList with
  | '-' :: '-' :: _ => g.takeLong found word
  | '-' :: 'h' :: _ => .error .helpAskedFor
  | '-' :: 'V' :: _ => .error .versionAskedFor
  | _ => .error (.unexpectedWord word)

/-- Sorts words. The option `pending` waits for its value; a dashed word is none. Behind two dashes
every word stands for itself. -/
def scan (g : Grammar) (pending : Option String) (found : Found) :
    List String → Except UsageError Found
  | [] => .ok (found.giveUp pending)
  | "--" :: words => words.foldlM g.takeWord (found.giveUp pending)
  | word :: words =>
    if isDashed word then
      match g.takeDashed (found.giveUp pending) word with
      | .ok (pending, found) => g.scan pending found words
      | .error e => .error e
    else match pending with
      | some name =>
        g.scan none { found with options := found.options ++ [(name, some word)] } words
      | none =>
        if g.commands.contains word then .ok { found with command := some (word, words) }
        else if word = "help" ∧ ¬ g.commands.isEmpty then .error .helpAskedFor
        else match g.takeWord found word with
          | .ok found => g.scan none found words
          | .error e => .error e

end Grammar

/-- Parameters of which an `α` is made. -/
structure Parameters (α : Type) where
  grammar : Grammar
  /-- What is wrong if a parameter or its value is required and not there. -/
  lacking? : Found → Option UsageError
  read : Found → Except UsageError α

namespace Parameters

variable {α β : Type}

/-- Reads a value of a parameter. -/
def readValue (parameter : String) (read : String → Except String α) (text : String) :
    Except UsageError α :=
  (read text).mapError (.invalidValue parameter)

/-- How an option is shown. -/
def shown (name : String) : String := s!"--{name} <{name}>"

/-- The occurrences of an option. -/
def occurrences (name : String) (found : Found) : List (Option String) :=
  (found.options.filter (·.1 = name)).map (·.2)

/-- Where the values of an option come from besides the words. -/
structure Source where
  /-- A value from the surroundings, which follows all others. -/
  inherited : Option String := .none
  /-- The value of an option that has no other. -/
  fallback : Option String := .none

/-- The values of an option in order, the first of which counts. -/
def values (name : String) (source : Source) (found : Found) : List String :=
  match (occurrences name found).filterMap id ++ source.inherited.toList with
  | [] => source.fallback.toList
  | texts => texts

/-- What is wrong with an option that occurs without a value. -/
def emptyOption? (name : String) (source : Source) (found : Found) : Option UsageError :=
  if ¬ (occurrences name found).isEmpty ∧ (values name source found).isEmpty then
    some (.missingValue (shown name))
  else .none

/-- Reads all values of an option, which may occur once. -/
def readOption (name : String) (source : Source) (read : String → Except String α)
    (found : Found) : Except UsageError (Option α) := do
  let results ← (values name source found).mapM (readValue (shown name) read)
  if 1 < (occurrences name found).length then throw (.repeatedParameter (shown name))
  return results.head?

/-- An option that may be absent. -/
def optional (name : String) (read : String → Except String α) : Parameters (Option α) where
  grammar := { options := [name] }
  lacking? := emptyOption? name {}
  read := readOption name {} read

/-- An option that has to have a value. -/
def required (name : String) (source : Source) (read : String → Except String α) :
    Parameters α where
  grammar := { options := [name] }
  lacking? := fun found =>
    if (occurrences name found).isEmpty ∧ (values name source found).isEmpty then
      some (.missingParameter (shown name))
    else emptyOption? name source found
  read := fun found => do
    match ← readOption name source read found with
    | some a => return a
    | .none => throw (.missingValue (shown name))

/-- A flag. -/
def flag (name : String) : Parameters Bool where
  grammar := { flags := [name] }
  lacking? := fun _ => .none
  read := fun found =>
    match (found.flags.filter (· = name)).length with
    | 0 => .ok false
    | 1 => .ok true
    | _ => .error (.repeatedParameter s!"--{name}")

/-- A word that stands for itself. -/
def word (name : String) (read : String → Except String α) : Parameters α where
  grammar := { words := some (name, false) }
  lacking? := fun found =>
    if found.words.isEmpty then some (.missingParameter s!"<{name}>") else .none
  read := fun found =>
    match found.words with
    | text :: _ => readValue s!"<{name}>" read text
    | [] => .error (.missingParameter s!"<{name}>")

/-- Any number of words that stand for themselves. -/
def words (name : String) (read : String → Except String α) : Parameters (List α) where
  grammar := { words := some (name, true) }
  lacking? := fun _ => .none
  read := fun found => found.words.mapM (readValue s!"<{name}>..." read)

/-- No parameters. -/
def none (a : α) : Parameters α where
  grammar := {}
  lacking? := fun _ => .none
  read := fun _ => .ok a

instance : Functor Parameters where
  map f p := { p with read := fun found => f <$> p.read found }

instance : Seq Parameters where
  seq f p :=
    let p := p ()
    { grammar :=
        { options := f.grammar.options ++ p.grammar.options
          flags := f.grammar.flags ++ p.grammar.flags
          words := f.grammar.words.or p.grammar.words
          commands := f.grammar.commands ++ p.grammar.commands }
      lacking? := fun found => (f.lacking? found).or (p.lacking? found)
      read := fun found => do
        let g ← f.read found
        let a ← p.read found
        return g a }

/-- Reads what was found. -/
def readFound (p : Parameters α) (found : Found) : Except UsageError α :=
  match p.lacking? found with
  | some e => .error e
  | .none => p.read found

/-- Reads words. -/
def parse (p : Parameters α) (words : List String) : Except UsageError α := do
  p.readFound (← p.grammar.scan .none {} words)

/-- Commands by name, and how the words behind each are read. -/
abbrev Commands (α : Type) := List (String × (List String → Except UsageError α))

/-- Reads words up to a command, then those behind it, and at last what was found in front of it. -/
def parseCommand (p : Parameters (α → β)) (commands : Commands α) (words : List String) :
    Except UsageError β := do
  let found ← { p.grammar with commands := commands.map (·.1) : Grammar }.scan .none {} words
  match found.command with
  | .none => throw .missingCommand
  | some (name, rest) =>
    match commands.lookup name with
    | .none => throw (.unexpectedWord name)
    | some parse => do
      let a ← parse rest
      let f ← p.readFound found
      return f a

end Parameters

end Mintage.CommandLine
