import Mintage.CommandLine.Parameters
import Mintage.Minter.Args
import Mintage.Minter.Whitelist
import Mintage.Network.Config

/-!
# Commands

What can be asked for on the command line, and how the words of the command line say it.
-/

namespace Mintage.CommandLine

/-- A command for the minter. Files are given by their paths. -/
inductive MinterCommand where
  | install (wasm args : String)
  | upgrade (wasm : String) (args : Minter.UpgradeArgs)
  | setConfig (update : Minter.ConfigUpdate)
  | freeMint (args : Minter.FreeMintArgs)
  /-- Mints for the present fee; for the sender, if no owner is given. -/
  | nativeMint (wasm : String) (owner : Option Identity) (count : UInt64)
  /-- Changes the whitelist, or replaces it. -/
  | setWhitelist (reset : Bool) (entries : List Minter.WhitelistEntry)
  | showState
  | isWhitelisted (account : Identity)
  | mintCost (count : UInt64)

/-- A command for the collection. -/
inductive CollectionCommand where
  | install (wasm args : String)
  | setVariables (file : String)
  | showInfo
  | isWhitelisted (identity : Identity)
  | balanceOf (owner : Identity)
  | token (index : UInt64)

/-- A command for the fungible token. -/
inductive TokenCommand where
  | install (wasm args : String)
  | mint (owner : Identity) (amount : U256)
  | approve (spender : Identity) (amount : U256)
  | balanceOf (owner : Identity)

/-- A command. -/
inductive Command where
  | minter (c : MinterCommand)
  | collection (c : CollectionCommand)
  | token (c : TokenCommand)

/-- All that the command line says. -/
structure Invocation where
  network : Network
  /-- The file with the configuration. -/
  config : Option String
  /-- The file with the secret key of the sender. -/
  key : Option String
  /-- Whether deploys are printed instead of submitted. -/
  dryRun : Bool
  command : Command

/-! ## Values -/

/-- Takes a text as it is. -/
def readText (text : String) : Except String String := .ok text

/-- Reads the hash of an account or contract. -/
def readIdentity (text : String) : Except String Identity :=
  (Identity.parse text).mapError Identity.Error.message

/-- Reads an amount of tokens. -/
def readAmount (text : String) : Except String U256 :=
  (Bounded.parse text).mapError Bounded.Error.message

/-- Reads a truth value. -/
def readBool : String → Except String Bool
  | "true" => .ok true
  | "false" => .ok false
  | _ => .error "provided string was not `true` or `false`"

/-- The number behind `n`, whose digits follow. The first fault counts: a character that is no
digit, or a digit that makes the number too large. -/
def readDigits (n : Nat) : List Char → Except String UInt64
  | [] => .ok (UInt64.ofNat n)
  | c :: cs =>
    if ¬ c.isDigit then .error "invalid digit found in string"
    else
      let n := 10 * n + (c.toNat - '0'.toNat)
      if n < 2 ^ 64 then readDigits n cs else .error "number too large to fit in target type"

/-- Reads a number of 64 bits, before which a plus sign may stand. -/
def readNumber (text : String) : Except String UInt64 :=
  match text.toList with
  | [] => .error "cannot parse integer from empty string"
  | ['+'] => .error "invalid digit found in string"
  | '+' :: cs | cs => readDigits 0 cs

/-- Reads an entry of the whitelist, such as `account=false`. Without a value it is `true`. -/
def readEntry (text : String) : Except String Minter.WhitelistEntry := do
  let account := text.toList.takeWhile (· ≠ '=')
  let value ←
    match text.toList.drop account.length with
    | _ :: value => (readBool (String.ofList value)).mapError fun _ => "Value must be a bool."
    | [] => pure true
  return ⟨← readIdentity (String.ofList account), value⟩

/-! ## Parameters -/

open Parameters

/-- Install code and a file with its arguments. -/
def installParameters {α : Type} (install : (wasm args : String) → α) : Parameters α :=
  install <$> required "wasm" {} readText <*> required "args" {} readText

/-- How many tokens; one, if nothing is said. -/
def countParameter : Parameters UInt64 := required "count" { fallback := "1" } readNumber

/-- The commands for the minter. -/
def minterCommands : Commands MinterCommand := [
  ("install", (installParameters .install).parse),
  ("upgrade",
    ((fun wasm name disableOld => MinterCommand.upgrade wasm ⟨name, disableOld⟩) <$>
      required "wasm" {} readText
      <*> required "name" {} readText
      <*> flag "disable-old").parse),
  ("set-config",
    ((fun admin fundManager mintFee onlyWhitelist allowMint maxMint =>
        .setConfig ⟨admin, fundManager, mintFee, onlyWhitelist, allowMint, maxMint⟩) <$>
      optional "admin" readIdentity
      <*> optional "fund-manager" readIdentity
      <*> optional "mint-fee" readAmount
      <*> optional "only-whitelist" readBool
      <*> optional "allow-mint" readBool
      <*> optional "max-mint" readNumber).parse),
  ("free-mint",
    ((fun owner count => MinterCommand.freeMint ⟨owner, count⟩) <$>
      required "owner" {} readIdentity <*> countParameter).parse),
  ("native-mint",
    (MinterCommand.nativeMint <$> required "wasm" {} readText
      <*> optional "owner" readIdentity
      <*> countParameter).parse),
  ("set-whitelist",
    (MinterCommand.setWhitelist <$> flag "reset" <*> words "entries" readEntry).parse),
  ("show", (none MinterCommand.showState).parse),
  ("is-whitelisted", (MinterCommand.isWhitelisted <$> word "account" readIdentity).parse),
  ("mint-cost", (MinterCommand.mintCost <$> word "count" readNumber).parse)]

/-- The commands for the collection. -/
def collectionCommands : Commands CollectionCommand := [
  ("install", (installParameters .install).parse),
  ("set-variables",
    (CollectionCommand.setVariables <$> required "variables" {} readText).parse),
  ("show", (none CollectionCommand.showInfo).parse),
  ("is-whitelisted", (CollectionCommand.isWhitelisted <$> word "identity" readIdentity).parse),
  ("balance-of", (CollectionCommand.balanceOf <$> word "owner" readIdentity).parse),
  ("token", (CollectionCommand.token <$> word "index" readNumber).parse)]

/-- The commands for the fungible token. -/
def tokenCommands : Commands TokenCommand := [
  ("install", (installParameters .install).parse),
  ("mint",
    (TokenCommand.mint <$> required "owner" {} readIdentity
      <*> required "amount" {} readAmount).parse),
  ("approve",
    (TokenCommand.approve <$> required "spender" {} readIdentity
      <*> required "amount" {} readAmount).parse),
  ("balance-of", (TokenCommand.balanceOf <$> word "owner" readIdentity).parse)]

/-- The commands by the contract that they are for. -/
def commands : Commands Command := [
  ("minter", parseCommand (none Command.minter) minterCommands),
  ("cep78", parseCommand (none Command.collection) collectionCommands),
  ("cep18", parseCommand (none Command.token) tokenCommands)]

/-- Reads the words of the command line. The name `network` of the surroundings is checked as well;
it counts if the words give none. -/
def Invocation.parse (network : Option String) (words : List String) :
    Except UsageError Invocation :=
  parseCommand
    (Invocation.mk <$>
      required "network" { inherited := network }
        (fun name => (Network.parse name).mapError ConfigError.message)
      <*> optional "config" readText
      <*> optional "key" readText
      <*> flag "dry-run")
    commands words

end Mintage.CommandLine
