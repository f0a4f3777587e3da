import Mintage.RuntimeArgs

/-!
# The code that a deploy runs

A deploy runs two items, one that pays and one that does the work. An item is either wasm code that
the deploy brings with it, or an entry point of a stored contract. Empty code that pays means the
standard payment of an amount of motes.
-/

namespace Mintage

/-- Code with its arguments. -/
inductive DeployItem where
  /-- Runs the given wasm. -/
  | moduleBytes (wasm : Bytes) (args : RuntimeArgs)
  /-- Calls an entry point of the contract with a hash. -/
  | storedContract (hash : Block 32) (entryPoint : String) (args : RuntimeArgs)
deriving DecidableEq

namespace DeployItem

/-- The standard payment of an amount of motes. -/
def standardPayment (amount : U512) : DeployItem :=
  moduleBytes [] ⟨[⟨"amount", .of .u512 amount⟩]⟩

/-- The arguments. -/
def args : DeployItem → RuntimeArgs
  | moduleBytes _ args => args
  | storedContract _ _ args => args

/-- The entry point that is called, if the code is a stored contract. -/
def entryPoint? : DeployItem → Option String
  | moduleBytes _ _ => none
  | storedContract _ entryPoint _ => some entryPoint

/-- The binary form: a tag, the code, then the arguments. -/
def encode : DeployItem → Bytes
  | moduleBytes wasm args => 0 :: (Wire.encodeBlob wasm ++ args.encode)
  | storedContract hash entryPoint args =>
    1 :: (hash.bytes ++ (Wire.encodeString entryPoint ++ args.encode))

/-- How wasm is shown: by its length only. -/
def wasmText (wasm : Bytes) : String := s!"ModuleBytes({wasm.length} bytes)"

/-! ## JSON -/

/-- An object with one member, which is named for the sort of code. -/
def toJson : DeployItem → Json
  | moduleBytes wasm args =>
    .obj [("ModuleBytes",
      .obj [("module_bytes", CLValue.hexToJson wasm), ("args", args.toJson)])]
  | storedContract hash entryPoint args =>
    .obj [("StoredContractByHash",
      .obj [("hash", CLValue.hexToJson hash.bytes), ("entry_point", .str entryPoint),
        ("args", args.toJson)])]

/-- Reads a block of 32 bytes in hexadecimal. -/
def readHash : Json.Reader (Block 32) := fun d => do
  let bs ← CLValue.readHex d
  match Block.ofBytes? 32 bs with
  | some hash => return hash
  | none => throw (.refused s!"Expected 32 bytes, but got {bs.length}.")

/-- How to read wasm with its arguments. -/
def moduleBytesRecord : Json.Record DeployItem :=
  moduleBytes <$> .required "module_bytes" CLValue.readHex <*> .required "args" RuntimeArgs.readJson

/-- How to read a call of a stored contract. -/
def storedContractRecord : Json.Record DeployItem :=
  storedContract <$> .required "hash" readHash
    <*> .required "entry_point" Json.Draft.readString
    <*> .required "args" RuntimeArgs.readJson

/-- Reads an object with one member. -/
def readJson : Json.Reader DeployItem := fun d => do
  let (name, content, close) ← d.variant
  let read : Json.Reader DeployItem ←
    match name with
    | "ModuleBytes" =>
      pure (moduleBytesRecord.read "struct variant ExecutableDeployItem::ModuleBytes")
    | "StoredContractByHash" =>
      pure (storedContractRecord.read "struct variant ExecutableDeployItem::StoredContractByHash")
    | _ => throw (.unknownVariant name ["ModuleBytes", "StoredContractByHash"])
  match content with
  | none => throw (.invalidType "unit variant" "struct variant")
  | some content =>
    let item ← read content
    close
    return item

instance : ToJson DeployItem := ⟨toJson⟩

instance : FromJson DeployItem := ⟨readJson⟩

end DeployItem

end Mintage
