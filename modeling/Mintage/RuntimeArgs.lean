import Mintage.CLValue

/-!
# Named arguments

Arguments of entry points and install code are typed values under names. Their order is part of the
binary form, hence of the hash of a deploy. Inserting and decoding refuse a name that is already
there. Reading from JSON takes the arguments as they are given.
-/

namespace Mintage

/-- A named argument. -/
structure NamedArg where
  name : String
  value : CLValue
deriving DecidableEq

namespace NamedArg

/-- A value under a name. -/
def of (name : String) (s : Shape) (x : s.Value) : NamedArg := ⟨name, .of s x⟩

/-- A value under a name, if there is one. -/
def ofOption (name : String) (s : Shape) (x : Option s.Value) : List NamedArg :=
  (x.map (of name s)).toList

/-- The binary form: the name, then the value. -/
def encode (a : NamedArg) : Bytes := Wire.encodeString a.name ++ a.value.encode

/-- Takes an argument off the front. -/
def decode : Wire.Decoder NamedArg := do
  let name ← Wire.decodeString
  let value ← CLValue.decode
  return ⟨name, value⟩

/-- Written as an array of the name and the value. -/
def toJson (a : NamedArg) : Json := .arr [.str a.name, a.value.toJson]

/-- Reads an array of a name and a value. -/
def readJson : Json.Reader NamedArg := fun d => do
  let (name, value) ← Json.Draft.readPair Json.Draft.readString CLValue.readJson d
  return ⟨name, value⟩

end NamedArg

/-- A sequence of named arguments. -/
structure RuntimeArgs where
  args : List NamedArg
deriving DecidableEq

namespace RuntimeArgs

/-- An argument has the name of an earlier one. -/
structure DuplicateArgument where
  name : String
deriving DecidableEq

/-- The wording of the error. -/
def DuplicateArgument.message (e : DuplicateArgument) : String :=
  "Argument `" ++ e.name ++ "` is already present."

/-- No arguments. -/
def empty : RuntimeArgs := ⟨[]⟩

/-- The names, in order. -/
def names (a : RuntimeArgs) : List String := a.args.map (·.name)

/-- The number of arguments. -/
def size (a : RuntimeArgs) : Nat := a.args.length

/-- Whether there are no arguments. -/
def isEmpty (a : RuntimeArgs) : Bool := a.args.isEmpty

/-- The value under a name; the first one, if there are several. -/
def get? (a : RuntimeArgs) (name : String) : Option CLValue :=
  (a.args.find? fun arg => arg.name = name).map (·.value)

/-- Whether there is a value under a name. -/
def contains (a : RuntimeArgs) (name : String) : Bool := (a.get? name).isSome

/-- A change in place. It may fail; what it has changed until then stays changed. -/
abbrev Change := ExceptT DuplicateArgument (StateM RuntimeArgs)

namespace Change

/-- Appends a typed value under a new name. -/
def insertValue (name : String) (value : CLValue) : Change Unit := do
  if (← get).contains name then throw ⟨name⟩
  modify fun a => ⟨a.args ++ [⟨name, value⟩]⟩

/-- Appends a value under a new name. -/
def insert (name : String) (s : Shape) (x : s.Value) : Change Unit := insertValue name (.of s x)

/-- Appends a value under a new name, if there is one. -/
def insertIfSome (name : String) (s : Shape) (x : Option s.Value) : Change Unit :=
  match x with
  | some x => insert name s x
  | none => pure ()

/-- The arguments after a change that succeeds. -/
def apply (c : Change Unit) (a : RuntimeArgs) : Except DuplicateArgument RuntimeArgs :=
  match c.run.run a with
  | (.ok (), b) => .ok b
  | (.error e, _) => .error e

end Change

/-- The arguments with a typed value under a new name behind them. -/
def insertValue (a : RuntimeArgs) (name : String) (value : CLValue) :
    Except DuplicateArgument RuntimeArgs :=
  (Change.insertValue name value).apply a

/-- The arguments with a value under a new name behind them. -/
def insert (a : RuntimeArgs) (name : String) (s : Shape) (x : s.Value) :
    Except DuplicateArgument RuntimeArgs :=
  (Change.insert name s x).apply a

/-- The arguments with a value under a new name behind them, if there is one. -/
def insertIfSome (a : RuntimeArgs) (name : String) (s : Shape) (x : Option s.Value) :
    Except DuplicateArgument RuntimeArgs :=
  (Change.insertIfSome name s x).apply a

/-- The binary form: the arguments as a list. -/
def encode (a : RuntimeArgs) : Bytes := Wire.encodeList NamedArg.encode a.args

/-- Inserts arguments one after the other. -/
def insertAll (a : RuntimeArgs) (args : List NamedArg) : Except DuplicateArgument RuntimeArgs :=
  args.foldlM (fun a arg => a.insertValue arg.name arg.value) a

/-- The arguments of a list, whose names have to differ. -/
def ofList (args : List NamedArg) : Except DuplicateArgument RuntimeArgs := empty.insertAll args

/-- Takes arguments off the front; each name may occur once. -/
def decode : Wire.Decoder RuntimeArgs := do
  let args ← Wire.decodeList NamedArg.decode
  match ofList args with
  | .ok a => return a
  | .error e => throw (.duplicateArgument e.name)

/-- Written as an array of arguments. -/
def toJson (a : RuntimeArgs) : Json := .arr (a.args.map NamedArg.toJson)

/-- Reads an array of arguments. -/
def readJson : Json.Reader RuntimeArgs := fun d => mk <$> Json.Draft.readList NamedArg.readJson d

instance : ToJson RuntimeArgs := ⟨toJson⟩

instance : FromJson RuntimeArgs := ⟨readJson⟩

end RuntimeArgs

end Mintage
