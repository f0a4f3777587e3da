import Mintage.CLValue.Shape
import Mintage.Json.Record

/-!
# Typed values

A typed value is the binary form of a value together with its type. `CLValue.of` makes one and
`CLValue.as` reads it back. Reading looks at the type before the bytes, so a value is never taken
for one of another type.
-/

namespace Mintage

/-- A value in binary form, tagged with its type. Nothing says that the bytes suit the type. -/
structure CLValue where
  clType : CLType
  bytes : Bytes
deriving DecidableEq

namespace CLValue

/-- Why a typed value could not be read. -/
inductive Error where
  | decodeMismatch (expected found : CLType)
  | malformed (clType : CLType) (cause : Wire.Error)
  | notAnIdentity (key : Key)
deriving DecidableEq

/-- The wording of an error. -/
def Error.message : Error → String
  | .decodeMismatch expected found =>
    s!"Expected a value of type {expected}, but the value has type {found}."
  | .malformed clType cause => s!"Malformed value of type {clType}: {cause.message}"
  | .notAnIdentity key => s!"Key {key.text} refers to neither an account nor a contract."

/-- The typed value of a value. -/
def of (s : Shape) (x : s.Value) : CLValue := ⟨s.clType, s.encode x⟩

/-- Reads a typed value as a shape. -/
def as (s : Shape) (v : CLValue) : Except Error s.Value :=
  if v.clType ≠ s.clType then .error (.decodeMismatch s.clType v.clType)
  else match s.decode.run v.bytes with
    | .ok x => .ok x
    | .error cause => .error (.malformed s.clType cause)

/-- Reads a typed value as the key of an account or contract. -/
def asIdentity (v : CLValue) : Except Error Identity := do
  let key ← v.as .key
  match key.identity? with
  | some i => return i
  | none => throw (.notAnIdentity key)

/-- The binary form: the bytes as a blob, then the type. -/
def encode (v : CLValue) : Bytes := Wire.encodeBlob v.bytes ++ v.clType.encode

/-- Takes a typed value off the front. -/
def decode : Wire.Decoder CLValue := do
  let bytes ← Wire.decodeBlob
  let clType ← CLType.decode
  return ⟨clType, bytes⟩

/-- Bytes as a hexadecimal string. -/
def hexToJson (bs : Bytes) : Json := .str (Hex.encode bs)

/-- Reads bytes from a hexadecimal string. -/
def readHex : Json.Reader Bytes := fun d => do
  match Hex.decode (← d.readText "A hex string.") with
  | .ok bs => return bs
  | .error fault => throw (.refused fault.message)

/-- Written as an object of type and bytes, with room for a rendering by the node. -/
def toJson (v : CLValue) : Json :=
  .obj [("cl_type", v.clType.toJson), ("bytes", hexToJson v.bytes), ("parsed", .null)]

/-- How to read a typed value. A rendering by the node is not looked at. -/
def record : Json.Record CLValue :=
  mk <$> .required "cl_type" CLType.readJson <*> .required "bytes" readHex

/-- Reads a typed value. -/
def readJson : Json.Reader CLValue := record.read "struct CLValue"

instance : ToJson CLValue := ⟨toJson⟩

instance : FromJson CLValue := ⟨readJson⟩

end CLValue

end Mintage
