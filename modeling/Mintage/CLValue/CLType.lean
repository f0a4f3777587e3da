import Mintage.Wire
import Mintage.Json.Reader

/-!
# Types of values

Each value that contracts take, store or return is tagged with its type. The binary form of a type
is a tag, behind which the type of the items or the length of a byte array follows. In JSON, plain
types are strings and the others are objects with one member, such as `{"List": "Bool"}`.
-/

namespace Mintage

/-- The type of a value. -/
inductive CLType where
  | bool
  | u8
  | u32
  | u64
  | u256
  | u512
  | unit
  | string
  | key
  | uref
  | option (inner : CLType)
  | list (item : CLType)
  | byteArray (length : UInt32)
  | publicKey
  | any
deriving DecidableEq

namespace CLType

/-- The text of a type. -/
def text : CLType → String
  | bool => "Bool"
  | u8 => "U8"
  | u32 => "U32"
  | u64 => "U64"
  | u256 => "U256"
  | u512 => "U512"
  | unit => "Unit"
  | string => "String"
  | key => "Key"
  | uref => "URef"
  | option inner => "Option<" ++ inner.text ++ ">"
  | list item => "List<" ++ item.text ++ ">"
  | byteArray length => s!"ByteArray[{length}]"
  | publicKey => "PublicKey"
  | any => "Any"

instance : ToString CLType := ⟨text⟩

/-! ## Binary form -/

/-- The binary form of a type. -/
def encode : CLType → Bytes
  | bool => [0]
  | u8 => [3]
  | u32 => [4]
  | u64 => [5]
  | u256 => [7]
  | u512 => [8]
  | unit => [9]
  | string => [10]
  | key => [11]
  | uref => [12]
  | option inner => 13 :: inner.encode
  | list item => 14 :: item.encode
  | byteArray length => 15 :: Wire.encodeU32 length
  | any => [21]
  | publicKey => [22]

/-- Takes a type off the front. -/
def decode : Bytes → Except Wire.Error (CLType × Bytes)
  | [] => .error .unexpectedEnd
  | 0 :: rest => .ok (bool, rest)
  | 3 :: rest => .ok (u8, rest)
  | 4 :: rest => .ok (u32, rest)
  | 5 :: rest => .ok (u64, rest)
  | 7 :: rest => .ok (u256, rest)
  | 8 :: rest => .ok (u512, rest)
  | 9 :: rest => .ok (unit, rest)
  | 10 :: rest => .ok (string, rest)
  | 11 :: rest => .ok (key, rest)
  | 12 :: rest => .ok (uref, rest)
  | 13 :: rest => do
    let (inner, rest) ← decode rest
    return (option inner, rest)
  | 14 :: rest => do
    let (item, rest) ← decode rest
    return (list item, rest)
  | 15 :: rest => do
    let (length, rest) ← Wire.decodeU32 rest
    return (byteArray length, rest)
  | 21 :: rest => .ok (any, rest)
  | 22 :: rest => .ok (publicKey, rest)
  | tag :: _ => .error (.unknownType tag)

/-! ## JSON -/

/-- The types without content, by their names. -/
def plain : List (String × CLType) :=
  [("Bool", bool), ("U8", u8), ("U32", u32), ("U64", u64), ("U256", u256), ("U512", u512),
    ("Unit", unit), ("String", string), ("Key", key), ("URef", uref), ("PublicKey", publicKey),
    ("Any", any)]

/-- The names of all types, in order. -/
def names : List String :=
  ["Bool", "U8", "U32", "U64", "U256", "U512", "Unit", "String", "Key", "URef", "Option", "List",
    "ByteArray", "PublicKey", "Any"]

/-- A plain type as its name, any other as an object with one member. -/
def toJson : CLType → Json
  | option inner => .obj [("Option", inner.toJson)]
  | list item => .obj [("List", item.toJson)]
  | byteArray length => .obj [("ByteArray", .ofNat length.toNat)]
  | t => .str t.text

/-- Reads a type. -/
def readJson : Json.Draft → Except Json.ReadError CLType
  | .obj ((⟨.ok "Option", _⟩, content) :: more) ending => do
    Json.Draft.needAlone more ending
    let inner ← readJson content
    Json.Draft.needSingle more ending
    return option inner
  | .obj ((⟨.ok "List", _⟩, content) :: more) ending => do
    Json.Draft.needAlone more ending
    let item ← readJson content
    Json.Draft.needSingle more ending
    return list item
  | .obj ((⟨.ok "ByteArray", _⟩, content) :: more) ending => do
    Json.Draft.needAlone more ending
    let length ← content.readNat 32
    Json.Draft.needSingle more ending
    return byteArray (UInt32.ofNat length)
  | d => do
    let (name, content, close) ← d.variant
    if ¬ name ∈ names then throw (.unknownVariant name names)
    match plain.lookup name, content with
    | some t, none => return t
    | some t, some .null =>
      close
      return t
    | some _, some content => throw (content.mismatch "unit")
    | none, _ => throw (.invalidType "unit variant" "newtype variant")
termination_by d => sizeOf d

instance : ToJson CLType := ⟨toJson⟩

instance : FromJson CLType := ⟨readJson⟩

end CLType

end Mintage
