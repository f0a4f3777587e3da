import Mintage.Account.PublicKey
import Mintage.CLValue.CLType
import Mintage.Cep78.Mode
import Mintage.Key
import Mintage.Number.Bounded

/-!
# Shapes of typed values

A shape is what a program reads a value as or writes it from. It decides the type that the value is
tagged with, and the binary form. Several shapes can have one type: a mode is stored as a byte.
-/

namespace Mintage

/-- What a program takes a value for. -/
inductive Shape where
  | bool
  | u8
  | u32
  | u64
  | u256
  | u512
  | string
  | key
  | uref
  | publicKey
  /-- An array of so many bytes. -/
  | bytes (length : Nat)
  | mode (m : Cep78.Mode)
  | list (item : Shape)
  | option (inner : Shape)
deriving DecidableEq

namespace Shape

/-- The values of a shape. -/
abbrev Value : Shape → Type
  | bool => Bool
  | u8 => UInt8
  | u32 => UInt32
  | u64 => UInt64
  | u256 => U256
  | u512 => U512
  | string => String
  | key => Key
  | uref => URef
  | publicKey => PublicKey
  | bytes length => Block length
  | mode m => m.Value
  | list item => List item.Value
  | option inner => Option inner.Value

/-- The type that values of the shape are tagged with. -/
def clType : Shape → CLType
  | bool => .bool
  | u8 => .u8
  | u32 => .u32
  | u64 => .u64
  | u256 => .u256
  | u512 => .u512
  | string => .string
  | key => .key
  | uref => .uref
  | publicKey => .publicKey
  | bytes length => .byteArray (UInt32.ofNat length)
  | mode _ => .u8
  | list item => .list item.clType
  | option inner => .option inner.clType

/-- Whether all values have an empty binary form. -/
def isEmpty : Shape → Bool
  | bytes length => length = 0
  | _ => false

/-- The binary form of a value. -/
def encode : (s : Shape) → s.Value → Bytes
  | bool, b => Wire.encodeBool b
  | u8, n => [n]
  | u32, n => Wire.encodeU32 n
  | u64, n => Wire.encodeU64 n
  | u256, n => n.encode
  | u512, n => n.encode
  | string, s => Wire.encodeString s
  | key, k => k.encode
  | uref, u => u.encode
  | publicKey, k => k.encode
  | bytes _, b => b.bytes
  | mode m, v => m.encode v
  | list item, xs => Wire.encodeList item.encode xs
  | option inner, x => Wire.encodeOption inner.encode x

/-- Takes a value off the front. Lists of empty items are refused: their length would cost
nothing. -/
def decode : (s : Shape) → Wire.Decoder s.Value
  | bool => Wire.decodeBool
  | u8 => Wire.decodeByte
  | u32 => Wire.decodeU32
  | u64 => Wire.decodeU64
  | u256 => Bounded.decode
  | u512 => Bounded.decode
  | string => Wire.decodeString
  | key => Key.decode
  | uref => URef.decode
  | publicKey => PublicKey.decode
  | bytes length => Wire.decodeBlock length
  | mode m => m.decode
  | list item => do
    if item.isEmpty then throw .emptyItems
    let length ← Wire.decodeU32
    Wire.decodeMany item.decode length.toNat
  | option inner => Wire.decodeOption inner.decode

end Shape

end Mintage
