import Mintage.Bytes.Utf8

/-!
# The binary form

Deploys, arguments and stored values have one binary form, which is hashed and sent. Numbers of a
fixed width are little-endian; texts, blobs and lists begin with their length in four bytes; an
optional value begins with a byte that says whether it is there.

An encoder returns the bytes of a value. A `Decoder` takes a value off the front of its input and
leaves the rest, so that decoders are put together like the encoders they undo. `Decoder.run` asks
for the whole input to be used.
-/

namespace Mintage.Wire

/-- Why bytes are not the binary form of a value. -/
inductive Error where
  /-- The input ends within a value. -/
  | unexpectedEnd
  /-- The input ends within the digits of a big number. -/
  | unfilled
  /-- Bytes are left over behind the value. -/
  | trailingBytes
  | invalidBool (found : UInt8)
  | invalidOption (found : UInt8)
  | invalidText (fault : Utf8.Error)
  /-- The items of a list have no bytes of their own, so its length could not be checked. -/
  | emptyItems
  | unknownType (tag : UInt8)
  | unknownKey (tag : UInt8)
  | unknownPublicKey (tag : UInt8)
  /-- A number has more bytes than its type. -/
  | tooWide (length : UInt8) (typeName : String)
  /-- A mode has no variant with this number. -/
  | unknownMode (mode : String) (number : UInt8)
  | duplicateArgument (name : String)
deriving DecidableEq

/-- The wording of an error. -/
def Error.message : Error → String
  | .unexpectedEnd => "Unexpected length of input"
  | .unfilled => "failed to fill whole buffer"
  | .trailingBytes => "Not all bytes read"
  | .invalidBool found => s!"Invalid bool representation: {found}"
  | .invalidOption found =>
    s!"Invalid Option representation: {found}. The first byte must be 0 or 1"
  | .invalidText fault => fault.message
  | .emptyItems =>
    "Collections of zero-sized types are not allowed due to deny-of-service concerns on " ++
      "deserialization."
  | .unknownType tag => s!"Unsupported type tag {tag}."
  | .unknownKey tag => s!"Unsupported key tag {tag}."
  | .unknownPublicKey tag => s!"Unsupported public key tag {tag}."
  | .tooWide length typeName => s!"{length} bytes exceed the width of {typeName}."
  | .unknownMode mode number => s!"Unknown {mode} {number}."
  | .duplicateArgument name => "Argument `" ++ name ++ "` is already present."

/-- Takes a value off the front of its input. -/
abbrev Decoder := StateT Bytes (Except Error)

/-- The value that the whole input stands for. -/
def Decoder.run {α : Type} (d : Decoder α) (bs : Bytes) : Except Error α :=
  match d bs with
  | .ok (a, []) => .ok a
  | .ok (_, _ :: _) => .error .trailingBytes
  | .error e => .error e

/-! ## Encoders -/

/-- A number in four bytes. -/
def encodeU32 (n : UInt32) : Bytes := littleEndian 4 n.toNat

/-- A number in eight bytes. -/
def encodeU64 (n : UInt64) : Bytes := littleEndian 8 n.toNat

/-- A truth value. -/
def encodeBool (b : Bool) : Bytes := [if b then 1 else 0]

/-- A length. The program stops where one of `2 ^ 32` or more has to be written. That is left out:
here its low bytes are written, and what a decoder makes of bytes is shown for lengths below. -/
def encodeLength (n : Nat) : Bytes := littleEndian 4 n

/-- A blob, behind its length. -/
def encodeBlob (bs : Bytes) : Bytes := encodeLength bs.length ++ bs

/-- A text, behind the length of its UTF-8 form. -/
def encodeString (s : String) : Bytes := encodeBlob (Utf8.encode s)

/-- A list, behind its length. -/
def encodeList {α : Type} (encode : α → Bytes) (xs : List α) : Bytes :=
  encodeLength xs.length ++ xs.flatMap encode

/-- An optional value, behind a byte that says whether it is there. -/
def encodeOption {α : Type} (encode : α → Bytes) : Option α → Bytes
  | none => [0]
  | some a => 1 :: encode a

/-! ## Decoders -/

/-- Splits a byte string behind its first `n` bytes, if there are so many. -/
def splitBytes? : Nat → Bytes → Option (Bytes × Bytes)
  | 0, bs => some ([], bs)
  | _ + 1, [] => none
  | n + 1, b :: bs => (splitBytes? n bs).map fun (taken, rest) => (b :: taken, rest)

/-- The next byte. -/
def decodeByte : Decoder UInt8
  | [] => .error .unexpectedEnd
  | b :: rest => .ok (b, rest)

/-- The next `n` bytes; `short` is the error if there are fewer. -/
def decodeBytesOr (short : Error) (n : Nat) : Decoder Bytes := fun bs =>
  match splitBytes? n bs with
  | some split => .ok split
  | none => .error short

/-- The next `n` bytes. -/
def decodeBytes (n : Nat) : Decoder Bytes := decodeBytesOr .unexpectedEnd n

/-- The next `n` bytes, as a block. -/
def decodeBlock (n : Nat) : Decoder (Block n) := do
  match Block.ofBytes? n (← decodeBytes n) with
  | some block => return block
  | none => throw .unexpectedEnd

/-- A number in four bytes. -/
def decodeU32 : Decoder UInt32 := do
  return UInt32.ofNat (ofLittleEndian (← decodeBytes 4))

/-- A number in eight bytes. -/
def decodeU64 : Decoder UInt64 := do
  return UInt64.ofNat (ofLittleEndian (← decodeBytes 8))

/-- A truth value: the byte 0 or 1. -/
def decodeBool : Decoder Bool := do
  match ← decodeByte with
  | 0 => return false
  | 1 => return true
  | b => throw (.invalidBool b)

/-- A blob behind its length. -/
def decodeBlob : Decoder Bytes := do
  decodeBytes (← decodeU32).toNat

/-- A text behind its length. -/
def decodeString : Decoder String := do
  match Utf8.decode (← decodeBlob) with
  | .ok s => return s
  | .error fault => throw (.invalidText fault)

/-- A number of values, one behind the other. -/
def decodeMany {α : Type} (decode : Decoder α) : Nat → Decoder (List α)
  | 0 => return []
  | n + 1 => do
    let a ← decode
    let as ← decodeMany decode n
    return a :: as

/-- A list behind its length. -/
def decodeList {α : Type} (decode : Decoder α) : Decoder (List α) := do
  decodeMany decode (← decodeU32).toNat

/-- An optional value. -/
def decodeOption {α : Type} (decode : Decoder α) : Decoder (Option α) := do
  match ← decodeByte with
  | 0 => return none
  | 1 => return some (← decode)
  | b => throw (.invalidOption b)

end Mintage.Wire
